import Docket.Proofs.Store.Reading
/-!
How a write ends, whatever a store holds.

Nothing is assumed here of the tables of a store: they need not be exact, and a stored version need
not be readable. Still a write is only done when everything exists that it asks for, it tells of the
ids that are missing and of no others, and one that is left undone leaves the store as it was
(`Engine.write_end`).
-/

namespace Docket

open Contents

/-- The first cause against a write, in the order in which every engine looks for one. -/
def firstRefusal? (known insertAllowed : Bool) (claim : Option WriteConflict)
    (lacking : List DocumentId) (aliasRefusal : Option Refusal) : Option Refusal :=
  if !known && !insertAllowed then some .notExists
  else
    match claim with
    | some cause => some (.conflict cause)
    | none =>
        match lacking with
        | [] => aliasRefusal
        | ids => some (.missing ids)

theorem elim_firstRefusal? {β : Type} (known insertAllowed : Bool) (claim : Option WriteConflict)
    (lacking : List DocumentId) (aliasRefusal : Option Refusal) (free : β) (refuse : Refusal → β) :
    (firstRefusal? known insertAllowed claim lacking aliasRefusal).elim free refuse
      = if !known && !insertAllowed then refuse .notExists
        else
          match claim with
          | some cause => refuse (.conflict cause)
          | none =>
              match lacking with
              | [] => aliasRefusal.elim free refuse
              | ids => refuse (.missing ids) := by
  unfold firstRefusal?
  split
  · rfl
  · cases claim with
    | some cause => rfl
    | none =>
        cases lacking with
        | nil => rfl
        | cons id rest => rfl

theorem map_conflict_ne_missing (conflict : Option WriteConflict) (ids : List DocumentId) :
    conflict.map Refusal.conflict ≠ some (.missing ids) := by
  cases conflict with
  | none => simp
  | some cause => simp

section Ends

variable {σ : Type} (existence : Table DocumentId DocumentId)

inductive WriteEnd (write : DocumentWrite) (insertAllowed : Bool) (before : σ) :
    Applied × σ → Prop where
  | missing (lacking : absent existence write.enforcedRefs ≠ []) :
      WriteEnd write insertAllowed before
        (.refused (.missing (absent existence write.enforcedRefs)), before)
  | refused {cause : Refusal} (other : ∀ ids, cause ≠ .missing ids) :
      WriteEnd write insertAllowed before (.refused cause, before)
  | inserted {next : σ} (allowed : insertAllowed = true)
      (found : absent existence write.enforcedRefs = []) :
      WriteEnd write insertAllowed before (.inserted, next)
  | updated {next : σ} (found : absent existence write.enforcedRefs = []) :
      WriteEnd write insertAllowed before (.updated, next)

variable {existence} {write : DocumentWrite} {insertAllowed : Bool} {before next : σ}

namespace WriteEnd

theorem map {τ : Type} (named : σ → τ) {result : Applied × σ}
    (ended : WriteEnd existence write insertAllowed before result) :
    WriteEnd existence write insertAllowed (named before) (result.map id named) := by
  cases ended with
  | missing lacking => exact .missing lacking
  | refused other => exact .refused other
  | inserted allowed found => exact .inserted allowed found
  | updated found => exact .updated found

variable {known : Bool} {claim : Option WriteConflict} {aliasRefusal : Option Refusal}

theorem of_refusal {cause : Refusal} (other : ∀ ids, aliasRefusal ≠ some (.missing ids))
    (first : firstRefusal? known insertAllowed claim (absent existence write.enforcedRefs)
      aliasRefusal = some cause) :
    WriteEnd existence write insertAllowed before (.refused cause, before) := by
  unfold firstRefusal? at first
  split at first
  · obtain rfl := Option.some.inj first
    exact .refused (by simp)
  · cases claim with
    | some claimed =>
        obtain rfl := Option.some.inj first
        exact .refused (by simp)
    | none =>
        cases lacking : absent existence write.enforcedRefs with
        | nil =>
            rw [lacking] at first
            apply WriteEnd.refused
            rintro ids rfl
            exact other ids first
        | cons id rest =>
            simp only [lacking] at first
            obtain rfl := Option.some.inj first
            rw [← lacking]
            exact .missing (by simp [lacking])

theorem of_none
    (free : firstRefusal? known insertAllowed claim (absent existence write.enforcedRefs)
      aliasRefusal = none) :
    WriteEnd existence write insertAllowed before
      (if known then .updated else .inserted, next) := by
  unfold firstRefusal? at free
  split at free
  · simp at free
  · next allowed =>
      cases claim with
      | some claimed => simp at free
      | none =>
          cases found : absent existence write.enforcedRefs with
          | cons id rest => simp [found] at free
          | nil =>
              cases known with
              | true => exact .updated found
              | false => exact .inserted (by simpa using allowed) found

end WriteEnd

end Ends

namespace MemoryStore

theorem refusal?_eq_elim (store : MemoryStore) (write : DocumentWrite) (insertAllowed : Bool) :
    store.refusal? write insertAllowed
      = (firstRefusal? (store.documents.contains write.document.id) insertAllowed
          (store.claimedElsewhere? write.document.existenceIds write.document.id)
          (absent store.existence write.enforcedRefs)
          (((store.documents.get? write.document.id).bind fun old =>
            store.referencedAlias? (old.droppedAliases write.document) write.document.id).map
              .conflict)).elim none some := by
  rw [elim_firstRefusal?]
  simp only [refusal?, Table.contains, Option.not_isSome, missing_eq]
  cases (store.documents.get? write.document.id).bind _ with
  | none => rfl
  | some cause => rfl

theorem write_end (store : MemoryStore) (write : DocumentWrite) (insertAllowed : Bool) :
    WriteEnd store.existence write insertAllowed store (store.write write insertAllowed) := by
  rw [MemoryStore.write, refusal?_eq_elim]
  generalize first : firstRefusal? _ _ _ _ _ = refusal
  cases refusal with
  | some cause => exact .of_refusal (map_conflict_ne_missing _) first
  | none => exact .of_none first

end MemoryStore

namespace KeyValueStore

theorem referencedAlias?_ne_missing (store : KeyValueStore) (owner : DocumentId)
    (dropped ids : List DocumentId) : store.referencedAlias? owner dropped ≠ some (.missing ids) := by
  induction dropped with
  | nil => simp [referencedAlias?]
  | cons id rest ih =>
      unfold referencedAlias?
      split
      · simp
      · exact ih
      · simp

theorem check_eq_elim (store : KeyValueStore) (write : DocumentWrite) (insertAllowed : Bool)
    {old : Option Document} (read : store.load write.document.id = .ok old) :
    store.check write insertAllowed
      = (firstRefusal? old.isSome insertAllowed
          (store.claimedElsewhere? write.document.existenceIds write.document.id)
          (absent store.existence write.enforcedRefs)
          (store.referencedAlias? write.document.id
            ((old.map fun old => old.droppedAliases write.document).getD []))).elim
              (.ok old) .error := by
  rw [elim_firstRefusal?]
  simp only [check, read, Option.not_isSome, missing_eq]
  cases store.referencedAlias? write.document.id _ with
  | none => rfl
  | some cause => rfl

theorem write_end (store : KeyValueStore) (write : DocumentWrite) (insertAllowed : Bool) :
    WriteEnd store.existence write insertAllowed store (store.write write insertAllowed) := by
  unfold KeyValueStore.write
  cases read : store.load write.document.id with
  | error cause =>
      simp only [check, read]
      exact .refused (by simp)
  | ok old =>
      rw [check_eq_elim store write insertAllowed read]
      generalize first : firstRefusal? _ _ _ _ _ = refusal
      cases refusal with
      | some cause => exact .of_refusal (store.referencedAlias?_ne_missing _ _) first
      | none => exact .of_none first

end KeyValueStore

namespace RelationalStore

theorem check_eq_elim (store : RelationalStore) (write : DocumentWrite) (insertAllowed : Bool)
    {old : Option Document} (read : store.load write.document.id = .ok old) :
    store.check write insertAllowed
      = (firstRefusal? old.isSome insertAllowed
          (store.claimedElsewhere? write.document.existenceIds write.document.id)
          (absent store.existence write.enforcedRefs)
          ((old.bind fun old => store.referencedAlias? (old.droppedAliases write.document)
            write.document.id).map .conflict)).elim (.ok old) .error := by
  rw [elim_firstRefusal?]
  simp only [check, read, Option.not_isSome, missing_eq]
  cases old.bind _ with
  | none => rfl
  | some cause => rfl

theorem write_end (store : RelationalStore) (write : DocumentWrite) (insertAllowed : Bool) :
    WriteEnd store.existence write insertAllowed store (store.write write insertAllowed) := by
  unfold RelationalStore.write
  cases read : store.load write.document.id with
  | error cause =>
      simp only [check, read]
      exact .refused (by simp)
  | ok old =>
      rw [check_eq_elim store write insertAllowed read]
      generalize first : firstRefusal? _ _ _ _ _ = refusal
      cases refusal with
      | some cause => exact .of_refusal (map_conflict_ne_missing _) first
      | none =>
          simp only [Option.elim_none]
          -- A write that passed every check can still list one existence id twice.
          split
          · exact .of_none first
          · exact .refused (by simp)

end RelationalStore

namespace Engine

def write (write : DocumentWrite) (insertAllowed : Bool) : Engine → Applied × Engine
  | memory store => (store.write write insertAllowed).map id memory
  | keyValue store => (store.write write insertAllowed).map id keyValue
  | relational store => (store.write write insertAllowed).map id relational

theorem write_end (write : DocumentWrite) (insertAllowed : Bool) (engine : Engine) :
    WriteEnd engine.existence write insertAllowed engine (engine.write write insertAllowed) := by
  cases engine with
  | memory store => exact (store.write_end write insertAllowed).map memory
  | keyValue store => exact (store.write_end write insertAllowed).map keyValue
  | relational store => exact (store.write_end write insertAllowed).map relational

theorem write_step {engine : Engine} {contents : Contents} (held : engine.Holds contents)
    (write : DocumentWrite) (insertAllowed : Bool) :
    WriteStep Holds contents write insertAllowed engine (engine.write write insertAllowed) := by
  cases engine with
  | memory store =>
      have step := MemoryStore.write_step (memory_holds.mp held) write insertAllowed
      exact step.map memory memory_holds.mpr
  | keyValue store =>
      have step := KeyValueStore.write_step (keyValue_holds.mp held) write insertAllowed
      exact step.map keyValue keyValue_holds.mpr
  | relational store =>
      have step := RelationalStore.write_step (relational_holds.mp held) write insertAllowed
      exact step.map relational relational_holds.mpr

theorem accepts_of_write {engine next : Engine} {contents : Contents} (held : engine.Holds contents)
    {write : DocumentWrite} {insertAllowed : Bool} {applied : Applied}
    (written : engine.write write insertAllowed = (applied, next))
    (succeeded : ∀ cause, applied ≠ .refused cause) :
    contents.Accepts write ∧ next.Holds (contents.put write.document) := by
  have step := write_step held write insertAllowed
  rw [written] at step
  cases step with
  | refused cause => exact absurd rfl (succeeded cause)
  | inserted _ _ accepts after => exact ⟨accepts, after⟩
  | updated _ accepts after => exact ⟨accepts, after⟩

theorem kind_write (write : DocumentWrite) (insertAllowed : Bool) (engine : Engine) :
    (engine.write write insertAllowed).2.kind = engine.kind := by
  cases engine with
  | memory store => rfl
  | keyValue store => rfl
  | relational store => rfl

theorem upsert_eq (write : DocumentWrite) (engine : Engine) :
    DocumentStore.upsert write engine
      = ((engine.write write true).1.upsertOutcome, (engine.write write true).2) := by
  cases engine with
  | memory store => rfl
  | keyValue store => rfl
  | relational store => rfl

theorem update_eq (write : DocumentWrite) (engine : Engine) :
    DocumentStore.update write engine
      = ((engine.write write false).1.updateOutcome, (engine.write write false).2) := by
  cases engine with
  | memory store => rfl
  | keyValue store => rfl
  | relational store => rfl

theorem findExisting_eq (ids : List DocumentId) (engine : Engine) :
    DocumentStore.findExisting ids engine
      = (.ok (sortedIds (ids.filter engine.existence.contains)), engine) := by
  cases engine with
  | memory store => rfl
  | keyValue store => rfl
  | relational store =>
      change (Except.ok (store.existing ids), relational store) = _
      rw [RelationalStore.existing_eq]
      rfl

theorem get_unchanged (id : DocumentId) (engine : Engine) :
    (DocumentStore.get id engine).2 = engine := by
  cases engine with
  | memory store => rfl
  | keyValue store => rfl
  | relational store => rfl

theorem query_unchanged (index : SearchIndex) (resource : Resource) (filters : Filters)
    (window : Pagination) (engine : Engine) :
    (DocumentStore.query index resource filters window engine).2 = engine := by
  cases engine with
  | memory store => rfl
  | keyValue store => rfl
  | relational store => rfl

end Engine

end Docket
