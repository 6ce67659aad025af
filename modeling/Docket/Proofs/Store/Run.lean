import Docket.Proofs.Store.Contents
/-!
Runs of a store.

A run performs calls one after another and gathers the answers. The answer tells what a call
changed, so calls and answers alone give the contents that the store is to hold afterwards
(`Contents.afterRun`). `WriteStep` and `DeleteStep` list all that a write and a delete may do;
an engine whose steps are of these kinds holds the contents after every run (`run_holds`).
-/

namespace Docket

inductive Call where
  | upsert (write : DocumentWrite)
  | update (write : DocumentWrite)
  | get (id : DocumentId)
  | delete (id : DocumentId) (force : Bool)
  | findExisting (ids : List DocumentId)
  | scan (bound : Option DocumentId) (limit : UInt64)

inductive Answer where
  | upserted (outcome : UpsertOutcome)
  | updated (outcome : UpdateOutcome)
  | got (outcome : GetOutcome)
  | deleted (outcome : DeleteOutcome)
  | found (ids : Except StoreError (List DocumentId))
  | scanned (documents : Except StoreError (List Document))
  deriving DecidableEq

inductive Change where
  | wrote (write : DocumentWrite)
  | erased (id : DocumentId) (force : Bool)
  deriving DecidableEq

namespace Change

def target : Change → DocumentId
  | .wrote write => write.document.id
  | .erased id _ => id

def isForced : Change → Bool
  | .wrote _ => false
  | .erased _ force => force

end Change

namespace Call

variable {σ : Type} [DocumentStore σ]

def perform (call : Call) (store : σ) : Answer × σ :=
  match call with
  | .upsert write => (DocumentStore.upsert write store).map .upserted id
  | .update write => (DocumentStore.update write store).map .updated id
  | .get key => (DocumentStore.get key store).map .got id
  | .delete key force => (DocumentStore.delete key force store).map .deleted id
  | .findExisting ids => (DocumentStore.findExisting ids store).map .found id
  | .scan bound limit => (DocumentStore.scan bound limit store).map .scanned id

def change? : Call → Answer → Option Change
  | .upsert write, .upserted .insertSuccess => some (.wrote write)
  | .upsert write, .upserted .updateSuccess => some (.wrote write)
  | .update write, .updated .success => some (.wrote write)
  | .delete id force, .deleted (.success _) => some (.erased id force)
  | _, _ => none

def target? : Call → Option DocumentId
  | .upsert write | .update write => some write.document.id
  | .delete id _ => some id
  | .get _ | .findExisting _ | .scan _ _ => none

def isForced : Call → Bool
  | .delete _ force => force
  | _ => false

def write? : Call → Option DocumentWrite
  | .upsert write | .update write => some write
  | _ => none

theorem change?_eq_some {call : Call} {answer : Answer} {change : Change}
    (told : call.change? answer = some change) :
    call.target? = some change.target ∧ call.isForced = change.isForced := by
  unfold change? at told
  split at told
  · obtain rfl := Option.some.inj told
    exact ⟨rfl, rfl⟩
  · obtain rfl := Option.some.inj told
    exact ⟨rfl, rfl⟩
  · obtain rfl := Option.some.inj told
    exact ⟨rfl, rfl⟩
  · obtain rfl := Option.some.inj told
    exact ⟨rfl, rfl⟩
  · simp at told

theorem write?_eq_some {call : Call} {answer : Answer} {write : DocumentWrite}
    (told : call.change? answer = some (.wrote write)) : call.write? = some write := by
  unfold change? at told
  split at told
  · simpa [write?] using told
  · simpa [write?] using told
  · simpa [write?] using told
  · simp at told
  · simp at told

def run : List Call → σ → List Answer × σ
  | [], store => ([], store)
  | call :: rest, store =>
      let (answer, next) := call.perform store
      let (answers, final) := run rest next
      (answer :: answers, final)

theorem run_append (calls more : List Call) (store : σ) :
    run (calls ++ more) store
      = let (answers, reached) := run calls store
        let (others, final) := run more reached
        (answers ++ others, final) := by
  induction calls generalizing store with
  | nil => rfl
  | cons call rest ih => simp only [List.cons_append, run, ih]

theorem run_concat (calls : List Call) (call : Call) (store : σ) :
    run (calls ++ [call]) store
      = let (answers, reached) := run calls store
        let (answer, final) := call.perform reached
        (answers ++ [answer], final) :=
  run_append calls [call] store

theorem length_run (calls : List Call) (store : σ) : (run calls store).1.length = calls.length := by
  induction calls generalizing store with
  | nil => rfl
  | cons first rest ih => simp [run, ih]

end Call

namespace Contents

def afterChange (contents : Contents) : Option Change → Contents
  | some (.wrote write) => contents.put write.document
  | some (.erased id _) => contents.erase id
  | none => contents

theorem forall_afterChange {contents : Contents} (holds : Document → Prop)
    (kept : ∀ new old, holds new → holds (Document.keepingCreator new old))
    (all : ∀ id document, contents.get? id = some document → holds document)
    {change : Option Change} (written : ∀ write, change = some (.wrote write) → holds write.document)
    (id : DocumentId) (document : Document)
    (found : (contents.afterChange change).get? id = some document) : holds document := by
  cases change with
  | none => exact all id document found
  | some change =>
      cases change with
      | wrote write =>
          rw [afterChange, get?_put] at found
          split at found
          · obtain rfl := Option.some.inj found
            exact kept _ _ (written write rfl)
          · exact all id document found
      | erased gone force =>
          rw [afterChange, Table.get?_erase] at found
          split at found
          · simp at found
          · exact all id document found

theorem size_afterChange_le (contents : Contents) (change : Option Change) :
    (contents.afterChange change).size ≤ contents.size + 1 := by
  cases change with
  | none => exact Nat.le_succ _
  | some change =>
      cases change with
      | wrote write => exact Table.size_insert_le _ _ _
      | erased gone force => exact (Table.size_erase_le _ _).trans (Nat.le_succ _)

def afterRun (contents : Contents) : List Call → List Answer → Contents
  | call :: calls, answer :: answers =>
      (contents.afterChange (call.change? answer)).afterRun calls answers
  | _, _ => contents

theorem afterRun_concat (contents : Contents) {calls : List Call} {answers : List Answer}
    (paired : answers.length = calls.length) (call : Call) (answer : Answer) :
    contents.afterRun (calls ++ [call]) (answers ++ [answer])
      = (contents.afterRun calls answers).afterChange (call.change? answer) := by
  induction calls generalizing contents answers with
  | nil =>
      obtain rfl := List.eq_nil_of_length_eq_zero paired
      rfl
  | cons first rest ih =>
      cases answers with
      | nil => simp at paired
      | cons told others => exact ih _ (by simpa using paired)

def Allows (contents : Contents) : Change → Prop
  | .wrote write => contents.Accepts write
  | .erased id force => force = false → contents.Releases id

end Contents

def DocumentId.numbered (n : UInt8) : DocumentId :=
  ⟨n.toNat, Nat.lt_trans n.toNat_lt (by decide)⟩

/-- A document of which only its ids and references matter. -/
def Document.bare (id : DocumentId) (refs aliasIds : List DocumentId) : Document :=
  { (default : Document) with
    id := id, outRefs := refs.map fun ref => ⟨ref, false⟩, aliasIds := aliasIds }

section Steps

variable {σ : Type} (holds : σ → Contents → Prop) (contents : Contents)

inductive WriteStep (write : DocumentWrite) (insertAllowed : Bool) (before : σ) :
    Applied × σ → Prop where
  | refused (cause : Refusal) : WriteStep write insertAllowed before (.refused cause, before)
  | inserted {next : σ} (allowed : insertAllowed = true)
      (absent : contents.get? write.document.id = none) (accepts : contents.Accepts write)
      (held : holds next (contents.put write.document)) :
      WriteStep write insertAllowed before (.inserted, next)
  | updated {next : σ} {old : Document} (present : contents.get? write.document.id = some old)
      (accepts : contents.Accepts write) (held : holds next (contents.put write.document)) :
      WriteStep write insertAllowed before (.updated, next)

inductive DeleteStep (id : DocumentId) (force : Bool) (before : σ) :
    DeleteOutcome × σ → Prop where
  | kept {outcome : DeleteOutcome} (failed : ∀ document, outcome ≠ .success document) :
      DeleteStep id force before (outcome, before)
  | erased {next : σ} {stored : Document} (document : Document)
      (present : contents.get? id = some stored)
      (released : force = false → contents.Releases id)
      (held : holds next (contents.erase id)) :
      DeleteStep id force before (.success document, next)

structure Step (call : Call) (result : Answer × σ) : Prop where
  held : holds result.2 (contents.afterChange (call.change? result.1))
  allowed : ∀ change, call.change? result.1 = some change → contents.Allows change

variable {holds contents}

theorem Step.unchanged {call : Call} {answer : Answer} {store : σ}
    (quiet : call.change? answer = none) (held : holds store contents) :
    Step holds contents call (answer, store) where
  held := by simpa [quiet, Contents.afterChange] using held
  allowed change told := by simp [quiet] at told

theorem WriteStep.upsert {write : DocumentWrite} {before : σ} {result : Applied × σ}
    (held : holds before contents)
    (step : WriteStep holds contents write true before result) :
    Step holds contents (.upsert write) (.upserted result.1.upsertOutcome, result.2) := by
  cases step with
  | refused cause => cases cause <;> exact Step.unchanged rfl held
  | inserted _ _ accepts stored =>
      exact ⟨stored, fun _ told => Option.some.inj told ▸ accepts⟩
  | updated _ accepts stored =>
      exact ⟨stored, fun _ told => Option.some.inj told ▸ accepts⟩

theorem WriteStep.update {write : DocumentWrite} {before : σ} {result : Applied × σ}
    (held : holds before contents)
    (step : WriteStep holds contents write false before result) :
    Step holds contents (.update write) (.updated result.1.updateOutcome, result.2) := by
  cases step with
  | refused cause => cases cause <;> exact Step.unchanged rfl held
  -- An update never inserts.
  | inserted allowed _ _ _ => simp at allowed
  | updated _ accepts stored =>
      exact ⟨stored, fun _ told => Option.some.inj told ▸ accepts⟩

theorem WriteStep.map {τ : Type} {holds' : τ → Contents → Prop} (named : σ → τ)
    (keeps : ∀ {store contents}, holds store contents → holds' (named store) contents)
    {write : DocumentWrite} {insertAllowed : Bool} {before : σ} {result : Applied × σ}
    (step : WriteStep holds contents write insertAllowed before result) :
    WriteStep holds' contents write insertAllowed (named before) (result.map id named) := by
  cases step with
  | refused cause => exact .refused cause
  | inserted allowed absent accepts held => exact .inserted allowed absent accepts (keeps held)
  | updated present accepts held => exact .updated present accepts (keeps held)

theorem WriteStep.of_recalls {write : DocumentWrite} {insertAllowed : Bool} {before next : σ}
    {old : Option Document} (recalls : Contents.Recalls (contents.get? write.document.id) old)
    (known : insertAllowed = false → old.isSome = true) (accepts : contents.Accepts write)
    (held : holds next (contents.put write.document)) :
    WriteStep holds contents write insertAllowed before
      (if old.isSome then .updated else .inserted, next) := by
  cases found : contents.get? write.document.id with
  | none =>
      rw [found] at recalls
      cases recalls with
      | absent =>
          have allowed : insertAllowed = true := by
            cases insertAllowed with
            | true => rfl
            | false => simp at known
          exact .inserted allowed found accepts held
  | some document =>
      rw [found] at recalls
      cases recalls with
      | present => exact .updated found accepts held

theorem DeleteStep.delete {id : DocumentId} {force : Bool} {before : σ}
    {result : DeleteOutcome × σ} (held : holds before contents)
    (step : DeleteStep holds contents id force before result) :
    Step holds contents (.delete id force) (.deleted result.1, result.2) := by
  cases step with
  -- Whatever the reason, an answer other than a success tells of no change.
  | kept failed =>
      apply Step.unchanged _ held
      unfold Call.change?
      split
      all_goals simp_all
  | erased document _ released stored =>
      exact ⟨stored, fun _ told => Option.some.inj told ▸ released⟩

theorem DeleteStep.of_parents {id : DocumentId} {force : Bool} {before next : σ}
    (stored document : Document) (found : contents.get? id = some stored)
    (held : holds next (contents.erase id)) :
    DeleteStep holds contents id force before
      (match contents.parents stored.existenceIds id with
        | [] => (.success document, next)
        | ids => if force then (.success document, next) else (.referenceConflict ids, before)) := by
  cases others : contents.parents stored.existenceIds id with
  | nil =>
      have released := Contents.releases_of_parents_eq_nil found others
      exact .erased document found (fun _ => released) held
  | cons parent rest =>
      cases force with
      | true => exact .erased document found (by simp) held
      | false => exact .kept (by simp)

variable [DocumentStore σ]

theorem run_holds
    (keeps : ∀ (call : Call) (store : σ) (contents : Contents), holds store contents →
      Step holds contents call (call.perform store))
    (calls : List Call) {store : σ} (held : holds store contents) :
    holds (Call.run calls store).2 (contents.afterRun calls (Call.run calls store).1) := by
  induction calls generalizing store contents with
  | nil => exact held
  | cons call rest ih => exact ih (keeps call store contents held).held

end Steps

end Docket
