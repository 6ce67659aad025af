import Docket.Proofs.Store.Atomicity
/-!
Deleting a document.

A document is deleted if no other refers to its id or to one of its aliases, or by force; otherwise
the answer lists those that do (`Engine.delete_of_get`). What goes is the document, its ids and its
own references. References to it stay with the documents that make them, so they stand in the way of
the next document that takes one of its ids (`EngineKind.delete_exact`).
-/

namespace Docket

open Contents

def DeleteOutcome.ofParents (document : Document) (parents : List DocumentId) (force : Bool) :
    DeleteOutcome :=
  match parents with
  | [] => .success document
  | ids => if force then .success document else .referenceConflict ids

theorem MemoryStore.delete_of_get {store : MemoryStore} {contents : Contents}
    (held : store.Holds contents) {id : DocumentId} {document : Document}
    (found : store.get id = .success document) (force : Bool) :
    (store.delete id force).1
      = .ofParents document (contents.parents document.existenceIds id) force := by
  unfold MemoryStore.get at found
  unfold MemoryStore.delete DeleteOutcome.ofParents
  cases stored : store.documents.get? id with
  | none => simp [stored] at found
  | some version =>
      obtain rfl : version = document := by simpa [stored] using found
      have named : version.id = id := held.exact.named id version (held.documents ▸ stored)
      simp only [referencing_eq held, named]
      cases contents.parents version.existenceIds id with
      | nil => rfl
      | cons parent rest =>
          cases force with
          | true => rfl
          | false => rfl

theorem KeyValueStore.delete_of_get {store : KeyValueStore} {contents : Contents}
    (held : store.Holds contents) {id : DocumentId} {document : Document}
    (found : store.get id = .success document) (force : Bool) :
    (store.delete id force).1
      = .ofParents document (contents.parents document.existenceIds id) force := by
  unfold KeyValueStore.get at found
  unfold KeyValueStore.delete DeleteOutcome.ofParents
  cases loaded : store.load id with
  | error cause => simp [loaded] at found
  | ok old =>
      cases old with
      | none => simp [loaded] at found
      | some version =>
          obtain rfl : version = document := by simpa [loaded] using found
          simp only [inboundParents_eq held.tidy held.exact.inbound]
          cases contents.parents version.existenceIds id with
          | nil => rfl
          | cons parent rest =>
              cases force with
              | true => rfl
              | false => rfl

theorem RelationalStore.delete_of_get {store : RelationalStore} {contents : Contents}
    (held : store.Holds contents) {id : DocumentId} {document : Document}
    (found : store.get id = .success document) (force : Bool) :
    (store.delete id force).1
      = .ofParents document (contents.parents document.existenceIds id) force := by
  unfold RelationalStore.get at found
  unfold RelationalStore.delete DeleteOutcome.ofParents
  cases loaded : store.load id with
  | error cause => simp [loaded] at found
  | ok old =>
      cases old with
      | none => simp [loaded] at found
      | some version =>
          obtain rfl : version = document := by simpa [loaded] using found
          simp only [referencing_eq held]
          cases contents.parents version.existenceIds id with
          | nil => rfl
          | cons parent rest =>
              cases force with
              | true => rfl
              | false => rfl

namespace Engine

variable {engine : Engine} {contents : Contents} {id : DocumentId} {document : Document}

theorem delete_of_get (held : engine.Holds contents)
    (found : (DocumentStore.get id engine).1 = .success document) (force : Bool) :
    (DocumentStore.delete id force engine).1
      = .ofParents document (contents.parents document.existenceIds id) force := by
  cases engine with
  | memory store => exact MemoryStore.delete_of_get (memory_holds.mp held) found force
  | keyValue store => exact KeyValueStore.delete_of_get (keyValue_holds.mp held) found force
  | relational store => exact RelationalStore.delete_of_get (relational_holds.mp held) found force

theorem delete_refused (held : engine.Holds contents)
    (found : (DocumentStore.get id engine).1 = .success document)
    (others : contents.parents document.existenceIds id ≠ []) :
    DocumentStore.delete id false engine
      = (.referenceConflict (contents.parents document.existenceIds id), engine) := by
  have answer := delete_of_get held found false
  have refused : DeleteOutcome.ofParents document (contents.parents document.existenceIds id) false
      = .referenceConflict (contents.parents document.existenceIds id) := by
    unfold DeleteOutcome.ofParents
    cases listed : contents.parents document.existenceIds id with
    | nil => exact absurd listed others
    | cons parent rest => rfl
  rw [refused] at answer
  have same : (DocumentStore.delete id false engine).2 = engine := by
    apply delete_unchanged
    simp [answer]
  exact Prod.ext answer same

theorem delete_done (held : engine.Holds contents)
    (found : (DocumentStore.get id engine).1 = .success document) {force : Bool}
    (free : contents.parents document.existenceIds id = [] ∨ force = true) :
    (DocumentStore.delete id force engine).1 = .success document := by
  rw [delete_of_get held found]
  unfold DeleteOutcome.ofParents
  cases listed : contents.parents document.existenceIds id with
  | nil => rfl
  | cons parent rest =>
      have forced : force = true := free.resolve_left (by simp [listed])
      simp [forced]

/-- An engine without a document that another has: it is found no longer, its ids are free, and it
    refers to nothing. All else is as it was. -/
structure Lacks (before after : Engine) (id : DocumentId) (document : Document) : Prop where
  documents : ∀ other, (DocumentStore.get other after).1
    = if other = id then .notExists else (DocumentStore.get other before).1
  existence : ∀ key, after.existence.get? key
    = if key ∈ document.existenceIds then none else before.existence.get? key
  references : ∀ key parent, after.Linked key parent ↔ parent ≠ id ∧ before.Linked key parent

theorem owns_iff_of_get (held : engine.Holds contents)
    (found : (DocumentStore.get id engine).1 = .success document) (key : DocumentId) :
    contents.Owns id key ↔ key ∈ document.existenceIds := by
  obtain ⟨stored, present, readable⟩ := reread_of_get held found
  rw [(EngineKind.rereads readable).existenceIds, Owns]
  simp [present]

theorem lacks_of_holds_erase {after : Engine} (held : engine.Holds contents)
    (erased : after.Holds (contents.erase id)) (kind : after.kind = engine.kind)
    (found : (DocumentStore.get id engine).1 = .success document) :
    Lacks engine after id document where
  documents other := by
    rw [get_eq erased, get_eq held, kind, Table.get?_erase]
    split
    · rfl
    · rfl
  existence key := by
    apply Option.ext
    intro owner
    rw [erased.exact.existence, owns_erase_iff, ← held.exact.existence]
    split
    · next own =>
        -- An id of the document belongs to no other.
        have owned : engine.existence.get? key = some id :=
          (held.exact.existence key id).mpr ((owns_iff_of_get held found key).mpr own)
        simp [owned, eq_comm]
    · next other =>
        rw [and_iff_right_of_imp]
        rintro owned rfl
        exact other ((owns_iff_of_get held found key).mp ((held.exact.existence key owner).mp owned))
  references key parent := by
    rw [erased.exact.inbound, held.exact.inbound, refers_erase_iff]

theorem delete_lacks (held : engine.Holds contents)
    (found : (DocumentStore.get id engine).1 = .success document) {force : Bool}
    (done : (DocumentStore.delete id force engine).1 = .success document) :
    Lacks engine (DocumentStore.delete id force engine).2 id document := by
  have step := (step_holds (.delete id force) engine contents held).held
  have same := kind_perform (.delete id force) engine
  have told : (Call.delete id force).change? (.deleted (DocumentStore.delete id force engine).1)
      = some (.erased id force) := by
    rw [done]
    rfl
  change Holds (DocumentStore.delete id force engine).2 (contents.afterChange
    ((Call.delete id force).change? (.deleted (DocumentStore.delete id force engine).1))) at step
  rw [told] at step
  exact lacks_of_holds_erase held step same found

end Engine

theorem Contents.get?_afterChange_of_ne {contents : Contents} {change : Change} {id : DocumentId}
    (other : change.target ≠ id) :
    (contents.afterChange (some change)).get? id = contents.get? id := by
  cases change with
  | wrote write => exact get?_put_of_ne (Ne.symm other)
  | erased gone force =>
      have differ : id ≠ gone := Ne.symm other
      rw [afterChange, Table.get?_erase, if_neg differ]

namespace EngineKind

variable (kind : EngineKind) (calls : List Call)

theorem get?_written_append (more : List Call) {id : DocumentId}
    (spared : ∀ call ∈ more, call.target? ≠ some id) :
    (kind.written (calls ++ more)).get? id = (kind.written calls).get? id := by
  induction more using List.reverseRecOn with
  | nil => rw [List.append_nil]
  | append_singleton more call ih =>
      have earlier := ih fun other member => spared other (List.mem_append_left _ member)
      have last : call.target? ≠ some id := spared call (by simp)
      rw [← List.append_assoc, written_concat, ← earlier]
      cases told : call.change? (call.perform (kind.reached (calls ++ more))).1 with
      | none => rfl
      | some change =>
          apply get?_afterChange_of_ne
          rintro rfl
          exact last (Call.change?_eq_some told).1

/-- A document that refers to an id stands in the way of the deletion of any document that has come
    to own the id in the meantime. -/
theorem delete_blocked (more : List Call) {parent owner key heir : DocumentId}
    {document : Document} (owns : (kind.written calls).Owns owner key)
    (refers : (kind.written calls).Refers parent key) (differ : parent ≠ owner)
    (spared : ∀ call ∈ more, call.target? ≠ some parent)
    (stored : (DocumentStore.get heir (kind.reached (calls ++ more))).1 = .success document)
    (inherits : key ∈ document.existenceIds) :
    ∃ parents, parent ∈ parents ∧
      DocumentStore.delete heir false (kind.reached (calls ++ more))
        = (.referenceConflict parents, kind.reached (calls ++ more)) := by
  have held := kind.reached_holds calls
  have later := kind.reached_holds (calls ++ more)
  have same := kind.get?_written_append calls more spared
  have still : (kind.written (calls ++ more)).Refers parent key := by
    rwa [Refers, same]
  have other : parent ≠ heir := by
    rintro rfl
    -- The document that refers has not changed, so it would have owned the id before.
    obtain ⟨version, present, member⟩ := (Engine.owns_iff_of_get later stored key).mpr inherits
    exact differ (held.exact.owner_unique ⟨version, same ▸ present, member⟩ owns)
  have listed : parent ∈ (kind.written (calls ++ more)).parents document.existenceIds heir :=
    mem_parents.mpr ⟨other, key, inherits, still⟩
  exact ⟨_, listed, Engine.delete_refused later stored (List.ne_nil_of_mem listed)⟩

/-- A document that can be read is deleted unless others refer to it, and by force in any case. Those
    others keep their references, and with them stand in the way of the next owner of such an id. -/
theorem delete_exact {id : DocumentId} {document : Document}
    (stored : (DocumentStore.get id (kind.reached calls)).1 = .success document)
    {parents : List DocumentId} (ascends : Ascends parents)
    (listed : ∀ parent, parent ∈ parents ↔
      parent ≠ id ∧ ∃ key ∈ document.existenceIds, (kind.written calls).Refers parent key) :
    let before := kind.reached calls
    (parents ≠ [] →
      DocumentStore.delete id false before = (.referenceConflict parents, before)) ∧
    ∀ force, parents = [] ∨ force = true →
      let after := (DocumentStore.delete id force before).2
      (DocumentStore.delete id force before).1 = .success document ∧
      Engine.Lacks before after id document ∧
      ∀ parent ∈ parents, ∀ key ∈ document.existenceIds, (kind.written calls).Refers parent key →
        ∀ more : List Call, (∀ call ∈ more, call.target? ≠ some parent) →
          let later := (Call.run more after).2
          ∀ heir read, (DocumentStore.get heir later).1 = .success read →
            key ∈ read.existenceIds →
              ∃ others, parent ∈ others ∧
                DocumentStore.delete heir false later = (.referenceConflict others, later) := by
  intro before
  have held := kind.reached_holds calls
  obtain rfl : parents = (kind.written calls).parents document.existenceIds id := by
    apply eq_of_ascends ascends (parents_ascends _ _)
    intro parent
    rw [listed, mem_parents]
  refine ⟨Engine.delete_refused held stored, fun force free => ?_⟩
  have done := Engine.delete_done held stored free
  refine ⟨done, Engine.delete_lacks held stored done, ?_⟩
  intro parent member key own refers more spared later heir read found inherits
  have reached : later = kind.reached (calls ++ .delete id force :: more) := by
    rw [reached_append]
    rfl
  have differ : parent ≠ id := (mem_parents.mp member).1
  have untouched : ∀ call ∈ Call.delete id force :: more, call.target? ≠ some parent := by
    intro call among
    rcases List.mem_cons.mp among with rfl | among
    · simpa [Call.target?] using Ne.symm differ
    · exact spared call among
  rw [reached] at found ⊢
  exact kind.delete_blocked calls _ ((Engine.owns_iff_of_get held stored key).mpr own) refers differ
    untouched found inherits

def heirCalls : List Call := [.upsert ⟨.bare (.numbered 4) [] [.numbered 2], []⟩]

theorem delete_exact_alias :
    let before := relational.reached aliasedCalls
    let after := (DocumentStore.delete (.numbered 1) true before).2
    let later := (Call.run heirCalls after).2
    (DocumentStore.get (.numbered 1) before).1
        = .success (.bare (.numbered 1) [] [.numbered 2]) ∧
      DocumentStore.delete (.numbered 1) false before
        = (.referenceConflict [.numbered 3], before) ∧
      Engine.Lacks before after (.numbered 1) (.bare (.numbered 1) [] [.numbered 2]) ∧
      ∃ others, DocumentId.numbered 3 ∈ others ∧
        DocumentStore.delete (.numbered 4) false later = (.referenceConflict others, later) := by
  intro before after later
  have stored : (DocumentStore.get (.numbered 1) before).1
      = .success (.bare (.numbered 1) [] [.numbered 2]) := by decide +kernel
  have parents : (relational.written aliasedCalls).parents [.numbered 1, .numbered 2] (.numbered 1)
      = [.numbered 3] := by decide +kernel
  have listed : ∀ parent, parent ∈ [DocumentId.numbered 3] ↔ parent ≠ .numbered 1 ∧
      ∃ key ∈ (Document.bare (.numbered 1) [] [.numbered 2]).existenceIds,
        (relational.written aliasedCalls).Refers parent key := by
    intro parent
    rw [← parents, mem_parents]
    rfl
  have refers : (relational.written aliasedCalls).Refers (.numbered 3) (.numbered 2) :=
    ⟨.bare (.numbered 3) [.numbered 2] [], by decide +kernel, by decide⟩
  have heir : (DocumentStore.get (.numbered 4) later).1
      = .success (.bare (.numbered 4) [] [.numbered 2]) := by decide +kernel
  obtain ⟨refused, deleted⟩ := delete_exact relational aliasedCalls stored
    (List.pairwise_singleton _ _) listed
  obtain ⟨_, lacks, blocks⟩ := deleted true (.inr rfl)
  exact ⟨stored, refused (by simp), lacks,
    blocks (.numbered 3) (by simp) (.numbered 2) (by decide) refers heirCalls (by decide)
      (.numbered 4) _ heir (by decide)⟩

end EngineKind

end Docket
