import Docket.Proofs.Store.Integrity
import Docket.Proofs.Store.WriteEnd
/-!
Operations that fail.

An upsert, an update or a delete that does not answer a success leaves its engine as it was: the
documents, the ids that exist and the references between them. This is so of every engine, whether
its tables are exact or not, and of every argument; the relational engine looks for a repeated id
only as it writes its rows, so it can fail after every check has passed. What a run leaves is
therefore the work of its successful calls alone (`Engine.run_effective`).
-/

namespace Docket

namespace WriteEnd

variable {σ : Type} {existence : Table DocumentId DocumentId} {write : DocumentWrite}
  {insertAllowed : Bool} {before : σ} {result : Applied × σ}

theorem unchanged_or_done (ended : WriteEnd existence write insertAllowed before result) :
    result.2 = before ∨ (result.1 = .inserted ∧ insertAllowed = true) ∨ result.1 = .updated := by
  cases ended with
  | missing lacking => exact .inl rfl
  | refused other => exact .inl rfl
  | inserted allowed found => exact .inr (.inl ⟨rfl, allowed⟩)
  | updated found => exact .inr (.inr rfl)

end WriteEnd

namespace Engine

theorem upsert_unchanged (write : DocumentWrite) (engine : Engine)
    (notInserted : (DocumentStore.upsert write engine).1 ≠ .insertSuccess)
    (notUpdated : (DocumentStore.upsert write engine).1 ≠ .updateSuccess) :
    (DocumentStore.upsert write engine).2 = engine := by
  rw [upsert_eq] at notInserted notUpdated ⊢
  rcases (write_end write true engine).unchanged_or_done with same | ⟨inserted, _⟩ | updated
  · exact same
  · exact absurd (congrArg Applied.upsertOutcome inserted) notInserted
  · exact absurd (congrArg Applied.upsertOutcome updated) notUpdated

theorem update_unchanged (write : DocumentWrite) (engine : Engine)
    (failed : (DocumentStore.update write engine).1 ≠ .success) :
    (DocumentStore.update write engine).2 = engine := by
  rw [update_eq] at failed ⊢
  rcases (write_end write false engine).unchanged_or_done with same | ⟨_, allowed⟩ | updated
  · exact same
  · simp at allowed
  · exact absurd (congrArg Applied.updateOutcome updated) failed

end Engine

theorem MemoryStore.delete_unchanged (store : MemoryStore) (id : DocumentId) (force : Bool)
    (failed : ∀ document, (store.delete id force).1 ≠ .success document) :
    (store.delete id force).2 = store := by
  unfold MemoryStore.delete at failed ⊢
  cases found : store.documents.get? id with
  | none => rfl
  | some document =>
      simp only [found] at failed ⊢
      split
      · next free => exact absurd (by rw [free]) (failed document)
      · next parents _ =>
          cases force with
          | true => exact absurd (by simp) (failed document)
          | false => rfl

theorem KeyValueStore.delete_unchanged (store : KeyValueStore) (id : DocumentId) (force : Bool)
    (failed : ∀ document, (store.delete id force).1 ≠ .success document) :
    (store.delete id force).2 = store := by
  unfold KeyValueStore.delete at failed ⊢
  cases found : store.load id with
  | error cause => rfl
  | ok old =>
      cases old with
      | none => rfl
      | some document =>
          simp only [found] at failed ⊢
          split
          · rfl
          · next free => exact absurd (by rw [free]) (failed document)
          · cases force with
            | true => exact absurd (by simp_all) (failed document)
            | false => rfl

theorem RelationalStore.delete_unchanged (store : RelationalStore) (id : DocumentId) (force : Bool)
    (failed : ∀ document, (store.delete id force).1 ≠ .success document) :
    (store.delete id force).2 = store := by
  unfold RelationalStore.delete at failed ⊢
  cases found : store.load id with
  | error cause => rfl
  | ok old =>
      cases old with
      | none => rfl
      | some document =>
          simp only [found] at failed ⊢
          split
          · next free => exact absurd (by rw [free]) (failed document)
          · cases force with
            | true => exact absurd (by simp) (failed document)
            | false => rfl

namespace Engine

theorem delete_unchanged (id : DocumentId) (force : Bool) (engine : Engine)
    (failed : ∀ document, (DocumentStore.delete id force engine).1 ≠ .success document) :
    (DocumentStore.delete id force engine).2 = engine := by
  cases engine with
  | memory store => exact congrArg memory (store.delete_unchanged id force failed)
  | keyValue store => exact congrArg keyValue (store.delete_unchanged id force failed)
  | relational store => exact congrArg relational (store.delete_unchanged id force failed)

theorem findExisting_unchanged (ids : List DocumentId) (engine : Engine) :
    (DocumentStore.findExisting ids engine).2 = engine := by
  rw [findExisting_eq]

theorem scan_unchanged (bound : Option DocumentId) (limit : UInt64) (engine : Engine) :
    (DocumentStore.scan bound limit engine).2 = engine := by
  cases engine with
  | memory store => rfl
  | keyValue store => rfl
  | relational store => rfl

theorem perform_unchanged (call : Call) (engine : Engine)
    (quiet : call.change? (call.perform engine).1 = none) : (call.perform engine).2 = engine := by
  cases call with
  | upsert write =>
      apply upsert_unchanged write engine
      · intro done
        simp [Call.perform, done, Call.change?] at quiet
      · intro done
        simp [Call.perform, done, Call.change?] at quiet
  | update write =>
      apply update_unchanged write engine
      intro done
      simp [Call.perform, done, Call.change?] at quiet
  | delete id force =>
      apply delete_unchanged id force engine
      intro document done
      simp [Call.perform, done, Call.change?] at quiet
  | get id => exact get_unchanged id engine
  | findExisting ids => exact findExisting_unchanged ids engine
  | scan bound limit => exact scan_unchanged bound limit engine

end Engine

/-- Those of some calls that changed something, each with its answer. -/
def Call.effective (calls : List Call) (answers : List Answer) : List (Call × Answer) :=
  (calls.zip answers).filter fun entry => (entry.1.change? entry.2).isSome

namespace Engine

theorem run_effective (calls : List Call) (engine : Engine) :
    Call.run ((Call.effective calls (Call.run calls engine).1).map Prod.fst) engine
      = ((Call.effective calls (Call.run calls engine).1).map Prod.snd,
          (Call.run calls engine).2) := by
  induction calls generalizing engine with
  | nil => rfl
  | cons call rest ih =>
      have others := ih (call.perform engine).2
      simp only [Call.effective, Call.run, List.zip_cons_cons, List.filter_cons] at others ⊢
      cases told : call.change? (call.perform engine).1 with
      | none =>
          have same := perform_unchanged call engine told
          rw [same] at others ⊢
          simpa using others
      | some change => simp [Call.run, others]

/-- An operation that does not answer a success leaves the engine as it was, whatever the engine
    holds; so a run leaves what the calls that did answer one leave. -/
theorem failure_unchanged (engine : Engine) :
    (∀ write, (DocumentStore.upsert write engine).1 ≠ .insertSuccess →
      (DocumentStore.upsert write engine).1 ≠ .updateSuccess →
        (DocumentStore.upsert write engine).2 = engine) ∧
    (∀ write, (DocumentStore.update write engine).1 ≠ .success →
      (DocumentStore.update write engine).2 = engine) ∧
    (∀ id force, (∀ document, (DocumentStore.delete id force engine).1 ≠ .success document) →
      (DocumentStore.delete id force engine).2 = engine) ∧
    ∀ calls, Call.run ((Call.effective calls (Call.run calls engine).1).map Prod.fst) engine
      = ((Call.effective calls (Call.run calls engine).1).map Prod.snd,
          (Call.run calls engine).2) :=
  ⟨fun write => upsert_unchanged write engine, fun write => update_unchanged write engine,
    fun id force => delete_unchanged id force engine, fun calls => run_effective calls engine⟩

def repeatedAlias : DocumentWrite :=
  ⟨.bare (.numbered 1) [] [.numbered 2, .numbered 2], []⟩

/-- The relational engine refuses it once its checks have passed, and keeps the old version. -/
theorem failure_unchanged_repeatedAlias :
    let engine := EngineKind.relational.reached EngineKind.aliasedCalls
    (DocumentStore.upsert repeatedAlias engine).1
        = .unknownFailure RelationalStore.uniqueViolation.message ∧
      (DocumentStore.upsert repeatedAlias engine).2 = engine := by
  have refused : (DocumentStore.upsert repeatedAlias
        (EngineKind.relational.reached EngineKind.aliasedCalls)).1
      = .unknownFailure RelationalStore.uniqueViolation.message := by decide +kernel
  have unchanged := (failure_unchanged (EngineKind.relational.reached EngineKind.aliasedCalls)).1
    repeatedAlias (by simp [refused]) (by simp [refused])
  exact ⟨refused, unchanged⟩

end Engine

end Docket
