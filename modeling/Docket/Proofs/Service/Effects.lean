import Docket.Proofs.Projection.Queue
import Docket.Proofs.Service.Cache
import Docket.Proofs.Service.Run
import Docket.Proofs.Store.Atomicity
/-!
A request has all of its effects or none.

A request for a change ends in one of two ways. It fails, and then the service is as it was: the
store, the cache, the projector and the sink. Or it succeeds, and then the store is what the
operation of the store leaves, the cache knows of the ids that came or went, and the projector has
received the change (`Service.Settled`). A request that only reads changes nothing. All this is so of
every service, whatever its store and its cache hold.
-/

namespace Docket

open Request

namespace WriteKind

variable {α : Type} (kind : WriteKind α)

theorem checked_of_succeeds {context : RequestContext} {document : Document} {engine : Engine}
    (done : kind.succeeds (kind.checked context document engine).1.1 = true) :
    ∃ applied next,
      engine.write (context.validation.write document) kind.insertAllowed = (applied, next) ∧
      kind.checked context document engine
        = (kind.answer (context.validation.write document).document applied, next) ∧
      (applied = .inserted ∧ kind.insertAllowed = true ∨ applied = .updated) := by
  have ended := kind.checked_end context document engine
  have found : Contents.absent engine.existence (context.validation.write document).enforcedRefs
      = [] := by
    by_contra lacking
    simp [ended.fails_of_absent lacking] at done
  have written := engine.write_end (context.validation.write document) kind.insertAllowed
  rcases result : engine.write (context.validation.write document) kind.insertAllowed
    with ⟨applied, next⟩
  have whole : kind.checked context document engine
      = (kind.answer (context.validation.write document).document applied, next) := by
    simp only [kind.checked_of_found found, result]
  rw [whole] at done
  rw [result] at written
  refine ⟨applied, next, rfl, whole, ?_⟩
  cases written with
  | missing lacking => exact absurd found lacking
  | refused other =>
      obtain ⟨answer, told, fails, _⟩ := kind.answer_refused
        (context.validation.write document).document _ other
      simp [told, fails] at done
  | inserted allowed _ => exact .inl ⟨rfl, allowed⟩
  | updated _ => exact .inr rfl

end WriteKind

namespace Service

variable {κ : Type}

/-- A service after a change that reached its store: nothing is left out of what goes with it. -/
structure Settled (before : Service Engine κ) (id : DocumentId) (store : Engine)
    (cache : ExistenceCache) (after : Service Engine κ) : Prop where
  store : after.store = store
  cache : after.cache = cache
  projector : before.projector.Received id after.projector
  sink : after.sink = before.sink
  config : after.config = before.config

variable [ProjectionSink κ] (service : Service Engine κ)

theorem perform_unchanged {α : Type} {script : Script (α × Commit)} {result : α}
    (quiet : script.run service.index service.store = ((result, .nothing), service.store)) :
    service.perform script = (result, service) := by
  rw [perform, quiet]
  rfl

inductive WriteEffect {α : Type} (kind : WriteKind α) (made : Except Error Document) :
    α × Service Engine κ → Prop where
  | none {result : α} (fails : kind.succeeds result = false) :
      WriteEffect kind made (result, service)
  | inserted {document : Document} {result : α} {store : Engine} {next : Service Engine κ}
      (allowed : kind.insertAllowed = true) (ok : made = .ok document)
      (written : service.store.write (service.config.validation.write document)
        kind.insertAllowed = (.inserted, store))
      (told : (kind.answer (service.config.validation.write document).document .inserted).1
        = result)
      (settled : service.Settled document.id store
        (service.cache.addAll document.existenceIds) next) :
      WriteEffect kind made (result, next)
  | replaced {document : Document} {result : α} {store : Engine} {next : Service Engine κ}
      (ok : made = .ok document)
      (written : service.store.write (service.config.validation.write document)
        kind.insertAllowed = (.updated, store))
      (told : (kind.answer (service.config.validation.write document).document .updated).1
        = result)
      (settled : service.Settled document.id store service.cache next) :
      WriteEffect kind made (result, next)

theorem write_effect {α : Type} {kind : WriteKind α} {made : Except Error Document}
    {script : RequestContext → Script (α × Commit)}
    (runs : kind.Runs made script service.index service.store) :
    service.WriteEffect kind made (service.perform (script service.context)) := by
  cases runs with
  | refused result fails _ run =>
      rw [service.perform_unchanged (run service.context)]
      exact .none fails
  | checked document ok _ run =>
      have run := run service.context
      cases success : kind.succeeds (kind.checked service.context document service.store).1.1 with
      | false =>
          rw [(kind.checked_end service.context document service.store).eq_of_fails success] at run
          rw [service.perform_unchanged run]
          exact .none success
      | true =>
          obtain ⟨applied, store, written, whole, done⟩ := kind.checked_of_succeeds success
          rw [whole] at run
          have validation : service.context.validation = service.config.validation := rfl
          rw [validation] at written run
          rcases done with ⟨rfl, allowed⟩ | rfl
          · obtain ⟨answer, told, _⟩ := kind.answer_inserted
              (service.config.validation.write document).document allowed
            rw [perform, run, told]
            refine .inserted allowed ok written (by rw [told]) ⟨rfl, ?_, ?_, rfl, rfl⟩
            · simp [absorb]
            · simpa [absorb] using service.projector.received_offer document.id
          · obtain ⟨answer, told, _⟩ := kind.answer_updated
              (service.config.validation.write document).document
            rw [perform, run, told]
            refine .replaced ok written (by rw [told]) ⟨rfl, rfl, ?_, rfl, rfl⟩
            simpa [absorb] using service.projector.received_offer document.id

omit [ProjectionSink κ] in
variable {service} in
theorem WriteEffect.writes {α : Type} {kind : WriteKind α} {made : Except Error Document}
    {run : α × Service Engine κ} (effect : service.WriteEffect kind made run)
    (succeeds : kind.succeeds run.1 = true) :
    ∃ document applied, made = .ok document ∧
      service.store.write (service.config.validation.write document) kind.insertAllowed
        = (applied, run.2.store) ∧
      ∀ cause, applied ≠ .refused cause := by
  cases effect with
  | none fails => simp [fails] at succeeds
  | inserted _ ok written _ settled => exact ⟨_, .inserted, ok, settled.store ▸ written, nofun⟩
  | replaced ok written _ settled => exact ⟨_, .updated, ok, settled.store ▸ written, nofun⟩

inductive UpsertEffect (request : UpsertRequest) : UpsertResult × Service Engine κ → Prop where
  | none {result : UpsertResult} (fails : result.isSuccess = false) :
      UpsertEffect request (result, service)
  | inserted {document : Document} {store : Engine} {next : Service Engine κ}
      (made : request.document = .ok document)
      (upserted : DocumentStore.upsert (service.config.validation.write document) service.store
        = (.insertSuccess, store))
      (settled : service.Settled document.id store
        (service.cache.addAll document.existenceIds) next) :
      UpsertEffect request (.success .insertSuccess document.id, next)
  | replaced {document : Document} {store : Engine} {next : Service Engine κ}
      (made : request.document = .ok document)
      (upserted : DocumentStore.upsert (service.config.validation.write document) service.store
        = (.updateSuccess, store))
      (settled : service.Settled document.id store service.cache next) :
      UpsertEffect request (.success .updateSuccess document.id, next)

theorem upsert_effect (request : UpsertRequest) :
    service.UpsertEffect request (service.upsert request) := by
  have effect : service.WriteEffect .upsert request.document (service.upsert request) :=
    service.write_effect (request.runs service.index service.store)
  generalize service.upsert request = run at effect
  cases effect with
  | none fails => exact .none fails
  | @inserted document result store next _ made written told settled =>
      obtain rfl : .success .insertSuccess document.id = result := by
        simpa [WriteKind.upsert, upsertAnswer, Applied.upsertOutcome] using told
      refine .inserted made ?_ settled
      rw [Engine.upsert_eq]
      exact congrArg (Prod.map Applied.upsertOutcome fun store => store) written
  | @replaced document result store next made written told settled =>
      obtain rfl : .success .updateSuccess document.id = result := by
        simpa [WriteKind.upsert, upsertAnswer, Applied.upsertOutcome] using told
      refine .replaced made ?_ settled
      rw [Engine.upsert_eq]
      exact congrArg (Prod.map Applied.upsertOutcome fun store => store) written

inductive UpdateEffect (request : UpdateRequest) : UpdateResult × Service Engine κ → Prop where
  | none {result : UpdateResult} (fails : result.status ≠ .updateSuccess) :
      UpdateEffect request (result, service)
  | replaced {document : Document} {store : Engine} {next : Service Engine κ}
      (made : request.document = .ok document) (named : document.id = request.id)
      (updated : DocumentStore.update (service.config.validation.write document) service.store
        = (.success, store))
      (settled : service.Settled document.id store service.cache next) :
      UpdateEffect request (⟨.updateSuccess, [], .none⟩, next)

theorem id_of_updated {request : UpdateRequest} {document : Document}
    (made : request.document = .ok document)
    (done : (service.update request).1.status = .updateSuccess) : document.id = request.id := by
  obtain ⟨other, makes⟩ | ⟨result, fails, _, run⟩ := request.makes_or_refused
  · obtain rfl := Except.ok.inj (made.symm.trans makes.made)
    exact makes.kept
  · rw [update, service.perform_unchanged (run service.context service.index service.store)] at done
    exact absurd done fails

theorem update_effect (request : UpdateRequest) :
    service.UpdateEffect request (service.update request) := by
  have effect : service.WriteEffect .update request.document (service.update request) :=
    service.write_effect (request.runs service.index service.store)
  have named := @id_of_updated κ _ service request
  generalize service.update request = run at effect named
  cases effect with
  | none fails => exact .none (of_decide_eq_false fails)
  | inserted allowed _ _ _ _ => simp [WriteKind.update] at allowed
  | @replaced document result store next made written told settled =>
      obtain rfl : ⟨.updateSuccess, [], .none⟩ = result := told
      refine .replaced made (named made rfl) ?_ settled
      rw [Engine.update_eq]
      exact congrArg (Prod.map Applied.updateOutcome fun store => store) written

/-- All that can come of a delete. What goes is the document that was asked for, if the store holds
    its documents under their ids. -/
inductive DeleteEffect (request : DeleteRequest) : DeleteResult × Service Engine κ → Prop where
  | none {result : DeleteResult} (fails : result.status ≠ .deleteSuccess) :
      DeleteEffect request (result, service)
  | deleted {document : Document} {store : Engine} {next : Service Engine κ}
      (named : ∀ contents, service.store.Holds contents → document.id = request.id)
      (deleted : DocumentStore.delete request.id request.force service.store
        = (.success document, store))
      (settled : service.Settled document.id store
        (service.cache.removeAll document.existenceIds) next) :
      DeleteEffect request (⟨.deleteSuccess, [], .none⟩, next)

theorem delete_effect (request : DeleteRequest) :
    service.DeleteEffect request (service.delete request) := by
  have unasked := checkOwnership_unchanged service.index service.store request.id request.security
  have failed := Engine.delete_unchanged request.id request.force service.store
  unfold delete perform DeleteRequest.script
  rw [Script.run_andThen, unasked]
  cases ((checkOwnership request.id request.security).run service.index service.store).1 with
  | denied => exact .none (by simp [DeleteResult.failure])
  | failed => exact .none (by simp [DeleteResult.failure])
  | permitted stored =>
      simp only
      split
      · exact .none (by simp [Script.run])
      · simp only [Script.run]
        rcases done : DocumentStore.delete request.id request.force service.store
          with ⟨outcome, store⟩
        rw [done] at failed
        cases outcome with
        | success document =>
            refine .deleted (fun contents held => ?_) done
              ⟨rfl, rfl, service.projector.received_offer document.id, rfl, rfl⟩
            obtain ⟨_, _, _, named⟩ := Engine.reread_of_delete held (congrArg Prod.fst done)
            exact named
        | notExists =>
            obtain rfl : store = service.store := failed (by simp)
            exact .none (by simp [deleteAnswer])
        | referenceConflict parents =>
            obtain rfl : store = service.store := failed (by simp)
            exact .none (by simp [deleteAnswer])
        | unknownFailure detail =>
            obtain rfl : store = service.store := failed (by simp)
            exact .none (by simp [deleteAnswer, DeleteResult.failure])

/-- On every service a request has all of its effects or none, and one that only reads has none. -/
theorem all_effects_or_none :
    (∀ request, service.UpsertEffect request (service.upsert request)) ∧
    (∀ request, service.UpdateEffect request (service.update request)) ∧
    (∀ request, service.DeleteEffect request (service.delete request)) ∧
    (∀ request, (service.get request).2 = service) ∧
    ∀ request, (service.query request).2 = service := by
  refine ⟨service.upsert_effect, service.update_effect, service.delete_effect, fun request => ?_,
    fun request => ?_⟩
  · obtain ⟨result, quiet⟩ : ∃ result, request.script.run service.index service.store
        = ((result, .nothing), service.store) := request.run_quiet service.index
    rw [get, service.perform_unchanged quiet]
  · obtain ⟨result, quiet⟩ : ∃ result, (request.script service.context).run service.index
        service.store = ((result, .nothing), service.store) :=
      request.run_quiet service.index service.context
    rw [query, service.perform_unchanged quiet]

end Service

end Docket
