import Docket.Proofs.Service.Ownership
import Docket.Proofs.Service.References
import Docket.Proofs.Store.Repetition
/-!
An upsert that is made twice.

The second upsert finds the document that the first one has left: it is that of the same client, with
the same ids, and nothing in the way but what the first one changed itself. The second answers an
update of that document and leaves the store alone, if the document can be read and none of its
references is to an alias that the first one took away (`History.upsert_again_iff`).
-/

namespace Docket

open Request Contents

namespace Request

variable (document : Document) (applied : Applied)

theorem upsertAnswer_isSuccess_iff :
    (upsertAnswer document applied.upsertOutcome).1.isSuccess = true ↔
      ∀ cause, applied ≠ .refused cause := by
  cases applied with
  | inserted => simp [upsertAnswer, Applied.upsertOutcome, UpsertResult.success,
      UpsertResult.isSuccess]
  | updated => simp [upsertAnswer, Applied.upsertOutcome, UpsertResult.success,
      UpsertResult.isSuccess]
  | refused cause =>
      have fails : (upsertAnswer document (Applied.refused cause).upsertOutcome).1.isSuccess
          = false := by
        cases cause <;> rfl
      simp [fails]

theorem upsertAnswer_updated_iff :
    (upsertAnswer document applied.upsertOutcome).1 = .success .updateSuccess document.id ↔
      applied = .updated := by
  cases applied with
  | inserted => simp [upsertAnswer, Applied.upsertOutcome, UpsertResult.success]
  | updated => simp [upsertAnswer, Applied.upsertOutcome]
  | refused cause =>
      have fails := (upsertAnswer_isSuccess_iff document (.refused cause)).not.mpr (by simp)
      constructor
      · intro told
        rw [told] at fails
        exact absurd rfl fails
      · simp

theorem id_upsertAnswer :
    (upsertAnswer document applied.upsertOutcome).1.id = some document.id := by
  cases applied with
  | inserted | updated => rfl
  | refused cause => cases cause <;> rfl

end Request

section Checked

variable (context : RequestContext) (document : Document) (engine : Engine)

theorem Request.checked_or :
    WriteKind.upsert.checked context document engine
        = (unresolvedUpsert document.id (context.lacking engine.existence document), engine) ∨
      WriteKind.upsert.checked context document engine
        = (upsertAnswer (context.validation.write document).document
            (engine.write (context.validation.write document) true).1.upsertOutcome,
          (engine.write (context.validation.write document) true).2) := by
  unfold WriteKind.checked
  cases context.lacking engine.existence document with
  | nil => exact .inr rfl
  | cons id rest => exact .inl rfl

theorem Request.write_of_isSuccess
    (done : (WriteKind.upsert.checked context document engine).1.1.isSuccess = true) :
    (∀ cause, (engine.write (context.validation.write document) true).1 ≠ .refused cause) ∧
      (WriteKind.upsert.checked context document engine).1.1.id = some document.id ∧
      (WriteKind.upsert.checked context document engine).2
        = (engine.write (context.validation.write document) true).2 := by
  obtain unresolved | written := checked_or context document engine
  · rw [unresolved] at done
    simp [unresolvedUpsert, UpsertResult.isSuccess] at done
  · rw [written] at done ⊢
    rw [id_upsertAnswer, ValidationSettings.write_id]
    exact ⟨(upsertAnswer_isSuccess_iff _ _).mp done, rfl, rfl⟩

theorem Request.checked_updated_iff :
    (WriteKind.upsert.checked context document engine).1.1 = .success .updateSuccess document.id ↔
      (engine.write (context.validation.write document) true).1 = .updated := by
  rw [← upsertAnswer_updated_iff (context.validation.write document).document,
    ValidationSettings.write_id]
  obtain unresolved | written := checked_or context document engine
  · constructor
    · intro told
      rw [unresolved] at told
      simp [unresolvedUpsert, UpsertResult.success] at told
    · intro told
      -- What the store lets through lacks nothing, whatever is remembered.
      have updated : (engine.write (context.validation.write document) true).1 = .updated := by
        rw [← upsertAnswer_updated_iff (context.validation.write document).document,
          ValidationSettings.write_id, told]
      have found : absent engine.existence (context.validation.write document).enforcedRefs = [] := by
        have ended := engine.write_end (context.validation.write document) true
        rcases run : engine.write (context.validation.write document) true with ⟨applied, next⟩
        rw [run] at ended updated
        simp only at updated
        subst updated
        cases ended with
        | updated found => exact found
      rw [WriteKind.checked_of_found _ found]
      exact told
  · rw [written]

end Checked

section Again

variable {contents : Contents} {engine : Engine} {request : UpsertRequest}

theorem UpsertRequest.checked_of_isSuccess (index : SearchIndex) (context : RequestContext)
    (done : ((request.script context).run index engine).1.1.isSuccess = true) :
    ∃ document, request.Makes document ∧
      (∃ stored, ((checkOwnership document.id request.security).run index engine).1
        = .permitted stored) ∧
      (request.script context).run index engine
        = WriteKind.upsert.checked context document engine := by
  obtain ⟨document, makes⟩ | ⟨result, fails, _, run⟩ := request.makes_or_refused
  · have run := run_of_makes index engine makes context
    cases owner : ((checkOwnership document.id request.security).run index engine).1 with
    | permitted stored =>
        rw [owner] at run
        exact ⟨document, makes, ⟨stored, owner⟩, run⟩
    | denied | failed =>
        rw [run, owner] at done
        simp [UpsertResult.failure, UpsertResult.isSuccess] at done
  · rw [run, fails] at done
    simp at done

theorem Request.permitted_again (held : engine.Holds contents) {next : Engine}
    {document written : Document} (after : next.Holds (contents.put written))
    (named : written.id = document.id) {security : Security}
    (creator : written.createdBy = some security.clientId) {index : SearchIndex}
    {found : Option Document}
    (permitted : ((checkOwnership document.id security).run index engine).1 = .permitted found)
    (readable : ∀ detail, (DocumentStore.get document.id next).1 ≠ .unknownFailure detail)
    (index' : SearchIndex) :
    ∃ found', ((checkOwnership document.id security).run index' next).1 = .permitted found' := by
  rw [permitted_iff after]
  obtain strategy | owned := (permitted_iff held index document.id security).mp ⟨found, permitted⟩
  · exact .inl strategy
  · right
    intro stored present
    refine ⟨?_, (Engine.readable_iff after present).mpr readable⟩
    rw [get?_put, named, if_pos rfl] at present
    obtain rfl := Option.some.inj present
    cases before : contents.get? document.id with
    | none => exact creator
    | some old =>
        -- The creator that the document keeps is the client as well.
        simp [Document.keepingCreator, (owned old before).1]

theorem UpsertRequest.run_again (held : engine.Holds contents) (index index' : SearchIndex)
    {context context' : RequestContext} (same : context'.validation = context.validation)
    (done : ((request.script context).run index engine).1.1.isSuccess = true) :
    let first := (request.script context).run index engine
    let again := (request.script context').run index' first.2
    ∃ document, request.document = .ok document ∧ first.1.1.id = some document.id ∧
      again.2 = first.2 ∧
      (again.1.1 = .success .updateSuccess document.id ↔
        (∀ detail, (DocumentStore.get document.id first.2).1 ≠ .unknownFailure detail) ∧
        ∀ id ∈ (context.validation.write document).enforcedRefs,
          ¬ ∃ old, contents.get? document.id = some old ∧ id ∈ old.aliasIds ∧
            id ∉ document.existenceIds) := by
  obtain ⟨document, makes, ⟨stored, owner⟩, run⟩ := checked_of_isSuccess index context done
  rw [run] at done ⊢
  obtain ⟨succeeded, told, kept⟩ := write_of_isSuccess context document engine done
  have distinct : (context.validation.write document).document.existenceIds.Nodup := by
    rw [ValidationSettings.write_existenceIds]
    exact (document_eq_ok makes.made).1.distinct
  rcases written : engine.write (context.validation.write document) true with ⟨applied, next⟩
  rw [written] at succeeded kept
  obtain ⟨_, after⟩ := Engine.accepts_of_write held written succeeded
  obtain ⟨unchanged, updated⟩ := Engine.write_again held distinct written succeeded
  rw [ValidationSettings.write_id, ValidationSettings.write_existenceIds] at updated
  have creator := ValidationSettings.write_createdBy context.validation document
  rw [(madeOf_of_document makes.made).createdBy] at creator
  have permitted := permitted_again held after (ValidationSettings.write_id _ _) creator owner
  simp only at kept
  simp only [kept]
  have again := run_of_makes index' next makes context'
  refine ⟨document, makes.made, told, ?_, ?_⟩
  · rw [again]
    split
    · rfl
    · rfl
    · obtain unresolved | written := checked_or context' document next
      · rw [unresolved]
      · rw [written, same, unchanged]
  · rw [← updated, again]
    cases owner' : ((checkOwnership document.id request.security).run index' next).1 with
    | permitted stored' => rw [checked_updated_iff, same]
    | denied | failed =>
        constructor
        · simp [UpsertResult.failure, UpsertResult.success]
        · intro done
          obtain ⟨found, let_through⟩ := permitted (updated.mp done).1 index'
          rw [owner'] at let_through
          simp at let_through

end Again

namespace Service

variable {α : Type} (service : Service Engine SearchIndex) (script : Script (α × Commit))

theorem perform_store :
    (service.perform script).2.store = (script.run service.index service.store).2 :=
  absorb_store _ _

theorem perform_config : (service.perform script).2.config = service.config :=
  absorb_config _ _

end Service

namespace History

/-- An upsert that has answered a success and is made again at once leaves the store as it was. It
    answers an update of the same document if and only if that can be read, and none of the
    references that are checked is to an alias that the first one took from the document. -/
theorem upsert_again_iff (kind : EngineKind) (config : Config) (events : List Service.Event)
    (request : UpsertRequest)
    (done : ((run kind config events).service.upsert request).1.isSuccess = true) :
    let history := run kind config events
    let first := history.service.upsert request
    let again := first.2.upsert request
    history.service.store.Keeps history.written ∧
      ∃ document, request.document = .ok document ∧ first.1.id = some document.id ∧
        again.2.store = first.2.store ∧
        (again.1 = .success .updateSuccess document.id ↔
          (∀ detail, (DocumentStore.get document.id first.2.store).1 ≠ .unknownFailure detail) ∧
          ∀ id ∈ (config.validation.write document).enforcedRefs,
            ¬ ∃ old, history.written.get? document.id = some old ∧ id ∈ old.aliasIds ∧
              id ∉ document.existenceIds) := by
  intro history first again
  have sound : history.Sound kind config := run_sound kind config events
  have validation : first.2.context.validation = history.service.context.validation :=
    congrArg Config.validation (Service.perform_config _ _)
  have validation' : history.service.context.validation = config.validation :=
    congrArg Config.validation sound.config
  obtain ⟨document, made, told, kept, updated⟩ := request.run_again sound.held
    history.service.index first.2.index validation done
  have store : first.2.store
      = ((request.script history.service.context).run history.service.index
          history.service.store).2 := Service.perform_store _ _
  have store' : again.2.store
      = ((request.script first.2.context).run first.2.index first.2.store).2 :=
    Service.perform_store _ _
  rw [← store] at kept updated
  rw [validation'] at updated
  exact ⟨sound.held.keeps, document, made, told, store'.trans kept, updated⟩

def selfEnrolled (superclass : Option Reference) : UpsertRequest :=
  .fixed (school "1") [organization] superclass

set_option maxRecDepth 10000 in
theorem upsert_again_iff_aliasKept :
    let history := run .memory {} (aliasLost.take 1)
    let request := selfEnrolled (some organization)
    let first := history.service.upsert request
    let again := first.2.upsert request
    first.1.isSuccess = true ∧
      ∃ document, request.document = .ok document ∧ first.1.id = some document.id ∧
        again.2.store = first.2.store ∧ again.1 = .success .updateSuccess document.id := by
  intro history request first again
  have done : first.1.isSuccess = true := by decide +kernel
  have told : again.1 = UpsertResult.success .updateSuccess (first.1.id.getD default) := by
    decide +kernel
  obtain ⟨_, document, made, named, kept, _⟩ :=
    upsert_again_iff .memory {} (aliasLost.take 1) request done
  refine ⟨done, document, made, named, kept, ?_⟩
  rw [told]
  exact congrArg (fun id => UpsertResult.success .updateSuccess (id.getD default)) named

/-- An upsert that takes the alias away and refers to it is done the first time, and refused when it
    is made again. -/
theorem upsert_again_refused :
    let history := run .memory {} (aliasLost.take 1)
    let first := history.service.upsert (selfEnrolled none)
    let again := first.2.upsert (selfEnrolled none)
    history.service.config.validation.validateReferences = true ∧
      first.1.status = .updateSuccess ∧ again.1.status = .validationFailure := by
  decide +kernel

end History

end Docket
