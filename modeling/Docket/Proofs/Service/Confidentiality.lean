import Docket.Proofs.Store.Run
import Docket.Service.Basic
import Docket.Store.Engine
import Docket.Store.Rehearsed
/-!
What clients learn of a failure.

A store that fails says why, and so does the index. Requests go on from such an answer the same way
whatever it says (`Script.Blind`), and therefore two services whose stores and indexes differ in
nothing else cannot be told apart by any request (`Service.detail_withheld`). Every other answer is
passed on with its message.
-/

namespace Docket

class Detailed (α : Type) where
  withoutDetail : α → α

export Detailed (withoutDetail)

instance : Detailed UpsertOutcome where
  withoutDetail
    | .unknownFailure _ => .unknownFailure ""
    | outcome => outcome

instance : Detailed UpdateOutcome where
  withoutDetail
    | .unknownFailure _ => .unknownFailure ""
    | outcome => outcome

instance : Detailed GetOutcome where
  withoutDetail
    | .unknownFailure _ => .unknownFailure ""
    | outcome => outcome

instance : Detailed DeleteOutcome where
  withoutDetail
    | .unknownFailure _ => .unknownFailure ""
    | outcome => outcome

instance : Detailed QueryOutcome where
  withoutDetail
    | .unknownFailure _ => .unknownFailure ""
    | outcome => outcome

instance {α : Type} : Detailed (Except StoreError α) where
  withoutDetail
    | .error _ => .error (.engine "")
    | .ok found => .ok found

instance {α : Type} : Detailed (Except IndexError α) where
  withoutDetail
    | .error _ => .error .unavailable
    | .ok found => .ok found

instance : Detailed Answer where
  withoutDetail
    | .upserted outcome => .upserted (withoutDetail outcome)
    | .updated outcome => .updated (withoutDetail outcome)
    | .got outcome => .got (withoutDetail outcome)
    | .deleted outcome => .deleted (withoutDetail outcome)
    | .found ids => .found (withoutDetail ids)
    | .scanned documents => .scanned (withoutDetail documents)

theorem eq_of_withoutDetail_eq {α β : Type} [Detailed α] {next : α → β}
    (same : ∀ answer, next answer = next (withoutDetail answer)) {answer other : α}
    (alike : withoutDetail answer = withoutDetail other) : next answer = next other := by
  rw [same answer, alike, ← same other]

inductive Question where
  | perform (call : Call)
  | query (resource : Resource) (filters : Filters) (window : Pagination)
  | search (resource : Resource) (filters : Filters) (window : Pagination)

inductive Reply where
  | answered (answer : Answer)
  | queried (outcome : QueryOutcome)
  | searched (documents : Except IndexError (List Document))

instance : Detailed Reply where
  withoutDetail
    | .answered answer => .answered (withoutDetail answer)
    | .queried outcome => .queried (withoutDetail outcome)
    | .searched documents => .searched (withoutDetail documents)

section Stores

variable {σ τ : Type} [DocumentStore σ] [DocumentStore τ]

def Question.ask (index : SearchIndex) (question : Question) (store : σ) : Reply × σ :=
  match question with
  | .perform call => (call.perform store).map .answered id
  | .query resource filters window =>
      (DocumentStore.query index resource filters window store).map .queried id
  | .search resource filters window => (.searched (index.search resource filters window), store)

def Question.replies (index : SearchIndex) : List Question → σ → List Reply
  | [], _ => []
  | question :: rest, store =>
      (question.ask index store).1 :: replies index rest (question.ask index store).2

/-- Two stores, each with an index beside it, that answer all questions the same but for the detail
    of failures. -/
def AnswersAlike (index : SearchIndex) (store : σ) (otherIndex : SearchIndex) (other : τ) : Prop :=
  ∀ questions, (Question.replies index questions store).map withoutDetail
    = (Question.replies otherIndex questions other).map withoutDetail

variable {index otherIndex : SearchIndex} {store : σ} {other : τ}

theorem AnswersAlike.ask (alike : AnswersAlike index store otherIndex other)
    (question : Question) :
    withoutDetail (question.ask index store).1 = withoutDetail (question.ask otherIndex other).1 ∧
      AnswersAlike index (question.ask index store).2 otherIndex
        (question.ask otherIndex other).2 := by
  constructor
  · exact (List.cons.inj (alike [question])).1
  · intro questions
    exact (List.cons.inj (alike (question :: questions))).2

/-- Stores answer alike that stay in a relation in which every single answer is alike. -/
theorem AnswersAlike.of_steps (related : σ → τ → Prop)
    (steps : ∀ store other, related store other → ∀ question : Question,
      withoutDetail (question.ask index store).1
          = withoutDetail (question.ask otherIndex other).1 ∧
        related (question.ask index store).2 (question.ask otherIndex other).2)
    (start : related store other) : AnswersAlike index store otherIndex other := by
  intro questions
  induction questions generalizing store other with
  | nil => rfl
  | cons question rest ih =>
      obtain ⟨same, still⟩ := steps store other start question
      simp only [Question.replies, List.map_cons, same, ih still]

end Stores

namespace Script

variable {α β : Type}

/-- A script that goes on the same way whatever the detail of a failure. -/
inductive Blind : Script α → Prop where
  | done (result : α) : Blind (.done result)
  | get {id : DocumentId} {next : GetOutcome → Script α}
      (same : ∀ outcome, next outcome = next (withoutDetail outcome))
      (each : ∀ outcome, Blind (next outcome)) : Blind (.get id next)
  | findExisting {ids : List DocumentId} {next : Except StoreError (List DocumentId) → Script α}
      (same : ∀ found, next found = next (withoutDetail found))
      (each : ∀ found, Blind (next found)) : Blind (.findExisting ids next)
  | upsert {write : DocumentWrite} {next : UpsertOutcome → Script α}
      (same : ∀ outcome, next outcome = next (withoutDetail outcome))
      (each : ∀ outcome, Blind (next outcome)) : Blind (.upsert write next)
  | update {write : DocumentWrite} {next : UpdateOutcome → Script α}
      (same : ∀ outcome, next outcome = next (withoutDetail outcome))
      (each : ∀ outcome, Blind (next outcome)) : Blind (.update write next)
  | delete {id : DocumentId} {force : Bool} {next : DeleteOutcome → Script α}
      (same : ∀ outcome, next outcome = next (withoutDetail outcome))
      (each : ∀ outcome, Blind (next outcome)) : Blind (.delete id force next)
  | query {resource : Resource} {filters : Filters} {window : Pagination}
      {next : QueryOutcome → Script α}
      (same : ∀ outcome, next outcome = next (withoutDetail outcome))
      (each : ∀ outcome, Blind (next outcome)) : Blind (.query resource filters window next)
  | search {resource : Resource} {filters : Filters} {window : Pagination}
      {next : Except IndexError (List Document) → Script α}
      (same : ∀ found, next found = next (withoutDetail found))
      (each : ∀ found, Blind (next found)) : Blind (.search resource filters window next)

namespace Blind

theorem andThen {script : Script α} (blind : script.Blind) {rest : α → Script β}
    (each : ∀ result, (rest result).Blind) : (script.andThen rest).Blind := by
  induction blind with
  | done result => exact each result
  | get same _ ih => exact .get (fun outcome => congrArg (·.andThen rest) (same outcome)) ih
  | findExisting same _ ih =>
      exact .findExisting (fun found => congrArg (·.andThen rest) (same found)) ih
  | upsert same _ ih => exact .upsert (fun outcome => congrArg (·.andThen rest) (same outcome)) ih
  | update same _ ih => exact .update (fun outcome => congrArg (·.andThen rest) (same outcome)) ih
  | delete same _ ih => exact .delete (fun outcome => congrArg (·.andThen rest) (same outcome)) ih
  | query same _ ih => exact .query (fun outcome => congrArg (·.andThen rest) (same outcome)) ih
  | search same _ ih => exact .search (fun found => congrArg (·.andThen rest) (same found)) ih

variable {σ τ : Type} [DocumentStore σ] [DocumentStore τ] {index otherIndex : SearchIndex}

theorem run_alike {script : Script α} (blind : script.Blind) {store : σ} {other : τ}
    (alike : AnswersAlike index store otherIndex other) :
    (script.run index store).1 = (script.run otherIndex other).1 ∧
      AnswersAlike index (script.run index store).2 otherIndex
        (script.run otherIndex other).2 := by
  induction blind generalizing store other with
  | done result => exact ⟨rfl, alike⟩
  | @get id next same each ih =>
      obtain ⟨answers, still⟩ := alike.ask (.perform (.get id))
      have goesOn : next (DocumentStore.get id store).1 = next (DocumentStore.get id other).1 :=
        eq_of_withoutDetail_eq same (Answer.got.inj (Reply.answered.inj answers))
      simp only [run, goesOn]
      exact ih _ still
  | @findExisting ids next same each ih =>
      obtain ⟨answers, still⟩ := alike.ask (.perform (.findExisting ids))
      have goesOn : next (DocumentStore.findExisting ids store).1
          = next (DocumentStore.findExisting ids other).1 :=
        eq_of_withoutDetail_eq same (Answer.found.inj (Reply.answered.inj answers))
      simp only [run, goesOn]
      exact ih _ still
  | @upsert write next same each ih =>
      obtain ⟨answers, still⟩ := alike.ask (.perform (.upsert write))
      have goesOn : next (DocumentStore.upsert write store).1
          = next (DocumentStore.upsert write other).1 :=
        eq_of_withoutDetail_eq same (Answer.upserted.inj (Reply.answered.inj answers))
      simp only [run, goesOn]
      exact ih _ still
  | @update write next same each ih =>
      obtain ⟨answers, still⟩ := alike.ask (.perform (.update write))
      have goesOn : next (DocumentStore.update write store).1
          = next (DocumentStore.update write other).1 :=
        eq_of_withoutDetail_eq same (Answer.updated.inj (Reply.answered.inj answers))
      simp only [run, goesOn]
      exact ih _ still
  | @delete id force next same each ih =>
      obtain ⟨answers, still⟩ := alike.ask (.perform (.delete id force))
      have goesOn : next (DocumentStore.delete id force store).1
          = next (DocumentStore.delete id force other).1 :=
        eq_of_withoutDetail_eq same (Answer.deleted.inj (Reply.answered.inj answers))
      simp only [run, goesOn]
      exact ih _ still
  | @query resource filters window next same each ih =>
      obtain ⟨answers, still⟩ := alike.ask (.query resource filters window)
      have goesOn : next (DocumentStore.query index resource filters window store).1
          = next (DocumentStore.query otherIndex resource filters window other).1 :=
        eq_of_withoutDetail_eq same (Reply.queried.inj answers)
      simp only [run, goesOn]
      exact ih _ still
  | @search resource filters window next same each ih =>
      obtain ⟨answers, still⟩ := alike.ask (.search resource filters window)
      have goesOn : next (index.search resource filters window)
          = next (otherIndex.search resource filters window) :=
        eq_of_withoutDetail_eq same (Reply.searched.inj answers)
      simp only [run, goesOn]
      exact ih _ still

end Blind

end Script

/-! ### The requests -/

namespace Request

theorem checkOwnership_blind (id : DocumentId) (security : Security) :
    (checkOwnership id security).Blind := by
  unfold checkOwnership
  cases security.strategy with
  | fullAccess => exact .done _
  | ownershipBased =>
      apply Script.Blind.get
      · intro outcome
        cases outcome <;> rfl
      · intro outcome
        cases outcome <;> exact .done _

theorem checkReferences_blind (context : RequestContext) (document : Document) :
    (checkReferences context document).Blind := by
  unfold checkReferences
  split
  · cases misses : (context.validation.descriptorPolicy.enforced document).filter
        fun id => !context.cache.contains id with
    | nil =>
        simp only [validateReferences, misses]
        exact .done _
    | cons first rest =>
        -- The look-up hands the detail on; only what comes after it takes no notice.
        simp only [validateReferences, misses]
        apply Script.Blind.findExisting
        · intro found
          cases found <;> rfl
        · intro found
          cases found <;> exact .done _
  · exact .done _

theorem upsertChecked_blind (context : RequestContext) (document : Document) :
    (upsertChecked context document).Blind := by
  apply (checkReferences_blind context document).andThen
  intro checked
  cases checked with
  | failed => exact .done _
  | unresolved ids => exact .done _
  | ready write =>
      apply Script.Blind.upsert
      · intro outcome
        cases outcome <;> rfl
      · exact fun _ => .done _

theorem updateChecked_blind (context : RequestContext) (document : Document) :
    (updateChecked context document).Blind := by
  apply (checkReferences_blind context document).andThen
  intro checked
  cases checked with
  | failed => exact .done _
  | unresolved ids => exact .done _
  | ready write =>
      apply Script.Blind.update
      · intro outcome
        cases outcome <;> rfl
      · exact fun _ => .done _

end Request

open Request

theorem UpsertRequest.script_blind (request : UpsertRequest) (context : RequestContext) :
    (request.script context).Blind := by
  unfold script
  split
  · exact .done _
  · split
    · exact .done _
    · next document _ =>
        dsimp only
        split
        · exact .done _
        · apply (checkOwnership_blind document.id request.security).andThen
          intro ownership
          cases ownership with
          | permitted stored => exact upsertChecked_blind context document
          | denied => exact .done _
          | failed => exact .done _

theorem UpdateRequest.script_blind (request : UpdateRequest) (context : RequestContext) :
    (request.script context).Blind := by
  unfold script
  split
  · exact .done _
  · split
    · exact .done _
    · next document _ =>
        split
        · exact .done _
        · apply Script.Blind.get
          · intro outcome
            cases outcome <;> rfl
          · intro outcome
            cases outcome with
            | success stored =>
                dsimp only
                split
                · exact .done _
                · exact updateChecked_blind context document
            | notExists => exact .done _
            | unknownFailure detail => exact .done _

theorem GetRequest.script_blind (request : GetRequest) : request.script.Blind := by
  apply Script.Blind.get
  · intro outcome
    cases outcome <;> rfl
  · intro outcome
    cases outcome <;> exact .done _

theorem QueryRequest.script_blind (request : QueryRequest) (context : RequestContext) :
    (request.script context).Blind := by
  unfold script
  split
  · exact .done _
  · split
    · apply Script.Blind.query
      · intro outcome
        cases outcome <;> rfl
      · intro outcome
        cases outcome <;> exact .done _
    · apply Script.Blind.search
      · intro found
        cases found <;> rfl
      · intro found
        cases found <;> exact .done _

theorem DeleteRequest.script_blind (request : DeleteRequest) : request.script.Blind := by
  apply (checkOwnership_blind request.id request.security).andThen
  intro ownership
  cases ownership with
  | permitted stored =>
      dsimp only
      split
      · exact .done _
      · apply Script.Blind.delete
        · intro outcome
          cases outcome <;> rfl
        · exact fun _ => .done _
  | denied => exact .done _
  | failed => exact .done _

/-! ### Services -/

namespace Service

variable {σ τ κ μ : Type} [DocumentStore σ] [DocumentStore τ] [ProjectionSink κ]
  [ProjectionSink μ]

structure Alike (service : Service σ κ) (other : Service τ μ) : Prop where
  config : service.config = other.config
  cache : service.cache = other.cache
  projector : service.projector = other.projector
  answers : AnswersAlike service.index service.store other.index other.store

variable {service : Service σ κ} {other : Service τ μ}

theorem Alike.context (alike : service.Alike other) : service.context = other.context := by
  simp only [Service.context, alike.config, alike.cache]

theorem Alike.absorb (alike : service.Alike other) (commit : Commit) :
    (service.absorb commit).Alike (other.absorb commit) := by
  obtain ⟨config, cache, projector, answers⟩ := alike
  cases commit with
  | nothing => exact ⟨config, cache, projector, answers⟩
  | inserted document =>
      exact ⟨config, by simp only [Service.absorb, cache], by simp only [Service.absorb, projector],
        answers⟩
  | replaced document => exact ⟨config, cache, by simp only [Service.absorb, projector], answers⟩
  | deleted document =>
      exact ⟨config, by simp only [Service.absorb, cache], by simp only [Service.absorb, projector],
        answers⟩

theorem Alike.perform {α : Type} (alike : service.Alike other) {script : Script (α × Commit)}
    (blind : script.Blind) :
    (service.perform script).1 = (other.perform script).1 ∧
      (service.perform script).2.Alike (other.perform script).2 := by
  obtain ⟨same, still⟩ := blind.run_alike alike.answers
  have stored : Alike { service with store := (script.run service.index service.store).2 }
      { other with store := (script.run other.index other.store).2 } :=
    ⟨alike.config, alike.cache, alike.projector, still⟩
  constructor
  · exact congrArg Prod.fst same
  · simp only [Service.perform, same]
    exact stored.absorb _

/-- Services that differ only in the detail with which their stores and indexes fail give every
    request the same result, field by field, and do so afterwards too: their caches and projectors
    stay the same. -/
theorem detail_withheld (alike : service.Alike other) :
    (∀ request : UpsertRequest, (service.upsert request).1 = (other.upsert request).1 ∧
      (service.upsert request).2.Alike (other.upsert request).2) ∧
    (∀ request : UpdateRequest, (service.update request).1 = (other.update request).1 ∧
      (service.update request).2.Alike (other.update request).2) ∧
    (∀ request : GetRequest, (service.get request).1 = (other.get request).1 ∧
      (service.get request).2.Alike (other.get request).2) ∧
    (∀ request : QueryRequest, (service.query request).1 = (other.query request).1 ∧
      (service.query request).2.Alike (other.query request).2) ∧
    ∀ request : DeleteRequest, (service.delete request).1 = (other.delete request).1 ∧
      (service.delete request).2.Alike (other.delete request).2 := by
  refine ⟨fun request => ?_, fun request => ?_, fun request => alike.perform request.script_blind,
    fun request => ?_, fun request => alike.perform request.script_blind⟩
  · unfold upsert
    rw [← alike.context]
    exact alike.perform (request.script_blind _)
  · unfold update
    rw [← alike.context]
    exact alike.perform (request.script_blind _)
  · unfold query
    rw [← alike.context]
    exact alike.perform (request.script_blind _)

end Service

def RehearsedStore.failing (detail : String) (lookups : List (List DocumentId)) :
    RehearsedStore Engine :=
  { store := .emptyMemory
    lookups := lookups
    upsertAnswer := some ⟨.unknownFailure detail, none⟩
    updateAnswer := some ⟨.unknownFailure detail, none⟩
    getAnswer := some ⟨.unknownFailure detail, none⟩
    deleteAnswer := some ⟨.unknownFailure detail, none⟩
    queryAnswer := some ⟨.unknownFailure detail, none⟩
    findExistingError := some ⟨.engine detail, none⟩
    scanError := some ⟨.engine detail, none⟩ }

theorem RehearsedStore.failing_alike (detail other : String) :
    AnswersAlike .empty (failing detail []) .empty (failing other []) := by
  apply AnswersAlike.of_steps
    fun one another => ∃ lookups, one = failing detail lookups ∧ another = failing other lookups
  · rintro _ _ ⟨lookups, rfl, rfl⟩ question
    cases question with
    | perform call =>
        cases call with
        | findExisting ids => exact ⟨rfl, lookups ++ [ids], rfl, rfl⟩
        | upsert write => exact ⟨rfl, lookups, rfl, rfl⟩
        | update write => exact ⟨rfl, lookups, rfl, rfl⟩
        | get id => exact ⟨rfl, lookups, rfl, rfl⟩
        | delete id force => exact ⟨rfl, lookups, rfl, rfl⟩
        | scan bound limit => exact ⟨rfl, lookups, rfl, rfl⟩
    | query resource filters window => exact ⟨rfl, lookups, rfl, rfl⟩
    | search resource filters window => exact ⟨rfl, lookups, rfl, rfl⟩
  · exact ⟨[], rfl, rfl⟩

theorem Service.detail_withheld_delete :
    let service := start {} (RehearsedStore.failing "disk full: docs.redb" []) SearchIndex.empty
    let other := start {} (RehearsedStore.failing "no such table: documents" []) SearchIndex.empty
    let request := DeleteRequest.plain (.numbered 1) ⟨"client", .fullAccess⟩ "trace"
    service.Alike other ∧
      (service.delete request).1 = (other.delete request).1 ∧
      (other.delete request).1 = .failure .unknownFailure unknownFailureMessage := by
  intro service other request
  have alike : service.Alike other := ⟨rfl, rfl, rfl, RehearsedStore.failing_alike _ _⟩
  exact ⟨alike, ((detail_withheld alike).2.2.2.2 request).1, rfl⟩

end Docket
