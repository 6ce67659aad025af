import Docket.Proofs.Document
import Docket.Proofs.Store.WriteEnd
import Docket.Service.Requests
/-!
How requests run on an engine.

Up to the check of its references a request for a write does not look at the cache, and leaves the
store as it is. The check then finds the ids that are neither remembered nor exist
(`RequestContext.lacking`); when there are none the write is made, and it is the same write whatever
was remembered (`ValidationSettings.write`).
-/

namespace Docket

theorem Script.run_andThen {α β σ : Type} [DocumentStore σ] (index : SearchIndex)
    (script : Script α) (rest : α → Script β) (store : σ) :
    (script.andThen rest).run index store
      = (rest (script.run index store).1).run index (script.run index store).2 := by
  induction script generalizing store with
  | done result => rfl
  | get id next ih => exact ih _ _
  | findExisting ids next ih => exact ih _ _
  | upsert write next ih => exact ih _ _
  | update write next ih => exact ih _ _
  | delete id force next ih => exact ih _ _
  | query resource filters window next ih => exact ih _ _
  | search resource filters window next ih => exact ih _ _

def ValidationSettings.write (settings : ValidationSettings) (document : Document) :
    DocumentWrite :=
  if settings.validateReferences then
    ⟨{ document with validated := (settings.descriptorPolicy.deferred document).isEmpty },
      settings.descriptorPolicy.enforced document⟩
  else ⟨{ document with validated := false }, []⟩

@[simp] theorem ValidationSettings.write_id (settings : ValidationSettings) (document : Document) :
    (settings.write document).document.id = document.id := by
  unfold write
  split <;> rfl

@[simp] theorem ValidationSettings.write_body (settings : ValidationSettings)
    (document : Document) : (settings.write document).document.body = document.body := by
  unfold write
  split <;> rfl

@[simp] theorem ValidationSettings.write_existenceIds (settings : ValidationSettings)
    (document : Document) :
    (settings.write document).document.existenceIds = document.existenceIds := by
  unfold write
  split <;> rfl

@[simp] theorem ValidationSettings.write_outRefs (settings : ValidationSettings)
    (document : Document) : (settings.write document).document.outRefs = document.outRefs := by
  unfold write
  split <;> rfl

@[simp] theorem ValidationSettings.write_resource (settings : ValidationSettings)
    (document : Document) : (settings.write document).document.resource = document.resource := by
  unfold write
  split <;> rfl

@[simp] theorem ValidationSettings.write_identity (settings : ValidationSettings)
    (document : Document) : (settings.write document).document.identity = document.identity := by
  unfold write
  split <;> rfl

@[simp] theorem ValidationSettings.write_createdBy (settings : ValidationSettings)
    (document : Document) : (settings.write document).document.createdBy = document.createdBy := by
  unfold write
  split <;> rfl

theorem ValidationSettings.write_enforcedRefs {settings : ValidationSettings}
    (checks : settings.validateReferences = true) (document : Document) :
    (settings.write document).enforcedRefs = settings.descriptorPolicy.enforced document := by
  simp [write, checks]

def RequestContext.lacking (context : RequestContext) (existence : Table DocumentId DocumentId)
    (document : Document) : List DocumentId :=
  ((context.validation.write document).enforcedRefs.filter fun id =>
    !context.cache.contains id).filter fun id => !existence.contains id

namespace Request

variable (index : SearchIndex) (engine : Engine)

theorem filter_not_found {existence : Table DocumentId DocumentId} (misses : List DocumentId) :
    (misses.filter fun id => !(sortedIds (misses.filter existence.contains)).contains id)
      = misses.filter fun id => !existence.contains id := by
  apply List.filter_congr
  intro id member
  congr 1
  rw [Bool.eq_iff_iff, List.contains_iff_mem, sortedIds, KeySet.mem_sorted, List.mem_filter]
  simp [member]

theorem run_validateReferences (policy : DescriptorPolicy) (cache : ExistenceCache)
    (document : Document) :
    (validateReferences policy cache document).run index engine
      = (.ok ⟨((policy.enforced document).filter fun id => !cache.contains id).filter fun id =>
            !engine.existence.contains id,
          policy.enforced document, policy.deferred document⟩, engine) := by
  simp only [validateReferences]
  generalize (policy.enforced document).filter _ = misses
  cases misses with
  | nil => rfl
  | cons id rest => simp only [Script.run, Engine.findExisting_eq, filter_not_found]

theorem run_checkReferences (context : RequestContext) (document : Document) :
    (checkReferences context document).run index engine
      = (match context.lacking engine.existence document with
          | [] => .ready (context.validation.write document)
          | ids => .unresolved ids, engine) := by
  unfold checkReferences RequestContext.lacking ValidationSettings.write
  by_cases asked : context.validation.validateReferences = true
  · simp only [asked, if_true, Script.run_andThen, run_validateReferences, Script.run,
      ValidationResult.isValid, ValidationResult.fullyChecked]
    generalize List.filter _ _ = lacking
    cases lacking with
    | nil => rfl
    | cons id rest => rfl
  · simp [asked, Script.run]

theorem checkOwnership_unchanged (id : DocumentId) (security : Security) :
    ((checkOwnership id security).run index engine).2 = engine := by
  unfold checkOwnership
  split
  · rfl
  · simp only [Script.run]
    split
    · exact Engine.get_unchanged id engine
    · exact Engine.get_unchanged id engine
    · exact Engine.get_unchanged id engine

end Request

open Request Contents

/-- What tells an upsert from an update once the references are checked: whether the write may
    insert, and what is answered. -/
structure WriteKind (α : Type) where
  insertAllowed : Bool
  /-- The answer to the write of a document, and what it committed. -/
  answer : Document → Applied → α × Commit
  /-- The answer where ids do not resolve that the document of an id asks for. -/
  unresolved : DocumentId → List DocumentId → α
  succeeds : α → Bool
  /-- The ids that are told not to resolve, if that is what is answered. -/
  invalidRefs? : α → Option (List DocumentId)
  invalidRefs?_unresolved : ∀ id ids, invalidRefs? (unresolved id ids) = some ids
  fails_of_invalidRefs? : ∀ result ids, invalidRefs? result = some ids → succeeds result = false
  answer_missing : ∀ document ids,
    answer document (.refused (.missing ids)) = (unresolved document.id ids, .nothing)
  answer_refused : ∀ document cause, (∀ ids, cause ≠ .missing ids) →
    ∃ result, answer document (.refused cause) = (result, .nothing) ∧
      succeeds result = false ∧ invalidRefs? result = none
  answer_inserted : ∀ document, insertAllowed = true →
    ∃ result, answer document .inserted = (result, .inserted document) ∧ succeeds result = true
  answer_updated : ∀ document,
    ∃ result, answer document .updated = (result, .replaced document) ∧ succeeds result = true

namespace WriteKind

def upsert : WriteKind UpsertResult where
  insertAllowed := true
  answer document applied := upsertAnswer document applied.upsertOutcome
  unresolved id ids := (unresolvedUpsert id ids).1
  succeeds := UpsertResult.isSuccess
  invalidRefs? result :=
    if result.status = .validationFailure then some result.invalidRefs else none
  invalidRefs?_unresolved _ _ := rfl
  fails_of_invalidRefs? result ids told := by
    split at told
    · next status => simp [UpsertResult.isSuccess, status]
    · simp at told
  answer_missing _ _ := rfl
  answer_refused document cause other := by
    cases cause with
    | missing ids => exact absurd rfl (other ids)
    | notExists => exact ⟨_, rfl, rfl, rfl⟩
    | conflict cause => exact ⟨_, rfl, rfl, rfl⟩
    | failed cause => exact ⟨_, rfl, rfl, rfl⟩
  answer_inserted _ _ := ⟨_, rfl, rfl⟩
  answer_updated _ := ⟨_, rfl, rfl⟩

def update : WriteKind UpdateResult where
  insertAllowed := false
  answer document applied := updateAnswer document applied.updateOutcome
  unresolved _ ids := (unresolvedUpdate ids).1
  succeeds result := result.status = .updateSuccess
  invalidRefs? result :=
    if result.status = .validationFailure then some result.invalidRefs else none
  invalidRefs?_unresolved _ _ := rfl
  fails_of_invalidRefs? result ids told := by
    split at told
    · next status => simp [status]
    · simp at told
  answer_missing _ _ := rfl
  answer_refused document cause other := by
    cases cause with
    | missing ids => exact absurd rfl (other ids)
    | notExists => exact ⟨_, rfl, rfl, rfl⟩
    | conflict cause => exact ⟨_, rfl, rfl, rfl⟩
    | failed cause => exact ⟨_, rfl, rfl, rfl⟩
  answer_inserted _ allowed := by simp at allowed
  answer_updated _ := ⟨_, rfl, rfl⟩

variable {α : Type} (kind : WriteKind α)

theorem answer_refused_commit (document : Document) (cause : Refusal) :
    (kind.answer document (.refused cause)).2 = .nothing := by
  by_cases missing : ∃ ids, cause = .missing ids
  · obtain ⟨ids, rfl⟩ := missing
    rw [kind.answer_missing]
  · rw [not_exists] at missing
    obtain ⟨result, told, _⟩ := kind.answer_refused document cause missing
    rw [told]

def checked (context : RequestContext) (document : Document) (engine : Engine) :
    (α × Commit) × Engine :=
  match context.lacking engine.existence document with
  | [] =>
      let write := context.validation.write document
      let (applied, next) := engine.write write kind.insertAllowed
      (kind.answer write.document applied, next)
  | ids => ((kind.unresolved document.id ids, .nothing), engine)

inductive CheckedEnd (context : RequestContext) (document : Document) (engine : Engine) :
    (α × Commit) × Engine → Prop where
  | unresolved (lacking : context.lacking engine.existence document ≠ []) :
      CheckedEnd context document engine
        ((kind.unresolved document.id (context.lacking engine.existence document), .nothing),
          engine)
  /-- All that is missing was remembered, and the store has found it missing. -/
  | missing (remembered : context.lacking engine.existence document = [])
      (lacking : absent engine.existence (context.validation.write document).enforcedRefs ≠ []) :
      CheckedEnd context document engine
        ((kind.unresolved document.id
            (absent engine.existence (context.validation.write document).enforcedRefs),
          .nothing), engine)
  | refused {result : α} (fails : kind.succeeds result = false)
      (silent : kind.invalidRefs? result = none) :
      CheckedEnd context document engine ((result, .nothing), engine)
  | inserted {result : α} {next : Engine} (succeeds : kind.succeeds result = true)
      (found : absent engine.existence (context.validation.write document).enforcedRefs = []) :
      CheckedEnd context document engine
        ((result, .inserted (context.validation.write document).document), next)
  | replaced {result : α} {next : Engine} (succeeds : kind.succeeds result = true)
      (found : absent engine.existence (context.validation.write document).enforcedRefs = []) :
      CheckedEnd context document engine
        ((result, .replaced (context.validation.write document).document), next)

theorem checked_end (context : RequestContext) (document : Document) (engine : Engine) :
    kind.CheckedEnd context document engine (kind.checked context document engine) := by
  cases lacking : context.lacking engine.existence document with
  | cons id rest =>
      have some : context.lacking engine.existence document ≠ [] := by simp [lacking]
      have told : kind.checked context document engine
          = ((kind.unresolved document.id (context.lacking engine.existence document), .nothing),
            engine) := by
        simp only [checked, lacking]
      rw [told]
      exact .unresolved some
  | nil =>
      have ended := engine.write_end (context.validation.write document) kind.insertAllowed
      rcases written : engine.write (context.validation.write document) kind.insertAllowed
        with ⟨applied, next⟩
      rw [written] at ended
      simp only [checked, lacking, written]
      cases ended with
      | missing absent =>
          rw [kind.answer_missing, ValidationSettings.write_id]
          exact .missing lacking absent
      | refused other =>
          obtain ⟨result, told, fails, silent⟩ := kind.answer_refused
            (context.validation.write document).document _ other
          rw [told]
          exact .refused fails silent
      | inserted allowed found =>
          obtain ⟨result, told, succeeds⟩ := kind.answer_inserted
            (context.validation.write document).document allowed
          rw [told]
          exact .inserted succeeds found
      | updated found =>
          obtain ⟨result, told, succeeds⟩ := kind.answer_updated
            (context.validation.write document).document
          rw [told]
          exact .replaced succeeds found

theorem checked_of_found {context : RequestContext} {document : Document} {engine : Engine}
    (found : absent engine.existence (context.validation.write document).enforcedRefs = []) :
    kind.checked context document engine
      = let write := context.validation.write document
        let (applied, next) := engine.write write kind.insertAllowed
        (kind.answer write.document applied, next) := by
  have nothing : context.lacking engine.existence document = [] := by
    rw [RequestContext.lacking, List.filter_eq_nil_iff]
    intro id miss
    have exist := absent_eq_nil_iff.mp found id (List.mem_filter.mp miss).1
    simp [exist]
  simp only [checked, nothing]

/-- How a request runs, whatever is remembered: it is refused before its references are checked, or
    it comes to the check. -/
inductive Runs (made : Except Error Document) (script : RequestContext → Script (α × Commit))
    (index : SearchIndex) (engine : Engine) : Prop where
  | refused (result : α) (fails : kind.succeeds result = false)
      (silent : kind.invalidRefs? result = none)
      (run : ∀ context, (script context).run index engine = ((result, .nothing), engine))
  | checked (document : Document) (made : made = .ok document)
      (isObject : document.body.isObject = true)
      (run : ∀ context, (script context).run index engine
        = kind.checked context document engine)

end WriteKind

section Runs

variable (index : SearchIndex) (engine : Engine)

theorem Request.run_upsertChecked (context : RequestContext) (document : Document) :
    (upsertChecked context document).run index engine
      = WriteKind.upsert.checked context document engine := by
  rw [upsertChecked, Script.run_andThen, run_checkReferences, WriteKind.checked]
  cases context.lacking engine.existence document with
  | nil => simp only [Script.run, Engine.upsert_eq]; rfl
  | cons id rest => rfl

theorem Request.run_updateChecked (context : RequestContext) (document : Document) :
    (updateChecked context document).run index engine
      = WriteKind.update.checked context document engine := by
  rw [updateChecked, Script.run_andThen, run_checkReferences, WriteKind.checked]
  cases context.lacking engine.existence document with
  | nil => simp only [Script.run, Engine.update_eq]; rfl
  | cons id rest => rfl

structure UpsertRequest.Makes (request : UpsertRequest) (document : Document) : Prop where
  isObject : request.body.isObject = true
  made : request.document = .ok document
  agrees : request.id.filter (· ≠ document.id) = none

theorem UpsertRequest.run_of_makes {request : UpsertRequest} {document : Document}
    (makes : request.Makes document) (context : RequestContext) :
    (request.script context).run index engine
      = match ((checkOwnership document.id request.security).run index engine).1 with
        | .denied => ((.failure .forbidden (some document.id) otherClientMessage, .nothing), engine)
        | .failed =>
            ((.failure .unknownFailure (some document.id) unknownFailureMessage, .nothing), engine)
        | .permitted _ => WriteKind.upsert.checked context document engine := by
  have unchanged := checkOwnership_unchanged index engine document.id request.security
  simp only [script, makes.isObject, makes.made, makes.agrees, Bool.not_true, Bool.false_eq_true,
    if_false, Script.run_andThen, unchanged]
  cases ((checkOwnership document.id request.security).run index engine).1 with
  | denied => rfl
  | failed => rfl
  | permitted stored => exact run_upsertChecked index engine context document

theorem UpsertRequest.makes_or_refused (request : UpsertRequest) :
    (∃ document, request.Makes document) ∨
      ∃ result : UpsertResult, result.isSuccess = false ∧ result.status ≠ .validationFailure ∧
        ∀ context index (engine : Engine),
          (request.script context).run index engine = ((result, .nothing), engine) := by
  by_cases isObject : request.body.isObject = true
  · cases made : request.document with
    | error cause =>
        refine .inr ⟨.failure .invalidIdentity none cause.message, rfl, nofun, ?_⟩
        intro context index engine
        simp [script, isObject, made, Script.run]
    | ok document =>
        cases expected : request.id.filter (· ≠ document.id) with
        | none => exact .inl ⟨document, isObject, made, expected⟩
        | some other =>
            refine .inr ⟨.failure .conflict (some document.id)
              ("request id " ++ other.text ++ " does not match derived id " ++ document.id.text),
              rfl, nofun, ?_⟩
            intro context index engine
            simp only [script, isObject, made, expected, Bool.not_true, Bool.false_eq_true,
              if_false]
            rfl
  · refine .inr ⟨.failure .invalidBody none bodyNotObjectMessage, rfl, nofun, ?_⟩
    intro context index engine
    simp [script, isObject, Script.run]

theorem UpsertRequest.runs (request : UpsertRequest) :
    WriteKind.upsert.Runs request.document request.script index engine := by
  obtain ⟨document, makes⟩ | ⟨result, fails, other, run⟩ := request.makes_or_refused
  · have run := fun context => run_of_makes index engine makes context
    cases owner : ((checkOwnership document.id request.security).run index engine).1 with
    | denied =>
        simp only [owner] at run
        exact .refused _ rfl rfl run
    | failed =>
        simp only [owner] at run
        exact .refused _ rfl rfl run
    | permitted stored =>
        simp only [owner] at run
        have body : document.body = request.body := (document_eq_ok makes.made).2
        exact .checked document makes.made (by rw [body, makes.isObject]) run
  · exact .refused result fails (if_neg other) fun context => run context index engine

structure UpdateRequest.Makes (request : UpdateRequest) (document : Document) : Prop where
  isObject : request.body.isObject = true
  made : request.document = .ok document
  kept : document.id = request.id

theorem UpdateRequest.run_of_makes {request : UpdateRequest} {document : Document}
    (makes : request.Makes document) (context : RequestContext) :
    (request.script context).run index engine
      = match (DocumentStore.get request.id engine).1 with
        | .notExists => ((⟨.notExists, [], none⟩, .nothing), engine)
        | .unknownFailure _ =>
            ((.failure .unknownFailure unknownFailureMessage, .nothing), engine)
        | .success stored =>
            if request.security.permits stored then
              WriteKind.update.checked context document engine
            else ((.failure .forbidden otherClientMessage, .nothing), engine) := by
  have unchanged := Engine.get_unchanged request.id engine
  simp only [script, makes.isObject, makes.made, makes.kept, Bool.not_true, Bool.false_eq_true,
    if_false, ne_eq, not_true_eq_false, Script.run, unchanged]
  cases (DocumentStore.get request.id engine).1 with
  | notExists => rfl
  | unknownFailure detail => rfl
  | success stored =>
      by_cases permitted : request.security.permits stored = true
      · simp only [permitted, Bool.not_true, Bool.false_eq_true, if_false, if_true,
          run_updateChecked]
      · simp [permitted, Script.run]

theorem UpdateRequest.makes_or_refused (request : UpdateRequest) :
    (∃ document, request.Makes document) ∨
      ∃ result : UpdateResult, result.status ≠ .updateSuccess ∧
        result.status ≠ .validationFailure ∧ ∀ context index (engine : Engine),
          (request.script context).run index engine = ((result, .nothing), engine) := by
  by_cases isObject : request.body.isObject = true
  · cases made : request.document with
    | error cause =>
        refine .inr ⟨.failure .invalidIdentity cause.message, nofun, nofun, ?_⟩
        intro context index engine
        simp [script, isObject, made, Script.run]
    | ok document =>
        by_cases kept : document.id = request.id
        · exact .inl ⟨document, isObject, made, kept⟩
        · refine .inr ⟨.failure .immutableIdentity
            ("identity change would move document " ++ request.id.text ++ " to "
              ++ document.id.text), nofun, nofun, ?_⟩
          intro context index engine
          simp only [script, isObject, made, kept, Bool.not_true, Bool.false_eq_true, if_false,
            ne_eq, not_false_eq_true, if_true]
          rfl
  · refine .inr ⟨.failure .invalidBody bodyNotObjectMessage, nofun, nofun, ?_⟩
    intro context index engine
    simp [script, isObject, Script.run]

theorem UpdateRequest.runs (request : UpdateRequest) :
    WriteKind.update.Runs request.document request.script index engine := by
  obtain ⟨document, makes⟩ | ⟨result, fails, other, run⟩ := request.makes_or_refused
  · have run := fun context => run_of_makes index engine makes context
    cases found : (DocumentStore.get request.id engine).1 with
    | notExists =>
        simp only [found] at run
        exact .refused _ rfl rfl run
    | unknownFailure detail =>
        simp only [found] at run
        exact .refused _ rfl rfl run
    | success stored =>
        simp only [found] at run
        by_cases permitted : request.security.permits stored = true
        · simp only [permitted, if_true] at run
          have body : document.body = request.body := (document_eq_ok makes.made).2
          exact .checked document makes.made (by rw [body, makes.isObject]) run
        · simp only [permitted, Bool.false_eq_true, if_false] at run
          exact .refused _ rfl rfl run
  · exact .refused result (decide_eq_false fails) (if_neg other)
      fun context => run context index engine

end Runs

end Docket
