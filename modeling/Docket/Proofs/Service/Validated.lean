import Docket.Proofs.Service.Effects
import Docket.Proofs.Service.Enforcement
/-!
What the flag of a written document says of its references.

The flag is set before the write, by a check that takes the word of the cache. It is true still: it
is set only if nothing is deferred, so that every reference of the document is among the ids that
the store looks for on commit. This does not depend on when the check was made. A request takes its
operations one by one, with those of others in between (`Ongoing.after`), and what the flag says is
said of the store that the commit finds (`EngineKind.validated_honest`).
-/

namespace Docket

open Request Contents

theorem DescriptorPolicy.isEmpty_deferred_iff {policy : DescriptorPolicy} {document : Document} :
    (policy.deferred document).isEmpty = true ↔
      ∀ ref ∈ document.outRefs,
        policy.defers document.resource.isDescriptor ref.isDescriptor = false := by
  rw [deferred, List.isEmpty_iff, List.eq_nil_iff_forall_not_mem]
  simp only [(sortKeys_perm _).mem_iff, List.mem_map, List.mem_filter]
  constructor
  · intro none ref member
    by_contra deferred
    exact none ref.id ⟨ref, ⟨member, by simpa using deferred⟩, rfl⟩
  · rintro checked id ⟨ref, ⟨member, deferred⟩, -⟩
    simp [checked ref member] at deferred

theorem ValidationSettings.write_validated_iff {settings : ValidationSettings}
    {document : Document} :
    (settings.write document).document.validated = true ↔
      settings.validateReferences = true ∧ ∀ ref ∈ document.outRefs,
        settings.descriptorPolicy.defers document.resource.isDescriptor ref.isDescriptor
          = false := by
  unfold write
  split
  · next checks => simp only [checks, true_and, DescriptorPolicy.isEmpty_deferred_iff]
  · next unchecked => simp [unchecked]

/-- A stored document is flagged exactly if its references are checked and none of them is deferred,
    and if it is flagged, all of them go to documents that were found. -/
structure Document.Honest (settings : ValidationSettings) (found : Contents)
    (stored : Document) : Prop where
  validated_iff : stored.validated = true ↔
    settings.validateReferences = true ∧ ∀ ref ∈ stored.outRefs,
      settings.descriptorPolicy.defers stored.resource.isDescriptor ref.isDescriptor = false
  resolved : stored.validated = true → ∀ ref ∈ stored.outRefs, found.Resolves ref.id

variable {settings : ValidationSettings} {document : Document}

theorem Contents.Accepts.honest {contents : Contents}
    (accepts : contents.Accepts (settings.write document)) (old : Option Document) :
    ((settings.write document).document.keepingCreator old).Honest settings contents := by
  have validated_iff := @ValidationSettings.write_validated_iff settings document
  constructor
  · simpa using validated_iff
  · intro validated ref member
    simp only [Document.keepingCreator_validated, Document.keepingCreator_outRefs,
      ValidationSettings.write_outRefs] at validated member
    obtain ⟨checks, checked⟩ := validated_iff.mp validated
    apply accepts.enforced
    rw [ValidationSettings.write_enforcedRefs checks, DescriptorPolicy.mem_enforced_iff]
    refine ⟨ref, member, rfl, ?_⟩
    simpa [DescriptorPolicy.defers_eq] using checked ref member

def Engine.WritesHonestly (settings : ValidationSettings) (document : Document)
    (store next : Engine) : Prop :=
  ∃ before after stored, store.Holds before ∧ next.Holds after ∧
    after.get? document.id = some stored ∧ stored.outRefs = document.outRefs ∧
    stored.Honest settings before

theorem Engine.writesHonestly_of_write {store next : Engine} {contents : Contents}
    (held : store.Holds contents) {insertAllowed : Bool} {applied : Applied}
    (written : store.write (settings.write document) insertAllowed = (applied, next))
    (done : ∀ cause, applied ≠ .refused cause) :
    store.WritesHonestly settings document next := by
  obtain ⟨accepts, after⟩ := accepts_of_write held written done
  have found := contents.get?_put_self (settings.write document).document
  rw [ValidationSettings.write_id] at found
  exact ⟨contents, _, _, held, after, found, by simp, accepts.honest _⟩

namespace Service.WriteEffect

variable {κ α : Type} {service : Service Engine κ} {kind : WriteKind α}
  {made : Except Error Document} {run : α × Service Engine κ} {contents : Contents}

theorem writesHonestly (effect : service.WriteEffect kind made run)
    (held : service.store.Holds contents) (succeeds : kind.succeeds run.1 = true) :
    ∃ document, made = .ok document ∧
      service.store.WritesHonestly service.config.validation document run.2.store := by
  obtain ⟨document, applied, ok, written, done⟩ := effect.writes succeeds
  exact ⟨document, ok, Engine.writesHonestly_of_write held written done⟩

end Service.WriteEffect

namespace Script

variable {α β : Type} {asks : DocumentWrite → Prop} {ends : α → Prop}

/-- A script that may look up documents and ids, and may then make one write of a kind as its last
    operation. It ends in a certain way, unless that write is done. -/
def Guarded (asks : DocumentWrite → Prop) (ends : α → Prop) : Script α → Prop
  | .done result => ends result
  | .get _ next => ∀ outcome, (next outcome).Guarded asks ends
  | .findExisting _ next => ∀ answer, (next answer).Guarded asks ends
  | .upsert write next => asks write ∧ ∀ outcome, ∃ result, next outcome = .done result ∧
      (outcome ≠ .insertSuccess → outcome ≠ .updateSuccess → ends result)
  | .update write next => asks write ∧ ∀ outcome, ∃ result, next outcome = .done result ∧
      (outcome ≠ .success → ends result)
  | .delete _ _ _ | .query _ _ _ _ | .search _ _ _ _ => False

theorem Guarded.andThen {script : Script β} {post : β → Prop} {rest : β → Script α}
    (reads : script.Guarded (fun _ => False) post)
    (goes : ∀ result, post result → (rest result).Guarded asks ends) :
    (script.andThen rest).Guarded asks ends := by
  induction script with
  | done result => exact goes result reads
  | get id next ih => exact fun outcome => ih outcome (reads outcome)
  | findExisting ids next ih => exact fun answer => ih answer (reads answer)
  | upsert write next ih => exact reads.1.elim
  | update write next ih => exact reads.1.elim
  | delete id force next ih => exact reads.elim
  | query resource filters window next ih => exact reads.elim
  | search resource filters window next ih => exact reads.elim

end Script

namespace Request

theorem guarded_checkOwnership (id : DocumentId) (security : Security) :
    (checkOwnership id security).Guarded (fun _ => False) fun _ => True := by
  unfold checkOwnership
  split
  · trivial
  · intro outcome
    cases outcome with
    | success stored => trivial
    | notExists => trivial
    | unknownFailure detail => trivial

theorem guarded_validateReferences (policy : DescriptorPolicy) (cache : ExistenceCache)
    (document : Document) :
    (validateReferences policy cache document).Guarded (fun _ => False) fun result =>
      ∀ found, result = .ok found →
        found.enforced = policy.enforced document ∧ found.deferred = policy.deferred document := by
  unfold validateReferences
  simp only
  split
  · rintro _ ⟨⟩
    exact ⟨rfl, rfl⟩
  · intro answer
    cases answer with
    | error cause => exact nofun
    | ok ids =>
        rintro _ ⟨⟩
        exact ⟨rfl, rfl⟩

theorem guarded_checkReferences (context : RequestContext) (document : Document) :
    (checkReferences context document).Guarded (fun _ => False) fun checked =>
      ∀ write, checked = .ready write → write = context.validation.write document := by
  unfold checkReferences ValidationSettings.write
  split
  · refine (guarded_validateReferences _ _ _).andThen fun result checked => ?_
    cases result with
    | error cause =>
        intro write ready
        cases ready
    | ok found =>
        obtain ⟨enforced, deferred⟩ := checked found rfl
        simp only [Script.Guarded, ValidationResult.fullyChecked, enforced, deferred]
        split
        · intro write ready
          exact (CheckedWrite.ready.inj ready).symm
        · intro write ready
          cases ready
  · intro write ready
    exact (CheckedWrite.ready.inj ready).symm

variable {context : RequestContext} {made : Except Error Document} {document : Document}

def Asks (settings : ValidationSettings) (made : Except Error Document) (write : DocumentWrite) :
    Prop :=
  ∃ document, made = .ok document ∧ write = settings.write document

theorem guarded_upsertChecked (ok : made = .ok document) :
    (upsertChecked context document).Guarded (Asks context.validation made)
      fun result => result.1.isSuccess = false := by
  refine (guarded_checkReferences context document).andThen fun checked ready => ?_
  cases checked with
  | failed => rfl
  | unresolved ids => rfl
  | ready write =>
      refine ⟨⟨document, ok, ready write rfl⟩, fun outcome => ⟨_, rfl, ?_⟩⟩
      intro notInserted notUpdated
      cases outcome with
      | insertSuccess => exact absurd rfl notInserted
      | updateSuccess => exact absurd rfl notUpdated
      | validationFailure ids => rfl
      | conflict message => rfl
      | unknownFailure message => rfl

theorem guarded_updateChecked (ok : made = .ok document) :
    (updateChecked context document).Guarded (Asks context.validation made)
      fun result => result.1.status ≠ .updateSuccess := by
  refine (guarded_checkReferences context document).andThen fun checked ready => ?_
  cases checked with
  | failed => exact nofun
  | unresolved ids => exact nofun
  | ready write =>
      refine ⟨⟨document, ok, ready write rfl⟩, fun outcome => ⟨_, rfl, ?_⟩⟩
      intro notDone
      cases outcome with
      | success => exact absurd rfl notDone
      | notExists => exact nofun
      | validationFailure ids => exact nofun
      | conflict message => exact nofun
      | unknownFailure message => exact nofun

end Request

theorem UpsertRequest.guarded_script (request : UpsertRequest) (context : RequestContext) :
    (request.script context).Guarded (Asks context.validation request.document)
      fun result => result.1.isSuccess = false := by
  unfold script
  simp only
  split
  · rfl
  · split
    · rfl
    · next document made =>
        split
        · rfl
        · refine (guarded_checkOwnership _ _).andThen fun ownership _ => ?_
          cases ownership with
          | denied => rfl
          | failed => rfl
          | permitted stored => exact guarded_upsertChecked made

theorem UpdateRequest.guarded_script (request : UpdateRequest) (context : RequestContext) :
    (request.script context).Guarded (Asks context.validation request.document)
      fun result => result.1.status ≠ .updateSuccess := by
  unfold script
  simp only
  split
  · exact nofun
  · split
    · exact nofun
    · next document made =>
        split
        · exact nofun
        · intro outcome
          cases outcome with
          | notExists => exact nofun
          | unknownFailure detail => exact nofun
          | success stored =>
              simp only
              split
              · exact nofun
              · exact guarded_updateChecked made

/-! ### Among the operations of others -/

structure Ongoing (α : Type) where
  script : Script (α × Commit)
  store : Engine

namespace Ongoing

inductive Move where
  | own
  | other (call : Call)

variable {α : Type}

def move (index : SearchIndex) (ongoing : Ongoing α) : Move → Ongoing α
  | .own => ⟨(ongoing.script.step index ongoing.store).1,
      (ongoing.script.step index ongoing.store).2⟩
  | .other call => { ongoing with store := (call.perform ongoing.store).2 }

def after (index : SearchIndex) (ongoing : Ongoing α) (moves : List Move) : Ongoing α :=
  moves.foldl (move index) ongoing

theorem after_concat (index : SearchIndex) (ongoing : Ongoing α) (moves : List Move) (next : Move) :
    ongoing.after index (moves ++ [next]) = (ongoing.after index moves).move index next :=
  List.foldl_concat ..

variable {index : SearchIndex} {settings : ValidationSettings} {made : Except Error Document}
  {ends : α × Commit → Prop} {ongoing : Ongoing α} {moves : List Move}

def HasWritten (index : SearchIndex) (settings : ValidationSettings)
    (made : Except Error Document) (ongoing : Ongoing α) (moves : List Move) : Prop :=
  ∃ document, made = .ok document ∧ ∃ earlier later, moves = earlier ++ .own :: later ∧
    (ongoing.after index earlier).store.WritesHonestly settings document
      (ongoing.after index (earlier ++ [.own])).store

theorem HasWritten.concat (written : ongoing.HasWritten index settings made moves) (next : Move) :
    ongoing.HasWritten index settings made (moves ++ [next]) := by
  obtain ⟨document, ok, earlier, later, rfl, honest⟩ := written
  exact ⟨document, ok, earlier, later ++ [next], by simp, honest⟩

theorem exists_holds_step {script : Script (α × Commit)} {store : Engine} {contents : Contents}
    (held : store.Holds contents) (guarded : script.Guarded (Asks settings made) ends) :
    ∃ after, (script.step index store).2.Holds after := by
  cases script with
  | done result => exact ⟨contents, held⟩
  | get id next => exact ⟨contents, by rwa [Script.step, Engine.get_unchanged]⟩
  | findExisting ids next => exact ⟨contents, by rwa [Script.step, Engine.findExisting_eq]⟩
  | upsert write next => exact ⟨_, (Engine.step_holds (.upsert write) store contents held).held⟩
  | update write next => exact ⟨_, (Engine.step_holds (.update write) store contents held).held⟩
  | delete id force next => exact guarded.elim
  | query resource filters window next => exact guarded.elim
  | search resource filters window next => exact guarded.elim

theorem guarded_step {script : Script (α × Commit)} {store : Engine} {contents : Contents}
    (held : store.Holds contents) (guarded : script.Guarded (Asks settings made) ends) :
    (script.step index store).1.Guarded (Asks settings made) ends ∨
      (∃ result, (script.step index store).1 = .done result) ∧
        ∃ document, made = .ok document ∧
          store.WritesHonestly settings document (script.step index store).2 := by
  cases script with
  | done result => exact .inl guarded
  | get id next => exact .inl (guarded _)
  | findExisting ids next => exact .inl (guarded _)
  | upsert write next =>
      obtain ⟨⟨document, ok, rfl⟩, goes⟩ := guarded
      obtain ⟨result, told, fails⟩ :=
        goes (DocumentStore.upsert (settings.write document) store).1
      have ran : (Script.upsert (settings.write document) next).step index store
          = (next (DocumentStore.upsert (settings.write document) store).1,
            (DocumentStore.upsert (settings.write document) store).2) := rfl
      rw [ran, told]
      rcases written : store.write (settings.write document) true with ⟨applied, after⟩
      rw [Engine.upsert_eq, written] at fails ⊢
      by_cases refused : ∃ cause, applied = .refused cause
      · obtain ⟨cause, rfl⟩ := refused
        exact .inl (fails (by cases cause <;> nofun) (by cases cause <;> nofun))
      · have honest := Engine.writesHonestly_of_write held written (not_exists.mp refused)
        exact .inr ⟨⟨result, rfl⟩, document, ok, honest⟩
  | update write next =>
      obtain ⟨⟨document, ok, rfl⟩, goes⟩ := guarded
      obtain ⟨result, told, fails⟩ :=
        goes (DocumentStore.update (settings.write document) store).1
      have ran : (Script.update (settings.write document) next).step index store
          = (next (DocumentStore.update (settings.write document) store).1,
            (DocumentStore.update (settings.write document) store).2) := rfl
      rw [ran, told]
      rcases written : store.write (settings.write document) false with ⟨applied, after⟩
      rw [Engine.update_eq, written] at fails ⊢
      by_cases refused : ∃ cause, applied = .refused cause
      · obtain ⟨cause, rfl⟩ := refused
        exact .inl (fails (by cases cause <;> nofun))
      · have honest := Engine.writesHonestly_of_write held written (not_exists.mp refused)
        exact .inr ⟨⟨result, rfl⟩, document, ok, honest⟩
  | delete id force next => exact guarded.elim
  | query resource filters window next => exact guarded.elim
  | search resource filters window next => exact guarded.elim

structure Stands (index : SearchIndex) (settings : ValidationSettings)
    (made : Except Error Document) (ends : α × Commit → Prop) (start : Ongoing α)
    (moves : List Move) : Prop where
  held : ∃ contents, (start.after index moves).store.Holds contents
  stage : (start.after index moves).script.Guarded (Asks settings made) ends ∨
    (∃ result, (start.after index moves).script = .done result) ∧
      start.HasWritten index settings made moves

theorem Stands.move (stands : Stands index settings made ends ongoing moves) (next : Move) :
    Stands index settings made ends ongoing (moves ++ [next]) := by
  obtain ⟨⟨contents, held⟩, stage⟩ := stands
  cases next with
  | other call =>
      have after := (Engine.step_holds call _ contents held).held
      constructor
      · rw [after_concat]
        exact ⟨_, after⟩
      · rw [after_concat]
        exact stage.imp_right fun ⟨done, written⟩ => ⟨done, written.concat _⟩
  | own =>
      rcases stage with guarded | ⟨⟨result, done⟩, written⟩
      · constructor
        · rw [after_concat]
          exact exists_holds_step held guarded
        · rw [after_concat]
          refine (guarded_step held guarded).imp_right fun ⟨done, document, ok, honest⟩ => ?_
          exact ⟨done, document, ok, moves, [], rfl, after_concat index ongoing moves .own ▸ honest⟩
      · have ran : (ongoing.after index moves).script.step index (ongoing.after index moves).store
            = ((ongoing.after index moves).script, (ongoing.after index moves).store) := by
          rw [done]
          rfl
        have still : ongoing.after index (moves ++ [.own]) = ongoing.after index moves := by
          rw [after_concat, Ongoing.move, ran]
        exact ⟨⟨contents, still ▸ held⟩, .inr ⟨⟨result, still ▸ done⟩, written.concat _⟩⟩

theorem stands_after {contents : Contents} (held : ongoing.store.Holds contents)
    (guarded : ongoing.script.Guarded (Asks settings made) ends) (moves : List Move) :
    Stands index settings made ends ongoing moves := by
  induction moves using List.reverseRecOn with
  | nil => exact ⟨⟨contents, held⟩, .inl guarded⟩
  | append_singleton moves next ih => exact ih.move next

theorem hasWritten_of_done {contents : Contents} (held : ongoing.store.Holds contents)
    (guarded : ongoing.script.Guarded (Asks settings made) ends) (moves : List Move)
    {result : α × Commit} (done : (ongoing.after index moves).script = .done result)
    (good : ¬ ends result) : ongoing.HasWritten index settings made moves := by
  rcases (stands_after held guarded moves).stage with guarded | ⟨-, written⟩
  · rw [done] at guarded
    exact absurd guarded good
  · exact written

end Ongoing

/-- Every upsert and every update that succeeds has written a document whose flag is honest of the
    store that the commit found: on every engine, whatever calls have led to that store, whatever
    the cache remembers, and whatever others do between the operations of the request. -/
theorem EngineKind.validated_honest (kind : EngineKind) (calls : List Call) :
    (∀ (κ : Type) [ProjectionSink κ] (service : Service Engine κ),
      service.store = kind.reached calls →
      (∀ request, (service.upsert request).1.isSuccess = true →
        ∃ document, request.document = .ok document ∧
          service.store.WritesHonestly service.config.validation document
            (service.upsert request).2.store) ∧
      ∀ request, (service.update request).1.status = .updateSuccess →
        ∃ document, request.document = .ok document ∧
          service.store.WritesHonestly service.config.validation document
            (service.update request).2.store) ∧
    ∀ (index : SearchIndex) (context : RequestContext) (moves : List Ongoing.Move),
      (∀ (request : UpsertRequest) (result : UpsertResult × Commit),
        let start : Ongoing UpsertResult := ⟨request.script context, kind.reached calls⟩
        (start.after index moves).script = .done result → result.1.isSuccess = true →
          start.HasWritten index context.validation request.document moves) ∧
      ∀ (request : UpdateRequest) (result : UpdateResult × Commit),
        let start : Ongoing UpdateResult := ⟨request.script context, kind.reached calls⟩
        (start.after index moves).script = .done result → result.1.status = .updateSuccess →
          start.HasWritten index context.validation request.document moves := by
  have held := kind.reached_holds calls
  constructor
  · intro κ sink service stands
    rw [← stands] at held
    constructor
    · intro request succeeds
      exact (service.write_effect (request.runs _ _)).writesHonestly held succeeds
    · intro request done
      exact (service.write_effect (request.runs _ _)).writesHonestly held (decide_eq_true done)
  · intro index context moves
    constructor
    · intro request result start done succeeds
      exact Ongoing.hasWritten_of_done held (request.guarded_script context) moves done
        (by simp [succeeds])
    · intro request result start done succeeds
      exact Ongoing.hasWritten_of_done held (request.guarded_script context) moves done
        (fun other => other succeeds)

def schoolId : DocumentId :=
  Derivation.documentId "Ed-Fi" "School" "3.3.1-b" ⟨Table.ofList [("schoolId", "1")]⟩

def schoolWritten : List Call := [.upsert ⟨.bare schoolId [] [], []⟩]

def attendance : UpsertRequest :=
  .fixed (.fixed "Student" "studentUniqueId" "s") [History.school "1"] none

set_option maxRecDepth 10000 in
theorem EngineKind.validated_honest_attendance :
    let store := EngineKind.keyValue.reached schoolWritten
    let cache := (ExistenceCache.ofMaxEntries 2).addAll [schoolId]
    let service : Service Engine SearchIndex :=
      { Service.start {} store SearchIndex.empty with cache := cache }
    let start : Ongoing UpsertResult := ⟨attendance.script ⟨{}, .primary, cache⟩, store⟩
    let moves : List Ongoing.Move := [.other (.get schoolId), .own]
    (service.upsert attendance).1.isSuccess = true ∧
      (∃ document, attendance.document = .ok document ∧
        store.WritesHonestly {} document (service.upsert attendance).2.store) ∧
      start.HasWritten SearchIndex.empty {} attendance.document moves := by
  intro store cache service start moves
  have honest := EngineKind.validated_honest .keyValue schoolWritten
  have succeeds : (service.upsert attendance).1.isSuccess = true := by decide +kernel
  refine ⟨succeeds, (honest.1 SearchIndex service rfl).1 attendance succeeds, ?_⟩
  have ended : (match (start.after SearchIndex.empty moves).script with
      | .done result => result.1.isSuccess
      | _ => false) = true := by decide +kernel
  split at ended
  · next result done =>
      exact (honest.2 SearchIndex.empty ⟨{}, .primary, cache⟩ moves).1 attendance result done ended
  · cases ended

end Docket
