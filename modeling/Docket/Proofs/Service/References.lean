import Docket.Proofs.ExistenceCache
import Docket.Proofs.Service.Run
import Docket.Proofs.Store.Integrity
/-!
Which references a refused write is told of.

The list of unresolved references comes from the check before the write, which passes over what the
cache remembers, or from the store, which is asked on commit when nothing else was missing. The cache
forgets the ids of a document that is deleted, but not an alias that a document loses when it is
replaced. So the list may leave out references to such aliases, and no others; without any that are
remembered it is exact (`History.invalid_refs_unresolved`).
-/

namespace Docket

theorem sortKeys_ascends {κ : Type} [Key κ] {keys : List κ} (distinct : keys.Nodup) :
    Ascends (sortKeys keys) := by
  have distinct' : (sortKeys keys).Nodup := (sortKeys_perm keys).nodup_iff.mpr distinct
  apply List.Pairwise.imp _ ((sortKeys_ordered keys).and distinct')
  rintro key later ⟨ordered, differ⟩
  exact Key.before_of_ne differ.symm ordered

theorem DescriptorPolicy.enforced_ascends (policy : DescriptorPolicy) {document : Document}
    (arranged : document.Arranged) : Ascends (policy.enforced document) := by
  apply sortKeys_ascends
  have distinct : document.outRefIds.Nodup := arranged.refs.imp Key.ne_of_before
  exact distinct.sublist (List.filter_sublist.map OutboundRef.id)

namespace Contents

def unresolved (contents : Contents) (policy : DescriptorPolicy) (document : Document) :
    List DocumentId :=
  (policy.enforced document).filter fun id => decide (¬ contents.Resolves id)

variable {contents : Contents} {policy : DescriptorPolicy} {document : Document} {id : DocumentId}

theorem mem_unresolved :
    id ∈ contents.unresolved policy document ↔
      id ∈ policy.enforced document ∧ ¬ contents.Resolves id := by
  rw [unresolved, List.mem_filter, decide_eq_true_eq]

theorem unresolved_ascends (arranged : document.Arranged) :
    Ascends (contents.unresolved policy document) :=
  (policy.enforced_ascends arranged).filter _

end Contents

section Request

open Contents

variable {contents : Contents} {engine : Engine} {context : RequestContext} {document : Document}

theorem filter_not_exists (held : engine.Holds contents) (ids : List DocumentId) :
    (ids.filter fun id => !engine.existence.contains id)
      = ids.filter fun id => decide (¬ contents.Resolves id) := by
  apply List.filter_congr
  intro id _
  rw [Bool.eq_iff_iff, Bool.not_eq_true', decide_eq_true_eq, held.exact.resolves_iff,
    Bool.not_eq_true]

theorem RequestContext.lacking_eq (held : engine.Holds contents)
    (checks : context.validation.validateReferences = true) (document : Document) :
    context.lacking engine.existence document
      = (contents.unresolved context.validation.descriptorPolicy document).filter fun id =>
          !context.cache.contains id := by
  rw [lacking, filter_not_exists held, ValidationSettings.write_enforcedRefs checks,
    List.filter_comm]
  rfl

theorem absent_enforcedRefs (held : engine.Holds contents)
    (checks : context.validation.validateReferences = true) (arranged : document.Arranged) :
    absent engine.existence (context.validation.write document).enforcedRefs
      = contents.unresolved context.validation.descriptorPolicy document := by
  rw [absent, filter_not_exists held, ValidationSettings.write_enforcedRefs checks]
  apply eq_of_ascends (KeySet.sorted_ascending _) (unresolved_ascends arranged)
  intro id
  rw [KeySet.mem_sorted]
  rfl

/-- What is listed of ids that do not resolve: those that the cache does not remember, or all of
    them where it remembers all of them. -/
inductive ExistenceCache.Lists (cache : ExistenceCache) (unresolved : List DocumentId) :
    List DocumentId → Prop where
  | misses : Lists cache unresolved (unresolved.filter fun id => !cache.contains id)
  | remembered (all : ∀ id ∈ unresolved, cache.contains id = true) :
      Lists cache unresolved unresolved

theorem WriteKind.checked_lists {α : Type} (kind : WriteKind α) (held : engine.Holds contents)
    (checks : context.validation.validateReferences = true) (arranged : document.Arranged)
    {ids : List DocumentId}
    (told : kind.invalidRefs? (kind.checked context document engine).1.1 = some ids) :
    ids ≠ [] ∧ context.cache.Lists
      (contents.unresolved context.validation.descriptorPolicy document) ids := by
  have ended := kind.checked_end context document engine
  rcases run : kind.checked context document engine with ⟨⟨result, commit⟩, next⟩
  rw [run] at ended told
  simp only at told
  cases ended with
  | unresolved lacking =>
      rw [kind.invalidRefs?_unresolved] at told
      obtain rfl := Option.some.inj told
      refine ⟨lacking, ?_⟩
      rw [RequestContext.lacking_eq held checks]
      exact .misses
  | missing remembered lacking =>
      rw [kind.invalidRefs?_unresolved] at told
      obtain rfl := Option.some.inj told
      refine ⟨lacking, ?_⟩
      rw [RequestContext.lacking_eq held checks, List.filter_eq_nil_iff] at remembered
      rw [absent_enforcedRefs held checks arranged]
      exact .remembered fun id member => by simpa using remembered id member
  | refused fails silent => simp [silent] at told
  | inserted succeeds found =>
      rw [kind.fails_of_invalidRefs? result ids told] at succeeds
      simp at succeeds
  | replaced succeeds found =>
      rw [kind.fails_of_invalidRefs? result ids told] at succeeds
      simp at succeeds

end Request

namespace History

variable {kind : EngineKind} {config : Config} {history : History}

/-- What is remembered exists, unless it is an alias that a document has lost. -/
def Remembers (history : History) : Prop :=
  ∀ id, history.service.cache.contains id = true →
    history.written.Resolves id ∨ id ∈ history.dropped

theorem start_remembers (kind : EngineKind) (config : Config) : (start kind config).Remembers := by
  intro id remembered
  simp only [start, Service.start] at remembered
  split at remembered
  · simp [ExistenceCache.ofMaxEntries, ExistenceCache.contains, Generations.empty,
      Generations.contains, Table.contains] at remembered
  · simp [ExistenceCache.contains] at remembered

theorem resolves_put_or_dropped {contents : Contents} {existence : Table DocumentId DocumentId}
    {linked : DocumentId → DocumentId → Prop} (exact : contents.Exact existence linked)
    (new : Document) {id : DocumentId} (resolves : contents.Resolves id) :
    (contents.put new).Resolves id ∨ id ∈ contents.dropped new := by
  by_cases lost : ∃ old, contents.get? new.id = some old ∧ id ∈ old.aliasIds ∧
      id ∉ new.existenceIds
  · obtain ⟨old, found, aliased, absent⟩ := lost
    have dropped : id ∉ new.aliasIds := fun again => absent (List.mem_cons_of_mem _ again)
    exact .inr (Contents.mem_dropped.mpr ⟨old, found, aliased, dropped⟩)
  · exact .inl ((Contents.resolves_put_iff exact resolves).mpr lost)

theorem Remembers.after (remembers : history.Remembers) (sound : history.Sound kind config)
    (event : Service.Event) : (history.after event).Remembers := by
  have goes := sound.goes event
  rcases told : event.perform history.service with ⟨commit, next⟩
  rw [told] at goes
  intro id
  simp only [History.after, told, List.mem_append]
  cases goes with
  | projection store config cache =>
      rw [cache]
      intro remembered
      exact (remembers id remembered).imp_right .inl
  | @request commit store commits =>
      have exact := sound.held.exact
      cases commits.fits with
      | nothing =>
          intro remembered
          exact (remembers id remembered).imp_right .inl
      | @inserted document isObject absent =>
          intro remembered
          rcases ExistenceCache.contains_of_addAll remembered with own | before
          · exact .inl ⟨document.id, Contents.owns_put_iff.mpr (by rwa [if_pos rfl])⟩
          · rcases remembers id before with resolves | dropped
            · rcases resolves_put_or_dropped exact document resolves with kept | lost
              · exact .inl kept
              · obtain ⟨old, found, _⟩ := Contents.mem_dropped.mp lost
                simp [absent] at found
            · exact .inr (.inl dropped)
      | @replaced document old isObject present =>
          intro remembered
          rcases remembers id remembered with resolves | dropped
          · exact (resolves_put_or_dropped exact document resolves).imp_right .inr
          · exact .inr (.inl dropped)
      | @deleted document stored present rereads =>
          intro remembered
          have kept : id ∉ document.existenceIds ∧ history.service.cache.contains id = true := by
            change (ExistenceCache.removeAll _ _).contains id = true at remembered
            simpa [ExistenceCache.contains_removeAll] using remembered
          rcases remembers id kept.2 with ⟨owner, owns⟩ | dropped
          · have other : owner ≠ document.id := by
              rintro rfl
              obtain ⟨found, here, member⟩ := owns
              rw [present] at here
              obtain rfl := Option.some.inj here
              exact kept.1 (rereads.existenceIds ▸ member)
            exact .inl ⟨owner, Contents.owns_erase_iff.mpr ⟨other, owns⟩⟩
          · exact .inr (.inl dropped)

theorem run_remembers (kind : EngineKind) (config : Config) (events : List Service.Event) :
    (run kind config events).Remembers :=
  (run_induction (start_remembers kind config)
    (fun _ event sound remembers => Remembers.after remembers sound event) events).1

/-- A list of ids tells which references of a document do not resolve. It leaves out none but those
    that are remembered, which are aliases that a document has lost; and it is the whole list unless
    some of the unresolved references are remembered and others are not. -/
structure Tells (history : History) (policy : DescriptorPolicy) (document : Document)
    (ids : List DocumentId) : Prop where
  some : ids ≠ []
  ascends : Ascends ids
  unresolved : ∀ id ∈ ids, id ∈ history.written.unresolved policy document
  omitted : ∀ id ∈ history.written.unresolved policy document, id ∉ ids →
    id ∈ history.dropped ∧ history.service.cache.contains id = true
  whole : ids = history.written.unresolved policy document ↔
    (∀ id ∈ history.written.unresolved policy document,
        history.service.cache.contains id = false) ∨
      ∀ id ∈ history.written.unresolved policy document, history.service.cache.contains id = true

theorem Remembers.tells (remembers : history.Remembers) {policy : DescriptorPolicy}
    {document : Document} (arranged : document.Arranged) {ids : List DocumentId} (some : ids ≠ [])
    (lists : history.service.cache.Lists (history.written.unresolved policy document) ids) :
    history.Tells policy document ids := by
  have ordered : Ascends (history.written.unresolved policy document) :=
    Contents.unresolved_ascends arranged
  cases lists with
  | misses =>
      constructor
      case some => exact some
      case ascends => exact ordered.filter _
      case unresolved => exact fun id member => (List.mem_filter.mp member).1
      case omitted =>
        intro id member out
        have remembered : history.service.cache.contains id = true := by
          by_contra forgotten
          exact out (List.mem_filter.mpr ⟨member, by simpa using forgotten⟩)
        have lost := (remembers id remembered).resolve_left (Contents.mem_unresolved.mp member).2
        exact ⟨lost, remembered⟩
      case whole =>
        rw [List.filter_eq_self]
        constructor
        · exact fun none => .inl fun id member => by simpa using none id member
        · rintro (none | all)
          · exact fun id member => by simpa using none id member
          -- If all of them were remembered, the list would be empty.
          · refine absurd (List.filter_eq_nil_iff.mpr fun id member => ?_) some
            simpa using all id member
  | remembered all =>
      constructor
      case some => exact some
      case ascends => exact ordered
      case unresolved => exact fun id member => member
      case omitted => exact fun id member out => absurd member out
      case whole => exact ⟨fun _ => .inr all, fun _ => rfl⟩

theorem Sound.tells (sound : history.Sound kind config) (remembers : history.Remembers)
    (checks : config.validation.validateReferences = true) {α : Type} {writes : WriteKind α}
    {made : Except Error Document} {script : RequestContext → Script (α × Commit)}
    (runs : writes.Runs made script history.service.index history.service.store)
    (arranged : ∀ document, made = .ok document → document.Arranged) {ids : List DocumentId}
    (told : writes.invalidRefs? (history.service.perform (script history.service.context)).1
      = some ids) :
    ∃ document, made = .ok document ∧
      history.Tells config.validation.descriptorPolicy document ids := by
  obtain rfl := sound.config
  cases runs with
  | refused result fails silent run =>
      have quiet : (history.service.perform (script history.service.context)).1 = result := by
        simp only [Service.perform, run]
      simp [quiet, silent] at told
  | checked document made isObject run =>
      have answer : (history.service.perform (script history.service.context)).1
          = (writes.checked history.service.context document history.service.store).1.1 := by
        simp only [Service.perform, run]
      rw [answer] at told
      obtain ⟨some, lists⟩ :=
        writes.checked_lists sound.held checks (arranged document made) told
      exact ⟨document, made, remembers.tells (arranged document made) some lists⟩

/-- In every run with references checked, a list of invalid references has only references that do
    not resolve, and leaves out none but lost aliases that the cache remembers. -/
theorem invalid_refs_unresolved (kind : EngineKind) (config : Config)
    (checks : config.validation.validateReferences = true) (events : List Service.Event) :
    let history := run kind config events
    history.service.store.Keeps history.written ∧
      (∀ request : UpsertRequest, (history.service.upsert request).1.status = .validationFailure →
        ∃ document, request.document = .ok document ∧
          history.Tells config.validation.descriptorPolicy document
            (history.service.upsert request).1.invalidRefs) ∧
      ∀ request : UpdateRequest, (history.service.update request).1.status = .validationFailure →
        ∃ document, request.document = .ok document ∧
          history.Tells config.validation.descriptorPolicy document
            (history.service.update request).1.invalidRefs := by
  have sound := run_sound kind config events
  have remembers := run_remembers kind config events
  refine ⟨sound.held.keeps, ?_, ?_⟩
  · intro request failed
    exact sound.tells remembers checks (request.runs _ _)
      (fun document made => (Request.document_eq_ok made).1) (if_pos failed)
  · intro request failed
    exact sound.tells remembers checks (request.runs _ _)
      (fun document made => (Request.document_eq_ok made).1) (if_pos failed)

def school (number : String) : Reference := .fixed "School" "schoolId" number

def organization : Reference :=
  .fixed "EducationOrganization" "educationOrganizationId" "1"

def aliasLost : List Service.Event :=
  [.upsert (.fixed (school "1") [] (some organization)), .upsert (.fixed (school "1") [] none)]

def enrolment : UpsertRequest :=
  .fixed (.fixed "Student" "studentUniqueId" "s") [organization, school "2"] none

set_option maxRecDepth 10000 in
theorem invalid_refs_unresolved_alias :
    ({} : Config).validation.validateReferences = true ∧
      ((run .memory {} (aliasLost.take 1)).service.upsert enrolment).1.status
        = .validationFailure ∧
      ∃ document, enrolment.document = .ok document ∧
        (run .memory {} (aliasLost.take 1)).Tells .strict document
          ((run .memory {} (aliasLost.take 1)).service.upsert enrolment).1.invalidRefs := by
  have failed : ((run .memory {} (aliasLost.take 1)).service.upsert enrolment).1.status
      = .validationFailure := by decide +kernel
  exact ⟨rfl, failed,
    (invalid_refs_unresolved .memory {} rfl (aliasLost.take 1)).2.1 enrolment failed⟩

set_option maxRecDepth 10000 in
/-- Once the alias is lost the organization is missing too, and is left out of the list: the cache
    still remembers it. -/
theorem invalid_refs_omit_lost_alias :
    let history := run .memory {} aliasLost
    let answer := (history.service.upsert enrolment).1
    history.service.store.Keeps history.written ∧ answer.status = .validationFailure ∧
      ∃ document, enrolment.document = .ok document ∧
        answer.invalidRefs.length = 1 ∧
        (history.written.unresolved .strict document).length = 2 ∧
        answer.invalidRefs ≠ history.written.unresolved .strict document := by
  have reached : ((run .memory {} aliasLost).service.upsert enrolment).1.status
        = .validationFailure ∧
      ((run .memory {} aliasLost).service.upsert enrolment).1.invalidRefs.length = 1 ∧
      (enrolment.document.toOption.map fun document =>
        ((run .memory {} aliasLost).written.unresolved .strict document).length) = some 2 := by
    decide +kernel
  obtain ⟨failed, one, two⟩ := reached
  cases made : enrolment.document with
  | error cause => simp [made, Except.toOption] at two
  | ok document =>
      have both : ((run .memory {} aliasLost).written.unresolved .strict document).length = 2 := by
        simpa [made, Except.toOption] using two
      have kept := (run_sound .memory {} aliasLost).held.keeps
      refine ⟨kept, failed, document, rfl, one, both, ?_⟩
      intro same
      rw [same, both] at one
      simp at one

end History

end Docket
