import Docket.Proofs.Filter
import Docket.Proofs.Service.Convergence
/-!
Services that are opened again on their stores.

What a request reads besides the store is the search index, and the index of a service that has just
been opened holds nothing. Gets do not look at it. Queries do where the source is the index, and on a
store of texts whatever the source; they then find nothing until there is a reindex, which the
service does not ask for (`History.restart_unnoticed_iff`).
-/

namespace Docket

def QueryRequest.whole (resource : Resource) : QueryRequest :=
  ⟨resource, Filters.empty, Pagination.all, ⟨"", .fullAccess⟩, ""⟩

namespace SearchIndex

variable {index : SearchIndex}

theorem Orderly.search_ne_nil (orderly : index.Orderly) {id : DocumentId} {document : Document}
    (shown : index.get? id = some document) :
    index.search document.resource Filters.empty Pagination.all ≠ .ok [] := by
  unfold get? at shown
  obtain ⟨name, _, shown⟩ := Option.bind_eq_some_iff.mp shown
  obtain ⟨kept, found, stored⟩ := Option.bind_eq_some_iff.mp shown
  obtain ⟨_, _, named⟩ := orderly name kept id document found stored
  unfold search
  cases index.available with
  | false => simp
  | true =>
      rw [named, found]
      simp only [Bool.not_true, Bool.false_eq_true, if_false, Pagination.apply_all, ne_eq,
        Except.ok.injEq]
      have listed : id ∈ kept.documents.keys := by
        rw [← Table.contains_iff_mem_keys, Table.contains_iff]
        exact ⟨document, stored⟩
      apply List.ne_nil_of_mem (a := document)
      rw [List.mem_filter, List.mem_filterMap]
      exact ⟨⟨id, listed, stored⟩, by simp [Resource.sameCoordinates]⟩

theorem Orderly.search_eq_nil (orderly : index.Orderly) (available : index.available = true)
    (nothing : ∀ id, index.get? id = none) (resource : Resource) (filters : Filters)
    (window : Pagination) : index.search resource filters window = .ok [] := by
  unfold search
  rw [available]
  cases found : index.indices.get? resource.indexName with
  | none => rfl
  | some kept =>
      have empty : ∀ id, kept.documents.get? id = none := by
        intro id
        cases stored : kept.documents.get? id with
        | none => rfl
        | some document =>
            have shown := Orderly.get?_eq orderly found stored
            rw [nothing] at shown
            simp at shown
      simp [empty]

end SearchIndex

section Requests

variable {index other : SearchIndex} {engine : Engine}

theorem GetRequest.run_index (request : GetRequest) :
    request.script.run index engine = request.script.run other engine := by
  simp only [script, Script.run]
  cases (DocumentStore.get request.id engine).1 with
  | success document => rfl
  | notExists => rfl
  | unknownFailure detail => rfl

theorem QueryRequest.run_congr {request : QueryRequest} {context context' : RequestContext}
    (same : context'.source = context.source)
    (asked : context.source = .primary → request.filters.validate = .ok () → ∀ window,
      (DocumentStore.query other request.resource request.filters window engine).1
        = (DocumentStore.query index request.resource request.filters window engine).1)
    (searched : context.source = .searchIndex → ∀ window,
      other.search request.resource request.filters window
        = index.search request.resource request.filters window) :
    ((request.script context').run other engine).1.1
      = ((request.script context).run index engine).1.1 := by
  unfold script
  rw [same]
  cases accepted : request.filters.validate with
  | error cause => rfl
  | ok _ =>
      cases source : context.source with
      | primary =>
          simp only [Script.run, asked source accepted]
          split
          · rfl
          · rfl
          · rfl
      | searchIndex =>
          simp only [Script.run, searched source]
          split
          · rfl
          · rfl

theorem QueryRequest.run_whole_eq_nil_iff (context : RequestContext) (resource : Resource) :
    (((whole resource).script context).run index engine).1.1 = ⟨.querySuccess, [], none⟩ ↔
      match context.source with
      | .primary =>
          (DocumentStore.query index resource Filters.empty Pagination.all engine).1 = .success []
      | .searchIndex => index.search resource Filters.empty Pagination.all = .ok [] := by
  have accepted : Filters.empty.validate = .ok () := rfl
  simp only [script, whole, accepted, reduceCtorEq, decide_false, Bool.false_eq_true, if_false]
  cases context.source with
  | primary =>
      simp only [Script.run]
      cases (DocumentStore.query index resource Filters.empty Pagination.all engine).1 with
      | success documents => simp [Script.run]
      | invalidQuery message => simp [Script.run, QueryResult.failure]
      | unknownFailure detail => simp [Script.run, QueryResult.failure]
  | searchIndex =>
      simp only [Script.run]
      cases index.search resource Filters.empty Pagination.all with
      | ok documents => simp [Script.run]
      | error cause => simp [Script.run, QueryResult.failure]

end Requests

namespace KeyValueStore

variable {store : KeyValueStore} {index : SearchIndex}

theorem mem_of_decodeAll {texts : List String} {text : String} {document : Document}
    {documents : List Document} (member : text ∈ texts)
    (decoded : decodeDocument text = .ok document) (all : decodeAll texts = .ok documents) :
    document ∈ documents := by
  induction texts generalizing documents with
  | nil => simp at member
  | cons first rest ih =>
      unfold decodeAll at all
      split at all
      · simp at all
      · next here decodedHere =>
          split at all
          · simp at all
          · next others decodedRest =>
              obtain rfl := Except.ok.inj all
              rcases List.mem_cons.mp member with rfl | later
              · rw [decoded, Except.ok.injEq] at decodedHere
                simp [decodedHere]
              · exact List.mem_cons_of_mem _ (ih later decodedRest)

theorem scanFiltered_ne_nil {id : DocumentId} {document : Document}
    (found : store.get id = .success document) :
    store.scanFiltered document.resource Filters.empty Pagination.all ≠ .ok [] := by
  unfold get load at found
  cases stored : store.documents.get? id with
  | none => simp [stored] at found
  | some text =>
      cases decoded : decodeDocument text with
      | error cause => simp [stored, decoded] at found
      | ok read =>
          simp only [stored, decoded, GetOutcome.success.injEq] at found
          subst found
          unfold scanFiltered
          cases all : decodeAll store.documents.values with
          | error cause => simp
          | ok documents =>
              have member : text ∈ store.documents.values := Table.mem_values_iff.mpr ⟨id, stored⟩
              simp only [Pagination.apply_all, ne_eq, Except.ok.injEq]
              apply List.ne_nil_of_mem (a := read)
              rw [List.mem_filter]
              have accepted : Filters.empty.accepts read.body.json = true := rfl
              exact ⟨mem_of_decodeAll member decoded all, by
                simp [Resource.sameCoordinates, accepted]⟩

theorem query_ne_nil (orderly : index.Orderly) {id : DocumentId} {document : Document}
    (found : store.get id = .success document) (shown : index.get? id = some document) :
    store.query index document.resource Filters.empty Pagination.all ≠ .success [] := by
  have accepted : Filters.empty.validate = .ok () := rfl
  have listed := orderly.search_ne_nil shown
  have scanned := scanFiltered_ne_nil found
  unfold query
  rw [accepted]
  simp only
  split
  · next documents search => simpa [search] using listed
  · split
    · next documents scan => simpa [scan] using scanned
    · simp
  · simp

theorem query_eq_nil (orderly : index.Orderly) (nothing : ∀ id, index.get? id = none)
    (empty : store.documents = Table.empty) {filters : Filters}
    (accepted : filters.validate = .ok ()) (resource : Resource) (window : Pagination) :
    store.query index resource filters window = .success [] := by
  unfold query
  rw [accepted]
  cases available : index.available with
  | true => simp only [orderly.search_eq_nil available nothing]
  | false =>
      have offline : index.search resource filters window = .error .unavailable := by
        simp [SearchIndex.search, available]
      simp only [offline, scanFiltered, empty]
      change QueryOutcome.success (window.apply []) = _
      rw [Pagination.apply_nil]

end KeyValueStore

namespace Service

variable {service : Service Engine SearchIndex}

def reopened (service : Service Engine SearchIndex) : Service Engine SearchIndex :=
  start service.config service.store SearchIndex.empty

theorem get_reopened (request : GetRequest) :
    (service.reopened.get request).1 = (service.get request).1 := by
  simp only [get, perform]
  exact congrArg (fun run => run.1.1) request.run_index

/-- A service that answers some query from its index: the index is the source, or the store is one
    of texts, which looks into the index itself. -/
inductive Searches (service : Service Engine SearchIndex) : Prop where
  | index (source : service.config.query.source = .searchIndex)
  | texts {store : KeyValueStore} (source : service.config.query.source = .primary)
      (texts : service.store = .keyValue store)

theorem searches_iff : service.Searches ↔
    ¬ (service.config.query.source = .primary ∧ service.store.kind ≠ .keyValue) := by
  constructor
  · rintro (source | ⟨source, texts⟩)
    · simp [source]
    · simp [texts, Engine.kind]
  · intro other
    cases source : service.config.query.source with
    | searchIndex => exact .index source
    | primary =>
        cases engine : service.store with
        | keyValue store => exact .texts source engine
        | memory store => simp [source, engine, Engine.kind] at other
        | relational store => simp [source, engine, Engine.kind] at other

theorem query_reopened_eq (source : service.config.query.source = .primary)
    (other : service.store.kind ≠ .keyValue) (request : QueryRequest) :
    (service.reopened.query request).1 = (service.query request).1 := by
  apply QueryRequest.run_congr rfl
  · intro _ _ window
    change (DocumentStore.query _ _ _ _ service.store).1
      = (DocumentStore.query _ _ _ _ service.store).1
    cases engine : service.store with
    | memory store => rfl
    | keyValue store => simp [engine, Engine.kind] at other
    | relational store => rfl
  · intro searched
    exact absurd (source.symm.trans searched) (by simp)

theorem query_whole_eq_nil_iff (service : Service Engine SearchIndex) (resource : Resource) :
    (service.query (.whole resource)).1 = ⟨.querySuccess, [], none⟩ ↔
      match service.config.query.source with
      | .primary => (DocumentStore.query service.index resource Filters.empty Pagination.all
          service.store).1 = .success []
      | .searchIndex =>
          service.index.search resource Filters.empty Pagination.all = .ok [] :=
  QueryRequest.run_whole_eq_nil_iff _ resource

theorem query_reopened_whole (searches : service.Searches) (resource : Resource) :
    (service.reopened.query (.whole resource)).1 = ⟨.querySuccess, [], none⟩ := by
  rw [query_whole_eq_nil_iff]
  cases searches with
  | index source =>
      simp only [reopened, start, source]
      rfl
  | texts source texts =>
      simp only [reopened, start, source, texts]
      rfl

section Said

variable (said : ∀ id, service.index.answer id = (DocumentStore.get id service.store).1)
variable (orderly : service.index.Orderly)

include said orderly

omit orderly in
theorem found_of_stored {contents : Contents} (held : service.store.Holds contents)
    {id : DocumentId} {stored : Document} (present : contents.get? id = some stored) :
    ∃ document, (DocumentStore.get id service.store).1 = .success document := by
  have answer := said id
  rw [Engine.get_eq held, present, Option.map_some] at answer ⊢
  cases reading : service.store.kind.reread stored with
  | ok document => exact ⟨document, rfl⟩
  | error cause =>
      rw [reading, SearchIndex.answer] at answer
      split at answer
      · simp [GetOutcome.ofReading] at answer
      · simp [GetOutcome.ofReading] at answer

theorem query_whole_ne_nil (searches : service.Searches) {id : DocumentId} {document : Document}
    (found : (DocumentStore.get id service.store).1 = .success document) :
    (service.query (.whole document.resource)).1 ≠ ⟨.querySuccess, [], none⟩ := by
  have shown : service.index.get? id = some document := by
    have answer := said id
    rw [found, SearchIndex.answer] at answer
    split at answer
    · next there same => rw [same, GetOutcome.success.inj answer]
    · simp at answer
  rw [ne_eq, query_whole_eq_nil_iff]
  cases searches with
  | index source =>
      simp only [source]
      exact orderly.search_ne_nil shown
  | texts source texts =>
      rw [texts] at found
      simp only [source, texts]
      exact KeyValueStore.query_ne_nil orderly found shown

theorem query_reopened_eq_of_empty {contents : Contents} (held : service.store.Holds contents)
    (empty : ∀ id, contents.get? id = none)
    (online : service.config.query.source = .primary ∨ service.index.available = true)
    (request : QueryRequest) : (service.reopened.query request).1 = (service.query request).1 := by
  have nothing : ∀ id, service.index.get? id = none := by
    intro id
    have answer := said id
    rw [Engine.get_eq held, empty, SearchIndex.answer] at answer
    split at answer
    · simp [GetOutcome.ofReading] at answer
    · next absent => exact absent
  apply QueryRequest.run_congr rfl
  · intro _ accepted window
    change (DocumentStore.query _ _ _ _ service.store).1
      = (DocumentStore.query _ _ _ _ service.store).1
    cases engine : service.store with
    | memory store => rfl
    | relational store => rfl
    | keyValue store =>
        have none : store.documents = Table.empty := by
          rw [engine] at held
          apply Table.ext_get?
          intro id
          rw [held.keeps, empty]
          rfl
        have before := KeyValueStore.query_eq_nil orderly nothing none accepted request.resource window
        have after := KeyValueStore.query_eq_nil SearchIndex.orderly_empty (fun _ => rfl) none
          accepted request.resource window
        exact after.trans before.symm
  · intro searched window
    have available : service.index.available = true := by
      rcases online with source | available
      · exact absurd (source.symm.trans searched) (by simp)
      · exact available
    exact (orderly.search_eq_nil available nothing _ _ window).symm

end Said

end Service

namespace History

/-- When no task waits, none was lost and no reindex is asked for, a service that is opened again on
    the store does not ask for one either, and it answers every get as before. It answers every query
    as before exactly where the store alone answers queries, or where it holds nothing. -/
theorem restart_unnoticed_iff (kind : EngineKind) (config : Config) (events : List Service.Event)
    (idle : (run kind config events).service.projector.queue = [])
    (unflagged : (run kind config events).service.projector.needsReindex = false)
    (intact : (run kind config events).service.projector.lost = 0) :
    let service := (run kind config events).service
    service.reopened.projector.needsReindex = false ∧
      (∀ request, (service.reopened.get request).1 = (service.get request).1) ∧
      ((∀ request, (service.reopened.query request).1 = (service.query request).1) ↔
        config.query.source = .primary ∧ kind ≠ .keyValue ∨
          DocumentStore.size service.store = 0 ∧
            (config.query.source = .primary ∨ service.index.available = true)) := by
  intro service
  have tracked := run_tracked kind config events
  have sound := run_sound kind config events
  have said : ∀ id, service.index.answer id = (DocumentStore.get id service.store).1 := by
    intro id
    exact (tracked.said id).resolve_right (Projector.not_pending idle unflagged intact)
  have source : service.config.query.source = config.query.source := by rw [sound.config]
  refine ⟨rfl, fun _ => Service.get_reopened _, ?_, ?_⟩
  · intro unnoticed
    by_cases alone : config.query.source = .primary ∧ kind ≠ .keyValue
    · exact .inl alone
    · right
      have searches : service.Searches := by
        rw [Service.searches_iff, source, sound.kind]
        exact alone
      constructor
      · rw [Engine.size_eq sound.held, Table.size_eq_zero_iff]
        intro id
        cases stored : (run kind config events).written.get? id with
        | none => rfl
        | some document =>
            -- A document that is stored would be found before and not afterwards.
            obtain ⟨read, found⟩ := Service.found_of_stored said sound.held stored
            exact absurd ((unnoticed _).symm.trans (Service.query_reopened_whole searches _))
              (Service.query_whole_ne_nil said tracked.orderly searches found)
      · cases primary : config.query.source with
        | primary => exact .inl rfl
        | searchIndex =>
            right
            have told := (unnoticed _).symm.trans (Service.query_reopened_whole searches default)
            rw [Service.query_whole_eq_nil_iff, source, primary] at told
            cases available : service.index.available with
            | true => rfl
            | false => simp [SearchIndex.search, available] at told
  · rintro (⟨primary, other⟩ | ⟨empty, online⟩)
    · apply Service.query_reopened_eq (source.trans primary)
      rw [sound.kind]
      exact other
    · rw [Engine.size_eq sound.held] at empty
      rw [← source] at online
      exact Service.query_reopened_eq_of_empty said tracked.orderly sound.held
        (Table.size_eq_zero_iff.mp empty) online

def projected : List Service.Event :=
  let school := Reference.fixed "School" "schoolId" "1"
  let id := Derivation.documentId "Ed-Fi" "School" "3.3.1-b" school.identity
  [.upsert (.fixed school [] none), .work ⟨id, 1, 0, 0⟩]

theorem restart_unnoticed_iff_database :
    let service := (run .relational {} projected).service
    (service.projector.queue = [] ∧ service.projector.needsReindex = false ∧
      service.projector.lost = 0) ∧
      ∀ request, (service.reopened.query request).1 = (service.query request).1 := by
  have reached : (run .relational {} projected).service.projector.queue = [] ∧
      (run .relational {} projected).service.projector.needsReindex = false ∧
      (run .relational {} projected).service.projector.lost = 0 := by
    decide +kernel
  have same := restart_unnoticed_iff .relational {} projected reached.1 reached.2.1 reached.2.2
  exact ⟨reached, same.2.2.mpr (.inl ⟨rfl, by decide⟩)⟩

/-- A store of texts is asked for the schools before and after it is opened again. -/
theorem restart_loses_school :
    let service := (run .keyValue {} projected).service
    let schools := QueryRequest.whole (Reference.fixed "School" "schoolId" "1").resource
    (service.projector.queue = [] ∧ service.projector.needsReindex = false) ∧
      (service.query schools).1.documents.length = 1 ∧
      service.reopened.projector.needsReindex = false ∧
      (service.reopened.query schools).1 = ⟨.querySuccess, [], none⟩ ∧
      (service.reopened.query schools).1 ≠ (service.query schools).1 := by
  decide +kernel

end History

end Docket
