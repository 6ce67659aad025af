import Docket.Proofs.Service.Queries
/-!
Clients that are held to their own documents.

Such a client is let through to a document only if it made it or there is none, and what a request
commits it commits under the id that was asked about. So whatever the client does, the documents of
all others stay as they are (`History.Sound.others_kept`). What it is told depends on its own
documents alone (`History.clients_kept_apart`).
-/

namespace Docket

open Request

section Requests

variable {contents : Contents} {engine : Engine} {client : String}

/-- Who may touch the document of an id: everybody who is not held to their own documents, and else
    its creator, if it can be read. -/
theorem Request.permitted_iff (held : engine.Holds contents) (index : SearchIndex)
    (id : DocumentId) (security : Security) :
    (∃ stored, ((checkOwnership id security).run index engine).1 = .permitted stored) ↔
      security.strategy = .fullAccess ∨
        ∀ stored, contents.get? id = some stored →
          stored.createdBy = some security.clientId ∧
            ∃ read, engine.kind.reread stored = .ok read := by
  unfold checkOwnership
  cases asked : security.strategy with
  | fullAccess => simp [Script.run]
  | ownershipBased =>
      simp only [Script.run, Engine.get_eq held, reduceCtorEq, false_or]
      cases present : contents.get? id with
      | none => simp [GetOutcome.ofReading, Script.run]
      | some stored =>
          simp only [Option.map_some]
          cases readable : engine.kind.reread stored with
          | error cause => simp [GetOutcome.ofReading, Script.run, readable]
          | ok read =>
              have creator := (EngineKind.rereads readable).createdBy
              simp only [GetOutcome.ofReading, Script.run, Security.permits, asked, creator,
                Option.some.injEq, forall_eq', readable, Except.ok.injEq, exists_eq', and_true]
              by_cases own : stored.createdBy = some security.clientId
              · simp [own]
              · simp [own]

theorem WriteKind.target_checked {α : Type} (kind : WriteKind α) (context : RequestContext)
    (document : Document) (engine : Engine) {id : DocumentId}
    (target : (kind.checked context document engine).1.2.target? = some id) : document.id = id := by
  have ended := kind.checked_end context document engine
  rcases run : kind.checked context document engine with ⟨⟨result, commit⟩, next⟩
  rw [run] at ended target
  cases ended with
  | unresolved lacking => simp [Commit.target?] at target
  | missing remembered lacking => simp [Commit.target?] at target
  | refused fails silent => simp [Commit.target?] at target
  | inserted succeeds found => simpa [Commit.target?] using target
  | replaced succeeds found => simpa [Commit.target?] using target

/-- The document of an id, if there is one, is of a client. -/
def Contents.OwnedBy (contents : Contents) (client : String) (id : DocumentId) : Prop :=
  ∀ stored, contents.get? id = some stored → stored.createdBy = some client

variable (index : SearchIndex) (context : RequestContext) {id : DocumentId}

theorem Request.owned_of_permitted (held : engine.Holds contents) {security : Security}
    (restricted : security = ⟨client, .ownershipBased⟩) {found : Option Document}
    (permitted : ((checkOwnership id security).run index engine).1 = .permitted found) :
    contents.OwnedBy client id := by
  subst restricted
  obtain strategy | owned := (permitted_iff held index id _).mp ⟨found, permitted⟩
  · simp at strategy
  · exact fun stored present => (owned stored present).1

theorem UpsertRequest.commits_own (held : engine.Holds contents) (request : UpsertRequest)
    (restricted : request.security = ⟨client, .ownershipBased⟩)
    (target : ((request.script context).run index engine).1.2.target? = some id) :
    contents.OwnedBy client id := by
  obtain ⟨document, makes⟩ | ⟨result, _, _, run⟩ := request.makes_or_refused
  · rw [run_of_makes index engine makes] at target
    cases owner : ((checkOwnership document.id request.security).run index engine).1 with
    | denied | failed => simp [owner, Commit.target?] at target
    | permitted found =>
        rw [owner] at target
        obtain rfl := WriteKind.target_checked _ _ _ _ target
        exact owned_of_permitted index held restricted owner
  · simp [run, Commit.target?] at target

theorem UpdateRequest.commits_own (held : engine.Holds contents) (request : UpdateRequest)
    (restricted : request.security = ⟨client, .ownershipBased⟩)
    (target : ((request.script context).run index engine).1.2.target? = some id) :
    contents.OwnedBy client id := by
  obtain ⟨document, makes⟩ | ⟨result, _, _, run⟩ := request.makes_or_refused
  · rw [run_of_makes index engine makes] at target
    cases found : (DocumentStore.get request.id engine).1 with
    | notExists => simp [found, Commit.target?] at target
    | unknownFailure detail => simp [found, Commit.target?] at target
    | success read =>
        simp only [found] at target
        split at target
        · next permitted =>
            obtain rfl := WriteKind.target_checked _ _ _ _ target
            obtain ⟨stored, present, readable⟩ := Engine.reread_of_get held found
            have creator := (EngineKind.rereads readable).createdBy
            intro stored' present'
            rw [makes.kept, present] at present'
            obtain rfl := Option.some.inj present'
            simpa [restricted, Security.permits, creator] using permitted
        · simp [Commit.target?] at target
  · simp [run, Commit.target?] at target

theorem DeleteRequest.commits_own (held : engine.Holds contents) (request : DeleteRequest)
    (restricted : request.security = ⟨client, .ownershipBased⟩)
    (target : (request.script.run index engine).1.2.target? = some id) :
    contents.OwnedBy client id := by
  have unchanged := checkOwnership_unchanged index engine request.id request.security
  unfold script at target
  rw [Script.run_andThen, unchanged] at target
  cases owner : ((checkOwnership request.id request.security).run index engine).1 with
  | denied | failed => simp [owner, Script.run, Commit.target?] at target
  | permitted found =>
      rw [owner] at target
      simp only at target
      split at target
      · simp [Script.run, Commit.target?] at target
      · simp only [Script.run] at target
        cases told : (DocumentStore.delete request.id request.force engine).1 with
        | success document =>
            rw [told] at target
            obtain ⟨_, _, _, named⟩ := Engine.reread_of_delete held told
            obtain rfl : document.id = id := Option.some.inj target
            rw [named]
            exact owned_of_permitted index held restricted owner
        | notExists => simp [told, deleteAnswer, Commit.target?] at target
        | referenceConflict ids => simp [told, deleteAnswer, Commit.target?] at target
        | unknownFailure detail => simp [told, deleteAnswer, Commit.target?] at target

end Requests

namespace Service

def Event.security? : Event → Option Security
  | .upsert request => some request.security
  | .update request => some request.security
  | .get request => some request.security
  | .query request => some request.security
  | .delete request => some request.security
  | .work _ | .breakDown _ _ | .setAvailable _ | .stop | .elapse _ | .reindex => none

theorem Event.commits_own {contents : Contents} {service : Service Engine SearchIndex}
    (held : service.store.Holds contents) {client : String} {event : Event}
    (restricted : event.security? = some ⟨client, .ownershipBased⟩) {id : DocumentId}
    (target : (event.perform service).1.target? = some id) : contents.OwnedBy client id := by
  cases event with
  | upsert request => exact request.commits_own _ _ held (Option.some.inj restricted) target
  | update request => exact request.commits_own _ _ held (Option.some.inj restricted) target
  | delete request => exact request.commits_own _ held (Option.some.inj restricted) target
  | get request =>
      obtain ⟨result, run⟩ := @GetRequest.run_quiet service.store service.index request
      simp [perform, committed, run, Commit.target?] at target
  | query request =>
      obtain ⟨result, run⟩ :=
        @QueryRequest.run_quiet service.store service.index request service.context
      simp [perform, committed, run, Commit.target?] at target
  | work | breakDown | setAvailable | stop | elapse | reindex => simp [security?] at restricted

end Service

namespace History

variable {kind : EngineKind} {config : Config} {history : History} {client : String}

theorem Sound.others_kept_after (sound : history.Sound kind config) {event : Service.Event}
    (restricted : event.security? = some ⟨client, .ownershipBased⟩) {id : DocumentId}
    {document : Document}
    (read : (DocumentStore.get id history.service.store).1 = .success document)
    (other : document.createdBy ≠ some client) :
    (DocumentStore.get id (history.after event).service.store).1 = .success document := by
  have sound' := sound.after event
  have same : (history.after event).written.get? id = history.written.get? id := by
    apply Commit.get?_afterCommit
    intro target
    obtain ⟨stored, present, readable⟩ := Engine.reread_of_get sound.held read
    have own := Service.Event.commits_own sound.held restricted target stored present
    exact other ((EngineKind.rereads readable).createdBy.trans own)
  rw [Engine.get_eq sound'.held, same, sound'.kind, ← sound.kind, ← read, Engine.get_eq sound.held]

theorem Sound.others_kept (sound : history.Sound kind config) (own : List Service.Event)
    (restricted : ∀ event ∈ own, event.security? = some ⟨client, .ownershipBased⟩) {id : DocumentId}
    {document : Document}
    (read : (DocumentStore.get id history.service.store).1 = .success document)
    (other : document.createdBy ≠ some client) :
    (DocumentStore.get id (own.foldl History.after history).service.store).1
      = .success document := by
  induction own generalizing history with
  | nil => exact read
  | cons event rest ih =>
      apply ih (sound.after event) fun event member => restricted event (.tail _ member)
      exact sound.others_kept_after (restricted event (.head _)) read other

end History

def Contents.ownedBy (contents : Contents) (client : String) : Contents :=
  contents.filter fun _ document => document.createdBy = some client

section Told

variable {contents contents' : Contents} {client : String}

theorem Contents.ownedBy_eq_iff :
    contents.ownedBy client = contents'.ownedBy client ↔
      ∀ id document, document.createdBy = some client →
        (contents.get? id = some document ↔ contents'.get? id = some document) := by
  have shown : ∀ (contents : Contents) id document,
      (contents.ownedBy client).get? id = some document ↔
        contents.get? id = some document ∧ document.createdBy = some client := by
    intro contents id document
    simp only [ownedBy, Table.get?_filter, Option.filter_eq_some_iff, decide_eq_true_eq]
  constructor
  · intro same id document own
    have found := shown contents id document
    rw [same, shown contents'] at found
    simpa [own] using found.symm
  · intro same
    apply Table.ext_get?
    intro id
    apply Option.ext
    intro document
    rw [shown, shown]
    exact and_congr_left fun own => same id document own

theorem QueryRequest.hits_eq {request : QueryRequest}
    (restricted : request.security = ⟨client, .ownershipBased⟩) (contents : Contents) :
    request.hits contents
      = (contents.ownedBy client).values.filter fun document =>
          document.resource.sameCoordinates request.resource
            && request.filters.accepts document.body.json := by
  rw [hits, Contents.ownedBy, Table.values_filter contents fun document =>
    document.createdBy = some client, List.filter_filter]
  simp only [restricted, Security.permits]

theorem QueryRequest.result_eq {request : QueryRequest}
    (restricted : request.security = ⟨client, .ownershipBased⟩)
    (same : contents.ownedBy client = contents'.ownedBy client) :
    request.result contents = request.result contents' := by
  unfold result
  rw [hits_eq restricted, hits_eq restricted, same]

theorem GetRequest.filter_permits_eq {request : GetRequest}
    (restricted : request.security = ⟨client, .ownershipBased⟩) (contents : Contents) :
    (contents.get? request.id).filter request.security.permits
      = (contents.ownedBy client).get? request.id := by
  rw [Contents.ownedBy, Table.get?_filter, restricted]
  rfl

end Told

namespace History

/-- A client that is held to its own documents leaves those of others alone, whatever it asks for;
    and what it reads is the same in any two runs that leave it the same documents of its own,
    whatever else either of them has. -/
theorem clients_kept_apart (client : String) (config : Config) (events : List Service.Event)
    (source : config.query.source = .primary) :
    let history := run .memory config events
    (∀ own : List Service.Event,
      (∀ event ∈ own, event.security? = some ⟨client, .ownershipBased⟩) →
      ∀ id document, (DocumentStore.get id history.service.store).1 = .success document →
        document.createdBy ≠ some client →
        (DocumentStore.get id (own.foldl History.after history).service.store).1
          = .success document) ∧
    ∀ (config' : Config) (events' : List Service.Event), config'.query.source = .primary →
      let other := run .memory config' events'
      (∀ id document, document.createdBy = some client →
        ((DocumentStore.get id history.service.store).1 = .success document ↔
          (DocumentStore.get id other.service.store).1 = .success document)) →
      (∀ request : GetRequest, request.security = ⟨client, .ownershipBased⟩ →
        (history.service.get request).1 = (other.service.get request).1) ∧
      ∀ request : QueryRequest, request.security = ⟨client, .ownershipBased⟩ →
        (history.service.query request).1 = (other.service.query request).1 := by
  have sound := run_sound .memory config events
  refine ⟨?_, ?_⟩
  · intro own restricted id document read other
    exact sound.others_kept own restricted read other
  · intro config' events' source' other alike
    have sound' := run_sound .memory config' events'
    have same : (run .memory config events).written.ownedBy client = other.written.ownedBy client := by
      rw [Contents.ownedBy_eq_iff]
      intro id document own
      rw [← sound.get_eq_success_iff, alike id document own, sound'.get_eq_success_iff]
    constructor
    · intro request restricted
      rw [sound.get_eq, sound'.get_eq, request.filter_permits_eq restricted,
        request.filter_permits_eq restricted, same]
    · intro request restricted
      rw [sound.query_eq source, sound'.query_eq source', request.result_eq restricted same]

def schoolOf (client number : String) : UpsertRequest :=
  { UpsertRequest.fixed (.fixed "School" "schoolId" number) [] none with
    security := ⟨client, .ownershipBased⟩ }

def ownSchool : List Service.Event := [.upsert (schoolOf "a" "2"), .upsert (schoolOf "a" "1")]

set_option maxRecDepth 10000 in
theorem clients_kept_apart_twoSchools :
    let history := run .memory {} [.upsert (schoolOf "a" "1"), .upsert (schoolOf "b" "2")]
    let other := run .memory {} [.upsert (schoolOf "a" "1")]
    history.written.size = 2 ∧ other.written.size = 1 ∧
      (∀ id document, (DocumentStore.get id history.service.store).1 = .success document →
        document.createdBy ≠ some "a" →
        (DocumentStore.get id (ownSchool.foldl History.after history).service.store).1
          = .success document) ∧
      (∀ request : GetRequest, request.security = ⟨"a", .ownershipBased⟩ →
        (history.service.get request).1 = (other.service.get request).1) ∧
      ∀ request : QueryRequest, request.security = ⟨"a", .ownershipBased⟩ →
        (history.service.query request).1 = (other.service.query request).1 := by
  intro history other
  have sizes : history.written.size = 2 ∧ other.written.size = 1 := by decide +kernel
  have same : history.written.ownedBy "a" = other.written.ownedBy "a" := by decide +kernel
  have restricted : ∀ event ∈ ownSchool, event.security? = some ⟨"a", .ownershipBased⟩ := by
    simp [ownSchool, schoolOf, Service.Event.security?]
  have alike : ∀ id document, document.createdBy = some "a" →
      ((DocumentStore.get id history.service.store).1 = .success document ↔
        (DocumentStore.get id other.service.store).1 = .success document) := by
    intro id document own
    rw [(run_sound _ _ _).get_eq_success_iff, (run_sound _ _ _).get_eq_success_iff]
    exact Contents.ownedBy_eq_iff.mp same id document own
  obtain ⟨kept, told⟩ := clients_kept_apart "a" {} [.upsert (schoolOf "a" "1"),
    .upsert (schoolOf "b" "2")] rfl
  exact ⟨sizes.1, sizes.2, kept ownSchool restricted,
    told {} [.upsert (schoolOf "a" "1")] rfl alike⟩

end History

end Docket
