import Docket.Proofs.Filter
import Docket.Proofs.Service.Run
/-!
What requests answer that only read, on the store in memory.

A query that goes to the store answers a window of the documents that the resource, the filters and
the client let through, in order of id (`QueryRequest.run_memory`). For a client that is held to its
own documents the store is asked for all, and the window is laid over what is left.
-/

namespace Docket

open Request

def QueryRequest.hits (request : QueryRequest) (contents : Contents) : List Document :=
  contents.values.filter fun document =>
    document.resource.sameCoordinates request.resource
      && request.filters.accepts document.body.json && request.security.permits document

def QueryRequest.result (request : QueryRequest) (contents : Contents) : QueryResult :=
  match request.filters.validate with
  | .error cause => .failure .queryFailureInvalidQuery cause.message
  | .ok () => ⟨.querySuccess, request.pagination.apply (request.hits contents), none⟩

variable (index : SearchIndex) {store : MemoryStore} {contents : Contents}

theorem QueryRequest.run_memory (held : (Engine.memory store).Holds contents)
    (request : QueryRequest) {context : RequestContext} (source : context.source = .primary) :
    (request.script context).run index (Engine.memory store)
      = ((request.result contents, .nothing), .memory store) := by
  have documents : store.documents = contents := held.keeps
  unfold script result
  cases accepted : request.filters.validate with
  | error cause => rfl
  | ok _ =>
      -- The store checks the filters once more.
      have asked : ∀ window, DocumentStore.query index request.resource request.filters window
            (Engine.memory store)
          = (.success (window.apply (contents.values.filter fun document =>
              document.resource.sameCoordinates request.resource
                && request.filters.accepts document.body.json)), .memory store) := by
        intro window
        change ((store.query request.resource request.filters window), Engine.memory store) = _
        rw [MemoryStore.query, accepted, documents]
      simp only [source, Script.run, asked]
      cases strategy : request.security.strategy with
      | fullAccess => simp [hits, Security.permits, strategy]
      | ownershipBased => simp [hits, List.filter_filter, Bool.and_comm]

theorem GetRequest.run_memory (held : (Engine.memory store).Holds contents)
    (request : GetRequest) :
    (request.script.run index (Engine.memory store)).1.1
      = match (contents.get? request.id).filter request.security.permits with
        | some document => ⟨.getSuccess, some document⟩
        | none => ⟨.getFailureNotExists, none⟩ := by
  simp only [script, Script.run, Engine.get_eq held]
  cases contents.get? request.id with
  | none => rfl
  | some document =>
      simp only [Option.map_some, Engine.kind, EngineKind.reread, GetOutcome.ofReading, Script.run,
        Option.filter_some]
      split
      · rfl
      · rfl

theorem Engine.exists_memory {engine : Engine} (kind : engine.kind = .memory) :
    ∃ store, engine = .memory store := by
  cases engine with
  | memory store => exact ⟨store, rfl⟩
  | keyValue store => cases kind
  | relational store => cases kind

theorem Engine.get_memory_iff {engine : Engine} (kind : engine.kind = .memory)
    (held : engine.Holds contents) {id : DocumentId} {document : Document} :
    (DocumentStore.get id engine).1 = .success document ↔ contents.get? id = some document := by
  rw [Engine.get_eq held, kind]
  cases contents.get? id with
  | none => simp [GetOutcome.ofReading]
  | some stored => simp [GetOutcome.ofReading, EngineKind.reread]

theorem Service.query_memory {κ : Type} [ProjectionSink κ] {service : Service Engine κ}
    (kind : service.store.kind = .memory) (held : service.store.Holds contents)
    (source : service.config.query.source = .primary) (request : QueryRequest) :
    (service.query request).1 = request.result contents := by
  obtain ⟨store, named⟩ := Engine.exists_memory kind
  have primary : service.context.source = .primary := source
  rw [named] at held
  simp only [query, perform, named, request.run_memory _ held primary]

namespace History

variable {config : Config} {history : History}

theorem Sound.get_eq_success_iff (sound : history.Sound .memory config) {id : DocumentId}
    {document : Document} :
    (DocumentStore.get id history.service.store).1 = .success document ↔
      history.written.get? id = some document :=
  Engine.get_memory_iff sound.kind sound.held

theorem Sound.query_eq (sound : history.Sound .memory config)
    (source : config.query.source = .primary) (request : QueryRequest) :
    (history.service.query request).1 = request.result history.written :=
  Service.query_memory sound.kind sound.held (sound.config ▸ source) request

theorem Sound.get_eq (sound : history.Sound .memory config) (request : GetRequest) :
    (history.service.get request).1
      = match (history.written.get? request.id).filter request.security.permits with
        | some document => ⟨.getSuccess, some document⟩
        | none => ⟨.getFailureNotExists, none⟩ := by
  obtain ⟨store, named⟩ := Engine.exists_memory sound.kind
  rw [← request.run_memory history.service.index (named ▸ sound.held)]
  simp only [Service.get, Service.perform, named]

end History

end Docket
