import Docket.Projection.Queue
import Docket.Projection.Sink
import Docket.Service.Error
import Docket.Service.Requests
/-!
The document service: a store with the cache of existing ids and the search index kept beside it.

A request runs its script on the store, and what it committed then reaches the cache and the
projector (`Service.absorb`). Workers carry out the projection afterwards: a worker takes a task and
reads the document (`begin`), and delivers it to the sink (`finish`). A reindex clears the sink and
delivers every document again.
-/

namespace Docket

structure Service (σ κ : Type) where
  config : Config
  store : σ
  cache : ExistenceCache
  projector : Projector
  sink : κ

namespace Service

variable {σ κ : Type} [DocumentStore σ] [ProjectionSink κ]

def start (config : Config) (store : σ) (sink : κ) : Service σ κ :=
  { config := config
    store := store
    cache :=
      if config.cache.enabled then .ofMaxEntries config.cache.maxEntries.toNat else .disabled
    projector := Projector.start config.projection
    sink := sink }

/-- Opens a service, unless the configuration breaks a rule. -/
def open? (config : Config) (store : σ) (sink : κ) : Except ServiceError (Service σ κ) :=
  match config.validate with
  | .error cause => .error (.config cause)
  | .ok () => .ok (start config store sink)

def index (service : Service σ κ) : SearchIndex := ProjectionSink.index service.sink

def withIndex (service : Service σ κ) (index : SearchIndex) : Service σ κ :=
  { service with sink := ProjectionSink.withIndex index service.sink }

/-! ### Requests -/

def context (service : Service σ κ) : RequestContext :=
  { validation := service.config.validation
    source := service.config.query.source
    cache := service.cache }

/-- What a commit does besides the store: inserted ids are remembered and deleted ones forgotten,
    and every change is offered to the projector. -/
def absorb (service : Service σ κ) : Commit → Service σ κ
  | .nothing => service
  | .inserted document =>
      { service with
        cache := service.cache.addAll document.existenceIds
        projector := service.projector.offer document.id }
  | .replaced document => { service with projector := service.projector.offer document.id }
  | .deleted document =>
      { service with
        cache := service.cache.removeAll document.existenceIds
        projector := service.projector.offer document.id }

def perform {α : Type} (service : Service σ κ) (script : Script (α × Commit)) : α × Service σ κ :=
  let ((result, commit), store) := script.run service.index service.store
  (result, { service with store := store }.absorb commit)

def upsert (service : Service σ κ) (request : UpsertRequest) : UpsertResult × Service σ κ :=
  service.perform (request.script service.context)

def update (service : Service σ κ) (request : UpdateRequest) : UpdateResult × Service σ κ :=
  service.perform (request.script service.context)

def get (service : Service σ κ) (request : GetRequest) : GetResult × Service σ κ :=
  service.perform request.script

def query (service : Service σ κ) (request : QueryRequest) : QueryResult × Service σ κ :=
  service.perform (request.script service.context)

def delete (service : Service σ κ) (request : DeleteRequest) : DeleteResult × Service σ κ :=
  service.perform request.script

/-! ### Projection -/

def settle (service : Service σ κ) (task : Task) (outcome : Except ProjectionError Bool) :
    Service σ κ :=
  let failure := match outcome with
    | .ok _ => none
    | .error cause => some cause.message
  { service with projector := service.projector.settle task failure }

def begin (service : Service σ κ) (task : Task) : GetOutcome × Service σ κ :=
  let (reading, store) := DocumentStore.get task.id service.store
  (reading, { service with store := store, projector := service.projector.take task })

def finish (service : Service σ κ) (task : Task) (reading : GetOutcome) : Service σ κ :=
  let (outcome, sink) := deliver task.id reading service.sink
  { service with sink := sink }.settle task outcome

def work (service : Service σ κ) (task : Task) : Service σ κ :=
  let (reading, service) := service.begin task
  service.finish task reading

/-- Carries out the first waiting task, up to a number of times and while a worker is left. -/
def workThrough (service : Service σ κ) : Nat → Service σ κ
  | 0 => service
  | fuel + 1 =>
      match service.projector.queue with
      | [] => service
      | task :: _ =>
          if service.projector.workersLeft = 0 then service
          else (service.work task).workThrough fuel

/-- Carries out every waiting task, with the attempts that this calls for. -/
def drain (service : Service σ κ) : Service σ κ :=
  service.workThrough service.projector.attemptsLeft

def shutdown (service : Service σ κ) : Service σ κ :=
  { service with projector := service.projector.stop }.drain

/-! ### Reindexing -/

structure ReindexReport where
  documents : Nat
  rejected : Nat
  deriving DecidableEq, Inhabited

def pageSize : Nat := 256

def reindexError : ProjectionError → ServiceError
  | .index cause => .index cause
  | .unreadable detail => .store (.engine detail)
  | .crashed report => .store (.engine (ProjectionError.crashed report).message)

/-- Brings the entry of one id in line and counts it. A refused document is recorded as a failure
    and left out; any other failure ends the reindex. -/
def reindexOne (service : Service σ κ) (report : ReindexReport) (id : DocumentId) :
    Except ServiceError ReindexReport × Service σ κ :=
  -- The document is read once more: it may have changed since its page was.
  let (reading, store) := DocumentStore.get id service.store
  let (outcome, sink) := deliver id reading service.sink
  let service := { service with store := store, sink := sink }
  match outcome with
  | .ok true => (.ok { report with documents := report.documents + 1 }, service)
  | .ok false => (.ok report, service)
  | .error (.index (.rejected refused reason)) =>
      let message := (IndexError.rejected refused reason).message
      (.ok { report with rejected := report.rejected + 1 },
        { service with projector := service.projector.record ⟨id, message, 1⟩ })
  | .error cause => (.error (reindexError cause), service)

def reindexPage (service : Service σ κ) (report : ReindexReport) :
    List Document → Except ServiceError ReindexReport × Service σ κ
  | [] => (.ok report, service)
  | document :: rest =>
      match service.reindexOne report document.id with
      | (.ok report, service) => service.reindexPage report rest
      | (.error cause, service) => (.error cause, service)

def reindexAfter (service : Service σ κ) (report : ReindexReport) (after : Option DocumentId) :
    Nat → Except ServiceError ReindexReport × Service σ κ
  | 0 => (.ok report, service)
  | fuel + 1 =>
      let (page, store) := DocumentStore.scan after (UInt64.ofNat pageSize) service.store
      let service := { service with store := store }
      match page with
      | .error cause => (.error (.store cause), service)
      | .ok documents =>
          match documents.getLast? with
          | none => (.ok report, service)
          | some last =>
              match service.reindexPage report documents with
              | (.error cause, service) => (.error cause, service)
              | (.ok report, service) =>
                  -- A short page is the last one.
                  if documents.length < pageSize then (.ok report, service)
                  else service.reindexAfter report (some last.id) fuel

/-- Clears the sink and delivers every document. There are no more pages than documents. -/
def rebuild (service : Service σ κ) : Except ServiceError ReindexReport × Service σ κ :=
  let (cleared, sink) := ProjectionSink.clear service.sink
  let service := { service with sink := sink }
  match cleared with
  | .error cause => (.error (.index cause), service)
  | .ok () => service.reindexAfter ⟨0, 0⟩ none (DocumentStore.size service.store + 1)

/-- Makes the index anew from the store. A reindex that fails leaves the index in need of one. -/
def reindex (service : Service σ κ) : Except ServiceError ReindexReport × Service σ κ :=
  let (outcome, service) :=
    { service with
      projector := { service.projector with needsReindex := false, failures := [] } }.rebuild
  match outcome with
  | .ok report => (.ok report, service)
  | .error cause =>
      (.error cause,
        { service with projector := { service.projector with needsReindex := true } })

end Service

end Docket
