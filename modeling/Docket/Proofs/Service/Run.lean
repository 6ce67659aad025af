import Docket.Proofs.Service.Reindex
import Docket.Proofs.Service.Requests
/-!
Runs of a service.

A run is made of requests and of steps of the projection, each of them atomic. Besides the service a
`History` has the documents that the store holds, each as it was last written, and the aliases that
documents have lost by being replaced; what a request committed tells how both go on. Every run keeps
the store holding these documents, all of whose bodies are objects (`History.run_sound`).
-/

namespace Docket

open Request

namespace Contents

def afterCommit (contents : Contents) : Commit → Contents
  | .nothing => contents
  | .inserted document => contents.put document
  | .replaced document => contents.put document
  | .deleted document => contents.erase document.id

end Contents

namespace Commit

/-- What a commit says of the contents it finds: an insert finds no document and the others find
    one, and a delete tells of that document. -/
inductive Fits (contents : Contents) : Commit → Prop where
  | nothing : Fits contents .nothing
  | inserted {document : Document} (isObject : document.body.isObject = true)
      (absent : contents.get? document.id = none) : Fits contents (.inserted document)
  | replaced {document old : Document} (isObject : document.body.isObject = true)
      (present : contents.get? document.id = some old) : Fits contents (.replaced document)
  | deleted {document stored : Document} (present : contents.get? document.id = some stored)
      (rereads : stored.Rereads document) : Fits contents (.deleted document)

def dropped (contents : Contents) : Commit → List DocumentId
  | .replaced document => contents.dropped document
  | _ => []

def target? : Commit → Option DocumentId
  | .nothing => none
  | .inserted document => some document.id
  | .replaced document => some document.id
  | .deleted document => some document.id

theorem get?_afterCommit {contents : Contents} (commit : Commit) {id : DocumentId}
    (other : commit.target? ≠ some id) : (contents.afterCommit commit).get? id = contents.get? id := by
  cases commit with
  | nothing => rfl
  | inserted document =>
      have differ : id ≠ document.id := fun same => other (same ▸ rfl)
      rw [Contents.afterCommit, Contents.get?_put_of_ne differ]
  | replaced document =>
      have differ : id ≠ document.id := fun same => other (same ▸ rfl)
      rw [Contents.afterCommit, Contents.get?_put_of_ne differ]
  | deleted document =>
      have differ : id ≠ document.id := fun same => other (same ▸ rfl)
      rw [Contents.afterCommit, Table.get?_erase, if_neg differ]

end Commit

structure Commits (contents : Contents) (before : Engine) (commit : Commit) (after : Engine) :
    Prop where
  fits : commit.Fits contents
  held : after.Holds (contents.afterCommit commit)
  kind : after.kind = before.kind

section Requests

variable {contents : Contents} {engine : Engine}

theorem Commits.nothing (held : engine.Holds contents) : Commits contents engine .nothing engine :=
  ⟨.nothing, held, rfl⟩

theorem WriteKind.checked_commits {α : Type} (kind : WriteKind α) (held : engine.Holds contents)
    (context : RequestContext) {document : Document} (isObject : document.body.isObject = true) :
    Commits contents engine (kind.checked context document engine).1.2
      (kind.checked context document engine).2 := by
  cases lacking : context.lacking engine.existence document with
  | cons id rest =>
      simp only [checked, lacking]
      exact .nothing held
  | nil =>
      have step := Engine.write_step held (context.validation.write document) kind.insertAllowed
      have same := engine.kind_write (context.validation.write document) kind.insertAllowed
      rcases written : engine.write (context.validation.write document) kind.insertAllowed
        with ⟨applied, next⟩
      rw [written] at step same
      simp only [checked, lacking, written]
      have body : (context.validation.write document).document.body.isObject = true := by
        rw [ValidationSettings.write_body, isObject]
      cases step with
      | refused cause =>
          rw [kind.answer_refused_commit]
          exact .nothing held
      | inserted allowed absent _ stored =>
          obtain ⟨result, told, _⟩ := kind.answer_inserted
            (context.validation.write document).document allowed
          rw [told]
          exact ⟨.inserted body absent, stored, same⟩
      | updated present _ stored =>
          obtain ⟨result, told, _⟩ := kind.answer_updated
            (context.validation.write document).document
          rw [told]
          exact ⟨.replaced body present, stored, same⟩

variable (index : SearchIndex)

theorem WriteKind.Runs.commits {α : Type} {kind : WriteKind α} {made : Except Error Document}
    {script : RequestContext → Script (α × Commit)} (runs : kind.Runs made script index engine)
    (held : engine.Holds contents) (context : RequestContext) :
    Commits contents engine ((script context).run index engine).1.2
      ((script context).run index engine).2 := by
  cases runs with
  | refused result fails silent run =>
      rw [run]
      exact .nothing held
  | checked document made isObject run =>
      rw [run]
      exact kind.checked_commits held context isObject

theorem Commits.of_reading {α : Type} (held : engine.Holds contents) {run : (α × Commit) × Engine}
    (quiet : ∃ result, run = ((result, .nothing), engine)) :
    Commits contents engine run.1.2 run.2 := by
  obtain ⟨result, rfl⟩ := quiet
  exact .nothing held

theorem GetRequest.run_quiet (request : GetRequest) :
    ∃ result, request.script.run index engine = ((result, .nothing), engine) := by
  have unchanged := Engine.get_unchanged request.id engine
  simp only [script, Script.run, unchanged]
  cases (DocumentStore.get request.id engine).1 with
  | success document => exact ⟨_, rfl⟩
  | notExists => exact ⟨_, rfl⟩
  | unknownFailure detail => exact ⟨_, rfl⟩

theorem QueryRequest.run_quiet (request : QueryRequest) (context : RequestContext) :
    ∃ result, (request.script context).run index engine = ((result, .nothing), engine) := by
  unfold script
  cases request.filters.validate with
  | error cause => exact ⟨_, rfl⟩
  | ok _ =>
      cases context.source with
      | primary =>
          simp only [Script.run, Engine.query_unchanged]
          cases (DocumentStore.query index request.resource request.filters _ engine).1 with
          | success documents => exact ⟨_, rfl⟩
          | invalidQuery message => exact ⟨_, rfl⟩
          | unknownFailure detail => exact ⟨_, rfl⟩
      | searchIndex =>
          simp only [Script.run]
          cases index.search request.resource request.filters _ with
          | ok documents => exact ⟨_, rfl⟩
          | error cause => exact ⟨_, rfl⟩

theorem Commits.of_delete (held : engine.Holds contents) (id : DocumentId) (force : Bool) :
    Commits contents engine (deleteAnswer id (DocumentStore.delete id force engine).1).2
      (DocumentStore.delete id force engine).2 := by
  have after := (Engine.step_holds (.delete id force) engine contents held).held
  have same := Engine.kind_perform (.delete id force) engine
  have reads := @Engine.reread_of_delete engine contents held id force
  simp only [Call.perform, Prod.map] at after same
  rcases told : DocumentStore.delete id force engine with ⟨outcome, next⟩
  rw [told] at after same reads
  cases outcome with
  | success document =>
      obtain ⟨stored, present, readable, rfl⟩ := reads rfl
      have rereads := EngineKind.rereads readable
      exact ⟨.deleted present rereads, after, same⟩
  | notExists => exact ⟨.nothing, after, same⟩
  | referenceConflict ids => exact ⟨.nothing, after, same⟩
  | unknownFailure detail => exact ⟨.nothing, after, same⟩

theorem DeleteRequest.commits (held : engine.Holds contents) (request : DeleteRequest) :
    Commits contents engine (request.script.run index engine).1.2
      (request.script.run index engine).2 := by
  have unchanged := checkOwnership_unchanged index engine request.id request.security
  unfold script
  rw [Script.run_andThen, unchanged]
  cases ((checkOwnership request.id request.security).run index engine).1 with
  | denied => exact .nothing held
  | failed => exact .nothing held
  | permitted stored =>
      simp only
      split
      · exact .nothing held
      · exact .of_delete held request.id request.force

end Requests

/-! ### Events -/

namespace Service

inductive Event where
  | upsert (request : UpsertRequest)
  | update (request : UpdateRequest)
  | get (request : GetRequest)
  | query (request : QueryRequest)
  | delete (request : DeleteRequest)
  /-- A worker carries out a task, whichever of those that wait. -/
  | work (task : Task)
  /-- A worker takes a task and breaks down over it. -/
  | breakDown (task : Task) (report : Option String)
  | setAvailable (available : Bool)
  | stop
  | elapse (milliseconds : Nat)
  | reindex

def committed {α : Type} (service : Service Engine SearchIndex) (script : Script (α × Commit)) :
    Commit × Service Engine SearchIndex :=
  ((script.run service.index service.store).1.2, (service.perform script).2)

def Event.perform (event : Event) (service : Service Engine SearchIndex) :
    Commit × Service Engine SearchIndex :=
  match event with
  | .upsert request => service.committed (request.script service.context)
  | .update request => service.committed (request.script service.context)
  | .get request => service.committed request.script
  | .query request => service.committed (request.script service.context)
  | .delete request => service.committed request.script
  | .work task =>
      (.nothing, if task ∈ service.projector.queue then service.work task else service)
  | .breakDown task report =>
      (.nothing, if task ∈ service.projector.queue then
        (service.begin task).2.settle task (.error (.crashed report)) else service)
  | .setAvailable available => (.nothing, service.withIndex (service.index.setAvailable available))
  | .stop => (.nothing, { service with projector := service.projector.stop })
  | .elapse milliseconds =>
      (.nothing, { service with projector := service.projector.elapse milliseconds })
  | .reindex => (.nothing, service.reindex.2)

end Service

/-- A service in a run, with the documents that its store holds and the aliases that documents have
    lost by being replaced. -/
structure History where
  service : Service Engine SearchIndex
  written : Contents
  dropped : List DocumentId

namespace History

def after (history : History) (event : Service.Event) : History :=
  let (commit, service) := event.perform history.service
  { service := service
    written := history.written.afterCommit commit
    dropped := history.dropped ++ commit.dropped history.written }

def start (kind : EngineKind) (config : Config) : History :=
  ⟨.start config kind.fresh SearchIndex.empty, Table.empty, []⟩

def run (kind : EngineKind) (config : Config) (events : List Service.Event) : History :=
  events.foldl after (start kind config)

structure Sound (kind : EngineKind) (config : Config) (history : History) : Prop where
  kind : history.service.store.kind = kind
  config : history.service.config = config
  held : history.service.store.Holds history.written
  objects : ∀ id document, history.written.get? id = some document →
    document.body.isObject = true

end History

namespace Service

inductive Goes (contents : Contents) (service : Service Engine SearchIndex) :
    Commit × Service Engine SearchIndex → Prop where
  | request {commit : Commit} {store : Engine}
      (commits : Commits contents service.store commit store) :
      Goes contents service (commit, { service with store := store }.absorb commit)
  | projection {next : Service Engine SearchIndex} (store : next.store = service.store)
      (config : next.config = service.config) (cache : next.cache = service.cache) :
      Goes contents service (.nothing, next)

variable {contents : Contents} {service : Service Engine SearchIndex}

theorem absorb_store (service : Service Engine SearchIndex) (commit : Commit) :
    (service.absorb commit).store = service.store := by
  cases commit with
  | nothing => rfl
  | inserted document => rfl
  | replaced document => rfl
  | deleted document => rfl

theorem absorb_config (service : Service Engine SearchIndex) (commit : Commit) :
    (service.absorb commit).config = service.config := by
  cases commit with
  | nothing => rfl
  | inserted document => rfl
  | replaced document => rfl
  | deleted document => rfl

theorem work_eq {task : Task} {outcome : Except ProjectionError Bool} {index : SearchIndex}
    (landed : deliver task.id (DocumentStore.get task.id service.store).1 service.sink
      = (outcome, index)) :
    service.work task
      = { service with projector := service.projector.take task, sink := index }.settle task
          outcome := by
  have unchanged := Engine.get_unchanged task.id service.store
  simp only [work, begin, finish, unchanged, landed]

theorem begin_eq (service : Service Engine SearchIndex) (task : Task) :
    (service.begin task).2 = { service with projector := service.projector.take task } := by
  simp only [begin, Engine.get_unchanged]

theorem Event.goes (held : service.store.Holds contents)
    (objects : ∀ id document, contents.get? id = some document → document.body.isObject = true)
    (event : Event) : Goes contents service (event.perform service) := by
  cases event with
  | upsert request =>
      exact .request (WriteKind.Runs.commits _ (request.runs _ _) held service.context)
  | update request =>
      exact .request (WriteKind.Runs.commits _ (request.runs _ _) held service.context)
  | get request => exact .request (.of_reading held (request.run_quiet _))
  | query request => exact .request (.of_reading held (request.run_quiet _ service.context))
  | delete request => exact .request (request.commits _ held)
  | work task =>
      rcases landed : deliver task.id (DocumentStore.get task.id service.store).1 service.sink
        with ⟨outcome, index⟩
      simp only [perform, work_eq landed]
      split
      · exact .projection rfl rfl rfl
      · exact .projection rfl rfl rfl
  | breakDown task report =>
      simp only [perform, begin_eq]
      split
      · exact .projection rfl rfl rfl
      · exact .projection rfl rfl rfl
  | setAvailable | stop | elapse => exact .projection rfl rfl rfl
  | reindex =>
      have ended := reindex_end held objects
      rcases told : service.reindex with ⟨outcome, next⟩
      rw [told] at ended
      simp only [perform, told]
      cases ended with
      | done said orderly => exact .projection rfl rfl rfl
      | failed orderly => exact .projection rfl rfl rfl

end Service

theorem Commit.Fits.objects {contents : Contents} {commit : Commit} (fits : commit.Fits contents)
    (objects : ∀ id document, contents.get? id = some document → document.body.isObject = true)
    (id : DocumentId) (document : Document)
    (found : (contents.afterCommit commit).get? id = some document) :
    document.body.isObject = true := by
  have put : ∀ new : Document, new.body.isObject = true →
      (contents.put new).get? id = some document → document.body.isObject = true := by
    intro new isObject found
    rw [Contents.get?_put] at found
    split at found
    · obtain rfl := Option.some.inj found
      rw [Document.keepingCreator_body, isObject]
    · exact objects id document found
  cases fits with
  | nothing => exact objects id document found
  | inserted isObject absent => exact put _ isObject found
  | replaced isObject present => exact put _ isObject found
  | deleted present rereads =>
      rw [Contents.afterCommit, Table.get?_erase] at found
      split at found
      · simp at found
      · exact objects id document found

namespace History

variable {kind : EngineKind} {config : Config} {history : History}

theorem start_sound (kind : EngineKind) (config : Config) : (start kind config).Sound kind config where
  kind := by cases kind <;> rfl
  config := rfl
  held := kind.fresh_holds
  objects _ _ found := by simp [start] at found

theorem Sound.goes (sound : history.Sound kind config) (event : Service.Event) :
    Service.Goes history.written history.service (event.perform history.service) :=
  event.goes sound.held sound.objects

theorem Sound.after (sound : history.Sound kind config) (event : Service.Event) :
    (history.after event).Sound kind config := by
  have goes := sound.goes event
  rcases told : event.perform history.service with ⟨commit, next⟩
  rw [told] at goes
  simp only [History.after, told]
  cases goes with
  | request commits =>
      constructor
      · rw [Service.absorb_store]
        exact commits.kind.trans sound.kind
      · rw [Service.absorb_config]
        exact sound.config
      · rw [Service.absorb_store]
        exact commits.held
      · exact commits.fits.objects sound.objects
  | projection store config cache =>
      constructor
      · exact (congrArg Engine.kind store).trans sound.kind
      · exact config.trans sound.config
      · rw [store]
        exact sound.held
      · exact sound.objects

theorem run_induction {holds : History → Prop} (first : holds (start kind config))
    (next : ∀ history event, history.Sound kind config → holds history →
      holds (history.after event)) (events : List Service.Event) :
    holds (run kind config events) ∧ (run kind config events).Sound kind config := by
  have all : ∀ history : History, history.Sound kind config → holds history →
      holds (events.foldl History.after history) ∧
        (events.foldl History.after history).Sound kind config := by
    induction events with
    | nil => exact fun history sound held => ⟨held, sound⟩
    | cons event rest ih =>
        exact fun history sound held =>
          ih (history.after event) (sound.after event) (next history event sound held)
  exact all _ (start_sound kind config) first

theorem run_sound (kind : EngineKind) (config : Config) (events : List Service.Event) :
    (run kind config events).Sound kind config :=
  (@run_induction kind config (fun _ => True) trivial (fun _ _ _ _ => trivial) events).2

end History

def Reference.fixed (name field value : String) : Reference :=
  ⟨⟨"Ed-Fi", name, "3.3.1-b", false⟩, ⟨Table.ofList [(field, value)]⟩⟩

def UpsertRequest.fixed (document : Reference) (references : List Reference)
    (superclass : Option Reference) : UpsertRequest :=
  ⟨none, document.resource, document.identity, .emptyObject, references, superclass,
    ⟨"admin", .fullAccess⟩, ""⟩

end Docket
