import Docket.Proofs.Projection.Queue
import Docket.Proofs.Service.Run
/-!
The search index comes to say what the store says.

At every point of a run the index says of an id what the store says, or a task for the id waits, or
the index is in need of a reindex, or a task was lost (`History.Tracked`). So where nothing waits, no
reindex is needed and no task was lost, the index holds the documents of the store and no others
(`History.index_matches_store`). A task that is lost leaves the index behind with nothing to tell of
it (`History.lost_unnoticed`).
-/

namespace Docket

namespace Service

variable (service : Service Engine SearchIndex) (commit : Commit)

theorem absorb_sink : (service.absorb commit).sink = service.sink := by
  cases commit with
  | nothing => rfl
  | inserted document => rfl
  | replaced document => rfl
  | deleted document => rfl

variable {service commit}

theorem pending_absorb {id : DocumentId} (target : commit.target? = some id) :
    (service.absorb commit).projector.Pending id := by
  cases commit with
  | nothing => simp [Commit.target?] at target
  | inserted document =>
      obtain rfl := Option.some.inj target
      exact Projector.pending_offer _ _
  | replaced document =>
      obtain rfl := Option.some.inj target
      exact Projector.pending_offer _ _
  | deleted document =>
      obtain rfl := Option.some.inj target
      exact Projector.pending_offer _ _

theorem Pending.absorb {id : DocumentId} (pending : service.projector.Pending id)
    (commit : Commit) : (service.absorb commit).projector.Pending id := by
  cases commit with
  | nothing => exact pending
  | inserted document => exact pending.offer document.id
  | replaced document => exact pending.offer document.id
  | deleted document => exact pending.offer document.id

end Service

namespace History

variable {kind : EngineKind} {config : Config} {history : History}

structure Tracked (service : Service Engine SearchIndex) : Prop where
  said : ∀ id, service.sink.answer id = (DocumentStore.get id service.store).1 ∨
    service.projector.Pending id
  orderly : service.sink.Orderly

theorem start_tracked (kind : EngineKind) (config : Config) :
    Tracked (start kind config).service where
  said id := by
    left
    change _ = (DocumentStore.get id kind.fresh).1
    rw [Engine.get_eq kind.fresh_holds]
    rfl
  orderly := SearchIndex.orderly_empty

theorem Tracked.absorb (tracked : Tracked history.service) (sound : history.Sound kind config)
    {commit : Commit} {store : Engine}
    (commits : Commits history.written history.service.store commit store) :
    Tracked ({ history.service with store := store }.absorb commit) where
  said id := by
    rw [Service.absorb_sink, Service.absorb_store]
    by_cases target : commit.target? = some id
    · exact .inr (Service.pending_absorb target)
    · have kept : (DocumentStore.get id store).1
          = (DocumentStore.get id history.service.store).1 := by
        rw [Engine.get_eq commits.held, Engine.get_eq sound.held, commits.kind,
          Commit.get?_afterCommit commit target]
      rw [kept]
      exact (tracked.said id).imp_right fun pending => Service.Pending.absorb pending commit
  orderly := by
    rw [Service.absorb_sink]
    exact tracked.orderly

theorem Tracked.work (tracked : Tracked history.service) (sound : history.Sound kind config)
    (task : Task) : Tracked (history.service.work task) := by
  have delivered := deliver_end (Engine.get_suits sound.held sound.objects task.id)
    history.service.sink
  rcases landed : deliver task.id (DocumentStore.get task.id history.service.store).1
    history.service.sink with ⟨outcome, index⟩
  rw [landed] at delivered
  rw [Service.work_eq landed]
  cases delivered with
  | done said others orderly =>
      constructor
      · intro id
        by_cases own : id = task.id
        · subst own
          exact .inl said
        · rcases tracked.said id with same | pending
          · left
            change index.answer id = (DocumentStore.get id history.service.store).1
            rw [← same, SearchIndex.answer, others id own]
            rfl
          · exact .inr ((pending.take (Ne.symm own)).settle task _)
      · exact orderly tracked.orderly
  | failed taken =>
      constructor
      · intro id
        by_cases own : id = task.id
        · subst own
          exact .inr (Projector.pending_settle _ task _)
        · exact (tracked.said id).imp_right fun pending =>
            (pending.take (Ne.symm own)).settle task _
      · exact tracked.orderly

theorem Tracked.breakDown (tracked : Tracked history.service) (task : Task)
    (report : Option String) :
    Tracked ((history.service.begin task).2.settle task (.error (.crashed report))) := by
  rw [Service.begin_eq]
  constructor
  · intro id
    by_cases own : id = task.id
    · subst own
      exact .inr (Projector.pending_settle _ task _)
    · exact (tracked.said id).imp_right fun pending =>
        (pending.take (Ne.symm own)).settle task _
  · exact tracked.orderly

theorem Tracked.reindex (tracked : Tracked history.service) (sound : history.Sound kind config) :
    Tracked history.service.reindex.2 := by
  have ended := Service.reindex_end sound.held sound.objects
  rcases told : history.service.reindex with ⟨outcome, next⟩
  rw [told] at ended
  cases ended with
  | done said orderly => exact ⟨fun id => .inl (said id), orderly tracked.orderly⟩
  | failed orderly => exact ⟨fun id => .inr (.inl rfl), orderly tracked.orderly⟩

theorem Tracked.after (tracked : Tracked history.service) (sound : history.Sound kind config)
    (event : Service.Event) : Tracked (history.after event).service := by
  cases event with
  | upsert request =>
      exact tracked.absorb sound (WriteKind.Runs.commits _ (request.runs _ _) sound.held _)
  | update request =>
      exact tracked.absorb sound (WriteKind.Runs.commits _ (request.runs _ _) sound.held _)
  | get request => exact tracked.absorb sound (.of_reading sound.held (request.run_quiet _))
  | query request => exact tracked.absorb sound (.of_reading sound.held (request.run_quiet _ _))
  | delete request => exact tracked.absorb sound (request.commits _ sound.held)
  | work task =>
      simp only [History.after, Service.Event.perform]
      split
      · exact tracked.work sound task
      · exact tracked
  | breakDown task report =>
      simp only [History.after, Service.Event.perform]
      split
      · exact tracked.breakDown task report
      · exact tracked
  | setAvailable | stop | elapse => exact ⟨tracked.said, tracked.orderly⟩
  | reindex => exact tracked.reindex sound

theorem run_tracked (kind : EngineKind) (config : Config) (events : List Service.Event) :
    Tracked (run kind config events).service :=
  (run_induction (start_tracked kind config)
    (fun _ event sound tracked => Tracked.after tracked sound event) events).1

/-- When no task waits, none was lost and no reindex is asked for, the index finds under every id the
    document that the store holds, or none where the store holds none; and no other document is in
    it. -/
theorem index_matches_store (kind : EngineKind) (config : Config) (events : List Service.Event)
    (idle : (run kind config events).service.projector.queue = [])
    (unflagged : (run kind config events).service.projector.needsReindex = false)
    (intact : (run kind config events).service.projector.lost = 0) :
    (∀ id, (DocumentStore.get id (run kind config events).service.store).1
      = match (run kind config events).service.index.get? id with
        | some document => .success document
        | none => .notExists) ∧
    ∀ name kept id document,
      (run kind config events).service.index.indices.get? name = some kept →
      kept.documents.get? id = some document →
      (DocumentStore.get id (run kind config events).service.store).1 = .success document := by
  have tracked := run_tracked kind config events
  have said : ∀ id, (run kind config events).service.index.answer id
      = (DocumentStore.get id (run kind config events).service.store).1 := by
    intro id
    exact (tracked.said id).resolve_right (Projector.not_pending idle unflagged intact)
  constructor
  · intro id
    exact (said id).symm
  · intro name kept id document found stored
    have held : (run kind config events).service.index.get? id = some document :=
      SearchIndex.Orderly.get?_eq tracked.orderly found stored
    rw [← said, SearchIndex.answer, held]

def secondTry : List Service.Event :=
  let school := Reference.fixed "School" "schoolId" "1"
  let id := Derivation.documentId "Ed-Fi" "School" "3.3.1-b" school.identity
  [.upsert (.fixed school [] none), .setAvailable false, .work ⟨id, 1, 0, 0⟩, .setAvailable true,
    .work ⟨id, 2, 50, 1⟩]

set_option maxRecDepth 10000 in
theorem index_matches_store_secondTry :
    let service := (run .memory {} secondTry).service
    (service.projector.queue = [] ∧ service.projector.needsReindex = false ∧
      service.projector.lost = 0 ∧ service.projector.retried = 1 ∧ service.index.size = 1) ∧
    ∀ id, (DocumentStore.get id service.store).1
      = match service.index.get? id with
        | some document => .success document
        | none => .notExists := by
  have reached : (run .memory {} secondTry).service.projector.queue = [] ∧
      (run .memory {} secondTry).service.projector.needsReindex = false ∧
      (run .memory {} secondTry).service.projector.lost = 0 ∧
      (run .memory {} secondTry).service.projector.retried = 1 ∧
      (run .memory {} secondTry).service.index.size = 1 := by
    decide +kernel
  exact ⟨reached,
    (index_matches_store .memory {} secondTry reached.1 reached.2.1 reached.2.2.1).1⟩

/-- A document is written while the index is offline, and the projector stopped, so that its task is
    tried again and again without waiting. -/
def untilLost : List Service.Event :=
  let school := Reference.fixed "School" "schoolId" "1"
  let id := Derivation.documentId "Ed-Fi" "School" "3.3.1-b" school.identity
  [.upsert (.fixed school [] none), .setAvailable false, .stop]
    ++ (List.range 501).map fun tries =>
      .work ⟨id, tries + 1, tries * Projector.longBackoff.retryBackoffMs.toNat, tries⟩

set_option maxRecDepth 10000 in
/-- The settings keep the rules, and the task is lost over its 501st attempt: nothing waits and no
    reindex is asked for, and the index does not hold the document that the store holds. -/
theorem lost_unnoticed :
    let config : Config := { projection := Projector.longBackoff }
    let service := (run .memory config untilLost).service
    let id := Derivation.documentId "Ed-Fi" "School" "3.3.1-b"
      (Reference.fixed "School" "schoolId" "1").identity
    config.validate = .ok () ∧
    (service.projector.queue = [] ∧ service.projector.active = [] ∧
      service.projector.needsReindex = false) ∧
    service.index.get? id = none ∧ (DocumentStore.get id service.store).1 matches .success _ := by
  decide +kernel

end History

end Docket
