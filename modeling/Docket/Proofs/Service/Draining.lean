import Docket.Proofs.Projection.Accounting
import Docket.Proofs.Service.Run
/-!
Draining the queue of a projector.

A drain carries out the first waiting task until none waits or no worker is left. It is allowed as
many steps as there are attempts left, and that is enough (`Service.drain_works`), so the accepted
changes bound it (`Projector.Ledger.run_accounts`). In a run of a service requests offer the documents
that they commit, workers take and settle tasks, time passes, and a reindex clears and records
failures; nothing else moves the projector, so the account holds of every such run too
(`History.run_drains`).
-/

namespace Docket

open Projector

namespace Service

variable {σ κ : Type} [DocumentStore σ] [ProjectionSink κ] (service : Service σ κ)

theorem projector_work (task : Task) :
    ∃ failure,
      (service.work task).projector = (service.projector.take task).settle task failure := by
  rcases read : DocumentStore.get task.id service.store with ⟨reading, store⟩
  rcases landed : deliver task.id reading service.sink with ⟨outcome, sink⟩
  simp only [work, begin, finish, settle, read, landed]
  exact ⟨_, rfl⟩

theorem workThrough_works (fuel : Nat) :
    ∃ count, Works service.projector count (service.workThrough fuel).projector ∧
      (count = fuel ∨ (service.workThrough fuel).projector.queue = [] ∨
        (service.workThrough fuel).projector.workersLeft = 0) := by
  induction fuel generalizing service with
  | zero => exact ⟨0, .done _, .inl rfl⟩
  | succ fuel ih =>
      cases waiting : service.projector.queue with
      | nil =>
          simp only [workThrough, waiting]
          exact ⟨0, .done _, .inr (.inl trivial)⟩
      | cons task rest =>
          simp only [workThrough, waiting]
          split
          · next none_left => exact ⟨0, .done _, .inr (.inr none_left)⟩
          · obtain ⟨failure, worked⟩ := service.projector_work task
            obtain ⟨count, works, ended⟩ := ih (service.work task)
            rw [worked] at works
            refine ⟨count + 1, .step (by simp [waiting]) works, ?_⟩
            exact ended.imp_left fun all => by rw [all]

theorem drain_works (bounded : service.projector.Bounded) :
    ∃ count, Works service.projector count service.drain.projector ∧
      (service.drain.projector.queue = [] ∨ service.drain.projector.workersLeft = 0) := by
  obtain ⟨count, works, ended⟩ := service.workThrough_works service.projector.attemptsLeft
  change ∃ count, Works _ count (service.workThrough service.projector.attemptsLeft).projector ∧ _
  refine ⟨count, works, ended.elim (fun all => .inl ?_) fun left => left⟩
  change (service.workThrough service.projector.attemptsLeft).projector.queue = []
  obtain ⟨stays, spent⟩ := works.attempts bounded
  have few := length_queue_le stays
  exact List.length_eq_zero_iff.mp (by omega)

end Service

namespace Projector.Ledger

theorem Balanced.drains {most : Nat} {ledger : Ledger} (balanced : Balanced most ledger)
    {σ κ : Type} [DocumentStore σ] [ProjectionSink κ] {service : Service σ κ}
    (same : service.projector = ledger.projector) :
    ∃ count, count ≤ most * ledger.changes.length ∧
      Works ledger.projector count service.drain.projector ∧
      (service.drain.projector.queue = [] ∨ service.drain.projector.workersLeft = 0) := by
  have within : service.projector.Bounded := by
    rw [same]
    exact balanced.queue_bounded
  obtain ⟨count, works, ended⟩ := service.drain_works within
  rw [same] at works
  have steps := balanced.works_le works
  exact ⟨count, by omega, works, ended⟩

/-- Every change that a projector accepts is applied, given up or lost once, at every point of a run
    and whatever comes of the attempts. The counters and the tasks account for all changes, and the
    failed attempts that are counted are those that were tried again, exactly as long as none is
    lost. -/
theorem run_accounts (settings : ProjectionSettings) (events : List Event) :
    let ledger := Ledger.run settings events
    ledger.Accounts ∧
      (ledger.projector.lost = 0 ↔ ledger.changes.length = ledger.projector.applied
        + ledger.projector.failed + ledger.projector.queue.length
        + ledger.projector.active.length) ∧
      (ledger.projector.lost = 0 ↔ ledger.projector.retried
        = (ledger.changes.map (Accepted.retries ledger.projector.maxAttempts)).sum) ∧
      ∀ (σ κ : Type) [DocumentStore σ] [ProjectionSink κ] (service : Service σ κ),
        service.projector = ledger.projector →
          ∃ count, count ≤ ledger.projector.maxAttempts * ledger.changes.length ∧
            Works ledger.projector count service.drain.projector ∧
            (service.drain.projector.queue = [] ∨
              service.drain.projector.workersLeft = 0) := by
  intro ledger
  have balanced : Balanced ledger.projector.maxAttempts ledger := run_balanced settings events
  have accounts := balanced.accounts (run_timely settings events)
  refine ⟨accounts, ?_, ?_, fun σ κ _ _ service same => balanced.drains same⟩
  · have conserved := accounts.conserved
    omega
  · have retried := accounts.retried
    omega

/-- A change whose task is tried again and again without waiting, because the projector is stopped. -/
def failing (settings : ProjectionSettings) (id : DocumentId) (attempts : Nat) : List Event :=
  [.offer id, .stop] ++ (List.range attempts).flatMap fun tries =>
    let task : Task := ⟨id, tries + 1, tries * settings.retryBackoffMs.toNat, tries⟩
    [.take task, .settle task (some "offline")]

set_option maxRecDepth 10000 in
/-- The 501st retry would be due after the clock has come to its end, and so the only change is
    neither applied nor given up and no task of it is left. -/
theorem run_loses_change :
    let ledger := Ledger.run longBackoff (failing longBackoff default 501)
    (ledger.changes.length = 1 ∧ ledger.projector.applied = 0 ∧ ledger.projector.failed = 0 ∧
      ledger.projector.queue = [] ∧ ledger.projector.active = [] ∧
      ledger.projector.needsReindex = false) ∧
    ledger.changes.length ≠ ledger.projector.applied + ledger.projector.failed
      + ledger.projector.queue.length + ledger.projector.active.length ∧
    ledger.projector.retried
      ≠ (ledger.changes.map (Accepted.retries ledger.projector.maxAttempts)).sum := by
  decide +kernel

end Projector.Ledger

namespace Service

variable {service : Service Engine SearchIndex} {contents : Contents}

def Moves (before after : Projector) : Prop :=
  ∃ events : List Projector.Event, after = events.foldl Projector.after before

theorem absorb_moves (service : Service Engine SearchIndex) (commit : Commit) :
    Moves service.projector (service.absorb commit).projector := by
  cases commit with
  | nothing => exact ⟨[], rfl⟩
  | inserted document | replaced document | deleted document => exact ⟨[.offer document.id], rfl⟩

theorem delivering_moves (service : Service Engine SearchIndex) (documents : List Document) :
    Moves service.projector (service.delivering documents).projector := by
  refine ⟨((refusedDocuments documents).map Document.rejection).map .reject, ?_⟩
  rw [List.foldl_map]
  rfl

theorem work_moves {projector : Projector} {task : Task} (waits : task ∈ projector.queue)
    (failure : Option String) :
    Moves projector ((projector.take task).settle task failure) := by
  refine ⟨[.take task, .settle task failure], ?_⟩
  have running : task ∈ (projector.take task).active := by simp [take]
  simp only [List.foldl_cons, List.foldl_nil, Projector.after, if_pos waits, if_pos running]

theorem Moves.trans {before middle after : Projector} (first : Moves before middle)
    (second : Moves middle after) : Moves before after := by
  obtain ⟨events, rfl⟩ := first
  obtain ⟨more, rfl⟩ := second
  exact ⟨events ++ more, List.foldl_append.symm⟩

theorem reindex_moves (held : service.store.Holds contents) :
    Moves service.projector service.reindex.2.projector := by
  have begun : Moves service.projector service.blank.projector := ⟨[.beginReindex], rfl⟩
  have refills := reindex_refills held
  generalize contents.values.mapM service.store.kind.reread = answer at refills
  generalize service.reindex = result at refills ⊢
  cases refills with
  | offline closed => exact ⟨[.beginReindex, .failReindex], rfl⟩
  | unread cause available shown =>
      exact (begun.trans (delivering_moves _ _)).trans ⟨[.failReindex], rfl⟩
  | done read available => exact begun.trans (delivering_moves _ _)

theorem Event.moves (held : service.store.Holds contents) (event : Event) :
    Moves service.projector (event.perform service).2.projector := by
  cases event with
  | upsert | update | get | query | delete => exact absorb_moves { service with store := _ } _
  | work task =>
      simp only [perform]
      split
      · next waits =>
          obtain ⟨failure, worked⟩ := service.projector_work task
          rw [worked]
          exact work_moves waits failure
      · exact ⟨[], rfl⟩
  | breakDown task report =>
      simp only [perform, begin_eq]
      split
      · next waits => exact work_moves waits (some (ProjectionError.crashed report).message)
      · exact ⟨[], rfl⟩
  | setAvailable available => exact ⟨[], rfl⟩
  | stop => exact ⟨[.stop], rfl⟩
  | elapse milliseconds => exact ⟨[.elapse milliseconds], rfl⟩
  | reindex => exact reindex_moves held

end Service

namespace History

theorem run_moves (kind : EngineKind) (config : Config) (events : List Service.Event) :
    Service.Moves (Projector.start config.projection) (run kind config events).service.projector :=
  (@run_induction kind config
    (fun history => Service.Moves (Projector.start config.projection) history.service.projector)
    ⟨[], rfl⟩ (fun _ event sound moved => moved.trans (event.moves sound.held)) events).1

/-- Whatever has happened to a service, its projector accounts for all changes that it has accepted,
    and a drain ends with no task waiting if a worker is left. -/
theorem run_drains (kind : EngineKind) (config : Config) (events : List Service.Event) :
    let service := (run kind config events).service
    ∃ moves, (Ledger.run config.projection moves).projector = service.projector ∧
      (Ledger.run config.projection moves).Accounts ∧
      (service.drain.projector.queue = [] ∨ service.drain.projector.workersLeft = 0) := by
  intro service
  obtain ⟨moves, reached⟩ := run_moves kind config events
  have same : service.projector = (Ledger.run config.projection moves).projector := by
    rw [Ledger.run_projector]
    exact reached
  have balanced := Ledger.run_balanced config.projection moves
  obtain ⟨_, _, _, ended⟩ := balanced.drains same
  exact ⟨moves, same.symm, balanced.accounts (Ledger.run_timely config.projection moves), ended⟩

end History

end Docket
