import Docket.Config.Basic
import Docket.DocumentId
/-!
The projector: the queue of ids whose index entries are to be brought in line with the store.

A committed change is offered to the projector. A worker takes a task from the queue and later
settles it; a failed task is queued again for a later time until its attempts run out, and then
recorded as a failure. Where a change is dropped (the queue is full, the projector is stopped, the
attempts ran out) `needsReindex` is raised.

The time is what the clock shows, in whole milliseconds. It moves on by itself, and when a task is
taken that is due later. A retry that would be due when the clock has come to its end is not queued:
its worker ends over it, and the task is gone with it.
-/

namespace Docket

structure Task where
  id : DocumentId
  /-- Which attempt this is, from one. -/
  attempt : Nat
  /-- The time before which the task is not taken. -/
  due : Nat
  /-- The place of the task among all tasks ever queued. -/
  sequence : Nat
  deriving DecidableEq, Inhabited

/-- Tasks due earlier come first, and of those due at one time the one queued first. -/
def Task.before (a b : Task) : Bool :=
  a.due < b.due || (a.due = b.due && a.sequence < b.sequence)

structure ProjectionFailure where
  id : DocumentId
  message : String
  attempts : Nat
  deriving DecidableEq, Inhabited

structure Projector where
  settings : ProjectionSettings
  queue : List Task := []
  active : List Task := []
  time : Nat := 0
  nextSequence : Nat := 0
  applied : Nat := 0
  /-- Failed attempts that were queued again. -/
  retried : Nat := 0
  failed : Nat := 0
  /-- Tasks that are gone with the workers that carried them out. Nothing else tells of them. -/
  lost : Nat := 0
  /-- Whether the index may differ from the store for good. -/
  needsReindex : Bool := false
  /-- The latest failures, the oldest first. -/
  failures : List ProjectionFailure := []
  stopped : Bool := false
  deriving DecidableEq, Inhabited

namespace Projector

def start (settings : ProjectionSettings) : Projector := { settings := settings }

/-- How many tasks can be carried out at once: at least one. -/
def workers (projector : Projector) : Nat := max projector.settings.workers.toNat 1

def workersLeft (projector : Projector) : Nat := projector.workers - projector.lost

def capacity (projector : Projector) : Nat := projector.settings.queueCapacity.toNat

/-- How often a task is attempted: at least once. -/
def maxAttempts (projector : Projector) : Nat := max projector.settings.maxAttempts.toNat 1

def backoff (projector : Projector) : Nat := projector.settings.retryBackoffMs.toNat

/-- The clock counts seconds in 63 bits. -/
def clockEnd : Nat := 2 ^ 63 * 1000

/-- When a task is due whose attempt has failed; each retry waits one step longer than the one
    before. -/
def retryTime? (projector : Projector) (attempt : Nat) : Option Nat :=
  let due := projector.time + projector.backoff * attempt
  if due < clockEnd then some due else none

def maxFailures : Nat := 100

def insertTask (task : Task) : List Task → List Task
  | [] => [task]
  | next :: rest => if task.before next then task :: next :: rest else next :: insertTask task rest

def push (projector : Projector) (id : DocumentId) (attempt due : Nat) : Projector :=
  { projector with
    queue := insertTask ⟨id, attempt, due, projector.nextSequence⟩ projector.queue
    nextSequence := projector.nextSequence + 1 }

def accepts (projector : Projector) : Bool :=
  !projector.stopped && projector.queue.length < projector.capacity

/-- Offers a committed change; one that is not accepted is dropped. -/
def offer (projector : Projector) (id : DocumentId) : Projector :=
  -- The queue alone is counted, not the tasks being carried out.
  if projector.accepts then projector.push id 1 projector.time
  else { projector with needsReindex := true }

/-- Records a failure, forgetting the oldest when there are too many. -/
def record (projector : Projector) (failure : ProjectionFailure) : Projector :=
  let kept := if maxFailures ≤ projector.failures.length then projector.failures.drop 1
    else projector.failures
  { projector with failures := kept ++ [failure] }

/-- Takes a waiting task to be carried out. A stopped projector does not wait for its time. -/
def take (projector : Projector) (task : Task) : Projector :=
  { projector with
    queue := projector.queue.erase task
    active := projector.active ++ [task]
    time := if projector.stopped then projector.time else max projector.time task.due }

def settle (projector : Projector) (task : Task) (failure : Option String) : Projector :=
  let rest := { projector with active := projector.active.erase task }
  match failure with
  | none => { rest with applied := rest.applied + 1 }
  | some message =>
      if task.attempt < rest.maxAttempts then
        -- The retry is counted before its time is worked out.
        let rest := { rest with retried := rest.retried + 1 }
        match rest.retryTime? task.attempt with
        | some due => rest.push task.id (task.attempt + 1) due
        | none => { rest with lost := rest.lost + 1 }
      else
        { rest with failed := rest.failed + 1, needsReindex := true }.record
          ⟨task.id, message, task.attempt⟩

def stop (projector : Projector) : Projector := { projector with stopped := true }

def elapse (projector : Projector) (milliseconds : Nat) : Projector :=
  { projector with time := projector.time + milliseconds }

def attemptsLeft (projector : Projector) : Nat :=
  projector.queue.foldl (fun left task => left + (projector.maxAttempts + 1 - task.attempt)) 0

end Projector

end Docket
