import Docket.Projection.Queue
import Mathlib.Data.List.DropRight
/-!
What the projector still has to do.

An id is pending while a task for it waits, or while the projector asks for a reindex, and once a task
was lost every id counts as pending. A change that is offered makes its id pending, whether it is
accepted or dropped, and so does an attempt that fails, whether it is queued again, given up or lost.
No operation but the taking of a task ends this, and that only for the id of the task. What comes of
an offer and of a settlement is told once each (`Received`, `Settled`).
-/

namespace Docket.Projector

variable {projector : Projector} {id : DocumentId}

theorem insertTask_perm (task : Task) (tasks : List Task) :
    (insertTask task tasks).Perm (task :: tasks) := by
  induction tasks with
  | nil => exact .refl _
  | cons next rest ih =>
      simp only [insertTask]
      split
      · exact .refl _
      · exact (ih.cons next).trans (.swap task next rest)

theorem mem_insertTask {task other : Task} {tasks : List Task} :
    other ∈ insertTask task tasks ↔ other = task ∨ other ∈ tasks := by
  rw [(insertTask_perm task tasks).mem_iff, List.mem_cons]

/-- What becomes of a projector that is offered a change of a document: it has one task more, which
    is for the document, or it does not accept the change and asks for a reindex. -/
inductive Received (projector : Projector) (id : DocumentId) : Projector → Prop where
  | queued {queue : List Task} (accepted : projector.accepts = true)
      (added : queue.Perm (⟨id, 1, projector.time, projector.nextSequence⟩ :: projector.queue)) :
      Received projector id
        { projector with queue := queue, nextSequence := projector.nextSequence + 1 }
  | dropped (refused : projector.accepts = false) :
      Received projector id { projector with needsReindex := true }

theorem received_offer (projector : Projector) (id : DocumentId) :
    projector.Received id (projector.offer id) := by
  unfold offer
  cases accepted : projector.accepts with
  | true => exact .queued accepted (insertTask_perm _ _)
  | false => exact .dropped accepted

/-- What becomes of a projector when a task is settled: the change is applied, or the task is queued
    once more under a new number, or it is lost because the clock would end before it is due, or the
    change is given up and a reindex asked for. -/
inductive Settled (projector : Projector) (task : Task) : Option String → Projector → Prop where
  | applied : Settled projector task none
      { projector with active := projector.active.erase task, applied := projector.applied + 1 }
  | retried {message : String} {queue : List Task} {due : Nat}
      (early : task.attempt < projector.maxAttempts)
      (timely : projector.retryTime? task.attempt = some due)
      (added : queue.Perm
        (⟨task.id, task.attempt + 1, due, projector.nextSequence⟩ :: projector.queue)) :
      Settled projector task (some message)
        { projector with
          active := projector.active.erase task
          retried := projector.retried + 1
          queue := queue
          nextSequence := projector.nextSequence + 1 }
  | lost {message : String} (early : task.attempt < projector.maxAttempts)
      (late : projector.retryTime? task.attempt = none) :
      Settled projector task (some message)
        { projector with
          active := projector.active.erase task
          retried := projector.retried + 1
          lost := projector.lost + 1 }
  | givenUp {message : String} {failures : List ProjectionFailure}
      (last : projector.maxAttempts ≤ task.attempt) :
      Settled projector task (some message)
        { projector with
          active := projector.active.erase task
          failed := projector.failed + 1
          needsReindex := true
          failures := failures }

theorem settled_settle (projector : Projector) (task : Task) (failure : Option String) :
    projector.Settled task failure (projector.settle task failure) := by
  unfold settle
  cases failure with
  | none => exact .applied
  | some message =>
      simp only
      split
      · next early =>
          split
          · next timely => exact .retried early timely (insertTask_perm _ _)
          · next late => exact .lost early late
      · next last => exact .givenUp (Nat.le_of_not_lt last)

/-- Retries that wait so long that the 501st would be due after the clock has come to its end. -/
def longBackoff : ProjectionSettings :=
  { maxAttempts := 502, retryBackoffMs := 18420000000000000000 }

/-- Whether something is still to be done for an id, or a task was lost that may have been for it. -/
def Pending (projector : Projector) (id : DocumentId) : Prop :=
  projector.needsReindex = true ∨ 0 < projector.lost ∨ ∃ task ∈ projector.queue, task.id = id

theorem not_pending (idle : projector.queue = []) (unflagged : projector.needsReindex = false)
    (intact : projector.lost = 0) : ¬ projector.Pending id := by
  rintro (flagged | lost | ⟨task, waits, own⟩)
  · simp [unflagged] at flagged
  · simp [intact] at lost
  · simp [idle] at waits

theorem pending_push (projector : Projector) (id : DocumentId) (attempt due : Nat) :
    (projector.push id attempt due).Pending id :=
  .inr (.inr ⟨_, mem_insertTask.mpr (.inl rfl), rfl⟩)

theorem Pending.push (pending : projector.Pending id) (other : DocumentId) (attempt due : Nat) :
    (projector.push other attempt due).Pending id := by
  rcases pending with flagged | lost | ⟨task, waits, own⟩
  · exact .inl flagged
  · exact .inr (.inl lost)
  · exact .inr (.inr ⟨task, mem_insertTask.mpr (.inr waits), own⟩)

theorem pending_offer (projector : Projector) (id : DocumentId) :
    (projector.offer id).Pending id := by
  unfold offer
  split
  · exact projector.pending_push id _ _
  · exact .inl rfl

theorem Pending.offer (pending : projector.Pending id) (other : DocumentId) :
    (projector.offer other).Pending id := by
  unfold Projector.offer
  split
  · exact pending.push other _ _
  · exact .inl rfl

theorem Pending.take (pending : projector.Pending id) {task : Task} (other : task.id ≠ id) :
    (projector.take task).Pending id := by
  rcases pending with flagged | lost | ⟨waiting, waits, own⟩
  · exact .inl flagged
  · exact .inr (.inl lost)
  · have differ : waiting ≠ task := by
      rintro rfl
      exact other own
    exact .inr (.inr ⟨waiting, (List.mem_erase_of_ne differ).mpr waits, own⟩)

theorem Pending.settle (pending : projector.Pending id) (task : Task) (failure : Option String) :
    (projector.settle task failure).Pending id := by
  unfold Projector.settle
  cases failure with
  | none => exact pending
  | some message =>
      simp only
      split
      · split
        · exact Pending.push pending task.id _ _
        · exact .inr (.inl (Nat.succ_pos _))
      · exact .inl rfl

theorem pending_settle (projector : Projector) (task : Task) (message : String) :
    (projector.settle task (some message)).Pending task.id := by
  unfold settle
  simp only
  split
  · split
    · exact pending_push _ _ _ _
    · exact .inr (.inl (Nat.succ_pos _))
  · exact .inl rfl

theorem foldl_record (few : projector.failures.length ≤ maxFailures)
    (failures : List ProjectionFailure) :
    failures.foldl record projector
      = { projector with failures := (projector.failures ++ failures).rtake maxFailures } := by
  induction failures using List.reverseRecOn with
  | nil =>
      rw [List.append_nil, List.rtake, Nat.sub_eq_zero_of_le few, List.drop_zero, List.foldl_nil]
  | append_singleton front last ih =>
      rw [List.foldl_concat, ih, ← List.append_assoc]
      unfold record
      have positive : 0 < maxFailures := by decide
      generalize maxFailures = most at positive
      generalize projector.failures ++ front = earlier
      simp only [List.rtake, List.length_drop, List.length_append, List.length_singleton,
        List.drop_drop]
      split
      · next full =>
          have one : earlier.length + 1 - most = earlier.length - most + 1 := by omega
          have fits : earlier.length - most + 1 ≤ earlier.length := by omega
          rw [one, List.drop_append_of_le_length fits]
      · next room =>
          have none : earlier.length - most = 0 := by omega
          have none' : earlier.length + 1 - most = 0 := by omega
          simp [none, none']

end Docket.Projector
