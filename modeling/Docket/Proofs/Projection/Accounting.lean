import Docket.Proofs.Projection.Queue
import Mathlib.Algebra.BigOperators.Group.List.Basic
import Mathlib.Algebra.GroupWithZero.Nat
import Mathlib.Algebra.Order.BigOperators.Group.List
import Mathlib.Algebra.Order.Group.Nat
/-!
What becomes of the changes that a projector accepts.

A ledger is kept beside a run of the projector: for every accepted change the outcomes of its
attempts so far, the number of its latest task, and whether that was lost. The tasks that wait or are
carried out and the changes that have not ended match one to one (`Ledger.Balanced`), whatever the
order in which tasks are taken and whatever comes of them. So every accepted change is applied, given
up or lost once, and the work comes to an end (`Ledger.Balanced.accounts`). No counter tells of the
lost ones; none are lost until the clock is within the longest delay of its end (`Ledger.run_timely`).
-/

namespace Docket

def Task.card (task : Task) : DocumentId × Nat × Nat := (task.id, task.sequence, task.attempt)

namespace Projector

/-- What can happen to a projector. Time passes; a task can be taken while it waits, and settled
    while it is carried out. A reindex forgets the flag and the failures, records some of its own, and raises the
    flag again if it fails. -/
inductive Event where
  | offer (id : DocumentId)
  | take (task : Task)
  | settle (task : Task) (failure : Option String)
  | stop
  | elapse (milliseconds : Nat)
  | beginReindex
  | reject (failure : ProjectionFailure)
  | failReindex
  deriving DecidableEq

def after (projector : Projector) : Event → Projector
  | .offer id => projector.offer id
  | .take task => if task ∈ projector.queue then projector.take task else projector
  | .settle task failure =>
      if task ∈ projector.active then projector.settle task failure else projector
  | .stop => projector.stop
  | .elapse milliseconds => projector.elapse milliseconds
  | .beginReindex => { projector with needsReindex := false, failures := [] }
  | .reject failure => projector.record failure
  | .failReindex => { projector with needsReindex := true }

theorem maxAttempts_pos (projector : Projector) : 0 < projector.maxAttempts := by
  unfold maxAttempts
  omega

/-! ### Accepted changes -/

structure Accepted where
  id : DocumentId
  /-- The number of the latest task that was queued for the change. -/
  latest : Nat
  /-- What came of the attempts, in order. -/
  outcomes : List (Option String)
  /-- Whether the latest task was lost. -/
  lost : Bool

namespace Accepted

inductive Stage where
  | pending
  | applied
  | givenUp
  | lost
  deriving DecidableEq

variable (most : Nat) (change : Accepted)

def stage : Stage :=
  if change.outcomes.getLast? = some none then .applied
  else if change.lost then .lost
  else if change.outcomes.length < most then .pending
  else .givenUp

def failures : Nat := change.outcomes.countP Option.isSome

/-- How many attempts of a change failed and were not its last. -/
def retries : Nat :=
  if change.stage most = .pending then change.failures
  else change.outcomes.dropLast.countP Option.isSome

def told (outcome : Option String) (latest : Nat) (lost : Bool) : Accepted :=
  { change with latest := latest, outcomes := change.outcomes ++ [outcome], lost := lost }

def card : DocumentId × Nat × Nat := (change.id, change.latest, change.outcomes.length + 1)

/-- At most so many attempts, of which only the last can have succeeded. -/
structure Regular (most : Nat) (change : Accepted) : Prop where
  bounded : change.outcomes.length ≤ most
  early : ∀ outcome ∈ change.outcomes.dropLast, outcome ≠ none
  lost : change.lost = true → change.outcomes.length < most

def count (most : Nat) (stage : Stage) (changes : List Accepted) : Nat :=
  changes.countP fun change => change.stage most = stage

variable {most change} {latest : Nat} {message : String} {lost : Bool}

theorem card_eq_iff {task : Task} : change.card = task.card ↔
    change.id = task.id ∧ change.latest = task.sequence ∧
      change.outcomes.length + 1 = task.attempt := by
  rw [card, Task.card, Prod.mk.injEq, Prod.mk.injEq]

theorem length_eq_counts (changes : List Accepted) :
    changes.length = count most .applied changes + count most .givenUp changes
      + count most .lost changes + count most .pending changes := by
  induction changes with
  | nil => rfl
  | cons change rest ih =>
      simp only [count, List.countP_cons, List.length_cons] at ih ⊢
      cases change.stage most with
      | pending | applied | givenUp | lost => simp [ih]; omega

theorem lt_of_pending (pending : change.stage most = .pending) :
    change.outcomes.length < most ∧ change.outcomes.getLast? ≠ some none := by
  unfold stage at pending
  split at pending
  · simp at pending
  · next kept =>
      split at pending
      · simp at pending
      · split at pending
        · next room => exact ⟨room, kept⟩
        · simp at pending

theorem retries_of_pending (pending : change.stage most = .pending) :
    change.retries most = change.failures := if_pos pending

theorem retries_told_of_ended (outcome : Option String)
    (ended : (change.told outcome latest lost).stage most ≠ .pending) :
    (change.told outcome latest lost).retries most = change.failures := by
  rw [retries, if_neg ended, told, List.dropLast_concat, failures]

theorem stage_told_none : (change.told none latest lost).stage most = .applied := by
  simp [stage, told]

theorem stage_told_some : (change.told (some message) latest lost).stage most
    = if lost then .lost
      else if change.outcomes.length + 1 < most then .pending else .givenUp := by
  simp [stage, told]

theorem failures_told_some :
    (change.told (some message) latest lost).failures = change.failures + 1 := by
  simp [failures, told]

theorem Regular.failed_of_kept (regular : change.Regular most)
    (kept : change.outcomes.getLast? ≠ some none) :
    ∀ outcome ∈ change.outcomes, outcome ≠ none := by
  intro outcome member
  have early := regular.early
  rcases List.eq_nil_or_concat change.outcomes with nothing | ⟨front, last, shape⟩
  · simp [nothing] at member
  · rw [shape, List.concat_eq_append] at member kept early
    rw [List.dropLast_concat] at early
    rcases List.mem_append.mp member with before | now
    · exact early outcome before
    · obtain rfl := List.mem_singleton.mp now
      simpa using kept

theorem Regular.told (regular : change.Regular most) (pending : change.stage most = .pending)
    (outcome : Option String) (soon : lost = true → change.outcomes.length + 1 < most) :
    (change.told outcome latest lost).Regular most where
  bounded := by
    have room := (lt_of_pending pending).1
    simp only [Accepted.told, List.length_append, List.length_singleton]
    omega
  early := by
    intro earlier member
    rw [Accepted.told, List.dropLast_concat] at member
    exact regular.failed_of_kept (lt_of_pending pending).2 earlier member
  lost := by simpa [Accepted.told] using soon

theorem Regular.exhausted (regular : change.Regular most)
    (ended : change.stage most = .givenUp) :
    change.outcomes.length = most ∧ ∀ outcome ∈ change.outcomes, outcome ≠ none := by
  unfold stage at ended
  split at ended
  · simp at ended
  · next kept =>
      split at ended
      · simp at ended
      · split at ended
        · simp at ended
        · next full =>
            have bounded := regular.bounded
            exact ⟨by omega, regular.failed_of_kept kept⟩

theorem Regular.unfinished (regular : change.Regular most) (ended : change.stage most = .lost) :
    change.outcomes.length < most ∧ ∀ outcome ∈ change.outcomes, outcome ≠ none := by
  unfold stage at ended
  split at ended
  · simp at ended
  · next kept =>
      split at ended
      · next lost => exact ⟨regular.lost lost, regular.failed_of_kept kept⟩
      · split at ended
        · simp at ended
        · simp at ended

end Accepted

/-! ### Ledgers -/

structure Ledger where
  projector : Projector
  changes : List Accepted

namespace Ledger

/-- The changes after an event. A task that is queued after a failure takes the place of the one that
    failed as the latest of its change. -/
def noted (ledger : Ledger) : Event → List Accepted
  | .offer id =>
      if ledger.projector.accepts then
        ⟨id, ledger.projector.nextSequence, [], false⟩ :: ledger.changes
      else ledger.changes
  | .settle task failure =>
      if task ∈ ledger.projector.active then
        let next := ledger.projector.settle task failure
        let latest := if next.nextSequence = ledger.projector.nextSequence then task.sequence
          else ledger.projector.nextSequence
        let lost := decide (ledger.projector.lost < next.lost)
        ledger.changes.map fun change =>
          if change.latest = task.sequence then change.told failure latest lost else change
      else ledger.changes
  | _ => ledger.changes

def after (ledger : Ledger) (event : Event) : Ledger :=
  ⟨ledger.projector.after event, ledger.noted event⟩

def run (settings : ProjectionSettings) (events : List Event) : Ledger :=
  events.foldl after ⟨Projector.start settings, []⟩

structure Balanced (most : Nat) (ledger : Ledger) : Prop where
  limit : ledger.projector.maxAttempts = most
  tasks : ((ledger.projector.queue ++ ledger.projector.active).map Task.card).Perm
    ((ledger.changes.filter fun change => change.stage most = .pending).map Accepted.card)
  distinct : (ledger.changes.map Accepted.latest).Nodup
  fresh : ∀ change ∈ ledger.changes, change.latest < ledger.projector.nextSequence
  regular : ∀ change ∈ ledger.changes, change.Regular most
  applied : ledger.projector.applied = Accepted.count most .applied ledger.changes
  failed : ledger.projector.failed = Accepted.count most .givenUp ledger.changes
  lost : ledger.projector.lost = Accepted.count most .lost ledger.changes
  retried : ledger.projector.retried
    = (ledger.changes.map (Accepted.retries most)).sum + ledger.projector.lost

variable {most : Nat} {ledger : Ledger} {projector next : Projector}
  {changes changes' rest : List Accepted} {change : Accepted} {task : Task}
  {failure : Option String}

theorem Balanced.perm (balanced : Balanced most ⟨projector, changes⟩)
    (same : changes.Perm changes') : Balanced most ⟨projector, changes'⟩ where
  limit := balanced.limit
  tasks := balanced.tasks.trans ((same.filter _).map _)
  distinct := (same.map _).nodup_iff.mp balanced.distinct
  fresh change member := balanced.fresh change (same.mem_iff.mpr member)
  regular change member := balanced.regular change (same.mem_iff.mpr member)
  applied := balanced.applied.trans (same.countP_eq _)
  failed := balanced.failed.trans (same.countP_eq _)
  lost := balanced.lost.trans (same.countP_eq _)
  retried := balanced.retried.trans (congrArg (· + _) (same.map _).sum_eq)

theorem Balanced.moved (balanced : Balanced most ⟨projector, changes⟩)
    (settings : next.settings = projector.settings)
    (moved : (next.queue ++ next.active).Perm (projector.queue ++ projector.active))
    (nextSequence : next.nextSequence = projector.nextSequence)
    (applied : next.applied = projector.applied) (failed : next.failed = projector.failed)
    (lost : next.lost = projector.lost) (retried : next.retried = projector.retried) :
    Balanced most ⟨next, changes⟩ where
  limit := by
    rw [← balanced.limit]
    simp only [maxAttempts, settings]
  tasks := (moved.map _).trans balanced.tasks
  distinct := balanced.distinct
  fresh := by
    rw [nextSequence]
    exact balanced.fresh
  regular := balanced.regular
  applied := applied.trans balanced.applied
  failed := failed.trans balanced.failed
  lost := lost.trans balanced.lost
  retried := by
    rw [lost]
    exact retried.trans balanced.retried

theorem Balanced.offer (balanced : Balanced most ledger) (id : DocumentId) :
    Balanced most (ledger.after (.offer id)) := by
  have received := received_offer ledger.projector id
  change Balanced most ⟨ledger.projector.offer id, ledger.noted (.offer id)⟩
  generalize ledger.projector.offer id = next at received
  unfold Ledger.noted
  cases received with
  | dropped refused =>
      simp only [refused, Bool.false_eq_true, if_false]
      exact balanced.moved rfl (.refl _) rfl rfl rfl rfl rfl
  | @queued queue accepted added =>
      simp only [accepted, if_true]
      have stage : (⟨id, ledger.projector.nextSequence, [], false⟩ : Accepted).stage most
          = .pending := by
        have positive := maxAttempts_pos ledger.projector
        rw [balanced.limit] at positive
        simp [Accepted.stage, positive]
      constructor
      · exact balanced.limit
      · have tasks := (added.append_right ledger.projector.active).map Task.card
        rw [List.filter_cons_of_pos (by simp [stage])]
        exact tasks.trans (balanced.tasks.cons _)
      · refine List.nodup_cons.mpr ⟨?_, balanced.distinct⟩
        intro member
        obtain ⟨change, inside, same⟩ := List.mem_map.mp member
        exact absurd (balanced.fresh change inside) (by simp [same])
      · rintro change (_ | ⟨_, member⟩)
        · exact Nat.lt_succ_self _
        · exact Nat.lt_succ_of_lt (balanced.fresh change member)
      · rintro change (_ | ⟨_, member⟩)
        · exact ⟨Nat.zero_le _, by simp, by simp⟩
        · exact balanced.regular change member
      · simpa [Accepted.count, stage] using balanced.applied
      · simpa [Accepted.count, stage] using balanced.failed
      · simpa [Accepted.count, stage] using balanced.lost
      · simpa [Accepted.retries_of_pending stage, Accepted.failures] using balanced.retried

theorem Balanced.take (balanced : Balanced most ledger) (waits : task ∈ ledger.projector.queue) :
    Balanced most ⟨ledger.projector.take task, ledger.changes⟩ := by
  refine balanced.moved rfl ?_ rfl rfl rfl rfl rfl
  let kept := ledger.projector.queue.erase task ++ ledger.projector.active
  have before : (ledger.projector.queue ++ ledger.projector.active).Perm (task :: kept) :=
    (List.perm_cons_erase waits).append_right _
  have aside : (ledger.projector.queue.erase task ++ (ledger.projector.active ++ [task])).Perm
      (task :: kept) := by
    rw [← List.append_assoc]
    exact List.perm_append_singleton task kept
  exact aside.trans before.symm

theorem Balanced.exists_pending (balanced : Balanced most ledger)
    (member : task ∈ ledger.projector.queue ++ ledger.projector.active) :
    ∃ change ∈ ledger.changes, change.stage most = .pending ∧ change.card = task.card := by
  have listed := balanced.tasks.mem_iff.mp (List.mem_map_of_mem member)
  obtain ⟨change, inside, same⟩ := List.mem_map.mp listed
  obtain ⟨inside, pending⟩ := List.mem_filter.mp inside
  exact ⟨change, inside, by simpa using pending, same⟩

/-- The change of a task that is carried out is pending, and the tasks of the others are the others. -/
theorem Balanced.exists_running (balanced : Balanced most ledger)
    (running : task ∈ ledger.projector.active) :
    ∃ change rest, ledger.changes.Perm (change :: rest) ∧ change.stage most = .pending ∧
      change.card = task.card ∧ (∀ other ∈ rest, other.latest ≠ task.sequence) ∧
      ((ledger.projector.queue ++ ledger.projector.active.erase task).map Task.card).Perm
        ((rest.filter fun change => change.stage most = .pending).map Accepted.card) := by
  obtain ⟨change, inside, pending, same⟩ :=
    balanced.exists_pending (List.mem_append_right _ running)
  obtain ⟨front, back, shape⟩ := List.append_of_mem inside
  have order : ledger.changes.Perm (change :: (front ++ back)) := shape ▸ List.perm_middle
  obtain ⟨_, latest, _⟩ := Accepted.card_eq_iff.mp same
  refine ⟨change, front ++ back, order, pending, same, ?_, ?_⟩
  · intro other among
    have distinct := (order.map Accepted.latest).nodup_iff.mp balanced.distinct
    rw [List.map_cons, List.nodup_cons, latest] at distinct
    intro twice
    exact distinct.1 (twice ▸ List.mem_map_of_mem among)
  · have before := (balanced.perm order).tasks
    rw [List.filter_cons_of_pos (by simp [pending]), List.map_cons, same] at before
    have around : (ledger.projector.queue ++ ledger.projector.active).Perm
        (task :: (ledger.projector.queue ++ ledger.projector.active.erase task)) :=
      ((List.perm_cons_erase running).append_left _).trans List.perm_middle
    exact ((around.map Task.card).symm.trans before).cons_inv

theorem Balanced.replace (whole : Balanced most ⟨projector, change :: rest⟩)
    (pending : change.stage most = .pending) {new : Accepted} (limit : next.maxAttempts = most)
    (tasks : ((next.queue ++ next.active).map Task.card).Perm
      (((new :: rest).filter fun change => change.stage most = .pending).map Accepted.card))
    (number : new.latest = change.latest ∨ new.latest = projector.nextSequence)
    (fresh : new.latest < next.nextSequence) (later : projector.nextSequence ≤ next.nextSequence)
    (regular : new.Regular most)
    (applied : next.applied = projector.applied + if new.stage most = .applied then 1 else 0)
    (failed : next.failed = projector.failed + if new.stage most = .givenUp then 1 else 0)
    (lost : next.lost = projector.lost + if new.stage most = .lost then 1 else 0)
    (retried : next.retried + change.failures + projector.lost
      = projector.retried + new.retries most + next.lost) :
    Balanced most ⟨next, new :: rest⟩ := by
  have distinct := List.nodup_cons.mp whole.distinct
  have older : ∀ other ∈ rest, other.latest < projector.nextSequence :=
    fun other among => whole.fresh other (List.mem_cons_of_mem _ among)
  constructor
  · exact limit
  · exact tasks
  · refine List.nodup_cons.mpr ⟨?_, distinct.2⟩
    rcases number with same | new
    · rw [same]
      exact distinct.1
    · rw [new]
      intro member
      obtain ⟨other, among, same⟩ := List.mem_map.mp member
      exact absurd (older other among) (by simp [same])
  · rintro other (_ | ⟨_, among⟩)
    · exact fresh
    · exact Nat.lt_of_lt_of_le (older other among) later
  · rintro other (_ | ⟨_, among⟩)
    · exact regular
    · exact whole.regular other (List.mem_cons_of_mem _ among)
  · have before := whole.applied
    simp only [Accepted.count, List.countP_cons, pending, decide_eq_true_eq] at before ⊢
    simpa [before] using applied
  · have before := whole.failed
    simp only [Accepted.count, List.countP_cons, pending, decide_eq_true_eq] at before ⊢
    simpa [before] using failed
  · have before := whole.lost
    simp only [Accepted.count, List.countP_cons, pending, decide_eq_true_eq] at before ⊢
    simpa [before] using lost
  · have before := whole.retried
    simp only [List.map_cons, List.sum_cons, Accepted.retries_of_pending pending] at before ⊢
    omega

/-- A pending change ends with its latest task, and is counted among those that ended so. -/
theorem Balanced.close (whole : Balanced most ⟨projector, change :: rest⟩)
    (pending : change.stage most = .pending) (own : change.latest = task.sequence)
    {stage : Accepted.Stage} {lost : Bool}
    (ended : (change.told failure task.sequence lost).stage most = stage)
    (last : stage ≠ .pending) (soon : lost = true → change.outcomes.length + 1 < most)
    (settings : next.settings = projector.settings)
    (tasks : ((next.queue ++ next.active).map Task.card).Perm
      ((rest.filter fun change => change.stage most = .pending).map Accepted.card))
    (nextSequence : next.nextSequence = projector.nextSequence)
    (applied : next.applied = projector.applied + if stage = .applied then 1 else 0)
    (failed : next.failed = projector.failed + if stage = .givenUp then 1 else 0)
    (gone : next.lost = projector.lost + if stage = .lost then 1 else 0)
    (retried : next.retried + projector.lost = projector.retried + next.lost) :
    Balanced most ⟨next, change.told failure task.sequence lost :: rest⟩ := by
  have older : change.latest < projector.nextSequence := whole.fresh change List.mem_cons_self
  have limit : next.maxAttempts = most := by
    rw [← whole.limit]
    simp only [maxAttempts, settings]
  subst ended
  refine whole.replace pending limit ?_ (.inl own.symm) ?_ (Nat.le_of_eq nextSequence.symm)
    ((whole.regular change List.mem_cons_self).told pending failure soon) applied failed gone ?_
  · rwa [List.filter_cons_of_neg (by simpa using last)]
  · rw [nextSequence]
    exact own ▸ older
  · rw [Accepted.retries_told_of_ended failure last]
    omega

/-- What is told of a task is told of its change, and of no other. -/
theorem map_told_perm (order : changes.Perm (change :: rest)) (own : change.latest = task.sequence)
    (others : ∀ other ∈ rest, other.latest ≠ task.sequence) (failure : Option String)
    (number : Nat) (lost : Bool) :
    (changes.map fun change =>
      if change.latest = task.sequence then change.told failure number lost else change).Perm
        (change.told failure number lost :: rest) := by
  have mapped := order.map fun change =>
    if change.latest = task.sequence then change.told failure number lost else change
  rw [List.map_cons, if_pos own] at mapped
  have kept : (rest.map fun change =>
      if change.latest = task.sequence then change.told failure number lost else change)
        = rest := by
    conv_rhs => rw [← List.map_id rest]
    apply List.map_congr_left
    intro other among
    exact if_neg (others other among)
  rwa [kept] at mapped

theorem Balanced.settle (balanced : Balanced most ledger)
    (running : task ∈ ledger.projector.active) (failure : Option String) :
    Balanced most (ledger.after (.settle task failure)) := by
  obtain ⟨change, rest, order, pending, card, others, tasks⟩ := balanced.exists_running running
  obtain ⟨id, own, attempt⟩ := Accepted.card_eq_iff.mp card
  have settled := settled_settle ledger.projector task failure
  have noted : ledger.after (.settle task failure) = ⟨ledger.projector.settle task failure,
      ledger.noted (.settle task failure)⟩ := by
    simp only [Ledger.after, Projector.after, if_pos running]
  rw [noted]
  unfold Ledger.noted
  simp only [if_pos running]
  generalize ledger.projector.settle task failure = next at settled
  refine Balanced.perm ?_ (map_told_perm order own others failure _ _).symm
  have whole := balanced.perm order
  have limit : ledger.projector.maxAttempts = most := balanced.limit
  have none_lost : decide (ledger.projector.lost < ledger.projector.lost) = false := by simp
  cases settled with
  | applied =>
      rw [if_pos rfl, none_lost]
      exact whole.close pending own Accepted.stage_told_none (by simp) (by simp) rfl tasks rfl
        rfl rfl rfl rfl
  | @retried message queue due early timely added =>
      have stage : (change.told (some message) ledger.projector.nextSequence false).stage most
          = .pending := by
        rw [Accepted.stage_told_some, if_neg Bool.false_ne_true, if_pos]
        omega
      rw [if_neg (Nat.succ_ne_self _), none_lost]
      refine whole.replace pending limit ?_ (.inr rfl) (Nat.lt_succ_self _) (Nat.le_succ _)
        ((whole.regular change List.mem_cons_self).told pending _ (by simp)) ?_ ?_ ?_ ?_
      · rw [List.filter_cons_of_pos (by simp [stage])]
        have moved := (added.append_right (ledger.projector.active.erase task)).map Task.card
        have same : Task.card ⟨task.id, task.attempt + 1, due, ledger.projector.nextSequence⟩
            = (change.told (some message) ledger.projector.nextSequence false).card := by
          simp [Task.card, Accepted.card, Accepted.told, id, ← attempt]
        refine moved.trans ?_
        rw [List.cons_append, List.map_cons, List.map_cons, same]
        exact tasks.cons _
      · simp [stage]
      · simp [stage]
      · simp [stage]
      · rw [Accepted.retries_of_pending stage, Accepted.failures_told_some]
        simp only
        omega
  | @lost message early late =>
      rw [if_pos rfl, decide_eq_true (Nat.lt_succ_self _)]
      refine whole.close pending own (Accepted.stage_told_some.trans (if_pos rfl)) (by simp)
        (fun _ => by omega) rfl tasks rfl rfl rfl rfl ?_
      simp only
      omega
  | @givenUp message failures last =>
      have stage : (change.told (some message) task.sequence false).stage most = .givenUp := by
        rw [Accepted.stage_told_some, if_neg Bool.false_ne_true, if_neg]
        omega
      rw [if_pos rfl, none_lost]
      exact whole.close pending own stage (by simp) (by simp) rfl tasks rfl rfl rfl rfl rfl

theorem Balanced.after (balanced : Balanced most ledger) (event : Event) :
    Balanced most (ledger.after event) := by
  cases event with
  | offer id => exact balanced.offer id
  | take task =>
      change Balanced most ⟨if task ∈ ledger.projector.queue then _ else _, ledger.changes⟩
      split
      · next waits => exact balanced.take waits
      · exact balanced
  | settle task failure =>
      by_cases running : task ∈ ledger.projector.active
      · exact balanced.settle running failure
      · simpa only [Ledger.after, Projector.after, Ledger.noted, if_neg running] using balanced
  | stop | elapse | beginReindex | reject | failReindex =>
      exact balanced.moved rfl (.refl _) rfl rfl rfl rfl rfl

theorem start_balanced (settings : ProjectionSettings) :
    Balanced (Projector.start settings).maxAttempts ⟨Projector.start settings, []⟩ where
  limit := rfl
  tasks := .refl _
  distinct := List.nodup_nil
  fresh := by simp
  regular := by simp
  applied := rfl
  failed := rfl
  lost := rfl
  retried := rfl

theorem run_projector (settings : ProjectionSettings) (events : List Event) :
    (run settings events).projector = events.foldl Projector.after (Projector.start settings) := by
  unfold run
  exact (List.foldl_hom Ledger.projector fun _ _ => rfl).symm

theorem run_balanced (settings : ProjectionSettings) (events : List Event) :
    Balanced (run settings events).projector.maxAttempts (run settings events) := by
  have balanced : Balanced (Projector.start settings).maxAttempts (run settings events) :=
    List.foldlRecOn events _ (start_balanced settings) fun _ before event _ => before.after event
  rwa [balanced.limit]

theorem Balanced.length_tasks (balanced : Balanced most ledger) :
    ledger.projector.queue.length + ledger.projector.active.length
      = Accepted.count most .pending ledger.changes := by
  have lengths := balanced.tasks.length_eq
  rwa [List.length_map, List.length_append, List.length_map, ← List.countP_eq_length_filter]
    at lengths

theorem Balanced.conserved (balanced : Balanced most ledger) :
    ledger.changes.length = ledger.projector.applied + ledger.projector.failed
      + ledger.projector.lost + ledger.projector.queue.length
      + ledger.projector.active.length := by
  rw [Accepted.length_eq_counts ledger.changes, ← balanced.applied, ← balanced.failed,
    ← balanced.lost, ← balanced.length_tasks, ← Nat.add_assoc]

theorem Balanced.attempt_bounds (balanced : Balanced most ledger)
    (member : task ∈ ledger.projector.queue ++ ledger.projector.active) :
    1 ≤ task.attempt ∧ task.attempt ≤ most := by
  obtain ⟨change, _, pending, same⟩ := balanced.exists_pending member
  have room := (Accepted.lt_of_pending pending).1
  obtain ⟨_, _, attempt⟩ := Accepted.card_eq_iff.mp same
  omega

end Ledger

/-! ### Work -/

inductive Works : Projector → Nat → Projector → Prop where
  | done (projector : Projector) : Works projector 0 projector
  | step {projector next : Projector} {task : Task} {failure : Option String} {count : Nat}
      (waits : task ∈ projector.queue)
      (rest : Works ((projector.take task).settle task failure) count next) :
      Works projector (count + 1) next

variable {projector next : Projector} {task : Task}

theorem attemptsLeft_eq (projector : Projector) :
    projector.attemptsLeft
      = (projector.queue.map fun task => projector.maxAttempts + 1 - task.attempt).sum := by
  rw [attemptsLeft, List.sum_eq_foldl, List.foldl_map]

def Bounded (projector : Projector) : Prop :=
  ∀ task ∈ projector.queue, task.attempt ≤ projector.maxAttempts

theorem length_queue_le (bounded : projector.Bounded) :
    projector.queue.length ≤ projector.attemptsLeft := by
  rw [attemptsLeft_eq, ← List.length_map fun task => projector.maxAttempts + 1 - task.attempt]
  apply List.length_le_sum_of_one_le
  intro left member
  obtain ⟨task, waits, rfl⟩ := List.mem_map.mp member
  have last := bounded task waits
  omega

/-- One task that is taken and settled leaves an attempt less, whatever comes of it. -/
theorem attemptsLeft_work (bounded : projector.Bounded) (waits : task ∈ projector.queue)
    (failure : Option String) :
    ((projector.take task).settle task failure).Bounded ∧
      ((projector.take task).settle task failure).attemptsLeft < projector.attemptsLeft := by
  have settled := settled_settle (projector.take task) task failure
  generalize (projector.take task).settle task failure = next at settled
  have last := bounded task waits
  have others : ∀ other ∈ projector.queue.erase task, other.attempt ≤ projector.maxAttempts :=
    fun other member => bounded other (List.mem_of_mem_erase member)
  have before := attemptsLeft_eq projector
  rw [((List.perm_cons_erase waits).map _).sum_eq, List.map_cons, List.sum_cons] at before
  cases settled with
  | applied | lost | givenUp =>
      refine ⟨others, ?_⟩
      rw [attemptsLeft_eq, before]
      exact Nat.lt_add_of_pos_left (by omega)
  | @retried message queue due early timely added =>
      have room : task.attempt < projector.maxAttempts := early
      constructor
      · intro other member
        rcases List.mem_cons.mp (added.mem_iff.mp member) with rfl | member
        · exact room
        · exact others other member
      · rw [attemptsLeft_eq, before, (added.map _).sum_eq, List.map_cons, List.sum_cons]
        exact Nat.add_lt_add_right
          (show projector.maxAttempts + 1 - (task.attempt + 1) < _ by omega) _

theorem Works.attempts {count : Nat} (works : Works projector count next)
    (bounded : projector.Bounded) :
    next.Bounded ∧ count + next.attemptsLeft ≤ projector.attemptsLeft := by
  induction works with
  | done projector => exact ⟨bounded, by omega⟩
  | step waits rest ih =>
      obtain ⟨stays, fewer⟩ := attemptsLeft_work bounded waits _
      obtain ⟨bounded', less⟩ := ih stays
      exact ⟨bounded', by omega⟩

/-- An event raises the flag, or gives up no change; and only a reindex takes the flag back. -/
theorem flag_after (projector : Projector) (event : Event) :
    (projector.after event).needsReindex = true ∨
      (projector.after event).failed = projector.failed ∧
        (event = .beginReindex ∨
          (projector.after event).needsReindex = projector.needsReindex) := by
  cases event with
  | offer id =>
      have received : Received projector id (projector.after (.offer id)) :=
        received_offer projector id
      generalize projector.after (.offer id) = next at received ⊢
      cases received with
      | queued => exact .inr ⟨rfl, .inr rfl⟩
      | dropped => exact .inl rfl
  | take task =>
      simp only [after]
      split
      · exact .inr ⟨rfl, .inr rfl⟩
      · exact .inr ⟨rfl, .inr rfl⟩
  | settle task failure =>
      simp only [after]
      split
      · have settled := settled_settle projector task failure
        generalize projector.settle task failure = next at settled ⊢
        cases settled with
        | applied | retried | lost => exact .inr ⟨rfl, .inr rfl⟩
        | givenUp => exact .inl rfl
      · exact .inr ⟨rfl, .inr rfl⟩
  | beginReindex => exact .inr ⟨rfl, .inl rfl⟩
  | failReindex => exact .inl rfl
  | stop | elapse | reject => exact .inr ⟨rfl, .inr rfl⟩

theorem flagged_of_failed {event : Event}
    (more : (projector.after event).failed ≠ projector.failed) :
    (projector.after event).needsReindex = true :=
  (flag_after projector event).resolve_right fun kept => more kept.1

theorem flag_stays_foldl (flagged : projector.needsReindex = true) (later : List Event)
    (others : ∀ event ∈ later, event ≠ .beginReindex) :
    (later.foldl after projector).needsReindex = true := by
  refine List.foldlRecOn (motive := fun projector : Projector => projector.needsReindex = true)
    later after flagged ?_
  intro projector flagged event member
  rcases flag_after projector event with raised | ⟨_, begins | kept⟩
  · exact raised
  · exact absurd begins (others event member)
  · rw [kept, flagged]

theorem retryTime?_eq_none_iff {attempt : Nat} : projector.retryTime? attempt = none ↔
    clockEnd ≤ projector.time + projector.backoff * attempt := by
  simp [retryTime?]

/-- No task is lost as long as the clock does not end within the longest delay of a retry. -/
def Timely (projector : Projector) : Prop :=
  projector.time + projector.backoff * (projector.maxAttempts - 1) < clockEnd → projector.lost = 0

theorem Timely.moved (timely : projector.Timely) (settings : next.settings = projector.settings)
    (later : projector.time ≤ next.time) (lost : next.lost = projector.lost) : next.Timely := by
  intro soon
  rw [lost]
  apply timely
  rw [backoff, maxAttempts, settings] at soon
  exact Nat.lt_of_le_of_lt (Nat.add_le_add_right later _) soon

theorem Timely.settle (timely : projector.Timely) (task : Task) (failure : Option String) :
    (projector.settle task failure).Timely := by
  have settled := settled_settle projector task failure
  generalize projector.settle task failure = next at settled
  cases settled with
  | applied | retried | givenUp => exact timely.moved rfl (Nat.le_refl _) rfl
  | lost early late =>
      intro (soon : projector.time + projector.backoff * (projector.maxAttempts - 1) < clockEnd)
      have ended := retryTime?_eq_none_iff.mp late
      have shorter : projector.backoff * task.attempt
          ≤ projector.backoff * (projector.maxAttempts - 1) := Nat.mul_le_mul_left _ (by omega)
      omega

theorem Timely.after (timely : projector.Timely) (event : Event) :
    (projector.after event).Timely := by
  cases event with
  | offer id =>
      have received : Received projector id (projector.after (.offer id)) :=
        received_offer projector id
      generalize projector.after (.offer id) = next at received
      cases received with
      | queued | dropped => exact timely.moved rfl (Nat.le_refl _) rfl
  | take task =>
      simp only [Projector.after]
      split
      · refine timely.moved rfl ?_ rfl
        simp only [take]
        split
        · exact Nat.le_refl _
        · exact Nat.le_max_left _ _
      · exact timely
  | settle task failure =>
      simp only [Projector.after]
      split
      · exact timely.settle task failure
      · exact timely
  | elapse milliseconds => exact timely.moved rfl (Nat.le_add_right _ _) rfl
  | stop | beginReindex | reject | failReindex => exact timely.moved rfl (Nat.le_refl _) rfl

end Projector

/-! ### The whole account -/

namespace Projector.Ledger

open Projector

structure Accounts (ledger : Ledger) : Prop where
  /-- Every accepted change is applied, given up, lost, waiting or being carried out. -/
  conserved : ledger.changes.length = ledger.projector.applied + ledger.projector.failed
    + ledger.projector.lost + ledger.projector.queue.length + ledger.projector.active.length
  bounded : ∀ task ∈ ledger.projector.queue ++ ledger.projector.active,
    1 ≤ task.attempt ∧ task.attempt ≤ ledger.projector.maxAttempts
  /-- The tasks are those of the changes that have not ended, one for each. -/
  tasks : ((ledger.projector.queue ++ ledger.projector.active).map Task.card).Perm
    ((ledger.changes.filter fun change =>
      change.stage ledger.projector.maxAttempts = .pending).map Accepted.card)
  applied : ledger.projector.applied
    = Accepted.count ledger.projector.maxAttempts .applied ledger.changes
  failed : ledger.projector.failed
    = Accepted.count ledger.projector.maxAttempts .givenUp ledger.changes
  lost : ledger.projector.lost
    = Accepted.count ledger.projector.maxAttempts .lost ledger.changes
  /-- Nothing is attempted after it was applied. -/
  once : ∀ change ∈ ledger.changes, ∀ outcome ∈ change.outcomes.dropLast, outcome ≠ none
  exhausted : ∀ change ∈ ledger.changes,
    change.stage ledger.projector.maxAttempts = .givenUp →
      change.outcomes.length = ledger.projector.maxAttempts ∧
        ∀ outcome ∈ change.outcomes, outcome ≠ none
  unfinished : ∀ change ∈ ledger.changes,
    change.stage ledger.projector.maxAttempts = .lost →
      change.outcomes.length < ledger.projector.maxAttempts ∧
        ∀ outcome ∈ change.outcomes, outcome ≠ none
  /-- The attempt that a change was lost over is counted as one that is tried again. -/
  retried : ledger.projector.retried
    = (ledger.changes.map (Accepted.retries ledger.projector.maxAttempts)).sum
      + ledger.projector.lost
  timely : ledger.projector.Timely
  /-- A change that is given up raises the flag, and only a reindex takes it back. -/
  flagged : ∀ event, (ledger.projector.after event).failed ≠ ledger.projector.failed →
    ∀ later : List Event, (∀ other ∈ later, other ≠ .beginReindex) →
      (later.foldl Projector.after (ledger.projector.after event)).needsReindex = true
  /-- Work comes to an end, in whatever order it is done. -/
  ends : ∀ count next, Works ledger.projector count next →
    count + next.queue.length ≤ ledger.projector.maxAttempts * ledger.changes.length

theorem Balanced.queue_bounded {most : Nat} {ledger : Ledger} (balanced : Balanced most ledger) :
    ledger.projector.Bounded := by
  intro task waits
  rw [balanced.limit]
  exact (balanced.attempt_bounds (List.mem_append_left _ waits)).2

theorem Balanced.works_le {most : Nat} {ledger : Ledger} (balanced : Balanced most ledger)
    {count : Nat} {next : Projector} (works : Works ledger.projector count next) :
    count + next.queue.length ≤ most * ledger.changes.length := by
  obtain ⟨stays, spent⟩ := works.attempts balanced.queue_bounded
  have few := length_queue_le stays
  have left : ledger.projector.attemptsLeft ≤ ledger.projector.queue.length * most := by
    rw [attemptsLeft_eq, balanced.limit]
    have each : ∀ attempts ∈ ledger.projector.queue.map fun task => most + 1 - task.attempt,
        attempts ≤ most := by
      intro attempts member
      obtain ⟨task, waits, rfl⟩ := List.mem_map.mp member
      have first := (balanced.attempt_bounds (List.mem_append_left _ waits)).1
      omega
    simpa using List.sum_le_card_nsmul _ most each
  have waiting : ledger.projector.queue.length ≤ ledger.changes.length := by
    have conserved := balanced.conserved
    omega
  have all := Nat.mul_le_mul_right most waiting
  rw [Nat.mul_comm most]
  omega

theorem run_timely (settings : ProjectionSettings) (events : List Event) :
    (run settings events).projector.Timely := by
  rw [run_projector]
  exact List.foldlRecOn (motive := Timely) events Projector.after (fun _ => rfl)
    fun _ timely event _ => timely.after event

theorem Balanced.accounts {ledger : Ledger}
    (balanced : Balanced ledger.projector.maxAttempts ledger)
    (timely : ledger.projector.Timely) : ledger.Accounts where
  conserved := balanced.conserved
  bounded _ member := balanced.attempt_bounds member
  tasks := balanced.tasks
  applied := balanced.applied
  failed := balanced.failed
  lost := balanced.lost
  once change member := (balanced.regular change member).early
  exhausted change member ended := (balanced.regular change member).exhausted ended
  unfinished change member ended := (balanced.regular change member).unfinished ended
  retried := balanced.retried
  timely := timely
  flagged _ more later others := flag_stays_foldl (flagged_of_failed more) later others
  ends _ _ works := balanced.works_le works

end Projector.Ledger

end Docket
