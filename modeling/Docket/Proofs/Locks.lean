import Docket.Locks
import Mathlib.Algebra.BigOperators.Group.List.Basic
import Mathlib.Algebra.GroupWithZero.Nat
/-!
Callers that take several locks at a time.

A caller takes the locks of its ids one by one, and gives them back when it has them all. A lock that
somebody holds cannot be taken, not even by its holder. Each caller takes its locks in ascending
order, each once, and this is what keeps callers from waiting for each other: the one that holds the
greatest lock of all waits for nobody (`LockMove.exists_of_ordered`). Since every move leaves less to
do, the callers come to an end however they take turns (`LockRun.completes`).
-/

namespace Docket

namespace StripedLocks

def hashed (count : Nat) (hash : DocumentId → Nat) : StripedLocks :=
  ⟨max count 1, fun id => ⟨hash id % max count 1, Nat.mod_lt _ (ofCount count).count_pos⟩⟩

theorem ofCount_eq_hashed (count : Nat) : ofCount count = hashed count DocumentId.digest := rfl

theorem stripesOf_ascending (locks : StripedLocks) (ids : List DocumentId) :
    (locks.stripesOf ids).Pairwise (· < ·) :=
  (KeySet.sorted_ascending _).imp of_decide_eq_true

end StripedLocks

inductive LockStep where
  | take (stripe : Nat)
  | giveBack (stripe : Nat)
  deriving DecidableEq

/-- A caller of several locks: those it has yet to take, and those it holds, both in the order in
    which it takes them. -/
structure LockCaller where
  pending : List Nat
  held : List Nat
  deriving DecidableEq

namespace LockCaller

def ofIds (locks : StripedLocks) (ids : List DocumentId) : LockCaller := ⟨locks.stripesOf ids, []⟩

def IsDone (caller : LockCaller) : Prop := caller.pending = [] ∧ caller.held = []

instance (caller : LockCaller) : Decidable caller.IsDone := inferInstanceAs (Decidable (_ ∧ _))

def Ordered (caller : LockCaller) : Prop := (caller.held ++ caller.pending).Pairwise (· < ·)

theorem ordered_ofIds (locks : StripedLocks) (ids : List DocumentId) :
    (ofIds locks ids).Ordered := locks.stripesOf_ascending ids

def work (caller : LockCaller) : Nat := 2 * caller.pending.length + caller.held.length

end LockCaller

/-- A move of one of several callers, who are known by their places. A caller takes its next lock if
    nobody holds it; with all of its locks taken it gives them back. -/
inductive LockMove : List LockCaller → Nat × LockStep → List LockCaller → Prop where
  | take {front back : List LockCaller} {stripe : Nat} {rest held : List Nat}
      (free : ∀ caller ∈ front ++ ⟨stripe :: rest, held⟩ :: back, stripe ∉ caller.held) :
      LockMove (front ++ ⟨stripe :: rest, held⟩ :: back) (front.length, .take stripe)
        (front ++ ⟨rest, held ++ [stripe]⟩ :: back)
  | giveBack {front back : List LockCaller} {stripe : Nat} {rest : List Nat} :
      LockMove (front ++ ⟨[], stripe :: rest⟩ :: back) (front.length, .giveBack stripe)
        (front ++ ⟨[], rest⟩ :: back)

inductive LockRun (start : List LockCaller) :
    List (Nat × LockStep) → List LockCaller → Prop where
  | nil : LockRun start [] start
  | concat {moves : List (Nat × LockStep)} {move : Nat × LockStep}
      {callers next : List LockCaller} (before : LockRun start moves callers)
      (last : LockMove callers move next) : LockRun start (moves ++ [move]) next

def takenBy (place : Nat) (moves : List (Nat × LockStep)) : List Nat :=
  moves.filterMap fun
    | (mover, .take stripe) => if mover = place then some stripe else none
    | (_, .giveBack _) => none

def pendingAt (place : Nat) (callers : List LockCaller) : List Nat :=
  (callers[place]?.map LockCaller.pending).getD []

variable {start callers next : List LockCaller} {move : Nat × LockStep}
  {moves : List (Nat × LockStep)}

namespace LockMove

theorem ordered (moved : LockMove callers move next)
    (ordered : ∀ caller ∈ callers, caller.Ordered) : ∀ caller ∈ next, caller.Ordered := by
  cases moved with
  | take free =>
      simp only [List.forall_mem_append, List.forall_mem_cons, LockCaller.Ordered,
        List.append_assoc, List.singleton_append] at ordered ⊢
      exact ordered
  | giveBack =>
      simp only [List.forall_mem_append, List.forall_mem_cons, LockCaller.Ordered,
        List.append_nil, List.pairwise_cons] at ordered ⊢
      exact ⟨ordered.1, ordered.2.1.2, ordered.2.2⟩

theorem exclusive (moved : LockMove callers move next)
    (exclusive : callers.Pairwise fun one other => one.held.Disjoint other.held) :
    next.Pairwise fun one other => one.held.Disjoint other.held := by
  cases moved with
  | @take front back stripe rest held free =>
      simp only [List.forall_mem_append, List.forall_mem_cons] at free
      simp only [List.pairwise_append, List.pairwise_cons, List.forall_mem_cons,
        List.disjoint_append_left, List.disjoint_append_right, List.singleton_disjoint,
        List.disjoint_singleton] at exclusive ⊢
      obtain ⟨before, ⟨own, after⟩, across⟩ := exclusive
      refine ⟨before, ⟨fun other behind => ⟨own other behind, free.2.2 other behind⟩, after⟩,
        fun one ahead => ?_⟩
      exact ⟨⟨(across one ahead).1, free.1 one ahead⟩, (across one ahead).2⟩
  | giveBack =>
      simp only [List.pairwise_append, List.pairwise_cons, List.forall_mem_cons,
        List.disjoint_cons_left, List.disjoint_cons_right] at exclusive ⊢
      obtain ⟨before, ⟨own, after⟩, across⟩ := exclusive
      exact ⟨before, ⟨fun other behind => (own other behind).2, after⟩,
        fun one ahead => ⟨(across one ahead).1.2, (across one ahead).2⟩⟩

theorem work_lt (moved : LockMove callers move next) :
    (next.map LockCaller.work).sum + 1 = (callers.map LockCaller.work).sum := by
  cases moved with
  | take free => simp [LockCaller.work]; omega
  | giveBack => simp [LockCaller.work]; omega

end LockMove

theorem pendingAt_of_ne {front back : List LockCaller} {caller other : LockCaller} {place : Nat}
    (elsewhere : front.length ≠ place) :
    pendingAt place (front ++ caller :: back) = pendingAt place (front ++ other :: back) := by
  simp only [pendingAt, List.getElem?_append, List.getElem?_cons]
  split
  · rfl
  · rw [if_neg (by omega), if_neg (by omega)]

theorem pendingAt_self {front back : List LockCaller} {caller : LockCaller} :
    pendingAt front.length (front ++ caller :: back) = caller.pending := by
  simp [pendingAt]

theorem LockMove.taken (moved : LockMove callers move next) (place : Nat) :
    takenBy place [move] ++ pendingAt place next = pendingAt place callers := by
  cases moved with
  | @take front back stripe rest held free =>
      by_cases here : front.length = place
      · subst here
        simp [takenBy, pendingAt_self]
      · simpa [takenBy, here] using pendingAt_of_ne here
  | @giveBack front back stripe rest =>
      by_cases here : front.length = place
      · subst here
        simp [takenBy, pendingAt_self]
      · simpa [takenBy] using pendingAt_of_ne here

theorem count_take (place stripe : Nat) (moves : List (Nat × LockStep)) :
    moves.count (place, .take stripe) = (takenBy place moves).count stripe := by
  induction moves with
  | nil => rfl
  | cons move rest ih =>
      rcases move with ⟨mover, taken | given⟩
      · by_cases here : mover = place
        · simp_all [takenBy, List.count_cons]
        · simp_all [takenBy]
      · simp_all [takenBy]

/-- While some caller is not done, some caller can move: the holder of the greatest lock, or, when
    none is held, anyone. -/
theorem LockMove.exists_of_ordered (ordered : ∀ caller ∈ callers, caller.Ordered)
    (unfinished : ∃ caller ∈ callers, ¬ caller.IsDone) :
    ∃ move next, LockMove callers move next := by
  -- A caller that has all of its locks can give one back.
  have holder : ∀ caller ∈ callers, caller.pending = [] → caller.held ≠ [] →
      ∃ move next, LockMove callers move next := by
    rintro ⟨pending, held⟩ member rfl some
    obtain ⟨stripe, rest, rfl⟩ := List.exists_cons_of_ne_nil some
    obtain ⟨front, back, rfl⟩ := List.append_of_mem member
    exact ⟨_, _, .giveBack⟩
  -- A caller whose next lock nobody holds can take it.
  have taker : ∀ caller ∈ callers, ∀ stripe rest, caller.pending = stripe :: rest →
      (∀ other ∈ callers, stripe ∉ other.held) → ∃ move next, LockMove callers move next := by
    rintro ⟨pending, held⟩ member stripe rest rfl free
    obtain ⟨front, back, rfl⟩ := List.append_of_mem member
    exact ⟨_, _, .take free⟩
  cases greatest : (callers.flatMap LockCaller.held).max? with
  | none =>
      have unheld := List.flatMap_eq_nil_iff.mp (List.max?_eq_none_iff.mp greatest)
      obtain ⟨caller, member, notDone⟩ := unfinished
      have some : caller.pending ≠ [] := fun none => notDone ⟨none, unheld caller member⟩
      obtain ⟨stripe, rest, pending⟩ := List.exists_cons_of_ne_nil some
      exact taker caller member stripe rest pending fun other among => by simp [unheld other among]
  | some top =>
      obtain ⟨among, largest⟩ := List.max?_eq_some_iff.mp greatest
      obtain ⟨caller, member, holds⟩ := List.mem_flatMap.mp among
      cases pending : caller.pending with
      | nil => exact holder caller member pending (List.ne_nil_of_mem holds)
      | cons stripe rest =>
          apply taker caller member stripe rest pending
          intro other among' held
          have later : top < stripe :=
            (List.pairwise_append.mp (ordered caller member)).2.2 top holds stripe
              (pending ▸ List.mem_cons_self)
          have notLater : stripe ≤ top :=
            largest stripe (List.mem_flatMap.mpr ⟨other, among', held⟩)
          omega

namespace LockRun

theorem ordered (run : LockRun start moves callers)
    (ordered : ∀ caller ∈ start, caller.Ordered) : ∀ caller ∈ callers, caller.Ordered := by
  induction run with
  | nil => exact ordered
  | concat _ last ih => exact last.ordered ih

theorem exclusive (run : LockRun start moves callers)
    (unheld : ∀ caller ∈ start, caller.held = []) :
    callers.Pairwise fun one other => one.held.Disjoint other.held := by
  induction run with
  | nil =>
      apply List.pairwise_of_forall_mem_list
      intro one member other _
      simp [unheld one member]
  | concat _ last ih => exact last.exclusive ih

theorem taken (run : LockRun start moves callers) (place : Nat) :
    takenBy place moves ++ pendingAt place callers = pendingAt place start := by
  induction run with
  | nil => rfl
  | concat _ last ih =>
      rw [takenBy, List.filterMap_append, List.append_assoc]
      exact (congrArg _ (last.taken place)).trans ih

theorem completes (run : LockRun start moves callers)
    (ordered : ∀ caller ∈ start, caller.Ordered) :
    ∃ more done, LockRun start (moves ++ more) done ∧ ∀ caller ∈ done, caller.IsDone := by
  -- By induction on the moves that are left.
  generalize left : (callers.map LockCaller.work).sum = count
  induction count generalizing moves callers with
  | zero =>
      refine ⟨[], callers, by simpa using run, ?_⟩
      intro caller member
      by_contra notDone
      obtain ⟨move, next, moved⟩ :=
        LockMove.exists_of_ordered (run.ordered ordered) ⟨caller, member, notDone⟩
      have less := moved.work_lt
      omega
  | succ count ih =>
      by_cases finished : ∀ caller ∈ callers, caller.IsDone
      · exact ⟨[], callers, by simpa using run, finished⟩
      · simp only [not_forall] at finished
        obtain ⟨caller, member, notDone⟩ := finished
        obtain ⟨move, next, moved⟩ :=
          LockMove.exists_of_ordered (run.ordered ordered) ⟨caller, member, notDone⟩
        have less := moved.work_lt
        obtain ⟨more, done, further, ended⟩ := ih (run.concat moved) (by omega)
        exact ⟨move :: more, done, by simpa using further, ended⟩

end LockRun

theorem pendingAt_ofIds_nodup (locks : StripedLocks) (requests : List (List DocumentId))
    (place : Nat) : (pendingAt place (requests.map (LockCaller.ofIds locks))).Nodup := by
  rw [pendingAt, List.getElem?_map]
  cases requests[place]? with
  | none => exact List.nodup_nil
  | some ids => exact (locks.stripesOf_ascending ids).imp Nat.ne_of_lt

/-- However many locks there are and however they are shared out, callers for any ids take each of
    their locks at most once, and while one of them is not done, one of them can move. -/
theorem StripedLocks.never_deadlocked (count : Nat) (hash : DocumentId → Nat)
    (requests : List (List DocumentId))
    (run : LockRun (requests.map (LockCaller.ofIds (hashed count hash))) moves callers) :
    (∀ place stripe, moves.count (place, .take stripe) ≤ 1) ∧
      ((∃ caller ∈ callers, ¬ caller.IsDone) → ∃ move next, LockMove callers move next) := by
  have ordered : ∀ caller ∈ requests.map (LockCaller.ofIds (hashed count hash)),
      caller.Ordered := by
    intro caller member
    obtain ⟨ids, _, rfl⟩ := List.mem_map.mp member
    exact LockCaller.ordered_ofIds _ ids
  constructor
  · intro place stripe
    have distinct := pendingAt_ofIds_nodup (hashed count hash) requests place
    rw [← run.taken place] at distinct
    rw [count_take]
    exact List.nodup_iff_count.mp (List.nodup_append.mp distinct).1 stripe
  · exact LockMove.exists_of_ordered (run.ordered ordered)

theorem StripedLocks.never_deadlocked_oppositeOrder :
    let first : DocumentId := ⟨4, by decide⟩
    let second : DocumentId := ⟨7, by decide⟩
    let locks := hashed 2 DocumentId.digest
    let callers : List LockCaller := [⟨[1], [0]⟩, ⟨[0, 1], []⟩]
    LockRun ([[first, second, first], [second, first]].map (LockCaller.ofIds locks))
        [(0, .take 0)] callers ∧
      ∃ move next, LockMove callers move next := by
  intro first second locks callers
  have start : [[first, second, first], [second, first]].map (LockCaller.ofIds locks) =
      [⟨[0, 1], []⟩, ⟨[0, 1], []⟩] := by decide
  have run : LockRun ([[first, second, first], [second, first]].map (LockCaller.ofIds locks))
      [(0, .take 0)] callers := by
    rw [start]
    have moved : LockMove ([] ++ [⟨[0, 1], []⟩, ⟨[0, 1], []⟩]) (0, .take 0)
        ([] ++ [⟨[1], [] ++ [0]⟩, ⟨[0, 1], []⟩]) := .take (by simp)
    exact LockRun.concat .nil moved
  have notDone : ∃ caller ∈ callers, ¬ caller.IsDone := ⟨⟨[1], [0]⟩, by simp [callers], by decide⟩
  exact ⟨run, (never_deadlocked 2 DocumentId.digest _ run).2 notDone⟩

end Docket
