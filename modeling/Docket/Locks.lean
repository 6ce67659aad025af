import Docket.DocumentId
/-!
A fixed number of locks, shared out among the ids.

Ids may share a lock, and any way of sharing them out will do. A caller that needs the locks of
several ids takes them in ascending order, each once, so that no two callers wait for each other.
-/

namespace Docket

structure StripedLocks where
  count : Nat
  stripeOf : DocumentId → Fin count

namespace StripedLocks

/-- A table of so many locks, at least one, shared out by remainder. -/
def ofCount (count : Nat) : StripedLocks :=
  ⟨max count 1, fun id => ⟨id.digest % max count 1, Nat.mod_lt _ (by omega)⟩⟩

def standard : StripedLocks := ofCount 256

instance : Inhabited StripedLocks := ⟨standard⟩

theorem count_pos (locks : StripedLocks) : 0 < locks.count := (locks.stripeOf default).pos

/-- The locks to take for some ids, in the order in which they are taken. -/
def stripesOf (locks : StripedLocks) (ids : List DocumentId) : List Nat :=
  KeySet.sorted (ids.map fun id => (locks.stripeOf id).val)

def display (locks : StripedLocks) : String :=
  "StripedLocks \x7b stripes: " ++ toString locks.count ++ " \x7d"

end StripedLocks

end Docket
