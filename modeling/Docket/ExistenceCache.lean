import Docket.DocumentId
/-!
What a service remembers of the ids that exist.

Two generations of ids, each at most half of what the cache may hold. When the current one is full
it becomes the previous one, and what was in that is forgotten. The cache only saves look-ups: what
it does not remember is looked up in the store.
-/

namespace Docket

structure Generations where
  current : IdSet
  previous : IdSet
  /-- The most ids a generation takes. -/
  generationSize : Nat
  deriving DecidableEq

namespace Generations

def empty (maxEntries : Nat) : Generations := ⟨Table.empty, Table.empty, max (maxEntries / 2) 1⟩

def contains (generations : Generations) (id : DocumentId) : Bool :=
  generations.current.contains id || generations.previous.contains id

def add (generations : Generations) (id : DocumentId) : Generations :=
  if generations.contains id then generations
  -- Turning the generations forgets the older one as a whole.
  else if generations.generationSize ≤ generations.current.size then
    { generations with
      previous := generations.current
      current := (Table.empty : IdSet).insert id () }
  else { generations with current := generations.current.insert id () }

def remove (generations : Generations) (id : DocumentId) : Generations :=
  { generations with
    current := generations.current.erase id
    previous := generations.previous.erase id }

def size (generations : Generations) : Nat :=
  generations.current.size + generations.previous.size

end Generations

inductive ExistenceCache where
  | disabled
  | enabled (generations : Generations)
  deriving DecidableEq

namespace ExistenceCache

instance : Inhabited ExistenceCache := ⟨.disabled⟩

def ofMaxEntries (maxEntries : Nat) : ExistenceCache := .enabled (Generations.empty maxEntries)

def contains (cache : ExistenceCache) (id : DocumentId) : Bool :=
  match cache with
  | .disabled => false
  | .enabled generations => generations.contains id

def known (cache : ExistenceCache) (ids : List DocumentId) : List DocumentId :=
  ids.filter cache.contains

def addAll (cache : ExistenceCache) (ids : List DocumentId) : ExistenceCache :=
  match cache with
  | .disabled => .disabled
  | .enabled generations => .enabled (ids.foldl Generations.add generations)

def removeAll (cache : ExistenceCache) (ids : List DocumentId) : ExistenceCache :=
  match cache with
  | .disabled => .disabled
  | .enabled generations => .enabled (ids.foldl Generations.remove generations)

def size : ExistenceCache → Nat
  | .disabled => 0
  | .enabled generations => generations.size

end ExistenceCache

end Docket
