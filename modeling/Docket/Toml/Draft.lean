import Docket.Table
import Docket.Toml.Basic
/-!
A document of TOML as it grows, line by line.

Tables come about in three ways: by a header of their own, as the way to one, or by the points in
the key of a value. A header may add to a table that was only the way to another, a key with points
to one that came about by points, and neither to any other.
-/

namespace Docket.Toml

inductive TableKind where
  | header
  | passage
  | dotted
  deriving DecidableEq

inductive Part where
  | value (value : Toml)
  | table (kind : TableKind) (members : List (String × Part))
  /-- Tables under one header, the latest first. -/
  | tables (latest : List (String × Part)) (earlier : List (List (String × Part)))

structure Growing where
  kind : TableKind
  members : List (String × Part)

namespace Growing

def empty : Growing := ⟨.header, []⟩

def lookup (growing : Growing) (name : String) : Option Part := Entries.lookup name growing.members

def insert (growing : Growing) (name : String) (part : Part) : Growing :=
  { growing with members := Entries.insert name part growing.members }

/-- Changes the table under a path, which is made where it is missing. Of tables under one header it
    is the latest. On a way of points every table must not have come about by a header. -/
def within (dotted : Bool) (change : Growing → Option Growing) :
    List String → Growing → Option Growing
  | [], growing => change growing
  | name :: rest, growing =>
      match growing.lookup name with
      | none => do
          let below ← within dotted change rest ⟨if dotted then .dotted else .passage, []⟩
          return growing.insert name (.table below.kind below.members)
      | some (.value _) => none
      | some (.table kind members) =>
          -- Points do not lead into a table that has a header of its own.
          if dotted && kind = .header then none
          else do
            let below ← within dotted change rest ⟨kind, members⟩
            return growing.insert name (.table below.kind below.members)
      | some (.tables latest earlier) => do
          let below ← within dotted change rest ⟨.header, latest⟩
          return growing.insert name (.tables below.members earlier)

def openTable (name : String) (growing : Growing) : Option Growing :=
  match growing.lookup name with
  | none => some (growing.insert name (.table .header []))
  | some (.table .passage members) => some (growing.insert name (.table .header members))
  | some _ => none

def openNext (name : String) (growing : Growing) : Option Growing :=
  match growing.lookup name with
  | none => some (growing.insert name (.tables [] []))
  | some (.tables latest earlier) => some (growing.insert name (.tables [] (latest :: earlier)))
  | some _ => none

def putNew (name : String) (value : Toml) (growing : Growing) : Option Growing :=
  match growing.lookup name with
  | none => some (growing.insert name (.value value))
  | some _ => none

/-- Puts a value under a key: the names before the last lead over tables that came about by
    points. -/
def put (way : List String) (name : String) (value : Toml) (growing : Growing) : Option Growing :=
  match way with
  | [] => growing.putNew name value
  | _ =>
      within true (fun below => if below.kind = .dotted then below.putNew name value else none)
        way growing

end Growing

mutual

def Part.toToml : Part → Toml
  | .value value => value
  | .table _ members => .table (membersToToml members)
  | .tables latest earlier =>
      .array ((Toml.table (membersToToml latest) :: tablesToToml earlier).reverse)

def membersToToml : List (String × Part) → List (String × Toml)
  | [] => []
  | (name, part) :: rest => (name, part.toToml) :: membersToToml rest

def tablesToToml : List (List (String × Part)) → List Toml
  | [] => []
  | members :: rest => .table (membersToToml members) :: tablesToToml rest

end

structure Draft where
  root : Growing
  path : List String

namespace Draft

def empty : Draft := ⟨Growing.empty, []⟩

def header (way : List String) (name : String) (draft : Draft) : Option Draft :=
  (draft.root.within false (Growing.openTable name) way).map fun root =>
    ⟨root, way ++ [name]⟩

def nextHeader (way : List String) (name : String) (draft : Draft) : Option Draft :=
  (draft.root.within false (Growing.openNext name) way).map fun root =>
    ⟨root, way ++ [name]⟩

def put (way : List String) (name : String) (value : Toml) (draft : Draft) :
    Option Draft :=
  (draft.root.within false (Growing.put way name value) draft.path).map fun root =>
    { draft with root := root }

def toToml (draft : Draft) : Toml := .table (membersToToml draft.root.members)

end Draft

end Docket.Toml
