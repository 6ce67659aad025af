import Docket.Error
import Docket.Json.Path
/-!
What a query asks for: filters on the scalars of a body, and a window of the answer.
-/

namespace Docket

/-- The text that each of some paths must lead to. -/
structure Filters where
  entries : Table String String
  deriving DecidableEq

namespace Filters

def empty : Filters := ⟨Table.empty⟩

instance : Inhabited Filters := ⟨empty⟩

def toList (filters : Filters) : List (String × String) := filters.entries.toList

def size (filters : Filters) : Nat := filters.entries.size

def isEmpty (filters : Filters) : Bool := filters.entries.isEmpty

def insert (filters : Filters) (path value : String) : Filters :=
  ⟨filters.entries.insert path value⟩

def ofList (pairs : List (String × String)) : Filters := ⟨Table.ofList pairs⟩

/-- Every path must be valid; the first that is not, in ascending order, gives the error. -/
def validate (filters : Filters) : Except Error Unit :=
  match filters.entries.keys.find? fun path => !Json.validPath path with
  | some path => .error (.invalidFilter path)
  | none => .ok ()

def accepts (filters : Filters) (body : Json) : Bool :=
  filters.toList.all fun (path, value) => body.scalarAt path == some value

end Filters

/-- A window of an answer: what comes after the first `offset`, at most `limit` of it. -/
structure Pagination where
  offset : UInt64
  limit : Option UInt64
  deriving DecidableEq, Repr

namespace Pagination

def all : Pagination := ⟨0, none⟩

instance : Inhabited Pagination := ⟨all⟩

def apply {α : Type} (window : Pagination) (items : List α) : List α :=
  let rest := items.drop window.offset.toNat
  match window.limit with
  | some limit => rest.take limit.toNat
  | none => rest

end Pagination

end Docket
