import Docket.Error
import Docket.Json.Basic
/-!
The identity of a document: the fields, by name, that tell it from the others of its resource.
-/

namespace Docket

structure Identity where
  fields : Table String String
  deriving DecidableEq

namespace Identity

def empty : Identity := ⟨Table.empty⟩

instance : Inhabited Identity := ⟨empty⟩

def get? (identity : Identity) (name : String) : Option String := identity.fields.get? name

def toList (identity : Identity) : List (String × String) := identity.fields.toList

def size (identity : Identity) : Nat := identity.fields.size

def isEmpty (identity : Identity) : Bool := identity.fields.isEmpty

/-- Adds a field. The name must not be empty, and a second value for a name must be the first. -/
def insert (identity : Identity) (name value : String) : Except Error Identity :=
  if name = "" then .error (.invalidIdentity .emptyName)
  else
    match identity.get? name with
    -- A repeated field is no error as long as it says the same.
    | some other =>
        if other = value then .ok identity
        else .error (.invalidIdentity (.conflictingValues name))
    | none => .ok ⟨identity.fields.insert name value⟩

def insertAll (identity : Identity) : List (String × String) → Except Error Identity
  | [] => .ok identity
  | (name, value) :: rest =>
      match identity.insert name value with
      | .ok identity => identity.insertAll rest
      | .error cause => .error cause

def ofPairs (pairs : List (String × String)) : Except Error Identity := empty.insertAll pairs

def insertMembers (identity : Identity) : List (String × Json) → Except Error Identity
  | [] => .ok identity
  | (name, value) :: rest =>
      match value.scalarText with
      | none => .error (.invalidIdentity (.notAScalar name))
      | some text =>
          match identity.insert name text with
          | .ok identity => identity.insertMembers rest
          | .error cause => .error cause

def ofJson : Json → Except Error Identity
  | .object members => empty.insertMembers members
  | _ => .error (.invalidIdentity .notAnObject)

end Identity

end Docket
