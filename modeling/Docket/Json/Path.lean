import Docket.Json.Basic
/-!
Scalars inside a value, by the names that lead to them.

A path joins names with points. `scalarAt` descends through objects along a path, `flatten` lists
the path of every scalar that is reached through objects alone. A name may itself be empty or hold a
point, so a listed path need not lead back to its scalar.
-/

namespace Docket.Json

def splitAt (separator : Char) : List Char → List (List Char)
  | [] => [[]]
  | c :: rest =>
      if c = separator then [] :: splitAt separator rest
      else
        match splitAt separator rest with
        | [] => [[c]]
        | part :: parts => (c :: part) :: parts

def pathNames (path : String) : List String := (splitAt '.' path.toList).map String.ofList

/-- The value that a list of names leads to, through objects alone. -/
def descend : List String → Json → Option Json
  | [], json => some json
  | name :: rest, json =>
      match json.member? name with
      | some value => descend rest value
      | none => none

def scalarAt (json : Json) (path : String) : Option String :=
  (descend (pathNames path) json).bind scalarText

def joinPath (above name : String) : String :=
  if above = "" then name else above ++ "." ++ name

mutual

-- A name that is empty adds nothing to an empty path, and the value stays below no path at all.
/-- The scalars of a value found below a path, in the order of the value. -/
def scalarsBelow (above : String) : Json → List (String × String)
  | .object members => memberScalars above members
  | json =>
      if above = "" then []
      else
        match json.scalarText with
        | some text => [(above, text)]
        | none => []

def memberScalars (above : String) : List (String × Json) → List (String × String)
  | [] => []
  | (name, value) :: rest => scalarsBelow (joinPath above name) value ++ memberScalars above rest

end

/-- The path and text of every scalar reached through objects alone, sorted. -/
def flatten (json : Json) : List (String × String) := sortKeys (scalarsBelow "" json)

def isNameChar (c : Char) : Bool :=
  ('a' ≤ c && c ≤ 'z') || ('A' ≤ c && c ≤ 'Z') || ('0' ≤ c && c ≤ '9') || c = '_'

/-- Whether a path joins names of letters, digits and underscores, none of them empty. -/
def validPath (path : String) : Bool :=
  (splitAt '.' path.toList).all fun name => !name.isEmpty && name.all isNameChar

end Docket.Json
