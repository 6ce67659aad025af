import Docket.Json.NumberText
/-!
Parameterised query text.

A query is built from fixed fragments and bound values; a value adds a placeholder to the text and
itself to the parameters, so the text never depends on the values.
-/

namespace Docket.Sql

inductive Value where
  | null
  | integer (value : Int)
  | real (value : Binary64)
  | text (value : String)
  deriving DecidableEq

/-- The real whose JSON text a text is. It is sought by the nearest number, so the text of every real
    is found whatever a reader of stored texts takes it for. -/
def canonicalReal? (text : String) : Option Binary64 :=
  match WrittenDecimal.read text.toList with
  | some (written, []) => written.nearest?.filter fun value => (Number.real value).text = text
  | _ => none

def Value.ofOption : Option Binary64 → Value
  | some value => .real value
  | none => .null

structure Query where
  sql : String
  params : List Value

namespace Query

def start (fragment : String) : Query := ⟨fragment, []⟩

def push (query : Query) (fragment : String) : Query :=
  { query with sql := query.sql ++ fragment }

def bind (query : Query) (value : Value) : Query :=
  ⟨query.sql ++ "?", query.params ++ [value]⟩

/-- Binds the values after the first of a list, each after a comma. -/
def bindRest (query : Query) : List Value → Query
  | [] => query
  | value :: rest => ((query.push ", ").bind value).bindRest rest

/-- Binds a list of values in parentheses; the empty list becomes `NULL`, which equals nothing. -/
def bindList (query : Query) (values : List Value) : Query :=
  let opened := query.push "("
  let filled := match values with
    | [] => opened.push "NULL"
    | value :: rest => (opened.bind value).bindRest rest
  filled.push ")"

end Query

end Docket.Sql
