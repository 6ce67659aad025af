import Docket.Decimal.Extended
import Docket.Json.Path
import Docket.Json.Printer
import Docket.Json.Reader
import Docket.Sql.Query
/-!
Conditions on the stored text of a body.

An expression has a text, written into a query with its values bound (`Expr.write`), and a value for
each stored text (`Expr.eval`). `bodyScalarEq` is the condition that the scalar at a path has a given
text: numbers that do not fit in 64 signed bits are reals to the database, and reals are compared
as numbers.

The database reads stored texts in its own way: with its own rule for reals, and with names that end
before a NUL.
-/

namespace Docket.Sql

def greatestHeight : Nat := 1000

inductive EvalError where
  /-- The condition is too high; it is not evaluated at all. -/
  | tooHigh
  /-- The stored text nests deeper than the database reads. -/
  | malformedJson
  | badPath (path : String)
  deriving DecidableEq, Repr

def EvalError.message : EvalError → String
  | .tooHigh => s!"Expression tree is too large (maximum depth {greatestHeight})"
  | .malformedJson => "malformed JSON"
  | .badPath path => "bad JSON path: '" ++ path ++ "'"

def bodyColumn : String := "edfi_doc"

inductive Expr where
  | bound (value : Value)
  /-- A text written into the query itself. -/
  | literal (text : String)
  | zero
  /-- The type of what a bound path leads to in the stored text. -/
  | bodyType (path : String)
  /-- The value of what a bound path leads to in the stored text. -/
  | bodyValue (path : String)
  | castText (expr : Expr)
  | equal (left right : Expr)
  /-- The branch whose name the subject is, or the last expression. -/
  | choose (subject : Expr) (branches : List (String × Expr)) (otherwise : Expr)

namespace Expr

mutual

def write (query : Query) : Expr → Query
  | .bound value => query.bind value
  | .literal text => query.push ("'" ++ text ++ "'")
  | .zero => query.push "0"
  | .bodyType path =>
      ((query.push ("json_type(" ++ bodyColumn ++ ", ")).bind (.text path)).push ")"
  | .bodyValue path =>
      ((query.push ("json_extract(" ++ bodyColumn ++ ", ")).bind (.text path)).push ")"
  | .castText expr => (write (query.push "CAST(") expr).push " AS TEXT)"
  | .equal left right => write ((write query left).push " = ") right
  | .choose subject branches otherwise =>
      let opened := write (query.push "(CASE ") subject
      (write ((writeBranches opened branches).push " ELSE ") otherwise).push " END)"

def writeBranches (query : Query) : List (String × Expr) → Query
  | [] => query
  | (name, expr) :: rest =>
      writeBranches (write (query.push (" WHEN '" ++ name ++ "' THEN ")) expr) rest

end

mutual

/-- How many expressions lie inside one another at most, the outermost one included. -/
def height : Expr → Nat
  | .bound _ | .literal _ | .zero => 1
  -- A function stands above the column and the path.
  | .bodyType _ | .bodyValue _ => 2
  | .castText expr => height expr + 1
  | .equal left right => max (height left) (height right) + 1
  | .choose subject branches otherwise =>
      max (max (height subject) (branchHeight branches)) (height otherwise) + 1

def branchHeight : List (String × Expr) → Nat
  | [] => 1
  | (_, expr) :: rest => max (height expr) (branchHeight rest)

end

/-- How the database reads a stored text: deeper than the store does, and with numbers of its own. -/
def databaseReader : Json.Reader := ⟨1000, WrittenDecimal.extended?⟩

/-- The member of an object that the database takes for a name: the first one whose own name, up to a
    NUL if there is one, is that name. -/
def member? (name : String) : Json → Option Json
  | .object members =>
      (members.find? fun (own, _) => own.toList.takeWhile (· ≠ '\x00') == name.toList).map Prod.snd
  | _ => none

/-- What a list of names leads to, each found as the database finds it. -/
def descend : List String → Json → Option Json
  | [], json => some json
  | name :: rest, json => (member? name json).bind (descend rest)

/-- What a path leads to in a stored text. A path is a dollar sign and names after points. -/
def atPath (stored path : String) : Except EvalError (Option Json) :=
  match path.toList with
  | '$' :: '.' :: names =>
      match databaseReader.read stored with
      | .error _ => .error .malformedJson
      | .ok json => .ok (descend (Json.pathNames (String.ofList names)) json)
  | _ => .error (.badPath path)

/-- A whole number as the database holds it: one that does not fit in 64 signed bits is a real. -/
def integerValue (n : Int) : Value :=
  if -2 ^ 63 ≤ n ∧ n < 2 ^ 63 then .integer n
  else Value.ofOption (WrittenDecimal.ofInt n).extended?

def typeName : Json → String
  | .null => "null"
  | .bool true => "true"
  | .bool false => "false"
  | .number (.integer _ _) => "integer"
  | .number (.real _) => "real"
  | .string _ => "text"
  | .array _ => "array"
  | .object _ => "object"

def valueOf : Json → Value
  | .null => .null
  | .bool true => .integer 1
  | .bool false => .integer 0
  | .number (.integer n _) => integerValue n
  | .number (.real x) => .real x
  | .string text => .text text
  | .array items => .text (Json.array items).text
  | .object members => .text (Json.object members).text

/-- Reals become text with fifteen digits, a power of ten below 0.0001 and from 10 ^ 15 on. -/
def realLayout : NumberLayout := ⟨-4, 14, true, 2⟩

def realText (x : Binary64) : String :=
  String.ofList (x.signed
    (if x.isZero then ['0', '.', '0'] else (x.roundedDecimal 15).text realLayout))

def cast : Value → Value
  | .null => .null
  | .integer n => .text (String.ofList (Number.integerChars n))
  | .real x => .text (realText x)
  | .text text => .text text

def ofBool (b : Bool) : Value := .integer (if b then 1 else 0)

/-- Whether a real is a given whole number. -/
def sameAsInteger (x : Binary64) (n : Int) : Bool :=
  x.units == n.natAbs * Binary64.unitsPerOne && (x.isZero || x.negative == decide (n < 0))

/-- Comparison: unknown where a side is null, by number between numbers, and a number is no text. -/
def compareEq : Value → Value → Value
  | .null, _ | _, .null => .null
  | .integer a, .integer b => ofBool (a == b)
  | .real a, .real b => ofBool (a.sameNumber b)
  | .integer a, .real b | .real b, .integer a => ofBool (sameAsInteger b a)
  | .text a, .text b => ofBool (a == b)
  | .text _, .integer _ | .text _, .real _ | .integer _, .text _ | .real _, .text _ => ofBool false

mutual

/-- The value of an expression for a stored text. -/
def eval (stored : String) : Expr → Except EvalError Value
  | .bound value => .ok value
  | .literal text => .ok (.text text)
  | .zero => .ok (.integer 0)
  | .bodyType path =>
      match atPath stored path with
      | .error cause => .error cause
      | .ok (some json) => .ok (.text (typeName json))
      | .ok none => .ok .null
  | .bodyValue path =>
      match atPath stored path with
      | .error cause => .error cause
      | .ok (some json) => .ok (valueOf json)
      | .ok none => .ok .null
  | .castText expr =>
      match eval stored expr with
      | .error cause => .error cause
      | .ok value => .ok (cast value)
  | .equal left right =>
      match eval stored left, eval stored right with
      | .ok left, .ok right => .ok (compareEq left right)
      | .error cause, _ | _, .error cause => .error cause
  | .choose subject branches otherwise =>
      match eval stored subject with
      | .error cause => .error cause
      | .ok value =>
          match evalBranch stored value branches with
          | some result => result
          | none => eval stored otherwise

def evalBranch (stored : String) (value : Value) :
    List (String × Expr) → Option (Except EvalError Value)
  | [] => none
  | (name, expr) :: rest =>
      -- Null equals no name, so a path that leads nowhere takes the last expression.
      if value = .text name then some (eval stored expr) else evalBranch stored value rest

end

def isTrue : Value → Bool
  | .integer n => n != 0
  | .real x => !x.isZero
  | .null | .text _ => false

/-- The condition that what a path leads to is a scalar with a given text. -/
def bodyScalarEq (path value : String) : Expr :=
  .choose (.bodyType path) [
    ("true", .equal (.bound (.text value)) (.literal "true")),
    ("false", .equal (.bound (.text value)) (.literal "false")),
    ("integer", .equal (.castText (.bodyValue path)) (.bound (.text value))),
    ("real", .equal (.bodyValue path) (.bound (.ofOption (canonicalReal? value)))),
    ("text", .equal (.bodyValue path) (.bound (.text value)))]
    .zero

end Expr

def Query.pushBodyScalarEq (query : Query) (path value : String) : Query :=
  (Expr.bodyScalarEq path value).write query

end Docket.Sql
