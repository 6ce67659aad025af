import Docket.Json.Basic
/-!
Decoding values of the domain from structured data.

A format of structured data shows what a value is (`Format.view`), and the decoders read that view,
so that one decoder serves several formats. A record is decoded from its members by name, unknown
names ignored, or from a sequence of its fields in their order.
-/

namespace Docket.Wire

inductive View (τ : Type) where
  | null
  | bool (value : Bool)
  | integer (value : Int)
  | real
  | text (value : String)
  | sequence (items : List τ)
  | record (members : List (String × τ))

class Format (τ : Type) where
  view : τ → View τ
  /-- Whether a value may stand beside the name of a choice that carries nothing. -/
  isEmptyPayload : τ → Bool
  /-- Whether a sequence that stands for a record may have more items than the record fields. -/
  allowsSurplus : Bool

instance : Format Json where
  view
    | .null => .null
    | .bool value => .bool value
    | .number (.integer value _) => .integer value
    | .number (.real _) => .real
    | .string text => .text text
    | .array items => .sequence items
    | .object members => .record members
  isEmptyPayload json := json = .null
  allowsSurplus := false

variable {τ α : Type} [Format τ]

def text? (value : τ) : Option String :=
  match Format.view value with
  | .text value => some value
  | _ => none

def bool? (value : τ) : Option Bool :=
  match Format.view value with
  | .bool value => some value
  | _ => none

def natBelow? (bound : Nat) (value : τ) : Option Nat :=
  match Format.view value with
  | .integer value => if 0 ≤ value ∧ value < bound then some value.toNat else none
  | _ => none

def uint64? (value : τ) : Option UInt64 := (natBelow? (2 ^ 64) value).map UInt64.ofNat

def uint32? (value : τ) : Option UInt32 := (natBelow? (2 ^ 32) value).map UInt32.ofNat

def nullable (decode : τ → Option α) (value : τ) : Option (Option α) :=
  match Format.view value with
  | .null => some none
  | _ => (decode value).map some

def all? (decode : τ → Option α) : List τ → Option (List α)
  | [] => some []
  | item :: rest =>
      match decode item, all? decode rest with
      | some item, some rest => some (item :: rest)
      | _, _ => none

def list? (decode : τ → Option α) (value : τ) : Option (List α) :=
  match Format.view value with
  | .sequence items => all? decode items
  | _ => none

def textMember? (member : String × τ) : Option (String × String) :=
  (text? member.2).map fun text => (member.1, text)

def textTable? (value : τ) : Option (Table String String) :=
  match Format.view value with
  | .record members => (all? textMember? members).map Table.ofList
  | _ => none

/-- One of several values by its name. The name stands alone, or as the only name of a record that
    gives it nothing. -/
def choice? (choices : List (String × α)) (value : τ) : Option α :=
  match Format.view value with
  | .text name => Entries.lookup name choices
  | .record [(name, payload)] =>
      if Format.isEmptyPayload payload then Entries.lookup name choices else none
  | _ => none

/-- What is supplied for a field: a value, nothing by its name, or nothing because the sequence that
    stands for the record ends before it. -/
inductive Supplied (τ : Type) where
  | given (value : τ)
  | absent
  | cut

namespace Supplied

def required (decode : τ → Option α) : Supplied τ → Option α
  | .given value => decode value
  | .absent | .cut => none

def optional (decode : τ → Option α) : Supplied τ → Option (Option α)
  | .given value => nullable decode value
  | .absent => some none
  | .cut => none

def withDefault (default : α) (decode : τ → Option α) : Supplied τ → Option α
  | .given value => decode value
  | .absent | .cut => some default

end Supplied

def fields? (names : List String) (value : τ) : Option (String → Supplied τ) :=
  match Format.view value with
  | .record members => some fun name =>
      match Entries.lookup name members with
      | some value => .given value
      | none => .absent
  | .sequence items =>
      -- Fields are taken in order; those after the last item are cut off.
      if items.length ≤ names.length || Format.allowsSurplus τ then
        some fun name =>
          match Entries.lookup name (names.zip items) with
          | some value => .given value
          | none => .cut
      else none
  | _ => none

def ofTextTable (table : Table String String) : Json :=
  .object (table.toList.map fun entry => (entry.1, .string entry.2))

def ofOption (encode : α → Json) : Option α → Json
  | some value => encode value
  | none => .null

def ofList (encode : α → Json) (values : List α) : Json := .array (values.map encode)

def nameOf [DecidableEq α] (choices : List (String × α)) (value : α) : String :=
  match choices.find? fun entry => entry.2 = value with
  | some (name, _) => name
  | none => ""

end Docket.Wire
