import Docket.Decimal.Layout
import Docket.Sorting
/-!
JSON values.

A number is either a whole number of at most 64 bits or a finite binary64 number, and the two are
never the same: `100` and `100.0` differ. An object lists its members; `Json.canonical` says that at
every level the names ascend, which is how objects are read, and a `Body` is a value of that kind.
-/

namespace Docket

/-- A whole number that fits in 64 bits, signed or unsigned, or a finite binary64 number. -/
inductive Number where
  | integer (value : Int) (fits : -2 ^ 63 ≤ value ∧ value < 2 ^ 64)
  | real (value : Binary64)
  deriving DecidableEq

namespace Number

/-- Reals are written positionally from 0.00001 up to below 10 ^ 16, else with a signed power. -/
def layout : NumberLayout := ⟨-5, 15, false, 1⟩

def realChars (x : Binary64) : List Char :=
  x.signed (if x.isZero then ['0', '.', '0'] else x.shortest.text layout)

def integerChars (n : Int) : List Char :=
  if n < 0 then '-' :: Nat.toDigits 10 n.natAbs else Nat.toDigits 10 n.natAbs

def chars : Number → List Char
  | .integer value _ => integerChars value
  | .real value => realChars value

def text (n : Number) : String := String.ofList n.chars

def ofInt? (n : Int) : Option Number :=
  if fits : -2 ^ 63 ≤ n ∧ n < 2 ^ 64 then some (.integer n fits) else none

end Number

inductive Json where
  | null
  | bool (value : Bool)
  | number (value : Number)
  | string (text : String)
  | array (items : List Json)
  | object (members : List (String × Json))

namespace Json

instance : Inhabited Json := ⟨.null⟩

mutual

def decideEq : (a b : Json) → Decidable (a = b)
  | .null, .null => .isTrue rfl
  | .bool a, .bool b =>
      if same : a = b then .isTrue (by rw [same]) else .isFalse (by simpa using same)
  | .number a, .number b =>
      if same : a = b then .isTrue (by rw [same]) else .isFalse (by simpa using same)
  | .string a, .string b =>
      if same : a = b then .isTrue (by rw [same]) else .isFalse (by simpa using same)
  | .array a, .array b =>
      match decideEqItems a b with
      | .isTrue same => .isTrue (by rw [same])
      | .isFalse differ => .isFalse (by simpa using differ)
  | .object a, .object b =>
      match decideEqMembers a b with
      | .isTrue same => .isTrue (by rw [same])
      | .isFalse differ => .isFalse (by simpa using differ)
  | .null, .bool _ | .null, .number _ | .null, .string _ | .null, .array _ | .null, .object _
  | .bool _, .null | .bool _, .number _ | .bool _, .string _ | .bool _, .array _
  | .bool _, .object _
  | .number _, .null | .number _, .bool _ | .number _, .string _ | .number _, .array _
  | .number _, .object _
  | .string _, .null | .string _, .bool _ | .string _, .number _ | .string _, .array _
  | .string _, .object _
  | .array _, .null | .array _, .bool _ | .array _, .number _ | .array _, .string _
  | .array _, .object _
  | .object _, .null | .object _, .bool _ | .object _, .number _ | .object _, .string _
  | .object _, .array _ => .isFalse (by simp)

def decideEqItems : (a b : List Json) → Decidable (a = b)
  | [], [] => .isTrue rfl
  | [], _ :: _ => .isFalse (by simp)
  | _ :: _, [] => .isFalse (by simp)
  | a :: as, b :: bs =>
      match decideEq a b, decideEqItems as bs with
      | .isTrue same, .isTrue sameRest => .isTrue (by rw [same, sameRest])
      | .isFalse differ, _ => .isFalse (by simp [differ])
      | _, .isFalse differ => .isFalse (by simp [differ])

def decideEqMembers : (a b : List (String × Json)) → Decidable (a = b)
  | [], [] => .isTrue rfl
  | [], _ :: _ => .isFalse (by simp)
  | _ :: _, [] => .isFalse (by simp)
  | (name, a) :: as, (name', b) :: bs =>
      if sameName : name = name' then
        match decideEq a b, decideEqMembers as bs with
        | .isTrue same, .isTrue sameRest => .isTrue (by rw [sameName, same, sameRest])
        | .isFalse differ, _ => .isFalse (by simp [differ])
        | _, .isFalse differ => .isFalse (by simp [differ])
      else .isFalse (by simp [sameName])

end

instance : DecidableEq Json := decideEq

def isObject : Json → Bool
  | .object _ => true
  | _ => false

def member? (name : String) : Json → Option Json
  | .object members => Entries.lookup name members
  | _ => none

mutual

/-- Whether every object in a value lists its names in ascending order. -/
def canonical : Json → Bool
  | .array items => canonicalItems items
  | .object members =>
      decide ((members.map Prod.fst).Pairwise fun a b => Key.before a b = true)
        && canonicalMembers members
  | _ => true

def canonicalItems : List Json → Bool
  | [] => true
  | item :: rest => canonical item && canonicalItems rest

def canonicalMembers : List (String × Json) → Bool
  | [] => true
  | (_, value) :: rest => canonical value && canonicalMembers rest

end

mutual

/-- How many arrays and objects lie around the innermost value, itself included. -/
def depth : Json → Nat
  | .array items => depthItems items + 1
  | .object members => depthMembers members + 1
  | _ => 0

def depthItems : List Json → Nat
  | [] => 0
  | item :: rest => max (depth item) (depthItems rest)

def depthMembers : List (String × Json) → Nat
  | [] => 0
  | (_, value) :: rest => max (depth value) (depthMembers rest)

end

/-- The object of a list of members, in ascending order of name; of two members with one name the
    later counts. -/
def ofMembers (members : List (String × Json)) : Json :=
  .object (members.foldl (fun sorted member => Entries.insert member.1 member.2 sorted) [])

def ofUInt64 (n : UInt64) : Json :=
  .number (.integer n.toNat (by have := n.toNat_lt; omega))

/-- The text by which a value is compared: a string as it is, a number or truth value as its JSON
    text, and none for the rest. -/
def scalarText : Json → Option String
  | .string text => some text
  | .number n => some n.text
  | .bool true => some "true"
  | .bool false => some "false"
  | .null | .array _ | .object _ => none

end Json

/-- A value whose objects list their members in ascending order of name. -/
structure Body where
  json : Json
  canonical : json.canonical = true
  deriving DecidableEq

namespace Body

def ofJson? (json : Json) : Option Body :=
  if canonical : json.canonical = true then some ⟨json, canonical⟩ else none

def emptyObject : Body := ⟨.object [], rfl⟩

instance : Inhabited Body := ⟨emptyObject⟩

def isObject (body : Body) : Bool := body.json.isObject

end Body

end Docket
