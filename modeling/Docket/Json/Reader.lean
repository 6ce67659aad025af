import Docket.Decimal.Scaled
import Docket.Json.NumberText
/-!
Reading JSON text.

A reader of a value takes the characters left and answers the value and the characters after it. It
may open `room` more levels of arrays and objects; the bracket that would open one level too many
ends the reading there. An object keeps the last of two members with one name.
-/

namespace Docket.Json

open Text (isDigit digitValue)

inductive ReadError where
  /-- Too many levels; the column, counted in octets from one, of the bracket that opens the first
      level too many. -/
  | tooDeep (column : Nat)
  | malformed
  deriving DecidableEq

/-- What a reader decides about texts that are well formed. -/
structure Reader where
  levels : Nat
  /-- The real that the text of a number stands for; a number without one is not read. -/
  real : WrittenDecimal → Option Binary64

/-- Where a reader gave up: at a bracket one level too deep, with the characters from there on, or
    at a character that no text of a value has there. -/
inductive ReadFault where
  | tooDeep (rest : List Char)
  | malformed

/-- What a reader of `α` answers: the value and the characters after it. -/
abbrev Read (α : Type) := Except ReadFault (α × List Char)

def isBlank (c : Char) : Bool := c = ' ' || c = '\n' || c = '\t' || c = '\r'

def skipBlank (chars : List Char) : List Char := chars.dropWhile isBlank

def hexValue? (c : Char) : Option Nat :=
  if isDigit c then some (digitValue c)
  else if 'a' ≤ c && c ≤ 'f' then some (c.toNat - 'a'.toNat + 10)
  else if 'A' ≤ c && c ≤ 'F' then some (c.toNat - 'A'.toNat + 10)
  else none

def hexQuad? (a b c d : Char) : Option Nat := do
  let a ← hexValue? a
  let b ← hexValue? b
  let c ← hexValue? c
  let d ← hexValue? d
  return ((a * 16 + b) * 16 + c) * 16 + d

def shortEscape? (c : Char) : Option Char :=
  match c with
  | '"' => some '"'
  | '\\' => some '\\'
  | '/' => some '/'
  | 'b' => some '\x08'
  | 'f' => some '\x0c'
  | 'n' => some '\n'
  | 'r' => some '\r'
  | 't' => some '\t'
  | _ => none

def surrogatePair? (high low : Nat) : Option Char :=
  if 0xd800 ≤ high ∧ high < 0xdc00 ∧ 0xdc00 ≤ low ∧ low < 0xe000 then
    some (Char.ofNat (0x10000 + (high - 0xd800) * 0x400 + (low - 0xdc00)))
  else none

def plainChar? (code : Nat) : Option Char :=
  if 0xd800 ≤ code ∧ code < 0xe000 then none else some (Char.ofNat code)

def consChar (c : Char) (read : Option (List Char × List Char)) : Option (List Char × List Char) :=
  read.map fun (text, rest) => (c :: text, rest)

/-- A string after its opening quote: its characters, and what follows the closing quote. -/
def readText : List Char → Option (List Char × List Char)
  | [] => none
  | '"' :: rest => some ([], rest)
  -- Two escapes in a row may be one character in two halves.
  | '\\' :: 'u' :: a :: b :: c :: d :: '\\' :: 'u' :: e :: f :: g :: h :: rest =>
      match hexQuad? a b c d with
      | none => none
      | some code =>
          match plainChar? code with
          | some plain => consChar plain (readText ('\\' :: 'u' :: e :: f :: g :: h :: rest))
          | none =>
              match hexQuad? e f g h with
              | none => none
              | some low =>
                  match surrogatePair? code low with
                  | some pair => consChar pair (readText rest)
                  | none => none
  | '\\' :: 'u' :: a :: b :: c :: d :: rest =>
      match (hexQuad? a b c d).bind plainChar? with
      | some plain => consChar plain (readText rest)
      | none => none
  | '\\' :: c :: rest =>
      match shortEscape? c with
      | some short => consChar short (readText rest)
      | none => none
  | c :: rest => if c.toNat < 32 || c = '\\' then none else consChar c (readText rest)

def readName (chars : List Char) : Read String :=
  match skipBlank chars with
  | '"' :: rest =>
      match readText rest with
      | none => .error .malformed
      | some (name, rest) =>
          match skipBlank rest with
          | ':' :: rest => .ok (String.ofList name, rest)
          | _ => .error .malformed
  | _ => .error .malformed

mutual

/-- A value. `fuel` bounds the calls and is never short when it is twice the characters left. -/
def readValue (reader : Reader) (fuel room : Nat) (chars : List Char) : Read Json :=
  match fuel with
  | 0 => .error .malformed
  | fuel + 1 =>
      match skipBlank chars with
      | 'n' :: 'u' :: 'l' :: 'l' :: rest => .ok (.null, rest)
      | 't' :: 'r' :: 'u' :: 'e' :: rest => .ok (.bool true, rest)
      | 'f' :: 'a' :: 'l' :: 's' :: 'e' :: rest => .ok (.bool false, rest)
      | '"' :: rest =>
          match readText rest with
          | some (text, rest) => .ok (.string (String.ofList text), rest)
          | none => .error .malformed
      | '[' :: rest =>
          match room with
          | 0 => .error (.tooDeep ('[' :: rest))
          | room + 1 =>
              match skipBlank rest with
              | ']' :: rest => .ok (.array [], rest)
              | items =>
                  match readItems reader fuel room items with
                  | .ok (items, rest) => .ok (.array items, rest)
                  | .error fault => .error fault
      | '\x7b' :: rest =>
          match room with
          | 0 => .error (.tooDeep ('\x7b' :: rest))
          | room + 1 =>
              match skipBlank rest with
              | '\x7d' :: rest => .ok (.object [], rest)
              | members =>
                  match readMembers reader fuel room [] members with
                  | .ok (members, rest) => .ok (.object members, rest)
                  | .error fault => .error fault
      | chars =>
          match WrittenDecimal.read chars with
          | some (written, rest) =>
              match Number.ofWritten? reader.real written with
              | some value => .ok (.number value, rest)
              | none => .error .malformed
          | none => .error .malformed

def readItems (reader : Reader) (fuel room : Nat) (chars : List Char) : Read (List Json) :=
  match fuel with
  | 0 => .error .malformed
  | fuel + 1 =>
      match readValue reader fuel room chars with
      | .error fault => .error fault
      | .ok (item, rest) =>
          match skipBlank rest with
          | ']' :: rest => .ok ([item], rest)
          | ',' :: rest =>
              match readItems reader fuel room rest with
              | .ok (items, rest) => .ok (item :: items, rest)
              | .error fault => .error fault
          | _ => .error .malformed

/-- The members of an object up to its closing brace, put among those read before. -/
def readMembers (reader : Reader) (fuel room : Nat) (before : List (String × Json))
    (chars : List Char) : Read (List (String × Json)) :=
  match fuel with
  | 0 => .error .malformed
  | fuel + 1 =>
      match readName chars with
      | .error fault => .error fault
      | .ok (name, rest) =>
          match readValue reader fuel room rest with
          | .error fault => .error fault
          | .ok (value, rest) =>
              let members := Entries.insert name value before
              match skipBlank rest with
              | '\x7d' :: rest => .ok (members, rest)
              | ',' :: rest => readMembers reader fuel room members rest
              | _ => .error .malformed

end

def octetCount (chars : List Char) : Nat := chars.foldl (fun count c => count + c.utf8Size) 0

/-- Reads a text that holds one value and blanks around it. -/
def Reader.read (reader : Reader) (text : String) : Except ReadError Json :=
  let chars := text.toList
  match readValue reader (2 * chars.length + 2) reader.levels chars with
  | .error .malformed => .error .malformed
  | .error (.tooDeep rest) => .error (.tooDeep (octetCount chars - octetCount rest + 1))
  | .ok (json, rest) => if (skipBlank rest).isEmpty then .ok json else .error .malformed

/-- The reader of stored texts. -/
def storedReader : Reader := ⟨127, WrittenDecimal.scaled?⟩

def readStored (text : String) : Except ReadError Json := storedReader.read text

/-- Reads a text however deep it nests. -/
def read? (text : String) : Option Json :=
  (Reader.read { storedReader with levels := text.length } text).toOption

namespace ReadError

def message : ReadError → String
  | .tooDeep column => s!"recursion limit exceeded at line 1 column {column}"
  | .malformed => "malformed text"

end ReadError

end Docket.Json
