import Docket.Toml.Draft
import Docket.Toml.Quoted
import Docket.Toml.Scalar
/-!
Reading documents of TOML.

A reader takes the characters left and answers what it read and the characters after it, or nothing
where no document has these characters.
-/

namespace Docket.Toml

open Quoted (isSpace isPlain afterBreak?)

abbrev Read (α : Type) := Option (α × List Char)

def skipSpace (chars : List Char) : List Char := chars.dropWhile isSpace

/-- The characters after the comment that they may start with. A comment may hold what stands for
    itself in quoted text. -/
def skipComment : List Char → List Char
  | '#' :: rest => rest.dropWhile isPlain
  | chars => chars

def endLine? (chars : List Char) : Option (List Char) :=
  match skipComment (skipSpace chars) with
  | [] => some []
  | rest => afterBreak? rest

/-- The most levels of arrays and inline tables, and the most names in a key, less one each. -/
def levels : Nat := 79

/-! ### Keys -/

def isBareChar (c : Char) : Bool := c.isAlphanum || c = '_' || c = '-'

def readName (chars : List Char) : Read String :=
  let quoted := match chars with
    | '"' :: rest => Quoted.readBasic rest
    | '\'' :: rest => Quoted.readLiteral rest
    | _ =>
        match chars.takeWhile isBareChar with
        | [] => none
        | name => some (name, chars.dropWhile isBareChar)
  quoted.map fun (name, rest) => (String.ofList name, rest)

def readNames (fuel : Nat) (chars : List Char) : Read (String × List String) :=
  match fuel with
  | 0 => none
  | fuel + 1 =>
      match readName (skipSpace chars) with
      | none => none
      | some (name, rest) =>
          match skipSpace rest with
          | '.' :: rest =>
              (readNames fuel rest).map fun ((next, others), rest) => ((name, next :: others), rest)
          | rest => some ((name, []), rest)

def readKey (chars : List Char) : Read (List String × String) :=
  (readNames levels chars).map fun ((name, others), rest) =>
    (((name :: others).dropLast, (name :: others).getLast (by simp)), rest)

/-! ### Values -/

def skipLines (fuel : Nat) (chars : List Char) : List Char :=
  match fuel with
  | 0 => chars
  | fuel + 1 =>
      match skipSpace chars with
      | '#' :: rest =>
          match afterBreak? (rest.dropWhile isPlain) with
          | some rest => skipLines fuel rest
          | none => '#' :: rest
      | rest =>
          match afterBreak? rest with
          | some rest => skipLines fuel rest
          | none => rest

def readWord (chars : List Char) : Read Toml :=
  let (word, rest) := splitWord chars
  let value : Option Toml := match word with
    | ['t', 'r', 'u', 'e'] => some (.bool true)
    | ['f', 'a', 'l', 's', 'e'] => some (.bool false)
    | word => scalar? word
  value.map fun value => (value, rest)

mutual

/-- A value. `fuel` bounds the calls and is never short when it is twice the characters left; `room`
    is how many more levels may be opened. -/
def readValue (fuel room : Nat) (chars : List Char) : Read Toml :=
  match fuel with
  | 0 => none
  | fuel + 1 =>
      match chars with
      | '[' :: rest =>
          match room with
          | 0 => none
          | room + 1 =>
              (readItems fuel room (skipLines rest.length rest)).map fun (items, rest) =>
                (.array items, rest)
      | '\x7b' :: rest =>
          match room with
          | 0 => none
          | room + 1 =>
              match skipSpace rest with
              | '\x7d' :: rest => some (.table [], rest)
              | rest =>
                  (readEntries fuel room Growing.empty rest).map fun (entries, rest) =>
                    (.table (membersToToml entries.members), rest)
      | '"' :: _ | '\'' :: _ =>
          (Quoted.read chars).map fun (quoted, rest) => (.text (String.ofList quoted), rest)
      | _ => readWord chars

def readItems (fuel room : Nat) (chars : List Char) : Read (List Toml) :=
  match fuel with
  | 0 => none
  | fuel + 1 =>
      match chars with
      | ']' :: rest => some ([], rest)
      | _ =>
          match readValue fuel room chars with
          | none => none
          | some (item, rest) =>
              match skipLines rest.length rest with
              | ',' :: rest =>
                  (readItems fuel room (skipLines rest.length rest)).map fun (items, rest) =>
                    (item :: items, rest)
              | ']' :: rest => some ([item], rest)
              | _ => none

def readEntries (fuel room : Nat) (before : Growing) (chars : List Char) : Read Growing :=
  match fuel with
  | 0 => none
  | fuel + 1 =>
      match readKey chars with
      | some ((way, name), '=' :: rest) =>
          match readValue fuel room (skipSpace rest) with
          | none => none
          | some (value, rest) =>
              match before.put way name value, skipSpace rest with
              | some entries, ',' :: rest => readEntries fuel room entries rest
              | some entries, '\x7d' :: rest => some (entries, rest)
              | _, _ => none
      | _ => none

end

/-! ### Lines -/

def endWith (draft : Option Draft) (rest : List Char) : Read Draft :=
  match draft, endLine? rest with
  | some draft, some rest => some (draft, rest)
  | _, _ => none

def readHeader (draft : Draft) (chars : List Char) : Read Draft :=
  match chars with
  | '[' :: rest =>
      match readKey rest with
      | some ((way, name), ']' :: ']' :: rest) => endWith (draft.nextHeader way name) rest
      | _ => none
  | _ =>
      match readKey chars with
      | some ((way, name), ']' :: rest) => endWith (draft.header way name) rest
      | _ => none

def readEntry (draft : Draft) (chars : List Char) : Read Draft :=
  match readKey chars with
  | some ((way, name), '=' :: rest) =>
      let start := skipSpace rest
      match readValue (2 * start.length + 1) levels start with
      | some (value, rest) => endWith (draft.put way name value) rest
      | none => none
  | _ => none

def readLines (fuel : Nat) (draft : Draft) (chars : List Char) : Option Draft :=
  match fuel with
  | 0 => none
  -- A comment that ends the text has no line break after it.
  | fuel + 1 =>
      match skipLines chars.length chars with
      | [] => some draft
      | '#' :: rest => if rest.all isPlain then some draft else none
      | '[' :: rest =>
          match readHeader draft rest with
          | some (draft, rest) => readLines fuel draft rest
          | none => none
      | rest =>
          match readEntry draft rest with
          | some (draft, rest) => readLines fuel draft rest
          | none => none

def byteOrderMark : Char := '\ufeff'

def read? (text : String) : Option Toml :=
  let chars := match text.toList with
    | c :: rest => if c = byteOrderMark then rest else c :: rest
    | [] => []
  (readLines (chars.length + 1) Draft.empty chars).map Draft.toToml

end Docket.Toml
