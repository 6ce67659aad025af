import Docket.Json.Reader
/-!
Quoted text in TOML, read and written.

There are four kinds: between quotes, with escapes; between apostrophes, as it stands; and each of
them between three marks, over several lines. A line break right after three opening marks is not
part of the text, and every line break is read as a line feed. `write` picks the first kind, in a
fixed order, that shows the text without escapes.
-/

namespace Docket.Toml.Quoted

open Json (consChar)

def isSpace (c : Char) : Bool := c = ' ' || c = '\t'

/-- The characters that stand for themselves in quoted text, marks and backslashes apart. -/
def isPlain (c : Char) : Bool := c = '\t' || (' ' ≤ c && c ≠ '\x7f')

def afterBreak? : List Char → Option (List Char)
  | '\n' :: rest => some rest
  | '\r' :: '\n' :: rest => some rest
  | _ => none

def shortEscape? (c : Char) : Option Char :=
  match c with
  | '"' => some '"'
  | '\\' => some '\\'
  | 'b' => some '\x08'
  | 'f' => some '\x0c'
  | 'n' => some '\n'
  | 'r' => some '\r'
  | 't' => some '\t'
  | _ => none

def scalar? (code : Nat) : Option Char :=
  if code < 0xd800 ∨ (0xdfff < code ∧ code < 0x110000) then some (Char.ofNat code) else none

def shortCode? (a b c d : Char) : Option Char := (Json.hexQuad? a b c d).bind scalar?

def longCode? (a b c d e f g h : Char) : Option Char := do
  let high ← Json.hexQuad? a b c d
  let low ← Json.hexQuad? e f g h
  scalar? (high * 0x10000 + low)

def readBasic : List Char → Option (List Char × List Char)
  | [] => none
  | '"' :: rest => some ([], rest)
  | '\\' :: 'U' :: a :: b :: c :: d :: e :: f :: g :: h :: rest =>
      match longCode? a b c d e f g h with
      | some char => consChar char (readBasic rest)
      | none => none
  | '\\' :: 'u' :: a :: b :: c :: d :: rest =>
      match shortCode? a b c d with
      | some char => consChar char (readBasic rest)
      | none => none
  | '\\' :: c :: rest =>
      match shortEscape? c with
      | some char => consChar char (readBasic rest)
      | none => none
  | c :: rest => if isPlain c && c ≠ '\\' then consChar c (readBasic rest) else none

def endsLine (chars : List Char) : Bool := (afterBreak? (chars.dropWhile isSpace)).isSome

/-- A text after its three opening quotes. A backslash at the end of a line hides the line break and
    the blanks and breaks after it: `joining` says that those are being left out. Of more than three
    quotes at the end the last three close the text, and up to two belong to it. -/
def readLongBasic (joining : Bool) : List Char → Option (List Char × List Char)
  | [] => none
  | '"' :: '"' :: '"' :: '"' :: '"' :: rest => some (['"', '"'], rest)
  | '"' :: '"' :: '"' :: '"' :: rest => some (['"'], rest)
  | '"' :: '"' :: '"' :: rest => some ([], rest)
  | '\r' :: '\n' :: rest =>
      if joining then readLongBasic true rest else consChar '\n' (readLongBasic false rest)
  | '\n' :: rest =>
      if joining then readLongBasic true rest else consChar '\n' (readLongBasic false rest)
  | '\\' :: 'U' :: a :: b :: c :: d :: e :: f :: g :: h :: rest =>
      match longCode? a b c d e f g h with
      | some char => consChar char (readLongBasic false rest)
      | none => none
  | '\\' :: 'u' :: a :: b :: c :: d :: rest =>
      match shortCode? a b c d with
      | some char => consChar char (readLongBasic false rest)
      | none => none
  | '\\' :: c :: rest =>
      match shortEscape? c with
      | some char => consChar char (readLongBasic false rest)
      | none => if endsLine (c :: rest) then readLongBasic true (c :: rest) else none
  | c :: rest =>
      if joining && isSpace c then readLongBasic true rest
      else if isPlain c && c ≠ '\\' then consChar c (readLongBasic false rest)
      else none

def readLiteral : List Char → Option (List Char × List Char)
  | [] => none
  | '\'' :: rest => some ([], rest)
  | c :: rest => if isPlain c then consChar c (readLiteral rest) else none

def readLongLiteral : List Char → Option (List Char × List Char)
  | [] => none
  | '\'' :: '\'' :: '\'' :: '\'' :: '\'' :: rest => some (['\'', '\''], rest)
  | '\'' :: '\'' :: '\'' :: '\'' :: rest => some (['\''], rest)
  | '\'' :: '\'' :: '\'' :: rest => some ([], rest)
  | '\r' :: '\n' :: rest => consChar '\n' (readLongLiteral rest)
  | c :: rest => if isPlain c || c = '\n' then consChar c (readLongLiteral rest) else none

def dropBreak (chars : List Char) : List Char := (afterBreak? chars).getD chars

def read : List Char → Option (List Char × List Char)
  | '"' :: '"' :: '"' :: rest => readLongBasic false (dropBreak rest)
  | '"' :: rest => readBasic rest
  | '\'' :: '\'' :: '\'' :: rest => readLongLiteral (dropBreak rest)
  | '\'' :: rest => readLiteral rest
  | _ => none

/-- The controls that no kind of quoted text shows as they are. -/
def isControl (c : Char) : Bool := (c.toNat < 32 && c ≠ '\t' && c ≠ '\n') || c = '\x7f'

/-- The length of the longest run of a mark that starts after `run` of them. -/
def longestRunFrom (mark : Char) (run : Nat) : List Char → Nat
  | [] => run
  | c :: rest =>
      if c = mark then longestRunFrom mark (run + 1) rest
      else max run (longestRunFrom mark 0 rest)

def longestRun (mark : Char) (chars : List Char) : Nat := longestRunFrom mark 0 chars

def upperDigit (n : Nat) : Char := (Nat.digitChar (n % 16)).toUpper

/-- How a character other than a quote is written between quotes. -/
def escapeChar (c : Char) : List Char :=
  match c with
  | '\x08' => ['\\', 'b']
  | '\t' => ['\\', 't']
  | '\n' => ['\\', 'n']
  | '\x0c' => ['\\', 'f']
  | '\r' => ['\\', 'r']
  | '\\' => ['\\', '\\']
  | c =>
      if isControl c then ['\\', 'u', '0', '0', upperDigit (c.toNat / 16), upperDigit c.toNat]
      else [c]

def basicChars (chars : List Char) : List Char :=
  chars.flatMap fun c => if c = '"' then ['\\', '"'] else escapeChar c

/-- The characters of a text between three quotes, where `run` quotes stand before. Line feeds stay,
    and of three quotes in a row the third is escaped. -/
def longBasicChars (run : Nat) : List Char → List Char
  | [] => []
  | '"' :: rest =>
      if run = 2 then '\\' :: '"' :: longBasicChars 0 rest else '"' :: longBasicChars (run + 1) rest
  | '\n' :: rest => '\n' :: longBasicChars 0 rest
  | c :: rest => escapeChar c ++ longBasicChars 0 rest

/-- Three marks around a text; one that holds line feeds starts on a line of its own. -/
def between (mark : Char) (breaks : Bool) (chars : List Char) : List Char :=
  let marks := [mark, mark, mark]
  marks ++ (if breaks then ['\n'] else []) ++ chars ++ marks

def chars (text : List Char) : List Char :=
  let controls := text.any isControl
  let breaks := text.contains '\n'
  let escapes := controls || text.contains '\\'
  let basic := '"' :: basicChars text ++ ['"']
  let longBasic := between '"' breaks (longBasicChars 0 text)
  if !escapes && longestRun '"' text = 0 && !breaks then basic
  else if !controls && longestRun '\'' text = 0 && !breaks then '\'' :: text ++ ['\'']
  else if !escapes && longestRun '"' text ≤ 2 then longBasic
  else if !controls && longestRun '\'' text ≤ 2 then between '\'' breaks text
  else if breaks then longBasic
  else basic

def write (text : String) : String := String.ofList (chars text.toList)

end Docket.Toml.Quoted
