import Docket.Text.Ranges
import Docket.Text.UnprintableTable
/-!
Text in quotes as messages show it: a backslash before a quote and a backslash, short escapes for
the common controls, and every other character that would not show written by its number.
-/

namespace Docket.Text

def isPrintable (c : Char) : Bool := !inRanges unprintableRanges c.toNat

def hexDigits (n : Nat) : List Char := Nat.toDigits 16 n

def quotedChar (c : Char) : List Char :=
  match c with
  | '\x00' => ['\\', '0']
  | '\t' => ['\\', 't']
  | '\r' => ['\\', 'r']
  | '\n' => ['\\', 'n']
  | '\\' => ['\\', '\\']
  | '"' => ['\\', '"']
  | _ => if isPrintable c then [c] else ['\\', 'u', '\x7b'] ++ hexDigits c.toNat ++ ['\x7d']

def quoted (text : String) : String :=
  String.ofList ('"' :: text.toList.flatMap quotedChar ++ ['"'])

end Docket.Text
