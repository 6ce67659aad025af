import Docket.Text.CaseTable
import Docket.Text.Ranges
/-!
The full lower case form of a text. Two letters need more than the simple mapping: a capital sigma
that ends a word becomes a final sigma, and a capital I with a dot becomes two characters.
-/

namespace Docket.Text

def lowerChar (c : Char) : Char :=
  let code := c.toNat
  match lowerShifts.find? fun s =>
      s.first ≤ code && code ≤ s.last && (code - s.first) % s.step == 0 with
  | some s => Char.ofNat ((code : Int) + s.shift).toNat
  | none => c

/-- Whether the first character that case does not ignore is a cased one. -/
def startsCased (chars : List Char) : Bool :=
  match chars.dropWhile fun c => inRanges caseIgnorableRanges c.toNat with
  | [] => false
  | c :: _ => inRanges casedRanges c.toNat

/-- A capital sigma ends a word when a cased letter is before it and none after it. -/
def sigmaEndsWord (before after : List Char) : Bool :=
  startsCased before && !startsCased after

/-- Lower case of the characters that follow `before`, which is kept in reverse. -/
def lowerAfter (before : List Char) : List Char → List Char
  | [] => []
  | c :: rest =>
      let image :=
        -- What matters of the text before is the last character that case does not ignore.
        if c = 'Σ' then [if sigmaEndsWord before rest then 'ς' else 'σ']
        else if c = 'İ' then ['i', '\u0307']
        else [lowerChar c]
      image ++ lowerAfter (c :: before) rest

def lowercase (text : String) : String := String.ofList (lowerAfter [] text.toList)

end Docket.Text
