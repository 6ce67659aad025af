import Docket.Derivation
import Mathlib.Data.Char
import Mathlib.Tactic.SplitIfs
/-!
The order of texts is the order of their octets.

The octets of a character stand below those of any greater character, whatever follows the two
(`utf8EncodeChar_append_lt`), so a table whose keys are texts lists them as a store does that
compares the octets of its keys (`before_iff_textOctets_lt`).
-/

namespace Docket

open Docket.Derivation

theorem append_lt_append_iff {α : Type} [LT α] {left right : List α}
    (same : left.length = right.length) (x y : List α) :
    left ++ x < right ++ y ↔ left < right ∨ (left = right ∧ x < y) := by
  induction left generalizing right with
  | nil =>
      cases right with
      | nil => simp
      | cons c right => simp at same
  | cons c left ih =>
      cases right with
      | nil => simp at same
      | cons d right =>
          have shorter : left.length = right.length := by simpa using same
          simp only [List.cons_append, List.cons_lt_cons_iff, ih shorter, List.cons.injEq]
          rw [and_or_left, ← or_assoc, and_assoc]

theorem ofNat_cons_lt_iff {n m : Nat} (small : n < 256) (small' : m < 256) (x y : List UInt8) :
    UInt8.ofNat n :: x < UInt8.ofNat m :: y ↔ n < m ∨ (n = m ∧ x < y) := by
  rw [List.cons_lt_cons_iff, UInt8.lt_iff_toNat_lt, ← UInt8.toNat_inj,
    UInt8.toNat_ofNat_of_lt' small, UInt8.toNat_ofNat_of_lt' small']

theorem utf8EncodeChar_append_lt {c d : Char} (less : c < d) (x y : List UInt8) :
    String.utf8EncodeChar c ++ x < String.utf8EncodeChar d ++ y := by
  have values : c.val.toNat < d.val.toNat := less
  have bound : d.val.toNat < 0x110000 := by
    have valid := d.valid
    simp only [UInt32.isValidChar, Nat.isValidChar] at valid
    omega
  have places (v : Nat) : v / 4096 = v / 64 / 64 ∧ v / 262144 = v / 64 / 64 / 64 := by omega
  simp only [String.utf8EncodeChar, (places _).1, (places _).2]
  -- With more octets the first one is greater; with as many they are places to the base 64.
  split_ifs <;> simp (disch := omega) only [List.cons_append, List.nil_append,
    ofNat_cons_lt_iff] <;> omega

theorem flatMap_utf8EncodeChar_lt_iff {left right : List Char} :
    left.flatMap String.utf8EncodeChar < right.flatMap String.utf8EncodeChar ↔ left < right := by
  induction left generalizing right with
  | nil =>
      cases right with
      | nil => simp
      | cons d right =>
          have written : String.utf8EncodeChar d ≠ [] := String.utf8EncodeChar_ne_nil
          obtain ⟨octet, rest, written⟩ := List.exists_cons_of_ne_nil written
          simp only [List.flatMap_nil, List.flatMap_cons, written, List.cons_append,
            List.nil_lt_cons]
  | cons c left ih =>
      cases right with
      | nil => simp
      | cons d right =>
          rw [List.flatMap_cons, List.flatMap_cons, List.cons_lt_cons_iff]
          rcases lt_trichotomy c d with less | rfl | more
          · simp [less, utf8EncodeChar_append_lt less]
          · rw [append_lt_append_iff rfl, ih]
            simp [List.lt_irrefl]
          · have late := List.lt_asymm (utf8EncodeChar_append_lt more
              (right.flatMap String.utf8EncodeChar) (left.flatMap String.utf8EncodeChar))
            simp [late, lt_asymm more, ne_of_gt more]

theorem textOctets_eq (text : String) :
    textOctets text = text.toList.flatMap String.utf8EncodeChar := by
  rw [textOctets, String.toUTF8_eq_toByteArray, ← String.utf8Encode_toList, List.utf8Encode,
    List.data_toByteArray, List.toList_toArray]

theorem textOctets_lt_iff {text other : String} :
    textOctets text < textOctets other ↔ text < other := by
  rw [textOctets_eq, textOctets_eq, flatMap_utf8EncodeChar_lt_iff, String.lt_iff]

theorem before_iff_textOctets_lt {text other : String} :
    Key.before text other = true ↔ textOctets text < textOctets other := by
  rw [textOctets_lt_iff]
  exact decide_eq_true_iff

end Docket
