import Docket.DocumentId
import Docket.Proofs.Text.Order
import Mathlib.Tactic.Ring
/-!
The text of an id is read back as the id, and texts are in the order of their ids.

An id has 56 digits of base 16 and is below 16 ^ 56, so its digits lose nothing of it. A greater
digit is a greater character, and all texts are as long, so the first digit that differs decides
the order of two ids as it does that of their texts (`before_iff_text_lt`).
-/

namespace Docket.DocumentId

theorem length_hexDigits (count n : Nat) : (hexDigits count n).length = count := by
  induction count generalizing n with
  | zero => rfl
  | succ count ih => simp [hexDigits, ih]

theorem length_chars (id : DocumentId) : id.chars.length = length :=
  length_hexDigits length id.digest

theorem hexValue?_digitChar {digit : Nat} (small : digit < 16) :
    hexValue? (Nat.digitChar digit) = some digit := by
  have all : ∀ digit : Fin 16, hexValue? (Nat.digitChar digit) = some digit.val := by decide
  exact all ⟨digit, small⟩

theorem hexNumber?_append (before : Nat) (chars rest : List Char) :
    hexNumber? before (chars ++ rest) = (hexNumber? before chars).bind (hexNumber? · rest) := by
  induction chars generalizing before with
  | nil => rfl
  | cons c chars ih =>
      simp only [List.cons_append, hexNumber?]
      cases hexValue? c with
      | none => rfl
      | some digit => exact ih _

/-- The last digits of a number are those of a sixteenth of it and one more. -/
theorem mod_place (count n : Nat) :
    n % 16 ^ (count + 1) = n / 16 % 16 ^ count * 16 + n % 16 := by
  rw [pow_succ', Nat.mod_mul]
  ring

/-- The digits written are read as the number, behind the digits that were before them. -/
theorem hexNumber?_hexDigits (before count n : Nat) :
    hexNumber? before (hexDigits count n) = some (before * 16 ^ count + n % 16 ^ count) := by
  induction count generalizing n with
  | zero => simp [hexDigits, hexNumber?, Nat.mod_one]
  | succ count ih =>
      have last : n % 16 < 16 := Nat.mod_lt _ (by decide)
      simp only [hexDigits, hexNumber?_append, ih, Option.bind_some, hexNumber?,
        hexValue?_digitChar last, mod_place]
      congr 1
      ring

theorem digest_mod (id : DocumentId) : id.digest % 16 ^ length = id.digest :=
  Nat.mod_eq_of_lt (Nat.lt_of_lt_of_eq id.digest_lt (by decide))

theorem ofChars?_chars (id : DocumentId) : ofChars? id.chars = some id := by
  have number : hexNumber? 0 id.chars = some id.digest := by
    rw [chars, hexNumber?_hexDigits, digest_mod, Nat.zero_mul, Nat.zero_add]
  rw [ofChars?, if_pos id.length_chars, number]
  exact dif_pos id.digest_lt

theorem parse_text (id : DocumentId) : parse id.text = .ok id := by
  simp [parse, text, String.toList_ofList, ofChars?_chars]

theorem chars_injective {id other : DocumentId} (same : id.chars = other.chars) : id = other := by
  have read := congrArg ofChars? same
  simpa [ofChars?_chars] using read

theorem text_injective {id other : DocumentId} (same : id.text = other.text) : id = other := by
  have read := congrArg parse same
  simpa [parse_text] using read

theorem mem_hexDigits {c : Char} {count n : Nat} (member : c ∈ hexDigits count n) :
    ∃ digit, digit < 16 ∧ c = Nat.digitChar digit := by
  induction count generalizing n with
  | zero => simp [hexDigits] at member
  | succ count ih =>
      rcases List.mem_append.mp member with before | last
      · exact ih before
      · exact ⟨n % 16, Nat.mod_lt _ (by decide), List.mem_singleton.mp last⟩

theorem hexDigits_mod (count n : Nat) : hexDigits count (n % 16 ^ count) = hexDigits count n := by
  induction count generalizing n with
  | zero => rfl
  | succ count ih =>
      have front : n % 16 ^ (count + 1) / 16 = n / 16 % 16 ^ count := by
        rw [mod_place]
        omega
      have last : n % 16 ^ (count + 1) % 16 = n % 16 := by
        rw [mod_place]
        omega
      rw [hexDigits, hexDigits, front, last, ih]

theorem digitChar_lt {digit later : Nat} (less : digit < later) (small : later < 16) :
    Nat.digitChar digit < Nat.digitChar later := by
  have all : ∀ later : Fin 16, ∀ digit : Fin later, Nat.digitChar digit < Nat.digitChar later := by
    decide
  exact all ⟨later, small⟩ ⟨digit, less⟩

theorem hexDigits_lt {count n m : Nat} (less : n % 16 ^ count < m % 16 ^ count) :
    hexDigits count n < hexDigits count m := by
  induction count generalizing n m with
  | zero => simp [Nat.mod_one] at less
  | succ count ih =>
      rw [mod_place, mod_place] at less
      rw [hexDigits, hexDigits, append_lt_append_iff (by simp [length_hexDigits])]
      rcases Nat.lt_trichotomy (n / 16 % 16 ^ count) (m / 16 % 16 ^ count) with front | same | back
      · exact .inl (ih front)
      · have last : Nat.digitChar (n % 16) < Nat.digitChar (m % 16) :=
          digitChar_lt (by omega) (Nat.mod_lt _ (by decide))
        refine .inr ⟨?_, List.cons_lt_cons_iff.mpr (.inl last)⟩
        rw [← hexDigits_mod, same, hexDigits_mod]
      · omega

theorem text_lt_of_before {id other : DocumentId} (less : Key.before id other = true) :
    id.text < other.text := by
  rw [String.lt_iff, text, text, String.toList_ofList, String.toList_ofList]
  apply hexDigits_lt
  rw [digest_mod, digest_mod]
  exact of_decide_eq_true less

theorem before_iff_text_lt {id other : DocumentId} :
    Key.before id other = true ↔ id.text < other.text := by
  constructor
  · exact text_lt_of_before
  · intro less
    cases order : Key.before id other with
    | true => rfl
    | false =>
        by_cases same : id = other
        · subst same
          exact absurd less (String.lt_irrefl _)
        · have back := text_lt_of_before (Key.before_of_ne same order)
          exact absurd (String.lt_trans less back) (String.lt_irrefl _)

end Docket.DocumentId
