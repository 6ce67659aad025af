import Docket.Json.NumberText
import Docket.Proofs.Decimal.Written
import Mathlib.Data.Nat.Digits.Lemmas
/-!
The text of a number is taken apart into the parts it was written from.

Whatever number is written, its text has the parts that a reader asks for, and the reader stops
where they end if nothing that could belong to a number follows (`Number.exists_written`). Whole
numbers are read back as they were (`Number.reread?_integer`). The parts of a real have the value of
its shortest decimal, so the number nearest to the text is that real
(`Number.exists_realChars_eq`); which real a reader takes it for is left to the reader
(`Number.reread?_real`).
-/

namespace Docket

open Text (isDigit digitValue digitsValue)

structure Digits (chars : List Char) : Prop where
  nonempty : chars ≠ []
  digit : ∀ c ∈ chars, isDigit c = true

def EndsDigits (rest : List Char) : Prop := ∀ c ∈ rest.head?, isDigit c = false

def Delimited (rest : List Char) : Prop :=
  ∀ c ∈ rest.head?, isDigit c = false ∧ c ≠ '.' ∧ c ≠ 'e' ∧ c ≠ 'E'

theorem Delimited.nil : Delimited [] := by simp [Delimited]

theorem Delimited.endsDigits {rest : List Char} (delimited : Delimited rest) : EndsDigits rest :=
  fun c first => (delimited c first).1

theorem endsDigits_cons {c : Char} {rest : List Char} (other : isDigit c = false) :
    EndsDigits (c :: rest) := by
  simpa [EndsDigits] using other

theorem EndsDigits.takeWhile_eq {rest : List Char} (ends : EndsDigits rest) :
    rest.takeWhile isDigit = [] := by
  cases rest with
  | nil => rfl
  | cons c tail => simp [ends c rfl]

theorem EndsDigits.dropWhile_eq {rest : List Char} (ends : EndsDigits rest) :
    rest.dropWhile isDigit = rest := by
  cases rest with
  | nil => rfl
  | cons c tail => simp [ends c rfl]

namespace Digits

variable {chars rest : List Char}

theorem takeWhile_append (digits : Digits chars) (ends : EndsDigits rest) :
    (chars ++ rest).takeWhile isDigit = chars := by
  rw [List.takeWhile_append_of_pos digits.digit, ends.takeWhile_eq, List.append_nil]

theorem dropWhile_append (digits : Digits chars) (ends : EndsDigits rest) :
    (chars ++ rest).dropWhile isDigit = rest := by
  rw [List.dropWhile_append_of_pos digits.digit, ends.dropWhile_eq]

theorem toDigits (n : Nat) : Digits (Nat.toDigits 10 n) where
  nonempty := Nat.toDigits_ne_nil
  digit _ member := Nat.isDigit_of_mem_toDigits (by decide) (by decide) member

theorem append_zeros (digits : Digits chars) (count : Nat) :
    Digits (chars ++ List.replicate count '0') where
  nonempty := by simp [digits.nonempty]
  digit c member := by
    rcases List.mem_append.mp member with own | zero
    · exact digits.digit c own
    · rw [List.eq_of_mem_replicate zero]
      decide

theorem zeros_append (digits : Digits chars) (count : Nat) :
    Digits (List.replicate count '0' ++ chars) where
  nonempty := by simp [digits.nonempty]
  digit c member := by
    rcases List.mem_append.mp member with zero | own
    · rw [List.eq_of_mem_replicate zero]
      decide
    · exact digits.digit c own

theorem take (digits : Digits chars) (count : Nat) (some : 0 < count) :
    Digits (chars.take count) where
  nonempty := by simp [digits.nonempty, Nat.ne_of_gt some]
  digit c member := digits.digit c (List.mem_of_mem_take member)

theorem drop (digits : Digits chars) (count : Nat) (short : count < chars.length) :
    Digits (chars.drop count) where
  nonempty := by simpa using short
  digit c member := digits.digit c (List.mem_of_mem_drop member)

theorem zero : Digits ['0'] where
  nonempty := by simp
  digit c member := by
    obtain rfl := List.mem_singleton.mp member
    rfl

end Digits

theorem digitsValue_toDigits (n : Nat) : digitsValue (Nat.toDigits 10 n) = n :=
  Nat.ofDigitChars_ten_toDigits

theorem head?_toDigits {n : Nat} (positive : n ≠ 0) : (Nat.toDigits 10 n).head? ≠ some '0' := by
  induction n using Nat.strong_induction_on with
  | _ n ih =>
      rw [Nat.toDigits_eq_if (by decide)]
      split
      · next small =>
          have others : ∀ digit : Fin 10, digit.val ≠ 0 → Nat.digitChar digit.val ≠ '0' := by decide
          simpa using others ⟨n, small⟩ positive
      · next large =>
          have shorter : n / 10 ≠ 0 := by omega
          rw [List.head?_append_of_ne_nil _ Nat.toDigits_ne_nil]
          exact ih (n / 10) (by omega) shorter

/-- A number's text in parts. A power of ten has always a sign. -/
structure NumberParts where
  negative : Bool
  whole : List Char
  fraction : Option (List Char)
  power : Option (Bool × List Char)
  whole_digits : Digits whole
  leading : whole = ['0'] ∨ whole.head? ≠ some '0'
  fraction_digits : ∀ digits ∈ fraction, Digits digits
  power_digits : ∀ signed ∈ power, Digits signed.2

namespace NumberParts

def fractionChars : Option (List Char) → List Char
  | some digits => '.' :: digits
  | none => []

def powerChars : Option (Bool × List Char) → List Char
  | some (negative, digits) => 'e' :: (if negative then '-' else '+') :: digits
  | none => []

def unsignedChars (parts : NumberParts) : List Char :=
  parts.whole ++ fractionChars parts.fraction ++ powerChars parts.power

def chars (parts : NumberParts) : List Char :=
  if parts.negative then '-' :: parts.unsignedChars else parts.unsignedChars

def powerValue : Option (Bool × List Char) → Option Int
  | some (negative, digits) =>
      some (if negative then -(digitsValue digits : Int) else digitsValue digits)
  | none => none

def written (parts : NumberParts) : WrittenDecimal where
  negative := parts.negative
  whole := parts.whole
  fraction := parts.fraction
  power := powerValue parts.power

section Read

variable {whole rest : List Char} {fraction : Option (List Char)}
  {power : Option (Bool × List Char)}

theorem endsDigits_powerChars (power : Option (Bool × List Char)) (delimited : Delimited rest) :
    EndsDigits (powerChars power ++ rest) := by
  cases power with
  | none => exact delimited.endsDigits
  | some signed => exact endsDigits_cons (by decide)

theorem endsDigits_fractionChars (fraction : Option (List Char))
    (power : Option (Bool × List Char)) (delimited : Delimited rest) :
    EndsDigits (fractionChars fraction ++ (powerChars power ++ rest)) := by
  cases fraction with
  | none => exact endsDigits_powerChars power delimited
  | some digits => exact endsDigits_cons (by decide)

theorem readWhole_append (digits : Digits whole)
    (leading : whole = ['0'] ∨ whole.head? ≠ some '0') (ends : EndsDigits rest) :
    WrittenDecimal.readWhole (whole ++ rest) = some (whole, rest) := by
  have taken := digits.takeWhile_append ends
  have left := digits.dropWhile_append ends
  rcases leading with rfl | other
  · cases rest with
    | nil => rfl
    | cons c tail => simp [WrittenDecimal.readWhole, ends c rfl]
  · cases whole with
    | nil => exact absurd rfl digits.nonempty
    | cons first more =>
        have nonzero : first ≠ '0' := fun same => other (by simp [same])
        simp only [List.cons_append] at taken left ⊢
        rw [WrittenDecimal.readWhole, taken, left]
        rintro rest' same
        exact absurd (List.cons.inj same).1 nonzero

theorem readFraction_append (power : Option (Bool × List Char))
    (digits : ∀ digits ∈ fraction, Digits digits) (delimited : Delimited rest) :
    WrittenDecimal.readFraction (fractionChars fraction ++ (powerChars power ++ rest))
      = some (fraction, powerChars power ++ rest) := by
  have ends := endsDigits_powerChars power delimited
  cases fraction with
  | some places =>
      have inside := digits places rfl
      have taken := inside.takeWhile_append ends
      have left := inside.dropWhile_append ends
      simp only [fractionChars, List.cons_append, WrittenDecimal.readFraction, taken, left]
      cases places with
      | nil => exact absurd rfl inside.nonempty
      | cons c tail => rfl
  | none =>
      cases power with
      | some signed => rfl
      | none =>
          cases rest with
          | nil => rfl
          | cons c tail =>
              have other : c ≠ '.' := (delimited c rfl).2.1
              simp [fractionChars, powerChars, WrittenDecimal.readFraction, other]

theorem readPowerDigits_append {size : List Char} (digits : Digits size) (negative : Bool)
    (ends : EndsDigits rest) :
    WrittenDecimal.readPowerDigits negative (size ++ rest)
      = some (some (if negative then -(digitsValue size : Int) else digitsValue size), rest) := by
  simp only [WrittenDecimal.readPowerDigits, digits.takeWhile_append ends,
    digits.dropWhile_append ends]
  cases size with
  | nil => exact absurd rfl digits.nonempty
  | cons c tail => rfl

theorem readPower_append (digits : ∀ signed ∈ power, Digits signed.2)
    (delimited : Delimited rest) :
    WrittenDecimal.readPower (powerChars power ++ rest) = some (powerValue power, rest) := by
  cases power with
  | some signed =>
      obtain ⟨negative, size⟩ := signed
      have read := readPowerDigits_append (digits _ rfl) negative delimited.endsDigits
      cases negative with
      | true => simpa [powerChars, powerValue, WrittenDecimal.readPower] using read
      | false => simpa [powerChars, powerValue, WrittenDecimal.readPower] using read
  | none =>
      cases rest with
      | nil => rfl
      | cons c tail =>
          obtain ⟨_, _, lower, upper⟩ := delimited c rfl
          simp [powerChars, powerValue, WrittenDecimal.readPower, lower, upper]

end Read

variable (parts : NumberParts)

theorem exists_unsignedChars_eq :
    ∃ c tail, parts.unsignedChars = c :: tail ∧ isDigit c = true := by
  obtain ⟨_, whole, _, _, digits, _, _, _⟩ := parts
  cases whole with
  | nil => exact absurd rfl digits.nonempty
  | cons c tail => exact ⟨c, _, rfl, digits.digit c List.mem_cons_self⟩

theorem read_append {rest : List Char} (delimited : Delimited rest) :
    WrittenDecimal.read (parts.chars ++ rest) = some (parts.written, rest) := by
  have split : parts.unsignedChars ++ rest
      = parts.whole
        ++ (fractionChars parts.fraction ++ (powerChars parts.power ++ rest)) := by
    simp only [unsignedChars, List.append_assoc]
  have whole := readWhole_append parts.whole_digits parts.leading
    (endsDigits_fractionChars parts.fraction parts.power delimited)
  have fraction := readFraction_append parts.power parts.fraction_digits delimited
  have power := readPower_append parts.power_digits delimited
  rw [← split] at whole
  cases sign : parts.negative with
  | true =>
      simp only [chars, sign, if_true, List.cons_append, WrittenDecimal.read, whole, fraction,
        power]
      simp [written, sign]
  | false =>
      obtain ⟨c, tail, unsigned, digit⟩ := parts.exists_unsignedChars_eq
      have positive : c ≠ '-' := by
        rintro rfl
        exact absurd digit (by decide)
      simp only [unsigned, List.cons_append] at whole
      simp [chars, sign, unsigned, WrittenDecimal.read, positive, whole, fraction, power, written]

theorem digit : ∀ c ∈ parts.written.whole ++ parts.written.places, isDigit c = true := by
  intro c member
  rcases List.mem_append.mp member with whole | place
  · exact parts.whole_digits.digit c whole
  · cases fraction : parts.fraction with
    | none => simp [written, WrittenDecimal.places, fraction] at place
    | some digits =>
        have inside := parts.fraction_digits digits (by simp [fraction])
        exact inside.digit c (by simpa [written, WrittenDecimal.places, fraction] using place)

end NumberParts

/-- The text of an unsigned number that has a value and does not look like a whole number. -/
def IsMagnitude (chars : List Char) (value : ℚ) : Prop :=
  ∃ parts : NumberParts, parts.unsignedChars = chars ∧ parts.written.isWhole = false ∧
    parts.written.decimal.value = value

theorem leading_toDigits (n : Nat) :
    Nat.toDigits 10 n = ['0'] ∨ (Nat.toDigits 10 n).head? ≠ some '0' := by
  by_cases zero : n = 0
  · exact .inl (by rw [zero]; rfl)
  · exact .inr (head?_toDigits zero)

theorem isMagnitude_point {whole places : List Char} (digits : Digits whole)
    (leading : whole = ['0'] ∨ whole.head? ≠ some '0') (digits' : Digits places) :
    IsMagnitude (whole ++ '.' :: places)
      (Decimal.value ⟨digitsValue (whole ++ places), -places.length⟩) := by
  refine ⟨⟨false, whole, some places, none, digits, leading, ?_, by simp⟩, ?_, rfl, ?_⟩
  · simpa using digits'
  · simp [NumberParts.unsignedChars, NumberParts.fractionChars, NumberParts.powerChars]
  · simp [NumberParts.written, WrittenDecimal.decimal, WrittenDecimal.places,
      NumberParts.powerValue]

namespace Decimal

variable {d : Decimal}

theorem isMagnitude_positional (positive : d.digits ≠ 0) : IsMagnitude d.positional d.value := by
  have digits : Digits (Nat.toDigits 10 d.digits) := .toDigits _
  have leading := head?_toDigits positive
  have own := digitsValue_toDigits d.digits
  have count : (Nat.toDigits 10 d.digits).length = d.leadingPower + 1 - d.exponent := by
    rw [leadingPower, Binary64.digitCount]
    omega
  have zero : digitsValue ['0'] = 0 := rfl
  simp only [positional]
  generalize Nat.toDigits 10 d.digits = chars at *
  split
  -- Zeros in front, zeros behind, or the point among the digits.
  · have places := digits.zeros_append (-d.leadingPower - 1).toNat
    have text := isMagnitude_point .zero (.inl rfl) places
    rwa [value_mk] at text
    · rw [digitsValue_append, digitsValue_append, digitsValue_zeros, zero, own]
      omega
    · rw [List.length_append, List.length_replicate]
      omega
  · split
    · next fits =>
        have first : (chars ++ List.replicate (d.leadingPower.toNat + 1 - chars.length) '0').head?
            = chars.head? := List.head?_append_of_ne_nil _ digits.nonempty
        have text := isMagnitude_point (digits.append_zeros _) (.inr (first ▸ leading)) .zero
        have zeros : ['0'] = List.replicate 1 '0' := rfl
        rw [zeros, digitsValue_append_zeros, digitsValue_append_zeros, own, value_zeros,
          value_zeros] at text
        rwa [value_mk rfl] at text
        rw [List.length_replicate]
        omega
    · next long =>
        have whole := digits.take (d.leadingPower.toNat + 1) (by omega)
        have places := digits.drop (d.leadingPower.toNat + 1) (by omega)
        have first : (chars.take (d.leadingPower.toNat + 1)).head? = chars.head? := by
          simp [List.head?_take]
        have text := isMagnitude_point whole (.inr (first ▸ leading)) places
        rw [List.take_append_drop] at text
        rwa [value_mk own] at text
        rw [List.length_drop]
        omega

theorem isMagnitude_power {first : Char} {fraction : Option (List Char)} {size : List Char}
    (single : Digits [first]) (digits : ∀ places ∈ fraction, Digits places) (sized : Digits size)
    (power : digitsValue size = d.leadingPower.natAbs)
    (own : digitsValue ([first] ++ fraction.getD []) = d.digits)
    (count : d.leadingPower - (fraction.getD []).length = d.exponent) :
    IsMagnitude ([first] ++ NumberParts.fractionChars fraction
        ++ NumberParts.powerChars (some (decide (d.leadingPower < 0), size))) d.value := by
  have leading : [first] = ['0'] ∨ [first].head? ≠ some '0' := by simpa using em (first = '0')
  have signed : (if d.leadingPower < 0 then -(d.leadingPower.natAbs : Int)
      else d.leadingPower.natAbs) = d.leadingPower := by
    split
    · omega
    · omega
  have whole : (fraction.isNone && (NumberParts.powerValue
      (some (decide (d.leadingPower < 0), size))).isNone) = false := by
    simp [NumberParts.powerValue]
  refine ⟨⟨false, [first], fraction, some (decide (d.leadingPower < 0), size), single, leading,
    digits, ?_⟩, rfl, whole, value_mk own ?_⟩
  · simpa using sized
  · simp only [NumberParts.written, WrittenDecimal.places, NumberParts.powerValue, power,
      decide_eq_true_eq, signed, Option.getD_some, count]

theorem isMagnitude_scientific (d : Decimal) :
    IsMagnitude (d.scientific Number.layout) d.value := by
  have digits : Digits (Nat.toDigits 10 d.digits) := .toDigits _
  have own := digitsValue_toDigits d.digits
  have count : (Nat.toDigits 10 d.digits).length = d.leadingPower + 1 - d.exponent := by
    rw [leadingPower, Binary64.digitCount]
    omega
  have size : Digits (Nat.toDigits 10 d.leadingPower.natAbs) := .toDigits _
  have same := digitsValue_toDigits d.leadingPower.natAbs
  have unpadded : Number.layout.powerDigits - (Nat.toDigits 10 d.leadingPower.natAbs).length = 0 :=
    Nat.sub_eq_zero_of_le (Nat.length_toDigits_pos)
  simp only [scientific, unpadded, List.replicate_zero]
  generalize Nat.toDigits 10 d.digits = chars at *
  cases chars with
  | nil => exact absurd rfl digits.nonempty
  | cons first rest =>
      have single : Digits [first] := digits.take 1 (by decide)
      rw [List.length_cons] at count
      cases rest with
      | nil =>
          have whole : d.leadingPower - (0 : Nat) = d.exponent := by
            rw [List.length_nil] at count
            omega
          have text := @isMagnitude_power d first none _ single (by simp) size same own whole
          simpa [NumberParts.fractionChars, NumberParts.powerChars, Number.layout] using text
      | cons second more =>
          have places : Digits (second :: more) := digits.drop 1 (by simp)
          have behind : d.leadingPower - (second :: more).length = d.exponent := by omega
          have text := @isMagnitude_power d first (some (second :: more)) _ single
            (by simpa using places) size same own behind
          simpa [NumberParts.fractionChars, NumberParts.powerChars, Number.layout] using text

theorem isMagnitude_text (positive : d.digits ≠ 0) :
    IsMagnitude (d.text Number.layout) d.value := by
  unfold text
  split
  · exact isMagnitude_positional positive
  · exact isMagnitude_scientific d

end Decimal

theorem Binary64.shortest_ne_zero {x : Binary64} (nonzero : x.isZero = false) :
    x.shortest.digits ≠ 0 := by
  intro nothing
  have zeroed := ofDecimal?_shortest nonzero
  rw [ofDecimal?_eq, if_pos (.inl nothing), Option.some.injEq] at zeroed
  rw [← zeroed] at nonzero
  simp [isZero, zero] at nonzero

theorem IsMagnitude.exists_signed {magnitude : List Char} {value : ℚ}
    (is : IsMagnitude magnitude value) (negative : Bool) :
    ∃ parts : NumberParts, parts.chars = (if negative then '-' :: magnitude else magnitude) ∧
      parts.written.isWhole = false ∧ parts.negative = negative ∧
      parts.written.decimal.value = value := by
  obtain ⟨parts, rfl, whole, rfl⟩ := is
  exact ⟨{ parts with negative := negative }, rfl, whole, rfl, rfl⟩

namespace Number

theorem exists_realChars_eq (x : Binary64) :
    ∃ parts : NumberParts, parts.chars = realChars x ∧ parts.written.isWhole = false ∧
      parts.written.nearest? = some x := by
  unfold realChars Binary64.signed
  cases zero : x.isZero with
  | true =>
      have text : IsMagnitude (['0'] ++ '.' :: ['0']) _ := isMagnitude_point .zero (.inl rfl) .zero
      obtain ⟨parts, chars, whole, sign, value⟩ := text.exists_signed x.negative
      have nothing : parts.written.decimal.value = Decimal.value ⟨0, 0⟩ := by
        rw [value]
        simp [Decimal.value, digitsValue, digitValue]
      refine ⟨parts, chars, whole, ?_⟩
      rw [WrittenDecimal.nearest?, Binary64.ofDecimal?_of_value_eq nothing,
        Binary64.eq_zero_of_isZero zero]
      change Binary64.ofDecimal? parts.negative _ _ = _
      rw [sign]
      rfl
  | false =>
      have text := Decimal.isMagnitude_text (Binary64.shortest_ne_zero zero)
      obtain ⟨parts, chars, whole, sign, value⟩ := text.exists_signed x.negative
      refine ⟨parts, chars, whole, ?_⟩
      rw [WrittenDecimal.nearest?, Binary64.ofDecimal?_of_value_eq value]
      change Binary64.ofDecimal? parts.negative _ _ = _
      rw [sign, Binary64.ofDecimal?_shortest zero]

def integerParts (n : Int) : NumberParts where
  negative := decide (n < 0)
  whole := Nat.toDigits 10 n.natAbs
  fraction := none
  power := none
  whole_digits := .toDigits _
  leading := leading_toDigits _
  fraction_digits := by simp
  power_digits := by simp

theorem chars_integerParts (n : Int) : (integerParts n).chars = integerChars n := by
  by_cases sign : n < 0
  · simp [NumberParts.chars, NumberParts.unsignedChars, integerParts, integerChars, sign,
      NumberParts.fractionChars, NumberParts.powerChars]
  · simp [NumberParts.chars, NumberParts.unsignedChars, integerParts, integerChars, sign,
      NumberParts.fractionChars, NumberParts.powerChars]

theorem exists_chars_eq (n : Number) : ∃ parts : NumberParts, parts.chars = n.chars := by
  cases n with
  | integer value _ => exact ⟨integerParts value, chars_integerParts value⟩
  | real value =>
      obtain ⟨parts, chars, _⟩ := exists_realChars_eq value
      exact ⟨parts, chars⟩

theorem ofWritten?_ofInt (real : WrittenDecimal → Option Binary64) (value : Int)
    (fits : -2 ^ 63 ≤ value ∧ value < 2 ^ 64) :
    ofWritten? real (.ofInt value) = some (.integer value fits) := by
  have size : digitsValue (Nat.toDigits 10 value.natAbs) = value.natAbs := digitsValue_toDigits _
  -- A zero has no sign, so the text is not that of a negative zero.
  have plain : (decide (value < 0) && value.natAbs == 0) = false := by
    simp
    omega
  have signed : (if value < 0 then -(value.natAbs : Int) else value.natAbs) = value := by
    split
    · omega
    · omega
  simp only [ofWritten?, WrittenDecimal.ofInt, WrittenDecimal.isWhole, size, plain, ofInt?,
    decide_eq_true_eq, signed, fits]
  simp

def reread? (real : WrittenDecimal → Option Binary64) (n : Number) : Option Number :=
  (WrittenDecimal.read n.chars).bind fun taken => ofWritten? real taken.1

/-- The reader stops behind the number, whether or not it makes a number of the text. -/
theorem exists_written (real : WrittenDecimal → Option Binary64) (n : Number) :
    ∃ written, ofWritten? real written = n.reread? real ∧
      ∀ rest, Delimited rest → WrittenDecimal.read (n.chars ++ rest) = some (written, rest) := by
  obtain ⟨parts, text⟩ := n.exists_chars_eq
  have alone := parts.read_append .nil
  rw [List.append_nil] at alone
  refine ⟨parts.written, ?_, fun rest delimited => text ▸ parts.read_append delimited⟩
  rw [reread?, ← text, alone, Option.bind_some]

theorem reread?_integer (real : WrittenDecimal → Option Binary64) (value : Int)
    (fits : -2 ^ 63 ≤ value ∧ value < 2 ^ 64) :
    reread? real (.integer value fits) = some (.integer value fits) := by
  have read := (integerParts value).read_append .nil
  rw [List.append_nil, chars_integerParts] at read
  rw [reread?, chars, read, Option.bind_some]
  exact ofWritten?_ofInt real value fits

theorem reread?_real (real : WrittenDecimal → Option Binary64) {x : Binary64}
    {written : WrittenDecimal}
    (read : WrittenDecimal.read (Number.real x).chars = some (written, []))
    (whole : written.isWhole = false) :
    reread? real (.real x) = (real written).map .real := by
  simp [reread?, read, ofWritten?, whole]

theorem exists_read_real (x : Binary64) :
    ∃ written : WrittenDecimal, WrittenDecimal.read (Number.real x).chars = some (written, []) ∧
      written.isWhole = false ∧ written.nearest? = some x ∧
      ∀ c ∈ written.whole ++ written.places, isDigit c = true := by
  obtain ⟨parts, text, whole, nearest⟩ := exists_realChars_eq x
  have read := parts.read_append .nil
  rw [List.append_nil, text] at read
  exact ⟨parts.written, read, whole, nearest, parts.digit⟩

theorem exists_chars_cons (n : Number) :
    ∃ c tail, n.chars = c :: tail ∧ (c = '-' ∨ isDigit c = true) := by
  obtain ⟨parts, text⟩ := n.exists_chars_eq
  obtain ⟨c, tail, unsigned, digit⟩ := parts.exists_unsignedChars_eq
  rw [← text, NumberParts.chars, unsigned]
  split
  · exact ⟨'-', c :: tail, rfl, .inl rfl⟩
  · exact ⟨c, tail, rfl, .inr digit⟩

end Number

end Docket
