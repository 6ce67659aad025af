import Docket.Toml.Quoted
import Mathlib.Tactic.SplitIfs
/-!
Quoted text comes back.

Whichever of the four kinds a text is written in, reading it gives the text and what follows
(`read_chars`), as long as what follows does not go on with a mark. Between three marks a reader that
looks ahead for the end may take up to two marks before it for part of the text; so an induction on
the text holds back the marks just before (`readLongBasic_append`, `readLongLiteral_append`).
-/

namespace Docket.Toml.Quoted

open Json (consChar)

variable {rest : List Char}

theorem isPlain_of_not_isControl {c : Char} (printed : isControl c = false) (inside : c ≠ '\n') :
    isPlain c = true := by
  simp only [isControl, Bool.or_eq_false_iff, Bool.and_eq_false_iff, decide_eq_false_iff_not,
    decide_not, Bool.not_eq_false'] at printed
  simp only [isPlain, Bool.or_eq_true, Bool.and_eq_true, decide_eq_true_eq]
  by_cases tab : c = '\t'
  · exact .inl tab
  · have high : 32 ≤ c.toNat := by
      simpa [tab, inside] using printed.1
    exact .inr ⟨high, printed.2⟩

theorem hexValue?_upperDigit (n : Nat) : Json.hexValue? (upperDigit n) = some (n % 16) := by
  have all : ∀ digit : Fin 16,
      Json.hexValue? (Nat.digitChar digit.val).toUpper = some digit.val := by decide
  exact all ⟨n % 16, Nat.mod_lt n (by decide)⟩

theorem shortCode?_of_isControl {c : Char} (control : isControl c = true) :
    shortCode? '0' '0' (upperDigit (c.toNat / 16)) (upperDigit c.toNat) = some c := by
  have low : c.toNat < 128 := by
    simp only [isControl, Bool.or_eq_true, Bool.and_eq_true, decide_eq_true_eq] at control
    rcases control with ⟨⟨low, _⟩, _⟩ | rfl
    · omega
    · decide
  have high : c.toNat / 16 % 16 = c.toNat / 16 := Nat.mod_eq_of_lt (by omega)
  have value : c.toNat / 16 * 16 + c.toNat % 16 = c.toNat := by omega
  have zero : Json.hexValue? '0' = some 0 := rfl
  have whole : scalar? c.toNat = some c := by
    rw [scalar?, if_pos (.inl (by omega)), Char.ofNat_toNat]
  simp [shortCode?, Json.hexQuad?, hexValue?_upperDigit, high, value, whole, zero]

structure Unescapes (read : List Char → Option (List Char × List Char)) : Prop where
  plain {c : Char} {rest : List Char} (inside : c ≠ '"') (slash : c ≠ '\\')
    (plain : isPlain c = true) : read (c :: rest) = consChar c (read rest)
  short {letter short : Char} {rest : List Char} (known : shortEscape? letter = some short) :
    read ('\\' :: letter :: rest) = consChar short (read rest)
  code {a b c d plain : Char} {rest : List Char} (code : shortCode? a b c d = some plain) :
    read ('\\' :: 'u' :: a :: b :: c :: d :: rest) = consChar plain (read rest)

theorem Unescapes.escapeChar {read : List Char → Option (List Char × List Char)}
    (unescapes : Unescapes read) {c : Char} (inside : c ≠ '"') :
    read (escapeChar c ++ rest) = consChar c (read rest) := by
  unfold Quoted.escapeChar
  split
  · exact unescapes.short rfl
  · exact unescapes.short rfl
  · exact unescapes.short rfl
  · exact unescapes.short rfl
  · exact unescapes.short rfl
  · exact unescapes.short rfl
  · next notLine _ _ slash =>
      split_ifs with control
      · exact unescapes.code (shortCode?_of_isControl control)
      · exact unescapes.plain inside slash
          (isPlain_of_not_isControl (Bool.not_eq_true _ ▸ control) notLine)

theorem not_codeLetter_of_shortEscape? {letter short : Char}
    (known : shortEscape? letter = some short) : letter ≠ 'U' ∧ letter ≠ 'u' := by
  constructor
  · rintro rfl
    simp [shortEscape?] at known
  · rintro rfl
    simp [shortEscape?] at known

theorem unescapes_readBasic : Unescapes readBasic where
  plain inside slash plain := by
    rw [readBasic.eq_6 _ _ inside]
    · simp [slash, plain]
    all_goals simp [slash]
  short known := by
    obtain ⟨long, code⟩ := not_codeLetter_of_shortEscape? known
    rw [readBasic.eq_5, known]
    all_goals simp [long, code]
  code code := by rw [readBasic.eq_4, code]

theorem unescapes_readLongBasic : Unescapes (readLongBasic false) where
  plain {c rest} inside slash plain := by
    have line : c ≠ '\n' := by
      rintro rfl
      simp [isPlain] at plain
    have carriage : c ≠ '\r' := by
      rintro rfl
      simp [isPlain] at plain
    rw [readLongBasic.eq_10]
    · simp [slash, plain]
    all_goals simp [inside, slash, line, carriage]
  short known := by
    obtain ⟨long, code⟩ := not_codeLetter_of_shortEscape? known
    rw [readLongBasic.eq_9, known]
    all_goals simp [long, code]
  code code := by rw [readLongBasic.eq_8, code]

theorem readBasic_append (text rest : List Char) :
    readBasic (basicChars text ++ '"' :: rest) = some (text, rest) := by
  induction text with
  | nil => rfl
  | cons c text ih =>
      rw [basicChars, List.flatMap_cons, List.append_assoc, ← basicChars]
      split_ifs with quote
      · subst quote
        have escaped : shortEscape? '"' = some '"' := rfl
        rw [List.cons_append, List.cons_append, List.nil_append, unescapes_readBasic.short escaped, ih]
        rfl
      · rw [unescapes_readBasic.escapeChar quote, ih]
        rfl

theorem readLiteral_append {text : List Char} (plain : ∀ c ∈ text, c ≠ '\'' ∧ isPlain c = true) :
    readLiteral (text ++ '\'' :: rest) = some (text, rest) := by
  induction text with
  | nil => rfl
  | cons c text ih =>
      obtain ⟨⟨inside, own⟩, others⟩ := List.forall_mem_cons.mp plain
      rw [List.cons_append, readLiteral.eq_3 _ _ inside, if_pos own, ih others]
      rfl

/-! ### Texts between three marks -/

def prepend (front : List Char) (read : Option (List Char × List Char)) :
    Option (List Char × List Char) :=
  read.map fun (text, rest) => (front ++ text, rest)

/-- A reader that ends at three marks and takes up to two before them for part of the text. -/
structure EndsAtThree (mark : Char) (read : List Char → Option (List Char × List Char)) : Prop where
  close {run : Nat} {rest : List Char} (few : run ≤ 2) (ends : rest.head? ≠ some mark) :
    read (List.replicate run mark ++ mark :: mark :: mark :: rest)
      = some (List.replicate run mark, rest)
  mark {c : Char} {rest : List Char} (other : c ≠ mark) :
    read (mark :: c :: rest) = consChar mark (read (c :: rest)) ∧
      read (mark :: mark :: c :: rest) = consChar mark (consChar mark (read (c :: rest)))

theorem EndsAtThree.marks {mark : Char} {read : List Char → Option (List Char × List Char)}
    (ends : EndsAtThree mark read) {run : Nat} (few : run ≤ 2) {c : Char} (other : c ≠ mark) :
    read (List.replicate run mark ++ c :: rest)
      = prepend (List.replicate run mark) (read (c :: rest)) := by
  obtain rfl | rfl | rfl : run = 0 ∨ run = 1 ∨ run = 2 := by omega
  · rw [List.replicate_zero, List.nil_append]
    cases read (c :: rest) <;> rfl
  · rw [List.replicate_one, List.cons_append, List.nil_append, (ends.mark other).1]
    rfl
  · have two : List.replicate 2 mark ++ c :: rest = mark :: mark :: c :: rest := rfl
    rw [two, (ends.mark other).2]
    cases read (c :: rest) <;> rfl

theorem replicate_append_cons (run : Nat) (mark : Char) (rest : List Char) :
    List.replicate run mark ++ mark :: rest = List.replicate (run + 1) mark ++ rest := by
  rw [List.replicate_succ', List.append_assoc, List.cons_append, List.nil_append]

theorem endsAtThree_readLongBasic : EndsAtThree '"' (readLongBasic false) where
  close {run rest} few ends := by
    have other : ∀ more, rest ≠ '"' :: more := by
      rintro more rfl
      simp at ends
    obtain rfl | rfl | rfl : run = 0 ∨ run = 1 ∨ run = 2 := by omega
    · exact readLongBasic.eq_4 _ _ (fun _ => other _) other
    · exact readLongBasic.eq_3 _ _ other
    · exact readLongBasic.eq_2 _ _
  mark {c rest} other := by
    have single : readLongBasic false ('"' :: c :: rest)
        = consChar '"' (readLongBasic false (c :: rest)) := by
      rw [readLongBasic.eq_10]
      · simp [isPlain]
      all_goals simp [other]
    refine ⟨single, ?_⟩
    rw [readLongBasic.eq_10, single]
    · simp [isPlain]
    all_goals simp [other]

theorem endsAtThree_readLongLiteral : EndsAtThree '\'' readLongLiteral where
  close {run rest} few ends := by
    have other : ∀ more, rest ≠ '\'' :: more := by
      rintro more rfl
      simp at ends
    obtain rfl | rfl | rfl : run = 0 ∨ run = 1 ∨ run = 2 := by omega
    · exact readLongLiteral.eq_4 _ (fun _ => other _) other
    · exact readLongLiteral.eq_3 _ other
    · exact readLongLiteral.eq_2 _
  mark {c rest} other := by
    have single : readLongLiteral ('\'' :: c :: rest)
        = consChar '\'' (readLongLiteral (c :: rest)) := by
      rw [readLongLiteral.eq_6]
      · simp [isPlain]
      all_goals simp [other]
    refine ⟨single, ?_⟩
    rw [readLongLiteral.eq_6, single]
    · simp [isPlain]
    all_goals simp [other]

theorem exists_escapeChar_eq_cons {c : Char} (inside : c ≠ '"') :
    ∃ first more, escapeChar c = first :: more ∧ first ≠ '"' ∧ first ≠ '\n' ∧ first ≠ '\r' := by
  unfold escapeChar
  split
  · exact ⟨_, _, rfl, by decide, by decide, by decide⟩
  · exact ⟨_, _, rfl, by decide, by decide, by decide⟩
  · exact ⟨_, _, rfl, by decide, by decide, by decide⟩
  · exact ⟨_, _, rfl, by decide, by decide, by decide⟩
  · exact ⟨_, _, rfl, by decide, by decide, by decide⟩
  · exact ⟨_, _, rfl, by decide, by decide, by decide⟩
  · next line _ carriage _ =>
      split_ifs with control
      · exact ⟨_, _, rfl, by decide, by decide, by decide⟩
      · exact ⟨c, [], rfl, inside, line, carriage⟩

/-- Marks that stand before a text and are not read yet belong to it. -/
theorem readLongBasic_append {run : Nat} (few : run ≤ 2) (text : List Char)
    (ends : rest.head? ≠ some '"') :
    readLongBasic false
        (List.replicate run '"' ++ (longBasicChars run text ++ '"' :: '"' :: '"' :: rest))
      = some (List.replicate run '"' ++ text, rest) := by
  induction text generalizing run with
  | nil =>
      rw [longBasicChars, List.nil_append, endsAtThree_readLongBasic.close few ends,
        List.append_nil]
  | cons c text ih =>
      have behind : readLongBasic false (longBasicChars 0 text ++ '"' :: '"' :: '"' :: rest)
          = some (text, rest) := ih (Nat.zero_le 2)
      by_cases quote : c = '"'
      · subst quote
        rw [longBasicChars]
        split_ifs with full
        · have escaped : shortEscape? '"' = some '"' := rfl
          rw [List.cons_append, List.cons_append, endsAtThree_readLongBasic.marks few (by decide),
            unescapes_readLongBasic.short escaped, behind]
          rfl
        · rw [List.cons_append, replicate_append_cons, ih (by omega), replicate_append_cons]
      · by_cases line : c = '\n'
        · subst line
          rw [longBasicChars, List.cons_append, endsAtThree_readLongBasic.marks few quote,
            readLongBasic.eq_6, if_neg (by simp), behind]
          rfl
        · obtain ⟨first, more, shown, inside, _⟩ := exists_escapeChar_eq_cons quote
          have read := @unescapes_readLongBasic.escapeChar
            (longBasicChars 0 text ++ '"' :: '"' :: '"' :: rest) _ _ quote
          rw [longBasicChars.eq_4 _ _ _ quote line, List.append_assoc]
          rw [shown, List.cons_append] at read ⊢
          rw [endsAtThree_readLongBasic.marks few inside, read, behind]
          rfl

theorem readLongLiteral_append {run : Nat} {text : List Char}
    (few : longestRunFrom '\'' run text ≤ 2)
    (plain : ∀ c ∈ text, isPlain c = true ∨ c = '\n') (ends : rest.head? ≠ some '\'') :
    readLongLiteral (List.replicate run '\'' ++ (text ++ '\'' :: '\'' :: '\'' :: rest))
      = some (List.replicate run '\'' ++ text, rest) := by
  induction text generalizing run with
  | nil =>
      have short : run ≤ 2 := few
      rw [List.nil_append, endsAtThree_readLongLiteral.close short ends, List.append_nil]
  | cons c text ih =>
      obtain ⟨own, others⟩ := List.forall_mem_cons.mp plain
      rw [longestRunFrom] at few
      split_ifs at few with mark
      · subst mark
        rw [List.cons_append, replicate_append_cons, ih few others, replicate_append_cons]
      · obtain ⟨short, few⟩ := Nat.max_le.mp few
        have behind : readLongLiteral (text ++ '\'' :: '\'' :: '\'' :: rest) = some (text, rest) :=
          ih few others
        have carriage : c ≠ '\r' := by
          rintro rfl
          simp [isPlain] at own
        have read : readLongLiteral (c :: (text ++ '\'' :: '\'' :: '\'' :: rest))
            = consChar c (some (text, rest)) := by
          rw [readLongLiteral.eq_6, if_pos (by simpa using own), behind]
          all_goals simp [mark, carriage]
        rw [List.cons_append, endsAtThree_readLongLiteral.marks short mark, read]
        rfl

theorem afterBreak?_cons {c : Char} (line : c ≠ '\n') (carriage : c ≠ '\r') (rest : List Char) :
    afterBreak? (c :: rest) = none := by
  rw [afterBreak?.eq_3]
  all_goals simp [line, carriage]

theorem dropBreak_cons {c : Char} (line : c ≠ '\n') (carriage : c ≠ '\r') (rest : List Char) :
    dropBreak (c :: rest) = c :: rest := by
  rw [dropBreak, afterBreak?_cons line carriage, Option.getD_none]

theorem read_basic (text : List Char) (quote : rest.head? ≠ some '"') :
    read ('"' :: basicChars text ++ ['"'] ++ rest) = some (text, rest) := by
  have single : ∀ more, basicChars text ++ '"' :: rest ≠ '"' :: '"' :: more := by
    intro more same
    cases text with
    | nil =>
        have starts : '"' :: rest = '"' :: '"' :: more := same
        simp [(List.cons.inj starts).2] at quote
    | cons c text =>
        rw [basicChars, List.flatMap_cons] at same
        split_ifs at same with mark
        · simp at same
        · obtain ⟨first, behind, shown, inside, _⟩ := exists_escapeChar_eq_cons mark
          rw [shown] at same
          exact inside (List.cons.inj same).1
  have joined : '"' :: basicChars text ++ ['"'] ++ rest = '"' :: (basicChars text ++ '"' :: rest) := by
    simp
  rw [joined, read.eq_2 _ single, readBasic_append]

theorem read_literal {text : List Char} (plain : ∀ c ∈ text, c ≠ '\'' ∧ isPlain c = true)
    (apostrophe : rest.head? ≠ some '\'') :
    read ('\'' :: text ++ ['\''] ++ rest) = some (text, rest) := by
  have single : ∀ more, text ++ '\'' :: rest ≠ '\'' :: '\'' :: more := by
    intro more same
    cases text with
    | nil =>
        have starts : '\'' :: rest = '\'' :: '\'' :: more := same
        simp [(List.cons.inj starts).2] at apostrophe
    | cons c text => exact (plain c List.mem_cons_self).1 (List.cons.inj same).1
  have joined : '\'' :: text ++ ['\''] ++ rest = '\'' :: (text ++ '\'' :: rest) := by simp
  rw [joined, read.eq_4 _ single, readLiteral_append plain]

theorem dropBreak_between {mark : Char} (noLine : mark ≠ '\n') (noCarriage : mark ≠ '\r')
    {breaks : Bool} {chars : List Char}
    (starts : breaks = false → ∀ first more, chars = first :: more → first ≠ '\n' ∧ first ≠ '\r')
    (rest : List Char) :
    dropBreak ((if breaks then ['\n'] else []) ++ (chars ++ mark :: rest)) = chars ++ mark :: rest := by
  cases breaks with
  | true => rfl
  | false =>
      cases chars with
      | nil => exact dropBreak_cons noLine noCarriage rest
      | cons first more =>
          obtain ⟨line, carriage⟩ := starts rfl first more rfl
          exact dropBreak_cons line carriage _

theorem between_append (mark : Char) (breaks : Bool) (chars rest : List Char) :
    between mark breaks chars ++ rest
      = mark :: mark :: mark ::
          ((if breaks then ['\n'] else []) ++ (chars ++ mark :: mark :: mark :: rest)) := by
  simp [between]

theorem read_longBasic (text : List Char) (quote : rest.head? ≠ some '"') :
    read (between '"' (text.contains '\n') (longBasicChars 0 text) ++ rest) = some (text, rest) := by
  rw [between_append, read.eq_1, dropBreak_between (by decide) (by decide)]
  · exact readLongBasic_append (Nat.zero_le 2) text quote
  · intro noBreak first more shown
    cases text with
    | nil => simp [longBasicChars] at shown
    | cons c text =>
        by_cases mark : c = '"'
        · subst mark
          have starts : '"' :: longBasicChars 1 text = first :: more := shown
          rw [← (List.cons.inj starts).1]
          decide
        · have line : c ≠ '\n' := by
            rintro rfl
            simp at noBreak
          obtain ⟨first', behind, escaped, _, starts⟩ := exists_escapeChar_eq_cons mark
          rw [longBasicChars.eq_4 _ _ _ mark line, escaped] at shown
          rwa [← (List.cons.inj shown).1]

theorem read_longLiteral {text : List Char} (few : longestRun '\'' text ≤ 2)
    (plain : ∀ c ∈ text, isPlain c = true ∨ c = '\n') (apostrophe : rest.head? ≠ some '\'') :
    read (between '\'' (text.contains '\n') text ++ rest) = some (text, rest) := by
  rw [between_append, read.eq_3, dropBreak_between (by decide) (by decide)]
  · exact readLongLiteral_append few plain apostrophe
  · rintro noBreak first more rfl
    have line : first ≠ '\n' := by
      rintro rfl
      simp at noBreak
    refine ⟨line, ?_⟩
    rintro rfl
    simpa [isPlain] using plain '\r' List.mem_cons_self

theorem le_longestRunFrom (mark : Char) (run : Nat) (chars : List Char) :
    run ≤ longestRunFrom mark run chars := by
  induction chars generalizing run with
  | nil => exact Nat.le_refl _
  | cons c rest ih =>
      rw [longestRunFrom]
      split_ifs
      · exact Nat.le_of_succ_le (ih (run + 1))
      · exact Nat.le_max_left _ _

theorem not_mem_of_longestRun {mark : Char} {chars : List Char} (none : longestRun mark chars = 0) :
    mark ∉ chars := by
  induction chars with
  | nil => simp
  | cons c rest ih =>
      rw [longestRun, longestRunFrom] at none
      split_ifs at none with here
      · have some := le_longestRunFrom mark (0 + 1) rest
        omega
      · obtain ⟨_, others⟩ := Nat.max_eq_zero_iff.mp none
        exact fun member => (List.mem_cons.mp member).elim (fun same => here same.symm) (ih others)

theorem read_chars (text : List Char) (quote : rest.head? ≠ some '"')
    (apostrophe : rest.head? ≠ some '\'') : read (chars text ++ rest) = some (text, rest) := by
  have printed : text.any isControl = false → ∀ c ∈ text, isControl c = false := by simp
  have plain : text.any isControl = false → ∀ c ∈ text, isPlain c = true ∨ c = '\n' := by
    intro noControls c member
    by_cases line : c = '\n'
    · exact .inr line
    · exact .inl (isPlain_of_not_isControl (printed noControls c member) line)
  simp only [chars]
  split_ifs with simple literal mild block breaks
  · exact read_basic text quote
  · simp only [Bool.and_eq_true, Bool.not_eq_true', decide_eq_true_eq] at literal
    obtain ⟨⟨noControls, noMarks⟩, noBreaks⟩ := literal
    refine read_literal (fun c member => ⟨?_, ?_⟩) apostrophe
    · rintro rfl
      exact not_mem_of_longestRun noMarks member
    · rcases plain noControls c member with plain | rfl
      · exact plain
      · simp [member] at noBreaks
  · exact read_longBasic text quote
  · simp only [Bool.and_eq_true, Bool.not_eq_true', decide_eq_true_eq] at block
    exact read_longLiteral block.2 (plain block.1) apostrophe
  · have whole := read_longBasic text quote
    rwa [breaks] at whole ⊢
  · exact read_basic text quote

theorem exists_chars_eq_cons (text : List Char) :
    ∃ mark more, chars text = mark :: more ∧ (mark = '"' ∨ mark = '\'') := by
  simp only [chars]
  split_ifs
  · exact ⟨_, _, rfl, .inl rfl⟩
  · exact ⟨_, _, rfl, .inr rfl⟩
  · exact ⟨_, _, rfl, .inl rfl⟩
  · exact ⟨_, _, rfl, .inr rfl⟩
  · exact ⟨_, _, rfl, .inl rfl⟩
  · exact ⟨_, _, rfl, .inl rfl⟩

end Docket.Toml.Quoted
