import Docket.Proofs.Table
import Docket.Proofs.Toml.Quoted
import Docket.Proofs.Toml.Scalar
import Docket.Toml.Reader
/-!
Reading a document line by line.

A line that gives a value under a bare name takes one turn of the reader, and so does an empty line
with a header after it (`leads_entry`, `leads_header`). Turns follow one another (`Leads.append`), and
there are never more of them than characters, so a document that leads to a draft is read as what
the draft shows (`read?_of_leads`).
-/

namespace Docket.Toml

open Quoted (isSpace)

variable {chars rest : List Char}

def IsBare (name : String) : Prop := name.toList ≠ [] ∧ name.toList.all isBareChar = true

instance (name : String) : Decidable (IsBare name) := inferInstanceAs (Decidable (_ ∧ _))

theorem ne_of_isBareChar {c other : Char} (bare : isBareChar c = true)
    (no : isBareChar other = false) : c ≠ other := by
  rintro rfl
  simp [bare] at no

theorem isSpace_of_isBareChar {c : Char} (bare : isBareChar c = true) : isSpace c = false := by
  have space : c ≠ ' ' := ne_of_isBareChar bare (by decide)
  have tab : c ≠ '\t' := ne_of_isBareChar bare (by decide)
  simp [isSpace, space, tab]

theorem IsBare.exists_cons {name : String} (bare : IsBare name) :
    ∃ c more, name.toList = c :: more ∧ isBareChar c = true := by
  obtain ⟨nonempty, chars⟩ := bare
  cases shown : name.toList with
  | nil => exact absurd shown nonempty
  | cons c more => exact ⟨c, more, rfl, List.all_eq_true.mp chars c (by simp [shown])⟩

theorem skipSpace_cons {c : Char} (printed : isSpace c = false) (rest : List Char) :
    skipSpace (c :: rest) = c :: rest := by
  simp [skipSpace, printed]

theorem readName_bare {name : String} (bare : IsBare name)
    (ends : ∀ c ∈ rest.head?, isBareChar c = false) :
    readName (name.toList ++ rest) = some (name, rest) := by
  obtain ⟨c, more, shown, first⟩ := bare.exists_cons
  have quote : c ≠ '"' := ne_of_isBareChar first (by decide)
  have apostrophe : c ≠ '\'' := ne_of_isBareChar first (by decide)
  obtain ⟨taken, left⟩ := span_append (List.all_eq_true.mp bare.2) ends
  unfold readName
  split
  · next same => simp [shown, quote] at same
  · next same => simp [shown, apostrophe] at same
  · rw [taken, left]
    split
    · next empty => exact absurd empty bare.1
    · simp

theorem readKey_bare {name : String} (bare : IsBare name)
    (ends : ∀ c ∈ rest.head?, isBareChar c = false) (single : (skipSpace rest).head? ≠ some '.') :
    readKey (name.toList ++ rest) = some (([], name), skipSpace rest) := by
  obtain ⟨c, more, shown, first⟩ := bare.exists_cons
  have start : skipSpace (name.toList ++ rest) = name.toList ++ rest := by
    rw [shown, List.cons_append, skipSpace_cons (isSpace_of_isBareChar first)]
  have names : readNames levels (name.toList ++ rest) = some ((name, []), skipSpace rest) := by
    rw [levels, readNames, start, readName_bare bare ends]
    dsimp only
    split
    · next point => simp [point] at single
    · rfl
  rw [readKey, names]
  rfl

/-- A text that is read as a value where the line ends behind it. -/
structure Shows (chars : List Char) (value : Toml) : Prop where
  starts : ∀ c ∈ chars.head?, isSpace c = false
  read (fuel room : Nat) (rest : List Char) :
    readValue (fuel + 1) room (chars ++ '\n' :: rest) = some (value, '\n' :: rest)

theorem shows_quoted (text : String) : Shows (Quoted.write text).toList (.text text) := by
  obtain ⟨mark, more, shown, kind⟩ := Quoted.exists_chars_eq_cons text.toList
  have written : (Quoted.write text).toList = Quoted.chars text.toList := by
    rw [Quoted.write, String.toList_ofList]
  have read : ∀ rest, Quoted.read (Quoted.chars text.toList ++ '\n' :: rest)
      = some (text.toList, '\n' :: rest) :=
    fun rest => Quoted.read_chars text.toList (by simp) (by simp)
  rw [written]
  constructor
  · intro c first
    rw [shown, List.head?_cons, Option.mem_some_iff] at first
    rcases kind with rfl | rfl
    · simp [← first, isSpace]
    · simp [← first, isSpace]
  · intro fuel room rest
    have whole := read rest
    rw [shown, List.cons_append] at whole ⊢
    rcases kind with rfl | rfl
    · rw [readValue.eq_6, whole]
      simp
    · rw [readValue.eq_7, whole]
      simp

theorem shows_word {word : List Char} {value : Toml} (nonempty : word ≠ [])
    (letters : ∀ c ∈ word, isWordChar c = true)
    (read : ∀ rest, readWord (word ++ '\n' :: rest) = some (value, '\n' :: rest)) :
    Shows word value := by
  cases word with
  | nil => exact absurd rfl nonempty
  | cons c more =>
      have other : ∀ mark, isWordChar mark = false → c ≠ mark := by
        rintro mark no rfl
        simp [letters c List.mem_cons_self] at no
      constructor
      · rintro _ ⟨⟩
        simp [isSpace, other ' ' (by decide), other '\t' (by decide)]
      · intro fuel room rest
        rw [readValue.eq_8, read rest]
        all_goals simp [other '[' (by decide), other '\x7b' (by decide), other '"' (by decide),
          other '\'' (by decide)]

theorem shows_true : Shows "true".toList (.bool true) := by
  have letters : ∀ c ∈ "true".toList, isWordChar c = true := List.all_eq_true.mp (by decide)
  refine shows_word (by decide) letters fun rest => ?_
  rw [readWord, splitWord_append letters]
  rfl

theorem shows_false : Shows "false".toList (.bool false) := by
  have letters : ∀ c ∈ "false".toList, isWordChar c = true := List.all_eq_true.mp (by decide)
  refine shows_word (by decide) letters fun rest => ?_
  rw [readWord, splitWord_append letters]
  rfl

theorem shows_number {n : Nat} (fits : n < 2 ^ 63) : Shows (toString n).toList (.integer n) := by
  have digits := Digits.toDigits n
  have letters : ∀ c ∈ Nat.toDigits 10 n, isWordChar c = true :=
    fun c member => isWordChar_of_isDigit (digits.digit c member)
  have noTruth : Nat.toDigits 10 n ≠ ['t', 'r', 'u', 'e'] :=
    fun same => not_mem_of_digits digits (by decide : Text.isDigit 't' = false) (by simp [same])
  have noFalsehood : Nat.toDigits 10 n ≠ ['f', 'a', 'l', 's', 'e'] :=
    fun same => not_mem_of_digits digits (by decide : Text.isDigit 'f' = false) (by simp [same])
  have written : (toString n).toList = Nat.toDigits 10 n := by simp
  rw [written]
  refine shows_word digits.nonempty letters fun rest => ?_
  rw [readWord, splitWord_append letters]
  dsimp only
  split
  · next truth => exact absurd truth noTruth
  · next falsehood => exact absurd falsehood noFalsehood
  · rw [scalar?_toDigits fits, Option.map_some]

/-- Where a document takes values that have no name in common with what is there. -/
structure Takes (place : List (String × Part) → Draft) : Prop where
  put {members : List (String × Part)} {name : String} (value : Toml)
    (fresh : Entries.lookup name members = none) :
    (place members).put [] name value = some (place (Entries.insert name (.value value) members))

def top (members : List (String × Part)) : Draft := ⟨⟨.header, members⟩, []⟩

def under (name : String) (before members : List (String × Part)) : Draft :=
  ⟨⟨.header, Entries.insert name (.table .header members) before⟩, [name]⟩

theorem takes_top : Takes top where
  put value fresh := by
    simp [top, Draft.put, Growing.within, Growing.put, Growing.putNew, Growing.lookup,
      Growing.insert, fresh]

theorem takes_under (name : String) (before : List (String × Part)) :
    Takes (under name before) where
  put value fresh := by
    simp [under, Draft.put, Growing.within, Growing.put, Growing.putNew, Growing.lookup,
      Growing.insert, Entries.lookup_insert, Entries.insert_insert, fresh]

theorem header_fresh {name : String} {before : List (String × Part)} (path : List String)
    (fresh : Entries.lookup name before = none) :
    Draft.header [] name ⟨⟨.header, before⟩, path⟩ = some (under name before []) := by
  simp [under, Draft.header, Growing.within, Growing.openTable, Growing.lookup, Growing.insert,
    fresh]

theorem skipLines_cons {c : Char} (printed : isSpace c = false) (comment : c ≠ '#')
    (line : c ≠ '\n') (carriage : c ≠ '\r') (fuel : Nat) (rest : List Char) :
    skipLines fuel (c :: rest) = c :: rest := by
  cases fuel with
  | zero => rfl
  | succ fuel =>
      rw [skipLines, skipSpace_cons printed]
      split
      · next same => exact absurd (List.cons.inj same).1 comment
      · rw [Quoted.afterBreak?_cons line carriage]

theorem endWith_some (draft : Draft) (rest : List Char) :
    endWith (some draft) ('\n' :: rest) = some (draft, rest) := rfl

theorem readLines_nil (fuel : Nat) (draft : Draft) : readLines (fuel + 1) draft [] = some draft := rfl

theorem Shows.skipSpace_eq {value : Toml} (shows : Shows chars value) (rest : List Char) :
    skipSpace (chars ++ '\n' :: rest) = chars ++ '\n' :: rest := by
  cases chars with
  | nil => rfl
  | cons c more => exact skipSpace_cons (shows.starts c rfl) _

theorem readEntry_line {name : String} (bare : IsBare name) {value : Toml}
    (shows : Shows chars value) {draft next : Draft} (put : draft.put [] name value = some next) :
    readEntry draft (name.toList ++ (" = ".toList ++ (chars ++ '\n' :: rest)))
      = some (next, rest) := by
  have skipped : skipSpace (" = ".toList ++ (chars ++ '\n' :: rest))
      = '=' :: ' ' :: (chars ++ '\n' :: rest) := rfl
  have start : skipSpace (' ' :: (chars ++ '\n' :: rest)) = chars ++ '\n' :: rest :=
    shows.skipSpace_eq rest
  have ends : ∀ c ∈ (" = ".toList ++ (chars ++ '\n' :: rest)).head?, isBareChar c = false := by
    rintro _ ⟨⟩
    decide
  have key := readKey_bare bare ends (by rw [skipped]; simp)
  rw [skipped] at key
  simp only [readEntry, key, start, shows.read, put, endWith_some]

theorem readHeader_line {name : String} (bare : IsBare name) {draft next : Draft}
    (header : draft.header [] name = some next) :
    readHeader draft (name.toList ++ ("]\n".toList ++ rest)) = some (next, rest) := by
  have skipped : skipSpace ("]\n".toList ++ rest) = ']' :: '\n' :: rest := rfl
  have ends : ∀ c ∈ ("]\n".toList ++ rest).head?, isBareChar c = false := by
    rintro _ ⟨⟩
    decide
  have single : ∀ more, name.toList ++ ("]\n".toList ++ rest) ≠ '[' :: more := by
    obtain ⟨c, _, shown, first⟩ := bare.exists_cons
    intro more same
    rw [shown] at same
    exact ne_of_isBareChar first (by decide) (List.cons.inj same).1
  have key := readKey_bare bare ends (by rw [skipped]; simp)
  rw [skipped] at key
  simp only [readHeader.eq_2 _ _ single, key, header, endWith_some]

/-- A reader of lines comes over characters from one draft to another, in no more turns than there
    are characters. -/
def Leads (draft : Draft) (chars : List Char) (next : Draft) : Prop :=
  ∃ turns ≤ chars.length, ∀ fuel rest,
    readLines (turns + fuel) draft (chars ++ rest) = readLines fuel next rest

theorem Leads.nil (draft : Draft) : Leads draft [] draft := ⟨0, Nat.le_refl 0, by simp⟩

theorem Leads.append {first second third : Draft} {front back : List Char}
    (leads : Leads first front second) (onward : Leads second back third) :
    Leads first (front ++ back) third := by
  obtain ⟨turns, few, read⟩ := leads
  obtain ⟨more, few', read'⟩ := onward
  refine ⟨turns + more, ?_, fun fuel rest => ?_⟩
  · rw [List.length_append]
    exact Nat.add_le_add few few'
  · rw [Nat.add_assoc, List.append_assoc, read, read']

theorem leads_entry {name : String} (bare : IsBare name) {value : Toml} (shows : Shows chars value)
    {draft next : Draft} (put : draft.put [] name value = some next) :
    Leads draft (name.toList ++ (" = ".toList ++ (chars ++ ['\n']))) next := by
  obtain ⟨c, more, shown, first⟩ := bare.exists_cons
  have other : ∀ mark, isBareChar mark = false → c ≠ mark := fun _ => ne_of_isBareChar first
  have start : ∀ fuel more, skipLines fuel (c :: more) = c :: more :=
    skipLines_cons (isSpace_of_isBareChar first) (other '#' (by decide)) (other '\n' (by decide))
      (other '\r' (by decide))
  refine ⟨1, by rw [shown, List.cons_append, List.length_cons]; omega, fun fuel rest => ?_⟩
  have entry := @readEntry_line _ rest _ bare _ shows _ _ put
  have joined : name.toList ++ (" = ".toList ++ (chars ++ ['\n'])) ++ rest
      = name.toList ++ (" = ".toList ++ (chars ++ '\n' :: rest)) := by simp
  rw [joined, Nat.add_comm]
  rw [shown, List.cons_append] at entry ⊢
  rw [readLines, start]
  split
  · next same => simp at same
  · next same => exact absurd (List.cons.inj same).1 (other '#' (by decide))
  · next same => exact absurd (List.cons.inj same).1 (other '[' (by decide))
  · rw [entry]

theorem leads_header {name : String} (bare : IsBare name) {draft next : Draft}
    (header : draft.header [] name = some next) :
    Leads draft ("\n[".toList ++ (name.toList ++ "]\n".toList)) next := by
  have start : ∀ fuel more, skipLines (fuel + 1) ('\n' :: '[' :: more) = '[' :: more :=
    fun fuel more => skipLines_cons (by decide) (by decide) (by decide) (by decide) fuel more
  refine ⟨1, by simp, fun fuel rest => ?_⟩
  have line := @readHeader_line rest _ bare _ _ header
  have joined : "\n[".toList ++ (name.toList ++ "]\n".toList) ++ rest
      = '\n' :: '[' :: (name.toList ++ ("]\n".toList ++ rest)) := by simp
  rw [joined, Nat.add_comm]
  simp only [readLines, List.length_cons, start, line]

theorem read?_of_leads {text : String} {next : Draft} (leads : Leads Draft.empty text.toList next)
    (unmarked : text.toList.head? ≠ some byteOrderMark) : read? text = some next.toToml := by
  obtain ⟨turns, few, read⟩ := leads
  -- The reader has as many turns as there are characters and one more, for the end.
  obtain ⟨more, enough⟩ := Nat.le.dest few
  have whole := read (more + 1) []
  rw [List.append_nil, ← Nat.add_assoc, enough, readLines_nil] at whole
  unfold read?
  split
  · next c rest shown =>
      have other : c ≠ byteOrderMark := by simpa [shown] using unmarked
      rw [if_neg other, ← shown]
      simp only [whole, Option.map_some]
  · next shown =>
      rw [← shown]
      simp only [whole, Option.map_some]

theorem lookup_membersToToml (name : String) (members : List (String × Part)) :
    Entries.lookup name (membersToToml members) = (Entries.lookup name members).map Part.toToml := by
  induction members with
  | nil => rfl
  | cons head rest ih =>
      rw [membersToToml, Entries.lookup, Entries.lookup, ih]
      split
      · rfl
      · rfl

end Docket.Toml
