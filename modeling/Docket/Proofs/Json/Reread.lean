import Docket.Json.Printer
import Docket.Json.Reader
import Docket.Proofs.Json.NumberText
import Docket.Proofs.Table
/-!
A value that was written is read again.

`Json.reread?` is the value that a reader makes of a text that was written: strings and whole numbers
come back, members are put in order, and every real is the one that the reader finds for its text.
Reading the text of a value gives exactly that, unless the value nests deeper than the reader goes
(`Json.toOption_readValue`).
-/

namespace Docket.Json

open Text (isDigit)

section Strings

variable {rest : List Char}

theorem hexValue?_hexDigit (n : Nat) : hexValue? (hexDigit n) = some (n % 16) := by
  have all : ∀ digit : Fin 16, hexValue? (Nat.digitChar digit.val) = some digit.val := by decide
  exact all ⟨n % 16, Nat.mod_lt n (by decide)⟩

theorem readText_plain {c : Char} (inside : c ≠ '"') (plain : c ≠ '\\')
    (printable : ¬ c.toNat < 32) : readText (c :: rest) = consChar c (readText rest) := by
  rw [readText.eq_6 c rest inside]
  · simp [plain, printable]
  all_goals simp [plain]

theorem readText_short {letter short : Char} (known : shortEscape? letter = some short) :
    readText ('\\' :: letter :: rest) = consChar short (readText rest) := by
  have noCode : letter ≠ 'u' := by
    rintro rfl
    simp [shortEscape?] at known
  rw [readText.eq_5 letter rest, known]
  all_goals simp [noCode]

-- What follows decides which equation applies, and both say the same of a code that is whole.
theorem readText_code {a b c d plain : Char}
    (code : (hexQuad? a b c d).bind plainChar? = some plain) :
    readText ('\\' :: 'u' :: a :: b :: c :: d :: rest) = consChar plain (readText rest) := by
  obtain ⟨n, quad, whole⟩ := Option.bind_eq_some_iff.mp code
  by_cases pair : ∃ e f g h tail, rest = '\\' :: 'u' :: e :: f :: g :: h :: tail
  · obtain ⟨e, f, g, h, tail, rfl⟩ := pair
    simp only [readText.eq_3, quad, whole]
  · simp only [not_exists] at pair
    rw [readText.eq_4 a b c d rest pair, code]

theorem readText_escapeChar (c : Char) :
    readText (escapeChar c ++ rest) = consChar c (readText rest) := by
  unfold escapeChar
  split_ifs with quote slash back tab line feed carriage control
  · subst quote
    exact readText_short rfl
  · subst slash
    exact readText_short rfl
  · subst back
    exact readText_short rfl
  · subst tab
    exact readText_short rfl
  · subst line
    exact readText_short rfl
  · subst feed
    exact readText_short rfl
  · subst carriage
    exact readText_short rfl
  · apply readText_code
    have high : c.toNat / 16 % 16 = c.toNat / 16 := Nat.mod_eq_of_lt (by omega)
    have value : (c.toNat / 16) * 16 + c.toNat % 16 = c.toNat := by omega
    have whole : plainChar? c.toNat = some c := by
      rw [plainChar?, if_neg (by omega), Char.ofNat_toNat]
    have zero : hexValue? '0' = some 0 := rfl
    simp [hexQuad?, hexValue?_hexDigit, high, value, whole, zero]
  · exact readText_plain quote slash control

theorem readText_flatMap (text rest : List Char) :
    readText (text.flatMap escapeChar ++ '"' :: rest) = some (text, rest) := by
  induction text with
  | nil => rfl
  | cons c text ih =>
      rw [List.flatMap_cons, List.append_assoc, readText_escapeChar, ih]
      rfl

end Strings

/-! ### What a reader makes of a value -/

mutual

def reread? (real : WrittenDecimal → Option Binary64) : Json → Option Json
  | .number n => (n.reread? real).map .number
  | .array items => (rereadItems? real items).map .array
  | .object members => (rereadMembers? real members).map ofMembers
  | .null => some .null
  | .bool value => some (.bool value)
  | .string text => some (.string text)

def rereadItems? (real : WrittenDecimal → Option Binary64) : List Json → Option (List Json)
  | [] => some []
  | item :: rest => do
      let item ← reread? real item
      let rest ← rereadItems? real rest
      return item :: rest

def rereadMembers? (real : WrittenDecimal → Option Binary64) :
    List (String × Json) → Option (List (String × Json))
  | [] => some []
  | (name, value) :: rest => do
      let value ← reread? real value
      let rest ← rereadMembers? real rest
      return (name, value) :: rest

end

section Reread

variable {real : WrittenDecimal → Option Binary64}

theorem rereadItems?_cons {item item' : Json} (reread : item.reread? real = some item')
    (rest : List Json) :
    rereadItems? real (item :: rest) = (rereadItems? real rest).map (item' :: ·) := by
  rw [rereadItems?, reread]
  cases rereadItems? real rest with
  | none => rfl
  | some rest => rfl

theorem rereadMembers?_cons {name : String} {value value' : Json}
    (reread : value.reread? real = some value') (rest : List (String × Json)) :
    rereadMembers? real ((name, value) :: rest)
      = (rereadMembers? real rest).map ((name, value') :: ·) := by
  rw [rereadMembers?, reread]
  cases rereadMembers? real rest with
  | none => rfl
  | some rest => rfl

end Reread

theorem ofMembers_of_ascending {members : List (String × Json)}
    (sorted : Entries.Ascending members) : ofMembers members = .object members := by
  rw [ofMembers, Entries.foldl_insert_of_ascending (by simpa using sorted), List.nil_append]

mutual

def reals : Json → List Binary64
  | .number (.real x) => [x]
  | .array items => itemReals items
  | .object members => memberReals members
  | _ => []

def itemReals : List Json → List Binary64
  | [] => []
  | item :: rest => reals item ++ itemReals rest

def memberReals : List (String × Json) → List Binary64
  | [] => []
  | (_, value) :: rest => reals value ++ memberReals rest

end

section Canonical

variable {real : WrittenDecimal → Option Binary64}

theorem rereadItems?_cons_eq_some_iff {item : Json} {rest read : List Json} :
    rereadItems? real (item :: rest) = some read ↔
      ∃ item' rest', item.reread? real = some item' ∧ rereadItems? real rest = some rest' ∧
        item' :: rest' = read := by
  simp [rereadItems?, Option.bind_eq_some_iff]

theorem rereadMembers?_cons_eq_some_iff {name : String} {value : Json}
    {rest read : List (String × Json)} :
    rereadMembers? real ((name, value) :: rest) = some read ↔
      ∃ value' rest', value.reread? real = some value' ∧ rereadMembers? real rest = some rest' ∧
        (name, value') :: rest' = read := by
  simp [rereadMembers?, Option.bind_eq_some_iff]

theorem names_of_rereadMembers? {members read : List (String × Json)}
    (reread : rereadMembers? real members = some read) :
    read.map Prod.fst = members.map Prod.fst := by
  induction members generalizing read with
  | nil =>
      obtain rfl := Option.some.inj reread
      rfl
  | cons member rest ih =>
      obtain ⟨name, value⟩ := member
      obtain ⟨value', rest', _, others, rfl⟩ := rereadMembers?_cons_eq_some_iff.mp reread
      rw [List.map_cons, List.map_cons, ih others]

theorem reread?_object {members : List (String × Json)}
    (sorted : (members.map Prod.fst).Pairwise fun a b => Key.before a b = true) :
    (object members).reread? real = (rereadMembers? real members).map .object := by
  rw [reread?]
  apply Option.map_congr
  intro read reread
  rw [← names_of_rereadMembers? reread] at sorted
  exact ofMembers_of_ascending (List.pairwise_map.mp sorted)

mutual

/-- A value with its members in order comes back if and only if all of its reals do. -/
theorem reread?_eq_self_iff {json : Json} (sorted : json.canonical = true) :
    json.reread? real = some json ↔
      ∀ x ∈ json.reals, Number.reread? real (.real x) = some (.real x) := by
  cases json with
  | null => simp [reread?, reals]
  | bool value => simp [reread?, reals]
  | string text => simp [reread?, reals]
  | number n =>
      cases n with
      | integer value fits => simp [reread?, reals, Number.reread?_integer]
      | real x => simp [reread?, reals]
  | array items =>
      rw [canonical] at sorted
      simpa [reread?, reals] using rereadItems?_eq_self_iff sorted
  | object members =>
      rw [canonical, Bool.and_eq_true, decide_eq_true_eq] at sorted
      simpa [reread?_object sorted.1, reals] using rereadMembers?_eq_self_iff sorted.2

theorem rereadItems?_eq_self_iff {items : List Json} (sorted : canonicalItems items = true) :
    rereadItems? real items = some items ↔
      ∀ x ∈ itemReals items, Number.reread? real (.real x) = some (.real x) := by
  cases items with
  | nil => simp [rereadItems?, itemReals]
  | cons item rest =>
      rw [canonicalItems, Bool.and_eq_true] at sorted
      have first := reread?_eq_self_iff sorted.1
      have others := rereadItems?_eq_self_iff sorted.2
      simp [rereadItems?_cons_eq_some_iff, itemReals, or_imp, forall_and, first, others]

theorem rereadMembers?_eq_self_iff {members : List (String × Json)}
    (sorted : canonicalMembers members = true) :
    rereadMembers? real members = some members ↔
      ∀ x ∈ memberReals members, Number.reread? real (.real x) = some (.real x) := by
  cases members with
  | nil => simp [rereadMembers?, memberReals]
  | cons member rest =>
      obtain ⟨name, value⟩ := member
      rw [canonicalMembers, Bool.and_eq_true] at sorted
      have first := reread?_eq_self_iff sorted.1
      have others := rereadMembers?_eq_self_iff sorted.2
      simp [rereadMembers?_cons_eq_some_iff, memberReals, or_imp, forall_and, first, others]

end

mutual

theorem isSome_reread?_iff {json : Json} :
    (json.reread? real).isSome = true ↔
      ∀ x ∈ json.reals, (Number.reread? real (.real x)).isSome = true := by
  cases json with
  | null => simp [reread?, reals]
  | bool value => simp [reread?, reals]
  | string text => simp [reread?, reals]
  | number n =>
      cases n with
      | integer value fits => simp [reread?, reals, Number.reread?_integer]
      | real x => simp [reread?, reals]
  | array items => simpa [reread?, reals] using isSome_rereadItems?_iff
  | object members => simpa [reread?, reals] using isSome_rereadMembers?_iff

theorem isSome_rereadItems?_iff {items : List Json} :
    (rereadItems? real items).isSome = true ↔
      ∀ x ∈ itemReals items, (Number.reread? real (.real x)).isSome = true := by
  cases items with
  | nil => simp [rereadItems?, itemReals]
  | cons item rest =>
      have both : (rereadItems? real (item :: rest)).isSome = true ↔
          (item.reread? real).isSome = true ∧ (rereadItems? real rest).isSome = true := by
        simp [Option.isSome_iff_exists, rereadItems?_cons_eq_some_iff]
      rw [both, isSome_reread?_iff, isSome_rereadItems?_iff]
      simp [itemReals, or_imp, forall_and]

theorem isSome_rereadMembers?_iff {members : List (String × Json)} :
    (rereadMembers? real members).isSome = true ↔
      ∀ x ∈ memberReals members, (Number.reread? real (.real x)).isSome = true := by
  cases members with
  | nil => simp [rereadMembers?, memberReals]
  | cons member rest =>
      obtain ⟨name, value⟩ := member
      have both : (rereadMembers? real ((name, value) :: rest)).isSome = true ↔
          (value.reread? real).isSome = true ∧ (rereadMembers? real rest).isSome = true := by
        simp [Option.isSome_iff_exists, rereadMembers?_cons_eq_some_iff]
      rw [both, isSome_reread?_iff, isSome_rereadMembers?_iff]
      simp [memberReals, or_imp, forall_and]

end

mutual

theorem canonical_of_reread? {json read : Json} (sorted : json.canonical = true)
    (reread : json.reread? real = some read) : read.canonical = true := by
  cases json with
  | null => obtain rfl := Option.some.inj reread; rfl
  | bool value => obtain rfl := Option.some.inj reread; rfl
  | string text => obtain rfl := Option.some.inj reread; rfl
  | number n =>
      obtain ⟨n', _, rfl⟩ := Option.map_eq_some_iff.mp reread
      rfl
  | array items =>
      obtain ⟨items', others, rfl⟩ := Option.map_eq_some_iff.mp reread
      exact canonicalItems_of_rereadItems? sorted others
  | object members =>
      rw [canonical, Bool.and_eq_true, decide_eq_true_eq] at sorted
      rw [reread?_object sorted.1] at reread
      obtain ⟨members', others, rfl⟩ := Option.map_eq_some_iff.mp reread
      rw [canonical, names_of_rereadMembers? others, Bool.and_eq_true, decide_eq_true_eq]
      exact ⟨sorted.1, canonicalMembers_of_rereadMembers? sorted.2 others⟩

theorem canonicalItems_of_rereadItems? {items read : List Json}
    (sorted : canonicalItems items = true) (reread : rereadItems? real items = some read) :
    canonicalItems read = true := by
  cases items with
  | nil =>
      obtain rfl := Option.some.inj reread
      rfl
  | cons item rest =>
      rw [canonicalItems, Bool.and_eq_true] at sorted
      obtain ⟨item', rest', first, others, rfl⟩ := rereadItems?_cons_eq_some_iff.mp reread
      rw [canonicalItems, canonical_of_reread? sorted.1 first,
        canonicalItems_of_rereadItems? sorted.2 others, Bool.and_self]

theorem canonicalMembers_of_rereadMembers? {members read : List (String × Json)}
    (sorted : canonicalMembers members = true)
    (reread : rereadMembers? real members = some read) : canonicalMembers read = true := by
  cases members with
  | nil =>
      obtain rfl := Option.some.inj reread
      rfl
  | cons member rest =>
      obtain ⟨name, value⟩ := member
      rw [canonicalMembers, Bool.and_eq_true] at sorted
      obtain ⟨value', rest', first, others, rfl⟩ := rereadMembers?_cons_eq_some_iff.mp reread
      rw [canonicalMembers, canonical_of_reread? sorted.1 first,
        canonicalMembers_of_rereadMembers? sorted.2 others, Bool.and_self]

end

end Canonical

theorem skipBlank_cons {c : Char} (visible : isBlank c = false) (rest : List Char) :
    skipBlank (c :: rest) = c :: rest := by
  simp [skipBlank, visible]

theorem exists_chars_cons (json : Json) :
    ∃ c tail, json.chars = c :: tail ∧ isBlank c = false ∧ c ≠ ']' := by
  cases json with
  | null => exact ⟨_, _, rfl, by decide, by decide⟩
  | bool value =>
      cases value with
      | true => exact ⟨_, _, rfl, by decide, by decide⟩
      | false => exact ⟨_, _, rfl, by decide, by decide⟩
  | number n =>
      obtain ⟨c, tail, text, sign | digit⟩ := n.exists_chars_cons
      · exact ⟨c, tail, text, by rw [sign]; decide, by rw [sign]; decide⟩
      · refine ⟨c, tail, text, ?_, ?_⟩
        · cases blank : isBlank c with
          | false => rfl
          | true =>
              simp only [isBlank, Bool.or_eq_true, decide_eq_true_eq] at blank
              rcases blank with ((rfl | rfl) | rfl) | rfl
              all_goals exact absurd digit (by decide)
        · rintro rfl
          exact absurd digit (by decide)
  | string text => exact ⟨_, _, rfl, by decide, by decide⟩
  | array items =>
      cases items with
      | nil => exact ⟨_, _, rfl, by decide, by decide⟩
      | cons item rest => exact ⟨_, _, rfl, by decide, by decide⟩
  | object members =>
      cases members with
      | nil => exact ⟨_, _, rfl, by decide, by decide⟩
      | cons member rest => exact ⟨_, _, rfl, by decide, by decide⟩

theorem length_itemChars_pos (items : List Json) : 0 < (itemChars items).length := by
  cases items with
  | nil => simp [itemChars]
  | cons item more => simp [itemChars]

theorem length_memberChars_pos (members : List (String × Json)) :
    0 < (memberChars members).length := by
  cases members with
  | nil => simp [memberChars]
  | cons member more => simp [memberChars]

theorem skipBlank_itemChars (items : List Json) (rest : List Char) :
    skipBlank (itemChars items ++ rest) = itemChars items ++ rest := by
  cases items with
  | nil => exact skipBlank_cons (by decide) _
  | cons item more => exact skipBlank_cons (by decide) _

theorem skipBlank_memberChars (members : List (String × Json)) (rest : List Char) :
    skipBlank (memberChars members ++ rest) = memberChars members ++ rest := by
  cases members with
  | nil => exact skipBlank_cons (by decide) _
  | cons member more => exact skipBlank_cons (by decide) _

theorem delimited_itemChars (items : List Json) (rest : List Char) :
    Delimited (itemChars items ++ rest) := by
  cases items with
  | nil => simp [Delimited, itemChars, isDigit]
  | cons item more => simp [Delimited, itemChars, isDigit]

theorem delimited_memberChars (members : List (String × Json)) (rest : List Char) :
    Delimited (memberChars members ++ rest) := by
  cases members with
  | nil => simp [Delimited, memberChars, isDigit]
  | cons member more => simp [Delimited, memberChars, isDigit]

/-! ### Reading what was written -/

section Read

variable (reader : Reader)

theorem readName_stringChars (name : String) (rest : List Char) :
    readName (stringChars name.toList ++ ':' :: rest) = .ok (name, rest) := by
  have text := readText_flatMap name.toList (':' :: rest)
  have blank : isBlank ':' = false := by decide
  have blank' : isBlank '"' = false := by decide
  simp [readName, stringChars, skipBlank_cons, blank', text, blank]

theorem readValue_number (fuel room : Nat) (n : Number) {rest : List Char}
    (delimited : Delimited rest) :
    (readValue reader (fuel + 1) room (n.chars ++ rest)).toOption
      = (n.reread? reader.real).map fun n => (.number n, rest) := by
  obtain ⟨c, tail, text, visible, _⟩ := exists_chars_cons (.number n)
  obtain ⟨written, value, read⟩ := n.exists_written reader.real
  have taken := read rest delimited
  have start : ∀ head ∈ n.chars.head?, head = '-' ∨ isDigit head = true := by
    obtain ⟨first, more, own, sign⟩ := n.exists_chars_cons
    simpa [own] using sign
  change n.chars = c :: tail at text
  rw [text] at start taken ⊢
  have kind := start c rfl
  rw [readValue, List.cons_append, skipBlank_cons visible, ← List.cons_append]
  split
  case h_7 =>
    rw [taken]
    simp only [value]
    cases n.reread? reader.real with
    | none => rfl
    | some n => rfl
  -- A number is what no other value starts with.
  all_goals
    next same =>
      rw [(List.cons.inj same).1] at kind
      exact absurd kind (by decide)

theorem readValue_array {fuel room : Nat} (item : Json) (items : List Json) (rest : List Char) :
    (readValue reader (fuel + 1) (room + 1)
        ('[' :: (item.chars ++ itemChars items ++ rest))).toOption
      = (readItems reader fuel room (item.chars ++ itemChars items ++ rest)).toOption.map
          fun (items, rest) => (.array items, rest) := by
  obtain ⟨c, tail, text, visible, opened⟩ := exists_chars_cons item
  have blank : isBlank '[' = false := by decide
  simp only [text, List.cons_append, readValue, skipBlank_cons blank, skipBlank_cons visible]
  split
  · next same => exact absurd (List.cons.inj same).1 opened
  · cases readItems reader fuel room (c :: (tail ++ itemChars items ++ rest)) with
    | ok read => rfl
    | error fault => rfl

theorem readValue_object {fuel room : Nat} (name : String) (tail : List Char) :
    (readValue reader (fuel + 1) (room + 1) ('\x7b' :: (stringChars name.toList ++ tail))).toOption
      = (readMembers reader fuel room [] (stringChars name.toList ++ tail)).toOption.map
          fun (members, rest) => (.object members, rest) := by
  have blank : isBlank '\x7b' = false := by decide
  have blank' : isBlank '"' = false := by decide
  simp only [stringChars, List.cons_append, readValue, skipBlank_cons blank,
    skipBlank_cons blank']
  split
  · next same => exact absurd (List.cons.inj same).1 (by decide)
  · cases readMembers reader fuel room [] _ with
    | ok read => rfl
    | error fault => rfl

/-- What a reader answers to an array goes by its first item and by what comes after that. -/
theorem toOption_readItems_succ (fuel room : Nat) (chars : List Char) :
    (readItems reader (fuel + 1) room chars).toOption
      = (readValue reader fuel room chars).toOption.bind fun (item, rest) =>
          match skipBlank rest with
          | ']' :: rest => some ([item], rest)
          | ',' :: rest => (readItems reader fuel room rest).toOption.map
              fun (items, rest) => (item :: items, rest)
          | _ => none := by
  rw [readItems]
  cases readValue reader fuel room chars with
  | error fault => rfl
  | ok read =>
      obtain ⟨item, rest⟩ := read
      simp only [Except.toOption, Option.bind_some]
      cases skipBlank rest with
      | nil => rfl
      | cons c tail =>
          by_cases close : c = ']'
          · subst close
            rfl
          · by_cases comma : c = ','
            · subst comma
              simp only
              cases readItems reader fuel room tail with
              | error fault => rfl
              | ok read => rfl
            · simp [close, comma]

theorem toOption_readMembers_succ (fuel room : Nat) (before : List (String × Json))
    (name : String) (tail : List Char) :
    (readMembers reader (fuel + 1) room before (stringChars name.toList ++ ':' :: tail)).toOption
      = (readValue reader fuel room tail).toOption.bind fun (value, rest) =>
          match skipBlank rest with
          | '\x7d' :: rest => some (Entries.insert name value before, rest)
          | ',' :: rest =>
              (readMembers reader fuel room (Entries.insert name value before) rest).toOption
          | _ => none := by
  rw [readMembers, readName_stringChars]
  simp only
  cases readValue reader fuel room tail with
  | error fault => rfl
  | ok read =>
      obtain ⟨value, rest⟩ := read
      simp only [Except.toOption, Option.bind_some]
      cases skipBlank rest with
      | nil => rfl
      | cons c tail =>
          by_cases close : c = '\x7d'
          · subst close
            rfl
          · by_cases comma : c = ','
            · subst comma
              rfl
            · simp [close, comma]

mutual

-- A value and its place in a list cost one step each, so two for each character are enough.
theorem toOption_readValue {fuel room : Nat} (json : Json) {rest : List Char}
    (enough : 2 * json.chars.length ≤ fuel) (delimited : Delimited rest) :
    (readValue reader fuel room (json.chars ++ rest)).toOption
      = if json.depth ≤ room then (json.reread? reader.real).map fun json => (json, rest)
        else none := by
  obtain ⟨fuel, rfl⟩ : ∃ less, fuel = less + 1 := by
    obtain ⟨c, tail, text, _⟩ := exists_chars_cons json
    refine ⟨fuel - 1, ?_⟩
    rw [text, List.length_cons] at enough
    omega
  cases json with
  | null => rfl
  | bool value =>
      cases value with
      | true => rfl
      | false => rfl
  | number n =>
      simpa [chars, depth, reread?, Function.comp_def] using
        readValue_number reader fuel room n delimited
  | string text =>
      have read := readText_flatMap text.toList rest
      simp [chars, stringChars, readValue, skipBlank_cons, isBlank, read, depth, reread?,
        Except.toOption]
  | array items =>
      cases items with
      | nil =>
          cases room with
          | zero => rfl
          | succ room => simp [chars, readValue, skipBlank_cons, isBlank, depth, depthItems,
              reread?, rereadItems?, Except.toOption]
      | cons item items =>
          cases room with
          | zero => rfl
          | succ room =>
              simp only [chars, List.cons_append, List.length_cons] at enough ⊢
              rw [readValue_array, toOption_readItems item items (by omega)]
              simp only [depth, Nat.add_le_add_iff_right, reread?]
              split
              · simp [Function.comp_def]
              · rfl
  | object members =>
      cases members with
      | nil =>
          cases room with
          | zero => rfl
          | succ room => simp [chars, readValue, skipBlank_cons, isBlank, depth, depthMembers,
              reread?, rereadMembers?, ofMembers, Except.toOption]
      | cons member members =>
          obtain ⟨name, value⟩ := member
          cases room with
          | zero => rfl
          | succ room =>
              have text : chars (.object ((name, value) :: members)) ++ rest
                  = '\x7b' :: (stringChars name.toList
                    ++ ':' :: (value.chars ++ memberChars members ++ rest)) := by
                simp [chars]
              have short : 2 * (value.chars ++ memberChars members).length ≤ fuel := by
                simp only [chars, List.length_append, List.length_cons] at enough ⊢
                omega
              rw [text, readValue_object, toOption_readMembers [] name value members short]
              simp only [depth, Nat.add_le_add_iff_right, reread?]
              split
              · simp [Function.comp_def, ofMembers]
              · rfl

theorem toOption_readItems {fuel room : Nat} (item : Json) (items : List Json)
    {rest : List Char} (enough : 2 * (item.chars ++ itemChars items).length ≤ fuel) :
    (readItems reader fuel room (item.chars ++ itemChars items ++ rest)).toOption
      = if depthItems (item :: items) ≤ room then
          (rereadItems? reader.real (item :: items)).map fun items => (items, rest)
        else none := by
  have filled := length_itemChars_pos items
  rw [List.length_append] at enough
  obtain ⟨fuel, rfl⟩ : ∃ less, fuel = less + 1 := ⟨fuel - 1, by omega⟩
  rw [List.append_assoc, toOption_readItems_succ,
    toOption_readValue item (by omega) (delimited_itemChars items rest)]
  by_cases deep : item.depth ≤ room
  · cases reread : item.reread? reader.real with
    | none => simp [deep, reread, rereadItems?]
    | some item' =>
        simp only [deep, if_true, Option.map_some, Option.bind_some, skipBlank_itemChars]
        cases items with
        | nil => simp [itemChars, depthItems, deep, rereadItems?, reread]
        | cons next more =>
            simp only [itemChars, List.cons_append, List.length_cons] at enough ⊢
            rw [toOption_readItems next more (by omega), rereadItems?_cons reread]
            simp only [depthItems.eq_2 item, max_le_iff, deep, true_and]
            split
            · simp [Function.comp_def]
            · rfl
  · simp [deep, depthItems]

theorem toOption_readMembers {fuel room : Nat} (before : List (String × Json)) (name : String)
    (value : Json) (members : List (String × Json)) {rest : List Char}
    (enough : 2 * (value.chars ++ memberChars members).length ≤ fuel) :
    (readMembers reader fuel room before
        (stringChars name.toList ++ ':' :: (value.chars ++ memberChars members ++ rest))).toOption
      = if depthMembers ((name, value) :: members) ≤ room then
          (rereadMembers? reader.real ((name, value) :: members)).map fun members =>
            (members.foldl (fun sorted member => Entries.insert member.1 member.2 sorted) before,
              rest)
        else none := by
  have filled := length_memberChars_pos members
  rw [List.length_append] at enough
  obtain ⟨fuel, rfl⟩ : ∃ less, fuel = less + 1 := ⟨fuel - 1, by omega⟩
  rw [toOption_readMembers_succ, List.append_assoc,
    toOption_readValue value (by omega) (delimited_memberChars members rest)]
  by_cases deep : value.depth ≤ room
  · cases reread : value.reread? reader.real with
    | none => simp [deep, reread, rereadMembers?]
    | some value' =>
        simp only [deep, if_true, Option.map_some, Option.bind_some, skipBlank_memberChars]
        cases members with
        | nil => simp [memberChars, depthMembers, deep, rereadMembers?, reread]
        | cons next more =>
            obtain ⟨name', next⟩ := next
            have text : memberChars ((name', next) :: more) ++ rest
                = ',' :: (stringChars name'.toList
                  ++ ':' :: (next.chars ++ memberChars more ++ rest)) := by
              simp [memberChars]
            have short : 2 * (next.chars ++ memberChars more).length ≤ fuel := by
              simp only [memberChars, List.length_append, List.length_cons] at enough ⊢
              omega
            rw [text]
            simp only
            rw [toOption_readMembers (Entries.insert name value' before) name' next more short,
              rereadMembers?_cons reread]
            simp only [depthMembers.eq_2 name value, max_le_iff, deep, true_and]
            split
            · simp [Function.comp_def]
            · rfl
  · simp [deep, depthMembers]

end

/-- A value that was written is read again unless it nests too deep. -/
theorem toOption_read_text (json : Json) :
    (reader.read json.text).toOption
      = if json.depth ≤ reader.levels then json.reread? reader.real else none := by
  have taken : (readValue reader (2 * json.chars.length + 2) reader.levels
      (json.chars ++ [])).toOption = _ := toOption_readValue reader json (by omega) .nil
  rw [List.append_nil] at taken
  simp only [Reader.read, text, String.toList_ofList]
  cases read : readValue reader (2 * json.chars.length + 2) reader.levels json.chars with
  | error fault =>
      rw [read] at taken
      have nothing : none = if json.depth ≤ reader.levels then json.reread? reader.real
          else none := by
        split at taken
        · next shallow =>
            rw [if_pos shallow]
            exact (Option.map_eq_none_iff.mp taken.symm).symm
        · next deep => rw [if_neg deep]
      cases fault with
      | malformed => exact nothing
      | tooDeep rest => exact nothing
  | ok answer =>
      rw [read] at taken
      split at taken
      · next shallow =>
          obtain ⟨value, reread, rfl⟩ := Option.map_eq_some_iff.mp taken.symm
          simp [shallow, reread, skipBlank, Except.toOption]
      · simp [Except.toOption] at taken

end Read

theorem toOption_readStored_text (json : Json) :
    (readStored json.text).toOption
      = if json.depth ≤ 127 then json.reread? WrittenDecimal.scaled? else none :=
  toOption_read_text storedReader json

end Docket.Json
