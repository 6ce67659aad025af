import Docket.Proofs.Json.Reread
import Docket.Proofs.Sql.Numbers
import Mathlib.Data.List.TakeWhile
/-!
The condition that a path leads to a scalar with a given text, on the stored text of a body.

The database finds in a stored text what it finds in the body, each real as it reads it
(`Expr.atPath_text`). A valid path leads it to what it leads to in the body, or to more: its names may
also be the beginnings of names with a NUL (`Expr.descend_of_descend`). What it finds it compares by
its type, and that is not always its text, so the condition agrees with the texts of the body's own
scalars only where the found scalar is one that is compared by its text
(`Expr.bodyScalarEq_agrees_iff`).
-/

namespace Docket.Json

theorem canonical_of_mem {members : List (String × Json)} (sorted : canonicalMembers members = true)
    {member : String × Json} (inside : member ∈ members) : member.2.canonical = true := by
  induction members with
  | nil => simp at inside
  | cons first rest ih =>
      rw [canonicalMembers, Bool.and_eq_true] at sorted
      rcases List.mem_cons.mp inside with rfl | later
      · exact sorted.1
      · exact ih sorted.2 later

theorem canonical_of_member? {name : String} {json value : Json} (sorted : json.canonical = true)
    (found : json.member? name = some value) : value.canonical = true := by
  cases json with
  | object members =>
      rw [canonical, Bool.and_eq_true] at sorted
      exact canonical_of_mem sorted.2 (Entries.mem_of_lookup found)
  | null | bool | number | string | array => simp [member?] at found

theorem null_notMem_of_validPath {path : String} (valid : validPath path = true) :
    ∀ name ∈ pathNames path, '\x00' ∉ name.toList := by
  intro name member null
  obtain ⟨part, inside, rfl⟩ := List.mem_map.mp member
  have plain := List.all_eq_true.mp valid part inside
  rw [Bool.and_eq_true, List.all_eq_true] at plain
  rw [String.toList_ofList] at null
  exact absurd (plain.2 _ null) (by decide)

end Docket.Json

namespace Docket.Sql.Expr

section Descend

variable {name : String} {names : List String} {json value : Json}

theorem canonical_of_member? (sorted : json.canonical = true) (found : member? name json = some value) :
    value.canonical = true := by
  cases json with
  | object members =>
      rw [Json.canonical, Bool.and_eq_true] at sorted
      obtain ⟨member, first, rfl⟩ := Option.map_eq_some_iff.mp found
      exact Json.canonical_of_mem sorted.2 (List.mem_of_find?_eq_some first)
  | null | bool | number | string | array => simp [member?] at found

variable {real : WrittenDecimal → Option Binary64}

theorem member?_of_rereadMembers? {members read : List (String × Json)}
    (reread : Json.rereadMembers? real members = some read) (name : String) :
    member? name (.object read) = (member? name (.object members)).bind (Json.reread? real) := by
  induction members generalizing read with
  | nil =>
      obtain rfl := Option.some.inj reread
      rfl
  | cons first rest ih =>
      obtain ⟨own, value⟩ := first
      obtain ⟨value', rest', here, others, rfl⟩ := Json.rereadMembers?_cons_eq_some_iff.mp reread
      have behind := ih others
      simp only [member?, List.find?_cons] at behind ⊢
      split
      · exact here.symm
      · exact behind

theorem member?_of_reread? {read : Json} (sorted : json.canonical = true)
    (reread : json.reread? real = some read) (name : String) :
    member? name read = (member? name json).bind (Json.reread? real) := by
  cases json with
  | object members =>
      rw [Json.canonical, Bool.and_eq_true, decide_eq_true_eq] at sorted
      rw [Json.reread?_object sorted.1] at reread
      obtain ⟨read, others, rfl⟩ := Option.map_eq_some_iff.mp reread
      exact member?_of_rereadMembers? others name
  | number n =>
      obtain ⟨n', _, rfl⟩ := Option.map_eq_some_iff.mp reread
      rfl
  | array items =>
      obtain ⟨items', _, rfl⟩ := Option.map_eq_some_iff.mp reread
      rfl
  | null | bool | string =>
      obtain rfl := Option.some.inj reread
      rfl

theorem exists_reread? (json : Json) :
    ∃ read, json.reread? WrittenDecimal.extended? = some read := by
  apply Option.isSome_iff_exists.mp
  rw [Json.isSome_reread?_iff]
  intro x _
  obtain ⟨y, read⟩ := Number.exists_reread?_extended x
  rw [read]
  rfl

theorem descend_of_reread? {read : Json} (sorted : json.canonical = true)
    (reread : json.reread? WrittenDecimal.extended? = some read) (names : List String) :
    descend names read = (descend names json).bind (Json.reread? WrittenDecimal.extended?) := by
  induction names generalizing json read with
  | nil => exact reread.symm
  | cons name rest ih =>
      rw [descend, descend, member?_of_reread? sorted reread name]
      cases here : member? name json with
      | none => rfl
      | some value =>
          obtain ⟨value', below⟩ := exists_reread? value
          simpa [below] using ih (canonical_of_member? sorted here) below

theorem not_before_of_takeWhile_eq {own name : String} {more : Char → Bool}
    (same : own.toList.takeWhile more = name.toList) : Key.before own name = false := by
  have begins : name.toList <+: own.toList := same ▸ List.takeWhile_prefix _
  have late : ¬ own.toList < name.toList := List.not_lt.mpr begins.le
  exact decide_eq_false late

theorem member?_object_cons (own : String) (value : Json) (rest : List (String × Json)) :
    member? name (.object ((own, value) :: rest))
      = if own.toList.takeWhile (fun c => c ≠ '\x00') = name.toList then some value
        else member? name (.object rest) := by
  simp only [member?, List.find?_cons]
  split
  · next here => rw [if_pos (eq_of_beq here), Option.map_some]
  · next other => rw [if_neg (ne_of_beq_false other)]

theorem member?_of_lookup {members : List (String × Json)} (sorted : Entries.Ascending members)
    (plain : '\x00' ∉ name.toList) (found : Entries.lookup name members = some value) :
    member? name (.object members) = some value := by
  have own : name.toList.takeWhile (fun c => c ≠ '\x00') = name.toList := by
    rw [List.takeWhile_eq_self_iff]
    intro c member
    have other : c ≠ '\x00' := fun null => plain (null ▸ member)
    simpa using other
  induction members with
  | nil => simp [Entries.lookup] at found
  | cons first rest ih =>
      obtain ⟨name', value'⟩ := first
      obtain ⟨later, ascending⟩ := List.pairwise_cons.mp sorted
      rw [Entries.lookup] at found
      split at found
      · next here =>
          subst here
          obtain rfl := Option.some.inj found
          rw [member?_object_cons, if_pos own]
      · -- The first name comes before the one that is sought, so it does not begin with it.
        have before := later _ (Entries.mem_of_lookup found)
        have other : name'.toList.takeWhile (fun c => c ≠ '\x00') ≠ name.toList := by
          intro same
          rw [not_before_of_takeWhile_eq same] at before
          exact absurd before (by decide)
        rw [member?_object_cons, if_neg other]
        exact ih ascending found

theorem descend_of_descend (sorted : json.canonical = true)
    (plain : ∀ name ∈ names, '\x00' ∉ name.toList) (found : Json.descend names json = some value) :
    descend names json = some value := by
  induction names generalizing json with
  | nil => exact found
  | cons name rest ih =>
      rw [Json.descend] at found
      split at found
      · next inside here =>
          have below := ih (Json.canonical_of_member? sorted here)
            (fun name member => plain name (List.mem_cons_of_mem _ member)) found
          cases json with
          | object members =>
              rw [Json.canonical, Bool.and_eq_true, decide_eq_true_eq] at sorted
              have member := member?_of_lookup (List.pairwise_map.mp sorted.1)
                (plain name List.mem_cons_self) here
              rw [descend, member, Option.bind_some, below]
          | null | bool | number | string | array => simp [Json.member?] at here
      · simp at found

theorem atPath_text (sorted : json.canonical = true) (path : String) :
    atPath json.text ("$." ++ path)
      = if json.depth ≤ 1000 then
          .ok ((descend (Json.pathNames path) json).bind (Json.reread? WrittenDecimal.extended?))
        else .error .malformedJson := by
  obtain ⟨stored, reread⟩ := exists_reread? json
  have names : ("$." ++ path).toList = '$' :: '.' :: path.toList := by simp
  have read : (databaseReader.read json.text).toOption
      = if json.depth ≤ 1000 then some stored else none := by
    rw [← reread]
    exact Json.toOption_read_text databaseReader json
  simp only [atPath, names, String.ofList_toList]
  cases answer : databaseReader.read json.text with
  | ok value =>
      rw [answer] at read
      split at read
      · next shallow =>
          obtain rfl := Option.some.inj read
          simp only [if_pos shallow]
          rw [descend_of_reread? sorted reread]
      · simp [Except.toOption] at read
  | error cause =>
      rw [answer] at read
      split at read
      · simp [Except.toOption] at read
      · next deep => simp only [if_neg deep]

end Descend

def passes (text : String) : Json → Bool
  | .bool value => text == (if value then "true" else "false")
  | .number (.integer n _) => isTrue (compareEq (cast (integerValue n)) (.text text))
  | .number (.real x) => isTrue (compareEq (.real x) (.ofOption (canonicalReal? text)))
  | .string own => own == text
  | .null | .array _ | .object _ => false

@[simp] theorem isTrue_ofBool (b : Bool) : isTrue (ofBool b) = b := by cases b <;> rfl

theorem eval_bodyScalarEq (stored path text : String) :
    ((bodyScalarEq path text).eval stored).map isTrue
      = (atPath stored path).map fun found => found.any (passes text) := by
  cases found : atPath stored path with
  | error cause => simp [bodyScalarEq, eval, found, Except.map]
  | ok answer =>
      cases answer with
      | none => simp [bodyScalarEq, eval, evalBranch, found, Except.map, isTrue]
      | some json =>
          cases json with
          | number n =>
              cases n with
              | integer n fits =>
                  simp [bodyScalarEq, eval, evalBranch, found, Except.map, typeName, valueOf, passes]
              | real x =>
                  simp [bodyScalarEq, eval, evalBranch, found, Except.map, typeName, valueOf, passes]
          | bool value =>
              cases value with
              | true =>
                  simp [bodyScalarEq, eval, evalBranch, found, Except.map, typeName, passes,
                    compareEq]
              | false =>
                  simp [bodyScalarEq, eval, evalBranch, found, Except.map, typeName, passes,
                    compareEq]
          | string own =>
              simp [bodyScalarEq, eval, evalBranch, found, Except.map, typeName, valueOf, passes,
                compareEq]
          | null | array | object =>
              simp [bodyScalarEq, eval, evalBranch, found, Except.map, typeName, passes, isTrue]

section Passes

variable {text : String} {n : Int} {fits : -2 ^ 63 ≤ n ∧ n < 2 ^ 64} {x y : Binary64}

theorem passes_integer_of_lt (small : n < 2 ^ 63) :
    passes text (.number (.integer n fits)) = ((Number.integer n fits).text == text) := by
  have value : integerValue n = .integer n := if_pos ⟨fits.1, small⟩
  simp [passes, value, cast, compareEq, Number.text, Number.chars]

/-- A whole number beyond 64 signed bits passes for the text of a real. -/
theorem passes_integer_of_ge (fits : -2 ^ 63 ≤ n ∧ n < 2 ^ 64) (large : 2 ^ 63 ≤ n) :
    ∃ x, ∀ text, passes text (.number (.integer n fits)) = (realText x == text) := by
  obtain ⟨x, value⟩ := integerValue_eq_real fits large
  exact ⟨x, fun text => by simp [passes, value, cast, compareEq]⟩

theorem passes_real_iff :
    passes text (.number (.real x)) = true
      ↔ ∃ y, (Number.real y).text = text ∧ x.sameNumber y = true := by
  simp only [← canonicalReal?_eq_some_iff]
  cases sought : canonicalReal? text with
  | none => simp [passes, sought, Value.ofOption, compareEq, isTrue]
  | some y => simp [passes, sought, Value.ofOption, compareEq]

theorem passes_real_self (x : Binary64) :
    passes (Number.real x).text (.number (.real x)) = true :=
  passes_real_iff.mpr ⟨x, rfl, x.sameNumber_self⟩

/-- A real passes for its own text alone, unless it is a zero. -/
theorem passes_real_of_nonzero (nonzero : x.isZero = false) :
    passes text (.number (.real x)) = ((Number.real x).text == text) := by
  rw [Bool.eq_iff_iff, passes_real_iff, beq_iff_eq]
  constructor
  · rintro ⟨y, own, same⟩
    rwa [Binary64.eq_of_sameNumber nonzero same]
  · exact fun own => ⟨x, own, x.sameNumber_self⟩

theorem passes_real_of_zero (nothing : x.isZero = true) (negative : Bool) :
    passes (Number.real (.zero negative)).text (.number (.real x)) = true :=
  passes_real_iff.mpr ⟨.zero negative, rfl, Binary64.sameNumber_zero nothing negative⟩

end Passes

/-- Whether the database compares a scalar by its text. Whole numbers that it holds as reals, reals
    that it reads as others, and zeros with a point are compared otherwise. -/
def ComparedAsText : Json → Prop
  | .number (.integer n _) => n < 2 ^ 63
  | .number (.real x) =>
      (Number.real x).reread? WrittenDecimal.extended? = some (.real x) ∧ x.isZero = false
  | _ => True

instance (json : Json) : Decidable (ComparedAsText json) := by
  unfold ComparedAsText
  split <;> infer_instance

section Compared

variable {found read : Json}

theorem exists_passes (reread : found.reread? WrittenDecimal.extended? = some read)
    (scalar : found.scalarText ≠ none) : ∃ text, passes text read = true := by
  cases found with
  | number n =>
      obtain ⟨n', own, rfl⟩ := Option.map_eq_some_iff.mp reread
      cases n with
      | integer n fits =>
          rw [Number.reread?_integer] at own
          obtain rfl := Option.some.inj own
          by_cases small : n < 2 ^ 63
          · exact ⟨_, (passes_integer_of_lt small).trans (beq_self_eq_true _)⟩
          · obtain ⟨x, passes⟩ := passes_integer_of_ge fits (Int.not_lt.mp small)
            exact ⟨realText x, by rw [passes, beq_self_eq_true]⟩
      | real x =>
          obtain ⟨y, read⟩ := Number.exists_reread?_extended x
          rw [read] at own
          obtain rfl := Option.some.inj own
          exact ⟨_, passes_real_self y⟩
  | bool value =>
      obtain rfl := Option.some.inj reread
      exact ⟨_, beq_self_eq_true _⟩
  | string own =>
      obtain rfl := Option.some.inj reread
      exact ⟨own, beq_self_eq_true _⟩
  | null | array | object => exact absurd rfl scalar

theorem passes_iff_scalarText (reread : found.reread? WrittenDecimal.extended? = some read) :
    (∀ text, passes text read = (found.scalarText == some text))
      ↔ found.scalarText = none ∨ ComparedAsText found := by
  cases found with
  | number n =>
      obtain ⟨n', own, rfl⟩ := Option.map_eq_some_iff.mp reread
      simp only [Json.scalarText, Option.some_beq_some, reduceCtorEq, false_or]
      cases n with
      | integer n fits =>
          rw [Number.reread?_integer] at own
          obtain rfl := Option.some.inj own
          constructor
          · intro agree
            by_contra large
            obtain ⟨x, passes⟩ := passes_integer_of_ge fits (Int.not_lt.mp large)
            have same := agree (realText x)
            rw [passes, beq_self_eq_true, eq_comm, beq_iff_eq] at same
            exact realText_ne_integer x n fits same.symm
          · exact fun small text => passes_integer_of_lt small
      | real x =>
          constructor
          · intro agree
            obtain ⟨y, read⟩ := Number.exists_reread?_extended x
            rw [read] at own
            obtain rfl := Option.some.inj own
            have same : x = y := by
              apply Number.text_real_injective
              rw [← beq_iff_eq, ← agree]
              exact passes_real_self y
            subst same
            refine ⟨read, ?_⟩
            by_contra nothing
            have zero := passes_real_of_zero (Bool.not_eq_false _ ▸ nothing) (!x.negative)
            rw [agree, beq_iff_eq] at zero
            have signs := congrArg Binary64.negative (Number.text_real_injective zero)
            cases sign : x.negative <;> simp [sign, Binary64.zero] at signs
          · rintro ⟨read, nonzero⟩ text
            rw [read] at own
            obtain rfl := Option.some.inj own
            exact passes_real_of_nonzero nonzero
  | bool value =>
      obtain rfl := Option.some.inj reread
      simp only [ComparedAsText, or_true, iff_true]
      intro text
      cases value with
      | true => simp [passes, Json.scalarText, eq_comm]
      | false => simp [passes, Json.scalarText, eq_comm]
  | string own =>
      obtain rfl := Option.some.inj reread
      simp [passes, Json.scalarText, ComparedAsText]
  | null =>
      obtain rfl := Option.some.inj reread
      simp [passes, Json.scalarText]
  | array items =>
      obtain ⟨items', _, rfl⟩ := Option.map_eq_some_iff.mp reread
      simp [passes, Json.scalarText]
  | object members =>
      obtain ⟨members', _, rfl⟩ := Option.map_eq_some_iff.mp reread
      simp [passes, Json.scalarText, Json.ofMembers]

end Compared

theorem exists_eval_bodyScalarEq {json : Json} (sorted : json.canonical = true)
    (shallow : json.depth ≤ 1000) (path text : String) :
    ∃ value, (bodyScalarEq ("$." ++ path) text).eval json.text = .ok value := by
  have evaluated := eval_bodyScalarEq json.text ("$." ++ path) text
  rw [atPath_text sorted, if_pos shallow] at evaluated
  cases answer : (bodyScalarEq ("$." ++ path) text).eval json.text with
  | ok value => exact ⟨value, rfl⟩
  | error cause => simp [answer, Except.map] at evaluated

/-- The condition agrees with the body's own scalars if and only if the body does not nest deeper than
    the database reads, and what the path leads the database to is no scalar or is what it leads to in
    the body and is compared by its text. -/
theorem bodyScalarEq_agrees_iff (body : Body) {path : String} (valid : Json.validPath path = true) :
    (∀ text, ((bodyScalarEq ("$." ++ path) text).eval body.json.text).map isTrue
        = .ok (body.json.scalarAt path == some text))
      ↔ body.json.depth ≤ 1000 ∧
        ∀ found, descend (Json.pathNames path) body.json = some found →
          found.scalarText = none ∨
            (Json.descend (Json.pathNames path) body.json = some found ∧ ComparedAsText found) := by
  have more : ∀ value, Json.descend (Json.pathNames path) body.json = some value →
      descend (Json.pathNames path) body.json = some value := fun value =>
    descend_of_descend body.canonical (Json.null_notMem_of_validPath valid)
  simp only [eval_bodyScalarEq, atPath_text body.canonical, Json.scalarAt]
  by_cases shallow : body.json.depth ≤ 1000
  · simp only [shallow, if_true, Except.map, Except.ok.injEq, true_and]
    cases found : descend (Json.pathNames path) body.json with
    | none =>
        have nothing : Json.descend (Json.pathNames path) body.json = none := by
          cases own : Json.descend (Json.pathNames path) body.json with
          | none => rfl
          | some value => simp [more value own] at found
        simp [nothing]
    | some found' =>
        obtain ⟨read, reread⟩ := exists_reread? found'
        have compared := passes_iff_scalarText reread
        simp only [Option.bind_some, reread, Option.any_some, Option.some.injEq, forall_eq']
        cases own : Json.descend (Json.pathNames path) body.json with
        | some value =>
            obtain rfl : found' = value := Option.some.inj (found.symm.trans (more value own))
            simpa using compared
        | none =>
            simp only [Option.bind_none, reduceCtorEq, false_and, or_false]
            constructor
            · intro never
              by_contra scalar
              obtain ⟨text, passes⟩ := exists_passes reread scalar
              simp [never] at passes
            · intro noScalar text
              rw [compared.mpr (.inl noScalar), noScalar]
  · simp [shallow, Except.map]

def weighted : Body where
  json := .object [("load", .object [("tons", .number (.real ⟨false, 3 * 2 ^ 51, 1022, by decide⟩))])]
  canonical := by decide +kernel

theorem weighted_agrees :
    Json.validPath "load.tons" = true ∧ weighted.json.scalarAt "load.tons" = some "1.5" ∧
      ∀ text, ((bodyScalarEq ("$." ++ "load.tons") text).eval weighted.json.text).map isTrue
        = .ok (weighted.json.scalarAt "load.tons" == some text) := by
  have valid : Json.validPath "load.tons" = true := by decide +kernel
  have shown : weighted.json.scalarAt "load.tons" = some "1.5" := by decide +kernel
  refine ⟨valid, shown, (bodyScalarEq_agrees_iff weighted valid).mpr ⟨by decide +kernel, ?_⟩⟩
  have real : descend (Json.pathNames "load.tons") weighted.json
      = some (.number (.real ⟨false, 3 * 2 ^ 51, 1022, by decide⟩)) := by decide +kernel
  intro found same
  obtain rfl := Option.some.inj (real.symm.trans same)
  exact .inr ⟨by decide +kernel, by decide +kernel⟩

def negativeZero : Body where
  json := .object [("a", .number (.real (.zero true)))]
  canonical := by decide +kernel

/-- A negative zero is found by the text of the other zero. -/
theorem negativeZero_disagrees :
    Json.validPath "a" = true ∧ negativeZero.isObject = true ∧
      ((bodyScalarEq ("$." ++ "a") "0.0").eval negativeZero.json.text).map isTrue = .ok true ∧
      negativeZero.json.scalarAt "a" = some "-0.0" := by
  decide +kernel

end Docket.Sql.Expr
