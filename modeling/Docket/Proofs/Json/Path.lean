import Docket.Proofs.Table
import Docket.Json.Path
/-!
Paths that list scalars and paths that lead to them.

A listed path joins the names that lead to a scalar. Joined names can be split again only if none of
them is empty or holds a point. So a scalar that a valid path leads to is listed under that path
(`mem_flatten_of_scalarAt`), and a scalar listed under a path is found by it in a value all of whose
names are plain (`scalarAt_of_mem_flatten`).
-/

namespace Docket.Json

theorem splitAt_eq_splitOn (separator : Char) (chars : List Char) :
    splitAt separator chars = chars.splitOn separator := by
  induction chars with
  | nil => rfl
  | cons c rest ih =>
      simp only [splitAt, ih, List.splitOn, List.splitOnP_cons_eq_if_modifyHead]
      by_cases here : c = separator
      · simp [here]
      · rw [if_neg here, if_neg (by simpa using here)]
        cases parts : rest.splitOnP (· == separator) with
        | nil => exact absurd parts (List.splitOnP_ne_nil _ _)
        | cons part parts => rfl

def PlainName (name : String) : Prop := name ≠ "" ∧ '.' ∉ name.toList

instance (name : String) : Decidable (PlainName name) := inferInstanceAs (Decidable (_ ∧ _))

theorem toList_foldl_joinPath {above : String} (below : above ≠ "") (names : List String) :
    (names.foldl joinPath above).toList
      = List.intercalate ['.'] (above.toList :: names.map String.toList) := by
  induction names generalizing above with
  | nil => simp
  | cons name rest ih =>
      have joined : joinPath above name = above ++ "." ++ name := if_neg below
      rw [List.foldl_cons, ih (by simp [joined]), joined, List.map_cons, List.intercalate_cons_cons]
      cases rest with
      | nil => simp
      | cons next rest => simp [List.intercalate_cons_cons]

theorem toList_foldl_joinPath_cons {name : String} (plain : name ≠ "") (rest : List String) :
    ((name :: rest).foldl joinPath "").toList
      = List.intercalate ['.'] ((name :: rest).map String.toList) := by
  rw [List.foldl_cons, show joinPath "" name = name from rfl, toList_foldl_joinPath plain,
    List.map_cons]

theorem pathNames_foldl_joinPath {names : List String} (some : names ≠ [])
    (plain : ∀ name ∈ names, PlainName name) : pathNames (names.foldl joinPath "") = names := by
  cases names with
  | nil => exact absurd rfl some
  | cons name rest =>
      have apart : ∀ part ∈ (name :: rest).map String.toList, '.' ∉ part := by
        intro part member
        obtain ⟨name', member', rfl⟩ := List.mem_map.mp member
        exact (plain name' member').2
      rw [pathNames, toList_foldl_joinPath_cons (plain name List.mem_cons_self).1,
        splitAt_eq_splitOn, List.splitOn_intercalate _ apart (by simp), List.map_map]
      simp [Function.comp_def]

theorem foldl_joinPath_pathNames {path : String} (valid : validPath path = true) :
    (pathNames path).foldl joinPath "" = path ∧ path ≠ "" := by
  have parts : ∀ part ∈ splitAt '.' path.toList, part ≠ [] := by
    intro part member nothing
    simpa [nothing] using List.all_eq_true.mp valid part member
  have joined : List.intercalate ['.'] (splitAt '.' path.toList) = path.toList := by
    rw [splitAt_eq_splitOn, List.intercalate_splitOn]
  cases split : splitAt '.' path.toList with
  | nil =>
      rw [splitAt_eq_splitOn] at split
      exact absurd split (List.splitOn_ne_nil _ _)
  | cons part rest =>
      have named : part ≠ [] := parts part (by simp [split])
      have names : pathNames path = String.ofList part :: rest.map String.ofList := by
        rw [pathNames, split, List.map_cons]
      constructor
      · rw [names, ← String.toList_inj, toList_foldl_joinPath_cons (by simpa using named),
          ← joined, split]
        simp [Function.comp_def]
      · rintro rfl
        simp [splitAt] at split
        exact named split.1

/-- Names that, joined below a path, make a path lead to a scalar with a text. -/
def Reaches (above : String) (json : Json) (path text : String) : Prop :=
  ∃ names scalar, descend names json = some scalar ∧ scalar.scalarText = some text ∧
    names.foldl joinPath above = path ∧ path ≠ ""

theorem reaches_iff_of_not_object {above path text : String} {json : Json}
    (leaf : ∀ name, json.member? name = none) :
    Reaches above json path text ↔ json.scalarText = some text ∧ above = path ∧ path ≠ "" := by
  constructor
  · rintro ⟨names, scalar, found, shown, rfl, some⟩
    cases names with
    | nil =>
        obtain rfl := Option.some.inj found
        exact ⟨shown, rfl, some⟩
    | cons name rest => simp [descend, leaf] at found
  · rintro ⟨shown, rfl, some⟩
    exact ⟨[], json, rfl, shown, rfl, some⟩

theorem reaches_object_iff {above path text : String} {members : List (String × Json)} :
    Reaches above (.object members) path text ↔
      ∃ name value, Entries.lookup name members = some value ∧
        Reaches (joinPath above name) value path text := by
  constructor
  · rintro ⟨names, scalar, found, shown, joined, some⟩
    cases names with
    | nil =>
        obtain rfl := Option.some.inj found
        simp [scalarText] at shown
    | cons name rest =>
        rw [descend, member?] at found
        cases here : Entries.lookup name members with
        | none => simp [here] at found
        | some value =>
            rw [here] at found
            exact ⟨name, value, here, rest, scalar, found, shown, joined, some⟩
  · rintro ⟨name, value, here, rest, scalar, found, shown, joined, some⟩
    refine ⟨name :: rest, scalar, ?_, shown, joined, some⟩
    rw [descend, member?, here]
    exact found

theorem mem_scalarsBelow_leaf {above path text : String} {json : Json}
    (leaf : ∀ name, json.member? name = none)
    (shape : scalarsBelow above json = if above = "" then [] else
      match json.scalarText with
      | some text => [(above, text)]
      | none => []) :
    (path, text) ∈ scalarsBelow above json ↔ Reaches above json path text := by
  rw [shape, reaches_iff_of_not_object leaf]
  by_cases top : above = ""
  · rw [if_pos top]
    constructor
    · simp
    · rintro ⟨_, rfl, some⟩
      exact absurd top some
  · rw [if_neg top]
    cases json.scalarText with
    | none => simp
    | some shown =>
        simp only [List.mem_singleton, Prod.mk.injEq, Option.some.injEq]
        constructor
        · rintro ⟨rfl, rfl⟩
          exact ⟨rfl, rfl, top⟩
        · rintro ⟨rfl, rfl, _⟩
          exact ⟨rfl, rfl⟩

mutual

theorem mem_scalarsBelow_iff {above path text : String} {json : Json}
    (sorted : json.canonical = true) :
    (path, text) ∈ scalarsBelow above json ↔ Reaches above json path text := by
  cases json with
  | object members =>
      rw [canonical, Bool.and_eq_true, decide_eq_true_eq] at sorted
      rw [scalarsBelow, reaches_object_iff,
        mem_memberScalars_iff (List.pairwise_map.mp sorted.1) sorted.2]
  | null => exact mem_scalarsBelow_leaf (fun _ => rfl) rfl
  | bool value => exact mem_scalarsBelow_leaf (fun _ => rfl) rfl
  | number n => exact mem_scalarsBelow_leaf (fun _ => rfl) rfl
  | string text => exact mem_scalarsBelow_leaf (fun _ => rfl) rfl
  | array items => exact mem_scalarsBelow_leaf (fun _ => rfl) rfl

theorem mem_memberScalars_iff {above path text : String} {members : List (String × Json)}
    (ascending : Entries.Ascending members) (sorted : canonicalMembers members = true) :
    (path, text) ∈ memberScalars above members ↔
      ∃ name value, Entries.lookup name members = some value ∧
        Reaches (joinPath above name) value path text := by
  cases members with
  | nil => simp [memberScalars, Entries.lookup]
  | cons member rest =>
      obtain ⟨first, value⟩ := member
      rw [canonicalMembers, Bool.and_eq_true] at sorted
      obtain ⟨later, ascending⟩ := List.pairwise_cons.mp ascending
      rw [memberScalars, List.mem_append, mem_scalarsBelow_iff sorted.1,
        mem_memberScalars_iff ascending sorted.2]
      simp only [Entries.lookup]
      constructor
      · rintro (reached | ⟨name, value', found, reached⟩)
        · exact ⟨first, value, if_pos rfl, reached⟩
        · -- The names behind come after the first, so none of them is the first again.
          have differ : name ≠ first :=
            (Key.ne_of_before (later _ (Entries.mem_of_lookup found))).symm
          exact ⟨name, value', by rw [if_neg differ, found], reached⟩
      · rintro ⟨name, value', found, reached⟩
        split at found
        · next here =>
            obtain rfl := Option.some.inj found
            exact .inl (here ▸ reached)
        · exact .inr ⟨name, value', found, reached⟩

end

theorem mem_flatten_iff {json : Json} (sorted : json.canonical = true) {path text : String} :
    (path, text) ∈ json.flatten ↔ Reaches "" json path text := by
  rw [flatten, (sortKeys_perm _).mem_iff, mem_scalarsBelow_iff sorted]

theorem mem_flatten_of_scalarAt {json : Json} (sorted : json.canonical = true)
    {path text : String} (valid : validPath path = true) (found : json.scalarAt path = some text) :
    (path, text) ∈ json.flatten := by
  obtain ⟨scalar, reached, shown⟩ := Option.bind_eq_some_iff.mp found
  obtain ⟨joined, some⟩ := foldl_joinPath_pathNames valid
  exact (mem_flatten_iff sorted).mpr ⟨pathNames path, scalar, reached, shown, joined, some⟩

mutual

def plainNamed : Json → Bool
  | .object members => plainNamedMembers members
  | _ => true

def plainNamedMembers : List (String × Json) → Bool
  | [] => true
  | (name, value) :: rest => decide (PlainName name) && plainNamed value && plainNamedMembers rest

end

theorem plain_of_lookup {members : List (String × Json)} (plain : plainNamedMembers members = true)
    {name : String} {value : Json} (found : Entries.lookup name members = some value) :
    PlainName name ∧ value.plainNamed = true := by
  induction members with
  | nil => simp [Entries.lookup] at found
  | cons member rest ih =>
      rw [plainNamedMembers, Bool.and_eq_true, Bool.and_eq_true, decide_eq_true_eq] at plain
      rw [Entries.lookup] at found
      split at found
      · next here =>
          obtain rfl := Option.some.inj found
          exact ⟨here ▸ plain.1.1, plain.1.2⟩
      · exact ih plain.2 found

theorem plain_of_descend {json scalar : Json} (plain : json.plainNamed = true)
    {names : List String} (found : descend names json = some scalar) :
    ∀ name ∈ names, PlainName name := by
  induction names generalizing json with
  | nil => simp
  | cons name rest ih =>
      rw [descend] at found
      split at found
      · next value here =>
          cases json with
          | object members =>
              rw [plainNamed] at plain
              obtain ⟨own, below⟩ := plain_of_lookup plain here
              exact List.forall_mem_cons.mpr ⟨own, ih below found⟩
          | null | bool | number | string | array => simp [member?] at here
      · simp at found

theorem scalarAt_of_descend {json scalar : Json} {names : List String} {path text : String}
    (plain : ∀ name ∈ names, PlainName name) (found : descend names json = some scalar)
    (shown : scalar.scalarText = some text) (joined : names.foldl joinPath "" = path)
    (nonempty : path ≠ "") : json.scalarAt path = some text := by
  have split : pathNames path = names := by
    rw [← joined]
    apply pathNames_foldl_joinPath _ plain
    rintro rfl
    exact nonempty joined.symm
  rw [scalarAt, split, found, Option.bind_some, shown]

theorem scalarAt_of_mem_flatten {json : Json} (sorted : json.canonical = true)
    (plain : json.plainNamed = true) {path text : String} (listed : (path, text) ∈ json.flatten) :
    json.scalarAt path = some text := by
  obtain ⟨names, scalar, found, shown, joined, some⟩ := (mem_flatten_iff sorted).mp listed
  exact scalarAt_of_descend (plain_of_descend plain found) found shown joined some

end Docket.Json
