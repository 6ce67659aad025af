import Docket.Table
import Mathlib.Data.List.Sort
/-!
Tables that a fold fills, and lists of keys that ascend.

An ascending list is known by its members alone, so two ways to gather the same keys answer one
list.
-/

namespace Docket

universe u v v' w

section Ascending

variable {κ : Type u} [Key κ]

def Ascends (keys : List κ) : Prop := keys.Pairwise fun a b => Key.before a b = true

theorem eq_of_ascends {left right : List κ} (ascends : Ascends left) (ascends' : Ascends right)
    (same : ∀ key, key ∈ left ↔ key ∈ right) : left = right := by
  have irrefl : Std.Irrefl fun a b : κ => Key.before a b = true :=
    ⟨fun key less => Key.ne_of_before less rfl⟩
  have antisymm : Std.Antisymm fun a b : κ => Key.before a b = true :=
    ⟨fun a b less back => absurd back (by simp [Key.asymm less])⟩
  exact List.Pairwise.eq_of_mem_iff ascends ascends' same

theorem KeySet.sorted_eq_nil_iff [DecidableEq κ] {keys : List κ} :
    KeySet.sorted keys = [] ↔ keys = [] := by
  simp only [List.eq_nil_iff_forall_not_mem, KeySet.mem_sorted]

end Ascending

namespace Entries

variable {κ : Type u} {ν : Type v} {μ : Type v'} [Key κ] [DecidableEq κ]

theorem insert_of_last {key : κ} (value : ν) {entries : List (κ × ν)}
    (last : ∀ entry ∈ entries, Key.before entry.1 key = true) :
    insert key value entries = entries ++ [(key, value)] := by
  induction entries with
  | nil => rfl
  | cons head rest ih =>
      have less := last head List.mem_cons_self
      have differ : key ≠ head.1 := (Key.ne_of_before less).symm
      simp only [insert, differ, if_false, Key.asymm less, Bool.false_eq_true]
      rw [ih fun entry member => last entry (List.mem_cons_of_mem _ member), List.cons_append]

theorem insert_insert (key : κ) (old value : ν) (entries : List (κ × ν)) :
    insert key value (insert key old entries) = insert key value entries := by
  induction entries with
  | nil => simp [insert]
  | cons head rest ih =>
      by_cases here : key = head.1
      · simp [insert, here]
      · by_cases less : Key.before key head.1 = true
        · simp [insert, here, less]
        · simp [insert, here, less, ih]

theorem length_insert_le (key : κ) (value : ν) (entries : List (κ × ν)) :
    (insert key value entries).length ≤ entries.length + 1 := by
  induction entries with
  | nil => exact Nat.le_refl _
  | cons head rest ih =>
      simp only [insert]
      split
      · simp
      · split
        · simp
        · simpa using ih

theorem foldl_insert_of_ascending {before entries : List (κ × ν)}
    (sorted : Ascending (before ++ entries)) :
    entries.foldl (fun sorted entry => insert entry.1 entry.2 sorted) before
      = before ++ entries := by
  induction entries generalizing before with
  | nil => simp
  | cons head rest ih =>
      have last : ∀ entry ∈ before, Key.before entry.1 head.1 = true := by
        intro entry member
        exact (List.pairwise_append.mp sorted).2.2 entry member head List.mem_cons_self
      rw [List.foldl_cons, insert_of_last head.2 last, ih]
      · simp
      · simpa using sorted

theorem lookup_foldl_insert {entries : List (κ × ν)} (distinct : (entries.map Prod.fst).Nodup)
    (before : List (κ × ν)) (key : κ) :
    lookup key (entries.foldl (fun sorted entry => insert entry.1 entry.2 sorted) before)
      = (lookup key entries).or (lookup key before) := by
  induction entries generalizing before with
  | nil => rfl
  | cons head rest ih =>
      obtain ⟨fresh, distinct⟩ := List.nodup_cons.mp distinct
      rw [List.foldl_cons, ih distinct, lookup_insert, lookup]
      by_cases here : key = head.1
      · subst here
        have nowhere : lookup head.1 rest = none := by
          cases found : lookup head.1 rest with
          | none => rfl
          | some value => exact absurd (List.mem_map_of_mem (mem_of_lookup found)) fresh
        simp [nowhere]
      · simp [here]

omit [Key κ] in
theorem lookup_map (f : ν → μ) (entries : List (κ × ν)) (key : κ) :
    lookup key (entries.map fun entry => (entry.1, f entry.2)) = (lookup key entries).map f := by
  induction entries with
  | nil => rfl
  | cons head rest ih =>
      simp only [List.map_cons, lookup, ih]
      split
      · rfl
      · rfl

omit [Key κ] in
theorem lookup_eq_none_iff {key : κ} {entries : List (κ × ν)} :
    lookup key entries = none ↔ key ∉ entries.map Prod.fst := by
  induction entries with
  | nil => simp [lookup]
  | cons head rest ih =>
      rw [lookup, List.map_cons, List.mem_cons, not_or, ← ih]
      split
      · next here => simp [here]
      · next other => simp [other]

omit [Key κ] in
theorem lookup_of_mem_of_nodup {key : κ} {value : ν} {entries : List (κ × ν)}
    (distinct : (entries.map Prod.fst).Nodup) (member : (key, value) ∈ entries) :
    lookup key entries = some value := by
  induction entries with
  | nil => simp at member
  | cons head rest ih =>
      obtain ⟨once, distinct⟩ := List.nodup_cons.mp distinct
      rw [lookup]
      rcases List.mem_cons.mp member with rfl | behind
      · rw [if_pos rfl]
      · have other : key ≠ head.1 := by
          rintro rfl
          exact once (List.mem_map.mpr ⟨_, behind, rfl⟩)
        rw [if_neg other, ih distinct behind]

end Entries

namespace Table

variable {κ : Type u} {ν : Type v} {μ : Type v'} {α : Type w} [Key κ] [DecidableEq κ]

theorem entries_eq_map {table : Table κ ν} {shown : Table κ μ} (f : ν → μ)
    (view : ∀ key, shown.get? key = (table.get? key).map f) :
    shown.entries = table.entries.map fun entry => (entry.1, f entry.2) := by
  have sorted : Entries.Ascending (table.entries.map fun entry => (entry.1, f entry.2)) :=
    List.pairwise_map.mpr table.ascending
  apply entries_eq_of_lookup shown.ascending sorted
  intro key
  rw [Entries.lookup_map]
  exact view key

theorem values_filter_eq_map {table : Table κ ν} {shown : Table κ μ} (f : ν → μ)
    (view : ∀ key, shown.get? key = (table.get? key).map f) (keep : κ → Bool) :
    (shown.filter fun key _ => keep key).values
      = (table.filter fun key _ => keep key).values.map f := by
  simp only [values, filter, entries_eq_map f view, List.filter_map, List.map_map]
  rfl

theorem get?_foldl_insert (key : α → κ) (value : ν) (items : List α) (table : Table κ ν)
    (other : κ) :
    (items.foldl (fun table item => table.insert (key item) value) table).get? other
      = if other ∈ items.map key then some value else table.get? other := by
  induction items generalizing table with
  | nil => simp
  | cons first rest ih =>
      rw [List.foldl_cons, ih, get?_insert, List.map_cons]
      by_cases behind : other ∈ rest.map key
      · simp [behind]
      · by_cases here : other = key first
        · simp [here]
        · simp [behind, here]

theorem entries_foldl_insert (items : List (κ × ν)) (table : Table κ ν) :
    (items.foldl (fun table item => table.insert item.1 item.2) table).entries
      = items.foldl (fun sorted item => Entries.insert item.1 item.2 sorted) table.entries := by
  induction items generalizing table with
  | nil => rfl
  | cons first rest ih => exact ih _

theorem entries_ofList {entries : List (κ × ν)} (sorted : Entries.Ascending entries) :
    (ofList entries).entries = entries := by
  rw [ofList, entries_foldl_insert]
  exact Entries.foldl_insert_of_ascending sorted

theorem get?_ofList_eq_none_iff {entries : List (κ × ν)} {key : κ} :
    (ofList entries).get? key = none ↔ key ∉ entries.map Prod.fst := by
  have all : ∀ table : Table κ ν,
      (entries.foldl (fun table entry => table.insert entry.1 entry.2) table).get? key = none ↔
        table.get? key = none ∧ key ∉ entries.map Prod.fst := by
    induction entries with
    | nil => simp
    | cons first rest ih =>
        intro table
        rw [List.foldl_cons, ih, get?_insert, List.map_cons, List.mem_cons, not_or]
        by_cases here : key = first.1
        · simp [here]
        · simp [here]
  exact (all empty).trans (and_iff_right rfl)

theorem ofList_toList (table : Table κ ν) : ofList table.toList = table := by
  have entries : (ofList table.toList).entries = table.entries := entries_ofList table.ascending
  exact ext_get? fun key => by rw [get?, get?, entries]

theorem size_insert_le (table : Table κ ν) (key : κ) (value : ν) :
    (table.insert key value).size ≤ table.size + 1 :=
  Entries.length_insert_le key value table.entries

theorem size_erase_le (table : Table κ ν) (key : κ) : (table.erase key).size ≤ table.size :=
  List.length_filter_le _ _

omit [DecidableEq κ] in
theorem keys_nodup (table : Table κ ν) : table.keys.Nodup :=
  table.keys_ascending.imp Key.ne_of_before

theorem contains_iff {table : Table κ ν} {key : κ} :
    table.contains key = true ↔ ∃ value, table.get? key = some value :=
  Option.isSome_iff_exists

theorem contains_eq_false_iff {table : Table κ ν} {key : κ} :
    table.contains key = false ↔ table.get? key = none := by
  simp [contains]

theorem mem_values_iff {table : Table κ ν} {value : ν} :
    value ∈ table.values ↔ ∃ key, table.get? key = some value := by
  simp only [values, List.mem_map]
  constructor
  · rintro ⟨⟨key, _⟩, member, rfl⟩
    exact ⟨key, mem_toList_iff.mp member⟩
  · rintro ⟨key, found⟩
    exact ⟨(key, value), mem_toList_iff.mpr found, rfl⟩

theorem size_eq_zero_iff {table : Table κ ν} :
    table.size = 0 ↔ ∀ key, table.get? key = none := by
  rw [size, List.length_eq_zero_iff, List.eq_nil_iff_forall_not_mem]
  constructor
  · intro empty key
    exact Option.eq_none_iff_forall_ne_some.mpr fun value found =>
      empty (key, value) (mem_toList_iff.mpr found)
  · rintro absent ⟨key, value⟩ member
    have found := mem_toList_iff.mp member
    rw [absent] at found
    simp at found

omit [DecidableEq κ] in
theorem values_filter (table : Table κ ν) (keep : ν → Bool) :
    (table.filter fun _ value => keep value).values = table.values.filter keep := by
  simp only [values, filter, List.filter_map]
  rfl

theorem filterMap_get?_keys (table : Table κ ν) : table.keys.filterMap table.get? = table.values := by
  rw [keys, List.filterMap_map, values, ← List.filterMap_eq_map]
  apply List.filterMap_congr
  rintro ⟨key, value⟩ member
  exact mem_toList_iff.mp member

theorem filterMap_get?_keys_filter (table : Table κ ν) (keep : ν → Bool) :
    (table.filter fun _ value => keep value).keys.filterMap table.get?
      = table.values.filter keep := by
  rw [← values_filter, ← filterMap_get?_keys]
  apply List.filterMap_congr
  intro key member
  obtain ⟨value, found, kept⟩ := contains_iff.mp (contains_iff_mem_keys.mpr member)
    |>.imp fun value found => Option.filter_eq_some_iff.mp ((get?_filter _ _ _).symm.trans found)
  rw [get?_filter, found, Option.filter_some, if_pos kept]

theorem mem_keys_filter_iff {table : Table κ ν} {keep : κ → ν → Bool} {key : κ} :
    key ∈ (table.filter keep).keys ↔ ∃ value, table.get? key = some value ∧ keep key value := by
  rw [← contains_iff_mem_keys, contains_iff, get?_filter]
  simp only [Option.filter_eq_some_iff]

end Table

end Docket
