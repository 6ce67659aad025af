/-!
Finite maps held as a list of entries with strictly ascending keys.

`get?` is the view of a table: each operation is described by what it does to `get?`, and two
tables with the same view are equal (`Table.ext_get?`), because a table has only one way to list
its entries. Reading a table in key order is reading its entries.
-/

namespace Docket

universe u v w

/-- A type of keys with a decidable strict total order. -/
class Key (κ : Type u) where
  before : κ → κ → Bool
  irrefl : ∀ a, before a a = false
  trans : ∀ {a b c}, before a b = true → before b c = true → before a c = true
  connex : ∀ {a b}, before a b = false → before b a = false → a = b

namespace Key

variable {κ : Type u} [Key κ]

theorem ne_of_before {a b : κ} (less : before a b = true) : a ≠ b := by
  rintro rfl
  simp [irrefl] at less

theorem asymm {a b : κ} (less : before a b = true) : before b a = false := by
  cases back : before b a with
  | false => rfl
  | true => exact absurd (trans less back) (by simp [irrefl])

theorem before_of_ne {a b : κ} (differ : a ≠ b) (late : before a b = false) :
    before b a = true := by
  cases back : before b a with
  | true => rfl
  | false => exact absurd (connex late back) differ

end Key

instance : Key Nat where
  before a b := decide (a < b)
  irrefl a := by simp
  trans := by simp only [decide_eq_true_eq]; omega
  connex := by simp only [decide_eq_false_iff_not]; omega

instance : Key String where
  before a b := decide (a < b)
  irrefl a := decide_eq_false (String.lt_irrefl a)
  trans {a b c} less less' := by
    simp only [decide_eq_true_eq] at *
    exact String.lt_trans less less'
  connex {a b} late late' := by
    simp only [decide_eq_false_iff_not] at *
    exact String.le_antisymm (String.not_lt.mp late') (String.not_lt.mp late)

/-- Pairs are ordered by their first part, then by their second. -/
instance {κ : Type u} {μ : Type v} [DecidableEq κ] [Key κ] [Key μ] : Key (κ × μ) where
  before a b := Key.before a.1 b.1 || (decide (a.1 = b.1) && Key.before a.2 b.2)
  irrefl a := by simp [Key.irrefl]
  trans {a b c} less less' := by
    simp only [Bool.or_eq_true, Bool.and_eq_true, decide_eq_true_eq] at *
    rcases less with less | ⟨same, less⟩
    · rcases less' with less' | ⟨same', _⟩
      · exact .inl (Key.trans less less')
      · exact .inl (same' ▸ less)
    · rcases less' with less' | ⟨same', less'⟩
      · exact .inl (same ▸ less')
      · exact .inr ⟨same.trans same', Key.trans less less'⟩
  connex {a b} late late' := by
    simp only [Bool.or_eq_false_iff] at late late'
    have same : a.1 = b.1 := Key.connex late.1 late'.1
    have late₂ := late.2
    have late₂' := late'.2
    simp only [same, decide_true, Bool.true_and] at late₂ late₂'
    exact Prod.ext same (Key.connex late₂ late₂')

namespace Entries

variable {κ : Type u} {ν : Type v}

def lookup [DecidableEq κ] (key : κ) : List (κ × ν) → Option ν
  | [] => none
  | (other, value) :: rest => if key = other then some value else lookup key rest

theorem mem_of_lookup [DecidableEq κ] {key : κ} {value : ν} {entries : List (κ × ν)}
    (found : lookup key entries = some value) : (key, value) ∈ entries := by
  induction entries with
  | nil => simp [lookup] at found
  | cons head rest ih =>
      simp only [lookup] at found
      split at found
      · next same =>
          obtain rfl : head.2 = value := by simpa using found
          subst same
          exact List.mem_cons_self
      · exact List.mem_cons_of_mem _ (ih found)

theorem lookup_filter [DecidableEq κ] (keep : κ → Bool) (key : κ) (entries : List (κ × ν)) :
    lookup key (entries.filter fun entry => keep entry.1)
      = if keep key then lookup key entries else none := by
  induction entries with
  | nil => simp [lookup]
  | cons head rest ih =>
      by_cases kept : keep head.1
      · rw [List.filter_cons_of_pos (by simpa using kept)]
        simp only [lookup, ih]
        by_cases same : key = head.1
        · simp [same, kept]
        · simp [same]
      · rw [List.filter_cons_of_neg (by simpa using kept), ih]
        by_cases same : key = head.1
        · subst same
          simp [kept]
        · simp [lookup, same]

def insert [DecidableEq κ] [Key κ] (key : κ) (value : ν) : List (κ × ν) → List (κ × ν)
  | [] => [(key, value)]
  | (other, old) :: rest =>
      if key = other then (key, value) :: rest
      else if Key.before key other then (key, value) :: (other, old) :: rest
      else (other, old) :: insert key value rest

def Ascending [Key κ] (entries : List (κ × ν)) : Prop :=
  entries.Pairwise fun x y => Key.before x.1 y.1 = true

instance [Key κ] (entries : List (κ × ν)) : Decidable (Ascending entries) :=
  inferInstanceAs (Decidable (List.Pairwise _ _))

variable [DecidableEq κ] [Key κ]

theorem mem_insert {key : κ} {value : ν} {entries : List (κ × ν)} {entry : κ × ν}
    (member : entry ∈ insert key value entries) : entry = (key, value) ∨ entry ∈ entries := by
  induction entries with
  | nil => simpa [insert] using member
  | cons head rest ih =>
      simp only [insert] at member
      split at member
      · simp only [List.mem_cons] at member ⊢
        exact member.imp_right .inr
      · split at member
        · simpa using member
        · simp only [List.mem_cons] at member ⊢
          rcases member with rfl | member
          · exact .inr (.inl rfl)
          · exact (ih member).imp_right .inr

theorem ascending_insert (key : κ) (value : ν) {entries : List (κ × ν)}
    (sorted : Ascending entries) : Ascending (insert key value entries) := by
  induction entries with
  | nil => exact List.pairwise_singleton _ _
  | cons head rest ih =>
      have later := (List.pairwise_cons.mp sorted).1
      have sortedRest := (List.pairwise_cons.mp sorted).2
      simp only [insert]
      split
      · next same => exact List.pairwise_cons.mpr ⟨fun entry member => same ▸ later entry member, sortedRest⟩
      · next differ =>
          split
          · next less =>
              refine List.pairwise_cons.mpr ⟨fun entry member => ?_, sorted⟩
              rcases List.mem_cons.mp member with rfl | member
              · exact less
              · exact Key.trans less (later entry member)
          · next late =>
              refine List.pairwise_cons.mpr ⟨fun entry member => ?_, ih sortedRest⟩
              rcases mem_insert member with rfl | member
              · exact Key.before_of_ne differ (by simpa using late)
              · exact later entry member

theorem lookup_insert (key other : κ) (value : ν) (entries : List (κ × ν)) :
    lookup other (insert key value entries)
      = if other = key then some value else lookup other entries := by
  induction entries with
  | nil => simp [insert, lookup]
  | cons head rest ih =>
      simp only [insert]
      split
      · next same => subst same; by_cases h : other = head.1 <;> simp [lookup, h]
      · next differ =>
          split
          · simp [lookup]
          · simp only [lookup, ih]
            by_cases h : other = head.1
            · subst h
              simp [Ne.symm differ]
            · simp [h]

theorem lookup_of_mem {key : κ} {value : ν} {entries : List (κ × ν)}
    (sorted : Ascending entries) (member : (key, value) ∈ entries) :
    lookup key entries = some value := by
  induction entries with
  | nil => simp at member
  | cons head rest ih =>
      have later := (List.pairwise_cons.mp sorted).1
      rcases List.mem_cons.mp member with rfl | member
      · simp [lookup]
      · have differ : key ≠ head.1 := (Key.ne_of_before (later _ member)).symm
        simp only [lookup, differ, if_false]
        exact ih (List.pairwise_cons.mp sorted).2 member

end Entries

/-- A finite map from `κ` to `ν`, its entries in ascending key order. -/
structure Table (κ : Type u) (ν : Type v) [Key κ] where
  entries : List (κ × ν)
  ascending : Entries.Ascending entries := by exact List.Pairwise.nil

namespace Table

variable {κ : Type u} {ν : Type v} {μ : Type w} [Key κ]

instance [DecidableEq κ] [DecidableEq ν] : DecidableEq (Table κ ν) := fun left right =>
  match left, right with
  | ⟨entries, _⟩, ⟨entries', _⟩ =>
      if same : entries = entries' then .isTrue (by subst same; rfl)
      else .isFalse fun equal => same (congrArg Table.entries equal)

def empty : Table κ ν := ⟨[], List.Pairwise.nil⟩

instance : Inhabited (Table κ ν) := ⟨empty⟩

def toList (table : Table κ ν) : List (κ × ν) := table.entries

def keys (table : Table κ ν) : List κ := table.entries.map Prod.fst

def values (table : Table κ ν) : List ν := table.entries.map Prod.snd

def size (table : Table κ ν) : Nat := table.entries.length

def isEmpty (table : Table κ ν) : Bool := table.entries.isEmpty

def filter (table : Table κ ν) (keep : κ → ν → Bool) : Table κ ν :=
  ⟨table.entries.filter fun entry => keep entry.1 entry.2, table.ascending.filter _⟩

theorem keys_ascending (table : Table κ ν) :
    table.keys.Pairwise fun a b => Key.before a b = true :=
  List.pairwise_map.mpr table.ascending

variable [DecidableEq κ]

def get? (table : Table κ ν) (key : κ) : Option ν := Entries.lookup key table.entries

def contains (table : Table κ ν) (key : κ) : Bool := (table.get? key).isSome

def insert (table : Table κ ν) (key : κ) (value : ν) : Table κ ν :=
  ⟨Entries.insert key value table.entries, Entries.ascending_insert key value table.ascending⟩

def erase (table : Table κ ν) (key : κ) : Table κ ν := table.filter fun other _ => other ≠ key

def eraseAll (table : Table κ ν) (keys : List κ) : Table κ ν :=
  keys.foldl erase table

/-- The table of a list of entries; of two entries with one key the later counts. -/
def ofList (entries : List (κ × ν)) : Table κ ν :=
  entries.foldl (fun table entry => table.insert entry.1 entry.2) empty

@[simp] theorem get?_empty (key : κ) : (empty : Table κ ν).get? key = none := rfl

@[simp] theorem get?_insert (table : Table κ ν) (key other : κ) (value : ν) :
    (table.insert key value).get? other = if other = key then some value else table.get? other :=
  Entries.lookup_insert key other value table.entries

@[simp] theorem get?_erase (table : Table κ ν) (key other : κ) :
    (table.erase key).get? other = if other = key then none else table.get? other := by
  have h := Entries.lookup_filter (fun k => decide (k ≠ key)) other table.entries
  simp only [get?, erase, filter]
  rw [h]
  by_cases same : other = key <;> simp [same]

theorem mem_toList_iff {table : Table κ ν} {key : κ} {value : ν} :
    (key, value) ∈ table.toList ↔ table.get? key = some value :=
  ⟨Entries.lookup_of_mem table.ascending, Entries.mem_of_lookup⟩

theorem get?_filter (table : Table κ ν) (keep : κ → ν → Bool) (key : κ) :
    (table.filter keep).get? key = (table.get? key).filter (keep key) := by
  apply Option.ext
  intro value
  rw [Option.filter_eq_some_iff, ← mem_toList_iff, ← mem_toList_iff]
  exact List.mem_filter

theorem get?_eraseAll (table : Table κ ν) (keys : List κ) (key : κ) :
    (table.eraseAll keys).get? key = if key ∈ keys then none else table.get? key := by
  induction keys generalizing table with
  | nil => rfl
  | cons first rest ih =>
      refine (ih (table.erase first)).trans ?_
      by_cases behind : key ∈ rest
      · simp [behind]
      · simp [behind]

theorem contains_iff_mem_keys {table : Table κ ν} {key : κ} :
    table.contains key = true ↔ key ∈ table.keys := by
  simp only [contains, Option.isSome_iff_exists, keys, List.mem_map]
  constructor
  · rintro ⟨value, found⟩
    exact ⟨(key, value), mem_toList_iff.mpr found, rfl⟩
  · rintro ⟨⟨_, value⟩, member, rfl⟩
    exact ⟨value, mem_toList_iff.mp member⟩

-- Ascending lists with one view start alike: the first key of either is in the other.
theorem head_eq_of_get? {left right : List (κ × ν)} {head : κ × ν} {rest : List (κ × ν)}
    (shape : left = head :: rest) (sorted : Entries.Ascending left)
    (sorted' : Entries.Ascending right)
    (same : ∀ key, Entries.lookup key left = Entries.lookup key right) :
    ∃ rest', right = head :: rest' := by
  have found : Entries.lookup head.1 right = some head.2 := by
    rw [← same, shape]
    simp [Entries.lookup]
  cases right with
  | nil => simp [Entries.lookup] at found
  | cons other rest' =>
      have back : other ∈ left := by
        apply Entries.mem_of_lookup 
        rw [same]
        simp [Entries.lookup]
      rcases List.mem_cons.mp (Entries.mem_of_lookup found) with here | there
      · exact ⟨rest', by rw [← here]⟩
      · have less := (List.pairwise_cons.mp sorted').1 _ there
        rw [shape] at back sorted
        rcases List.mem_cons.mp back with rfl | behind
        · simp [Key.irrefl] at less
        · have less' := (List.pairwise_cons.mp sorted).1 _ behind
          simp [Key.asymm less'] at less

theorem entries_eq_of_lookup {left right : List (κ × ν)} (sorted : Entries.Ascending left)
    (sorted' : Entries.Ascending right)
    (same : ∀ key, Entries.lookup key left = Entries.lookup key right) : left = right := by
  induction left generalizing right with
  | nil =>
      cases right with
      | nil => rfl
      | cons other rest => simpa [Entries.lookup] using same other.1
  | cons head rest ih =>
      obtain ⟨rest', rfl⟩ := head_eq_of_get? rfl sorted sorted' same
      have below := (List.pairwise_cons.mp sorted).1
      have below' := (List.pairwise_cons.mp sorted').1
      congr 1
      refine ih (List.pairwise_cons.mp sorted).2 (List.pairwise_cons.mp sorted').2 fun key => ?_
      have here := same key
      simp only [Entries.lookup] at here
      split at here
      · next at_head =>
          subst at_head
          -- The key of the head comes before both rests, so neither holds it.
          have absent : ∀ {entries : List (κ × ν)},
              (∀ entry ∈ entries, Key.before head.1 entry.1 = true) →
              Entries.lookup head.1 entries = none := by
            intro entries later
            cases look : Entries.lookup head.1 entries with
            | none => rfl
            | some value =>
                have less := later _ (Entries.mem_of_lookup look)
                simp [Key.irrefl] at less
          rw [absent below, absent below']
      · exact here

theorem ext_get? {left right : Table κ ν} (same : ∀ key, left.get? key = right.get? key) :
    left = right := by
  cases left with
  | mk entries sorted =>
      cases right with
      | mk entries' sorted' =>
          obtain rfl : entries = entries' := entries_eq_of_lookup sorted sorted' same
          rfl

end Table

/-- A finite set of keys, listed in ascending order. -/
abbrev KeySet (κ : Type u) [Key κ] := Table κ Unit

namespace KeySet

variable {κ : Type u} [Key κ] [DecidableEq κ]

def ofList (members : List κ) : KeySet κ :=
  members.foldl (fun set member => set.insert member ()) Table.empty

def sorted (members : List κ) : List κ := (ofList members).keys

theorem contains_foldl_insert (members : List κ) (set : KeySet κ) (key : κ) :
    (members.foldl (fun set member => set.insert member ()) set).contains key
      = (set.contains key || decide (key ∈ members)) := by
  induction members generalizing set with
  | nil => simp
  | cons first rest ih =>
      refine (ih (set.insert first ())).trans ?_
      by_cases same : key = first <;> simp [Table.contains, same]

theorem mem_sorted {members : List κ} {key : κ} : key ∈ sorted members ↔ key ∈ members := by
  rw [sorted, ← Table.contains_iff_mem_keys, ofList, contains_foldl_insert]
  simp [Table.contains]

theorem sorted_ascending (members : List κ) :
    (sorted members).Pairwise fun a b => Key.before a b = true :=
  Table.keys_ascending _

end KeySet

end Docket
