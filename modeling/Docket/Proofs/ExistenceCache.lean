import Docket.Config.Basic
import Docket.ExistenceCache
import Docket.Proofs.Table
import Mathlib.Data.List.Induction
/-!
What the cache of existing ids may remember, and how much.

Turning the generations forgets ids and adds none, so what is remembered was remembered before or
has just been added, and what is removed is remembered no more. No generation outgrows its size and
none shares an id with the other (`Generations.Fits`), so the cache counts each id once and holds at
most two generations of them (`ExistenceCache.reached_bounded`): as many as it was made for, unless
that is less than two.
-/

namespace Docket

namespace Generations

variable {generations : Generations} {id other : DocumentId}

theorem contains_iff :
    generations.contains id = true ↔
      generations.current.contains id = true ∨ generations.previous.contains id = true :=
  Bool.or_eq_true_iff

theorem contains_of_add (remembered : (generations.add other).contains id = true) :
    id = other ∨ generations.contains id = true := by
  unfold add at remembered
  split at remembered
  · exact .inr remembered
  · split at remembered
    · rcases contains_iff.mp remembered with added | kept
      · by_cases here : id = other
        · exact .inl here
        · simp [Table.contains, here] at added
      · exact .inr (contains_iff.mpr (.inl kept))
    · rcases contains_iff.mp remembered with added | kept
      · by_cases here : id = other
        · exact .inl here
        · simp only [Table.contains, Table.get?_insert, here, if_false] at added
          exact .inr (contains_iff.mpr (.inl added))
      · exact .inr (contains_iff.mpr (.inr kept))

theorem contains_of_foldl_add {ids : List DocumentId}
    (remembered : (ids.foldl add generations).contains id = true) :
    id ∈ ids ∨ generations.contains id = true := by
  induction ids generalizing generations with
  | nil => exact .inr remembered
  | cons first rest ih =>
      rcases ih remembered with behind | before
      · exact .inl (List.mem_cons_of_mem first behind)
      · rcases contains_of_add before with rfl | kept
        · exact .inl List.mem_cons_self
        · exact .inr kept

theorem contains_remove :
    (generations.remove other).contains id = (decide (id ≠ other) && generations.contains id) := by
  by_cases here : id = other
  · simp [remove, contains, Table.contains, here]
  · simp [remove, contains, Table.contains, here]

theorem contains_foldl_remove {ids : List DocumentId} :
    (ids.foldl remove generations).contains id
      = (decide (id ∉ ids) && generations.contains id) := by
  induction ids generalizing generations with
  | nil => simp
  | cons first rest ih =>
      rw [List.foldl_cons, ih, contains_remove]
      by_cases here : id = first
      · simp [here]
      · simp [here]

structure Fits (most : Nat) (generations : Generations) : Prop where
  generationSize : generations.generationSize = most
  roomy : 1 ≤ most
  current : generations.current.size ≤ most
  previous : generations.previous.size ≤ most
  apart : ∀ id, generations.current.contains id = true → generations.previous.contains id = false

variable {most : Nat}

theorem fits_empty (maxEntries : Nat) : (empty maxEntries).Fits (max (maxEntries / 2) 1) where
  generationSize := rfl
  roomy := Nat.le_max_right _ 1
  current := Nat.zero_le _
  previous := Nat.zero_le _
  apart _ held := by simp [empty, Table.contains] at held

theorem Fits.add (fits : generations.Fits most) (id : DocumentId) :
    (generations.add id).Fits most := by
  unfold Generations.add
  split
  · exact fits
  · next unknown =>
      have outside : generations.current.contains id = false ∧
          generations.previous.contains id = false := by
        simpa only [contains, Bool.not_eq_true, Bool.or_eq_false_iff] using unknown
      split
      · -- The generation that was full is the previous one now, and the id is new to it.
        refine ⟨fits.generationSize, fits.roomy, fits.roomy, fits.current, fun other held => ?_⟩
        obtain rfl : other = id := by
          by_contra differ
          simp [Table.contains, differ] at held
        exact outside.1
      · next room =>
          have grown := Table.size_insert_le generations.current id ()
          have kept := fits.generationSize
          refine ⟨kept, fits.roomy, by simp only; omega, fits.previous, fun other held => ?_⟩
          by_cases here : other = id
          · exact here ▸ outside.2
          · simp only [Table.contains, Table.get?_insert, here, if_false] at held
            exact fits.apart other held

theorem Fits.remove (fits : generations.Fits most) (id : DocumentId) :
    (generations.remove id).Fits most where
  generationSize := fits.generationSize
  roomy := fits.roomy
  current := Nat.le_trans (Table.size_erase_le _ id) fits.current
  previous := Nat.le_trans (Table.size_erase_le _ id) fits.previous
  apart other held := by
    by_cases here : other = id
    · simp [Generations.remove, Table.contains, here]
    · simp only [Generations.remove, Table.contains, Table.get?_erase, here, if_false] at held ⊢
      exact fits.apart other held

def ids (generations : Generations) : List DocumentId :=
  generations.current.keys ++ generations.previous.keys

theorem mem_ids_iff : id ∈ generations.ids ↔ generations.contains id = true := by
  rw [ids, List.mem_append, ← Table.contains_iff_mem_keys, ← Table.contains_iff_mem_keys,
    contains_iff]

theorem length_ids (generations : Generations) : generations.ids.length = generations.size := by
  simp [ids, size, Table.keys, Table.size]

theorem Fits.nodup_ids (fits : generations.Fits most) : generations.ids.Nodup := by
  refine List.nodup_append.mpr ⟨Table.keys_nodup _, Table.keys_nodup _, ?_⟩
  rintro id current other previous rfl
  have apart := fits.apart id (Table.contains_iff_mem_keys.mpr current)
  rw [Table.contains_iff_mem_keys.mpr previous] at apart
  cases apart

end Generations

namespace ExistenceCache

variable {cache : ExistenceCache} {ids : List DocumentId} {id : DocumentId}

theorem contains_of_addAll (remembered : (cache.addAll ids).contains id = true) :
    id ∈ ids ∨ cache.contains id = true := by
  cases cache with
  | disabled => simp [addAll, contains] at remembered
  | enabled generations => exact Generations.contains_of_foldl_add remembered

theorem contains_removeAll :
    (cache.removeAll ids).contains id = (decide (id ∉ ids) && cache.contains id) := by
  cases cache with
  | disabled => simp [removeAll, contains]
  | enabled generations => exact Generations.contains_foldl_remove

end ExistenceCache

inductive CacheCall where
  | add (ids : List DocumentId)
  | remove (ids : List DocumentId)

namespace ExistenceCache

def after (cache : ExistenceCache) : CacheCall → ExistenceCache
  | .add ids => cache.addAll ids
  | .remove ids => cache.removeAll ids

def reached (maxEntries : Nat) (calls : List CacheCall) : ExistenceCache :=
  calls.foldl after (ofMaxEntries maxEntries)

theorem reached_fits (maxEntries : Nat) (calls : List CacheCall) :
    ∃ generations, reached maxEntries calls = .enabled generations ∧
      generations.Fits (max (maxEntries / 2) 1) := by
  induction calls using List.reverseRecOn with
  | nil => exact ⟨_, rfl, Generations.fits_empty maxEntries⟩
  | append_singleton calls call ih =>
      obtain ⟨generations, same, fits⟩ := ih
      rw [reached, List.foldl_concat, ← reached, same]
      -- A batch is taken in id by id.
      cases call with
      | add ids =>
          exact ⟨_, rfl, List.foldlRecOn ids Generations.add fits fun _ kept id _ => kept.add id⟩
      | remove ids =>
          exact ⟨_, rfl,
            List.foldlRecOn ids Generations.remove fits fun _ kept id _ => kept.remove id⟩

theorem size_reached_of_two {maxEntries : Nat} (narrow : maxEntries < 2) :
    (reached maxEntries [.add [⟨1, by decide⟩, ⟨2, by decide⟩]]).size = 2 := by
  obtain rfl | rfl : maxEntries = 0 ∨ maxEntries = 1 := by omega
  · decide
  · decide

/-- After any calls a cache counts each id that it remembers once, and it holds at most as many as
    it was made for, or two. So it keeps to its maximum whatever is called exactly if that is at
    least two. -/
theorem reached_bounded (maxEntries : Nat) :
    (∀ calls,
      (∃ ids : List DocumentId, ids.Nodup ∧
        (∀ id, id ∈ ids ↔ (reached maxEntries calls).contains id = true) ∧
        (reached maxEntries calls).size = ids.length) ∧
      (reached maxEntries calls).size ≤ max maxEntries 2) ∧
    ((∀ calls, (reached maxEntries calls).size ≤ maxEntries) ↔ 2 ≤ maxEntries) := by
  have bounded : ∀ calls, (reached maxEntries calls).size ≤ max maxEntries 2 := by
    intro calls
    obtain ⟨generations, same, fits⟩ := reached_fits maxEntries calls
    have current := fits.current
    have previous := fits.previous
    simp only [same, size, Generations.size]
    omega
  refine ⟨fun calls => ⟨?_, bounded calls⟩, fun kept => ?_, fun wide calls => ?_⟩
  · obtain ⟨generations, same, fits⟩ := reached_fits maxEntries calls
    rw [same]
    exact ⟨generations.ids, fits.nodup_ids, fun _ => Generations.mem_ids_iff,
      (Generations.length_ids generations).symm⟩
  · by_contra narrow
    have two := size_reached_of_two (Nat.lt_of_not_le narrow)
    have held := kept [.add [⟨1, by decide⟩, ⟨2, by decide⟩]]
    omega
  · exact (bounded calls).trans (Nat.max_le.mpr ⟨Nat.le_refl _, wide⟩)

/-- A maximum of one is among the settings that are accepted, and the cache then holds two ids. -/
theorem size_exceeds_one :
    ({ cache := { enabled := true, maxEntries := 1 } } : Config).validate = .ok () ∧
      ¬ (reached 1 [.add [⟨1, by decide⟩], .add [⟨2, by decide⟩]]).size ≤ 1 := by
  decide +kernel

end ExistenceCache

end Docket
