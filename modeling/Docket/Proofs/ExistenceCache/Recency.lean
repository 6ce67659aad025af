import Docket.Proofs.ExistenceCache
/-!
Which ids a cache remembers, by the history of its calls.

A batch is taken in id by id, so a history is a list of steps. Beside the cache goes a record of the
insertions: the adds of ids that were not remembered at that moment. Those since the last turn of the
generations have gone to the current one, and the previous one has the last of those before
(`Generations.Keeps`). A generation is full when it is turned, so of one insertion more than a
generation takes none is forgotten, unless its id is removed
(`ExistenceCache.recent_insertions_known`).
-/

namespace Docket

inductive CacheStep where
  | add (id : DocumentId)
  | remove (id : DocumentId)
  deriving DecidableEq

namespace CacheCall

def steps : CacheCall → List CacheStep
  | .add ids => ids.map .add
  | .remove ids => ids.map .remove

def history (calls : List CacheCall) : List CacheStep := calls.flatMap steps

theorem history_concat (calls : List CacheCall) (call : CacheCall) :
    history (calls ++ [call]) = history calls ++ call.steps := by
  simp [history]

end CacheCall

/-- An add of an id that was not remembered then. -/
structure Insertion where
  id : DocumentId
  /-- Whether the id has been removed since. -/
  removed : Bool
  deriving DecidableEq

def Insertion.afterRemoval (insertion : Insertion) (id : DocumentId) : Insertion :=
  { insertion with removed := insertion.removed || decide (insertion.id = id) }

structure RecordedCache where
  generations : Generations
  /-- The last insertion comes first. -/
  insertions : List Insertion

namespace RecordedCache

def after (cache : RecordedCache) : CacheStep → RecordedCache
  | .add id =>
      { generations := cache.generations.add id
        insertions :=
          if cache.generations.contains id then cache.insertions
          else ⟨id, false⟩ :: cache.insertions }
  | .remove id =>
      { generations := cache.generations.remove id
        insertions := cache.insertions.map fun insertion => insertion.afterRemoval id }

def run (maxEntries : Nat) (steps : List CacheStep) : RecordedCache :=
  steps.foldl after ⟨Generations.empty maxEntries, []⟩

theorem run_append (maxEntries : Nat) (steps more : List CacheStep) :
    run maxEntries (steps ++ more) = more.foldl after (run maxEntries steps) :=
  List.foldl_append

theorem generations_foldl_add (ids : List DocumentId) (cache : RecordedCache) :
    ((ids.map .add).foldl after cache).generations
      = ids.foldl Generations.add cache.generations := by
  induction ids generalizing cache with
  | nil => rfl
  | cons id rest ih => exact ih _

theorem generations_foldl_remove (ids : List DocumentId) (cache : RecordedCache) :
    ((ids.map .remove).foldl after cache).generations
      = ids.foldl Generations.remove cache.generations := by
  induction ids generalizing cache with
  | nil => rfl
  | cons id rest ih => exact ih _

theorem reached_eq_run (maxEntries : Nat) (calls : List CacheCall) :
    ExistenceCache.reached maxEntries calls
      = .enabled (run maxEntries (CacheCall.history calls)).generations := by
  induction calls using List.reverseRecOn with
  | nil => rfl
  | append_singleton calls call ih =>
      rw [ExistenceCache.reached, List.foldl_concat, ← ExistenceCache.reached, ih,
        CacheCall.history_concat, run_append]
      cases call with
      | add ids =>
          rw [CacheCall.steps, generations_foldl_add, ExistenceCache.after, ExistenceCache.addAll]
      | remove ids =>
          rw [CacheCall.steps, generations_foldl_remove, ExistenceCache.after,
            ExistenceCache.removeAll]

theorem added_of_contains {maxEntries : Nat} {steps : List CacheStep} {id : DocumentId}
    (remembered : (run maxEntries steps).generations.contains id = true) :
    ∃ earlier later, steps = earlier ++ .add id :: later ∧ .remove id ∉ later := by
  induction steps using List.reverseRecOn with
  | nil => simp [run, Generations.empty, Generations.contains, Table.contains] at remembered
  | append_singleton steps step ih =>
      rw [run_append] at remembered
      -- An add that came before goes on to count, unless the step removes its id.
      have extend : (run maxEntries steps).generations.contains id = true → step ≠ .remove id →
          ∃ earlier later, steps ++ [step] = earlier ++ .add id :: later ∧ .remove id ∉ later := by
        intro before other
        obtain ⟨earlier, later, rfl, kept⟩ := ih before
        refine ⟨earlier, later ++ [step], by simp, ?_⟩
        simpa [kept] using other.symm
      cases step with
      | add added =>
          rcases Generations.contains_of_add remembered with rfl | before
          · exact ⟨steps, [], rfl, by simp⟩
          · exact extend before (by simp)
      | remove removed =>
          obtain ⟨other, before⟩ := Bool.and_eq_true_iff.mp
            (Generations.contains_remove.symm.trans remembered)
          exact extend before (by simpa using Ne.symm (of_decide_eq_true other))

end RecordedCache

namespace Generations

variable {most : Nat} {generations : Generations} {recent older : List Insertion}

/-- Generations and the insertions since they were turned last, and before: unless it was removed,
    the id of a recent one is in the current generation, and those of the last older ones are in the
    previous. -/
structure Keeps (most : Nat) (generations : Generations) (recent older : List Insertion) :
    Prop where
  generationSize : generations.generationSize = most
  /-- Repeated adds and removals only make a generation smaller than what was inserted. -/
  few : generations.current.size ≤ recent.length
  current : ∀ insertion ∈ recent, insertion.removed = false →
    generations.current.contains insertion.id = true
  previous : ∀ insertion ∈ older.take most, insertion.removed = false →
    generations.previous.contains insertion.id = true
  turned : older ≠ [] → recent ≠ []

theorem keeps_empty (maxEntries : Nat) : (empty maxEntries).Keeps (max (maxEntries / 2) 1) [] [] where
  generationSize := rfl
  few := Nat.le_refl 0
  current _ member := absurd member List.not_mem_nil
  previous _ member := absurd member (by simp)
  turned some := absurd rfl some

theorem Keeps.insert (keeps : generations.Keeps most recent older) {id : DocumentId}
    (fresh : generations.contains id = false) :
    ∃ recent' older', (generations.add id).Keeps most recent' older' ∧
      recent' ++ older' = ⟨id, false⟩ :: (recent ++ older) := by
  unfold add
  rw [if_neg (by simp [fresh])]
  split
  · next full =>
      refine ⟨[⟨id, false⟩], recent ++ older, ⟨keeps.generationSize, ?_, ?_, ?_, by simp⟩, rfl⟩
      · exact Nat.le_refl 1
      · simp [Table.contains]
      · -- A full generation holds the last of the insertions before the turn, all of them recent.
        have enough : most ≤ recent.length :=
          keeps.generationSize ▸ Nat.le_trans full keeps.few
        rw [List.take_append_of_le_length enough]
        exact fun insertion member => keeps.current insertion (List.mem_of_mem_take member)
  · refine ⟨⟨id, false⟩ :: recent, older,
      ⟨keeps.generationSize, ?_, ?_, keeps.previous, by simp⟩, rfl⟩
    · exact Nat.le_trans (Table.size_insert_le _ id ()) (Nat.succ_le_succ keeps.few)
    · intro insertion member kept
      by_cases here : insertion.id = id
      · simp [Table.contains, here]
      · have behind : insertion ∈ recent :=
          (List.mem_cons.mp member).resolve_left fun same => here (congrArg Insertion.id same)
        simpa [Table.contains, here] using keeps.current insertion behind kept

theorem contains_erase_of_kept {table : IdSet} {insertions : List Insertion} {id : DocumentId}
    (held : ∀ insertion ∈ insertions, insertion.removed = false →
      table.contains insertion.id = true) :
    ∀ insertion ∈ insertions.map fun insertion => insertion.afterRemoval id,
      insertion.removed = false → (table.erase id).contains insertion.id = true := by
  intro insertion member kept
  obtain ⟨before, listed, rfl⟩ := List.mem_map.mp member
  simp only [Insertion.afterRemoval, Bool.or_eq_false_iff, decide_eq_false_iff_not] at kept ⊢
  simpa [Table.contains, kept.2] using held before listed kept.1

theorem Keeps.remove (keeps : generations.Keeps most recent older) (id : DocumentId) :
    (generations.remove id).Keeps most (recent.map fun insertion => insertion.afterRemoval id)
      (older.map fun insertion => insertion.afterRemoval id) where
  generationSize := keeps.generationSize
  few := by
    rw [List.length_map]
    exact Nat.le_trans (Table.size_erase_le _ id) keeps.few
  current := contains_erase_of_kept keeps.current
  previous := by
    rw [← List.map_take]
    exact contains_erase_of_kept keeps.previous
  turned some := by simpa using keeps.turned (by simpa using some)

/-- The last insertions are all in one of the generations, as many as one takes and one more. -/
theorem Keeps.contains_recent (keeps : generations.Keeps most recent older) {insertion : Insertion}
    (member : insertion ∈ (recent ++ older).take (most + 1)) (kept : insertion.removed = false) :
    generations.contains insertion.id = true := by
  rw [List.take_append, List.mem_append] at member
  rcases member with inRecent | inOlder
  · exact contains_iff.mpr (.inl (keeps.current insertion (List.mem_of_mem_take inRecent) kept))
  · have some : older ≠ [] := by
      rintro rfl
      simp at inOlder
    have turn : 0 < recent.length := List.length_pos_iff.mpr (keeps.turned some)
    have near : insertion ∈ older.take most := List.take_subset_take_left _ (by omega) inOlder
    exact contains_iff.mpr (.inr (keeps.previous insertion near kept))

end Generations

namespace RecordedCache

theorem run_keeps (maxEntries : Nat) (steps : List CacheStep) :
    ∃ recent older,
      (run maxEntries steps).generations.Keeps (max (maxEntries / 2) 1) recent older ∧
      (run maxEntries steps).insertions = recent ++ older := by
  induction steps using List.reverseRecOn with
  | nil => exact ⟨[], [], Generations.keeps_empty maxEntries, rfl⟩
  | append_singleton steps step ih =>
      obtain ⟨recent, older, keeps, same⟩ := ih
      rw [run_append]
      cases step with
      | add id =>
          cases remembered : (run maxEntries steps).generations.contains id with
          | true =>
              refine ⟨recent, older, ?_, by simp [after, remembered, same]⟩
              simpa [after, Generations.add, remembered] using keeps
          | false =>
              obtain ⟨recent', older', keeps', split⟩ := keeps.insert remembered
              exact ⟨recent', older', keeps', by simp [after, remembered, same, split]⟩
      | remove id => exact ⟨_, _, keeps.remove id, by simp [after, same]⟩

end RecordedCache

namespace ExistenceCache

/-- After any calls a cache answers some of the ids it is asked for, in their order, and only such
    as were added after they were last removed. Among the last insertions, one more than a
    generation takes, it answers every id that was not removed since, whatever was added once more
    in between. -/
theorem recent_insertions_known (maxEntries : Nat) (calls : List CacheCall) :
    let cache := reached maxEntries calls
    let recorded := RecordedCache.run maxEntries (CacheCall.history calls)
    cache = .enabled recorded.generations ∧
    (∀ ids, (cache.known ids).Sublist ids) ∧
    (∀ ids, ∀ id ∈ cache.known ids, ∃ earlier later,
      CacheCall.history calls = earlier ++ .add id :: later ∧ .remove id ∉ later) ∧
    ∀ insertion ∈ recorded.insertions.take (max (maxEntries / 2) 1 + 1),
      insertion.removed = false →
        ∀ ids, insertion.id ∈ ids → insertion.id ∈ cache.known ids := by
  intro cache recorded
  have same : cache = .enabled recorded.generations := RecordedCache.reached_eq_run maxEntries calls
  refine ⟨same, fun ids => List.filter_sublist, fun ids id answered => ?_,
    fun insertion member kept ids asked => List.mem_filter.mpr ⟨asked, ?_⟩⟩
  · have remembered : cache.contains id = true := (List.mem_filter.mp answered).2
    rw [same] at remembered
    exact RecordedCache.added_of_contains remembered
  · obtain ⟨recent, older, keeps, split⟩ :=
      RecordedCache.run_keeps maxEntries (CacheCall.history calls)
    rw [split] at member
    rw [same]
    exact keeps.contains_recent member kept

theorem recent_insertions_known_threeAdded :
    let first : DocumentId := ⟨1, by decide⟩
    let second : DocumentId := ⟨2, by decide⟩
    let third : DocumentId := ⟨3, by decide⟩
    let calls := [.add [first, second, third, first], .remove [second]]
    (⟨first, false⟩ : Insertion)
        ∈ (RecordedCache.run 4 (CacheCall.history calls)).insertions.take (max (4 / 2) 1 + 1) ∧
      first ∈ (reached 4 calls).known [third, first] := by
  intro first second third calls
  have listed : (⟨first, false⟩ : Insertion)
      ∈ (RecordedCache.run 4 (CacheCall.history calls)).insertions.take (max (4 / 2) 1 + 1) := by
    decide
  exact ⟨listed, (recent_insertions_known 4 calls).2.2.2 _ listed rfl _ (by simp)⟩

end ExistenceCache

end Docket
