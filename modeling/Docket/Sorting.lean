import Docket.Table
/-!
Lists of keys put into ascending order, equal keys kept.
-/

namespace Docket

universe u

variable {κ : Type u} [Key κ]

/-- Puts a key before the first one that is not before it. -/
def insertSorted (key : κ) : List κ → List κ
  | [] => [key]
  | other :: rest =>
      if Key.before other key then other :: insertSorted key rest else key :: other :: rest

/-- The members of a list in ascending order, as often as they occur in it. -/
def sortKeys (keys : List κ) : List κ := keys.foldr insertSorted []

theorem insertSorted_perm (key : κ) (keys : List κ) : (insertSorted key keys).Perm (key :: keys) := by
  induction keys with
  | nil => exact .refl _
  | cons other rest ih =>
      simp only [insertSorted]
      split
      · exact (ih.cons other).trans (.swap key other rest)
      · exact .refl _

theorem sortKeys_perm (keys : List κ) : (sortKeys keys).Perm keys := by
  induction keys with
  | nil => exact .refl _
  | cons key rest ih => exact (insertSorted_perm key _).trans (ih.cons key)

-- Where `key` stops, everything behind it is at or after it by transitivity.
theorem insertSorted_ordered (key : κ) {keys : List κ}
    (ordered : keys.Pairwise fun a b => Key.before b a = false) :
    (insertSorted key keys).Pairwise fun a b => Key.before b a = false := by
  induction keys with
  | nil => exact List.pairwise_singleton _ _
  | cons other rest ih =>
      have later := (List.pairwise_cons.mp ordered).1
      simp only [insertSorted]
      split
      · next less =>
          refine List.pairwise_cons.mpr ⟨fun member here => ?_, ih (List.pairwise_cons.mp ordered).2⟩
          rcases List.mem_cons.mp ((insertSorted_perm key rest).mem_iff.mp here) with rfl | behind
          · exact Key.asymm less
          · exact later member behind
      · next late =>
          refine List.pairwise_cons.mpr ⟨fun member here => ?_, ordered⟩
          rcases List.mem_cons.mp here with rfl | behind
          · simpa using late
          · cases back : Key.before member key with
            | false => rfl
            | true =>
                have notLess := later member behind
                by_cases same : key = other
                · subst same
                  rw [back] at notLess
                  exact absurd notLess (by simp)
                · have less : Key.before key other = true :=
                    Key.before_of_ne (Ne.symm same) (by simpa using late)
                  rw [Key.trans back less] at notLess
                  exact absurd notLess (by simp)

theorem sortKeys_ordered (keys : List κ) :
    (sortKeys keys).Pairwise fun a b => Key.before b a = false := by
  induction keys with
  | nil => exact List.Pairwise.nil
  | cons key rest ih => exact insertSorted_ordered key ih

end Docket
