import Docket.Proofs.Table
/-!
Tables of sets.

A table that has a set of members under some keys says of each key and member whether they are
linked. Linking puts a member into the set of a key; unlinking takes it out, and a set that is left
empty goes with its key. Both change nothing but the pairs they are about, however often a pair is
named.
-/

namespace Docket.Table

universe u v

variable {κ : Type u} {μ : Type v} [Key κ] [DecidableEq κ] [Key μ] [DecidableEq μ]

def link (table : Table κ (KeySet μ)) (member : μ) (key : κ) : Table κ (KeySet μ) :=
  table.insert key (((table.get? key).getD empty).insert member ())

def unlink (table : Table κ (KeySet μ)) (member : μ) (key : κ) : Table κ (KeySet μ) :=
  match table.get? key with
  | none => table
  | some members =>
      let rest := members.erase member
      if rest.isEmpty then table.erase key else table.insert key rest

def Links (table : Table κ (KeySet μ)) (key : κ) (member : μ) : Prop :=
  ∃ members, table.get? key = some members ∧ members.contains member = true

def NoneEmpty (table : Table κ (KeySet μ)) : Prop :=
  ∀ key members, table.get? key = some members → members.isEmpty = false

theorem isEmpty_eq_false_of_contains {members : KeySet μ} (member : μ)
    (inside : members.contains member = true) : members.isEmpty = false := by
  have listed : member ∈ members.keys := contains_iff_mem_keys.mp inside
  cases nothing : members.isEmpty with
  | false => rfl
  | true =>
      rw [keys, List.isEmpty_iff.mp nothing] at listed
      simp at listed

theorem not_contains_of_isEmpty {members : KeySet μ} (nothing : members.isEmpty = true)
    (member : μ) : members.contains member = false := by
  cases inside : members.contains member with
  | false => rfl
  | true => simp [isEmpty_eq_false_of_contains member inside] at nothing

theorem exists_contains {members : KeySet μ} (some : members.isEmpty = false) :
    ∃ member, members.contains member = true := by
  cases members with
  | mk entries ascending =>
      cases entries with
      | nil => simp [isEmpty] at some
      | cons entry rest =>
          exact ⟨entry.1, contains_iff_mem_keys.mpr (by simp [keys])⟩

theorem eq_of_contains {left right : KeySet μ}
    (same : ∀ member, left.contains member = true ↔ right.contains member = true) :
    left = right := by
  apply ext_get?
  intro member
  have alike := same member
  simp only [contains] at alike
  cases inside : left.get? member with
  | none =>
      cases inside' : right.get? member with
      | none => rfl
      | some _ => simp [inside, inside'] at alike
  | some _ =>
      cases inside' : right.get? member with
      | none => simp [inside, inside'] at alike
      | some _ => rfl

variable {table : Table κ (KeySet μ)} {owner : μ}

theorem links_link_iff {here key : κ} {member : μ} :
    (table.link owner here).Links key member ↔
      table.Links key member ∨ (key = here ∧ member = owner) := by
  simp only [Links, link, get?_insert]
  by_cases same : key = here
  · subst same
    cases table.get? key with
    | none => simp [contains]
    | some members =>
        by_cases own : member = owner
        · simp [contains, own]
        · simp [contains, own]
  · simp [same]

theorem links_unlink_iff {here key : κ} {member : μ} :
    (table.unlink owner here).Links key member ↔
      table.Links key member ∧ ¬ (key = here ∧ member = owner) := by
  unfold Links unlink
  cases found : table.get? here with
  | none =>
      constructor
      · rintro ⟨members, stored, inside⟩
        refine ⟨⟨members, stored, inside⟩, ?_⟩
        rintro ⟨rfl, _⟩
        rw [found] at stored
        simp at stored
      · exact fun linked => linked.1
  | some members =>
      by_cases same : key = here
      · subst same
        by_cases nothing : (members.erase owner).isEmpty = true
        -- The set goes with its last member, so who was in it was the owner.
        · have gone := not_contains_of_isEmpty nothing member
          simp only [contains, get?_erase] at gone
          by_cases own : member = owner
          · simp [nothing, own]
          · simp only [own, if_false] at gone
            simp [nothing, found, own, contains, gone]
        · by_cases own : member = owner
          · simp [nothing, found, own, contains]
          · simp [nothing, found, own, contains]
      · by_cases nothing : (members.erase owner).isEmpty = true
        · simp [nothing, same]
        · simp [nothing, same]

theorem links_foldl_link_iff {keys : List κ} {key : κ} {member : μ} :
    (keys.foldl (fun table key => table.link owner key) table).Links key member ↔
      table.Links key member ∨ (key ∈ keys ∧ member = owner) := by
  induction keys generalizing table with
  | nil => simp
  | cons first rest ih =>
      rw [List.foldl_cons, ih, links_link_iff, or_assoc, ← or_and_right, List.mem_cons]

theorem links_foldl_unlink_iff {keys : List κ} {key : κ} {member : μ} :
    (keys.foldl (fun table key => table.unlink owner key) table).Links key member ↔
      table.Links key member ∧ ¬ (key ∈ keys ∧ member = owner) := by
  induction keys generalizing table with
  | nil => simp
  | cons first rest ih =>
      rw [List.foldl_cons, ih, links_unlink_iff, and_assoc, ← not_or, ← or_and_right,
        List.mem_cons]

theorem NoneEmpty.link (full : table.NoneEmpty) (here : κ) : (table.link owner here).NoneEmpty := by
  intro key members found
  rw [Table.link, get?_insert] at found
  split at found
  · obtain rfl := Option.some.inj found
    exact isEmpty_eq_false_of_contains owner (by simp [contains])
  · exact full key members found

theorem NoneEmpty.unlink (full : table.NoneEmpty) (here : κ) :
    (table.unlink owner here).NoneEmpty := by
  unfold Table.unlink
  split
  · exact full
  · next members _ =>
      intro key others found
      by_cases nothing : (members.erase owner).isEmpty = true
      · simp only [nothing, if_true, get?_erase] at found
        split at found
        · simp at found
        · exact full key others found
      · simp only [nothing, Bool.false_eq_true, if_false, get?_insert] at found
        split at found
        · obtain rfl := Option.some.inj found
          simpa using nothing
        · exact full key others found

theorem NoneEmpty.foldl_link (full : table.NoneEmpty) (keys : List κ) :
    (keys.foldl (fun table key => table.link owner key) table).NoneEmpty :=
  List.foldlRecOn keys _ full fun _ full key _ => full.link key

theorem NoneEmpty.foldl_unlink (full : table.NoneEmpty) (keys : List κ) :
    (keys.foldl (fun table key => table.unlink owner key) table).NoneEmpty :=
  List.foldlRecOn keys _ full fun _ full key _ => full.unlink key

theorem eq_of_links {left right : Table κ (KeySet μ)} (full : left.NoneEmpty)
    (full' : right.NoneEmpty) (same : ∀ key member, left.Links key member ↔ right.Links key member) :
    left = right := by
  apply ext_get?
  intro key
  -- A set that is there has a member, so the other table has a set under the key too.
  have other : ∀ {table table' : Table κ (KeySet μ)} {members : KeySet μ}, table.NoneEmpty →
      (∀ member, table.Links key member → table'.Links key member) →
      table.get? key = some members → ∃ members', table'.get? key = some members' := by
    intro table table' members full carries found
    obtain ⟨member, inside⟩ := exists_contains (full key members found)
    obtain ⟨members', found', _⟩ := carries member ⟨members, found, inside⟩
    exact ⟨members', found'⟩
  cases found : left.get? key with
  | none =>
      cases found' : right.get? key with
      | none => rfl
      | some members' =>
          obtain ⟨members, here⟩ := other full' (fun member => (same key member).mpr) found'
          simp [found] at here
  | some members =>
      obtain ⟨members', found'⟩ := other full (fun member => (same key member).mp) found
      rw [found']
      congr 1
      apply eq_of_contains
      intro member
      simpa [Links, found, found'] using same key member

end Docket.Table
