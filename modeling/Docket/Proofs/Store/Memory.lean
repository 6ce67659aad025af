import Docket.Proofs.Store.Checks
import Docket.Proofs.Store.Run
import Docket.Proofs.TableOfSets
import Docket.Store.Memory
/-!
The store in memory keeps its tables exact.

The sets of referring documents are repaired by difference: first the links that the new version
lacks go, then all of its own come. What remains is linked exactly to what it refers to, whatever
the two versions share.
-/

namespace Docket.MemoryStore

open Contents

def Linked (inbound : Table DocumentId IdSet) (id parent : DocumentId) : Prop :=
  ∃ parents, inbound.get? id = some parents ∧ parents.contains parent = true

def Inhabited (inbound : Table DocumentId IdSet) : Prop :=
  ∀ id parents, inbound.get? id = some parents → parents.isEmpty = false

section Links

variable {inbound : Table DocumentId IdSet} {owner : DocumentId} {ids : List DocumentId}

theorem unlink_eq : unlink = Table.unlink := by
  funext inbound parent id
  unfold unlink Table.unlink
  cases inbound.get? id with
  | none => rfl
  | some parents => rfl

theorem linked_foldl_link_iff {id parent : DocumentId} :
    Linked (ids.foldl (fun table id => link table owner id) inbound) id parent ↔
      Linked inbound id parent ∨ (id ∈ ids ∧ parent = owner) :=
  Table.links_foldl_link_iff

theorem linked_foldl_unlink_iff {id parent : DocumentId} :
    Linked (ids.foldl (fun table id => unlink table owner id) inbound) id parent ↔
      Linked inbound id parent ∧ ¬ (id ∈ ids ∧ parent = owner) := by
  rw [unlink_eq]
  exact Table.links_foldl_unlink_iff

theorem inhabited_foldl_link (full : Inhabited inbound) (ids : List DocumentId) :
    Inhabited (ids.foldl (fun table id => link table owner id) inbound) :=
  Table.NoneEmpty.foldl_link full ids

theorem inhabited_foldl_unlink (full : Inhabited inbound) (ids : List DocumentId) :
    Inhabited (ids.foldl (fun table id => unlink table owner id) inbound) := by
  rw [unlink_eq]
  exact Table.NoneEmpty.foldl_unlink full ids

end Links

structure Holds (store : MemoryStore) (contents : Contents) : Prop where
  documents : store.documents = contents
  exact : Exact contents store.existence (Linked store.inbound)
  inhabited : Inhabited store.inbound

theorem holds_empty : Holds empty Table.empty where
  documents := rfl
  exact := Exact.empty (by simp [Linked, empty])
  inhabited _ _ found := by simp [empty] at found

variable {store : MemoryStore} {contents : Contents}

theorem claimedElsewhere?_eq (ids : List DocumentId) (owner : DocumentId) :
    store.claimedElsewhere? ids owner = firstClaim? store.existence ids owner := rfl

theorem missing_eq (ids : List DocumentId) : store.missing ids = absent store.existence ids := rfl

theorem parentsExcept_eq (held : store.Holds contents) (owner id : DocumentId) :
    store.parentsExcept owner id = contents.parents [id] owner := by
  have ascends : Ascends (store.parentsExcept owner id) := by
    unfold parentsExcept
    split
    · next parents _ => exact (Table.keys_ascending parents).filter _
    · exact List.Pairwise.nil
  apply eq_of_ascends ascends (parents_ascends [id] owner)
  intro parent
  have linked := held.exact.inbound id parent
  rw [mem_parents]
  simp only [List.mem_singleton, exists_eq_left, ← linked, Linked, parentsExcept]
  cases store.inbound.get? id with
  | none => simp
  | some parents => simp [← Table.contains_iff_mem_keys, and_comm]

theorem referencing_eq (held : store.Holds contents) (document : Document) :
    store.referencing document = contents.parents document.existenceIds document.id := by
  have ascends : Ascends (store.referencing document) := KeySet.sorted_ascending _
  apply eq_of_ascends ascends (parents_ascends _ _)
  intro parent
  rw [referencing, sortedIds, KeySet.mem_sorted, List.mem_flatMap, mem_parents]
  simp only [parentsExcept_eq held, mem_parents, List.mem_singleton, exists_eq_left]
  constructor
  · rintro ⟨id, member, differ, refers⟩
    exact ⟨differ, id, member, refers⟩
  · rintro ⟨differ, id, member, refers⟩
    exact ⟨id, member, differ, refers⟩

theorem referencedAlias?_eq (held : store.Holds contents) (dropped : List DocumentId)
    (owner : DocumentId) :
    store.referencedAlias? dropped owner = contents.stillReferenced? dropped owner :=
  stillReferenced?_eq_of_parents (parentsExcept_eq held owner) dropped

theorem dropped_eq (held : store.Holds contents) (new : Document) :
    contents.dropped new
      = match store.documents.get? new.id with
        | some old => old.droppedAliases new
        | none => [] := by
  rw [held.documents, dropped]
  cases contents.get? new.id with
  | none => rfl
  | some old => rfl

theorem refusal?_eq (held : store.Holds contents) (write : DocumentWrite) (insertAllowed : Bool) :
    store.refusal? write insertAllowed
      = match contents.verdict store.existence write insertAllowed
            (.ok (contents.get? write.document.id))
            (firstClaim? store.existence write.document.existenceIds write.document.id) with
        | .ok _ => none
        | .error cause => some cause := by
  simp only [refusal?, verdict, claimedElsewhere?_eq, missing_eq, held.documents,
    referencedAlias?_eq held]
  generalize firstClaim? store.existence _ _ = claim
  generalize absent store.existence _ = lacking
  generalize contents.get? write.document.id = old
  by_cases refused : (old.isNone && !insertAllowed) = true
  · simp [refused]
  · simp only [refused, Bool.false_eq_true, if_false]
    cases claim with
    | some cause => rfl
    | none =>
        cases lacking with
        | cons id rest => rfl
        | nil =>
            cases old with
            | none => rfl
            | some old =>
                simp only [Option.bind_some, Option.map_some, Option.getD_some]
                cases contents.stillReferenced? _ _ with
                | none => rfl
                | some cause => rfl

theorem accepts_of_refusal?_eq_none (held : store.Holds contents) {write : DocumentWrite}
    {insertAllowed : Bool} (free : store.refusal? write insertAllowed = none) :
    contents.Accepts write ∧
      (insertAllowed = false → (contents.get? write.document.id).isSome = true) := by
  rw [refusal?_eq held] at free
  split at free
  · next old favour =>
      obtain ⟨same, accepts, known⟩ := accepts_of_verdict_eq_ok held.exact
        (fun loaded => Except.ok.inj loaded ▸ Recalls.refl _) firstClaim?_eq_none_iff.mp favour
      exact ⟨accepts, fun only => same.isSome_eq ▸ known only⟩
  · simp at free

theorem linked_commit_iff (held : store.Holds contents) {new : Document} {id parent : DocumentId} :
    Linked (store.commit new).inbound id parent ↔
      if parent = new.id then id ∈ new.outRefIds else Linked store.inbound id parent := by
  simp only [commit, linked_foldl_link_iff, linked_foldl_unlink_iff, held.documents]
  by_cases own : parent = new.id
  · subst own
    -- A link that no stale reference takes away is one that the new version has as well.
    simp only [and_true, if_true, or_iff_right_iff_imp, and_imp]
    intro linked kept
    obtain ⟨old, found, member⟩ := (held.exact.inbound id new.id).mp linked
    obtain ⟨ref, refers, rfl⟩ := List.mem_map.mp member
    by_cases again : ref ∈ new.outRefs
    · exact List.mem_map_of_mem again
    · have others : ∀ stale ∈ old.outRefs, stale ∉ new.outRefs → stale.id ≠ ref.id := by
        simpa [found] using kept
      exact absurd rfl (others ref refers again)
  · simp [own]

theorem commit_holds (held : store.Holds contents) {write : DocumentWrite}
    (accepts : contents.Accepts write) :
    (store.commit write.document).Holds (contents.put write.document) where
  documents := by
    simp only [commit, held.documents, put]
  exact := by
    apply held.exact.put accepts.unclaimed
    · intro id
      have kept := held.exact.get?_eraseAll_dropped write.document id
      rw [dropped_eq held] at kept
      simp only [commit, Table.get?_foldl_insert, List.map_id']
      split
      · rfl
      · next absent => exact kept absent
    · intro id parent
      exact linked_commit_iff held
  inhabited := inhabited_foldl_link (inhabited_foldl_unlink held.inhabited _) _

theorem write_step (held : store.Holds contents) (write : DocumentWrite) (insertAllowed : Bool) :
    WriteStep Holds contents write insertAllowed store (store.write write insertAllowed) := by
  unfold MemoryStore.write
  cases free : store.refusal? write insertAllowed with
  | some cause => exact .refused cause
  | none =>
      obtain ⟨accepts, known⟩ := accepts_of_refusal?_eq_none held free
      have stored := commit_holds held accepts
      rw [Table.contains, held.documents]
      exact .of_recalls (.refl _) known accepts stored

theorem remove_holds (held : store.Holds contents) {id : DocumentId} {document : Document}
    (found : contents.get? id = some document) :
    (store.remove id document).Holds (contents.erase id) := by
  constructor
  · simp only [remove, held.documents]
  · apply held.exact.erase
    · exact held.exact.get?_release found
    · intro key parent
      simp only [remove, linked_foldl_unlink_iff]
      constructor
      · rintro ⟨linked, kept⟩
        refine ⟨?_, linked⟩
        -- All that the document is linked to is among its references, hence unlinked.
        rintro rfl
        obtain ⟨stored, found', member⟩ := (held.exact.inbound key parent).mp linked
        rw [found] at found'
        exact kept ⟨Option.some.inj found' ▸ member, rfl⟩
      · rintro ⟨other, linked⟩
        exact ⟨linked, fun own => other own.2⟩
  · exact inhabited_foldl_unlink held.inhabited _

theorem delete_step (held : store.Holds contents) (id : DocumentId) (force : Bool) :
    DeleteStep Holds contents id force store (store.delete id force) := by
  unfold MemoryStore.delete
  rw [held.documents]
  cases found : contents.get? id with
  | none => exact .kept (by simp)
  | some document =>
      have named : document.id = id := held.exact.named id document found
      simp only [referencing_eq held, named]
      exact .of_parents document document found (remove_holds held found)

theorem step_holds (call : Call) (store : MemoryStore) (contents : Contents)
    (held : store.Holds contents) : Step Holds contents call (call.perform store) := by
  cases call with
  | upsert write => exact WriteStep.upsert held (write_step held write true)
  | update write => exact WriteStep.update held (write_step held write false)
  | delete id force => exact DeleteStep.delete held (delete_step held id force)
  | get id => exact Step.unchanged rfl held
  | findExisting ids => exact Step.unchanged rfl held
  | scan bound limit => exact Step.unchanged rfl held

end Docket.MemoryStore
