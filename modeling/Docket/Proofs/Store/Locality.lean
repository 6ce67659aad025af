import Docket.Proofs.Store.Memory
/-!
What an operation on a document touches.

A write holds the locks of its footprint, a deletion those of the ids of the document. These are all
that it needs: stores that agree there on the document and on the entries are answered alike and
changed alike, and what others may be at work on is left alone. The sets under the ids to which the
old version referred need no lock, because an operation takes no other document out of them.
-/

namespace Docket.MemoryStore

structure AgreeOn (id : DocumentId) (keys : List DocumentId) (left right : MemoryStore) : Prop where
  document : left.documents.get? id = right.documents.get? id
  existence : ∀ key ∈ keys, left.existence.get? key = right.existence.get? key
  inbound : ∀ key ∈ keys, left.inbound.get? key = right.inbound.get? key

/-- A step on the document of an id leaves alone the other documents, the owners of ids outside some
    keys, and the links of the other documents. -/
structure Spares (id : DocumentId) (keys : List DocumentId) (before after : MemoryStore) :
    Prop where
  documents : ∀ other, other ≠ id → after.documents.get? other = before.documents.get? other
  existence : ∀ key, key ∉ keys → after.existence.get? key = before.existence.get? key
  inbound : ∀ key parent, parent ≠ id →
    (Linked after.inbound key parent ↔ Linked before.inbound key parent)

/-- An operation on the document of an id reads no more than that document and the entries of some
    keys, and changes no more than those and the links of the document. -/
structure LocalTo {α : Type} (id : DocumentId) (keys : MemoryStore → List DocumentId)
    (operation : MemoryStore → α × MemoryStore) : Prop where
  spares : ∀ store, Spares id (keys store) store (operation store).2
  agree : ∀ left right, AgreeOn id (keys left) left right →
    (operation left).1 = (operation right).1 ∧
      AgreeOn id (keys left) (operation left).2 (operation right).2

theorem Spares.refl (id : DocumentId) (keys : List DocumentId) (store : MemoryStore) :
    Spares id keys store store :=
  ⟨fun _ _ => rfl, fun _ _ => rfl, fun _ _ _ => Iff.rfl⟩

theorem LocalTo.mapAnswer {α β : Type} {id : DocumentId} {keys : MemoryStore → List DocumentId}
    {operation : MemoryStore → α × MemoryStore} (confined : LocalTo id keys operation) (f : α → β) :
    LocalTo id keys fun store => (f (operation store).1, (operation store).2) where
  spares := confined.spares
  agree left right agree := by
    obtain ⟨same, after⟩ := confined.agree left right agree
    exact ⟨congrArg f same, after⟩

section Entries

variable {left right : Table DocumentId IdSet} {key : DocumentId}

theorem get?_foldl_congr {step : Table DocumentId IdSet → DocumentId → Table DocumentId IdSet}
    (alone : ∀ left right id, left.get? key = right.get? key →
      (step left id).get? key = (step right id).get? key)
    (ids : List DocumentId) (same : left.get? key = right.get? key) :
    (ids.foldl step left).get? key = (ids.foldl step right).get? key := by
  induction ids generalizing left right with
  | nil => exact same
  | cons id rest ih => exact ih (alone left right id same)

theorem get?_link_congr (parent id : DocumentId) (same : left.get? key = right.get? key) :
    (link left parent id).get? key = (link right parent id).get? key := by
  simp only [link, Table.get?_insert]
  split
  · next here => rw [← here, same]
  · exact same

theorem get?_unlink (inbound : Table DocumentId IdSet) (parent id key : DocumentId) :
    (unlink inbound parent id).get? key
      = if key = id then
          (inbound.get? id).bind fun parents =>
            if (parents.erase parent).isEmpty then none else some (parents.erase parent)
        else inbound.get? key := by
  unfold unlink
  cases found : inbound.get? id with
  | none =>
      by_cases here : key = id
      · simp [here, found]
      · simp [here]
  | some parents =>
      by_cases nothing : (parents.erase parent).isEmpty = true
      · simp [nothing]
      · simp [nothing]

theorem get?_unlink_congr (parent id : DocumentId) (same : left.get? key = right.get? key) :
    (unlink left parent id).get? key = (unlink right parent id).get? key := by
  rw [get?_unlink, get?_unlink]
  split
  · next here => rw [← here, same]
  · exact same

end Entries

section Checks

variable {id : DocumentId} {keys : List DocumentId} {left right : MemoryStore}

theorem AgreeOn.claimedElsewhere? (agree : AgreeOn id keys left right) {ids : List DocumentId}
    (inside : ids ⊆ keys) (owner : DocumentId) :
    left.claimedElsewhere? ids owner = right.claimedElsewhere? ids owner := by
  unfold MemoryStore.claimedElsewhere?
  rw [← List.head?_filterMap, ← List.head?_filterMap]
  congr 1
  apply List.filterMap_congr
  intro key member
  rw [agree.existence key (inside member)]

theorem AgreeOn.missing (agree : AgreeOn id keys left right) {ids : List DocumentId}
    (inside : ids ⊆ keys) : left.missing ids = right.missing ids := by
  unfold MemoryStore.missing
  congr 1
  apply List.filter_congr
  intro key member
  rw [Table.contains, Table.contains, agree.existence key (inside member)]

theorem AgreeOn.parentsExcept (agree : AgreeOn id keys left right) {key : DocumentId}
    (inside : key ∈ keys) (owner : DocumentId) :
    left.parentsExcept owner key = right.parentsExcept owner key := by
  rw [MemoryStore.parentsExcept, MemoryStore.parentsExcept, agree.inbound key inside]

theorem AgreeOn.referencedAlias? (agree : AgreeOn id keys left right) {dropped : List DocumentId}
    (inside : dropped ⊆ keys) (owner : DocumentId) :
    left.referencedAlias? dropped owner = right.referencedAlias? dropped owner := by
  unfold MemoryStore.referencedAlias?
  rw [← List.head?_filterMap, ← List.head?_filterMap]
  congr 1
  apply List.filterMap_congr
  intro key member
  rw [agree.parentsExcept (inside member)]

theorem AgreeOn.referencing (agree : AgreeOn id keys left right) {document : Document}
    (inside : document.existenceIds ⊆ keys) :
    left.referencing document = right.referencing document := by
  unfold MemoryStore.referencing
  congr 1
  apply List.flatMap_congr
  intro key member
  exact agree.parentsExcept (inside member) document.id

end Checks

section Writes

variable {store left right : MemoryStore} {write : DocumentWrite}

theorem existenceIds_subset_footprint (store : MemoryStore) (write : DocumentWrite) :
    write.document.existenceIds ⊆ store.footprint write := by
  intro key member
  simp [footprint, member]

theorem enforcedRefs_subset_footprint (store : MemoryStore) (write : DocumentWrite) :
    write.enforcedRefs ⊆ store.footprint write := by
  intro key member
  simp [footprint, member]

theorem droppedAliases_subset_footprint {old : Document}
    (found : store.documents.get? write.document.id = some old) :
    old.droppedAliases write.document ⊆ store.footprint write := by
  intro key member
  simp [footprint, found, (Document.mem_droppedAliases.mp member).1]

theorem dropped_subset_footprint (store : MemoryStore) (write : DocumentWrite) :
    Contents.dropped store.documents write.document ⊆ store.footprint write := by
  intro key member
  obtain ⟨old, found, aliased, fresh⟩ := Contents.mem_dropped.mp member
  exact droppedAliases_subset_footprint found (Document.mem_droppedAliases.mpr ⟨aliased, fresh⟩)

theorem refusal?_congr (agree : AgreeOn write.document.id (left.footprint write) left right)
    (insertAllowed : Bool) :
    left.refusal? write insertAllowed = right.refusal? write insertAllowed := by
  have claim := agree.claimedElsewhere? (existenceIds_subset_footprint left write) write.document.id
  have lacking := agree.missing (enforcedRefs_subset_footprint left write)
  simp only [refusal?, ← agree.document, claim, lacking]
  cases found : left.documents.get? write.document.id with
  | none => rfl
  | some old =>
      have referred := agree.referencedAlias? (droppedAliases_subset_footprint found)
        write.document.id
      simp only [Option.bind_some, referred]

theorem get?_existence_commit (store : MemoryStore) (new : Document) (key : DocumentId) :
    (store.commit new).existence.get? key
      = if key ∈ new.existenceIds then some new.id
        else if key ∈ Contents.dropped store.documents new then none
        else store.existence.get? key := by
  unfold Contents.dropped
  cases found : store.documents.get? new.id with
  | none => simp [commit, found, Table.get?_foldl_insert, Table.get?_eraseAll]
  | some old => simp [commit, found, Table.get?_foldl_insert, Table.get?_eraseAll]

theorem commit_spares (store : MemoryStore) (write : DocumentWrite) :
    Spares write.document.id (store.footprint write) store (store.commit write.document) where
  documents other differ := by simp [commit, differ]
  existence key outside := by
    have unowned : key ∉ write.document.existenceIds :=
      fun member => outside (existenceIds_subset_footprint store write member)
    have undropped : key ∉ Contents.dropped store.documents write.document :=
      fun member => outside (dropped_subset_footprint store write member)
    rw [get?_existence_commit, if_neg unowned, if_neg undropped]
  inbound key parent differ := by
    simp only [commit, linked_foldl_link_iff, linked_foldl_unlink_iff]
    simp [differ]

theorem commit_agree (agree : AgreeOn write.document.id (left.footprint write) left right) :
    AgreeOn write.document.id (left.footprint write) (left.commit write.document)
      (right.commit write.document) where
  document := by simp [commit, agree.document]
  existence key member := by
    rw [get?_existence_commit, get?_existence_commit, agree.existence key member, Contents.dropped,
      Contents.dropped, agree.document]
  inbound key member := by
    simp only [commit, agree.document]
    apply get?_foldl_congr (fun _ _ => get?_link_congr write.document.id)
    apply get?_foldl_congr (fun _ _ => get?_unlink_congr write.document.id)
    exact agree.inbound key member

theorem write_local (write : DocumentWrite) (insertAllowed : Bool) :
    LocalTo write.document.id (fun store => store.footprint write)
      fun store => store.write write insertAllowed where
  spares store := by
    unfold MemoryStore.write
    cases store.refusal? write insertAllowed with
    | some cause => exact .refl _ _ _
    | none => exact commit_spares store write
  agree left right agree := by
    have stored : left.documents.contains write.document.id
        = right.documents.contains write.document.id := by
      rw [Table.contains, Table.contains, agree.document]
    simp only [MemoryStore.write, refusal?_congr agree, stored]
    cases right.refusal? write insertAllowed with
    | some cause => exact ⟨rfl, agree⟩
    | none => exact ⟨rfl, commit_agree agree⟩

end Writes

section Deletions

variable {store left right : MemoryStore} {id : DocumentId} {document : Document}

def storedIds (id : DocumentId) (store : MemoryStore) : List DocumentId :=
  match store.documents.get? id with
  | some document => document.existenceIds
  | none => []

theorem remove_spares (store : MemoryStore) (id : DocumentId) (document : Document) :
    Spares id document.existenceIds store (store.remove id document) where
  documents other differ := by simp [remove, differ]
  existence key outside := by
    simp only [remove, Contents.get?_foldl_release, if_neg outside]
  inbound key parent differ := by
    simp [remove, linked_foldl_unlink_iff, differ]

theorem remove_agree {keys : List DocumentId} (agree : AgreeOn id keys left right)
    (document : Document) :
    AgreeOn id keys (left.remove id document) (right.remove id document) where
  document := by simp [remove]
  existence key member := by
    simp only [remove, Contents.get?_foldl_release, agree.existence key member]
  inbound key member :=
    get?_foldl_congr (fun _ _ => get?_unlink_congr id) _ (agree.inbound key member)

theorem delete_local (id : DocumentId) (force : Bool) :
    LocalTo id (storedIds id) fun store => store.delete id force where
  spares store := by
    unfold storedIds
    cases found : store.documents.get? id with
    | none =>
        simp only [MemoryStore.delete, found]
        exact .refl _ _ _
    | some document =>
        have removed := remove_spares store id document
        simp only [MemoryStore.delete, found]
        cases store.referencing document with
        | nil => exact removed
        | cons parent rest =>
            cases force with
            | true => exact removed
            | false => exact .refl _ _ _
  agree left right agree := by
    unfold storedIds at agree ⊢
    cases found : left.documents.get? id with
    | none =>
        have found' := agree.document.symm.trans found
        rw [found] at agree
        simp only [MemoryStore.delete, found, found']
        exact ⟨trivial, agree⟩
    | some document =>
        have found' := agree.document.symm.trans found
        rw [found] at agree
        have same := agree.referencing (List.Subset.refl _)
        have removed := remove_agree agree document
        simp only [MemoryStore.delete, found, found', same]
        cases right.referencing document with
        | nil => exact ⟨rfl, removed⟩
        | cons parent rest =>
            cases force with
            | true => exact ⟨rfl, removed⟩
            | false => exact ⟨rfl, agree⟩

end Deletions

/-- The locks that an operation takes are those of all that it reads and of all that it changes of
    what others read. -/
theorem operations_local (write : DocumentWrite) (id : DocumentId) (force : Bool) :
    LocalTo write.document.id (fun store => store.footprint write)
        (fun store : MemoryStore => DocumentStore.upsert write store) ∧
      LocalTo write.document.id (fun store => store.footprint write)
        (fun store : MemoryStore => DocumentStore.update write store) ∧
      LocalTo id (storedIds id) (fun store : MemoryStore => DocumentStore.delete id force store) :=
  ⟨(write_local write true).mapAnswer Applied.upsertOutcome,
    (write_local write false).mapAnswer Applied.updateOutcome, delete_local id force⟩

end Docket.MemoryStore
