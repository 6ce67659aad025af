import Docket.Proofs.Store.Checks
import Docket.Proofs.Store.Run
import Docket.Store.Relational
/-!
The relational store keeps its tables exact.

A write removes the rows of the old version before it lists the new ones, so afterwards the rows
of a document are those of its last version alone. A reference row also tells whether the first
reference of the document to that id is to a descriptor (`Document.mark?`).
-/

namespace Docket

def OutboundRef.mark? (refs : List OutboundRef) (id : DocumentId) : Option Bool :=
  (refs.find? fun ref => ref.id = id).map OutboundRef.isDescriptor

theorem OutboundRef.isSome_mark?_iff {refs : List OutboundRef} {id : DocumentId} :
    (mark? refs id).isSome = true ↔ id ∈ refs.map OutboundRef.id := by
  simp [mark?, List.find?_isSome, List.mem_map]

theorem OutboundRef.mark?_cons (ref : OutboundRef) (rest : List OutboundRef) (id : DocumentId) :
    mark? (ref :: rest) id = if ref.id = id then some ref.isDescriptor else mark? rest id := by
  unfold mark?
  by_cases here : ref.id = id
  · simp [here]
  · simp [here]

def DocumentRow.ofDocument (document : Document) : DocumentRow :=
  { identity := document.identity, resource := document.resource,
    validated := document.validated, createdBy := document.createdBy,
    aliasIds := document.aliasIds, bodyText := RelationalStore.encodeBody document.body }

namespace RelationalStore

open Contents

def Linked (references : Table (DocumentId × DocumentId) Bool) (id parent : DocumentId) : Prop :=
  references.contains (parent, id) = true

/-- The store holds the contents: a row for each document, each reference marked as the document
    has it first, and exact tables. -/
structure Holds (store : RelationalStore) (contents : Contents) : Prop where
  documents : ∀ id, store.documents.get? id = (contents.get? id).map DocumentRow.ofDocument
  exact : Exact contents store.existence (Linked store.references)
  references : ∀ parent id, store.references.get? (parent, id)
    = (contents.get? parent).bind fun document => OutboundRef.mark? document.outRefs id

theorem holds_empty : Holds empty Table.empty where
  documents _ := rfl
  exact := Exact.empty (by simp [Linked, empty, Table.contains])
  references _ _ := rfl

variable {store : RelationalStore} {contents : Contents}

theorem referencing_eq (held : store.Holds contents) (ids : List DocumentId)
    (owner : DocumentId) : store.referencing ids owner = contents.parents ids owner := by
  have ascends : Ascends (store.referencing ids owner) := KeySet.sorted_ascending _
  apply eq_of_ascends ascends (parents_ascends ids owner)
  intro parent
  rw [referencing, sortedIds, KeySet.mem_sorted, List.mem_map, mem_parents]
  constructor
  · rintro ⟨⟨parent, id⟩, member, rfl⟩
    obtain ⟨mark, found, asked⟩ := Table.mem_keys_filter_iff.mp member
    simp only [Bool.and_eq_true, List.contains_iff_mem, decide_eq_true_eq] at asked
    have linked : Linked store.references id parent := Table.contains_iff.mpr ⟨mark, found⟩
    exact ⟨asked.2, id, asked.1, (held.exact.inbound id parent).mp linked⟩
  · rintro ⟨differ, id, asked, refers⟩
    obtain ⟨mark, found⟩ := Table.contains_iff.mp ((held.exact.inbound id parent).mpr refers)
    refine ⟨(parent, id), Table.mem_keys_filter_iff.mpr ⟨mark, found, ?_⟩, rfl⟩
    simp [asked, differ]

theorem claimedElsewhere?_eq_none_iff {ids : List DocumentId} {owner : DocumentId} :
    store.claimedElsewhere? ids owner = none ↔
      ∀ id ∈ ids, ∀ other, store.existence.get? id = some other → other = owner := by
  simp only [claimedElsewhere?, Option.map_eq_none_iff, List.find?_eq_none, Prod.forall,
    Table.mem_toList_iff, Bool.and_eq_true, List.contains_iff_mem, decide_eq_true_eq, not_and,
    not_not]
  constructor
  · exact fun free id member other found => free id other found member
  · exact fun free id other found member => free id member other found

theorem exists_mem_chunks_iff {ids : List DocumentId} {id : DocumentId} :
    (∃ chunk ∈ chunks ids, id ∈ chunk) ↔ id ∈ ids := by
  constructor
  · rintro ⟨chunk, listed, member⟩
    obtain ⟨place, _, rfl⟩ := List.mem_map.mp listed
    exact List.mem_of_mem_drop (List.mem_of_mem_take member)
  · intro member
    obtain ⟨place, inside, rfl⟩ := List.mem_iff_getElem.mp member
    refine ⟨_, List.mem_map.mpr ⟨place / chunkSize, List.mem_range.mpr ?_, rfl⟩, ?_⟩
    · simp only [chunkSize]
      omega
    · rw [List.mem_iff_getElem]
      have within : place % chunkSize < chunkSize := Nat.mod_lt _ (by decide)
      have whole : place / chunkSize * chunkSize + place % chunkSize = place :=
        Nat.div_add_mod' place chunkSize
      refine ⟨place % chunkSize, ?_, ?_⟩
      · rw [List.length_take, List.length_drop]
        omega
      · simp only [List.getElem_take, List.getElem_drop, whole]

/-- However the ids are cut up, those that exist are found, in order and each once. -/
theorem existing_eq (ids : List DocumentId) :
    store.existing ids = sortedIds (ids.filter store.existence.contains) := by
  apply eq_of_ascends (KeySet.sorted_ascending _) (KeySet.sorted_ascending _)
  intro id
  have found : ∀ chunk, id ∈ store.existingAmong chunk ↔
      id ∈ chunk ∧ store.existence.contains id = true := by
    intro chunk
    rw [existingAmong, Table.mem_keys_filter_iff, Table.contains_iff]
    simp [and_comm]
  rw [KeySet.mem_sorted, KeySet.mem_sorted, List.mem_flatMap, List.mem_filter,
    ← exists_mem_chunks_iff]
  simp only [found]
  constructor
  · rintro ⟨chunk, listed, member, exist⟩
    exact ⟨⟨chunk, listed, member⟩, exist⟩
  · rintro ⟨⟨chunk, listed, member⟩, exist⟩
    exact ⟨chunk, listed, member, exist⟩

theorem missing_eq (ids : List DocumentId) : store.missing ids = absent store.existence ids := by
  have ascends : Ascends (store.missing ids) := (KeySet.sorted_ascending ids).filter _
  have ascends' : Ascends (absent store.existence ids) := KeySet.sorted_ascending _
  apply eq_of_ascends ascends ascends'
  intro id
  rw [missing, absent, sortedIds, sortedIds, KeySet.mem_sorted, List.mem_filter, List.mem_filter,
    KeySet.mem_sorted]
  apply and_congr_right
  intro asked
  simp [existing_eq, sortedIds, KeySet.mem_sorted, asked]

theorem referencedAlias?_eq (held : store.Holds contents) (dropped : List DocumentId)
    (owner : DocumentId) :
    store.referencedAlias? dropped owner = contents.stillReferenced? dropped owner :=
  stillReferenced?_eq_of_parents (fun id => referencing_eq held [id] owner) dropped

theorem load_eq (held : store.Holds contents) (id : DocumentId) :
    store.load id = match contents.get? id with
      | none => .ok none
      | some document =>
          match decodeBody (encodeBody document.body) with
          | .error cause => .error cause
          | .ok body =>
              .ok (some { document with body := body, outRefs := store.outRefsOf id }) := by
  unfold load
  rw [held.documents]
  cases found : contents.get? id with
  | none => rfl
  | some document =>
      simp only [Option.map_some, decodeRow, DocumentRow.ofDocument]
      cases decodeBody (encodeBody document.body) with
      | error cause => rfl
      | ok body => simp only [held.exact.named id document found]

theorem get?_insertExistence {existence listed : Table DocumentId DocumentId}
    {owner : DocumentId} {ids : List DocumentId}
    (inserted : insertExistence existence owner ids = some listed) (id : DocumentId) :
    listed.get? id = if id ∈ ids then some owner else existence.get? id := by
  induction ids generalizing existence with
  | nil =>
      obtain rfl := Option.some.inj inserted
      simp
  | cons first rest ih =>
      simp only [insertExistence] at inserted
      split at inserted
      · simp at inserted
      · rw [ih inserted, Table.get?_insert]
        by_cases behind : id ∈ rest
        · simp [behind]
        · by_cases here : id = first
          · simp [here]
          · simp [behind, here]

theorem get?_insertReferences (references : Table (DocumentId × DocumentId) Bool)
    (parent : DocumentId) (refs : List OutboundRef) (other id : DocumentId) :
    (insertReferences references parent refs).get? (other, id)
      = if other = parent then (references.get? (other, id)).or (OutboundRef.mark? refs id)
        else references.get? (other, id) := by
  unfold insertReferences
  induction refs generalizing references with
  | nil => simp [OutboundRef.mark?]
  | cons ref rest ih =>
      rw [List.foldl_cons, ih, OutboundRef.mark?_cons]
      by_cases own : other = parent
      · subst own
        by_cases here : ref.id = id
        · subst here
          by_cases listed : references.contains (other, ref.id) = true
          -- The first reference to an id decides the mark of its row.
          · obtain ⟨mark, found⟩ := Table.contains_iff.mp listed
            simp [listed, found]
          · have fresh := Table.contains_eq_false_iff.mp (Bool.eq_false_iff.mpr listed)
            simp [listed, fresh]
        · by_cases listed : references.contains (other, ref.id) = true
          · simp [listed, here]
          · simp [listed, here, Ne.symm here]
      · by_cases listed : references.contains (parent, ref.id) = true
        · simp [listed, own]
        · simp [listed, own]

theorem get?_existence_cleared (held : store.Holds contents) {id : DocumentId}
    {old : Option Document} (recalls : Recalls (contents.get? id) old) (key : DocumentId) :
    (if old.isSome then store.existence.filter fun _ owner => owner ≠ id
        else store.existence).get? key
      = (store.existence.get? key).filter fun owner => owner ≠ id := by
  split
  · exact Table.get?_filter _ _ key
  -- Without an old version nothing is cleared, and nothing needs to be.
  · next absent =>
      cases found : store.existence.get? key with
      | none => rfl
      | some owner =>
          have other : owner ≠ id := by
            rintro rfl
            obtain ⟨document, stored, _⟩ := (held.exact.existence key owner).mp found
            simp [recalls.isSome_eq, stored] at absent
          simp [Option.filter_some, other]

theorem get?_references_cleared (held : store.Holds contents) {id : DocumentId}
    {old : Option Document} (recalls : Recalls (contents.get? id) old)
    (parent key : DocumentId) :
    (if old.isSome then store.references.filter fun pair _ => pair.1 ≠ id
        else store.references).get? (parent, key)
      = if parent = id then none else store.references.get? (parent, key) := by
  split
  · rw [Table.get?_filter]
    by_cases own : parent = id
    · cases store.references.get? (parent, key) with
      | none => simp
      | some mark => simp [own, Option.filter_some]
    · cases store.references.get? (parent, key) with
      | none => simp
      | some mark => simp [own, Option.filter_some]
  · next absent =>
      split
      · next own =>
          have nothing : contents.get? id = none := by simpa [recalls.isSome_eq] using absent
          rw [held.references, own, nothing, Option.bind_none]
      · rfl

theorem recalls_of_load (held : store.Holds contents) {id : DocumentId} {old : Option Document}
    (loaded : store.load id = .ok old) : Recalls (contents.get? id) old := by
  rw [load_eq held] at loaded
  split at loaded
  · next absent =>
      obtain rfl := Except.ok.inj loaded
      exact absent ▸ .absent
  · next document present =>
      split at loaded
      · simp at loaded
      · obtain rfl := Except.ok.inj loaded
        exact present ▸ .present rfl rfl rfl

theorem check_eq (held : store.Holds contents) (write : DocumentWrite) (insertAllowed : Bool) :
    store.check write insertAllowed
      = contents.verdict store.existence write insertAllowed (store.load write.document.id)
          (store.claimedElsewhere? write.document.existenceIds write.document.id) := by
  simp only [check, verdict, missing_eq, referencedAlias?_eq held]
  generalize store.load write.document.id = loaded
  generalize store.claimedElsewhere? _ _ = claim
  generalize absent store.existence _ = lacking
  cases loaded with
  | error cause => rfl
  | ok old =>
      by_cases refused : (old.isNone && !insertAllowed) = true
      · simp [refused]
      · simp only [refused, Bool.false_eq_true, if_false]
        cases claim with
        | some cause => rfl
        | none =>
            cases lacking with
            | cons id rest => rfl
            | nil =>
                cases old with
                | none => rfl
                | some old => rfl

theorem commit?_holds (held : store.Holds contents) {write : DocumentWrite}
    {old : Option Document} {next : RelationalStore}
    (recalls : Recalls (contents.get? write.document.id) old)
    (accepts : contents.Accepts write) (committed : store.commit? old write.document = some next) :
    next.Holds (contents.put write.document) := by
  obtain ⟨listed, inserted, rfl⟩ := Option.map_eq_some_iff.mp committed
  have marks : ∀ parent id,
      (insertReferences (if old.isSome then store.references.filter fun pair _ =>
            pair.1 ≠ write.document.id else store.references)
          write.document.id write.document.outRefs).get? (parent, id)
        = if parent = write.document.id then OutboundRef.mark? write.document.outRefs id
          else store.references.get? (parent, id) := by
    intro parent id
    rw [get?_insertReferences, get?_references_cleared held recalls]
    by_cases own : parent = write.document.id
    · simp [own]
    · simp [own]
  constructor
  · intro id
    rw [get?_put, Table.get?_insert, held.documents]
    by_cases here : id = write.document.id
    · rw [here, if_pos rfl, if_pos rfl, Option.map_some, recalls.keepingCreator_eq,
        Document.keepingCreator_eq]
      rfl
    · simp [here]
  · apply held.exact.put accepts.unclaimed
    · intro id
      rw [get?_insertExistence inserted, get?_existence_cleared held recalls]
    · intro id parent
      simp only [Linked, Table.contains, marks]
      split
      · exact OutboundRef.isSome_mark?_iff
      · exact Iff.rfl
  · intro parent id
    rw [marks, get?_put, held.references]
    split
    · simp
    · rfl

theorem write_step (held : store.Holds contents) (write : DocumentWrite) (insertAllowed : Bool) :
    WriteStep Holds contents write insertAllowed store (store.write write insertAllowed) := by
  unfold RelationalStore.write
  rw [check_eq held]
  split
  · next cause _ => exact .refused cause
  · next old favour =>
      obtain ⟨recalls, accepts, known⟩ := accepts_of_verdict_eq_ok held.exact
        (recalls_of_load held) claimedElsewhere?_eq_none_iff.mp favour
      split
      · next next committed =>
          exact .of_recalls recalls known accepts (commit?_holds held recalls accepts committed)
      · exact .refused _

theorem remove_holds (held : store.Holds contents) (id : DocumentId) :
    (store.remove id).Holds (contents.erase id) where
  documents key := by
    simp only [remove, Table.get?_erase, held.documents]
    split
    · rfl
    · rfl
  exact := by
    apply held.exact.erase
    · intro key
      exact Table.get?_filter _ _ key
    · intro key parent
      simp only [Linked, Table.contains_iff, remove, Table.get?_filter,
        Option.filter_eq_some_iff, decide_eq_true_eq, exists_and_right]
      exact and_comm
  references parent key := by
    simp only [remove, Table.get?_filter, Table.get?_erase]
    cases found : store.references.get? (parent, key) with
    | none =>
        rw [held.references] at found
        split
        · rfl
        · exact found.symm
    | some mark =>
        rw [held.references] at found
        by_cases own : parent = id
        · simp [own, Option.filter_some]
        · simp [own, Option.filter_some, found]

theorem delete_step (held : store.Holds contents) (id : DocumentId) (force : Bool) :
    DeleteStep Holds contents id force store (store.delete id force) := by
  unfold RelationalStore.delete
  rw [load_eq held]
  cases found : contents.get? id with
  | none => exact .kept (by simp)
  | some document =>
      simp only
      cases decodeBody (encodeBody document.body) with
      | error cause => exact .kept (by simp)
      | ok body =>
          simp only [referencing_eq held]
          exact .of_parents document _ found (remove_holds held id)

theorem step_holds (call : Call) (store : RelationalStore) (contents : Contents)
    (held : store.Holds contents) : Step Holds contents call (call.perform store) := by
  cases call with
  | upsert write => exact WriteStep.upsert held (write_step held write true)
  | update write => exact WriteStep.update held (write_step held write false)
  | delete id force => exact DeleteStep.delete held (delete_step held id force)
  | get id => exact Step.unchanged rfl held
  | findExisting ids => exact Step.unchanged rfl held
  | scan bound limit => exact Step.unchanged rfl held

end RelationalStore

end Docket
