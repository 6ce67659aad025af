import Docket.Proofs.Store.Checks
import Docket.Proofs.Store.InboundKeys
import Docket.Proofs.Store.Run
import Docket.Proofs.Wire.Document
/-!
The store of texts in flat tables keeps its tables exact.

A stored text gives back its document up to the body, whatever a reader makes of that, or cannot be
read. So the ids and references that the store finds are those of the last version written, and a
write takes away all of its old entries before the new ones come.
-/

namespace Docket.KeyValueStore

open Contents

theorem toOption_decodeDocument (text : String) :
    (decodeDocument text).toOption = (Json.readStored text).toOption.bind Document.decode? := by
  unfold decodeDocument
  cases Json.readStored text with
  | error cause => rfl
  | ok json =>
      simp only [Except.toOption, Option.bind_some]
      cases Document.decode? json with
      | none => rfl
      | some document => rfl

theorem toOption_decodeDocument_encodeDocument (document : Document) :
    (decodeDocument (encodeDocument document)).toOption
      = if document.encode.depth ≤ 127 then
          ((document.body.json.reread? WrittenDecimal.scaled?).bind Body.ofJson?).map
            document.withBody
        else none := by
  rw [toOption_decodeDocument, encodeDocument, Json.toOption_readStored_text]
  split
  · exact document.decode?_reread? WrittenDecimal.scaled?
  · rfl

theorem decodeDocument_encodeDocument {document : Document} (readable : document.body.Readable) :
    decodeDocument (encodeDocument document) = .ok document := by
  have shallow : document.encode.depth ≤ 127 := by
    have deeper := document.depth_encode_le
    have body := readable.shallow
    omega
  have reread := readable.reread?_eq
  have body : Body.ofJson? document.body.json = some document.body := by
    rw [Body.ofJson?, dif_pos document.body.canonical]
  have view := toOption_decodeDocument_encodeDocument document
  rw [if_pos shallow, reread, Option.bind_some, body, Option.map_some] at view
  cases decoded : decodeDocument (encodeDocument document) with
  | error cause => simp [decoded, Except.toOption] at view
  | ok read =>
      rw [decoded] at view
      exact congrArg Except.ok (Option.some.inj view)

theorem decodeAll_map_encodeDocument {documents : List Document}
    (readable : ∀ document ∈ documents, document.body.Readable) :
    decodeAll (documents.map encodeDocument) = .ok documents := by
  induction documents with
  | nil => rfl
  | cons document rest ih =>
      have first := readable document List.mem_cons_self
      have others := ih fun other member => readable other (List.mem_cons_of_mem _ member)
      simp only [List.map_cons, decodeAll, decodeDocument_encodeDocument first, others]

theorem decodeAll_eq_map {texts : List String} {read : String → Document}
    (each : ∀ text ∈ texts, decodeDocument text = .ok (read text)) :
    decodeAll texts = .ok (texts.map read) := by
  induction texts with
  | nil => rfl
  | cons text rest ih =>
      have first := each text List.mem_cons_self
      have others := ih fun other member => each other (List.mem_cons_of_mem _ member)
      simp only [List.map_cons, decodeAll, first, others]

inductive Loaded : Option Document → Option Document → Prop where
  | absent : Loaded none none
  | present (stored : Document) (body : Body) :
      Loaded (some stored) (some (stored.withBody body))

theorem Loaded.recalls {stored read : Option Document} (loaded : Loaded stored read) :
    Recalls stored read := by
  cases loaded with
  | absent => exact .absent
  | present stored body => exact .present rfl rfl rfl

structure Holds (store : KeyValueStore) (contents : Contents) : Prop where
  documents : ∀ id, store.documents.get? id = (contents.get? id).map encodeDocument
  exact : Exact contents store.existence (Linked store.inbound)
  tidy : Tidy store.inbound

theorem holds_empty : Holds empty Table.empty where
  documents _ := rfl
  exact := Exact.empty (by simp [Linked, empty])
  tidy := tidy_empty

variable {store : KeyValueStore} {contents : Contents}

theorem claimedElsewhere?_eq (ids : List DocumentId) (owner : DocumentId) :
    store.claimedElsewhere? ids owner = firstClaim? store.existence ids owner := rfl

theorem missing_eq (ids : List DocumentId) : store.missing ids = absent store.existence ids := rfl

theorem loaded_of_load (held : store.Holds contents) {id : DocumentId} {old : Option Document}
    (found : store.load id = .ok old) : Loaded (contents.get? id) old := by
  unfold load at found
  rw [held.documents] at found
  cases stored : contents.get? id with
  | none =>
      rw [stored] at found
      obtain rfl := Except.ok.inj found
      exact .absent
  | some document =>
      rw [stored] at found
      simp only [Option.map_some] at found
      have view := toOption_decodeDocument_encodeDocument document
      split at found
      · next read decoded =>
          obtain rfl := Except.ok.inj found
          rw [decoded] at view
          split at view
          · obtain ⟨body, _, rfl⟩ := Option.map_eq_some_iff.mp view.symm
            exact .present document body
          · simp [Except.toOption] at view
      · simp at found

theorem referencedAlias?_eq (held : store.Holds contents) (owner : DocumentId)
    (dropped : List DocumentId) :
    store.referencedAlias? owner dropped
      = (contents.stillReferenced? dropped owner).map .conflict := by
  induction dropped with
  | nil => rfl
  | cons id rest ih =>
      simp only [stillReferenced?] at ih ⊢
      rw [referencedAlias?, inboundParents_eq held.tidy held.exact.inbound, ih,
        List.findSome?_cons]
      cases contents.parents [id] owner with
      | nil => rfl
      | cons parent others => rfl

section Entries

variable {inbound : Table String String}

theorem mem_map_inboundKey_iff {ids : List DocumentId} {owner id parent : DocumentId} :
    (inboundKey id parent ∈ ids.map fun id => inboundKey id owner) ↔
      parent = owner ∧ id ∈ ids := by
  rw [List.mem_map]
  constructor
  · rintro ⟨other, member, same⟩
    obtain ⟨rfl, rfl⟩ := inboundKey_inj.mp same
    exact ⟨rfl, member⟩
  · rintro ⟨rfl, member⟩
    exact ⟨id, member, rfl⟩

theorem linked_dropReferences_iff {document : Document} {id parent : DocumentId} :
    Linked (dropReferences inbound document) id parent ↔
      Linked inbound id parent ∧ ¬ (parent = document.id ∧ id ∈ document.outRefIds) := by
  rw [Linked, dropReferences, Table.get?_eraseAll, Linked, ← mem_map_inboundKey_iff]
  split
  · next gone => simp [gone]
  · next kept => simp [kept]

theorem foldl_insert_eq_withEntries (owner : DocumentId) (ids : List DocumentId) :
    ids.foldl (fun table id => table.insert (inboundKey id owner) owner.text) inbound
      = withEntries inbound (ids.map fun id => (id, owner)) := by
  rw [withEntries, List.foldl_map]

theorem linked_foldl_insert_iff {ids : List DocumentId} {owner id parent : DocumentId} :
    Linked (ids.foldl (fun table id => table.insert (inboundKey id owner) owner.text) inbound)
        id parent ↔
      (parent = owner ∧ id ∈ ids) ∨ Linked inbound id parent := by
  rw [foldl_insert_eq_withEntries, linked_withEntries_iff, List.mem_map]
  refine or_congr_left ⟨?_, ?_⟩
  · rintro ⟨other, member, same⟩
    obtain ⟨rfl, rfl⟩ := Prod.mk.inj same
    exact ⟨rfl, member⟩
  · rintro ⟨rfl, member⟩
    exact ⟨id, member, rfl⟩

theorem tidy_dropReferences (tidy : Tidy inbound) (document : Document) :
    Tidy (dropReferences inbound document) := by
  intro key text found
  rw [dropReferences, Table.get?_eraseAll] at found
  split at found
  · simp at found
  · exact tidy key text found

theorem tidy_foldl_insert (tidy : Tidy inbound) (owner : DocumentId) (ids : List DocumentId) :
    Tidy (ids.foldl (fun table id => table.insert (inboundKey id owner) owner.text) inbound) := by
  rw [foldl_insert_eq_withEntries]
  exact tidy.withEntries _

end Entries

theorem check_eq (held : store.Holds contents) (write : DocumentWrite) (insertAllowed : Bool) :
    store.check write insertAllowed
      = contents.verdict store.existence write insertAllowed (store.load write.document.id)
          (firstClaim? store.existence write.document.existenceIds write.document.id) := by
  simp only [check, verdict, claimedElsewhere?_eq, missing_eq, referencedAlias?_eq held]
  generalize store.load write.document.id = loaded
  generalize firstClaim? store.existence _ _ = claim
  generalize absent store.existence _ = lacking
  cases loaded with
  | error cause => rfl
  | ok old =>
      by_cases refused : (old.isNone && !insertAllowed) = true
      · simp [refused]
      · simp only [refused, Bool.false_eq_true, if_false]
        cases claim with
        | some cause => rfl
        | none =>
            cases lacking with
            | cons id rest => rfl
            | nil =>
                simp only
                cases contents.stillReferenced? _ _ with
                | none => rfl
                | some cause => rfl

theorem linked_released_iff (held : store.Holds contents) {owner : DocumentId}
    {stored : Document} (found : contents.get? owner = some stored) (body : Body)
    {id parent : DocumentId} :
    Linked (dropReferences store.inbound (stored.withBody body)) id parent ↔
      parent ≠ owner ∧ Linked store.inbound id parent := by
  have named : stored.id = owner := held.exact.named owner stored found
  rw [linked_dropReferences_iff, Document.withBody_id, Document.withBody_outRefIds, named]
  constructor
  · rintro ⟨linked, kept⟩
    refine ⟨?_, linked⟩
    rintro rfl
    obtain ⟨document, found', member⟩ := (held.exact.inbound id parent).mp linked
    rw [found] at found'
    exact kept ⟨rfl, Option.some.inj found' ▸ member⟩
  · rintro ⟨other, linked⟩
    exact ⟨linked, fun own => other own.1⟩

theorem linked_commit_iff (held : store.Holds contents) {new : Document} {old : Option Document}
    (loaded : Loaded (contents.get? new.id) old) {id parent : DocumentId} :
    Linked (store.commit old new).inbound id parent ↔
      if parent = new.id then id ∈ new.outRefIds else Linked store.inbound id parent := by
  simp only [commit, linked_foldl_insert_iff]
  cases found : contents.get? new.id with
  | none =>
      rw [found] at loaded
      cases loaded with
      | absent =>
          by_cases own : parent = new.id
          -- Nothing was stored, so no entry of the document is there to be removed.
          · have unlinked : ¬ Linked store.inbound id new.id := by
              intro linked
              obtain ⟨document, found', _⟩ := (held.exact.inbound id new.id).mp linked
              simp [found] at found'
            simp [own, unlinked]
          · simp [own]
  | some stored =>
      rw [found] at loaded
      cases loaded with
      | present _ body =>
          simp only [linked_released_iff held found body]
          by_cases own : parent = new.id
          · simp [own]
          · simp [own]

theorem commit_holds (held : store.Holds contents) {write : DocumentWrite}
    {old : Option Document} (loaded : Loaded (contents.get? write.document.id) old)
    (accepts : contents.Accepts write) :
    (store.commit old write.document).Holds (contents.put write.document) where
  documents id := by
    simp only [commit, get?_put, Table.get?_insert, held.documents,
      loaded.recalls.keepingCreator_eq]
    split
    · rfl
    · rfl
  exact := by
    apply held.exact.put accepts.unclaimed
    · intro id
      have kept := held.exact.get?_eraseAll_dropped write.document id
      simp only [commit, Table.get?_foldl_insert, List.map_id', loaded.recalls.droppedAliases_eq]
      split
      · rfl
      · next absent => exact kept absent
    · intro id parent
      exact linked_commit_iff held loaded
  tidy := by
    apply tidy_foldl_insert
    split
    · exact tidy_dropReferences held.tidy _
    · exact held.tidy

theorem write_step (held : store.Holds contents) (write : DocumentWrite) (insertAllowed : Bool) :
    WriteStep Holds contents write insertAllowed store (store.write write insertAllowed) := by
  unfold KeyValueStore.write
  rw [check_eq held]
  split
  · next cause _ => exact .refused cause
  · next old favour =>
      obtain ⟨read, _⟩ := verdict_eq_ok_iff.mp favour
      have loaded := loaded_of_load held read
      obtain ⟨_, accepts, known⟩ := accepts_of_verdict_eq_ok held.exact
        (fun _ => loaded.recalls) firstClaim?_eq_none_iff.mp favour
      exact .of_recalls loaded.recalls known accepts (commit_holds held loaded accepts)

theorem remove_holds (held : store.Holds contents) {id : DocumentId} {stored : Document}
    (found : contents.get? id = some stored) (body : Body) :
    (store.remove (stored.withBody body)).Holds (contents.erase id) := by
  have named : stored.id = id := held.exact.named id stored found
  constructor
  · intro key
    simp only [remove, Document.withBody_id, named, Table.get?_erase, held.documents]
    split
    · rfl
    · rfl
  · apply held.exact.erase
    · intro key
      simp only [remove, Document.withBody_id, Document.withBody_existenceIds, named]
      exact held.exact.get?_release found key
    · intro key parent
      exact linked_released_iff held found body
  · exact tidy_dropReferences held.tidy _

theorem delete_step (held : store.Holds contents) (id : DocumentId) (force : Bool) :
    DeleteStep Holds contents id force store (store.delete id force) := by
  unfold KeyValueStore.delete
  cases loading : store.load id with
  | error cause => exact .kept (by simp)
  | ok old =>
      have loaded := loaded_of_load held loading
      cases found : contents.get? id with
      | none =>
          rw [found] at loaded
          cases loaded with
          | absent => exact .kept (by simp)
      | some stored =>
          rw [found] at loaded
          cases loaded with
          | present _ body =>
              simp only [inboundParents_eq held.tidy held.exact.inbound,
                Document.withBody_existenceIds]
              have step : DeleteStep Holds contents id force store _ :=
                .of_parents stored (stored.withBody body) found (remove_holds held found body)
              revert step
              cases contents.parents stored.existenceIds id with
              | nil => exact fun step => step
              | cons parent rest => exact fun step => step

theorem step_holds (call : Call) (store : KeyValueStore) (contents : Contents)
    (held : store.Holds contents) : Step Holds contents call (call.perform store) := by
  cases call with
  | upsert write => exact WriteStep.upsert held (write_step held write true)
  | update write => exact WriteStep.update held (write_step held write false)
  | delete id force => exact DeleteStep.delete held (delete_step held id force)
  | get id => exact Step.unchanged rfl held
  | findExisting ids => exact Step.unchanged rfl held
  | scan bound limit => exact Step.unchanged rfl held

end Docket.KeyValueStore
