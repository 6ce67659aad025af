import Docket.Proofs.Store.Engine
/-!
What an engine reads back of the documents that it holds.

The store in memory answers a document as it was written. The others answer what a reader makes of
the text they keep, and the relational one lists the references by id (`OutboundRef.listed`). This
depends on the document alone (`EngineKind.reread`), so the contents of an engine tell what it
answers to a look-up (`Engine.get_eq`) and to a scan (`Engine.scan_eq`).
-/

namespace Docket

open Contents

namespace OutboundRef

/-- References in order of the ids they refer to, the first of those to one id. -/
def listed (refs : List OutboundRef) : List OutboundRef :=
  (sortedIds (refs.map OutboundRef.id)).filterMap fun id =>
    (mark? refs id).map fun isDescriptor => ⟨id, isDescriptor⟩

theorem before_of_id_before {ref other : OutboundRef} (less : Key.before ref.id other.id = true) :
    Key.before ref other = true := by
  change (Key.before ref.id other.id || _) = true
  rw [less, Bool.true_or]

theorem ascends_of_ids {refs : List OutboundRef} (ascends : Ascends (refs.map OutboundRef.id)) :
    Ascends refs :=
  (List.pairwise_map.mp ascends).imp before_of_id_before

theorem mem_listed {refs : List OutboundRef} {ref : OutboundRef} :
    ref ∈ listed refs ↔ mark? refs ref.id = some ref.isDescriptor := by
  simp only [listed, List.mem_filterMap, sortedIds, KeySet.mem_sorted, Option.map_eq_some_iff]
  constructor
  · rintro ⟨id, _, mark, marked, rfl⟩
    exact marked
  · intro marked
    refine ⟨ref.id, ?_, ref.isDescriptor, marked, rfl⟩
    rw [← isSome_mark?_iff, marked]
    rfl

theorem listed_ascends (refs : List OutboundRef) : Ascends (listed refs) := by
  apply List.Pairwise.filterMap _ _ (KeySet.sorted_ascending (refs.map OutboundRef.id))
  intro id id' less ref found ref' found'
  obtain ⟨mark, _, rfl⟩ := Option.map_eq_some_iff.mp found
  obtain ⟨mark', _, rfl⟩ := Option.map_eq_some_iff.mp found'
  exact before_of_id_before less

theorem mark?_eq_some_iff {refs : List OutboundRef} (ascends : Ascends (refs.map OutboundRef.id))
    {ref : OutboundRef} : mark? refs ref.id = some ref.isDescriptor ↔ ref ∈ refs := by
  induction refs with
  | nil => simp [mark?]
  | cons first rest ih =>
      obtain ⟨later, ascendsRest⟩ := List.pairwise_cons.mp ascends
      rw [mark?_cons, List.mem_cons]
      by_cases here : first.id = ref.id
      -- No later reference is to the id of the first.
      · have fresh : ref ∉ rest := by
          intro behind
          have less := later ref.id (List.mem_map_of_mem behind)
          exact Key.ne_of_before less here
        have same : first.isDescriptor = ref.isDescriptor ↔ ref = first := by
          constructor
          · intro mark
            cases ref
            cases first
            simp_all
          · rintro rfl
            rfl
        simp [here, fresh, same]
      · have differ : ref ≠ first := fun same => here (same ▸ rfl)
        simp [here, differ, ih ascendsRest]

theorem listed_eq_self {refs : List OutboundRef} (ascends : Ascends (refs.map OutboundRef.id)) :
    listed refs = refs := by
  apply eq_of_ascends (listed_ascends refs) (ascends_of_ids ascends)
  intro ref
  rw [mem_listed, mark?_eq_some_iff ascends]

end OutboundRef

/-! ### Windows of a scan -/

def Contents.window (contents : Contents) (bound : Option DocumentId) (limit : Nat) :
    List Document :=
  (contents.filter fun id _ => bound.all fun bound => Key.before bound id).values.take limit

namespace MemoryStore

variable {store : MemoryStore} {contents : Contents}

theorem scan_eq (held : store.Holds contents) (bound : Option DocumentId) (limit : UInt64) :
    store.scan bound limit = contents.window bound limit.toNat := by
  rw [scan, held.documents, window]

end MemoryStore

namespace KeyValueStore

variable {store : KeyValueStore} {contents : Contents}

def reread (document : Document) : Except StoreError Document :=
  decodeDocument (encodeDocument document)

theorem load_eq (held : store.Holds contents) (id : DocumentId) :
    store.load id = match contents.get? id with
      | none => .ok none
      | some document => (reread document).map some := by
  rw [load, held.documents]
  cases contents.get? id with
  | none => rfl
  | some document =>
      simp only [Option.map_some, reread]
      cases decodeDocument (encodeDocument document) with
      | error cause => rfl
      | ok read => rfl

theorem decodeAll_map (documents : List Document) :
    decodeAll (documents.map encodeDocument) = documents.mapM reread := by
  induction documents with
  | nil => rfl
  | cons document rest ih =>
      rw [List.map_cons, decodeAll, ih, List.mapM_cons, reread]
      cases decodeDocument (encodeDocument document) with
      | error cause => rfl
      | ok read =>
          cases rest.mapM reread with
          | error cause => rfl
          | ok others => rfl

theorem scan_eq (held : store.Holds contents) (bound : Option DocumentId) (limit : UInt64) :
    store.scan bound limit = (contents.window bound limit.toNat).mapM reread := by
  rw [scan, Table.values_filter_eq_map encodeDocument held.documents, ← List.map_take,
    decodeAll_map]
  rfl

end KeyValueStore

namespace RelationalStore

variable {store : RelationalStore} {contents : Contents}

def reread (document : Document) : Except StoreError Document :=
  (decodeBody (encodeBody document.body)).map fun body =>
    { document with body := body, outRefs := OutboundRef.listed document.outRefs }

theorem mem_outRefsOf {id : DocumentId} {ref : OutboundRef} :
    ref ∈ store.outRefsOf id ↔ store.references.get? (id, ref.id) = some ref.isDescriptor := by
  rw [outRefsOf, List.mem_map]
  constructor
  · rintro ⟨⟨⟨parent, key⟩, mark⟩, member, rfl⟩
    have found := Table.mem_toList_iff.mp member
    rw [Table.get?_filter, Option.filter_eq_some_iff, decide_eq_true_eq] at found
    obtain ⟨found, rfl⟩ := found
    exact found
  · intro found
    refine ⟨((id, ref.id), ref.isDescriptor), Table.mem_toList_iff.mpr ?_, rfl⟩
    rw [Table.get?_filter, found]
    simp [Option.filter_some]

theorem outRefsOf_ascends (id : DocumentId) : Ascends (store.outRefsOf id) := by
  apply List.pairwise_map.mpr
  apply List.Pairwise.imp_of_mem _ (Table.ascending _)
  rintro ⟨⟨parent, key⟩, mark⟩ ⟨⟨parent', key'⟩, mark'⟩ member member' less
  have own : parent = id := by simpa using (List.mem_filter.mp member).2
  have own' : parent' = id := by simpa using (List.mem_filter.mp member').2
  subst own own'
  apply OutboundRef.before_of_id_before
  simpa [Key.before] using less

theorem outRefsOf_eq (held : store.Holds contents) {id : DocumentId} {document : Document}
    (found : contents.get? id = some document) :
    store.outRefsOf id = OutboundRef.listed document.outRefs := by
  apply eq_of_ascends (outRefsOf_ascends id) (OutboundRef.listed_ascends document.outRefs)
  intro ref
  rw [mem_outRefsOf, held.references, found, Option.bind_some, OutboundRef.mem_listed]

theorem decodeRow_eq (held : store.Holds contents) {id : DocumentId} {document : Document}
    (found : contents.get? id = some document) :
    store.decodeRow id (.ofDocument document) = reread document := by
  simp only [decodeRow, reread, DocumentRow.ofDocument]
  cases decodeBody (encodeBody document.body) with
  | error cause => rfl
  | ok body => simp only [Except.map, held.exact.named id document found, outRefsOf_eq held found]

theorem load_eq_reread (held : store.Holds contents) (id : DocumentId) :
    store.load id = match contents.get? id with
      | none => .ok none
      | some document => (reread document).map some := by
  rw [load, held.documents]
  cases found : contents.get? id with
  | none => rfl
  | some document =>
      simp only [Option.map_some, decodeRow_eq held found]
      cases reread document with
      | error cause => rfl
      | ok read => rfl

theorem decodeRows_map (held : store.Holds contents) {entries : List (DocumentId × Document)}
    (stored : ∀ entry ∈ entries, contents.get? entry.1 = some entry.2) :
    store.decodeRows (entries.map fun entry => (entry.1, .ofDocument entry.2))
      = (entries.map Prod.snd).mapM reread := by
  induction entries with
  | nil => rfl
  | cons entry rest ih =>
      have found := stored entry List.mem_cons_self
      have others := ih fun other member => stored other (List.mem_cons_of_mem _ member)
      rw [List.map_cons, decodeRows, decodeRow_eq held found, others, List.map_cons,
        List.mapM_cons]
      cases reread entry.2 with
      | error cause => rfl
      | ok read =>
          cases (rest.map Prod.snd).mapM reread with
          | error cause => rfl
          | ok documents => rfl

theorem take_signed {α : Type} (rows : List α) {limit : UInt64}
    (bounded : limit.toNat < 2 ^ 63 ∨ rows.length ≤ limit.toNat) :
    (if signed64 limit < 0 then rows else rows.take (signed64 limit).toNat)
      = rows.take limit.toNat := by
  have width := limit.toNat_lt
  unfold signed64
  by_cases small : limit.toNat < 2 ^ 63
  · have positive : ¬ (limit.toNat : Int) < 0 := by omega
    simp only [small, if_true, positive, if_false, Int.toNat_natCast]
  · have negative : (limit.toNat : Int) - 2 ^ 64 < 0 := by omega
    have all : rows.length ≤ limit.toNat := by omega
    simp only [small, if_false, negative, if_true]
    exact (List.take_of_length_le all).symm

theorem decodeRows_take (held : store.Holds contents) (bound : Option DocumentId) (count : Nat) :
    store.decodeRows ((store.documents.filter fun id _ =>
        bound.all fun bound => Key.before bound id).toList.take count)
      = (contents.window bound count).mapM reread := by
  have rows : (store.documents.filter fun id _ => bound.all fun bound => Key.before bound id).toList
      = (contents.filter fun id _ => bound.all fun bound => Key.before bound id).toList.map
          fun entry => (entry.1, DocumentRow.ofDocument entry.2) := by
    simp only [Table.toList, Table.filter, Table.entries_eq_map _ held.documents, List.filter_map]
    rfl
  rw [rows, ← List.map_take, decodeRows_map held]
  · rw [window, Table.values, List.map_take]
    rfl
  · intro entry member
    have kept := Table.mem_toList_iff.mp (List.mem_of_mem_take member)
    rw [Table.get?_filter, Option.filter_eq_some_iff] at kept
    exact kept.1

theorem length_rows_le (held : store.Holds contents) (bound : Option DocumentId) :
    (store.documents.filter fun id _ => bound.all fun bound => Key.before bound id).toList.length
      ≤ contents.size := by
  apply (List.length_filter_le _ _).trans
  rw [Table.entries_eq_map _ held.documents, List.length_map, Table.size]

theorem scan_eq (held : store.Holds contents) (bound : Option DocumentId) (limit : UInt64)
    (bounded : limit.toNat < 2 ^ 63 ∨ contents.size ≤ limit.toNat) :
    store.scan bound limit = (contents.window bound limit.toNat).mapM reread := by
  have few := bounded.imp_right (length_rows_le held bound).trans
  rw [scan, take_signed _ few, decodeRows_take held]

/-- A limit beyond the signed numbers is none, however many documents there are. -/
theorem scan_eq_of_negative (held : store.Holds contents) (bound : Option DocumentId)
    {limit : UInt64} (beyond : ¬ limit.toNat < 2 ^ 63) {count : Nat}
    (enough : contents.size ≤ count) :
    store.scan bound limit = (contents.window bound count).mapM reread := by
  have width := limit.toNat_lt
  have negative : signed64 limit < 0 := by
    rw [signed64, if_neg beyond]
    omega
  rw [scan, if_pos negative, ← decodeRows_take held,
    List.take_of_length_le ((length_rows_le held bound).trans enough)]

end RelationalStore

theorem Json.isObject_reread? {real : WrittenDecimal → Option Binary64} {json json' : Json}
    (reread : json.reread? real = some json') : json'.isObject = json.isObject := by
  cases json with
  | object members =>
      obtain ⟨members', _, rfl⟩ := Option.map_eq_some_iff.mp reread
      rfl
  | array items =>
      obtain ⟨items', _, rfl⟩ := Option.map_eq_some_iff.mp reread
      rfl
  | number n =>
      obtain ⟨n', _, rfl⟩ := Option.map_eq_some_iff.mp reread
      rfl
  | null => obtain rfl := Option.some.inj reread; rfl
  | bool value => obtain rfl := Option.some.inj reread; rfl
  | string text => obtain rfl := Option.some.inj reread; rfl

theorem Body.isObject_of_reread {body body' : Body}
    (reread : (body.json.reread? WrittenDecimal.scaled?).bind Body.ofJson? = some body') :
    body'.isObject = body.isObject := by
  obtain ⟨json, read, formed⟩ := Option.bind_eq_some_iff.mp reread
  have same : body'.json = json := by
    unfold Body.ofJson? at formed
    split at formed
    · obtain rfl := Option.some.inj formed
      rfl
    · simp at formed
  rw [Body.isObject, Body.isObject, same, Json.isObject_reread? read]

structure Document.Rereads (document read : Document) : Prop where
  id : read.id = document.id
  aliasIds : read.aliasIds = document.aliasIds
  createdBy : read.createdBy = document.createdBy
  isObject : read.body.isObject = document.body.isObject

theorem Document.Rereads.existenceIds {document read : Document}
    (rereads : document.Rereads read) : read.existenceIds = document.existenceIds := by
  rw [Document.existenceIds, Document.existenceIds, rereads.id, rereads.aliasIds]

theorem KeyValueStore.rereads {document read : Document}
    (readable : KeyValueStore.reread document = .ok read) : document.Rereads read := by
  have view := KeyValueStore.toOption_decodeDocument_encodeDocument document
  rw [KeyValueStore.reread] at readable
  rw [readable] at view
  split at view
  · obtain ⟨body, reread, rfl⟩ := Option.map_eq_some_iff.mp view.symm
    exact ⟨rfl, rfl, rfl, Body.isObject_of_reread reread⟩
  · simp [Except.toOption] at view

theorem RelationalStore.toOption_decodeBody_encodeBody (body : Body) :
    (decodeBody (encodeBody body)).toOption
      = if body.json.depth ≤ 127 then
          (body.json.reread? WrittenDecimal.scaled?).bind Body.ofJson?
        else none := by
  have text := Json.toOption_readStored_text body.json
  unfold decodeBody encodeBody
  cases read : Json.readStored body.json.text with
  | error cause =>
      rw [read] at text
      split at text
      · next shallow => simp [shallow, ← text, Except.toOption]
      · next deep => simp [deep, Except.toOption]
  | ok json =>
      rw [read] at text
      split at text
      · next shallow =>
          rw [if_pos shallow, ← text]
          simp only [Except.toOption, Option.bind_some]
          cases Body.ofJson? json with
          | none => rfl
          | some body => rfl
      · simp [Except.toOption] at text

theorem RelationalStore.rereads {document read : Document}
    (readable : RelationalStore.reread document = .ok read) : document.Rereads read := by
  have view := RelationalStore.toOption_decodeBody_encodeBody document.body
  rw [RelationalStore.reread] at readable
  cases decoded : decodeBody (encodeBody document.body) with
  | error cause => simp [decoded, Except.map] at readable
  | ok body =>
      rw [decoded] at readable view
      obtain rfl := Except.ok.inj readable
      split at view
      · exact ⟨rfl, rfl, rfl, Body.isObject_of_reread view.symm⟩
      · simp [Except.toOption] at view

/-! ### What a delete answers -/

theorem MemoryStore.get_of_delete {store : MemoryStore} {id : DocumentId} {force : Bool}
    {document : Document} (done : (store.delete id force).1 = .success document) :
    store.get id = .success document := by
  unfold MemoryStore.delete at done
  unfold MemoryStore.get
  cases found : store.documents.get? id with
  | none => simp [found] at done
  | some stored =>
      simp only [found] at done ⊢
      split at done
      · simpa using done
      · split at done
        · simpa using done
        · simp at done

theorem KeyValueStore.get_of_delete {store : KeyValueStore} {id : DocumentId} {force : Bool}
    {document : Document} (done : (store.delete id force).1 = .success document) :
    store.get id = .success document := by
  unfold KeyValueStore.delete at done
  unfold KeyValueStore.get
  cases found : store.load id with
  | error cause => simp [found] at done
  | ok old =>
      cases old with
      | none => simp [found] at done
      | some stored =>
          simp only [found] at done ⊢
          split at done
          · simp at done
          · simpa using done
          · split at done
            · simpa using done
            · simp at done

theorem RelationalStore.get_of_delete {store : RelationalStore} {id : DocumentId} {force : Bool}
    {document : Document} (done : (store.delete id force).1 = .success document) :
    store.get id = .success document := by
  unfold RelationalStore.delete at done
  unfold RelationalStore.get
  cases found : store.load id with
  | error cause => simp [found] at done
  | ok old =>
      cases old with
      | none => simp [found] at done
      | some stored =>
          simp only [found] at done ⊢
          split at done
          · simpa using done
          · split at done
            · simpa using done
            · simp at done

namespace EngineKind

def reread : EngineKind → Document → Except StoreError Document
  | .memory => .ok
  | .keyValue => KeyValueStore.reread
  | .relational => RelationalStore.reread

theorem mapM_ok (documents : List Document) :
    documents.mapM (EngineKind.reread .memory) = .ok documents := by
  induction documents with
  | nil => rfl
  | cons document rest ih =>
      rw [List.mapM_cons, ih]
      rfl

theorem rereads {kind : EngineKind} {document read : Document}
    (readable : kind.reread document = .ok read) : document.Rereads read := by
  cases kind with
  | memory =>
      obtain rfl := Except.ok.inj readable
      exact ⟨rfl, rfl, rfl, rfl⟩
  | keyValue => exact KeyValueStore.rereads readable
  | relational => exact RelationalStore.rereads readable

end EngineKind

def GetOutcome.ofReading : Option (Except StoreError Document) → GetOutcome
  | none => .notExists
  | some (.ok document) => .success document
  | some (.error cause) => .unknownFailure cause.message

namespace Engine

def kind : Engine → EngineKind
  | .memory _ => .memory
  | .keyValue _ => .keyValue
  | .relational _ => .relational

variable {engine : Engine} {contents : Contents}

theorem kind_perform (call : Call) (engine : Engine) :
    (call.perform engine).2.kind = engine.kind := by
  cases engine with
  | memory store => rw [perform_memory]; rfl
  | keyValue store => rw [perform_keyValue]; rfl
  | relational store => rw [perform_relational]; rfl

theorem get_eq (held : engine.Holds contents) (id : DocumentId) :
    DocumentStore.get id engine
      = (.ofReading ((contents.get? id).map engine.kind.reread), engine) := by
  cases engine with
  | memory store =>
      have documents : store.documents = contents := held.keeps
      change (store.get id, memory store) = _
      rw [MemoryStore.get, documents]
      cases contents.get? id with
      | none => rfl
      | some document => rfl
  | keyValue store =>
      change (store.get id, keyValue store) = _
      rw [KeyValueStore.get, KeyValueStore.load_eq (keyValue_holds.mp held)]
      cases contents.get? id with
      | none => rfl
      | some document =>
          simp only [Option.map_some, kind, EngineKind.reread]
          cases KeyValueStore.reread document with
          | error cause => rfl
          | ok read => rfl
  | relational store =>
      change (store.get id, relational store) = _
      rw [RelationalStore.get, RelationalStore.load_eq_reread (relational_holds.mp held)]
      cases contents.get? id with
      | none => rfl
      | some document =>
          simp only [Option.map_some, kind, EngineKind.reread]
          cases RelationalStore.reread document with
          | error cause => rfl
          | ok read => rfl

theorem scan_eq (held : engine.Holds contents) (bound : Option DocumentId) {limit : UInt64}
    (bounded : limit.toNat < 2 ^ 63 ∨ contents.size ≤ limit.toNat) :
    DocumentStore.scan bound limit engine
      = ((contents.window bound limit.toNat).mapM engine.kind.reread, engine) := by
  cases engine with
  | memory store =>
      change (Except.ok (store.scan bound limit), memory store) = _
      rw [MemoryStore.scan_eq (memory_holds.mp held), ← EngineKind.mapM_ok]
      rfl
  | keyValue store =>
      change (store.scan bound limit, keyValue store) = _
      rw [KeyValueStore.scan_eq (keyValue_holds.mp held)]
      rfl
  | relational store =>
      change (store.scan bound limit, relational store) = _
      rw [RelationalStore.scan_eq (relational_holds.mp held) bound limit bounded]
      rfl

theorem reread_of_get (held : engine.Holds contents) {key : DocumentId} {document : Document}
    (found : (DocumentStore.get key engine).1 = .success document) :
    ∃ stored, contents.get? key = some stored ∧ engine.kind.reread stored = .ok document := by
  rw [get_eq held] at found
  cases stored : contents.get? key with
  | none => simp [stored, GetOutcome.ofReading] at found
  | some original =>
      cases readable : engine.kind.reread original with
      | error cause => simp [stored, readable, GetOutcome.ofReading] at found
      | ok read =>
          simp only [stored, readable, Option.map_some, GetOutcome.ofReading,
            GetOutcome.success.injEq] at found
          exact ⟨original, rfl, by rw [readable, found]⟩

theorem get_of_delete {key : DocumentId} {force : Bool} {document : Document}
    (done : (DocumentStore.delete key force engine).1 = .success document) :
    (DocumentStore.get key engine).1 = .success document := by
  cases engine with
  | memory store => exact MemoryStore.get_of_delete done
  | keyValue store => exact KeyValueStore.get_of_delete done
  | relational store => exact RelationalStore.get_of_delete done

theorem reread_of_delete (held : engine.Holds contents) {key : DocumentId} {force : Bool}
    {document : Document}
    (done : (DocumentStore.delete key force engine).1 = .success document) :
    ∃ stored, contents.get? key = some stored ∧ engine.kind.reread stored = .ok document ∧
      document.id = key := by
  obtain ⟨stored, present, readable⟩ := reread_of_get held (get_of_delete done)
  have named : stored.id = key := held.exact.named key stored present
  exact ⟨stored, present, readable, (EngineKind.rereads readable).id.trans named⟩

end Engine

end Docket
