import Docket.Proofs.Store.Paging
import Docket.Proofs.Store.Repetition
/-!
What is read after a write.

A write that is done changes one document: every other one is looked up as before. The document
itself comes back as it was written, with the creator of the version it replaces, if its body does,
and for that two things are needed: the body must not nest deeper than the engine reads, and each of
its reals must be the one that is read of its text (`EngineKind.ReadsBack`). The store in memory asks
for neither. A document that cannot be read at all makes every scan of the whole store fail from then
on (`EngineKind.read_after_write`).
-/

namespace Docket

open Contents

namespace Body

theorem reread?_eq_self_iff (body : Body) :
    (body.json.reread? WrittenDecimal.scaled?).bind ofJson? = some body ↔
      ∀ x ∈ body.json.reals,
        Number.reread? WrittenDecimal.scaled? (.real x) = some (.real x) := by
  rw [← Json.reread?_eq_self_iff body.canonical]
  constructor
  · intro same
    obtain ⟨json, reread, formed⟩ := Option.bind_eq_some_iff.mp same
    unfold ofJson? at formed
    split at formed
    · obtain rfl := Option.some.inj formed
      exact reread
    · simp at formed
  · intro reread
    rw [reread, Option.bind_some, ofJson?, dif_pos body.canonical]

theorem isSome_reread?_iff (body : Body) :
    ((body.json.reread? WrittenDecimal.scaled?).bind ofJson?).isSome = true ↔
      ∀ x ∈ body.json.reals,
        (Number.reread? WrittenDecimal.scaled? (.real x)).isSome = true := by
  rw [← Json.isSome_reread?_iff]
  cases reread : body.json.reread? WrittenDecimal.scaled? with
  | none => simp
  | some json =>
      have sorted := Json.canonical_of_reread? body.canonical reread
      simp [ofJson?, sorted]

end Body

namespace EngineKind

def greatestDepth? : EngineKind → Option Nat
  | .memory => none
  -- The text is that of the whole document, in which the body lies one level deeper.
  | .keyValue => some 126
  | .relational => some 127

def readBody? (kind : EngineKind) (body : Body) : Option Body :=
  match kind.greatestDepth? with
  | none => some body
  | some greatest =>
      if body.json.depth ≤ greatest then
        (body.json.reread? WrittenDecimal.scaled?).bind Body.ofJson?
      else none

def shown : EngineKind → Document → Document
  | .relational, document => { document with outRefs := OutboundRef.listed document.outRefs }
  | .memory, document => document
  | .keyValue, document => document

/-- Whether a body nests no deeper than an engine reads, and this is so of all its reals; of an
    engine that keeps no texts nothing is asked. -/
def Within (kind : EngineKind) (body : Body) (holds : Binary64 → Prop) : Prop :=
  ∀ greatest, kind.greatestDepth? = some greatest →
    body.json.depth ≤ greatest ∧ ∀ x ∈ body.json.reals, holds x

def Reads (kind : EngineKind) (body : Body) : Prop :=
  kind.Within body fun x => (Number.reread? WrittenDecimal.scaled? (.real x)).isSome = true

def ReadsBack (kind : EngineKind) (body : Body) : Prop :=
  kind.Within body fun x => Number.reread? WrittenDecimal.scaled? (.real x) = some (.real x)

variable {kind : EngineKind}

theorem readBody?_eq_self_iff (body : Body) :
    kind.readBody? body = some body ↔ kind.ReadsBack body := by
  unfold readBody? ReadsBack Within
  cases kind.greatestDepth? with
  | none => simp
  | some greatest =>
      by_cases shallow : body.json.depth ≤ greatest
      · simp [shallow, Body.reread?_eq_self_iff]
      · simp [shallow]

theorem isSome_readBody?_iff (body : Body) :
    (kind.readBody? body).isSome = true ↔ kind.Reads body := by
  unfold readBody? Reads Within
  cases kind.greatestDepth? with
  | none => simp
  | some greatest =>
      by_cases shallow : body.json.depth ≤ greatest
      · simp [shallow, Body.isSome_reread?_iff]
      · simp [shallow]

theorem toOption_reread (kind : EngineKind) (document : Document) :
    (kind.reread document).toOption
      = (kind.readBody? document.body).map (kind.shown document).withBody := by
  cases kind with
  | memory => rfl
  | keyValue =>
      have deeper := document.depth_body_lt
      have bounded := document.depth_encode_le
      have same : document.encode.depth ≤ 127 ↔ document.body.json.depth ≤ 126 := by omega
      rw [reread, KeyValueStore.reread, KeyValueStore.toOption_decodeDocument_encodeDocument,
        readBody?]
      simp only [greatestDepth?, same]
      split
      · rfl
      · rfl
  | relational =>
      have text := RelationalStore.toOption_decodeBody_encodeBody document.body
      rw [reread, RelationalStore.reread, readBody?]
      simp only [greatestDepth?]
      rw [← text]
      cases RelationalStore.decodeBody (RelationalStore.encodeBody document.body) with
      | error cause => rfl
      | ok body => rfl

theorem reread_eq_ok_iff {document read : Document} :
    kind.reread document = .ok read ↔
      (kind.readBody? document.body).map (kind.shown document).withBody = some read := by
  rw [← toOption_reread]
  cases kind.reread document with
  | error cause => simp [Except.toOption]
  | ok other => simp [Except.toOption]

theorem shown_body (document : Document) : (kind.shown document).body = document.body := by
  cases kind with
  | memory => rfl
  | keyValue => rfl
  | relational => rfl

theorem reread_eq_shown_iff (document : Document) :
    kind.reread document = .ok (kind.shown document) ↔ kind.ReadsBack document.body := by
  rw [reread_eq_ok_iff, ← readBody?_eq_self_iff, Option.map_eq_some_iff]
  constructor
  · rintro ⟨body, read, same⟩
    have kept : body = document.body := by
      rw [← kind.shown_body, ← same]
      rfl
    rwa [kept] at read
  · intro read
    refine ⟨_, read, ?_⟩
    rw [← kind.shown_body]
    rfl

theorem exists_reread_iff (document : Document) :
    (∃ read, kind.reread document = .ok read) ↔ kind.Reads document.body := by
  rw [← isSome_readBody?_iff]
  simp [reread_eq_ok_iff, Option.isSome_iff_exists]

end EngineKind

theorem exists_mapM_iff {ε α β : Type} (f : α → Except ε β) (items : List α) :
    (∃ values, items.mapM f = .ok values) ↔ ∀ item ∈ items, ∃ value, f item = .ok value := by
  induction items with
  | nil => simp [pure, Except.pure]
  | cons item rest ih =>
      rw [List.mapM_cons, List.forall_mem_cons, ← ih]
      cases f item with
      | error cause => simp [bind, Except.bind]
      | ok value =>
          cases rest.mapM f with
          | error cause => simp [bind, Except.bind]
          | ok values => simp [bind, Except.bind, pure, Except.pure]

theorem Contents.window_all (contents : Contents) {limit : Nat} (all : contents.size ≤ limit) :
    contents.window none limit = contents.values := by
  have few : contents.values.length ≤ limit := by
    rwa [Table.values, List.length_map]
  change (contents.following none).take limit = _
  rw [contents.following_none]
  exact List.take_of_length_le few

theorem Contents.forall_put_iff {contents : Contents} {new : Document} {holds : Body → Prop}
    (replaced : ∀ stored, contents.get? new.id = some stored → holds stored.body) :
    (∀ id document, (contents.put new).get? id = some document → holds document.body) ↔
      (∀ id document, contents.get? id = some document → holds document.body) ∧
        holds new.body := by
  constructor
  · intro all
    constructor
    · intro id document present
      by_cases here : id = new.id
      · exact replaced document (here ▸ present)
      · exact all id document (by rw [get?_put_of_ne here, present])
    · simpa using all new.id _ (get?_put_self new)
  · rintro ⟨all, written⟩ id document present
    rw [get?_put] at present
    split at present
    · obtain rfl := Option.some.inj present
      simpa using written
    · exact all id document present

namespace Engine

variable {engine : Engine} {contents : Contents}

theorem scan_all (held : engine.Holds contents) {limit : UInt64}
    (all : DocumentStore.size engine ≤ limit.toNat) :
    (DocumentStore.scan none limit engine).1 = contents.values.mapM engine.kind.reread := by
  rw [size_eq held] at all
  rw [scan_eq held none (.inr all), contents.window_all all]

theorem exists_scan_iff (held : engine.Holds contents) {limit : UInt64}
    (all : DocumentStore.size engine ≤ limit.toNat) :
    (∃ documents, (DocumentStore.scan none limit engine).1 = .ok documents) ↔
      ∀ id document, contents.get? id = some document → engine.kind.Reads document.body := by
  rw [scan_all held all, exists_mapM_iff]
  simp only [Table.mem_values_iff, EngineKind.exists_reread_iff, forall_exists_index]
  exact forall_comm

/-- A write is done in place of a version only if that can be read. -/
theorem reads_of_committed (held : engine.Holds contents) {call : Call} {write : DocumentWrite}
    (committed : call.change? (call.perform engine).1 = some (.wrote write)) {old : Document}
    (present : contents.get? write.document.id = some old) : engine.kind.Reads old.body := by
  rw [← EngineKind.exists_reread_iff]
  cases readable : engine.kind.reread old with
  | ok read => exact ⟨read, rfl⟩
  | error cause =>
      have asked := Call.write?_eq_some committed
      have refused : ∀ insertAllowed,
          (engine.write write insertAllowed).1 = .refused (.failed cause) :=
        fun _ => write_of_unreadable held present readable
      cases call with
      | upsert _ =>
          obtain rfl := Option.some.inj asked
          simp [Call.perform, upsert_eq, refused, Applied.upsertOutcome, Call.change?] at committed
      | update _ =>
          obtain rfl := Option.some.inj asked
          simp [Call.perform, update_eq, refused, Applied.updateOutcome, Call.change?] at committed
      | get _ => simp [Call.write?] at asked
      | delete _ _ => simp [Call.write?] at asked
      | findExisting _ => simp [Call.write?] at asked
      | scan _ _ => simp [Call.write?] at asked

end Engine

/-! ### After a write -/

def GetOutcome.document? : GetOutcome → Option Document
  | .success document => some document
  | _ => none

theorem GetOutcome.ofReading_eq_success_iff {reading : Except StoreError Document}
    {document : Document} :
    ofReading (some reading) = .success document ↔ reading = .ok document := by
  cases reading with
  | error cause => simp [ofReading]
  | ok read => simp [ofReading]

namespace Engine

variable {engine : Engine} {contents : Contents}

theorem recalls_get (held : engine.Holds contents) {id : DocumentId}
    (reads : ∀ document, contents.get? id = some document → engine.kind.Reads document.body) :
    Recalls (contents.get? id) (DocumentStore.get id engine).1.document? := by
  rw [get_eq held]
  cases present : contents.get? id with
  | none => exact .absent
  | some document =>
      obtain ⟨read, readable⟩ := (EngineKind.exists_reread_iff document).mpr (reads document present)
      have rereads := EngineKind.rereads readable
      rw [Option.map_some, readable]
      exact .present rereads.id rereads.aliasIds rereads.createdBy

theorem kind_run (calls : List Call) (engine : Engine) :
    (Call.run calls engine).2.kind = engine.kind := by
  induction calls generalizing engine with
  | nil => rfl
  | cons call rest ih => exact (ih _).trans (kind_perform call engine)

end Engine

namespace EngineKind

theorem kind_reached (kind : EngineKind) (calls : List Call) : (kind.reached calls).kind = kind := by
  rw [reached, Engine.kind_run]
  cases kind with
  | memory => rfl
  | keyValue => rfl
  | relational => rfl

section Written

variable (kind : EngineKind) (calls : List Call) (call : Call) {write : DocumentWrite}
  (committed : call.change? (call.perform (kind.reached calls)).1 = some (.wrote write))

include committed

theorem reads_replaced {stored : Document}
    (present : (kind.written calls).get? write.document.id = some stored) :
    kind.Reads stored.body := by
  have reads := Engine.reads_of_committed (kind.reached_holds calls) committed present
  rwa [kind_reached] at reads

theorem holds_written :
    (call.perform (kind.reached calls)).2.Holds ((kind.written calls).put write.document) := by
  have step := (Engine.step_holds call _ _ (kind.reached_holds calls)).held
  rwa [committed] at step

theorem get_replaced_readable (message : String) :
    (DocumentStore.get write.document.id (kind.reached calls)).1 ≠ .unknownFailure message := by
  have held := kind.reached_holds calls
  cases present : (kind.written calls).get? write.document.id with
  | none => simp [Engine.get_eq held, present, GetOutcome.ofReading]
  | some stored =>
      have reads := kind.reads_replaced calls call committed present
      rw [← exists_reread_iff, ← kind.kind_reached calls] at reads
      exact (Engine.readable_iff held present).mp reads message

theorem get_written :
    (DocumentStore.get write.document.id (call.perform (kind.reached calls)).2).1
      = .ofReading (some (kind.reread (write.document.keepingCreator
          (DocumentStore.get write.document.id (kind.reached calls)).1.document?))) := by
  have recalls : Recalls ((kind.written calls).get? write.document.id)
      (DocumentStore.get write.document.id (kind.reached calls)).1.document? := by
    apply Engine.recalls_get (kind.reached_holds calls)
    intro stored present
    rw [kind_reached]
    exact kind.reads_replaced calls call committed present
  rw [Engine.get_eq (kind.holds_written calls call committed), get?_put_self, Option.map_some,
    Engine.kind_perform, kind_reached, recalls.keepingCreator_eq]

theorem get_written_eq_iff :
    (DocumentStore.get write.document.id (call.perform (kind.reached calls)).2).1
        = .success (kind.shown (write.document.keepingCreator
            (DocumentStore.get write.document.id (kind.reached calls)).1.document?)) ↔
      kind.ReadsBack write.document.body := by
  rw [kind.get_written calls call committed, GetOutcome.ofReading_eq_success_iff,
    reread_eq_shown_iff, Document.keepingCreator_body]

theorem exists_get_written_iff :
    (∃ read, (DocumentStore.get write.document.id (call.perform (kind.reached calls)).2).1
        = .success read) ↔
      kind.Reads write.document.body := by
  simp only [kind.get_written calls call committed, GetOutcome.ofReading_eq_success_iff,
    exists_reread_iff, Document.keepingCreator_body]

theorem get_other {other : DocumentId} (differ : other ≠ write.document.id) :
    (DocumentStore.get other (call.perform (kind.reached calls)).2).1
      = (DocumentStore.get other (kind.reached calls)).1 := by
  rw [Engine.get_eq (kind.holds_written calls call committed),
    Engine.get_eq (kind.reached_holds calls), get?_put_of_ne differ, Engine.kind_perform]

theorem exists_scan_written_iff {limit limit' : UInt64}
    (all : DocumentStore.size (kind.reached calls) ≤ limit.toNat)
    (all' : DocumentStore.size (call.perform (kind.reached calls)).2 ≤ limit'.toNat) :
    (∃ documents,
        (DocumentStore.scan none limit' (call.perform (kind.reached calls)).2).1 = .ok documents) ↔
      (∃ documents, (DocumentStore.scan none limit (kind.reached calls)).1 = .ok documents) ∧
        kind.Reads write.document.body := by
  rw [Engine.exists_scan_iff (kind.holds_written calls call committed) all',
    Engine.exists_scan_iff (kind.reached_holds calls) all, Engine.kind_perform, kind_reached]
  exact forall_put_iff fun stored => kind.reads_replaced calls call committed

end Written

/-- What is read after an upsert or an update that was done. -/
theorem read_after_write (kind : EngineKind) (calls : List Call) (call : Call)
    {write : DocumentWrite}
    (committed : call.change? (call.perform (kind.reached calls)).1 = some (.wrote write)) :
    let before := kind.reached calls
    let after := (call.perform before).2
    let id := write.document.id
    let old := (DocumentStore.get id before).1.document?
    (∀ message, (DocumentStore.get id before).1 ≠ .unknownFailure message) ∧
    ((DocumentStore.get id after).1 = .success (kind.shown (write.document.keepingCreator old)) ↔
      kind.ReadsBack write.document.body) ∧
    ((∃ read, (DocumentStore.get id after).1 = .success read) ↔ kind.Reads write.document.body) ∧
    (∀ other ≠ id, (DocumentStore.get other after).1 = (DocumentStore.get other before).1) ∧
    ∀ limit limit' : UInt64, DocumentStore.size before ≤ limit.toNat →
      DocumentStore.size after ≤ limit'.toNat →
        ((∃ documents, (DocumentStore.scan none limit' after).1 = .ok documents) ↔
          (∃ documents, (DocumentStore.scan none limit before).1 = .ok documents) ∧
            kind.Reads write.document.body) :=
  ⟨kind.get_replaced_readable calls call committed, kind.get_written_eq_iff calls call committed,
    kind.exists_get_written_iff calls call committed,
    fun _ differ => kind.get_other calls call committed differ,
    fun _ _ all all' => kind.exists_scan_written_iff calls call committed all all'⟩

/-- A document with a creator, and a new version of it that names none and lists its references out
    of order. -/
def createdDocument : DocumentWrite :=
  ⟨{ Document.bare (.numbered 1) [] [] with createdBy := some "a" }, []⟩

def newVersion : DocumentWrite := ⟨.bare (.numbered 1) [.numbered 3, .numbered 2, .numbered 3] [], []⟩

theorem read_after_write_newVersion :
    let before := relational.reached [.upsert createdDocument]
    let call : Call := .update newVersion
    call.change? (call.perform before).1 = some (.wrote newVersion) ∧
      (DocumentStore.get (.numbered 1) (call.perform before).2).1
        = .success { Document.bare (.numbered 1) [.numbered 2, .numbered 3] [] with
            createdBy := some "a" } := by
  intro before call
  have committed : call.change? (call.perform before).1 = some (.wrote newVersion) := by
    decide +kernel
  have old : (DocumentStore.get (.numbered 1) before).1.document?
      = some createdDocument.document := by decide +kernel
  have readsBack : relational.ReadsBack newVersion.document.body := by
    rintro greatest ⟨⟩
    exact ⟨by decide, by decide⟩
  have read := (read_after_write relational [.upsert createdDocument] call committed).2.1.mpr
    readsBack
  refine ⟨committed, read.trans ?_⟩
  change GetOutcome.success (relational.shown (newVersion.document.keepingCreator
    (DocumentStore.get (.numbered 1) before).1.document?)) = _
  rw [old]
  decide +kernel

def nested : Nat → Json
  | 0 => .null
  | depth + 1 => .array [nested depth]

theorem depth_nested (depth : Nat) : (nested depth).depth = depth := by
  induction depth with
  | zero => rfl
  | succ depth ih => simp [nested, Json.depth, Json.depthItems, ih]

theorem canonical_nested (depth : Nat) : (nested depth).canonical = true := by
  induction depth with
  | zero => rfl
  | succ depth ih => simp [nested, Json.canonical, Json.canonicalItems, ih]

/-- An object that nests one level deeper than the store of texts reads. -/
def deepBody : Body where
  json := .object [("a", nested 126)]
  canonical := by simp [Json.canonical, Json.canonicalMembers, canonical_nested]

theorem not_reads_deepBody : ¬ keyValue.Reads deepBody := by
  intro reads
  have shallow := (reads 126 rfl).1
  simp [deepBody, Json.depth, Json.depthMembers, depth_nested] at shallow

/-- The number 123456789.12345679, whose text is read as its neighbour. -/
def misreadReal : Binary64 := ⟨false, 8285044871162741, 1048, by decide⟩

def misreadBody : Body where
  json := .object [("a", .number (.real misreadReal))]
  canonical := by simp [Json.canonical, Json.canonicalMembers]

set_option maxRecDepth 10000 in
theorem not_readsBack_misreadBody : ¬ relational.ReadsBack misreadBody := by
  intro readsBack
  have same := (readsBack 127 rfl).2 misreadReal (by simp [misreadBody, Json.reals, Json.memberReals])
  revert same
  decide +kernel

def writeOf (body : Body) : DocumentWrite :=
  ⟨{ Document.bare (.numbered 1) [] [] with body := body }, []⟩

/-- The store of texts takes a document that it cannot read again, after which it cannot be scanned;
    the relational engine takes one and answers another. -/
theorem written_not_read_back :
    (let before := keyValue.reached []
      let call : Call := .upsert (writeOf deepBody)
      (call.perform before).1 = .upserted .insertSuccess ∧
        (∀ read, (DocumentStore.get (.numbered 1) (call.perform before).2).1 ≠ .success read) ∧
        (DocumentStore.scan none 10 before).1 = .ok [] ∧
        ∀ documents, (DocumentStore.scan none 10 (call.perform before).2).1 ≠ .ok documents) ∧
    let before := relational.reached []
    let call : Call := .upsert (writeOf misreadBody)
    (call.perform before).1 = .upserted .insertSuccess ∧
      (DocumentStore.get (.numbered 1) before).1 = .notExists ∧
      (DocumentStore.get (.numbered 1) (call.perform before).2).1
        ≠ .success (relational.shown (writeOf misreadBody).document) := by
  constructor
  · intro before call
    have inserted : (call.perform before).1 = .upserted .insertSuccess := by decide +kernel
    have committed : call.change? (call.perform before).1 = some (.wrote (writeOf deepBody)) := by
      rw [inserted]
      rfl
    have few : DocumentStore.size before ≤ (10 : UInt64).toNat := by decide
    have few' : DocumentStore.size (call.perform before).2 ≤ (10 : UInt64).toNat := by
      decide +kernel
    refine ⟨inserted, ?_, by decide, ?_⟩
    · intro read found
      have reads := (keyValue.exists_get_written_iff [] call committed).mp ⟨read, found⟩
      exact not_reads_deepBody reads
    · intro documents scanned
      have whole := keyValue.exists_scan_written_iff [] call committed few few'
      exact not_reads_deepBody (whole.mp ⟨documents, scanned⟩).2
  · intro before call
    have inserted : (call.perform before).1 = .upserted .insertSuccess := by decide +kernel
    have committed : call.change? (call.perform before).1 = some (.wrote (writeOf misreadBody)) := by
      rw [inserted]
      rfl
    have absent : (DocumentStore.get (.numbered 1) before).1 = .notExists := by decide
    refine ⟨inserted, absent, fun found => ?_⟩
    have readsBack := (relational.get_written_eq_iff [] call committed).mp found
    exact not_readsBack_misreadBody readsBack

end EngineKind

end Docket
