import Docket.Proofs.Document
import Docket.Proofs.Store.Reading
/-!
The relational store answers as the store in memory does to what a service writes.

A service writes documents whose references are in order and whose ids are distinct, so no row is
listed twice and a document is read back with its references as they were written. Then the two
stores answer the same at every step (`answers_match_memory`), but for which of several claimed ids
a conflict names: the store in memory tells the first one, the relational store the least.
-/

namespace Docket

def UpsertOutcome.withoutText : UpsertOutcome → UpsertOutcome
  | .conflict _ => .conflict ""
  | outcome => outcome

def UpdateOutcome.withoutText : UpdateOutcome → UpdateOutcome
  | .conflict _ => .conflict ""
  | outcome => outcome

def Answer.withoutText : Answer → Answer
  | .upserted outcome => .upserted outcome.withoutText
  | .updated outcome => .updated outcome.withoutText
  | answer => answer

def Applied.Alike (applied other : Applied) : Prop :=
  applied = other ∨
    ∃ cause cause', applied = .refused (.conflict cause) ∧ other = .refused (.conflict cause')

theorem Applied.Alike.upserted {applied other : Applied} (alike : applied.Alike other) :
    (Answer.upserted applied.upsertOutcome).withoutText
      = (Answer.upserted other.upsertOutcome).withoutText := by
  rcases alike with rfl | ⟨cause, cause', rfl, rfl⟩
  · rfl
  · rfl

theorem Applied.Alike.updated {applied other : Applied} (alike : applied.Alike other) :
    (Answer.updated applied.updateOutcome).withoutText
      = (Answer.updated other.updateOutcome).withoutText := by
  rcases alike with rfl | ⟨cause, cause', rfl, rfl⟩
  · rfl
  · rfl

theorem Call.change?_withoutText (call : Call) (answer : Answer) :
    call.change? answer.withoutText = call.change? answer := by
  cases answer with
  | upserted outcome => cases call <;> cases outcome <;> rfl
  | updated outcome => cases call <;> cases outcome <;> rfl
  | got outcome => rfl
  | deleted outcome => rfl
  | found ids => rfl
  | scanned documents => rfl

structure Body.ReadsBack (body : Body) : Prop where
  shallow : body.json.depth ≤ 127
  reals : ∀ x ∈ body.json.reals,
    Number.reread? WrittenDecimal.scaled? (.real x) = some (.real x)

namespace RelationalStore

open Contents

theorem decodeBody_encodeBody {body : Body} (readsBack : body.ReadsBack) :
    decodeBody (encodeBody body) = .ok body := by
  have formed : Body.ofJson? body.json = some body := by
    rw [Body.ofJson?, dif_pos body.canonical]
  have view := toOption_decodeBody_encodeBody body
  rw [if_pos readsBack.shallow, (Json.reread?_eq_self_iff body.canonical).mpr readsBack.reals,
    Option.bind_some, formed] at view
  cases decoded : decodeBody (encodeBody body) with
  | error cause => simp [decoded, Except.toOption] at view
  | ok read =>
      rw [decoded] at view
      exact congrArg Except.ok (Option.some.inj view)

theorem reread_eq_self {document : Document} (refs : Ascends document.outRefIds)
    (readsBack : document.body.ReadsBack) : reread document = .ok document := by
  rw [reread, decodeBody_encodeBody readsBack, OutboundRef.listed_eq_self refs]
  rfl

theorem reread_keepingCreator {new : Document} (same : reread new = .ok new)
    (old : Option Document) : reread (new.keepingCreator old) = .ok (new.keepingCreator old) := by
  have fields : ∀ creator, reread { new with createdBy := creator }
      = (reread new).map fun read => { read with createdBy := creator } := by
    intro creator
    simp only [reread]
    cases decodeBody (encodeBody new.body) with
    | error cause => rfl
    | ok body => rfl
  rw [Document.keepingCreator_eq, fields, same]
  rfl

theorem mapM_reread_eq_self {documents : List Document}
    (same : ∀ document ∈ documents, reread document = .ok document) :
    documents.mapM reread = .ok documents := by
  induction documents with
  | nil => rfl
  | cons document rest ih =>
      have others := ih fun other member => same other (List.mem_cons_of_mem _ member)
      rw [List.mapM_cons, same document List.mem_cons_self, others]
      rfl

theorem exists_insertExistence (owner : DocumentId) {ids : List DocumentId}
    (distinct : ids.Nodup) {existence : Table DocumentId DocumentId}
    (free : ∀ id ∈ ids, existence.get? id = none) :
    ∃ listed, insertExistence existence owner ids = some listed := by
  induction ids generalizing existence with
  | nil => exact ⟨existence, rfl⟩
  | cons id rest ih =>
      obtain ⟨fresh, distinct⟩ := List.nodup_cons.mp distinct
      have absent : existence.contains id = false :=
        Table.contains_eq_false_iff.mpr (free id List.mem_cons_self)
      simp only [insertExistence, absent, Bool.false_eq_true, if_false]
      apply ih distinct
      intro other member
      have differ : other ≠ id := by
        rintro rfl
        exact fresh member
      rw [Table.get?_insert, if_neg differ]
      exact free other (List.mem_cons_of_mem id member)

variable {rows : RelationalStore} {store : MemoryStore} {contents : Contents}

/-- A document with distinct ids breaks no uniqueness: its ids belong to no other document, and the
    rows of its old version are gone. -/
theorem exists_commit? (held : rows.Holds contents) {write : DocumentWrite}
    (distinct : write.document.existenceIds.Nodup) {old : Option Document}
    (recalls : Recalls (contents.get? write.document.id) old) (accepts : contents.Accepts write) :
    ∃ next, rows.commit? old write.document = some next := by
  have free : ∀ id ∈ write.document.existenceIds,
      (if old.isSome then rows.existence.filter fun _ owner => owner ≠ write.document.id
        else rows.existence).get? id = none := by
    intro id member
    rw [get?_existence_cleared held recalls]
    cases found : rows.existence.get? id with
    | none => rfl
    | some owner =>
        have own := accepts.unclaimed id member owner ((held.exact.existence id owner).mp found)
        simp [own, Option.filter_some]
  obtain ⟨listed, inserted⟩ := exists_insertExistence write.document.id distinct free
  exact ⟨_, by rw [commit?, inserted]; rfl⟩

structure Agrees (rows : RelationalStore) (store : MemoryStore) (contents : Contents) : Prop where
  rows : rows.Holds contents
  memory : store.Holds contents
  readsBack : ∀ id document, contents.get? id = some document → reread document = .ok document

namespace Agrees

theorem empty : Agrees RelationalStore.empty MemoryStore.empty Table.empty where
  rows := holds_empty
  memory := MemoryStore.holds_empty
  readsBack _ _ found := by simp at found

theorem existence_eq (agree : Agrees rows store contents) : rows.existence = store.existence :=
  agree.rows.exact.existence_unique agree.memory.exact

theorem load_eq (agree : Agrees rows store contents) (id : DocumentId) :
    rows.load id = .ok (contents.get? id) := by
  rw [load_eq_reread agree.rows]
  cases found : contents.get? id with
  | none => rfl
  | some document =>
      simp only [agree.readsBack id document found]
      rfl

theorem write_alike (agree : Agrees rows store contents) {write : DocumentWrite}
    (distinct : write.document.existenceIds.Nodup) (insertAllowed : Bool) :
    (rows.write write insertAllowed).1.Alike (store.write write insertAllowed).1 := by
  have sameClaim : rows.claimedElsewhere? write.document.existenceIds write.document.id = none ↔
      firstClaim? store.existence write.document.existenceIds write.document.id = none := by
    rw [claimedElsewhere?_eq_none_iff, firstClaim?_eq_none_iff, agree.existence_eq]
  unfold RelationalStore.write MemoryStore.write
  rw [check_eq agree.rows, MemoryStore.refusal?_eq agree.memory, agree.load_eq, agree.existence_eq]
  rcases verdict_alike sameClaim with same | ⟨cause, cause', judged, judged'⟩
  · rw [same]
    cases judged : contents.verdict store.existence write insertAllowed
        (.ok (contents.get? write.document.id))
        (firstClaim? store.existence write.document.existenceIds write.document.id) with
    | error cause => exact .inl rfl
    | ok old =>
        obtain ⟨recalls, accepts, _⟩ := accepts_of_verdict_eq_ok agree.memory.exact
          (fun loaded => Except.ok.inj loaded ▸ Recalls.refl _) firstClaim?_eq_none_iff.mp judged
        obtain ⟨read, _⟩ := verdict_eq_ok_iff.mp judged
        obtain rfl := Except.ok.inj read
        obtain ⟨next, committed⟩ := exists_commit? agree.rows distinct recalls accepts
        left
        simp only [committed, Table.contains, agree.memory.documents]
  · rw [judged, judged']
    exact .inr ⟨cause, cause', rfl, rfl⟩

theorem get_eq (agree : Agrees rows store contents) (id : DocumentId) :
    rows.get id = store.get id := by
  rw [RelationalStore.get, MemoryStore.get, agree.load_eq, agree.memory.documents]
  cases contents.get? id with
  | none => rfl
  | some document => rfl

theorem delete_eq (agree : Agrees rows store contents) (id : DocumentId) (force : Bool) :
    (rows.delete id force).1 = (store.delete id force).1 := by
  rw [RelationalStore.delete, MemoryStore.delete, agree.load_eq, agree.memory.documents]
  cases found : contents.get? id with
  | none => rfl
  | some document =>
      have named : document.id = id := agree.memory.exact.named id document found
      simp only [referencing_eq agree.rows, MemoryStore.referencing_eq agree.memory, named]
      cases contents.parents document.existenceIds id with
      | nil => rfl
      | cons parent rest =>
          cases force with
          | true => rfl
          | false => rfl

theorem findExisting_eq (agree : Agrees rows store contents) (ids : List DocumentId) :
    rows.existing ids = store.findExisting ids := by
  rw [existing_eq, MemoryStore.findExisting, agree.existence_eq]

theorem scan_eq (agree : Agrees rows store contents) (bound : Option DocumentId) (limit : UInt64)
    (bounded : limit.toNat < 2 ^ 63 ∨ contents.size ≤ limit.toNat) :
    rows.scan bound limit = .ok (store.scan bound limit) := by
  rw [RelationalStore.scan_eq agree.rows bound limit bounded, MemoryStore.scan_eq agree.memory]
  apply mapM_reread_eq_self
  intro document member
  obtain ⟨id, found⟩ := Table.mem_values_iff.mp (List.mem_of_mem_take member)
  rw [Table.get?_filter, Option.filter_eq_some_iff] at found
  exact agree.readsBack id document found.1

/-- What is asked that both stores are to answer alike: a document is written as a service makes it,
    with a body that is read back, and a scan asks for a number of documents that is a signed one
    or else no less than there are. -/
structure Asks (contents : Contents) (call : Call) : Prop where
  arranged : ∀ write ∈ call.write?, write.document.Arranged
  readsBack : ∀ write ∈ call.write?, write.document.body.ReadsBack
  bounded : ∀ bound limit, call = .scan bound limit →
    limit.toNat < 2 ^ 63 ∨ contents.size ≤ limit.toNat

theorem perform_alike (agree : Agrees rows store contents) {call : Call}
    (asks : Asks contents call) :
    (call.perform rows).1.withoutText = (call.perform store).1.withoutText := by
  cases call with
  | upsert write => exact (agree.write_alike (asks.arranged write rfl).distinct true).upserted
  | update write => exact (agree.write_alike (asks.arranged write rfl).distinct false).updated
  | get id => exact congrArg Answer.got (agree.get_eq id)
  | delete id force => exact congrArg Answer.deleted (agree.delete_eq id force)
  | findExisting ids =>
      exact congrArg (fun ids => Answer.found (.ok ids)) (agree.findExisting_eq ids)
  | scan bound limit =>
      exact congrArg Answer.scanned (agree.scan_eq bound limit (asks.bounded bound limit rfl))

theorem step (agree : Agrees rows store contents) {call : Call} (asks : Asks contents call) :
    Agrees (call.perform rows).2 (call.perform store).2
      (contents.afterChange (call.change? (call.perform store).1)) where
  rows := by
    have told : call.change? (call.perform rows).1 = call.change? (call.perform store).1 := by
      rw [← Call.change?_withoutText, agree.perform_alike asks, Call.change?_withoutText]
    have held := (step_holds call rows contents agree.rows).held
    rwa [told] at held
  memory := (MemoryStore.step_holds call store contents agree.memory).held
  readsBack := by
    apply forall_afterChange (fun document => reread document = .ok document) _ agree.readsBack
    · intro write told
      have asked := Call.write?_eq_some told
      exact reread_eq_self (asks.arranged write asked).refs (asks.readsBack write asked)
    · intro new old same
      exact reread_keepingCreator same old

/-- Every call makes room for one document more, so `total` documents is the most there can be. -/
theorem run_alike (calls : List Call) (agree : Agrees rows store contents) {total : Nat}
    (room : contents.size + calls.length ≤ total)
    (arranged : ∀ call ∈ calls, ∀ write ∈ call.write?, write.document.Arranged)
    (readsBack : ∀ call ∈ calls, ∀ write ∈ call.write?, write.document.body.ReadsBack)
    (bounded : ∀ bound limit, Call.scan bound limit ∈ calls →
      limit.toNat < 2 ^ 63 ∨ total ≤ limit.toNat) :
    (Call.run calls rows).1.map Answer.withoutText
      = (Call.run calls store).1.map Answer.withoutText := by
  induction calls generalizing rows store contents with
  | nil => rfl
  | cons call rest ih =>
      rw [List.length_cons] at room
      have asks : Asks contents call := by
        refine ⟨arranged call List.mem_cons_self, readsBack call List.mem_cons_self, ?_⟩
        intro bound limit same
        rcases bounded bound limit (same ▸ List.mem_cons_self) with signed | enough
        · exact .inl signed
        · exact .inr (by omega)
      have grown := size_afterChange_le contents (call.change? (call.perform store).1)
      have others := ih (agree.step asks) (by omega)
        (fun other member => arranged other (List.mem_cons_of_mem _ member))
        (fun other member => readsBack other (List.mem_cons_of_mem _ member))
        (fun bound limit member => bounded bound limit (List.mem_cons_of_mem _ member))
      simp only [Call.run, List.map_cons, agree.perform_alike asks, others]

end Agrees

/-- Whatever a service asks of the two stores, they answer the same at every step, up to the text of
    a conflict. A limit beyond the signed numbers asks for all documents, so there must be no more
    of them than it says; there are never more than there were calls. -/
theorem answers_match_memory (calls : List Call)
    (arranged : ∀ call ∈ calls, ∀ write ∈ call.write?, write.document.Arranged)
    (readsBack : ∀ call ∈ calls, ∀ write ∈ call.write?, write.document.body.ReadsBack)
    (bounded : ∀ bound limit, Call.scan bound limit ∈ calls →
      limit.toNat < 2 ^ 63 ∨ calls.length ≤ limit.toNat) :
    (Call.run calls RelationalStore.empty).1.map Answer.withoutText
      = (Call.run calls MemoryStore.empty).1.map Answer.withoutText := by
  apply Agrees.empty.run_alike calls _ arranged readsBack bounded
  rw [show (Table.empty : Contents).size = 0 from rfl, Nat.zero_add]

def serviceCalls : List Call :=
  [.upsert ⟨.bare (.numbered 1) [] [.numbered 2], [.numbered 9, .numbered 7]⟩,
    .upsert ⟨.bare (.numbered 1) [] [.numbered 2], []⟩,
    .upsert ⟨.bare (.numbered 3) [.numbered 1, .numbered 2, .numbered 8] [], [.numbered 2]⟩,
    .update ⟨.bare (.numbered 1) [] [], []⟩,
    .upsert ⟨.bare (.numbered 2) [] [.numbered 1], []⟩,
    .delete (.numbered 1) false,
    .delete (.numbered 1) true,
    .findExisting [.numbered 3, .numbered 2, .numbered 3],
    .scan none (UInt64.ofNat (2 ^ 64 - 1))]

theorem answers_match_memory_serviceCalls :
    (∀ call ∈ serviceCalls, ∀ write ∈ call.write?, write.document.Arranged) ∧
      (∀ call ∈ serviceCalls, ∀ write ∈ call.write?, write.document.body.ReadsBack) ∧
      (∀ bound limit, Call.scan bound limit ∈ serviceCalls →
        limit.toNat < 2 ^ 63 ∨ serviceCalls.length ≤ limit.toNat) ∧
      (Call.run serviceCalls RelationalStore.empty).1.map Answer.withoutText
        = (Call.run serviceCalls MemoryStore.empty).1.map Answer.withoutText ∧
      -- The two engines name different ids for one conflict.
      (Call.run serviceCalls RelationalStore.empty).1
        ≠ (Call.run serviceCalls MemoryStore.empty).1 := by
  have refs : ∀ call ∈ serviceCalls, ∀ write ∈ call.write?,
      write.document.outRefIds.Pairwise fun a b => Key.before a b = true := by decide
  have aliases : ∀ call ∈ serviceCalls, ∀ write ∈ call.write?,
      write.document.aliasIds.length ≤ 1 ∧ write.document.id ∉ write.document.aliasIds := by decide
  have arranged : ∀ call ∈ serviceCalls, ∀ write ∈ call.write?, write.document.Arranged :=
    fun call member write asked => ⟨refs call member write asked,
      (aliases call member write asked).1, (aliases call member write asked).2⟩
  have shallow : ∀ call ∈ serviceCalls, ∀ write ∈ call.write?,
      write.document.body.json.depth ≤ 127 := by decide
  have noReals : ∀ call ∈ serviceCalls, ∀ write ∈ call.write?,
      write.document.body.json.reals = [] := by decide
  have readsBack : ∀ call ∈ serviceCalls, ∀ write ∈ call.write?, write.document.body.ReadsBack := by
    intro call member write asked
    refine ⟨shallow call member write asked, ?_⟩
    simp [noReals call member write asked]
  have bounded : ∀ bound limit, Call.scan bound limit ∈ serviceCalls →
      limit.toNat < 2 ^ 63 ∨ serviceCalls.length ≤ limit.toNat := by
    intro bound limit member
    right
    simp only [serviceCalls, List.mem_cons, reduceCtorEq, Call.scan.injEq, List.not_mem_nil,
      or_false, false_or] at member
    rw [member.2]
    decide
  refine ⟨arranged, readsBack, bounded, ?_, ?_⟩
  · exact answers_match_memory serviceCalls arranged readsBack bounded
  · decide +kernel

end RelationalStore

end Docket
