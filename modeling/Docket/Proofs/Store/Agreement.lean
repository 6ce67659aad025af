import Docket.Proofs.Store.KeyValue
import Docket.Proofs.Store.Memory
/-!
The store of texts answers as the store in memory does.

Both hold the same contents after every step, and what either answers follows from the contents: the
tables of existence are one table, both checks give the verdict on the same version, and both find
the documents that refer to an id in the same order (`answers_eq_memory`). Bodies must be read back
from their texts, and nest no deeper than the reader goes.
-/

namespace Docket.KeyValueStore

open Contents

structure Agrees (flat : KeyValueStore) (store : MemoryStore) (contents : Contents) : Prop where
  flat : flat.Holds contents
  memory : store.Holds contents
  readable : ∀ id document, contents.get? id = some document → document.body.Readable

namespace Agrees

variable {flat : KeyValueStore} {store : MemoryStore} {contents : Contents}

theorem empty : Agrees KeyValueStore.empty MemoryStore.empty Table.empty where
  flat := holds_empty
  memory := MemoryStore.holds_empty
  readable _ _ found := by simp at found

theorem existence_eq (agree : Agrees flat store contents) : flat.existence = store.existence :=
  agree.flat.exact.existence_unique agree.memory.exact

theorem load_eq (agree : Agrees flat store contents) (id : DocumentId) :
    flat.load id = .ok (contents.get? id) := by
  rw [KeyValueStore.load, agree.flat.documents]
  cases found : contents.get? id with
  | none => rfl
  | some document =>
      have readable := agree.readable id document found
      simp only [Option.map_some, KeyValueStore.decodeDocument_encodeDocument readable]

theorem write_eq (agree : Agrees flat store contents) (write : DocumentWrite)
    (insertAllowed : Bool) :
    (flat.write write insertAllowed).1 = (store.write write insertAllowed).1 := by
  unfold KeyValueStore.write MemoryStore.write
  rw [KeyValueStore.check_eq agree.flat, MemoryStore.refusal?_eq agree.memory, agree.load_eq,
    agree.existence_eq]
  cases judged : contents.verdict store.existence write insertAllowed
      (.ok (contents.get? write.document.id))
      (firstClaim? store.existence write.document.existenceIds write.document.id) with
  | error cause => rfl
  | ok old =>
      -- One store tells an insert by its table, the other by what it has read.
      obtain ⟨read, _⟩ := verdict_eq_ok_iff.mp judged
      obtain rfl := Except.ok.inj read
      simp only [Table.contains, agree.memory.documents]

theorem get_eq (agree : Agrees flat store contents) (id : DocumentId) :
    flat.get id = store.get id := by
  rw [KeyValueStore.get, MemoryStore.get, agree.load_eq, agree.memory.documents]
  cases contents.get? id with
  | none => rfl
  | some document => rfl

theorem delete_eq (agree : Agrees flat store contents) (id : DocumentId) (force : Bool) :
    (flat.delete id force).1 = (store.delete id force).1 := by
  rw [KeyValueStore.delete, MemoryStore.delete, agree.load_eq, agree.memory.documents]
  cases found : contents.get? id with
  | none => rfl
  | some document =>
      have named : document.id = id := agree.memory.exact.named id document found
      simp only [KeyValueStore.inboundParents_eq agree.flat.tidy agree.flat.exact.inbound,
        MemoryStore.referencing_eq agree.memory, named]
      cases contents.parents document.existenceIds id with
      | nil => rfl
      | cons parent rest =>
          cases force with
          | true => rfl
          | false => rfl

theorem findExisting_eq (agree : Agrees flat store contents) (ids : List DocumentId) :
    flat.findExisting ids = store.findExisting ids := by
  rw [KeyValueStore.findExisting, MemoryStore.findExisting, agree.existence_eq]

theorem scan_eq (agree : Agrees flat store contents) (bound : Option DocumentId)
    (limit : UInt64) : flat.scan bound limit = .ok (store.scan bound limit) := by
  rw [KeyValueStore.scan, MemoryStore.scan, agree.memory.documents,
    Table.values_filter_eq_map KeyValueStore.encodeDocument agree.flat.documents, ← List.map_take]
  apply KeyValueStore.decodeAll_map_encodeDocument
  intro document member
  obtain ⟨id, found⟩ := Table.mem_values_iff.mp (List.mem_of_mem_take member)
  rw [Table.get?_filter, Option.filter_eq_some_iff] at found
  exact agree.readable id document found.1

theorem perform_eq (agree : Agrees flat store contents) (call : Call) :
    (call.perform flat).1 = (call.perform store).1 := by
  cases call with
  | upsert write =>
      exact congrArg (fun applied => Answer.upserted applied.upsertOutcome)
        (agree.write_eq write true)
  | update write =>
      exact congrArg (fun applied => Answer.updated applied.updateOutcome)
        (agree.write_eq write false)
  | get id => exact congrArg Answer.got (agree.get_eq id)
  | delete id force => exact congrArg Answer.deleted (agree.delete_eq id force)
  | findExisting ids =>
      exact congrArg (fun ids => Answer.found (.ok ids)) (agree.findExisting_eq ids)
  | scan bound limit => exact congrArg Answer.scanned (agree.scan_eq bound limit)

theorem step (agree : Agrees flat store contents) (call : Call)
    (readable : ∀ write ∈ call.write?, write.document.body.Readable) :
    Agrees (call.perform flat).2 (call.perform store).2
      (contents.afterChange (call.change? (call.perform store).1)) where
  flat := by
    have held := (step_holds call flat contents agree.flat).held
    rwa [agree.perform_eq call] at held
  memory := (MemoryStore.step_holds call store contents agree.memory).held
  readable := by
    apply forall_afterChange (fun document => document.body.Readable) _ agree.readable
    · intro write told
      exact readable write (Call.write?_eq_some told)
    · intro new old ready
      rwa [Document.keepingCreator_body]

theorem run_eq (calls : List Call) (agree : Agrees flat store contents)
    (readable : ∀ call ∈ calls, ∀ write ∈ call.write?, write.document.body.Readable) :
    (Call.run calls flat).1 = (Call.run calls store).1 := by
  induction calls generalizing flat store contents with
  | nil => rfl
  | cons call rest ih =>
      have next := agree.step call (readable call List.mem_cons_self)
      have others := ih next fun other member => readable other (List.mem_cons_of_mem _ member)
      simp only [Call.run, agree.perform_eq call, others]

end Agrees

/-- Whatever is asked of the two stores, they answer the same at every step. -/
theorem answers_eq_memory (calls : List Call)
    (readable : ∀ call ∈ calls, ∀ write ∈ call.write?, write.document.body.Readable) :
    (Call.run calls KeyValueStore.empty).1 = (Call.run calls MemoryStore.empty).1 :=
  Agrees.empty.run_eq calls readable

/-- Calls that meet in one alias: it is given twice, kept, dropped and claimed by others. -/
def contestedCalls : List Call :=
  [.upsert ⟨.bare (.numbered 1) [] [.numbered 2, .numbered 2, .numbered 1], [.numbered 9]⟩,
    .upsert ⟨.bare (.numbered 1) [] [.numbered 2, .numbered 2, .numbered 1], []⟩,
    .upsert ⟨.bare (.numbered 3) [.numbered 2, .numbered 1, .numbered 2] [], [.numbered 2]⟩,
    .update ⟨.bare (.numbered 1) [] [], []⟩,
    .upsert ⟨.bare (.numbered 4) [] [.numbered 2], []⟩,
    .delete (.numbered 1) false,
    .delete (.numbered 1) true,
    .findExisting [.numbered 3, .numbered 2, .numbered 3],
    .scan none 8]

theorem answers_eq_memory_contestedCalls :
    (∀ call ∈ contestedCalls, ∀ write ∈ call.write?, write.document.body.Readable) ∧
      (Call.run contestedCalls KeyValueStore.empty).1
        = (Call.run contestedCalls MemoryStore.empty).1 := by
  have shallow : ∀ call ∈ contestedCalls, ∀ write ∈ call.write?,
      write.document.body.json.depth ≤ 126 := by decide
  have noReals : ∀ call ∈ contestedCalls, ∀ write ∈ call.write?,
      write.document.body.json.reals = [] := by decide
  have readable : ∀ call ∈ contestedCalls, ∀ write ∈ call.write?,
      write.document.body.Readable := by
    intro call member write asked
    apply Body.readable_of_reals (shallow call member write asked)
    simp [noReals call member write asked]
  exact ⟨readable, answers_eq_memory contestedCalls readable⟩

end Docket.KeyValueStore
