import Docket.Proofs.Store.Integrity
import Docket.Proofs.Store.WriteEnd
/-!
The life of an id.

An id comes to be stored with an upsert that answers an insert, and ceases to be with a delete that
answers a success. Whoever makes the calls, these two take turns, the first is an insert, and the
last tells whether the id is stored (`LifeCycle`). Between them a document is only replaced, and its
creator, once set, stays. What one call may do with an id is listed in `Fate`; the rest follows by
induction on the calls.
-/

namespace Docket

inductive Turn where
  | inserted
  | deleted
  deriving DecidableEq

namespace Call

def turn? (id : DocumentId) : Call → Answer → Option Turn
  | .upsert write, .upserted .insertSuccess =>
      if write.document.id = id then some .inserted else none
  | .delete key _, .deleted (.success _) => if key = id then some .deleted else none
  | _, _ => none

def replaces (id : DocumentId) : Call → Answer → Bool
  | .upsert write, .upserted .updateSuccess => write.document.id = id
  | .update write, .updated .success => write.document.id = id
  | _, _ => false

def turns (id : DocumentId) (calls : List Call) (answers : List Answer) : List Turn :=
  (calls.zip answers).filterMap fun entry => entry.1.turn? id entry.2

variable (id : DocumentId)

theorem turns_append {calls more : List Call} {answers others : List Answer}
    (paired : answers.length = calls.length) :
    turns id (calls ++ more) (answers ++ others)
      = turns id calls answers ++ turns id more others := by
  unfold turns
  rw [List.zip_append paired.symm, List.filterMap_append]

theorem turns_concat {calls : List Call} {answers : List Answer}
    (paired : answers.length = calls.length) (call : Call) (answer : Answer) :
    turns id (calls ++ [call]) (answers ++ [answer])
      = turns id calls answers ++ (call.turn? id answer).toList := by
  rw [turns_append id paired]
  cases told : call.turn? id answer with
  | none => simp [turns, told]
  | some turn => simp [turns, told]

end Call

inductive Fate (id : DocumentId) (call : Call) (answer : Answer) (before after : Contents) :
    Prop where
  | inserted (told : call.turn? id answer = some .inserted)
      (others : call.replaces id answer = false) (absent : before.get? id = none)
      {new : Document} (present : after.get? id = some new)
  | deleted (told : call.turn? id answer = some .deleted)
      (others : call.replaces id answer = false) {old : Document}
      (present : before.get? id = some old) (absent : after.get? id = none)
  | replaced (told : call.turn? id answer = none) {old : Document}
      (present : before.get? id = some old) (new : Document)
      (replaced : after.get? id = some (new.keepingCreator (some old)))
  | untouched (told : call.turn? id answer = none) (others : call.replaces id answer = false)
      (same : after.get? id = before.get? id)

namespace Fate

variable {id : DocumentId} {contents : Contents} {write : DocumentWrite}

theorem of_inserted (absent : contents.get? write.document.id = none) :
    Fate id (.upsert write) (.upserted .insertSuccess) contents (contents.put write.document) := by
  by_cases here : write.document.id = id
  · subst here
    exact .inserted (if_pos rfl) rfl absent (Contents.get?_put_self write.document)
  · exact .untouched (if_neg here) rfl (Contents.get?_put_of_ne (Ne.symm here))

theorem of_replaced {call : Call} {answer : Answer} (told : call.turn? id answer = none)
    (replaces : call.replaces id answer = decide (write.document.id = id)) {old : Document}
    (present : contents.get? write.document.id = some old) :
    Fate id call answer contents (contents.put write.document) := by
  by_cases here : write.document.id = id
  · subst here
    exact .replaced told present write.document (present ▸ Contents.get?_put_self write.document)
  · exact .untouched told (replaces.trans (decide_eq_false here))
      (Contents.get?_put_of_ne (Ne.symm here))

end Fate

namespace Engine

variable {engine : Engine} {contents : Contents}

theorem fate_upsert (held : engine.Holds contents) (id : DocumentId) (write : DocumentWrite) :
    Fate id (.upsert write) ((Call.upsert write).perform engine).1 contents
      (contents.afterChange
        ((Call.upsert write).change? ((Call.upsert write).perform engine).1)) := by
  have step := write_step held write true
  have answered : ((Call.upsert write).perform engine).1
      = .upserted (engine.write write true).1.upsertOutcome := by
    rw [Call.perform, upsert_eq]
    rfl
  rw [answered]
  generalize engine.write write true = result at step
  cases step with
  | refused cause => cases cause <;> exact .untouched rfl rfl rfl
  | inserted _ absent _ _ => exact .of_inserted absent
  | updated present _ _ => exact .of_replaced rfl rfl present

theorem fate_update (held : engine.Holds contents) (id : DocumentId) (write : DocumentWrite) :
    Fate id (.update write) ((Call.update write).perform engine).1 contents
      (contents.afterChange
        ((Call.update write).change? ((Call.update write).perform engine).1)) := by
  have step := write_step held write false
  have answered : ((Call.update write).perform engine).1
      = .updated (engine.write write false).1.updateOutcome := by
    rw [Call.perform, update_eq]
    rfl
  rw [answered]
  generalize engine.write write false = result at step
  cases step with
  | refused cause => cases cause <;> exact .untouched rfl rfl rfl
  | inserted allowed _ _ _ => simp at allowed
  | updated present _ _ => exact .of_replaced rfl rfl present

theorem fate_delete (held : engine.Holds contents) (id key : DocumentId) (force : Bool) :
    Fate id (.delete key force) ((Call.delete key force).perform engine).1 contents
      (contents.afterChange
        ((Call.delete key force).change? ((Call.delete key force).perform engine).1)) := by
  change Fate id (.delete key force) (.deleted (DocumentStore.delete key force engine).1) contents
    (contents.afterChange ((Call.delete key force).change?
      (.deleted (DocumentStore.delete key force engine).1)))
  cases done : (DocumentStore.delete key force engine).1 with
  | notExists => exact .untouched rfl rfl rfl
  | referenceConflict parents => exact .untouched rfl rfl rfl
  | unknownFailure message => exact .untouched rfl rfl rfl
  | success document =>
      obtain ⟨stored, present, _, _⟩ := reread_of_delete held done
      by_cases here : key = id
      · subst here
        exact .deleted (if_pos rfl) rfl present (by simp [Call.change?, Contents.afterChange])
      · exact .untouched (if_neg here) rfl
          (by simp [Call.change?, Contents.afterChange, Table.get?_erase, Ne.symm here])

theorem fate (held : engine.Holds contents) (id : DocumentId) (call : Call) :
    Fate id call (call.perform engine).1 contents
      (contents.afterChange (call.change? (call.perform engine).1)) := by
  cases call with
  | upsert write => exact fate_upsert held id write
  | update write => exact fate_update held id write
  | delete key force => exact fate_delete held id key force
  | get key => exact .untouched rfl rfl rfl
  | findExisting ids => exact .untouched rfl rfl rfl
  | scan bound limit => exact .untouched rfl rfl rfl

/-- Whether a look-up of an id finds a document, readable or not. -/
def Stores (engine : Engine) (id : DocumentId) : Prop :=
  (DocumentStore.get id engine).1 ≠ .notExists

theorem stores_iff (held : engine.Holds contents) (id : DocumentId) :
    engine.Stores id ↔ (contents.get? id).isSome = true := by
  rw [Stores, get_eq held]
  cases contents.get? id with
  | none => simp [GetOutcome.ofReading]
  | some document =>
      cases read : engine.kind.reread document with
      | error cause => simp [GetOutcome.ofReading, read]
      | ok document => simp [GetOutcome.ofReading, read]

end Engine

structure Turn.Trace (turns : List Turn) (stored : Bool) : Prop where
  first : turns.head? ≠ some .deleted
  alternate : turns.IsChain (· ≠ ·)
  last : turns.getLast? = some .inserted ↔ stored = true

namespace Turn.Trace

variable {turns : List Turn}

theorem empty : Trace [] false where
  first := by simp
  alternate := .nil
  last := by simp

theorem inserted (trace : Trace turns false) : Trace (turns ++ [.inserted]) true where
  first := by
    rw [List.head?_append]
    cases begins : turns.head? with
    | none => simp
    | some turn => simpa [begins] using trace.first
  alternate := by
    refine List.isChain_append.mpr ⟨trace.alternate, .singleton _, ?_⟩
    rintro turn ends next ⟨⟩ rfl
    exact absurd (trace.last.mp ends) (by simp)
  last := by simp

theorem deleted (trace : Trace turns true) : Trace (turns ++ [.deleted]) false where
  first := by
    rw [List.head?_append]
    cases begins : turns.head? with
    -- There is an insert before the first delete.
    | none => simpa [List.head?_eq_none_iff.mp begins] using trace.last
    | some turn => simpa [begins] using trace.first
  alternate := by
    refine List.isChain_append.mpr ⟨trace.alternate, .singleton _, ?_⟩
    rintro turn ends next ⟨⟩ rfl
    have inserted := trace.last.mpr rfl
    simp [Option.mem_def.mp ends] at inserted
  last := by simp

end Turn.Trace

theorem Turn.length_le_one {turns : List Turn} (alternate : turns.IsChain (· ≠ ·))
    (kept : Turn.deleted ∉ turns) : turns.length ≤ 1 := by
  match turns, alternate with
  | [], _ => simp
  | [turn], _ => simp
  | .deleted :: _, _ => simp at kept
  | .inserted :: .deleted :: _, _ => simp at kept
  | .inserted :: .inserted :: _, alternate => simp at alternate

namespace EngineKind

variable (kind : EngineKind)

def turns (calls : List Call) (id : DocumentId) : List Turn :=
  Call.turns id calls (Call.run calls kind.fresh).1

def turnsAfter (calls more : List Call) (id : DocumentId) : List Turn :=
  Call.turns id more (Call.run more (kind.reached calls)).1

theorem turns_append (calls more : List Call) (id : DocumentId) :
    kind.turns (calls ++ more) id = kind.turns calls id ++ kind.turnsAfter calls more id := by
  rw [turns, Call.run_append]
  exact Call.turns_append id (Call.length_run calls kind.fresh)

theorem turnsAfter_concat (calls more : List Call) (call : Call) (id : DocumentId) :
    kind.turnsAfter calls (more ++ [call]) id
      = kind.turnsAfter calls more id
        ++ (call.turn? id (call.perform (kind.reached (calls ++ more))).1).toList := by
  rw [turnsAfter, Call.run_concat, reached_append]
  exact Call.turns_concat id (Call.length_run more (kind.reached calls)) call _

theorem turns_concat (calls : List Call) (call : Call) (id : DocumentId) :
    kind.turns (calls ++ [call]) id
      = kind.turns calls id ++ (call.turn? id (call.perform (kind.reached calls)).1).toList :=
  kind.turnsAfter_concat [] calls call id

theorem trace (calls : List Call) (id : DocumentId) :
    Turn.Trace (kind.turns calls id) ((kind.written calls).get? id).isSome := by
  induction calls using List.reverseRecOn with
  | nil => exact .empty
  | append_singleton calls call ih =>
      rw [turns_concat, written_concat]
      cases Engine.fate (kind.reached_holds calls) id call with
      | inserted told _ absent present =>
          rw [absent] at ih
          rw [told, present]
          exact ih.inserted
      | deleted told _ present absent =>
          rw [present] at ih
          rw [told, absent]
          exact ih.deleted
      | replaced told present new replaced =>
          rw [present] at ih
          simpa [told, replaced] using ih
      | untouched told _ same => simpa [told, same] using ih

/-- Without a delete of it a document whose creator is set stays, in one version or another, and so
    does the creator. -/
theorem creator_stays {calls : List Call} (more : List Call) {id : DocumentId}
    {document : Document} {creator : String}
    (stored : (kind.written calls).get? id = some document)
    (created : document.createdBy = some creator)
    (kept : Turn.deleted ∉ kind.turnsAfter calls more id) :
    ∃ later, (kind.written (calls ++ more)).get? id = some later ∧
      later.createdBy = some creator := by
  induction more using List.reverseRecOn with
  | nil => exact ⟨document, by simpa using stored, created⟩
  | append_singleton more call ih =>
      rw [turnsAfter_concat, List.mem_append, not_or] at kept
      obtain ⟨later, present, same⟩ := ih kept.1
      rw [← List.append_assoc, written_concat]
      cases Engine.fate (kind.reached_holds (calls ++ more)) id call with
      | inserted _ _ absent _ => simp [absent] at present
      | deleted told _ _ _ => simp [told] at kept
      | replaced _ before new replaced =>
          obtain rfl : later = _ := Option.some.inj (present.symm.trans before)
          exact ⟨_, replaced, by simp [Document.keepingCreator, same]⟩
      | untouched _ _ unchanged => exact ⟨later, unchanged.trans present, same⟩

end EngineKind

/-- The life of an id in an engine that calls have led to: its turns begin with an insert, no turn is
    followed by one of its kind, and the last tells whether the id is stored. -/
structure LifeCycle (kind : EngineKind) (calls : List Call) (id : DocumentId) : Prop where
  first : (kind.turns calls id).head? ≠ some .deleted
  alternate : (kind.turns calls id).IsChain (· ≠ ·)
  stored : (kind.reached calls).Stores id ↔ (kind.turns calls id).getLast? = some .inserted
  /-- A document is replaced only while it is stored, and is stored afterwards. -/
  replaced : ∀ call : Call, call.replaces id (call.perform (kind.reached calls)).1 = true →
    (kind.reached calls).Stores id ∧ (call.perform (kind.reached calls)).2.Stores id
  /-- An update neither inserts nor deletes. -/
  update : ∀ write, ((Call.update write).perform (kind.reached calls)).2.Stores id ↔
    (kind.reached calls).Stores id
  /-- Further calls without a delete of the id insert it at most once. -/
  insertedOnce : ∀ more, Turn.deleted ∉ kind.turnsAfter calls more id →
    (kind.turnsAfter calls more id).count .inserted ≤ 1
  /-- The tables hold the documents as they were written. -/
  keeps : (kind.reached calls).Keeps (kind.written calls)
  /-- A creator that is set stays while the id is not deleted, in the tables and in what is read. -/
  creator : ∀ more document creator, (kind.written calls).get? id = some document →
    document.createdBy = some creator → Turn.deleted ∉ kind.turnsAfter calls more id →
      (∃ later, (kind.written (calls ++ more)).get? id = some later ∧
        later.createdBy = some creator) ∧
      ∀ read, (DocumentStore.get id (kind.reached (calls ++ more))).1 = .success read →
        read.createdBy = some creator

namespace EngineKind

variable (kind : EngineKind) (calls : List Call) (id : DocumentId)

theorem stores_iff :
    (kind.reached calls).Stores id ↔ ((kind.written calls).get? id).isSome = true :=
  Engine.stores_iff (kind.reached_holds calls) id

theorem stores_perform_iff (call : Call) :
    (call.perform (kind.reached calls)).2.Stores id ↔
      (((kind.written calls).afterChange
        (call.change? (call.perform (kind.reached calls)).1)).get? id).isSome = true := by
  rw [← reached_concat, stores_iff, written_concat]

theorem stores_of_replaces (call : Call)
    (replaces : call.replaces id (call.perform (kind.reached calls)).1 = true) :
    (kind.reached calls).Stores id ∧ (call.perform (kind.reached calls)).2.Stores id := by
  rw [stores_perform_iff, stores_iff]
  cases Engine.fate (kind.reached_holds calls) id call with
  | inserted _ others _ _ => simp [others] at replaces
  | deleted _ others _ _ => simp [others] at replaces
  | replaced _ present new replaced => simp [present, replaced]
  | untouched _ others _ => simp [others] at replaces

theorem stores_update_iff (write : DocumentWrite) :
    ((Call.update write).perform (kind.reached calls)).2.Stores id ↔
      (kind.reached calls).Stores id := by
  rw [stores_perform_iff, stores_iff]
  cases Engine.fate (kind.reached_holds calls) id (.update write) with
  -- An update is no turn.
  | inserted told _ _ _ => simp [Call.turn?] at told
  | deleted told _ _ _ => simp [Call.turn?] at told
  | replaced _ present new replaced => simp [present, replaced]
  | untouched _ _ same => rw [same]

theorem creator_of_get {document read : Document} {creator : String}
    (stored : (kind.written calls).get? id = some document)
    (created : document.createdBy = some creator)
    (answered : (DocumentStore.get id (kind.reached calls)).1 = .success read) :
    read.createdBy = some creator := by
  obtain ⟨original, present, readable⟩ := Engine.reread_of_get (kind.reached_holds calls) answered
  obtain rfl := Option.some.inj (present.symm.trans stored)
  exact (EngineKind.rereads readable).createdBy.trans created

/-- Every id has such a life, in every engine and after every run. -/
theorem life_cycle : LifeCycle kind calls id where
  first := (kind.trace calls id).first
  alternate := (kind.trace calls id).alternate
  stored := (kind.stores_iff calls id).trans (kind.trace calls id).last.symm
  replaced := kind.stores_of_replaces calls id
  update := kind.stores_update_iff calls id
  insertedOnce more kept := by
    have whole := (kind.trace (calls ++ more) id).alternate
    rw [turns_append] at whole
    exact List.count_le_length.trans (Turn.length_le_one whole.right_of_append kept)
  keeps := (kind.reached_holds calls).keeps
  creator more document creator stored created kept := by
    obtain ⟨later, present, same⟩ := kind.creator_stays more stored created kept
    exact ⟨⟨later, present, same⟩, fun read => kind.creator_of_get _ id present same⟩

example :
    let write : DocumentWrite := ⟨.bare (.numbered 1) [] [], []⟩
    relational.turns [.upsert write, .upsert write, .delete (.numbered 1) false, .update write,
      .upsert write] (.numbered 1) = [.inserted, .deleted, .inserted] := by
  decide +kernel

end EngineKind

end Docket
