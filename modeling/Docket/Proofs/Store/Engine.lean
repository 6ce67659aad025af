import Docket.Proofs.Store.KeyValue
import Docket.Proofs.Store.Memory
import Docket.Proofs.Store.Relational
import Docket.Store.Engine
/-!
What every engine holds after every run.

The three engines keep their documents and references in tables of their own kind. `Engine.Holds`
says of each that the documents are the contents, that the two derived tables are exact, and that
the table of references has no entries but those for references; every run from an empty engine
keeps it (`EngineKind.reached_holds`).
-/

namespace Docket

open Contents

inductive EngineKind where
  | memory
  | keyValue
  | relational
  deriving DecidableEq

namespace Engine

def existence : Engine → Table DocumentId DocumentId
  | .memory store => store.existence
  | .keyValue store => store.existence
  | .relational store => store.existence

def Linked : Engine → DocumentId → DocumentId → Prop
  | .memory store => MemoryStore.Linked store.inbound
  | .keyValue store => KeyValueStore.Linked store.inbound
  | .relational store => RelationalStore.Linked store.references

def Tidy : Engine → Prop
  | .memory store => MemoryStore.Inhabited store.inbound
  | .keyValue store => KeyValueStore.Tidy store.inbound
  | .relational _ => True

def Keeps : Engine → Contents → Prop
  | .memory store, contents => store.documents = contents
  | .keyValue store, contents =>
      ∀ id, store.documents.get? id = (contents.get? id).map KeyValueStore.encodeDocument
  | .relational store, contents =>
      (∀ id, store.documents.get? id = (contents.get? id).map DocumentRow.ofDocument) ∧
        ∀ parent id, store.references.get? (parent, id)
          = (contents.get? parent).bind fun document => OutboundRef.mark? document.outRefs id

structure Holds (engine : Engine) (contents : Contents) : Prop where
  keeps : engine.Keeps contents
  exact : Exact contents engine.existence engine.Linked
  tidy : engine.Tidy

variable {contents : Contents}

theorem memory_holds {store : MemoryStore} :
    (memory store).Holds contents ↔ store.Holds contents :=
  ⟨fun held => ⟨held.keeps, held.exact, held.tidy⟩,
    fun held => ⟨held.documents, held.exact, held.inhabited⟩⟩

theorem keyValue_holds {store : KeyValueStore} :
    (keyValue store).Holds contents ↔ store.Holds contents :=
  ⟨fun held => ⟨held.keeps, held.exact, held.tidy⟩,
    fun held => ⟨held.documents, held.exact, held.tidy⟩⟩

theorem relational_holds {store : RelationalStore} :
    (relational store).Holds contents ↔ store.Holds contents :=
  ⟨fun held => ⟨held.keeps.1, held.exact, held.keeps.2⟩,
    fun held => ⟨⟨held.documents, held.references⟩, held.exact, trivial⟩⟩

theorem perform_memory (call : Call) (store : MemoryStore) :
    call.perform (memory store) = (call.perform store).map id memory := by
  cases call <;> rfl

theorem perform_keyValue (call : Call) (store : KeyValueStore) :
    call.perform (keyValue store) = (call.perform store).map id keyValue := by
  cases call <;> rfl

theorem perform_relational (call : Call) (store : RelationalStore) :
    call.perform (relational store) = (call.perform store).map id relational := by
  cases call <;> rfl

theorem step_holds (call : Call) (engine : Engine) (contents : Contents)
    (held : engine.Holds contents) : Step Holds contents call (call.perform engine) := by
  cases engine with
  | memory store =>
      have step := store.step_holds call contents (memory_holds.mp held)
      rw [perform_memory]
      exact ⟨memory_holds.mpr step.held, step.allowed⟩
  | keyValue store =>
      have step := store.step_holds call contents (keyValue_holds.mp held)
      rw [perform_keyValue]
      exact ⟨keyValue_holds.mpr step.held, step.allowed⟩
  | relational store =>
      have step := store.step_holds call contents (relational_holds.mp held)
      rw [perform_relational]
      exact ⟨relational_holds.mpr step.held, step.allowed⟩

end Engine

namespace EngineKind

def fresh : EngineKind → Engine
  | .memory => Engine.emptyMemory
  | .keyValue => Engine.emptyKeyValue
  | .relational => Engine.emptyRelational

def reached (kind : EngineKind) (calls : List Call) : Engine := (Call.run calls kind.fresh).2

def written (kind : EngineKind) (calls : List Call) : Contents :=
  Contents.afterRun Table.empty calls (Call.run calls kind.fresh).1

theorem reached_append (kind : EngineKind) (calls more : List Call) :
    kind.reached (calls ++ more) = (Call.run more (kind.reached calls)).2 := by
  rw [reached, Call.run_append]
  rfl

theorem reached_concat (kind : EngineKind) (calls : List Call) (call : Call) :
    kind.reached (calls ++ [call]) = (call.perform (kind.reached calls)).2 :=
  kind.reached_append calls [call]

theorem written_concat (kind : EngineKind) (calls : List Call) (call : Call) :
    kind.written (calls ++ [call])
      = (kind.written calls).afterChange (call.change? (call.perform (kind.reached calls)).1) := by
  unfold written
  rw [Call.run_concat]
  exact afterRun_concat _ (Call.length_run calls kind.fresh) call _

theorem fresh_holds (kind : EngineKind) : kind.fresh.Holds Table.empty := by
  cases kind with
  | memory => exact Engine.memory_holds.mpr MemoryStore.holds_empty
  | keyValue => exact Engine.keyValue_holds.mpr KeyValueStore.holds_empty
  | relational => exact Engine.relational_holds.mpr RelationalStore.holds_empty

theorem reached_holds (kind : EngineKind) (calls : List Call) :
    (kind.reached calls).Holds (kind.written calls) :=
  run_holds Engine.step_holds calls kind.fresh_holds

end EngineKind

end Docket
