import Docket.Store.KeyValue
import Docket.Store.Memory
import Docket.Store.Relational
/-!
The engines that a store can run on, as one type.
-/

namespace Docket

inductive Engine where
  | memory (store : MemoryStore)
  | keyValue (store : KeyValueStore)
  | relational (store : RelationalStore)
  deriving DecidableEq

namespace Engine

instance : Inhabited Engine := ⟨.memory MemoryStore.empty⟩

def emptyMemory : Engine := .memory MemoryStore.empty

def emptyKeyValue : Engine := .keyValue KeyValueStore.empty

def emptyRelational : Engine := .relational RelationalStore.empty

instance : DocumentStore Engine where
  name
    | .memory store => DocumentStore.name store
    | .keyValue store => DocumentStore.name store
    | .relational store => DocumentStore.name store
  upsert write
    | .memory store => (DocumentStore.upsert write store).map id .memory
    | .keyValue store => (DocumentStore.upsert write store).map id .keyValue
    | .relational store => (DocumentStore.upsert write store).map id .relational
  update write
    | .memory store => (DocumentStore.update write store).map id .memory
    | .keyValue store => (DocumentStore.update write store).map id .keyValue
    | .relational store => (DocumentStore.update write store).map id .relational
  get key
    | .memory store => (DocumentStore.get key store).map id .memory
    | .keyValue store => (DocumentStore.get key store).map id .keyValue
    | .relational store => (DocumentStore.get key store).map id .relational
  delete key force
    | .memory store => (DocumentStore.delete key force store).map id .memory
    | .keyValue store => (DocumentStore.delete key force store).map id .keyValue
    | .relational store => (DocumentStore.delete key force store).map id .relational
  query index resource filters window
    | .memory store => (DocumentStore.query index resource filters window store).map id .memory
    | .keyValue store => (DocumentStore.query index resource filters window store).map id .keyValue
    | .relational store =>
        (DocumentStore.query index resource filters window store).map id .relational
  findExisting ids
    | .memory store => (DocumentStore.findExisting ids store).map id .memory
    | .keyValue store => (DocumentStore.findExisting ids store).map id .keyValue
    | .relational store => (DocumentStore.findExisting ids store).map id .relational
  scan after limit
    | .memory store => (DocumentStore.scan after limit store).map id .memory
    | .keyValue store => (DocumentStore.scan after limit store).map id .keyValue
    | .relational store => (DocumentStore.scan after limit store).map id .relational
  size
    | .memory store => DocumentStore.size store
    | .keyValue store => DocumentStore.size store
    | .relational store => DocumentStore.size store

end Engine

end Docket
