import Docket.Store.Basic
/-!
A request as the sequence of operations it makes.

A script either is done or asks for one operation of the store, or one search of the index, and goes
on with its answer. Running a script makes its operations one after another; several scripts can
also take turns, each operation being atomic.
-/

namespace Docket

inductive Script (α : Type) where
  | done (result : α)
  | get (id : DocumentId) (next : GetOutcome → Script α)
  | findExisting (ids : List DocumentId)
      (next : Except StoreError (List DocumentId) → Script α)
  | upsert (write : DocumentWrite) (next : UpsertOutcome → Script α)
  | update (write : DocumentWrite) (next : UpdateOutcome → Script α)
  | delete (id : DocumentId) (force : Bool) (next : DeleteOutcome → Script α)
  | query (resource : Resource) (filters : Filters) (window : Pagination)
      (next : QueryOutcome → Script α)
  | search (resource : Resource) (filters : Filters) (window : Pagination)
      (next : Except IndexError (List Document) → Script α)

namespace Script

variable {α β : Type}

def andThen (script : Script α) (rest : α → Script β) : Script β :=
  match script with
  | .done result => rest result
  | .get id next => .get id fun outcome => (next outcome).andThen rest
  | .findExisting ids next => .findExisting ids fun outcome => (next outcome).andThen rest
  | .upsert write next => .upsert write fun outcome => (next outcome).andThen rest
  | .update write next => .update write fun outcome => (next outcome).andThen rest
  | .delete id force next => .delete id force fun outcome => (next outcome).andThen rest
  | .query resource filters window next =>
      .query resource filters window fun outcome => (next outcome).andThen rest
  | .search resource filters window next =>
      .search resource filters window fun answer => (next answer).andThen rest

instance : Monad Script where
  pure := .done
  bind := andThen

variable {σ : Type} [DocumentStore σ]

/-- One operation, unless the script is done. Queries of the store may be answered from the index
    too. -/
def step (index : SearchIndex) (script : Script α) (store : σ) : Script α × σ :=
  match script with
  | .done result => (.done result, store)
  | .get id next =>
      let (outcome, store) := DocumentStore.get id store
      (next outcome, store)
  | .findExisting ids next =>
      let (outcome, store) := DocumentStore.findExisting ids store
      (next outcome, store)
  | .upsert write next =>
      let (outcome, store) := DocumentStore.upsert write store
      (next outcome, store)
  | .update write next =>
      let (outcome, store) := DocumentStore.update write store
      (next outcome, store)
  | .delete id force next =>
      let (outcome, store) := DocumentStore.delete id force store
      (next outcome, store)
  | .query resource filters window next =>
      let (outcome, store) := DocumentStore.query index resource filters window store
      (next outcome, store)
  | .search resource filters window next => (next (index.search resource filters window), store)

def run (index : SearchIndex) (script : Script α) (store : σ) : α × σ :=
  match script with
  | .done result => (result, store)
  | .get id next =>
      let (outcome, store) := DocumentStore.get id store
      (next outcome).run index store
  | .findExisting ids next =>
      let (outcome, store) := DocumentStore.findExisting ids store
      (next outcome).run index store
  | .upsert write next =>
      let (outcome, store) := DocumentStore.upsert write store
      (next outcome).run index store
  | .update write next =>
      let (outcome, store) := DocumentStore.update write store
      (next outcome).run index store
  | .delete id force next =>
      let (outcome, store) := DocumentStore.delete id force store
      (next outcome).run index store
  | .query resource filters window next =>
      let (outcome, store) := DocumentStore.query index resource filters window store
      (next outcome).run index store
  | .search resource filters window next =>
      (next (index.search resource filters window)).run index store

end Script

end Docket
