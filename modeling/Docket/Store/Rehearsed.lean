import Docket.Store.Basic
/-!
A store that can be made to give set answers, for rehearsing how a service takes failures.

While an answer is set for an operation the operation gives it and the store behind is not asked.
-/

namespace Docket

structure SetAnswer (α : Type) where
  answer : α
  callsLeft : Option Nat
  deriving DecidableEq

/-- An answer to be given by the next calls; there is none for no calls. -/
def SetAnswer.forCalls {α : Type} (answer : α) : Option Nat → Option (SetAnswer α)
  | some 0 => none
  | calls => some ⟨answer, calls⟩

def SetAnswer.next {α : Type} (set : SetAnswer α) : Option (SetAnswer α) :=
  match set.callsLeft with
  | none => some set
  | some calls => forCalls set.answer (some (calls - 1))

/-- An outcome by the name of its kind, to be set for any of the operations. Success cannot be set: a
    name that no other outcome of an operation has stands for a failure. -/
structure NamedOutcome where
  kind : String
  message : String
  ids : List DocumentId
  deriving DecidableEq

namespace NamedOutcome

def upsert (named : NamedOutcome) : UpsertOutcome :=
  match named.kind with
  | "ValidationFailure" => .validationFailure named.ids
  | "Conflict" => .conflict named.message
  | _ => .unknownFailure named.message

def update (named : NamedOutcome) : UpdateOutcome :=
  match named.kind with
  | "NotExists" => .notExists
  | "ValidationFailure" => .validationFailure named.ids
  | "Conflict" => .conflict named.message
  | _ => .unknownFailure named.message

def get (named : NamedOutcome) : GetOutcome :=
  if named.kind = "NotExists" then .notExists else .unknownFailure named.message

def delete (named : NamedOutcome) : DeleteOutcome :=
  match named.kind with
  | "NotExists" => .notExists
  | "ReferenceConflict" => .referenceConflict named.ids
  | _ => .unknownFailure named.message

def query (named : NamedOutcome) : QueryOutcome :=
  if named.kind = "InvalidQuery" then .invalidQuery named.message
  else .unknownFailure named.message

def failure (named : NamedOutcome) : StoreError :=
  match named.kind with
  | "Pool" => .pool named.message
  | "Serialization" => .serialization named.message
  | "Corruption" => .corruption named.message
  | "Core" => .core (.invalidDocumentId named.message)
  | _ => .engine named.message

end NamedOutcome

structure RehearsedStore (σ : Type) where
  store : σ
  /-- The ids of each look-up, the latest last. -/
  lookups : List (List DocumentId) := []
  upsertAnswer : Option (SetAnswer UpsertOutcome) := none
  updateAnswer : Option (SetAnswer UpdateOutcome) := none
  getAnswer : Option (SetAnswer GetOutcome) := none
  deleteAnswer : Option (SetAnswer DeleteOutcome) := none
  queryAnswer : Option (SetAnswer QueryOutcome) := none
  findExistingError : Option (SetAnswer StoreError) := none
  scanError : Option (SetAnswer StoreError) := none

namespace RehearsedStore

variable {σ : Type}

def forgetLookups (rehearsed : RehearsedStore σ) : RehearsedStore σ := { rehearsed with lookups := [] }

def pass {α : Type} (rehearsed : RehearsedStore σ) (operation : σ → α × σ) :
    α × RehearsedStore σ :=
  (operation rehearsed.store).map id fun store => { rehearsed with store := store }

instance [DocumentStore σ] : DocumentStore (RehearsedStore σ) where
  name rehearsed := DocumentStore.name rehearsed.store
  upsert write rehearsed :=
    match rehearsed.upsertAnswer with
    | some set => (set.answer, { rehearsed with upsertAnswer := set.next })
    | none => rehearsed.pass (DocumentStore.upsert write)
  update write rehearsed :=
    match rehearsed.updateAnswer with
    | some set => (set.answer, { rehearsed with updateAnswer := set.next })
    | none => rehearsed.pass (DocumentStore.update write)
  get key rehearsed :=
    match rehearsed.getAnswer with
    | some set => (set.answer, { rehearsed with getAnswer := set.next })
    | none => rehearsed.pass (DocumentStore.get key)
  delete key force rehearsed :=
    match rehearsed.deleteAnswer with
    | some set => (set.answer, { rehearsed with deleteAnswer := set.next })
    | none => rehearsed.pass (DocumentStore.delete key force)
  query index resource filters window rehearsed :=
    match rehearsed.queryAnswer with
    | some set => (set.answer, { rehearsed with queryAnswer := set.next })
    | none => rehearsed.pass (DocumentStore.query index resource filters window)
  findExisting ids rehearsed :=
    -- A look-up that is made to fail counts as one too.
    let rehearsed := { rehearsed with lookups := rehearsed.lookups ++ [ids] }
    match rehearsed.findExistingError with
    | some set => (.error set.answer, { rehearsed with findExistingError := set.next })
    | none => rehearsed.pass (DocumentStore.findExisting ids)
  scan after limit rehearsed :=
    match rehearsed.scanError with
    | some set => (.error set.answer, { rehearsed with scanError := set.next })
    | none => rehearsed.pass (DocumentStore.scan after limit)
  size rehearsed := DocumentStore.size rehearsed.store

end RehearsedStore

end Docket
