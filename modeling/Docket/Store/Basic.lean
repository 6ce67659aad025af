import Docket.Document
import Docket.Filter
import Docket.SearchIndex
/-!
What a document store does, whatever engine is behind it.

A store keeps documents, the ids under which they exist, and the references between them. Every
operation answers an outcome and the store afterwards. `DocumentStore` names the operations;
`Refusal` lists the causes for which an engine leaves a write undone.
-/

namespace Docket

/-- A document to be written, and the ids that must exist for the write to happen. -/
structure DocumentWrite where
  document : Document
  enforcedRefs : List DocumentId
  deriving DecidableEq, Inhabited

/-- The write of a document all of whose references must exist. -/
def DocumentWrite.enforcingAll (document : Document) : DocumentWrite :=
  ⟨document, document.outRefIds⟩

inductive StoreError where
  | engine (detail : String)
  | pool (detail : String)
  | serialization (detail : String)
  | corruption (detail : String)
  | core (cause : Error)
  deriving DecidableEq, Repr

def StoreError.message : StoreError → String
  | .engine detail => "Storage engine error: " ++ detail
  | .pool detail => "Connection pool error: " ++ detail
  | .serialization detail => "Serialization error: " ++ detail
  | .corruption detail => "Corruption: " ++ detail
  | .core cause => cause.message

inductive UpsertOutcome where
  | insertSuccess
  | updateSuccess
  | validationFailure (missing : List DocumentId)
  | conflict (message : String)
  | unknownFailure (message : String)
  deriving DecidableEq

inductive UpdateOutcome where
  | success
  | notExists
  | validationFailure (missing : List DocumentId)
  | conflict (message : String)
  | unknownFailure (message : String)
  deriving DecidableEq

inductive GetOutcome where
  | success (document : Document)
  | notExists
  | unknownFailure (message : String)
  deriving DecidableEq

inductive DeleteOutcome where
  | success (document : Document)
  | notExists
  | referenceConflict (referencing : List DocumentId)
  | unknownFailure (message : String)
  deriving DecidableEq

inductive QueryOutcome where
  | success (documents : List Document)
  | invalidQuery (message : String)
  | unknownFailure (message : String)
  deriving DecidableEq

/-- A store: its operations, each with the store afterwards. A query may be answered from the search
    index that is kept beside the store. -/
class DocumentStore (σ : Type) where
  name : σ → String
  upsert : DocumentWrite → σ → UpsertOutcome × σ
  update : DocumentWrite → σ → UpdateOutcome × σ
  get : DocumentId → σ → GetOutcome × σ
  delete : DocumentId → Bool → σ → DeleteOutcome × σ
  query : SearchIndex → Resource → Filters → Pagination → σ → QueryOutcome × σ
  /-- Those of some ids that exist, in ascending order, each once. -/
  findExisting : List DocumentId → σ → Except StoreError (List DocumentId) × σ
  /-- The first documents in order of id, or the first after an id. -/
  scan : Option DocumentId → UInt64 → σ → Except StoreError (List Document) × σ
  size : σ → Nat

/-- Two documents cannot claim one id, and an alias that others refer to cannot be dropped. -/
inductive WriteConflict where
  | claimed (existenceId owner : DocumentId)
  | stillReferenced (dropped : DocumentId) (parents : List DocumentId)
  deriving DecidableEq

def WriteConflict.message : WriteConflict → String
  | .claimed existenceId owner =>
      "identity " ++ existenceId.text ++ " is already claimed by document " ++ owner.text
  | .stillReferenced dropped parents =>
      "identity " ++ dropped.text ++ " is still referenced by documents "
        ++ String.intercalate ", " (parents.map DocumentId.text)

inductive Refusal where
  | notExists
  | missing (ids : List DocumentId)
  | conflict (cause : WriteConflict)
  | failed (cause : StoreError)
  deriving DecidableEq

inductive Applied where
  | inserted
  | updated
  | refused (cause : Refusal)
  deriving DecidableEq

namespace Applied

def upsertOutcome : Applied → UpsertOutcome
  | .inserted => .insertSuccess
  | .updated => .updateSuccess
  | .refused (.missing ids) => .validationFailure ids
  | .refused (.conflict cause) => .conflict cause.message
  | .refused .notExists => .unknownFailure "insert unexpectedly refused"
  | .refused (.failed cause) => .unknownFailure cause.message

def updateOutcome : Applied → UpdateOutcome
  | .updated => .success
  | .inserted => .unknownFailure "update unexpectedly inserted"
  | .refused .notExists => .notExists
  | .refused (.missing ids) => .validationFailure ids
  | .refused (.conflict cause) => .conflict cause.message
  | .refused (.failed cause) => .unknownFailure cause.message

end Applied

namespace Document

def droppedAliases (old new : Document) : List DocumentId :=
  old.aliasIds.filter fun id => !new.aliasIds.contains id

/-- A document as it replaces an old one: the creator of the old one stays. -/
def keepingCreator (new : Document) (old : Option Document) : Document :=
  match old.bind Document.createdBy with
  | some creator => { new with createdBy := some creator }
  | none => new

end Document

end Docket
