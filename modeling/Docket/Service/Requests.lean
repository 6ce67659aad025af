import Docket.Message
import Docket.Validation
/-!
Requests as scripts of store operations.

A script answers the result that the client gets and the commit that the request made, if any. The
detail of a failure of the store does not reach the client.
-/

namespace Docket

inductive Commit where
  | nothing
  | inserted (document : Document)
  | replaced (document : Document)
  | deleted (document : Document)
  deriving DecidableEq

/-- What a request needs to know of the service besides the store. -/
structure RequestContext where
  validation : ValidationSettings
  source : QuerySource
  cache : ExistenceCache

namespace Request

/-- All that a client is told of a failure of the store. -/
def unknownFailureMessage : String := "Unexpected storage failure"

def bodyNotObjectMessage : String := "document body must be a JSON object"

def otherClientMessage : String := "document belongs to another client"

def unresolvedMessage (ids : List DocumentId) : String :=
  toString ids.length ++ " reference(s) do not resolve"

/-- The alias that a superclass gives a document: its id, unless that is the document's own. -/
def aliasIds (id : DocumentId) : Option Reference → Except Error (List DocumentId)
  | none => .ok []
  | some superclass =>
      match superclass.id with
      | .error cause => .error cause
      | .ok other => .ok (if other = id then [] else [other])

def document (resource : Resource) (identity : Identity) (body : Body)
    (references : List Reference) (superclass : Option Reference) (security : Security) :
    Except Error Document :=
  match Derivation.checkedId resource identity with
  | .error cause => .error cause
  | .ok id =>
      match Reference.resolveAll references with
      | .error cause => .error cause
      | .ok refs =>
          match aliasIds id superclass with
          | .error cause => .error cause
          | .ok aliasIds =>
              .ok
                { id := id, resource := resource, identity := identity, body := body,
                  outRefs := OutboundRef.normalize refs, aliasIds := aliasIds,
                  validated := false, createdBy := some security.clientId }

/-- What was found when the store was asked whose a document is. -/
inductive Ownership where
  | permitted (stored : Option Document)
  | denied
  | failed

/-- Whether a client may touch the document of an id. The store is asked only for clients that are
    held to their own documents. -/
def checkOwnership (id : DocumentId) (security : Security) : Script Ownership :=
  match security.strategy with
  | .fullAccess => .done (.permitted none)
  | .ownershipBased => .get id fun
      | .success stored => .done (if security.permits stored then .permitted (some stored) else .denied)
      | .notExists => .done (.permitted none)
      | .unknownFailure _ => .done .failed

/-- What the check of its references makes of a document. -/
inductive CheckedWrite where
  | ready (write : DocumentWrite)
  | unresolved (ids : List DocumentId)
  | failed

/-- Checks the references of a document, if that is asked for, and marks it by the outcome. -/
def checkReferences (context : RequestContext) (document : Document) : Script CheckedWrite :=
  if context.validation.validateReferences then
    (validateReferences context.validation.descriptorPolicy context.cache document).andThen fun
      | .error _ => .done .failed
      | .ok result =>
          .done
            (if result.isValid then
              .ready ⟨{ document with validated := result.fullyChecked }, result.enforced⟩
            else .unresolved result.invalidRefs)
  else .done (.ready ⟨{ document with validated := false }, []⟩)

def unresolvedUpsert (id : DocumentId) (ids : List DocumentId) : UpsertResult × Commit :=
  (⟨.validationFailure, some id, ids, some (unresolvedMessage ids)⟩, .nothing)

def unresolvedUpdate (ids : List DocumentId) : UpdateResult × Commit :=
  (⟨.validationFailure, ids, some (unresolvedMessage ids)⟩, .nothing)

def upsertAnswer (document : Document) (outcome : UpsertOutcome) : UpsertResult × Commit :=
  let id := document.id
  match outcome with
  | .insertSuccess => (.success .insertSuccess id, .inserted document)
  | .updateSuccess => (.success .updateSuccess id, .replaced document)
  | .validationFailure ids => unresolvedUpsert id ids
  | .conflict message => (.failure .conflict (some id) message, .nothing)
  | .unknownFailure _ => (.failure .unknownFailure (some id) unknownFailureMessage, .nothing)

def updateAnswer (document : Document) (outcome : UpdateOutcome) : UpdateResult × Commit :=
  match outcome with
  | .success => (⟨.updateSuccess, [], none⟩, .replaced document)
  | .notExists => (⟨.notExists, [], none⟩, .nothing)
  | .validationFailure ids => unresolvedUpdate ids
  | .conflict message => (.failure .conflict message, .nothing)
  | .unknownFailure _ => (.failure .unknownFailure unknownFailureMessage, .nothing)

def deleteAnswer (id : DocumentId) (outcome : DeleteOutcome) : DeleteResult × Commit :=
  match outcome with
  | .success document => (⟨.deleteSuccess, [], none⟩, .deleted document)
  | .notExists => (⟨.deleteFailureNotExists, [], none⟩, .nothing)
  | .referenceConflict ids =>
      (⟨.deleteFailureReference, ids,
        some ("document " ++ id.text ++ " is referenced by " ++ toString ids.length
          ++ " other document(s)")⟩, .nothing)
  | .unknownFailure _ => (.failure .unknownFailure unknownFailureMessage, .nothing)

/-- Checks the references of a document and writes it, in place of one with its id if there is
    one. -/
def upsertChecked (context : RequestContext) (document : Document) :
    Script (UpsertResult × Commit) :=
  (checkReferences context document).andThen fun
    | .failed =>
        .done (.failure .unknownFailure (some document.id) unknownFailureMessage, .nothing)
    | .unresolved ids => .done (unresolvedUpsert document.id ids)
    | .ready write => .upsert write fun outcome => .done (upsertAnswer write.document outcome)

/-- Checks the references of a document and writes it in place of the one with its id. -/
def updateChecked (context : RequestContext) (document : Document) :
    Script (UpdateResult × Commit) :=
  (checkReferences context document).andThen fun
    | .failed => .done (.failure .unknownFailure unknownFailureMessage, .nothing)
    | .unresolved ids => .done (unresolvedUpdate ids)
    | .ready write => .update write fun outcome => .done (updateAnswer write.document outcome)

end Request

open Request

namespace UpsertRequest

def document (request : UpsertRequest) : Except Error Document :=
  Request.document request.resource request.identity request.body request.references
    request.superclass request.security

def script (context : RequestContext) (request : UpsertRequest) :
    Script (UpsertResult × Commit) :=
  let refuse (status : UpsertStatus) (id : Option DocumentId) (message : String) :
      UpsertResult × Commit := (.failure status id message, .nothing)
  -- The order of the checks decides of which fault the client is told.
  if !request.body.isObject then .done (refuse .invalidBody none bodyNotObjectMessage)
  else
    match request.document with
    | .error cause => .done (refuse .invalidIdentity none cause.message)
    | .ok document =>
        let id := document.id
        match request.id.filter (· ≠ id) with
        | some expected =>
            .done (refuse .conflict (some id)
              ("request id " ++ expected.text ++ " does not match derived id " ++ id.text))
        | none =>
            (checkOwnership id request.security).andThen fun
              | .denied => .done (refuse .forbidden (some id) otherClientMessage)
              | .failed => .done (refuse .unknownFailure (some id) unknownFailureMessage)
              | .permitted _ => upsertChecked context document

end UpsertRequest

namespace UpdateRequest

def document (request : UpdateRequest) : Except Error Document :=
  Request.document request.resource request.identity request.body request.references
    request.superclass request.security

/-- Replaces a document. The new one must have the identity of the old. -/
def script (context : RequestContext) (request : UpdateRequest) :
    Script (UpdateResult × Commit) :=
  let refuse (status : UpdateStatus) (message : String) : UpdateResult × Commit :=
    (.failure status message, .nothing)
  if !request.body.isObject then .done (refuse .invalidBody bodyNotObjectMessage)
  else
    match request.document with
    | .error cause => .done (refuse .invalidIdentity cause.message)
    | .ok document =>
        -- An identity cannot change: it gives another id.
        if document.id ≠ request.id then
          .done (refuse .immutableIdentity
            ("identity change would move document " ++ request.id.text ++ " to "
              ++ document.id.text))
        else
          .get request.id fun
            | .notExists => .done (⟨.notExists, [], none⟩, .nothing)
            | .unknownFailure _ => .done (refuse .unknownFailure unknownFailureMessage)
            | .success stored =>
                if !request.security.permits stored then
                  .done (refuse .forbidden otherClientMessage)
                else updateChecked context document

end UpdateRequest

def GetRequest.script (request : GetRequest) : Script (GetResult × Commit) :=
  .get request.id fun
    | .success document =>
        .done
          (if request.security.permits document then ⟨.getSuccess, some document⟩
          else ⟨.getFailureNotExists, none⟩, .nothing)
    | .notExists => .done (⟨.getFailureNotExists, none⟩, .nothing)
    | .unknownFailure _ => .done (⟨.unknownFailure, none⟩, .nothing)

/-- Finds the documents of a resource that pass every filter. For a client that is held to its own
    documents the window is laid over those alone. -/
def QueryRequest.script (context : RequestContext) (request : QueryRequest) :
    Script (QueryResult × Commit) :=
  let refuse (status : QueryStatus) (message : String) : QueryResult × Commit :=
    (.failure status message, .nothing)
  let ownOnly : Bool := request.security.strategy = .ownershipBased
  -- The documents of other clients must not take up places in the window.
  let window := if ownOnly then Pagination.all else request.pagination
  let answer (documents : List Document) : QueryResult × Commit :=
    (⟨.querySuccess,
      if ownOnly then request.pagination.apply (documents.filter request.security.permits)
      else documents, none⟩, .nothing)
  match request.filters.validate with
  | .error cause => .done (refuse .queryFailureInvalidQuery cause.message)
  | .ok () =>
      match context.source with
      | .primary => .query request.resource request.filters window fun
          | .success documents => .done (answer documents)
          | .invalidQuery message => .done (refuse .queryFailureInvalidQuery message)
          | .unknownFailure _ => .done (refuse .unknownFailure unknownFailureMessage)
      | .searchIndex => .search request.resource request.filters window fun
          | .ok documents => .done (answer documents)
          | .error _ => .done (refuse .unknownFailure unknownFailureMessage)

def DeleteRequest.script (request : DeleteRequest) : Script (DeleteResult × Commit) :=
  let refuse (status : DeleteStatus) (message : String) : DeleteResult × Commit :=
    (.failure status message, .nothing)
  let ownOnly : Bool := request.security.strategy = .ownershipBased
  (checkOwnership request.id request.security).andThen fun
    | .denied => .done (refuse .forbidden otherClientMessage)
    | .failed => .done (refuse .unknownFailure unknownFailureMessage)
    | .permitted stored =>
        -- For such a client the check has shown already that there is no document.
        if stored.isNone && ownOnly then .done (⟨.deleteFailureNotExists, [], none⟩, .nothing)
        else
          .delete request.id request.force fun outcome =>
            .done (deleteAnswer request.id outcome)

end Docket
