import Docket.Document
import Docket.Filter
/-!
The requests that clients make and the results they get.

Every request carries a trace id, by which its traces are told from those of others; it has no
bearing on the result.
-/

namespace Docket

structure UpsertRequest where
  /-- The id that the client expects the document to have. -/
  id : Option DocumentId
  resource : Resource
  identity : Identity
  body : Body
  references : List Reference
  /-- The resource and identity under which the document is also known. -/
  superclass : Option Reference
  security : Security
  traceId : String
  deriving DecidableEq, Inhabited

structure UpdateRequest where
  id : DocumentId
  resource : Resource
  identity : Identity
  body : Body
  references : List Reference
  superclass : Option Reference
  security : Security
  traceId : String
  deriving DecidableEq, Inhabited

structure GetRequest where
  id : DocumentId
  security : Security
  traceId : String
  deriving DecidableEq, Inhabited

structure QueryRequest where
  resource : Resource
  filters : Filters
  pagination : Pagination
  security : Security
  traceId : String
  deriving DecidableEq, Inhabited

structure DeleteRequest where
  id : DocumentId
  /-- Whether the document goes even though others refer to it. -/
  force : Bool
  security : Security
  traceId : String
  deriving DecidableEq, Inhabited

inductive UpsertStatus where
  | insertSuccess
  | updateSuccess
  | validationFailure
  | invalidIdentity
  | invalidBody
  | conflict
  | forbidden
  | unknownFailure
  deriving DecidableEq, Repr

inductive UpdateStatus where
  | updateSuccess
  | notExists
  | immutableIdentity
  | validationFailure
  | invalidIdentity
  | invalidBody
  | conflict
  | forbidden
  | unknownFailure
  deriving DecidableEq, Repr

inductive GetStatus where
  | getSuccess
  | getFailureNotExists
  | unknownFailure
  deriving DecidableEq, Repr

inductive QueryStatus where
  | querySuccess
  | queryFailureInvalidQuery
  | unknownFailure
  deriving DecidableEq, Repr

inductive DeleteStatus where
  | deleteSuccess
  | deleteFailureNotExists
  | deleteFailureReference
  | forbidden
  | unknownFailure
  deriving DecidableEq, Repr

structure UpsertResult where
  status : UpsertStatus
  id : Option DocumentId
  invalidRefs : List DocumentId
  failureMessage : Option String
  deriving DecidableEq

structure UpdateResult where
  status : UpdateStatus
  invalidRefs : List DocumentId
  failureMessage : Option String
  deriving DecidableEq

structure GetResult where
  status : GetStatus
  document : Option Document
  deriving DecidableEq

structure QueryResult where
  status : QueryStatus
  documents : List Document
  failureMessage : Option String
  deriving DecidableEq

structure DeleteResult where
  status : DeleteStatus
  referencingIds : List DocumentId
  failureMessage : Option String
  deriving DecidableEq

namespace UpsertResult

def success (status : UpsertStatus) (id : DocumentId) : UpsertResult := ⟨status, some id, [], none⟩

def failure (status : UpsertStatus) (id : Option DocumentId) (message : String) : UpsertResult :=
  ⟨status, id, [], some message⟩

def isSuccess (result : UpsertResult) : Bool :=
  result.status = .insertSuccess || result.status = .updateSuccess

end UpsertResult

def UpdateResult.failure (status : UpdateStatus) (message : String) : UpdateResult :=
  ⟨status, [], some message⟩

def QueryResult.failure (status : QueryStatus) (message : String) : QueryResult :=
  ⟨status, [], some message⟩

def DeleteResult.failure (status : DeleteStatus) (message : String) : DeleteResult :=
  ⟨status, [], some message⟩

def UpsertRequest.plain (resource : Resource) (identity : Identity) (body : Body)
    (security : Security) (traceId : String) : UpsertRequest :=
  ⟨none, resource, identity, body, [], none, security, traceId⟩

def UpsertRequest.withReference (request : UpsertRequest) (reference : Reference) :
    UpsertRequest :=
  { request with references := request.references ++ [reference] }

def UpdateRequest.plain (id : DocumentId) (resource : Resource) (identity : Identity) (body : Body)
    (security : Security) (traceId : String) : UpdateRequest :=
  ⟨id, resource, identity, body, [], none, security, traceId⟩

def UpdateRequest.withReference (request : UpdateRequest) (reference : Reference) :
    UpdateRequest :=
  { request with references := request.references ++ [reference] }

def QueryRequest.plain (resource : Resource) (security : Security) (traceId : String) :
    QueryRequest :=
  ⟨resource, Filters.empty, Pagination.all, security, traceId⟩

/-- A request to delete a document that no other refers to. -/
def DeleteRequest.plain (id : DocumentId) (security : Security) (traceId : String) :
    DeleteRequest :=
  ⟨id, false, security, traceId⟩

end Docket
