import Docket.Sql.Expr
import Docket.Store.Basic
import Docket.Wire.Document
/-!
The store that keeps its documents in the tables of a relational database.

A document is a row with the stored text of its body; its references are rows of their own, one for
each id it refers to, and come back in order of that id. A write that would list one existence id
twice breaks the uniqueness of that column and changes nothing. A search is a statement with two
sides: the query text with its parameters (`SearchStatement.query`), and the rows that it answers
(`SearchStatement.run`).

A statement is taken to have room for any number of parameters. A database with room for 32766
refuses a write of more than 32765 existence ids and changes nothing; that is left out.
-/

namespace Docket

structure DocumentRow where
  identity : Identity
  resource : Resource
  validated : Bool
  createdBy : Option String
  aliasIds : List DocumentId
  bodyText : String
  deriving DecidableEq

structure RelationalStore where
  documents : Table DocumentId DocumentRow
  existence : Table DocumentId DocumentId
  /-- Whether the reference of a document to an id is to a descriptor. -/
  references : Table (DocumentId × DocumentId) Bool
  deriving DecidableEq

/-- An unsigned number of 64 bits read as a signed one. -/
def signed64 (n : UInt64) : Int := if n.toNat < 2 ^ 63 then n.toNat else (n.toNat : Int) - 2 ^ 64

structure SearchStatement where
  projectName : String
  resourceName : String
  resourceVersion : String
  conditions : List Sql.Expr
  /-- The most rows answered; there is no bound when it is negative. -/
  limit : Int
  /-- The rows left out before the first; none when it is negative. -/
  offset : Int

namespace SearchStatement

def ofFilters (resource : Resource) (filters : Filters) (window : Pagination) : SearchStatement :=
  { projectName := resource.projectName
    resourceName := resource.resourceName
    resourceVersion := resource.resourceVersion
    conditions := filters.toList.map fun (path, value) =>
      Sql.Expr.bodyScalarEq ("$." ++ path) value
    limit := match window.limit with
      | some limit => signed64 limit
      | none => -1
    offset := signed64 window.offset }

def selectDocument : String :=
  "SELECT document_id, document_identity, project_name, resource_name, "
    ++ "resource_version, is_descriptor, validated, created_by, alias_ids, edfi_doc "
    ++ "FROM documents"

def pushConditions (query : Sql.Query) : List Sql.Expr → Sql.Query
  | [] => query
  | condition :: rest => pushConditions (condition.write (query.push " AND ")) rest

def query (statement : SearchStatement) : Sql.Query :=
  let named := (((((Sql.Query.start selectDocument).push " WHERE project_name = ").bind
    (.text statement.projectName)).push " AND resource_name = ").bind
    (.text statement.resourceName)).push " AND resource_version = "
  let conditioned :=
    pushConditions (named.bind (.text statement.resourceVersion)) statement.conditions
  (((conditioned.push " ORDER BY document_id LIMIT ").bind (.integer statement.limit)).push
    " OFFSET ").bind (.integer statement.offset)

/-- How high the condition of the statement is: three comparisons with columns, then the conditions,
    each joined to all before it. -/
def height (statement : SearchStatement) : Nat :=
  statement.conditions.foldl (fun height condition => max height condition.height + 1) 4

/-- Whether every condition holds of a stored text; the first that does not ends the test. -/
def conditionsHold (stored : String) : List Sql.Expr → Except Sql.EvalError Bool
  | [] => .ok true
  | condition :: rest =>
      match condition.eval stored with
      | .error cause => .error cause
      | .ok value => if Sql.Expr.isTrue value then conditionsHold stored rest else .ok false

def accepts (statement : SearchStatement) (row : DocumentRow) : Except Sql.EvalError Bool :=
  if row.resource.projectName = statement.projectName
      && row.resource.resourceName = statement.resourceName
      && row.resource.resourceVersion = statement.resourceVersion then
    conditionsHold row.bodyText statement.conditions
  else .ok false

/-- The accepted rows of a list after the first `skip`, at most `left` of them. No row is looked at
    once there are enough. -/
def collect (statement : SearchStatement) (skip : Nat) (left : Option Nat) :
    List (DocumentId × DocumentRow) → Except Sql.EvalError (List (DocumentId × DocumentRow))
  | [] => .ok []
  | row :: rest =>
      -- A condition that cannot be evaluated does no harm behind the last row asked for.
      if left = some 0 then .ok []
      else
        match statement.accepts row.2 with
        | .error cause => .error cause
        | .ok false => statement.collect skip left rest
        | .ok true =>
            match skip with
            | skip + 1 => statement.collect skip left rest
            | 0 =>
                match statement.collect 0 (left.map (· - 1)) rest with
                | .ok rows => .ok (row :: rows)
                | .error cause => .error cause

def run (statement : SearchStatement) (rows : List (DocumentId × DocumentRow)) :
    Except Sql.EvalError (List (DocumentId × DocumentRow)) :=
  -- The whole condition is measured before any row is looked at.
  if Sql.greatestHeight < statement.height then .error .tooHigh
  else
    statement.collect statement.offset.toNat
      (if statement.limit < 0 then none else some statement.limit.toNat) rows

end SearchStatement

namespace RelationalStore

def empty : RelationalStore := ⟨Table.empty, Table.empty, Table.empty⟩

instance : Inhabited RelationalStore := ⟨empty⟩

def encodeBody (body : Body) : String := body.json.text

def decodeBody (text : String) : Except StoreError Body :=
  match Json.readStored text with
  | .error cause => .error (.serialization cause.message)
  | .ok json =>
      match Body.ofJson? json with
      | some body => .ok body
      | none => .error (.serialization "not a body")

def outRefsOf (store : RelationalStore) (id : DocumentId) : List OutboundRef :=
  (store.references.filter fun key _ => key.1 = id).toList.map fun (key, isDescriptor) =>
    ⟨key.2, isDescriptor⟩

def decodeRow (store : RelationalStore) (id : DocumentId) (row : DocumentRow) :
    Except StoreError Document :=
  match decodeBody row.bodyText with
  | .error cause => .error cause
  | .ok body =>
      .ok { id := id, resource := row.resource, identity := row.identity, body := body,
            outRefs := store.outRefsOf id, aliasIds := row.aliasIds, validated := row.validated,
            createdBy := row.createdBy }

def decodeRows (store : RelationalStore) :
    List (DocumentId × DocumentRow) → Except StoreError (List Document)
  | [] => .ok []
  | (id, row) :: rest =>
      match store.decodeRow id row with
      | .error cause => .error cause
      | .ok document =>
          match store.decodeRows rest with
          | .error cause => .error cause
          | .ok documents => .ok (document :: documents)

def load (store : RelationalStore) (id : DocumentId) : Except StoreError (Option Document) :=
  match store.documents.get? id with
  | none => .ok none
  | some row =>
      match store.decodeRow id row with
      | .ok document => .ok (some document)
      | .error cause => .error cause

/-- The least of some ids that belongs to another document. -/
def claimedElsewhere? (store : RelationalStore) (ids : List DocumentId) (owner : DocumentId) :
    Option WriteConflict :=
  (store.existence.toList.find? fun (id, other) => ids.contains id && other ≠ owner).map
    fun (id, other) => .claimed id other

def chunkSize : Nat := 500

def chunks (ids : List DocumentId) : List (List DocumentId) :=
  (List.range ((ids.length + chunkSize - 1) / chunkSize)).map fun place =>
    (ids.drop (place * chunkSize)).take chunkSize

/-- The ids that exist among those that one statement names. A row is found once, however often
    its id is named. -/
def existingAmong (store : RelationalStore) (chunk : List DocumentId) : List DocumentId :=
  (store.existence.filter fun id _ => chunk.contains id).keys

def existing (store : RelationalStore) (ids : List DocumentId) : List DocumentId :=
  -- Two chunks may name one id.
  sortedIds ((chunks ids).flatMap store.existingAmong)

def missing (store : RelationalStore) (ids : List DocumentId) : List DocumentId :=
  -- The ids are asked for in order and each once.
  let enforced := sortedIds ids
  let found := store.existing enforced
  enforced.filter fun id => !found.contains id

def referencing (store : RelationalStore) (ids : List DocumentId) (owner : DocumentId) :
    List DocumentId :=
  sortedIds ((store.references.filter fun key _ =>
    ids.contains key.2 && key.1 ≠ owner).keys.map Prod.fst)

def referencedAlias? (store : RelationalStore) (dropped : List DocumentId) (owner : DocumentId) :
    Option WriteConflict :=
  dropped.findSome? fun id =>
    match store.referencing [id] owner with
    | [] => none
    | parents => some (.stillReferenced id parents)

def check (store : RelationalStore) (write : DocumentWrite) (insertAllowed : Bool) :
    Except Refusal (Option Document) :=
  let new := write.document
  match store.load new.id with
  | .error cause => .error (.failed cause)
  | .ok old =>
      if old.isNone && !insertAllowed then .error .notExists
      else
        match store.claimedElsewhere? new.existenceIds new.id with
        | some cause => .error (.conflict cause)
        | none =>
            match store.missing write.enforcedRefs with
            | [] =>
                match old.bind fun old =>
                    store.referencedAlias? (old.droppedAliases new) new.id with
                | some cause => .error (.conflict cause)
                | none => .ok old
            | ids => .error (.missing ids)

/-- Lists ids as those of a document; no id may be listed twice. -/
def insertExistence (existence : Table DocumentId DocumentId) (owner : DocumentId) :
    List DocumentId → Option (Table DocumentId DocumentId)
  | [] => some existence
  | id :: rest =>
      if existence.contains id then none
      else insertExistence (existence.insert id owner) owner rest

/-- Adds the references of a document; of two to one id the first counts. -/
def insertReferences (references : Table (DocumentId × DocumentId) Bool) (parent : DocumentId)
    (refs : List OutboundRef) : Table (DocumentId × DocumentId) Bool :=
  refs.foldl (fun table ref =>
    -- A row that is there already is left as it is.
    if table.contains (parent, ref.id) then table
    else table.insert (parent, ref.id) ref.isDescriptor) references

def uniqueViolation : StoreError :=
  .engine "UNIQUE constraint failed: existence.existence_id"

/-- The store with a document in place of an old one, unless an existence id is listed twice. -/
def commit? (store : RelationalStore) (old : Option Document) (new : Document) :
    Option RelationalStore :=
  -- The rows of the old version go first, those that come back included.
  let existence :=
    if old.isSome then store.existence.filter fun _ owner => owner ≠ new.id else store.existence
  let references :=
    if old.isSome then store.references.filter fun key _ => key.1 ≠ new.id else store.references
  let row : DocumentRow :=
    { identity := new.identity, resource := new.resource, validated := new.validated,
      createdBy := (new.keepingCreator old).createdBy, aliasIds := new.aliasIds,
      bodyText := encodeBody new.body }
  (insertExistence existence new.id new.existenceIds).map fun existence =>
    { documents := store.documents.insert new.id row
      existence := existence
      references := insertReferences references new.id new.outRefs }

def write (store : RelationalStore) (write : DocumentWrite) (insertAllowed : Bool) :
    Applied × RelationalStore :=
  match store.check write insertAllowed with
  | .error cause => (.refused cause, store)
  | .ok old =>
      match store.commit? old write.document with
      | some after => (if old.isSome then .updated else .inserted, after)
      | none => (.refused (.failed uniqueViolation), store)

def get (store : RelationalStore) (id : DocumentId) : GetOutcome :=
  match store.load id with
  | .ok (some document) => .success document
  | .ok none => .notExists
  | .error cause => .unknownFailure cause.message

def remove (store : RelationalStore) (id : DocumentId) : RelationalStore :=
  { documents := store.documents.erase id
    existence := store.existence.filter fun _ owner => owner ≠ id
    references := store.references.filter fun key _ => key.1 ≠ id }

def delete (store : RelationalStore) (id : DocumentId) (force : Bool) :
    DeleteOutcome × RelationalStore :=
  match store.load id with
  | .error cause => (.unknownFailure cause.message, store)
  | .ok none => (.notExists, store)
  | .ok (some document) =>
      match store.referencing document.existenceIds id with
      | [] => (.success document, store.remove id)
      | ids => if force then (.success document, store.remove id)
          else (.referenceConflict ids, store)

def query (store : RelationalStore) (resource : Resource) (filters : Filters)
    (window : Pagination) : QueryOutcome :=
  match filters.validate with
  | .error cause => .invalidQuery cause.message
  | .ok () =>
      match (SearchStatement.ofFilters resource filters window).run store.documents.toList with
      | .error cause => .unknownFailure (StoreError.engine cause.message).message
      | .ok rows =>
          match store.decodeRows rows with
          | .ok documents => .success documents
          | .error cause => .unknownFailure cause.message

def scan (store : RelationalStore) (after : Option DocumentId) (limit : UInt64) :
    Except StoreError (List Document) :=
  let rows := (store.documents.filter fun id _ =>
    after.all fun bound => Key.before bound id).toList
  store.decodeRows
    (if signed64 limit < 0 then rows else rows.take (signed64 limit).toNat)

instance : DocumentStore RelationalStore where
  name _ := "sqlite"
  upsert write store :=
    let (applied, after) := store.write write true
    (applied.upsertOutcome, after)
  update write store :=
    let (applied, after) := store.write write false
    (applied.updateOutcome, after)
  get id store := (store.get id, store)
  delete id force store := store.delete id force
  query _ resource filters window store := (store.query resource filters window, store)
  findExisting ids store := (.ok (store.existing ids), store)
  scan after limit store := (store.scan after limit, store)
  size store := store.documents.size

end RelationalStore

end Docket
