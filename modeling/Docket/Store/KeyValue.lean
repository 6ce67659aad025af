import Docket.Json.Printer
import Docket.Json.Reader
import Docket.Store.Basic
import Docket.Wire.Document
/-!
The store that keeps its documents as text in flat tables.

A document is stored as the text of its JSON form and read back each time it is needed, which fails
if it nests too deep. A reference is an entry under the text of the id referred to, a bar and the
text of the id that refers, so the documents that refer to an id are one range of keys. Queries are
answered from the search index while that is available.
-/

namespace Docket

structure KeyValueStore where
  documents : Table DocumentId String
  existence : Table DocumentId DocumentId
  /-- The text of the id that refers, under the key of the two ids. -/
  inbound : Table String String
  deriving DecidableEq

namespace KeyValueStore

def empty : KeyValueStore := ⟨Table.empty, Table.empty, Table.empty⟩

instance : Inhabited KeyValueStore := ⟨empty⟩

def encodeDocument (document : Document) : String := document.encode.text

def decodeDocument (text : String) : Except StoreError Document :=
  match Json.readStored text with
  | .error cause => .error (.serialization cause.message)
  | .ok json =>
      match Document.decode? json with
      | some document => .ok document
      | none => .error (.serialization "not a document")

def decodeAll : List String → Except StoreError (List Document)
  | [] => .ok []
  | text :: rest =>
      match decodeDocument text with
      | .error cause => .error cause
      | .ok document =>
          match decodeAll rest with
          | .error cause => .error cause
          | .ok documents => .ok (document :: documents)

def load (store : KeyValueStore) (id : DocumentId) : Except StoreError (Option Document) :=
  match store.documents.get? id with
  | none => .ok none
  | some text =>
      match decodeDocument text with
      | .ok document => .ok (some document)
      | .error cause => .error cause

def inboundKey (referenced parent : DocumentId) : String := referenced.text ++ "|" ++ parent.text

/-- The bounds of the keys of the references to an id, the upper one excluded; a tilde comes after
    every digit of an id. -/
def inboundRange (referenced : DocumentId) : String × String :=
  (referenced.text ++ "|", referenced.text ++ "|~")

def valuesBetween (table : Table String String) (bounds : String × String) : List String :=
  (table.filter fun key _ => !Key.before key bounds.1 && Key.before key bounds.2).values

def parentsOf (owner : DocumentId) : List String → Except StoreError (List DocumentId)
  | [] => .ok []
  | text :: rest =>
      match DocumentId.parse text with
      | .error cause => .error (.core cause)
      | .ok parent =>
          match parentsOf owner rest with
          | .error cause => .error cause
          | .ok parents => .ok (if parent = owner then parents else parent :: parents)

/-- The documents other than the owner that refer to one of some ids, in order, each once. -/
def inboundParents (inbound : Table String String) (ids : List DocumentId)
    (owner : DocumentId) : Except StoreError (List DocumentId) :=
  match parentsOf owner (ids.flatMap fun id => valuesBetween inbound (inboundRange id)) with
  | .ok parents => .ok (sortedIds parents)
  | .error cause => .error cause

def claimedElsewhere? (store : KeyValueStore) (ids : List DocumentId) (owner : DocumentId) :
    Option WriteConflict :=
  ids.findSome? fun id =>
    match store.existence.get? id with
    | some other => if other = owner then none else some (.claimed id other)
    | none => none

def missing (store : KeyValueStore) (ids : List DocumentId) : List DocumentId :=
  sortedIds (ids.filter fun id => !store.existence.contains id)

def referencedAlias? (store : KeyValueStore) (owner : DocumentId) :
    List DocumentId → Option Refusal
  | [] => none
  | id :: rest =>
      match inboundParents store.inbound [id] owner with
      | .error cause => some (.failed cause)
      | .ok [] => store.referencedAlias? owner rest
      | .ok parents => some (.conflict (.stillReferenced id parents))

def check (store : KeyValueStore) (write : DocumentWrite) (insertAllowed : Bool) :
    Except Refusal (Option Document) :=
  let new := write.document
  -- The stored version is read first, so a version that cannot be read stops every write.
  match store.load new.id with
  | .error cause => .error (.failed cause)
  | .ok old =>
      if old.isNone && !insertAllowed then .error .notExists
      else
        match store.claimedElsewhere? new.existenceIds new.id with
        | some cause => .error (.conflict cause)
        | none =>
            match store.missing write.enforcedRefs with
            | [] =>
                match store.referencedAlias? new.id
                    ((old.map fun old => old.droppedAliases new).getD []) with
                | some cause => .error cause
                | none => .ok old
            | ids => .error (.missing ids)

def dropReferences (inbound : Table String String) (document : Document) : Table String String :=
  inbound.eraseAll (document.outRefIds.map fun id => inboundKey id document.id)

def commit (store : KeyValueStore) (old : Option Document) (new : Document) : KeyValueStore :=
  let dropped := (old.map fun old => old.droppedAliases new).getD []
  -- All old references go and all new ones come, the same or not.
  let kept := match old with
    | some old => dropReferences store.inbound old
    | none => store.inbound
  { documents := store.documents.insert new.id (encodeDocument (new.keepingCreator old))
    existence :=
      new.existenceIds.foldl (fun table id => table.insert id new.id)
        (store.existence.eraseAll dropped)
    inbound :=
      new.outRefIds.foldl (fun table id => table.insert (inboundKey id new.id) new.id.text) kept }

def write (store : KeyValueStore) (write : DocumentWrite) (insertAllowed : Bool) :
    Applied × KeyValueStore :=
  match store.check write insertAllowed with
  | .error cause => (.refused cause, store)
  | .ok old =>
      (if old.isSome then .updated else .inserted, store.commit old write.document)

def get (store : KeyValueStore) (id : DocumentId) : GetOutcome :=
  match store.load id with
  | .ok (some document) => .success document
  | .ok none => .notExists
  | .error cause => .unknownFailure cause.message

def remove (store : KeyValueStore) (document : Document) : KeyValueStore :=
  { documents := store.documents.erase document.id
    existence :=
      document.existenceIds.foldl (fun table id =>
        if table.get? id = some document.id then table.erase id else table) store.existence
    inbound := dropReferences store.inbound document }

def delete (store : KeyValueStore) (id : DocumentId) (force : Bool) :
    DeleteOutcome × KeyValueStore :=
  match store.load id with
  | .error cause => (.unknownFailure cause.message, store)
  | .ok none => (.notExists, store)
  | .ok (some document) =>
      match inboundParents store.inbound document.existenceIds id with
      | .error cause => (.unknownFailure cause.message, store)
      | .ok [] => (.success document, store.remove document)
      | .ok ids => if force then (.success document, store.remove document)
          else (.referenceConflict ids, store)

def scanFiltered (store : KeyValueStore) (resource : Resource) (filters : Filters)
    (window : Pagination) : Except StoreError (List Document) :=
  match decodeAll store.documents.values with
  | .error cause => .error cause
  | .ok documents =>
      .ok (window.apply (documents.filter fun document =>
        document.resource.sameCoordinates resource && filters.accepts document.body.json))

def query (store : KeyValueStore) (index : SearchIndex) (resource : Resource) (filters : Filters)
    (window : Pagination) : QueryOutcome :=
  match filters.validate with
  | .error cause => .invalidQuery cause.message
  | .ok () =>
      match index.search resource filters window with
      | .ok documents => .success documents
      -- Only an index that is offline sends the query to the documents.
      | .error .unavailable =>
          match store.scanFiltered resource filters window with
          | .ok documents => .success documents
          | .error cause => .unknownFailure cause.message
      | .error cause => .unknownFailure cause.message

def findExisting (store : KeyValueStore) (ids : List DocumentId) : List DocumentId :=
  sortedIds (ids.filter store.existence.contains)

def scan (store : KeyValueStore) (after : Option DocumentId) (limit : UInt64) :
    Except StoreError (List Document) :=
  decodeAll ((store.documents.filter fun id _ =>
    after.all fun bound => Key.before bound id).values.take limit.toNat)

instance : DocumentStore KeyValueStore where
  name _ := "redb"
  upsert write store :=
    let (applied, after) := store.write write true
    (applied.upsertOutcome, after)
  update write store :=
    let (applied, after) := store.write write false
    (applied.updateOutcome, after)
  get id store := (store.get id, store)
  delete id force store := store.delete id force
  query index resource filters window store := (store.query index resource filters window, store)
  findExisting ids store := (.ok (store.findExisting ids), store)
  scan after limit store := (store.scan after limit, store)
  size store := store.documents.size

end KeyValueStore

end Docket
