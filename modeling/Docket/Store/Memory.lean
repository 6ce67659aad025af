import Docket.Store.Basic
/-!
The store that keeps its documents in memory.

Three tables: the documents, the owner of every id that exists, and for every id that is referred to
the documents that refer to it. The last two are repaired with each write: references that the new
document no longer has are unlinked and its own linked, dropped aliases removed and its ids put in.
-/

namespace Docket

structure MemoryStore where
  documents : Table DocumentId Document
  /-- The document to which an id belongs, as its own id or an alias. -/
  existence : Table DocumentId DocumentId
  /-- The documents that refer to an id; no set is empty. -/
  inbound : Table DocumentId IdSet
  deriving DecidableEq

namespace MemoryStore

def empty : MemoryStore := ⟨Table.empty, Table.empty, Table.empty⟩

instance : Inhabited MemoryStore := ⟨empty⟩

/-- The first of some ids that belongs to another document. -/
def claimedElsewhere? (store : MemoryStore) (ids : List DocumentId) (owner : DocumentId) :
    Option WriteConflict :=
  ids.findSome? fun id =>
    match store.existence.get? id with
    | some other => if other = owner then none else some (.claimed id other)
    | none => none

def missing (store : MemoryStore) (ids : List DocumentId) : List DocumentId :=
  sortedIds (ids.filter fun id => !store.existence.contains id)

def parentsExcept (store : MemoryStore) (owner id : DocumentId) : List DocumentId :=
  match store.inbound.get? id with
  | some parents => parents.keys.filter fun parent => parent ≠ owner
  | none => []

def referencedAlias? (store : MemoryStore) (dropped : List DocumentId) (owner : DocumentId) :
    Option WriteConflict :=
  dropped.findSome? fun id =>
    match store.parentsExcept owner id with
    | [] => none
    | parents => some (.stillReferenced id parents)

def refusal? (store : MemoryStore) (write : DocumentWrite) (insertAllowed : Bool) :
    Option Refusal :=
  let new := write.document
  let old := store.documents.get? new.id
  -- Of several causes the first in this order is told: absence, a claim, a reference, an alias.
  if old.isNone && !insertAllowed then some .notExists
  else
    match store.claimedElsewhere? new.existenceIds new.id with
    | some cause => some (.conflict cause)
    | none =>
        match store.missing write.enforcedRefs with
        | [] =>
            match old.bind fun old => store.referencedAlias? (old.droppedAliases new) new.id with
            | some cause => some (.conflict cause)
            | none => none
        | ids => some (.missing ids)

def unlink (inbound : Table DocumentId IdSet) (parent id : DocumentId) :
    Table DocumentId IdSet :=
  match inbound.get? id with
  | none => inbound
  | some parents =>
      let rest := parents.erase parent
      if rest.isEmpty then inbound.erase id else inbound.insert id rest

def link (inbound : Table DocumentId IdSet) (parent id : DocumentId) : Table DocumentId IdSet :=
  inbound.insert id (((inbound.get? id).getD Table.empty).insert parent ())

def commit (store : MemoryStore) (new : Document) : MemoryStore :=
  let old := store.documents.get? new.id
  -- References that both versions hold stay linked.
  let staleRefs := match old with
    | some old => (old.outRefs.filter fun ref => !new.outRefs.contains ref).map OutboundRef.id
    | none => []
  let dropped := match old with
    | some old => old.droppedAliases new
    | none => []
  { documents := store.documents.insert new.id (new.keepingCreator old)
    existence :=
      new.existenceIds.foldl (fun table id => table.insert id new.id)
        (store.existence.eraseAll dropped)
    inbound :=
      new.outRefIds.foldl (fun table id => link table new.id id)
        (staleRefs.foldl (fun table id => unlink table new.id id) store.inbound) }

def write (store : MemoryStore) (write : DocumentWrite) (insertAllowed : Bool) :
    Applied × MemoryStore :=
  match store.refusal? write insertAllowed with
  | some cause => (.refused cause, store)
  | none =>
      let applied := if store.documents.contains write.document.id then Applied.updated
        else Applied.inserted
      (applied, store.commit write.document)

def referencing (store : MemoryStore) (document : Document) : List DocumentId :=
  sortedIds (document.existenceIds.flatMap fun id => store.parentsExcept document.id id)

def remove (store : MemoryStore) (id : DocumentId) (document : Document) : MemoryStore :=
  { documents := store.documents.erase id
    existence :=
      document.existenceIds.foldl (fun table key =>
        -- An alias may since belong to another document.
        if table.get? key = some id then table.erase key else table) store.existence
    inbound := document.outRefIds.foldl (fun table key => unlink table id key) store.inbound }

def get (store : MemoryStore) (id : DocumentId) : GetOutcome :=
  match store.documents.get? id with
  | some document => .success document
  | none => .notExists

def delete (store : MemoryStore) (id : DocumentId) (force : Bool) :
    DeleteOutcome × MemoryStore :=
  match store.documents.get? id with
  | none => (.notExists, store)
  | some document =>
      match store.referencing document with
      | [] => (.success document, store.remove id document)
      | ids => if force then (.success document, store.remove id document)
          else (.referenceConflict ids, store)

def query (store : MemoryStore) (resource : Resource) (filters : Filters) (window : Pagination) :
    QueryOutcome :=
  match filters.validate with
  | .error cause => .invalidQuery cause.message
  | .ok () =>
      .success (window.apply (store.documents.values.filter fun document =>
        document.resource.sameCoordinates resource && filters.accepts document.body.json))

def findExisting (store : MemoryStore) (ids : List DocumentId) : List DocumentId :=
  sortedIds (ids.filter store.existence.contains)

def scan (store : MemoryStore) (after : Option DocumentId) (limit : UInt64) : List Document :=
  (store.documents.filter fun id _ => after.all fun bound => Key.before bound id).values.take
    limit.toNat

/-- The ids whose entries a write reads or changes, besides those of the document itself. -/
def footprint (store : MemoryStore) (write : DocumentWrite) : List DocumentId :=
  let storedAliases := match store.documents.get? write.document.id with
    | some old => old.aliasIds
    | none => []
  write.document.existenceIds ++ storedAliases ++ write.document.outRefIds ++ write.enforcedRefs

instance : DocumentStore MemoryStore where
  name _ := "memory"
  upsert write store :=
    let (applied, after) := store.write write true
    (applied.upsertOutcome, after)
  update write store :=
    let (applied, after) := store.write write false
    (applied.updateOutcome, after)
  get id store := (store.get id, store)
  delete id force store := store.delete id force
  query _ resource filters window store := (store.query resource filters window, store)
  findExisting ids store := (.ok (store.findExisting ids), store)
  scan after limit store := (.ok (store.scan after limit), store)
  size store := store.documents.size

end MemoryStore

end Docket
