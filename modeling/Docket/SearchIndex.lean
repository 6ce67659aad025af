import Docket.Document
import Docket.Filter
import Docket.Text.LowerCase
/-!
The search index: the documents of each resource with posting lists for the scalars of their bodies.

Documents are kept under a name made from the coordinates of their resource. The name folds case and
points, so several resources may share one, and a search compares coordinates again. `owners` gives
the name under which each id is kept. Every change counts the version up; an index that is not
available answers and changes nothing.
-/

namespace Docket

inductive IndexError where
  | unavailable
  /-- The index takes no such document. -/
  | rejected (id : DocumentId) (reason : String)
  deriving DecidableEq

def IndexError.message : IndexError → String
  | .unavailable => "Search index unavailable"
  | .rejected id reason => "Document " ++ id.text ++ " rejected by search index: " ++ reason

def Resource.indexName (resource : Resource) : String :=
  let coordinates :=
    resource.projectName ++ "$" ++ resource.resourceVersion ++ "$" ++ resource.resourceName
  String.ofList ((Text.lowercase coordinates).toList.map fun c => if c = '.' then '-' else c)

/-- The documents kept under one name, and for each path and text the ids of those that have it. -/
structure ResourceIndex where
  documents : Table DocumentId Document
  postings : Table (String × String) IdSet

namespace ResourceIndex

def empty : ResourceIndex := ⟨Table.empty, Table.empty⟩

def post (postings : Table (String × String) IdSet) (id : DocumentId) (term : String × String) :
    Table (String × String) IdSet :=
  postings.insert term (((postings.get? term).getD Table.empty).insert id ())

/-- Takes an id from the list of a term; a list left empty goes. -/
def unpost (postings : Table (String × String) IdSet) (id : DocumentId)
    (term : String × String) : Table (String × String) IdSet :=
  match postings.get? term with
  | none => postings
  | some ids =>
      -- A term has a list only while some document has it.
      let rest := ids.erase id
      if rest.isEmpty then postings.erase term else postings.insert term rest

def take (index : ResourceIndex) (id : DocumentId) : ResourceIndex :=
  match index.documents.get? id with
  | none => index
  | some old =>
      ⟨index.documents.erase id,
       old.body.json.flatten.foldl (fun postings term => unpost postings id term) index.postings⟩

def put (index : ResourceIndex) (document : Document) : ResourceIndex :=
  -- The postings of the old version go before those of the new one come.
  let without := index.take document.id
  ⟨without.documents.insert document.id document,
   document.body.json.flatten.foldl (fun postings term => post postings document.id term)
     without.postings⟩

/-- The posting lists of some terms, if every term has one. -/
def lists? (index : ResourceIndex) : List (String × String) → Option (List IdSet)
  | [] => some []
  | term :: rest =>
      match index.postings.get? term, index.lists? rest with
      | some ids, some lists => some (ids :: lists)
      | _, _ => none

/-- A shortest of some lists, and the others. -/
def shortestFirst (first : IdSet) : List IdSet → IdSet × List IdSet
  | [] => (first, [])
  | next :: rest =>
      let (shortest, others) := shortestFirst next rest
      if first.size ≤ shortest.size then (first, shortest :: others)
      else (shortest, first :: others)

/-- The ids, in ascending order, of the documents that have every term of a list: those of a
    shortest posting list that are in the others too. -/
def matching (index : ResourceIndex) (terms : List (String × String)) : List DocumentId :=
  match terms with
  | [] => index.documents.keys
  | _ =>
      match index.lists? terms with
      | none => []
      | some [] => []
      | some (first :: rest) =>
          let (shortest, others) := shortestFirst first rest
          shortest.keys.filter fun id => others.all fun ids => ids.contains id

end ResourceIndex

structure SearchIndex where
  indices : Table String ResourceIndex
  owners : Table DocumentId String
  available : Bool
  version : Nat

namespace SearchIndex

def empty : SearchIndex := ⟨Table.empty, Table.empty, true, 0⟩

instance : Inhabited SearchIndex := ⟨empty⟩

def setAvailable (index : SearchIndex) (available : Bool) : SearchIndex :=
  { index with available := available }

def hasReached (index : SearchIndex) (version : Nat) : Bool := version ≤ index.version

def size (index : SearchIndex) : Nat := index.owners.size

def names (index : SearchIndex) : List String :=
  (index.indices.filter fun _ kept => !kept.documents.isEmpty).keys

def contains (index : SearchIndex) (id : DocumentId) : Bool := index.owners.contains id

def get? (index : SearchIndex) (id : DocumentId) : Option Document :=
  (index.owners.get? id).bind fun name =>
    (index.indices.get? name).bind fun kept => kept.documents.get? id

/-- The documents of a resource that have every path and text of the filters, in order of id. -/
def search (index : SearchIndex) (resource : Resource) (filters : Filters)
    (window : Pagination) : Except IndexError (List Document) :=
  if !index.available then .error .unavailable
  else
    match index.indices.get? resource.indexName with
    | none => .ok []
    | some kept =>
        let hits := (kept.matching filters.toList).filterMap fun id => kept.documents.get? id
        .ok (window.apply (hits.filter fun document => document.resource.sameCoordinates resource))

def removeEntry (index : SearchIndex) (id : DocumentId) : SearchIndex :=
  match index.owners.get? id with
  | none => index
  | some name =>
      let indices := match index.indices.get? name with
        | some kept => index.indices.insert name (kept.take id)
        | none => index.indices
      { index with owners := index.owners.erase id, indices := indices }

/-- Puts a document in, in place of the one with its id wherever that is kept. -/
def upsert (index : SearchIndex) (document : Document) : Except IndexError SearchIndex :=
  if !index.available then .error .unavailable
  else if !document.body.isObject then
    .error (.rejected document.id "body is not a JSON object")
  else
    -- A refused document changes nothing, so nothing is taken out before this point.
    let name := document.resource.indexName
    -- A document that changed its resource is kept under another name and leaves the old one.
    let cleared :=
      if (index.owners.get? document.id).any (· ≠ name) then index.removeEntry document.id
      else index
    let kept := (cleared.indices.get? name).getD ResourceIndex.empty
    .ok { cleared with
      indices := cleared.indices.insert name (kept.put document)
      owners := cleared.owners.insert document.id name
      version := cleared.version + 1 }

def remove (index : SearchIndex) (id : DocumentId) : Except IndexError SearchIndex :=
  if !index.available then .error .unavailable
  else if index.contains id then
    let without := index.removeEntry id
    .ok { without with version := without.version + 1 }
  else .ok index

def clear (index : SearchIndex) : Except IndexError SearchIndex :=
  if !index.available then .error .unavailable
  else .ok ⟨Table.empty, Table.empty, true, index.version + 1⟩

end SearchIndex

end Docket
