import Docket.Proofs.Wire.Document
import Docket.Wire.Message
/-!
What is encoded is decoded again.

Requests and results are made of documents' parts, and each field of theirs comes back by itself, so
the whole does (`WireType.arrives`). This holds of the encoded value as it is and of its text, as
long as the bodies in it are read back; a reader that rounds reals to the nearest reads back every
body. A request that came without a trace id is encoded with the one it was given.
-/

namespace Docket

open Wire

theorem UpsertStatus.lookup_nameOf (status : UpsertStatus) :
    Entries.lookup (nameOf choices status) choices = some status := by
  cases status <;> rfl

theorem UpdateStatus.lookup_nameOf (status : UpdateStatus) :
    Entries.lookup (nameOf choices status) choices = some status := by
  cases status <;> rfl

theorem GetStatus.lookup_nameOf (status : GetStatus) :
    Entries.lookup (nameOf choices status) choices = some status := by
  cases status <;> rfl

theorem QueryStatus.lookup_nameOf (status : QueryStatus) :
    Entries.lookup (nameOf choices status) choices = some status := by
  cases status <;> rfl

theorem DeleteStatus.lookup_nameOf (status : DeleteStatus) :
    Entries.lookup (nameOf choices status) choices = some status := by
  cases status <;> rfl

theorem Number.reread?_nearest (x : Binary64) :
    reread? WrittenDecimal.nearest? (.real x) = some (.real x) := by
  obtain ⟨written, read, whole, nearest, _⟩ := exists_read_real x
  rw [reread?_real _ read whole, nearest, Option.map_some]

theorem Body.reread?_nearest (body : Body) :
    body.json.reread? WrittenDecimal.nearest? = some body.json :=
  (Json.reread?_eq_self_iff body.canonical).mpr fun x _ => Number.reread?_nearest x

section Passages

variable {through : Json → Option Json}

theorem Body.arrives {body : Body} (unchanged : through body.json = some body.json) :
    Arrives through ofJson? body.json body :=
  .of_passed unchanged (by simp [ofJson?, body.canonical])

theorem Document.arrives_unchanged (passage : Passage through) (document : Document)
    (unchanged : through document.body.json = some document.body.json) :
    Arrives through decode? document.encode document :=
  document.arrives document.body passage (Body.arrives unchanged)

variable (passage : Passage through) (freshTrace : String)

include passage

theorem UpsertRequest.arrives (request : UpsertRequest)
    (unchanged : through request.body.json = some request.body.json) :
    Arrives through (decode? freshTrace) request.encode request := by
  have id := passage.option rfl fun id (_ : id ∈ request.id) => id.arrives passage
  have resource := request.resource.arrives passage
  have identity := request.identity.arrives passage
  have body := Body.arrives unchanged
  have references := passage.list fun reference (_ : reference ∈ request.references) =>
    reference.arrives passage
  have superclass := passage.option rfl fun superclass (_ : superclass ∈ request.superclass) =>
    superclass.arrives passage
  have security := request.security.arrives passage
  have traceId := passage.text request.traceId
  apply passage.record fieldNames (by simp)
  · simp [id.isSome, resource.isSome, identity.isSome, body.isSome, references.isSome,
      superclass.isSome, security.isSome, traceId.isSome]
  · intro object field fields supplies
    simp [decode?, fields, supplies.optional "id" (by simp) id,
      supplies.required "resource" (by simp) resource,
      supplies.required "identity" (by simp) identity, supplies.required "body" (by simp) body,
      supplies.withDefault "references" [] (by simp) references,
      supplies.withDefault "superclass" none (by simp) superclass,
      supplies.required "security" (by simp) security,
      supplies.withDefault "traceId" freshTrace (by simp) traceId]

theorem UpdateRequest.arrives (request : UpdateRequest)
    (unchanged : through request.body.json = some request.body.json) :
    Arrives through (decode? freshTrace) request.encode request := by
  have id := request.id.arrives passage
  have resource := request.resource.arrives passage
  have identity := request.identity.arrives passage
  have body := Body.arrives unchanged
  have references := passage.list fun reference (_ : reference ∈ request.references) =>
    reference.arrives passage
  have superclass := passage.option rfl fun superclass (_ : superclass ∈ request.superclass) =>
    superclass.arrives passage
  have security := request.security.arrives passage
  have traceId := passage.text request.traceId
  apply passage.record UpsertRequest.fieldNames (by simp)
  · simp [id.isSome, resource.isSome, identity.isSome, body.isSome, references.isSome,
      superclass.isSome, security.isSome, traceId.isSome]
  · intro object field fields supplies
    simp [decode?, fields, supplies.required "id" (by simp) id,
      supplies.required "resource" (by simp) resource,
      supplies.required "identity" (by simp) identity, supplies.required "body" (by simp) body,
      supplies.withDefault "references" [] (by simp) references,
      supplies.withDefault "superclass" none (by simp) superclass,
      supplies.required "security" (by simp) security,
      supplies.withDefault "traceId" freshTrace (by simp) traceId]

theorem GetRequest.arrives (request : GetRequest) :
    Arrives through (decode? freshTrace) request.encode request := by
  have id := request.id.arrives passage
  have security := request.security.arrives passage
  have traceId := passage.text request.traceId
  apply passage.record ["id", "security", "traceId"] (by simp)
  · simp [id.isSome, security.isSome, traceId.isSome]
  · intro object field fields supplies
    simp [decode?, fields, supplies.required "id" (by simp) id,
      supplies.required "security" (by simp) security,
      supplies.withDefault "traceId" freshTrace (by simp) traceId]

theorem QueryRequest.arrives (request : QueryRequest) :
    Arrives through (decode? freshTrace) request.encode request := by
  have resource := request.resource.arrives passage
  have filters := request.filters.arrives passage
  have pagination := request.pagination.arrives passage
  have security := request.security.arrives passage
  have traceId := passage.text request.traceId
  apply passage.record ["resource", "filters", "pagination", "security", "traceId"] (by simp)
  · simp [resource.isSome, filters.isSome, pagination.isSome, security.isSome, traceId.isSome]
  · intro object field fields supplies
    simp [decode?, fields, supplies.required "resource" (by simp) resource,
      supplies.withDefault "filters" Filters.empty (by simp) filters,
      supplies.withDefault "pagination" Pagination.all (by simp) pagination,
      supplies.required "security" (by simp) security,
      supplies.withDefault "traceId" freshTrace (by simp) traceId]

theorem DeleteRequest.arrives (request : DeleteRequest) :
    Arrives through (decode? freshTrace) request.encode request := by
  have id := request.id.arrives passage
  have force := passage.truth request.force
  have security := request.security.arrives passage
  have traceId := passage.text request.traceId
  apply passage.record ["id", "force", "security", "traceId"] (by simp)
  · simp [id.isSome, force.isSome, security.isSome, traceId.isSome]
  · intro object field fields supplies
    simp [decode?, fields, supplies.required "id" (by simp) id,
      supplies.withDefault "force" false (by simp) force,
      supplies.required "security" (by simp) security,
      supplies.withDefault "traceId" freshTrace (by simp) traceId]

theorem UpsertResult.arrives (result : UpsertResult) :
    Arrives through decode? result.encode result := by
  have status := passage.choice result.status.lookup_nameOf
  have id := passage.option rfl fun id (_ : id ∈ result.id) => id.arrives passage
  have invalidRefs := passage.list fun id (_ : id ∈ result.invalidRefs) => id.arrives passage
  have failureMessage := passage.option rfl fun message (_ : message ∈ result.failureMessage) =>
    passage.text message
  apply passage.record ["result", "id", "invalidRefs", "failureMessage"] (by simp)
  · simp [status.isSome, id.isSome, invalidRefs.isSome, failureMessage.isSome]
  · intro object field fields supplies
    simp [decode?, fields, supplies.required "result" (by simp) status,
      supplies.optional "id" (by simp) id,
      supplies.required "invalidRefs" (by simp) invalidRefs,
      supplies.optional "failureMessage" (by simp) failureMessage]

theorem UpdateResult.arrives (result : UpdateResult) :
    Arrives through decode? result.encode result := by
  have status := passage.choice result.status.lookup_nameOf
  have invalidRefs := passage.list fun id (_ : id ∈ result.invalidRefs) => id.arrives passage
  have failureMessage := passage.option rfl fun message (_ : message ∈ result.failureMessage) =>
    passage.text message
  apply passage.record ["result", "invalidRefs", "failureMessage"] (by simp)
  · simp [status.isSome, invalidRefs.isSome, failureMessage.isSome]
  · intro object field fields supplies
    simp [decode?, fields, supplies.required "result" (by simp) status,
      supplies.required "invalidRefs" (by simp) invalidRefs,
      supplies.optional "failureMessage" (by simp) failureMessage]

theorem GetResult.arrives (result : GetResult)
    (unchanged : ∀ document ∈ result.document,
      through document.body.json = some document.body.json) :
    Arrives through decode? result.encode result := by
  have status := passage.choice result.status.lookup_nameOf
  have document := passage.option rfl fun document (among : document ∈ result.document) =>
    document.arrives_unchanged passage (unchanged document among)
  apply passage.record ["result", "document"] (by simp)
  · simp [status.isSome, document.isSome]
  · intro object field fields supplies
    simp [decode?, fields, supplies.required "result" (by simp) status,
      supplies.optional "document" (by simp) document]

theorem QueryResult.arrives (result : QueryResult)
    (unchanged : ∀ document ∈ result.documents,
      through document.body.json = some document.body.json) :
    Arrives through decode? result.encode result := by
  have status := passage.choice result.status.lookup_nameOf
  have documents := passage.list fun document (among : document ∈ result.documents) =>
    document.arrives_unchanged passage (unchanged document among)
  have failureMessage := passage.option rfl fun message (_ : message ∈ result.failureMessage) =>
    passage.text message
  apply passage.record ["result", "documents", "failureMessage"] (by simp)
  · simp [status.isSome, documents.isSome, failureMessage.isSome]
  · intro object field fields supplies
    simp [decode?, fields, supplies.required "result" (by simp) status,
      supplies.required "documents" (by simp) documents,
      supplies.optional "failureMessage" (by simp) failureMessage]

theorem DeleteResult.arrives (result : DeleteResult) :
    Arrives through decode? result.encode result := by
  have status := passage.choice result.status.lookup_nameOf
  have referencingIds := passage.list fun id (_ : id ∈ result.referencingIds) =>
    id.arrives passage
  have failureMessage := passage.option rfl fun message (_ : message ∈ result.failureMessage) =>
    passage.text message
  apply passage.record ["result", "referencingIds", "failureMessage"] (by simp)
  · simp [status.isSome, referencingIds.isSome, failureMessage.isSome]
  · intro object field fields supplies
    simp [decode?, fields, supplies.required "result" (by simp) status,
      supplies.required "referencingIds" (by simp) referencingIds,
      supplies.optional "failureMessage" (by simp) failureMessage]

end Passages

/-- The types of value that are exchanged with clients. A superclass is a reference too. -/
inductive WireType where
  | document
  | upsertRequest
  | updateRequest
  | getRequest
  | queryRequest
  | deleteRequest
  | upsertResult
  | updateResult
  | getResult
  | queryResult
  | deleteResult
  | security
  | pagination
  | filters
  | reference
  | superclass
  | outboundRef

namespace WireType

def Value : WireType → Type
  | .document => Document
  | .upsertRequest => UpsertRequest
  | .updateRequest => UpdateRequest
  | .getRequest => GetRequest
  | .queryRequest => QueryRequest
  | .deleteRequest => DeleteRequest
  | .upsertResult => UpsertResult
  | .updateResult => UpdateResult
  | .getResult => GetResult
  | .queryResult => QueryResult
  | .deleteResult => DeleteResult
  | .security => Security
  | .pagination => Pagination
  | .filters => Filters
  | .reference | .superclass => Reference
  | .outboundRef => OutboundRef

def encode : (type : WireType) → type.Value → Json
  | .document => Document.encode
  | .upsertRequest => UpsertRequest.encode
  | .updateRequest => UpdateRequest.encode
  | .getRequest => GetRequest.encode
  | .queryRequest => QueryRequest.encode
  | .deleteRequest => DeleteRequest.encode
  | .upsertResult => UpsertResult.encode
  | .updateResult => UpdateResult.encode
  | .getResult => GetResult.encode
  | .queryResult => QueryResult.encode
  | .deleteResult => DeleteResult.encode
  | .security => Security.encode
  | .pagination => Pagination.encode
  | .filters => Filters.encode
  | .reference | .superclass => Reference.encode
  | .outboundRef => OutboundRef.encode

/-- Only requests take the fresh trace id, if they come without one. -/
def decode? (freshTrace : String) : (type : WireType) → Json → Option type.Value
  | .document => Document.decode?
  | .upsertRequest => UpsertRequest.decode? freshTrace
  | .updateRequest => UpdateRequest.decode? freshTrace
  | .getRequest => GetRequest.decode? freshTrace
  | .queryRequest => QueryRequest.decode? freshTrace
  | .deleteRequest => DeleteRequest.decode? freshTrace
  | .upsertResult => UpsertResult.decode?
  | .updateResult => UpdateResult.decode?
  | .getResult => GetResult.decode?
  | .queryResult => QueryResult.decode?
  | .deleteResult => DeleteResult.decode?
  | .security => Security.decode?
  | .pagination => Pagination.decode?
  | .filters => Filters.decode?
  | .reference | .superclass => Reference.decode?
  | .outboundRef => OutboundRef.decode?

def bodies : (type : WireType) → type.Value → List Body
  | .document, value => [Document.body value]
  | .upsertRequest, value => [UpsertRequest.body value]
  | .updateRequest, value => [UpdateRequest.body value]
  | .getResult, value => (GetResult.document value).toList.map Document.body
  | .queryResult, value => (QueryResult.documents value).map Document.body
  | _, _ => []

theorem arrives {through : Json → Option Json} (passage : Passage through) (freshTrace : String)
    (type : WireType) (value : type.Value)
    (unchanged : ∀ body ∈ type.bodies value, through body.json = some body.json) :
    Arrives through (type.decode? freshTrace) (type.encode value) value := by
  cases type with
  | document =>
      exact Document.arrives_unchanged passage value (unchanged _ List.mem_cons_self)
  | upsertRequest =>
      exact UpsertRequest.arrives passage freshTrace value (unchanged _ List.mem_cons_self)
  | updateRequest =>
      exact UpdateRequest.arrives passage freshTrace value (unchanged _ List.mem_cons_self)
  | getRequest => exact GetRequest.arrives passage freshTrace value
  | queryRequest => exact QueryRequest.arrives passage freshTrace value
  | deleteRequest => exact DeleteRequest.arrives passage freshTrace value
  | upsertResult => exact UpsertResult.arrives passage value
  | updateResult => exact UpdateResult.arrives passage value
  | getResult =>
      apply GetResult.arrives passage value
      intro document member
      exact unchanged _ (List.mem_map_of_mem (Option.mem_toList.mpr member))
  | queryResult =>
      apply QueryResult.arrives passage value
      intro document member
      exact unchanged _ (List.mem_map_of_mem member)
  | deleteResult => exact DeleteResult.arrives passage value
  | security => exact Security.arrives passage value
  | pagination => exact Pagination.arrives passage value
  | filters => exact Filters.arrives passage value
  | reference => exact Reference.arrives passage value
  | superclass => exact Reference.arrives passage value
  | outboundRef => exact OutboundRef.arrives passage value

/-- Of its text a value is decoded by every reader that goes deep enough and reads back the bodies in
    it. -/
theorem decode?_read (reader : Json.Reader) (freshTrace : String) {type : WireType}
    {value : type.Value} (shallow : (type.encode value).depth ≤ reader.levels)
    (unchanged : ∀ body ∈ type.bodies value, body.json.reread? reader.real = some body.json) :
    (reader.read (type.encode value).text).toOption.bind (type.decode? freshTrace)
      = some value := by
  rw [Json.toOption_read_text, if_pos shallow]
  exact type.arrives (.reread reader.real) freshTrace value unchanged

theorem decode?_read_nearest (freshTrace : String) (type : WireType) (value : type.Value) :
    ((Json.Reader.mk (type.encode value).depth WrittenDecimal.nearest?).read
        (type.encode value).text).toOption.bind (type.decode? freshTrace) = some value :=
  decode?_read _ freshTrace le_rfl fun body _ => body.reread?_nearest

/-- Every value of every type is decoded from its encoding, and so is what was decoded from any other
    form of it, whatever trace id is fresh then. The same holds of the texts of encodings, for every
    reader that goes deep enough and reads back the bodies in them. -/
theorem round_trip (type : WireType) :
    (∀ (freshTrace : String) (value : type.Value),
      type.decode? freshTrace (type.encode value) = some value) ∧
    (∀ (freshTrace : String) (json : Json) (value : type.Value),
      type.decode? freshTrace json = some value →
      ∀ otherTrace, type.decode? otherTrace (type.encode value) = some value) ∧
    ∀ (reader : Json.Reader) (freshTrace : String) (value : type.Value),
      (type.encode value).depth ≤ reader.levels →
      (∀ body ∈ type.bodies value, body.json.reread? reader.real = some body.json) →
      (reader.read (type.encode value).text).toOption.bind (type.decode? freshTrace)
        = some value := by
  have direct : ∀ (freshTrace : String) (value : type.Value),
      type.decode? freshTrace (type.encode value) = some value := fun freshTrace value =>
    type.arrives .direct freshTrace value fun _ _ => rfl
  exact ⟨direct, fun _ _ value _ otherTrace => direct otherTrace value,
    fun reader freshTrace _ => decode?_read reader freshTrace⟩

theorem round_trip_capitals :
    let id : DocumentId := ⟨16 ^ 55 * 10, by decide⟩
    let capitals : String := String.ofList ('A' :: List.replicate 55 '0')
    let json : Json := .array [.string capitals,
      .array [.string "client", .object [("ownership_based", .null)]]]
    let request : GetRequest := ⟨id, ⟨"client", .ownershipBased⟩, "fresh"⟩
    let result : GetResult := ⟨.getSuccess, some default⟩
    GetRequest.decode? "fresh" json = some request ∧
      GetRequest.decode? "other" request.encode = some request ∧
      (Json.readStored result.encode.text).toOption.bind GetResult.decode? = some result := by
  intro id capitals json request result
  have decoded : GetRequest.decode? "fresh" json = some request := by decide +kernel
  have again := (round_trip .getRequest).2.1 "fresh" json request decoded "other"
  have shallow : result.encode.depth ≤ Json.storedReader.levels := by decide
  have unchanged : ∀ body ∈ WireType.bodies .getResult result,
      body.json.reread? WrittenDecimal.scaled? = some body.json := by
    intro body member
    obtain rfl := List.mem_singleton.mp member
    rfl
  exact ⟨decoded, again, (round_trip .getResult).2.2 Json.storedReader "" result shallow unchanged⟩

end WireType

end Docket
