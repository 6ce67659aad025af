import Docket.Message
import Docket.Wire.Document
/-!
The JSON form of requests and results. A request without a trace id gets the fresh one that its
reader is given.
-/

namespace Docket

open Wire

namespace UpsertRequest

def fieldNames : List String :=
  ["id", "resource", "identity", "body", "references", "superclass", "security", "traceId"]

def encode (request : UpsertRequest) : Json :=
  .object [
    ("id", ofOption DocumentId.encode request.id),
    ("resource", request.resource.encode),
    ("identity", request.identity.encode),
    ("body", request.body.json),
    ("references", ofList Reference.encode request.references),
    ("superclass", ofOption Reference.encode request.superclass),
    ("security", request.security.encode),
    ("traceId", .string request.traceId)]

def decode? (freshTrace : String) (json : Json) : Option UpsertRequest := do
  let field ← fields? fieldNames json
  return {
    id := ← (field "id").optional DocumentId.decode?
    resource := ← (field "resource").required Resource.decode?
    identity := ← (field "identity").required Identity.decode?
    body := ← (field "body").required Body.ofJson?
    references := ← (field "references").withDefault [] (list? Reference.decode?)
    superclass := ← (field "superclass").withDefault none (nullable Reference.decode?)
    security := ← (field "security").required Security.decode?
    traceId := ← (field "traceId").withDefault freshTrace text? }

end UpsertRequest

namespace UpdateRequest

def encode (request : UpdateRequest) : Json :=
  .object [
    ("id", request.id.encode),
    ("resource", request.resource.encode),
    ("identity", request.identity.encode),
    ("body", request.body.json),
    ("references", ofList Reference.encode request.references),
    ("superclass", ofOption Reference.encode request.superclass),
    ("security", request.security.encode),
    ("traceId", .string request.traceId)]

def decode? (freshTrace : String) (json : Json) : Option UpdateRequest := do
  let field ← fields? UpsertRequest.fieldNames json
  return {
    id := ← (field "id").required DocumentId.decode?
    resource := ← (field "resource").required Resource.decode?
    identity := ← (field "identity").required Identity.decode?
    body := ← (field "body").required Body.ofJson?
    references := ← (field "references").withDefault [] (list? Reference.decode?)
    superclass := ← (field "superclass").withDefault none (nullable Reference.decode?)
    security := ← (field "security").required Security.decode?
    traceId := ← (field "traceId").withDefault freshTrace text? }

end UpdateRequest

namespace GetRequest

def encode (request : GetRequest) : Json :=
  .object [
    ("id", request.id.encode),
    ("security", request.security.encode),
    ("traceId", .string request.traceId)]

def decode? (freshTrace : String) (json : Json) : Option GetRequest := do
  let field ← fields? ["id", "security", "traceId"] json
  return {
    id := ← (field "id").required DocumentId.decode?
    security := ← (field "security").required Security.decode?
    traceId := ← (field "traceId").withDefault freshTrace text? }

end GetRequest

namespace QueryRequest

def encode (request : QueryRequest) : Json :=
  .object [
    ("resource", request.resource.encode),
    ("filters", request.filters.encode),
    ("pagination", request.pagination.encode),
    ("security", request.security.encode),
    ("traceId", .string request.traceId)]

def decode? (freshTrace : String) (json : Json) : Option QueryRequest := do
  let field ← fields? ["resource", "filters", "pagination", "security", "traceId"] json
  return {
    resource := ← (field "resource").required Resource.decode?
    filters := ← (field "filters").withDefault Filters.empty Filters.decode?
    pagination := ← (field "pagination").withDefault Pagination.all Pagination.decode?
    security := ← (field "security").required Security.decode?
    traceId := ← (field "traceId").withDefault freshTrace text? }

end QueryRequest

namespace DeleteRequest

def encode (request : DeleteRequest) : Json :=
  .object [
    ("id", request.id.encode),
    ("force", .bool request.force),
    ("security", request.security.encode),
    ("traceId", .string request.traceId)]

def decode? (freshTrace : String) (json : Json) : Option DeleteRequest := do
  let field ← fields? ["id", "force", "security", "traceId"] json
  return {
    id := ← (field "id").required DocumentId.decode?
    force := ← (field "force").withDefault false bool?
    security := ← (field "security").required Security.decode?
    traceId := ← (field "traceId").withDefault freshTrace text? }

end DeleteRequest

def UpsertStatus.choices : List (String × UpsertStatus) := [
  ("INSERT_SUCCESS", .insertSuccess), ("UPDATE_SUCCESS", .updateSuccess),
  ("VALIDATION_FAILURE", .validationFailure), ("INVALID_IDENTITY", .invalidIdentity),
  ("INVALID_BODY", .invalidBody), ("CONFLICT", .conflict), ("FORBIDDEN", .forbidden),
  ("UNKNOWN_FAILURE", .unknownFailure)]

def UpdateStatus.choices : List (String × UpdateStatus) := [
  ("UPDATE_SUCCESS", .updateSuccess), ("NOT_EXISTS", .notExists),
  ("IMMUTABLE_IDENTITY", .immutableIdentity), ("VALIDATION_FAILURE", .validationFailure),
  ("INVALID_IDENTITY", .invalidIdentity), ("INVALID_BODY", .invalidBody),
  ("CONFLICT", .conflict), ("FORBIDDEN", .forbidden), ("UNKNOWN_FAILURE", .unknownFailure)]

def GetStatus.choices : List (String × GetStatus) := [
  ("GET_SUCCESS", .getSuccess), ("GET_FAILURE_NOT_EXISTS", .getFailureNotExists),
  ("UNKNOWN_FAILURE", .unknownFailure)]

def QueryStatus.choices : List (String × QueryStatus) := [
  ("QUERY_SUCCESS", .querySuccess), ("QUERY_FAILURE_INVALID_QUERY", .queryFailureInvalidQuery),
  ("UNKNOWN_FAILURE", .unknownFailure)]

def DeleteStatus.choices : List (String × DeleteStatus) := [
  ("DELETE_SUCCESS", .deleteSuccess), ("DELETE_FAILURE_NOT_EXISTS", .deleteFailureNotExists),
  ("DELETE_FAILURE_REFERENCE", .deleteFailureReference), ("FORBIDDEN", .forbidden),
  ("UNKNOWN_FAILURE", .unknownFailure)]

namespace UpsertResult

def encode (result : UpsertResult) : Json :=
  .object [
    ("result", .string (nameOf UpsertStatus.choices result.status)),
    ("id", ofOption DocumentId.encode result.id),
    ("invalidRefs", ofList DocumentId.encode result.invalidRefs),
    ("failureMessage", ofOption .string result.failureMessage)]

def decode? (json : Json) : Option UpsertResult := do
  let field ← fields? ["result", "id", "invalidRefs", "failureMessage"] json
  return {
    status := ← (field "result").required (choice? UpsertStatus.choices)
    id := ← (field "id").optional DocumentId.decode?
    invalidRefs := ← (field "invalidRefs").required (list? DocumentId.decode?)
    failureMessage := ← (field "failureMessage").optional text? }

end UpsertResult

namespace UpdateResult

def encode (result : UpdateResult) : Json :=
  .object [
    ("result", .string (nameOf UpdateStatus.choices result.status)),
    ("invalidRefs", ofList DocumentId.encode result.invalidRefs),
    ("failureMessage", ofOption .string result.failureMessage)]

def decode? (json : Json) : Option UpdateResult := do
  let field ← fields? ["result", "invalidRefs", "failureMessage"] json
  return {
    status := ← (field "result").required (choice? UpdateStatus.choices)
    invalidRefs := ← (field "invalidRefs").required (list? DocumentId.decode?)
    failureMessage := ← (field "failureMessage").optional text? }

end UpdateResult

namespace GetResult

def encode (result : GetResult) : Json :=
  .object [
    ("result", .string (nameOf GetStatus.choices result.status)),
    ("document", ofOption Document.encode result.document)]

def decode? (json : Json) : Option GetResult := do
  let field ← fields? ["result", "document"] json
  return {
    status := ← (field "result").required (choice? GetStatus.choices)
    document := ← (field "document").optional Document.decode? }

end GetResult

namespace QueryResult

def encode (result : QueryResult) : Json :=
  .object [
    ("result", .string (nameOf QueryStatus.choices result.status)),
    ("documents", ofList Document.encode result.documents),
    ("failureMessage", ofOption .string result.failureMessage)]

def decode? (json : Json) : Option QueryResult := do
  let field ← fields? ["result", "documents", "failureMessage"] json
  return {
    status := ← (field "result").required (choice? QueryStatus.choices)
    documents := ← (field "documents").required (list? Document.decode?)
    failureMessage := ← (field "failureMessage").optional text? }

end QueryResult

namespace DeleteResult

def encode (result : DeleteResult) : Json :=
  .object [
    ("result", .string (nameOf DeleteStatus.choices result.status)),
    ("referencingIds", ofList DocumentId.encode result.referencingIds),
    ("failureMessage", ofOption .string result.failureMessage)]

def decode? (json : Json) : Option DeleteResult := do
  let field ← fields? ["result", "referencingIds", "failureMessage"] json
  return {
    status := ← (field "result").required (choice? DeleteStatus.choices)
    referencingIds := ← (field "referencingIds").required (list? DocumentId.decode?)
    failureMessage := ← (field "failureMessage").optional text? }

end DeleteResult

end Docket
