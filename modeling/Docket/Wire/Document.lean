import Docket.Filter
import Docket.Document
import Docket.Wire.Basic
/-!
The JSON form of documents and of what they are made of. An encoded record lists its fields in the
order of the type.
-/

namespace Docket

open Wire

namespace DocumentId

def encode (id : DocumentId) : Json := .string id.text

def decode? (json : Json) : Option DocumentId := (text? json).bind fun text => (parse text).toOption

end DocumentId

namespace Identity

def encode (identity : Identity) : Json := ofTextTable identity.fields

def decode? (json : Json) : Option Identity := (textTable? json).map Identity.mk

end Identity

namespace Filters

def encode (filters : Filters) : Json := ofTextTable filters.entries

def decode? (json : Json) : Option Filters := (textTable? json).map Filters.mk

end Filters

namespace Resource

def fieldNames : List String := ["projectName", "resourceName", "resourceVersion", "isDescriptor"]

def encode (resource : Resource) : Json :=
  .object [
    ("projectName", .string resource.projectName),
    ("resourceName", .string resource.resourceName),
    ("resourceVersion", .string resource.resourceVersion),
    ("isDescriptor", .bool resource.isDescriptor)]

def decode? (json : Json) : Option Resource := do
  let field ← fields? fieldNames json
  return {
    projectName := ← (field "projectName").required text?
    resourceName := ← (field "resourceName").required text?
    resourceVersion := ← (field "resourceVersion").required text?
    isDescriptor := ← (field "isDescriptor").required bool? }

end Resource

namespace Reference

def encode (reference : Reference) : Json :=
  .object [
    ("resource", reference.resource.encode),
    ("identity", reference.identity.encode)]

def decode? (json : Json) : Option Reference := do
  let field ← fields? ["resource", "identity"] json
  return {
    resource := ← (field "resource").required Resource.decode?
    identity := ← (field "identity").required Identity.decode? }

end Reference

namespace OutboundRef

def encode (ref : OutboundRef) : Json :=
  .object [
    ("id", ref.id.encode),
    ("isDescriptor", .bool ref.isDescriptor)]

def decode? (json : Json) : Option OutboundRef := do
  let field ← fields? ["id", "isDescriptor"] json
  return {
    id := ← (field "id").required DocumentId.decode?
    isDescriptor := ← (field "isDescriptor").required bool? }

end OutboundRef

namespace Document

def fieldNames : List String :=
  ["id", "resource", "identity", "body", "outRefs", "aliasIds", "validated", "createdBy"]

def encode (document : Document) : Json :=
  .object [
    ("id", document.id.encode),
    ("resource", document.resource.encode),
    ("identity", document.identity.encode),
    ("body", document.body.json),
    ("outRefs", ofList OutboundRef.encode document.outRefs),
    ("aliasIds", ofList DocumentId.encode document.aliasIds),
    ("validated", .bool document.validated),
    ("createdBy", ofOption .string document.createdBy)]

def decode? (json : Json) : Option Document := do
  let field ← fields? fieldNames json
  return {
    id := ← (field "id").required DocumentId.decode?
    resource := ← (field "resource").required Resource.decode?
    identity := ← (field "identity").required Identity.decode?
    body := ← (field "body").required Body.ofJson?
    outRefs := ← (field "outRefs").required (list? OutboundRef.decode?)
    aliasIds := ← (field "aliasIds").withDefault [] (list? DocumentId.decode?)
    validated := ← (field "validated").required bool?
    createdBy := ← (field "createdBy").withDefault none (nullable text?) }

end Document

def Strategy.choices : List (String × Strategy) :=
  [("full_access", .fullAccess), ("ownership_based", .ownershipBased)]

namespace Security

def encode (security : Security) : Json :=
  .object [
    ("clientId", .string security.clientId),
    ("strategy", .string (nameOf Strategy.choices security.strategy))]

def decode? (json : Json) : Option Security := do
  let field ← fields? ["clientId", "strategy"] json
  return {
    clientId := ← (field "clientId").required text?
    strategy := ← (field "strategy").required (choice? Strategy.choices) }

end Security

namespace Pagination

def encode (window : Pagination) : Json :=
  .object [
    ("offset", .ofUInt64 window.offset),
    ("limit", ofOption .ofUInt64 window.limit)]

def decode? (json : Json) : Option Pagination := do
  let field ← fields? ["offset", "limit"] json
  return {
    offset := ← (field "offset").required uint64?
    limit := ← (field "limit").optional uint64? }

end Pagination

end Docket
