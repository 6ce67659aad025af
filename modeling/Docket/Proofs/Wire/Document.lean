import Docket.Proofs.DocumentId
import Docket.Proofs.Wire.Passage
import Docket.Wire.Document
/-!
A document is decoded from what gets through of its JSON form.

Ids, texts and truth values arrive as they were, and the order of an object's members does not
matter to a decoder. So the document comes back with what its body has become (`Document.arrives`);
of its text it is read with the body that the reader makes of its body (`Document.decode?_reread?`),
or not at all.
-/

namespace Docket

namespace Wire

theorem depthMembers_texts (entries : List (String × String)) :
    Json.depthMembers (entries.map fun entry => (entry.1, .string entry.2)) = 0 := by
  induction entries with
  | nil => rfl
  | cons entry rest ih => simp [Json.depthMembers, Json.depth, ih]

theorem depth_ofList_le {α : Type} {encode : α → Json} {depth : Nat}
    (each : ∀ value, (encode value).depth ≤ depth) (values : List α) :
    (ofList encode values).depth ≤ depth + 1 := by
  have all : ∀ values : List α, Json.depthItems (values.map encode) ≤ depth := by
    intro values
    induction values with
    | nil => exact Nat.zero_le depth
    | cons value rest ih => exact Nat.max_le.mpr ⟨each value, ih⟩
  simpa [ofList, Json.depth] using all values

end Wire

open Wire

theorem Strategy.lookup_nameOf (strategy : Strategy) :
    Entries.lookup (nameOf choices strategy) choices = some strategy := by
  cases strategy <;> rfl

section Passages

variable {through : Json → Option Json} (passage : Passage through)

include passage

theorem DocumentId.arrives (id : DocumentId) : Arrives through decode? id.encode id := by
  apply Arrives.of_passed (passage.string id.text)
  simp [decode?, text?, Format.view, parse_text, Except.toOption]

theorem Identity.arrives (identity : Identity) :
    Arrives through decode? identity.encode identity :=
  (passage.textTable identity.fields).map Identity.mk

theorem Filters.arrives (filters : Filters) : Arrives through decode? filters.encode filters :=
  (passage.textTable filters.entries).map Filters.mk

theorem Resource.arrives (resource : Resource) :
    Arrives through decode? resource.encode resource := by
  have projectName := passage.text resource.projectName
  have resourceName := passage.text resource.resourceName
  have resourceVersion := passage.text resource.resourceVersion
  have isDescriptor := passage.truth resource.isDescriptor
  apply passage.record fieldNames (by simp)
  · simp [projectName.isSome, resourceName.isSome, resourceVersion.isSome, isDescriptor.isSome]
  · intro object field fields supplies
    simp [decode?, fields, supplies.required "projectName" (by simp) projectName,
      supplies.required "resourceName" (by simp) resourceName,
      supplies.required "resourceVersion" (by simp) resourceVersion,
      supplies.required "isDescriptor" (by simp) isDescriptor]

theorem Reference.arrives (reference : Reference) :
    Arrives through decode? reference.encode reference := by
  have resource := reference.resource.arrives passage
  have identity := reference.identity.arrives passage
  apply passage.record ["resource", "identity"] (by simp)
  · simp [resource.isSome, identity.isSome]
  · intro object field fields supplies
    simp [decode?, fields, supplies.required "resource" (by simp) resource,
      supplies.required "identity" (by simp) identity]

theorem OutboundRef.arrives (ref : OutboundRef) : Arrives through decode? ref.encode ref := by
  have id := ref.id.arrives passage
  have isDescriptor := passage.truth ref.isDescriptor
  apply passage.record ["id", "isDescriptor"] (by simp)
  · simp [id.isSome, isDescriptor.isSome]
  · intro object field fields supplies
    simp [decode?, fields, supplies.required "id" (by simp) id,
      supplies.required "isDescriptor" (by simp) isDescriptor]

theorem Security.arrives (security : Security) :
    Arrives through decode? security.encode security := by
  have clientId := passage.text security.clientId
  have strategy := passage.choice security.strategy.lookup_nameOf
  apply passage.record ["clientId", "strategy"] (by simp)
  · simp [clientId.isSome, strategy.isSome]
  · intro object field fields supplies
    simp [decode?, fields, supplies.required "clientId" (by simp) clientId,
      supplies.required "strategy" (by simp) strategy]

theorem Pagination.arrives (window : Pagination) :
    Arrives through decode? window.encode window := by
  have offset := passage.uint64 window.offset
  have limit := passage.option rfl fun limit (_ : limit ∈ window.limit) => passage.uint64 limit
  apply passage.record ["offset", "limit"] (by simp)
  · simp [offset.isSome, limit.isSome]
  · intro object field fields supplies
    simp [decode?, fields, supplies.required "offset" (by simp) offset,
      supplies.optional "limit" (by simp) limit]

end Passages

namespace Document

variable (document : Document) (body : Body)

def withBody : Document := { document with body := body }

@[simp] theorem withBody_id : (document.withBody body).id = document.id := rfl

@[simp] theorem withBody_existenceIds :
    (document.withBody body).existenceIds = document.existenceIds := rfl

@[simp] theorem withBody_outRefIds :
    (document.withBody body).outRefIds = document.outRefIds := rfl

theorem arrives {through : Json → Option Json} (passage : Passage through)
    (arrived : Arrives through Body.ofJson? document.body.json body) :
    Arrives through decode? document.encode (document.withBody body) := by
  have id := document.id.arrives passage
  have resource := document.resource.arrives passage
  have identity := document.identity.arrives passage
  have outRefs := passage.list fun ref (_ : ref ∈ document.outRefs) => ref.arrives passage
  have aliasIds := passage.list fun id (_ : id ∈ document.aliasIds) => id.arrives passage
  have validated := passage.truth document.validated
  have createdBy := passage.option rfl fun name (_ : name ∈ document.createdBy) =>
    passage.text name
  apply passage.record fieldNames (by simp)
  · simp [id.isSome, resource.isSome, identity.isSome, arrived.isSome, outRefs.isSome,
      aliasIds.isSome, validated.isSome, createdBy.isSome]
  · intro object field fields supplies
    simp [decode?, fields, supplies.required "id" (by simp) id,
      supplies.required "resource" (by simp) resource,
      supplies.required "identity" (by simp) identity,
      supplies.required "body" (by simp) arrived, supplies.required "outRefs" (by simp) outRefs,
      supplies.withDefault "aliasIds" [] (by simp) aliasIds,
      supplies.required "validated" (by simp) validated,
      supplies.withDefault "createdBy" none (by simp) createdBy, withBody]

/-- Nothing but the body of a document depends on how a reader reads. -/
theorem decode?_reread? (real : WrittenDecimal → Option Binary64) :
    (document.encode.reread? real).bind decode?
      = ((document.body.json.reread? real).bind Body.ofJson?).map document.withBody := by
  cases arrived : (document.body.json.reread? real).bind Body.ofJson? with
  | some body => exact document.arrives body (.reread real) arrived
  | none =>
      -- What is read has its members in order, so no body is made only where nothing is read.
      have unread : document.body.json.reread? real = none := by
        cases read : document.body.json.reread? real with
        | none => rfl
        | some json =>
            have canonical := Json.canonical_of_reread? document.body.canonical read
            simp [read, Body.ofJson?, canonical] at arrived
      simp [encode, Json.reread?, Json.rereadMembers?, unread]

theorem depth_encode_le : document.encode.depth ≤ max document.body.json.depth 2 + 1 := by
  have identity : (ofTextTable document.identity.fields).depth ≤ 1 := by
    simp [ofTextTable, Json.depth, depthMembers_texts]
  have outRefs : (ofList OutboundRef.encode document.outRefs).depth ≤ 2 :=
    depth_ofList_le (fun ref => by simp [OutboundRef.encode, DocumentId.encode, Json.depth,
      Json.depthMembers]) _
  have aliasIds : (ofList DocumentId.encode document.aliasIds).depth ≤ 1 :=
    depth_ofList_le (fun id => by simp [DocumentId.encode, Json.depth]) _
  have createdBy : (ofOption Json.string document.createdBy).depth = 0 := by
    cases document.createdBy with
    | none => rfl
    | some name => rfl
  simp only [encode, Json.depth, Json.depthMembers, DocumentId.encode, Resource.encode,
    Identity.encode, createdBy]
  omega

theorem depth_body_lt : document.body.json.depth < document.encode.depth := by
  simp only [encode, Json.depth, Json.depthMembers]
  omega

end Document

structure Body.Readable (body : Body) : Prop where
  shallow : body.json.depth ≤ 126
  readsBack : Json.readStored body.json.text = .ok body.json

theorem Body.Readable.reread?_eq {body : Body} (readable : body.Readable) :
    body.json.reread? WrittenDecimal.scaled? = some body.json := by
  have text := Json.toOption_readStored_text body.json
  rw [readable.readsBack] at text
  split at text
  · exact text.symm
  · simp [Except.toOption] at text

theorem Body.readable_of_reals {body : Body} (shallow : body.json.depth ≤ 126)
    (same : ∀ x ∈ body.json.reals,
      Number.reread? WrittenDecimal.scaled? (.real x) = some (.real x)) : body.Readable where
  shallow := shallow
  readsBack := by
    have text := Json.toOption_readStored_text body.json
    rw [if_pos (Nat.le_succ_of_le shallow),
      (Json.reread?_eq_self_iff body.canonical).mpr same] at text
    cases read : Json.readStored body.json.text with
    | error cause => simp [read, Except.toOption] at text
    | ok json =>
        rw [read] at text
        exact congrArg Except.ok (Option.some.inj text)

end Docket
