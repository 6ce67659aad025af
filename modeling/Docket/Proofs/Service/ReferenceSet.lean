import Docket.Proofs.Service.Enforcement
import Docket.Proofs.Store.Reading
/-!
A write depends on its references as a set.

A request may list its references in any order, and one of them as often as it likes. What is kept
of them is sorted by id and has one reference for an id, and which one is kept depends on which
references there are and on nothing else (`OutboundRef.normalize_eq_of_mem_iff`). So as long as every
reference has an id, two requests that list the same references make the same document, and all that
comes after it is the same too (`Service.references_as_set`). Of a reference without an id the first
one is told, and there the order shows.
-/

namespace Docket

theorem OutboundRef.normalize_ordered (refs : List OutboundRef) : Ascends (normalize refs) :=
  ascends_of_ids (normalize_ascends refs)

theorem OutboundRef.normalize_eq_of_mem_iff {refs others : List OutboundRef}
    (same : ∀ ref, ref ∈ others ↔ ref ∈ refs) : normalize others = normalize refs := by
  apply eq_of_ascends (normalize_ordered others) (normalize_ordered refs)
  intro ref
  rw [mem_normalize_iff, mem_normalize_iff]
  simp only [same]

namespace Reference

def AllResolve (references : List Reference) : Prop :=
  ∀ reference ∈ references, ∃ ref, reference.resolve = .ok ref

theorem AllResolve.exists_resolveAll {references : List Reference}
    (resolve : AllResolve references) : ∃ refs, resolveAll references = .ok refs := by
  induction references with
  | nil => exact ⟨[], rfl⟩
  | cons first rest ih =>
      obtain ⟨ref, found⟩ := resolve first List.mem_cons_self
      obtain ⟨refs, resolved⟩ := ih fun reference behind =>
        resolve reference (List.mem_cons_of_mem first behind)
      exact ⟨ref :: refs, by simp only [resolveAll, found, resolved]⟩

end Reference

namespace Request

variable {resource : Resource} {identity : Identity} {body : Body}
  {references others : List Reference} {superclass : Option Reference} {security : Security}
  {document : Document}

theorem document_eq_of_mem_iff (resolve : Reference.AllResolve references)
    (same : ∀ reference, reference ∈ others ↔ reference ∈ references) :
    Request.document resource identity body others superclass security
      = Request.document resource identity body references superclass security := by
  obtain ⟨refs, resolved⟩ := resolve.exists_resolveAll
  have othersResolve : Reference.AllResolve others := fun reference member =>
    resolve reference ((same reference).mp member)
  obtain ⟨otherRefs, othersResolved⟩ := othersResolve.exists_resolveAll
  have sameRefs : ∀ ref, ref ∈ otherRefs ↔ ref ∈ refs := by
    intro ref
    rw [Reference.mem_of_resolveAll othersResolved, Reference.mem_of_resolveAll resolved]
    simp only [same]
  simp only [Request.document, resolved, othersResolved,
    OutboundRef.normalize_eq_of_mem_iff sameRefs]

theorem MadeOf.mem_outRefIds_iff
    (parts : MadeOf resource identity body references superclass security document)
    {id : DocumentId} :
    id ∈ document.outRefIds ↔ ∃ reference ∈ references, reference.id = .ok id := by
  rw [Document.outRefIds, List.mem_map]
  constructor
  · rintro ⟨ref, kept, rfl⟩
    obtain ⟨reference, member, resolves⟩ := (parts.mem_outRefs_iff.mp kept).1
    exact ⟨reference, member, (Reference.resolve_eq_ok_iff.mp resolves).1⟩
  · rintro ⟨reference, member, found⟩
    obtain ⟨refs, resolved, outRefs⟩ := parts.outRefs
    have among : ⟨id, reference.resource.isDescriptor⟩ ∈ refs :=
      (Reference.mem_of_resolveAll resolved).mpr
        ⟨reference, member, Reference.resolve_eq_ok_iff.mpr ⟨found, rfl⟩⟩
    obtain ⟨kept, stays, same, _⟩ := OutboundRef.exists_mem_normalize among
    exact ⟨kept, outRefs ▸ stays, same⟩

/-- A document takes an id for that of a descriptor when every reference to it does. -/
theorem MadeOf.isDescriptor_iff
    (parts : MadeOf resource identity body references superclass security document)
    {ref : OutboundRef} (kept : ref ∈ document.outRefs) :
    ref.isDescriptor = true ↔
      ∀ reference ∈ references, reference.id = .ok ref.id →
        reference.resource.isDescriptor = true := by
  obtain ⟨⟨reference, member, resolves⟩, alone⟩ := parts.mem_outRefs_iff.mp kept
  constructor
  · exact alone
  · intro all
    obtain ⟨found, kind⟩ := Reference.resolve_eq_ok_iff.mp resolves
    exact kind ▸ all reference member found

structure RefersAs (references : List Reference) (document : Document) : Prop where
  ascends : Ascends document.outRefIds
  ids : ∀ id, id ∈ document.outRefIds ↔ ∃ reference ∈ references, reference.id = .ok id
  descriptors : ∀ ref ∈ document.outRefs, ref.isDescriptor = true ↔
    ∀ reference ∈ references, reference.id = .ok ref.id →
      reference.resource.isDescriptor = true

theorem refersAs_of_document
    (made : Request.document resource identity body references superclass security
      = .ok document) : RefersAs references document where
  ascends := (document_eq_ok made).1.refs
  ids _ := (madeOf_of_document made).mem_outRefIds_iff
  descriptors _ kept := (madeOf_of_document made).isDescriptor_iff kept

/-- Two requests that make one document, and so ask for the same ids and leave the same unchecked. -/
structure SameDocument (other one : Except Error Document) : Prop where
  made : other = one
  enforced : ∀ policy : DescriptorPolicy, other.map policy.enforced = one.map policy.enforced
  deferred : ∀ policy : DescriptorPolicy, other.map policy.deferred = one.map policy.deferred

theorem sameDocument_of_eq {other one : Except Error Document} (same : other = one) :
    SameDocument other one where
  made := same
  enforced _ := by rw [same]
  deferred _ := by rw [same]

end Request

theorem UpsertRequest.script_eq_of_document (request : UpsertRequest) (others : List Reference)
    (same : { request with references := others }.document = request.document)
    (context : RequestContext) :
    { request with references := others }.script context = request.script context := by
  unfold script
  rw [same]

theorem UpdateRequest.script_eq_of_document (request : UpdateRequest) (others : List Reference)
    (same : { request with references := others }.document = request.document)
    (context : RequestContext) :
    { request with references := others }.script context = request.script context := by
  unfold script
  rw [same]

variable {σ κ : Type} [DocumentStore σ] [ProjectionSink κ]

/-- When every reference of a request has an id, listing the same references in another order or more
    often changes nothing: not the document, not what is asked for, and on no service the answer or
    what is left of the service. The document's references ascend by id, go where the request's
    references go, and count as those to descriptors where all of the request's do. -/
theorem Service.references_as_set (service : Service σ κ) :
    (∀ (request : UpsertRequest) (others : List Reference),
      Reference.AllResolve request.references →
      (∀ reference, reference ∈ others ↔ reference ∈ request.references) →
      let other := { request with references := others }
      Request.SameDocument other.document request.document ∧
        service.upsert other = service.upsert request) ∧
    (∀ (request : UpdateRequest) (others : List Reference),
      Reference.AllResolve request.references →
      (∀ reference, reference ∈ others ↔ reference ∈ request.references) →
      let other := { request with references := others }
      Request.SameDocument other.document request.document ∧
        service.update other = service.update request) ∧
    (∀ (request : UpsertRequest) (document : Document), request.document = .ok document →
      Request.RefersAs request.references document) ∧
    ∀ (request : UpdateRequest) (document : Document), request.document = .ok document →
      Request.RefersAs request.references document := by
  refine ⟨?_, ?_, fun _ _ made => Request.refersAs_of_document made,
    fun _ _ made => Request.refersAs_of_document made⟩
  · intro request others resolve same
    have made : { request with references := others }.document = request.document :=
      Request.document_eq_of_mem_iff resolve same
    refine ⟨Request.sameDocument_of_eq made, ?_⟩
    rw [upsert, request.script_eq_of_document others made]
    rfl
  · intro request others resolve same
    have made : { request with references := others }.document = request.document :=
      Request.document_eq_of_mem_iff resolve same
    refine ⟨Request.sameDocument_of_eq made, ?_⟩
    rw [update, request.script_eq_of_document others made]
    rfl

theorem Service.references_as_set_gradeLevel :
    let request := graded (.fixed "Student" "studentUniqueId" "s")
    let others := [gradeLevel, gradeLevel.asDescriptor, gradeLevel]
    Reference.AllResolve request.references ∧
      (∀ reference, reference ∈ others ↔ reference ∈ request.references) ∧
      ∀ service : Service Engine SearchIndex,
        service.upsert { request with references := others } = service.upsert request := by
  intro request others
  have resolve : Reference.AllResolve request.references := by
    intro reference member
    rcases List.mem_cons.mp member with rfl | behind
    · exact ⟨_, rfl⟩
    · obtain rfl := List.mem_singleton.mp behind
      exact ⟨_, rfl⟩
  have same : ∀ reference, reference ∈ others ↔ reference ∈ request.references := by
    intro reference
    simp only [others, request, graded, UpsertRequest.fixed, List.mem_cons, List.not_mem_nil,
      or_false]
    tauto
  refine ⟨resolve, same, fun service => ?_⟩
  exact (service.references_as_set.1 request others resolve same).2

end Docket
