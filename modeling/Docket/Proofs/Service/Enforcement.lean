import Docket.Proofs.Service.References
/-!
Which references of a request must resolve for its document to be written.

The policy decides by the kinds of the two documents (`DescriptorPolicy.enforces`). It is asked
about the references of the document that is made, and that holds one reference for an id: of a
request that names an id both as that of a descriptor and as that of none, the latter. Such an id is
demanded all the same, unless it is a descriptor that refers to it and the policy is strict: then
what is left of the two is a reference that goes unchecked
(`ValidationSettings.demanded_unless_overlooked`).
-/

namespace Docket

namespace DescriptorPolicy

def enforces : DescriptorPolicy → (fromDescriptor toDescriptor : Bool) → Bool
  | _, false, false => true
  | .strict, false, true => true
  | .bootstrap, false, true => false
  | _, true, false => false
  | .strict, true, true => true
  | .bootstrap, true, true => false

theorem defers_eq (policy : DescriptorPolicy) (fromDescriptor toDescriptor : Bool) :
    policy.defers fromDescriptor toDescriptor = !policy.enforces fromDescriptor toDescriptor := by
  cases policy <;> cases fromDescriptor <;> cases toDescriptor <;> rfl

def Demands (policy : DescriptorPolicy) (fromDescriptor : Bool) (references : List Reference)
    (id : DocumentId) : Prop :=
  ∃ reference ∈ references, reference.id = .ok id ∧
    policy.enforces fromDescriptor reference.resource.isDescriptor = true

/-- Under the strict policy a descriptor refers to the id as that of a descriptor, and to the same
    id as that of none. -/
structure Overlooks (policy : DescriptorPolicy) (fromDescriptor : Bool)
    (references : List Reference) (id : DocumentId) : Prop where
  strict : policy = .strict
  fromDescriptor : fromDescriptor = true
  toDescriptor : ∃ reference ∈ references, reference.id = .ok id ∧
    reference.resource.isDescriptor = true
  toOther : ∃ reference ∈ references, reference.id = .ok id ∧
    reference.resource.isDescriptor = false

variable {policy : DescriptorPolicy} {id : DocumentId}

theorem mem_enforced_iff {document : Document} :
    id ∈ policy.enforced document ↔
      ∃ ref ∈ document.outRefs, ref.id = id ∧
        policy.enforces document.resource.isDescriptor ref.isDescriptor = true := by
  rw [enforced, (sortKeys_perm _).mem_iff, List.mem_map]
  simp only [List.mem_filter, defers_eq, Bool.not_not]
  constructor
  · rintro ⟨ref, ⟨member, enforced⟩, same⟩
    exact ⟨ref, member, same, enforced⟩
  · rintro ⟨ref, member, same, enforced⟩
    exact ⟨ref, ⟨member, enforced⟩, same⟩

theorem enforces_other {fromDescriptor : Bool}
    (enforced : policy.enforces fromDescriptor true = true)
    (other : ¬ (policy = .strict ∧ fromDescriptor = true)) :
    policy.enforces fromDescriptor false = true := by
  cases fromDescriptor with
  | false => cases policy <;> rfl
  | true =>
      cases policy with
      | strict => exact absurd ⟨rfl, rfl⟩ other
      | bootstrap => simp [enforces] at enforced

/-- What a document demands that is made of a request: all that the request demands by the policy,
    but what is overlooked of it. -/
theorem mem_enforced_of_madeOf {resource : Resource} {identity : Identity} {body : Body}
    {references : List Reference} {superclass : Option Reference} {security : Security}
    {document : Document}
    (madeOf : Request.MadeOf resource identity body references superclass security document) :
    id ∈ policy.enforced document ↔
      policy.Demands resource.isDescriptor references id ∧
        ¬ policy.Overlooks resource.isDescriptor references id := by
  rw [mem_enforced_iff, madeOf.resource]
  simp only [madeOf.mem_outRefs_iff, Reference.resolve_eq_ok_iff]
  constructor
  · rintro ⟨ref, ⟨⟨reference, member, same, kind⟩, alone⟩, rfl, enforced⟩
    refine ⟨⟨reference, member, same, kind ▸ enforced⟩, fun overlooks => ?_⟩
    obtain ⟨other, member', same', kind'⟩ := overlooks.toOther
    rw [overlooks.strict, overlooks.fromDescriptor] at enforced
    cases flag : ref.isDescriptor with
    | true => simp [alone flag other member' same'] at kind'
    | false => simp [flag, enforces] at enforced
  · rintro ⟨⟨reference, member, same, enforced⟩, overseen⟩
    by_cases others : ∃ other ∈ references, other.id = .ok id ∧ other.resource.isDescriptor = false
    · -- One reference to no descriptor stays for all, and is enforced if any of them was.
      refine ⟨⟨id, false⟩, ⟨others, nofun⟩, rfl, ?_⟩
      cases kind : reference.resource.isDescriptor with
      | false => exact kind ▸ enforced
      | true =>
          refine enforces_other (kind ▸ enforced) fun ⟨isStrict, fromDescriptor⟩ => overseen ?_
          exact ⟨isStrict, fromDescriptor, ⟨reference, member, same, kind⟩, others⟩
    · have kinds : ∀ other ∈ references, other.id = .ok id →
          other.resource.isDescriptor = true := by
        intro other member same
        by_contra kind
        exact others ⟨other, member, same, by simpa using kind⟩
      have kind := kinds reference member same
      exact ⟨⟨id, true⟩, ⟨⟨reference, member, same, kind⟩, fun _ => kinds⟩, rfl, kind ▸ enforced⟩

end DescriptorPolicy

/-- The ids that must exist for a document to be written, and that are looked for once more on
    commit, are those that the references of its request demand and that are not overlooked. -/
structure ValidationSettings.Enforces (settings : ValidationSettings) (resource : Resource)
    (references : List Reference) (document : Document) : Prop where
  enforced_iff : ∀ id, id ∈ settings.descriptorPolicy.enforced document ↔
    settings.descriptorPolicy.Demands resource.isDescriptor references id ∧
      ¬ settings.descriptorPolicy.Overlooks resource.isDescriptor references id
  carried : ∀ (context : RequestContext) (index : SearchIndex) (engine : Engine)
    (write : DocumentWrite), context.validation = settings →
    ((Request.checkReferences context document).run index engine).1 = .ready write →
    write.enforcedRefs = settings.descriptorPolicy.enforced document

theorem Request.MadeOf.enforces {settings : ValidationSettings}
    (checks : settings.validateReferences = true) {resource : Resource} {identity : Identity}
    {body : Body} {references : List Reference} {superclass : Option Reference}
    {security : Security} {document : Document}
    (madeOf : MadeOf resource identity body references superclass security document) :
    settings.Enforces resource references document where
  enforced_iff _ := DescriptorPolicy.mem_enforced_of_madeOf madeOf
  carried context index engine write same ready := by
    rw [Request.run_checkReferences] at ready
    split at ready
    · obtain rfl := CheckedWrite.ready.inj ready
      rw [ValidationSettings.write_enforcedRefs (same ▸ checks), same]
    · simp at ready

/-- What must exist for the document of a request is what its references demand by the policy,
    under either policy and whatever the store, the index and the cache hold. The exception is an id
    that a descriptor names in both ways under the strict policy. -/
theorem ValidationSettings.demanded_unless_overlooked (settings : ValidationSettings)
    (checks : settings.validateReferences = true) :
    (∀ (request : UpsertRequest) (document : Document), request.document = .ok document →
      settings.Enforces request.resource request.references document) ∧
    ∀ (request : UpdateRequest) (document : Document), request.document = .ok document →
      settings.Enforces request.resource request.references document := by
  constructor
  · exact fun _ _ made => (Request.madeOf_of_document made).enforces checks
  · exact fun _ _ made => (Request.madeOf_of_document made).enforces checks

def Reference.asDescriptor (reference : Reference) : Reference :=
  { reference with resource := { reference.resource with isDescriptor := true } }

theorem Reference.id_asDescriptor (reference : Reference) :
    reference.asDescriptor.id = reference.id := rfl

def gradeLevel : Reference := .fixed "GradeLevelDescriptor" "codeValue" "first"

def graded (document : Reference) : UpsertRequest :=
  .fixed document [gradeLevel.asDescriptor, gradeLevel] none

theorem ValidationSettings.demanded_unless_overlooked_student :
    ({} : ValidationSettings).validateReferences = true ∧
      ∃ document, (graded (.fixed "Student" "studentUniqueId" "s")).document = .ok document ∧
        ∃ id, gradeLevel.id = .ok id ∧ id ∈ DescriptorPolicy.strict.enforced document := by
  refine ⟨rfl, _, rfl, _, rfl, ?_⟩
  have enforces := (ValidationSettings.demanded_unless_overlooked {} rfl).1
    (graded (.fixed "Student" "studentUniqueId" "s")) _ rfl
  refine (enforces.enforced_iff _).mpr ⟨?_, fun overlooks => ?_⟩
  · exact ⟨gradeLevel, by simp [graded, UpsertRequest.fixed], rfl, rfl⟩
  · exact absurd overlooks.fromDescriptor (by decide)

set_option maxRecDepth 10000 in
/-- Of another descriptor it need not: the request demands it, and the document is written without
    it. -/
theorem DescriptorPolicy.overlooked_gradeLevel :
    let request := graded (Reference.asDescriptor (.fixed "SchoolTypeDescriptor" "codeValue" "s"))
    ∃ document, request.document = .ok document ∧
      ∃ id, gradeLevel.id = .ok id ∧
        DescriptorPolicy.strict.Demands request.resource.isDescriptor request.references id ∧
        id ∉ DescriptorPolicy.strict.enforced document ∧
        ((History.run .memory {} []).service.upsert request).1.status = .insertSuccess := by
  refine ⟨_, rfl, _, rfl, ?_, ?_, ?_⟩
  · exact ⟨gradeLevel.asDescriptor, by simp [graded, UpsertRequest.fixed],
      gradeLevel.id_asDescriptor.trans rfl, rfl⟩
  · decide +kernel
  · decide +kernel

end Docket
