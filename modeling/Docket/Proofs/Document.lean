import Docket.Proofs.Table
import Docket.Service.Requests
/-!
What documents are like that a service writes.

References are put in order when a document is made of a request, and of those to one id the first
stays, which is one to no descriptor if there is any (`OutboundRef.mem_normalize_iff`). So a
document that is written has its references in strictly ascending order of id, and at most one alias
(`Request.document_eq_ok`).
-/

namespace Docket

/-- The references of a document ascend by id, and it has at most one alias, which is not its own
    id. -/
structure Document.Arranged (document : Document) : Prop where
  refs : Ascends document.outRefIds
  fewAliases : document.aliasIds.length ≤ 1
  otherAliases : document.id ∉ document.aliasIds

theorem Document.Arranged.distinct {document : Document} (arranged : document.Arranged) :
    document.existenceIds.Nodup := by
  refine List.nodup_cons.mpr ⟨arranged.otherAliases, ?_⟩
  cases ids : document.aliasIds with
  | nil => exact List.nodup_nil
  | cons id rest =>
      have few := arranged.fewAliases
      rw [ids, List.length_cons] at few
      obtain rfl := List.eq_nil_of_length_eq_zero (by omega : rest.length = 0)
      exact List.nodup_singleton id

namespace OutboundRef

theorem id_before_of_ordered {ref later : OutboundRef} (differ : ref.id ≠ later.id)
    (ordered : Key.before later ref = false) : Key.before ref.id later.id = true := by
  change (Key.before later.id ref.id || _) = false at ordered
  rw [Bool.or_eq_false_iff] at ordered
  exact Key.before_of_ne differ.symm ordered.1

theorem dropRepeatsAfter_ascends {ref : OutboundRef} {rest : List OutboundRef}
    (ordered : (ref :: rest).Pairwise fun a b => Key.before b a = false) :
    ∃ tail, dropRepeatsAfter ref rest = ref :: tail ∧
      Ascends (ref.id :: tail.map OutboundRef.id) := by
  induction rest generalizing ref with
  | nil => exact ⟨[], rfl, List.pairwise_singleton _ _⟩
  | cons next rest ih =>
      obtain ⟨later, orderedRest⟩ := List.pairwise_cons.mp ordered
      simp only [dropRepeatsAfter]
      split
      · -- The repeated reference goes, and `ref` stays before all others.
        apply ih
        apply List.pairwise_cons.mpr
        constructor
        · intro other member
          exact later other (List.mem_cons_of_mem next member)
        · exact (List.pairwise_cons.mp orderedRest).2
      · next differ =>
          obtain ⟨tail, kept, ascends⟩ := ih orderedRest
          have less := id_before_of_ordered differ (later next List.mem_cons_self)
          refine ⟨next :: tail, by rw [kept], List.pairwise_cons.mpr ⟨?_, ascends⟩⟩
          intro id member
          rcases List.mem_cons.mp member with rfl | behind
          · exact less
          · exact Key.trans less ((List.pairwise_cons.mp ascends).1 id behind)

theorem normalize_ascends (refs : List OutboundRef) :
    Ascends ((normalize refs).map OutboundRef.id) := by
  have ordered := sortKeys_ordered refs
  unfold normalize
  cases sorted : sortKeys refs with
  | nil => exact List.Pairwise.nil
  | cons ref rest =>
      rw [sorted] at ordered
      obtain ⟨tail, kept, ascends⟩ := dropRepeatsAfter_ascends ordered
      rw [dropRepeats, kept]
      exact ascends

theorem dropRepeatsAfter_sublist (ref : OutboundRef) (rest : List OutboundRef) :
    (dropRepeatsAfter ref rest).Sublist (ref :: rest) := by
  induction rest generalizing ref with
  | nil => exact .refl _
  | cons next rest ih =>
      simp only [dropRepeatsAfter]
      split
      · exact (ih ref).trans ((List.sublist_cons_self next rest).cons_cons ref)
      · exact (ih next).cons_cons ref

theorem mem_of_mem_normalize {ref : OutboundRef} {refs : List OutboundRef}
    (kept : ref ∈ normalize refs) : ref ∈ refs := by
  apply (sortKeys_perm refs).mem_iff.mp
  unfold normalize at kept
  cases sorted : sortKeys refs with
  | nil => simp [sorted, dropRepeats] at kept
  | cons first rest =>
      rw [sorted] at kept
      exact (dropRepeatsAfter_sublist first rest).subset kept

theorem exists_kept_of_mem {ref other : OutboundRef} {rest : List OutboundRef}
    (ordered : (ref :: rest).Pairwise fun a b => Key.before b a = false)
    (member : other ∈ ref :: rest) :
    ∃ kept ∈ dropRepeatsAfter ref rest, kept.id = other.id ∧ Key.before other kept = false := by
  induction rest generalizing ref with
  | nil =>
      obtain rfl := List.mem_singleton.mp member
      exact ⟨other, List.mem_cons_self, rfl, Key.irrefl other⟩
  | cons next rest ih =>
      obtain ⟨later, orderedRest⟩ := List.pairwise_cons.mp ordered
      have first : ref ∈ dropRepeatsAfter ref (next :: rest) := by
        obtain ⟨tail, kept, _⟩ := dropRepeatsAfter_ascends ordered
        exact kept ▸ List.mem_cons_self
      rcases List.mem_cons.mp member with rfl | behind
      · exact ⟨other, first, rfl, Key.irrefl other⟩
      · simp only [dropRepeatsAfter] at first ⊢
        split at first
        · next same =>
            rw [if_pos same]
            rcases List.mem_cons.mp behind with rfl | behind
            · exact ⟨ref, first, same, later other List.mem_cons_self⟩
            · have without := ordered.sublist ((List.sublist_cons_self next rest).cons_cons ref)
              exact ih without (List.mem_cons_of_mem ref behind)
        · next differ =>
            rw [if_neg differ]
            obtain ⟨kept, member, facts⟩ := ih orderedRest behind
            exact ⟨kept, List.mem_cons_of_mem ref member, facts⟩

theorem exists_mem_normalize {ref : OutboundRef} {refs : List OutboundRef} (member : ref ∈ refs) :
    ∃ kept ∈ normalize refs, kept.id = ref.id ∧ Key.before ref kept = false := by
  have sorted : ref ∈ sortKeys refs := (sortKeys_perm refs).mem_iff.mpr member
  have ordered := sortKeys_ordered refs
  unfold normalize
  cases shape : sortKeys refs with
  | nil => simp [shape] at sorted
  | cons first rest =>
      rw [shape] at sorted ordered
      exact exists_kept_of_mem ordered sorted

theorem before_eq_false_iff {ref other : OutboundRef} (same : other.id = ref.id) :
    Key.before other ref = false ↔ (ref.isDescriptor = true → other.isDescriptor = true) := by
  change (Key.before other.id ref.id || (decide (other.id = ref.id)
    && (!other.isDescriptor && ref.isDescriptor))) = false ↔ _
  rw [same]
  cases ref.isDescriptor <;> cases other.isDescriptor <;> simp [Key.irrefl]

/-- A reference stays, unless it goes to a descriptor and another to the same id does not. -/
theorem mem_normalize_iff {ref : OutboundRef} {refs : List OutboundRef} :
    ref ∈ normalize refs ↔
      ref ∈ refs ∧ (ref.isDescriptor = true →
        ∀ other ∈ refs, other.id = ref.id → other.isDescriptor = true) := by
  constructor
  · intro kept
    refine ⟨mem_of_mem_normalize kept, fun descriptor other member same => ?_⟩
    obtain ⟨first, kept', sameId, notBefore⟩ := exists_mem_normalize member
    -- One reference is kept for an id, and `ref` is kept.
    obtain rfl : first = ref :=
      List.inj_on_of_nodup_map ((normalize_ascends refs).imp Key.ne_of_before) kept' kept
        (sameId.trans same)
    exact (before_eq_false_iff same).mp notBefore descriptor
  · rintro ⟨member, alone⟩
    obtain ⟨kept, member', same, notBefore⟩ := exists_mem_normalize member
    have notAfter : Key.before kept ref = false :=
      (before_eq_false_iff same).mpr fun descriptor =>
        alone descriptor kept (mem_of_mem_normalize member') same
    exact Key.connex notBefore notAfter ▸ member'

end OutboundRef

theorem Derivation.isEmpty_of_checkedId {resource : Resource} {identity : Identity}
    {id : DocumentId} (checked : checkedId resource identity = .ok id) :
    identity.isEmpty = false := by
  unfold checkedId at checked
  split at checked
  · simp at checked
  · split at checked
    · simp at checked
    · next fields => exact Bool.not_eq_true _ ▸ fields

namespace Reference

theorem resolve_eq_ok_iff {reference : Reference} {ref : OutboundRef} :
    reference.resolve = .ok ref ↔
      reference.id = .ok ref.id ∧ reference.resource.isDescriptor = ref.isDescriptor := by
  unfold resolve
  cases reference.id with
  | error cause => simp
  | ok id =>
      cases ref
      simp

theorem resolveAll_cons_eq_ok {first : Reference} {rest : List Reference} {refs : List OutboundRef}
    (resolved : resolveAll (first :: rest) = .ok refs) :
    ∃ head tail, first.resolve = .ok head ∧ resolveAll rest = .ok tail ∧ refs = head :: tail := by
  simp only [resolveAll] at resolved
  split at resolved
  · simp at resolved
  · next head found =>
      split at resolved
      · simp at resolved
      · next tail resolvedRest => exact ⟨head, tail, found, resolvedRest, (Except.ok.inj resolved).symm⟩

theorem exists_resolve_of_resolveAll {references : List Reference} {refs : List OutboundRef}
    (resolved : resolveAll references = .ok refs) {reference : Reference}
    (member : reference ∈ references) : ∃ ref, reference.resolve = .ok ref := by
  induction references generalizing refs with
  | nil => cases member
  | cons first rest ih =>
      obtain ⟨head, tail, found, resolvedRest, rfl⟩ := resolveAll_cons_eq_ok resolved
      rcases List.mem_cons.mp member with rfl | behind
      · exact ⟨head, found⟩
      · exact ih resolvedRest behind

theorem mem_of_resolveAll {references : List Reference} {refs : List OutboundRef}
    (resolved : resolveAll references = .ok refs) {ref : OutboundRef} :
    ref ∈ refs ↔ ∃ reference ∈ references, reference.resolve = .ok ref := by
  induction references generalizing refs with
  | nil =>
      obtain rfl := Except.ok.inj resolved
      simp
  | cons first rest ih =>
      obtain ⟨head, tail, found, resolvedRest, rfl⟩ := resolveAll_cons_eq_ok resolved
      rw [List.mem_cons, List.exists_mem_cons_iff, ih resolvedRest, found, Except.ok.injEq, eq_comm]

end Reference

namespace Request

variable {resource : Resource} {identity : Identity} {body : Body} {references : List Reference}
  {superclass : Option Reference} {security : Security} {document : Document}

theorem aliasIds_eq_ok {id : DocumentId} {ids : List DocumentId}
    (made : aliasIds id superclass = .ok ids) : ids.length ≤ 1 ∧ id ∉ ids := by
  unfold aliasIds at made
  split at made
  · obtain rfl := Except.ok.inj made
    simp
  · split at made
    · simp at made
    · next other _ =>
        obtain rfl := Except.ok.inj made
        by_cases own : other = id
        · simp [own]
        · simp [own, Ne.symm own]

theorem exists_id_of_aliasIds {id : DocumentId} {ids : List DocumentId}
    (made : aliasIds id superclass = .ok ids) {reference : Reference}
    (given : superclass = some reference) : ∃ other, reference.id = .ok other := by
  subst given
  simp only [aliasIds] at made
  split at made
  · simp at made
  · next other found => exact ⟨other, found⟩

structure MadeOf (resource : Resource) (identity : Identity) (body : Body)
    (references : List Reference) (superclass : Option Reference) (security : Security)
    (document : Document) : Prop where
  id : Derivation.checkedId resource identity = .ok document.id
  resource : document.resource = resource
  identity : document.identity = identity
  body : document.body = body
  outRefs : ∃ refs, Reference.resolveAll references = .ok refs ∧
    document.outRefs = OutboundRef.normalize refs
  aliasIds : aliasIds document.id superclass = .ok document.aliasIds
  createdBy : document.createdBy = some security.clientId

theorem madeOf_of_document
    (made : Request.document resource identity body references superclass security
      = .ok document) : MadeOf resource identity body references superclass security document := by
  unfold Request.document at made
  split at made
  · simp at made
  · next id checked =>
      split at made
      · simp at made
      · next refs resolved =>
          split at made
          · simp at made
          · next ids given =>
              obtain rfl := Except.ok.inj made
              exact ⟨checked, rfl, rfl, rfl, ⟨refs, resolved, rfl⟩, given, rfl⟩

def identities (identity : Identity) (references : List Reference)
    (superclass : Option Reference) : List Identity :=
  identity :: (references ++ superclass.toList).map Reference.identity

theorem MadeOf.isEmpty_eq_false
    (parts : MadeOf resource identity body references superclass security document) :
    ∀ given ∈ identities identity references superclass, given.isEmpty = false := by
  intro given member
  rcases List.mem_cons.mp member with rfl | others
  · exact Derivation.isEmpty_of_checkedId parts.id
  · obtain ⟨reference, among, rfl⟩ := List.mem_map.mp others
    obtain ⟨id, checked⟩ : ∃ id, reference.id = .ok id := by
      rcases List.mem_append.mp among with listed | above
      · obtain ⟨refs, resolved, _⟩ := parts.outRefs
        obtain ⟨ref, resolves⟩ := Reference.exists_resolve_of_resolveAll resolved listed
        exact ⟨ref.id, (Reference.resolve_eq_ok_iff.mp resolves).1⟩
      · exact exists_id_of_aliasIds parts.aliasIds (Option.mem_toList.mp above)
    exact Derivation.isEmpty_of_checkedId checked

/-- A document refers to what the request does, and of two references of it to one id it has the one
    that goes to no descriptor. -/
theorem MadeOf.mem_outRefs_iff
    (parts : MadeOf resource identity body references superclass security document)
    {ref : OutboundRef} :
    ref ∈ document.outRefs ↔
      (∃ reference ∈ references, reference.resolve = .ok ref) ∧
        (ref.isDescriptor = true → ∀ reference ∈ references, reference.id = .ok ref.id →
          reference.resource.isDescriptor = true) := by
  obtain ⟨refs, resolved, outRefs⟩ := parts.outRefs
  rw [outRefs, OutboundRef.mem_normalize_iff]
  simp only [Reference.mem_of_resolveAll resolved]
  refine and_congr_right fun _ => imp_congr_right fun _ => ?_
  constructor
  · intro alone reference member same
    exact alone ⟨ref.id, reference.resource.isDescriptor⟩
      ⟨reference, member, Reference.resolve_eq_ok_iff.mpr ⟨same, rfl⟩⟩ rfl
  · rintro alone other ⟨reference, member, resolves⟩ same
    obtain ⟨id, kind⟩ := Reference.resolve_eq_ok_iff.mp resolves
    exact kind ▸ alone reference member (same ▸ id)

theorem document_eq_ok
    (made : Request.document resource identity body references superclass security
      = .ok document) : document.Arranged ∧ document.body = body := by
  have parts := madeOf_of_document made
  obtain ⟨refs, -, outRefs⟩ := parts.outRefs
  obtain ⟨few, others⟩ := aliasIds_eq_ok parts.aliasIds
  refine ⟨⟨?_, few, others⟩, parts.body⟩
  rw [Document.outRefIds, outRefs]
  exact OutboundRef.normalize_ascends refs

end Request

end Docket
