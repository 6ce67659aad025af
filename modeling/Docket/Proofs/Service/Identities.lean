import Docket.Proofs.Identity
import Docket.Proofs.Service.Effects
import Docket.Proofs.Wire.Message
/-!
Which identities get into a store by the requests that a service is sent.

A document is made of identities that have a field each, so a write that is done has no other
(`Request.MadeOf.isEmpty_eq_false`). The names of the fields are not looked at again once an identity
is decoded: what a request brings is what pairs can make as long as none of its objects has a member
without a name (`Service.identities_committed`), and else it is not, and is stored all the same.
-/

namespace Docket

namespace Request

variable {json : Json} {resource : Resource} {identity : Identity} {body : Body}
  {references : List Reference} {superclass : Option Reference} {security : Security}

structure CommittedIdentities (json : Json) (resource : Resource) (identity : Identity)
    (references : List Reference) (superclass : Option Reference) (store : Engine) : Prop where
  /-- The document is stored with the identity of the request, under the id derived from it. -/
  stored : ∃ id contents document, Derivation.checkedId resource identity = .ok id ∧
    store.Holds contents ∧ contents.get? id = some document ∧ document.identity = identity
  /-- Every identity has a field. -/
  isEmpty : ∀ given ∈ identities identity references superclass, given.isEmpty = false
  /-- Pairs could have made every identity exactly if no field in the JSON form has an empty name. -/
  constructible : (∀ given ∈ identities identity references superclass, given.Constructible) ↔
    ∀ value ∈ identityValues json, value.member? "" = none

theorem committedIdentities_of_effect {κ α : Type} {service : Service Engine κ}
    {contents : Contents} {kind : WriteKind α} {run : α × Service Engine κ}
    (effect : service.WriteEffect kind
      (Request.document resource identity body references superclass security) run)
    (held : service.store.Holds contents) (done : kind.succeeds run.1 = true)
    (decoded : List.Forall₂ (fun value identity => Identity.decode? value = some identity)
      (identityValues json) (identities identity references superclass)) :
    CommittedIdentities json resource identity references superclass run.2.store := by
  obtain ⟨document, applied, made, written, kept⟩ := effect.writes done
  obtain ⟨_, after⟩ := Engine.accepts_of_write held written kept
  have parts := madeOf_of_document made
  have isEmpty := parts.isEmpty_eq_false
  have found := @Contents.get?_put_self contents (service.config.validation.write document).document
  rw [ValidationSettings.write_id] at found
  refine ⟨⟨document.id, _, _, parts.id, after, found, ?_⟩, isEmpty, ?_⟩
  · rw [Document.keepingCreator_identity, ValidationSettings.write_identity, parts.identity]
  · rw [← Identity.forall_get?_eq_none_iff decoded]
    refine forall₂_congr fun given member => ?_
    rw [Identity.constructible_iff, isEmpty given member, eq_self, true_and]

end Request

namespace Service

variable {κ : Type} [ProjectionSink κ]

/-- When an upsert or an update is done that was decoded from JSON, in whatever state of the service,
    its document is stored with the identity of the request, and this and the identities of all that
    it refers to have a field. Pairs could have made them all if and only if no field has an empty
    name where they stand in the JSON form. -/
theorem identities_committed (service : Service Engine κ) {contents : Contents}
    (held : service.store.Holds contents) (freshTrace : String) (json : Json) :
    (∀ request, UpsertRequest.decode? freshTrace json = some request →
      (service.upsert request).1.isSuccess = true →
      Request.CommittedIdentities json request.resource request.identity request.references
        request.superclass (service.upsert request).2.store) ∧
    ∀ request, UpdateRequest.decode? freshTrace json = some request →
      (service.update request).1.status = .updateSuccess →
      Request.CommittedIdentities json request.resource request.identity request.references
        request.superclass (service.update request).2.store := by
  constructor
  · intro request decoded done
    have effect : service.WriteEffect .upsert request.document (service.upsert request) :=
      service.write_effect (request.runs service.index service.store)
    exact Request.committedIdentities_of_effect effect held done
      (UpsertRequest.identities_decoded decoded)
  · intro request decoded done
    have effect : service.WriteEffect .update request.document (service.update request) :=
      service.write_effect (request.runs service.index service.store)
    exact Request.committedIdentities_of_effect effect held (decide_eq_true done)
      (UpdateRequest.identities_decoded decoded)

set_option maxRecDepth 10000 in
theorem identities_committed_school :
    let organization : Reference := .fixed "EducationOrganization" "educationOrganizationId" "1"
    let school := UpsertRequest.fixed (.fixed "School" "schoolId" "1") [] (some organization)
    let id := Derivation.documentId "Ed-Fi" "School" "3.3.1-b" school.identity
    let history := History.run .memory {} [.upsert school]
    let upsert : UpsertRequest := { school with id := some id }
    let update : UpdateRequest :=
      ⟨id, school.resource, school.identity, school.body, [], some organization, school.security, ""⟩
    let json := update.encode
    history.service.store.Holds history.written ∧
      UpsertRequest.decode? "" json = some upsert ∧
      (history.service.upsert upsert).1.isSuccess = true ∧
      UpdateRequest.decode? "" json = some update ∧
      (history.service.update update).1.status = .updateSuccess ∧
      Request.CommittedIdentities json school.resource school.identity [] (some organization)
        (history.service.upsert upsert).2.store ∧
      Request.CommittedIdentities json school.resource school.identity [] (some organization)
        (history.service.update update).2.store ∧
      ∀ given ∈ Request.identities school.identity [] (some organization), given.Constructible := by
  intro organization school id history upsert update json
  have held := (History.run_sound .memory {} [.upsert school]).held
  have asUpsert : UpsertRequest.decode? "" json = some upsert := by decide +kernel
  have upserted : (history.service.upsert upsert).1.isSuccess = true := by decide +kernel
  have asUpdate : UpdateRequest.decode? "" json = some update := by decide +kernel
  have updated : (history.service.update update).1.status = .updateSuccess := by decide +kernel
  have committed := identities_committed history.service held "" json
  have named : ∀ value ∈ Request.identityValues json, value.member? "" = none := by decide +kernel
  have ofUpsert := committed.1 upsert asUpsert upserted
  exact ⟨held, asUpsert, upserted, asUpdate, updated, ofUpsert, committed.2 update asUpdate updated,
    ofUpsert.constructible.mpr named⟩

set_option maxRecDepth 10000 in
/-- A field without a name is decoded and stored, which no pairs could have made. -/
theorem nameless_identity_committed :
    let service := (History.run .memory {} []).service
    let request := UpsertRequest.fixed (.fixed "School" "" "1") [] none
    let written := service.upsert request
    UpsertRequest.decode? "" request.encode = some request ∧
      written.1.isSuccess = true ∧
      (∃ id, written.1.id = some id ∧
        (written.2.get ⟨id, request.security, ""⟩).1.document.map Document.identity
          = some request.identity) ∧
      ¬ ∃ pairs, Identity.ofPairs pairs = .ok request.identity := by
  intro service request written
  refine ⟨by decide +kernel, by decide +kernel, ?_, ?_⟩
  · have told : (written.1.id.bind fun id =>
        (written.2.get ⟨id, request.security, ""⟩).1.document.map Document.identity)
          = some request.identity := by decide +kernel
    exact Option.bind_eq_some_iff.mp told
  · rw [Identity.exists_ofPairs_eq_iff]
    decide

end Service

end Docket
