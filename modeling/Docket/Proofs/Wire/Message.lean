import Docket.Proofs.Document
import Docket.Wire.Message
import Mathlib.Data.List.Forall2
/-!
Where the identities of a request stand in its JSON form.

A decoder finds a field of a record by its name or by its place (`Wire.given?`). A request has its own
identity in a field, and those of what it refers to in the fields of fields; they are decoded from
just the values that stand there, each from its own (`Request.identities_decoded`). An identity that
is decoded has the names of the object that it is decoded from (`Identity.get?_eq_none_iff_member?`),
whatever these are.
-/

namespace Docket

namespace Wire

theorem all?_eq_some_iff {τ α : Type} {decode : τ → Option α} {items : List τ}
    {values : List α} :
    all? decode items = some values ↔
      List.Forall₂ (fun item value => decode item = some value) items values := by
  induction items generalizing values with
  | nil => simp [all?, eq_comm]
  | cons item rest ih =>
      rw [all?, List.forall₂_cons_left_iff]
      simp only [← ih]
      cases decode item with
      | none => simp
      | some value =>
          cases all? decode rest with
          | none => simp
          | some values' => simp [eq_comm]

variable {τ α : Type} [Format τ]

theorem names_of_textMembers {members : List (String × τ)} {texts : List (String × String)}
    (decoded : all? textMember? members = some texts) :
    texts.map Prod.fst = members.map Prod.fst := by
  have places := all?_eq_some_iff.mp decoded
  clear decoded
  induction places with
  | nil => rfl
  | cons here _ ih =>
      obtain ⟨text, _, rfl⟩ := Option.map_eq_some_iff.mp here
      rw [List.map_cons, List.map_cons, ih]

/-- The value that is given for a field of a record, by its name or by its place. -/
def given? (names : List String) (name : String) (value : τ) : Option τ :=
  match fields? names value with
  | some field =>
      match field name with
      | .given part => some part
      | .absent | .cut => none
  | none => none

variable {names : List String} {name : String} {value : τ} {field : String → Supplied τ}
  {decode : τ → Option α} {result default : α}

theorem exists_given_of_required (fields : fields? names value = some field)
    (decoded : (field name).required decode = some result) :
    ∃ part, given? names name value = some part ∧ decode part = some result := by
  simp only [given?, fields]
  cases supplied : field name with
  | given part =>
      rw [supplied] at decoded
      exact ⟨part, rfl, decoded⟩
  | absent | cut =>
      rw [supplied] at decoded
      cases decoded

theorem given_or_default (fields : fields? names value = some field)
    (decoded : (field name).withDefault default decode = some result) :
    (given? names name value = none ∧ result = default) ∨
      ∃ part, given? names name value = some part ∧ decode part = some result := by
  simp only [given?, fields]
  cases supplied : field name with
  | given part =>
      rw [supplied] at decoded
      exact .inr ⟨part, rfl, decoded⟩
  | absent | cut =>
      rw [supplied] at decoded
      exact .inl ⟨rfl, (Option.some.inj decoded).symm⟩

def items : Json → List Json
  | .array items => items
  | _ => []

theorem forall₂_of_list? {decode : Json → Option α} {json : Json} {values : List α}
    (decoded : list? decode json = some values) :
    List.Forall₂ (fun item value => decode item = some value) (items json) values := by
  cases json with
  | array items => exact all?_eq_some_iff.mp decoded
  | number value => cases value <;> cases decoded
  | null | bool | string | object => cases decoded

theorem null_or_of_nullable {decode : Json → Option α} {json : Json} {result : Option α}
    (decoded : nullable decode json = some result) :
    (json = .null ∧ result = none) ∨
      json ≠ .null ∧ ∃ value, result = some value ∧ decode json = some value := by
  by_cases null : json = .null
  · subst null
    exact .inl ⟨rfl, (Option.some.inj decoded).symm⟩
  · right
    have read : (decode json).map some = some result := by
      cases json with
      | null => exact absurd rfl null
      | number value => cases value <;> exact decoded
      | bool | string | array | object => exact decoded
    obtain ⟨value, found, rfl⟩ := Option.map_eq_some_iff.mp read
    exact ⟨null, value, rfl, found⟩

end Wire

open Wire

theorem Identity.get?_eq_none_iff_member? {json : Json} {identity : Identity}
    (decoded : decode? json = some identity) (name : String) :
    identity.get? name = none ↔ json.member? name = none := by
  obtain ⟨table, read, rfl⟩ := Option.map_eq_some_iff.mp decoded
  cases json with
  | object members =>
      obtain ⟨texts, each, rfl⟩ := Option.map_eq_some_iff.mp read
      rw [Json.member?, Entries.lookup_eq_none_iff, ← names_of_textMembers each]
      exact Table.get?_ofList_eq_none_iff
  | number value => cases value <;> cases read
  | null | bool | string | array => cases read

theorem Identity.forall_get?_eq_none_iff {values : List Json} {identities : List Identity}
    (decoded : List.Forall₂ (fun value identity => decode? value = some identity) values
      identities) (name : String) :
    (∀ identity ∈ identities, identity.get? name = none) ↔
      ∀ value ∈ values, value.member? name = none := by
  induction decoded with
  | nil => simp
  | cons here _ ih =>
      rw [List.forall_mem_cons, List.forall_mem_cons, ih, get?_eq_none_iff_member? here]

namespace Reference

def identityValue? (json : Json) : Option Json := given? ["resource", "identity"] "identity" json

theorem exists_identityValue_of_decode? {json : Json} {reference : Reference}
    (decoded : decode? json = some reference) :
    ∃ value, identityValue? json = some value ∧
      Identity.decode? value = some reference.identity := by
  obtain ⟨field, fields, decoded⟩ := Option.bind_eq_some_iff.mp decoded
  obtain ⟨resource, _, decoded⟩ := Option.bind_eq_some_iff.mp decoded
  obtain ⟨identity, own, made⟩ := Option.bind_eq_some_iff.mp decoded
  obtain rfl := Option.some.inj made
  exact exists_given_of_required fields own

theorem identities_decoded {values : List Json} {references : List Reference}
    (decoded : List.Forall₂ (fun value reference => decode? value = some reference) values
      references) :
    List.Forall₂ (fun value identity => Identity.decode? value = some identity)
      (values.filterMap identityValue?) (references.map identity) := by
  induction decoded with
  | nil => exact .nil
  | cons here _ ih =>
      obtain ⟨value, found, decoded⟩ := exists_identityValue_of_decode? here
      rw [List.filterMap_cons_some found, List.map_cons]
      exact .cons decoded ih

end Reference

namespace Request

def referenceValues (json : Json) : List Json :=
  (given? UpsertRequest.fieldNames "references" json).elim [] items
    ++ ((given? UpsertRequest.fieldNames "superclass" json).filter (· ≠ .null)).toList

def identityValues (json : Json) : List Json :=
  (given? UpsertRequest.fieldNames "identity" json).toList
    ++ (referenceValues json).filterMap Reference.identityValue?

variable {json : Json} {field : String → Supplied Json} {identity : Identity}
  {references : List Reference} {superclass : Option Reference}

theorem references_decoded (fields : fields? UpsertRequest.fieldNames json = some field)
    (listed : (field "references").withDefault [] (list? Reference.decode?) = some references)
    (above : (field "superclass").withDefault none (nullable Reference.decode?)
      = some superclass) :
    List.Forall₂ (fun value reference => Reference.decode? value = some reference)
      (referenceValues json) (references ++ superclass.toList) := by
  refine List.rel_append ?_ ?_
  · obtain ⟨absent, rfl⟩ | ⟨value, found, decoded⟩ := given_or_default fields listed
    · rw [absent]
      exact .nil
    · rw [found]
      exact forall₂_of_list? decoded
  · obtain ⟨absent, rfl⟩ | ⟨value, found, decoded⟩ := given_or_default fields above
    · rw [absent]
      exact .nil
    · rw [found]
      obtain ⟨rfl, rfl⟩ | ⟨notNull, reference, rfl, single⟩ := null_or_of_nullable decoded
      · exact .nil
      · rw [Option.filter_some, if_pos (by simpa using notNull)]
        exact .cons single .nil

theorem identities_decoded (fields : fields? UpsertRequest.fieldNames json = some field)
    (own : (field "identity").required Identity.decode? = some identity)
    (listed : (field "references").withDefault [] (list? Reference.decode?) = some references)
    (above : (field "superclass").withDefault none (nullable Reference.decode?)
      = some superclass) :
    List.Forall₂ (fun value identity => Identity.decode? value = some identity)
      (identityValues json) (identities identity references superclass) := by
  obtain ⟨value, found, decoded⟩ := exists_given_of_required fields own
  rw [identityValues, found]
  exact .cons decoded (Reference.identities_decoded (references_decoded fields listed above))

end Request

variable {json : Json} {freshTrace : String}

theorem UpsertRequest.identities_decoded {request : UpsertRequest}
    (decoded : decode? freshTrace json = some request) :
    List.Forall₂ (fun value identity => Identity.decode? value = some identity)
      (Request.identityValues json)
      (Request.identities request.identity request.references request.superclass) := by
  simp only [decode?, bind, Option.bind_eq_some_iff] at decoded
  obtain ⟨field, fields, id, _, resource, _, identity, own, body, _, references, listed, superclass,
    above, security, _, traceId, _, made⟩ := decoded
  obtain rfl := Option.some.inj made
  exact Request.identities_decoded fields own listed above

theorem UpdateRequest.identities_decoded {request : UpdateRequest}
    (decoded : decode? freshTrace json = some request) :
    List.Forall₂ (fun value identity => Identity.decode? value = some identity)
      (Request.identityValues json)
      (Request.identities request.identity request.references request.superclass) := by
  simp only [decode?, bind, Option.bind_eq_some_iff] at decoded
  obtain ⟨field, fields, id, _, resource, _, identity, own, body, _, references, listed, superclass,
    above, security, _, traceId, _, made⟩ := decoded
  obtain rfl := Option.some.inj made
  exact Request.identities_decoded fields own listed above

end Docket
