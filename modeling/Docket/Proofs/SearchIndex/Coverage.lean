import Docket.Proofs.SearchIndex.Refinement
/-!
Listed scalars beside those that a descent finds.

An index lists the scalars of a body under joined names; a scan descends along the names that it
splits a path into. What a valid path leads to is listed, so the index misses no document that a scan
accepts. What is listed and not led to lies behind a name that is empty or holds a point
(`Json.exists_odd_name`).
-/

namespace Docket

namespace Json

theorem descend_append (front back : List String) (json : Json) :
    descend (front ++ back) json = (descend front json).bind (descend back) := by
  induction front generalizing json with
  | nil => rfl
  | cons name rest ih =>
      rw [List.cons_append, descend, descend]
      cases json.member? name with
      | none => rfl
      | some value => exact ih value

theorem exists_member_of_descend {front back : List String} {name : String} {json scalar : Json}
    (found : descend (front ++ name :: back) json = some scalar) :
    ∃ members value, descend front json = some (.object members) ∧ (name, value) ∈ members := by
  rw [descend_append] at found
  obtain ⟨middle, reached, below⟩ := Option.bind_eq_some_iff.mp found
  rw [descend] at below
  cases here : middle.member? name with
  | none => simp [here] at below
  | some value =>
      cases middle with
      | object members => exact ⟨members, value, reached, Entries.mem_of_lookup here⟩
      | null | bool | number | string | array => simp [member?] at here

/-- A scalar that is listed under a path and not found by it lies behind an object, reached through
    objects alone, that has a name which is empty or holds a point. -/
theorem exists_odd_name {json : Json} (sorted : json.canonical = true) {path text : String}
    (listed : (path, text) ∈ json.flatten) (lost : json.scalarAt path ≠ some text) :
    ∃ way members name value, descend way json = some (.object members) ∧
      (name, value) ∈ members ∧ (name = "" ∨ '.' ∈ name.toList) := by
  obtain ⟨names, scalar, found, shown, joined, nonempty⟩ := (mem_flatten_iff sorted).mp listed
  have odd : ∃ name ∈ names, ¬ PlainName name := by
    by_contra plain
    push Not at plain
    exact lost (scalarAt_of_descend plain found shown joined nonempty)
  obtain ⟨name, member, odd⟩ := odd
  obtain ⟨front, back, rfl⟩ := List.append_of_mem member
  obtain ⟨members, value, reached, inside⟩ := exists_member_of_descend found
  refine ⟨front, members, name, value, reached, inside, ?_⟩
  rw [PlainName, not_and_or, not_not, not_not] at odd
  exact odd

end Json

namespace SearchIndex

theorem mem_search_of_accepts {index : SearchIndex} {contents : Contents}
    (refines : index.Refines contents) (available : index.available = true)
    {id : DocumentId} {document : Document} (held : index.get? id = some document)
    {resource : Resource} (same : document.resource.sameCoordinates resource = true)
    {filters : Filters} (valid : filters.validate = .ok ())
    (accepted : filters.accepts document.body.json = true) :
    ∃ found, index.search resource filters .all = .ok found ∧ document ∈ found := by
  rw [refines.search_eq, if_pos available]
  refine ⟨_, rfl, ?_⟩
  rw [Pagination.apply_all, List.mem_filter, Bool.and_eq_true]
  have stored : document ∈ contents.values :=
    Table.mem_values_iff.mpr ⟨id, by rw [← refines.shown, held]⟩
  exact ⟨stored, same, Filters.foundIn_of_accepts valid document.body.canonical accepted⟩

/-- What a valid path leads to is listed; what is listed under a path that does not lead to it lies
    behind an odd name; and whatever calls have made of an index, it misses no document that a scan
    accepts. -/
theorem listed_and_led_to (body : Body) (path text : String) :
    (Json.validPath path = true → body.json.scalarAt path = some text →
      (path, text) ∈ body.json.flatten) ∧
    ((path, text) ∈ body.json.flatten → body.json.scalarAt path ≠ some text →
      ∃ way members name value, Json.descend way body.json = some (.object members) ∧
        (name, value) ∈ members ∧ (name = "" ∨ '.' ∈ name.toList)) ∧
    ∀ (calls : List Call) (id : DocumentId) (document : Document) (resource : Resource)
      (filters : Filters),
      let index := (reached calls).1
      index.available = true → index.get? id = some document →
      document.resource.sameCoordinates resource = true → filters.validate = .ok () →
      filters.accepts document.body.json = true →
        ∃ found, index.search resource filters .all = .ok found ∧ document ∈ found :=
  ⟨Json.mem_flatten_of_scalarAt body.canonical, Json.exists_odd_name body.canonical,
    fun calls _ _ _ _ available held same valid accepted =>
      mem_search_of_accepts (reached_refines calls) available held same valid accepted⟩

def oddlyNamed : Body :=
  ⟨.object [("", .object [("d", .string "2")]),
    ("a", .object [("b", .bool true), ("b.c", .string "1")])], by decide +kernel⟩

theorem listed_and_led_to_oddlyNamed :
    let document : Document := { (default : Document) with body := oddlyNamed }
    let filters := Filters.ofList [("a.b", "true")]
    let index := (reached [.upsert document]).1
    (Json.validPath "a.b" = true ∧ oddlyNamed.json.scalarAt "a.b" = some "true" ∧
      ("a.b", "true") ∈ oddlyNamed.json.flatten) ∧
    (("a.b.c", "1") ∈ oddlyNamed.json.flatten ∧ oddlyNamed.json.scalarAt "a.b.c" ≠ some "1" ∧
      ∃ way members name value, Json.descend way oddlyNamed.json = some (.object members) ∧
        (name, value) ∈ members ∧ (name = "" ∨ '.' ∈ name.toList)) ∧
    index.available = true ∧ index.get? document.id = some document ∧
      filters.validate = .ok () ∧ filters.accepts document.body.json = true ∧
      ∃ found, index.search document.resource filters .all = .ok found ∧ document ∈ found := by
  intro document filters index
  have valid : Json.validPath "a.b" = true := by decide +kernel
  have led : oddlyNamed.json.scalarAt "a.b" = some "true" := by decide +kernel
  have listed : ("a.b.c", "1") ∈ oddlyNamed.json.flatten := by decide +kernel
  have lost : oddlyNamed.json.scalarAt "a.b.c" ≠ some "1" := by decide +kernel
  have held : index.get? document.id = some document := by decide +kernel
  have accepted : filters.accepts document.body.json = true := by decide +kernel
  have plain := listed_and_led_to oddlyNamed "a.b" "true"
  have odd := listed_and_led_to oddlyNamed "a.b.c" "1"
  have search := plain.2.2 [.upsert document] document.id document document.resource filters
  exact ⟨⟨valid, led, plain.1 valid led⟩, ⟨listed, lost, odd.2.1 listed lost⟩, rfl, held,
    by decide +kernel, accepted, search rfl held (by decide +kernel) (by decide +kernel) accepted⟩

end SearchIndex

end Docket
