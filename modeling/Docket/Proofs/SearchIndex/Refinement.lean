import Docket.Projection.Sink
import Docket.Proofs.Filter
import Docket.Proofs.SearchIndex
import Docket.Proofs.Store.Contents
/-!
The search index as a refinement of a plain map.

An index keeps its documents by name, with posting lists beside them and an owner for each id. In an
index that calls have made of the empty one the three agree (`Consistent`), so all that it answers
can be told from the documents alone, as one map from ids: which ids it has, under what names, and
what a search finds (`refines_map`).
-/

namespace Docket

theorem Resource.indexName_eq_of_sameCoordinates {resource other : Resource}
    (same : resource.sameCoordinates other = true) : resource.indexName = other.indexName := by
  simp only [sameCoordinates, Bool.and_eq_true, decide_eq_true_eq] at same
  obtain ⟨⟨project, name⟩, version⟩ := same
  simp only [indexName, project, name, version]

namespace SearchIndex

variable {index next : SearchIndex}

structure Consistent (index : SearchIndex) : Prop where
  orderly : index.Orderly
  /-- An id with an owner has a document. -/
  led : ∀ id name, index.owners.get? id = some name → ∃ document, index.get? id = some document
  exact : ∀ name kept, index.indices.get? name = some kept → kept.Exact

theorem consistent_empty : empty.Consistent where
  orderly := orderly_empty
  led id name owned := by simp [empty] at owned
  exact name kept found := by simp [empty] at found

theorem Consistent.removeEntry (consistent : index.Consistent) (gone : DocumentId) :
    (index.removeEntry gone).Consistent := by
  refine ⟨consistent.orderly.removeEntry gone, ?_, ?_⟩
  · intro id name owned
    have before : index.owners.get? id = some name ∧ id ≠ gone := by
      unfold SearchIndex.removeEntry at owned
      split at owned
      · next absent =>
          refine ⟨owned, ?_⟩
          rintro rfl
          simp [absent] at owned
      · simp only [Table.get?_erase] at owned
        split at owned
        · simp at owned
        · next other => exact ⟨owned, other⟩
    obtain ⟨document, stored⟩ := consistent.led id name before.1
    exact ⟨document, by rw [get?_removeEntry, if_neg before.2, stored]⟩
  · intro name kept found
    unfold SearchIndex.removeEntry at found
    split at found
    · exact consistent.exact name kept found
    · next home _ =>
        cases here : index.indices.get? home with
        | none => exact consistent.exact name kept (by simpa [here] using found)
        | some old =>
            simp only [here, Table.get?_insert] at found
            split at found
            · obtain rfl := Option.some.inj found
              exact (consistent.exact home old here).take gone
            · exact consistent.exact name kept found

theorem Consistent.vacated (consistent : index.Consistent) (id : DocumentId) (name : String) :
    (index.vacated id name).Consistent := by
  unfold SearchIndex.vacated
  split
  · exact consistent.removeEntry id
  · exact consistent

theorem Consistent.placed (consistent : index.Consistent) {name : String} {document : Document}
    (named : document.resource.indexName = name)
    (left : ∀ owner, index.owners.get? document.id = some owner → owner = name) :
    (index.placed name document).Consistent := by
  refine ⟨consistent.orderly.placed named left, ?_, ?_⟩
  · intro id owner owned
    rw [get?_placed]
    split
    · exact ⟨document, rfl⟩
    · next other =>
        simp only [SearchIndex.placed, Table.get?_insert, other, if_false] at owned
        exact consistent.led id owner owned
  · intro name' kept found
    simp only [SearchIndex.placed, Table.get?_insert] at found
    split at found
    · obtain rfl := Option.some.inj found
      apply ResourceIndex.Exact.put
      cases before : index.indices.get? name with
      | none => exact ResourceIndex.exact_empty
      | some old => exact consistent.exact name old before
    · exact consistent.exact name' kept found

theorem Consistent.upsert (consistent : index.Consistent) {document : Document}
    (done : index.upsert document = .ok next) : next.Consistent := by
  obtain ⟨_, _, rfl⟩ := upsert_eq_ok_iff.mp done
  exact (consistent.vacated document.id _).placed rfl fun _ => get?_owners_vacated

theorem Consistent.remove (consistent : index.Consistent) {key : DocumentId}
    (done : index.remove key = .ok next) : next.Consistent := by
  obtain ⟨version, rfl⟩ := remove_eq_ok done
  have without := consistent.removeEntry key
  exact ⟨without.orderly, without.led, without.exact⟩

theorem Consistent.clear (done : index.clear = .ok next) : next.Consistent := by
  obtain ⟨version, rfl⟩ := clear_eq_ok done
  exact ⟨consistent_empty.orderly, consistent_empty.led, consistent_empty.exact⟩

structure Refines (index : SearchIndex) (contents : Contents) : Prop where
  consistent : index.Consistent
  shown : ∀ id, index.get? id = contents.get? id

variable {contents : Contents}

theorem Refines.contains_eq (refines : index.Refines contents) (id : DocumentId) :
    index.contains id = contents.contains id := by
  rw [Bool.eq_iff_iff, Table.contains_iff, contains, Table.contains_iff]
  constructor
  · rintro ⟨name, owned⟩
    obtain ⟨document, stored⟩ := refines.consistent.led id name owned
    exact ⟨document, (refines.shown id).symm.trans stored⟩
  · rintro ⟨document, stored⟩
    rw [← refines.shown, get?] at stored
    obtain ⟨name, owned, _⟩ := Option.bind_eq_some_iff.mp stored
    exact ⟨name, owned⟩

theorem Refines.size_eq (refines : index.Refines contents) : index.size = contents.size := by
  have same : index.owners.keys = contents.keys := by
    apply eq_of_ascends (Table.keys_ascending _) (Table.keys_ascending _)
    intro id
    rw [← Table.contains_iff_mem_keys, ← Table.contains_iff_mem_keys, ← refines.contains_eq id]
    rfl
  simpa [Table.keys, size, Table.size] using congrArg List.length same

theorem Refines.ids_eq (refines : index.Refines contents) :
    contents.values.map Document.id = contents.keys := by
  rw [Table.values, Table.keys, List.map_map]
  apply List.map_congr_left
  rintro ⟨id, document⟩ member
  have stored := (refines.shown id).trans (Table.mem_toList_iff.mp member)
  rw [get?] at stored
  obtain ⟨name, _, stored⟩ := Option.bind_eq_some_iff.mp stored
  obtain ⟨kept, found, stored⟩ := Option.bind_eq_some_iff.mp stored
  exact (refines.consistent.orderly name kept id document found stored).2.1

theorem Refines.get?_eq_some_iff (refines : index.Refines contents) {id : DocumentId}
    {document : Document} :
    contents.get? id = some document ↔
      ∃ kept, index.indices.get? document.resource.indexName = some kept ∧
        kept.documents.get? id = some document := by
  have orderly := refines.consistent.orderly
  rw [← refines.shown]
  constructor
  · intro stored
    rw [get?] at stored
    obtain ⟨name, _, stored⟩ := Option.bind_eq_some_iff.mp stored
    obtain ⟨kept, found, stored⟩ := Option.bind_eq_some_iff.mp stored
    obtain ⟨_, _, named⟩ := orderly name kept id document found stored
    exact ⟨kept, by rw [named, found], stored⟩
  · rintro ⟨kept, found, stored⟩
    exact orderly.get?_eq found stored

theorem Refines.names_eq (refines : index.Refines contents) :
    index.names = KeySet.sorted (contents.values.map fun document => document.resource.indexName)
    := by
  apply eq_of_ascends (Table.keys_ascending _) (KeySet.sorted_ascending _)
  intro name
  rw [KeySet.mem_sorted, Table.mem_keys_filter_iff, List.mem_map]
  constructor
  · rintro ⟨kept, found, some⟩
    have some : kept.documents.values ≠ [] := by
      intro nothing
      simp [Table.values, Table.isEmpty] at nothing some
      exact some nothing
    obtain ⟨document, member⟩ := List.exists_mem_of_ne_nil _ some
    obtain ⟨id, stored⟩ := Table.mem_values_iff.mp member
    obtain ⟨_, _, named⟩ := refines.consistent.orderly name kept id document found stored
    refine ⟨document, Table.mem_values_iff.mpr ⟨id, ?_⟩, named⟩
    exact refines.get?_eq_some_iff.mpr ⟨kept, by rw [named, found], stored⟩
  · rintro ⟨document, member, rfl⟩
    obtain ⟨id, stored⟩ := Table.mem_values_iff.mp member
    obtain ⟨kept, found, stored⟩ := refines.get?_eq_some_iff.mp stored
    refine ⟨kept, found, ?_⟩
    have inside := Table.mem_values_iff.mpr ⟨id, stored⟩
    cases nothing : kept.documents.isEmpty with
    | false => rfl
    | true => simp [Table.values, List.isEmpty_iff.mp nothing] at inside

theorem Refines.values_eq (refines : index.Refines contents) {resource : Resource}
    {kept : ResourceIndex} (found : index.indices.get? resource.indexName = some kept) :
    (kept.documents.values.filter fun document => document.resource.sameCoordinates resource)
      = contents.values.filter fun document => document.resource.sameCoordinates resource := by
  rw [← Table.values_filter, ← Table.values_filter]
  congr 1
  apply Table.ext_get?
  intro id
  apply Option.ext
  intro document
  simp only [Table.get?_filter, Option.filter_eq_some_iff]
  apply and_congr_left
  intro same
  have named := Resource.indexName_eq_of_sameCoordinates same
  rw [refines.get?_eq_some_iff, named, found]
  simp

/-- A search answers what a scan of the map answers that looks for every filter among the scalars
    listed for a body. -/
theorem Refines.search_eq (refines : index.Refines contents) (resource : Resource)
    (filters : Filters) (window : Pagination) :
    index.search resource filters window
      = if index.available then
          .ok (window.apply (contents.values.filter fun document =>
            document.resource.sameCoordinates resource && filters.foundIn document.body.json))
        else .error .unavailable := by
  unfold search
  cases index.available with
  | false => rfl
  | true =>
      simp only [Bool.not_true, Bool.false_eq_true, if_false, if_true]
      cases found : index.indices.get? resource.indexName with
      | none =>
          -- No document of the map has the coordinates of the resource.
          have nothing : (contents.values.filter fun document =>
              document.resource.sameCoordinates resource
                && filters.foundIn document.body.json) = [] := by
            rw [List.filter_eq_nil_iff]
            intro document member accepted
            obtain ⟨id, stored⟩ := Table.mem_values_iff.mp member
            obtain ⟨kept, here, _⟩ := refines.get?_eq_some_iff.mp stored
            rw [Bool.and_eq_true] at accepted
            rw [Resource.indexName_eq_of_sameCoordinates accepted.1, found] at here
            simp at here
          rw [nothing, Pagination.apply_nil]
      | some kept =>
          have exact := refines.consistent.exact _ kept found
          have hits : ((kept.matching filters.toList).filterMap kept.documents.get?).filter
                (fun document => document.resource.sameCoordinates resource)
              = contents.values.filter fun document =>
                  document.resource.sameCoordinates resource
                    && filters.foundIn document.body.json := by
            calc _ = (kept.documents.values.filter fun document =>
                        document.resource.sameCoordinates resource).filter fun document =>
                          filters.foundIn document.body.json := by
                      rw [ResourceIndex.filterMap_matching exact, List.filter_comm]
                      rfl
              _ = (contents.values.filter fun document =>
                    document.resource.sameCoordinates resource).filter fun document =>
                      filters.foundIn document.body.json := by rw [refines.values_eq found]
              _ = _ := by
                rw [List.filter_filter]
                simp only [Bool.and_comm]
          exact congrArg (fun documents => Except.ok (window.apply documents)) hits

inductive Call where
  | upsert (document : Document)
  | remove (id : DocumentId)
  | clear
  | setAvailable (available : Bool)

namespace Call

def perform (index : SearchIndex) : Call → Except IndexError Unit × SearchIndex
  | .upsert document => index.afterChange (index.upsert document)
  | .remove id => index.afterChange (index.remove id)
  | .clear => index.afterChange index.clear
  | .setAvailable available => (.ok (), index.setAvailable available)

def applyTo (contents : Contents) : Call → Contents
  | .upsert document => contents.insert document.id document
  | .remove id => contents.erase id
  | .clear => Table.empty
  | .setAvailable _ => contents

def step (state : SearchIndex × Contents) (call : Call) : SearchIndex × Contents :=
  match call.perform state.1 with
  | (.ok (), index) => (index, call.applyTo state.2)
  | (.error _, index) => (index, state.2)

end Call

def reached (calls : List Call) : SearchIndex × Contents :=
  calls.foldl Call.step (empty, Table.empty)

theorem perform_ok_or_unchanged {call : Call} :
    (call.perform index).1 = .ok () ∨ (call.perform index).2 = index := by
  have settled : ∀ change : Except IndexError SearchIndex,
      (index.afterChange change).1 = .ok () ∨ (index.afterChange change).2 = index := by
    intro change
    cases change with
    | ok index => exact .inl rfl
    | error cause => exact .inr rfl
  cases call with
  | upsert document => exact settled _
  | remove id => exact settled _
  | clear => exact settled _
  | setAvailable available => exact .inl rfl

theorem Refines.setAvailable (refines : index.Refines contents) (available : Bool) :
    (index.setAvailable available).Refines contents where
  consistent := ⟨refines.consistent.orderly, refines.consistent.led, refines.consistent.exact⟩
  shown := refines.shown

theorem Refines.step (refines : index.Refines contents) (call : Call) :
    (call.step (index, contents)).1.Refines (call.step (index, contents)).2 := by
  unfold Call.step
  cases call with
  | upsert document =>
      simp only [Call.perform, afterChange]
      cases done : index.upsert document with
      | error cause => exact refines
      | ok next =>
          refine ⟨refines.consistent.upsert done, fun id => ?_⟩
          rw [get?_upsert done, Call.applyTo, Table.get?_insert, refines.shown]
  | remove key =>
      simp only [Call.perform, afterChange]
      cases done : index.remove key with
      | error cause => exact refines
      | ok next =>
          refine ⟨refines.consistent.remove done, fun id => ?_⟩
          rw [get?_remove done, Call.applyTo, Table.get?_erase, refines.shown]
  | clear =>
      simp only [Call.perform, afterChange]
      cases done : index.clear with
      | error cause => exact refines
      | ok next => exact ⟨Consistent.clear done, fun id => get?_clear done id⟩
  | setAvailable available => exact refines.setAvailable available

theorem Refines.foldl_step {state : SearchIndex × Contents} (refines : state.1.Refines state.2)
    (calls : List Call) :
    (calls.foldl Call.step state).1.Refines (calls.foldl Call.step state).2 := by
  induction calls generalizing state with
  | nil => exact refines
  | cons call rest ih => exact ih (refines.step call)

theorem refines_empty : empty.Refines Table.empty where
  consistent := consistent_empty
  shown _ := rfl

theorem reached_refines (calls : List Call) : (reached calls).1.Refines (reached calls).2 :=
  refines_empty.foldl_step calls

/-- Whatever calls have made of an index, it answers as the map of their documents does, and a call
    that fails leaves it as it was. -/
theorem refines_map (calls : List Call) :
    let index := (reached calls).1
    let contents := (reached calls).2
    (∀ id, index.get? id = contents.get? id) ∧
      (∀ id, index.contains id = contents.contains id) ∧
      index.size = contents.size ∧
      Ascends (contents.values.map Document.id) ∧
      index.names
        = KeySet.sorted (contents.values.map fun document => document.resource.indexName) ∧
      (∀ resource filters window,
        index.search resource filters window
          = if index.available then
              .ok (window.apply (contents.values.filter fun document =>
                document.resource.sameCoordinates resource
                  && filters.foundIn document.body.json))
            else .error .unavailable) ∧
      ∀ call : Call, (call.perform index).1 = .ok () ∨ (call.perform index).2 = index := by
  have refines := reached_refines calls
  have ascends : Ascends ((reached calls).2.values.map Document.id) := by
    rw [refines.ids_eq]
    exact Table.keys_ascending _
  exact ⟨refines.shown, refines.contains_eq, refines.size_eq, ascends, refines.names_eq,
    refines.search_eq, fun _ => perform_ok_or_unchanged⟩

end SearchIndex

end Docket
