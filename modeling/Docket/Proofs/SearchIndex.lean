import Docket.Proofs.SearchIndex.Postings
/-!
The search index as a map from ids to documents.

Documents are kept in tables of their own for each name, and `owners` finds the table of an id.
Through it each change of the index changes the document of one id and of no other (`get?_upsert`,
`get?_remove`), and no table keeps a document that is not found so (`Orderly`).
-/

namespace Docket

namespace SearchIndex

variable {index next : SearchIndex}

theorem get?_removeEntry (index : SearchIndex) (id other : DocumentId) :
    (index.removeEntry id).get? other = if other = id then none else index.get? other := by
  unfold removeEntry
  cases owned : index.owners.get? id with
  | none =>
      by_cases here : other = id
      · rw [if_pos here, here, get?, owned]
        rfl
      · rw [if_neg here]
  | some name =>
      by_cases here : other = id
      · simp [get?, here]
      · simp only [get?, Table.get?_erase, here, if_false]
        cases index.owners.get? other with
        | none => rfl
        | some name' =>
            cases found : index.indices.get? name with
            | none => rfl
            | some kept =>
                by_cases same : name' = name
                · simp [same, found, ResourceIndex.get?_take, here]
                · simp [same]

/-- The index without the entry of an id that is kept under another name than this. -/
def vacated (index : SearchIndex) (id : DocumentId) (name : String) : SearchIndex :=
  if (index.owners.get? id).any (· ≠ name) then index.removeEntry id else index

def placed (index : SearchIndex) (name : String) (document : Document) : SearchIndex :=
  { index with
    indices := index.indices.insert name
      (((index.indices.get? name).getD ResourceIndex.empty).put document)
    owners := index.owners.insert document.id name
    version := index.version + 1 }

theorem upsert_eq_ok_iff {document : Document} :
    index.upsert document = .ok next ↔
      index.available = true ∧ document.body.isObject = true ∧
        next = (index.vacated document.id document.resource.indexName).placed
          document.resource.indexName document := by
  unfold upsert
  cases available : index.available with
  | false => simp
  | true =>
      cases isObject : document.body.isObject with
      | false => simp
      | true =>
          simp only [Bool.not_true, Bool.false_eq_true, if_false, Except.ok.injEq, true_and]
          exact eq_comm

theorem get?_vacated (index : SearchIndex) {gone id : DocumentId} (name : String)
    (other : id ≠ gone) : (index.vacated gone name).get? id = index.get? id := by
  unfold vacated
  split
  · rw [get?_removeEntry, if_neg other]
  · rfl

theorem get?_placed (index : SearchIndex) (name : String) (document : Document)
    (id : DocumentId) :
    (index.placed name document).get? id
      = if id = document.id then some document else index.get? id := by
  unfold placed
  by_cases here : id = document.id
  · simp [get?, here, ResourceIndex.get?_put]
  · simp only [get?, Table.get?_insert, here, if_false]
    cases index.owners.get? id with
    | none => rfl
    | some name' =>
        by_cases same : name' = name
        · simp only [Option.bind_some, same, if_true, ResourceIndex.get?_put, here, if_false]
          cases index.indices.get? name with
          | none => rfl
          | some kept => rfl
        · simp only [Option.bind_some, same, if_false]

theorem get?_upsert {document : Document} (done : index.upsert document = .ok next)
    (id : DocumentId) :
    next.get? id = if id = document.id then some document else index.get? id := by
  obtain ⟨_, _, rfl⟩ := upsert_eq_ok_iff.mp done
  rw [get?_placed]
  split
  · rfl
  · next other => exact get?_vacated index _ other

theorem removeEntry_of_absent {key : DocumentId} (absent : index.contains key = false) :
    index.removeEntry key = index := by
  rw [contains, Table.contains_eq_false_iff] at absent
  simp only [removeEntry, absent]

/-- A removal takes the entry of the id out, if there is one, and may count the version up. -/
theorem remove_eq_ok {key : DocumentId} (done : index.remove key = .ok next) :
    ∃ version, next = { index.removeEntry key with version := version } := by
  unfold remove at done
  split at done
  · simp at done
  · split at done
    · exact ⟨_, (Except.ok.inj done).symm⟩
    · next absent =>
        obtain rfl := Except.ok.inj done
        exact ⟨index.version, by rw [removeEntry_of_absent (Bool.eq_false_iff.mpr absent)]⟩

theorem clear_eq_ok (done : index.clear = .ok next) :
    ∃ version, next = { empty with version := version } := by
  unfold clear at done
  split at done
  · simp at done
  · exact ⟨_, (Except.ok.inj done).symm⟩

theorem get?_remove {key : DocumentId} (done : index.remove key = .ok next) (id : DocumentId) :
    next.get? id = if id = key then none else index.get? id := by
  obtain ⟨version, rfl⟩ := remove_eq_ok done
  exact get?_removeEntry index key id

theorem get?_clear (done : index.clear = .ok next) (id : DocumentId) : next.get? id = none := by
  obtain ⟨version, rfl⟩ := clear_eq_ok done
  rfl

/-- Every document that is kept has its own id and name, and is found through `owners`. -/
def Orderly (index : SearchIndex) : Prop :=
  ∀ name kept id document, index.indices.get? name = some kept →
    kept.documents.get? id = some document →
      index.owners.get? id = some name ∧ document.id = id ∧ document.resource.indexName = name

theorem orderly_empty : Orderly empty := by
  intro name kept id document found
  simp [empty] at found

theorem Orderly.get?_eq (orderly : index.Orderly) {name : String} {kept : ResourceIndex}
    {id : DocumentId} {document : Document} (found : index.indices.get? name = some kept)
    (stored : kept.documents.get? id = some document) : index.get? id = some document := by
  obtain ⟨owned, _, _⟩ := orderly name kept id document found stored
  rw [get?, owned, Option.bind_some, found, Option.bind_some, stored]

theorem Orderly.removeEntry (orderly : index.Orderly) (gone : DocumentId) :
    (index.removeEntry gone).Orderly := by
  unfold SearchIndex.removeEntry
  cases owned : index.owners.get? gone with
  | none => exact orderly
  | some home =>
      intro name kept id document found stored
      simp only at found
      -- Whatever is kept afterwards was kept before, under the same name.
      have before : ∃ old, index.indices.get? name = some old ∧
          old.documents.get? id = some document ∧ (name = home → id ≠ gone) := by
        cases here : index.indices.get? home with
        | none =>
            rw [here] at found
            refine ⟨kept, found, stored, ?_⟩
            rintro rfl
            simp [here] at found
        | some old =>
            simp only [here, Table.get?_insert] at found
            by_cases same : name = home
            · subst same
              rw [if_pos rfl] at found
              obtain rfl := Option.some.inj found
              rw [ResourceIndex.get?_take] at stored
              split at stored
              · simp at stored
              · next other => exact ⟨old, here, stored, fun _ => other⟩
            · rw [if_neg same] at found
              exact ⟨kept, found, stored, fun here => absurd here same⟩
      obtain ⟨old, found', stored', other⟩ := before
      obtain ⟨owner, named⟩ := orderly name old id document found' stored'
      have kept : id ≠ gone := by
        rintro rfl
        rw [owned] at owner
        exact other (Option.some.inj owner).symm rfl
      refine ⟨?_, named⟩
      simp only [Table.get?_erase, kept, if_false, owner]

theorem Orderly.vacated (orderly : index.Orderly) (id : DocumentId) (name : String) :
    (index.vacated id name).Orderly := by
  unfold SearchIndex.vacated
  split
  · exact orderly.removeEntry id
  · exact orderly

theorem get?_owners_vacated {id : DocumentId} {name owner : String}
    (owned : (index.vacated id name).owners.get? id = some owner) : owner = name := by
  unfold vacated at owned
  split at owned
  · unfold removeEntry at owned
    split at owned
    · next absent => simp [absent] at owned
    · simp at owned
  · next near =>
      simpa [owned] using near

theorem Orderly.placed (orderly : index.Orderly) {name : String} {document : Document}
    (named : document.resource.indexName = name)
    (left : ∀ owner, index.owners.get? document.id = some owner → owner = name) :
    (index.placed name document).Orderly := by
  intro name' kept id stored found member
  simp only [SearchIndex.placed, Table.get?_insert] at found ⊢
  by_cases here : id = document.id
  · subst here
    by_cases same : name' = name
    · subst same
      rw [if_pos rfl] at found
      obtain rfl := Option.some.inj found
      rw [ResourceIndex.get?_put, if_pos rfl] at member
      obtain rfl := Option.some.inj member
      exact ⟨if_pos rfl, rfl, named⟩
    · rw [if_neg same] at found
      -- The document was kept under no other name before.
      obtain ⟨owned, _⟩ := orderly name' kept document.id stored found member
      exact absurd (left name' owned) same
  · rw [if_neg here]
    by_cases same : name' = name
    · subst same
      rw [if_pos rfl] at found
      obtain rfl := Option.some.inj found
      rw [ResourceIndex.get?_put, if_neg here] at member
      cases before : index.indices.get? name' with
      | none => simp [before, ResourceIndex.empty] at member
      | some old =>
          rw [before] at member
          exact orderly name' old id stored before member
    · rw [if_neg same] at found
      exact orderly name' kept id stored found member

theorem Orderly.upsert (orderly : index.Orderly) {document : Document}
    (done : index.upsert document = .ok next) : next.Orderly := by
  obtain ⟨_, _, rfl⟩ := upsert_eq_ok_iff.mp done
  exact (orderly.vacated document.id _).placed rfl fun _ => get?_owners_vacated

theorem Orderly.remove (orderly : index.Orderly) {key : DocumentId}
    (done : index.remove key = .ok next) : next.Orderly := by
  obtain ⟨version, rfl⟩ := remove_eq_ok done
  exact orderly.removeEntry key

end SearchIndex

end Docket
