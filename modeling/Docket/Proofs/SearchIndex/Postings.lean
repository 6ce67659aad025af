import Docket.Proofs.TableOfSets
import Docket.SearchIndex
/-!
The posting lists of one name.

The lists are exact when they say of every term which of the documents have it, and none of them is
empty. Putting a document in and taking one out keep them exact, and then the walk along a shortest
list finds the documents that have every term of a search, as a scan of all documents would
(`filterMap_matching`).
-/

namespace Docket

namespace ResourceIndex

variable {index : ResourceIndex}

theorem post_eq : post = Table.link := by
  funext postings id term
  rfl

theorem unpost_eq : unpost = Table.unlink := by
  funext postings id term
  unfold unpost Table.unlink
  cases postings.get? term with
  | none => rfl
  | some ids => rfl

def Has (index : ResourceIndex) (term : String × String) (id : DocumentId) : Prop :=
  ∃ document, index.documents.get? id = some document ∧ term ∈ document.body.json.flatten

structure Exact (index : ResourceIndex) : Prop where
  posted : ∀ term id, index.postings.Links term id ↔ index.Has term id
  /-- A term that no document has has no list. -/
  full : index.postings.NoneEmpty

theorem exact_empty : empty.Exact where
  posted term id := by simp [Table.Links, Has, empty]
  full term ids found := by simp [empty] at found

theorem get?_take (index : ResourceIndex) (id other : DocumentId) :
    (index.take id).documents.get? other
      = if other = id then none else index.documents.get? other := by
  unfold take
  split
  · next absent =>
      by_cases here : other = id
      · rw [here, absent, if_pos rfl]
      · rw [if_neg here]
  · exact Table.get?_erase _ _ _

theorem get?_put (index : ResourceIndex) (document : Document) (id : DocumentId) :
    (index.put document).documents.get? id
      = if id = document.id then some document else index.documents.get? id := by
  change (Table.insert _ _ _).get? id = _
  rw [Table.get?_insert, get?_take]
  by_cases here : id = document.id
  · rw [if_pos here, if_pos here]
  · rw [if_neg here, if_neg here, if_neg here]

theorem Exact.take (exact : index.Exact) (id : DocumentId) : (index.take id).Exact := by
  constructor
  · intro term other
    rw [Has, get?_take]
    unfold ResourceIndex.take
    cases stored : index.documents.get? id with
    | none =>
        rw [exact.posted, Has]
        by_cases here : other = id
        · simp [here, stored]
        · simp [here]
    | some old =>
        rw [unpost_eq, Table.links_foldl_unlink_iff, exact.posted, Has]
        by_cases here : other = id
        -- Every term that the document had is unlinked from it.
        · subst here
          simp [stored]
        · simp [here]
  · unfold ResourceIndex.take
    split
    · exact exact.full
    · rw [unpost_eq]
      exact exact.full.foldl_unlink _

theorem Exact.put (exact : index.Exact) (document : Document) : (index.put document).Exact := by
  have without := exact.take document.id
  constructor
  · intro term id
    rw [Has, get?_put]
    unfold ResourceIndex.put
    rw [post_eq, Table.links_foldl_link_iff, without.posted, Has, get?_take]
    by_cases here : id = document.id
    · simp [here]
    · simp [here]
  · unfold ResourceIndex.put
    rw [post_eq]
    exact without.full.foldl_link _

theorem shortestFirst_perm (first : IdSet) (rest : List IdSet) :
    ((shortestFirst first rest).1 :: (shortestFirst first rest).2).Perm (first :: rest) := by
  induction rest generalizing first with
  | nil => exact .refl _
  | cons next rest ih =>
      simp only [shortestFirst]
      split
      · exact (ih next).cons first
      · exact (List.Perm.swap first _ _).trans ((ih next).cons first)

theorem not_links_of_lists? {terms : List (String × String)} {id : DocumentId}
    (missing : index.lists? terms = none) : ¬ ∀ term ∈ terms, index.postings.Links term id := by
  intro linked
  induction terms with
  | nil => simp [lists?] at missing
  | cons term rest ih =>
      obtain ⟨ids, found, _⟩ := linked term List.mem_cons_self
      have behind : index.lists? rest = none := by
        cases lists : index.lists? rest with
        | none => rfl
        | some lists => simp [lists?, found, lists] at missing
      exact ih behind fun other member => linked other (List.mem_cons_of_mem _ member)

theorem forall_contains_iff {terms : List (String × String)} {lists : List IdSet}
    {id : DocumentId} (found : index.lists? terms = some lists) :
    (∀ ids ∈ lists, ids.contains id = true) ↔ ∀ term ∈ terms, index.postings.Links term id := by
  induction terms generalizing lists with
  | nil =>
      obtain rfl := Option.some.inj found
      simp
  | cons term rest ih =>
      simp only [lists?] at found
      split at found
      · next ids others here behind =>
          obtain rfl := Option.some.inj found
          simp only [List.forall_mem_cons, ih behind, Table.Links, here, Option.some.injEq,
            exists_eq_left']
      · simp at found

theorem lists?_ne_nil {term : String × String} {rest : List (String × String)} :
    index.lists? (term :: rest) ≠ some [] := by
  intro found
  simp only [lists?] at found
  split at found
  · simp at found
  · simp at found

theorem matching_ascends (index : ResourceIndex) (terms : List (String × String)) :
    Ascends (index.matching terms) := by
  unfold matching
  split
  · exact Table.keys_ascending _
  · split
    · exact List.Pairwise.nil
    · exact List.Pairwise.nil
    · exact (Table.keys_ascending _).filter _

theorem mem_matching_iff (exact : index.Exact) {terms : List (String × String)}
    {id : DocumentId} :
    id ∈ index.matching terms ↔
      ∃ document, index.documents.get? id = some document ∧
        ∀ term ∈ terms, term ∈ document.body.json.flatten := by
  cases terms with
  | nil =>
      rw [matching, ← Table.contains_iff_mem_keys, Table.contains_iff]
      simp
  | cons term rest =>
      have linked : id ∈ index.matching (term :: rest) ↔
          ∀ term' ∈ term :: rest, index.postings.Links term' id := by
        simp only [matching]
        cases found : index.lists? (term :: rest) with
        | none => simpa using not_links_of_lists? found
        | some lists =>
            cases lists with
            | nil => exact absurd found lists?_ne_nil
            | cons first others =>
                rw [← forall_contains_iff found]
                -- Who is in a shortest list and in the others is in all.
                simp only [List.mem_filter, ← Table.contains_iff_mem_keys, List.all_eq_true,
                  ← List.forall_mem_cons (p := fun ids : IdSet => ids.contains id = true)]
                exact forall_congr' fun ids =>
                  imp_congr_left (shortestFirst_perm first others).mem_iff
      rw [linked]
      constructor
      · intro all
        obtain ⟨document, stored, _⟩ := (exact.posted term id).mp (all term List.mem_cons_self)
        refine ⟨document, stored, fun other member => ?_⟩
        obtain ⟨document', stored', inside⟩ := (exact.posted other id).mp (all other member)
        rw [stored] at stored'
        rwa [Option.some.inj stored']
      · rintro ⟨document, stored, inside⟩ other member
        exact (exact.posted other id).mpr ⟨document, stored, inside other member⟩

/-- What is found along the posting lists is what a scan of the documents finds. -/
theorem filterMap_matching (exact : index.Exact) (terms : List (String × String)) :
    (index.matching terms).filterMap index.documents.get?
      = index.documents.values.filter fun document =>
          terms.all fun term => document.body.json.flatten.contains term := by
  have same : index.matching terms = (index.documents.filter fun _ document =>
      terms.all fun term => document.body.json.flatten.contains term).keys := by
    apply eq_of_ascends (index.matching_ascends terms) (Table.keys_ascending _)
    intro id
    rw [mem_matching_iff exact, Table.mem_keys_filter_iff]
    simp only [List.all_eq_true, List.contains_iff_mem]
  rw [same, Table.filterMap_get?_keys_filter]

end ResourceIndex

end Docket
