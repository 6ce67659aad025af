import Docket.Proofs.SearchIndex.Refinement
import Docket.Proofs.Store.KeyValue
/-!
Two sources for one query.

The store of texts answers a query from the search index, and while that is offline from a scan of
its own documents. With an index that holds what the store holds, the two find the same documents
unless the index lists a scalar under a path that does not lead to it, which takes a name that is
empty or holds a point (`sources_agree_iff`).
-/

namespace Docket.KeyValueStore

open SearchIndex

variable {store : KeyValueStore} {contents : Contents} {index : SearchIndex}

def Loads (store : KeyValueStore) (contents : Contents) : Prop :=
  ∀ id, store.load id = .ok (contents.get? id)

theorem decodeAll_values (loads : store.Loads contents) :
    decodeAll store.documents.values = .ok contents.values := by
  let read (text : String) : Document := ((decodeDocument text).toOption).getD default
  have shown : ∀ id, contents.get? id = (store.documents.get? id).map read ∧
      ∀ text, store.documents.get? id = some text → decodeDocument text = .ok (read text) := by
    intro id
    have loaded := loads id
    unfold load at loaded
    cases found : store.documents.get? id with
    | none =>
        rw [found] at loaded
        exact ⟨(Except.ok.inj loaded).symm, by simp⟩
    | some text =>
        simp only [found] at loaded
        split at loaded
        · next document decoded =>
            have same : read text = document := by simp [read, decoded, Except.toOption]
            refine ⟨?_, ?_⟩
            · rw [← Except.ok.inj loaded, Option.map_some, same]
            · rintro _ ⟨⟩
              rw [decoded, same]
        · simp at loaded
  have each : ∀ text ∈ store.documents.values, decodeDocument text = .ok (read text) := by
    intro text member
    obtain ⟨id, found⟩ := Table.mem_values_iff.mp member
    exact (shown id).2 text found
  have values : contents.values = store.documents.values.map read := by
    rw [Table.values, Table.entries_eq_map read fun id => (shown id).1, Table.values,
      List.map_map, List.map_map]
    rfl
  rw [values, decodeAll_eq_map each]

variable {resource : Resource} {filters : Filters}

theorem query_online (refines : index.Refines contents) (accepted : filters.validate = .ok ())
    (window : Pagination) :
    store.query (index.setAvailable true) resource filters window
      = .success (window.apply (contents.values.filter fun document =>
          document.resource.sameCoordinates resource && filters.foundIn document.body.json)) := by
  have found := ((refines.setAvailable true).search_eq resource filters window).trans (if_pos rfl)
  rw [query, accepted]
  simp only [found]

theorem query_offline (loads : store.Loads contents) (refines : index.Refines contents)
    (accepted : filters.validate = .ok ()) (window : Pagination) :
    store.query (index.setAvailable false) resource filters window
      = .success (window.apply (contents.values.filter fun document =>
          document.resource.sameCoordinates resource && filters.accepts document.body.json)) := by
  have offline := ((refines.setAvailable false).search_eq resource filters window).trans
    (if_neg (by simp [setAvailable]))
  rw [query, accepted]
  simp only [offline, scanFiltered, decodeAll_values loads]

theorem query_eq_of_accepts (loads : store.Loads contents) (refines : index.Refines contents)
    (accepted : filters.validate = .ok ())
    (exact : ∀ id document, contents.get? id = some document →
      document.resource.sameCoordinates resource = true →
        filters.foundIn document.body.json = true → filters.accepts document.body.json = true)
    (window : Pagination) :
    store.query (index.setAvailable true) resource filters window
      = store.query (index.setAvailable false) resource filters window := by
  have same : (contents.values.filter fun document =>
        document.resource.sameCoordinates resource && filters.foundIn document.body.json)
      = contents.values.filter fun document =>
          document.resource.sameCoordinates resource && filters.accepts document.body.json := by
    apply List.filter_congr
    intro document member
    obtain ⟨id, stored⟩ := Table.mem_values_iff.mp member
    rw [Bool.eq_iff_iff, Bool.and_eq_true, Bool.and_eq_true]
    apply and_congr_right
    intro coordinates
    constructor
    · exact exact id document stored coordinates
    · exact Filters.foundIn_of_accepts accepted document.body.canonical
  rw [query_online refines accepted, query_offline loads refines accepted, same]

def named (name : String) : Document :=
  { Document.bare (.numbered 1) [] [] with
    body := ⟨.object [(name, .string "1")], by simp [Json.canonical, Json.canonicalMembers]⟩ }

def storeOf (name : String) : KeyValueStore := (empty.write ⟨named name, []⟩ true).2

def indexOf (name : String) : SearchIndex := (reached [.upsert (named name)]).1

theorem get?_indexOf (name : String) (id : DocumentId) :
    (indexOf name).get? id = if id = (named name).id then some (named name) else none := by
  rw [indexOf, (reached_refines _).shown]
  exact Table.get?_insert _ _ _ _

theorem load_storeOf (name : String) (id : DocumentId) :
    (storeOf name).load id = .ok ((indexOf name).get? id) := by
  have readable : (named name).body.Readable :=
    Body.readable_of_reals (Nat.le_of_ble_eq_true rfl) (by simp [named, Json.reals, Json.memberReals])
  have documents : (storeOf name).documents
      = Table.empty.insert (named name).id (encodeDocument (named name)) := rfl
  rw [load, documents, Table.get?_insert, get?_indexOf]
  by_cases here : id = (named name).id
  · rw [if_pos here, if_pos here]
    simp only [decodeDocument_encodeDocument readable]
  · rw [if_neg here, if_neg here]
    rfl

/-- The index and the scan answer every window of a query alike if and only if no stored document
    of the resource has all filters among its listed scalars unless they lead there. This is so
    when all names in the bodies are plain. -/
theorem sources_agree_iff (calls : List SearchIndex.Call) (store : KeyValueStore)
    (held : ∀ id, store.load id = .ok ((reached calls).1.get? id)) (resource : Resource)
    (filters : Filters) (accepted : filters.validate = .ok ()) :
    let index := (reached calls).1
    ((∀ window, store.query (index.setAvailable true) resource filters window
        = store.query (index.setAvailable false) resource filters window) ↔
      ∀ id document, store.load id = .ok (some document) →
        document.resource.sameCoordinates resource = true →
          filters.foundIn document.body.json = true →
            filters.accepts document.body.json = true) ∧
    ((∀ id document, store.load id = .ok (some document) →
        document.resource.sameCoordinates resource = true →
          document.body.json.plainNamed = true) →
      ∀ window, store.query (index.setAvailable true) resource filters window
        = store.query (index.setAvailable false) resource filters window) := by
  have refines := reached_refines calls
  have loads : store.Loads (reached calls).2 := fun id => by rw [held, refines.shown]
  have stored_iff : ∀ id document, store.load id = .ok (some document) ↔
      (reached calls).2.get? id = some document := by
    intro id document
    rw [loads, Except.ok.injEq]
  simp only [stored_iff]
  refine ⟨⟨?_, query_eq_of_accepts loads refines accepted⟩, ?_⟩
  · -- A document that only the index finds is in one of the whole answers and not in the other.
    intro same id document stored coordinates found
    have whole := same Pagination.all
    rw [query_online refines accepted, query_offline loads refines accepted,
      Pagination.apply_all, Pagination.apply_all] at whole
    have listed : document ∈ (reached calls).2.values.filter fun document =>
        document.resource.sameCoordinates resource && filters.foundIn document.body.json := by
      rw [List.mem_filter, coordinates, found]
      exact ⟨Table.mem_values_iff.mpr ⟨id, stored⟩, rfl⟩
    rw [QueryOutcome.success.inj whole, List.mem_filter, Bool.and_eq_true] at listed
    exact listed.2.2
  · intro plain
    apply query_eq_of_accepts loads refines accepted
    intro id document stored coordinates found
    exact Filters.accepts_of_foundIn document.body.canonical (plain id document stored coordinates)
      found

theorem sources_agree_iff_schoolId :
    let filters := Filters.ofList [("schoolId", "1")]
    (∀ id, (storeOf "schoolId").load id = .ok ((indexOf "schoolId").get? id)) ∧
      filters.validate = .ok () ∧
      (∀ id document, (storeOf "schoolId").load id = .ok (some document) →
        document.resource.sameCoordinates default = true →
          document.body.json.plainNamed = true) ∧
      ∀ window, (storeOf "schoolId").query ((indexOf "schoolId").setAvailable true) default filters
          window
        = (storeOf "schoolId").query ((indexOf "schoolId").setAvailable false) default filters
          window := by
  have accepted : (Filters.ofList [("schoolId", "1")]).validate = .ok () := by decide +kernel
  have held := load_storeOf "schoolId"
  have plain : ∀ id document, (storeOf "schoolId").load id = .ok (some document) →
      document.resource.sameCoordinates default = true → document.body.json.plainNamed = true := by
    intro id document stored _
    rw [held, get?_indexOf] at stored
    split at stored
    · obtain rfl := Option.some.inj (Except.ok.inj stored)
      rfl
    · simp at stored
  exact ⟨held, accepted, plain,
    (sources_agree_iff [.upsert (named "schoolId")] (storeOf "schoolId") held default _ accepted).2
      plain⟩

/-- A name with a point in it makes a path that the filter follows to nothing. -/
theorem sources_differ_point :
    let filters := Filters.ofList [("a.b", "1")]
    (∀ id, (storeOf "a.b").load id = .ok ((indexOf "a.b").get? id)) ∧
      filters.validate = .ok () ∧
      (storeOf "a.b").query ((indexOf "a.b").setAvailable true) default filters Pagination.all
        = .success [named "a.b"] ∧
      (storeOf "a.b").query ((indexOf "a.b").setAvailable false) default filters Pagination.all
        = .success [] := by
  intro filters
  have refines : (indexOf "a.b").Refines (reached [.upsert (named "a.b")]).2 := reached_refines _
  have loads : (storeOf "a.b").Loads (reached [.upsert (named "a.b")]).2 := by
    intro id
    rw [load_storeOf, refines.shown]
  have accepted : filters.validate = .ok () := by decide +kernel
  refine ⟨load_storeOf "a.b", accepted, ?_, ?_⟩
  · rw [query_online refines accepted]
    decide +kernel
  · rw [query_offline loads refines accepted]
    decide +kernel

end Docket.KeyValueStore
