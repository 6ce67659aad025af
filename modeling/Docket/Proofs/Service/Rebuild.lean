import Docket.Proofs.Projection.Queue
import Docket.Proofs.SearchIndex.Refinement
import Docket.Proofs.Service.Reindex
/-!
What a reindex rebuilds.

A reindex empties the index and delivers every stored document. It comes to an end whatever the store
holds. If the index is online and every document can be read, the index is then a map of those whose
bodies are objects, the report counts them and the others, and the latest of the others are listed
as failures; otherwise the index is left in need of another reindex (`EngineKind.reindex_rebuilds`).
-/

namespace Docket

open Service

def indexed (documents : List Document) : Contents :=
  Table.ofList ((documents.filter fun document => document.body.isObject).map fun document =>
    (document.id, document))

section Indexed

variable {documents : List Document} (ascends : Ascends (documents.map Document.id))
include ascends

theorem entries_indexed :
    (indexed documents).entries
      = (documents.filter fun document => document.body.isObject).map fun document =>
          (document.id, document) :=
  Table.entries_ofList (List.pairwise_map.mpr ((List.pairwise_map.mp ascends).filter _))

theorem values_indexed :
    (indexed documents).values = documents.filter fun document => document.body.isObject := by
  rw [Table.values, entries_indexed ascends, List.map_map]
  exact List.map_id _

theorem get?_indexed {id : DocumentId} {document : Document} :
    (indexed documents).get? id = some document ↔
      document ∈ documents ∧ document.id = id ∧ document.body.isObject = true := by
  rw [← Table.mem_toList_iff, Table.toList, entries_indexed ascends, List.mem_map]
  constructor
  · rintro ⟨other, member, same⟩
    obtain ⟨rfl, rfl⟩ := Prod.mk.inj same
    obtain ⟨inside, isObject⟩ := List.mem_filter.mp member
    exact ⟨inside, rfl, isObject⟩
  · rintro ⟨inside, rfl, isObject⟩
    exact ⟨document, List.mem_filter.mpr ⟨inside, isObject⟩, rfl⟩

theorem taking_refines {index : SearchIndex} (available : index.available = true)
    (refines : index.Refines Table.empty) : (index.taking documents).Refines (indexed documents) where
  consistent := SearchIndex.taking_induction refines.consistent
    (fun consistent done => consistent.upsert done) documents
  shown id := by
    apply Option.ext
    intro document
    rw [SearchIndex.get?_taking_eq_some_iff available refines.shown
      (ascends.imp Key.ne_of_before), get?_indexed ascends]

end Indexed

/-- All that can come of a reindex of a store that holds these documents, in order of id. Besides
    the index, the flag and the failures nothing changes. -/
inductive Rebuilt (service : Service Engine SearchIndex) (stored : List Document) :
    Except ServiceError ReindexReport × Service Engine SearchIndex → Prop where
  | offline (closed : service.sink.available = false) :
      Rebuilt service stored (.error (.index .unavailable),
        { service with
          projector := { service.projector with needsReindex := true, failures := [] } })
  | unread {document : Document} {cause : StoreError} {index : SearchIndex}
      {failures : List ProjectionFailure} (available : service.sink.available = true)
      (member : document ∈ stored)
      (unreadable : service.store.kind.reread document = .error cause) :
      Rebuilt service stored (.error (.store cause),
        { service with
          sink := index
          projector := { service.projector with needsReindex := true, failures := failures } })
  | done {read : List Document} {index : SearchIndex} (available : service.sink.available = true)
      (readable : stored.mapM service.store.kind.reread = .ok read)
      (holds : ∀ id document, index.get? id = some document ↔
        (DocumentStore.get id service.store).1 = .success document ∧
          document.body.isObject = true)
      (size : index.size = stored.countP fun document => document.body.isObject)
      (finds : ∀ resource filters window, index.search resource filters window
        = .ok (window.apply (read.filter fun document => document.body.isObject &&
            (document.resource.sameCoordinates resource
              && filters.foundIn document.body.json)))) :
      Rebuilt service stored
        (.ok ⟨stored.countP fun document => document.body.isObject,
            (refusedDocuments stored).length⟩,
          { service with
            sink := index
            projector := { service.projector with
              needsReindex := false
              failures := ((refusedDocuments stored).map Document.rejection).rtake
                Projector.maxFailures } })

section Read

variable {kind : EngineKind} {stored read : List Document}
  (readable : stored.mapM kind.reread = .ok read)
include readable

theorem countP_read :
    (read.countP fun document => document.body.isObject)
      = stored.countP fun document => document.body.isObject := by
  have same := kind.map_of_mapM (f := fun document => document.body.isObject)
    (fun _ _ rereads => rereads.isObject) readable
  have counts := congrArg (List.countP id) same
  rwa [List.countP_map, List.countP_map] at counts

theorem rejections_read :
    (refusedDocuments read).map Document.rejection
      = (refusedDocuments stored).map Document.rejection := by
  have same := kind.map_of_mapM
    (f := fun document => (document.body.isObject, document.rejection))
    (fun _ _ rereads => by rw [rereads.isObject, Document.rejection, rereads.id]; rfl) readable
  have rejections := congrArg (fun pairs => (pairs.filter fun pair => !pair.1).map Prod.snd) same
  rw [List.filter_map, List.filter_map, List.map_map, List.map_map] at rejections
  exact rejections

end Read

namespace Service

variable {service : Service Engine SearchIndex} {contents : Contents}

theorem reindex_rebuilt (held : service.store.Holds contents) :
    Rebuilt service contents.values service.reindex := by
  have refills := reindex_refills held
  generalize readable : contents.values.mapM service.store.kind.reread = answer at refills
  generalize service.reindex = result at refills ⊢
  have recorded : ∀ documents, (service.blank.delivering documents).projector
      = { service.projector with
          needsReindex := false
          failures := ((refusedDocuments documents).map Document.rejection).rtake
            Projector.maxFailures } := by
    intro documents
    have few : service.blank.projector.failures.length ≤ Projector.maxFailures := Nat.zero_le _
    exact Projector.foldl_record few _
  cases refills with
  | offline closed => exact .offline closed
  | @unread cause front available shown =>
      obtain ⟨document, member, unreadable⟩ := exists_of_mapM_error readable
      have flagged : (service.blank.delivering front).flagged
          = { service with
              sink := service.blank.sink.taking front
              projector := { service.projector with
                needsReindex := true
                failures := ((refusedDocuments front).map Document.rejection).rtake
                  Projector.maxFailures } } := by
        rw [Service.flagged, recorded]
        rfl
      rw [flagged]
      exact .unread available member unreadable
  | done read available =>
      have ascends := Engine.read_ascends held readable
      have emptied : service.sink.clear = .ok service.blank.sink := by
        simp [SearchIndex.clear, available, blank]
      have nothing : service.blank.sink.Refines Table.empty :=
        ⟨SearchIndex.Consistent.clear emptied, SearchIndex.get?_clear emptied⟩
      have refines := taking_refines ascends rfl nothing
      have rebuilt : service.blank.delivering read
          = { service with
              sink := service.blank.sink.taking read
              projector := { service.projector with
                needsReindex := false
                failures := ((refusedDocuments contents.values).map Document.rejection).rtake
                  Projector.maxFailures } } := by
        rw [← rejections_read readable, ← recorded]
        rfl
      have report : ReindexReport.counting ⟨0, 0⟩ read
          = ⟨contents.values.countP fun document => document.body.isObject,
              (refusedDocuments contents.values).length⟩ := by
        have refused := congrArg List.length (rejections_read readable)
        rw [List.length_map, List.length_map] at refused
        rw [ReindexReport.counting, countP_read readable, refused, Nat.zero_add, Nat.zero_add]
      rw [rebuilt, report]
      refine .done available readable ?_ ?_ ?_
      · exact fun id document => get?_blank_taking held readable
      · rw [refines.size_eq, ← countP_read readable, List.countP_eq_length_filter]
        have values := congrArg List.length (values_indexed ascends)
        rwa [Table.values, List.length_map] at values
      · intro resource filters window
        have online := SearchIndex.available_taking (rfl : service.blank.sink.available = true) read
        rw [refines.search_eq, if_pos online, values_indexed ascends, List.filter_filter]
        simp only [Bool.and_comm]

end Service

/-- Whatever an engine has come to hold, and whatever the service is that it belongs to, a reindex
    reads pages until one is short, and its answer is one of `Rebuilt`. -/
theorem EngineKind.reindex_rebuilds (kind : EngineKind) (calls : List Call)
    (service : Service Engine SearchIndex) :
    let before := { service with store := kind.reached calls }
    let stored := (kind.written calls).values
    Ascends (stored.map Document.id) ∧
      (before.sink.available = true →
        ∃ result, Pages before.blank ⟨0, 0⟩ none result ∧ before.reindex = closing result) ∧
      Rebuilt before stored before.reindex := by
  intro before stored
  have held : before.store.Holds (kind.written calls) := kind.reached_holds calls
  have ascends : Ascends (stored.map Document.id) := by
    rw [Contents.map_id_values held.exact.named]
    exact Table.keys_ascending _
  exact ⟨ascends, reindex_pages held, reindex_rebuilt held⟩

end Docket
