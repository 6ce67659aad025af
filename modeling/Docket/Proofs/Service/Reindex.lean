import Docket.Proofs.SearchIndex
import Docket.Proofs.Store.Paging
import Docket.Proofs.Store.WriteEnd
import Docket.Service.Basic
/-!
What a delivery and a reindex make of the search index.

A delivery that is done makes the index say of its id what the store says, and leaves other ids
alone; one that fails leaves the index as it is (`Delivered`). A reindex delivers every document, page
by page until one is short (`Service.Pages`). It has the index take every document that can be read,
or ends at the first page with one that cannot (`Service.reindex_refills`).
-/

namespace Docket

def SearchIndex.answer (index : SearchIndex) (id : DocumentId) : GetOutcome :=
  match index.get? id with
  | some document => .success document
  | none => .notExists

inductive Delivered (id : DocumentId) (reading : GetOutcome) (index : SearchIndex) :
    Except ProjectionError Bool × SearchIndex → Prop where
  | done {there : Bool} {next : SearchIndex} (said : next.answer id = reading)
      (others : ∀ other, other ≠ id → next.get? other = index.get? other)
      (orderly : index.Orderly → next.Orderly) : Delivered id reading index (.ok there, next)
  | failed {cause : ProjectionError}
      (taken : ∀ refused reason, cause ≠ .index (.rejected refused reason)) :
      Delivered id reading index (.error cause, index)

def GetOutcome.Suits (reading : GetOutcome) (id : DocumentId) : Prop :=
  ∀ document, reading = .success document → document.id = id ∧ document.body.isObject = true

theorem deliver_end {id : DocumentId} {reading : GetOutcome} (suits : reading.Suits id)
    (index : SearchIndex) : Delivered id reading index (deliver id reading index) := by
  cases reading with
  | success document =>
      obtain ⟨rfl, isObject⟩ := suits document rfl
      change Delivered document.id _ index
        ((((index.afterChange (index.upsert document)).1.mapError .index).map fun _ => true),
          (index.afterChange (index.upsert document)).2)
      cases done : index.upsert document with
      | ok next =>
          have view := SearchIndex.get?_upsert done
          refine .done ?_ ?_ fun orderly => orderly.upsert done
          · simp [SearchIndex.afterChange, SearchIndex.answer, view]
          · intro other differ
            simp [SearchIndex.afterChange, view, differ]
      | error cause =>
          apply Delivered.failed
          unfold SearchIndex.upsert at done
          split at done
          · obtain rfl := Except.error.inj done
            simp
          · simp [isObject] at done
  | notExists =>
      change Delivered id _ index
        ((((index.afterChange (index.remove id)).1.mapError .index).map fun _ => false),
          (index.afterChange (index.remove id)).2)
      cases done : index.remove id with
      | ok next =>
          have view := SearchIndex.get?_remove done
          refine .done ?_ ?_ fun orderly => orderly.remove done
          · simp [SearchIndex.afterChange, SearchIndex.answer, view]
          · intro other differ
            simp [SearchIndex.afterChange, view, differ]
      | error cause =>
          apply Delivered.failed
          unfold SearchIndex.remove at done
          split at done
          · obtain rfl := Except.error.inj done
            simp
          · split at done
            · simp at done
            · simp at done
  | unknownFailure detail => exact .failed (by simp)

theorem Engine.get_suits {engine : Engine} {contents : Contents} (held : engine.Holds contents)
    (objects : ∀ id document, contents.get? id = some document → document.body.isObject = true)
    (id : DocumentId) : (DocumentStore.get id engine).1.Suits id := by
  intro document found
  obtain ⟨stored, present, readable⟩ := Engine.reread_of_get held found
  have rereads := EngineKind.rereads readable
  exact ⟨rereads.id.trans (held.exact.named id stored present),
    rereads.isObject.trans (objects id stored present)⟩

namespace SearchIndex

variable {index next : SearchIndex} {documents : List Document}

/-- The index with documents put in; one that is refused is left out. -/
def taking (index : SearchIndex) (documents : List Document) : SearchIndex :=
  documents.foldl (fun index document => (index.afterChange (index.upsert document)).2) index

theorem taking_append (index : SearchIndex) (documents more : List Document) :
    index.taking (documents ++ more) = (index.taking documents).taking more :=
  List.foldl_append

theorem taking_induction {motive : SearchIndex → Prop} (start : motive index)
    (step : ∀ {index next document},
      motive index → index.upsert document = .ok next → motive next)
    (documents : List Document) : motive (index.taking documents) := by
  refine List.foldlRecOn documents _ start ?_
  intro index held document _
  cases done : index.upsert document with
  | error cause => exact held
  | ok next => exact step held done

theorem available_removeEntry (index : SearchIndex) (id : DocumentId) :
    (index.removeEntry id).available = index.available := by
  unfold removeEntry
  split
  · rfl
  · rfl

theorem available_upsert {document : Document} (done : index.upsert document = .ok next) :
    next.available = true := by
  obtain ⟨available, _, rfl⟩ := upsert_eq_ok_iff.mp done
  unfold placed vacated
  split
  · exact (available_removeEntry _ _).trans available
  · exact available

theorem available_taking (available : index.available = true) (documents : List Document) :
    (index.taking documents).available = true :=
  taking_induction (motive := fun index => index.available = true) available
    (fun _ done => available_upsert done) documents

theorem Orderly.taking (orderly : index.Orderly) (documents : List Document) :
    (index.taking documents).Orderly :=
  taking_induction orderly (fun whole done => whole.upsert done) documents

theorem get?_taking_eq_some_iff (available : index.available = true)
    (blank : ∀ id, index.get? id = none) (distinct : (documents.map Document.id).Nodup)
    {id : DocumentId} {document : Document} :
    (index.taking documents).get? id = some document ↔
      document ∈ documents ∧ document.id = id ∧ document.body.isObject = true := by
  induction documents using List.reverseRecOn with
  | nil => simp [taking, blank]
  | append_singleton front last ih =>
      rw [List.map_append, List.nodup_append] at distinct
      have ih := ih distinct.1
      have fresh : ∀ other ∈ front, other.id ≠ last.id := by
        intro other member
        exact distinct.2.2 other.id (List.mem_map_of_mem member) last.id (by simp)
      rw [taking_append]
      change ((index.taking front).afterChange ((index.taking front).upsert last)).2.get? id = _ ↔ _
      cases done : (index.taking front).upsert last with
      | ok next =>
          obtain ⟨_, isObject, _⟩ := upsert_eq_ok_iff.mp done
          rw [afterChange, get?_upsert done, List.mem_append, List.mem_singleton]
          split
          · next here =>
              subst here
              constructor
              · intro same
                obtain rfl := Option.some.inj same
                exact ⟨.inr rfl, rfl, isObject⟩
              · rintro ⟨early | rfl, own, _⟩
                · exact absurd own (fresh document early)
                · rfl
          · next other =>
              rw [ih, or_and_right, or_iff_left]
              rintro ⟨rfl, own, _⟩
              exact other own.symm
      | error cause =>
          have refused : last.body.isObject = false := by
            cases isObject : last.body.isObject with
            | false => rfl
            | true =>
                have taken := upsert_eq_ok_iff.mpr ⟨available_taking available front, isObject, rfl⟩
                simp [done] at taken
          rw [afterChange, ih, List.mem_append, List.mem_singleton, or_and_right, or_iff_left]
          rintro ⟨rfl, _, isObject⟩
          simp [refused] at isObject

end SearchIndex

def Document.rejection (document : Document) : ProjectionFailure :=
  ⟨document.id, (IndexError.rejected document.id "body is not a JSON object").message, 1⟩

def refusedDocuments (documents : List Document) : List Document :=
  documents.filter fun document => !document.body.isObject

namespace Service

def ReindexReport.counting (report : ReindexReport) (documents : List Document) : ReindexReport :=
  ⟨report.documents + documents.countP fun document => document.body.isObject,
   report.rejected + (refusedDocuments documents).length⟩

theorem ReindexReport.counting_append (report : ReindexReport) (documents more : List Document) :
    report.counting (documents ++ more) = (report.counting documents).counting more := by
  simp [counting, refusedDocuments, Nat.add_assoc]

def delivering (service : Service Engine SearchIndex) (documents : List Document) :
    Service Engine SearchIndex :=
  { service with
    sink := service.sink.taking documents
    projector := ((refusedDocuments documents).map Document.rejection).foldl Projector.record
      service.projector }

variable {service : Service Engine SearchIndex} {contents : Contents} {report : ReindexReport}

theorem delivering_append (service : Service Engine SearchIndex) (documents more : List Document) :
    service.delivering (documents ++ more) = (service.delivering documents).delivering more := by
  simp [delivering, SearchIndex.taking_append, refusedDocuments]

theorem reindexOne_eq (available : service.sink.available = true) (report : ReindexReport)
    {document : Document}
    (shown : DocumentStore.get document.id service.store = (.success document, service.store)) :
    service.reindexOne report document.id
      = (.ok (report.counting [document]), service.delivering [document]) := by
  have delivery : deliver document.id (.success document) service.sink
      = ((((service.sink.afterChange (service.sink.upsert document)).1.mapError
            ProjectionError.index).map fun _ => true),
          (service.sink.afterChange (service.sink.upsert document)).2) := rfl
  simp only [reindexOne, shown, delivery, delivering, SearchIndex.taking, refusedDocuments,
    ReindexReport.counting, List.foldl_cons, List.foldl_nil]
  cases isObject : document.body.isObject with
  | true =>
      have done := SearchIndex.upsert_eq_ok_iff.mpr ⟨available, isObject, rfl⟩
      rw [done]
      simp [SearchIndex.afterChange, isObject, Except.mapError, Except.map]
  | false =>
      have refused : service.sink.upsert document
          = .error (.rejected document.id "body is not a JSON object") := by
        unfold SearchIndex.upsert
        simp [available, isObject]
      rw [refused]
      simp [SearchIndex.afterChange, isObject, Except.mapError, Except.map, Document.rejection]

theorem reindexPage_eq (available : service.sink.available = true) (report : ReindexReport)
    {documents : List Document}
    (shown : ∀ document ∈ documents,
      DocumentStore.get document.id service.store = (.success document, service.store)) :
    service.reindexPage report documents
      = (.ok (report.counting documents), service.delivering documents) := by
  induction documents generalizing service report with
  | nil => rfl
  | cons document rest ih =>
      have next := @ih (service.delivering [document])
        (SearchIndex.available_taking available [document]) (report.counting [document])
        fun other member => shown other (List.mem_cons_of_mem _ member)
      rw [reindexPage, reindexOne_eq available report (shown document List.mem_cons_self)]
      simp only [next, ← ReindexReport.counting_append, ← delivering_append, List.singleton_append]

theorem reindexPage_store (service : Service Engine SearchIndex) (report : ReindexReport)
    (documents : List Document) : (service.reindexPage report documents).2.store = service.store := by
  have one : ∀ (service : Service Engine SearchIndex) report id,
      (service.reindexOne report id).2.store = service.store := by
    intro service report id
    have unchanged := Engine.get_unchanged id service.store
    rcases read : DocumentStore.get id service.store with ⟨reading, store⟩
    rw [read] at unchanged
    rcases landed : deliver id reading service.sink with ⟨outcome, sink⟩
    simp only [reindexOne, read, landed]
    split
    · exact unchanged
    · exact unchanged
    · exact unchanged
    · exact unchanged
  induction documents generalizing service report with
  | nil => rfl
  | cons document rest ih =>
      have first := one service report document.id
      unfold reindexPage
      split
      · next told => rw [ih, ← first, told]
      · next told => rw [← first, told]

/-! ### Page by page -/

/-- The loop that brings the entries of all documents after an id in line: it reads a page and
    delivers it, and goes on behind its last document if the page was full. -/
inductive Pages : Service Engine SearchIndex → ReindexReport → Option DocumentId →
    Except ServiceError ReindexReport × Service Engine SearchIndex → Prop where
  | unread {service store report bound cause}
      (page : DocumentStore.scan bound (UInt64.ofNat pageSize) service.store
        = (.error cause, store)) :
      Pages service report bound (.error (.store cause), { service with store := store })
  | none {service store report bound}
      (page : DocumentStore.scan bound (UInt64.ofNat pageSize) service.store = (.ok [], store)) :
      Pages service report bound (.ok report, { service with store := store })
  | failed {service next store report bound documents last cause}
      (page : DocumentStore.scan bound (UInt64.ofNat pageSize) service.store
        = (.ok documents, store))
      (ends : documents.getLast? = some last)
      (told : { service with store := store }.reindexPage report documents = (.error cause, next)) :
      Pages service report bound (.error cause, next)
  | short {service next store report report' bound documents last}
      (page : DocumentStore.scan bound (UInt64.ofNat pageSize) service.store
        = (.ok documents, store))
      (ends : documents.getLast? = some last)
      (told : { service with store := store }.reindexPage report documents = (.ok report', next))
      (few : documents.length < pageSize) : Pages service report bound (.ok report', next)
  | full {service next store report report' bound documents last result}
      (page : DocumentStore.scan bound (UInt64.ofNat pageSize) service.store
        = (.ok documents, store))
      (ends : documents.getLast? = some last)
      (told : { service with store := store }.reindexPage report documents = (.ok report', next))
      (many : ¬ documents.length < pageSize) (rest : Pages next report' (some last.id) result) :
      Pages service report bound result

theorem page_eq (held : service.store.Holds contents) {bound : Option DocumentId}
    {page : Except StoreError (List Document)} {store : Engine}
    (read : DocumentStore.scan bound (UInt64.ofNat pageSize) service.store = (page, store)) :
    ((contents.following bound).take pageSize).mapM service.store.kind.reread = page ∧
      store = service.store := by
  have size : (UInt64.ofNat pageSize).toNat = pageSize := by decide
  rw [Engine.scan_eq held bound (.inl (by decide)), Prod.mk.injEq, size] at read
  exact ⟨read.1, read.2.symm⟩

theorem length_page {bound : Option DocumentId} {documents : List Document}
    (read : ((contents.following bound).take pageSize).mapM service.store.kind.reread
      = .ok documents) : documents.length = min pageSize (contents.following bound).length := by
  rw [← (mapM_eq_ok_iff.mp read).length_eq, List.length_take]

/-- With more pages allowed than there are documents left, the loop runs to its end. -/
theorem reindexAfter_pages (held : service.store.Holds contents) (report : ReindexReport)
    (bound : Option DocumentId) {fuel : Nat}
    (enough : (contents.following bound).length < fuel) :
    Pages service report bound (service.reindexAfter report bound fuel) := by
  induction fuel generalizing service report bound with
  | zero => simp at enough
  | succ fuel ih =>
      rcases page : DocumentStore.scan bound (UInt64.ofNat pageSize) service.store
        with ⟨answer, store⟩
      obtain ⟨read, rfl⟩ := page_eq held page
      simp only [reindexAfter, page]
      cases answer with
      | error cause => exact .unread page
      | ok documents =>
          cases ends : documents.getLast? with
          | none =>
              obtain rfl := List.getLast?_eq_none_iff.mp ends
              exact .none page
          | some last =>
              rcases told : service.reindexPage report documents with ⟨outcome, next⟩
              simp only [ends, told]
              cases outcome with
              | error cause => exact .failed page ends told
              | ok report' =>
                  simp only
                  split
                  · next few => exact .short page ends told few
                  · next many =>
                      have same : next.store = service.store := by
                        rw [← reindexPage_store service report documents, told]
                      have length := length_page read
                      have positive : 0 < pageSize := by decide
                      have fewer : (contents.following (some last.id)).length < fuel := by
                        rw [Engine.following_page held read ends, List.length_drop]
                        omega
                      exact .full page ends told many
                        (ih (same ▸ held) report' (some last.id) fewer)

inductive Refilled (service : Service Engine SearchIndex) (report : ReindexReport) :
    Except StoreError (List Document) →
    Except ServiceError ReindexReport × Service Engine SearchIndex → Prop where
  | done (read : List Document) :
      Refilled service report (.ok read) (.ok (report.counting read), service.delivering read)
  | unread (cause : StoreError) {front : List Document}
      (shown : ∀ document ∈ front,
        DocumentStore.get document.id service.store = (.success document, service.store)) :
      Refilled service report (.error cause) (.error (.store cause), service.delivering front)

theorem Refilled.after {documents : List Document} {rest : Except StoreError (List Document)}
    (shown : ∀ document ∈ documents,
      DocumentStore.get document.id service.store = (.success document, service.store))
    {result : Except ServiceError ReindexReport × Service Engine SearchIndex}
    (refilled : Refilled (service.delivering documents) (report.counting documents) rest result) :
    service.Refilled report (rest.map fun more => documents ++ more) result := by
  cases refilled with
  | done read =>
      rw [← ReindexReport.counting_append, ← delivering_append]
      exact .done _
  | unread cause shown' =>
      rw [← delivering_append]
      refine .unread cause fun document member => ?_
      rcases List.mem_append.mp member with early | late
      · exact shown document early
      · exact shown' document late

theorem page_shown (held : service.store.Holds contents) {bound : Option DocumentId}
    {documents : List Document}
    (read : ((contents.following bound).take pageSize).mapM service.store.kind.reread
      = .ok documents) :
    ∀ document ∈ documents,
      DocumentStore.get document.id service.store = (.success document, service.store) := by
  intro document member
  have stored : (contents.following bound).take pageSize ⊆ contents.values :=
    List.Subset.trans (List.take_subset _ _) (Contents.following_subset bound)
  exact Engine.get_of_read held stored read member

theorem Pages.refilled {bound : Option DocumentId}
    {result : Except ServiceError ReindexReport × Service Engine SearchIndex}
    (pages : Pages service report bound result) (held : service.store.Holds contents)
    (available : service.sink.available = true) :
    service.Refilled report ((contents.following bound).mapM service.store.kind.reread) result := by
  induction pages with
  | @unread service store report bound cause page =>
      obtain ⟨read, rfl⟩ := page_eq held page
      rw [mapM_take_drop _ pageSize, read]
      exact @Refilled.unread service report cause [] (by simp)
  | @none service store report bound page =>
      obtain ⟨read, rfl⟩ := page_eq held page
      have nothing : contents.following bound = [] := by
        have length := length_page read
        rw [List.length_nil] at length
        have positive : 0 < pageSize := by decide
        exact List.length_eq_zero_iff.mp (by omega)
      rw [nothing]
      exact .done []
  | @failed service next store report bound documents last cause page ends told =>
      obtain ⟨read, rfl⟩ := page_eq held page
      have delivered := reindexPage_eq available report (page_shown held read)
      simp [delivered] at told
  | @short service next store report report' bound documents last page ends told few =>
      obtain ⟨read, rfl⟩ := page_eq held page
      have delivered := reindexPage_eq available report (page_shown held read)
      rw [delivered, Prod.mk.injEq, Except.ok.injEq] at told
      obtain ⟨rfl, rfl⟩ := told
      have length := length_page read
      rw [List.take_of_length_le (by omega)] at read
      rw [read]
      exact .done documents
  | @full service next store report report' bound documents last result page ends told many rest
      ih =>
      obtain ⟨read, rfl⟩ := page_eq held page
      have delivered := reindexPage_eq available report (page_shown held read)
      rw [delivered, Prod.mk.injEq, Except.ok.injEq] at told
      obtain ⟨rfl, rfl⟩ := told
      have behind := ih held (SearchIndex.available_taking available documents)
      rw [Engine.following_page held read ends] at behind
      rw [mapM_take_drop _ pageSize, read]
      exact behind.after (page_shown held read)

/-! ### A whole reindex -/

def blank (service : Service Engine SearchIndex) : Service Engine SearchIndex :=
  { service with
    sink := ⟨Table.empty, Table.empty, true, service.sink.version + 1⟩
    projector := { service.projector with needsReindex := false, failures := [] } }

def flagged (service : Service Engine SearchIndex) : Service Engine SearchIndex :=
  { service with projector := { service.projector with needsReindex := true } }

inductive Refills (service : Service Engine SearchIndex) :
    Except StoreError (List Document) →
    Except ServiceError ReindexReport × Service Engine SearchIndex → Prop where
  | offline {answer} (closed : service.sink.available = false) :
      Refills service answer (.error (.index .unavailable),
        { service with
          projector := { service.projector with needsReindex := true, failures := [] } })
  | unread (cause : StoreError) {front : List Document}
      (available : service.sink.available = true)
      (shown : ∀ document ∈ front,
        DocumentStore.get document.id service.store = (.success document, service.store)) :
      Refills service (.error cause) (.error (.store cause), (service.blank.delivering front).flagged)
  | done (read : List Document) (available : service.sink.available = true) :
      Refills service (.ok read)
        (.ok (ReindexReport.counting ⟨0, 0⟩ read), service.blank.delivering read)

def closing : Except ServiceError ReindexReport × Service Engine SearchIndex →
    Except ServiceError ReindexReport × Service Engine SearchIndex
  | (.ok report, next) => (.ok report, next)
  | (.error cause, next) => (.error cause, next.flagged)

theorem reindex_of_offline (closed : service.sink.available = false) :
    service.reindex = (.error (.index .unavailable),
      { service with
        projector := { service.projector with needsReindex := true, failures := [] } }) := by
  have clearing : ProjectionSink.clear service.sink = (.error .unavailable, service.sink) := by
    change service.sink.afterChange service.sink.clear = _
    simp [SearchIndex.clear, closed, SearchIndex.afterChange]
  simp only [reindex, rebuild, clearing]

theorem reindex_pages (held : service.store.Holds contents)
    (available : service.sink.available = true) :
    ∃ result, Pages service.blank ⟨0, 0⟩ none result ∧ service.reindex = closing result := by
  refine ⟨service.blank.reindexAfter ⟨0, 0⟩ none (DocumentStore.size service.store + 1), ?_, ?_⟩
  · have begun : service.blank.store.Holds contents := held
    apply reindexAfter_pages begun
    rw [Engine.size_eq held]
    exact Nat.lt_succ_of_le (Contents.length_following_le none)
  · have clearing : ProjectionSink.clear service.sink = (.ok (), service.blank.sink) := by
      change service.sink.afterChange service.sink.clear = _
      simp [SearchIndex.clear, available, SearchIndex.afterChange, blank]
    let begun : Service Engine SearchIndex := { service with
      projector := { service.projector with needsReindex := false, failures := [] } }
    have closes : service.reindex = closing begun.rebuild := by
      rcases told : begun.rebuild with ⟨outcome, next⟩
      simp only [begun] at told
      simp only [reindex, told]
      cases outcome with
      | ok report => rfl
      | error cause => rfl
    rw [closes, rebuild]
    simp only [begun, clearing]
    rfl

theorem reindex_refills (held : service.store.Holds contents) :
    service.Refills (contents.values.mapM service.store.kind.reread) service.reindex := by
  cases available : service.sink.available with
  | false =>
      rw [reindex_of_offline available]
      exact .offline available
  | true =>
      obtain ⟨result, pages, closed⟩ := reindex_pages held available
      have filled := pages.refilled held rfl
      rw [Contents.following_none] at filled
      change Refilled service.blank ⟨0, 0⟩ (contents.values.mapM service.store.kind.reread) result
        at filled
      rw [closed]
      generalize contents.values.mapM service.store.kind.reread = answer at filled
      cases filled with
      | unread cause shown => exact .unread cause available shown
      | done read => exact .done read available

/-- All that can come of a reindex: the index says of every id what the store says, or the index is
    in need of another reindex. Nothing else changes but the failures, which are forgotten. -/
inductive Reindexed (service : Service Engine SearchIndex) :
    Except ServiceError ReindexReport × Service Engine SearchIndex → Prop where
  | done {report : ReindexReport} {index : SearchIndex}
      (said : ∀ id, index.answer id = (DocumentStore.get id service.store).1)
      (orderly : service.sink.Orderly → index.Orderly) :
      Reindexed service (.ok report, { service with
        sink := index
        projector := { service.projector with needsReindex := false, failures := [] } })
  | failed {cause : ServiceError} {index : SearchIndex}
      (orderly : service.sink.Orderly → index.Orderly) :
      Reindexed service (.error cause, { service with
        sink := index
        projector := { service.projector with needsReindex := true, failures := [] } })

theorem delivering_objects (service : Service Engine SearchIndex) {documents : List Document}
    (objects : ∀ document ∈ documents, document.body.isObject = true) :
    service.delivering documents = { service with sink := service.sink.taking documents } := by
  have none : refusedDocuments documents = [] := by
    rw [refusedDocuments, List.filter_eq_nil_iff]
    intro document member
    simp [objects document member]
  rw [delivering, none]
  rfl

theorem get?_blank_taking (held : service.store.Holds contents) {read : List Document}
    (readable : contents.values.mapM service.store.kind.reread = .ok read) {id : DocumentId}
    {document : Document} :
    (service.blank.sink.taking read).get? id = some document ↔
      (DocumentStore.get id service.store).1 = .success document ∧
        document.body.isObject = true := by
  have distinct : (read.map Document.id).Nodup :=
    (Engine.read_ascends held readable).imp Key.ne_of_before
  rw [SearchIndex.get?_taking_eq_some_iff rfl (fun _ => rfl) distinct,
    Engine.get_eq_success_iff_mem held readable, and_assoc]

theorem reindex_end (held : service.store.Holds contents)
    (objects : ∀ id document, contents.get? id = some document → document.body.isObject = true) :
    service.Reindexed service.reindex := by
  have suits := Engine.get_suits held objects
  have whole : service.blank.sink.Orderly := SearchIndex.orderly_empty
  have refills := reindex_refills held
  generalize readable : contents.values.mapM service.store.kind.reread = answer at refills
  generalize service.reindex = result at refills ⊢
  cases refills with
  | offline closed => exact .failed fun orderly => orderly
  | unread cause available shown =>
      rw [delivering_objects]
      · exact .failed fun _ => whole.taking _
      · intro document member
        have found := congrArg Prod.fst (shown document member)
        exact (suits document.id document found).2
  | done read available =>
      rw [delivering_objects]
      · refine .done (fun id => ?_) fun _ => whole.taking read
        rcases Engine.get_eq_notExists_or held readable id with absent | ⟨document, found⟩
        · rw [absent, SearchIndex.answer]
          split
          · next document stored =>
              rw [((get?_blank_taking held readable).mp stored).1] at absent
              simp at absent
          · rfl
        · have stored := (get?_blank_taking held readable).mpr ⟨found, (suits id document found).2⟩
          rw [found, SearchIndex.answer, stored]
      · intro document member
        have found := (Engine.get_eq_success_iff_mem held readable).mpr ⟨member, rfl⟩
        exact (suits document.id document found).2

end Service

end Docket
