import Docket.Proofs.Service.Queries
import Docket.Proofs.Store.ReadBack
/-!
The pages of a query on the store in memory.

For every client there is one list of documents that a query is about: those that the resource, the
filters and the rights of the client let through, in order of id. Each window is laid over that list
and over no other, so that pages of one size, put one after another, are the list
(`EngineKind.memory_query_exact`).
-/

namespace Docket

namespace Pagination

variable {α : Type} {size : UInt64} {number count : Nat}

def page (size : UInt64) (number : Nat) : Pagination :=
  ⟨UInt64.ofNat (number * size.toNat), some size⟩

theorem apply_page (fits : number * size.toNat < 2 ^ 64) (items : List α) :
    (page size number).apply items = (items.drop (number * size.toNat)).take size.toNat := by
  simp only [page, apply, UInt64.toNat_ofNat_of_lt' fits]

theorem flatMap_drop_take (items : List α) (size count : Nat) :
    ((List.range count).flatMap fun number => (items.drop (number * size)).take size)
      = items.take (count * size) := by
  induction count with
  | zero => simp
  | succ count ih =>
      rw [List.range_succ, List.flatMap_append, ih, List.flatMap_singleton, Nat.succ_mul,
        List.take_add]

theorem flatMap_page (items : List α) (fits : ∀ number < count, number * size.toNat < 2 ^ 64) :
    ((List.range count).flatMap fun number => (page size number).apply items)
      = items.take (count * size.toNat) := by
  rw [← flatMap_drop_take]
  apply List.flatMap_congr
  intro number inside
  exact apply_page (fits number (List.mem_range.mp inside)) items

theorem exists_enough_pages (length : Nat) (nonzero : size ≠ 0) :
    ∃ count, length ≤ count * size.toNat ∧ ∀ number < count, number * size.toNat < length := by
  have positive : 0 < size.toNat := by
    apply Nat.pos_of_ne_zero
    intro zero
    exact nonzero (UInt64.toNat.inj zero)
  refine ⟨(length + size.toNat - 1) / size.toNat, ?_, fun number less => ?_⟩
  · have rounded := Nat.lt_div_mul_add positive (a := length + size.toNat - 1)
    omega
  · have begun := (Nat.le_div_iff_mul_le positive).mp less
    rw [Nat.succ_mul] at begun
    omega

end Pagination

namespace Service

variable {κ : Type} [ProjectionSink κ]

def firstPages (service : Service Engine κ) (resource : Resource) (filters : Filters)
    (security : Security) (traceId : String) (size : UInt64) (count : Nat) : List Document :=
  (List.range count).flatMap fun number =>
    (service.query ⟨resource, filters, .page size number, security, traceId⟩).1.documents

/-- The queries of a client for a resource and filters answer one list: the stored documents that
    these and its rights let through, in order of id. -/
structure QueriesExactly (service : Service Engine κ) (resource : Resource) (filters : Filters)
    (security : Security) (hits : List Document) : Prop where
  ascends : Ascends (hits.map Document.id)
  mem_iff : ∀ document, document ∈ hits ↔
    (DocumentStore.get document.id service.store).1 = .success document ∧
      document.resource.sameCoordinates resource = true ∧
      filters.accepts document.body.json = true ∧ security.permits document = true
  answer : ∀ window traceId,
    (service.query ⟨resource, filters, window, security, traceId⟩).1
      = ⟨.querySuccess, window.apply hits, none⟩
  /-- Pages one after another are the list from its beginning. Offsets have 64 bits. -/
  pages : ∀ traceId (size : UInt64) count, (∀ number < count, number * size.toNat < 2 ^ 64) →
    service.firstPages resource filters security traceId size count
      = hits.take (count * size.toNat)
  /-- Some number of them is the answer without a window, and nothing is on the pages behind. -/
  whole : ∀ traceId (size : UInt64), size ≠ 0 → hits.length ≤ 2 ^ 64 →
    ∃ count, (∀ number < count, number * size.toNat < 2 ^ 64) ∧
      service.firstPages resource filters security traceId size count
        = (service.query ⟨resource, filters, .all, security, traceId⟩).1.documents ∧
      ∀ number, count ≤ number → number * size.toNat < 2 ^ 64 →
        (service.query ⟨resource, filters, .page size number, security, traceId⟩).1.documents = []

variable {service : Service Engine κ} {resource : Resource} {filters : Filters}
  {security : Security} {hits : List Document}

theorem queriesExactly_of_answer (ascends : Ascends (hits.map Document.id))
    (mem_iff : ∀ document, document ∈ hits ↔
      (DocumentStore.get document.id service.store).1 = .success document ∧
        document.resource.sameCoordinates resource = true ∧
        filters.accepts document.body.json = true ∧ security.permits document = true)
    (answer : ∀ window traceId,
      (service.query ⟨resource, filters, window, security, traceId⟩).1
        = ⟨.querySuccess, window.apply hits, none⟩) :
    service.QueriesExactly resource filters security hits where
  ascends := ascends
  mem_iff := mem_iff
  answer := answer
  pages traceId size count fits := by
    simp only [firstPages, answer]
    exact Pagination.flatMap_page hits fits
  whole traceId size nonzero short := by
    simp only [firstPages, answer]
    obtain ⟨count, enough, begun⟩ := Pagination.exists_enough_pages hits.length nonzero
    have fits : ∀ number < count, number * size.toNat < 2 ^ 64 := fun number inside =>
      Nat.lt_of_lt_of_le (begun number inside) short
    refine ⟨count, fits, ?_, fun number behind fits => ?_⟩
    · rw [Pagination.flatMap_page hits fits, List.take_of_length_le enough, Pagination.apply_all]
    · have passed : hits.length ≤ number * size.toNat :=
        enough.trans (Nat.mul_le_mul_right _ behind)
      rw [Pagination.apply_page fits, List.drop_of_length_le passed, List.take_nil]

end Service

/-- Queries of a service on the store in memory are exact for every client, whether it is held to
    its own documents or not: after any calls, for every resource, all valid filters and every
    window. -/
theorem EngineKind.memory_query_exact {κ : Type} [ProjectionSink κ] (calls : List Call)
    (service : Service Engine κ) (stands : service.store = memory.reached calls)
    (source : service.config.query.source = .primary) (resource : Resource) (filters : Filters)
    (accepted : filters.validate = .ok ()) (security : Security) :
    ∃ hits, service.QueriesExactly resource filters security hits := by
  have held : service.store.Holds (memory.written calls) := stands ▸ memory.reached_holds calls
  have kind : service.store.kind = .memory := stands ▸ memory.kind_reached calls
  let request (window : Pagination) (traceId : String) : QueryRequest :=
    ⟨resource, filters, window, security, traceId⟩
  refine ⟨(request .all "").hits (memory.written calls), Service.queriesExactly_of_answer ?_ ?_ ?_⟩
  · have ascends : Ascends ((memory.written calls).values.map Document.id) := by
      rw [Contents.map_id_values held.exact.named]
      exact Table.keys_ascending _
    exact ascends.sublist (List.filter_sublist.map Document.id)
  · intro document
    have stored : document ∈ (memory.written calls).values ↔
        (memory.written calls).get? document.id = some document := by
      rw [Table.mem_values_iff]
      constructor
      · rintro ⟨id, found⟩
        exact held.exact.named id document found ▸ found
      · exact fun found => ⟨document.id, found⟩
    rw [Engine.get_memory_iff kind held, QueryRequest.hits, List.mem_filter, stored]
    simp only [request, Bool.and_eq_true, and_assoc]
  · intro window traceId
    rw [Service.query_memory kind held source, QueryRequest.result]
    simp only [accepted]
    rfl

def ownedBy (client : String) (number : UInt8) : DocumentWrite :=
  ⟨{ Document.bare (.numbered number) [] [] with createdBy := some client }, []⟩

def threeOwned : List Call :=
  [.upsert (ownedBy "a" 3), .upsert (ownedBy "b" 2), .upsert (ownedBy "a" 1)]

theorem EngineKind.memory_query_exact_threeOwned :
    let service : Service Engine SearchIndex :=
      Service.start {} (memory.reached threeOwned) SearchIndex.empty
    service.store = memory.reached threeOwned ∧ service.config.query.source = .primary ∧
      Filters.empty.validate = .ok () ∧
      ∃ hits, service.QueriesExactly default Filters.empty ⟨"a", .ownershipBased⟩ hits ∧
        hits.map Document.id = [.numbered 1, .numbered 3] := by
  intro service
  obtain ⟨hits, exactly⟩ := memory_query_exact threeOwned service rfl rfl default Filters.empty rfl
    ⟨"a", .ownershipBased⟩
  refine ⟨rfl, rfl, rfl, hits, exactly, ?_⟩
  have whole : _ = hits := congrArg QueryResult.documents (exactly.answer .all "")
  rw [← whole]
  decide +kernel

end Docket
