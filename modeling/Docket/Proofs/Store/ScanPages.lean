import Docket.Proofs.Store.Window
/-!
Scanning a store page by page until a page is empty.

Every page starts behind the last document of the one before (`Paged`). What such a loop reads is
determined, it comes to an end for every page size but zero, and its pages are all documents in order
of id (`EngineKind.scan_pages_complete`). A limit that the database takes for a negative number makes
one page of them all.
-/

namespace Docket

/-- The loop that reads the documents after an id: it asks for a page and goes on behind its last
    document, until a page is empty. -/
inductive Paged {σ : Type} [DocumentStore σ] (limit : UInt64) :
    σ → Option DocumentId → List (List Document) → Prop where
  | done {store next bound} (empty : DocumentStore.scan bound limit store = (.ok [], next)) :
      Paged limit store bound []
  | page {store next bound documents last pages}
      (read : DocumentStore.scan bound limit store = (.ok documents, next))
      (ends : documents.getLast? = some last) (rest : Paged limit next (some last.id) pages) :
      Paged limit store bound (documents :: pages)

theorem Paged.unique {σ : Type} [DocumentStore σ] {limit : UInt64} {store : σ}
    {bound : Option DocumentId} {pages others : List (List Document)}
    (first : Paged limit store bound pages) (second : Paged limit store bound others) :
    pages = others := by
  induction first generalizing others with
  | done empty =>
      cases second with
      | done => rfl
      | page read ends =>
          rw [empty, Prod.mk.injEq, Except.ok.injEq] at read
          simp [← read.1] at ends
  | page read ends _ ih =>
      cases second with
      | done empty =>
          rw [empty, Prod.mk.injEq, Except.ok.injEq] at read
          simp [← read.1] at ends
      | page read' ends' rest' =>
          rw [read, Prod.mk.injEq, Except.ok.injEq] at read'
          obtain ⟨rfl, rfl⟩ := read'
          rw [ends, Option.some.injEq] at ends'
          subst ends'
          rw [ih rest']

namespace Engine

variable {engine : Engine} {contents : Contents}

/-- Every limit but zero bounds the pages of an engine by a number of documents, the same for all. -/
theorem exists_scan_eq_take (held : engine.Holds contents) {limit : UInt64} (positive : 0 < limit) :
    ∃ count, 0 < count ∧ ∀ bound, DocumentStore.scan bound limit engine
      = (((contents.following bound).take count).mapM engine.kind.reread, engine) := by
  have asked : 0 < limit.toNat := UInt64.lt_iff_toNat_lt.mp positive
  by_cases bounded : limit.toNat < 2 ^ 63 ∨ contents.size ≤ limit.toNat
  · exact ⟨limit.toNat, asked, fun bound => scan_eq held bound bounded⟩
  · rw [not_or] at bounded
    cases engine with
    | memory store =>
        refine ⟨limit.toNat, asked, fun bound => ?_⟩
        change (Except.ok (store.scan bound limit), memory store) = _
        rw [MemoryStore.scan_eq (memory_holds.mp held), ← EngineKind.mapM_ok]
        rfl
    | keyValue store =>
        refine ⟨limit.toNat, asked, fun bound => ?_⟩
        change (store.scan bound limit, keyValue store) = _
        rw [KeyValueStore.scan_eq (keyValue_holds.mp held)]
        rfl
    | relational store =>
        refine ⟨contents.size + 1, Nat.succ_pos _, fun bound => ?_⟩
        change (store.scan bound limit, relational store) = _
        rw [RelationalStore.scan_eq_of_negative (relational_holds.mp held) bound bounded.1
          (Nat.le_succ _)]
        rfl

/-- From any id on, the loop reads what is left and ends: each page that is not empty leaves less. -/
theorem exists_paged (held : engine.Holds contents) {limit : UInt64} (positive : 0 < limit)
    {bound : Option DocumentId} {read : List Document}
    (readable : (contents.following bound).mapM engine.kind.reread = .ok read) :
    ∃ pages, Paged limit engine bound pages ∧ pages.flatten = read := by
  obtain ⟨count, counts, scans⟩ := exists_scan_eq_take held positive
  induction left : (contents.following bound).length using Nat.strong_induction_on
    generalizing bound read with
  | _ length ih =>
      obtain ⟨documents, rest, front, back, rfl⟩ := exists_of_mapM_split readable count
      have page := scans bound
      rw [front] at page
      have many := (mapM_eq_ok_iff.mp front).length_eq
      rw [List.length_take, left] at many
      cases ends : documents.getLast? with
      | none =>
          obtain rfl := List.getLast?_eq_none_iff.mp ends
          rw [List.length_nil] at many
          have nothing : contents.following bound = [] := List.length_eq_zero_iff.mp (by omega)
          obtain rfl : rest = [] := by simpa [nothing, pure, Except.pure, eq_comm] using back
          exact ⟨[], .done page, rfl⟩
      | some last =>
          have behind := following_page held front ends
          have inside : documents ≠ [] := by
            rintro rfl
            simp at ends
          have read := List.length_pos_iff.mpr inside
          rw [← behind] at back
          obtain ⟨pages, paged, shown⟩ :=
            ih (length - count) (by omega) back (by rw [behind, List.length_drop, left])
          exact ⟨documents :: pages, .page page ends paged, by rw [List.flatten_cons, shown]⟩

theorem exists_read (held : engine.Holds contents)
    (readable : ∀ id message, (DocumentStore.get id engine).1 ≠ .unknownFailure message) :
    ∃ read, contents.values.mapM engine.kind.reread = .ok read := by
  cases answer : contents.values.mapM engine.kind.reread with
  | ok read => exact ⟨read, rfl⟩
  | error cause =>
      obtain ⟨document, member, failed⟩ := exists_of_mapM_error answer
      obtain ⟨id, present⟩ := Table.mem_values_iff.mp member
      have shown := get_eq held id
      rw [present, Option.map_some, failed, GetOutcome.ofReading] at shown
      exact absurd (congrArg Prod.fst shown) (readable id cause.message)

end Engine

namespace EngineKind

/-- Of an engine whose documents can all be read, pages of any size but zero are asked for until one
    is empty; there is one way for this to go, and its pages are the stored documents, each once and
    in ascending order of id. -/
theorem scan_pages_complete (kind : EngineKind) (calls : List Call)
    (readable : ∀ id message,
      (DocumentStore.get id (kind.reached calls)).1 ≠ .unknownFailure message)
    (limit : UInt64) (positive : 0 < limit) :
    let engine := kind.reached calls
    ∃ pages, Paged limit engine none pages ∧
      (∀ others, Paged limit engine none others → others = pages) ∧
      Ascends (pages.flatten.map Document.id) ∧
      pages.flatten.map Document.id = (kind.written calls).keys ∧
      ∀ id document, (DocumentStore.get id engine).1 = .success document ↔
        document ∈ pages.flatten ∧ document.id = id := by
  intro engine
  have held : engine.Holds (kind.written calls) := kind.reached_holds calls
  obtain ⟨read, all⟩ := Engine.exists_read held readable
  have start : ((kind.written calls).following none).mapM engine.kind.reread = .ok read := by
    rwa [Contents.following_none]
  obtain ⟨pages, paged, shown⟩ := Engine.exists_paged held positive start
  refine ⟨pages, paged, fun others paged' => paged'.unique paged, ?_, ?_, ?_⟩
  · rw [shown]
    exact Engine.read_ascends held all
  · rw [shown, map_id_of_mapM all, Contents.map_id_values held.exact.named]
  · intro id document
    rw [shown]
    exact Engine.get_eq_success_iff_mem held all

theorem scan_pages_complete_twoStored :
    (∀ id message,
      (DocumentStore.get id (relational.reached twoStored)).1 ≠ .unknownFailure message) ∧
    0 < (1 : UInt64) ∧ 0 < (9223372036854775808 : UInt64) ∧
    (∃ pages, Paged 1 (relational.reached twoStored) none pages ∧
      pages.flatten.map Document.id = [.numbered 1, .numbered 2]) ∧
    ∃ pages, Paged 9223372036854775808 (relational.reached twoStored) none pages ∧
      pages.flatten.map Document.id = [.numbered 1, .numbered 2] := by
  have keys : (relational.written twoStored).keys = [.numbered 1, .numbered 2] := by decide +kernel
  obtain ⟨single, paged, _, _, ids, _⟩ := scan_pages_complete relational twoStored
    readable_twoStored 1 (by decide)
  obtain ⟨whole, paged', _, _, ids', _⟩ := scan_pages_complete relational twoStored
    readable_twoStored 9223372036854775808 (by decide)
  exact ⟨readable_twoStored, by decide, by decide, ⟨single, paged, ids.trans keys⟩,
    ⟨whole, paged', ids'.trans keys⟩⟩

end EngineKind

end Docket
