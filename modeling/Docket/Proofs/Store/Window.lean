import Docket.Proofs.Filter
import Docket.Proofs.Sql.Condition
import Docket.Proofs.Store.ReadBack
/-!
The window of a query on the relational store.

The database takes the numbers of a window for signed ones, and it takes a negative offset for none and
a negative limit for none (`Pagination.asSigned`). A statement looks at the rows in order of id and
stops when it has enough of them, so it answers that window of all rows that its conditions accept
(`SearchStatement.run_ofFilters`). It is the window that was asked for as long as the numbers fit, or
make no difference (`EngineKind.relational_query_window`). A query with more than 995 filters has no
answer in any window.
-/

namespace Docket

namespace Pagination

variable {α : Type} {window : Pagination} {items : List α}

def atMost : Option Nat → List α → List α
  | some most, items => items.take most
  | none, items => items

theorem apply_eq (window : Pagination) (items : List α) :
    window.apply items
      = atMost (window.limit.map UInt64.toNat) (items.drop window.offset.toNat) := by
  unfold apply
  cases window.limit with
  | none => rfl
  | some limit => rfl

/-- What is left of a window where numbers are signed: a negative offset leaves nothing out, and a
    negative limit is none. -/
def asSigned (window : Pagination) : Pagination where
  offset := if window.offset.toNat < 2 ^ 63 then window.offset else 0
  limit := window.limit.filter fun limit => limit.toNat < 2 ^ 63

def FitsSigned (window : Pagination) (length : Nat) : Prop :=
  length = 0 ∨ window.limit = some 0 ∨ (window.offset.toNat < 2 ^ 63 ∧
    ∀ limit, window.limit = some limit →
      limit.toNat < 2 ^ 63 ∨ length ≤ window.offset.toNat + limit.toNat)

theorem getElem?_apply (asked : window.limit ≠ some 0) :
    (window.apply items)[0]? = items[window.offset.toNat]? := by
  unfold apply
  split
  · next limit bound =>
      have positive : 0 < limit.toNat := by
        apply Nat.pos_of_ne_zero
        intro zero
        exact asked (bound.trans (congrArg some (UInt64.toNat.inj zero)))
      simp [positive]
  · simp

theorem apply_map {β : Type} (window : Pagination) (f : α → β) (items : List α) :
    window.apply (items.map f) = (window.apply items).map f := by
  simp only [apply, ← List.map_drop]
  cases window.limit with
  | none => rfl
  | some limit => exact List.map_take.symm

theorem apply_sublist (window : Pagination) (items : List α) :
    (window.apply items).Sublist items := by
  unfold apply
  cases window.limit with
  | none => exact List.drop_sublist _ _
  | some limit => exact (List.take_sublist _ _).trans (List.drop_sublist _ _)

theorem apply_limit_zero (bound : window.limit = some 0) : window.apply items = [] := by
  simp [apply, bound]

theorem limit_asSigned_ne_zero (asked : window.limit ≠ some 0) : window.asSigned.limit ≠ some 0 := by
  intro zero
  exact asked (Option.filter_eq_some_iff.mp zero).1

theorem apply_asSigned_eq_iff_of_offset (offset : window.offset.toNat < 2 ^ 63) :
    window.asSigned.apply items = window.apply items ↔ ∀ limit, window.limit = some limit →
      limit.toNat < 2 ^ 63 ∨ items.length ≤ window.offset.toNat + limit.toNat := by
  rw [apply_eq, apply_eq, asSigned, if_pos offset]
  cases window.limit with
  | none => simp
  | some limit =>
      rw [Option.filter_some]
      by_cases small : limit.toNat < 2 ^ 63
      · simp [small]
      · have whole : items.drop window.offset.toNat
              = (items.drop window.offset.toNat).take limit.toNat
            ↔ items.length ≤ window.offset.toNat + limit.toNat := by
          rw [eq_comm, List.take_eq_self_iff, List.length_drop, Nat.sub_le_iff_le_add']
        simp [small, atMost, whole]

/-- A list without repetitions has the same window in signed numbers only if those are enough. -/
theorem apply_asSigned_eq_iff (distinct : items.Nodup) :
    window.asSigned.apply items = window.apply items ↔ window.FitsSigned items.length := by
  unfold FitsSigned
  by_cases nothing : items = []
  · simp [nothing]
  · by_cases asked : window.limit = some 0
    · have bound : window.asSigned.limit = some 0 := by simp [asSigned, asked]
      simp [asked, apply_limit_zero asked, apply_limit_zero bound]
    · by_cases offset : window.offset.toNat < 2 ^ 63
      · simp [nothing, asked, offset, apply_asSigned_eq_iff_of_offset offset]
      · -- The two windows start with different items.
        simp only [List.length_eq_zero_iff, nothing, asked, offset, false_and, or_self, iff_false]
        intro same
        have first : (window.asSigned.apply items)[0]? = items[window.asSigned.offset.toNat]? :=
          getElem?_apply (limit_asSigned_ne_zero asked)
        rw [same, getElem?_apply asked, asSigned, if_neg offset] at first
        have place := (List.getElem?_inj (List.length_pos_iff.mpr nothing) distinct).mp first.symm
        rw [← place] at offset
        exact offset (by decide)

end Pagination

namespace SearchStatement

open Sql

variable {resource : Resource} {filters : Filters} {window : Pagination}

/-- Conditions of height five, each joined to all before it, add one to the height each. -/
theorem foldl_height {conditions : List Expr} (each : ∀ condition ∈ conditions, condition.height = 5)
    (height : Nat) (high : 5 ≤ height) :
    conditions.foldl (fun height condition => max height condition.height + 1) height
      = height + conditions.length := by
  induction conditions generalizing height with
  | nil => rfl
  | cons condition rest ih =>
      have others := ih (fun other member => each other (List.mem_cons_of_mem _ member))
        (height + 1) (by omega)
      rw [List.foldl_cons, each condition List.mem_cons_self, Nat.max_eq_left high, others,
        List.length_cons]
      omega

theorem greatestHeight_lt_height_iff :
    greatestHeight < (ofFilters resource filters window).height ↔ 995 < filters.size := by
  have size : (ofFilters resource filters window).conditions.length = filters.size :=
    List.length_map _
  have each : ∀ condition ∈ (ofFilters resource filters window).conditions,
      condition.height = 5 := by
    intro condition member
    obtain ⟨entry, _, rfl⟩ := List.mem_map.mp member
    rfl
  rw [height, greatestHeight]
  generalize (ofFilters resource filters window).conditions = conditions at size each
  cases conditions with
  | nil =>
      rw [List.length_nil] at size
      simp [← size]
  | cons condition rest =>
      have others := foldl_height (fun other member => each other (List.mem_cons_of_mem _ member))
        6 (by decide)
      rw [List.length_cons] at size
      rw [List.foldl_cons, each condition List.mem_cons_self]
      change 1000 < rest.foldl _ 6 ↔ _
      omega

theorem limit_ofFilters :
    (if (ofFilters resource filters window).limit < 0 then none
      else some (ofFilters resource filters window).limit.toNat)
      = window.asSigned.limit.map UInt64.toNat := by
  obtain ⟨offset, limit⟩ := window
  simp only [ofFilters, Pagination.asSigned]
  cases limit with
  | none => simp
  | some limit =>
      have width := limit.toNat_lt
      rw [Option.filter_some]
      by_cases small : limit.toNat < 2 ^ 63
      · simp [signed64, small]
      · simp [signed64, small, width]

theorem offset_ofFilters :
    (ofFilters resource filters window).offset.toNat = window.asSigned.offset.toNat := by
  have width := window.offset.toNat_lt
  simp only [ofFilters, Pagination.asSigned, signed64]
  by_cases small : window.offset.toNat < 2 ^ 63
  · simp [small]
  · simp [small, width.le]

variable {statement : SearchStatement} {rows : List (DocumentId × DocumentRow)}

theorem collect_eq {keep : DocumentRow → Bool}
    (total : ∀ row ∈ rows, statement.accepts row.2 = .ok (keep row.2)) (skip : Nat)
    (left : Option Nat) :
    statement.collect skip left rows
      = .ok (Pagination.atMost left ((rows.filter fun row => keep row.2).drop skip)) := by
  induction rows generalizing skip left with
  | nil => cases left <;> simp [collect, Pagination.atMost]
  | cons row rest ih =>
      have first := total row List.mem_cons_self
      have others := ih fun other member => total other (List.mem_cons_of_mem _ member)
      by_cases enough : left = some 0
      · simp [collect, enough, Pagination.atMost]
      · unfold collect
        rw [if_neg enough, first]
        cases kept : keep row.2 with
        | false => simp [others, kept]
        | true =>
            cases skip with
            | succ skip => simp [others, kept]
            | zero =>
                cases left with
                | none => simp [others, kept, Pagination.atMost]
                | some most =>
                    obtain ⟨fewer, rfl⟩ := Nat.exists_eq_succ_of_ne_zero fun zero =>
                      enough (congrArg some zero)
                    simp [others, kept, Pagination.atMost]

theorem exists_conditionsHold {stored : String} {conditions : List Expr}
    (total : ∀ condition ∈ conditions, ∃ value, condition.eval stored = .ok value) :
    ∃ holds, conditionsHold stored conditions = .ok holds := by
  induction conditions with
  | nil => exact ⟨true, rfl⟩
  | cons condition rest ih =>
      obtain ⟨value, evaluated⟩ := total condition List.mem_cons_self
      rw [conditionsHold, evaluated]
      simp only
      split
      · exact ih fun other member => total other (List.mem_cons_of_mem _ member)
      · exact ⟨false, rfl⟩

theorem exists_accepts {row : DocumentRow} {body : Body}
    (text : row.bodyText = RelationalStore.encodeBody body) (shallow : body.json.depth ≤ 1000) :
    ∃ kept, (ofFilters resource filters window).accepts row = .ok kept := by
  unfold accepts
  split
  · rw [text]
    apply exists_conditionsHold
    intro condition member
    obtain ⟨entry, _, rfl⟩ := List.mem_map.mp member
    exact Expr.exists_eval_bodyScalarEq body.canonical shallow entry.1 entry.2
  · exact ⟨false, rfl⟩

def selects (resource : Resource) (filters : Filters) (row : DocumentRow) : Bool :=
  ((ofFilters resource filters .all).accepts row).toOption.getD false

theorem run_ofFilters (few : filters.size ≤ 995)
    (total : ∀ row ∈ rows, ∃ kept, (ofFilters resource filters .all).accepts row.2 = .ok kept)
    (window : Pagination) :
    (ofFilters resource filters window).run rows
      = .ok (window.asSigned.apply (rows.filter fun row => selects resource filters row.2)) := by
  have kept : ∀ row ∈ rows, (ofFilters resource filters window).accepts row.2
      = .ok (selects resource filters row.2) := by
    intro row member
    obtain ⟨kept, accepted⟩ := total row member
    -- Nothing in the acceptance of a row goes by the window.
    change (ofFilters resource filters .all).accepts row.2 = _
    rw [selects, accepted]
    rfl
  have low : ¬ greatestHeight < (ofFilters resource filters window).height := by
    rw [greatestHeight_lt_height_iff]
    omega
  rw [run, if_neg low, collect_eq kept, limit_ofFilters, offset_ofFilters, Pagination.apply_eq]

end SearchStatement

namespace RelationalStore

variable {store : RelationalStore} {contents : Contents} {resource : Resource} {filters : Filters}

theorem decodeRows_eq_map {rows : List (DocumentId × DocumentRow)}
    {read : DocumentId × DocumentRow → Document}
    (each : ∀ row ∈ rows, store.decodeRow row.1 row.2 = .ok (read row)) :
    store.decodeRows rows = .ok (rows.map read) := by
  induction rows with
  | nil => rfl
  | cons row rest ih =>
      have first := each row List.mem_cons_self
      have others := ih fun other member => each other (List.mem_cons_of_mem _ member)
      simp only [List.map_cons, decodeRows, first, others]

theorem id_of_decodeRow {id : DocumentId} {row : DocumentRow} {document : Document}
    (decoded : store.decodeRow id row = .ok document) : document.id = id := by
  unfold decodeRow at decoded
  split at decoded
  · simp at decoded
  · rw [← Except.ok.inj decoded]

theorem query_of_tooHigh (accepted : filters.validate = .ok ()) (many : 995 < filters.size)
    (window : Pagination) :
    store.query resource filters window
      = .unknownFailure (StoreError.engine Sql.EvalError.tooHigh.message).message := by
  rw [query, accepted]
  simp only [SearchStatement.run, if_pos (SearchStatement.greatestHeight_lt_height_iff.mpr many)]

theorem exists_query_eq (held : store.Holds contents)
    (readable : ∀ id document, contents.get? id = some document →
      EngineKind.relational.Reads document.body)
    (accepted : filters.validate = .ok ()) (few : filters.size ≤ 995) :
    ∃ documents : List Document, documents.Nodup ∧ ∀ window,
      store.query resource filters window = .success (window.asSigned.apply documents) := by
  have stored : ∀ row ∈ store.documents.toList, ∃ document,
      contents.get? row.1 = some document ∧ row.2 = .ofDocument document := by
    intro row member
    have found := Table.mem_toList_iff.mp member
    rw [held.documents] at found
    obtain ⟨document, present, same⟩ := Option.map_eq_some_iff.mp found
    exact ⟨document, present, same.symm⟩
  let read (row : DocumentId × DocumentRow) : Document :=
    (store.decodeRow row.1 row.2).toOption.getD default
  have decoded : ∀ row ∈ store.documents.toList, store.decodeRow row.1 row.2 = .ok (read row) := by
    intro row member
    obtain ⟨document, present, own⟩ := stored row member
    obtain ⟨document', reread⟩ :=
      (EngineKind.exists_reread_iff document).mpr (readable _ _ present)
    have decoded : store.decodeRow row.1 row.2 = .ok document' := by
      rw [own, decodeRow_eq held present]
      exact reread
    simp only [read, decoded, Except.toOption, Option.getD_some]
  have total : ∀ row ∈ store.documents.toList, ∃ kept,
      (SearchStatement.ofFilters resource filters .all).accepts row.2 = .ok kept := by
    intro row member
    obtain ⟨document, present, own⟩ := stored row member
    have shallow := (readable _ _ present 127 rfl).1
    exact SearchStatement.exists_accepts (congrArg DocumentRow.bodyText own) (by omega)
  have inside : ∀ row ∈ store.documents.toList.filter fun row =>
      SearchStatement.selects resource filters row.2, row ∈ store.documents.toList :=
    fun row member => (List.mem_filter.mp member).1
  have ascending := store.documents.ascending.filter fun row =>
    SearchStatement.selects resource filters row.2
  refine ⟨(store.documents.toList.filter fun row =>
    SearchStatement.selects resource filters row.2).map read, ?_, ?_⟩
  · -- The ids of the answer ascend, so no document is in it twice.
    apply List.pairwise_map.mpr
    apply ascending.imp_of_mem
    intro row other member member' before same
    rw [← id_of_decodeRow (decoded row (inside row member)),
      ← id_of_decodeRow (decoded other (inside other member')), same] at before
    exact Key.ne_of_before before rfl
  · intro window
    have each : ∀ row ∈ window.asSigned.apply (store.documents.toList.filter fun row =>
        SearchStatement.selects resource filters row.2), store.decodeRow row.1 row.2 = .ok (read row) :=
      fun row member => decoded row (inside row ((window.asSigned.apply_sublist _).subset member))
    rw [query, accepted]
    simp only [SearchStatement.run_ofFilters few total window, decodeRows_eq_map each,
      Pagination.apply_map]

end RelationalStore

namespace EngineKind

theorem exists_relational_reached (calls : List Call) :
    ∃ store, relational.reached calls = .relational store := by
  have kind := kind_reached relational calls
  cases reached : relational.reached calls with
  | relational store => exact ⟨store, rfl⟩
  | memory store => simp [reached, Engine.kind] at kind
  | keyValue store => simp [reached, Engine.kind] at kind

theorem readable_iff_reads (kind : EngineKind) (calls : List Call) :
    (∀ id message, (DocumentStore.get id (kind.reached calls)).1 ≠ .unknownFailure message)
      ↔ ∀ document ∈ (kind.written calls).values, kind.Reads document.body := by
  have held := kind.reached_holds calls
  have each : ∀ {id document}, (kind.written calls).get? id = some document →
      (kind.Reads document.body ↔
        ∀ message, (DocumentStore.get id (kind.reached calls)).1 ≠ .unknownFailure message) := by
    intro id document present
    rw [← Engine.readable_iff held present, kind_reached, exists_reread_iff]
  constructor
  · intro readable document member
    obtain ⟨id, present⟩ := Table.mem_values_iff.mp member
    exact (each present).mpr (readable id)
  · intro reads id
    cases present : (kind.written calls).get? id with
    | none => simp [Engine.get_eq held, present, GetOutcome.ofReading]
    | some document => exact (each present).mp (reads document (Table.mem_values_iff.mpr ⟨id, present⟩))

/-- Of a relational store that can be read, a query with more than 995 filters has no answer in any
    window. Every other query answers in each window what signed numbers make of it, and that is the
    window of its whole answer if and only if they are enough. -/
theorem relational_query_window (calls : List Call)
    (readable : ∀ id message,
      (DocumentStore.get id (relational.reached calls)).1 ≠ .unknownFailure message)
    (index : SearchIndex) (resource : Resource) {filters : Filters}
    (accepted : filters.validate = .ok ()) :
    let answer (window : Pagination) : QueryOutcome :=
      (DocumentStore.query index resource filters window (relational.reached calls)).1
    (995 < filters.size → ∀ window,
      answer window = .unknownFailure (StoreError.engine Sql.EvalError.tooHigh.message).message) ∧
    (filters.size ≤ 995 → ∃ documents, answer .all = .success documents ∧ ∀ window,
      answer window = .success (window.asSigned.apply documents) ∧
        (answer window = .success (window.apply documents)
          ↔ window.FitsSigned documents.length)) := by
  have held := relational.reached_holds calls
  have reads : ∀ id document, (relational.written calls).get? id = some document →
      relational.Reads document.body := fun id document present =>
    (relational.readable_iff_reads calls).mp readable document (Table.mem_values_iff.mpr ⟨id, present⟩)
  obtain ⟨store, reached⟩ := exists_relational_reached calls
  rw [reached] at held ⊢
  refine ⟨fun many window => RelationalStore.query_of_tooHigh accepted many window, fun few => ?_⟩
  obtain ⟨documents, distinct, answers⟩ := RelationalStore.exists_query_eq
    (Engine.relational_holds.mp held) reads accepted few
  refine ⟨documents, answers .all, fun window => ⟨answers window, ?_⟩⟩
  rw [← Pagination.apply_asSigned_eq_iff distinct]
  change store.query resource filters window = _ ↔ _
  rw [answers window, QueryOutcome.success.injEq]

def twoStored : List Call :=
  [.upsert ⟨.bare (.numbered 1) [] [], []⟩, .upsert ⟨.bare (.numbered 2) [] [], []⟩]

theorem readable_twoStored (id : DocumentId) (message : String) :
    (DocumentStore.get id (relational.reached twoStored)).1 ≠ .unknownFailure message := by
  refine (relational.readable_iff_reads twoStored).mpr ?_ id message
  have empty : ∀ document ∈ (relational.written twoStored).values,
      document.body = Body.emptyObject := by decide +kernel
  intro document member
  rw [empty document member]
  rintro greatest ⟨⟩
  exact ⟨by decide, by decide⟩

theorem relational_query_window_twoStored :
    (∀ id message,
      (DocumentStore.get id (relational.reached twoStored)).1 ≠ .unknownFailure message) ∧
    Filters.empty.validate = .ok () ∧
    ∃ documents, ∀ window : Pagination, window.FitsSigned documents.length →
      (DocumentStore.query .empty default .empty window (relational.reached twoStored)).1
        = .success (window.apply documents) := by
  have accepted : Filters.empty.validate = .ok () := rfl
  obtain ⟨documents, _, answers⟩ :=
    (relational_query_window twoStored readable_twoStored .empty default accepted).2 (by decide)
  exact ⟨readable_twoStored, accepted, documents, fun window => (answers window).2.mpr⟩

/-- An offset beyond the signed numbers leaves nothing out, where it should leave out everything. -/
theorem relational_query_offset_wraps :
    let answer (window : Pagination) : QueryOutcome :=
      (DocumentStore.query .empty default .empty window (relational.reached twoStored)).1
    let window : Pagination := ⟨9223372036854775808, none⟩
    let documents := [Document.bare (.numbered 1) [] [], .bare (.numbered 2) [] []]
    (∀ id message,
      (DocumentStore.get id (relational.reached twoStored)).1 ≠ .unknownFailure message) ∧
    Filters.empty.validate = .ok () ∧ answer .all = .success documents ∧
      window.apply documents = [] ∧ answer window = .success documents := by
  exact ⟨readable_twoStored, rfl, by decide +kernel, by decide +kernel, by decide +kernel⟩

end EngineKind

end Docket
