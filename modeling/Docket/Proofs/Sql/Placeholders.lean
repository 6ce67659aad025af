import Docket.Store.Relational
/-!
The text of a query and the values bound to it.

A query is put together by steps (`QueryStep`). Each adds fixed text and places for values, in the
order in which it is called, so the value of a place is the one that was bound there (`fill`), and
the text says nothing about the values (`text_independent_of_values`). The text of a search thus
depends only on how many filters there are.
-/

namespace Docket.Sql

inductive Piece where
  | fragment (text : String)
  | place (value : Value)

namespace Piece

def chars : Piece → List Char
  | .fragment text => text.toList
  | .place _ => ['?']

def values : Piece → List Value
  | .fragment _ => []
  | .place value => [value]

def shown : Piece → List (Char ⊕ Value)
  | .fragment text => text.toList.map .inl
  | .place value => [.inr value]

/-- Whether every question mark in a part is a place for a value. -/
def Plain : Piece → Prop
  | .fragment text => '?' ∉ text.toList
  | .place _ => True

end Piece

/-- The text with the values in the places of its question marks, the first in the first, if there
    are as many of the ones as of the others. -/
def fill : List Char → List Value → Option (List (Char ⊕ Value))
  | [], [] => some []
  | [], _ :: _ => none
  | c :: rest, [] => if c = '?' then none else (fill rest []).map (.inl c :: ·)
  | c :: rest, value :: values =>
      if c = '?' then (fill rest values).map (.inr value :: ·)
      else (fill rest (value :: values)).map (.inl c :: ·)

theorem fill_plain {c : Char} (other : c ≠ '?') (rest : List Char) (values : List Value) :
    fill (c :: rest) values = (fill rest values).map (.inl c :: ·) := by
  cases values with
  | nil => rw [fill, if_neg other]
  | cons value values => rw [fill, if_neg other]

theorem count_of_fill {chars : List Char} {values : List Value} {shown : List (Char ⊕ Value)}
    (filled : fill chars values = some shown) : chars.count '?' = values.length := by
  induction chars generalizing values shown with
  | nil =>
      cases values with
      | nil => rfl
      | cons value values => simp [fill] at filled
  | cons c rest ih =>
      by_cases mark : c = '?'
      · subst mark
        cases values with
        | nil => simp [fill] at filled
        | cons value values =>
            rw [fill, if_pos rfl] at filled
            obtain ⟨more, later, _⟩ := Option.map_eq_some_iff.mp filled
            rw [List.count_cons_self, ih later, List.length_cons]
      · rw [fill_plain mark] at filled
        obtain ⟨more, later, _⟩ := Option.map_eq_some_iff.mp filled
        rw [List.count_cons_of_ne mark, ih later]

theorem fill_append {front : List Char} (plain : '?' ∉ front) (rest : List Char)
    (values : List Value) :
    fill (front ++ rest) values = (fill rest values).map (front.map .inl ++ ·) := by
  induction front with
  | nil => simp
  | cons c front ih =>
      obtain ⟨other, plain⟩ := not_or.mp (mt List.mem_cons.mpr plain)
      rw [List.cons_append, fill_plain (Ne.symm other), ih plain, Option.map_map]
      rfl

theorem fill_pieces {pieces : List Piece} (plain : ∀ piece ∈ pieces, piece.Plain) :
    fill (pieces.flatMap Piece.chars) (pieces.flatMap Piece.values)
      = some (pieces.flatMap Piece.shown) := by
  induction pieces with
  | nil => rfl
  | cons piece rest ih =>
      obtain ⟨own, others⟩ := List.forall_mem_cons.mp plain
      rw [List.flatMap_cons, List.flatMap_cons, List.flatMap_cons]
      cases piece with
      | fragment text => simp [Piece.chars, Piece.values, Piece.shown, fill_append own, ih others]
      | place value => simp [Piece.chars, Piece.values, Piece.shown, fill, ih others]

namespace Query

def add (query : Query) : Piece → Query
  | .fragment text => query.push text
  | .place value => query.bind value

variable (query : Query)

theorem sql_foldl_add (pieces : List Piece) :
    (pieces.foldl add query).sql.toList = query.sql.toList ++ pieces.flatMap Piece.chars := by
  induction pieces generalizing query with
  | nil => simp
  | cons piece rest ih =>
      rw [List.foldl_cons, ih, List.flatMap_cons, ← List.append_assoc]
      cases piece with
      | fragment text => simp [add, push, Piece.chars]
      | place value => simp [add, bind, Piece.chars]

theorem params_foldl_add (pieces : List Piece) :
    (pieces.foldl add query).params = query.params ++ pieces.flatMap Piece.values := by
  induction pieces generalizing query with
  | nil => simp
  | cons piece rest ih =>
      rw [List.foldl_cons, ih, List.flatMap_cons, ← List.append_assoc]
      cases piece with
      | fragment text => simp [add, push, Piece.values]
      | place value => simp [add, bind, Piece.values]

theorem push_push (first second : String) :
    (query.push first).push second = query.push (first ++ second) := by
  simp [push, String.append_assoc]

end Query

inductive QueryStep where
  | push (fragment : String)
  | bind (value : Value)
  | bindList (values : List Value)
  | bodyScalarEq (path value : String)

namespace QueryStep

def apply (query : Query) : QueryStep → Query
  | .push fragment => query.push fragment
  | .bind value => query.bind value
  | .bindList values => query.bindList values
  | .bodyScalarEq path value => query.pushBodyScalarEq path value

def values : QueryStep → List Value
  | .push _ => []
  | .bind value => [value]
  | .bindList values => values
  | .bodyScalarEq path value => [
      .text path, .text value, .text value, .text path, .text value, .text path,
      .ofOption (canonicalReal? value), .text path, .text value]

def pieces : QueryStep → List Piece
  | .push text => [.fragment text]
  | .bind value => [.place value]
  | .bindList [] => [.fragment "(", .fragment "NULL", .fragment ")"]
  | .bindList (value :: rest) =>
      [.fragment "(", .place value]
        ++ rest.flatMap (fun value => [.fragment ", ", .place value]) ++ [.fragment ")"]
  | .bodyScalarEq path value => [
      .fragment "(CASE json_type(edfi_doc, ", .place (.text path),
      .fragment ") WHEN 'true' THEN ", .place (.text value),
      .fragment " = 'true' WHEN 'false' THEN ", .place (.text value),
      .fragment " = 'false' WHEN 'integer' THEN CAST(json_extract(edfi_doc, ", .place (.text path),
      .fragment ") AS TEXT) = ", .place (.text value),
      .fragment " WHEN 'real' THEN json_extract(edfi_doc, ", .place (.text path),
      .fragment ") = ", .place (.ofOption (canonicalReal? value)),
      .fragment " WHEN 'text' THEN json_extract(edfi_doc, ", .place (.text path),
      .fragment ") = ", .place (.text value),
      .fragment " ELSE 0 END)"]

/-- A step with its values taken out: the fixed text stays, and how long a list is. -/
def blank : QueryStep → QueryStep
  | .push fragment => .push fragment
  | .bind _ => .bind .null
  | .bindList values => .bindList (values.map fun _ => .null)
  | .bodyScalarEq _ _ => .bodyScalarEq "" ""

def Plain : QueryStep → Prop
  | .push fragment => '?' ∉ fragment.toList
  | .bind _ | .bindList _ | .bodyScalarEq _ _ => True

instance (step : QueryStep) : Decidable step.Plain :=
  match step with
  | .push fragment => inferInstanceAs (Decidable ('?' ∉ fragment.toList))
  | .bind _ | .bindList _ | .bodyScalarEq _ _ => .isTrue trivial

theorem bindRest_eq (query : Query) (values : List Value) :
    query.bindRest values
      = (values.flatMap fun value => [Piece.fragment ", ", .place value]).foldl Query.add query := by
  induction values generalizing query with
  | nil => rfl
  | cons value rest ih => exact ih _

theorem apply_eq (step : QueryStep) (query : Query) :
    step.apply query = step.pieces.foldl Query.add query := by
  cases step with
  | push fragment => rfl
  | bind value => rfl
  | bindList values =>
      cases values with
      | nil => rfl
      | cons value rest =>
          rw [apply, pieces, List.foldl_append, List.foldl_append, ← bindRest_eq]
          rfl
  | bodyScalarEq path value =>
      simp only [apply, pieces, Query.pushBodyScalarEq, Expr.bodyScalarEq, Expr.write,
        Expr.writeBranches, bodyColumn, Query.push_push, String.reduceAppend, List.foldl, Query.add]

theorem values_pieces (step : QueryStep) : step.pieces.flatMap Piece.values = step.values := by
  cases step with
  | push fragment => rfl
  | bind value => rfl
  | bindList values =>
      cases values with
      | nil => rfl
      | cons value rest =>
          have each : (fun value => [Piece.fragment ", ", .place value].flatMap Piece.values)
              = fun value : Value => [value] := rfl
          simp only [pieces, List.flatMap_append, List.flatMap_assoc, each]
          simp [Piece.values, QueryStep.values]
  | bodyScalarEq path value => rfl

theorem chars_blank (step : QueryStep) :
    step.blank.pieces.flatMap Piece.chars = step.pieces.flatMap Piece.chars := by
  cases step with
  | push fragment => rfl
  | bind value => rfl
  | bindList values =>
      cases values with
      | nil => rfl
      | cons value rest =>
          have each : ∀ value, [Piece.fragment ", ", .place value].flatMap Piece.chars
              = [',', ' ', '?'] := fun _ => rfl
          simp only [blank, List.map_cons, pieces, List.flatMap_append, List.flatMap_assoc,
            List.flatMap_map, each]
          rfl
  | bodyScalarEq path value => rfl

theorem plain_pieces {step : QueryStep} (plain : step.Plain) :
    ∀ piece ∈ step.pieces, piece.Plain := by
  cases step with
  | push fragment => exact List.forall_mem_singleton.mpr plain
  | bind value => simp [pieces, Piece.Plain]
  | bindList values =>
      cases values with
      | nil => simp [pieces, Piece.Plain]
      | cons value rest =>
          simp only [pieces, List.forall_mem_append, List.forall_mem_flatMap]
          simp [Piece.Plain]
  | bodyScalarEq path value => simp [pieces, Piece.Plain]

end QueryStep

namespace Query

def run (opening : String) (steps : List QueryStep) : Query :=
  steps.foldl (fun query step => step.apply query) (Query.start opening)

variable {opening : String} {steps : List QueryStep}

theorem run_eq :
    run opening steps = (steps.flatMap QueryStep.pieces).foldl add (Query.start opening) := by
  rw [run, List.foldl_flatMap]
  simp only [QueryStep.apply_eq]

theorem params_run : (run opening steps).params = steps.flatMap QueryStep.values := by
  rw [run_eq, params_foldl_add, List.flatMap_assoc]
  simp only [QueryStep.values_pieces]
  rfl

theorem sql_run :
    (run opening steps).sql.toList
      = opening.toList ++ steps.flatMap fun step => step.pieces.flatMap Piece.chars := by
  rw [run_eq, sql_foldl_add, List.flatMap_assoc]
  rfl

theorem sql_run_eq {others : List QueryStep}
    (same : others.map QueryStep.blank = steps.map QueryStep.blank) :
    (run opening others).sql = (run opening steps).sql := by
  have blanked : ∀ steps : List QueryStep,
      (steps.flatMap fun step => step.pieces.flatMap Piece.chars)
      = (steps.map QueryStep.blank).flatMap fun step => step.pieces.flatMap Piece.chars := by
    intro steps
    simp only [List.flatMap_map, QueryStep.chars_blank]
  rw [← String.toList_inj, sql_run, sql_run, blanked, same, ← blanked]

theorem fill_run (opens : '?' ∉ opening.toList) (plain : ∀ step ∈ steps, step.Plain) :
    fill (run opening steps).sql.toList (run opening steps).params
      = some (opening.toList.map .inl
          ++ steps.flatMap fun step => step.pieces.flatMap Piece.shown) := by
  have parts : ∀ piece ∈ steps.flatMap QueryStep.pieces, piece.Plain := by
    rw [List.forall_mem_flatMap]
    exact fun step member => QueryStep.plain_pieces (plain step member)
  rw [run_eq, sql_foldl_add, params_foldl_add]
  change fill (opening.toList ++ _) _ = _
  rw [fill_append opens, start, List.nil_append, fill_pieces parts, List.flatMap_assoc]
  rfl

end Query

end Docket.Sql

namespace Docket.SearchStatement

open Sql

def filterSteps (filters : List (String × String)) : List QueryStep :=
  filters.flatMap fun (path, value) => [.push " AND ", .bodyScalarEq ("$." ++ path) value]

theorem pushConditions_eq (query : Query) (filters : List (String × String)) :
    pushConditions query (filters.map fun (path, value) => Expr.bodyScalarEq ("$." ++ path) value)
      = (filterSteps filters).foldl (fun query step => step.apply query) query := by
  induction filters generalizing query with
  | nil => rfl
  | cons entry rest ih =>
      rw [List.map_cons, pushConditions, ih]
      simp only [filterSteps, List.flatMap_cons, List.foldl_append, List.foldl_cons, List.foldl_nil,
        QueryStep.apply, Query.pushBodyScalarEq]

def steps (resource : Resource) (filters : Filters) (window : Pagination) : List QueryStep :=
  [.push " WHERE project_name = ", .bind (.text resource.projectName),
    .push " AND resource_name = ", .bind (.text resource.resourceName),
    .push " AND resource_version = ", .bind (.text resource.resourceVersion)]
  ++ filterSteps filters.toList
  ++ [.push " ORDER BY document_id LIMIT ",
    .bind (.integer (ofFilters resource filters window).limit),
    .push " OFFSET ", .bind (.integer (ofFilters resource filters window).offset)]

theorem query_ofFilters (resource : Resource) (filters : Filters) (window : Pagination) :
    (ofFilters resource filters window).query
      = Query.run selectDocument (steps resource filters window) := by
  rw [Query.run, steps, List.foldl_append, List.foldl_append, ← pushConditions_eq]
  rfl

theorem blank_filterSteps (filters : List (String × String)) :
    (filterSteps filters).map QueryStep.blank
      = (List.replicate filters.length [QueryStep.push " AND ", .bodyScalarEq "" ""]).flatten := by
  induction filters with
  | nil => rfl
  | cons entry rest ih =>
      rw [List.length_cons, List.replicate_succ, List.flatten_cons, ← ih]
      rfl

theorem sql_query_eq {resource resource' : Resource} {filters filters' : Filters}
    (window window' : Pagination) (same : filters.size = filters'.size) :
    (ofFilters resource filters window).query.sql
      = (ofFilters resource' filters' window').query.sql := by
  have lengths : filters.toList.length = filters'.toList.length := same
  rw [query_ofFilters, query_ofFilters]
  apply Query.sql_run_eq
  simp only [steps, List.map_append, blank_filterSteps, lengths, List.map_cons, List.map_nil,
    QueryStep.blank]

end Docket.SearchStatement

namespace Docket.Sql.Query

/-- Of a query put together by steps whose fixed text has no question mark, there are as many question
    marks as parameters, the parameters are the bound values in the order of the calls, and each is
    in its place. Other values in the same steps make the same text; so the text of a search depends
    on nothing but the number of its filters. -/
theorem text_independent_of_values (opening : String) (steps : List QueryStep)
    (opens : '?' ∉ opening.toList) (plain : ∀ step ∈ steps, step.Plain) :
    let query := run opening steps
    query.sql.toList.count '?' = query.params.length ∧
    query.params = steps.flatMap QueryStep.values ∧
    fill query.sql.toList query.params
      = some (opening.toList.map .inl
          ++ steps.flatMap fun step => step.pieces.flatMap Piece.shown) ∧
    (∀ others : List QueryStep, others.map QueryStep.blank = steps.map QueryStep.blank →
      (run opening others).sql = query.sql) ∧
    ∀ (resource resource' : Resource) (filters filters' : Filters) (window window' : Pagination),
      filters.size = filters'.size →
        (SearchStatement.ofFilters resource filters window).query.sql
          = (SearchStatement.ofFilters resource' filters' window').query.sql :=
  ⟨count_of_fill (fill_run opens plain), params_run, fill_run opens plain,
    fun _ same => sql_run_eq same,
    fun _ _ _ _ window window' same => SearchStatement.sql_query_eq window window' same⟩

def everyStep (first second : Value) (path value : String) : List QueryStep :=
  [.bind first, .push " AND b IN ", .bindList [first, second], .push " AND c IN ", .bindList [],
    .push " AND ", .bodyScalarEq path value]

/-- A value with quotes and a question mark of its own makes the text that any other makes. -/
theorem text_independent_of_values_everyStep :
    let opening := "SELECT 1 WHERE a = "
    let steps := everyStep (.text "?' OR '1' = '1") (.integer 7) "$.n" "1.5"
    '?' ∉ opening.toList ∧ (∀ step ∈ steps, step.Plain) ∧
      (run opening steps).params.length = 12 ∧ (run opening steps).sql.toList.count '?' = 12 ∧
      (run opening steps).params[11]? = some (.text "1.5") ∧
      (run opening (everyStep .null .null "" "")).sql = (run opening steps).sql := by
  intro opening steps
  have opens : '?' ∉ opening.toList := by decide +kernel
  have plain : ∀ step ∈ steps, step.Plain := by decide +kernel
  obtain ⟨counted, bound, _, same, _⟩ := text_independent_of_values opening steps opens plain
  have length : (run opening steps).params.length = 12 := by rw [bound]; rfl
  exact ⟨opens, plain, length, counted.trans length, by rw [bound]; rfl, same _ rfl⟩

end Docket.Sql.Query
