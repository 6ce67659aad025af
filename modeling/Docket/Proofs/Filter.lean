import Docket.Filter
import Docket.Proofs.Json.Path
/-!
Two ways to test filters against a body.

A scan descends along the path of each filter (`Filters.accepts`); an index looks the path and text
up among the scalars listed for the body (`Filters.foundIn`). Listing finds whatever descending
finds, and in a body with plain names nothing else.
-/

namespace Docket

namespace Filters

def foundIn (filters : Filters) (body : Json) : Bool :=
  filters.toList.all fun entry => body.flatten.contains entry

variable {filters : Filters} {body : Json}

theorem foundIn_iff :
    filters.foundIn body = true ↔ ∀ entry ∈ filters.toList, entry ∈ body.flatten := by
  simp [foundIn]

theorem accepts_iff :
    filters.accepts body = true ↔
      ∀ entry ∈ filters.toList, body.scalarAt entry.1 = some entry.2 := by
  simp [accepts]

theorem validPath_of_validate (accepted : filters.validate = .ok ()) {entry : String × String}
    (member : entry ∈ filters.toList) : Json.validPath entry.1 = true := by
  unfold validate at accepted
  split at accepted
  · simp at accepted
  · next none =>
      have valid := List.find?_eq_none.mp none entry.1 (List.mem_map_of_mem member)
      simpa using valid

theorem foundIn_of_accepts (accepted : filters.validate = .ok ()) (sorted : body.canonical = true)
    (holds : filters.accepts body = true) : filters.foundIn body = true := by
  rw [foundIn_iff]
  intro entry member
  exact Json.mem_flatten_of_scalarAt sorted (validPath_of_validate accepted member)
    (accepts_iff.mp holds entry member)

theorem accepts_of_foundIn (sorted : body.canonical = true) (plain : body.plainNamed = true)
    (found : filters.foundIn body = true) : filters.accepts body = true := by
  rw [accepts_iff]
  intro entry member
  exact Json.scalarAt_of_mem_flatten sorted plain (foundIn_iff.mp found entry member)

end Filters

namespace Pagination

variable {α : Type}

@[simp] theorem apply_nil (window : Pagination) : window.apply ([] : List α) = [] := by
  unfold apply
  cases window.limit with
  | none => simp
  | some limit => simp

@[simp] theorem apply_all (items : List α) : all.apply items = items := rfl

end Pagination

end Docket
