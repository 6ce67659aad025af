import Docket.Proofs.Service.Requests
import Docket.Service.Basic
/-!
The cache of existing ids is only advice.

An id that is remembered wrongly keeps a write from being refused early, and then the store refuses
it on commit. So two runs of a request that differ in what is remembered both fail, and leave the
store as it is, or are the same run (`WriteKind.Alike`).
-/

namespace Docket

open Contents

namespace WriteKind

variable {α : Type} (kind : WriteKind α)

/-- How two runs of one request compare that remember different ids: they fail together, perhaps for
    different reasons, or they are the same. -/
inductive Alike (engine : Engine) : (α × Commit) × Engine → (α × Commit) × Engine → Prop where
  | failed {result other : α} (fails : kind.succeeds result = false)
      (otherFails : kind.succeeds other = false) :
      Alike engine ((result, .nothing), engine) ((other, .nothing), engine)
  | same {run : (α × Commit) × Engine} (succeeds : kind.succeeds run.1.1 = true) :
      Alike engine run run

variable {kind} {context : RequestContext} {document : Document} {engine : Engine}

theorem CheckedEnd.eq_of_fails {run : (α × Commit) × Engine}
    (ended : kind.CheckedEnd context document engine run)
    (fails : kind.succeeds run.1.1 = false) : run = ((run.1.1, .nothing), engine) := by
  cases ended with
  | unresolved lacking => rfl
  | missing remembered lacking => rfl
  | refused fails silent => rfl
  | inserted succeeds found => simp [succeeds] at fails
  | replaced succeeds found => simp [succeeds] at fails

theorem CheckedEnd.fails_of_absent {run : (α × Commit) × Engine}
    (ended : kind.CheckedEnd context document engine run)
    (lacking : absent engine.existence (context.validation.write document).enforcedRefs ≠ []) :
    kind.succeeds run.1.1 = false := by
  cases ended with
  | unresolved _ => exact kind.fails_of_invalidRefs? _ _ (kind.invalidRefs?_unresolved _ _)
  | missing _ _ => exact kind.fails_of_invalidRefs? _ _ (kind.invalidRefs?_unresolved _ _)
  | refused fails silent => exact fails
  | inserted _ found => exact absurd found lacking
  | replaced _ found => exact absurd found lacking

theorem checked_alike (context : RequestContext) (cache : ExistenceCache) (document : Document)
    (engine : Engine) :
    kind.Alike engine (kind.checked context document engine)
      (kind.checked { context with cache := cache } document engine) := by
  have ended := kind.checked_end context document engine
  have ended' := kind.checked_end { context with cache := cache } document engine
  by_cases found : absent engine.existence (context.validation.write document).enforcedRefs = []
  · let other : RequestContext := { context with cache := cache }
    have otherFound : absent engine.existence (other.validation.write document).enforcedRefs = [] :=
      found
    have same : kind.checked other document engine = kind.checked context document engine := by
      rw [checked_of_found kind otherFound, checked_of_found kind found]
    rw [same]
    cases success : kind.succeeds (kind.checked context document engine).1.1 with
    | true => exact .same success
    | false =>
        rw [ended.eq_of_fails success]
        exact .failed success success
  · have fails := ended.fails_of_absent found
    have fails' := ended'.fails_of_absent found
    rw [ended.eq_of_fails fails, ended'.eq_of_fails fails']
    exact .failed fails fails'

theorem Runs.alike {made : Except Error Document} {script : RequestContext → Script (α × Commit)}
    {index : SearchIndex} (runs : kind.Runs made script index engine) (context : RequestContext)
    (cache : ExistenceCache) :
    kind.Alike engine ((script context).run index engine)
      ((script { context with cache := cache }).run index engine) := by
  cases runs with
  | refused result fails silent run =>
      rw [run, run]
      exact .failed fails fails
  | checked document made isObject run =>
      rw [run, run]
      exact checked_alike context cache document engine

end WriteKind

namespace Service

section Uncached

variable {σ κ : Type}

def uncached (service : Service σ κ) : Service σ κ := { service with cache := .disabled }

theorem uncached_absorb (service : Service σ κ) (commit : Commit) :
    (service.absorb commit).uncached = service.uncached.absorb commit := by
  cases commit with
  | nothing => rfl
  | inserted document => rfl
  | replaced document => rfl
  | deleted document => rfl

end Uncached

variable {κ : Type} [ProjectionSink κ] {α : Type} {kind : WriteKind α}

theorem perform_alike {made : Except Error Document}
    {script : RequestContext → Script (α × Commit)} (service : Service Engine κ)
    (runs : kind.Runs made script service.index service.store) :
    let told := service.perform (script service.context)
    let plain := service.uncached.perform (script service.uncached.context)
    (kind.succeeds told.1 = true ↔ kind.succeeds plain.1 = true) ∧
      (kind.succeeds told.1 = true → told.1 = plain.1 ∧ told.2.uncached = plain.2) ∧
      (kind.succeeds told.1 = false → told.2 = service) := by
  have alike := runs.alike service.context .disabled
  have told : service.perform (script service.context)
      = let run := (script service.context).run service.index service.store
        (run.1.1, { service with store := run.2 }.absorb run.1.2) := rfl
  have plain : service.uncached.perform (script service.uncached.context)
      = let run := (script { service.context with cache := .disabled }).run service.index
          service.store
        (run.1.1, { service.uncached with store := run.2 }.absorb run.1.2) := rfl
  rw [told, plain]
  revert alike
  generalize (script service.context).run service.index service.store = run
  generalize (script { service.context with cache := .disabled }).run service.index service.store
    = run'
  intro alike
  cases alike with
  | failed fails otherFails => simp [fails, otherFails, absorb]
  | same succeeds =>
      refine ⟨Iff.rfl, fun _ => ⟨rfl, uncached_absorb _ _⟩, fun fails => ?_⟩
      rw [succeeds] at fails
      simp at fails

/-- Whatever a service remembers, a write succeeds when it would without a cache, with the same
    answer and the same effect; and one that fails changes nothing. -/
theorem cache_only_advises (service : Service Engine κ) :
    (∀ request : UpsertRequest,
      ((service.upsert request).1.isSuccess = true
        ↔ (service.uncached.upsert request).1.isSuccess = true) ∧
      ((service.upsert request).1.isSuccess = true →
        (service.upsert request).1 = (service.uncached.upsert request).1 ∧
          (service.upsert request).2.uncached = (service.uncached.upsert request).2) ∧
      ((service.upsert request).1.isSuccess = false → (service.upsert request).2 = service)) ∧
    ∀ request : UpdateRequest,
      ((service.update request).1.status = .updateSuccess
        ↔ (service.uncached.update request).1.status = .updateSuccess) ∧
      ((service.update request).1.status = .updateSuccess →
        (service.update request).1 = (service.uncached.update request).1 ∧
          (service.update request).2.uncached = (service.uncached.update request).2) ∧
      ((service.update request).1.status ≠ .updateSuccess →
        (service.update request).2 = service) := by
  constructor
  · intro request
    exact service.perform_alike (request.runs service.index service.store)
  · intro request
    obtain ⟨together, same, kept⟩ :=
      service.perform_alike (request.runs service.index service.store)
    simp only [WriteKind.update, decide_eq_true_eq, decide_eq_false_iff_not] at together same kept
    exact ⟨together, same, kept⟩

end Service

end Docket
