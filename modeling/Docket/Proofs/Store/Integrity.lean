import Docket.Proofs.Store.Engine
/-!
References stay whole on every engine.

In every engine that is reached the derived tables say what the documents say
(`EngineKind.derived_tables_exact`). No call but a forced delete takes away an id that another
document refers to (`EngineKind.references_keep_resolving`). A write is checked against the ids that
exist before it, so what it asks for exists afterwards unless the write itself drops it
(`EngineKind.enforced_ref_resolves_iff`).
-/

namespace Docket

open Contents

namespace EngineKind

theorem derived_tables_exact (kind : EngineKind) (calls : List Call) :
    (kind.reached calls).Keeps (kind.written calls) ∧
      (kind.reached calls).Tidy ∧
      (∀ id owner, (kind.reached calls).existence.get? id = some owner ↔
        ∃ document, (kind.written calls).get? owner = some document ∧ document.id = owner ∧
          (id = owner ∨ id ∈ document.aliasIds)) ∧
      (∀ id parent, (kind.reached calls).Linked id parent ↔
        ∃ document, (kind.written calls).get? parent = some document ∧
          ∃ ref ∈ document.outRefs, ref.id = id) ∧
      ∀ id owner other, (kind.written calls).Owns owner id → (kind.written calls).Owns other id →
        owner = other := by
  have held := kind.reached_holds calls
  refine ⟨held.keeps, held.tidy, ?_, ?_, fun id owner other => held.exact.owner_unique⟩
  · intro id owner
    rw [held.exact.existence]
    apply exists_congr
    intro document
    apply and_congr_right
    intro found
    have named := held.exact.named owner document found
    simp [Document.existenceIds, named]
  · intro id parent
    rw [held.exact.inbound]
    simp only [Refers, Document.outRefIds, List.mem_map]

end EngineKind

namespace Contents

variable {contents : Contents} {existence : Table DocumentId DocumentId}
  {linked : DocumentId → DocumentId → Prop}

/-- A write takes away the aliases of the old version that the new document does not have. -/
theorem resolves_put_iff (exact : Exact contents existence linked) {new : Document}
    {id : DocumentId} (resolves : contents.Resolves id) :
    (contents.put new).Resolves id ↔
      ¬ ∃ old, contents.get? new.id = some old ∧ id ∈ old.aliasIds ∧ id ∉ new.existenceIds := by
  constructor
  · rintro ⟨owner, owns⟩ ⟨old, found, aliased, lost⟩
    rw [owns_put_iff] at owns
    split at owns
    · exact lost owns
    · next other =>
        have own : contents.Owns new.id id := ⟨old, found, List.mem_cons_of_mem _ aliased⟩
        exact other (exact.owner_unique owns own)
  · intro kept
    obtain ⟨owner, document, found, member⟩ := resolves
    by_cases here : owner = new.id
    · subst here
      refine ⟨new.id, owns_put_iff.mpr ?_⟩
      rw [if_pos rfl]
      by_contra lost
      rcases List.mem_cons.mp member with own | aliased
      · rw [exact.named _ _ found] at own
        exact lost (own ▸ List.mem_cons_self)
      · exact kept ⟨document, found, aliased, lost⟩
    · refine ⟨owner, owns_put_iff.mpr ?_⟩
      rw [if_neg here]
      exact ⟨document, found, member⟩

/-- What others refer to outlasts every change but a forced removal. -/
theorem resolves_afterChange (exact : Exact contents existence linked) {change : Change}
    (allowed : contents.Allows change) (unforced : change.isForced = false)
    {parent id : DocumentId} (other : change.target ≠ parent) (refers : contents.Refers parent id)
    (resolves : contents.Resolves id) : (contents.afterChange (some change)).Resolves id := by
  cases change with
  | wrote write =>
      refine (resolves_put_iff exact resolves).mpr ?_
      rintro ⟨old, found, aliased, lost⟩
      have fresh : id ∉ write.document.aliasIds := fun again => lost (List.mem_cons_of_mem _ again)
      have dropped := mem_dropped.mpr ⟨old, found, aliased, fresh⟩
      exact other (allowed.unreferenced id dropped parent refers).symm
  | erased gone force =>
      obtain ⟨owner, owns⟩ := resolves
      have kept : owner ≠ gone := by
        rintro rfl
        exact other (allowed unforced id owns parent refers).symm
      exact ⟨owner, owns_erase_iff.mpr ⟨kept, owns⟩⟩

end Contents

namespace EngineKind

theorem references_keep_resolving (kind : EngineKind) (calls : List Call) (call : Call)
    (unforced : call.isForced = false) {owner : DocumentId} {document : Document}
    (stored : (kind.written calls).get? owner = some document) (other : call.target? ≠ some owner)
    {ref : OutboundRef} (refers : ref ∈ document.outRefs)
    (resolved : (kind.reached calls).existence.contains ref.id = true) :
    (call.perform (kind.reached calls)).2.existence.contains ref.id = true := by
  have held := kind.reached_holds calls
  have step := Engine.step_holds call _ _ held
  rw [← held.exact.resolves_iff] at resolved
  rw [← step.held.exact.resolves_iff]
  cases told : call.change? (call.perform (kind.reached calls)).1 with
  | none => exact resolved
  | some change =>
      obtain ⟨target, force⟩ := Call.change?_eq_some told
      have differ : change.target ≠ owner := fun same => other (same ▸ target)
      exact resolves_afterChange held.exact (step.allowed change told) (force ▸ unforced) differ
        ⟨document, stored, List.mem_map_of_mem refers⟩ resolved

def aliasedCalls : List Call :=
  [.upsert ⟨.bare (.numbered 1) [] [.numbered 2], []⟩,
    .upsert ⟨.bare (.numbered 3) [.numbered 2] [], [.numbered 2]⟩]

def aliasDrop : Call := .upsert ⟨.bare (.numbered 1) [] [], []⟩

theorem references_keep_resolving_aliasDrop :
    aliasDrop.isForced = false ∧
      (memory.written aliasedCalls).get? (.numbered 3)
        = some (.bare (.numbered 3) [.numbered 2] []) ∧
      aliasDrop.target? ≠ some (.numbered 3) ∧
      (memory.reached aliasedCalls).existence.contains (.numbered 2) = true ∧
      (aliasDrop.perform (memory.reached aliasedCalls)).2.existence.contains (.numbered 2)
        = true := by
  have stored : (memory.written aliasedCalls).get? (.numbered 3)
      = some (.bare (.numbered 3) [.numbered 2] []) := by decide
  have other : aliasDrop.target? ≠ some (.numbered 3) := by decide
  have refers : (⟨.numbered 2, false⟩ : OutboundRef)
      ∈ (Document.bare (.numbered 3) [.numbered 2] []).outRefs := by decide
  have resolved : (memory.reached aliasedCalls).existence.contains (.numbered 2) = true := by
    decide
  exact ⟨rfl, stored, other, resolved,
    references_keep_resolving memory aliasedCalls aliasDrop rfl stored other refers resolved⟩

end EngineKind

namespace EngineKind

/-- The ids that a committed write asks for exist afterwards, but for the aliases of the version it
    replaces that its own document no longer has. -/
theorem enforced_ref_resolves_iff (kind : EngineKind) (calls : List Call) (call : Call)
    {write : DocumentWrite}
    (committed : call.change? (call.perform (kind.reached calls)).1 = some (.wrote write))
    {id : DocumentId} (enforced : id ∈ write.enforcedRefs) :
    (kind.written (calls ++ [call])).Resolves id ↔
      ¬ ∃ old, (kind.written calls).get? write.document.id = some old ∧
        id ∈ old.aliasIds ∧ id ∉ write.document.existenceIds := by
  have held := kind.reached_holds calls
  have step := Engine.step_holds call _ _ held
  have accepts : (kind.written calls).Accepts write := step.allowed _ committed
  rw [written_concat, committed]
  exact resolves_put_iff held.exact (accepts.enforced id enforced)

def selfReference : DocumentWrite :=
  ⟨.bare (.numbered 1) [.numbered 2] [.numbered 2], [.numbered 2]⟩

theorem enforced_ref_resolves_iff_selfReference :
    (Call.update selfReference).change?
        ((Call.update selfReference).perform (relational.reached aliasedCalls)).1
      = some (.wrote selfReference) ∧
    DocumentId.numbered 2 ∈ selfReference.enforcedRefs ∧
    ((relational.written (aliasedCalls ++ [.update selfReference])).Resolves (.numbered 2) ↔
      ¬ ∃ old, (relational.written aliasedCalls).get? (.numbered 1) = some old ∧
        DocumentId.numbered 2 ∈ old.aliasIds ∧
        DocumentId.numbered 2 ∉ selfReference.document.existenceIds) := by
  have committed : (Call.update selfReference).change?
        ((Call.update selfReference).perform (relational.reached aliasedCalls)).1
      = some (.wrote selfReference) := by decide
  have enforced : DocumentId.numbered 2 ∈ selfReference.enforcedRefs := by decide
  exact ⟨committed, enforced,
    enforced_ref_resolves_iff relational aliasedCalls (.update selfReference) committed enforced⟩

/-- A document that drops its alias and asks for it: the write is committed, and what it asks for
    does not exist afterwards. -/
theorem enforced_ref_dropped :
    let before : List Call := [.upsert ⟨.bare (.numbered 1) [] [.numbered 2], []⟩]
    let call : Call := .upsert ⟨.bare (.numbered 1) [.numbered 2] [], [.numbered 2]⟩
    (call.perform (memory.reached before)).1 = .upserted .updateSuccess ∧
      ¬ (memory.written (before ++ [call])).Resolves (.numbered 2) ∧
      (call.perform (relational.reached before)).1 = .upserted .updateSuccess ∧
      ¬ (relational.written (before ++ [call])).Resolves (.numbered 2) := by
  decide +kernel

end EngineKind

end Docket
