import Docket.Proofs.Store.Determined
import Docket.Proofs.Store.Integrity
import Docket.Proofs.Store.RelationalAgreement
import Docket.Proofs.Store.WriteEnd
/-!
A write that is made twice.

After a write the contents accept it again but for the ids that it asks for and has itself taken
away: aliases of the version it replaced. If none of them is, and the version it has left can be read,
the second write is an update, and in any case it leaves the store as the first one did
(`Engine.write_again`).
-/

namespace Docket

namespace Contents

variable {contents : Contents} {existence : Table DocumentId DocumentId}
  {linked : DocumentId → DocumentId → Prop}

theorem verdict_of_accepts (exact : Exact contents existence linked) {write : DocumentWrite}
    (accepts : contents.Accepts write) {insertAllowed : Bool}
    {loaded : Except StoreError (Option Document)} {claim : Option WriteConflict}
    {old : Option Document} (read : loaded = .ok old)
    (recalls : Recalls (contents.get? write.document.id) old)
    (known : insertAllowed = false → old.isSome = true) (unclaimed : claim = none) :
    contents.verdict existence write insertAllowed loaded claim = .ok old := by
  refine verdict_eq_ok_iff.mpr ⟨read, known, unclaimed, ?_, ?_⟩
  · rw [absent_eq_nil_iff]
    intro id enforced
    exact exact.resolves_iff.mp (accepts.enforced id enforced)
  · rw [recalls.droppedAliases_eq]
    exact stillReferenced?_eq_none_iff.mpr accepts.unreferenced

theorem Accepts.unclaimed_ids (exact : Exact contents existence linked) {write : DocumentWrite}
    (accepts : contents.Accepts write) :
    ∀ id ∈ write.document.existenceIds, ∀ other, existence.get? id = some other →
      other = write.document.id := by
  intro id member other found
  exact accepts.unclaimed id member other ((exact.existence id other).mp found)

theorem put_put (contents : Contents) (new : Document) :
    (contents.put new).put new = contents.put new := by
  apply Table.ext_get?
  intro id
  rw [get?_put, get?_put, get?_put, if_pos rfl]
  split
  · -- The creator is known by now, or was never told.
    unfold Document.keepingCreator
    cases (contents.get? new.id).bind Document.createdBy with
    | some creator => rfl
    | none =>
        cases new with
        | mk _ _ _ _ _ _ _ creator =>
            cases creator with
            | none => rfl
            | some name => rfl
  · rfl

/-- What keeps the contents from accepting a write again. -/
theorem accepts_put_iff (exact : Exact contents existence linked) {write : DocumentWrite}
    (accepts : contents.Accepts write) :
    (contents.put write.document).Accepts write ↔
      ∀ id ∈ write.enforcedRefs, ¬ ∃ old, contents.get? write.document.id = some old ∧
        id ∈ old.aliasIds ∧ id ∉ write.document.existenceIds := by
  have resolves : ∀ id ∈ write.enforcedRefs, (contents.put write.document).Resolves id ↔ _ :=
    fun id enforced => resolves_put_iff exact (accepts.enforced id enforced)
  constructor
  · intro again id enforced
    exact (resolves id enforced).mp (again.enforced id enforced)
  · intro kept
    refine ⟨?_, fun id enforced => (resolves id enforced).mpr (kept id enforced), ?_⟩
    · intro id member owner owns
      rw [owns_put_iff] at owns
      split at owns
      · assumption
      · exact accepts.unclaimed id member owner owns
    · -- The version replaced is the document itself, which drops nothing.
      intro id lost
      obtain ⟨old, found, aliased, fresh⟩ := mem_dropped.mp lost
      rw [get?_put_self, Option.some.injEq, Document.keepingCreator_eq] at found
      subst found
      exact absurd aliased fresh

end Contents

namespace Engine

open Contents

variable {engine : Engine} {contents : Contents} {write : DocumentWrite} {insertAllowed : Bool}
  {stored : Document}

theorem write_of_unreadable (held : engine.Holds contents)
    (present : contents.get? write.document.id = some stored) {cause : StoreError}
    (unreadable : engine.kind.reread stored = .error cause) :
    (engine.write write insertAllowed).1 = .refused (.failed cause) := by
  cases engine with
  | memory store => simp [kind, EngineKind.reread] at unreadable
  | keyValue store =>
      have loaded := KeyValueStore.load_eq (keyValue_holds.mp held) write.document.id
      rw [present] at loaded
      simp only [kind, EngineKind.reread] at unreadable
      simp only [unreadable, Except.map] at loaded
      simp only [Engine.write, KeyValueStore.write, KeyValueStore.check, loaded]
      rfl
  | relational store =>
      have loaded := RelationalStore.load_eq_reread (relational_holds.mp held) write.document.id
      rw [present] at loaded
      simp only [kind, EngineKind.reread] at unreadable
      simp only [unreadable, Except.map] at loaded
      simp only [Engine.write, RelationalStore.write, RelationalStore.check, loaded]
      rfl

theorem write_of_accepts (held : engine.Holds contents)
    (distinct : write.document.existenceIds.Nodup)
    (present : contents.get? write.document.id = some stored) {read : Document}
    (readable : engine.kind.reread stored = .ok read) (accepts : contents.Accepts write) :
    (engine.write write insertAllowed).1 = .updated := by
  have recalls : Recalls (contents.get? write.document.id) (some read) := by
    have rereads := EngineKind.rereads readable
    rw [present]
    exact .present rereads.id rereads.aliasIds rereads.createdBy
  cases engine with
  | memory store =>
      have held := memory_holds.mp held
      have claim := firstClaim?_eq_none_iff.mpr (accepts.unclaimed_ids held.exact)
      have free : store.refusal? write insertAllowed = none := by
        rw [MemoryStore.refusal?_eq held, verdict_of_accepts held.exact accepts rfl (.refl _)
          (by simp [present]) claim]
      simp only [Engine.write, MemoryStore.write, free, Table.contains, held.documents, present]
      rfl
  | keyValue store =>
      have held := keyValue_holds.mp held
      have claim := firstClaim?_eq_none_iff.mpr (accepts.unclaimed_ids held.exact)
      have loaded : store.load write.document.id = .ok (some read) := by
        rw [KeyValueStore.load_eq held, present]
        exact congrArg (Except.map some) readable
      have free : store.check write insertAllowed = .ok (some read) := by
        rw [KeyValueStore.check_eq held]
        exact verdict_of_accepts held.exact accepts loaded recalls (by simp) claim
      simp only [Engine.write, KeyValueStore.write, free]
      rfl
  | relational store =>
      have held := relational_holds.mp held
      have claim := RelationalStore.claimedElsewhere?_eq_none_iff.mpr
        (accepts.unclaimed_ids held.exact)
      have loaded : store.load write.document.id = .ok (some read) := by
        rw [RelationalStore.load_eq_reread held, present]
        exact congrArg (Except.map some) readable
      have free : store.check write insertAllowed = .ok (some read) := by
        rw [RelationalStore.check_eq held]
        exact verdict_of_accepts held.exact accepts loaded recalls (by simp) claim
      obtain ⟨next, committed⟩ := RelationalStore.exists_commit? held distinct recalls accepts
      simp only [Engine.write, RelationalStore.write, free, committed]
      rfl

theorem write_updated_iff (held : engine.Holds contents)
    (distinct : write.document.existenceIds.Nodup)
    (present : contents.get? write.document.id = some stored) :
    (engine.write write insertAllowed).1 = .updated ↔
      (∃ read, engine.kind.reread stored = .ok read) ∧ contents.Accepts write := by
  constructor
  · intro done
    constructor
    · cases readable : engine.kind.reread stored with
      | ok read => exact ⟨read, rfl⟩
      | error cause => simp [write_of_unreadable held present readable] at done
    · have written : engine.write write insertAllowed
          = (.updated, (engine.write write insertAllowed).2) := Prod.ext done rfl
      exact (accepts_of_write held written nofun).1
  · rintro ⟨⟨read, readable⟩, accepts⟩
    exact write_of_accepts held distinct present readable accepts

theorem readable_iff (held : engine.Holds contents) {id : DocumentId}
    (present : contents.get? id = some stored) :
    (∃ read, engine.kind.reread stored = .ok read) ↔
      ∀ detail, (DocumentStore.get id engine).1 ≠ .unknownFailure detail := by
  rw [get_eq held, present, Option.map_some]
  cases engine.kind.reread stored with
  | ok read => simp [GetOutcome.ofReading]
  | error cause => simp [GetOutcome.ofReading]

theorem write_again (held : engine.Holds contents) (distinct : write.document.existenceIds.Nodup)
    {applied : Applied} {next : Engine} (done : engine.write write insertAllowed = (applied, next))
    (succeeded : ∀ cause, applied ≠ .refused cause) :
    (next.write write insertAllowed).2 = next ∧
      ((next.write write insertAllowed).1 = .updated ↔
        (∀ detail, (DocumentStore.get write.document.id next).1 ≠ .unknownFailure detail) ∧
        ∀ id ∈ write.enforcedRefs, ¬ ∃ old, contents.get? write.document.id = some old ∧
          id ∈ old.aliasIds ∧ id ∉ write.document.existenceIds) := by
  obtain ⟨accepts, after⟩ := accepts_of_write held done succeeded
  have present := @get?_put_self contents write.document
  constructor
  · have step := write_step after write insertAllowed
    have same := next.kind_write write insertAllowed
    rcases written : next.write write insertAllowed with ⟨applied, final⟩
    rw [written] at step same
    cases step with
    | refused cause => rfl
    | inserted _ absent _ _ => simp [present] at absent
    | updated _ _ stored =>
        rw [put_put] at stored
        exact stored.unique after same
  · rw [write_updated_iff after distinct present, readable_iff after present,
      accepts_put_iff held.exact accepts]

end Engine

end Docket
