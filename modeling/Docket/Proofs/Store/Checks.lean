import Docket.Proofs.Store.Contents
/-!
The checks of a write, which all engines make in one order.

`verdict` is that order over the contents of a store. An engine brings the version it has read and
the claim it has found; all else follows from exact tables. A verdict in favour of a write means
that the contents accept it (`accepts_of_verdict_eq_ok`).
-/

namespace Docket.Contents

def firstClaim? (existence : Table DocumentId DocumentId) (ids : List DocumentId)
    (owner : DocumentId) : Option WriteConflict :=
  ids.findSome? fun id =>
    match existence.get? id with
    | some other => if other = owner then none else some (.claimed id other)
    | none => none

def absent (existence : Table DocumentId DocumentId) (ids : List DocumentId) : List DocumentId :=
  sortedIds (ids.filter fun id => !existence.contains id)

def stillReferenced? (contents : Contents) (dropped : List DocumentId) (owner : DocumentId) :
    Option WriteConflict :=
  dropped.findSome? fun id =>
    match contents.parents [id] owner with
    | [] => none
    | parents => some (.stillReferenced id parents)

/-- The verdict on a write: the version that it replaces, or the first cause against it. -/
def verdict (contents : Contents) (existence : Table DocumentId DocumentId)
    (write : DocumentWrite) (insertAllowed : Bool)
    (loaded : Except StoreError (Option Document)) (claim : Option WriteConflict) :
    Except Refusal (Option Document) :=
  match loaded with
  | .error cause => .error (.failed cause)
  | .ok old =>
      if old.isNone && !insertAllowed then .error .notExists
      else
        match claim with
        | some cause => .error (.conflict cause)
        | none =>
            match absent existence write.enforcedRefs with
            | [] =>
                match contents.stillReferenced?
                    ((old.map fun old => old.droppedAliases write.document).getD [])
                    write.document.id with
                | some cause => .error (.conflict cause)
                | none => .ok old
            | ids => .error (.missing ids)

variable {contents : Contents} {existence : Table DocumentId DocumentId}

theorem firstClaim?_eq_none_iff {ids : List DocumentId} {owner : DocumentId} :
    firstClaim? existence ids owner = none ↔
      ∀ id ∈ ids, ∀ other, existence.get? id = some other → other = owner := by
  rw [firstClaim?, List.findSome?_eq_none_iff]
  apply forall₂_congr
  intro id _
  cases existence.get? id with
  | none => simp
  | some other => simp

theorem absent_eq_nil_iff {ids : List DocumentId} :
    absent existence ids = [] ↔ ∀ id ∈ ids, existence.contains id = true := by
  rw [absent, sortedIds, KeySet.sorted_eq_nil_iff, List.filter_eq_nil_iff]
  simp

theorem stillReferenced?_eq_none_iff {dropped : List DocumentId} {owner : DocumentId} :
    contents.stillReferenced? dropped owner = none ↔
      ∀ id ∈ dropped, ∀ parent, contents.Refers parent id → parent = owner := by
  rw [stillReferenced?, List.findSome?_eq_none_iff]
  apply forall₂_congr
  intro id _
  have listed : contents.parents [id] owner = [] ↔
      ∀ parent, contents.Refers parent id → parent = owner := by
    simp only [List.eq_nil_iff_forall_not_mem, mem_parents, List.mem_singleton, exists_eq_left,
      not_and']
    exact forall_congr' fun parent => forall_congr' fun _ => not_not
  rw [← listed]
  cases contents.parents [id] owner with
  | nil => simp
  | cons parent rest => simp

theorem stillReferenced?_eq_of_parents {find : DocumentId → List DocumentId}
    {owner : DocumentId} (same : ∀ id, find id = contents.parents [id] owner)
    (dropped : List DocumentId) :
    (dropped.findSome? fun id =>
        match find id with
        | [] => none
        | parents => some (.stillReferenced id parents))
      = contents.stillReferenced? dropped owner := by
  obtain rfl : find = fun id => contents.parents [id] owner := funext same
  rfl

theorem verdict_eq_ok_iff {write : DocumentWrite} {insertAllowed : Bool}
    {loaded : Except StoreError (Option Document)} {claim : Option WriteConflict}
    {old : Option Document} :
    contents.verdict existence write insertAllowed loaded claim = .ok old ↔
      loaded = .ok old ∧ (insertAllowed = false → old.isSome = true) ∧ claim = none ∧
        absent existence write.enforcedRefs = [] ∧
        contents.stillReferenced?
          ((old.map fun old => old.droppedAliases write.document).getD [])
          write.document.id = none := by
  constructor
  · intro free
    simp only [verdict] at free
    split at free
    · simp at free
    · next stored =>
        split at free
        · simp at free
        · next allowed =>
            split at free
            · simp at free
            · split at free
              · next found =>
                  split at free
                  · simp at free
                  · next clean =>
                      obtain rfl := Except.ok.inj free
                      refine ⟨rfl, ?_, rfl, found, clean⟩
                      rintro rfl
                      simpa [Option.isSome_iff_ne_none] using allowed
              · simp at free
  · rintro ⟨rfl, known, rfl, found, clean⟩
    have allowed : (old.isNone && !insertAllowed) = false := by
      cases insertAllowed with
      | true => simp
      | false => simpa using known rfl
    simp [verdict, allowed, found, clean]

theorem verdict_alike {write : DocumentWrite} {insertAllowed : Bool}
    {loaded : Except StoreError (Option Document)} {claim claim' : Option WriteConflict}
    (same : claim = none ↔ claim' = none) :
    contents.verdict existence write insertAllowed loaded claim
        = contents.verdict existence write insertAllowed loaded claim' ∨
      ∃ cause cause',
        contents.verdict existence write insertAllowed loaded claim = .error (.conflict cause) ∧
        contents.verdict existence write insertAllowed loaded claim'
          = .error (.conflict cause') := by
  cases claim with
  | none =>
      obtain rfl := same.mp rfl
      exact .inl rfl
  | some cause =>
      cases claim' with
      | none => simp at same
      | some cause' =>
          cases loaded with
          | error failure => exact .inl rfl
          | ok old =>
              by_cases refused : (old.isNone && !insertAllowed) = true
              · left
                simp [verdict, refused]
              · right
                exact ⟨cause, cause', by simp [verdict, refused], by simp [verdict, refused]⟩

theorem accepts_of_verdict_eq_ok {linked : DocumentId → DocumentId → Prop}
    (exact : Exact contents existence linked) {write : DocumentWrite} {insertAllowed : Bool}
    {loaded : Except StoreError (Option Document)} {claim : Option WriteConflict}
    {old : Option Document}
    (recalls : loaded = .ok old → Recalls (contents.get? write.document.id) old)
    (unclaimed : claim = none → ∀ id ∈ write.document.existenceIds, ∀ other,
      existence.get? id = some other → other = write.document.id)
    (free : contents.verdict existence write insertAllowed loaded claim = .ok old) :
    Recalls (contents.get? write.document.id) old ∧ contents.Accepts write ∧
      (insertAllowed = false → old.isSome = true) := by
  obtain ⟨read, known, noClaim, found, clean⟩ := verdict_eq_ok_iff.mp free
  have same := (recalls read).droppedAliases_eq write.document
  rw [same] at clean
  refine ⟨recalls read, ⟨?_, ?_, ?_⟩, known⟩
  · intro id member owner owns
    exact unclaimed noClaim id member owner ((exact.existence id owner).mpr owns)
  · intro id enforced
    exact exact.resolves_iff.mpr (absent_eq_nil_iff.mp found id enforced)
  · exact stillReferenced?_eq_none_iff.mp clean

end Docket.Contents
