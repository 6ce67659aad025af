import Docket.Derivation
import Docket.Proofs.Table
/-!
Which pairs make an identity, and which identity they make.

Pairs are taken in one after another, up to the first that cannot be. What comes of it is all the same
a matter of the pairs and not of their order: the identity that holds just these pairs if they are
consistent, and else a failure (`Identity.ofPairs_end`). So pairs can make every identity but those
with a field that has no name (`Identity.exists_ofPairs_eq_iff`). The members of an object are taken
in as pairs of their names and texts (`Identity.insertMembers_eq`).
-/

namespace Docket

namespace Identity

variable {identity other : Identity} {pairs more : List (String × String)} {name value : String}

structure Consistent (pairs : List (String × String)) : Prop where
  named : ∀ pair ∈ pairs, pair.1 ≠ ""
  agree : ∀ pair ∈ pairs, ∀ other ∈ pairs, pair.1 = other.1 → pair.2 = other.2

theorem Consistent.subset (consistent : Consistent more) (subset : pairs ⊆ more) :
    Consistent pairs where
  named pair member := consistent.named pair (subset member)
  agree pair member other member' := consistent.agree pair (subset member) other (subset member')

theorem Consistent.concat (consistent : Consistent pairs) (named : name ≠ "")
    (fresh : ∀ pair ∈ pairs, pair.1 ≠ name) (value : String) :
    Consistent (pairs ++ [(name, value)]) where
  named := by simpa [or_imp, forall_and, named] using consistent.named
  agree := by
    intro pair member other member' same
    rcases List.mem_append.mp member with before | last
    · rcases List.mem_append.mp member' with before' | last'
      · exact consistent.agree pair before other before' same
      · obtain rfl := List.mem_singleton.mp last'
        exact absurd same (fresh pair before)
    · obtain rfl := List.mem_singleton.mp last
      rcases List.mem_append.mp member' with before' | last'
      · exact absurd same.symm (fresh other before')
      · obtain rfl := List.mem_singleton.mp last'
        rfl

def Holds (identity : Identity) (pairs : List (String × String)) : Prop :=
  ∀ field, field ∈ identity.toList ↔ field ∈ pairs

theorem mem_toList_iff {field : String × String} :
    field ∈ identity.toList ↔ identity.get? field.1 = some field.2 :=
  Table.mem_toList_iff

theorem Holds.unique (holds : identity.Holds pairs) (holds' : other.Holds pairs) :
    identity = other := by
  have fields : identity.fields = other.fields := by
    apply Table.ext_get?
    intro name
    apply Option.ext
    intro value
    exact mem_toList_iff.symm.trans <| (holds (name, value)).trans <|
      (holds' (name, value)).symm.trans mem_toList_iff
  cases identity
  cases other
  exact congrArg mk fields

theorem Holds.insert (holds : identity.Holds pairs) (absent : identity.get? name = none)
    (value : String) :
    (Identity.mk (identity.fields.insert name value)).Holds (pairs ++ [(name, value)]) := by
  rintro ⟨fieldName, fieldValue⟩
  rw [mem_toList_iff, List.mem_append, List.mem_singleton, ← holds, mem_toList_iff, get?,
    Table.get?_insert]
  by_cases here : fieldName = name
  · subst here
    simp [absent, eq_comm]
  · simp [here, get?]

inductive Ending (pairs : List (String × String)) : Except Error Identity → Prop where
  | done {identity : Identity} (consistent : Consistent pairs) (holds : identity.Holds pairs) :
      Ending pairs (.ok identity)
  | failed {cause : Error} (inconsistent : ¬ Consistent pairs) : Ending pairs (.error cause)

theorem insert_end (consistent : Consistent pairs) (holds : identity.Holds pairs)
    (name value : String) : Ending (pairs ++ [(name, value)]) (identity.insert name value) := by
  have last : (name, value) ∈ pairs ++ [(name, value)] := by simp
  unfold insert
  split
  · next empty => exact .failed fun all => all.named _ last empty
  · next named =>
      split
      · next old found =>
          have before : (name, old) ∈ pairs := (holds _).mp (mem_toList_iff.mpr found)
          split
          · next same =>
              subst same
              have repeated : pairs ++ [(name, old)] ⊆ pairs := by simpa using before
              refine .done (consistent.subset repeated) fun field => (holds field).trans ?_
              exact ⟨fun member => List.mem_append_left _ member, fun member => repeated member⟩
          · next differ =>
              exact .failed fun all =>
                differ (all.agree _ (List.mem_append_left _ before) _ last rfl)
      · next absent =>
          refine .done (consistent.concat named ?_ value) (holds.insert absent value)
          rintro ⟨_, old⟩ member rfl
          have found := mem_toList_iff.mp ((holds _).mpr member)
          rw [absent] at found
          cases found

theorem insertAll_end (consistent : Consistent pairs) (holds : identity.Holds pairs)
    (more : List (String × String)) : Ending (pairs ++ more) (identity.insertAll more) := by
  induction more generalizing identity pairs with
  | nil => simpa [insertAll] using Ending.done consistent holds
  | cons pair rest ih =>
      have ended := insert_end consistent holds pair.1 pair.2
      simp only [insertAll]
      cases inserted : identity.insert pair.1 pair.2 with
      | ok next =>
          rw [inserted] at ended
          cases ended with
          | done consistent holds => simpa using ih consistent holds
      | error cause =>
          rw [inserted] at ended
          cases ended with
          | failed inconsistent =>
              -- The pairs that are not taken in any more cannot mend it.
              refine .failed fun all => inconsistent (all.subset ?_)
              simp

theorem ofPairs_end (pairs : List (String × String)) : Ending pairs (ofPairs pairs) := by
  have nothing : Consistent [] := ⟨by simp, by simp⟩
  exact insertAll_end nothing (fun _ => Iff.rfl) pairs

theorem ofPairs_eq_ok_iff :
    ofPairs pairs = .ok identity ↔ Consistent pairs ∧ identity.Holds pairs := by
  have ended := ofPairs_end pairs
  constructor
  · intro made
    rw [made] at ended
    cases ended with
    | done consistent holds => exact ⟨consistent, holds⟩
  · rintro ⟨consistent, holds⟩
    generalize ofPairs pairs = result at ended
    cases ended with
    | done _ holds' => rw [holds'.unique holds]
    | failed inconsistent => exact absurd consistent inconsistent

theorem exists_ofPairs_iff : (∃ identity, ofPairs pairs = .ok identity) ↔ Consistent pairs := by
  have ended := ofPairs_end pairs
  constructor
  · rintro ⟨identity, made⟩
    exact (ofPairs_eq_ok_iff.mp made).1
  · intro consistent
    generalize ofPairs pairs = result at ended
    cases ended with
    | done _ _ => exact ⟨_, rfl⟩
    | failed inconsistent => exact absurd consistent inconsistent

theorem toOption_ofPairs_perm (same : pairs.Perm more) :
    (ofPairs pairs).toOption = (ofPairs more).toOption := by
  have ended := ofPairs_end pairs
  have ended' := ofPairs_end more
  generalize ofPairs pairs = result at ended ⊢
  generalize ofPairs more = result' at ended' ⊢
  cases ended with
  | @done identity consistent holds =>
      cases ended' with
      | @done identity' _ holds' =>
          have alike : identity'.Holds pairs := fun field => (holds' field).trans same.symm.mem_iff
          rw [holds.unique alike]
      | failed inconsistent => exact absurd (consistent.subset same.symm.subset) inconsistent
  | failed inconsistent =>
      cases ended' with
      | done consistent _ => exact absurd (consistent.subset same.subset) inconsistent
      | failed _ => rfl

theorem exists_ofPairs_eq_iff :
    (∃ pairs, ofPairs pairs = .ok identity) ↔ identity.get? "" = none := by
  constructor
  · rintro ⟨pairs, made⟩
    obtain ⟨consistent, holds⟩ := ofPairs_eq_ok_iff.mp made
    cases found : identity.get? "" with
    | none => rfl
    | some value =>
        have member := (holds ("", value)).mp (mem_toList_iff.mpr found)
        exact absurd rfl (consistent.named _ member)
  · intro absent
    -- The fields themselves make the identity.
    refine ⟨identity.toList, ofPairs_eq_ok_iff.mpr ⟨⟨?_, ?_⟩, fun _ => Iff.rfl⟩⟩
    · rintro ⟨name, value⟩ member rfl
      have found := mem_toList_iff.mp member
      rw [absent] at found
      cases found
    · rintro ⟨name, value⟩ member ⟨_, other⟩ member' rfl
      exact Option.some.inj ((mem_toList_iff.mp member).symm.trans (mem_toList_iff.mp member'))

def Constructible (identity : Identity) : Prop :=
  identity.isEmpty = false ∧ ∃ pairs, ofPairs pairs = .ok identity

theorem constructible_iff :
    identity.Constructible ↔ identity.isEmpty = false ∧ identity.get? "" = none :=
  and_congr_right fun _ => exists_ofPairs_eq_iff

def scalarFields? : List (String × Json) → Option (List (String × String))
  | [] => some []
  | (name, value) :: rest =>
      match value.scalarText, scalarFields? rest with
      | some text, some fields => some ((name, text) :: fields)
      | _, _ => none

variable {members : List (String × Json)}

theorem insertMembers_eq (scalars : scalarFields? members = some pairs) :
    identity.insertMembers members = identity.insertAll pairs := by
  induction members generalizing identity pairs with
  | nil =>
      obtain rfl := Option.some.inj scalars
      rfl
  | cons member rest ih =>
      simp only [scalarFields?] at scalars
      split at scalars
      · next text fields isText isRest =>
          obtain rfl := Option.some.inj scalars
          simp only [insertMembers, insertAll, isText]
          cases identity.insert member.1 text with
          | ok next => exact ih isRest
          | error cause => rfl
      · cases scalars

theorem exists_insertMembers_error (other : scalarFields? members = none) :
    ∃ cause, identity.insertMembers members = .error cause := by
  induction members generalizing identity with
  | nil => simp [scalarFields?] at other
  | cons member rest ih =>
      cases isText : member.2.scalarText with
      | none => exact ⟨.invalidIdentity (.notAScalar member.1), by simp [insertMembers, isText]⟩
      | some text =>
          have otherRest : scalarFields? rest = none := by
            cases isRest : scalarFields? rest with
            | none => rfl
            | some fields => simp [scalarFields?, isText, isRest] at other
          simp only [insertMembers, isText]
          cases identity.insert member.1 text with
          | ok next => exact ih otherRest
          | error cause => exact ⟨cause, rfl⟩

theorem names_of_scalarFields? (scalars : scalarFields? members = some pairs) :
    pairs.map Prod.fst = members.map Prod.fst := by
  induction members generalizing pairs with
  | nil =>
      obtain rfl := Option.some.inj scalars
      rfl
  | cons member rest ih =>
      simp only [scalarFields?] at scalars
      split at scalars
      · next text fields _ isRest =>
          obtain rfl := Option.some.inj scalars
          rw [List.map_cons, List.map_cons, ih isRest]
      · cases scalars

theorem scalarFields?_eq_none_iff :
    scalarFields? members = none ↔ ∃ member ∈ members, member.2.scalarText = none := by
  induction members with
  | nil => simp [scalarFields?]
  | cons member rest ih =>
      rw [List.exists_mem_cons_iff, ← ih, scalarFields?]
      cases member.2.scalarText with
      | none => simp
      | some text => cases scalarFields? rest <;> simp

theorem consistent_iff_of_nodup (distinct : (pairs.map Prod.fst).Nodup) :
    Consistent pairs ↔ ∀ pair ∈ pairs, pair.1 ≠ "" := by
  refine ⟨Consistent.named, fun named => ⟨named, ?_⟩⟩
  intro pair member other member' same
  rw [List.inj_on_of_nodup_map distinct member member' same]

theorem ofPairs_fails_iff : (∃ cause, ofPairs pairs = .error cause) ↔ ¬ Consistent pairs := by
  rw [← exists_ofPairs_iff]
  cases ofPairs pairs <;> simp

/-- An object fails to give an identity for a member that is no scalar, or for an empty name. -/
theorem ofJson_object_fails_iff (distinct : (members.map Prod.fst).Nodup) :
    (∃ cause, ofJson (.object members) = .error cause) ↔
      ∃ member ∈ members, member.2.scalarText = none ∨ member.1 = "" := by
  simp only [and_or_left, exists_or, ← scalarFields?_eq_none_iff, ofJson]
  cases scalars : scalarFields? members with
  | none => simpa using exists_insertMembers_error scalars
  | some pairs =>
      have names := names_of_scalarFields? scalars
      rw [insertMembers_eq scalars, ← ofPairs, ofPairs_fails_iff,
        consistent_iff_of_nodup (names ▸ distinct)]
      have named : "" ∈ pairs.map Prod.fst ↔ "" ∈ members.map Prod.fst := by rw [names]
      simpa using named

/-- Pairs make an identity whatever their order: in another order they make the same one, from which
    the same ids are derived, or fail as well. They make one if no name is empty and none has two
    values, and it holds just these pairs, by ascending name. An object makes what its members make
    with their scalar texts, and fails only for a member that is no scalar or has no name. -/
theorem ofPairs_unordered :
    (∀ pairs other : List (String × String), pairs.Perm other →
      (ofPairs pairs).toOption = (ofPairs other).toOption ∧
      ∀ projectName resourceName resourceVersion,
        (ofPairs pairs).toOption.map
            (Derivation.documentId projectName resourceName resourceVersion)
          = (ofPairs other).toOption.map
            (Derivation.documentId projectName resourceName resourceVersion)) ∧
    (∀ pairs, (∃ identity, ofPairs pairs = .ok identity) ↔
      (∀ pair ∈ pairs, pair.1 ≠ "") ∧
        ∀ pair ∈ pairs, ∀ other ∈ pairs, pair.1 = other.1 → pair.2 = other.2) ∧
    (∀ pairs identity, ofPairs pairs = .ok identity →
      (∀ field, field ∈ identity.toList ↔ field ∈ pairs) ∧
        Ascends (identity.toList.map Prod.fst)) ∧
    ∀ members : List (String × Json), (members.map Prod.fst).Nodup →
      (∀ pairs, scalarFields? members = some pairs →
        ofJson (.object members) = ofPairs pairs) ∧
      ((∃ cause, ofJson (.object members) = .error cause) ↔
        ∃ member ∈ members, member.2.scalarText = none ∨ member.1 = "") := by
  refine ⟨fun pairs other same => ?_, fun pairs => ?_, fun pairs identity made => ?_,
    fun members distinct => ⟨fun pairs scalars => ?_, ofJson_object_fails_iff distinct⟩⟩
  · have made := toOption_ofPairs_perm same
    exact ⟨made, fun _ _ _ => by rw [made]⟩
  · exact exists_ofPairs_iff.trans
      ⟨fun all => ⟨all.named, all.agree⟩, fun ⟨named, agree⟩ => ⟨named, agree⟩⟩
  · exact ⟨(ofPairs_eq_ok_iff.mp made).2, identity.fields.keys_ascending⟩
  · exact insertMembers_eq scalars

theorem ofPairs_unordered_repeatedPair :
    let pairs := [("b", "2"), ("a", "1"), ("b", "2")]
    let other := [("b", "2"), ("b", "2"), ("a", "1")]
    let members : List (String × Json) := [("a", .string "1"), ("b", .bool true)]
    pairs.Perm other ∧ (ofPairs pairs).toOption = (ofPairs other).toOption ∧
      (∃ identity, ofPairs pairs = .ok identity ∧
        ∀ field, field ∈ identity.toList ↔ field ∈ pairs) ∧
      (members.map Prod.fst).Nodup ∧
      ofJson (.object members) = ofPairs [("a", "1"), ("b", "true")] := by
  intro pairs other members
  obtain ⟨unordered, made, holds, objects⟩ := ofPairs_unordered
  have same : pairs.Perm other := by decide
  have distinct : (members.map Prod.fst).Nodup := by decide
  obtain ⟨identity, ok⟩ := (made pairs).mpr (by decide)
  exact ⟨same, (unordered pairs other same).1, ⟨identity, ok, (holds pairs identity ok).1⟩,
    distinct, (objects members distinct).1 _ rfl⟩

end Identity

end Docket
