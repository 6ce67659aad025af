import Docket.Proofs.Json.Reread
import Docket.Proofs.Table
import Docket.Wire.Basic
import Mathlib.Data.List.Forall2
/-!
How a value gets from its encoder to a decoder.

What was encoded is handed over as it is, or written as a text and read again. Either way texts, truth
values and whole numbers arrive as they were, arrays item by item, and records member by member,
though perhaps in another order (`Passage`). A record is decoded from its fields by name, so it comes
back if each of its fields does (`Passage.record`).
-/

namespace Docket.Wire

variable {α : Type}

def MemberPasses (through : Json → Option Json) (member passed : String × Json) : Prop :=
  passed.1 = member.1 ∧ through member.2 = some passed.2

/-- What a passage does to a value. Reals may change, or not arrive at all. -/
structure Passage (through : Json → Option Json) : Prop where
  null : through .null = some .null
  bool (value : Bool) : through (.bool value) = some (.bool value)
  integer (value : Int) (fits : -2 ^ 63 ≤ value ∧ value < 2 ^ 64) :
    through (.number (.integer value fits)) = some (.number (.integer value fits))
  string (text : String) : through (.string text) = some (.string text)
  array {items passed : List Json}
    (each : List.Forall₂ (fun item item' => through item = some item') items passed) :
    through (.array items) = some (.array passed)
  object {members passed : List (String × Json)}
    (each : List.Forall₂ (MemberPasses through) members passed) :
    through (.object members) = some (.object passed) ∨
      through (.object members) = some (.ofMembers passed)

theorem Passage.direct : Passage some where
  null := rfl
  bool _ := rfl
  integer _ _ := rfl
  string _ := rfl
  array each := by
    have same := each.imp fun _ _ passed => Option.some.inj passed
    rw [List.forall₂_eq_eq_eq] at same
    rw [same]
  object each := by
    have same := each.imp fun _ _ passed => Prod.ext passed.1.symm (Option.some.inj passed.2)
    rw [List.forall₂_eq_eq_eq] at same
    exact .inl (by rw [same])

theorem Passage.reread (real : WrittenDecimal → Option Binary64) :
    Passage (Json.reread? real) where
  null := rfl
  bool _ := rfl
  integer value fits := by rw [Json.reread?, Number.reread?_integer, Option.map_some]
  string _ := rfl
  array {items passed} each := by
    have all : Json.rereadItems? real items = some passed := by
      induction each with
      | nil => rfl
      | cons here _ ih => rw [Json.rereadItems?_cons here, ih, Option.map_some]
    rw [Json.reread?, all, Option.map_some]
  object {members passed} each := by
    have all : Json.rereadMembers? real members = some passed := by
      induction each with
      | nil => rfl
      | @cons member member' _ _ here _ ih =>
          obtain ⟨name, value⟩ := member
          obtain ⟨name', value'⟩ := member'
          obtain ⟨rfl, read⟩ := here
          rw [Json.rereadMembers?_cons read, ih, Option.map_some]
    exact .inr (by rw [Json.reread?, all, Option.map_some])

def Arrives (through : Json → Option Json) (decode : Json → Option α) (json : Json)
    (value : α) : Prop :=
  (through json).bind decode = some value

section Passages

variable {through : Json → Option Json} {decode : Json → Option α} {json : Json} {value : α}

theorem Arrives.of_passed {passed : Json} (read : through json = some passed)
    (decoded : decode passed = some value) : Arrives through decode json value :=
  Option.bind_eq_some_iff.mpr ⟨passed, read, decoded⟩

theorem Arrives.exists_passed (arrives : Arrives through decode json value) :
    ∃ passed, through json = some passed ∧ decode passed = some value :=
  Option.bind_eq_some_iff.mp arrives

theorem Arrives.isSome (arrives : Arrives through decode json value) :
    (through json).isSome = true := by
  obtain ⟨passed, read, _⟩ := arrives.exists_passed
  rw [read, Option.isSome_some]

theorem Arrives.map {β : Type} (arrives : Arrives through decode json value) (f : α → β) :
    Arrives through (fun json => (decode json).map f) json (f value) := by
  obtain ⟨passed, read, decoded⟩ := arrives.exists_passed
  exact .of_passed read (by rw [decoded, Option.map_some])

namespace Passage

variable (passage : Passage through)

include passage

theorem text (text : String) : Arrives through text? (.string text) text :=
  .of_passed (passage.string text) rfl

theorem truth (value : Bool) : Arrives through bool? (.bool value) value :=
  .of_passed (passage.bool value) rfl

theorem uint64 (value : UInt64) : Arrives through uint64? (.ofUInt64 value) value := by
  apply Arrives.of_passed (passage.integer _ _)
  rw [uint64?, natBelow?]
  simpa [Format.view] using value.toNat_lt

theorem choice {choices : List (String × α)} [DecidableEq α]
    (named : Entries.lookup (nameOf choices value) choices = some value) :
    Arrives through (choice? choices) (.string (nameOf choices value)) value :=
  .of_passed (passage.string _) named

theorem option {encode : α → Json} (noNull : decode .null = none) {value : Option α}
    (each : ∀ some ∈ value, Arrives through decode (encode some) some) :
    Arrives through (nullable decode) (ofOption encode value) value := by
  cases value with
  | none => exact .of_passed passage.null rfl
  | some value =>
      obtain ⟨passed, read, decoded⟩ := (each value rfl).exists_passed
      apply Arrives.of_passed read
      cases passed with
      | null => simp [noNull] at decoded
      | number n => cases n <;> simp [nullable, Format.view, decoded]
      | bool | string | array | object => simp [nullable, Format.view, decoded]

theorem list {encode : α → Json} {values : List α}
    (each : ∀ value ∈ values, Arrives through decode (encode value) value) :
    Arrives through (list? decode) (ofList encode values) values := by
  have all : ∃ passed, all? decode passed = some values ∧
      List.Forall₂ (fun item item' => through item = some item') (values.map encode) passed := by
    induction values with
    | nil => exact ⟨[], rfl, .nil⟩
    | cons value rest ih =>
        obtain ⟨item, read, decoded⟩ := (each value List.mem_cons_self).exists_passed
        obtain ⟨items, others, reads⟩ := ih fun other behind =>
          each other (List.mem_cons_of_mem value behind)
        exact ⟨item :: items, by simp only [all?, decoded, others], .cons read reads⟩
  obtain ⟨passed, decoded, reads⟩ := all
  exact .of_passed (passage.array reads) decoded

end Passage

theorem all?_textMember? (entries : List (String × String)) :
    all? textMember? (entries.map fun entry => (entry.1, Json.string entry.2)) = some entries := by
  induction entries with
  | nil => rfl
  | cons entry rest ih => simp [all?, ih, textMember?, text?, Format.view]

theorem Passage.textTable (passage : Passage through) (table : Table String String) :
    Arrives through textTable? (ofTextTable table) table := by
  have sorted : Entries.Ascending (table.toList.map fun entry => (entry.1, Json.string entry.2)) :=
    List.pairwise_map.mpr table.ascending
  have each : List.Forall₂ (MemberPasses through)
      (table.toList.map fun entry => (entry.1, .string entry.2))
      (table.toList.map fun entry => (entry.1, .string entry.2)) := by
    rw [List.forall₂_same]
    intro member among
    obtain ⟨entry, _, rfl⟩ := List.mem_map.mp among
    exact ⟨rfl, passage.string entry.2⟩
  have same : through (ofTextTable table) = some (ofTextTable table) := by
    rcases passage.object each with read | read
    · exact read
    · rwa [Json.ofMembers_of_ascending sorted] at read
  apply Arrives.of_passed same
  simp only [ofTextTable, textTable?, Format.view, all?_textMember?, Option.map_some,
    Table.ofList_toList]

theorem fields?_ofMembers (names : List String) {members : List (String × Json)}
    (distinct : (members.map Prod.fst).Nodup) :
    fields? names (Json.ofMembers members) = fields? names (Json.object members) := by
  simp only [fields?, Json.ofMembers, Format.view]
  congr 1
  funext name
  rw [Entries.lookup_foldl_insert distinct]
  simp [Entries.lookup]

def Supplies (through : Json → Option Json) (members : List (String × Json))
    (field : String → Supplied Json) : Prop :=
  ∀ name json, (name, json) ∈ members → ∃ part, through json = some part ∧ field name = .given part

namespace Supplies

variable {members : List (String × Json)} {field : String → Supplied Json}

theorem exists_given (supplies : Supplies through members field) {name : String}
    (member : (name, json) ∈ members) (arrives : Arrives through decode json value) :
    ∃ part, field name = .given part ∧ decode part = some value := by
  obtain ⟨part, read, given⟩ := supplies name json member
  obtain ⟨passed, read', decoded⟩ := arrives.exists_passed
  obtain rfl := Option.some.inj (read.symm.trans read')
  exact ⟨part, given, decoded⟩

theorem required (supplies : Supplies through members field) (name : String)
    (member : (name, json) ∈ members) (arrives : Arrives through decode json value) :
    (field name).required decode = some value := by
  obtain ⟨part, given, decoded⟩ := supplies.exists_given member arrives
  rwa [given]

theorem withDefault (supplies : Supplies through members field) (name : String) (default : α)
    (member : (name, json) ∈ members) (arrives : Arrives through decode json value) :
    (field name).withDefault default decode = some value := by
  obtain ⟨part, given, decoded⟩ := supplies.exists_given member arrives
  rwa [given]

theorem optional {value : Option α} (supplies : Supplies through members field) (name : String)
    (member : (name, json) ∈ members) (arrives : Arrives through (nullable decode) json value) :
    (field name).optional decode = some value := by
  obtain ⟨part, given, decoded⟩ := supplies.exists_given member arrives
  rwa [given]

end Supplies

theorem exists_passed_members {members : List (String × Json)}
    (each : ∀ member ∈ members, (through member.2).isSome = true) :
    ∃ passed, List.Forall₂ (MemberPasses through) members passed := by
  induction members with
  | nil => exact ⟨[], .nil⟩
  | cons member rest ih =>
      obtain ⟨part, read⟩ := Option.isSome_iff_exists.mp (each member List.mem_cons_self)
      obtain ⟨passed, others⟩ := ih fun other behind => each other (List.mem_cons_of_mem _ behind)
      exact ⟨(member.1, part) :: passed, .cons ⟨rfl, read⟩ others⟩

theorem lookup_passed {members passed : List (String × Json)}
    (each : List.Forall₂ (MemberPasses through) members passed)
    (distinct : (members.map Prod.fst).Nodup) {name : String}
    (member : (name, json) ∈ members) :
    ∃ part, through json = some part ∧ Entries.lookup name passed = some part := by
  induction each with
  | nil => simp at member
  | @cons first first' rest _ here _ ih =>
      rw [List.map_cons, List.nodup_cons] at distinct
      rcases List.mem_cons.mp member with rfl | behind
      · exact ⟨first'.2, here.2, by simp [Entries.lookup, here.1]⟩
      · have other : name ≠ first'.1 := by
          rintro rfl
          exact distinct.1 (List.mem_map.mpr ⟨_, behind, here.1⟩)
        obtain ⟨part, read, found⟩ := ih distinct.2 behind
        exact ⟨part, read, by simp [Entries.lookup, other, found]⟩

theorem map_fst_passed {members passed : List (String × Json)}
    (each : List.Forall₂ (MemberPasses through) members passed) :
    passed.map Prod.fst = members.map Prod.fst := by
  induction each with
  | nil => rfl
  | cons here _ ih => rw [List.map_cons, List.map_cons, here.1, ih]

theorem Passage.record (passage : Passage through) (names : List String)
    {members : List (String × Json)} (distinct : (members.map Prod.fst).Nodup)
    (each : ∀ member ∈ members, (through member.2).isSome = true)
    (decodes : ∀ object field, fields? names object = some field →
      Supplies through members field → decode object = some value) :
    Arrives through decode (.object members) value := by
  obtain ⟨passed, reads⟩ := exists_passed_members each
  have distinct' : (passed.map Prod.fst).Nodup := map_fst_passed reads ▸ distinct
  obtain ⟨object, read, fields⟩ : ∃ object, through (.object members) = some object ∧
      fields? names object = fields? names (.object passed) := by
    rcases passage.object reads with read | read
    · exact ⟨_, read, rfl⟩
    · exact ⟨_, read, fields?_ofMembers names distinct'⟩
  apply Arrives.of_passed read
  apply decodes object _ fields
  intro name json member
  obtain ⟨part, passes, found⟩ := lookup_passed reads distinct member
  exact ⟨part, passes, by simp only [found]⟩

end Passages

end Docket.Wire
