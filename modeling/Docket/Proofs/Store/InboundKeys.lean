import Docket.Proofs.DocumentId
import Docket.Proofs.Store.Contents
import Docket.Store.KeyValue
import Mathlib.Data.Set.List
/-!
References as flat keys.

All ids are written with as many digits, so the key of a reference tells both of its ids, and the
references to one id are a range of keys (`inboundRange_iff`): what comes before the bar decides the
order first, and after the bar every digit comes before a tilde. Hence a scan of the range finds the
documents that refer to the id, and no others (`inboundParents_exact`).
-/

namespace Docket.KeyValueStore

open Docket.Derivation

section Keys

variable (referenced parent : DocumentId)

theorem toList_inboundKey :
    (inboundKey referenced parent).toList = referenced.chars ++ '|' :: parent.chars := by
  simp [inboundKey, DocumentId.text]

variable {referenced parent} {other parent' : DocumentId}

theorem inboundKey_inj :
    inboundKey referenced parent = inboundKey other parent' ↔
      referenced = other ∧ parent = parent' := by
  constructor
  · intro same
    have chars := congrArg String.toList same
    rw [toList_inboundKey, toList_inboundKey] at chars
    obtain ⟨front, back⟩ := List.append_inj chars (by simp [DocumentId.length_chars])
    exact ⟨DocumentId.chars_injective front, DocumentId.chars_injective (List.cons.inj back).2⟩
  · rintro ⟨rfl, rfl⟩
    rfl

theorem inboundKey_lt_iff (bound : String) :
    inboundKey referenced parent < other.text ++ bound ↔
      referenced.chars < other.chars ∨
        (referenced = other ∧ '|' :: parent.chars < bound.toList) := by
  have chars : (other.text ++ bound).toList = other.chars ++ bound.toList := by
    simp [DocumentId.text]
  rw [String.lt_iff, toList_inboundKey, chars,
    append_lt_append_iff (by simp [DocumentId.length_chars])]
  exact or_congr_right (and_congr_left fun _ =>
    ⟨DocumentId.chars_injective, congrArg DocumentId.chars⟩)

theorem chars_lt_tilde (id : DocumentId) : id.chars < ['~'] := by
  have digits := id.length_chars
  have small : ∀ digit : Fin 16, Nat.digitChar digit.val < '~' := by decide
  cases written : id.chars with
  | nil => simp [written, DocumentId.length] at digits
  | cons c rest =>
      have member : c ∈ id.chars := by simp [written]
      obtain ⟨digit, bound, rfl⟩ := DocumentId.mem_hexDigits member
      exact List.cons_lt_cons_iff.mpr (.inl (small ⟨digit, bound⟩))

/-- The keys between the bounds, octet by octet, are those of the references to the id. -/
theorem inboundRange_iff :
    textOctets (inboundRange other).1 ≤ textOctets (inboundKey referenced parent) ∧
        textOctets (inboundKey referenced parent) < textOctets (inboundRange other).2 ↔
      referenced = other := by
  -- The bar alone is the lower bound, and the digits behind it stay below the tilde.
  have lower : ¬ '|' :: parent.chars < "|".toList := by simp
  have upper : '|' :: parent.chars < "|~".toList :=
    List.cons_lt_cons_iff.mpr (.inr ⟨rfl, chars_lt_tilde parent⟩)
  have irrefl : ¬ other.chars < other.chars := List.lt_irrefl _
  rw [← List.not_lt, textOctets_lt_iff, textOctets_lt_iff]
  simp only [inboundRange, inboundKey_lt_iff, lower, upper, and_false, or_false, and_true]
  constructor
  · rintro ⟨late, early | same⟩
    · exact absurd early late
    · exact same
  · rintro rfl
    exact ⟨irrefl, .inr rfl⟩

end Keys

def Linked (inbound : Table String String) (id parent : DocumentId) : Prop :=
  inbound.get? (inboundKey id parent) = some parent.text

def Tidy (inbound : Table String String) : Prop :=
  ∀ key text, inbound.get? key = some text →
    ∃ id parent, key = inboundKey id parent ∧ text = parent.text

/-- A table with the entries for some references put in, each given by the id referred to and the id
    that refers. -/
def withEntries (inbound : Table String String) (links : List (DocumentId × DocumentId)) :
    Table String String :=
  links.foldl (fun table link => table.insert (inboundKey link.1 link.2) link.2.text) inbound

section Entries

variable {inbound : Table String String} {id parent other parent' : DocumentId}

theorem linked_insert_iff :
    Linked (inbound.insert (inboundKey other parent') parent'.text) id parent ↔
      (id, parent) = (other, parent') ∨ Linked inbound id parent := by
  simp only [Linked, Table.get?_insert, inboundKey_inj, Prod.mk.injEq]
  split
  · next same => simp [same]
  · next differ => simp [differ]

theorem linked_withEntries_iff {links : List (DocumentId × DocumentId)} :
    Linked (withEntries inbound links) id parent ↔
      (id, parent) ∈ links ∨ Linked inbound id parent := by
  induction links generalizing inbound with
  | nil => simp [withEntries]
  | cons first rest ih =>
      rw [withEntries, List.foldl_cons, ← withEntries, ih, linked_insert_iff, List.mem_cons,
        or_left_comm, or_assoc]

theorem not_linked_empty : ¬ Linked Table.empty id parent := by
  simp [Linked]

theorem tidy_empty : Tidy Table.empty := by
  intro key text found
  simp at found

theorem Tidy.insert (tidy : Tidy inbound) (id parent : DocumentId) :
    Tidy (inbound.insert (inboundKey id parent) parent.text) := by
  intro key text found
  rw [Table.get?_insert] at found
  split at found
  · next here => exact ⟨id, parent, here, (Option.some.inj found).symm⟩
  · exact tidy key text found

theorem Tidy.withEntries (tidy : Tidy inbound) (links : List (DocumentId × DocumentId)) :
    Tidy (withEntries inbound links) :=
  List.foldlRecOn links _ tidy fun _ tidy link _ => tidy.insert link.1 link.2

end Entries

section Scan

variable {inbound : Table String String}

theorem mem_valuesBetween_iff {bounds : String × String} {text : String} :
    text ∈ valuesBetween inbound bounds ↔
      ∃ key, inbound.get? key = some text ∧
        textOctets bounds.1 ≤ textOctets key ∧ textOctets key < textOctets bounds.2 := by
  rw [valuesBetween, Table.mem_values_iff]
  simp only [Table.get?_filter, Option.filter_eq_some_iff, Bool.and_eq_true, Bool.not_eq_true',
    ← Bool.not_eq_true, before_iff_textOctets_lt, List.not_lt]

theorem mem_inboundRange_iff (tidy : Tidy inbound) {id : DocumentId} {text : String} :
    text ∈ valuesBetween inbound (inboundRange id) ↔
      ∃ parent, Linked inbound id parent ∧ text = parent.text := by
  rw [mem_valuesBetween_iff]
  constructor
  · rintro ⟨key, found, inside⟩
    obtain ⟨other, parent, rfl, rfl⟩ := tidy key text found
    obtain rfl := inboundRange_iff.mp inside
    exact ⟨parent, found, rfl⟩
  · rintro ⟨parent, linked, rfl⟩
    exact ⟨inboundKey id parent, linked, inboundRange_iff.mpr rfl⟩

theorem parentsOf_texts (owner : DocumentId) (parents : List DocumentId) :
    parentsOf owner (parents.map DocumentId.text)
      = .ok (parents.filter fun parent => parent ≠ owner) := by
  induction parents with
  | nil => rfl
  | cons parent rest ih =>
      simp only [List.map_cons, parentsOf, DocumentId.parse_text, ih]
      by_cases own : parent = owner
      · simp [own]
      · simp [own]

theorem exists_inboundRange_eq (tidy : Tidy inbound) (id : DocumentId) :
    ∃ parents : List DocumentId,
      valuesBetween inbound (inboundRange id) = parents.map DocumentId.text ∧
      ∀ parent, parent ∈ parents ↔ Linked inbound id parent := by
  have texts : valuesBetween inbound (inboundRange id) ∈ Set.range (List.map DocumentId.text) := by
    rw [Set.range_list_map]
    intro text member
    obtain ⟨parent, _, rfl⟩ := (mem_inboundRange_iff tidy).mp member
    exact ⟨parent, rfl⟩
  obtain ⟨parents, texts⟩ := texts
  refine ⟨parents, texts.symm, fun parent => ?_⟩
  rw [← List.mem_map_of_injective (fun _ _ => DocumentId.text_injective), texts,
    mem_inboundRange_iff tidy]
  constructor
  · rintro ⟨other, linked, same⟩
    exact DocumentId.text_injective same ▸ linked
  · exact fun linked => ⟨parent, linked, rfl⟩

/-- No text in the ranges stops the scan, so it answers, and with ids that refer to one of those
    given. -/
theorem exists_inboundParents_eq (tidy : Tidy inbound) (ids : List DocumentId)
    (owner : DocumentId) :
    ∃ referring, inboundParents inbound ids owner = .ok (sortedIds referring) ∧
      ∀ parent, parent ∈ referring ↔ parent ≠ owner ∧ ∃ id ∈ ids, Linked inbound id parent := by
  choose parents texts member using exists_inboundRange_eq tidy
  refine ⟨(ids.flatMap parents).filter fun parent => parent ≠ owner, ?_, fun parent => ?_⟩
  · simp only [inboundParents, texts, ← List.map_flatMap, parentsOf_texts]
  · simp only [List.mem_filter, List.mem_flatMap, member, decide_eq_true_eq]
    exact and_comm

theorem inboundParents_eq {contents : Contents} (tidy : Tidy inbound)
    (exact : ∀ id parent, Linked inbound id parent ↔ contents.Refers parent id)
    (ids : List DocumentId) (owner : DocumentId) :
    inboundParents inbound ids owner = .ok (contents.parents ids owner) := by
  obtain ⟨referring, answer, member⟩ := exists_inboundParents_eq tidy ids owner
  rw [answer]
  refine congrArg Except.ok (eq_of_ascends (KeySet.sorted_ascending _)
    (contents.parents_ascends ids owner) fun parent => ?_)
  rw [sortedIds, KeySet.mem_sorted, member, Contents.mem_parents]
  simp only [exact]

/-- Of a table whose entries are all entries for references, the scan of any ids answers, without an
    error, the documents other than the owner whose entry for one of the ids is in the table, in the
    order of the octets of their texts and hence each once. -/
theorem inboundParents_exact (tidy : Tidy inbound) (ids : List DocumentId) (owner : DocumentId) :
    ∃ parents, inboundParents inbound ids owner = .ok parents ∧
      (parents.Pairwise fun parent later => textOctets parent.text < textOctets later.text) ∧
      ∀ parent, parent ∈ parents ↔ parent ≠ owner ∧ ∃ id ∈ ids, Linked inbound id parent := by
  obtain ⟨referring, answer, member⟩ := exists_inboundParents_eq tidy ids owner
  refine ⟨sortedIds referring, answer, ?_, fun parent => ?_⟩
  · refine (KeySet.sorted_ascending referring).imp fun before => ?_
    rwa [textOctets_lt_iff, ← DocumentId.before_iff_text_lt]
  · rw [sortedIds, KeySet.mem_sorted]
    exact member parent

end Scan

/-- References to two ids next to each other: to each from both, to the first also from the greatest
    id and to the second from the id behind it. -/
def neighbouring : List (DocumentId × DocumentId) :=
  [(⟨15, by decide⟩, ⟨15, by decide⟩), (⟨15, by decide⟩, ⟨16, by decide⟩),
    (⟨15, by decide⟩, ⟨2 ^ 224 - 1, by decide⟩), (⟨16, by decide⟩, ⟨15, by decide⟩),
    (⟨16, by decide⟩, ⟨16, by decide⟩), (⟨16, by decide⟩, ⟨17, by decide⟩)]

theorem inboundParents_exact_neighbouring :
    Tidy (withEntries Table.empty neighbouring) ∧
      inboundParents (withEntries Table.empty neighbouring) [⟨15, by decide⟩, ⟨15, by decide⟩]
        ⟨15, by decide⟩ = .ok [⟨16, by decide⟩, ⟨2 ^ 224 - 1, by decide⟩] := by
  have tidy := tidy_empty.withEntries neighbouring
  obtain ⟨parents, answer, ordered, member⟩ := inboundParents_exact tidy
    [⟨15, by decide⟩, ⟨15, by decide⟩] ⟨15, by decide⟩
  simp only [linked_withEntries_iff, not_linked_empty, or_false] at member
  have ascends : Ascends parents := ordered.imp fun less => by
    rwa [textOctets_lt_iff, ← DocumentId.before_iff_text_lt] at less
  have whole : parents = [⟨16, by decide⟩, ⟨2 ^ 224 - 1, by decide⟩] := by
    refine eq_of_ascends ascends (by unfold Ascends; decide) fun parent => ⟨?_, ?_⟩
    · intro present
      obtain ⟨differ, id, asked, linked⟩ := (member parent).mp present
      have kept : ∀ link ∈ neighbouring, link.1 = ⟨15, by decide⟩ → link.2 ≠ ⟨15, by decide⟩ →
          link.2 ∈ [⟨16, by decide⟩, ⟨2 ^ 224 - 1, by decide⟩] := by decide +kernel
      exact kept (id, parent) linked (by simpa using asked) differ
    · intro listed
      apply (member parent).mpr
      revert parent
      decide +kernel
  exact ⟨tidy, answer.trans (congrArg Except.ok whole)⟩

end Docket.KeyValueStore
