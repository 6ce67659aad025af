import Docket.Proofs.Store.Reading
/-!
Stores that are known by what they hold.

An engine keeps nothing but the documents and what follows from them. So two engines of one kind that
hold the same contents are the same, tables and all (`Engine.Holds.unique`).
-/

namespace Docket

open Contents

variable {contents : Contents}

theorem MemoryStore.Holds.unique {left right : MemoryStore} (held : left.Holds contents)
    (held' : right.Holds contents) : left = right := by
  have documents : left.documents = right.documents := held.documents.trans held'.documents.symm
  have existence : left.existence = right.existence := held.exact.existence_unique held'.exact
  have inbound : left.inbound = right.inbound := by
    apply Table.eq_of_links held.inhabited held'.inhabited
    intro id parent
    exact (held.exact.inbound id parent).trans (held'.exact.inbound id parent).symm
  cases left
  cases right
  simp_all

theorem KeyValueStore.Holds.unique {left right : KeyValueStore} (held : left.Holds contents)
    (held' : right.Holds contents) : left = right := by
  have documents : left.documents = right.documents := by
    apply Table.ext_get?
    intro id
    rw [held.documents, held'.documents]
  have existence : left.existence = right.existence := held.exact.existence_unique held'.exact
  -- Every entry is one for a reference, and the contents tell which references there are.
  have carried : ∀ {store store' : KeyValueStore}, store.Holds contents → store'.Holds contents →
      ∀ {key text}, store.inbound.get? key = some text → store'.inbound.get? key = some text := by
    intro store store' held held' key text found
    obtain ⟨id, parent, rfl, rfl⟩ := held.tidy key text found
    exact (held'.exact.inbound id parent).mpr ((held.exact.inbound id parent).mp found)
  have inbound : left.inbound = right.inbound := by
    apply Table.ext_get?
    intro key
    apply Option.ext
    intro text
    exact ⟨carried held held', carried held' held⟩
  cases left
  cases right
  simp_all

theorem RelationalStore.Holds.unique {left right : RelationalStore} (held : left.Holds contents)
    (held' : right.Holds contents) : left = right := by
  have documents : left.documents = right.documents := by
    apply Table.ext_get?
    intro id
    rw [held.documents, held'.documents]
  have existence : left.existence = right.existence := held.exact.existence_unique held'.exact
  have references : left.references = right.references := by
    apply Table.ext_get?
    rintro ⟨parent, id⟩
    rw [held.references, held'.references]
  cases left
  cases right
  simp_all

theorem Engine.Holds.unique {left right : Engine} (held : left.Holds contents)
    (held' : right.Holds contents) (same : left.kind = right.kind) : left = right := by
  cases left with
  | memory store =>
      cases right with
      | memory store' => rw [(memory_holds.mp held).unique (memory_holds.mp held')]
      | keyValue store' => simp [kind] at same
      | relational store' => simp [kind] at same
  | keyValue store =>
      cases right with
      | memory store' => simp [kind] at same
      | keyValue store' => rw [(keyValue_holds.mp held).unique (keyValue_holds.mp held')]
      | relational store' => simp [kind] at same
  | relational store =>
      cases right with
      | memory store' => simp [kind] at same
      | keyValue store' => simp [kind] at same
      | relational store' => rw [(relational_holds.mp held).unique (relational_holds.mp held')]

end Docket
