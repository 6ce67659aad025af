import Docket.Proofs.Table
import Docket.Store.Basic
/-!
What a store is to hold, told by its documents alone.

The contents of a store are its documents, each as it was last written. An engine keeps two tables
more, of the ids that exist and of the references, and these are exact when they say what the
contents say. Main statements: writing a document (`Exact.put`) and removing one (`Exact.erase`)
leave exact tables exact, for every engine whose tables change as the two lemmas ask.
-/

namespace Docket

namespace Document

variable (new : Document) (old : Option Document)

theorem keepingCreator_eq :
    new.keepingCreator old = { new with createdBy := (new.keepingCreator old).createdBy } := by
  unfold keepingCreator
  split <;> rfl

@[simp] theorem keepingCreator_id : (new.keepingCreator old).id = new.id := by
  rw [keepingCreator_eq]

@[simp] theorem keepingCreator_resource : (new.keepingCreator old).resource = new.resource := by
  rw [keepingCreator_eq]

@[simp] theorem keepingCreator_identity : (new.keepingCreator old).identity = new.identity := by
  rw [keepingCreator_eq]

@[simp] theorem keepingCreator_validated :
    (new.keepingCreator old).validated = new.validated := by
  rw [keepingCreator_eq]

@[simp] theorem keepingCreator_body : (new.keepingCreator old).body = new.body := by
  rw [keepingCreator_eq]

@[simp] theorem keepingCreator_existenceIds :
    (new.keepingCreator old).existenceIds = new.existenceIds := by
  rw [keepingCreator_eq]
  rfl

@[simp] theorem keepingCreator_outRefs : (new.keepingCreator old).outRefs = new.outRefs := by
  rw [keepingCreator_eq]

@[simp] theorem keepingCreator_outRefIds :
    (new.keepingCreator old).outRefIds = new.outRefIds := by
  simp only [outRefIds, keepingCreator_outRefs]

theorem mem_droppedAliases {old new : Document} {id : DocumentId} :
    id ∈ old.droppedAliases new ↔ id ∈ old.aliasIds ∧ id ∉ new.aliasIds := by
  simp [droppedAliases]

end Document

/-- The documents of a store by id, each as it was last written. -/
abbrev Contents := Table DocumentId Document

namespace Contents

def Owns (contents : Contents) (owner id : DocumentId) : Prop :=
  ∃ document, contents.get? owner = some document ∧ id ∈ document.existenceIds

def Resolves (contents : Contents) (id : DocumentId) : Prop := ∃ owner, contents.Owns owner id

def Refers (contents : Contents) (parent id : DocumentId) : Prop :=
  ∃ document, contents.get? parent = some document ∧ id ∈ document.outRefIds

def parents (contents : Contents) (ids : List DocumentId) (owner : DocumentId) :
    List DocumentId :=
  (contents.filter fun parent document =>
    decide (parent ≠ owner) && document.outRefIds.any fun id => ids.contains id).keys

def dropped (contents : Contents) (new : Document) : List DocumentId :=
  ((contents.get? new.id).map fun old => old.droppedAliases new).getD []

/-- The contents with a document in place of the one with its id, whose creator it keeps. -/
def put (contents : Contents) (new : Document) : Contents :=
  contents.insert new.id (new.keepingCreator (contents.get? new.id))

variable {contents : Contents}

theorem resolves_iff_any {id : DocumentId} :
    contents.Resolves id ↔
      (contents.values.any fun document => document.existenceIds.contains id) = true := by
  simp only [Resolves, Owns, List.any_eq_true, Table.mem_values_iff, List.contains_iff_mem]
  constructor
  · rintro ⟨owner, document, found, member⟩
    exact ⟨document, ⟨owner, found⟩, member⟩
  · rintro ⟨document, ⟨owner, found⟩, member⟩
    exact ⟨owner, document, found, member⟩

instance (contents : Contents) (id : DocumentId) : Decidable (contents.Resolves id) :=
  decidable_of_iff _ resolves_iff_any.symm

theorem mem_parents {ids : List DocumentId} {owner parent : DocumentId} :
    parent ∈ contents.parents ids owner ↔
      parent ≠ owner ∧ ∃ id ∈ ids, contents.Refers parent id := by
  rw [parents, Table.mem_keys_filter_iff]
  simp only [Bool.and_eq_true, decide_eq_true_eq, List.any_eq_true, List.contains_iff_mem]
  constructor
  · rintro ⟨document, found, differ, id, refers, asked⟩
    exact ⟨differ, id, asked, document, found, refers⟩
  · rintro ⟨differ, id, asked, document, found, refers⟩
    exact ⟨document, found, differ, id, refers, asked⟩

theorem parents_ascends (ids : List DocumentId) (owner : DocumentId) :
    Ascends (contents.parents ids owner) :=
  Table.keys_ascending _

theorem mem_dropped {new : Document} {id : DocumentId} :
    id ∈ contents.dropped new ↔
      ∃ old, contents.get? new.id = some old ∧ id ∈ old.aliasIds ∧ id ∉ new.aliasIds := by
  unfold dropped
  cases contents.get? new.id with
  | none => simp
  | some old => simp [Document.mem_droppedAliases]

theorem get?_put (new : Document) (id : DocumentId) :
    (contents.put new).get? id
      = if id = new.id then some (new.keepingCreator (contents.get? new.id))
        else contents.get? id :=
  Table.get?_insert contents new.id id _

theorem get?_put_self (new : Document) :
    (contents.put new).get? new.id = some (new.keepingCreator (contents.get? new.id)) := by
  rw [get?_put, if_pos rfl]

theorem get?_put_of_ne {new : Document} {id : DocumentId} (differ : id ≠ new.id) :
    (contents.put new).get? id = contents.get? id := by
  rw [get?_put, if_neg differ]

theorem owns_put_iff {new : Document} {owner id : DocumentId} :
    (contents.put new).Owns owner id ↔
      if owner = new.id then id ∈ new.existenceIds else contents.Owns owner id := by
  unfold Owns
  by_cases here : owner = new.id
  · simp [get?_put, here]
  · simp [get?_put, here]

theorem refers_put_iff {new : Document} {parent id : DocumentId} :
    (contents.put new).Refers parent id ↔
      if parent = new.id then id ∈ new.outRefIds else contents.Refers parent id := by
  unfold Refers
  by_cases here : parent = new.id
  · simp [get?_put, here]
  · simp [get?_put, here]

theorem owns_erase_iff {gone owner id : DocumentId} :
    Owns (contents.erase gone) owner id ↔ owner ≠ gone ∧ contents.Owns owner id := by
  unfold Owns
  by_cases here : owner = gone
  · simp [here]
  · simp [here]

theorem refers_erase_iff {gone parent id : DocumentId} :
    Refers (contents.erase gone) parent id ↔ parent ≠ gone ∧ contents.Refers parent id := by
  unfold Refers
  by_cases here : parent = gone
  · simp [here]
  · simp [here]

/-- What an engine reads back of a stored version decides about the next one: the version is there
    or not, and has its ids and its creator. -/
inductive Recalls : Option Document → Option Document → Prop where
  | absent : Recalls none none
  | present {stored read : Document} (id : read.id = stored.id)
      (aliasIds : read.aliasIds = stored.aliasIds) (createdBy : read.createdBy = stored.createdBy) :
      Recalls (some stored) (some read)

namespace Recalls

variable {stored read : Option Document}

protected theorem refl (stored : Option Document) : Recalls stored stored := by
  cases stored with
  | none => exact .absent
  | some document => exact .present rfl rfl rfl

theorem isSome_eq (recalls : Recalls stored read) : read.isSome = stored.isSome := by
  cases recalls with
  | absent => rfl
  | present => rfl

theorem droppedAliases_eq (recalls : Recalls stored read) (new : Document) :
    (read.map fun old => old.droppedAliases new) = stored.map fun old => old.droppedAliases new := by
  cases recalls with
  | absent => rfl
  | present _ aliasIds _ => simp [Document.droppedAliases, aliasIds]

theorem keepingCreator_eq (recalls : Recalls stored read) (new : Document) :
    new.keepingCreator read = new.keepingCreator stored := by
  cases recalls with
  | absent => rfl
  | present _ _ createdBy => simp [Document.keepingCreator, createdBy]

end Recalls

structure Accepts (contents : Contents) (write : DocumentWrite) : Prop where
  /-- None of its ids belongs to another document. -/
  unclaimed : ∀ id ∈ write.document.existenceIds, ∀ owner,
    contents.Owns owner id → owner = write.document.id
  enforced : ∀ id ∈ write.enforcedRefs, contents.Resolves id
  /-- No other document refers to an alias that it drops. -/
  unreferenced : ∀ id ∈ contents.dropped write.document, ∀ parent,
    contents.Refers parent id → parent = write.document.id

def Releases (contents : Contents) (id : DocumentId) : Prop :=
  ∀ existenceId, contents.Owns id existenceId →
    ∀ parent, contents.Refers parent existenceId → parent = id

theorem releases_of_parents_eq_nil {id : DocumentId} {document : Document}
    (found : contents.get? id = some document)
    (alone : contents.parents document.existenceIds id = []) : contents.Releases id := by
  rintro existenceId ⟨_, found', member⟩ parent refers
  rw [found] at found'
  obtain rfl := Option.some.inj found'
  by_contra differ
  have listed : parent ∈ contents.parents document.existenceIds id :=
    mem_parents.mpr ⟨differ, existenceId, member, refers⟩
  simp [alone] at listed

theorem get?_foldl_release (owner : DocumentId) (ids : List DocumentId)
    (table : Table DocumentId DocumentId) (key : DocumentId) :
    (ids.foldl (fun table id => if table.get? id = some owner then table.erase id else table)
        table).get? key
      = if key ∈ ids then (table.get? key).filter fun other => other ≠ owner
        else table.get? key := by
  induction ids generalizing table with
  | nil => simp
  | cons first rest ih =>
      rw [List.foldl_cons, ih]
      by_cases here : key = first
      · subst here
        by_cases owned : table.get? key = some owner
        · simp [owned, Option.filter_some]
        · have other : (table.get? key).filter (fun other => other ≠ owner) = table.get? key := by
            cases found : table.get? key with
            | none => rfl
            | some value =>
                have differ : value ≠ owner := fun same => owned (by rw [found, same])
                simp [Option.filter_some, differ]
          simp only [owned, if_false, List.mem_cons, true_or, other, ite_self]
      · have same : (if table.get? first = some owner then table.erase first else table).get? key
            = table.get? key := by
          split
          · simp [here]
          · rfl
        simp only [same, List.mem_cons, here, false_or]

/-- The tables beside the documents say what the documents say: `existence` the owner of every id
    that exists, and `linked id parent` that `parent` refers to `id`. -/
structure Exact (contents : Contents) (existence : Table DocumentId DocumentId)
    (linked : DocumentId → DocumentId → Prop) : Prop where
  named : ∀ id document, contents.get? id = some document → document.id = id
  existence : ∀ id owner, existence.get? id = some owner ↔ contents.Owns owner id
  inbound : ∀ id parent, linked id parent ↔ contents.Refers parent id

namespace Exact

variable {existence : Table DocumentId DocumentId} {linked : DocumentId → DocumentId → Prop}

theorem existence_unique {existence' : Table DocumentId DocumentId}
    {linked' : DocumentId → DocumentId → Prop} (exact : Exact contents existence linked)
    (exact' : Exact contents existence' linked') : existence = existence' := by
  apply Table.ext_get?
  intro id
  apply Option.ext
  intro owner
  rw [exact.existence, exact'.existence]

theorem resolves_iff (exact : Exact contents existence linked) {id : DocumentId} :
    contents.Resolves id ↔ existence.contains id = true := by
  simp only [Resolves, Table.contains_iff, exact.existence]

theorem owner_unique (exact : Exact contents existence linked) {id owner other : DocumentId}
    (owns : contents.Owns owner id) (owns' : contents.Owns other id) : owner = other := by
  have found := (exact.existence id owner).mpr owns
  have found' := (exact.existence id other).mpr owns'
  exact Option.some.inj (found.symm.trans found')

theorem empty (nothing : ∀ id parent, ¬ linked id parent) :
    Exact Table.empty Table.empty linked where
  named _ _ found := by simp at found
  existence id owner := by simp [Owns]
  inbound id parent := by simp [Refers, nothing]

theorem get?_eraseAll_dropped (exact : Exact contents existence linked) (new : Document)
    (id : DocumentId) (absent : id ∉ new.existenceIds) :
    (existence.eraseAll (contents.dropped new)).get? id
      = (existence.get? id).filter fun owner => owner ≠ new.id := by
  rw [Table.get?_eraseAll]
  -- An id that was the document's and is not dropped is its own id or an alias that it keeps.
  by_cases lost : id ∈ contents.dropped new
  · obtain ⟨old, found, aliased, _⟩ := mem_dropped.mp lost
    have owned : existence.get? id = some new.id :=
      (exact.existence id new.id).mpr ⟨old, found, List.mem_cons_of_mem _ aliased⟩
    simp [lost, owned, Option.filter_some]
  · cases owned : existence.get? id with
    | none => simp [lost]
    | some owner =>
        have other : owner ≠ new.id := by
          rintro rfl
          obtain ⟨old, found, member⟩ := (exact.existence id new.id).mp owned
          rcases List.mem_cons.mp member with own | aliased
          · rw [exact.named _ _ found] at own
            exact absent (own ▸ List.mem_cons_self)
          · have fresh : id ∉ new.aliasIds := fun again => absent (List.mem_cons_of_mem _ again)
            exact lost (mem_dropped.mpr ⟨old, found, aliased, fresh⟩)
        simp [lost, other, Option.filter_some]

theorem get?_release (exact : Exact contents existence linked) {id : DocumentId}
    {document : Document} (found : contents.get? id = some document) (key : DocumentId) :
    (document.existenceIds.foldl (fun table existenceId =>
        if table.get? existenceId = some id then table.erase existenceId else table)
        existence).get? key
      = (existence.get? key).filter fun owner => owner ≠ id := by
  rw [get?_foldl_release]
  by_cases member : key ∈ document.existenceIds
  · simp [member]
  · cases owned : existence.get? key with
    | none => simp [member]
    | some owner =>
        have other : owner ≠ id := by
          rintro rfl
          obtain ⟨stored, found', member'⟩ := (exact.existence key owner).mp owned
          rw [found] at found'
          exact member (Option.some.inj found' ▸ member')
        simp [member, other, Option.filter_some]

/-- After a write the ids of the document are its own, its former ids are gone, and it is linked to
    what it now refers to. -/
theorem put (exact : Exact contents existence linked) {new : Document}
    (unclaimed : ∀ id ∈ new.existenceIds, ∀ owner, contents.Owns owner id → owner = new.id)
    {existence' : Table DocumentId DocumentId} {linked' : DocumentId → DocumentId → Prop}
    (existence_view : ∀ id, existence'.get? id
      = if id ∈ new.existenceIds then some new.id
        else (existence.get? id).filter fun owner => owner ≠ new.id)
    (linked_view : ∀ id parent, linked' id parent ↔
      if parent = new.id then id ∈ new.outRefIds else linked id parent) :
    Exact (contents.put new) existence' linked' where
  named id document found := by
    rw [get?_put] at found
    split at found
    · next here =>
        rw [← Option.some.inj found, Document.keepingCreator_id, here]
    · exact exact.named id document found
  existence id owner := by
    rw [existence_view, owns_put_iff]
    by_cases member : id ∈ new.existenceIds
    · by_cases here : owner = new.id
      · simp [member, here]
      -- Nobody else may have an id that the document claims.
      · have others : ¬ contents.Owns owner id := fun owns => here (unclaimed id member owner owns)
        simp [member, here, others, Ne.symm here]
    · by_cases here : owner = new.id
      · simp [member, here, Option.filter_eq_some_iff]
      · simp [member, here, Option.filter_eq_some_iff, exact.existence]
  inbound id parent := by
    rw [linked_view, refers_put_iff, exact.inbound]

theorem erase (exact : Exact contents existence linked) {gone : DocumentId}
    {existence' : Table DocumentId DocumentId} {linked' : DocumentId → DocumentId → Prop}
    (existence_view : ∀ id, existence'.get? id
      = (existence.get? id).filter fun owner => owner ≠ gone)
    (linked_view : ∀ id parent, linked' id parent ↔ parent ≠ gone ∧ linked id parent) :
    Exact (contents.erase gone) existence' linked' where
  named id document found := by
    rw [Table.get?_erase] at found
    split at found
    · simp at found
    · exact exact.named id document found
  existence id owner := by
    rw [existence_view, owns_erase_iff, Option.filter_eq_some_iff, exact.existence]
    simp only [decide_eq_true_eq]
    exact and_comm
  inbound id parent := by
    rw [linked_view, refers_erase_iff, exact.inbound]

end Exact

end Contents

end Docket
