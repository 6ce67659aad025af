import Docket.Proofs.Store.Reading
/-!
Reading a store page by page.

A page starts after the last document of the one before it. What is left then are the documents
behind the page (`Contents.following_last`), so paging leaves none out, shows none twice and comes
to an end. A document that is read of a page is what a look-up shows (`Engine.get_of_read`).
-/

namespace Docket

namespace Contents

variable {contents : Contents}

def following (contents : Contents) (bound : Option DocumentId) : List Document :=
  (contents.filter fun id _ => bound.all fun bound => Key.before bound id).values

theorem following_none (contents : Contents) : contents.following none = contents.values := by
  have whole : (contents.filter fun _ _ => true) = contents := by
    apply Table.ext_get?
    intro id
    rw [Table.get?_filter]
    cases contents.get? id with
    | none => rfl
    | some document => rfl
  simp only [following, Option.all_none, whole]

theorem length_following_le (bound : Option DocumentId) :
    (contents.following bound).length ≤ contents.size := by
  rw [following, Table.values, List.length_map]
  exact List.length_filter_le _ _

theorem following_subset (bound : Option DocumentId) : contents.following bound ⊆ contents.values :=
  (List.filter_sublist.map _).subset

section Named

variable (named : ∀ id document, contents.get? id = some document → document.id = id)
include named

theorem following_eq_filter (bound : Option DocumentId) :
    contents.following bound
      = contents.values.filter fun document =>
          bound.all fun bound => Key.before bound document.id := by
  rw [following, Table.values, Table.values, Table.filter, List.filter_map]
  congr 1
  apply List.filter_congr
  rintro ⟨id, document⟩ member
  have own := named id document (Table.mem_toList_iff.mp member)
  simp only [Function.comp_apply, own]

theorem map_id_values : contents.values.map Document.id = contents.keys := by
  rw [Table.values, Table.keys, List.map_map]
  apply List.map_congr_left
  rintro ⟨id, document⟩ member
  exact named id document (Table.mem_toList_iff.mp member)

theorem following_ascends (bound : Option DocumentId) :
    (contents.following bound).Pairwise fun a b => Key.before a.id b.id = true := by
  have ascends : Ascends (contents.values.map Document.id) := by
    rw [map_id_values named]
    exact Table.keys_ascending contents
  rw [following_eq_filter named]
  exact (List.pairwise_map.mp ascends).filter _

theorem following_last {bound : Option DocumentId} {count : Nat} {last : Document}
    (found : ((contents.following bound).take count).getLast? = some last) :
    contents.following (some last.id) = (contents.following bound).drop count := by
  obtain ⟨front, page⟩ := List.getLast?_eq_some_iff.mp found
  have split : contents.following bound
      = front ++ last :: (contents.following bound).drop count := by
    have whole := List.take_append_drop count (contents.following bound)
    rw [page, List.append_assoc] at whole
    exact whole.symm
  have ascends := following_ascends named bound
  have inside : last ∈ contents.following bound := by
    rw [split]
    simp
  -- What is behind the last document of the page is behind the bound as well.
  have narrow : contents.following (some last.id)
      = (contents.following bound).filter fun document => Key.before last.id document.id := by
    rw [following_eq_filter named] at inside
    rw [following_eq_filter named, following_eq_filter named, List.filter_filter]
    apply List.filter_congr
    intro document _
    have bounded := (List.mem_filter.mp inside).2
    cases bound with
    | none => simp
    | some bound =>
        simp only [Option.all_some] at bounded ⊢
        cases later : Key.before last.id document.id with
        | false => rfl
        | true => simp [Key.trans bounded later]
  rw [narrow]
  generalize (contents.following bound).drop count = rest at split
  rw [split] at ascends ⊢
  obtain ⟨_, ascendsLast, before⟩ := List.pairwise_append.mp ascends
  have early : front.filter (fun document => Key.before last.id document.id) = [] := by
    rw [List.filter_eq_nil_iff]
    intro document member
    simp [Key.asymm (before document member last List.mem_cons_self)]
  have late : rest.filter (fun document => Key.before last.id document.id) = rest := by
    rw [List.filter_eq_self]
    exact (List.pairwise_cons.mp ascendsLast).1
  rw [List.filter_append, early, List.filter_cons_of_neg (by simp [Key.irrefl]), late,
    List.nil_append]

end Named

end Contents

theorem mapM_eq_ok_iff {ε α β : Type} {f : α → Except ε β} {items : List α} {values : List β} :
    items.mapM f = .ok values ↔
      List.Forall₂ (fun item value => f item = .ok value) items values := by
  induction items generalizing values with
  | nil => simp [pure, Except.pure, eq_comm]
  | cons item rest ih =>
      rw [List.mapM_cons, List.forall₂_cons_left_iff]
      simp only [← ih]
      cases f item with
      | error cause => simp [bind, Except.bind]
      | ok value =>
          cases rest.mapM f with
          | error cause => simp [bind, Except.bind]
          | ok values' => simp [bind, Except.bind, pure, Except.pure, eq_comm]

theorem exists_mem_of_mapM {ε α β : Type} {f : α → Except ε β} {items : List α} {values : List β}
    (done : items.mapM f = .ok values) {item : α} (member : item ∈ items) :
    ∃ value ∈ values, f item = .ok value := by
  have places := mapM_eq_ok_iff.mp done
  clear done
  induction places with
  | nil => simp at member
  | @cons first value _ _ here _ ih =>
      rcases List.mem_cons.mp member with rfl | later
      · exact ⟨value, List.mem_cons_self, here⟩
      · obtain ⟨value', inside, there⟩ := ih later
        exact ⟨value', List.mem_cons_of_mem _ inside, there⟩

theorem exists_of_mapM_error {ε α β : Type} {f : α → Except ε β} {items : List α} {cause : ε}
    (failed : items.mapM f = .error cause) : ∃ item ∈ items, f item = .error cause := by
  induction items with
  | nil => simp [pure, Except.pure] at failed
  | cons item rest ih =>
      rw [List.mapM_cons] at failed
      cases here : f item with
      | error other =>
          obtain rfl : other = cause := by simpa [here, bind, Except.bind] using failed
          exact ⟨item, List.mem_cons_self, here⟩
      | ok value =>
          have later : rest.mapM f = .error cause := by
            cases others : rest.mapM f with
            | error other => simpa [here, others, bind, Except.bind] using failed
            | ok values => simp [here, others, bind, Except.bind, pure, Except.pure] at failed
          obtain ⟨item', member, there⟩ := ih later
          exact ⟨item', List.mem_cons_of_mem _ member, there⟩

theorem mapM_take_drop {ε α β : Type} (f : α → Except ε β) (count : Nat) (items : List α) :
    items.mapM f = (items.take count).mapM f >>= fun front =>
      ((items.drop count).mapM f).map fun rest => front ++ rest := by
  conv_lhs => rw [← List.take_append_drop count items, List.mapM_append]
  rfl

theorem exists_of_mapM_split {ε α β : Type} {f : α → Except ε β} {items : List α} {values : List β}
    (done : items.mapM f = .ok values) (count : Nat) :
    ∃ front back, (items.take count).mapM f = .ok front ∧ (items.drop count).mapM f = .ok back ∧
      front ++ back = values := by
  rw [mapM_take_drop f count] at done
  cases first : (items.take count).mapM f with
  | error cause => simp [first, bind, Except.bind] at done
  | ok front =>
      cases later : (items.drop count).mapM f with
      | error cause => simp [first, later, bind, Except.bind, Except.map] at done
      | ok back =>
          exact ⟨front, back, rfl, rfl, by simpa [first, later, bind, Except.bind, Except.map] using done⟩

theorem EngineKind.map_of_mapM {kind : EngineKind} {documents read : List Document} {β : Type}
    {f : Document → β} (alike : ∀ document shown, document.Rereads shown → f shown = f document)
    (readable : documents.mapM kind.reread = .ok read) : read.map f = documents.map f := by
  have places := mapM_eq_ok_iff.mp readable
  clear readable
  induction places with
  | nil => rfl
  | cons first _ ih =>
      rw [List.map_cons, List.map_cons, ih, alike _ _ (EngineKind.rereads first)]

theorem EngineKind.map_id_of_mapM {kind : EngineKind} {documents read : List Document}
    (readable : documents.mapM kind.reread = .ok read) :
    read.map Document.id = documents.map Document.id :=
  map_of_mapM (fun _ _ rereads => rereads.id) readable

namespace Engine

variable {engine : Engine} {contents : Contents}

theorem size_eq (held : engine.Holds contents) : DocumentStore.size engine = contents.size := by
  cases engine with
  | memory store =>
      have documents : store.documents = contents := held.keeps
      change store.documents.size = _
      rw [documents]
  | keyValue store =>
      change store.documents.size = _
      rw [Table.size, Table.entries_eq_map _ held.keeps, List.length_map, Table.size]
  | relational store =>
      change store.documents.size = _
      rw [Table.size, Table.entries_eq_map _ held.keeps.1, List.length_map, Table.size]

theorem following_page (held : engine.Holds contents) {bound : Option DocumentId} {count : Nat}
    {documents : List Document} {last : Document}
    (read : ((contents.following bound).take count).mapM engine.kind.reread = .ok documents)
    (ends : documents.getLast? = some last) :
    contents.following (some last.id) = (contents.following bound).drop count := by
  have ids := congrArg List.getLast? (EngineKind.map_id_of_mapM read)
  rw [List.getLast?_map, List.getLast?_map, ends, Option.map_some, eq_comm,
    Option.map_eq_some_iff] at ids
  obtain ⟨stored, final, same⟩ := ids
  rw [← same]
  exact Contents.following_last held.exact.named final

theorem get_of_read (held : engine.Holds contents) {documents read : List Document}
    (stored : documents ⊆ contents.values)
    (readable : documents.mapM engine.kind.reread = .ok read) {document : Document}
    (member : document ∈ read) :
    DocumentStore.get document.id engine = (.success document, engine) := by
  have places := mapM_eq_ok_iff.mp readable
  clear readable
  induction places with
  | nil => simp at member
  | @cons original shown _ _ first _ ih =>
      rcases List.mem_cons.mp member with rfl | later
      · obtain ⟨id, present⟩ := Table.mem_values_iff.mp (stored List.mem_cons_self)
        have own : document.id = id :=
          (EngineKind.rereads first).id.trans (held.exact.named id original present)
        rw [get_eq held, own, present, Option.map_some, first, GetOutcome.ofReading]
      · exact ih (fun _ inside => stored (List.mem_cons_of_mem _ inside)) later

theorem read_ascends (held : engine.Holds contents) {read : List Document}
    (readable : contents.values.mapM engine.kind.reread = .ok read) :
    Ascends (read.map Document.id) := by
  rw [EngineKind.map_id_of_mapM readable, Contents.map_id_values held.exact.named]
  exact Table.keys_ascending contents

theorem get_eq_success_iff_mem (held : engine.Holds contents) {read : List Document}
    (readable : contents.values.mapM engine.kind.reread = .ok read) {id : DocumentId}
    {document : Document} :
    (DocumentStore.get id engine).1 = .success document ↔ document ∈ read ∧ document.id = id := by
  constructor
  · intro found
    obtain ⟨stored, present, shown⟩ := reread_of_get held found
    obtain ⟨value, member, same⟩ :=
      exists_mem_of_mapM readable (Table.mem_values_iff.mpr ⟨id, present⟩)
    obtain rfl := Except.ok.inj (shown.symm.trans same)
    exact ⟨member, (EngineKind.rereads shown).id.trans (held.exact.named id stored present)⟩
  · rintro ⟨member, rfl⟩
    rw [get_of_read held (List.Subset.refl _) readable member]

theorem get_eq_notExists_or (held : engine.Holds contents) {read : List Document}
    (readable : contents.values.mapM engine.kind.reread = .ok read) (id : DocumentId) :
    (DocumentStore.get id engine).1 = .notExists ∨
      ∃ document, (DocumentStore.get id engine).1 = .success document := by
  rw [get_eq held]
  cases present : contents.get? id with
  | none => exact .inl rfl
  | some stored =>
      obtain ⟨value, _, shown⟩ :=
        exists_mem_of_mapM readable (Table.mem_values_iff.mpr ⟨id, present⟩)
      exact .inr ⟨value, by rw [Option.map_some, shown, GetOutcome.ofReading]⟩

end Engine

end Docket
