import Docket.Proofs.Service.Repetition
import Docket.Proofs.Store.Lifecycle
import Docket.Proofs.Store.ReadBack
/-!
Two clients that write one document at the same time.

An upsert asks whose the document is, asks for the references that it needs, and writes; between these
operations those of another client can take place. The first answer may then be out of date when the
write is made. What the store is asked last does not include the creator, so an upsert replaces the
document of another client exactly if that client has inserted it since the check
(`Race.overwrites_iff`). A document that is there from the beginning stays with its creator.
-/

namespace Docket

open Request Contents

inductive Side where
  | first
  | second
  deriving DecidableEq

def Side.other : Side → Side
  | .first => .second
  | .second => .first

theorem Side.eq_or_eq_other (side turn : Side) : turn = side ∨ turn = side.other := by
  cases side <;> cases turn <;> simp [other]

theorem Side.other_ne (side : Side) : side.other ≠ side := by
  cases side <;> simp [other]

structure Race where
  script : Side → Script (UpsertResult × Commit)
  store : Engine

namespace Race

def start (requests : Side → UpsertRequest) (contexts : Side → RequestContext) (store : Engine) :
    Race :=
  ⟨fun side => (requests side).script (contexts side), store⟩

def move (index : SearchIndex) (race : Race) (turn : Side) : Race :=
  { script := fun side =>
      if side = turn then ((race.script turn).step index race.store).1 else race.script side
    store := ((race.script turn).step index race.store).2 }

def after (index : SearchIndex) (race : Race) (schedule : List Side) : Race :=
  schedule.foldl (move index) race

def answer? (race : Race) (side : Side) : Option UpsertOutcome :=
  match race.script side with
  | .upsert write _ => some (DocumentStore.upsert write race.store).1
  | _ => none

def Inserts (race : Race) (side : Side) : Prop := race.answer? side = some .insertSuccess

def Commits (race : Race) (side : Side) : Prop :=
  race.Inserts side ∨ race.answer? side = some .updateSuccess

def replaced? (race : Race) (side : Side) : Option Document :=
  match race.script side with
  | .upsert write _ =>
      if (DocumentStore.upsert write race.store).1 = .updateSuccess then
        (DocumentStore.get write.document.id race.store).1.document?
      else none
  | _ => none

/-- Whether the next operation of one of the two replaces a document that a client made. -/
def Overwrites (race : Race) (side : Side) (client : String) : Prop :=
  (race.replaced? side).bind Document.createdBy = some client

instance (race : Race) (side : Side) : Decidable (race.Inserts side) :=
  inferInstanceAs (Decidable (_ = _))

instance (race : Race) (side : Side) : Decidable (race.Commits side) :=
  inferInstanceAs (Decidable (_ ∨ _))

instance (race : Race) (side : Side) (client : String) : Decidable (race.Overwrites side client) :=
  inferInstanceAs (Decidable (_ = _))

variable {index : SearchIndex} {race : Race} {side turn : Side}

theorem after_concat (index : SearchIndex) (race : Race) (schedule : List Side) (turn : Side) :
    race.after index (schedule ++ [turn]) = (race.after index schedule).move index turn :=
  List.foldl_concat ..

theorem script_move_self : (race.move index turn).script turn
    = ((race.script turn).step index race.store).1 := if_pos rfl

theorem script_move_of_ne (differ : side ≠ turn) :
    (race.move index turn).script side = race.script side := if_neg differ

theorem exists_upsert_of_answer? {outcome : UpsertOutcome}
    (answered : race.answer? side = some outcome) :
    ∃ write next, race.script side = .upsert write next ∧
      (DocumentStore.upsert write race.store).1 = outcome := by
  unfold answer? at answered
  split at answered
  · next write next script => exact ⟨write, next, script, Option.some.inj answered⟩
  · simp at answered

theorem overwrites_iff_exists {client : String} :
    race.Overwrites side client ↔ ∃ write next stored, race.script side = .upsert write next ∧
      (DocumentStore.upsert write race.store).1 = .updateSuccess ∧
      (DocumentStore.get write.document.id race.store).1 = .success stored ∧
      stored.createdBy = some client := by
  unfold Overwrites replaced?
  constructor
  · intro creator
    split at creator
    · next write next script =>
        split at creator
        · next done =>
            obtain ⟨stored, found, creator⟩ := Option.bind_eq_some_iff.mp creator
            refine ⟨write, next, stored, script, done, ?_, creator⟩
            cases answer : (DocumentStore.get write.document.id race.store).1 with
            | success document =>
                rw [answer] at found
                rw [Option.some.inj found]
            | notExists | unknownFailure => simp [answer, GetOutcome.document?] at found
        · simp at creator
    · simp at creator
  · rintro ⟨write, next, stored, script, done, found, creator⟩
    simp [script, done, found, GetOutcome.document?, creator]

end Race

/-! ### The stages of an upsert -/

namespace Script

variable {id : DocumentId} {client : String}

def IsDone {α : Type} (script : Script α) : Prop := ∃ result, script = .done result

/-- An upsert that has been let through: it may still ask what exists, and then writes the document of
    an id for a client. -/
def Writing (id : DocumentId) (client : String) : Script (UpsertResult × Commit) → Prop
  | .done _ => True
  | .findExisting _ next => ∀ answer, Writing id client (next answer)
  | .upsert write next => write.document.id = id ∧ write.document.createdBy = some client ∧
      ∀ outcome, (next outcome).IsDone
  | .get _ _ | .update _ _ | .delete _ _ _ | .query _ _ _ _ | .search _ _ _ _ => False

/-- An upsert that has yet to ask whose the document of an id is. It goes on only if there is none or
    it is the client's own. -/
def Asking (id : DocumentId) (client : String) : Script (UpsertResult × Commit) → Prop
  | .done _ => True
  | .get key next => key = id ∧ ∀ outcome, (next outcome).Writing id client ∧
      ((next outcome).IsDone ∨ outcome = .notExists ∨
        ∃ stored, outcome = .success stored ∧ stored.createdBy = some client)
  | .findExisting _ _ | .upsert _ _ | .update _ _ | .delete _ _ _ | .query _ _ _ _
  | .search _ _ _ _ => False

theorem andThen_assoc {α β γ : Type} (script : Script α) (more : α → Script β)
    (rest : β → Script γ) :
    (script.andThen more).andThen rest = script.andThen fun result => (more result).andThen rest := by
  induction script with
  | done result => rfl
  | get id next ih => exact congrArg (Script.get id) (funext ih)
  | findExisting ids next ih => exact congrArg (Script.findExisting ids) (funext ih)
  | upsert write next ih => exact congrArg (Script.upsert write) (funext ih)
  | update write next ih => exact congrArg (Script.update write) (funext ih)
  | delete id force next ih => exact congrArg (Script.delete id force) (funext ih)
  | query resource filters window next ih =>
      exact congrArg (Script.query resource filters window) (funext ih)
  | search resource filters window next ih =>
      exact congrArg (Script.search resource filters window) (funext ih)

theorem writing_andThen_validateReferences (policy : DescriptorPolicy) (cache : ExistenceCache)
    (document : Document)
    {rest : Except StoreError ValidationResult → Script (UpsertResult × Commit)}
    (writing : ∀ result, (rest result).Writing id client) :
    ((validateReferences policy cache document).andThen rest).Writing id client := by
  unfold validateReferences
  simp only
  split
  · exact writing _
  · intro answer
    cases answer with
    | error cause => exact writing _
    | ok found => exact writing _

theorem writing_upsertChecked (context : RequestContext) {document : Document}
    (named : document.id = id) (created : document.createdBy = some client) :
    (upsertChecked context document).Writing id client := by
  unfold upsertChecked checkReferences
  split
  · rw [andThen_assoc]
    apply writing_andThen_validateReferences
    intro result
    cases result with
    | error cause => trivial
    | ok result =>
        simp only [andThen]
        cases result.isValid with
        | false => trivial
        | true => exact ⟨named, created, fun outcome => ⟨_, rfl⟩⟩
  · exact ⟨named, created, fun outcome => ⟨_, rfl⟩⟩

end Script

theorem UpsertRequest.asking_script {request : UpsertRequest} {id : DocumentId} {client : String}
    (restricted : request.security = ⟨client, .ownershipBased⟩)
    (named : ∀ document, request.Makes document → document.id = id) (context : RequestContext) :
    (request.script context).Asking id client := by
  by_cases isObject : request.body.isObject = true
  · cases made : request.document with
    | error cause =>
        simp only [script, isObject, made]
        trivial
    | ok document =>
        cases agrees : request.id.filter (· ≠ document.id) with
        | some other =>
            simp only [script, isObject, made, agrees]
            trivial
        | none =>
            obtain rfl := named document ⟨isObject, made, agrees⟩
            have created : document.createdBy = some client := by
              rw [(Request.madeOf_of_document made).createdBy, restricted]
            simp only [script, isObject, made, agrees, Bool.not_true, Bool.false_eq_true, if_false,
              checkOwnership, restricted]
            refine ⟨rfl, fun outcome => ?_⟩
            have writing := Script.writing_upsertChecked context rfl created
            cases outcome with
            | notExists => exact ⟨writing, .inr (.inl rfl)⟩
            | unknownFailure detail => exact ⟨trivial, .inl ⟨_, rfl⟩⟩
            | success stored =>
                by_cases own : stored.createdBy = some client
                · have permitted : Security.permits ⟨client, .ownershipBased⟩ stored = true :=
                    decide_eq_true own
                  simp only [permitted, if_true]
                  exact ⟨writing, .inr (.inr ⟨stored, rfl, own⟩)⟩
                · have denied : Security.permits ⟨client, .ownershipBased⟩ stored = false :=
                    decide_eq_false own
                  simp only [denied]
                  exact ⟨trivial, .inl ⟨_, rfl⟩⟩
  · simp only [script, isObject, Bool.not_false, if_true]
    trivial

def Contents.MadeBy (contents : Contents) (client : String) (id : DocumentId) : Prop :=
  ∃ stored, contents.get? id = some stored ∧ stored.createdBy = some client

structure Effect (inserts : Prop) (client : String) (id : DocumentId) (before after : Contents) :
    Prop where
  inserted : inserts → before.get? id = none ∧ after.MadeBy client id
  owned : ¬ inserts → ∀ maker, before.OwnedBy maker id → after.OwnedBy maker id
  stays : ∀ maker, before.MadeBy maker id → after.MadeBy maker id
  present : before.get? id ≠ none → after.get? id ≠ none

namespace Effect

variable {contents : Contents} {client : String} {id : DocumentId}

theorem none {inserts : Prop} (quiet : ¬ inserts) : Effect inserts client id contents contents where
  inserted done := absurd done quiet
  owned _ _ owned := owned
  stays _ made := made
  present some := some

theorem put_absent {inserts : Prop} {new : Document} (created : new.createdBy = some client)
    (absent : contents.get? new.id = Option.none) (done : inserts) :
    Effect inserts client new.id contents (contents.put new) where
  inserted _ := ⟨absent, _, get?_put_self new, by simp [absent, Document.keepingCreator, created]⟩
  owned quiet := absurd done quiet
  stays maker made := by
    obtain ⟨stored, present, _⟩ := made
    simp [absent] at present
  present some := absurd absent some

theorem put_present {inserts : Prop} {new old : Document} (present : contents.get? new.id = some old)
    (quiet : ¬ inserts) : Effect inserts client new.id contents (contents.put new) where
  inserted done := absurd done quiet
  owned _ maker owned stored found := by
    rw [get?_put_self, present] at found
    rw [← Option.some.inj found]
    simp [Document.keepingCreator, owned old present]
  stays maker made := by
    obtain ⟨stored, found, created⟩ := made
    obtain rfl := Option.some.inj (found.symm.trans present)
    exact ⟨_, get?_put_self new, by simp [found, Document.keepingCreator, created]⟩
  present _ := by simp [get?_put_self]

end Effect

theorem Engine.exists_effect_upsert {engine : Engine} {contents : Contents}
    (held : engine.Holds contents) {write : DocumentWrite} {client : String}
    (created : write.document.createdBy = some client) :
    ∃ contents', (DocumentStore.upsert write engine).2.Holds contents' ∧
      Effect ((DocumentStore.upsert write engine).1 = .insertSuccess) client write.document.id
        contents contents' := by
  have step := write_step held write true
  rw [upsert_eq]
  generalize engine.write write true = result at step ⊢
  cases step with
  | refused cause =>
      refine ⟨contents, held, .none ?_⟩
      cases cause <;> simp [Applied.upsertOutcome]
  | inserted _ absent _ after => exact ⟨_, after, .put_absent created absent rfl⟩
  | updated present _ after => exact ⟨_, after, .put_present present (by simp [Applied.upsertOutcome])⟩

namespace Race

variable {index : SearchIndex} {race : Race} {contents : Contents} {id : DocumentId}
  {client : String} {side turn : Side}

theorem exists_effect (index : SearchIndex) (held : race.store.Holds contents)
    (ready : (race.script turn).Asking id client ∨ (race.script turn).Writing id client) :
    ∃ contents', (race.move index turn).store.Holds contents' ∧
      Effect (race.Inserts turn) client id contents contents' := by
  unfold Inserts answer? move
  cases script : race.script turn with
  | done result => exact ⟨contents, held, .none nofun⟩
  | get key next =>
      refine ⟨contents, ?_, .none nofun⟩
      simpa [Script.step, Engine.get_unchanged] using held
  | findExisting ids next =>
      refine ⟨contents, ?_, .none nofun⟩
      simpa [Script.step, Engine.findExisting_eq] using held
  | upsert write next =>
      rw [script] at ready
      obtain asking | ⟨rfl, created, _⟩ := ready
      · exact asking.elim
      · simpa [Script.step] using Engine.exists_effect_upsert held created
  | update | delete | query | search =>
      simp [script, Script.Asking, Script.Writing] at ready

/-! ### A schedule -/

/-- Whether the other of the two has inserted the document since the first operation of one. -/
def InsertedSince (index : SearchIndex) (start : Race) (side : Side) (schedule : List Side) : Prop :=
  ∃ before rest, schedule = before ++ side.other :: rest ∧ side ∈ before ∧
    (start.after index before).Inserts side.other

theorem insertedSince_concat {start : Race} {schedule : List Side} :
    start.InsertedSince index side (schedule ++ [turn]) ↔
      start.InsertedSince index side schedule ∨
        (turn = side.other ∧ side ∈ schedule ∧ (start.after index schedule).Inserts side.other) := by
  constructor
  · rintro ⟨before, rest, split, asked, inserts⟩
    rcases List.eq_nil_or_concat rest with rfl | ⟨rest, last, rfl⟩
    · obtain ⟨rfl, same⟩ := List.append_inj' split rfl
      exact .inr ⟨(List.cons.inj same).1, asked, inserts⟩
    · rw [List.concat_eq_append, ← List.cons_append, ← List.append_assoc] at split
      exact .inl ⟨before, rest, (List.append_inj' split rfl).1, asked, inserts⟩
  · rintro (⟨before, rest, rfl, asked, inserts⟩ | ⟨rfl, asked, inserts⟩)
    · exact ⟨before, rest ++ [turn], by simp, asked, inserts⟩
    · exact ⟨schedule, [], rfl, asked, inserts⟩

theorem mem_of_insertedSince {start : Race} {schedule : List Side}
    (since : start.InsertedSince index side schedule) : side ∈ schedule := by
  obtain ⟨before, rest, rfl, asked, _⟩ := since
  exact List.mem_append_left _ asked

/-- What an upsert that is not done can rely on after its first operation: the document is its
    client's own or there is none, unless the other client has inserted one. -/
def Relies (inserted : Prop) (clients : Side → String) (side : Side) (id : DocumentId)
    (contents : Contents) : Prop :=
  (¬ inserted ∧ contents.OwnedBy (clients side) id) ∨
    (inserted ∧ contents.MadeBy (clients side.other) id)

structure Sound (index : SearchIndex) (start : Race) (initial : Contents) (id : DocumentId)
    (clients : Side → String) (schedule : List Side) (contents : Contents) : Prop where
  held : (start.after index schedule).store.Holds contents
  asking : ∀ side ∉ schedule, ((start.after index schedule).script side).Asking id (clients side)
  writing : ∀ side ∈ schedule, ((start.after index schedule).script side).Writing id (clients side)
  relies : ∀ side ∈ schedule, ((start.after index schedule).script side).IsDone ∨
    Relies (start.InsertedSince index side schedule) clients side id contents
  present : initial.get? id ≠ none → contents.get? id ≠ none

theorem Relies.of_quiet {inserted inserts : Prop} {clients : Side → String} {contents' : Contents}
    (relies : Relies inserted clients side id contents) (quiet : ¬ inserts)
    (effect : Effect inserts client id contents contents') :
    Relies inserted clients side id contents' := by
  obtain ⟨never, owned⟩ | ⟨since, made⟩ := relies
  · exact .inl ⟨never, effect.owned quiet _ owned⟩
  · exact .inr ⟨since, effect.stays _ made⟩

theorem Relies.of_other {inserted inserts : Prop} {clients : Side → String} {contents' : Contents}
    (relies : Relies inserted clients side id contents)
    (effect : Effect inserts (clients side.other) id contents contents') :
    Relies (inserted ∨ inserts) clients side id contents' := by
  by_cases now : inserts
  · exact .inr ⟨.inr now, (effect.inserted now).2⟩
  · simpa [now] using relies.of_quiet now effect

theorem writing_step (index : SearchIndex) (store : Engine)
    {script : Script (UpsertResult × Commit)}
    (ready : script.Asking id client ∨ script.Writing id client) :
    (script.step index store).1.Writing id client := by
  cases script with
  | done result => trivial
  | get key next =>
      obtain ⟨_, asked⟩ | writing := ready
      · exact (asked _).1
      · exact writing.elim
  | findExisting ids next =>
      obtain asking | writing := ready
      · exact asking.elim
      · exact writing _
  | upsert write next =>
      obtain asking | ⟨_, _, ends⟩ := ready
      · exact asking.elim
      · obtain ⟨result, done⟩ := ends (DocumentStore.upsert write store).1
        simp only [Script.step, done]
        trivial
  | update | delete | query | search => simp [Script.Asking, Script.Writing] at ready

theorem owned_of_asking (index : SearchIndex) (held : race.store.Holds contents)
    (asking : (race.script turn).Asking id client) :
    ((race.script turn).step index race.store).1.IsDone ∨ contents.OwnedBy client id := by
  cases script : race.script turn with
  | done result => exact .inl ⟨result, rfl⟩
  | get key next =>
      rw [script] at asking
      obtain ⟨rfl, asked⟩ := asking
      rcases (asked (DocumentStore.get key race.store).1).2 with done | absent | ⟨read, found, own⟩
      · exact .inl done
      · right
        intro stored present
        have stores := (Engine.stores_iff held key).mpr (by simp [present])
        exact absurd absent stores
      · right
        obtain ⟨original, present, readable⟩ := Engine.reread_of_get held found
        intro stored present'
        obtain rfl := Option.some.inj (present.symm.trans present')
        rw [← (EngineKind.rereads readable).createdBy, own]
  | findExisting | upsert | update | delete | query | search =>
      simp [script, Script.Asking] at asking

theorem quiet_of_not_done
    (ready : (race.script turn).Asking id client ∨ (race.script turn).Writing id client)
    (ongoing : ¬ ((race.script turn).step index race.store).1.IsDone) :
    ¬ (race.script turn).IsDone ∧ ¬ race.Inserts turn := by
  unfold Inserts answer?
  cases script : race.script turn with
  | done result => exact absurd ⟨result, by simp [script, Script.step]⟩ ongoing
  | get key next => simp [Script.IsDone]
  | findExisting ids next => simp [Script.IsDone]
  | upsert write next =>
      rw [script] at ready ongoing
      obtain asking | ⟨_, _, ends⟩ := ready
      · exact asking.elim
      · exact absurd (ends _) ongoing
  | update | delete | query | search => simp [script, Script.Asking, Script.Writing] at ready

namespace Sound

variable {start : Race} {initial : Contents} {clients : Side → String} {schedule : List Side}

theorem ready (sound : Sound index start initial id clients schedule contents) (turn : Side) :
    ((start.after index schedule).script turn).Asking id (clients turn) ∨
      ((start.after index schedule).script turn).Writing id (clients turn) := by
  by_cases begun : turn ∈ schedule
  · exact .inr (sound.writing turn begun)
  · exact .inl (sound.asking turn begun)

theorem relies_self (sound : Sound index start initial id clients schedule contents) (turn : Side)
    {contents' : Contents}
    (effect : Effect ((start.after index schedule).Inserts turn) (clients turn) id contents
      contents') :
    ((start.after index (schedule ++ [turn])).script turn).IsDone ∨
      Relies (start.InsertedSince index turn (schedule ++ [turn])) clients turn id contents' := by
  rw [after_concat, script_move_self, insertedSince_concat]
  have own : turn ≠ turn.other := turn.other_ne.symm
  simp only [own, false_and, or_false]
  by_cases done : (((start.after index schedule).script turn).step index
      (start.after index schedule).store).1.IsDone
  · exact .inl done
  · right
    obtain ⟨ongoing, quiet⟩ := quiet_of_not_done (sound.ready turn) done
    by_cases begun : turn ∈ schedule
    · exact ((sound.relies turn begun).resolve_left ongoing).of_quiet quiet effect
    · have owned := (owned_of_asking index sound.held (sound.asking turn begun)).resolve_left done
      exact .inl ⟨fun since => begun (mem_of_insertedSince since), effect.owned quiet _ owned⟩

theorem move (sound : Sound index start initial id clients schedule contents) (turn : Side) :
    ∃ contents', Sound index start initial id clients (schedule ++ [turn]) contents' := by
  obtain ⟨contents', held, effect⟩ := exists_effect index sound.held (sound.ready turn)
  refine ⟨contents', ?_, ?_, ?_, ?_, fun stored => effect.present (sound.present stored)⟩
  · rwa [after_concat]
  · intro side fresh
    simp only [List.mem_append, List.mem_singleton, not_or] at fresh
    rw [after_concat, script_move_of_ne fresh.2]
    exact sound.asking side fresh.1
  · intro side begun
    rw [after_concat]
    by_cases here : side = turn
    · subst here
      rw [script_move_self]
      exact writing_step index _ (sound.ready side)
    · rw [script_move_of_ne here]
      exact sound.writing side (by simpa [here] using begun)
  · intro side begun
    by_cases here : side = turn
    · subst here
      exact sound.relies_self side effect
    · have began : side ∈ schedule := by simpa [here] using begun
      obtain rfl : turn = side.other := (side.eq_or_eq_other turn).resolve_left (Ne.symm here)
      rw [after_concat, script_move_of_ne here, insertedSince_concat]
      simp only [began, true_and]
      exact (sound.relies side began).imp_right fun relies => relies.of_other effect

theorem absent_of_inserts (sound : Sound index start initial id clients schedule contents)
    {turn : Side} (inserts : (start.after index schedule).Inserts turn) : contents.get? id = none := by
  obtain ⟨_, _, effect⟩ := exists_effect index sound.held (sound.ready turn)
  exact (effect.inserted inserts).1

theorem of_upsert (sound : Sound index start initial id clients schedule contents) {side : Side}
    {write : DocumentWrite} {next : UpsertOutcome → Script (UpsertResult × Commit)}
    (script : (start.after index schedule).script side = .upsert write next) :
    write.document.id = id ∧
      Relies (start.InsertedSince index side schedule) clients side id contents := by
  have begun : side ∈ schedule := by
    by_contra fresh
    have asking := sound.asking side fresh
    simp [script, Script.Asking] at asking
  have writing := sound.writing side begun
  have relies := sound.relies side begun
  rw [script] at writing relies
  exact ⟨writing.1, relies.resolve_left (by simp [Script.IsDone])⟩

/-- A write that is made in place of a document finds the document as it was stored. -/
theorem overwrites_iff_insertedSince
    (sound : Sound index start initial id clients schedule contents)
    (differ : clients .first ≠ clients .second) (side : Side) :
    (start.after index schedule).Overwrites side (clients side.other) ↔
      (start.after index schedule).Commits side ∧ start.InsertedSince index side schedule := by
  have apart : clients side ≠ clients side.other := by
    cases side with
    | first => exact differ
    | second => exact differ.symm
  rw [overwrites_iff_exists]
  constructor
  · rintro ⟨write, next, read, script, done, found, creator⟩
    obtain ⟨rfl, ⟨_, owned⟩ | ⟨since, _⟩⟩ := sound.of_upsert script
    · obtain ⟨stored, present, readable⟩ := Engine.reread_of_get sound.held found
      have own := owned stored present
      rw [← (EngineKind.rereads readable).createdBy, creator] at own
      exact absurd (Option.some.inj own).symm apart
    · exact ⟨.inr (by simp [answer?, script, done]), since⟩
  · rintro ⟨inserts | replaces, since⟩
    · -- The document that has been inserted is still there.
      have absent := sound.absent_of_inserts inserts
      obtain ⟨write, next, script, _⟩ := exists_upsert_of_answer? inserts
      obtain ⟨_, ⟨never, _⟩ | ⟨_, stored, present, _⟩⟩ := sound.of_upsert script
      · exact absurd since never
      · simp [absent] at present
    · obtain ⟨write, next, script, done⟩ := exists_upsert_of_answer? replaces
      obtain ⟨rfl, ⟨never, _⟩ | ⟨_, stored, present, creator⟩⟩ := sound.of_upsert script
      · exact absurd since never
      · cases readable : (start.after index schedule).store.kind.reread stored with
        | error cause =>
            rw [Engine.upsert_eq, Engine.write_of_unreadable sound.held present readable] at done
            simp [Applied.upsertOutcome] at done
        | ok read =>
            refine ⟨write, next, read, script, done, ?_, ?_⟩
            · rw [Engine.get_eq sound.held, present, Option.map_some, readable]
              rfl
            · rw [(EngineKind.rereads readable).createdBy, creator]

end Sound

section Start

variable {requests : Side → UpsertRequest} {clients : Side → String} {resource : Resource}
  {identity : Identity}

theorem sound_after {kind : EngineKind} {calls : List Call} (index : SearchIndex)
    (contexts : Side → RequestContext)
    (restricted : ∀ side, (requests side).security = ⟨clients side, .ownershipBased⟩)
    (named : ∀ side document, (requests side).Makes document → document.id = id)
    (schedule : List Side) :
    ∃ contents, Sound index (start requests contexts (kind.reached calls)) (kind.written calls) id
      clients schedule contents := by
  induction schedule using List.reverseRecOn with
  | nil =>
      refine ⟨kind.written calls, kind.reached_holds calls, ?_, by simp, by simp, fun stored => stored⟩
      exact fun side _ =>
        UpsertRequest.asking_script (restricted side) (named side) (contexts side)
  | append_singleton schedule turn ih =>
      obtain ⟨contents, sound⟩ := ih
      exact sound.move turn

theorem exists_id_of_same
    (same : ∀ side, (requests side).resource = resource ∧ (requests side).identity = identity) :
    ∃ id, (∀ side document, (requests side).Makes document → document.id = id) ∧
      ∀ other, Derivation.checkedId resource identity = .ok other → other = id := by
  have made : ∀ side document, (requests side).Makes document →
      Derivation.checkedId resource identity = .ok document.id := by
    intro side document makes
    rw [← (same side).1, ← (same side).2]
    exact (Request.madeOf_of_document makes.made).id
  cases checked : Derivation.checkedId resource identity with
  | error cause =>
      refine ⟨default, fun side document makes => ?_, nofun⟩
      simpa [checked] using made side document makes
  | ok id =>
      refine ⟨id, fun side document makes => ?_, fun other same => (Except.ok.inj same).symm⟩
      have own := made side document makes
      rw [checked] at own
      exact (Except.ok.inj own).symm

end Start

/-- Of two clients that write one document at the same time, one overwrites what the other has made
    exactly if its write is done and the other has inserted the document after the first has asked
    whose it is. Where the document is stored before both, neither does. -/
theorem overwrites_iff (kind : EngineKind) (calls : List Call) (index : SearchIndex)
    (requests : Side → UpsertRequest) (contexts : Side → RequestContext) (clients : Side → String)
    {resource : Resource} {identity : Identity}
    (same : ∀ side, (requests side).resource = resource ∧ (requests side).identity = identity)
    (restricted : ∀ side, (requests side).security = ⟨clients side, .ownershipBased⟩)
    (differ : clients .first ≠ clients .second) (schedule : List Side) (side : Side) :
    let start := start requests contexts (kind.reached calls)
    ((start.after index schedule).Overwrites side (clients side.other) ↔
      (start.after index schedule).Commits side ∧
        ∃ before rest, schedule = before ++ side.other :: rest ∧ side ∈ before ∧
          (start.after index before).Inserts side.other) ∧
    ∀ id, Derivation.checkedId resource identity = .ok id → (kind.reached calls).Stores id →
      ¬ (start.after index schedule).Overwrites side (clients side.other) := by
  intro start
  obtain ⟨id, named, only⟩ := exists_id_of_same same
  have sound : ∀ schedule, ∃ contents, Sound index start (kind.written calls) id clients schedule
      contents := sound_after index contexts restricted named
  have iff : (start.after index schedule).Overwrites side (clients side.other) ↔
      (start.after index schedule).Commits side ∧ start.InsertedSince index side schedule := by
    obtain ⟨contents, sound⟩ := sound schedule
    exact sound.overwrites_iff_insertedSince differ side
  refine ⟨iff, fun other checked stores overwrites => ?_⟩
  obtain rfl := only other checked
  obtain ⟨_, before, rest, _, _, inserts⟩ := iff.mp overwrites
  -- What is stored at the beginning is there when the other client inserts it.
  obtain ⟨contents, sound⟩ := sound before
  have stored := (Engine.stores_iff (kind.reached_holds calls) other).mp stores
  exact sound.present (Option.isSome_iff_ne_none.mp stored) (sound.absent_of_inserts inserts)

def schoolClients : Side → String
  | .first => "a"
  | .second => "b"

def schools (side : Side) : UpsertRequest := History.schoolOf (schoolClients side) "1"

def settings : Side → RequestContext :=
  fun _ => (Service.start {} Engine.emptyMemory SearchIndex.empty).context

def lateWrite : List Side := [.second, .first, .first]

theorem overwrites_iff_lateWrite :
    (∀ side, (schools side).resource = (schools .first).resource ∧
      (schools side).identity = (schools .first).identity) ∧
    (∀ side, (schools side).security = ⟨schoolClients side, .ownershipBased⟩) ∧
    schoolClients .first ≠ schoolClients .second ∧
    ∀ schedule,
      ((start schools settings (EngineKind.memory.reached [])).after .empty schedule).Overwrites
          .second (schoolClients .first) ↔
        ((start schools settings (EngineKind.memory.reached [])).after .empty schedule).Commits
            .second ∧
          ∃ before rest, schedule = before ++ .first :: rest ∧ .second ∈ before ∧
            ((start schools settings (EngineKind.memory.reached [])).after .empty before).Inserts
              .first := by
  have same : ∀ side, (schools side).resource = (schools .first).resource ∧
      (schools side).identity = (schools .first).identity := fun _ => ⟨rfl, rfl⟩
  have restricted : ∀ side, (schools side).security = ⟨schoolClients side, .ownershipBased⟩ :=
    fun _ => rfl
  have differ : schoolClients .first ≠ schoolClients .second := by decide
  exact ⟨same, restricted, differ, fun schedule =>
    (overwrites_iff .memory [] .empty schools settings schoolClients same restricted differ schedule
      .second).1⟩

/-- The second client writes after the first, and overwrites its school. -/
theorem overwrites_after_lateWrite :
    (∀ side, (schools side).security = ⟨schoolClients side, .ownershipBased⟩) ∧
    schoolClients .first ≠ schoolClients .second ∧
    ((start schools settings (EngineKind.memory.reached [])).after .empty lateWrite).Overwrites
      .second (schoolClients .first) := by
  exact ⟨fun _ => rfl, by decide, by decide +kernel⟩

end Race

end Docket
