import Docket.Projection.RehearsedSink
import Docket.Service.Backends
import Docket.Service.Basic
import Docket.Store.Rehearsed
/-!
A service under rehearsal: its store and its sink can be made to fail, and its one worker can be
held.

After each step the projection is settled: with the gate open every task is carried out; with the
gate closed the worker goes on until it stands before the gate with a document read and not yet
delivered.
-/

namespace Docket

structure Rehearsal where
  service : Service (RehearsedStore Engine) RehearsedSink
  gateClosed : Bool := false
  /-- The task that stands before the gate, and what was read for it. -/
  held : Option (Task × GetOutcome) := none

namespace Rehearsal

def assemble (backends : Backends) (config : Config) : Except ServiceError Rehearsal :=
  match backends.build config with
  | .error cause => .error cause
  | .ok engine =>
      match Service.open? config { store := engine } { index := SearchIndex.empty } with
      | .error cause => .error cause
      | .ok service => .ok { service := service }

/-- Opens a service by its configuration, which is checked before the engine is looked up. -/
def openNamed (backends : Backends) (config : Config) : Except ServiceError Rehearsal :=
  match config.validate with
  | .error cause => .error (.config cause)
  | .ok () => assemble backends config

/-- Lets the worker go on until nothing waits or a task stands before the gate. A document that
    cannot be read needs no sink and does not get there. -/
def advance (rehearsal : Rehearsal) : Nat → Rehearsal
  | 0 => rehearsal
  | fuel + 1 =>
      if rehearsal.held.isSome || rehearsal.service.projector.workersLeft = 0 then rehearsal
      else
        match rehearsal.service.projector.queue with
        | [] => rehearsal
        | task :: _ =>
            -- The document is read before the gate, so what is delivered later may be an old
            -- version.
            let (reading, service) := rehearsal.service.begin task
            match reading with
            | .unknownFailure _ =>
                { rehearsal with service := service.finish task reading }.advance fuel
            | reading => { rehearsal with service := service, held := some (task, reading) }

/-- Delivers the task that stands before the gate, and carries out all others. -/
def release (rehearsal : Rehearsal) : Rehearsal :=
  let service := match rehearsal.held with
    | some (task, reading) => rehearsal.service.finish task reading
    | none => rehearsal.service
  { rehearsal with service := service.drain, held := none }

def settle (rehearsal : Rehearsal) : Rehearsal :=
  if rehearsal.gateClosed then
    rehearsal.advance (rehearsal.service.projector.attemptsLeft + 1)
  else rehearsal.release

def setGate (rehearsal : Rehearsal) (closed : Bool) : Rehearsal :=
  { rehearsal with gateClosed := closed }.settle

/-- Opens the gate and shuts the service down. What was held is tried again at once, as all that
    waits is. -/
def shutdown (rehearsal : Rehearsal) : Rehearsal :=
  let service := { rehearsal.service with projector := rehearsal.service.projector.stop }
  let opened := { rehearsal with service := service }.setGate false
  { opened with service := opened.service.shutdown }

def step {α : Type} (rehearsal : Rehearsal)
    (act : Service (RehearsedStore Engine) RehearsedSink →
      α × Service (RehearsedStore Engine) RehearsedSink) : α × Rehearsal :=
  let (answer, service) := act rehearsal.service
  (answer, { rehearsal with service := service }.settle)

end Rehearsal

end Docket
