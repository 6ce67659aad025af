import Docket.Projection.Sink
import Docket.Store.Rehearsed
/-!
A sink that can be made to fail, for rehearsing how the projection takes it.
-/

namespace Docket

inductive SinkFault where
  | unavailable
  | refused
  /-- The sink breaks down, with a report or without. -/
  | crash (reported : Bool)
  deriving DecidableEq

def SinkFault.error (id : DocumentId) : SinkFault → ProjectionError
  | .unavailable => .index .unavailable
  | .refused => .index (.rejected id "refused by test sink")
  | .crash true => .crashed (some "sink exploded")
  | .crash false => .crashed none

/-- A fault by its name; other names stand for none. -/
def SinkFault.named? (name : String) : Option SinkFault :=
  match name with
  | "unavailable" => some .unavailable
  | "reject" => some .refused
  | "panic_str" => some (.crash true)
  | "panic_string" => some (.crash false)
  | _ => none

structure RehearsedSink where
  index : SearchIndex
  fault : Option (SetAnswer SinkFault) := none
  only : Option (List DocumentId) := none
  clearFails : Bool := false

namespace RehearsedSink

/-- The fault that a delivery of an id meets, and the sink after it. -/
def meet? (sink : RehearsedSink) (id : DocumentId) : Option (ProjectionError × RehearsedSink) :=
  match sink.fault with
  | some set =>
      -- A delivery that the fault does not concern uses up none of its calls.
      if sink.only.all fun ids => ids.contains id then
        some (set.answer.error id, { sink with fault := set.next })
      else none
  | none => none

/-- A delivery of an id: a fault, or what the index makes of it. -/
def pass (sink : RehearsedSink) (id : DocumentId)
    (change : SearchIndex → Except IndexError SearchIndex) :
    Except ProjectionError Unit × RehearsedSink :=
  match sink.meet? id with
  | some (cause, sink) => (.error cause, sink)
  | none =>
      let (done, index) := sink.index.afterChange (change sink.index)
      (done.mapError .index, { sink with index := index })

instance : ProjectionSink RehearsedSink where
  index sink := sink.index
  withIndex index sink := { sink with index := index }
  upsert document sink := sink.pass document.id (·.upsert document)
  remove key sink := sink.pass key (·.remove key)
  clear sink :=
    if sink.clearFails then (.error .unavailable, sink)
    else
      let (done, index) := sink.index.afterChange sink.index.clear
      (done, { sink with index := index })

end RehearsedSink

end Docket
