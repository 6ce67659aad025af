import Docket.SearchIndex
import Docket.Store.Basic
/-!
Where the projection writes to, and what can go wrong with one attempt.
-/

namespace Docket

inductive ProjectionError where
  | index (cause : IndexError)
  | unreadable (detail : String)
  /-- The sink broke down, with a report or without. -/
  | crashed (report : Option String)
  deriving DecidableEq

def ProjectionError.message : ProjectionError → String
  | .index cause => cause.message
  | .unreadable detail => "primary read failed: " ++ detail
  | .crashed report => "projection panicked: " ++ report.getD "(non-string panic)"

/-- What takes the documents that the projection delivers. Each operation answers whether it was
    done, and the sink afterwards. -/
class ProjectionSink (κ : Type) where
  index : κ → SearchIndex
  withIndex : SearchIndex → κ → κ
  upsert : Document → κ → Except ProjectionError Unit × κ
  remove : DocumentId → κ → Except ProjectionError Unit × κ
  clear : κ → Except IndexError Unit × κ

namespace SearchIndex

/-- The index after a change; a change that failed left it as it was. -/
def afterChange (index : SearchIndex) (change : Except IndexError SearchIndex) :
    Except IndexError Unit × SearchIndex :=
  match change with
  | .ok index => (.ok (), index)
  | .error cause => (.error cause, index)

instance : ProjectionSink SearchIndex where
  index := id
  withIndex index _ := index
  upsert document index := (index.afterChange (index.upsert document)).map (·.mapError .index) id
  remove key index := (index.afterChange (index.remove key)).map (·.mapError .index) id
  clear index := index.afterChange index.clear

end SearchIndex

variable {κ : Type} [ProjectionSink κ]

/-- Delivers what was read from the store under an id: a document is put into the sink, and an id
    without one taken out. Answers whether there was a document. -/
def deliver (id : DocumentId) (reading : GetOutcome) (sink : κ) : Except ProjectionError Bool × κ :=
  match reading with
  | .success document =>
      let (done, sink) := ProjectionSink.upsert document sink
      (done.map fun _ => true, sink)
  | .notExists =>
      let (done, sink) := ProjectionSink.remove id sink
      (done.map fun _ => false, sink)
  | .unknownFailure detail => (.error (.unreadable detail), sink)

end Docket
