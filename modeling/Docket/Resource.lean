import Docket.Error
import Docket.Text.Blank
/-!
Resources: the kinds of document, named by a project, a name and a version.
-/

namespace Docket

structure Resource where
  projectName : String
  resourceName : String
  resourceVersion : String
  /-- Whether the documents of the resource are descriptors: entries of a controlled vocabulary. -/
  isDescriptor : Bool
  deriving DecidableEq, Inhabited, Repr

namespace Resource

def parts (resource : Resource) : List (String × String) :=
  [("projectName", resource.projectName), ("resourceName", resource.resourceName),
   ("resourceVersion", resource.resourceVersion)]

/-- No part of the coordinates may be blank; the first that is gives the error. -/
def validate (resource : Resource) : Except Error Unit :=
  match resource.parts.find? fun part => Text.isBlank part.2 with
  | some (name, _) => .error (.invalidReference name)
  | none => .ok ()

def sameCoordinates (resource other : Resource) : Bool :=
  resource.projectName = other.projectName && resource.resourceName = other.resourceName
    && resource.resourceVersion = other.resourceVersion

end Resource

end Docket
