import Docket.Text.Quoted
/-!
What can be wrong with the parts of a document: its identity, its id, its references, a filter.
-/

namespace Docket

inductive IdentityError where
  | emptyName
  | conflictingValues (name : String)
  | notAnObject
  | notAScalar (name : String)
  /-- The identity of a document of this resource has no fields. -/
  | noFields (resourceName : String)
  deriving DecidableEq, Repr

def IdentityError.message : IdentityError → String
  | .emptyName => "empty field name"
  | .conflictingValues name => "field '" ++ name ++ "' given conflicting values"
  | .notAnObject => "identity must be a JSON object"
  | .notAScalar name => "identity field '" ++ name ++ "' is not a scalar"
  | .noFields resourceName => resourceName ++ " identity has no fields"

inductive Error where
  | invalidIdentity (cause : IdentityError)
  | invalidDocumentId (text : String)
  /-- A part of the coordinates of a resource is blank. -/
  | invalidReference (blankPart : String)
  /-- A path that is not made of names joined by points. -/
  | invalidFilter (path : String)
  | serialization (detail : String)
  deriving DecidableEq, Repr

def Error.message : Error → String
  | .invalidIdentity cause => "Invalid identity: " ++ cause.message
  | .invalidDocumentId text => "Invalid document id: " ++ Text.quoted text
  | .invalidReference blankPart => "Invalid reference: " ++ blankPart ++ " is empty"
  | .invalidFilter path => "Invalid filter: '" ++ path ++ "' is not a valid field path"
  | .serialization detail => "Serialization error: " ++ detail

end Docket
