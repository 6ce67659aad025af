import Docket.Config.Basic
import Docket.SearchIndex
import Docket.Store.Basic
import Docket.Text.Quoted
/-!
What can go wrong when a service is opened or maintained. Requests never fail with these.
-/

namespace Docket

inductive FileError where
  | notFound
  /-- The octets of the file are no text. -/
  | notText
  deriving DecidableEq, Repr

def FileError.message : FileError → String
  | .notFound => "No such file or directory (os error 2)"
  | .notText => "stream did not contain valid UTF-8"

inductive ServiceError where
  | config (cause : ConfigError)
  | unknownBackend (name : String)
  | store (cause : StoreError)
  | index (cause : IndexError)
  | file (cause : FileError)
  deriving DecidableEq

def ServiceError.message : ServiceError → String
  | .config cause => "Invalid configuration: " ++ cause.detail
  | .unknownBackend name => "Unknown backend: " ++ Text.quoted name
  | .store cause => cause.message
  | .index cause => cause.message
  | .file cause => "I/O error: " ++ cause.message

end Docket
