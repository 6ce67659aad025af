import Docket.Service.Error
import Docket.Store.Engine
/-!
The engines by the names under which a configuration chooses them.
-/

namespace Docket

abbrev EngineMaker := Config → Engine

structure Backends where
  makers : Table String EngineMaker

namespace Backends

def empty : Backends := ⟨Table.empty⟩

def register (backends : Backends) (name : String) (maker : EngineMaker) : Backends :=
  ⟨backends.makers.insert name maker⟩

def makeMemory : EngineMaker := fun _ => Engine.emptyMemory

def builtin : Backends :=
  ((empty.register "memory" makeMemory).register "sqlite" fun _ => Engine.emptyRelational).register
    "redb" fun _ => Engine.emptyKeyValue

def get? (backends : Backends) (name : String) : Option EngineMaker := backends.makers.get? name

def contains (backends : Backends) (name : String) : Bool := backends.makers.contains name

def size (backends : Backends) : Nat := backends.makers.size

def isEmpty (backends : Backends) : Bool := backends.makers.isEmpty

def names (backends : Backends) : List String := backends.makers.keys

def build (backends : Backends) (config : Config) : Except ServiceError Engine :=
  match backends.get? config.backend with
  | some maker => .ok (maker config)
  | none => .error (.unknownBackend config.backend)

def display (backends : Backends) : String :=
  "BackendRegistry \x7b backends: ["
    ++ String.intercalate ", " (backends.names.map Text.quoted) ++ "] \x7d"

end Backends

end Docket
