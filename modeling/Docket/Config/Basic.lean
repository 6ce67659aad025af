import Docket.Text.Blank
/-!
The settings of a service, with a default for each, and the rules that they keep.
-/

namespace Docket

/-- Which references of a write must exist when descriptors are involved: under `strict` those to
    descriptors too, under `bootstrap` not, so that descriptors can be loaded in any order. -/
inductive DescriptorPolicy where
  | strict
  | bootstrap
  deriving DecidableEq, Inhabited, Repr

inductive QuerySource where
  | primary
  | searchIndex
  deriving DecidableEq, Inhabited, Repr

structure RelationalSettings where
  path : String := "edstore.sqlite3"
  poolSize : UInt32 := 8
  busyTimeoutMs : UInt64 := 5000
  deriving DecidableEq, Inhabited, Repr

structure KeyValueSettings where
  /-- The file of the database, which is kept in memory without one. -/
  path : Option String := none
  deriving DecidableEq, Inhabited, Repr

structure CacheSettings where
  enabled : Bool := true
  maxEntries : UInt64 := 100000
  deriving DecidableEq, Inhabited, Repr

structure ValidationSettings where
  validateReferences : Bool := true
  descriptorPolicy : DescriptorPolicy := .strict
  deriving DecidableEq, Inhabited, Repr

structure ProjectionSettings where
  workers : UInt64 := 2
  queueCapacity : UInt64 := 10000
  maxAttempts : UInt32 := 5
  retryBackoffMs : UInt64 := 50
  deriving DecidableEq, Inhabited, Repr

structure QuerySettings where
  source : QuerySource := .primary
  deriving DecidableEq, Inhabited, Repr

structure LoggingSettings where
  level : String := "info"
  deriving DecidableEq, Inhabited, Repr

structure Config where
  backend : String := "memory"
  relational : RelationalSettings := {}
  keyValue : KeyValueSettings := {}
  cache : CacheSettings := {}
  validation : ValidationSettings := {}
  projection : ProjectionSettings := {}
  query : QuerySettings := {}
  logging : LoggingSettings := {}
  deriving DecidableEq, Inhabited, Repr

inductive ConfigError where
  | emptyBackend
  /-- A setting that must be positive is zero. -/
  | zeroSetting (name : String)
  | emptyCache
  /-- The text of the file does not give a configuration. -/
  | unreadable
  /-- The configuration holds a number that its file cannot. -/
  | unwritable
  deriving DecidableEq, Repr

def ConfigError.detail : ConfigError → String
  | .emptyBackend => "backend must not be empty"
  | .zeroSetting name => name ++ " must be greater than 0"
  | .emptyCache => "cache.max_entries must be greater than 0 when the cache is enabled"
  | .unreadable => "failed to parse config file"
  | .unwritable => "failed to write config file"

namespace Config

def fileName : String := "edstore.toml"

def forBackend (backend : String) : Config := { backend := backend }

/-- The rules, in the order in which they are checked; the first broken one gives the error. -/
def validate (config : Config) : Except ConfigError Unit :=
  if Text.isBlank config.backend then .error .emptyBackend
  else if config.relational.poolSize = 0 then .error (.zeroSetting "sqlite.pool_size")
  else if config.projection.workers = 0 then .error (.zeroSetting "projection.workers")
  else if config.projection.queueCapacity = 0 then
    .error (.zeroSetting "projection.queue_capacity")
  else if config.projection.maxAttempts = 0 then .error (.zeroSetting "projection.max_attempts")
  else if config.cache.enabled && config.cache.maxEntries = 0 then .error .emptyCache
  else .ok ()

end Config

end Docket
