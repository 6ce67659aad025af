import Docket.Service.Error
import Docket.Toml.Quoted
import Docket.Toml.Reader
import Docket.Wire.Config
/-!
The file of a configuration.

A file lists the backend and then the sections of settings. A setting that is left out has its
standard value.
-/

namespace Docket.Config

/-- The file that is written where there is none, which gives the standard settings. -/
def standardText : String := String.intercalate "\n" [
  "# edstore configuration",
  "#",
  "# Storage backend: \"memory\" (default), \"sqlite\" or \"redb\"",
  "backend = \"memory\"",
  "",
  "[sqlite]",
  "path = \"edstore.sqlite3\"",
  "pool_size = 8",
  "busy_timeout_ms = 5000",
  "",
  "# Omit path to keep the redb database in memory",
  "[redb]",
  "# path = \"edstore.redb\"",
  "",
  "# Remembers ids this process inserted so reference checks can skip the store",
  "[cache]",
  "enabled = true",
  "max_entries = 100000",
  "",
  "# descriptor_policy: \"strict\" (default) checks references to descriptors,",
  "# \"bootstrap\" defers them so descriptors can be loaded in any order",
  "[validation]",
  "validate_references = true",
  "descriptor_policy = \"strict\"",
  "",
  "# Failed projections retry after retry_backoff_ms * attempt",
  "[projection]",
  "workers = 2",
  "queue_capacity = 10000",
  "max_attempts = 5",
  "retry_backoff_ms = 50",
  "",
  "# source: \"primary\" (default) or \"search_index\"",
  "[query]",
  "source = \"primary\"",
  "",
  "# Overridden by RUST_LOG when set",
  "[logging]",
  "level = \"info\"",
  ""]

inductive Setting where
  | text (value : String)
  | flag (value : Bool)
  | number (value : Nat)

def Setting.write : Setting → Except ConfigError String
  | .text value => .ok (Toml.Quoted.write value)
  | .flag true => .ok "true"
  | .flag false => .ok "false"
  | .number value => if value < 2 ^ 63 then .ok (toString value) else .error .unwritable

def writeSettings : List (String × Setting) → Except ConfigError String
  | [] => .ok ""
  | (name, setting) :: rest =>
      match setting.write, writeSettings rest with
      | .ok text, .ok lines => .ok (name ++ " = " ++ text ++ "\n" ++ lines)
      | .error cause, _ => .error cause
      | _, .error cause => .error cause

/-- The sections, each after an empty line and under its name. -/
def writeSections : List (String × List (String × Setting)) → Except ConfigError String
  | [] => .ok ""
  | (name, settings) :: rest =>
      match writeSettings settings, writeSections rest with
      | .ok lines, .ok sections => .ok ("\n[" ++ name ++ "]\n" ++ lines ++ sections)
      | .error cause, _ => .error cause
      | _, .error cause => .error cause

def sections (config : Config) : List (String × List (String × Setting)) := [
  ("sqlite", [
    ("path", .text config.relational.path),
    ("pool_size", .number config.relational.poolSize.toNat),
    ("busy_timeout_ms", .number config.relational.busyTimeoutMs.toNat)]),
  ("redb", config.keyValue.path.toList.map fun path => ("path", .text path)),
  ("cache", [
    ("enabled", .flag config.cache.enabled),
    ("max_entries", .number config.cache.maxEntries.toNat)]),
  ("validation", [
    ("validate_references", .flag config.validation.validateReferences),
    ("descriptor_policy",
      .text (Wire.nameOf DescriptorPolicy.choices config.validation.descriptorPolicy))]),
  ("projection", [
    ("workers", .number config.projection.workers.toNat),
    ("queue_capacity", .number config.projection.queueCapacity.toNat),
    ("max_attempts", .number config.projection.maxAttempts.toNat),
    ("retry_backoff_ms", .number config.projection.retryBackoffMs.toNat)]),
  ("query", [("source", .text (Wire.nameOf QuerySource.choices config.query.source))]),
  ("logging", [("level", .text config.logging.level)])]

def fileText (config : Config) : Except ConfigError String :=
  match writeSettings [("backend", .text config.backend)], writeSections config.sections with
  | .ok backend, .ok sections => .ok (backend ++ sections)
  | .error cause, _ => .error cause
  | _, .error cause => .error cause

def parse (text : String) : Except ConfigError Config :=
  -- The rules are checked only of a configuration that can be read.
  match (Toml.read? text).bind decode? with
  | none => .error .unreadable
  | some config =>
      match config.validate with
      | .ok () => .ok config
      | .error cause => .error cause

def orStandard (file : Option ByteArray) : ByteArray := file.getD standardText.toUTF8

def ofFile : Option ByteArray → Except ServiceError Config
  | none => .error (.file .notFound)
  | some octets =>
      match String.fromUTF8? octets with
      | none => .error (.file .notText)
      | some text =>
          match parse text with
          | .ok config => .ok config
          | .error cause => .error (.config cause)

end Docket.Config
