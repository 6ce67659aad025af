import Docket.Config.Basic
import Docket.Wire.Basic
/-!
Decoding a configuration. Every section and every setting may be left out.
-/

namespace Docket

open Wire

def DescriptorPolicy.choices : List (String × DescriptorPolicy) :=
  [("strict", .strict), ("bootstrap", .bootstrap)]

def QuerySource.choices : List (String × QuerySource) :=
  [("primary", .primary), ("search_index", .searchIndex)]

variable {τ : Type} [Format τ]

def RelationalSettings.fieldNames : List String := ["path", "pool_size", "busy_timeout_ms"]

def RelationalSettings.decode? (value : τ) : Option RelationalSettings := do
  let standard : RelationalSettings := {}
  let field ← fields? fieldNames value
  return {
    path := ← (field "path").withDefault standard.path text?
    poolSize := ← (field "pool_size").withDefault standard.poolSize uint32?
    busyTimeoutMs := ← (field "busy_timeout_ms").withDefault standard.busyTimeoutMs uint64? }

def KeyValueSettings.decode? (value : τ) : Option KeyValueSettings := do
  let field ← fields? ["path"] value
  return { path := ← (field "path").withDefault none (nullable text?) }

def CacheSettings.decode? (value : τ) : Option CacheSettings := do
  let standard : CacheSettings := {}
  let field ← fields? ["enabled", "max_entries"] value
  return {
    enabled := ← (field "enabled").withDefault standard.enabled bool?
    maxEntries := ← (field "max_entries").withDefault standard.maxEntries uint64? }

def ValidationSettings.decode? (value : τ) : Option ValidationSettings := do
  let standard : ValidationSettings := {}
  let field ← fields? ["validate_references", "descriptor_policy"] value
  return {
    validateReferences :=
      ← (field "validate_references").withDefault standard.validateReferences bool?
    descriptorPolicy :=
      ← (field "descriptor_policy").withDefault standard.descriptorPolicy
        (choice? DescriptorPolicy.choices) }

def ProjectionSettings.fieldNames : List String :=
  ["workers", "queue_capacity", "max_attempts", "retry_backoff_ms"]

def ProjectionSettings.decode? (value : τ) : Option ProjectionSettings := do
  let standard : ProjectionSettings := {}
  let field ← fields? fieldNames value
  return {
    workers := ← (field "workers").withDefault standard.workers uint64?
    queueCapacity := ← (field "queue_capacity").withDefault standard.queueCapacity uint64?
    maxAttempts := ← (field "max_attempts").withDefault standard.maxAttempts uint32?
    retryBackoffMs := ← (field "retry_backoff_ms").withDefault standard.retryBackoffMs uint64? }

def QuerySettings.decode? (value : τ) : Option QuerySettings := do
  let field ← fields? ["source"] value
  return {
    source := ← (field "source").withDefault QuerySource.primary (choice? QuerySource.choices) }

def LoggingSettings.decode? (value : τ) : Option LoggingSettings := do
  let standard : LoggingSettings := {}
  let field ← fields? ["level"] value
  return { level := ← (field "level").withDefault standard.level text? }

namespace Config

def sectionNames : List String :=
  ["backend", "sqlite", "redb", "cache", "validation", "projection", "query", "logging"]

def decode? (value : τ) : Option Config := do
  let standard : Config := {}
  let field ← fields? sectionNames value
  return {
    backend := ← (field "backend").withDefault standard.backend text?
    relational := ← (field "sqlite").withDefault standard.relational RelationalSettings.decode?
    keyValue := ← (field "redb").withDefault standard.keyValue KeyValueSettings.decode?
    cache := ← (field "cache").withDefault standard.cache CacheSettings.decode?
    validation := ← (field "validation").withDefault standard.validation ValidationSettings.decode?
    projection := ← (field "projection").withDefault standard.projection ProjectionSettings.decode?
    query := ← (field "query").withDefault standard.query QuerySettings.decode?
    logging := ← (field "logging").withDefault standard.logging LoggingSettings.decode? }

/-- The sections of a configuration with their settings, in the order in which they are written. -/
def encode (config : Config) : Json :=
  .object [
    ("backend", .string config.backend),
    ("sqlite", .object [
      ("path", .string config.relational.path),
      ("pool_size", .ofUInt64 config.relational.poolSize.toUInt64),
      ("busy_timeout_ms", .ofUInt64 config.relational.busyTimeoutMs)]),
    ("redb", .object (match config.keyValue.path with
      | some path => [("path", .string path)]
      | none => [])),
    ("cache", .object [
      ("enabled", .bool config.cache.enabled),
      ("max_entries", .ofUInt64 config.cache.maxEntries)]),
    ("validation", .object [
      ("validate_references", .bool config.validation.validateReferences),
      ("descriptor_policy",
        .string (nameOf DescriptorPolicy.choices config.validation.descriptorPolicy))]),
    ("projection", .object [
      ("workers", .ofUInt64 config.projection.workers),
      ("queue_capacity", .ofUInt64 config.projection.queueCapacity),
      ("max_attempts", .ofUInt64 config.projection.maxAttempts.toUInt64),
      ("retry_backoff_ms", .ofUInt64 config.projection.retryBackoffMs)]),
    ("query", .object [("source", .string (nameOf QuerySource.choices config.query.source))]),
    ("logging", .object [("level", .string config.logging.level)])]

end Config

end Docket
