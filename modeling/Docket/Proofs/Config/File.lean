import Docket.Config.File
import Docket.Proofs.Toml.Lines
/-!
A configuration is read back from the file that it is written to.

The reader comes over the settings of a section, and over the sections, line by line, and gathers
what each shows (`leads_writeSettings`, `leads_writeSections`). Decoding looks settings up by their
names, so it finds each in its own section and no other (`Shown`).
-/

namespace Docket.Config

open Toml (Part Draft Leads Takes Shows IsBare)
open Wire

def Setting.toToml : Setting → Toml
  | .text value => .text value
  | .flag value => .bool value
  | .number value => .integer value

theorem Setting.shows {setting : Setting} {text : String} (written : setting.write = .ok text) :
    Shows text.toList setting.toToml := by
  cases setting with
  | text value =>
      obtain rfl := Except.ok.inj written
      exact Toml.shows_quoted value
  | flag value =>
      cases value with
      | true =>
          obtain rfl := Except.ok.inj written
          exact Toml.shows_true
      | false =>
          obtain rfl := Except.ok.inj written
          exact Toml.shows_false
  | number value =>
      rw [write] at written
      split at written
      · next fits =>
          obtain rfl := Except.ok.inj written
          exact Toml.shows_number fits
      · simp at written

def Names (names : List String) : Prop := (∀ name ∈ names, IsBare name) ∧ names.Nodup

instance (names : List String) : Decidable (Names names) := inferInstanceAs (Decidable (_ ∧ _))

def added (parts members : List (String × Part)) : List (String × Part) :=
  parts.foldl (fun sorted part => Entries.insert part.1 part.2 sorted) members

def settingParts (settings : List (String × Setting)) : List (String × Part) :=
  settings.map fun entry => (entry.1, .value entry.2.toToml)

def sectionParts (sections : List (String × List (String × Setting))) : List (String × Part) :=
  sections.map fun entry => (entry.1, .table .header (added (settingParts entry.2) []))

theorem exists_of_writeSettings_cons {name : String} {setting : Setting}
    {settings : List (String × Setting)} {text : String}
    (written : writeSettings ((name, setting) :: settings) = .ok text) :
    ∃ value lines, setting.write = .ok value ∧ writeSettings settings = .ok lines ∧
      text = name ++ " = " ++ value ++ "\n" ++ lines := by
  rw [writeSettings] at written
  split at written
  · next value lines own others => exact ⟨value, lines, own, others, (Except.ok.inj written).symm⟩
  · simp at written
  · simp at written

theorem exists_of_writeSections_cons {name : String} {settings : List (String × Setting)}
    {sections : List (String × List (String × Setting))} {text : String}
    (written : writeSections ((name, settings) :: sections) = .ok text) :
    ∃ lines behind, writeSettings settings = .ok lines ∧ writeSections sections = .ok behind ∧
      text = "\n[" ++ name ++ "]\n" ++ lines ++ behind := by
  rw [writeSections] at written
  split at written
  · next lines behind own others => exact ⟨lines, behind, own, others, (Except.ok.inj written).symm⟩
  · simp at written
  · simp at written

theorem fresh_insert {names : List String} {name : String} (once : name ∉ names) (part : Part)
    {members : List (String × Part)}
    (fresh : ∀ other ∈ names, Entries.lookup other members = none) :
    ∀ other ∈ names, Entries.lookup other (Entries.insert name part members) = none := by
  rintro other among
  have differ : other ≠ name := by
    rintro rfl
    exact once among
  rw [Entries.lookup_insert, if_neg differ]
  exact fresh other among

theorem leads_writeSettings {place : List (String × Part) → Draft} (takes : Takes place)
    {settings : List (String × Setting)} {text : String}
    (written : writeSettings settings = .ok text) (names : Names (settings.map Prod.fst))
    {members : List (String × Part)}
    (fresh : ∀ name ∈ settings.map Prod.fst, Entries.lookup name members = none) :
    Leads (place members) text.toList (place (added (settingParts settings) members)) := by
  induction settings generalizing text members with
  | nil =>
      obtain rfl := Except.ok.inj written
      exact .nil _
  | cons entry settings ih =>
      obtain ⟨name, setting⟩ := entry
      obtain ⟨value, lines, own, others, rfl⟩ := exists_of_writeSettings_cons written
      obtain ⟨bare, distinct⟩ := names
      obtain ⟨bare, bares⟩ := List.forall_mem_cons.mp bare
      obtain ⟨once, distinct⟩ := List.nodup_cons.mp distinct
      obtain ⟨absent, fresh⟩ := List.forall_mem_cons.mp fresh
      have line := Toml.leads_entry bare (Setting.shows own) (takes.put setting.toToml absent)
      have behind := ih others ⟨bares, distinct⟩ (fresh_insert once (.value setting.toToml) fresh)
      simpa [added, settingParts] using line.append behind

theorem leads_writeSections {sections : List (String × List (String × Setting))} {text : String}
    (written : writeSections sections = .ok text) (names : Names (sections.map Prod.fst))
    (inner : ∀ entry ∈ sections, Names (entry.2.map Prod.fst)) {before : List (String × Part)}
    (fresh : ∀ name ∈ sections.map Prod.fst, Entries.lookup name before = none)
    (path : List String) :
    ∃ path', Leads ⟨⟨.header, before⟩, path⟩ text.toList
      ⟨⟨.header, added (sectionParts sections) before⟩, path'⟩ := by
  induction sections generalizing text before path with
  | nil =>
      obtain rfl := Except.ok.inj written
      exact ⟨path, .nil _⟩
  | cons entry sections ih =>
      obtain ⟨name, settings⟩ := entry
      obtain ⟨lines, behind, own, others, rfl⟩ := exists_of_writeSections_cons written
      obtain ⟨bare, distinct⟩ := names
      obtain ⟨bare, bares⟩ := List.forall_mem_cons.mp bare
      obtain ⟨once, distinct⟩ := List.nodup_cons.mp distinct
      obtain ⟨absent, fresh⟩ := List.forall_mem_cons.mp fresh
      obtain ⟨own_names, inner⟩ := List.forall_mem_cons.mp inner
      have header := Toml.leads_header bare (Toml.header_fresh path absent)
      have body : Leads (Toml.under name before []) lines.toList
          (Toml.under name before (added (settingParts settings) [])) :=
        leads_writeSettings (Toml.takes_under name before) own own_names fun _ _ => rfl
      obtain ⟨path', rest⟩ := ih others ⟨bares, distinct⟩ inner
        (fresh_insert once (.table .header (added (settingParts settings) [])) fresh) [name]
      refine ⟨path', ?_⟩
      have joined := (header.append body).append rest
      simpa [added, settingParts, sectionParts] using joined

def Shown (settings : List (String × Setting)) (value : Toml) : Prop :=
  ∃ members, value = .table members ∧
    ∀ name, Entries.lookup name members = (Entries.lookup name settings).map Setting.toToml

theorem lookup_added {parts members : List (String × Part)}
    (distinct : (parts.map Prod.fst).Nodup) (name : String) :
    Entries.lookup name (added parts members)
      = (Entries.lookup name parts).or (Entries.lookup name members) :=
  Entries.lookup_foldl_insert distinct members name

theorem map_fst_settingParts (settings : List (String × Setting)) :
    (settingParts settings).map Prod.fst = settings.map Prod.fst := by
  simp [settingParts]

theorem map_fst_sectionParts (sections : List (String × List (String × Setting))) :
    (sectionParts sections).map Prod.fst = sections.map Prod.fst := by
  simp [sectionParts]

theorem shown_section {settings : List (String × Setting)}
    (distinct : (settings.map Prod.fst).Nodup) :
    Shown settings (Part.table .header (added (settingParts settings) [])).toToml := by
  refine ⟨_, rfl, fun name => ?_⟩
  rw [← map_fst_settingParts] at distinct
  rw [Toml.lookup_membersToToml, lookup_added distinct, settingParts,
    Entries.lookup_map fun setting : Setting => Part.value setting.toToml]
  cases Entries.lookup name settings <;> rfl

def fieldOf (members : List (String × Toml)) (name : String) : Supplied Toml :=
  match Entries.lookup name members with
  | some value => .given value
  | none => .absent

theorem fields?_table (names : List String) (members : List (String × Toml)) :
    fields? names (Toml.table members) = some (fieldOf members) := by
  simp only [fields?, Format.view]
  congr 1
  funext name
  rw [fieldOf]
  cases Entries.lookup name members <;> rfl

theorem withDefault_of_lookup {α : Type} {members : List (String × Toml)} {name : String}
    {value : Toml} (found : Entries.lookup name members = some value) (default : α)
    {decode : Toml → Option α} {setting : α} (decoded : decode value = some setting) :
    (fieldOf members name).withDefault default decode = some setting := by
  rw [fieldOf, found]
  exact decoded

theorem text?_text (value : String) : text? (Setting.text value).toToml = some value := rfl

theorem nullable_text (value : String) :
    nullable text? (Setting.text value).toToml = some (some value) := rfl

theorem bool?_flag (value : Bool) : bool? (Setting.flag value).toToml = some value := rfl

theorem natBelow?_number {bound n : Nat} (less : n < bound) :
    natBelow? bound (Setting.number n).toToml = some n := by
  simp [natBelow?, Format.view, Setting.toToml, less]

theorem uint32?_number (n : UInt32) : uint32? (Setting.number n.toNat).toToml = some n := by
  rw [uint32?, natBelow?_number n.toNat_lt]
  simp

theorem uint64?_number (n : UInt64) : uint64? (Setting.number n.toNat).toToml = some n := by
  rw [uint64?, natBelow?_number n.toNat_lt]
  simp

theorem choice?_policy (policy : DescriptorPolicy) :
    choice? DescriptorPolicy.choices
      (Setting.text (nameOf DescriptorPolicy.choices policy)).toToml = some policy := by
  cases policy <;> rfl

theorem choice?_source (source : QuerySource) :
    choice? QuerySource.choices
      (Setting.text (nameOf QuerySource.choices source)).toToml = some source := by
  cases source <;> rfl

theorem relational_decoded (settings : RelationalSettings) {value : Toml}
    (shown : Shown [("path", .text settings.path), ("pool_size", .number settings.poolSize.toNat),
      ("busy_timeout_ms", .number settings.busyTimeoutMs.toNat)] value) :
    RelationalSettings.decode? value = some settings := by
  obtain ⟨members, rfl, look⟩ := shown
  have path := withDefault_of_lookup (look "path") "edstore.sqlite3" (text?_text settings.path)
  have poolSize := withDefault_of_lookup (look "pool_size") 8 (uint32?_number settings.poolSize)
  have timeout := withDefault_of_lookup (look "busy_timeout_ms") 5000
    (uint64?_number settings.busyTimeoutMs)
  simp [RelationalSettings.decode?, fields?_table, path, poolSize, timeout]

theorem keyValue_decoded (settings : KeyValueSettings) {value : Toml}
    (shown : Shown (settings.path.toList.map fun path => ("path", .text path)) value) :
    KeyValueSettings.decode? value = some settings := by
  obtain ⟨members, rfl, look⟩ := shown
  obtain ⟨path⟩ := settings
  cases path with
  | none =>
      have absent : fieldOf members "path" = .absent := by
        rw [fieldOf, look]
        rfl
      simp [KeyValueSettings.decode?, fields?_table, absent, Supplied.withDefault]
  | some path =>
      have given := withDefault_of_lookup (look "path") none (nullable_text path)
      simp [KeyValueSettings.decode?, fields?_table, given]

theorem cache_decoded (settings : CacheSettings) {value : Toml}
    (shown : Shown [("enabled", .flag settings.enabled),
      ("max_entries", .number settings.maxEntries.toNat)] value) :
    CacheSettings.decode? value = some settings := by
  obtain ⟨members, rfl, look⟩ := shown
  have enabled := withDefault_of_lookup (look "enabled") true (bool?_flag settings.enabled)
  have maxEntries := withDefault_of_lookup (look "max_entries") 100000
    (uint64?_number settings.maxEntries)
  simp [CacheSettings.decode?, fields?_table, enabled, maxEntries]

theorem validation_decoded (settings : ValidationSettings) {value : Toml}
    (shown : Shown [("validate_references", .flag settings.validateReferences),
      ("descriptor_policy",
        .text (nameOf DescriptorPolicy.choices settings.descriptorPolicy))] value) :
    ValidationSettings.decode? value = some settings := by
  obtain ⟨members, rfl, look⟩ := shown
  have validates := withDefault_of_lookup (look "validate_references") true
    (bool?_flag settings.validateReferences)
  have policy := withDefault_of_lookup (look "descriptor_policy") .strict
    (choice?_policy settings.descriptorPolicy)
  simp [ValidationSettings.decode?, fields?_table, validates, policy]

theorem projection_decoded (settings : ProjectionSettings) {value : Toml}
    (shown : Shown [("workers", .number settings.workers.toNat),
      ("queue_capacity", .number settings.queueCapacity.toNat),
      ("max_attempts", .number settings.maxAttempts.toNat),
      ("retry_backoff_ms", .number settings.retryBackoffMs.toNat)] value) :
    ProjectionSettings.decode? value = some settings := by
  obtain ⟨members, rfl, look⟩ := shown
  have workers := withDefault_of_lookup (look "workers") 2 (uint64?_number settings.workers)
  have capacity := withDefault_of_lookup (look "queue_capacity") 10000
    (uint64?_number settings.queueCapacity)
  have attempts := withDefault_of_lookup (look "max_attempts") 5
    (uint32?_number settings.maxAttempts)
  have backoff := withDefault_of_lookup (look "retry_backoff_ms") 50
    (uint64?_number settings.retryBackoffMs)
  simp [ProjectionSettings.decode?, fields?_table, workers, capacity, attempts, backoff]

theorem query_decoded (settings : QuerySettings) {value : Toml}
    (shown : Shown [("source", .text (nameOf QuerySource.choices settings.source))] value) :
    QuerySettings.decode? value = some settings := by
  obtain ⟨members, rfl, look⟩ := shown
  have source := withDefault_of_lookup (look "source") .primary (choice?_source settings.source)
  simp [QuerySettings.decode?, fields?_table, source]

theorem logging_decoded (settings : LoggingSettings) {value : Toml}
    (shown : Shown [("level", .text settings.level)] value) :
    LoggingSettings.decode? value = some settings := by
  obtain ⟨members, rfl, look⟩ := shown
  have level := withDefault_of_lookup (look "level") "info" (text?_text settings.level)
  simp [LoggingSettings.decode?, fields?_table, level]

theorem names_file (config : Config) : Names ("backend" :: config.sections.map Prod.fst) :=
  (by decide : Names sectionNames)

theorem names_settings (config : Config) :
    ∀ entry ∈ config.sections, Names (entry.2.map Prod.fst) := by
  have path : Names ((config.keyValue.path.toList.map fun path => ("path", Setting.text path)).map
      Prod.fst) := by
    cases config.keyValue.path with
    | none => exact (by decide : Names [])
    | some path => exact (by decide : Names ["path"])
  simp only [sections, List.forall_mem_cons, List.map_cons, List.map_nil]
  exact ⟨by decide, path, by decide, by decide, by decide, by decide, by decide, by simp⟩

theorem exists_of_fileText {config : Config} {text : String} (written : config.fileText = .ok text) :
    ∃ backend behind, writeSettings [("backend", .text config.backend)] = .ok backend ∧
      writeSections config.sections = .ok behind ∧ text = backend ++ behind := by
  rw [fileText] at written
  split at written
  · next backend behind own others =>
      exact ⟨backend, behind, own, others, (Except.ok.inj written).symm⟩
  · simp at written
  · simp at written

theorem exists_read_fileText {config : Config} {text : String}
    (written : config.fileText = .ok text) :
    ∃ members, Toml.read? text = some (.table members) ∧
      Entries.lookup "backend" members = some (.text config.backend) ∧
      ∀ entry ∈ config.sections, ∃ value, Entries.lookup entry.1 members = some value ∧
        Shown entry.2 value := by
  obtain ⟨backend, behind, own, others, rfl⟩ := exists_of_fileText written
  obtain ⟨bare, distinct⟩ := config.names_file
  obtain ⟨bare, bares⟩ := List.forall_mem_cons.mp bare
  obtain ⟨once, distinct⟩ := List.nodup_cons.mp distinct
  have sections : ((sectionParts config.sections).map Prod.fst).Nodup := by
    rwa [map_fst_sectionParts]
  have leads : Leads (Toml.top []) backend.toList
      (Toml.top [("backend", .value (.text config.backend))]) :=
    leads_writeSettings Toml.takes_top own ⟨by simpa using bare, by simp⟩ fun _ _ => rfl
  -- The backend has a name that no section has, so neither is looked up for the other.
  have fresh : ∀ name ∈ config.sections.map Prod.fst,
      Entries.lookup name [("backend", Part.value (.text config.backend))] = none := by
    intro name among
    rw [Entries.lookup_eq_none_iff]
    intro same
    obtain rfl := List.mem_singleton.mp same
    exact once among
  obtain ⟨path, onward⟩ :=
    leads_writeSections others ⟨bares, distinct⟩ config.names_settings fresh []
  have whole := leads.append onward
  rw [← String.toList_append] at whole
  refine ⟨_, Toml.read?_of_leads whole ?_, ?_, ?_⟩
  · obtain ⟨value, lines, _, _, rfl⟩ := exists_of_writeSettings_cons own
    have other : 'b' ≠ Toml.byteOrderMark := by decide
    simpa using other
  · have nowhere : Entries.lookup "backend" (sectionParts config.sections) = none := by
      rwa [Entries.lookup_eq_none_iff, map_fst_sectionParts]
    rw [Toml.lookup_membersToToml, lookup_added sections, nowhere]
    rfl
  · rintro ⟨name, settings⟩ member
    have found := Entries.lookup_of_mem_of_nodup sections (List.mem_map_of_mem member)
    refine ⟨_, ?_, shown_section (config.names_settings _ member).2⟩
    rw [Toml.lookup_membersToToml, lookup_added sections, found]
    rfl

theorem decode?_fileText {config : Config} {text : String} (written : config.fileText = .ok text) :
    (Toml.read? text).bind decode? = some config := by
  obtain ⟨members, read, own, inner⟩ := exists_read_fileText written
  simp only [sections, List.forall_mem_cons] at inner
  obtain ⟨⟨_, found₁, shown₁⟩, ⟨_, found₂, shown₂⟩, ⟨_, found₃, shown₃⟩, ⟨_, found₄, shown₄⟩,
    ⟨_, found₅, shown₅⟩, ⟨_, found₆, shown₆⟩, ⟨_, found₇, shown₇⟩, _⟩ := inner
  have backend := withDefault_of_lookup own "memory" (text?_text config.backend)
  have relational := withDefault_of_lookup found₁ {} (relational_decoded _ shown₁)
  have keyValue := withDefault_of_lookup found₂ {} (keyValue_decoded _ shown₂)
  have cache := withDefault_of_lookup found₃ {} (cache_decoded _ shown₃)
  have validation := withDefault_of_lookup found₄ {} (validation_decoded _ shown₄)
  have projection := withDefault_of_lookup found₅ {} (projection_decoded _ shown₅)
  have query := withDefault_of_lookup found₆ {} (query_decoded _ shown₆)
  have logging := withDefault_of_lookup found₇ {} (logging_decoded _ shown₇)
  rw [read, Option.bind_some, decode?]
  simp [fields?_table, backend, relational, keyValue, cache, validation, projection, query, logging]

theorem exists_writeSettings_iff {settings : List (String × Setting)} :
    (∃ text, writeSettings settings = .ok text) ↔
      ∀ entry ∈ settings, ∃ text, entry.2.write = .ok text := by
  induction settings with
  | nil => simp [writeSettings]
  | cons entry settings ih =>
      obtain ⟨name, setting⟩ := entry
      rw [List.forall_mem_cons, ← ih]
      constructor
      · rintro ⟨text, written⟩
        obtain ⟨value, lines, own, others, _⟩ := exists_of_writeSettings_cons written
        exact ⟨⟨value, own⟩, lines, others⟩
      · rintro ⟨⟨value, own⟩, lines, others⟩
        simp [writeSettings, own, others]

theorem exists_writeSections_iff {sections : List (String × List (String × Setting))} :
    (∃ text, writeSections sections = .ok text) ↔
      ∀ entry ∈ sections, ∃ text, writeSettings entry.2 = .ok text := by
  induction sections with
  | nil => simp [writeSections]
  | cons entry sections ih =>
      obtain ⟨name, settings⟩ := entry
      rw [List.forall_mem_cons, ← ih]
      constructor
      · rintro ⟨text, written⟩
        obtain ⟨lines, behind, own, others, _⟩ := exists_of_writeSections_cons written
        exact ⟨⟨lines, own⟩, behind, others⟩
      · rintro ⟨⟨lines, own⟩, behind, others⟩
        simp [writeSections, own, others]

theorem exists_write_text (value : String) : ∃ text, (Setting.text value).write = .ok text :=
  ⟨_, rfl⟩

theorem exists_write_flag (value : Bool) : ∃ text, (Setting.flag value).write = .ok text := by
  cases value with
  | true => exact ⟨_, rfl⟩
  | false => exact ⟨_, rfl⟩

theorem exists_write_number_iff {n : Nat} :
    (∃ text, (Setting.number n).write = .ok text) ↔ n < 2 ^ 63 := by
  rw [Setting.write]
  split
  · next fits => simp [fits]
  · next large => simp [large]

def longSettings (config : Config) : List UInt64 := [
  config.relational.busyTimeoutMs, config.cache.maxEntries, config.projection.workers,
  config.projection.queueCapacity, config.projection.retryBackoffMs]

theorem exists_fileText_iff {config : Config} :
    (∃ text, config.fileText = .ok text) ↔ ∀ n ∈ config.longSettings, n.toNat < 2 ^ 63 := by
  have short : ∀ n : UInt32, n.toNat < 2 ^ 63 := fun n => Nat.lt_trans n.toNat_lt (by decide)
  have sections : (∃ text, config.fileText = .ok text) ↔
      ∃ text, writeSections config.sections = .ok text := by
    constructor
    · rintro ⟨text, written⟩
      obtain ⟨_, behind, _, others, _⟩ := exists_of_fileText written
      exact ⟨behind, others⟩
    · rintro ⟨behind, others⟩
      obtain ⟨backend, own⟩ : ∃ text, writeSettings [("backend", .text config.backend)] = .ok text :=
        exists_writeSettings_iff.mpr (by simp [exists_write_text])
      simp [fileText, own, others]
  rw [sections, exists_writeSections_iff]
  simp only [Config.sections, longSettings, List.forall_mem_cons, List.forall_mem_map,
    exists_writeSettings_iff, exists_write_text, exists_write_flag, exists_write_number_iff, short]
  simp

/-- Whatever texts and numbers a configuration that keeps the rules holds, it is read back from the
    file that it is written to. It can be written unless a number does not fit in a signed one of 64
    bits. -/
theorem written_file_reads_back (config : Config) (valid : config.validate = .ok ()) :
    ((∃ text, config.fileText = .ok text) ↔ ∀ n ∈ config.longSettings, n.toNat < 2 ^ 63) ∧
      ∀ text, config.fileText = .ok text → ofFile (some text.toUTF8) = .ok config := by
  refine ⟨exists_fileText_iff, fun text written => ?_⟩
  have octets : String.fromUTF8? text.toUTF8 = some text :=
    dif_pos text.isValidUTF8
  have parsed : parse text = .ok config := by
    simp only [parse, decode?_fileText written, valid]
  simp only [ofFile, octets, parsed]

def marked : Config where
  backend := "it's\ta \"backend\""
  relational := { path := "\"\"\"\n\\", busyTimeoutMs := 9223372036854775807 }
  keyValue := { path := some "C:\\data" }
  logging := { level := "\x1b\r\n\"\"\"" }

theorem written_file_reads_back_marked :
    marked.validate = .ok () ∧
      ∃ text, marked.fileText = .ok text ∧ ofFile (some text.toUTF8) = .ok marked := by
  have valid : marked.validate = .ok () := by decide +kernel
  obtain ⟨written, reads⟩ := written_file_reads_back marked valid
  obtain ⟨text, shown⟩ := written.mpr (by simp [longSettings, marked])
  exact ⟨valid, text, shown, reads text shown⟩

end Docket.Config
