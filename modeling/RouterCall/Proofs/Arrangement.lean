import RouterCall.Config.Section
import RouterCall.Proofs.Settings
import Mathlib.Data.List.Forall2
import Mathlib.Data.List.Nodup

/-!
# What a settings file says, however it is arranged

A settings file may hold any of the three settings, and it may hold them in any order: the sections
among themselves and the keys of a section. What matters is which settings there are.
`Section.Writes` says that a row of sections writes some settings, each of them once, and leaves
the order open.

No notation is mentioned here. A reader of settings asks of a value what entries it has and which
scalars they are; `SettingReader.IsTable` says that the answers are rows of keys with what belongs
under them. Whatever notation the value comes from, the configuration is then the default one with
the written settings replaced.

## Main definitions

* `Section.Writes`: sections that write some settings
* `SettingReader.IsScalar`, `SettingReader.IsTable`: what a value is for a reader

## Main results

* `Config.ofSections_eq_onto`: sections describe the settings that they write
* `SettingReader.setting?_of_rows`: a setting is found in whichever row it stands
* `Config.ofValue?_of_holds`: a value that holds sections configures what they write
-/

namespace RouterCall

/-! ### Sections -/

/-- The level that a setting of the log is. -/
def LogSetting.level? : LogSetting → Option String
  | level text => some text
  | json _ => none

/-- The layout that a setting of the log is. -/
def LogSetting.json? : LogSetting → Option Bool
  | level _ => none
  | json value => some value

namespace Section

/-- The settings of the log in a section. -/
def logSettings : Section → List LogSetting
  | validation _ => []
  | logging settings => settings

/-- The treatment of unknown names in a section. -/
def treatment? : Section → Option UnknownNames
  | validation treatment => treatment
  | logging _ => none

/-- Sections that write some settings and no others. No section is written twice, and no key of a
section is; nothing is said about their order. -/
structure Writes (sections : List Section) (settings : Settings) : Prop where
  names_nodup : (sections.map name).Nodup
  keys_nodup : ∀ part ∈ sections, (part.entries.map Prod.fst).Nodup
  level : ∀ text, settings.level = some text ↔ .level text ∈ sections.flatMap logSettings
  json : ∀ value, settings.json = some value ↔ .json value ∈ sections.flatMap logSettings
  unknownNames : ∀ treatment,
    settings.unknownNames = some treatment ↔ .validation (some treatment) ∈ sections

/-- A section with the same settings, in any order. -/
def Reorders : Section → Section → Prop
  | validation treatment, validation treatment' => treatment = treatment'
  | logging settings, logging settings' => settings.Perm settings'
  | _, _ => False

/-- The same sections, in any order and each with its keys in any order. -/
def Rearranges (sections sections' : List Section) : Prop :=
  ∃ between, sections.Perm between ∧ List.Forall₂ Reorders between sections'

theorem Reorders.same {part part' : Section} (reorders : Reorders part part') :
    part.name = part'.name ∧ part.entries.Perm part'.entries ∧
      part.logSettings.Perm part'.logSettings ∧
      ∀ treatment, part = .validation treatment ↔ part' = .validation treatment := by
  cases part with
  | validation treatment =>
    cases part' with
    | validation treatment' =>
      cases reorders
      exact ⟨rfl, .refl _, .refl _, fun _ => Iff.rfl⟩
    | logging settings' => exact reorders.elim
  | logging settings =>
    cases part' with
    | validation treatment' => exact reorders.elim
    | logging settings' =>
      exact ⟨rfl, List.Perm.map _ reorders, reorders, fun _ => by simp⟩

variable {sections sections' : List Section} {settings : Settings}

/-- The order of the sections does not matter. -/
theorem Writes.perm (writes : Writes sections settings) (perm : sections.Perm sections') :
    Writes sections' settings where
  names_nodup := (perm.map name).nodup_iff.mp writes.names_nodup
  keys_nodup part mem := writes.keys_nodup part (perm.mem_iff.mpr mem)
  level text := by rw [writes.level, (perm.flatMap_right logSettings).mem_iff]
  json value := by rw [writes.json, (perm.flatMap_right logSettings).mem_iff]
  unknownNames treatment := by rw [writes.unknownNames, perm.mem_iff]

/-- What sections have in common with their reorderings. -/
theorem forall₂_reorders (each : List.Forall₂ Reorders sections sections') :
    sections.map name = sections'.map name ∧
      (sections.flatMap logSettings).Perm (sections'.flatMap logSettings) ∧
      (∀ treatment, .validation treatment ∈ sections ↔ .validation treatment ∈ sections') ∧
      ((∀ part ∈ sections, (part.entries.map Prod.fst).Nodup) →
        ∀ part ∈ sections', (part.entries.map Prod.fst).Nodup) := by
  induction each with
  | nil => exact ⟨rfl, .refl _, fun _ => Iff.rfl, id⟩
  | @cons part part' sections sections' here _ ih =>
    obtain ⟨names, log, validation, keys⟩ := ih
    obtain ⟨sameName, sameEntries, sameLog, sameTreatment⟩ := here.same
    refine ⟨?_, ?_, fun treatment => ?_, fun distinct => ?_⟩
    · rw [List.map_cons, List.map_cons, sameName, names]
    · exact sameLog.append log
    · have here := sameTreatment treatment
      rw [List.mem_cons, List.mem_cons, validation, eq_comm, here, eq_comm]
    · rw [List.forall_mem_cons] at distinct ⊢
      exact ⟨(sameEntries.map Prod.fst).nodup_iff.mp distinct.1, keys distinct.2⟩

/-- **The order does not matter** to what sections write, nor does that of the keys. -/
theorem Writes.rearrange (writes : Writes sections settings)
    (same : Rearranges sections sections') : Writes sections' settings := by
  obtain ⟨between, perm, each⟩ := same
  obtain ⟨names, log, validation, keys⟩ := forall₂_reorders each
  have writes := writes.perm perm
  constructor
  · exact names ▸ writes.names_nodup
  · exact keys writes.keys_nodup
  · intro text
    rw [writes.level, log.mem_iff]
  · intro value
    rw [writes.json, log.mem_iff]
  · intro treatment
    rw [writes.unknownNames, validation]

/-- All settings can be written. -/
theorem exists_writes (settings : Settings) : ∃ sections, Writes sections settings := by
  obtain ⟨level, json, unknownNames⟩ := settings
  refine ⟨[.validation unknownNames,
    .logging (level.toList.map .level ++ json.toList.map .json)], ?_⟩
  constructor
  · show ["validation", "logging"].Nodup
    decide
  · cases level <;> cases json <;> cases unknownNames <;> simp [entries, LogSetting.entry]
  · cases level <;> cases json <;> simp [logSettings, eq_comm]
  · cases level <;> cases json <;> simp [logSettings, eq_comm]
  · cases unknownNames <;> simp [eq_comm]

end Section

/-! ### The configuration that sections describe -/

/-- What is seen of a state after steps, each of which may set it. -/
theorem foldl_eq_getD {σ τ β : Type} {step : σ → τ → σ} {view : σ → β} {sets : τ → Option β}
    (steps : ∀ s t, view (step s t) = (sets t).getD (view s)) (ts : List τ) {found : Option β}
    (only : ∀ b, found = some b ↔ ∃ t ∈ ts, sets t = some b) (s : σ) :
    view (ts.foldl step s) = found.getD (view s) := by
  induction ts generalizing s found with
  | nil =>
    have none : found = none := by
      rw [Option.eq_none_iff_forall_ne_some]
      intro b same
      obtain ⟨t, mem, -⟩ := (only b).mp same
      cases mem
    rw [none]
    rfl
  | cons t ts ih =>
    rw [List.foldl_cons]
    by_cases later : ∃ b, ∃ t ∈ ts, sets t = some b
    · obtain ⟨b, t', mem, said⟩ := later
      have same : found = some b := (only b).mpr ⟨t', List.mem_cons_of_mem _ mem, said⟩
      have rest : ∀ b', some b = some b' ↔ ∃ t ∈ ts, sets t = some b' := by
        intro b'
        constructor
        · rintro ⟨⟩
          exact ⟨t', mem, said⟩
        · rintro ⟨t'', mem, said⟩
          rw [← same]
          exact (only b').mpr ⟨t'', List.mem_cons_of_mem _ mem, said⟩
      rw [same, Option.getD_some, ih rest, Option.getD_some]
    · have here : sets t = found := by
        refine Option.ext fun b => ?_
        rw [only]
        constructor
        · exact fun said => ⟨t, List.mem_cons_self, said⟩
        · rintro ⟨t', mem, said⟩
          obtain rfl | mem := List.mem_cons.mp mem
          · exact said
          · exact absurd ⟨b, t', mem, said⟩ later
      have rest : ∀ b, none = some b ↔ ∃ t ∈ ts, sets t = some b := by
        intro b
        constructor
        · rintro ⟨⟩
        · exact fun said => absurd ⟨b, said⟩ later
      rw [ih rest, Option.getD_none, steps, here]

namespace Section

theorem logging_foldl_apply (sections : List Section) (config : Config) :
    (sections.foldl apply config).logging =
      (sections.flatMap logSettings).foldl LogSetting.apply config.logging := by
  induction sections generalizing config with
  | nil => rfl
  | cons part sections ih =>
    rw [List.foldl_cons, ih, List.flatMap_cons, List.foldl_append]
    cases part <;> rfl

end Section

/-- **Sections describe the default configuration with the settings replaced that they write.** -/
theorem Config.ofSections_eq_onto {sections : List Section} {settings : Settings}
    (writes : Section.Writes sections settings) :
    Config.ofSections sections = settings.onto {} := by
  have level : (Config.ofSections sections).logging.level = settings.level.getD "info" := by
    rw [Config.ofSections, Section.logging_foldl_apply]
    have step (logging : LoggingSettings) (setting : LogSetting) :
        (LogSetting.apply logging setting).level = setting.level?.getD logging.level := by
      cases setting <;> rfl
    refine foldl_eq_getD step _ (fun text => ?_) {}
    rw [writes.level]
    constructor
    · exact fun mem => ⟨_, mem, rfl⟩
    · rintro ⟨_ | _, mem, ⟨⟩⟩
      exact mem
  have json : (Config.ofSections sections).logging.json = settings.json.getD false := by
    rw [Config.ofSections, Section.logging_foldl_apply]
    have step (logging : LoggingSettings) (setting : LogSetting) :
        (LogSetting.apply logging setting).json = setting.json?.getD logging.json := by
      cases setting <;> rfl
    refine foldl_eq_getD step _ (fun value => ?_) {}
    rw [writes.json]
    constructor
    · exact fun mem => ⟨_, mem, rfl⟩
    · rintro ⟨_ | _, mem, ⟨⟩⟩
      exact mem
  have unknownNames : (Config.ofSections sections).validation.unknownNames =
      settings.unknownNames.getD .reject := by
    let view (config : Config) : UnknownNames := config.validation.unknownNames
    have step (config : Config) (part : Section) :
        view (part.apply config) = part.treatment?.getD (view config) := by
      obtain (_ | _) | _ := part <;> rfl
    refine foldl_eq_getD step _ (fun treatment => ?_) {}
    rw [writes.unknownNames]
    constructor
    · exact fun mem => ⟨_, mem, rfl⟩
    · rintro ⟨part, mem, said⟩
      cases part with
      | validation treatment' =>
        cases said
        exact mem
      | logging _ => cases said
  generalize Config.ofSections sections = config at level json unknownNames
  obtain ⟨⟨_⟩, ⟨_, _⟩⟩ := config
  cases level
  cases json
  cases unknownNames
  rfl

/-! ### Values that hold sections -/

namespace SettingReader

variable {α β : Type} {reader : SettingReader α}

/-- A value is a scalar for a reader: a text, which may also pick a name, or a truth value. -/
def IsScalar (reader : SettingReader α) : Json → α → Prop
  | .string text, value => reader.text? value = some text ∧ reader.choice? value = some text
  | .bool b, value => reader.flag? value = some b
  | _, _ => False

/-- Rows of keys with what belongs under them. -/
def AreRows (holds : β → α → Prop) : List (String × β) → List (Option String × α) → Prop :=
  List.Forall₂ fun row entry => entry.1 = some row.1 ∧ holds row.2 entry.2

/-- A value is a table for a reader, with something under each of its keys. -/
def IsTable (reader : SettingReader α) (holds : β → α → Prop) (rows : List (String × β))
    (value : α) : Prop :=
  ∀ keys, ∃ entries, reader.entries? keys value = some entries ∧ AreRows holds rows entries

/-- A value holds what is under the keys of a section. -/
def HoldsSection (reader : SettingReader α) (part : Section) : α → Prop :=
  reader.IsTable reader.IsScalar part.entries

/-- A value holds sections. -/
def HoldsSections (reader : SettingReader α) (sections : List Section) : α → Prop :=
  reader.IsTable reader.HoldsSection (sections.map fun part => (part.name, part))

section Rows

variable {holds : β → α → Prop} {rows : List (String × β)} {entries : List (Option String × α)}

theorem AreRows.keys_eq (are : AreRows holds rows entries) :
    entries.map Prod.fst = rows.map fun row => some row.1 := by
  induction are with
  | nil => rfl
  | cons row _ ih => rw [List.map_cons, List.map_cons, row.1, ih]

/-- Every key of a table is that of a row. -/
theorem AreRows.exists_key (are : AreRows holds rows entries) {entry : Option String × α}
    (mem : entry ∈ entries) : ∃ key ∈ rows.map Prod.fst, entry.1 = some key := by
  have listed : entry.1 ∈ rows.map fun row => some row.1 := by
    rw [← are.keys_eq]
    exact List.mem_map_of_mem mem
  obtain ⟨row, mem, same⟩ := List.mem_map.mp listed
  exact ⟨row.1, List.mem_map_of_mem mem, same.symm⟩

theorem AreRows.filter_eq_nil (are : AreRows holds rows entries) {key : String}
    (notMem : key ∉ rows.map Prod.fst) :
    entries.filter (fun entry => entry.1 = some key) = [] := by
  rw [List.filter_eq_nil_iff]
  intro entry mem
  obtain ⟨key', listed, same⟩ := are.exists_key mem
  rw [same, decide_eq_true_eq, Option.some.injEq]
  rintro rfl
  exact notMem listed

/-- One entry belongs to a row, when no key is written twice. -/
theorem AreRows.exists_filter_eq (are : AreRows holds rows entries)
    (distinct : (rows.map Prod.fst).Nodup) {key : String} {b : β} (mem : (key, b) ∈ rows) :
    ∃ value, holds b value ∧ entries.filter (fun entry => entry.1 = some key) =
      [(some key, value)] := by
  induction are with
  | nil => cases mem
  | @cons row entry rows entries here are ih =>
    obtain ⟨same, held⟩ := here
    rw [List.map_cons, List.nodup_cons] at distinct
    obtain ⟨alone, distinct⟩ := distinct
    obtain rfl | mem := List.mem_cons.mp mem
    · refine ⟨entry.2, held, ?_⟩
      rw [List.filter_cons_of_pos (by simpa using same), AreRows.filter_eq_nil are alone, ← same]
    · have other : row.1 ≠ key := by
        rintro rfl
        exact alone (List.mem_map.mpr ⟨_, mem, rfl⟩)
      rw [List.filter_cons_of_neg (by simpa [same] using other)]
      exact ih distinct mem

/-- **A setting is found in whichever row it stands**, and is its default where it stands in none.
-/
theorem setting?_of_rows {γ : Type} (are : AreRows holds rows entries)
    (distinct : (rows.map Prod.fst).Nodup) {key : String} {default : γ} {read? : α → Option γ}
    {found : Option γ} (absent : found = none → key ∉ rows.map Prod.fst)
    (present : ∀ c, found = some c →
      ∃ b, (key, b) ∈ rows ∧ ∀ value, holds b value → read? value = some c) :
    setting? key default read? entries = some (found.getD default) := by
  cases written : found with
  | none =>
    have missing := are.filter_eq_nil (absent written)
    rw [setting?]
    simp only [missing]
    rfl
  | some c =>
    obtain ⟨b, mem, reads⟩ := present c written
    obtain ⟨value, held, one⟩ := are.exists_filter_eq distinct mem
    rw [setting?]
    simp only [one]
    exact reads value held

/-- A value whose entries are rows, one after another and however they are written, is the table of
the rows. -/
theorem isTable_of_forall₂ {γ : Type} {written : List (String × γ)} {value : α} (node : γ → α)
    (each : List.Forall₂ (fun row entry => entry.1 = row.1 ∧ holds row.2 (node entry.2))
      rows written)
    (entries : ∀ keys,
      reader.entries? keys value = some (written.map fun entry => (some entry.1, node entry.2))) :
    reader.IsTable holds rows value := by
  intro keys
  refine ⟨_, entries keys, ?_⟩
  rw [AreRows, List.forall₂_map_right_iff]
  refine each.imp fun row entry same => ?_
  exact ⟨congrArg some same.1, same.2⟩

/-- A value whose entries are the rows, one after another, is the table of the rows. -/
theorem isTable_of_entries?_eq {value : α} (node : β → α)
    (each : ∀ row ∈ rows, holds row.2 (node row.2))
    (entries : ∀ keys,
      reader.entries? keys value = some (rows.map fun row => (some row.1, node row.2))) :
    reader.IsTable holds rows value := by
  refine isTable_of_forall₂ node ?_ entries
  rw [List.forall₂_same]
  exact fun row mem => ⟨rfl, each row mem⟩

/-- A table whose keys are all known is one for a reader of settings. -/
theorem table?_of_isTable {value : α} (table : reader.IsTable holds rows value)
    {keys : List String} (known : ∀ key ∈ rows.map Prod.fst, key ∈ keys) :
    ∃ entries, reader.table? keys value = some entries ∧ AreRows holds rows entries := by
  obtain ⟨entries, found, are⟩ := table keys
  refine ⟨entries, ?_, are⟩
  have guarded (passes : Bool) (all : passes = true) :
      (do guard passes; return entries : Option _) = some entries := by
    rw [all]
    rfl
  rw [table?, found]
  refine guarded _ ?_
  rw [List.all_eq_true]
  intro entry mem
  obtain ⟨key, listed, same⟩ := are.exists_key mem
  simp [same, known key listed]

end Rows

/-- A value with the sections one after another holds the sections. -/
theorem holdsSections_of_entries?_eq {sections : List Section} {value : α} (node : Section → α)
    (each : ∀ part ∈ sections, reader.HoldsSection part (node part))
    (entries : ∀ keys,
      reader.entries? keys value = some (sections.map fun part => (some part.name, node part))) :
    reader.HoldsSections sections value := by
  refine isTable_of_entries?_eq node (fun row mem => ?_) fun keys => ?_
  · obtain ⟨part, inside, rfl⟩ := List.mem_map.mp mem
    exact each part inside
  · rw [entries, List.map_map]
    rfl

end SettingReader

/-! ### The configuration that a value holds -/

namespace Section.Writes

variable {sections : List Section} {settings : Settings}

/-- There is one section of a name. -/
theorem eq_of_name (writes : Writes sections settings) {part part' : Section}
    (mem : part ∈ sections) (mem' : part' ∈ sections) (same : part.name = part'.name) :
    part = part' :=
  List.inj_on_of_nodup_map writes.names_nodup mem mem' same

/-- The settings of the log stand in the section of the log. -/
theorem mem_logSettings_iff (writes : Writes sections settings) {log : List LogSetting}
    (mem : .logging log ∈ sections) (setting : LogSetting) :
    setting ∈ sections.flatMap logSettings ↔ setting ∈ log := by
  rw [List.mem_flatMap]
  constructor
  · rintro ⟨part, mem', inside⟩
    cases part with
    | validation _ => cases inside
    | logging log' =>
      cases writes.eq_of_name mem mem' rfl
      exact inside
  · exact fun inside => ⟨_, mem, inside⟩

/-- The treatment of unknown names stands in the section of validation. -/
theorem unknownNames_eq (writes : Writes sections settings) {treatment : Option UnknownNames}
    (mem : .validation treatment ∈ sections) : settings.unknownNames = treatment := by
  refine Option.ext fun found => ?_
  rw [writes.unknownNames]
  constructor
  · intro mem'
    cases writes.eq_of_name mem mem' rfl
    rfl
  · rintro rfl
    exact mem

end Section.Writes

section Values

open SettingReader

variable {α : Type} {reader : SettingReader α} {value : α}

theorem Policy.ofValue?_of_holds {treatment : Option UnknownNames}
    (holds : reader.HoldsSection (.validation treatment) value) :
    Policy.ofValue? reader value = some ⟨treatment.getD .reject⟩ := by
  have known : ∀ key ∈ (Section.validation treatment).entries.map Prod.fst,
      key ∈ [unknownNamesKey] := by
    cases treatment <;> simp [Section.entries]
  obtain ⟨entries, table, are⟩ := table?_of_isTable holds known
  have set : setting? unknownNamesKey ({} : Policy).unknownNames (UnknownNames.ofValue? reader)
      entries = some (treatment.getD .reject) := by
    refine setting?_of_rows are (by cases treatment <;> simp [Section.entries]) ?_ ?_
    · rintro rfl
      simp [Section.entries]
    · rintro treatment rfl
      refine ⟨.string treatment.name, by simp [Section.entries], fun value scalar => ?_⟩
      exact UnknownNames.ofValue?_of_choice scalar.2
  simp [Policy.ofValue?, table, set]

/-- A key of the log is written by a setting. -/
theorem LogSetting.exists_of_mem_keys {log : List LogSetting} {key : String}
    (mem : key ∈ (log.map entry).map Prod.fst) : ∃ setting ∈ log, setting.entry.1 = key := by
  obtain ⟨_, listed, rfl⟩ := List.mem_map.mp mem
  obtain ⟨setting, inside, rfl⟩ := List.mem_map.mp listed
  exact ⟨setting, inside, rfl⟩

theorem LoggingSettings.ofValue?_of_holds {log : List LogSetting} {settings : Settings}
    (distinct : ((log.map LogSetting.entry).map Prod.fst).Nodup)
    (level : ∀ text, settings.level = some text ↔ .level text ∈ log)
    (json : ∀ b, settings.json = some b ↔ .json b ∈ log)
    (holds : reader.HoldsSection (.logging log) value) :
    LoggingSettings.ofValue? reader value =
      some ⟨settings.level.getD "info", settings.json.getD false⟩ := by
  have known : ∀ key ∈ (log.map LogSetting.entry).map Prod.fst, key ∈ ["level", "json"] := by
    intro key mem
    obtain ⟨setting, -, rfl⟩ := LogSetting.exists_of_mem_keys mem
    cases setting <;> simp [LogSetting.entry]
  obtain ⟨entries, table, are⟩ := table?_of_isTable holds known
  have setLevel : setting? "level" ({} : LoggingSettings).level reader.text? entries =
      some (settings.level.getD "info") := by
    refine setting?_of_rows are distinct (fun none mem => ?_) fun text written => ?_
    · obtain ⟨setting, mem, named⟩ := LogSetting.exists_of_mem_keys mem
      cases setting with
      | level text => cases none.symm.trans ((level text).mpr mem)
      | json b => simp [LogSetting.entry] at named
    · exact ⟨_, List.mem_map_of_mem ((level text).mp written), fun value scalar => scalar.1⟩
  have setJson : setting? "json" ({} : LoggingSettings).json reader.flag? entries =
      some (settings.json.getD false) := by
    refine setting?_of_rows are distinct (fun none mem => ?_) fun b written => ?_
    · obtain ⟨setting, mem, named⟩ := LogSetting.exists_of_mem_keys mem
      cases setting with
      | level text => simp [LogSetting.entry] at named
      | json b => cases none.symm.trans ((json b).mpr mem)
    · exact ⟨_, List.mem_map_of_mem ((json b).mp written), fun value scalar => scalar⟩
  simp [LoggingSettings.ofValue?, table, setLevel, setJson]

theorem map_fst_sections (sections : List Section) :
    (sections.map fun part => (part.name, part)).map Prod.fst = sections.map Section.name := by
  rw [List.map_map]
  rfl

/-- A setting is what the section of its key is read as, and its default without that section. -/
theorem setting?_of_sections {γ : Type} {sections : List Section}
    {entries : List (Option String × α)}
    (are : AreRows reader.HoldsSection (sections.map fun part => (part.name, part)) entries)
    (distinct : (sections.map Section.name).Nodup) {key : String} {default c : γ}
    {read? : α → Option γ}
    (present : ∀ part ∈ sections, part.name = key →
      ∀ value, reader.HoldsSection part value → read? value = some c)
    (absent : (∀ part ∈ sections, part.name ≠ key) → c = default) :
    setting? key default read? entries = some c := by
  have distinct := (map_fst_sections sections).symm ▸ distinct
  by_cases written : ∃ part ∈ sections, part.name = key
  · obtain ⟨part, mem, named⟩ := written
    have found : ∀ c', some c = some c' →
        ∃ part, (key, part) ∈ sections.map (fun part => (part.name, part)) ∧
          ∀ value, reader.HoldsSection part value → read? value = some c' := by
      rintro _ ⟨⟩
      exact ⟨part, List.mem_map.mpr ⟨part, mem, by rw [named]⟩, present part mem named⟩
    exact setting?_of_rows are distinct (by rintro ⟨⟩) found
  · have missing : ∀ part ∈ sections, part.name ≠ key :=
      fun part mem named => written ⟨part, mem, named⟩
    rw [absent missing]
    have notMem : none = (none : Option γ) →
        key ∉ (sections.map fun part => (part.name, part)).map Prod.fst := by
      intro _ mem
      rw [map_fst_sections] at mem
      obtain ⟨part, mem, named⟩ := List.mem_map.mp mem
      exact missing part mem named
    exact setting?_of_rows are distinct notMem (by rintro _ ⟨⟩)

/-- **A value that holds sections configures what they write**, whatever notation it comes from. -/
theorem Config.ofValue?_of_holds {sections : List Section} {settings : Settings}
    (writes : Section.Writes sections settings) (holds : reader.HoldsSections sections value) :
    Config.ofValue? reader value = some (settings.onto {}) := by
  have known : ∀ key ∈ (sections.map fun part => (part.name, part)).map Prod.fst,
      key ∈ ["validation", "logging"] := by
    rw [map_fst_sections]
    intro key mem
    obtain ⟨part, -, rfl⟩ := List.mem_map.mp mem
    cases part <;> simp [Section.name]
  obtain ⟨entries, table, are⟩ := table?_of_isTable holds known
  have validation : setting? "validation" ({} : Config).validation (Policy.ofValue? reader)
      entries = some ⟨settings.unknownNames.getD .reject⟩ := by
    refine setting?_of_sections are writes.names_nodup (fun part mem named value holds => ?_)
      fun missing => ?_
    · cases part with
      | validation treatment =>
        rw [writes.unknownNames_eq mem]
        exact Policy.ofValue?_of_holds holds
      | logging log => simp [Section.name] at named
    · have unwritten : settings.unknownNames = none :=
        Option.eq_none_iff_forall_ne_some.mpr fun treatment same =>
          missing _ ((writes.unknownNames treatment).mp same) rfl
      rw [unwritten]
      rfl
  have logging : setting? "logging" ({} : Config).logging (LoggingSettings.ofValue? reader)
      entries = some ⟨settings.level.getD "info", settings.json.getD false⟩ := by
    refine setting?_of_sections are writes.names_nodup (fun part mem named value holds => ?_)
      fun missing => ?_
    · cases part with
      | validation treatment => simp [Section.name] at named
      | logging log =>
        refine LoggingSettings.ofValue?_of_holds (writes.keys_nodup _ mem) (fun text => ?_)
          (fun b => ?_) holds
        · rw [writes.level, writes.mem_logSettings_iff mem]
        · rw [writes.json, writes.mem_logSettings_iff mem]
    · have notMem (setting : LogSetting) : setting ∉ sections.flatMap Section.logSettings := by
        intro mem
        obtain ⟨part, mem, inside⟩ := List.mem_flatMap.mp mem
        cases part with
        | validation treatment => cases inside
        | logging log => exact missing _ mem rfl
      have noLevel : settings.level = none :=
        Option.eq_none_iff_forall_ne_some.mpr fun text same =>
          notMem _ ((writes.level text).mp same)
      have noJson : settings.json = none :=
        Option.eq_none_iff_forall_ne_some.mpr fun b same => notMem _ ((writes.json b).mp same)
      rw [noLevel, noJson]
      rfl
  rw [Config.ofValue?, table]
  simp only [Option.bind_eq_bind, Option.bind_some, validation, logging]
  rfl

end Values

end RouterCall
