import RouterCall.Config.Basic

/-!
# Reading settings from values

A configuration file, whichever notation it is written in, holds values, and settings are read from
them by the same rules. What the notations differ in is what a value may stand for: which values are
texts, how a table may be written, how a name is picked from a list of names. A `SettingReader`
answers these questions for the values of one notation, and this module says which configuration a
value is, given the answers.

The rules are those of strict settings with defaults. A key that is not known is passed over with
whatever it holds, a known key may be absent and then has its default, and a known key must not
occur twice. A value must have exactly the sort the setting has: no number is a truth value and no
number is a text.

## Main definitions

* `SettingReader`: what the values of a notation stand for
* `SettingReader.table?`, `SettingReader.setting?`: tables, and single settings of a table
* `Config.ofValue?`, `Policy.ofValue?`: what a value configures

## Main results

* `UnknownNames.ofValue?_of_choice`: the name of a treatment is read as that treatment
-/

namespace RouterCall

/-- What the values of a notation stand for. -/
structure SettingReader (α : Type) where
  /-- The text a value is. -/
  text? : α → Option String
  /-- The truth value a value is. -/
  flag? : α → Option Bool
  /-- The name that a value picks from a list of names. -/
  choice? : α → Option String
  /-- The entries of a table that may have settings under the given keys. Keys that are no texts are
  `none`. -/
  entries? : List String → α → Option (List (Option String × α))
  /-- Whether a value may be passed over. -/
  passes : α → Bool

namespace SettingReader

variable {α : Type}

/-- The entries of a table, if all its keys are texts and what its unknown keys hold may be passed
over. -/
def table? (reader : SettingReader α) (keys : List String) (value : α) :
    Option (List (Option String × α)) := do
  let entries ← reader.entries? keys value
  guard (entries.all fun (key, value) =>
    key.elim false fun key => keys.contains key || reader.passes value)
  return entries

/-- A setting of a table: its default if the key is absent, and refused if the key occurs twice. -/
def setting? {β : Type} (key : String) (default : β) (read? : α → Option β)
    (entries : List (Option String × α)) : Option β :=
  match entries.filter fun (written, _) => written = some key with
  | [] => some default
  | [(_, value)] => read? value
  | _ => none

end SettingReader

/-! ### What values configure -/

variable {α : Type}

/-- The treatment of unknown names that a value picks. -/
def UnknownNames.ofValue? (reader : SettingReader α) (value : α) : Option UnknownNames :=
  reader.choice? value >>= UnknownNames.ofName?

/-- The policy that a value is. -/
def Policy.ofValue? (reader : SettingReader α) (value : α) : Option Policy := do
  let entries ← reader.table? [Policy.unknownNamesKey] value
  return {
    unknownNames := ← SettingReader.setting? Policy.unknownNamesKey ({} : Policy).unknownNames
      (UnknownNames.ofValue? reader) entries }

/-- The log settings that a value is. -/
def LoggingSettings.ofValue? (reader : SettingReader α) (value : α) : Option LoggingSettings := do
  let entries ← reader.table? ["level", "json"] value
  let level ← SettingReader.setting? "level" ({} : LoggingSettings).level reader.text? entries
  let json ← SettingReader.setting? "json" ({} : LoggingSettings).json reader.flag? entries
  return { level, json }

/-- The configuration that a value is. -/
def Config.ofValue? (reader : SettingReader α) (value : α) : Option Config := do
  let entries ← reader.table? ["validation", "logging"] value
  let validation ← SettingReader.setting? "validation" ({} : Config).validation
    (Policy.ofValue? reader) entries
  let logging ← SettingReader.setting? "logging" ({} : Config).logging
    (LoggingSettings.ofValue? reader) entries
  return { validation, logging }

/-- A name that a value picks is the treatment of that name. -/
theorem UnknownNames.ofValue?_of_choice {reader : SettingReader α} {value : α}
    {treatment : UnknownNames} (h : reader.choice? value = some treatment.name) :
    UnknownNames.ofValue? reader value = some treatment := by
  simp [UnknownNames.ofValue?, h]

end RouterCall
