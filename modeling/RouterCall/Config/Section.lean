import RouterCall.Config.Basic
import RouterCall.Json.Printer

/-!
# Settings written out

A settings file holds some of the settings, section by section, in any order. A `Section` is what
one section holds; `Config.ofSections` is the configuration that sections describe, in which every
setting that is not written has its default; and a list of sections can be written in each notation.

Values are written as JSON scalars in all three notations, which read them alike: truth values are
words, and texts stand between double quotes. That is enough for texts of letters and digits. A text
with other characters is written for JSON only.

## Main definitions

* `LogSetting`, `Section`, `Section.entries`
* `Config.ofSections`: what sections describe
* `Section.writeJson`, `Section.writeToml`, `Section.writeYaml`
-/

namespace RouterCall

/-- A setting of the log. -/
inductive LogSetting where
  | level (text : String)
  | json (value : Bool)
deriving DecidableEq

/-- What one section of a settings file holds, in the order in which it is written. -/
inductive Section where
  | validation (treatment : Option UnknownNames)
  | logging (settings : List LogSetting)
deriving DecidableEq

/-- The key and the value of a setting of the log. -/
def LogSetting.entry : LogSetting → String × Json
  | .level text => ("level", .string text)
  | .json value => ("json", .bool value)

/-- Log settings with one of them replaced. -/
def LogSetting.apply (settings : LoggingSettings) : LogSetting → LoggingSettings
  | .level text => { settings with level := text }
  | .json value => { settings with json := value }

namespace Section

/-- The name of a section. -/
def name : Section → String
  | validation _ => "validation"
  | logging _ => "logging"

/-- The keys and values of a section. -/
def entries : Section → List (String × Json)
  | validation treatment =>
    treatment.toList.map fun treatment => (Policy.unknownNamesKey, .string treatment.name)
  | logging settings => settings.map LogSetting.entry

/-- A configuration with the settings of a section replaced. -/
def apply (config : Config) : Section → Config
  | validation treatment =>
    { config with
      validation := treatment.elim config.validation fun unknownNames => { unknownNames } }
  | logging settings => { config with logging := settings.foldl LogSetting.apply config.logging }

/-! ### Notations -/

/-- Sections as an object of objects. -/
def writeJson (sections : List Section) : List Char :=
  Json.compactChars (.object (sections.map fun part => (part.name, .object part.entries)))

/-- One section under a header. -/
def tomlLines (part : Section) : List Char :=
  '[' :: (part.name.toList ++ ']' :: '\n' :: part.entries.flatMap fun (key, value) =>
    key.toList ++ ' ' :: '=' :: ' ' :: (value.compactChars ++ ['\n']))

/-- Sections as tables under headers. -/
def writeToml (sections : List Section) : List Char := sections.flatMap tomlLines

/-- One section by indentation. -/
def yamlLines (part : Section) : List Char :=
  part.name.toList ++ ':' :: '\n' :: part.entries.flatMap fun (key, value) =>
    ' ' :: ' ' :: (key.toList ++ ':' :: ' ' :: (value.compactChars ++ ['\n']))

/-- Sections by indentation. -/
def writeYaml (sections : List Section) : List Char := sections.flatMap yamlLines

end Section

/-- The configuration that sections describe. -/
def Config.ofSections (sections : List Section) : Config := sections.foldl Section.apply {}

end RouterCall
