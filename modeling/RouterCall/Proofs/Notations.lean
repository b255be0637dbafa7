import RouterCall.Proofs.BlockNodes
import RouterCall.Proofs.Spelling
import RouterCall.Proofs.Tables

/-!
# The notations of settings files agree

The three notations have three readers, and each of them has to find a setting wherever it stands
and to put a default where it does not stand. That a value which holds sections configures what they
write is a matter of settings alone, and that the text of sections is such a value has been shown
for tables under headers and for tables by indentation. What is left is the object of objects, whose
texts are read as the document that they spell.

## Main definitions

* `Section.object`: sections as an object of objects

## Main results

* `Config.readJson_of_spells`: a text that spells sections is read as what they write
* `Config.read_written`: whatever the notation, a text is read as the default configuration with the
  settings replaced that are written in it
-/

namespace RouterCall

open Json (Spells IsGap)

/-! ### Sections as an object of objects -/

theorem Json.documentMembers_eq_map (members : List (String × Json)) :
    documentMembers members = members.map fun (key, value) => (some key, value.document) := by
  induction members with
  | nil => rfl
  | cons member members ih =>
    rw [documentMembers, ih]
    rfl

/-- Sections as an object of objects. -/
def Section.object (sections : List Section) : Json :=
  .object (sections.map fun part => (part.name, .object part.entries))

/-- The document of an object of objects holds the sections. -/
theorem Section.holdsSections_document {sections : List Section}
    (words : ∀ part ∈ sections, ∀ entry ∈ part.entries, entry.2.IsWord) :
    Document.reader.HoldsSections sections (object sections).document := by
  have below : ∀ part ∈ sections,
      Document.reader.HoldsSection part (Json.object part.entries).document := by
    intro part mem
    refine SettingReader.isTable_of_entries?_eq Json.document (fun entry inside => ?_)
      fun keys => ?_
    · obtain ⟨b, same⟩ | ⟨text, same, -⟩ := (words part mem entry inside).bool_or_string
      · rw [same]
        rfl
      · rw [same]
        exact ⟨rfl, rfl⟩
    · show some (Json.documentMembers part.entries) = _
      rw [Json.documentMembers_eq_map]
  refine SettingReader.holdsSections_of_entries?_eq _ below fun keys => ?_
  show some (Json.documentMembers (sections.map _)) = _
  rw [Json.documentMembers_eq_map, List.map_map]
  rfl

/-- **An object of objects is read as what its sections write**, wherever blanks stand in it. -/
theorem Config.readJson_of_spells {sections : List Section} {settings : Settings}
    (writes : Section.Writes sections settings)
    (words : ∀ part ∈ sections, ∀ entry ∈ part.entries, entry.2.IsWord) {cs gap : List Char}
    (spelled : (Section.object sections).Spells cs) (blank : IsGap gap) :
    Config.readJson (String.ofList (cs ++ gap)) = some (settings.onto {}) := by
  have parsed : Document.read (String.ofList (cs ++ gap)) =
      some (Section.object sections).document := by
    rw [Document.read, String.toList_ofList]
    exact Document.readChars_of_spells spelled blank
  rw [Config.readJson, parsed]
  exact Config.ofValue?_of_holds writes (Section.holdsSections_document words)

/-! ### All notations -/

/-- The level of a section is that of the settings. -/
theorem Section.Writes.isWord {sections : List Section} {settings : Settings}
    (writes : Writes sections settings)
    (alphanumeric : ∀ text, settings.level = some text → ∀ c ∈ text.toList, c.isAlphanum = true) :
    ∀ part ∈ sections, ∀ entry ∈ part.entries, entry.2.IsWord := by
  intro part mem (key, value) inside
  refine isWord_value inside fun text listed c within => ?_
  have written : settings.level = some text :=
    (writes.level text).mpr (List.mem_flatMap.mpr ⟨part, mem, listed⟩)
  simp [Toml.isBare, alphanumeric text written c within]

namespace Config

/-- **The notations of settings files agree, and missing settings have their defaults.** Any
settings can be written, in any order of the sections and of the keys of a section. If the level
consists of letters and digits, then the text that writes them as tables under headers, the texts
that write them as an object of objects, and the texts that write them by indentation are all read
as the default configuration with the settings replaced that are written. In an object, blanks may
stand between the tokens; by indentation, a name may stand without quotes. -/
theorem read_written :
    (∀ settings, ∃ sections, Section.Writes sections settings) ∧
    (∀ settings sections sections', Section.Writes sections settings →
      Section.Rearranges sections sections' → Section.Writes sections' settings) ∧
    ∀ settings sections, Section.Writes sections settings →
      (∀ text, settings.level = some text → ∀ c ∈ text.toList, c.isAlphanum = true) →
      Config.read .toml (String.ofList (Section.writeToml sections)) = .ok (settings.onto {}) ∧
      Config.read .json (String.ofList (Section.writeJson sections)) = .ok (settings.onto {}) ∧
      Config.read .yaml (String.ofList (Section.writeYaml sections)) = .ok (settings.onto {}) ∧
      (∀ cs gap, (Section.object sections).Spells cs → IsGap gap →
        Config.read .json (String.ofList (cs ++ gap)) = .ok (settings.onto {})) ∧
      (∀ tables, List.Forall₂ Yaml.StandsFor sections tables →
        Config.read .yaml (String.ofList (Yaml.blockText tables)) = .ok (settings.onto {})) ∧
      Config.ofSections sections = settings.onto {} ∧
      settings.onto {} = ⟨⟨settings.unknownNames.getD .reject⟩,
        ⟨settings.level.getD "info", settings.json.getD false⟩⟩ := by
  refine ⟨Section.exists_writes, fun _ _ _ => Section.Writes.rearrange, ?_⟩
  intro settings sections writes alphanumeric
  have words := writes.isWord alphanumeric
  have toml : Config.read .toml (String.ofList (Section.writeToml sections)) =
      .ok (settings.onto {}) := by
    rw [Config.read.eq_def, elim_error_eq_ok_iff]
    exact readToml_writeToml writes words
  have object (cs gap : List Char) (spelled : (Section.object sections).Spells cs)
      (blank : IsGap gap) :
      Config.read .json (String.ofList (cs ++ gap)) = .ok (settings.onto {}) := by
    rw [Config.read.eq_def, elim_error_eq_ok_iff]
    exact readJson_of_spells writes words spelled blank
  have block (tables : List (String × List (String × Yaml.LineScalar)))
      (stands : List.Forall₂ Yaml.StandsFor sections tables) :
      Config.read .yaml (String.ofList (Yaml.blockText tables)) = .ok (settings.onto {}) := by
    rw [Config.read.eq_def, elim_error_eq_ok_iff]
    exact readYaml_blockText writes stands
  have json := object _ [] (Json.spells_compactChars _) Json.isGap_nil
  rw [List.append_nil] at json
  obtain ⟨stands, text⟩ := Yaml.standsFor_sectionTables words
  have yaml := block _ stands
  rw [text] at yaml
  exact ⟨toml, json, yaml, object, block, ofSections_eq_onto writes, rfl⟩

/-- All three settings, the sections and the keys of the log in the order that is not declared. -/
theorem read_written_sample :
    Config.read .toml ("[logging]\njson = true\nlevel = \"warn\"\n"
        ++ "[validation]\nunknown_command_names = \"accept_as_fallback\"\n") =
      .ok ⟨⟨.acceptAsFallback⟩, ⟨"warn", true⟩⟩ ∧
    Config.read .json ("\x7b\"logging\":\x7b\"json\":true,\"level\":\"warn\"\x7d,"
        ++ "\"validation\":\x7b\"unknown_command_names\":\"accept_as_fallback\"\x7d\x7d") =
      .ok ⟨⟨.acceptAsFallback⟩, ⟨"warn", true⟩⟩ ∧
    Config.read .yaml ("logging:\n  json: true\n  level: \"warn\"\n"
        ++ "validation:\n  unknown_command_names: \"accept_as_fallback\"\n") =
      .ok ⟨⟨.acceptAsFallback⟩, ⟨"warn", true⟩⟩ ∧
    Config.read .yaml ("logging:\n  json: true\n  level: \"warn\"\n"
        ++ "validation:\n  unknown_command_names: accept_as_fallback\n") =
      .ok ⟨⟨.acceptAsFallback⟩, ⟨"warn", true⟩⟩ := by
  let settings : Settings := ⟨some "warn", some true, some .acceptAsFallback⟩
  let sections : List Section :=
    [.logging [.json true, .level "warn"], .validation (some .acceptAsFallback)]
  have writes : Section.Writes sections settings := by
    constructor
    · decide +kernel
    · decide +kernel
    · simp [sections, settings, Section.logSettings, eq_comm]
    · simp [sections, settings, Section.logSettings, eq_comm]
    · simp [sections, settings, eq_comm]
  have alphanumeric : ∀ text, settings.level = some text →
      ∀ c ∈ text.toList, c.isAlphanum = true := by
    rintro _ ⟨⟩
    rw [← List.all_eq_true]
    decide +kernel
  let tables : List (String × List (String × Yaml.LineScalar)) := [
    ("logging", [("json", .word (Json.bool true).compactChars), ("level", .quoted "warn".toList)]),
    ("validation", [(Policy.unknownNamesKey, .word "accept_as_fallback".toList)])]
  have stands : List.Forall₂ Yaml.StandsFor sections tables := by
    have log : Yaml.StandsFor (.logging [.json true, .level "warn"]) tables[0] :=
      ⟨rfl, .cons ⟨rfl, .flag true⟩ (.cons ⟨rfl, .quoted (by decide +kernel)⟩ .nil)⟩
    have validation : Yaml.StandsFor (.validation (some .acceptAsFallback)) tables[1] :=
      ⟨rfl, .cons ⟨rfl, .word (by decide +kernel)⟩ .nil⟩
    exact .cons log (.cons validation .nil)
  obtain ⟨toml, json, yaml, -, block, -⟩ := read_written.2.2 settings sections writes alphanumeric
  have words := block tables stands
  have tomlText : String.ofList (Section.writeToml sections) =
      "[logging]\njson = true\nlevel = \"warn\"\n"
        ++ "[validation]\nunknown_command_names = \"accept_as_fallback\"\n" := by decide +kernel
  have jsonText : String.ofList (Section.writeJson sections) =
      "\x7b\"logging\":\x7b\"json\":true,\"level\":\"warn\"\x7d,"
        ++ "\"validation\":\x7b\"unknown_command_names\":\"accept_as_fallback\"\x7d\x7d" := by
    decide +kernel
  have yamlText : String.ofList (Section.writeYaml sections) =
      "logging:\n  json: true\n  level: \"warn\"\n"
        ++ "validation:\n  unknown_command_names: \"accept_as_fallback\"\n" := by decide +kernel
  have wordsText : String.ofList (Yaml.blockText tables) =
      "logging:\n  json: true\n  level: \"warn\"\n"
        ++ "validation:\n  unknown_command_names: accept_as_fallback\n" := by decide +kernel
  rw [tomlText] at toml
  rw [jsonText] at json
  rw [yamlText] at yaml
  rw [wordsText] at words
  exact ⟨toml, json, yaml, words⟩

end Config

end RouterCall
