import RouterCall.Proofs.BlockTokens
import RouterCall.Proofs.Codec

/-!
# Settings as tables by indentation

What the tokens of a table by indentation form is a table with the same keys, over whatever the
tokens behind its keys form; a table without rows has no tokens, and what it forms is the empty
node, which has no entries either. A table of tables is this twice, so nothing has to be said about
the depth. So the document of a text of tables is known, and it holds the sections that the tables
stand for. A truth value stands there as a word, and a text stands between quotes or, if it is a
name, as it is.

## Main definitions

* `Yaml.Node.Forms`: tokens that form a node, whatever follows them
* `Yaml.tableNode`: the node of a table by indentation
* `Yaml.StandsFor`: tables that stand for sections

## Main results

* `Yaml.Node.forms_tableTokens`: the tokens of a table form a table of what its values form
* `Yaml.Document.readChars_blockText`: the document of tables by indentation
* `Config.readYaml_blockText`: sections by indentation are read as what they write
-/

namespace RouterCall

open Word (IsRow IsName)
open Toml (isBare)

namespace Yaml

/-! ### Nodes -/

/-- The node of a scalar. -/
def LineScalar.node : LineScalar → Node
  | word cs => .scalar {} .plain (String.ofList cs)
  | quoted cs => .scalar {} .quoted (String.ofList cs)

section Tables

variable {β : Type} {tokens : β → List Token} {node : β → Node} {rows : List (String × β)}

/-- The node of a table by indentation, by the nodes of what stands behind its keys. -/
def tableNode (node : β → Node) : List (String × β) → Node
  | [] => .empty
  | row :: rows => .table {} ((row :: rows).map fun (key, b) => (.scalar {} .plain key, node b))

namespace Node

/-- Tokens form a node behind a key, where they are followed by a key or the end of the table. -/
def Forms (tokens : List Token) (node : Node) : Prop :=
  ∀ handles fuel rest, tokens.length + 2 ≤ fuel → leftOut rest = true →
    scanPart handles fuel (tokens ++ rest) = some (node, rest)

theorem forms_nil : Forms [] .empty := by
  intro handles fuel rest enough stop
  obtain ⟨fuel, rfl⟩ : ∃ n, fuel = n + 1 := ⟨fuel - 1, by omega⟩
  rw [List.nil_append, scanPart, stop]
  rfl

theorem forms_scalar (style : Style) (text : List Char) :
    Forms [.scalar style text] (.scalar {} style (String.ofList text)) := by
  intro handles fuel rest enough _
  obtain ⟨fuel, rfl⟩ : ∃ n, fuel = n + 2 := ⟨fuel - 2, by simp at enough; omega⟩
  rfl

theorem leftOut_rowTokens (rows : List (String × β)) (rest : List Token) :
    leftOut (rowTokens tokens rows ++ .blockEnd :: rest) = true := by
  cases rows <;> rfl

/-- The rows of a table form its entries, up to the end of the table. -/
theorem scanEntries_rowTokens (each : ∀ row ∈ rows, Forms (tokens row.2) (node row.2))
    (handles : Handles) {fuel : ℕ} (enough : (rowTokens tokens rows).length + 2 ≤ fuel)
    (rest : List Token) :
    scanEntries handles fuel (rowTokens tokens rows ++ .blockEnd :: rest) =
      some (rows.map fun (key, b) => (.scalar {} .plain key, node b), rest) := by
  induction rows generalizing fuel with
  | nil =>
    obtain ⟨fuel, rfl⟩ : ∃ n, fuel = n + 1 := ⟨fuel - 1, by omega⟩
    rfl
  | cons row rows ih =>
    obtain ⟨key, b⟩ := row
    have length : (rowTokens tokens ((key, b) :: rows)).length =
        (tokens b).length + (rowTokens tokens rows).length + 3 := by
      simp only [rowTokens, List.flatMap_cons, List.length_append, List.length_cons]
      omega
    obtain ⟨fuel, rfl⟩ : ∃ n, fuel = n + 1 := ⟨fuel - 1, by omega⟩
    have text : rowTokens tokens ((key, b) :: rows) ++ .blockEnd :: rest =
        .key :: ([.scalar .plain key.toList] ++
          .value :: (tokens b ++ (rowTokens tokens rows ++ .blockEnd :: rest))) := by
      simp [rowTokens]
    have keyRead := forms_scalar .plain key.toList handles fuel
      (.value :: (tokens b ++ (rowTokens tokens rows ++ .blockEnd :: rest)))
      (by rw [List.length_singleton]; omega) rfl
    have room : (tokens b).length + 2 ≤ fuel := by omega
    have valueRead := each (key, b) List.mem_cons_self handles fuel
      (rowTokens tokens rows ++ .blockEnd :: rest) room (leftOut_rowTokens rows rest)
    have enough : (rowTokens tokens rows).length + 2 ≤ fuel := by omega
    have later := ih (fun row mem => each row (List.mem_cons_of_mem _ mem)) enough
    rw [text, scanEntries, keyRead]
    simp only [Option.bind_eq_bind, Option.bind_some, valueRead, later, String.ofList_toList]
    rfl

/-- A table by indentation is scanned wherever one may stand. -/
theorem scan_tableTokens (each : ∀ row ∈ rows, Forms (tokens row.2) (node row.2))
    (nonempty : rows ≠ []) (handles : Handles) {fuel : ℕ}
    (enough : (tableTokens tokens rows).length < fuel) (dashes : Bool) (rest : List Token) :
    scan handles fuel true dashes (tableTokens tokens rows ++ rest) =
      some (tableNode node rows, rest) := by
  cases rows with
  -- no tokens are no node here, although they are the empty one behind a key
  | nil => exact absurd rfl nonempty
  | cons row rows =>
    have length : (tableTokens tokens (row :: rows)).length =
        (rowTokens tokens (row :: rows)).length + 2 := by
      rw [tableTokens, List.length_cons, List.length_append, List.length_singleton]
    obtain ⟨fuel, rfl⟩ : ∃ n, fuel = n + 1 := ⟨fuel - 1, by omega⟩
    have enough : (rowTokens tokens (row :: rows)).length + 2 ≤ fuel := by omega
    have text : tableTokens tokens (row :: rows) ++ rest =
        .blockTable :: (rowTokens tokens (row :: rows) ++ .blockEnd :: rest) := by
      rw [tableTokens, List.cons_append, List.append_assoc]
      rfl
    rw [text]
    show (scanEntries handles fuel _ >>= _) = _
    rw [scanEntries_rowTokens each handles enough rest]
    rfl

/-- **The tokens of a table form a table** of what the tokens behind its keys form. -/
theorem forms_tableTokens (each : ∀ row ∈ rows, Forms (tokens row.2) (node row.2)) :
    Forms (tableTokens tokens rows) (tableNode node rows) := by
  intro handles fuel rest enough stop
  cases rows with
  | nil => exact forms_nil handles fuel rest enough stop
  | cons row rows =>
    obtain ⟨fuel, rfl⟩ : ∃ n, fuel = n + 1 := ⟨fuel - 1, by omega⟩
    exact scan_tableTokens each (List.cons_ne_nil _ _) handles (by omega) true rest

/-- A table of scalars forms the table of their nodes. -/
theorem forms_scalarTableTokens (rows : List (String × LineScalar)) :
    Forms (scalarTableTokens rows) (tableNode LineScalar.node rows) := by
  refine forms_tableTokens fun row _ => ?_
  cases row.2 with
  | word cs => exact forms_scalar .plain cs
  | quoted cs => exact forms_scalar .quoted cs

end Node

namespace Document

/-- The tokens of a table are a document that consists of it. -/
theorem ofTokens?_tableTokens (each : ∀ row ∈ rows, Node.Forms (tokens row.2) (node row.2)) :
    ofTokens? (tableTokens tokens rows) = some { root := tableNode node rows } := by
  cases rows with
  | nil => rfl
  | cons row rows =>
    let all := tableTokens tokens (row :: rows)
    have root := Node.scan_tableTokens each (List.cons_ne_nil _ _) standardHandles
      (Nat.lt_of_lt_of_le (Nat.lt_succ_self all.length) (by omega : _ ≤ 2 * all.length + 2))
      false []
    rw [List.append_nil] at root
    have scanned : scanRoot all = some (tableNode node (row :: rows), []) := root
    show (scanRoot all >>= _) = _
    rw [scanned]
    rfl

/-- A table holds the rows that it is written for. -/
theorem isTable_tableNode {γ : Type} {holds : γ → Node → Prop} (document : Document)
    {wanted : List (String × γ)}
    (each : List.Forall₂ (fun row entry => entry.1 = row.1 ∧ holds row.2 (node entry.2))
      wanted rows) :
    document.reader.IsTable holds wanted (tableNode node rows) := by
  refine SettingReader.isTable_of_forall₂ node each fun keys => ?_
  cases rows with
  | nil => rfl
  | cons row rows =>
    show some (((row :: rows).map _).map _) = _
    rw [List.map_map]
    rfl

end Document

end Tables

/-! ### Texts -/

/-- What characters tables by indentation consist of. -/
theorem forall_mem_blockText {p : Char → Prop} (bare : ∀ c, isBare c = true → p c) (colon : p ':')
    (blank : p ' ') (quote : p '"') (line : p '\n')
    {tables : List (String × List (String × LineScalar))} (plain : TablesArePlain tables) :
    ∀ c ∈ blockText tables, p c := by
  have row {cs : List Char} (isRow : IsRow cs) : ∀ c ∈ cs, p c := fun c mem => bare c (isRow c mem)
  have scalar {value : LineScalar} (plain : value.IsPlain) : ∀ c ∈ value.chars, p c := by
    cases value with
    | word cs => exact row (IsName.row plain)
    | quoted cs =>
      rw [LineScalar.chars, List.forall_mem_cons, List.forall_mem_append, List.forall_mem_singleton]
      exact ⟨quote, row plain, quote⟩
  rw [blockText, List.forall_mem_flatMap]
  intro table mem
  obtain ⟨isKey, rows⟩ := plain table mem
  rw [tableLines, List.forall_mem_append, List.forall_mem_cons, List.forall_mem_cons,
    List.forall_mem_flatMap]
  refine ⟨row isKey.isName.row, colon, line, fun entry inside => ?_⟩
  obtain ⟨isKey, plain⟩ := rows entry inside
  simp only [entryLine, List.forall_mem_cons, List.forall_mem_append]
  exact ⟨blank, blank, row isKey.isName.row, colon, blank, scalar plain, line, by simp⟩

theorem unifyBreaks_eq_self {cs : List Char} (none : ∀ c ∈ cs, c ≠ '\r' ∧ c ≠ '\u0085') :
    unifyBreaks cs = cs := by
  induction cs with
  | nil => rfl
  | cons c rest ih =>
    obtain ⟨noReturn, noNext⟩ := none c List.mem_cons_self
    have later := ih fun c mem => none c (List.mem_cons_of_mem _ mem)
    rw [unifyBreaks.eq_2 _ _ (fun _ same _ => noReturn same), later]
    simp [noReturn, noNext]

/-- **The document of tables by indentation** is the table of the tables. -/
theorem Document.readChars_blockText {tables : List (String × List (String × LineScalar))}
    (plain : TablesArePlain tables) :
    readChars (blockText tables) =
      some { root := tableNode (tableNode LineScalar.node) tables } := by
  have allowed : (blockText tables).all isAllowed = true := by
    rw [List.all_eq_true]
    have bare (c : Char) : isBare c = true → isAllowed c = true :=
      Word.forall_of_isBare (p := fun c => isAllowed c = true) (by decide +kernel)
    exact forall_mem_blockText bare (by decide) (by decide) (by decide) (by decide) plain
  have unified : unifyBreaks (blockText tables) = blockText tables := by
    refine unifyBreaks_eq_self (forall_mem_blockText (fun c bare => ?_) (by decide) (by decide)
      (by decide) (by decide) plain)
    exact ⟨Word.ne_of_isBare bare (by decide), Word.ne_of_isBare bare (by decide)⟩
  have noMark : Line.dropMark (blockText tables) = blockText tables := by
    have letter := Lexer.isAlpha_of_head?_blockText plain
    generalize blockText tables = cs at letter
    cases cs with
    | nil => rfl
    | cons c rest =>
      have other : c ≠ '\ufeff' := ne_of_isAlpha (letter c rfl) (by decide)
      exact Line.dropMark.eq_2 _ fun _ same => other (List.cons.inj same).1
  rw [readChars, allowed, noMark, unified, Lexer.scanAll_blockText plain]
  exact ofTokens?_tableTokens fun table _ => Node.forms_scalarTableTokens table.2

/-! ### Sections -/

/-- A scalar on its line stands for a value. A text may stand without quotes if it is a name. -/
inductive LineScalar.StandsFor : LineScalar → Json → Prop
  | flag (b : Bool) : StandsFor (.word (Json.bool b).compactChars) (.bool b)
  | word {text : String} (isName : IsName text.toList) :
    StandsFor (.word text.toList) (.string text)
  | quoted {text : String} (row : IsRow text.toList) :
    StandsFor (.quoted text.toList) (.string text)

theorem LineScalar.StandsFor.isPlain {scalar : LineScalar} {value : Json}
    (stands : scalar.StandsFor value) : scalar.IsPlain := by
  cases stands with
  | flag b => exact Json.isName_compactChars b
  | word isName => exact isName
  | quoted row => exact row

/-- The node of a scalar is a scalar for a reader of settings. -/
theorem LineScalar.StandsFor.isScalar {scalar : LineScalar} {value : Json}
    (stands : scalar.StandsFor value) (document : Document) :
    document.reader.IsScalar value scalar.node := by
  have text (style : Style) (text : String) :
      document.reader.IsScalar (.string text) (.scalar {} style text) := ⟨rfl, rfl⟩
  cases stands with
  | flag b => cases b <;> rfl
  | word _ =>
    rw [LineScalar.node, String.ofList_toList]
    exact text .plain _
  | quoted _ =>
    rw [LineScalar.node, String.ofList_toList]
    exact text .quoted _

/-- A table by indentation stands for a section. -/
structure StandsFor (part : Section) (table : String × List (String × LineScalar)) : Prop where
  name : table.1 = part.name
  entries : List.Forall₂ (fun entry row => row.1 = entry.1 ∧ row.2.StandsFor entry.2)
    part.entries table.2

variable {sections : List Section} {tables : List (String × List (String × LineScalar))}

theorem isKey_name (part : Section) : IsKey part.name := by
  have short : ∀ name ∈ ["validation", "logging"], name.toList.length ≤ maxKeyLength := by
    decide +kernel
  exact ⟨part.isName_name, short _ part.name_mem⟩

theorem isKey_key {part : Section} {entry : String × Json} (mem : entry ∈ part.entries) :
    IsKey entry.1 := by
  have short : ∀ key ∈ [Policy.unknownNamesKey, "level", "json"],
      key.toList.length ≤ maxKeyLength := by decide +kernel
  exact ⟨Section.isName_key mem, short _ (Section.key_mem mem)⟩

theorem tablesArePlain_of_standsFor (stands : List.Forall₂ StandsFor sections tables) :
    TablesArePlain tables := by
  intro table mem
  obtain ⟨part, stands⟩ := exists_of_forall₂ stands table mem
  refine ⟨stands.name ▸ isKey_name part, fun row inside => ?_⟩
  have partners := (List.forall₂_and_left _ _).mpr ⟨fun _ listed => listed, stands.entries⟩
  obtain ⟨entry, listed, key, scalar⟩ := exists_of_forall₂ partners row inside
  exact ⟨key ▸ isKey_key listed, scalar.isPlain⟩

/-- The node of tables holds the sections that the tables stand for. -/
theorem Document.holdsSections_of_standsFor (document : Document)
    (stands : List.Forall₂ StandsFor sections tables) :
    document.reader.HoldsSections sections (tableNode (tableNode LineScalar.node) tables) := by
  refine document.isTable_tableNode ?_
  rw [List.forall₂_map_left_iff]
  refine stands.imp fun part table stands => ⟨stands.name, ?_⟩
  refine document.isTable_tableNode ?_
  exact stands.entries.imp fun entry row stands => ⟨stands.1, stands.2.isScalar document⟩

/-- A value as JSON writes it. -/
def LineScalar.ofJson : Json → LineScalar
  | .string text => .quoted text.toList
  | value => .word value.compactChars

theorem LineScalar.standsFor_ofJson {value : Json} (word : value.IsWord) :
    (ofJson value).StandsFor value ∧ (ofJson value).chars = value.compactChars := by
  obtain ⟨b, rfl⟩ | ⟨text, rfl, row⟩ := word.bool_or_string
  · exact ⟨.flag b, rfl⟩
  · refine ⟨.quoted row, ?_⟩
    rw [Json.compactChars, row.quote_eq]
    rfl

/-- Sections with their values as JSON writes them. -/
def sectionTables (sections : List Section) : List (String × List (String × LineScalar)) :=
  sections.map fun part =>
    (part.name, part.entries.map fun (key, value) => (key, .ofJson value))

/-- The writer of sections writes tables that stand for them. -/
theorem standsFor_sectionTables
    (words : ∀ part ∈ sections, ∀ entry ∈ part.entries, entry.2.IsWord) :
    List.Forall₂ StandsFor sections (sectionTables sections) ∧
      blockText (sectionTables sections) = Section.writeYaml sections := by
  constructor
  · rw [sectionTables, List.forall₂_map_right_iff, List.forall₂_same]
    refine fun part mem => ⟨rfl, ?_⟩
    rw [List.forall₂_map_right_iff, List.forall₂_same]
    exact fun entry inside => ⟨rfl, (LineScalar.standsFor_ofJson (words part mem entry inside)).1⟩
  · rw [blockText, sectionTables, List.flatMap_map, Section.writeYaml]
    refine List.flatMap_congr fun part mem => ?_
    have lines : part.entries.flatMap (fun entry => entryLine (entry.1, .ofJson entry.2)) =
        part.entries.flatMap fun (key, value) =>
          ' ' :: ' ' :: (key.toList ++ ':' :: ' ' :: (value.compactChars ++ ['\n'])) := by
      refine List.flatMap_congr fun entry inside => ?_
      rw [entryLine, (LineScalar.standsFor_ofJson (words part mem entry inside)).2]
    rw [tableLines, Section.yamlLines, List.flatMap_map, ← lines]

end Yaml

/-- **Sections by indentation are read as what they write**, whether their texts stand between
quotes or not. -/
theorem Config.readYaml_blockText {sections : List Section} {settings : Settings}
    (writes : Section.Writes sections settings)
    {tables : List (String × List (String × Yaml.LineScalar))}
    (stands : List.Forall₂ Yaml.StandsFor sections tables) :
    Config.readYaml (String.ofList (Yaml.blockText tables)) = some (settings.onto {}) := by
  have plain := Yaml.tablesArePlain_of_standsFor stands
  rw [Config.readYaml, Yaml.Document.read, String.toList_ofList,
    Yaml.Document.readChars_blockText plain]
  exact Config.ofValue?_of_holds writes (Yaml.Document.holdsSections_of_standsFor _ stands)

end RouterCall
