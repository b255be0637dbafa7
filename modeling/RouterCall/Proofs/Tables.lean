import RouterCall.Proofs.Word

/-!
# Settings as tables under headers

The lines of a section are a header and an entry for each key. A line is a statement that ends with
it, so lines can be read one after another, whatever comes behind them; and each statement adds to
the table so far where nothing stands yet, since no header and no key is written twice. What is
built in the end is the tables in the order of their headers, each with its entries in their order.

## Main definitions

* `Toml.Value.ofScalar`: a scalar of JSON as one of TOML
* `Toml.Statement.Reads`: lines that are statements
* `Toml.tableStatements`, `Toml.tableEntries`: tables as statements, and as what these build

## Main results

* `Toml.Statement.scan_header`, `Toml.Statement.scan_entry`: each line of a section is a statement
* `Toml.foldlM_tableStatements`: the statements of tables build them
* `Config.readToml_writeToml`: sections that are written as tables are read as what they write
-/

namespace RouterCall

open Word (IsRow IsName)

namespace Toml

open Line

/-- A truth value or a text. -/
def Value.ofScalar : Json → Value
  | .string written => .text written
  | .bool value => .flag value
  | _ => .moment

/-! ### Characters of words -/

theorem isPlain_of_isBare {c : Char} (bare : isBare c = true) : isPlain c = true :=
  Word.forall_of_isBare (p := fun c => isPlain c = true) (by decide +kernel) bare

theorem skipBlanks_of_isName {cs : List Char} (isName : IsName cs) (rest : List Char) :
    skipBlanks (cs ++ rest) = cs ++ rest := by
  obtain ⟨first, more, rfl, -⟩ := isName.exists_cons
  have noBlank := Word.isBlank_of_isBare (isName.row first List.mem_cons_self)
  rw [List.cons_append, skipBlanks, List.dropWhile_cons_of_neg]
  rw [noBlank]
  exact Bool.false_ne_true

/-- A text of word characters ends at its closing quote. -/
theorem basicBody_of_isRow {cs : List Char} (row : IsRow cs) (rest : List Char) {fuel : ℕ}
    (enough : cs.length < fuel) : basicBody fuel (cs ++ '"' :: rest) = some (cs, rest) := by
  induction cs generalizing fuel with
  | nil =>
    obtain ⟨fuel, rfl⟩ := Nat.exists_eq_add_of_lt enough
    rfl
  | cons c cs ih =>
    obtain ⟨fuel, rfl⟩ : ∃ n, fuel = n + 1 := ⟨fuel - 1, by omega⟩
    obtain ⟨bare, row⟩ := List.forall_mem_cons.mp row
    have noQuote : c ≠ '"' := Word.ne_of_isBare bare (by decide)
    have noEscape : c ≠ '\\' := Word.ne_of_isBare bare (by decide)
    have later := ih row (Nat.lt_of_succ_lt_succ enough)
    rw [List.cons_append, basicBody.eq_5 _ _ _ noQuote noEscape, later]
    simp [isPlain_of_isBare bare]

/-! ### Keys -/

theorem scanKey_of_isName {cs : List Char} (isName : IsName cs) {c : Char}
    (stop : isBare c = false) (rest : List Char) :
    scanKey (cs ++ c :: rest) = some (String.ofList cs, c :: rest) := by
  obtain ⟨taken, left⟩ := IsRow.takeWhile_eq isName.row stop rest
  have nonempty : cs ≠ [] := by
    rintro rfl
    cases isName.letter
  rw [scanKey.eq_3 _ (isName.append_ne (by decide) _) (isName.append_ne (by decide) _), taken, left]
  simp [nonempty]

/-- A name is a path, up to what stands behind it and behind blanks. -/
theorem scanPath_of_isName {cs : List Char} (isName : IsName cs) {c : Char}
    (stop : isBare c = false) (rest : List Char) {d : Char} {left : List Char}
    (behind : skipBlanks (c :: rest) = d :: left) (noDot : d ≠ '.') (fuel : ℕ) :
    scanPath (fuel + 1) (cs ++ c :: rest) = some (⟨[], String.ofList cs⟩, d :: left) := by
  rw [scanPath, skipBlanks_of_isName isName, scanKey_of_isName isName stop]
  simp [behind, noDot]

/-! ### Values -/

theorem isWordChar_of_isBare {c : Char} (bare : isBare c = true) : isWordChar c = true := by
  simp [isWordChar, bare]

/-- A word ends with its line. -/
theorem scanValue_of_isName {cs : List Char} (isName : IsName cs) {value : Value}
    (read : ofWord? cs = some value) (rest : List Char) (fuel depth : ℕ) :
    scanValue (fuel + 1) depth (cs ++ '\n' :: rest) = some (value, '\n' :: rest) := by
  have split : splitWord (cs ++ '\n' :: rest) = (cs, '\n' :: rest) := by
    have each : ∀ c ∈ cs, isWordChar c = true :=
      fun c mem => isWordChar_of_isBare (isName.row c mem)
    obtain ⟨taken, left⟩ := IsRow.takeWhile_eq (c := '\n') each (by decide) rest
    rw [splitWord, taken, left]
    rfl
  have other {d : Char} (none : isBare d = false) (tail : List Char) :
      cs ++ '\n' :: rest ≠ d :: tail := isName.append_ne none _ tail
  rw [scanValue.eq_10 _ _ _ (fun _ => other (by decide) _) (other (by decide))
    (fun _ => other (by decide) _) (other (by decide)) (other (by decide)) (other (by decide)),
    split]
  simp [read]

/-- A text ends with its closing quote. -/
theorem scanValue_of_isRow {cs : List Char} (row : IsRow cs) (rest : List Char)
    (fuel depth : ℕ) :
    scanValue (fuel + 1) depth ('"' :: (cs ++ '"' :: '\n' :: rest)) =
      some (.text (String.ofList cs), '\n' :: rest) := by
  have enough : cs.length < (cs ++ '"' :: '\n' :: rest).length + 1 := by
    rw [List.length_append]
    omega
  have body := basicBody_of_isRow row ('\n' :: rest) enough
  have single : ∀ tail, cs ++ '"' :: '\n' :: rest = '"' :: '"' :: tail → False := by
    intro tail same
    cases cs with
    | nil => simp at same
    | cons c more =>
      have bare : isBare c = true := row c List.mem_cons_self
      exact Word.ne_of_isBare bare (by decide) (List.cons.inj same).1
  rw [scanValue.eq_3 _ _ _ single, body]
  rfl

/-- No blank begins a scalar. -/
theorem skipBlanks_of_isWord {value : Json} (word : value.IsWord) (rest : List Char) :
    skipBlanks (value.compactChars ++ rest) = value.compactChars ++ rest := by
  obtain ⟨b, rfl⟩ | ⟨text, rfl, -⟩ := word.bool_or_string
  · exact skipBlanks_of_isName (Json.isName_compactChars b) rest
  · rfl

/-- A scalar ends with its line. -/
theorem scanValue_of_isWord {value : Json} (word : value.IsWord) (rest : List Char)
    (fuel depth : ℕ) :
    scanValue (fuel + 1) depth (value.compactChars ++ '\n' :: rest) =
      some (.ofScalar value, '\n' :: rest) := by
  obtain ⟨b, rfl⟩ | ⟨text, rfl, row⟩ := word.bool_or_string
  · have read : ofWord? (Json.bool b).compactChars = some (.ofScalar (.bool b)) := by
      cases b <;> rfl
    exact scanValue_of_isName (Json.isName_compactChars b) read rest fuel depth
  · have read := scanValue_of_isRow row rest fuel depth
    rw [String.ofList_toList] at read
    rw [Json.compactChars, row.quote_eq, List.cons_append, List.append_assoc]
    exact read

/-! ### Lines -/

namespace Statement

theorem skipLines_of_isName {cs : List Char} (isName : IsName cs) (rest : List Char) :
    skipLines (cs ++ rest) = cs ++ rest := by
  obtain ⟨first, more, rfl, -⟩ := isName.exists_cons
  have bare : isBare first = true := isName.row first List.mem_cons_self
  have noBlank := Word.isBlank_of_isBare bare
  have noComment : first ≠ '#' := Word.ne_of_isBare bare (by decide)
  have noReturn : first ≠ '\r' := Word.ne_of_isBare bare (by decide)
  have noBreak : first ≠ '\n' := Word.ne_of_isBare bare (by decide)
  rw [List.cons_append, skipLines.eq_4 _ _ noComment (fun _ same => absurd same noReturn)]
  simp [noBlank, noBreak]

/-- A line with a name between brackets is a header. -/
theorem scan_header {name : List Char} (isName : IsName name) (rest : List Char) :
    scan ('[' :: (name ++ ']' :: '\n' :: rest)) =
      some (.header ⟨[], String.ofList name⟩, rest) := by
  have path := scanPath_of_isName isName (c := ']') (by decide) ('\n' :: rest) rfl (by decide) 79
  rw [scan.eq_2 _ (isName.append_ne (by decide) _), maxDepth, path]
  rfl

/-- A line with a key and a scalar is an entry. -/
theorem scan_entry {key : List Char} (isName : IsName key) {value : Json} (word : value.IsWord)
    (rest : List Char) :
    scan (key ++ ' ' :: '=' :: ' ' :: (value.compactChars ++ '\n' :: rest)) =
      some (.entry ⟨[], String.ofList key⟩ (.ofScalar value), rest) := by
  have path := scanPath_of_isName isName (c := ' ') (by decide)
    ('=' :: ' ' :: (value.compactChars ++ '\n' :: rest)) rfl (by decide) 79
  have blanks : skipBlanks (' ' :: (value.compactChars ++ '\n' :: rest)) =
      value.compactChars ++ '\n' :: rest := skipBlanks_of_isWord word _
  rw [scan.eq_3 _ (fun _ => isName.append_ne (by decide) _ _) (isName.append_ne (by decide) _),
    maxDepth, path]
  simp only [Option.bind_eq_bind, Option.bind_some, blanks]
  rw [scanValue_of_isWord word]
  rfl

/-- Lines are statements, whatever comes behind them. -/
structure Reads (cs : List Char) (statements : List Statement) : Prop where
  length_le : statements.length ≤ cs.length
  readFrom_append : ∀ fuel rest, readFrom (fuel + statements.length) (cs ++ rest) =
    (statements ++ ·) <$> readFrom fuel rest

theorem Reads.nil : Reads [] [] where
  length_le := Nat.le_refl _
  readFrom_append fuel rest := by simp

theorem Reads.append {cs cs' : List Char} {statements statements' : List Statement}
    (reads : Reads cs statements) (reads' : Reads cs' statements') :
    Reads (cs ++ cs') (statements ++ statements') where
  length_le := by
    have here := reads.length_le
    have later := reads'.length_le
    simp only [List.length_append]
    omega
  readFrom_append fuel rest := by
    have fuels : fuel + (statements ++ statements').length =
        fuel + statements'.length + statements.length := by
      rw [List.length_append]
      omega
    rw [fuels, List.append_assoc, reads.readFrom_append, reads'.readFrom_append]
    simp [Function.comp_def]

/-- Each part of a text may be read by itself. -/
theorem Reads.flatMap {τ : Type} {parts : List τ} {lines : τ → List Char}
    {statements : τ → List Statement}
    (each : ∀ part ∈ parts, Reads (lines part) (statements part)) :
    Reads (parts.flatMap lines) (parts.flatMap statements) := by
  induction parts with
  | nil => exact Reads.nil
  | cons part parts ih =>
    rw [List.flatMap_cons, List.flatMap_cons]
    exact (each part List.mem_cons_self).append
      (ih fun part mem => each part (List.mem_cons_of_mem _ mem))

/-- A line is one statement. -/
theorem Reads.line {cs : List Char} {statement : Statement} (nonempty : cs ≠ [])
    (starts : ∀ rest, skipLines (cs ++ rest) = cs ++ rest)
    (scans : ∀ rest, scan (cs ++ rest) = some (statement, rest)) : Reads cs [statement] where
  length_le := List.length_pos_iff.mpr nonempty
  readFrom_append fuel rest := by
    rw [List.length_singleton, readFrom, starts]
    cases cs with
    | nil => exact absurd rfl nonempty
    | cons c cs =>
      have scanned := scans rest
      rw [List.cons_append] at scanned ⊢
      simp only [scanned, Option.bind_eq_bind, Option.bind_some]
      cases readFrom fuel rest <;> rfl

/-- The statements of lines are those of the text they are. -/
theorem Reads.readChars_eq {cs : List Char} {statements : List Statement}
    (reads : Reads cs statements) : readChars cs = some statements := by
  have length := reads.length_le
  have read := reads.readFrom_append (cs.length - statements.length + 1) []
  have fuels : cs.length - statements.length + 1 + statements.length = cs.length + 1 := by omega
  rw [List.append_nil, fuels] at read
  rw [readChars, read]
  simp [readFrom, skipLines]

end Statement

/-! ### The tables that statements build -/

namespace Entries

theorem alter_of_notMem {key : String} {entries : Entries} (notMem : key ∉ entries.map Prod.fst)
    (step : Option Node → Option Node) :
    entries.alter key step = (fun node => entries ++ [(key, node)]) <$> step none := by
  induction entries with
  | nil => rfl
  | cons entry entries ih =>
    obtain ⟨written, node⟩ := entry
    rw [List.map_cons, List.mem_cons, not_or] at notMem
    rw [alter, if_neg (Ne.symm notMem.1), ih notMem.2]
    simp [Function.comp_def]

/-- The last entry is found, unless its key stands before it. -/
theorem alter_append_last {key : String} {entries : Entries}
    (notMem : key ∉ entries.map Prod.fst) (node : Node) (step : Option Node → Option Node) :
    Entries.alter key step (entries ++ [(key, node)]) =
      (fun node => entries ++ [(key, node)]) <$> step (some node) := by
  induction entries with
  | nil => simp [alter]
  | cons entry entries ih =>
    obtain ⟨written, other⟩ := entry
    rw [List.map_cons, List.mem_cons, not_or] at notMem
    rw [List.cons_append, alter, if_neg (Ne.symm notMem.1), ih notMem.2]
    simp [Function.comp_def]

end Entries

/-- Entries below a header. -/
def rowStatements (rows : List (String × Value)) : List Statement :=
  rows.map fun (key, value) => .entry ⟨[], key⟩ value

/-- Tables below their headers. -/
def tableStatements (tables : List (String × List (String × Value))) : List Statement :=
  tables.flatMap fun (name, rows) => .header ⟨[], name⟩ :: rowStatements rows

/-- Entries as they stand in a table. -/
def rowEntries (rows : List (String × Value)) : Entries := rows.map fun (key, value) =>
  (key, .value value)

/-- Tables as they stand in a table. -/
def tableEntries (tables : List (String × List (String × Value))) : Entries :=
  tables.map fun (name, rows) => (name, .table .header (rowEntries rows))

/-- An entry is added to the table whose header stands last. -/
theorem Progress.add_entry {name key : String} {entries inner : Entries}
    (last : name ∉ entries.map Prod.fst) (new : key ∉ inner.map Prod.fst) (value : Value) :
    add ⟨entries ++ [(name, .table .header inner)], [name]⟩ (.entry ⟨[], key⟩ value) =
      some ⟨entries ++ [(name, .table .header (inner ++ [(key, .value value)]))], [name]⟩ := by
  rw [add, Entries.within, Entries.alter_append_last last]
  simp only [Entries.within, Entries.insert?]
  rw [Entries.alter_of_notMem new]
  rfl

/-- A table is added behind the others. -/
theorem Progress.add_header {name : String} {entries : Entries} {current : List String}
    (new : name ∉ entries.map Prod.fst) :
    add ⟨entries, current⟩ (.header ⟨[], name⟩) =
      some ⟨entries ++ [(name, .table .header [])], [name]⟩ := by
  rw [add, Entries.open?, Entries.within, Entries.alter_of_notMem new]
  rfl

/-- The entries below a header are added to its table. -/
theorem foldlM_rowStatements {name : String} {entries inner : Entries}
    {rows : List (String × Value)} (last : name ∉ entries.map Prod.fst)
    (distinct : (inner.map Prod.fst ++ rows.map Prod.fst).Nodup) :
    (rowStatements rows).foldlM Progress.add ⟨entries ++ [(name, .table .header inner)], [name]⟩ =
      some ⟨entries ++ [(name, .table .header (inner ++ rowEntries rows))], [name]⟩ := by
  induction rows generalizing inner with
  | nil =>
    rw [rowEntries, List.map_nil, List.append_nil]
    rfl
  | cons row rows ih =>
    obtain ⟨key, value⟩ := row
    rw [List.map_cons] at distinct
    have new : key ∉ inner.map Prod.fst := fun mem =>
      (List.nodup_cons.mp (List.nodup_middle.mp distinct)).1 (List.mem_append_left _ mem)
    rw [List.append_cons] at distinct
    have rest : ((inner ++ [(key, Node.value value)]).map Prod.fst ++ rows.map Prod.fst).Nodup := by
      rw [List.map_append]
      exact distinct
    rw [rowStatements, List.map_cons, List.foldlM_cons, Progress.add_entry last new]
    show (rowStatements rows).foldlM Progress.add _ = _
    rw [ih rest, List.append_assoc]
    rfl

/-- **Headers and the entries below them build their tables**, in their order. -/
theorem foldlM_tableStatements {tables : List (String × List (String × Value))}
    {entries : Entries} (distinct : (entries.map Prod.fst ++ tables.map Prod.fst).Nodup)
    (each : ∀ table ∈ tables, (table.2.map Prod.fst).Nodup) (current : List String) :
    ∃ current', (tableStatements tables).foldlM Progress.add ⟨entries, current⟩ =
      some ⟨entries ++ tableEntries tables, current'⟩ := by
  induction tables generalizing entries current with
  | nil =>
    refine ⟨current, ?_⟩
    rw [tableEntries, List.map_nil, List.append_nil]
    rfl
  | cons table tables ih =>
    obtain ⟨name, rows⟩ := table
    rw [List.map_cons] at distinct
    have new : name ∉ entries.map Prod.fst := fun mem =>
      (List.nodup_cons.mp (List.nodup_middle.mp distinct)).1 (List.mem_append_left _ mem)
    rw [List.append_cons] at distinct
    have alone : (([] : Entries).map Prod.fst ++ rows.map Prod.fst).Nodup :=
      each _ List.mem_cons_self
    have rest : ((entries ++ [(name, Node.table .header (rowEntries rows))]).map Prod.fst ++
        tables.map Prod.fst).Nodup := by
      rw [List.map_append]
      exact distinct
    obtain ⟨current', later⟩ :=
      ih rest (fun table mem => each table (List.mem_cons_of_mem _ mem)) [name]
    refine ⟨current', ?_⟩
    rw [tableStatements, List.flatMap_cons, List.cons_append, List.foldlM_cons,
      Progress.add_header new]
    show (rowStatements rows ++ tableStatements tables).foldlM Progress.add _ = _
    rw [List.foldlM_append, foldlM_rowStatements new alone]
    show (tableStatements tables).foldlM Progress.add _ = _
    rw [List.nil_append, later, List.append_assoc]
    rfl

theorem finishEntries_rowEntries (rows : List (String × Value)) :
    finishEntries (rowEntries rows) = rows := by
  induction rows with
  | nil => rfl
  | cons row rows ih =>
    show (row.1, (Node.value row.2).finish) :: finishEntries (rowEntries rows) = _
    rw [ih, Node.finish]

theorem finishEntries_tableEntries (tables : List (String × List (String × Value))) :
    finishEntries (tableEntries tables) = tables.map fun (name, rows) => (name, .table rows) := by
  induction tables with
  | nil => rfl
  | cons table tables ih =>
    show (table.1, (Node.table .header (rowEntries table.2)).finish) ::
      finishEntries (tableEntries tables) = _
    rw [ih, Node.finish, finishEntries_rowEntries]
    rfl

/-- A text of tables below their headers is a table of tables. -/
theorem read_of_reads {text : String} {tables : List (String × List (String × Value))}
    (reads : Statement.Reads (dropMark text.toList) (tableStatements tables))
    (distinct : (tables.map Prod.fst).Nodup)
    (each : ∀ table ∈ tables, (table.2.map Prod.fst).Nodup) :
    read text = some (.table (tables.map fun (name, rows) => (name, .table rows))) := by
  have apart : (([] : Entries).map Prod.fst ++ tables.map Prod.fst).Nodup := distinct
  obtain ⟨current, built⟩ := foldlM_tableStatements apart each []
  rw [read, Statement.readAll, reads.readChars_eq, Option.bind_eq_bind, Option.bind_some,
    Entries.ofStatements?, built]
  show some (Entries.finish (tableEntries tables)) = _
  rw [Entries.finish, finishEntries_tableEntries]

end Toml

/-! ### Sections as tables -/

namespace Section

/-- The entries of a section in TOML. -/
def tomlRows (part : Section) : List (String × Toml.Value) :=
  part.entries.map fun (key, value) => (key, .ofScalar value)

/-- Sections as tables. -/
def tomlTables (sections : List Section) : List (String × List (String × Toml.Value)) :=
  sections.map fun part => (part.name, part.tomlRows)

/-- The lines of a section are a header and entries. -/
theorem reads_tomlLines {part : Section} (words : ∀ entry ∈ part.entries, entry.2.IsWord) :
    Toml.Statement.Reads part.tomlLines
      (.header ⟨[], part.name⟩ :: Toml.rowStatements part.tomlRows) := by
  have header : Toml.Statement.Reads ('[' :: (part.name.toList ++ [']', '\n']))
      [.header ⟨[], part.name⟩] := by
    refine .line (List.cons_ne_nil _ _) (fun _ => rfl) fun rest => ?_
    have scanned := Toml.Statement.scan_header part.isName_name rest
    rw [String.ofList_toList] at scanned
    rw [List.cons_append, List.append_assoc]
    exact scanned
  have entries : Toml.Statement.Reads
      (part.entries.flatMap fun (key, value) =>
        key.toList ++ ' ' :: '=' :: ' ' :: (value.compactChars ++ ['\n']))
      (part.entries.flatMap fun (key, value) => [.entry ⟨[], key⟩ (.ofScalar value)]) := by
    refine .flatMap fun (key, value) mem => .line (by simp) (fun rest => ?_) fun rest => ?_
    · rw [List.append_assoc]
      exact Toml.Statement.skipLines_of_isName (isName_key mem) _
    · have scanned := Toml.Statement.scan_entry (isName_key mem) (words _ mem) rest
      rw [String.ofList_toList] at scanned
      simpa only [List.append_assoc, List.cons_append, List.nil_append] using scanned
  have both := header.append entries
  rw [← List.map_eq_flatMap, List.cons_append, List.append_assoc] at both
  rw [tomlLines, Toml.rowStatements, tomlRows, List.map_map]
  exact both

theorem reads_writeToml {sections : List Section}
    (words : ∀ part ∈ sections, ∀ entry ∈ part.entries, entry.2.IsWord) :
    Toml.Statement.Reads (writeToml sections) (Toml.tableStatements (tomlTables sections)) := by
  have each := Toml.Statement.Reads.flatMap fun part mem => reads_tomlLines (words part mem)
  rwa [Toml.tableStatements, tomlTables, List.flatMap_map]

/-- The value of tables holds the sections. -/
theorem holdsSections_tomlTables {sections : List Section}
    (words : ∀ part ∈ sections, ∀ entry ∈ part.entries, entry.2.IsWord) :
    Toml.Value.reader.HoldsSections sections
      (.table ((tomlTables sections).map fun (name, rows) => (name, .table rows))) := by
  have scalar {value : Json} (word : value.IsWord) :
      Toml.Value.reader.IsScalar value (.ofScalar value) := by
    obtain ⟨b, rfl⟩ | ⟨text, rfl, -⟩ := word.bool_or_string
    · rfl
    · exact ⟨rfl, rfl⟩
  have below : ∀ part ∈ sections,
      Toml.Value.reader.HoldsSection part (.table part.tomlRows) := by
    intro part mem
    refine SettingReader.isTable_of_entries?_eq _
      (fun entry inside => scalar (words part mem entry inside)) fun keys => ?_
    show some (part.tomlRows.map _) = _
    rw [tomlRows, List.map_map]
    rfl
  refine SettingReader.holdsSections_of_entries?_eq _ below fun keys => ?_
  show some (((tomlTables sections).map _).map _) = _
  rw [tomlTables, List.map_map, List.map_map]
  rfl

end Section

/-- **Sections that are written as tables are read as what they write.** -/
theorem Config.readToml_writeToml {sections : List Section} {settings : Settings}
    (writes : Section.Writes sections settings)
    (words : ∀ part ∈ sections, ∀ entry ∈ part.entries, entry.2.IsWord) :
    Config.readToml (String.ofList (Section.writeToml sections)) = some (settings.onto {}) := by
  have noMark : Line.dropMark (Section.writeToml sections) = Section.writeToml sections := by
    cases sections <;> rfl
  have reads := Section.reads_writeToml words
  rw [← noMark, ← @String.toList_ofList (Section.writeToml sections)] at reads
  have names : ((Section.tomlTables sections).map Prod.fst).Nodup := by
    rw [Section.tomlTables, List.map_map]
    exact writes.names_nodup
  have keys : ∀ table ∈ Section.tomlTables sections, (table.2.map Prod.fst).Nodup := by
    intro table mem
    obtain ⟨part, inside, rfl⟩ := List.mem_map.mp mem
    show (part.tomlRows.map Prod.fst).Nodup
    rw [Section.tomlRows, List.map_map]
    exact writes.keys_nodup part inside
  rw [Config.readToml, Toml.read_of_reads reads names keys]
  exact Config.ofValue?_of_holds writes (Section.holdsSections_tomlTables words)

end RouterCall
