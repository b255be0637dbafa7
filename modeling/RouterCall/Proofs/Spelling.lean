import RouterCall.Proofs.Literal

/-!
# Texts that spell a value

What a JSON text looks like is said here from the side of the value: the tokens of the value in
order, with blanks wherever the grammar lets them stand. The two layouts of the library are two such
spellings, and the reader reads any of them. So nothing about blanks has to be said about the reader
and the writer together, and a third layout would be read as well once it is shown to be a spelling.

The reader takes a text apart and leaves the literals as they are written, so what it gives is the
`Json.document` of the value and not yet the value.

## Main definitions

* `Json.Spells`: a text spells a value
* `Json.document`: the document of a value

## Main results

* `Document.readChars_of_spells`: a spelled text is read as the document of its value
* `Json.spells_compactChars`, `Json.spells_prettyChars`: both layouts are spellings
-/

namespace RouterCall

namespace Json

/-! ### The grammar -/

/-- A row of blanks. -/
def IsGap (cs : List Char) : Prop := ∀ c ∈ cs, Document.isBlank c = true

mutual

/-- A text spells a value: some blanks and then its tokens, with blanks between them. -/
def Spells : Json → List Char → Prop
  | .null, cs => ∃ gap, IsGap gap ∧ cs = gap ++ ['n', 'u', 'l', 'l']
  | .bool true, cs => ∃ gap, IsGap gap ∧ cs = gap ++ ['t', 'r', 'u', 'e']
  | .bool false, cs => ∃ gap, IsGap gap ∧ cs = gap ++ ['f', 'a', 'l', 's', 'e']
  | .number n, cs => ∃ gap, IsGap gap ∧ cs = gap ++ n.numeral.chars
  | .string s, cs => ∃ gap, IsGap gap ∧ cs = gap ++ quote s
  | .array items, cs =>
    ∃ gap inner, IsGap gap ∧ SpellItems items inner ∧ cs = gap ++ '[' :: inner
  | .object members, cs =>
    ∃ gap inner, IsGap gap ∧ SpellMembers members inner ∧ cs = gap ++ '{' :: inner

/-- A text spells the items of an array up to the closing bracket. -/
def SpellItems : List Json → List Char → Prop
  | [], cs => ∃ gap, IsGap gap ∧ cs = gap ++ [']']
  | [item], cs => ∃ text gap, item.Spells text ∧ IsGap gap ∧ cs = text ++ (gap ++ [']'])
  | item :: items, cs => ∃ text gap rest, item.Spells text ∧ IsGap gap ∧ SpellItems items rest ∧
      cs = text ++ (gap ++ ',' :: rest)

/-- A text spells the members of an object up to the closing brace. -/
def SpellMembers : List (String × Json) → List Char → Prop
  | [], cs => ∃ gap, IsGap gap ∧ cs = gap ++ ['}']
  | [(key, value)], cs => ∃ before behind text gap, IsGap before ∧ IsGap behind ∧
      value.Spells text ∧ IsGap gap ∧
      cs = before ++ (quote key ++ (behind ++ ':' :: (text ++ (gap ++ ['}']))))
  | (key, value) :: members, cs => ∃ before behind text gap rest, IsGap before ∧ IsGap behind ∧
      value.Spells text ∧ IsGap gap ∧ SpellMembers members rest ∧
      cs = before ++ (quote key ++ (behind ++ ':' :: (text ++ (gap ++ ',' :: rest))))

end

mutual

/-- The document of a value, each number as the literal it is written as. -/
def document : Json → Document
  | .null => .null
  | .bool b => .bool b
  | .number n => .number n.numeral
  | .string s => .string (some s)
  | .array items => .array (documentItems items)
  | .object members => .object (documentMembers members)

/-- The documents of items. -/
def documentItems : List Json → List Document
  | [] => []
  | item :: items => item.document :: documentItems items

/-- The documents of members. -/
def documentMembers : List (String × Json) → List (Option String × Document)
  | [] => []
  | (key, value) :: members => (some key, value.document) :: documentMembers members

end

end Json

/-! ### Reading a spelling -/

namespace Document

open Json (IsGap)

theorem skipBlanks_append {gap : List Char} (h : IsGap gap) (cs : List Char) :
    skipBlanks (gap ++ cs) = skipBlanks cs :=
  List.dropWhile_append_of_pos h

theorem skipBlanks_cons {c : Char} (h : isBlank c = false) (cs : List Char) :
    skipBlanks (c :: cs) = c :: cs := by
  simp [skipBlanks, h]

/-- No blank goes on with a number. -/
theorem ends_gap {gap : List Char} (h : IsGap gap) : Numeral.Ends gap := by
  intro c mem
  have blank := h c (List.mem_of_mem_head? mem)
  simp only [isBlank, Bool.or_eq_true, decide_eq_true_eq, or_assoc] at blank
  obtain rfl | rfl | rfl | rfl := blank <;> decide

/-- No blank goes on with a number, and none of the marks behind values does. -/
theorem ends_gap_append {gap : List Char} (h : IsGap gap) {c : Char}
    (mark : c = ',' ∨ c = ']' ∨ c = '}') (rest : List Char) : Numeral.Ends (gap ++ c :: rest) := by
  cases gap with
  | nil =>
    rintro c ⟨⟩
    obtain rfl | rfl | rfl := mark <;> decide
  | cons b gap => exact fun c mem => ends_gap h c mem

theorem exists_chars_eq_cons {n : Numeral} (h : n.IsLiteral) :
    ∃ c rest, n.chars = c :: rest ∧ (c = '-' ∨ c.isDigit = true) := by
  rw [Numeral.chars_eq]
  cases n.negative with
  | true => exact ⟨_, _, rfl, .inl rfl⟩
  | false =>
    obtain ⟨c, cs, starts⟩ := List.exists_cons_of_ne_nil h.nonempty
    exact ⟨c, cs ++ n.tail, by simp [starts], .inr (h.whole c (by simp [starts]))⟩

theorem isBlank_of_start {c : Char} (h : c = '-' ∨ c.isDigit = true) :
    isBlank c = false ∧ c ≠ ']' := by
  obtain rfl | digit := h
  · decide
  · obtain ⟨k, small, rfl⟩ := Amount.exists_digitChar digit
    revert k
    decide

/-- How a value starts behind its blanks: not like the end of an array. -/
theorem exists_start_of_spells {value : Json} {cs : List Char} (h : value.Spells cs) :
    ∃ gap c rest, IsGap gap ∧ cs = gap ++ c :: rest ∧ isBlank c = false ∧ c ≠ ']' := by
  match value with
  | .null | .bool true | .bool false | .string _ =>
    obtain ⟨gap, blank, rfl⟩ := h
    exact ⟨gap, _, _, blank, rfl, rfl, by decide⟩
  | .number n =>
    obtain ⟨gap, blank, rfl⟩ := h
    obtain ⟨c, rest, starts, sign⟩ := exists_chars_eq_cons n.isLiteral_numeral
    exact ⟨gap, c, rest, blank, by rw [starts], isBlank_of_start sign⟩
  | .array _ | .object _ =>
    obtain ⟨gap, inner, blank, -, rfl⟩ := h
    exact ⟨gap, _, _, blank, rfl, rfl, by decide⟩

theorem ne_nil_of_spells {value : Json} {cs : List Char} (h : value.Spells cs) : cs ≠ [] := by
  obtain ⟨gap, c, rest, -, rfl, -⟩ := exists_start_of_spells h
  simp

/-- The items of an array do not start like its end. -/
theorem skipBlanks_items {item : Json} {items : List Json} {cs : List Char}
    (h : Json.SpellItems (item :: items) cs) (rest : List Char) :
    ∃ c tail, skipBlanks (cs ++ rest) = c :: tail ∧ c ≠ ']' := by
  obtain ⟨text, behind, spelled, rfl⟩ : ∃ text behind, item.Spells text ∧ cs = text ++ behind := by
    cases items with
    | nil =>
      obtain ⟨text, gap, spelled, -, rfl⟩ := h
      exact ⟨text, _, spelled, rfl⟩
    | cons other items =>
      obtain ⟨text, gap, tail, spelled, -, -, rfl⟩ := h
      exact ⟨text, _, spelled, rfl⟩
  obtain ⟨gap, c, tail, blank, rfl, notBlank, notEnd⟩ := exists_start_of_spells spelled
  refine ⟨c, tail ++ behind ++ rest, ?_, notEnd⟩
  simp only [List.append_assoc, List.cons_append]
  rw [skipBlanks_append blank, skipBlanks_cons notBlank]

/-- The members of an object do not start like its end. -/
theorem skipBlanks_members {member : String × Json} {members : List (String × Json)}
    {cs : List Char} (h : Json.SpellMembers (member :: members) cs) (rest : List Char) :
    ∃ c tail, skipBlanks (cs ++ rest) = c :: tail ∧ c ≠ '}' := by
  obtain ⟨gap, behind, blank, rfl⟩ : ∃ gap behind, IsGap gap ∧
      cs = gap ++ (Json.quote member.1 ++ behind) := by
    cases members with
    | nil =>
      obtain ⟨before, behind, text, gap, blank, -, -, -, rfl⟩ := h
      exact ⟨before, _, blank, rfl⟩
    | cons other members =>
      obtain ⟨before, behind, text, gap, tail, blank, -, -, -, -, rfl⟩ := h
      exact ⟨before, _, blank, rfl⟩
  refine ⟨'"', member.1.toList.flatMap Json.escape ++ ['"'] ++ behind ++ rest, ?_, by decide⟩
  rw [List.append_assoc, skipBlanks_append blank, Json.quote]
  exact skipBlanks_cons rfl _

/-! ### One token at a time -/

theorem scan_number {gap : List Char} (h : IsGap gap) {n : Numeral} (literal : n.IsLiteral)
    (fuel : ℕ) {rest : List Char} (ends : Numeral.Ends rest) :
    scan (fuel + 1) (gap ++ n.chars ++ rest) = some (.number n, rest) := by
  obtain ⟨c, cs, starts, sign⟩ := exists_chars_eq_cons literal
  have read := Numeral.scan_chars literal ends
  rw [List.append_assoc]
  rw [starts, List.cons_append] at read ⊢
  rw [scan, skipBlanks_append h, skipBlanks_cons (isBlank_of_start sign).1]
  split <;> simp_all

theorem scan_string {gap : List Char} (h : IsGap gap) (text : String) (fuel : ℕ)
    (rest : List Char) :
    scan (fuel + 1) (gap ++ Json.quote text ++ rest) = some (.string (some text), rest) := by
  rw [List.append_assoc, scan, skipBlanks_append h, Json.quote, List.cons_append,
    List.append_assoc, skipBlanks_cons rfl]
  simp only [List.singleton_append, scanText_quote]
  rfl

theorem scan_array {gap : List Char} (h : IsGap gap) (fuel : ℕ) (rest : List Char) :
    scan (fuel + 1) (gap ++ '[' :: rest) = match skipBlanks rest with
      | ']' :: rest => some (.array [], rest)
      | _ => do
        let (items, rest) ← scanItems fuel rest
        return (.array items, rest) := by
  rw [scan, skipBlanks_append h]
  rfl

theorem scan_object {gap : List Char} (h : IsGap gap) (fuel : ℕ) (rest : List Char) :
    scan (fuel + 1) (gap ++ '{' :: rest) = match skipBlanks rest with
      | '}' :: rest => some (.object [], rest)
      | _ => do
        let (members, rest) ← scanMembers fuel rest
        return (.object members, rest) := by
  rw [scan, skipBlanks_append h]
  rfl

theorem scanItems_last {fuel : ℕ} {cs gap rest : List Char} {item : Document} (blank : IsGap gap)
    (read : scan fuel cs = some (item, gap ++ ']' :: rest)) :
    scanItems (fuel + 1) cs = some ([item], rest) := by
  rw [scanItems, read]
  simp only [Option.bind_eq_bind, Option.bind_some]
  rw [skipBlanks_append blank]
  rfl

theorem scanItems_more {fuel : ℕ} {cs gap tail rest : List Char} {item : Document}
    {items : List Document} (blank : IsGap gap)
    (read : scan fuel cs = some (item, gap ++ ',' :: tail))
    (readRest : scanItems fuel tail = some (items, rest)) :
    scanItems (fuel + 1) cs = some (item :: items, rest) := by
  rw [scanItems, read]
  simp only [Option.bind_eq_bind, Option.bind_some]
  rw [skipBlanks_append blank, skipBlanks_cons rfl]
  simp only [readRest, Option.bind_some]
  rfl

theorem scanMembers_key {fuel : ℕ} {before behind cs rest : List Char} (blankBefore : IsGap before)
    (blankBehind : IsGap behind) {key : String} {value : Document}
    (read : scan fuel cs = some (value, rest)) :
    scanMembers (fuel + 1) (before ++ (Json.quote key ++ (behind ++ ':' :: cs))) =
      match skipBlanks rest with
      | ',' :: rest => do
        let (members, rest) ← scanMembers fuel rest
        return ((some key, value) :: members, rest)
      | '}' :: rest => some ([(some key, value)], rest)
      | _ => none := by
  rw [scanMembers, skipBlanks_append blankBefore, Json.quote, List.cons_append,
    skipBlanks_cons rfl]
  simp only [List.append_assoc, List.singleton_append, scanText_quote, Option.bind_eq_bind,
    Option.bind_some]
  rw [skipBlanks_append blankBehind, skipBlanks_cons rfl]
  simp only [read, Option.bind_some]
  rfl

/-! ### Whole values -/

theorem exists_fuel {cs : List Char} {fuel : ℕ} (nonempty : cs ≠ [])
    (enough : 2 * cs.length ≤ fuel) : ∃ k, fuel = k + 1 := by
  have := List.length_pos_iff.mpr nonempty
  exact ⟨fuel - 1, by omega⟩

-- the recursion is on the value; a level of brackets costs two of the fuel and has two characters
mutual

/-- A spelled value is read up to its end, whatever follows that does not go on with it. -/
theorem scan_of_spells : ∀ (value : Json) {cs : List Char}, value.Spells cs → ∀ {fuel : ℕ}
    {rest : List Char}, Numeral.Ends rest → 2 * cs.length ≤ fuel →
      scan fuel (cs ++ rest) = some (value.document, rest)
  | .null, _, ⟨gap, blank, rfl⟩, fuel, rest, _, enough
  | .bool true, _, ⟨gap, blank, rfl⟩, fuel, rest, _, enough
  | .bool false, _, ⟨gap, blank, rfl⟩, fuel, rest, _, enough => by
    obtain ⟨fuel, rfl⟩ := exists_fuel (by simp) enough
    rw [List.append_assoc, scan, skipBlanks_append blank]
    rfl
  | .string s, _, ⟨gap, blank, rfl⟩, fuel, rest, _, enough => by
    obtain ⟨fuel, rfl⟩ := exists_fuel (by simp [Json.quote]) enough
    exact scan_string blank s fuel rest
  | .number n, _, ⟨gap, blank, rfl⟩, fuel, rest, ends, enough => by
    have spelled : Json.Spells (.number n) (gap ++ n.numeral.chars) := ⟨gap, blank, rfl⟩
    obtain ⟨fuel, rfl⟩ := exists_fuel (ne_nil_of_spells spelled) enough
    exact scan_number blank n.isLiteral_numeral fuel ends
  | .array [], _, ⟨gap, _, blank, ⟨gap', blank', rfl⟩, rfl⟩, fuel, rest, _, enough => by
    obtain ⟨fuel, rfl⟩ := exists_fuel (by simp) enough
    rw [List.append_assoc, List.cons_append, scan_array blank, List.append_assoc,
      skipBlanks_append blank']
    rfl
  | .array (item :: items), _, ⟨gap, inner, blank, each, rfl⟩, fuel, rest, _, enough => by
    obtain ⟨fuel, rfl⟩ := exists_fuel (by simp) enough
    simp only [List.length_append, List.length_cons] at enough
    have read : scanItems fuel (inner ++ rest) =
        some (Json.documentItems (item :: items), rest) :=
      scanItems_of_spells (item :: items) (by simp) each (by omega)
    obtain ⟨c, tail, starts, notEnd⟩ := skipBlanks_items each rest
    rw [List.append_assoc, List.cons_append, scan_array blank, starts, read]
    split
    · next same =>
      cases same
      exact absurd rfl notEnd
    · rfl
  | .object [], _, ⟨gap, _, blank, ⟨gap', blank', rfl⟩, rfl⟩, fuel, rest, _, enough => by
    obtain ⟨fuel, rfl⟩ := exists_fuel (by simp) enough
    rw [List.append_assoc, List.cons_append, scan_object blank, List.append_assoc,
      skipBlanks_append blank']
    rfl
  | .object (member :: members), _, ⟨gap, inner, blank, each, rfl⟩, fuel, rest, _, enough => by
    obtain ⟨fuel, rfl⟩ := exists_fuel (by simp) enough
    simp only [List.length_append, List.length_cons] at enough
    have read : scanMembers fuel (inner ++ rest) =
        some (Json.documentMembers (member :: members), rest) :=
      scanMembers_of_spells (member :: members) (by simp) each (by omega)
    obtain ⟨c, tail, starts, notEnd⟩ := skipBlanks_members each rest
    rw [List.append_assoc, List.cons_append, scan_object blank, starts, read]
    split
    · next same =>
      cases same
      exact absurd rfl notEnd
    · rfl

theorem scanItems_of_spells : ∀ (items : List Json), items ≠ [] → ∀ {cs : List Char},
    Json.SpellItems items cs → ∀ {fuel : ℕ} {rest : List Char}, 2 * cs.length ≤ fuel →
      scanItems fuel (cs ++ rest) = some (Json.documentItems items, rest)
  | [], nonempty, _, _, _, _, _ => absurd rfl nonempty
  | [item], _, _, ⟨text, gap, spelled, blank, rfl⟩, fuel, rest, enough => by
    obtain ⟨fuel, rfl⟩ := exists_fuel (by simp) enough
    simp only [List.length_append, List.length_singleton] at enough
    rw [List.append_assoc, List.append_assoc]
    exact scanItems_last blank
      (scan_of_spells item spelled (ends_gap_append blank (by simp) _) (by omega))
  | item :: other :: items, _, _, ⟨text, gap, tail, spelled, blank, each, rfl⟩, fuel, rest,
      enough => by
    obtain ⟨fuel, rfl⟩ := exists_fuel (by simp) enough
    simp only [List.length_append, List.length_cons] at enough
    rw [List.append_assoc, List.append_assoc]
    exact scanItems_more blank
      (scan_of_spells item spelled (ends_gap_append blank (by simp) _) (by omega))
      (scanItems_of_spells (other :: items) (by simp) each (by omega))

theorem scanMembers_of_spells : ∀ (members : List (String × Json)), members ≠ [] →
    ∀ {cs : List Char}, Json.SpellMembers members cs → ∀ {fuel : ℕ} {rest : List Char},
      2 * cs.length ≤ fuel →
        scanMembers fuel (cs ++ rest) = some (Json.documentMembers members, rest)
  | [], nonempty, _, _, _, _, _ => absurd rfl nonempty
  | [(key, value)], _, _,
      ⟨before, behind, text, gap, blankBefore, blankBehind, spelled, blank, rfl⟩, fuel, rest,
      enough => by
    obtain ⟨fuel, rfl⟩ := exists_fuel (by simp [Json.quote]) enough
    simp only [List.length_append, List.length_cons] at enough
    have read := scan_of_spells value spelled
      (ends_gap_append blank (.inr (.inr rfl)) rest) (show _ ≤ fuel by omega)
    simp only [List.append_assoc, List.cons_append, List.nil_append]
    rw [scanMembers_key blankBefore blankBehind read, skipBlanks_append blank]
    rfl
  | (key, value) :: other :: members, _, _,
      ⟨before, behind, text, gap, tail, blankBefore, blankBehind, spelled, blank, each, rfl⟩, fuel,
      rest, enough => by
    obtain ⟨fuel, rfl⟩ := exists_fuel (by simp [Json.quote]) enough
    simp only [List.length_append, List.length_cons] at enough
    have read := scan_of_spells value spelled
      (ends_gap_append blank (.inl rfl) (tail ++ rest)) (show _ ≤ fuel by omega)
    have readRest : scanMembers fuel (tail ++ rest) =
        some (Json.documentMembers (other :: members), rest) :=
      scanMembers_of_spells (other :: members) (by simp) each (by omega)
    simp only [List.append_assoc, List.cons_append]
    rw [scanMembers_key blankBefore blankBehind read, skipBlanks_append blank, skipBlanks_cons rfl]
    simp only [readRest, Option.bind_eq_bind, Option.bind_some]
    rfl

end

/-- **A spelled text is read as the document of its value**, also with blanks behind it. -/
theorem readChars_of_spells {value : Json} {cs gap : List Char} (h : value.Spells cs)
    (blank : IsGap gap) : readChars (cs ++ gap) = some value.document := by
  have enough : 2 * cs.length ≤ 2 * (cs ++ gap).length + 1 := by
    rw [List.length_append]
    omega
  have atEnd : skipBlanks gap = [] := by
    have := skipBlanks_append blank []
    rwa [List.append_nil] at this
  rw [readChars, scan_of_spells value h (ends_gap blank) enough]
  simp [atEnd]

end Document

/-! ### The two layouts -/

namespace Json

theorem isGap_nil : IsGap [] := List.forall_mem_nil _

theorem isGap_blank : IsGap [' '] := by
  intro c mem
  rw [List.mem_singleton.mp mem]
  rfl

theorem isGap_newLine (depth : ℕ) : IsGap (newLine depth) := by
  intro c mem
  obtain rfl | mem := List.mem_cons.mp mem
  · rfl
  · rw [List.eq_of_mem_replicate mem]
    rfl

theorem IsGap.append {gap gap' : List Char} (h : IsGap gap) (h' : IsGap gap') :
    IsGap (gap ++ gap') :=
  List.forall_mem_append.mpr ⟨h, h'⟩

/-- More blanks may stand in front of a value. -/
theorem Spells.gap_append {gap cs : List Char} (blank : IsGap gap) :
    ∀ {value : Json}, value.Spells cs → value.Spells (gap ++ cs)
  | .null, ⟨gap', blank', same⟩ | .bool true, ⟨gap', blank', same⟩
  | .bool false, ⟨gap', blank', same⟩ | .number _, ⟨gap', blank', same⟩
  | .string _, ⟨gap', blank', same⟩ =>
    ⟨gap ++ gap', blank.append blank', by rw [same, List.append_assoc]⟩
  | .array _, ⟨gap', inner, blank', each, same⟩ | .object _, ⟨gap', inner, blank', each, same⟩ =>
    ⟨gap ++ gap', inner, blank.append blank', each, by rw [same, List.append_assoc]⟩

mutual

/-- **The compact layout spells the value.** -/
theorem spells_compactChars : ∀ value : Json, value.Spells value.compactChars
  | .null | .bool true | .bool false | .number _ | .string _ => ⟨[], isGap_nil, rfl⟩
  | .array items => ⟨[], _, isGap_nil, spellItems_compactItems items, rfl⟩
  | .object members => ⟨[], _, isGap_nil, spellMembers_compactMembers members, rfl⟩

theorem spellItems_compactItems : ∀ items : List Json,
    SpellItems items (compactItems items ++ [']'])
  | [] => ⟨[], isGap_nil, rfl⟩
  | [item] => ⟨_, [], spells_compactChars item, isGap_nil, rfl⟩
  | item :: other :: items => ⟨_, [], _, spells_compactChars item, isGap_nil,
      spellItems_compactItems (other :: items), by simp [compactItems]⟩

theorem spellMembers_compactMembers : ∀ members : List (String × Json),
    SpellMembers members (compactMembers members ++ ['}'])
  | [] => ⟨[], isGap_nil, rfl⟩
  | [(_, value)] => ⟨[], [], _, [], isGap_nil, isGap_nil, spells_compactChars value, isGap_nil,
      by simp [compactMembers]⟩
  | (_, value) :: other :: members => ⟨[], [], _, [], _, isGap_nil, isGap_nil,
      spells_compactChars value, isGap_nil, spellMembers_compactMembers (other :: members),
      by simp [compactMembers]⟩

end

mutual

/-- **The pretty layout spells the value**, inside any number of containers. -/
theorem spells_prettyChars : ∀ (value : Json) (depth : ℕ), value.Spells (value.prettyChars depth)
  | .null, _ | .bool true, _ | .bool false, _ | .number _, _ | .string _, _ =>
    ⟨[], isGap_nil, rfl⟩
  | .array [], _ => ⟨[], _, isGap_nil, ⟨[], isGap_nil, rfl⟩, rfl⟩
  | .array (item :: items), depth => ⟨[], _, isGap_nil,
      spellItems_prettyItems (item :: items) (by simp) (depth + 1) (isGap_newLine depth),
      by simp [prettyChars]⟩
  | .object [], _ => ⟨[], _, isGap_nil, ⟨[], isGap_nil, rfl⟩, rfl⟩
  | .object (member :: members), depth => ⟨[], _, isGap_nil,
      spellMembers_prettyMembers (member :: members) (by simp) (depth + 1) (isGap_newLine depth),
      by simp [prettyChars]⟩

theorem spellItems_prettyItems : ∀ items : List Json, items ≠ [] → ∀ (depth : ℕ)
    {gap : List Char}, IsGap gap → SpellItems items (prettyItems depth items ++ (gap ++ [']']))
  | [], nonempty, _, _, _ => absurd rfl nonempty
  | [item], _, depth, gap, blank =>
    ⟨_, gap, (spells_prettyChars item depth).gap_append (isGap_newLine depth), blank, rfl⟩
  | item :: other :: items, _, depth, _, blank =>
    ⟨_, [], _, (spells_prettyChars item depth).gap_append (isGap_newLine depth), isGap_nil,
      spellItems_prettyItems (other :: items) (by simp) depth blank, by simp [prettyItems]⟩

theorem spellMembers_prettyMembers : ∀ members : List (String × Json), members ≠ [] →
    ∀ (depth : ℕ) {gap : List Char}, IsGap gap →
      SpellMembers members (prettyMembers depth members ++ (gap ++ ['}']))
  | [], nonempty, _, _, _ => absurd rfl nonempty
  | [(_, value)], _, depth, gap, blank =>
    ⟨_, [], _, gap, isGap_newLine depth, isGap_nil,
      (spells_prettyChars value depth).gap_append isGap_blank, blank, by simp [prettyMembers]⟩
  | (_, value) :: other :: members, _, depth, _, blank =>
    ⟨_, [], _, [], _, isGap_newLine depth, isGap_nil,
      (spells_prettyChars value depth).gap_append isGap_blank, isGap_nil,
      spellMembers_prettyMembers (other :: members) (by simp) depth blank,
      by simp [prettyMembers]⟩

end

end Json

end RouterCall
