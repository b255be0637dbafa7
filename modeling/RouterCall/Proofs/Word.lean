import RouterCall.Config.File
import RouterCall.Proofs.Arrangement

/-!
# Words of settings files

The names of sections, the keys, the truth values and the texts of settings consist of letters,
digits, underscores and dashes. No notation gives these characters a meaning of their own: none has
to be escaped, none divides, none is a blank. That is looked up in the table of the characters of
ASCII, once for all notations.

## Main definitions

* `Word.IsRow`, `Word.IsName`: rows of such characters, and those that a letter begins
* `Json.IsWord`: truth values and texts that are such rows

## Main results

* `Word.forall_of_isBare`: what the table says holds of each of the characters
* `Section.isName_name`, `Section.isName_key`, `Section.isWord_value`: what a section consists of
-/

namespace RouterCall

open Toml (isBare)

namespace Word

/-! ### Characters -/

/-- What holds of the characters of words by the table of ASCII holds of all of them. -/
theorem forall_of_isBare {p : Char → Prop}
    (table : ∀ n < 128, isBare (Char.ofNat n) = true → p (Char.ofNat n)) {c : Char}
    (bare : isBare c = true) : p c := by
  have small : c.toNat < 128 := by
    delta isBare Char.isAlphanum Char.isAlpha Char.isUpper Char.isLower Char.isDigit at bare
    simp only [Bool.or_eq_true, Bool.and_eq_true, decide_eq_true_eq, UInt32.le_iff_toNat_le,
      ge_iff_le, Char.reduceVal, UInt32.reduceToNat] at bare
    have code : c.toNat = c.val.toNat := rfl
    rcases bare with (((⟨_, _⟩ | ⟨_, _⟩) | ⟨_, _⟩) | rfl) | rfl
    · omega
    · omega
    · omega
    · decide
    · decide
  have found := table c.toNat small
  rw [Char.ofNat_toNat] at found
  exact found bare

theorem ne_of_isBare {c d : Char} (bare : isBare c = true) (other : isBare d = false) : c ≠ d := by
  rintro rfl
  rw [bare] at other
  cases other

theorem escape_of_isBare {c : Char} (bare : isBare c = true) : Json.escape c = [c] :=
  forall_of_isBare (p := fun c => Json.escape c = [c]) (by decide +kernel) bare

theorem isBlank_of_isBare {c : Char} (bare : isBare c = true) : Line.isBlank c = false :=
  forall_of_isBare (p := fun c => Line.isBlank c = false) (by decide +kernel) bare

/-! ### Rows of characters -/

/-- A row of letters, digits, underscores and dashes. -/
def IsRow (cs : List Char) : Prop := ∀ c ∈ cs, isBare c = true

instance (cs : List Char) : Decidable (IsRow cs) := List.decidableBAll _ cs

/-- A row that a letter begins. -/
structure IsName (cs : List Char) : Prop where
  row : IsRow cs
  letter : cs.head?.any Char.isAlpha = true

instance (cs : List Char) : Decidable (IsName cs) :=
  decidable_of_iff (IsRow cs ∧ cs.head?.any Char.isAlpha = true)
    ⟨fun h => ⟨h.1, h.2⟩, fun h => ⟨h.1, h.2⟩⟩

theorem IsName.exists_cons {cs : List Char} (isName : IsName cs) :
    ∃ c rest, cs = c :: rest ∧ c.isAlpha = true := by
  obtain ⟨-, letter⟩ := isName
  cases cs with
  | nil => cases letter
  | cons c rest => exact ⟨c, rest, rfl, letter⟩

/-- No other character stands where a name does. -/
theorem IsName.append_ne {cs : List Char} (isName : IsName cs) {d : Char}
    (other : isBare d = false) (rest tail : List Char) : cs ++ rest ≠ d :: tail := by
  obtain ⟨first, more, rfl, -⟩ := isName.exists_cons
  intro same
  exact ne_of_isBare (isName.row first List.mem_cons_self) other (List.cons.inj same).1

/-- A row needs no escapes. -/
theorem IsRow.quote_eq {text : String} (row : IsRow text.toList) :
    Json.quote text = '"' :: (text.toList ++ ['"']) := by
  have same : text.toList.flatMap Json.escape = text.toList := by
    generalize text.toList = cs at row
    induction cs with
    | nil => rfl
    | cons c rest ih =>
      obtain ⟨bare, row⟩ := List.forall_mem_cons.mp row
      rw [List.flatMap_cons, escape_of_isBare bare, ih row]
      rfl
  rw [Json.quote, same]

/-- A row is what is taken from a text, up to a character that is none of a row. -/
theorem IsRow.takeWhile_eq {test : Char → Bool} {cs : List Char} (each : ∀ c ∈ cs, test c = true)
    {c : Char} (stop : test c = false) (rest : List Char) :
    (cs ++ c :: rest).takeWhile test = cs ∧ (cs ++ c :: rest).dropWhile test = c :: rest := by
  rw [List.takeWhile_append_of_pos each, List.dropWhile_append_of_pos each,
    List.takeWhile_cons_of_neg (by simp [stop]), List.dropWhile_cons_of_neg (by simp [stop]),
    List.append_nil]
  exact ⟨rfl, rfl⟩

end Word

/-! ### Sections -/

/-- A truth value, or a text that is a row of letters, digits, underscores and dashes. -/
def Json.IsWord : Json → Prop
  | .bool _ => True
  | .string text => Word.IsRow text.toList
  | _ => False

/-- A truth value is written as a name. -/
theorem Json.isName_compactChars (b : Bool) : Word.IsName (Json.bool b).compactChars := by
  cases b <;> decide

theorem Json.IsWord.bool_or_string {value : Json} (word : value.IsWord) :
    (∃ b, value = .bool b) ∨ ∃ text, value = .string text ∧ Word.IsRow text.toList := by
  cases value with
  | bool b => exact .inl ⟨b, rfl⟩
  | string text => exact .inr ⟨text, rfl, word⟩
  | null => exact word.elim
  | number n => exact word.elim
  | array items => exact word.elim
  | object members => exact word.elim

namespace Section

theorem name_mem (part : Section) : part.name ∈ ["validation", "logging"] := by
  cases part with
  | validation _ => exact List.mem_cons_self
  | logging _ => exact List.mem_cons_of_mem _ List.mem_cons_self

theorem key_mem {part : Section} {key : String} {value : Json}
    (mem : (key, value) ∈ part.entries) : key ∈ [Policy.unknownNamesKey, "level", "json"] := by
  cases part with
  | validation treatment =>
    cases treatment with
    | none => cases mem
    | some treatment =>
      cases List.mem_singleton.mp mem
      exact List.mem_cons_self
  | logging log =>
    obtain ⟨setting, -, same⟩ := List.mem_map.mp mem
    cases setting <;> cases same <;> simp

theorem isName_name (part : Section) : Word.IsName part.name.toList := by
  have each : ∀ name ∈ ["validation", "logging"], Word.IsName name.toList := by decide +kernel
  exact each _ part.name_mem

/-- The keys of a section are names. -/
theorem isName_key {part : Section} {key : String} {value : Json}
    (mem : (key, value) ∈ part.entries) : Word.IsName key.toList := by
  have each : ∀ key ∈ [Policy.unknownNamesKey, "level", "json"], Word.IsName key.toList := by
    decide +kernel
  exact each _ (key_mem mem)

/-- The values of a section are words, if the level is. -/
theorem isWord_value {part : Section} {key : String} {value : Json}
    (mem : (key, value) ∈ part.entries)
    (level : ∀ text, .level text ∈ part.logSettings → Word.IsRow text.toList) : value.IsWord := by
  cases part with
  | validation treatment =>
    cases treatment with
    | none => cases mem
    | some treatment =>
      cases List.mem_singleton.mp mem
      cases treatment with
      | reject =>
        show Word.IsRow _
        decide +kernel
      | acceptAsFallback =>
        show Word.IsRow _
        decide +kernel
  | logging log =>
    obtain ⟨setting, listed, same⟩ := List.mem_map.mp mem
    cases setting with
    | level text =>
      cases same
      exact level text listed
    | json b =>
      cases same
      trivial

end Section

end RouterCall
