import RouterCall.Proofs.Word

/-!
# The tokens of tables by indentation

A table of tables is written with a name on a line of its own, and with an entry on each line after
it, two columns from the left. The lexer finds out at each colon that the word before it is a key,
opens a table where the column of the key is new, and closes one where a line starts left of it.

Where a scalar has no quotes, the lexer passes the line break and the blanks behind it before it
knows that the scalar has ended, and otherwise it stays at the end of the line; so one step ends in
either of two places. From both, the same tokens follow. `Lexer.Leads` says of two places that the
tokens of one are those of the other, and looks through such differences; all lines are steps from
the start of a line to the start of the next.

## Main definitions

* `Yaml.LineScalar`, `Yaml.blockText`: tables of scalars by indentation
* `Yaml.tableTokens`: the tokens of a table
* `Lexer.Leads`: places from which the same tokens follow
* `Lexer.Opens`: what a key at a column opens

## Main results

* `Lexer.leads_key`, `Lexer.leads_value`: keys and scalars
* `Lexer.leads_entry`, `Lexer.leads_close`: lines, and the end of a table
* `Lexer.scanAll_blockText`: tables by indentation have the tokens of a table of tables
-/

namespace RouterCall.Yaml

open Line
open Word (IsRow IsName)
open Toml (isBare)

/-! ### Lines -/

/-- A scalar as it stands behind a key: a word without quotes, or a text between quotes. -/
inductive LineScalar where
  | word (cs : List Char)
  | quoted (cs : List Char)

namespace LineScalar

/-- The characters of a scalar on its line. -/
def chars : LineScalar → List Char
  | word cs => cs
  | quoted cs => '"' :: (cs ++ ['"'])

/-- The token of a scalar. -/
def token : LineScalar → Token
  | word cs => .scalar .plain cs
  | quoted cs => .scalar .quoted cs

/-- Whether a scalar is one as it is written: a letter begins a word. -/
def IsPlain : LineScalar → Prop
  | word cs => IsName cs
  | quoted cs => IsRow cs

end LineScalar

/-- A line with a key and a scalar, two columns from the left. -/
def entryLine : String × LineScalar → List Char
  | (key, value) => ' ' :: ' ' :: (key.toList ++ ':' :: ' ' :: (value.chars ++ ['\n']))

/-- A line with a name, and the lines of the entries under the name. -/
def tableLines : String × List (String × LineScalar) → List Char
  | (name, rows) => name.toList ++ ':' :: '\n' :: rows.flatMap entryLine

/-- Tables by indentation. -/
def blockText (tables : List (String × List (String × LineScalar))) : List Char :=
  tables.flatMap tableLines

/-- A text is a key: a name that is not too long. -/
structure IsKey (text : String) : Prop where
  isName : IsName text.toList
  short : text.toList.length ≤ maxKeyLength

/-- Keys with scalars that may be written as they are. -/
def ArePlain (rows : List (String × LineScalar)) : Prop :=
  ∀ row ∈ rows, IsKey row.1 ∧ row.2.IsPlain

/-- Names with tables that may be written as they are. -/
def TablesArePlain (tables : List (String × List (String × LineScalar))) : Prop :=
  ∀ table ∈ tables, IsKey table.1 ∧ ArePlain table.2

/-! ### Characters of words -/

theorem isBreak_of_isBare {c : Char} (bare : isBare c = true) : isBreak c = false :=
  Word.forall_of_isBare (p := fun c => isBreak c = false) (by decide +kernel) bare

theorem isBare_of_isAlpha {c : Char} (letter : c.isAlpha = true) : isBare c = true := by
  simp [isBare, Char.isAlphanum, letter]

theorem ne_of_isAlpha {c d : Char} (letter : c.isAlpha = true) (other : d.isAlpha = false) :
    c ≠ d := by
  rintro rfl
  rw [letter] at other
  cases other

theorem utf8Size_of_isBare {c : Char} (bare : isBare c = true) : c.utf8Size = 1 :=
  Word.forall_of_isBare (p := fun c => c.utf8Size = 1) (by decide +kernel) bare

theorem isMarker_of_ne {c mark : Char} (other : c ≠ mark) (rest : List Char) :
    isMarker mark (c :: rest) = false := by
  rw [isMarker.eq_def]
  split
  · next same =>
    obtain ⟨rfl, -⟩ := List.cons.inj same
    simp [other]
  · rfl

/-- A letter starts a scalar without quotes. -/
theorem startsPlain_of_isAlpha {c : Char} (letter : c.isAlpha = true) (rest : List Char) :
    startsPlain false (c :: rest) = true := by
  have noDash : c ≠ '-' := ne_of_isAlpha letter (by decide)
  have noQuestion : c ≠ '?' := ne_of_isAlpha letter (by decide)
  have noColon : c ≠ ':' := ne_of_isAlpha letter (by decide)
  have noMark : (isSpace c || isBracket c
      || c ∈ ['#', '&', '*', '!', '|', '>', '\'', '"', '%', '@', '\x60']) = false :=
    Word.forall_of_isBare (p := fun c => (isSpace c || isBracket c
      || c ∈ ['#', '&', '*', '!', '|', '>', '\'', '"', '%', '@', '\x60']) = false)
      (by decide +kernel) (isBare_of_isAlpha letter)
  rw [startsPlain.eq_5 _ _ _ noDash noQuestion noColon, noMark]
  rfl

/-- A text of word characters ends at its closing quote. -/
theorem doubleBody_of_isRow {cs : List Char} (row : IsRow cs) (rest : List Char) {fuel : ℕ}
    (enough : cs.length < fuel) :
    doubleBody fuel .none false (cs ++ '"' :: rest) = some (cs, rest) := by
  induction cs generalizing fuel with
  | nil =>
    obtain ⟨fuel, rfl⟩ := Nat.exists_eq_add_of_lt enough
    rfl
  | cons c cs ih =>
    obtain ⟨fuel, rfl⟩ : ∃ n, fuel = n + 1 := ⟨fuel - 1, by omega⟩
    obtain ⟨bare, row⟩ := List.forall_mem_cons.mp row
    have noQuote : c ≠ '"' := Word.ne_of_isBare bare (by decide)
    have noEscape : c ≠ '\\' := Word.ne_of_isBare bare (by decide)
    have later := ih row (Nat.lt_of_succ_lt_succ enough)
    rw [List.cons_append, doubleBody.eq_def]
    simp only [isFreshMarker, Bool.false_and, Bool.false_eq_true, if_false, noQuote, noEscape,
      isBreak_of_isBare bare, Word.isBlank_of_isBare bare, later]
    rfl

/-- A word goes on to what is no gap in it. -/
theorem plainFrom_of_isRow {cs : List Char} (row : IsRow cs) {least : ℕ} {rest : List Char}
    {passed : Bool} {left : List Char}
    (behind : ∀ column, plainFrom false least .none column rest = some ([], passed, left))
    (column : ℕ) : plainFrom false least .none column (cs ++ rest) = some (cs, passed, left) := by
  induction cs generalizing column with
  | nil => exact behind column
  | cons c cs ih =>
    obtain ⟨bare, row⟩ := List.forall_mem_cons.mp row
    have noColon : c ≠ ':' := Word.ne_of_isBare bare (by decide)
    have later := ih row (column + 1)
    rw [List.cons_append, plainFrom]
    simp only [isBreak_of_isBare bare, Word.isBlank_of_isBare bare, noColon, Gap.none,
      Gap.hasBreak, Gap.isSome, endsPlain, isTightColon, Bool.false_and, Bool.false_eq_true,
      if_false, decide_false, Bool.or_false] at later ⊢
    rw [later]
    rfl

/-- A name is a scalar, up to what is no gap in it. -/
theorem plain_of_plainFrom {cs : List Char} (isName : IsName cs) {least : ℕ} {rest : List Char}
    {passed : Bool} {left : List Char}
    (behind : ∀ column, plainFrom false least .none column rest = some ([], passed, left)) :
    plain false least (cs ++ rest) = some (cs, passed, left) := by
  have read := plainFrom_of_isRow isName.row behind 0
  obtain ⟨first, more, rfl, letter⟩ := isName.exists_cons
  rw [plain, read]
  simp [startsPlain_of_isAlpha letter]

/-- A text begins with blanks and goes on with a letter left of a column, or not at all. -/
def Begins (least : ℕ) (rest : List Char) : Prop :=
  ∃ n tail, rest = List.replicate n ' ' ++ tail ∧
    ∀ c ∈ tail.head?, c.isAlpha = true ∧ n < least

/-- A gap ends at a letter that stands too far left. -/
theorem plainFrom_of_begins {least n : ℕ} {tail : List Char} {column : ℕ}
    (begins : ∀ c ∈ tail.head?, c.isAlpha = true ∧ column + n < least) (first : Option Char)
    (more : List Char) :
    plainFrom false least (.breaks first more) column (List.replicate n ' ' ++ tail) =
      some ([], true, tail) := by
  induction n generalizing column with
  | zero =>
    cases tail with
    | nil => rfl
    | cons c tail =>
      obtain ⟨letter, left⟩ := begins c rfl
      have bare := isBare_of_isAlpha letter
      have left : column < least := left
      rw [List.replicate_zero, List.nil_append, plainFrom]
      simp [isBreak_of_isBare bare, Word.isBlank_of_isBare bare, Gap.hasBreak, left]
  | succ n ih =>
    have later : ∀ c ∈ tail.head?, c.isAlpha = true ∧ column + 1 + n < least := by
      intro c mem
      obtain ⟨letter, left⟩ := begins c mem
      exact ⟨letter, by omega⟩
    rw [List.replicate_succ, List.cons_append, plainFrom]
    exact ih later

/-- A word ends with its line, where the next line starts left of it. -/
theorem plain_of_isName {cs : List Char} (isName : IsName cs) {least n : ℕ} {tail : List Char}
    (begins : ∀ c ∈ tail.head?, c.isAlpha = true ∧ n < least) :
    plain false least (cs ++ '\n' :: (List.replicate n ' ' ++ tail)) = some (cs, true, tail) := by
  refine plain_of_plainFrom isName fun column => ?_
  rw [plainFrom]
  exact plainFrom_of_begins (by simpa using begins) _ _

/-- A key ends at its colon. -/
theorem plain_key {cs : List Char} (isName : IsName cs) (least : ℕ) {rest : List Char}
    (gap : atGap rest = true) :
    plain false least (cs ++ ':' :: rest) = some (cs, false, ':' :: rest) := by
  refine plain_of_plainFrom isName fun column => ?_
  rw [plainFrom]
  simp [isBreak, isBlank, Gap.hasBreak, Gap.none, Gap.isSome, endsPlain, gap]

/-! ### Steps -/

theorem foldl_pass_of_isRow {cs : List Char} (row : IsRow cs) (mark : Mark) :
    cs.foldl Mark.pass mark =
      ⟨mark.line, mark.column + cs.length, mark.offset + cs.length⟩ := by
  induction cs generalizing mark with
  | nil => rfl
  | cons c cs ih =>
    obtain ⟨bare, row⟩ := List.forall_mem_cons.mp row
    have here : mark.pass c = ⟨mark.line, mark.column + 1, mark.offset + 1⟩ := by
      rw [Mark.pass, isBreak_of_isBare bare, utf8Size_of_isBare bare]
      rfl
    rw [List.foldl_cons, ih row, here]
    simp only [List.length_cons, Mark.mk.injEq, true_and]
    omega

namespace Lexer

theorem moveTo_eq {lexer : Lexer} (cs : List Char) {rest : List Char}
    (split : lexer.rest = cs ++ rest) :
    lexer.moveTo rest = { lexer with rest, mark := cs.foldl Mark.pass lexer.mark } := by
  have length : lexer.rest.length - rest.length = cs.length := by
    rw [split, List.length_append]
    omega
  rw [moveTo, length, split, List.take_left]

/-- Within the characters that it passes, a lexer gets from one place to another. -/
def Leads (lexer lexer' : Lexer) : Prop :=
  ∃ n, n + lexer'.rest.length ≤ lexer.rest.length ∧
    ∀ fuel, run (fuel + n) lexer = run fuel lexer'

theorem Leads.refl (lexer : Lexer) : Leads lexer lexer :=
  ⟨0, Nat.le_of_eq (Nat.zero_add _), fun _ => rfl⟩

theorem Leads.trans {lexer lexer' lexer'' : Lexer} (first : Leads lexer lexer')
    (second : Leads lexer' lexer'') : Leads lexer lexer'' := by
  obtain ⟨n, length, same⟩ := first
  obtain ⟨m, length', same'⟩ := second
  refine ⟨m + n, by omega, fun fuel => ?_⟩
  rw [← Nat.add_assoc, same, same']

/-- What stands before a token does not matter. -/
theorem run_congr {lexer lexer' : Lexer} (same : lexer.skip = lexer'.skip) (fuel : ℕ) :
    run fuel lexer = run fuel lexer' := by
  cases fuel with
  | zero => rfl
  | succ fuel =>
    rw [run, run, same]

theorem Leads.of_skip {lexer lexer' : Lexer} (same : lexer.skip = lexer'.skip)
    (length : lexer'.rest.length ≤ lexer.rest.length) : Leads lexer lexer' :=
  ⟨0, by omega, run_congr same⟩

/-- A token leads to whatever goes on as the lexer behind it. -/
theorem Leads.of_next {lexer lexer' lexer'' : Lexer} (stay : lexer.skip = lexer)
    (next : lexer.next = some lexer') (same : lexer'.skip = lexer''.skip)
    (length : lexer''.rest.length < lexer.rest.length) : Leads lexer lexer'' := by
  refine ⟨1, by omega, fun fuel => ?_⟩
  have nonempty : lexer.rest ≠ [] := by
    intro empty
    rw [empty] at length
    cases length
  rw [run, stay]
  simp only [nonempty, if_false, next]
  exact run_congr same fuel

/-! ### Keys -/

theorem skip_of_isBare {lexer : Lexer} {c : Char} {rest : List Char}
    (place : lexer.rest = c :: rest) (bare : isBare c = true) : lexer.skip = lexer := by
  have noBreak := isBreak_of_isBare bare
  have noComment : c ≠ '#' := Word.ne_of_isBare bare (by decide)
  have noBlank : c ≠ ' ' := Word.ne_of_isBare bare (by decide)
  have noTab : c ≠ '\t' := Word.ne_of_isBare bare (by decide)
  have noMark : c ≠ '\ufeff' := Word.ne_of_isBare bare (by decide)
  have stay : skipFrom lexer.inside false lexer.keyAllowed lexer.mark lexer.rest =
      (lexer.keyAllowed, lexer.mark, lexer.rest) := by
    rw [place, skipFrom]
    simp [noBreak, noComment, noBlank, noTab, noMark]
  rw [skip, stay]

/-- A letter begins a scalar without quotes. -/
theorem token_of_isAlpha {lexer : Lexer} {c : Char} {rest : List Char}
    (place : lexer.rest = c :: rest) (letter : c.isAlpha = true) : lexer.token = lexer.plain := by
  have other {d : Char} (sign : d.isAlpha = false) : c ≠ d := ne_of_isAlpha letter sign
  have noDash : isMarker '-' (c :: rest) = false := isMarker_of_ne (other (by decide)) rest
  have noDots : isMarker '.' (c :: rest) = false := isMarker_of_ne (other (by decide)) rest
  rw [token]
  simp only [place, noDash, noDots]
  simp only [@other '%' (by decide), @other '[' (by decide), @other '{' (by decide),
    @other ']' (by decide), @other '}' (by decide), @other ',' (by decide),
    @other '-' (by decide), @other '?' (by decide), @other ':' (by decide),
    @other '*' (by decide), @other '&' (by decide), @other '!' (by decide),
    @other '|' (by decide), @other '>' (by decide), @other '\'' (by decide),
    @other '"' (by decide), and_false, false_and, or_self, if_false, Bool.false_eq_true]

theorem skip_of_isName {lexer : Lexer} {cs rest : List Char} (isName : IsName cs)
    (place : lexer.rest = cs ++ rest) : lexer.skip = lexer := by
  obtain ⟨first, more, rfl, letter⟩ := isName.exists_cons
  exact skip_of_isBare place (isBare_of_isAlpha letter)

theorem token_of_isName {lexer : Lexer} {cs rest : List Char} (isName : IsName cs)
    (place : lexer.rest = cs ++ rest) : lexer.token = lexer.plain := by
  obtain ⟨first, more, rfl, letter⟩ := isName.exists_cons
  exact token_of_isAlpha place letter

theorem token_of_colon {lexer : Lexer} {rest : List Char} (place : lexer.rest = ':' :: rest)
    (gap : atGap rest = true) : lexer.token = lexer.colon rest := by
  have noDash : isMarker '-' (':' :: rest) = false := isMarker_of_ne (by decide) rest
  have noDots : isMarker '.' (':' :: rest) = false := isMarker_of_ne (by decide) rest
  rw [token]
  simp [place, noDash, noDots, gap]

/-- Nothing is closed where nothing right of it is open. -/
theorem closeFrom_eq_self {lexer : Lexer} {column : ℕ}
    (left : ∀ c ∈ lexer.columns.head?, c < column) : lexer.closeFrom column = lexer := by
  have none : lexer.columns.takeWhile (column ≤ ·) = [] := by
    cases columns : lexer.columns with
    | nil => rfl
    | cons c more =>
      rw [columns] at left
      have left : c < column := left c rfl
      rw [List.takeWhile_cons_of_neg]
      simpa using left
  rw [closeFrom]
  split
  · rfl
  · simp only [none]
    rfl

/-- A token comes next where nothing is forgotten and nothing is closed. -/
theorem next_eq_token {lexer : Lexer} (kept : lexer.forgetStale = some lexer)
    (left : ∀ c ∈ lexer.columns.head?, c ≤ lexer.mark.column) : lexer.next = lexer.token := by
  have stay : lexer.closeFrom (lexer.mark.column + 1) = lexer :=
    closeFrom_eq_self fun c mem => Nat.lt_succ_of_le (left c mem)
  rw [next, kept]
  show (lexer.closeFrom (lexer.mark.column + 1)).token = _
  rw [stay]

/-- What a key at a column opens. A table is open there afterwards. -/
inductive Opens (column : ℕ) (columns : List ℕ) : List ℕ → List Token → Prop
  | table (right : ∀ c ∈ columns.head?, c < column) :
    Opens column columns (column :: columns) [.blockTable]
  | nothing (there : columns.head? = some column) : Opens column columns columns []

theorem Opens.head?_le {column : ℕ} {columns columns' : List ℕ} {opened : List Token}
    (opens : Opens column columns columns' opened) : ∀ c ∈ columns.head?, c ≤ column := by
  intro c mem
  cases opens with
  | table right => exact Nat.le_of_lt (right c mem)
  | nothing there =>
    rw [there] at mem
    cases mem
    exact Nat.le_refl _

theorem Opens.head?_eq {column : ℕ} {columns columns' : List ℕ} {opened : List Token}
    (opens : Opens column columns columns' opened) : columns'.head? = some column := by
  cases opens with
  | table right => rfl
  | nothing there => exact there

theorem Opens.openAt_eq {column : ℕ} {columns columns' : List ℕ} {opened tokens : List Token}
    (opens : Opens column columns columns' opened) (rest : List Char) (mark : Mark)
    (key : Option PossibleKey) (token : Token) :
    openAt column tokens.length .blockTable [.key]
        { rest, mark, columns, key, keyAllowed := false, tokens := token :: tokens } =
      { rest, mark, columns := columns', key, keyAllowed := false,
        tokens := token :: .key :: (opened ++ tokens) } := by
  cases opens with
  | table right =>
    have all : columns.head?.all (· < column) = true := by
      cases columns with
      | nil => rfl
      | cons c more => exact decide_eq_true (right c rfl)
    simp [openAt, inside, all]
  | nothing there =>
    simp [openAt, inside, there]

/-- A name in front of a colon is a scalar, at which a key may begin. -/
theorem next_name {name : List Char} (isName : IsName name) {rest : List Char}
    (gap : atGap rest = true) {mark : Mark} {columns : List ℕ}
    (left : ∀ c ∈ columns.head?, c ≤ mark.column) (tokens : List Token) :
    next { rest := name ++ ':' :: rest, mark, columns, tokens } = some {
      rest := ':' :: rest
      mark := name.foldl Mark.pass mark
      columns
      key := some ⟨mark, tokens.length, columns.head? = some mark.column⟩
      keyAllowed := false
      tokens := .scalar .plain name :: tokens } := by
  let place : Lexer := { rest := name ++ ':' :: rest, mark, columns, tokens }
  have comes : place.next = place.plain :=
    (next_eq_token rfl left).trans (token_of_isName isName rfl)
  show place.next = _
  rw [comes, plain]
  show (Yaml.plain false place.least (name ++ ':' :: rest) >>= _) = _
  rw [plain_key isName _ gap]
  let key : PossibleKey := ⟨mark, tokens.length, columns.head? = some mark.column⟩
  show some ((emitUpTo (.scalar .plain name) (':' :: rest)
    ({ place with key := some key }.allowKey false)).allowKey false) = _
  rw [emitUpTo, moveTo_eq name rfl]
  rfl

/-- A colon makes the word before it a key. -/
theorem next_colon {key : PossibleKey} {mark : Mark} (fresh : key.isStale mark = false)
    {rest : List Char} (gap : atGap rest = true) {columns columns' : List ℕ} {opened : List Token}
    (opens : Opens key.mark.column columns columns' opened)
    (behind : key.mark.column ≤ mark.column) {tokens : List Token}
    (before : key.before = tokens.length) (token : Token) :
    next { rest := ':' :: rest, mark, columns, key := some key, keyAllowed := false,
           tokens := token :: tokens } = some {
      rest
      mark := mark.pass ':'
      columns := columns'
      keyAllowed := false
      tokens := .value :: token :: .key :: (opened ++ tokens) } := by
  let place : Lexer := {
    rest := ':' :: rest, mark, columns, key := some key, keyAllowed := false,
    tokens := token :: tokens }
  have kept : place.forgetStale = some place := by
    simp [forgetStale, place, fresh]
  have left : ∀ c ∈ columns.head?, c ≤ mark.column := by
    intro c mem
    exact Nat.le_trans (opens.head?_le c mem) behind
  show place.next = _
  rw [next_eq_token kept left, token_of_colon rfl gap, colon]
  show some (emitUpTo .value rest ({ place.openAt key.mark.column key.before .blockTable [.key] with
    key := none }.allowKey false)) = _
  rw [before, opens.openAt_eq, emitUpTo]
  rw [moveTo_eq [':'] rfl]
  rfl

/-- A word and a colon are a key. -/
theorem leads_key {name : List Char} (isName : IsName name) (short : name.length ≤ maxKeyLength)
    {rest : List Char} (gap : atGap rest = true) {mark : Mark} {columns columns' : List ℕ}
    {opened : List Token} (opens : Opens mark.column columns columns' opened)
    (tokens : List Token) :
    Leads { rest := name ++ ':' :: rest, mark, columns, tokens } {
      rest
      mark := (name ++ [':']).foldl Mark.pass mark
      columns := columns'
      keyAllowed := false
      tokens := .value :: .scalar .plain name :: .key :: (opened ++ tokens) } := by
  let key : PossibleKey := ⟨mark, tokens.length, columns.head? = some mark.column⟩
  have passed := foldl_pass_of_isRow isName.row mark
  have fresh : key.isStale (name.foldl Mark.pass mark) = false := by
    rw [passed, PossibleKey.isStale]
    simp only [key, Bool.or_eq_false_iff, decide_eq_false_iff_not]
    omega
  have behind : key.mark.column ≤ (name.foldl Mark.pass mark).column := by
    rw [passed]
    exact Nat.le_add_right _ _
  have colon := next_colon fresh gap opens behind rfl (.scalar .plain name)
  have mark' : (name ++ [':']).foldl Mark.pass mark = (name.foldl Mark.pass mark).pass ':' := by
    rw [List.foldl_append]
    rfl
  rw [mark']
  refine Leads.trans (.of_next ?_ (next_name isName gap opens.head?_le tokens) rfl ?_)
    (.of_next ?_ colon rfl ?_)
  · exact skip_of_isName isName rfl
  · obtain ⟨first, more, rfl, letter⟩ := isName.exists_cons
    simp only [List.length_append, List.length_cons]
    omega
  · rfl
  · exact Nat.lt_succ_self rest.length

/-! ### Values -/

theorem token_of_quote {lexer : Lexer} {rest text left : List Char}
    (place : lexer.rest = '"' :: rest)
    (body : doubleBody (rest.length + 1) .none false rest = some (text, left)) :
    lexer.token = lexer.word (.scalar .quoted text) left := by
  have noDash : isMarker '-' ('"' :: rest) = false := isMarker_of_ne (by decide) rest
  have noDots : isMarker '.' ('"' :: rest) = false := isMarker_of_ne (by decide) rest
  rw [token]
  simp [place, noDash, noDots, body]

/-- A text between quotes is a scalar. -/
theorem next_text {text : List Char} (row : IsRow text) {mark : Mark} {columns : List ℕ}
    (left : ∀ c ∈ columns.head?, c ≤ mark.column) (tokens : List Token) (rest : List Char) :
    next { rest := '"' :: (text ++ '"' :: rest), mark, columns, keyAllowed := false, tokens } =
      some {
        rest
        mark := ('"' :: (text ++ ['"'])).foldl Mark.pass mark
        columns
        keyAllowed := false
        tokens := .scalar .quoted text :: tokens } := by
  let place : Lexer := {
    rest := '"' :: (text ++ '"' :: rest), mark, columns, keyAllowed := false, tokens }
  have enough : text.length < (text ++ '"' :: rest).length + 1 := by
    rw [List.length_append]
    omega
  show place.next = _
  rw [next_eq_token rfl left, token_of_quote rfl (doubleBody_of_isRow row rest enough)]
  show some (emitUpTo (.scalar .quoted text) rest (place.allowKey false)) = _
  have split : (place.allowKey false).rest = '"' :: (text ++ ['"']) ++ rest := by
    rw [List.cons_append, List.append_assoc]
    rfl
  rw [emitUpTo, moveTo_eq _ split]
  rfl

/-- A word is a scalar. The lexer stands behind the line break and the blanks after it. -/
theorem next_plain {name : List Char} (isName : IsName name) {mark : Mark} {columns : List ℕ}
    (left : ∀ c ∈ columns.head?, c ≤ mark.column) (tokens : List Token) {n : ℕ} {tail : List Char}
    (begins : ∀ c ∈ tail.head?, c.isAlpha = true ∧ n < columns.head?.elim 0 (· + 1)) :
    next { rest := name ++ '\n' :: (List.replicate n ' ' ++ tail), mark, columns,
           keyAllowed := false, tokens } =
      some {
        rest := tail
        mark := (name ++ '\n' :: List.replicate n ' ').foldl Mark.pass mark
        columns
        tokens := .scalar .plain name :: tokens } := by
  let place : Lexer := {
    rest := name ++ '\n' :: (List.replicate n ' ' ++ tail), mark, columns, keyAllowed := false,
    tokens }
  have comes : place.next = place.plain :=
    (next_eq_token rfl left).trans (token_of_isName isName rfl)
  have read : Yaml.plain false place.least (name ++ '\n' :: (List.replicate n ' ' ++ tail)) =
      some (name, true, tail) := plain_of_isName isName begins
  show place.next = _
  rw [comes, plain]
  show (Yaml.plain false place.least (name ++ '\n' :: (List.replicate n ' ' ++ tail)) >>= _) = _
  rw [read]
  show some ((emitUpTo (.scalar .plain name) tail (place.allowKey false)).allowKey true) = _
  have split : (place.allowKey false).rest = name ++ '\n' :: List.replicate n ' ' ++ tail := by
    rw [List.append_assoc]
    rfl
  rw [emitUpTo, moveTo_eq _ split]
  rfl

theorem skip_blanks (n : ℕ) (rest : List Char) (mark : Mark) (columns : List ℕ)
    (keyAllowed : Bool) (tokens : List Token) :
    skip { rest := List.replicate n ' ' ++ rest, mark, columns, keyAllowed, tokens } =
      skip { rest, mark := (List.replicate n ' ').foldl Mark.pass mark, columns, keyAllowed,
             tokens } := by
  induction n generalizing mark with
  | zero => rfl
  | succ n ih =>
    rw [List.replicate_succ, List.foldl_cons]
    exact ih (mark.pass ' ')

/-- A scalar behind a key ends with its line. -/
theorem leads_value {value : LineScalar} (plain : value.IsPlain) {mark : Mark} {columns : List ℕ}
    (left : ∀ c ∈ columns.head?, c ≤ mark.column) (tokens : List Token) {rest : List Char}
    (begins : Begins (columns.head?.elim 0 (· + 1)) rest) :
    Leads { rest := value.chars ++ '\n' :: rest, mark, columns, keyAllowed := false, tokens } {
      rest
      mark := (value.chars ++ ['\n']).foldl Mark.pass mark
      columns
      tokens := value.token :: tokens } := by
  cases value with
  | word cs =>
    -- one step goes past the line break and the blanks; passing them leads to the same place
    obtain ⟨n, tail, rfl, begins⟩ := begins
    have isName : IsName cs := plain
    refine .of_next ?_ (next_plain isName left tokens begins) ?_ ?_
    · exact skip_of_isName isName rfl
    · rw [skip_blanks, ← List.foldl_append, List.append_assoc]
      rfl
    · simp only [LineScalar.chars, List.length_append, List.length_cons]
      omega
  | quoted cs =>
    rw [LineScalar.chars, List.cons_append, List.append_assoc]
    refine .of_next rfl (next_text plain left tokens ('\n' :: rest)) ?_ ?_
    · rw [List.foldl_append]
      rfl
    · simp only [List.length_append, List.length_cons]
      omega

/-! ### The lexer on lines -/

/-- Behind a line break, the column is the first one. -/
theorem column_foldl_pass (cs : List Char) (mark : Mark) :
    ((cs ++ ['\n']).foldl Mark.pass mark).column = 0 := by
  rw [List.foldl_append]
  rfl

/-- A line with a key alone. -/
theorem leads_header {name : String} (isKey : IsKey name) {mark : Mark}
    (start : mark.column = 0) {columns columns' : List ℕ} {opened : List Token}
    (opens : Opens 0 columns columns' opened) (tokens : List Token) (rest : List Char) :
    ∃ mark' : Mark, mark'.column = 0 ∧
      Leads { rest := name.toList ++ ':' :: '\n' :: rest, mark, columns, tokens } {
        rest
        mark := mark'
        columns := columns'
        tokens := .value :: .scalar .plain name.toList :: .key :: (opened ++ tokens) } := by
  have opens : Opens mark.column columns columns' opened := by
    rw [start]
    exact opens
  refine ⟨_, column_foldl_pass (name.toList ++ [':']) mark, ?_⟩
  refine (leads_key isKey.isName isKey.short rfl opens tokens).trans (.of_skip ?_ (Nat.le_succ _))
  have last : (name.toList ++ [':'] ++ ['\n']).foldl Mark.pass mark =
      ((name.toList ++ [':']).foldl Mark.pass mark).pass '\n' := List.foldl_append
  rw [last]
  rfl

/-- A line with a key and a scalar. -/
theorem leads_entry {row : String × LineScalar} (isKey : IsKey row.1) (plain : row.2.IsPlain)
    {mark : Mark} (start : mark.column = 0) {columns columns' : List ℕ} {opened : List Token}
    (opens : Opens 2 columns columns' opened) (tokens : List Token) {rest : List Char}
    (begins : Begins 3 rest) :
    ∃ mark' : Mark, mark'.column = 0 ∧
      Leads { rest := entryLine row ++ rest, mark, columns, tokens } {
        rest
        mark := mark'
        columns := columns'
        tokens := row.2.token :: .value :: .scalar .plain row.1.toList :: .key ::
          (opened ++ tokens) } := by
  obtain ⟨key, value⟩ := row
  let indented : Mark := (mark.pass ' ').pass ' '
  have column : indented.column = 2 := by
    show mark.column + 1 + 1 = 2
    rw [start]
  let behind : Mark := ((key.toList ++ [':']).foldl Mark.pass indented).pass ' '
  have right : ∀ c ∈ columns'.head?, c ≤ behind.column := by
    intro c mem
    rw [opens.head?_eq] at mem
    cases mem
    have passed := foldl_pass_of_isRow isKey.isName.row indented
    show 2 ≤ ((key.toList ++ [':']).foldl Mark.pass indented).column + 1
    rw [List.foldl_append, passed]
    show 2 ≤ indented.column + key.toList.length + 1 + 1
    omega
  have least : columns'.head?.elim 0 (· + 1) = 3 := by
    rw [opens.head?_eq]
    rfl
  have line : entryLine (key, value) ++ rest =
      ' ' :: ' ' :: (key.toList ++ ':' :: ' ' :: (value.chars ++ '\n' :: rest)) := by
    simp [entryLine]
  have blanks : Leads { rest := entryLine (key, value) ++ rest, mark, columns, tokens }
      { rest := key.toList ++ ':' :: ' ' :: (value.chars ++ '\n' :: rest), mark := indented,
        columns, tokens } := by
    rw [line]
    exact .of_skip (skip_blanks 2 _ mark columns true tokens) (Nat.le_add_right _ 2)
  have gap : atGap (' ' :: (value.chars ++ '\n' :: rest)) = true := rfl
  have name := leads_key isKey.isName isKey.short gap (column ▸ opens) tokens
  have blank : Leads
      { rest := ' ' :: (value.chars ++ '\n' :: rest),
        mark := (key.toList ++ [':']).foldl Mark.pass indented, columns := columns',
        keyAllowed := false,
        tokens := .value :: .scalar .plain key.toList :: .key :: (opened ++ tokens) }
      { rest := value.chars ++ '\n' :: rest, mark := behind, columns := columns',
        keyAllowed := false,
        tokens := .value :: .scalar .plain key.toList :: .key :: (opened ++ tokens) } :=
    .of_skip rfl (Nat.le_succ _)
  have scalar := leads_value plain right
    (.value :: .scalar .plain key.toList :: .key :: (opened ++ tokens)) (least ▸ begins)
  exact ⟨_, column_foldl_pass value.chars behind, blanks.trans (name.trans (blank.trans scalar))⟩

end Lexer

/-! ### Tables -/

section Tables

variable {β : Type}

/-- The tokens of rows, by what stands behind each key. -/
def rowTokens (tokens : β → List Token) (rows : List (String × β)) : List Token :=
  rows.flatMap fun (key, b) => .key :: .scalar .plain key.toList :: .value :: tokens b

/-- The tokens of a table by indentation. Without rows there is nothing. -/
def tableTokens (tokens : β → List Token) : List (String × β) → List Token
  | [] => []
  | row :: rows => .blockTable :: (rowTokens tokens (row :: rows) ++ [.blockEnd])

end Tables

/-- The tokens of a table of scalars. -/
def scalarTableTokens : List (String × LineScalar) → List Token :=
  tableTokens fun value => [value.token]

namespace Lexer

theorem begins_of_letter {rest : List Char} (letter : ∀ c ∈ rest.head?, c.isAlpha = true) :
    Begins 3 rest :=
  ⟨0, rest, rfl, fun c mem => ⟨letter c mem, by omega⟩⟩

theorem begins_entries {rows : List (String × LineScalar)} (plain : ArePlain rows)
    {rest : List Char} (begins : Begins 3 rest) : Begins 3 (rows.flatMap entryLine ++ rest) := by
  cases rows with
  | nil => exact begins
  | cons row rows =>
    obtain ⟨isKey, -⟩ := plain row List.mem_cons_self
    obtain ⟨first, more, split, letter⟩ := isKey.isName.exists_cons
    refine ⟨2, row.1.toList ++ ':' :: ' ' :: (row.2.chars ++ ['\n']) ++
      rows.flatMap entryLine ++ rest, rfl, ?_⟩
    rw [split]
    rintro _ ⟨⟩
    exact ⟨letter, by omega⟩

/-- Further entries. -/
theorem leads_entries {rows : List (String × LineScalar)} (plain : ArePlain rows) {mark : Mark}
    (start : mark.column = 0) (tokens : List Token) {rest : List Char} (begins : Begins 3 rest) :
    ∃ mark' : Mark, mark'.column = 0 ∧
      Leads { rest := rows.flatMap entryLine ++ rest, mark, columns := [2, 0], tokens } {
        rest
        mark := mark'
        columns := [2, 0]
        tokens := (rowTokens (fun value => [value.token]) rows).reverse ++ tokens } := by
  induction rows generalizing mark tokens with
  | nil => exact ⟨mark, start, .refl _⟩
  | cons row rows ih =>
    obtain ⟨isKey, scalar⟩ := plain row List.mem_cons_self
    have plain : ArePlain rows := fun row mem => plain row (List.mem_cons_of_mem _ mem)
    have opens : Opens 2 [2, 0] [2, 0] [] := .nothing rfl
    obtain ⟨behind, fresh, first⟩ :=
      leads_entry isKey scalar start opens tokens (begins_entries plain begins)
    obtain ⟨mark', start', later⟩ := ih plain fresh
      (row.2.token :: .value :: .scalar .plain row.1.toList :: .key :: tokens)
    refine ⟨mark', start', ?_⟩
    have written : (rowTokens (fun value : LineScalar => [value.token]) (row :: rows)).reverse ++
        tokens = (rowTokens (fun value : LineScalar => [value.token]) rows).reverse ++
          row.2.token :: .value :: .scalar .plain row.1.toList :: .key :: tokens := by
      simp [rowTokens]
    rw [List.flatMap_cons, List.append_assoc, written]
    exact first.trans later

/-- Where the next line starts at the left, a table two columns from there is closed. -/
theorem leads_close {rest : List Char} (letter : ∀ c ∈ rest.head?, c.isAlpha = true) {mark : Mark}
    (start : mark.column = 0) (tokens : List Token) :
    Leads { rest, mark, columns := [2, 0], tokens }
      { rest, mark, columns := [0], tokens := .blockEnd :: tokens } := by
  obtain ⟨line, column, offset⟩ := mark
  cases start
  -- closing is no step of its own: the next token, or the end of the text, closes what is left
  refine ⟨0, Nat.le_of_eq (Nat.zero_add _), fun fuel => ?_⟩
  cases fuel with
  | zero => rfl
  | succ fuel =>
    cases rest with
    | nil => rfl
    | cons c rest =>
      have bare := isBare_of_isAlpha (letter c rfl)
      have stay {columns : List ℕ} {tokens : List Token} :
          skip { rest := c :: rest, mark := ⟨line, 0, offset⟩, columns, tokens } =
            { rest := c :: rest, mark := ⟨line, 0, offset⟩, columns, tokens } :=
        skip_of_isBare rfl bare
      rw [Nat.add_zero, run, run, stay, stay]
      rfl

/-- Entries are a table, which is closed where the next line starts at the left. -/
theorem leads_scalars {rows : List (String × LineScalar)} (plain : ArePlain rows) {mark : Mark}
    (start : mark.column = 0) (tokens : List Token) {rest : List Char}
    (letter : ∀ c ∈ rest.head?, c.isAlpha = true) :
    ∃ mark' : Mark, mark'.column = 0 ∧
      Leads { rest := rows.flatMap entryLine ++ rest, mark, columns := [0], tokens } {
        rest
        mark := mark'
        columns := [0]
        tokens := (scalarTableTokens rows).reverse ++ tokens } := by
  cases rows with
  | nil => exact ⟨mark, start, .refl _⟩
  | cons row rows =>
    obtain ⟨isKey, scalar⟩ := plain row List.mem_cons_self
    have plain : ArePlain rows := fun row mem => plain row (List.mem_cons_of_mem _ mem)
    have opens : Opens 2 [0] [2, 0] [.blockTable] := .table (by rintro _ ⟨⟩; decide)
    have begins := begins_of_letter letter
    obtain ⟨behind, fresh, first⟩ :=
      leads_entry isKey scalar start opens tokens (begins_entries plain begins)
    obtain ⟨mark', start', later⟩ := leads_entries plain fresh
      (row.2.token :: .value :: .scalar .plain row.1.toList :: .key :: .blockTable :: tokens) begins
    have closed := leads_close letter start'
      ((rowTokens (fun value => [value.token]) rows).reverse ++
        row.2.token :: .value :: .scalar .plain row.1.toList :: .key :: .blockTable :: tokens)
    refine ⟨mark', start', ?_⟩
    have written : (scalarTableTokens (row :: rows)).reverse ++ tokens =
        .blockEnd :: ((rowTokens (fun value : LineScalar => [value.token]) rows).reverse ++
          row.2.token :: .value :: .scalar .plain row.1.toList :: .key :: .blockTable ::
            tokens) := by
      simp [scalarTableTokens, tableTokens, rowTokens]
    rw [List.flatMap_cons, List.append_assoc, written]
    exact first.trans (later.trans closed)

/-- A name with a table under it. -/
theorem leads_table {table : String × List (String × LineScalar)} (isKey : IsKey table.1)
    (plain : ArePlain table.2) {mark : Mark} (start : mark.column = 0) {columns : List ℕ}
    {opened : List Token} (opens : Opens 0 columns [0] opened) (tokens : List Token)
    {rest : List Char} (letter : ∀ c ∈ rest.head?, c.isAlpha = true) :
    ∃ mark' : Mark, mark'.column = 0 ∧
      Leads { rest := tableLines table ++ rest, mark, columns, tokens } {
        rest
        mark := mark'
        columns := [0]
        tokens := (scalarTableTokens table.2).reverse ++
          .value :: .scalar .plain table.1.toList :: .key :: (opened ++ tokens) } := by
  obtain ⟨behind, fresh, header⟩ :=
    leads_header isKey start opens tokens (table.2.flatMap entryLine ++ rest)
  obtain ⟨mark', start', scalars⟩ := leads_scalars plain fresh
    (.value :: .scalar .plain table.1.toList :: .key :: (opened ++ tokens)) letter
  refine ⟨mark', start', ?_⟩
  have text : tableLines table ++ rest =
      table.1.toList ++ ':' :: '\n' :: (table.2.flatMap entryLine ++ rest) := by
    rw [tableLines, List.append_assoc]
    rfl
  rw [text]
  exact header.trans scalars

/-- A table starts with a letter, at the left. -/
theorem isAlpha_of_head?_blockText {tables : List (String × List (String × LineScalar))}
    (plain : TablesArePlain tables) : ∀ c ∈ (blockText tables).head?, c.isAlpha = true := by
  cases tables with
  | nil => rintro _ ⟨⟩
  | cons table tables =>
    obtain ⟨isKey, -⟩ := plain table List.mem_cons_self
    obtain ⟨first, more, split, letter⟩ := isKey.isName.exists_cons
    rw [blockText, List.flatMap_cons, tableLines, split]
    rintro _ ⟨⟩
    exact letter

/-- Further tables. -/
theorem leads_tables {tables : List (String × List (String × LineScalar))}
    (plain : TablesArePlain tables) {mark : Mark} (start : mark.column = 0) (tokens : List Token) :
    ∃ mark' : Mark, mark'.column = 0 ∧
      Leads { rest := blockText tables, mark, columns := [0], tokens } {
        rest := []
        mark := mark'
        columns := [0]
        tokens := (rowTokens scalarTableTokens tables).reverse ++ tokens } := by
  induction tables generalizing mark tokens with
  | nil => exact ⟨mark, start, .refl _⟩
  | cons table tables ih =>
    obtain ⟨isKey, scalars⟩ := plain table List.mem_cons_self
    have plain : TablesArePlain tables := fun table mem => plain table (List.mem_cons_of_mem _ mem)
    have opens : Opens 0 [0] [0] [] := .nothing rfl
    obtain ⟨behind, fresh, first⟩ :=
      leads_table isKey scalars start opens tokens (isAlpha_of_head?_blockText plain)
    obtain ⟨mark', start', later⟩ := ih plain fresh _
    refine ⟨mark', start', ?_⟩
    have written : (rowTokens scalarTableTokens (table :: tables)).reverse ++ tokens =
        (rowTokens scalarTableTokens tables).reverse ++ ((scalarTableTokens table.2).reverse ++
          .value :: .scalar .plain table.1.toList :: .key :: ([] ++ tokens)) := by
      simp [rowTokens]
    rw [written]
    exact first.trans later

/-- Where there is nothing left, the tokens are those so far. -/
theorem Leads.scanAll_eq {cs : List Char} {mark : Mark} {columns : List ℕ} {tokens : List Token}
    (leads : Leads { rest := cs } { rest := [], mark, columns, tokens }) :
    Token.scanAll cs = finish { rest := [], mark, columns, tokens } := by
  obtain ⟨n, length, same⟩ := leads
  have length : n ≤ cs.length := length
  have fuel : cs.length + 1 = cs.length - n + 1 + n := by omega
  rw [Token.scanAll, fuel, same]
  rfl

/-- **Tables by indentation have the tokens of a table of tables.** -/
theorem scanAll_blockText {tables : List (String × List (String × LineScalar))}
    (plain : TablesArePlain tables) :
    Token.scanAll (blockText tables) = some (tableTokens scalarTableTokens tables) := by
  cases tables with
  | nil => rfl
  | cons table tables =>
    obtain ⟨isKey, scalars⟩ := plain table List.mem_cons_self
    have plain : TablesArePlain tables := fun table mem => plain table (List.mem_cons_of_mem _ mem)
    have opens : Opens 0 [] [0] [.blockTable] := .table (by rintro _ ⟨⟩)
    have start : ({} : Mark).column = 0 := rfl
    obtain ⟨behind, fresh, first⟩ :=
      leads_table isKey scalars start opens [] (isAlpha_of_head?_blockText plain)
    obtain ⟨mark, -, later⟩ := leads_tables plain fresh
      ((scalarTableTokens table.2).reverse ++
        .value :: .scalar .plain table.1.toList :: .key :: ([.blockTable] ++ []))
    have text : blockText (table :: tables) = tableLines table ++ blockText tables :=
      List.flatMap_cons
    rw [text, (first.trans later).scanAll_eq]
    show some (List.reverse (Token.blockEnd :: _)) = _
    simp [tableTokens, rowTokens]

end Lexer

end RouterCall.Yaml
