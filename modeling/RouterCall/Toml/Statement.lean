import RouterCall.Toml.Quantity
import RouterCall.Toml.Table
import RouterCall.Toml.Text

/-!
# TOML files as rows of statements

A TOML file is a row of statements, each on a line of its own: a header names the table that the
entries after it belong to, a double header starts the next table of a list, and an entry gives a
value to a dotted key. `Statement.readAll` is the grammar, `Entries.ofStatements?` the meaning, and
`Toml.read` both.

Lists run over several lines, as do tables that are written as values; these are finished tables of
their own, built by the same steps. Inside either, line breaks and comments may stand wherever a
blank may, except within a dotted key.

Both ways to nest end somewhere: no more than `maxDepth` brackets may be open at once, and no dotted
key has more than `maxDepth` parts.

## Main definitions

* `Toml.Statement`
* `Statement.readAll`: the statements of a text
* `Entries.ofStatements?`: the table that statements build
* `Toml.read`: the value a text is
-/

namespace RouterCall.Toml

open Line

/-- How many brackets may be open at once, and how many parts a dotted key may have. -/
def maxDepth : Nat := 80

/-- One statement. -/
inductive Statement where
  | header (path : KeyPath)
  | item (path : KeyPath)
  | entry (path : KeyPath) (value : Value)

/-! ### Lines -/

mutual

/-- What follows blanks, line breaks and comments. -/
def skipLines : List Char → List Char
  | [] => []
  | '#' :: rest => skipComment rest
  | '\r' :: '\n' :: rest => skipLines rest
  | c :: rest => if isBlank c || c = '\n' then skipLines rest else c :: rest

/-- What follows the rest of a comment, and blanks, line breaks and comments after it. -/
def skipComment : List Char → List Char
  | [] => []
  | '\n' :: rest | '\r' :: '\n' :: rest => skipLines rest
  | c :: rest => if isPlain c then skipComment rest else c :: rest

end

/-- What follows the end of a line, on which only blanks and a comment may still stand. -/
def lineEnd? (cs : List Char) : Option (List Char) :=
  let rest := match skipBlanks cs with
    | '#' :: rest => rest.dropWhile isPlain
    | rest => rest
  match rest with
  | [] => some []
  | '\n' :: rest | '\r' :: '\n' :: rest => some rest
  | _ => none

/-! ### Keys -/

/-- Whether a character may stand in a key without quotes. -/
def isBare (c : Char) : Bool := c.isAlphanum || c = '_' || c = '-'

/-- The key a text starts with, and what follows it. -/
def scanKey : List Char → Option (String × List Char)
  | '"' :: rest => do
    let (key, rest) ← basicBody (rest.length + 1) rest
    return (String.ofList key, rest)
  | '\'' :: rest => do
    let (key, rest) ← literalBody rest
    return (String.ofList key, rest)
  | cs => do
    guard (cs.takeWhile isBare ≠ [])
    return (String.ofList (cs.takeWhile isBare), cs.dropWhile isBare)

/-- The dotted key a text starts with, blanks around it included, and what follows it. The fuel
bounds the number of its parts. -/
def scanPath : Nat → List Char → Option (KeyPath × List Char)
  | 0, _ => none
  | fuel + 1, cs => do
    let (key, rest) ← scanKey (skipBlanks cs)
    match skipBlanks rest with
    | '.' :: rest => do
      let (path, rest) ← scanPath fuel rest
      return (⟨key :: path.parents, path.name⟩, rest)
    | rest => return (⟨[], key⟩, rest)

/-! ### Values -/

/-- Whether a character may stand in a value without quotes or brackets. -/
def isWordChar (c : Char) : Bool := isBare c || c = '+' || c = '.' || c = ':'

/-- The value that a word is. -/
def ofWord? (word : List Char) : Option Value :=
  if word = ['t', 'r', 'u', 'e'] then some (.flag true)
  else if word = ['f', 'a', 'l', 's', 'e'] then some (.flag false)
  else if isMoment word then some .moment
  else .number <$> number? word

/-- The word a text starts with, and what follows it. A date goes on after a blank if a digit
follows. -/
def splitWord (cs : List Char) : List Char × List Char :=
  let word := cs.takeWhile isWordChar
  let rest := cs.dropWhile isWordChar
  match rest with
  | ' ' :: d :: more =>
    if afterDate? word = some [] ∧ d.isDigit then
      (word ++ ' ' :: (d :: more).takeWhile isWordChar, (d :: more).dropWhile isWordChar)
    else (word, rest)
  | _ => (word, rest)

mutual

/-- The value a text starts with, and what follows it, with `depth` brackets still allowed to open.
The fuel bounds the number of brackets, commas and values passed. -/
def scanValue : Nat → Nat → List Char → Option (Value × List Char)
  | 0, _, _ => none
  | fuel + 1, depth, cs =>
    match cs with
    | '"' :: '"' :: '"' :: rest => do
      let (text, rest) ← longBasicBody (rest.length + 1) (skipBreak rest)
      return (.text (String.ofList text), rest)
    | '"' :: rest => do
      let (text, rest) ← basicBody (rest.length + 1) rest
      return (.text (String.ofList text), rest)
    | '\'' :: '\'' :: '\'' :: rest => do
      let (text, rest) ← longLiteralBody (skipBreak rest)
      return (.text (String.ofList text), rest)
    | '\'' :: rest => do
      let (text, rest) ← literalBody rest
      return (.text (String.ofList text), rest)
    | '[' :: rest => match depth with
      | 0 => none
      | depth + 1 => do
        let (items, rest) ← scanItems fuel depth rest
        return (.list items, rest)
    | '{' :: rest => match depth with
      | 0 => none
      | depth + 1 => do
        let (entries, rest) ← scanEntries fuel depth rest []
        return (entries.finish, rest)
    | cs => do
      let (word, rest) := splitWord cs
      return (← ofWord? word, rest)

/-- The items of a list up to its closing bracket, and what follows it. -/
def scanItems : Nat → Nat → List Char → Option (List Value × List Char)
  | 0, _, _ => none
  | fuel + 1, depth, cs =>
    match skipLines cs with
    | ']' :: rest => some ([], rest)
    | cs => do
      let (item, rest) ← scanValue fuel depth cs
      match skipLines rest with
      | ',' :: rest => do
        let (items, rest) ← scanItems fuel depth rest
        return (item :: items, rest)
      | ']' :: rest => return ([item], rest)
      | _ => none

/-- The entries of a table up to its closing brace, added to earlier ones, and what follows it. -/
def scanEntries : Nat → Nat → List Char → Entries → Option (Entries × List Char)
  | 0, _, _, _ => none
  | fuel + 1, depth, cs, entries =>
    match skipLines cs with
    | '}' :: rest => some (entries, rest)
    | cs => do
      let (path, rest) ← scanPath maxDepth cs
      match skipLines rest with
      | '=' :: rest => do
        let (value, rest) ← scanValue fuel depth (skipLines rest)
        let entries ← entries.insert? path value
        match skipLines rest with
        | ',' :: rest => scanEntries fuel depth rest entries
        | '}' :: rest => return (entries, rest)
        | _ => none
      | _ => none

end

/-! ### Statements -/

namespace Statement

/-- The statement a text starts with, its line end included, and what follows it. -/
def scan (cs : List Char) : Option (Statement × List Char) :=
  match cs with
  | '[' :: '[' :: rest => do
    let (path, rest) ← scanPath maxDepth rest
    match rest with
    | ']' :: ']' :: rest => return (.item path, ← lineEnd? rest)
    | _ => none
  | '[' :: rest => do
    let (path, rest) ← scanPath maxDepth rest
    match rest with
    | ']' :: rest => return (.header path, ← lineEnd? rest)
    | _ => none
  | cs => do
    let (path, rest) ← scanPath maxDepth cs
    match rest with
    | '=' :: rest =>
      let (value, rest) ← scanValue (2 * rest.length + 1) maxDepth (skipBlanks rest)
      return (.entry path value, ← lineEnd? rest)
    | _ => none

/-- The statements of a text. The fuel bounds their number. -/
def readFrom : Nat → List Char → Option (List Statement)
  | 0, _ => none
  | fuel + 1, cs =>
    match skipLines cs with
    | [] => some []
    | cs => do
      let (statement, rest) ← scan cs
      return statement :: (← readFrom fuel rest)

/-- The statements of a list of characters. -/
def readChars (cs : List Char) : Option (List Statement) :=
  readFrom (cs.length + 1) cs

/-- The statements of a text. -/
def readAll (text : String) : Option (List Statement) := readChars (dropMark text.toList)

end Statement

/-! ### The table that statements build -/

/-- The table so far, and the keys of the table that entries belong to. -/
structure Progress where
  entries : Entries
  current : List String

namespace Progress

/-- One more statement. -/
def add (progress : Progress) : Statement → Option Progress
  | .header path => do
    return ⟨← progress.entries.open? path, path.parents ++ [path.name]⟩
  | .item path => do
    return ⟨← progress.entries.append? path, path.parents ++ [path.name]⟩
  | .entry path value => do
    return ⟨← progress.entries.within false (·.insert? path value) progress.current,
      progress.current⟩

end Progress

/-- The table that statements build. -/
def Entries.ofStatements? (statements : List Statement) : Option Entries :=
  (·.entries) <$> statements.foldlM Progress.add ⟨[], []⟩

/-- The value a text is. -/
def read (text : String) : Option Value :=
  Statement.readAll text >>= fun statements => Entries.finish <$> Entries.ofStatements? statements

end RouterCall.Toml
