import RouterCall.Yaml.Tag

/-!
# Tokens of YAML

A YAML text is read in two steps: first the words and signs it consists of, then the nodes they
form. A `Token` is one word or sign. Collections by indentation have no signs for where they begin
and end, and a key is only known as one once the colon behind it is found; the tokens say what the
text leaves to columns and colons, so that nodes can be read without looking at either.

Anchors are numbered by their names. A name gets the number of different names before it each time
it is given, so giving the same name again may hand it a number that a later name gets too.

## Main definitions

* `Yaml.Style`, `Yaml.Token`
* `Yaml.scanDirective`: the directive a line is
* `Yaml.AnchorNames`: the numbers of names
-/

namespace RouterCall.Yaml

open Line

/-- How a scalar is written. -/
inductive Style where
  | plain
  | quoted
  | literal
  | folded
deriving DecidableEq

/-- A word or sign of a text. -/
inductive Token where
  /-- A directive that names the version of the notation. -/
  | version (major minor : Nat)
  /-- A directive that says what a handle stands for. -/
  | handle (name : List Char) (meaning : Tag)
  | documentStart
  | documentEnd
  /-- The start of a list by indentation. -/
  | blockList
  /-- The start of a table by indentation. -/
  | blockTable
  /-- The end of a collection by indentation. -/
  | blockEnd
  | openList
  | closeList
  | openTable
  | closeTable
  /-- The dash of an item. -/
  | dash
  /-- The comma after an item or entry. -/
  | comma
  /-- The start of a key. -/
  | key
  /-- The colon before a value. -/
  | value
  | anchor (number : Nat)
  | aliasOf (number : Nat)
  | tag (written : WrittenTag)
  | scalar (style : Style) (text : List Char)
deriving DecidableEq

/-! ### Directives -/

/-- The number of one to nine digits that a text starts with, and what follows it. -/
def scanVersionNumber (cs : List Char) : Option (Nat × List Char) := do
  let digits := cs.takeWhile Char.isDigit
  guard (digits ≠ [] ∧ digits.length ≤ 9)
  return (Nat.ofDigitChars 10 digits 0, cs.dropWhile Char.isDigit)

/-- The directive that a line is after its percent sign, and what follows the line. -/
def scanDirective (cs : List Char) : Option (Token × List Char) := do
  let name := cs.takeWhile isWordChar
  let rest := cs.dropWhile isWordChar
  guard (atGap rest)
  if name = ['Y', 'A', 'M', 'L'] then
    let (major, rest) ← scanVersionNumber (skipBlanks rest)
    match rest with
    | '.' :: rest =>
      let (minor, rest) ← scanVersionNumber rest
      return (.version major minor, ← lineEnd? rest)
    | _ => none
  else if name = ['T', 'A', 'G'] then
    let (handle, rest) ← scanHandle (skipBlanks rest)
    guard (handle = ['!'] ∨ isHandle handle)
    guard (rest.head?.any isBlank)
    let (meaning, rest) ← scanUri? isFullTagChar (skipBlanks rest)
    guard (atGap rest)
    return (.handle handle meaning.cut, ← lineEnd? rest)
  else none

/-! ### Anchors -/

/-- The names given so far with their numbers, each name once. -/
abbrev AnchorNames := List (List Char × Nat)

/-- The names after one of them is given again, or a new one is; its number is how many there were.
-/
def AnchorNames.give (name : List Char) (names : AnchorNames) : AnchorNames :=
  (name, names.length) :: names.filter (·.1 ≠ name)

/-- The name behind the sign of an anchor or alias, and what follows it. -/
def scanName (cs : List Char) : Option (List Char × List Char) := do
  let name := cs.takeWhile isWordChar
  let rest := cs.dropWhile isWordChar
  guard (name ≠ [])
  guard (atGap rest || rest.head?.any (· ∈ ['?', ':', ',', ']', '}', '%', '@', '\x60']))
  return (name, rest)

end RouterCall.Yaml
