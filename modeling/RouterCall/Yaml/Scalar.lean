import RouterCall.Text.Hex
import RouterCall.Yaml.Character

/-!
# Scalars of YAML

A scalar is written without quotes, between quotes, or as a block of lines under a bar or an angle
bracket. The first two may run over several lines, and their line breaks fold: one break becomes a
blank, more breaks become one less, and the blanks around them are dropped. A break that is one of
the separators of Unicode does not fold but stays. A `Gap` is what lies between two characters of
such a scalar that are not blank, and `Gap.text` is what becomes of it.

In a block the lines keep their breaks, or fold under an angle bracket where neither of two lines
starts with a blank. What indents all lines is not part of the text, and `Chomp` says what becomes
of the breaks after the last line.

No line inside a scalar may start with one of the markers around a document: an unquoted scalar or a
block ends before it, and a quoted one is refused.

## Main definitions

* `Yaml.Gap`, `Gap.text`: folding
* `Yaml.plain`: scalars without quotes
* `Yaml.doubleBody`, `Yaml.singleBody`: scalars between quotes
* `Yaml.block?`: scalars in a block of lines
-/

namespace RouterCall.Yaml

open Line

/-! ### Folding -/

/-- What lies between two characters of a scalar. -/
inductive Gap where
  /-- Blanks of one line. -/
  | blanks (written : List Char)
  /-- A line break, which is absent when it was escaped, and the breaks after it. -/
  | breaks (first : Option Char) (more : List Char)

namespace Gap

/-- No gap. -/
def none : Gap := .blanks []

/-- Whether there is a gap. -/
def isSome : Gap → Bool
  | .blanks [] => false
  | _ => true

/-- Whether a gap has a line break. -/
def hasBreak : Gap → Bool
  | .blanks _ => false
  | .breaks _ _ => true

/-- A gap and one more blank. -/
def blank (c : Char) : Gap → Gap
  | .blanks written => .blanks (written ++ [c])
  | .breaks first more => .breaks first more

/-- A gap and one more line break. -/
def lineBreak (c : Char) : Gap → Gap
  | .blanks _ => .breaks (some c) []
  | .breaks first more => .breaks first (more ++ [c])

/-- What becomes of a gap. -/
def text : Gap → List Char
  | .blanks written => written
  | .breaks (some '\n') [] => [' ']
  | .breaks (some '\n') more => more
  | .breaks first more => first.toList ++ more

end Gap

/-! ### Scalars without quotes -/

/-- The brackets and the comma, which end a scalar inside brackets. -/
def isBracket (c : Char) : Bool := c ∈ [',', '[', ']', '{', '}']

/-- Whether a scalar without quotes may start a text. -/
def startsPlain (inside : Bool) : List Char → Bool
  | [] => false
  | '-' :: rest => !atGap rest
  | '?' :: rest | ':' :: rest => !inside && !atGap rest
  | c :: _ =>
    !(isSpace c || isBracket c
      || c ∈ ['#', '&', '*', '!', '|', '>', '\'', '"', '%', '@', '\x60'])

/-- Whether a scalar without quotes ends before a character and what follows it. -/
def endsPlain (inside : Bool) (c : Char) (rest : List Char) : Bool :=
  (c = ':' && atGap rest) || (inside && isBracket c)

/-- Whether a colon must not stand inside brackets before what follows it. -/
def isTightColon (inside : Bool) (c : Char) (rest : List Char) : Bool :=
  inside && c = ':' && rest.head?.any fun next => next = '?' || isBracket next

/-- A scalar without quotes after a gap, whether a line break was passed behind it, and what follows
it. Outside brackets its lines must not start left of the column `least`, and no tab may stand there
before the first character of a line. -/
def plainFrom (inside : Bool) (least : Nat) :
    Gap → Nat → List Char → Option (List Char × Bool × List Char)
  | gap, _, [] => some ([], gap.hasBreak, [])
  | gap, column, c :: rest =>
    if isBreak c then plainFrom inside least (gap.lineBreak c) 0 rest
    else if isBlank c then
      if c = '\t' && gap.hasBreak && column < least then none
      else plainFrom inside least (gap.blank c) (column + 1) rest
    else if (gap.hasBreak && !inside && column < least)
        || (gap.hasBreak && column = 0 && atMarker (c :: rest))
        || (gap.isSome && c = '#') || endsPlain inside c rest then
      some ([], gap.hasBreak, c :: rest)
    else if isTightColon inside c rest then none
    else do
      let (text, passed, rest) ← plainFrom inside least .none (column + 1) rest
      return (gap.text ++ c :: text, passed, rest)

/-- The scalar without quotes that a text starts with, whether a line break was passed behind it,
and what follows it. -/
def plain (inside : Bool) (least : Nat) (cs : List Char) :
    Option (List Char × Bool × List Char) := do
  guard (startsPlain inside cs)
  plainFrom inside least .none 0 cs

/-! ### Scalars between quotes -/

/-- The characters that a one-letter escape stands for. -/
def escaped? : Char → Option Char
  | '0' => some '\x00'
  | 'a' => some '\x07'
  | 'b' => some '\x08'
  | 't' | '\t' => some '\t'
  | 'n' => some '\n'
  | 'v' => some '\x0b'
  | 'f' => some '\x0c'
  | 'r' => some '\r'
  | 'e' => some '\x1b'
  | ' ' => some ' '
  | '"' => some '"'
  | '/' => some '/'
  | '\\' => some '\\'
  | 'N' => some '\u0085'
  | '_' => some '\u00a0'
  | 'L' => some '\u2028'
  | 'P' => some '\u2029'
  | _ => none

/-- The character that an escape after its backslash stands for, and what follows the escape. -/
def escape? : List Char → Option (Char × List Char)
  | 'x' :: a :: b :: rest => (·, rest) <$> Hex.char? [a, b]
  | 'u' :: a :: b :: c :: d :: rest => (·, rest) <$> Hex.char? [a, b, c, d]
  | 'U' :: a :: b :: c :: d :: e :: f :: g :: h :: rest =>
    (·, rest) <$> Hex.char? [a, b, c, d, e, f, g, h]
  | c :: rest => (·, rest) <$> escaped? c
  | [] => none

/-- Whether a text starts with a marker at the start of a line. -/
def isFreshMarker (fresh : Bool) (cs : List Char) : Bool := fresh && atMarker cs

/-- A scalar between double quotes, after a gap, up to the closing quote, and what follows the
quote; `fresh` says whether a line has just started. The fuel bounds the number of characters. -/
def doubleBody : Nat → Gap → Bool → List Char → Option (List Char × List Char)
  | 0, _, _, _ => none
  | _, _, _, [] => none
  | fuel + 1, gap, fresh, c :: rest =>
    if isFreshMarker fresh (c :: rest) then none
    else if c = '"' then some (gap.text, rest)
    else if isBreak c then doubleBody fuel (gap.lineBreak c) true rest
    else if isBlank c then doubleBody fuel (gap.blank c) false rest
    else if c = '\\' then
      match rest with
      | [] => none
      | b :: more =>
        if isBreak b then do
          let (text, rest) ← doubleBody fuel (.breaks none []) true more
          return (gap.text ++ text, rest)
        else do
          let (e, rest) ← escape? rest
          let (text, rest) ← doubleBody fuel .none false rest
          return (gap.text ++ e :: text, rest)
    else do
      let (text, rest) ← doubleBody fuel .none false rest
      return (gap.text ++ c :: text, rest)

/-- A scalar between single quotes, after a gap, up to the closing quote, and what follows the
quote; `fresh` says whether a line has just started. Two quotes are one that does not close. -/
def singleBody : Gap → Bool → List Char → Option (List Char × List Char)
  | _, _, [] => none
  | gap, _, '\'' :: '\'' :: rest => do
    let (text, rest) ← singleBody .none false rest
    return (gap.text ++ '\'' :: text, rest)
  | gap, _, '\'' :: rest => some (gap.text, rest)
  | gap, fresh, c :: rest =>
    if isFreshMarker fresh (c :: rest) then none
    else if isBreak c then singleBody (gap.lineBreak c) true rest
    else if isBlank c then singleBody (gap.blank c) false rest
    else do
      let (text, rest) ← singleBody .none false rest
      return (gap.text ++ c :: text, rest)

/-! ### Blocks of lines -/

/-- What becomes of the line breaks after the last line of a block. -/
inductive Chomp where
  /-- The first of them stays. -/
  | clip
  /-- None of them stays. -/
  | strip
  /-- All of them stay. -/
  | keep
deriving DecidableEq

/-- The treatment of the last line breaks that a text starts with, and what follows it. -/
def chompMark : List Char → Chomp × List Char
  | '-' :: rest => (.strip, rest)
  | '+' :: rest => (.keep, rest)
  | cs => (.clip, cs)

/-- The number of columns that a block is indented by, if a text starts with a digit, and what
follows it. No block is indented by no column. -/
def indentMark? : List Char → Option (Option Nat × List Char)
  | c :: rest =>
    if c = '0' then none
    else if c.isDigit then some (some (c.toNat - '0'.toNat), rest)
    else some (none, c :: rest)
  | [] => some (none, [])

/-- The marks behind the sign of a block, which come in either order, and what follows their line.
-/
def blockHeader? (cs : List Char) : Option (Chomp × Option Nat × List Char) := do
  let (before, cs) := chompMark cs
  let (indent, cs) ← indentMark? cs
  let (after, cs) := if before = .clip && indent.isSome then chompMark cs else (before, cs)
  return (after, indent, ← lineEnd? cs)

/-- The line breaks of the blank lines that a text starts with, the greatest column reached, the
column of the next character, and what is left there. Blanks are passed up to the column of the
block, or as many as there are where that is not known yet; a tab must not stand among them. -/
def blankLines (indent : Option Nat) :
    Nat → Nat → List Char → Option (List Char × Nat × Nat × List Char)
  | widest, column, [] => some ([], max widest column, column, [])
  | widest, column, c :: rest =>
    if isBreak c then do
      let (breaks, found) ← blankLines indent (max widest column) 0 rest
      return (c :: breaks, found)
    else if isBlank c && indent.all (column < ·) then
      if c = '\t' then none else blankLines indent widest (column + 1) rest
    else some ([], max widest column, column, c :: rest)

/-- What stands between two lines of a block: the break that ends the first line and the breaks of
blank lines after it. A single line feed folds into a blank where it may. -/
def joinLines (folds : Bool) (first : List Char) (more : List Char) : List Char :=
  if folds && first.head? = some '\n' then (if more = [] then [' '] else more) else first ++ more

/-- The lines of a block from the break `first` and the breaks `more` on, at a column, and what
follows the block; `indented` says whether the line before starts with a blank. The fuel bounds the
number of lines. -/
def blockLines (folded : Bool) (chomp : Chomp) (indent : Nat) :
    Nat → Bool → List Char → List Char → Nat → List Char → Option (List Char × List Char)
  | fuel + 1, indented, first, more, column, c :: rest =>
    if column = indent then do
      let blank := isBlank c
      let line := (c :: rest).takeWhile (!isBreak ·)
      let rest := (c :: rest).dropWhile (!isBreak ·)
      let (breaks, _, column, left) ← blankLines (some indent) 0 0 (rest.drop 1)
      let (text, left) ←
        blockLines folded chomp indent fuel blank (rest.take 1) breaks column left
      return (joinLines (folded && !indented && !blank) first more ++ line ++ text, left)
    else some (ending first more, c :: rest)
  | _, _, first, more, _, cs => some (ending first more, cs)
where
  /-- What stays of the last line breaks. -/
  ending (first more : List Char) : List Char := match chomp with
    | .clip => first
    | .strip => []
    | .keep => first ++ more

/-- The block that follows its sign in a text, and what follows it. Its lines stand at the column
`least` or right of it. -/
def block? (folded : Bool) (least : Nat) (cs : List Char) : Option (List Char × List Char) := do
  let (chomp, mark, cs) ← blockHeader? cs
  let known := mark.map fun mark => (least - 1) + mark
  let (breaks, widest, column, rest) ← blankLines known 0 0 cs
  let indent := known.getD (max widest (max least 1))
  blockLines folded chomp indent (rest.length + 1) false [] breaks column rest

end RouterCall.Yaml
