import RouterCall.Yaml.Scalar
import RouterCall.Yaml.Token

/-!
# The tokens of a YAML text

Whether a word is a key is found out at the colon behind it, so the lexer remembers where a key may
have begun: one place at the outermost level and one inside each open bracket. A place is forgotten
when its line ends or when more than `maxKeyLength` octets have passed, for a key without a question
mark lies on one line. Where the column says that nothing but a key can stand, forgetting the place
is an error.

Columns matter outside brackets only. `Lexer.columns` are the columns of the collections that are
open by indentation, the innermost first. A token left of the innermost column closes collections; a
dash, a question mark, or a key right of it opens one, provided that a key is allowed to begin
there: at the start of a line, or behind a dash, a question mark, or the colon after one.

## Main definitions

* `Yaml.Mark`, `Yaml.PossibleKey`, `Yaml.Lexer`
* `Lexer.skip`, `Lexer.next`: the way to the next token, and the token
* `Token.scanAll`: the tokens of a text
-/

namespace RouterCall.Yaml

open Line

/-! ### Places -/

/-- A place in a text: its line and column, and the number of octets before it. -/
structure Mark where
  line : Nat := 0
  column : Nat := 0
  offset : Nat := 0
deriving DecidableEq

/-- The place behind a character. -/
def Mark.pass (mark : Mark) (c : Char) : Mark :=
  if isBreak c then ⟨mark.line + 1, 0, mark.offset + c.utf8Size⟩
  else ⟨mark.line, mark.column + 1, mark.offset + c.utf8Size⟩

/-- How many octets may lie between the start of a key and its colon. -/
def maxKeyLength : Nat := 1024

/-- A place where a key may have begun. -/
structure PossibleKey where
  mark : Mark
  /-- The number of tokens before it. -/
  before : Nat
  /-- Whether nothing but a key can stand there. -/
  required : Bool

/-- Whether a place is too far back for a key to have begun there. -/
def PossibleKey.isStale (key : PossibleKey) (mark : Mark) : Bool :=
  key.mark.line < mark.line || key.mark.offset + maxKeyLength < mark.offset

/-- A text that is read up to a place. -/
structure Lexer where
  rest : List Char
  mark : Mark := {}
  /-- The columns of the collections that are open by indentation, the innermost first. -/
  columns : List Nat := []
  /-- Where a key may have begun inside the innermost bracket. -/
  key : Option PossibleKey := none
  /-- Where a key may have begun outside each open bracket, the innermost first. -/
  outer : List (Option PossibleKey) := []
  /-- Whether a key may begin at the place. -/
  keyAllowed : Bool := true
  names : AnchorNames := []
  /-- The tokens so far, the last one first. -/
  tokens : List Token := []

namespace Lexer

/-- Whether a bracket is open. -/
def inside (lexer : Lexer) : Bool := !lexer.outer.isEmpty

/-- The column right of the innermost collection that is open by indentation. -/
def least (lexer : Lexer) : Nat := lexer.columns.head?.elim 0 (· + 1)

/-- Goes on to what is left of the text. -/
def moveTo (rest : List Char) (lexer : Lexer) : Lexer :=
  { lexer with
    rest
    mark := (lexer.rest.take (lexer.rest.length - rest.length)).foldl Mark.pass lexer.mark }

/-- Adds a token. -/
def emit (token : Token) (lexer : Lexer) : Lexer :=
  { lexer with tokens := token :: lexer.tokens }

/-- Adds a token that stands in the text up to what is left. -/
def emitUpTo (token : Token) (rest : List Char) (lexer : Lexer) : Lexer :=
  (lexer.moveTo rest).emit token

/-! ### Keys -/

/-- Says whether a key may begin at the place. -/
def allowKey (allowed : Bool) (lexer : Lexer) : Lexer := { lexer with keyAllowed := allowed }

/-- Forgets the place where a key may have begun, unless one must. -/
def forgetKey (lexer : Lexer) : Option Lexer :=
  if lexer.key.any (·.required) then none else some { lexer with key := none }

/-- Remembers the place as one where a key may begin, if it may. -/
def rememberKey (lexer : Lexer) : Option Lexer :=
  if lexer.keyAllowed then do
    let key := {
      mark := lexer.mark
      before := lexer.tokens.length
      required := !lexer.inside && lexer.columns.head? = some lexer.mark.column }
    return { ← lexer.forgetKey with key := some key }
  else some lexer

/-- Forgets the places that are too far back, unless a key must begin at one of them. -/
def forgetStale (lexer : Lexer) : Option Lexer :=
  let isStale (key : PossibleKey) := key.isStale lexer.mark
  if (lexer.key :: lexer.outer).any (·.any fun key => isStale key && key.required) then none
  else some { lexer with
    key := lexer.key.filter (!isStale ·)
    outer := lexer.outer.map (·.filter (!isStale ·)) }

/-! ### Indentation -/

/-- Closes the collections by indentation whose columns are `column` or right of it. -/
def closeFrom (column : Nat) (lexer : Lexer) : Lexer :=
  if lexer.inside then lexer
  else
    let closed := lexer.columns.takeWhile (column ≤ ·)
    { lexer with
      columns := lexer.columns.drop closed.length
      tokens := List.replicate closed.length .blockEnd ++ lexer.tokens }

/-- Puts tokens behind the first `before` ones. A collection by indentation is opened in front of
them, if the column is right of all that are open. -/
def openAt (column before : Nat) (start : Token) (tokens : List Token) (lexer : Lexer) : Lexer :=
  let opens := !lexer.inside && lexer.columns.head?.all (· < column)
  let since := lexer.tokens.length - before
  { lexer with
    columns := if opens then column :: lexer.columns else lexer.columns
    tokens := lexer.tokens.take since ++ tokens ++ (if opens then [start] else [])
      ++ lexer.tokens.drop since }

/-- Opens a collection by indentation at the place, if a key may begin here. -/
def openHere (start : Token) (lexer : Lexer) : Option Lexer := do
  guard (lexer.inside ∨ lexer.keyAllowed)
  return lexer.openAt lexer.mark.column lexer.tokens.length start []

/-! ### Between tokens -/

/-- The way over blanks, comments and line breaks from a place: whether a key may begin behind it,
where it ends, and what is left there. Tabs are blanks where no key may begin, and inside brackets;
a byte order mark may start a line. -/
def skipFrom (inside : Bool) : Bool → Bool → Mark → List Char → Bool × Mark × List Char
  | _, keyAllowed, mark, [] => (keyAllowed, mark, [])
  | comment, keyAllowed, mark, c :: rest =>
    if isBreak c then skipFrom inside false (keyAllowed || !inside) (mark.pass c) rest
    else if comment || c = '#' then skipFrom inside true keyAllowed (mark.pass c) rest
    else if c = ' ' || (c = '\t' && (inside || !keyAllowed))
        || (c = '\ufeff' && mark.column = 0) then
      skipFrom inside false keyAllowed (mark.pass c) rest
    else (keyAllowed, mark, c :: rest)

/-- Goes on to the next token. -/
def skip (lexer : Lexer) : Lexer :=
  let (keyAllowed, mark, rest) := skipFrom lexer.inside false lexer.keyAllowed lexer.mark lexer.rest
  { lexer with keyAllowed, mark, rest }

/-! ### Tokens -/

/-- A line of the document's surroundings: a directive or a marker. -/
def surrounding (token : Token) (rest : List Char) (lexer : Lexer) : Option Lexer := do
  let lexer ← (lexer.closeFrom 0).forgetKey
  return (lexer.allowKey false).emitUpTo token rest

/-- An opening bracket. -/
def openBracket (token : Token) (rest : List Char) (lexer : Lexer) : Option Lexer := do
  let lexer ← lexer.rememberKey
  let lexer := { lexer with key := none, outer := lexer.key :: lexer.outer }
  return (lexer.allowKey true).emitUpTo token rest

/-- A closing bracket. -/
def closeBracket (token : Token) (rest : List Char) (lexer : Lexer) : Option Lexer := do
  let lexer ← lexer.forgetKey
  let lexer := match lexer.outer with
    | [] => lexer
    | key :: outer => { lexer with key, outer }
  return (lexer.allowKey false).emitUpTo token rest

/-- A comma. -/
def comma (rest : List Char) (lexer : Lexer) : Option Lexer := do
  let lexer ← lexer.forgetKey
  return (lexer.allowKey true).emitUpTo .comma rest

/-- The dash of an item. -/
def dash (rest : List Char) (lexer : Lexer) : Option Lexer := do
  let lexer ← (← lexer.openHere .blockList).forgetKey
  return (lexer.allowKey true).emitUpTo .dash rest

/-- The question mark before a key. -/
def question (rest : List Char) (lexer : Lexer) : Option Lexer := do
  let lexer ← (← lexer.openHere .blockTable).forgetKey
  return (lexer.allowKey (!lexer.inside)).emitUpTo .key rest

/-- The colon before a value. If a key may have begun somewhere before it, one did. -/
def colon (rest : List Char) (lexer : Lexer) : Option Lexer :=
  match lexer.key with
  | some key =>
    let lexer := lexer.openAt key.mark.column key.before .blockTable [.key]
    some (({ lexer with key := none }.allowKey false).emitUpTo .value rest)
  | none => do
    let lexer ← lexer.openHere .blockTable
    return (lexer.allowKey (!lexer.inside)).emitUpTo .value rest

/-- A token that a key can begin with. -/
def word (token : Token) (rest : List Char) (lexer : Lexer) : Option Lexer := do
  let lexer ← lexer.rememberKey
  return (lexer.allowKey false).emitUpTo token rest

/-- An anchor. -/
def anchor (rest : List Char) (lexer : Lexer) : Option Lexer := do
  let (name, rest) ← scanName rest
  let names := lexer.names.give name
  { lexer with names }.word (.anchor lexer.names.length) rest

/-- An alias, whose name must have been given. -/
def aliasMark (rest : List Char) (lexer : Lexer) : Option Lexer := do
  let (name, rest) ← scanName rest
  lexer.word (.aliasOf (← lexer.names.lookup name)) rest

/-- A scalar without quotes. A key may begin behind it if a line has ended. -/
def plain (lexer : Lexer) : Option Lexer := do
  let (text, passed, rest) ← Yaml.plain lexer.inside lexer.least lexer.rest
  let lexer ← lexer.word (.scalar .plain text) rest
  return lexer.allowKey passed

/-- A block of lines. -/
def block (folded : Bool) (rest : List Char) (lexer : Lexer) : Option Lexer := do
  let lexer ← lexer.forgetKey
  let (text, rest) ← block? folded lexer.least rest
  return (lexer.allowKey true).emitUpTo (.scalar (if folded then .folded else .literal) text) rest

/-- The token at the place. -/
def token (lexer : Lexer) : Option Lexer :=
  let fresh := lexer.mark.column = 0
  match lexer.rest with
  | [] => none
  | c :: rest =>
    if fresh ∧ c = '%' then do
      let (directive, rest) ← scanDirective rest
      lexer.surrounding directive rest
    else if fresh ∧ isMarker '-' (c :: rest) then lexer.surrounding .documentStart (rest.drop 2)
    else if fresh ∧ isMarker '.' (c :: rest) then lexer.surrounding .documentEnd (rest.drop 2)
    else if c = '[' then lexer.openBracket .openList rest
    else if c = '{' then lexer.openBracket .openTable rest
    else if c = ']' then lexer.closeBracket .closeList rest
    else if c = '}' then lexer.closeBracket .closeTable rest
    else if c = ',' then lexer.comma rest
    else if c = '-' ∧ atGap rest then lexer.dash rest
    else if c = '?' ∧ (lexer.inside ∨ atGap rest) then lexer.question rest
    else if c = ':' ∧ (lexer.inside ∨ atGap rest) then lexer.colon rest
    else if c = '*' then lexer.aliasMark rest
    else if c = '&' then lexer.anchor rest
    else if c = '!' then do
      let (tag, rest) ← WrittenTag.scan lexer.inside (c :: rest)
      lexer.word (.tag tag) rest
    else if (c = '|' ∨ c = '>') ∧ ¬ lexer.inside then lexer.block (c = '>') rest
    else if c = '\'' then do
      let (text, rest) ← singleBody .none false rest
      lexer.word (.scalar .quoted text) rest
    else if c = '"' then do
      let (text, rest) ← doubleBody (rest.length + 1) .none false rest
      lexer.word (.scalar .quoted text) rest
    else lexer.plain

/-- The next token, after the ends of collections that lie before it. -/
def next (lexer : Lexer) : Option Lexer := do
  let lexer ← lexer.forgetStale
  (lexer.closeFrom (lexer.mark.column + 1)).token

/-- The end of the text. -/
def finish (lexer : Lexer) : Option (List Token) := do
  let lexer ← lexer.forgetStale
  let lexer ← (lexer.closeFrom 0).forgetKey
  return lexer.tokens.reverse

/-- The tokens of a text that is read up to a place. The fuel bounds the number of tokens left. -/
def run : Nat → Lexer → Option (List Token)
  | 0, _ => none
  | fuel + 1, lexer =>
    let lexer := lexer.skip
    if lexer.rest = [] then lexer.finish else lexer.next >>= run fuel

end Lexer

/-- The tokens of a text whose line breaks are unified. -/
def Token.scanAll (cs : List Char) : Option (List Token) :=
  Lexer.run (cs.length + 1) { rest := cs }

end RouterCall.Yaml
