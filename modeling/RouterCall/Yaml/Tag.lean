import RouterCall.Text.Hex
import RouterCall.Yaml.Character

/-!
# Tags of YAML

A tag is a row of octets that says what kind of value a node is. It is written in full between angle
brackets, or as a handle and a suffix, where the document says what each handle stands for. Either
way the octets of characters outside ASCII are written as percent signs with two hexadecimal digits,
and they must come in the groups of UTF-8; that a group is the shortest for its character is not
asked. A zero octet ends a tag.

## Main definitions

* `Yaml.Tag`, `Yaml.WrittenTag`: tags, and how they are written
* `WrittenTag.scan`: the tag a text starts with
* `Yaml.scanHandle`, `Yaml.scanUri`: handles and rows of octets
-/

namespace RouterCall.Yaml

/-- A tag. -/
abbrev Tag := List UInt8

/-- The octets of an ASCII text. -/
def Tag.ofText (text : String) : Tag := text.toList.map fun c => c.toNat.toUInt8

/-- A tag as it is written. -/
inductive WrittenTag where
  | full (tag : Tag)
  | short (handle : List Char) (suffix : Tag)
deriving DecidableEq

/-! ### Rows of octets -/

/-- Whether a character may stand in a tag. -/
def isTagChar (c : Char) : Bool :=
  isWordChar c
    || c ∈ [';', '/', '?', ':', '@', '&', '=', '+', '$', '.', '!', '~', '*', '\'', '(', ')']

/-- Whether a character may stand in a tag that is written in full. -/
def isFullTagChar (c : Char) : Bool := isTagChar c || c ∈ [',', '[', ']']

/-- How many octets follow the first octet of a group. -/
def followers? (octet : Nat) : Option Nat :=
  if octet < 0x80 then some 0
  else if octet < 0xc0 then none
  else if octet < 0xe0 then some 1
  else if octet < 0xf0 then some 2
  else if octet < 0xf8 then some 3
  else none

/-- How many octets of a group are still to come after an octet, when `due` were due before it. -/
def dueAfter? (due octet : Nat) : Option Nat :=
  if due = 0 then followers? octet
  else if 0x80 ≤ octet ∧ octet < 0xc0 then some (due - 1)
  else none

/-- The octets that a text starts with, when `due` octets of a group are due, and what follows them.
-/
def scanUri (accepts : Char → Bool) : Nat → List Char → Option (Tag × List Char)
  | due, '%' :: a :: b :: rest => do
    let octet ← Hex.value? [a, b]
    let due ← dueAfter? due octet
    let (octets, rest) ← scanUri accepts due rest
    return (octet.toUInt8 :: octets, rest)
  | due, c :: rest =>
    if c = '%' || due ≠ 0 then none
    else if accepts c then do
      let (octets, rest) ← scanUri accepts 0 rest
      return (c.toNat.toUInt8 :: octets, rest)
    else some ([], c :: rest)
  | due, [] => if due = 0 then some ([], []) else none

/-- A row of octets that a text starts with, and what follows it; there must be an octet. -/
def scanUri? (accepts : Char → Bool) (cs : List Char) : Option (Tag × List Char) := do
  let (octets, rest) ← scanUri accepts 0 cs
  guard (octets ≠ [])
  return (octets, rest)

/-- Octets up to the first zero. -/
def Tag.cut (octets : Tag) : Tag := octets.takeWhile (· ≠ 0)

/-! ### Handles and tags -/

/-- The handle a text starts with, and what follows it: an exclamation mark, a word, and another
exclamation mark if there is one. -/
def scanHandle : List Char → Option (List Char × List Char)
  | '!' :: rest =>
    let word := rest.takeWhile isWordChar
    match rest.dropWhile isWordChar with
    | '!' :: rest => some ('!' :: (word ++ ['!']), rest)
    | rest => some ('!' :: word, rest)
  | _ => none

/-- Whether a row of characters is a handle and not just the start of a suffix. -/
def isHandle (handle : List Char) : Bool := 1 < handle.length && handle.getLast? = some '!'

/-- The tag that a text starts with behind a row of characters that are no handle, or the tag `!` if
there is nothing in it. -/
def WrittenTag.ofSuffix (suffix : Tag) : WrittenTag :=
  if suffix = [] then .full (Tag.ofText "!") else .short ['!'] suffix

/-- The tag that a text starts with, and what follows it. A tag ends with its word, or before a
comma inside brackets. -/
def WrittenTag.scan (inside : Bool) (cs : List Char) : Option (WrittenTag × List Char) := do
  let (tag, rest) ← match cs with
    | '!' :: '<' :: rest => do
      let (octets, rest) ← scanUri? isFullTagChar rest
      match rest with
      | '>' :: rest => some (WrittenTag.full octets.cut, rest)
      | _ => none
    | cs => do
      let (handle, rest) ← scanHandle cs
      if isHandle handle then
        let (octets, rest) ← scanUri? isTagChar rest
        some (WrittenTag.short handle octets.cut, rest)
      else
        let (octets, rest) ← scanUri isTagChar 0 rest
        some (WrittenTag.ofSuffix (Tag.cut (handle.tail.map (·.toNat.toUInt8) ++ octets)), rest)
  guard (atGap rest || (inside && rest.head? = some ','))
  return (tag, rest)

end RouterCall.Yaml
