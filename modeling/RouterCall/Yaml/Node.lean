import RouterCall.Yaml.Token

/-!
# Nodes of YAML

A node is a scalar, a list, a table, or an alias, which stands for the node with a given anchor. The
first three may have an anchor and a tag. A node may also be empty: where a key, a value or an item
is left out, and where an anchor or a tag stands alone. An empty node is a plain scalar without
text.

Nodes are read from tokens by a grammar without surprises but two. A list by indentation may start
in the column of the key it belongs to, and then no token says where it starts and ends. And an
entry inside the brackets of a list, where a question mark is followed by no key, swallows the token
behind the question mark.

## Main definitions

* `Yaml.Node`, `Yaml.Properties`
* `Node.scan`: the node that a row of tokens starts with
* `Node.anchored`: the nodes with an anchor
-/

namespace RouterCall.Yaml

/-- What may stand before a node. -/
structure Properties where
  anchor : Option Nat := none
  tag : Option Tag := none
deriving DecidableEq

/-- The properties of a scalar, for which the tag `!` means no more than none. -/
def Properties.ofScalar (properties : Properties) : Properties :=
  { properties with tag := properties.tag.filter (· ≠ Tag.ofText "!") }

/-- A node. -/
inductive Node where
  | aliasOf (number : Nat)
  | scalar (properties : Properties) (style : Style) (text : String)
  | list (properties : Properties) (items : List Node)
  | table (properties : Properties) (entries : List (Node × Node))

namespace Node

/-- The empty node. -/
def empty (properties : Properties := {}) : Node := .scalar properties .plain ""

/-! ### Properties -/

/-- What the handles of a document stand for. -/
abbrev Handles := List (List Char × Tag)

/-- The tag that is meant by a written one. -/
def tag? (handles : Handles) : WrittenTag → Option Tag
  | .full tag => some tag
  | .short handle suffix => (· ++ suffix) <$> handles.lookup handle

/-- The anchor and the tag that tokens start with, in either order, and what follows them. -/
def scanProperties (handles : Handles) : List Token → Option (Properties × List Token)
  | .anchor number :: .tag written :: rest | .tag written :: .anchor number :: rest => do
    return ({ anchor := some number, tag := some (← tag? handles written) }, rest)
  | .anchor number :: rest => some ({ anchor := some number }, rest)
  | .tag written :: rest => do return ({ tag := some (← tag? handles written) }, rest)
  | rest => some ({}, rest)

/-! ### Nodes from tokens -/

/-- Whether a value by indentation is left out before what follows. -/
def leftOut : List Token → Bool
  | .key :: _ | .value :: _ | .blockEnd :: _ => true
  | _ => false

/-- Whether a value inside brackets is left out before what follows, which may be a colon where a
key is left out. -/
def leftOutInside (close : Token) (colon : Bool) : List Token → Bool
  | .value :: _ => colon
  | token :: _ => token = .comma || token = close
  | [] => false

mutual

/-- The node that tokens start with, and what follows it. `block` says whether it may be a
collection by indentation, and `dashes` whether a list may start without saying so. The fuel bounds
the number of tokens passed. -/
def scan (handles : Handles) : Nat → Bool → Bool → List Token → Option (Node × List Token)
  | 0, _, _, _ => none
  | _, _, _, .aliasOf number :: rest => some (.aliasOf number, rest)
  | fuel + 1, block, dashes, tokens => do
    let (properties, rest) ← scanProperties handles tokens
    match rest, block, dashes with
    | .scalar style text :: rest, _, _ =>
      return (.scalar properties.ofScalar style (String.ofList text), rest)
    | .openList :: rest, _, _ => do
      let (items, rest) ← scanInsideItems handles fuel true rest
      return (.list properties items, rest)
    | .openTable :: rest, _, _ => do
      let (entries, rest) ← scanInsideEntries handles fuel true rest
      return (.table properties entries, rest)
    | .dash :: rest, _, true => do
      let (items, rest) ← scanDashes handles fuel (.dash :: rest)
      return (.list properties items, rest)
    | .blockList :: rest, true, _ => do
      let (items, rest) ← scanItems handles fuel rest
      return (.list properties items, rest)
    | .blockTable :: rest, true, _ => do
      let (entries, rest) ← scanEntries handles fuel rest
      return (.table properties entries, rest)
    | rest, _, _ => if properties = {} then none else some (.empty properties, rest)

/-- The items of a list by indentation up to its end, and what follows it. -/
def scanItems (handles : Handles) : Nat → List Token → Option (List Node × List Token)
  | 0, _ => none
  | fuel + 1, tokens =>
    match tokens with
    | .blockEnd :: rest => some ([], rest)
    | .dash :: rest => do
      let (item, rest) ← match rest with
        | .dash :: _ | .blockEnd :: _ => some (empty, rest)
        | _ => scan handles fuel true false rest
      let (items, rest) ← scanItems handles fuel rest
      return (item :: items, rest)
    | _ => none

/-- The items of a list that starts in the column of its key, and what follows it. -/
def scanDashes (handles : Handles) : Nat → List Token → Option (List Node × List Token)
  | 0, _ => none
  | fuel + 1, tokens =>
    match tokens with
    | .dash :: rest => do
      let (item, rest) ← match rest with
        | .dash :: _ => some (empty, rest)
        | _ => if leftOut rest then some (empty, rest) else scan handles fuel true false rest
      let (items, rest) ← scanDashes handles fuel rest
      return (item :: items, rest)
    | rest => some ([], rest)

/-- The entries of a table by indentation up to its end, and what follows it. -/
def scanEntries (handles : Handles) : Nat → List Token → Option (List (Node × Node) × List Token)
  | 0, _ => none
  | fuel + 1, tokens =>
    match tokens with
    | .blockEnd :: rest => some ([], rest)
    | .key :: rest => do
      let (key, rest) ← scanPart handles fuel rest
      let (value, rest) ← match rest with
        | .value :: rest => scanPart handles fuel rest
        | rest => some (empty, rest)
      let (entries, rest) ← scanEntries handles fuel rest
      return ((key, value) :: entries, rest)
    | _ => none

/-- A key or value by indentation, which may be left out, and what follows it. -/
def scanPart (handles : Handles) : Nat → List Token → Option (Node × List Token)
  | 0, _ => none
  | fuel + 1, tokens =>
    if leftOut tokens then some (empty, tokens) else scan handles fuel true true tokens

/-- The items inside brackets up to the closing one, and what follows it. A key among them starts a
table with one entry. -/
def scanInsideItems (handles : Handles) :
    Nat → Bool → List Token → Option (List Node × List Token)
  | 0, _, _ => none
  | fuel + 1, first, tokens =>
    match tokens, first with
    | .closeList :: rest, _ => some ([], rest)
    | .comma :: .closeList :: rest, false => some ([], rest)
    | .comma :: rest, false | rest, true => do
      let (item, rest) ← match rest with
        | .key :: rest => scanSingle handles fuel rest
        | rest => scan handles fuel false false rest
      let (items, rest) ← scanInsideItems handles fuel false rest
      return (item :: items, rest)
    | _, false => none

/-- The table with one entry that starts behind a question mark or at a key inside the brackets of a
list, and what follows it. -/
def scanSingle (handles : Handles) : Nat → List Token → Option (Node × List Token)
  | 0, _ => none
  | fuel + 1, tokens => do
    let (key, rest) ←
      if leftOutInside .closeList true tokens then some (empty, tokens.tail)
      else scan handles fuel false false tokens
    let (value, rest) ← scanInsideValue handles fuel .closeList rest
    return (.table {} [(key, value)], rest)

/-- The value behind a colon inside brackets, either of which may be left out, and what follows it.
-/
def scanInsideValue (handles : Handles) : Nat → Token → List Token → Option (Node × List Token)
  | 0, _, _ => none
  | fuel + 1, close, tokens =>
    match tokens with
    | .value :: rest =>
      if leftOutInside close false rest then some (empty, rest)
      else scan handles fuel false false rest
    | rest => some (empty, rest)

/-- The entries inside braces up to the closing one, and what follows it. A node without a key mark
is a key whose value is left out. -/
def scanInsideEntries (handles : Handles) :
    Nat → Bool → List Token → Option (List (Node × Node) × List Token)
  | 0, _, _ => none
  | fuel + 1, first, tokens =>
    match tokens, first with
    | .closeTable :: rest, _ => some ([], rest)
    | .comma :: .closeTable :: rest, false => some ([], rest)
    | .comma :: rest, false | rest, true => do
      let (entry, rest) ← match rest with
        | .key :: rest => do
          let (key, rest) ←
            if leftOutInside .closeTable true rest then some (empty, rest)
            else scan handles fuel false false rest
          let (value, rest) ← scanInsideValue handles fuel .closeTable rest
          some ((key, value), rest)
        | rest => do
          let (key, rest) ← scan handles fuel false false rest
          some ((key, empty), rest)
      let (entries, rest) ← scanInsideEntries handles fuel false rest
      return (entry :: entries, rest)
    | _, false => none

end

/-! ### Anchors -/

mutual

/-- The nodes with an anchor in a node, in the order in which they begin. -/
def anchored : Node → List (Nat × Node)
  | .aliasOf _ => []
  | .scalar properties style text =>
    properties.anchor.toList.map (·, .scalar properties style text)
  | .list properties items =>
    properties.anchor.toList.map (·, .list properties items) ++ itemsAnchored items
  | .table properties entries =>
    properties.anchor.toList.map (·, .table properties entries) ++ entriesAnchored entries

/-- The nodes with an anchor in the items of a list. -/
def itemsAnchored : List Node → List (Nat × Node)
  | [] => []
  | item :: items => anchored item ++ itemsAnchored items

/-- The nodes with an anchor in the entries of a table. -/
def entriesAnchored : List (Node × Node) → List (Nat × Node)
  | [] => []
  | (key, value) :: entries => anchored key ++ anchored value ++ entriesAnchored entries

end

end Node

end RouterCall.Yaml
