import RouterCall.Yaml.Node
import RouterCall.Yaml.Token.Lexer

/-!
# YAML documents

A text holds one document: directives and a marker before it, both of which may be left out, the
node it consists of, and markers after it. A text without a node is a document with the empty node.
An alias stands for the last node with the anchor that is its own.

## Main definitions

* `Yaml.Document`, `Document.resolve`: documents, and what their aliases stand for
* `Document.read`: the document a text is
-/

namespace RouterCall.Yaml

/-- A document: its node, and the nodes that aliases stand for. -/
structure Document where
  root : Node
  anchored : List (Nat × Node) := root.anchored

namespace Document

/-- A node that is no alias as it is, and an alias as what it stands for. -/
def resolve (document : Document) : Node → Node
  | .aliasOf number => (document.anchored.reverse.lookup number).getD .empty
  | node => node

/-! ### Directives -/

/-- What the handles stand for about which a document says nothing. -/
def standardHandles : Node.Handles :=
  [(['!'], Tag.ofText "!"), (['!', '!'], Tag.ofText "tag:yaml.org,2002:")]

/-- Whether a version of the notation is one that is read here. -/
def isKnownVersion (major minor : Nat) : Bool := major = 1 && (minor = 1 || minor = 2)

/-- What the handles stand for after the directives that tokens start with, and what follows them.
There must be no two directives about the version, and no two about one handle. -/
def directives (versioned : Bool) (handles : Node.Handles) :
    List Token → Option (Node.Handles × List Token)
  | .version major minor :: rest =>
    if versioned || !isKnownVersion major minor then none else directives true handles rest
  | .handle name meaning :: rest =>
    if (handles.lookup name).isSome then none
    else directives versioned ((name, meaning) :: handles) rest
  | rest => some (handles ++ standardHandles, rest)

/-! ### Reading -/

/-- Whether nothing stands between the marker before a document and what follows. -/
def isVoid : List Token → Bool
  | [] | .version _ _ :: _ | .handle _ _ :: _ | .documentStart :: _ | .documentEnd :: _ => true
  | _ => false

/-- The node of a document, behind the directives and the marker before it, and what follows. -/
def scanRoot (tokens : List Token) : Option (Node × List Token) := do
  let fuel := 2 * tokens.length + 2
  match tokens with
  | [] => return (.empty, [])
  | .version _ _ :: _ | .handle _ _ :: _ | .documentStart :: _ => do
    let (handles, rest) ← directives false [] tokens
    match rest with
    | .documentStart :: rest =>
      if isVoid rest then return (.empty, rest) else Node.scan handles fuel true false rest
    | _ => none
  | _ => Node.scan standardHandles fuel true false tokens

/-- The document that tokens are. -/
def ofTokens? (tokens : List Token) : Option Document := do
  let (root, rest) ← scanRoot tokens
  guard (rest.all (· = .documentEnd))
  return { root }

/-- The document that a list of characters is. -/
def readChars (cs : List Char) : Option Document := do
  guard (cs.all isAllowed)
  Token.scanAll (unifyBreaks (Line.dropMark cs)) >>= ofTokens?

/-- The document that a text is. -/
def read (text : String) : Option Document := readChars text.toList

end Document

end RouterCall.Yaml
