import RouterCall.Json.Value
import RouterCall.Text.Hex

/-!
# JSON texts

A `Document` is a JSON text taken apart and nothing more: number literals are still literals, every
written member is there in the written order, and a string literal whose escapes do not spell a text
(an unpaired surrogate) is marked rather than refused. Reading a value and reading settings both
start from here, and differ in what they demand of the parts they use.

The grammar is RFC 8259 with no extension: four blanks, no comments, no trailing commas, no raw
control characters inside strings.

`Document.resolve` is the step to values. It demands that every literal denotes something and that
containers are nested at most `Json.maxDepth` deep, and it lists the members of an object by
increasing key, a repeated key keeping its last value.

## Main definitions

* `Document.read`: the document a text is
* `Document.resolve`: the value a document denotes
* `Json.read`: both steps
-/

namespace RouterCall

/-- A JSON text taken apart. A string literal is `none` when it holds an unpaired surrogate. -/
inductive Document where
  | null
  | bool (value : Bool)
  | number (literal : Numeral)
  | string (literal : Option String)
  | array (items : List Document)
  | object (members : List (Option String × Document))

namespace Document

/-! ### Blanks -/

/-- The four blanks of JSON. -/
def isBlank (c : Char) : Bool := c = ' ' || c = '\t' || c = '\n' || c = '\r'

/-- What follows the blanks at the start of a text. -/
def skipBlanks (cs : List Char) : List Char := cs.dropWhile isBlank

/-! ### String literals -/

/-- One unit of a string literal: a character, or an escaped surrogate code. -/
inductive TextUnit where
  | char (c : Char)
  | surrogate (code : Nat)

/-- The unit that a four-digit escape stands for. -/
def TextUnit.ofCode (code : Nat) : TextUnit :=
  if 0xD800 ≤ code ∧ code < 0xE000 then .surrogate code else .char (Char.ofNat code)

/-- The characters that a one-letter escape stands for. -/
def escaped? : Char → Option Char
  | '"' => some '"'
  | '\\' => some '\\'
  | '/' => some '/'
  | 'b' => some '\x08'
  | 'f' => some '\x0c'
  | 'n' => some '\n'
  | 'r' => some '\r'
  | 't' => some '\t'
  | _ => none

/-- The units of a string literal up to its closing quote, and what follows the quote. -/
def scanUnits : List Char → Option (List TextUnit × List Char)
  | [] => none
  | '"' :: rest => some ([], rest)
  | '\\' :: 'u' :: a :: b :: c :: d :: rest => do
    let code ← Hex.value? [a, b, c, d]
    let (units, rest) ← scanUnits rest
    return (TextUnit.ofCode code :: units, rest)
  | '\\' :: e :: rest => do
    let c ← escaped? e
    let (units, rest) ← scanUnits rest
    return (.char c :: units, rest)
  | c :: rest => do
    guard (c ≠ '\\' ∧ 0x20 ≤ c.toNat)
    let (units, rest) ← scanUnits rest
    return (.char c :: units, rest)

/-- The text that units spell: surrogates count in pairs, a high one before a low one. -/
def spell : List TextUnit → Option (List Char)
  | [] => some []
  | .char c :: rest => (c :: ·) <$> spell rest
  | .surrogate high :: .surrogate low :: rest =>
    if high < 0xDC00 ∧ 0xDC00 ≤ low then
      (Char.ofNat (0x10000 + (high - 0xD800) * 0x400 + (low - 0xDC00)) :: ·) <$> spell rest
    else none
  | .surrogate _ :: _ => none

/-- A string literal after its opening quote, and what follows it. -/
def scanText (cs : List Char) : Option (Option String × List Char) := do
  let (units, rest) ← scanUnits cs
  return ((spell units).map String.ofList, rest)

/-! ### Values -/

mutual

/-- The document a text starts with, and what follows it. The fuel bounds the number of brackets,
commas and values passed; twice the length of the text is enough. -/
def scan : Nat → List Char → Option (Document × List Char)
  | 0, _ => none
  | fuel + 1, cs =>
    match skipBlanks cs with
    | 'n' :: 'u' :: 'l' :: 'l' :: rest => some (.null, rest)
    | 't' :: 'r' :: 'u' :: 'e' :: rest => some (.bool true, rest)
    | 'f' :: 'a' :: 'l' :: 's' :: 'e' :: rest => some (.bool false, rest)
    | '"' :: rest => do
      let (literal, rest) ← scanText rest
      return (.string literal, rest)
    | '[' :: rest =>
      match skipBlanks rest with
      | ']' :: rest => some (.array [], rest)
      | _ => do
        let (items, rest) ← scanItems fuel rest
        return (.array items, rest)
    | '{' :: rest =>
      match skipBlanks rest with
      | '}' :: rest => some (.object [], rest)
      | _ => do
        let (members, rest) ← scanMembers fuel rest
        return (.object members, rest)
    | cs => do
      let (literal, rest) ← Numeral.scan cs
      return (.number literal, rest)

/-- The items of a non-empty array up to its closing bracket, and what follows it. -/
def scanItems : Nat → List Char → Option (List Document × List Char)
  | 0, _ => none
  | fuel + 1, cs => do
    let (item, rest) ← scan fuel cs
    match skipBlanks rest with
    | ',' :: rest => do
      let (items, rest) ← scanItems fuel rest
      return (item :: items, rest)
    | ']' :: rest => return ([item], rest)
    | _ => none

/-- The members of a non-empty object up to its closing brace, and what follows it. -/
def scanMembers : Nat → List Char → Option (List (Option String × Document) × List Char)
  | 0, _ => none
  | fuel + 1, cs => do
    match skipBlanks cs with
    | '"' :: rest => do
      let (key, rest) ← scanText rest
      match skipBlanks rest with
      | ':' :: rest => do
        let (value, rest) ← scan fuel rest
        match skipBlanks rest with
        | ',' :: rest => do
          let (members, rest) ← scanMembers fuel rest
          return ((key, value) :: members, rest)
        | '}' :: rest => return ([(key, value)], rest)
        | _ => none
      | _ => none
    | _ => none

end

/-- The document a text is, if only blanks follow it. -/
def readChars (cs : List Char) : Option Document := do
  let (document, rest) ← scan (2 * cs.length + 1) cs
  guard (skipBlanks rest = [])
  return document

/-- The document a text is. -/
def read (text : String) : Option Document := readChars text.toList

end Document

/-! ### From documents to values -/

namespace Json

/-- How many arrays and objects may be open at once. -/
def maxDepth : Nat := 127

/-- Sets a member in a list of members by increasing key, replacing an earlier value. -/
def setMember (key : String) (value : Json) : List (String × Json) → List (String × Json)
  | [] => [(key, value)]
  | (k, v) :: rest =>
    if key < k then (key, value) :: (k, v) :: rest
    else if key = k then (key, value) :: rest
    else (k, v) :: setMember key value rest

/-- The members an object has when they are written in the given order. -/
def settleMembers (written : List (String × Json)) : List (String × Json) :=
  written.foldl (fun members (key, value) => setMember key value members) []

end Json

namespace Document

mutual

/-- The value a document denotes, with `depth` containers still allowed to open. -/
def resolve (depth : Nat) : Document → Option Json
  | .null => some .null
  | .bool b => some (.bool b)
  | .number literal => .number <$> Number.ofNumeral? literal
  | .string literal => .string <$> literal
  | .array items => match depth with
    | 0 => none
    | depth + 1 => .array <$> resolveItems depth items
  | .object members => match depth with
    | 0 => none
    | depth + 1 => (fun members => .object (Json.settleMembers members)) <$>
        resolveMembers depth members

/-- The values of the items of an array. -/
def resolveItems (depth : Nat) : List Document → Option (List Json)
  | [] => some []
  | item :: items => do
    let value ← resolve depth item
    let values ← resolveItems depth items
    return value :: values

/-- The members of an object, as written. -/
def resolveMembers (depth : Nat) : List (Option String × Document) → Option (List (String × Json))
  | [] => some []
  | (key, item) :: members => do
    let key ← key
    let value ← resolve depth item
    let values ← resolveMembers depth members
    return (key, value) :: values

end

end Document

namespace Json

/-- The value a text denotes; `none` for malformed text. -/
def readChars (cs : List Char) : Option Json :=
  Document.readChars cs >>= Document.resolve maxDepth

/-- The value a text denotes; `none` for malformed text. -/
def read (text : String) : Option Json := readChars text.toList

end Json

end RouterCall
