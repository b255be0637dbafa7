import RouterCall.Text.Hex
import RouterCall.Text.Line

/-!
# Texts of TOML

A text stands between double quotes, where a backslash starts an escape, or between single quotes,
where nothing does. Either kind of quote can be tripled, and then the text may run over several
lines: a line break right after the opening quotes does not belong to it, and one or two quotes may
stand before the closing ones. Between double quotes a backslash at the end of a line takes away the
line break and all blanks and line breaks after it.

A line break is a line feed with or without a carriage return before it, and belongs to a text as it
was written. A carriage return stands nowhere else.

## Main definitions

* `Toml.basicBody`, `Toml.literalBody`: texts of one line, after the opening quote
* `Toml.longBasicBody`, `Toml.longLiteralBody`: texts of several lines
-/

namespace RouterCall.Toml

open Line

/-- Whether a character may stand in texts and comments: no control but the tab. -/
def isPlain (c : Char) : Bool := c = '\t' || (0x20 ≤ c.toNat && c.toNat ≠ 0x7f)

/-! ### Escapes -/

/-- The characters that a one-letter escape stands for. -/
def escaped? : Char → Option Char
  | '"' => some '"'
  | '\\' => some '\\'
  | 'b' => some '\x08'
  | 'e' => some '\x1b'
  | 'f' => some '\x0c'
  | 'n' => some '\n'
  | 'r' => some '\r'
  | 't' => some '\t'
  | _ => none

/-- The character that an escape after its backslash stands for, and what follows the escape. -/
def escape? : List Char → Option (Char × List Char)
  | 'x' :: a :: b :: rest => (·, rest) <$> Hex.char? [a, b]
  | 'u' :: a :: b :: c :: d :: rest => (·, rest) <$> Hex.char? [a, b, c, d]
  | 'U' :: a :: b :: c :: d :: e :: f :: g :: h :: rest =>
    (·, rest) <$> Hex.char? [a, b, c, d, e, f, g, h]
  | c :: rest => (·, rest) <$> escaped? c
  | [] => none

/-! ### Texts of one line -/

/-- A text between double quotes up to the closing quote, and what follows the quote. The fuel
bounds the number of characters. -/
def basicBody : Nat → List Char → Option (List Char × List Char)
  | 0, _ => none
  | _, [] => none
  | _, '"' :: rest => some ([], rest)
  | fuel + 1, '\\' :: rest => do
    let (c, rest) ← escape? rest
    let (cs, rest) ← basicBody fuel rest
    return (c :: cs, rest)
  | fuel + 1, c :: rest => do
    guard (isPlain c)
    let (cs, rest) ← basicBody fuel rest
    return (c :: cs, rest)

/-- A text between single quotes up to the closing quote, and what follows the quote. -/
def literalBody : List Char → Option (List Char × List Char)
  | [] => none
  | '\'' :: rest => some ([], rest)
  | c :: rest => do
    guard (isPlain c)
    let (cs, rest) ← literalBody rest
    return (c :: cs, rest)

/-! ### Texts of several lines -/

/-- What follows a line break at the start of a text. -/
def skipBreak : List Char → List Char
  | '\n' :: rest | '\r' :: '\n' :: rest => rest
  | cs => cs

/-- What follows blanks and line breaks at the start of a text. -/
def skipSpace : List Char → List Char
  | '\r' :: '\n' :: rest => skipSpace rest
  | c :: rest => if isBlank c || c = '\n' then skipSpace rest else c :: rest
  | [] => []

/-- The quotes of a text that stand before its closing quotes, and what follows the closing quotes,
if the closing quotes are next. -/
def closing? (quote : Char) : List Char → Option (List Char × List Char)
  | a :: b :: c :: rest =>
    if a = quote ∧ b = quote ∧ c = quote then
      match rest with
      | d :: e :: rest =>
        if d = quote ∧ e = quote then some ([quote, quote], rest)
        else if d = quote then some ([quote], e :: rest)
        else some ([], d :: e :: rest)
      | [d] => if d = quote then some ([quote], []) else some ([], [d])
      | [] => some ([], [])
    else none
  | _ => none

/-- What follows a backslash that ends its line, without the blanks and line breaks after it. -/
def afterFold? (cs : List Char) : Option (List Char) :=
  match skipBlanks cs with
  | '\n' :: rest | '\r' :: '\n' :: rest => some (skipSpace rest)
  | _ => none

/-- A text between triple double quotes up to the closing quotes, and what follows them. The fuel
bounds the number of characters. -/
def longBasicBody : Nat → List Char → Option (List Char × List Char)
  | 0, _ => none
  | fuel + 1, cs =>
    match closing? '"' cs with
    | some found => some found
    | none => match cs with
      | [] => none
      | '\\' :: rest => match afterFold? rest with
        | some rest => longBasicBody fuel rest
        | none => do
          let (c, rest) ← escape? rest
          let (cs, rest) ← longBasicBody fuel rest
          return (c :: cs, rest)
      | '\r' :: '\n' :: rest => do
        let (cs, rest) ← longBasicBody fuel rest
        return ('\r' :: '\n' :: cs, rest)
      | c :: rest => do
        guard (isPlain c ∨ c = '\n')
        let (cs, rest) ← longBasicBody fuel rest
        return (c :: cs, rest)

/-- A text between triple single quotes up to the closing quotes, and what follows them. -/
def longLiteralBody : List Char → Option (List Char × List Char)
  | [] => none
  | '\r' :: '\n' :: rest => do
    let (cs, rest) ← longLiteralBody rest
    return ('\r' :: '\n' :: cs, rest)
  | c :: rest =>
    match closing? '\'' (c :: rest) with
    | some found => some found
    | none => do
      guard (isPlain c ∨ c = '\n')
      let (cs, rest) ← longLiteralBody rest
      return (c :: cs, rest)

end RouterCall.Toml
