import RouterCall.Text.Line

/-!
# Characters of YAML

Five characters break lines in YAML, and a carriage return with a line feed behind it is one break.
Three of the breaks mean nothing but their end of a line; a text is read with those written as line
feeds, and `unifyBreaks` writes them so. The other two, the separators of Unicode, stand for
themselves inside scalars, so they stay.

## Main definitions

* `Yaml.isBreak`, `Yaml.atGap`: line breaks, and ends of words
* `Yaml.atMarker`: the two markers around a document
* `Yaml.isAllowed`, `Yaml.unifyBreaks`: the characters a text may have, and its line breaks
-/

namespace RouterCall.Yaml

open Line

/-- Whether a character breaks a line. -/
def isBreak (c : Char) : Bool := c = '\n' || c = '\u2028' || c = '\u2029'

/-- Whether a character is a blank or breaks a line. -/
def isSpace (c : Char) : Bool := isBlank c || isBreak c

/-- Whether a text is at its end, or goes on with a blank or a line break. -/
def atGap : List Char → Bool
  | [] => true
  | c :: _ => isSpace c

/-- Whether a character may stand in the names of directives, handles and anchors. -/
def isWordChar (c : Char) : Bool := c.isAlphanum || c = '_' || c = '-'

/-- Whether a text starts with a character three times and then a gap. -/
def isMarker (mark : Char) : List Char → Bool
  | a :: b :: c :: rest => a = mark && b = mark && c = mark && atGap rest
  | _ => false

/-- Whether a text starts with one of the markers around a document. -/
def atMarker (cs : List Char) : Bool := isMarker '-' cs || isMarker '.' cs

/-- What follows the end of a line, on which only blanks and a comment may still stand. -/
def lineEnd? (cs : List Char) : Option (List Char) :=
  let rest := match skipBlanks cs with
    | '#' :: rest => rest.dropWhile (!isBreak ·)
    | rest => rest
  match rest with
  | [] => some []
  | c :: rest => if isBreak c then some rest else none

/-! ### Whole texts -/

/-- Whether a character may occur in a text. -/
def isAllowed (c : Char) : Bool :=
  c ∈ ['\t', '\n', '\r', '\u0085'] || (0x20 ≤ c.toNat && c.toNat ≤ 0x7e)
    || (0xa0 ≤ c.toNat && c.toNat ≠ 0xfffe && c.toNat ≠ 0xffff)

/-- Line breaks that mean no more than that as line feeds. -/
def unifyBreaks : List Char → List Char
  | '\r' :: '\n' :: rest => '\n' :: unifyBreaks rest
  | c :: rest => (if c = '\r' || c = '\u0085' then '\n' else c) :: unifyBreaks rest
  | [] => []

end RouterCall.Yaml
