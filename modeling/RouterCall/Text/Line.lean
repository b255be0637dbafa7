/-!
# Lines and pieces of text

What the notations of settings files and the texts of the command line have in common: the two
blanks that can stand on a line, the mark that some programs put at the start of a file, and texts
that consist of pieces with a divider between them.

## Main definitions

* `Line.isBlank`, `Line.skipBlanks`: blanks
* `Line.dropMark`: a text without the mark at its start
* `Line.pieces`: the pieces of a text
-/

namespace RouterCall.Line

/-- Whether a character is one of the two blanks of a line. -/
def isBlank (c : Char) : Bool := c = ' ' || c = '\t'

/-- What follows the blanks at the start of a text. -/
def skipBlanks (cs : List Char) : List Char := cs.dropWhile isBlank

/-- A text without the mark that may stand at its start. -/
def dropMark : List Char → List Char
  | '\ufeff' :: rest => rest
  | cs => cs

/-- The pieces of a text that dividers divide. There is always a piece, so the case without one is
never met. -/
def pieces (divider : Char) : List Char → List (List Char)
  | [] => [[]]
  | c :: rest =>
    if c = divider then [] :: pieces divider rest
    else match pieces divider rest with
      | [] => [[c]]
      | piece :: more => (c :: piece) :: more

end RouterCall.Line
