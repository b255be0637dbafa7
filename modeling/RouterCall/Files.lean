import RouterCall.Text.Line

/-!
# Files

What the program sees of a file system: a path leads to nothing, to a text, or to something that
cannot be read as a text; or a file blocks its way.

## Main definitions

* `FileState`, `Files`
* `FileState.contents`: the text, or why there is none
* `Path.names`, `Path.fileName`, `Path.extension?`: the names of a path, the last of them, and how
  it ends
-/

namespace RouterCall

/-- What a path leads to. -/
inductive FileState where
  | absent
  /-- A file stands where the path goes on. -/
  | blocked
  | directory
  /-- Something else that cannot be read. -/
  | unreadable (reason : String)
  | text (contents : String)
deriving DecidableEq

/-- What each path leads to. -/
abbrev Files := String → FileState

namespace FileState

/-- The text, or why there is none. -/
def contents : FileState → Except String String
  | .absent => .error "No such file or directory (os error 2)"
  | .blocked => .error "Not a directory (os error 20)"
  | .directory => .error "Is a directory (os error 21)"
  | .unreadable reason => .error reason
  | .text contents => .ok contents

end FileState

namespace Path

/-- The names of a path, without empty ones and those for the same place. -/
def names (path : String) : List (List Char) :=
  (Line.pieces '/' path.toList).filter fun name => name ≠ [] ∧ name ≠ ['.']

/-- The last name of a path. -/
def fileName (path : String) : List Char := (names path).getLast?.getD []

/-- What follows the last point of a name; `none` without a point, and when the point is all that
comes first. -/
def extensionOf? (name : List Char) : Option (List Char) :=
  let ending := (name.reverse.takeWhile (· ≠ '.')).reverse
  if ending.length + 1 < name.length then some ending else none

/-- How the last name of a path ends. -/
def extension? (path : String) : Option String := String.ofList <$> extensionOf? (fileName path)

end Path

end RouterCall
