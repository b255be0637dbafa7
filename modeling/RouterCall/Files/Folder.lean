import RouterCall.Files

/-!
# Working directories

A folder lists what a working directory holds: under a path a text, or a directory. Directories on
the way to something are there without being listed. A path that a program is given is walked from
the working directory name by name, and what it is walked through must be a directory: so a name for
the same place, or an empty one, does not move, but cannot follow a file either. Nothing is seen of
what lies outside, except that the directories above are directories.

## Main definitions

* `Folder`, `Folder.standing`: what stands at a place
* `Folder.files`: what paths lead to
-/

namespace RouterCall

/-- What a working directory holds: a text under a path, or `none` for a directory. -/
abbrev Folder := List (String × Option String)

namespace Folder

/-- A place in a working directory: the names of the directories on the way, and the last name. -/
abbrev Place := List (List Char)

/-- What stands at a place. -/
def standing (folder : Folder) (place : Place) : FileState :=
  match folder.find? fun entry => Path.names entry.1 = place with
  | some (_, some contents) => .text contents
  | some (_, none) => .directory
  | none =>
    if place = [] ∨ folder.any (fun entry => place.isPrefixOf (Path.names entry.1)) then .directory
    else .absent

/-- The names that only move between the directories above. -/
def upward : List (List Char) := [[], ['.'], ['.', '.']]

/-- What the names of a path lead to, from a directory above on. -/
def outside (names : List (List Char)) : FileState :=
  if names.all (· ∈ upward) then .directory else .absent

/-- What the names of a path lead to, from a place on. -/
def walk (folder : Folder) (place : Place) : List (List Char) → FileState
  | [] => folder.standing place
  | name :: rest =>
    match folder.standing place with
    | .text _ => .blocked
    | .directory =>
      if name = [] ∨ name = ['.'] then walk folder place rest
      else if name = ['.', '.'] then
        if place = [] then outside rest else walk folder place.dropLast rest
      else walk folder (place ++ [name]) rest
    | state => state

/-- What each path leads to. A path that starts with a divider does not start here. -/
def files (folder : Folder) : Files := fun path =>
  match Line.pieces '/' path.toList with
  | [[]] => .absent
  | [] :: names => outside names
  | names => folder.walk [] names

end Folder

end RouterCall
