import RouterCall.Config.Reader
import RouterCall.Toml.Statement

/-!
# Settings written in TOML

A list may stand for a table by listing settings in their declared order; what it lists beyond them
is not looked at. A moment is a table without settings. A name is picked by writing it, or by a
table with the name as its only key and an empty table or list under it.

A value is passed over by looking at all of it, so no number in it may be out of range.

## Main definitions

* `Toml.Value.reader`: what TOML values stand for
* `Config.readToml`: what a TOML text configures
-/

namespace RouterCall

namespace Toml.Value

/-- The text a value is. -/
def text? : Value → Option String
  | .text value => some value
  | _ => none

/-- The truth value a value is. -/
def flag? : Value → Option Bool
  | .flag value => some value
  | _ => none

/-- The name that a value picks. -/
def choice? : Value → Option String
  | .text value => some value
  | .table [(name, .table [])] | .table [(name, .list [])] => some name
  | _ => none

/-- The entries of a table that may have settings under the given keys. -/
def entries? (keys : List String) : Value → Option (List (Option String × Value))
  | .table entries => some (entries.map fun (key, value) => (some key, value))
  | .list items => some ((keys.map some).zip items)
  | .moment => some []
  | _ => none

/-- What TOML values stand for. -/
def reader : SettingReader Value where
  text? := text?
  flag? := flag?
  choice? := choice?
  entries? := entries?
  passes := inRange

end Toml.Value

/-- The configuration that a TOML text is. -/
def Config.readToml (text : String) : Option Config :=
  Toml.read text >>= Config.ofValue? Toml.Value.reader

end RouterCall
