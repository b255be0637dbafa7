import RouterCall.Config.Reader
import RouterCall.Json.Document

/-!
# Settings written in JSON

Settings are read from the document and not from the value it denotes, since a key that is written
twice must still be there to be refused. What a passed-over key holds is never resolved: an unpaired
surrogate or a number past the largest double may stand there.

An array may stand for a table by listing settings in their declared order, as many as it likes from
the first one on. A name is picked by writing it, or by an object with the name as its only key and
`null` under it.

## Main definitions

* `Document.reader`: what JSON documents stand for
* `Config.readJson`, `Policy.readJson`: what a JSON text configures
-/

namespace RouterCall

namespace Document

/-- The text a document is. -/
def text? : Document → Option String
  | .string literal => literal
  | _ => none

/-- The truth value a document is. -/
def flag? : Document → Option Bool
  | .bool value => some value
  | _ => none

/-- The name that a document picks. -/
def choice? : Document → Option String
  | .string literal => literal
  | .object [(some name, .null)] => some name
  | _ => none

/-- The entries of a table that may have settings under the given keys. -/
def entries? (keys : List String) : Document → Option (List (Option String × Document))
  | .object members => some members
  | .array items =>
    if items.length ≤ keys.length then some ((keys.map some).zip items) else none
  | _ => none

/-- What JSON documents stand for. -/
def reader : SettingReader Document where
  text? := text?
  flag? := flag?
  choice? := choice?
  entries? := entries?
  passes _ := true

end Document

/-- The configuration that a JSON text is. -/
def Config.readJson (text : String) : Option Config :=
  Document.read text >>= Config.ofValue? Document.reader

/-- The policy that a JSON text is. -/
def Policy.readJson (text : String) : Option Policy :=
  Document.read text >>= Policy.ofValue? Document.reader

end RouterCall
