import RouterCall.Config.Reader
import RouterCall.Yaml.Document

/-!
# Settings written in YAML

Every scalar is a text, whatever its tag says. A truth value is a scalar without quotes, or a block
of lines that is tagged as one. An empty node is a table without settings, but a word for no value
is not. A name is picked by writing it, or as a tag of one's own with nothing under it.

## Main definitions

* `Yaml.Document.reader`: what the nodes of a document stand for
* `Config.readYaml`: what a YAML text configures
-/

namespace RouterCall

namespace Yaml.Document

/-- The words for no value. -/
def nullWords : List String := ["~", "null", "Null", "NULL"]

/-- The truth value that a word is. -/
def flagOfWord? (word : String) : Option Bool :=
  if word ∈ ["true", "True", "TRUE"] then some true
  else if word ∈ ["false", "False", "FALSE"] then some false
  else none

/-- The tag of truth values. -/
def flagTag : Tag := Tag.ofText "tag:yaml.org,2002:bool"

/-- The name behind the exclamation mark of a tag of one's own. -/
def tagName? : Option Tag → Option String
  | some (mark :: name) => if mark = 0x21 then String.fromUTF8? ⟨name.toArray⟩ else none
  | _ => none

/-- The text a node is. -/
def text? : Node → Option String
  | .scalar _ _ text => some text
  | _ => none

/-- The truth value a node is. -/
def flag? : Node → Option Bool
  | .scalar _ .plain text => flagOfWord? text
  | .scalar properties .literal text =>
    if properties.tag = some flagTag then flagOfWord? text else none
  | _ => none

/-- The name that a node picks. -/
def choice? : Node → Option String
  | .scalar properties style text => match tagName? properties.tag with
    | some name =>
      if style = .plain ∧ (text = "" ∨ text ∈ nullWords) then some name else none
    | none => some text
  | _ => none

/-- The entries of a node as a table. -/
def entries? (document : Document) : Node → Option (List (Option String × Node))
  | .table _ entries =>
    some (entries.map fun (key, value) => (text? (document.resolve key), value))
  | .scalar _ .plain "" => some []
  | _ => none

/-- What the nodes of a document stand for. -/
def reader (document : Document) : SettingReader Node where
  text? node := text? (document.resolve node)
  flag? node := flag? (document.resolve node)
  choice? node := choice? (document.resolve node)
  entries? _ node := document.entries? (document.resolve node)
  passes _ := true

end Yaml.Document

/-- The configuration that a YAML text is. -/
def Config.readYaml (text : String) : Option Config :=
  Yaml.Document.read text >>= fun document => Config.ofValue? document.reader document.root

end RouterCall
