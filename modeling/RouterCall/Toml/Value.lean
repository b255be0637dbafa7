/-!
# Values of TOML

What a TOML file holds once it is read. A number is kept only as far as it matters to someone who
does not ask for numbers: whether it lies in the range that numbers have, which nobody finds out who
does not look at it. A moment is a date, a time of day, or both.

## Main definitions

* `Toml.Value`
* `Toml.Value.inRange`: whether all numbers in a value lie in range
-/

namespace RouterCall.Toml

/-- A value of TOML. -/
inductive Value where
  | text (value : String)
  | flag (value : Bool)
  | number (inRange : Bool)
  | moment
  | list (items : List Value)
  | table (entries : List (String × Value))

namespace Value

mutual

/-- Whether all numbers in a value lie in range. -/
def inRange : Value → Bool
  | .number inRange => inRange
  | .list items => itemsInRange items
  | .table entries => entriesInRange entries
  | _ => true

/-- Whether all numbers in the items of a list lie in range. -/
def itemsInRange : List Value → Bool
  | [] => true
  | item :: items => inRange item && itemsInRange items

/-- Whether all numbers in the entries of a table lie in range. -/
def entriesInRange : List (String × Value) → Bool
  | [] => true
  | (_, value) :: entries => inRange value && entriesInRange entries

end

end Value

end RouterCall.Toml
