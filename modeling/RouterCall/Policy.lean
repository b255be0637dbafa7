/-!
# Treatment of unknown command names

New commands reach the router before they reach a table. A policy says what becomes of a command
whose name is not in the table: it is refused, or it is kept as an opaque command provided its
number is in the table. A known name with a wrong number is refused under either policy.
-/

namespace RouterCall

/-- What becomes of a command name outside the table. -/
inductive UnknownNames where
  | reject
  | acceptAsFallback
deriving DecidableEq, Inhabited

namespace UnknownNames

/-- The name of a treatment in settings. -/
def name : UnknownNames → String
  | reject => "reject"
  | acceptAsFallback => "accept_as_fallback"

/-- The treatment of a name; case counts. -/
def ofName? (name : String) : Option UnknownNames :=
  if name = reject.name then some reject
  else if name = acceptAsFallback.name then some acceptAsFallback
  else none

@[simp] theorem ofName?_name (treatment : UnknownNames) :
    ofName? treatment.name = some treatment := by
  cases treatment <;> decide

end UnknownNames

/-- The policy a call is validated under; by default unknown names are refused. -/
structure Policy where
  unknownNames : UnknownNames := .reject
deriving DecidableEq, Inhabited

/-- The policy that keeps unknown names as opaque commands. -/
def Policy.permissive : Policy := ⟨.acceptAsFallback⟩

end RouterCall
