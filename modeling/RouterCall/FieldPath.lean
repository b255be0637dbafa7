/-!
# Paths to fields

A rejection says where in the input the fault lies. A `FieldPath` is the list of steps from the
value that was checked down to the field at fault, a key for an object and an index for an array. As
it is passed outward, each enclosing value puts its own steps in front.

The text of a path is `commands[0].params[1].value`: steps are joined by `FieldPath.join`, which
puts a dot between two of them unless the second is an index. Keys are arbitrary texts here, also
the empty one and those that look like an index, and joining is associative all the same.

## Main definitions

* `FieldPath.join`: joins two texts of paths
* `FieldPath.render`: the text of a path

## Main results

* `FieldPath.join_assoc`, `FieldPath.empty_join`, `FieldPath.join_empty`: joining is a monoid
* `FieldPath.render_append`: the text of a path is the join of the texts of its parts
-/

namespace RouterCall

/-- One step of a path. -/
inductive FieldStep where
  | key (name : String)
  | index (position : Nat)
deriving DecidableEq

/-- The steps from a value down to one of its fields. -/
abbrev FieldPath := List FieldStep

/-- The text of a step. -/
def FieldStep.render : FieldStep → String
  | .key name => name
  | .index position => "[" ++ toString position ++ "]"

namespace FieldPath

/-- Whether a text starts with the bracket of an index. -/
def startsWithIndex (text : String) : Bool := text.toList.head? = some '['

/-- Joins the text of a path with the text of a path below it. An empty part adds nothing, and there
is no dot before an index. -/
def join (outer inner : String) : String :=
  if outer = "" then inner
  else if inner = "" then outer
  else if startsWithIndex inner then outer ++ inner
  else outer ++ "." ++ inner

@[simp] theorem empty_join (text : String) : join "" text = text := by simp [join]

@[simp] theorem join_empty (text : String) : join text "" = text := by
  simp only [join, if_true]
  split <;> simp_all

private theorem append_ne_empty {a : String} (b : String) (h : a ≠ "") : a ++ b ≠ "" := by
  intro empty
  exact h (String.append_eq_empty_iff.1 empty).1

private theorem startsWithIndex_append {a : String} (b : String) (h : a ≠ "") :
    startsWithIndex (a ++ b) = startsWithIndex a := by
  cases chars : a.toList with
  | nil => exact absurd (String.toList_eq_nil_iff.1 chars) h
  | cons c cs => simp [startsWithIndex, String.toList_append, chars]

theorem join_ne_empty {outer : String} (inner : String) (h : outer ≠ "") :
    join outer inner ≠ "" := by
  rw [join]
  rw [if_neg h]
  split
  · exact h
  · split
    · exact append_ne_empty _ h
    · exact append_ne_empty _ (append_ne_empty _ h)

theorem startsWithIndex_join {outer : String} (inner : String) (h : outer ≠ "") :
    startsWithIndex (join outer inner) = startsWithIndex outer := by
  rw [join]
  rw [if_neg h]
  split
  · rfl
  · split
    · exact startsWithIndex_append _ h
    · rw [String.append_assoc, startsWithIndex_append _ h]

/-- **Joining is associative.** -/
theorem join_assoc (a b c : String) : join (join a b) c = join a (join b c) := by
  by_cases ha : a = ""
  · simp [ha]
  by_cases hb : b = ""
  · simp [hb]
  by_cases hc : c = ""
  · simp [hc]
  have outer : join a b ≠ "" := join_ne_empty b ha
  have inner : join b c ≠ "" := join_ne_empty c hb
  rw [join.eq_def (join a b) c, join.eq_def a (join b c), if_neg outer, if_neg hc, if_neg ha,
    if_neg inner, startsWithIndex_join c hb]
  by_cases index_b : startsWithIndex b <;> by_cases index_c : startsWithIndex c <;>
    simp [join, ha, hb, hc, index_b, index_c, String.append_assoc]

/-- The text of a path. -/
def render (path : FieldPath) : String := path.foldr (fun step text => join step.render text) ""

@[simp] theorem render_nil : render [] = "" := rfl

@[simp] theorem render_cons (step : FieldStep) (path : FieldPath) :
    render (step :: path) = join step.render path.render := rfl

/-- The text of a path is the join of the texts of its parts. -/
theorem render_append (outer inner : FieldPath) :
    render (outer ++ inner) = join outer.render inner.render := by
  induction outer with
  | nil => simp
  | cons step outer ih =>
    show join step.render (render (outer ++ inner)) = _
    rw [ih, ← join_assoc]
    rfl

end FieldPath

end RouterCall
