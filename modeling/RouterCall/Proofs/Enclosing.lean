import RouterCall.Rejection
import Mathlib.Data.List.Basic

/-!
# Rejections seen from enclosing values

A rejection arises deep inside a call, at a field of the value that was just checked, and every
value around it puts its own steps in front of the path. Who writes such a check has to decide
where to move the rejection: once at the end, or a little at a time, or with a step that an inner
check has already joined. None of this can be seen. The text of the field depends on the join of
the texts in front of it and on nothing else, and moving a rejection never touches the fault.

The paths themselves do tell the groupings apart, since a key may hold any text, also that of a
whole path. So what is compared is what a caller gets, `Rejection.Alike`. The same freedom of keys
makes the statement one about all texts: each is the text of a path.

## Main definitions

* `FieldPath.enclosing`: the join of the texts in front of a field
* `Rejection.Alike`: rejections that a caller cannot tell apart

## Main results

* `Rejection.field_foldl_under`: the text of the field under one enclosing value after another
* `Rejection.foldl_under_alike`: joining is a monoid, and moving rejections is its action
-/

namespace RouterCall

namespace FieldPath

/-- Every text is the text of a path. -/
theorem render_surjective : Function.Surjective render :=
  fun text => ⟨[.key text], join_empty text⟩

/-- The join of the texts in front of a field, of which the innermost comes first. -/
def enclosing (texts : List String) : String :=
  texts.foldl (fun inner outer => join outer inner) ""

/-- Putting texts in front of another one by one puts their join in front of it. -/
theorem foldl_join (texts : List String) (text : String) :
    texts.foldl (fun inner outer => join outer inner) text = join (enclosing texts) text := by
  induction texts generalizing text with
  | nil => exact (empty_join text).symm
  | cons outer texts ih =>
    have whole : enclosing (outer :: texts) = join (enclosing texts) outer := by
      rw [enclosing, List.foldl_cons, join_empty, ih]
    rw [List.foldl_cons, ih, whole, join_assoc]

end FieldPath

namespace Rejection

open FieldPath (join join_assoc render enclosing)

/-- Rejections that a caller cannot tell apart: they name the same field and the same fault. -/
structure Alike (first second : Rejection) : Prop where
  field : first.field = second.field
  fault : first.fault = second.fault

/-- Rejections that are alike are worded alike. -/
theorem Alike.message {first second : Rejection} (alike : Alike first second) :
    first.message = second.message := by
  rw [Rejection.message, Rejection.message, alike.fault, alike.field]

/-- Any text may be the field of any fault. -/
theorem exists_field_fault (text : String) (fault : Fault) :
    ∃ rejection : Rejection, rejection.field = text ∧ rejection.fault = fault := by
  obtain ⟨path, rfl⟩ := FieldPath.render_surjective text
  exact ⟨⟨path, fault⟩, rfl, rfl⟩

/-- The text of the field under one enclosing value after another. -/
theorem field_foldl_under (rejection : Rejection) (outers : List FieldPath) :
    (outers.foldl under rejection).field =
      join (enclosing (outers.map render)) rejection.field := by
  rw [← FieldPath.foldl_join, List.foldl_map]
  induction outers generalizing rejection with
  | nil => rfl
  | cons outer outers ih => rw [List.foldl_cons, List.foldl_cons, ih, field_under]

/-- No enclosing value touches the fault. -/
theorem fault_foldl_under (rejection : Rejection) (outers : List FieldPath) :
    (outers.foldl under rejection).fault = rejection.fault := by
  induction outers generalizing rejection with
  | nil => rfl
  | cons outer outers ih => rw [List.foldl_cons, ih, fault_under]

/-- **Joining is a monoid, and moving rejections is its action.** The empty text is neutral on both
sides and the grouping does not matter. So a rejection that is moved below enclosing values one
after the other is the one that is moved once, below any path whose text is the join of theirs; and
its fault, with everything it says, is the one it had. Nothing is left out by speaking of paths:
every text is the text of one, and every text is the field of every fault. -/
theorem foldl_under_alike :
    (∀ a, join "" a = a ∧ join a "" = a) ∧
    (∀ a b c, join (join a b) c = join a (join b c)) ∧
    (∀ (rejection : Rejection) (outers : List FieldPath) (whole : FieldPath),
      whole.render = enclosing (outers.map render) →
      Alike (outers.foldl under rejection) (rejection.under whole) ∧
        (outers.foldl under rejection).fault = rejection.fault) ∧
    (∀ texts : List String, ∃ outers : List FieldPath, outers.map render = texts) ∧
    ∀ text fault, ∃ rejection : Rejection, rejection.field = text ∧ rejection.fault = fault := by
  refine ⟨fun a => ⟨FieldPath.empty_join a, FieldPath.join_empty a⟩, join_assoc, ?action,
    List.map_surjective_iff.mpr FieldPath.render_surjective, exists_field_fault⟩
  intro rejection outers whole joined
  have fault := fault_foldl_under rejection outers
  refine ⟨⟨?_, fault⟩, fault⟩
  rw [field_foldl_under, field_under, joined]

theorem foldl_under_alike_sample :
    (value [.key "value"] (.notAnAmount .null) |>.under [.key "params", .index 0]
      |>.under [.key "commands", .index 2]).field = "commands[2].params[0].value" ∧
    (value [.key "value"] (.notAnAmount .null) |>.under [.key "commands[2].params[0]"]).field =
      "commands[2].params[0].value" ∧
    (value [.key "value"] (.notAnAmount .null) |>.under [.key "params", .index 0]
      |>.under [.key "commands", .index 2]).kind = .valueConstraintViolation := by
  obtain ⟨alike, kept⟩ := foldl_under_alike.2.2.1 (value [.key "value"] (.notAnAmount .null))
    [[.key "params", .index 0], [.key "commands", .index 2]] [.key "commands[2].params[0]"]
    (by decide +kernel)
  have moved : (value [.key "value"] (.notAnAmount .null)
      |>.under [.key "commands[2].params[0]"]).field = "commands[2].params[0].value" := by
    decide +kernel
  exact ⟨alike.field.trans moved, moved, congrArg Fault.kind kept⟩

end Rejection

end RouterCall
