import RouterCall.Field
import Mathlib.Data.List.Basic

/-!
# Paths as texts and as places

The text of a path is all that a caller gets to see of it, so two things have to be known about
texts. They have a grammar, which is said here without joining anything: keys are words of letters
and digits, a key that is not the first step has a dot in front, and an index stands in brackets.
And a text has one reading: two paths of words with the same text are the same path. Both would fail
for keys with a dot or a bracket in them, and no reader of the library has such a key.

A path is also a place in a value. It may lead to a value that is there, or end with a key that the
object it has reached does not have. Either way a value can be put at that place.

## Main definitions

* `FieldPath.IsPlain`, `FieldPath.Spells`: the grammar of texts of paths
* `FieldPath.PointsInto`: a path is a place in a value
* `FieldPath.replace`: puts a value at a place

## Main results

* `FieldPath.spells_render`: the text of a plain path is spelled by the grammar
* `FieldPath.Spells.unique`: a text spells at most one path
-/

namespace RouterCall

namespace FieldPath

/-! ### Texts -/

/-- A key of letters and digits, at least one. -/
def IsWord (name : String) : Prop := name.toList ≠ [] ∧ name.toList.all Char.isAlphanum = true

instance : DecidablePred IsWord := fun _ => inferInstanceAs (Decidable (_ ∧ _))

/-- All keys of a path are words. -/
def IsPlain (path : FieldPath) : Prop := ∀ name, .key name ∈ path → IsWord name

/-- What a step adds to the text of the steps before it. -/
def suffix : FieldStep → List Char
  | .key name => '.' :: name.toList
  | .index position => '[' :: (Nat.toDigits 10 position ++ [']'])

/-- The first step as it is, with the suffixes of the other steps. -/
def spelling : FieldPath → List Char
  | [] => []
  | .key name :: path => name.toList ++ path.flatMap suffix
  | .index position :: path => suffix (.index position) ++ path.flatMap suffix

/-- A text consists of words divided by dots and of indices in brackets, and they are the steps of
the path. -/
def Spells (path : FieldPath) (text : String) : Prop := path.IsPlain ∧ text.toList = path.spelling

theorem isPlain_nil : IsPlain [] := fun _ mem => nomatch mem

theorem isPlain_key_cons {name : String} {path : FieldPath} :
    IsPlain (.key name :: path) ↔ IsWord name ∧ path.IsPlain := by
  simp only [IsPlain, List.mem_cons, FieldStep.key.injEq]
  exact ⟨fun h => ⟨h name (.inl rfl), fun other mem => h other (.inr mem)⟩,
    fun ⟨word, plain⟩ other mem => mem.elim (fun same => same ▸ word) (plain other)⟩

theorem isPlain_index_cons {position : ℕ} {path : FieldPath} :
    IsPlain (.index position :: path) ↔ path.IsPlain := by
  simp [IsPlain]

theorem IsWord.head_ne {name : String} (h : IsWord name) {c : Char}
    (other : c.isAlphanum = false) (rest rest' : List Char) :
    name.toList ++ rest ≠ c :: rest' := by
  obtain ⟨nonempty, each⟩ := h
  cases chars : name.toList with
  | nil => exact absurd chars nonempty
  | cons d ds =>
    intro same
    rw [chars, List.all_cons, Bool.and_eq_true] at each
    rw [(List.cons.inj same).1, other] at each
    cases each.1

theorem toList_render_index (position : ℕ) :
    (FieldStep.index position).render.toList = suffix (.index position) := by
  simp [FieldStep.render, suffix, String.toList_append]

/-- The steps behind the first one add their suffixes. -/
theorem toList_join_render {outer : String} (nonempty : outer ≠ "") {path : FieldPath}
    (plain : path.IsPlain) (ih : path.render.toList = path.spelling) :
    (join outer path.render).toList = outer.toList ++ path.flatMap suffix := by
  match path with
  | [] => simp
  | .key name :: path =>
    have word := (isPlain_key_cons.mp plain).1
    rw [spelling] at ih
    generalize render (.key name :: path) = text at ih
    have inner : text ≠ "" := by
      rintro rfl
      exact word.1 (List.append_eq_nil_iff.mp ih.symm).1
    have noIndex : startsWithIndex text = false := by
      rw [startsWithIndex, ih, decide_eq_false_iff_not]
      intro first
      obtain ⟨rest, same⟩ := List.head?_eq_some_iff.mp first
      exact word.head_ne (by decide) _ rest same
    rw [join, if_neg nonempty, if_neg inner, noIndex, if_neg Bool.false_ne_true,
      String.toList_append, String.toList_append, ih, List.append_assoc]
    rfl
  | .index position :: path =>
    rw [spelling] at ih
    generalize render (.index position :: path) = text at ih
    have inner : text ≠ "" := by
      rintro rfl
      cases ih
    have index : startsWithIndex text = true := by
      rw [startsWithIndex, ih, decide_eq_true_iff]
      rfl
    rw [join, if_neg nonempty, if_neg inner, index, if_pos rfl, String.toList_append, ih]
    rfl

/-- **The text of a plain path is spelled by the grammar.** -/
theorem spells_render {path : FieldPath} (plain : path.IsPlain) : path.Spells path.render := by
  refine ⟨plain, ?_⟩
  induction path with
  | nil => rfl
  | cons step path ih =>
    cases step with
    | key name =>
      obtain ⟨word, plain⟩ := isPlain_key_cons.mp plain
      have nonempty : name ≠ "" := fun none => word.1 (by rw [none]; rfl)
      exact toList_join_render nonempty plain (ih plain)
    | index position =>
      have plain := isPlain_index_cons.mp plain
      have nonempty : (FieldStep.index position).render ≠ "" := fun none => by
        have := toList_render_index position
        rw [none] at this
        cases this
      rw [render_cons, toList_join_render nonempty plain (ih plain), toList_render_index, spelling]

/-- A row of characters of one class ends where a character of another class begins. -/
theorem append_inj_of_class {p : Char → Bool} {xs ys rest rest' : List Char}
    (hx : ∀ c ∈ xs, p c = true) (hy : ∀ c ∈ ys, p c = true) (stop : rest.takeWhile p = [])
    (stop' : rest'.takeWhile p = []) (same : xs ++ rest = ys ++ rest') :
    xs = ys ∧ rest = rest' := by
  have front := congrArg (List.takeWhile p) same
  rw [List.takeWhile_append_of_pos hx, List.takeWhile_append_of_pos hy, stop, stop',
    List.append_nil, List.append_nil] at front
  exact ⟨front, List.append_cancel_left (front ▸ same)⟩

/-- No suffix goes on with a letter or a digit. -/
theorem takeWhile_suffixes (path : FieldPath) :
    (path.flatMap suffix).takeWhile Char.isAlphanum = [] := by
  cases path with
  | nil => rfl
  | cons step path => cases step <;> rfl

theorem suffixes_injective : ∀ {path path' : FieldPath}, path.IsPlain → path'.IsPlain →
    path.flatMap suffix = path'.flatMap suffix → path = path'
  | [], [], _, _, _ => rfl
  | [], .key _ :: _, _, _, same => by cases same
  | [], .index _ :: _, _, _, same => by cases same
  | .key _ :: _, [], _, _, same => by cases same
  | .index _ :: _, [], _, _, same => by cases same
  | .key _ :: _, .index _ :: _, _, _, same => by cases (List.cons.inj same).1
  | .index _ :: _, .key _ :: _, _, _, same => by cases (List.cons.inj same).1
  | .key name :: path, .key name' :: path', plain, plain', same => by
    obtain ⟨word, plain⟩ := isPlain_key_cons.mp plain
    obtain ⟨word', plain'⟩ := isPlain_key_cons.mp plain'
    obtain ⟨chars, rest⟩ := append_inj_of_class (List.all_eq_true.mp word.2)
      (List.all_eq_true.mp word'.2) (takeWhile_suffixes path) (takeWhile_suffixes path')
      (List.cons.inj same).2
    rw [String.toList_inj.mp chars, suffixes_injective plain plain' rest]
  | .index position :: path, .index position' :: path', plain, plain', same => by
    have plain := isPlain_index_cons.mp plain
    have plain' := isPlain_index_cons.mp plain'
    have digits (n : ℕ) : ∀ c ∈ Nat.toDigits 10 n, c.isDigit = true :=
      fun c => Nat.isDigit_of_mem_toDigits (by decide) (by decide)
    have tails : Nat.toDigits 10 position ++ ']' :: path.flatMap suffix =
        Nat.toDigits 10 position' ++ ']' :: path'.flatMap suffix := by
      simpa [suffix] using same
    obtain ⟨number, rest⟩ := append_inj_of_class (digits position) (digits position') rfl rfl tails
    have number : position = position' := by
      rw [← @Nat.ofDigitChars_ten_toDigits position, number, Nat.ofDigitChars_ten_toDigits]
    rw [number, suffixes_injective plain plain' (List.cons.inj rest).2]

/-- **A text spells at most one path.** -/
theorem Spells.unique {path path' : FieldPath} {text : String} (h : path.Spells text)
    (h' : path'.Spells text) : path = path' := by
  obtain ⟨plain, spelled⟩ := h
  obtain ⟨plain', spelled'⟩ := h'
  have same : path.spelling = path'.spelling := spelled.symm.trans spelled'
  -- with its dot put back, a first key is a step like any other
  match path, path' with
  | [], [] => rfl
  | [], .key _ :: _ =>
    exact absurd (List.append_eq_nil_iff.mp same.symm).1 (isPlain_key_cons.mp plain').1.1
  | .key _ :: _, [] =>
    exact absurd (List.append_eq_nil_iff.mp same).1 (isPlain_key_cons.mp plain).1.1
  | [], .index _ :: _ => cases same
  | .index _ :: _, [] => cases same
  | .key _ :: _, .index _ :: _ =>
    exact absurd same ((isPlain_key_cons.mp plain).1.head_ne (by decide) _ _)
  | .index _ :: _, .key _ :: _ =>
    exact absurd same.symm ((isPlain_key_cons.mp plain').1.head_ne (by decide) _ _)
  | .key _ :: _, .key _ :: _ => exact suffixes_injective plain plain' (congrArg ('.' :: ·) same)
  | .index _ :: _, .index _ :: _ => exact suffixes_injective plain plain' same

/-! ### Places -/

/-- A path is a place in a value: it leads to a value that is there, or it ends with a key that the
object reached does not have. -/
inductive PointsInto : FieldPath → Json → Prop
  | here {value : Json} : PointsInto [] value
  | absent {members : Members} {key : String} (absent : members.lookup key = none) :
      PointsInto [.key key] (.object members)
  | key {members : Members} {key : String} {value : Json} {path : FieldPath}
      (found : members.lookup key = some value) (rest : PointsInto path value) :
      PointsInto (.key key :: path) (.object members)
  | index {items : List Json} {position : ℕ} {value : Json} {path : FieldPath}
      (found : items[position]? = some value) (rest : PointsInto path value) :
      PointsInto (.index position :: path) (.array items)

/-- A key of an object is a place, whether it is there or not. -/
theorem pointsInto_key (members : Members) (key : String) :
    PointsInto [.key key] (.object members) := by
  cases found : members.lookup key with
  | none => exact .absent found
  | some value => exact .key found .here

end FieldPath

/-- Members with a value under a key: in the place of the first member with that key, and behind all
others if there is none. -/
def Members.put (key : String) (value : Json) : Members → Members
  | [] => [(key, value)]
  | (other, old) :: members =>
    if key = other then (other, value) :: members else (other, old) :: put key value members

theorem lookup_put_self (members : Members) (key : String) (value : Json) :
    (Members.put key value members).lookup key = some value := by
  induction members with
  | nil => simp [Members.put]
  | cons member members ih =>
    rw [Members.put]
    split
    · next same => simp [same]
    · next other => rw [List.lookup_cons, beq_false_of_ne other, ih]

theorem lookup_put_of_ne (members : Members) {key key' : String} (other : key' ≠ key)
    (value : Json) : (Members.put key value members).lookup key' = members.lookup key' := by
  induction members with
  | nil => simp [Members.put, List.lookup_cons, beq_false_of_ne other]
  | cons member members ih =>
    rw [Members.put]
    split
    · next same =>
      rw [List.lookup_cons, List.lookup_cons, ← same, beq_false_of_ne other]
    · rw [List.lookup_cons, List.lookup_cons, ih]

namespace FieldPath

/-- Puts a value at a place, and leaves everything beside it as it is. -/
def replace : FieldPath → Json → Json → Json
  | [], new, _ => new
  | .key key :: path, new, .object members =>
    .object (Members.put key (replace path new ((members.lookup key).getD .null)) members)
  | .index position :: path, new, .array items =>
    .array (items.modify position (replace path new))
  | _, _, value => value

theorem replace_key {members : Members} {key : String} {value : Json}
    (found : members.lookup key = some value) (path : FieldPath) (new : Json) :
    replace (.key key :: path) new (.object members) =
      .object (Members.put key (replace path new value) members) := by
  rw [replace, found, Option.getD_some]

end FieldPath

end RouterCall
