import RouterCall.Field
import RouterCall.Proofs.Amount
import Mathlib.Data.List.Forall2

/-!
# Shapes of JSON values

The wire format is a grammar of JSON values, and this module says what such a grammar is. A `Schema`
is a shape as a document would print it: an amount, a list of hops, an object with these keys. It
has two readings, neither of which mentions a reader or a writer of the library.

`Schema.Conforms` says which values have the shape. An object may have other keys than those of its
shape, and nothing is said about them.

`Schema.Projects` says what is left of such a value when it is written out again: an object keeps
the keys of its shape and no others, in the order of the shape, an amount becomes its canonical
decimal numeral, and everything else stays what it is. A value has at most one projection.

## Main definitions

* `Schema`
* `Schema.Conforms`, `Schema.Projects`

## Main results

* `Schema.conforms_object_iff`: an object conforms when each of its keys has a conforming value
* `Schema.Projects.unique`: a value has one projection
-/

namespace RouterCall

theorem mem_of_lookup {β : Type} {entries : List (String × β)} {key : String} {b : β}
    (h : entries.lookup key = some b) : (key, b) ∈ entries := by
  obtain ⟨before, behind, rfl, -⟩ := List.lookup_eq_some_iff.mp h
  simp

/-- A shape of JSON values. -/
inductive Schema where
  | anything
  | text
  | hex
  | boolean
  /-- An integer of 64 bits, signed. -/
  | integer
  | feeTier
  | amount
  | constant (wanted : String)
  | list (item : Schema)
  | object (fields : List (String × Schema))

namespace Schema

mutual

/-- A value has a shape. -/
def Conforms : Schema → Json → Prop
  | .anything, _ => True
  | .text, value => ∃ found, value = .string found
  | .hex, value => ∃ found, value = .string found ∧ HexString.begins found = true
  | .boolean, value => ∃ flag, value = .bool flag
  | .integer, value => ∃ n : ℤ, value = .ofInt n ∧ -2 ^ 63 ≤ n ∧ n < 2 ^ 63
  | .feeTier, value => ∃ fee ∈ FeeTier.fees, value = .ofInt fee
  | .amount, value => ∃ n, Amount.Encodes value n
  | .constant wanted, value => value = .string wanted
  | .list item, value => ∃ items, value = .array items ∧ ∀ entry ∈ items, item.Conforms entry
  | .object fields, value => ∃ members, value = .object members ∧ ConformAll fields members

/-- Members have a value of the right shape for each key. -/
def ConformAll : List (String × Schema) → Members → Prop
  | [], _ => True
  | (key, schema) :: fields, members =>
    (∃ value, members.lookup key = some value ∧ schema.Conforms value) ∧ ConformAll fields members

end

mutual

/-- What a value of a shape is written as, once it has been read. -/
def Projects : Schema → Json → Json → Prop
  | .amount, raw, out => ∃ n text, Amount.Encodes raw n ∧ Amount.IsCanonical text n ∧
      out = .string text
  | .list item, raw, out => ∃ raws outs, raw = .array raws ∧ out = .array outs ∧
      List.Forall₂ item.Projects raws outs
  | .object fields, raw, out => ∃ members kept, raw = .object members ∧ out = .object kept ∧
      ProjectAll fields members kept
  | _, raw, out => out = raw

/-- What members are written as: one member for each key, and no other. -/
def ProjectAll : List (String × Schema) → Members → Members → Prop
  | [], _, kept => kept = []
  | (key, schema) :: fields, members, kept =>
    ∃ value value' kept', members.lookup key = some value ∧ schema.Projects value value' ∧
      ProjectAll fields members kept' ∧ kept = (key, value') :: kept'

end

theorem conformAll_iff {fields : List (String × Schema)} {members : Members} :
    ConformAll fields members ↔
      ∀ entry ∈ fields, ∃ value, members.lookup entry.1 = some value ∧ entry.2.Conforms value := by
  induction fields with
  | nil => simp [ConformAll]
  | cons entry fields ih => simp [ConformAll, ih]

/-- An object conforms when each key of its shape has a conforming value. -/
theorem conforms_object_iff {fields : List (String × Schema)} {value : Json} :
    (Schema.object fields).Conforms value ↔ ∃ members, value = .object members ∧
      ∀ entry ∈ fields, ∃ found, members.lookup entry.1 = some found ∧
        entry.2.Conforms found := by
  simp only [Conforms, conformAll_iff]

theorem projectAll_of_forall₂ {fields : List (String × Schema)} {members kept : Members}
    (h : List.Forall₂ (fun entry member => member.1 = entry.1 ∧
      ∃ value, members.lookup entry.1 = some value ∧ entry.2.Projects value member.2) fields kept) :
    ProjectAll fields members kept := by
  induction h with
  | nil => rfl
  | @cons entry member fields kept head _ ih =>
    obtain ⟨key, value'⟩ := member
    obtain ⟨rfl, value, found, projects⟩ := head
    exact ⟨value, value', kept, found, projects, ih, rfl⟩

mutual

/-- **A value has one projection.** -/
theorem Projects.unique : ∀ {schema : Schema} {raw out out' : Json},
    schema.Projects raw out → schema.Projects raw out' → out = out'
  | .amount, _, _, _, ⟨_, _, encodes, canonical, rfl⟩, ⟨_, _, encodes', canonical', rfl⟩ => by
    obtain rfl := encodes.unique encodes'
    rw [canonical.unique canonical']
  | .list item, _, _, _, ⟨_, _, rfl, rfl, each⟩, ⟨_, _, same, rfl, each'⟩ => by
    cases same
    have step : Relator.RightUnique item.Projects := fun _ _ _ => Projects.unique
    rw [step.forall₂ each each']
  | .object fields, _, _, _, ⟨_, _, rfl, rfl, all⟩, ⟨_, _, same, rfl, all'⟩ => by
    cases same
    rw [ProjectAll.unique all all']
  | .anything, _, _, _, same, same' | .text, _, _, _, same, same' | .hex, _, _, _, same, same'
  | .boolean, _, _, _, same, same' | .integer, _, _, _, same, same'
  | .feeTier, _, _, _, same, same' | .constant _, _, _, _, same, same' => same.trans same'.symm

theorem ProjectAll.unique : ∀ {fields : List (String × Schema)} {members kept kept' : Members},
    ProjectAll fields members kept → ProjectAll fields members kept' → kept = kept'
  | [], _, _, _, same, same' => same.trans same'.symm
  | (_, _) :: _, _, _, _, ⟨_, _, _, found, projects, rest, rfl⟩,
      ⟨_, _, _, found', projects', rest', rfl⟩ => by
    cases found.symm.trans found'
    rw [Projects.unique projects projects', ProjectAll.unique rest rest']

end

end Schema

end RouterCall
