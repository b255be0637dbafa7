import RouterCall.Amount
import RouterCall.Rejection

/-!
# Reading fields

Once a shape is recognised, its fields are read one after another, and the first one that is not
what the shape demands ends the reading with a value fault. A reader of a value reports paths
relative to that value; `field` and `eachItem` put the key or the index in front.

## Main definitions

* `Field.object`, `Field.array`, `Field.string`, `Field.boolean`, `Field.integer`, `Field.amount`,
  `Field.hex`: readers of one value
* `field`: reads the value of a required key
* `eachItem`: reads every item of an array, up to the first that is refused

## Main results

* `eachItem_eq_ok_iff`: reading an array succeeds exactly when reading each item does
-/

namespace RouterCall

/-- The members of an object. -/
abbrev Members := List (String × Json)

namespace Field

/-- The members of an object. -/
def object (value : Json) : Checked Members :=
  match value.asObject? with
  | some members => .ok members
  | none => .error (.value [] (.expected "object" value.kind))

/-- The items of an array. -/
def array (value : Json) : Checked (List Json) :=
  match value.asArray? with
  | some items => .ok items
  | none => .error (.value [] (.expected "array" value.kind))

/-- The text of a string. -/
def string (value : Json) : Checked String :=
  match value.asString? with
  | some text => .ok text
  | none => .error (.value [] (.expected "string" value.kind))

/-- A truth value. -/
def boolean (value : Json) : Checked Bool :=
  match value.asBool? with
  | some b => .ok b
  | none => .error (.value [] (.expected "boolean" value.kind))

/-- A signed 64-bit integer. -/
def integer (value : Json) : Checked Int64 :=
  match value.asInt64? with
  | some n => .ok n
  | none => .error (.value [] (.expectedNumber "integer" value))

/-- An amount in any of its encodings. -/
def amount (value : Json) : Checked Amount :=
  match Amount.ofJson? value with
  | some amount => .ok amount
  | none => .error (.value [] (.notAnAmount value))

/-- A string that begins with `0x`; the key is named in the fault. -/
def hex (key : String) (value : Json) : Checked HexString :=
  match value.asString? >>= HexString.ofString? with
  | some hex => .ok hex
  | none => .error (.value [] (.noHexMarker key))

end Field

/-- Reads the value of a key that must be there. -/
def field {α : Type} (members : Members) (key : String) (read : Json → Checked α) : Checked α :=
  Checked.under
    (match members.lookup key with
    | some value => read value
    | none => .error (.value [] (.missing "required field")))
    [.key key]

/-- Reads items numbered from `start`, up to the first that is refused. -/
def eachItemFrom {α : Type} (read : Json → Checked α) (start : Nat) :
    List Json → Checked (List α)
  | [] => .ok []
  | item :: items => do
    let a ← Checked.under (read item) [.index start]
    let as ← eachItemFrom read (start + 1) items
    return a :: as

/-- Reads every item, up to the first that is refused. -/
def eachItem {α : Type} (read : Json → Checked α) (items : List Json) : Checked (List α) :=
  eachItemFrom read 0 items

@[simp] theorem eachItemFrom_nil {α : Type} (read : Json → Checked α) (start : Nat) :
    eachItemFrom read start [] = .ok [] := rfl

theorem eachItemFrom_cons {α : Type} (read : Json → Checked α) (start : Nat) (item : Json)
    (items : List Json) :
    eachItemFrom read start (item :: items) = (do
      let a ← Checked.under (read item) [.index start]
      let as ← eachItemFrom read (start + 1) items
      return a :: as) := rfl

theorem eachItemFrom_eq_ok_iff {α : Type} {read : Json → Checked α} {start : Nat}
    {items : List Json} {as : List α} :
    eachItemFrom read start items = .ok as ↔ items.map read = as.map .ok := by
  induction items generalizing start as with
  | nil => cases as <;> simp
  | cons item items ih =>
    have ih := @ih (start + 1)
    rw [eachItemFrom_cons]
    cases head : read item with
    | error e => cases as <;> simp [head, bind, Except.bind]
    | ok a =>
      cases tail : eachItemFrom read (start + 1) items with
      | error e =>
        cases as with
        | nil => simp [head, bind, Except.bind]
        | cons b bs =>
          have : items.map read ≠ bs.map .ok := fun same => by
            have := ih.2 same
            rw [tail] at this
            cases this
          simp [head, bind, Except.bind, this]
      | ok rest =>
        have whole := ih.1 tail
        cases as with
        | nil => simp [head, bind, Except.bind, pure, Except.pure]
        | cons b bs =>
          have inj : rest.map (Except.ok : α → Checked α) = bs.map .ok ↔ rest = bs :=
            List.map_inj_right fun _ _ h => Except.ok.inj h
          simp [head, bind, Except.bind, pure, Except.pure, whole, inj]

/-- **Reading an array succeeds exactly when reading each item does.** -/
theorem eachItem_eq_ok_iff {α : Type} {read : Json → Checked α} {items : List Json} {as : List α} :
    eachItem read items = .ok as ↔ items.map read = as.map .ok :=
  eachItemFrom_eq_ok_iff

end RouterCall
