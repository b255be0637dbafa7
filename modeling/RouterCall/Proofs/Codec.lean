import RouterCall.Parameter.Classify
import RouterCall.Proofs.Schema

/-!
# Readers, writers and shapes that belong together

Every part of a call has a reader, which checks a raw value, and a writer, which puts the typed
value back on the wire. A `Codec` is the two together with the shape of the values concerned and the
three laws that tie them: the reader accepts exactly the values of the shape, writing what was read
gives the projection of the raw value, and reading what was written gives back the typed value.

The leaves are proved here one by one. A list and an object inherit the laws from their parts, so a
descriptor has nothing to prove beyond the fields it reads and writes. Those fields are its `Slot`s.

## Main definitions

* `Codec`: reader, writer and shape, with their laws
* `Codec.list`: arrays
* `Slot`, `Codec.record`: objects with a fixed set of keys

## Main results

* `bind_eq_ok_iff`: a sequence of checks succeeds when each of them does
* `eachItem_eq_ok_iff_forall₂`: reading an array is reading it item by item
-/

namespace RouterCall

/-! ### Sequences of checks -/

section Checks

variable {ε α β : Type}

theorem bind_eq_ok_iff {first : Except ε α} {next : α → Except ε β} {b : β} :
    (first >>= next) = .ok b ↔ ∃ a, first = .ok a ∧ next a = .ok b := by
  cases first with
  | error e => exact ⟨nofun, nofun⟩
  | ok a => exact ⟨fun h => ⟨a, rfl, h⟩, fun ⟨_, same, h⟩ => by cases same; exact h⟩

theorem pure_eq_ok_iff {a b : α} : (pure a : Except ε α) = .ok b ↔ a = b :=
  ⟨Except.ok.inj, congrArg Except.ok⟩

theorem map_eq_ok_iff {f : α → β} {checked : Except ε α} {b : β} :
    (f <$> checked) = .ok b ↔ ∃ a, checked = .ok a ∧ f a = b := by
  cases checked with
  | error e => exact ⟨nofun, nofun⟩
  | ok a =>
    constructor
    · exact fun h => ⟨a, rfl, Except.ok.inj h⟩
    · rintro ⟨_, same, rfl⟩
      cases same
      rfl

end Checks

section Fields

variable {α : Type}

theorem under_eq_ok_iff {checked : Checked α} {outer : FieldPath} {a : α} :
    checked.under outer = .ok a ↔ checked = .ok a := by
  cases checked with
  | error e => exact ⟨nofun, nofun⟩
  | ok b => rfl

theorem object_eq_ok_iff {value : Json} {members : Members} :
    Field.object value = .ok members ↔ value = .object members := by
  rw [Field.object, ← Json.asObject?_eq_some_iff]
  cases value.asObject? <;> simp

theorem array_eq_ok_iff {value : Json} {items : List Json} :
    Field.array value = .ok items ↔ value = .array items := by
  rw [Field.array, ← Json.asArray?_eq_some_iff]
  cases value.asArray? <;> simp

theorem string_eq_ok_iff {value : Json} {text : String} :
    Field.string value = .ok text ↔ value = .string text := by
  rw [Field.string, ← Json.asString?_eq_some_iff]
  cases value.asString? <;> simp

theorem boolean_eq_ok_iff {value : Json} {flag : Bool} :
    Field.boolean value = .ok flag ↔ value = .bool flag := by
  rw [Field.boolean, ← Json.asBool?_eq_some_iff]
  cases value.asBool? <;> simp

theorem integer_eq_ok_iff {value : Json} {n : Int64} :
    Field.integer value = .ok n ↔ value = .ofInt n.toInt := by
  rw [Field.integer, ← Json.asInt64?_eq_some_iff]
  cases value.asInt64? <;> simp

theorem amount_eq_ok_iff {value : Json} {amount : Amount} :
    Field.amount value = .ok amount ↔ Amount.Encodes value amount.value := by
  rw [Field.amount, ← Amount.ofJson?_eq_some_iff]
  cases Amount.ofJson? value <;> simp

theorem hex_eq_ok_iff {key : String} {value : Json} {hex : HexString} :
    Field.hex key value = .ok hex ↔ value = .string hex.text := by
  have read : (value.asString? >>= HexString.ofString?) = some hex ↔ value = .string hex.text := by
    simp only [Option.bind_eq_bind, Option.bind_eq_some_iff, Json.asString?_eq_some_iff,
      HexString.ofString?_eq_some_iff]
    exact ⟨fun ⟨_, found, same⟩ => same ▸ found, fun found => ⟨_, found, rfl⟩⟩
  rw [Field.hex, ← read]
  cases value.asString? >>= HexString.ofString? <;> simp

theorem feeTier_eq_ok_iff {value : Json} {tier : FeeTier} :
    FeeTier.check value = .ok tier ↔ value = .ofInt tier.fee := by
  rw [FeeTier.check, bind_eq_ok_iff]
  constructor
  · rintro ⟨n, integer, h⟩
    cases found : FeeTier.ofFee? n.toInt with
    | none =>
      rw [found] at h
      cases h
    | some tier' =>
      rw [found] at h
      cases h
      rw [FeeTier.fee_of_ofFee? found]
      exact integer_eq_ok_iff.mp integer
  · rintro rfl
    have exact : (Int64.ofInt tier.fee).toInt = tier.fee := by cases tier <;> decide
    refine ⟨Int64.ofInt tier.fee, integer_eq_ok_iff.mpr (by rw [exact]), ?_⟩
    rw [exact, FeeTier.ofFee?_fee]
    rfl

theorem field_eq_ok_iff {members : Members} {key : String} {read : Json → Checked α} {a : α} :
    field members key read = .ok a ↔
      ∃ value, members.lookup key = some value ∧ read value = .ok a := by
  rw [field, under_eq_ok_iff]
  cases members.lookup key with
  | none => exact ⟨nofun, nofun⟩
  | some value => simp

/-- **Reading an array is reading it item by item.** -/
theorem eachItem_eq_ok_iff_forall₂ {read : Json → Checked α} {items : List Json} {as : List α} :
    eachItem read items = .ok as ↔ List.Forall₂ (fun item a => read item = .ok a) items as := by
  rw [eachItem_eq_ok_iff, ← List.forall₂_eq_eq_eq, List.forall₂_map_left_iff,
    List.forall₂_map_right_iff]

end Fields

/-- A relation finds a partner for each item when it finds one for the whole list. -/
theorem exists_forall₂_iff {α β : Type} {relation : α → β → Prop} {as : List α} :
    (∃ bs, List.Forall₂ relation as bs) ↔ ∀ a ∈ as, ∃ b, relation a b := by
  induction as with
  | nil => simp
  | cons a as ih => simp [List.forall₂_cons_left_iff, ← ih]

/-- Each item of the second list has a partner in the first. -/
theorem exists_of_forall₂ {α β : Type} {relation : α → β → Prop} {as : List α} {bs : List β}
    (h : List.Forall₂ relation as bs) : ∀ b ∈ bs, ∃ a, relation a b :=
  exists_forall₂_iff.mp ⟨as, List.Forall₂.flip h⟩

/-! ### Codecs -/

/-- A reader and a writer of one type of part, and the shape of its raw values. -/
structure Codec (α : Type) where
  read : Json → Checked α
  write : α → Json
  schema : Schema
  conforms_iff : ∀ value, schema.Conforms value ↔ ∃ a, read value = .ok a
  projects : ∀ {value a}, read value = .ok a → schema.Projects value (write a)
  read_write : ∀ a, read (write a) = .ok a

namespace Codec

/-! ### Leaves -/

/-- A codec whose reader accepts exactly what its writer writes. -/
def exact {α : Type} (read : Json → Checked α) (write : α → Json) (schema : Schema)
    (read_iff : ∀ value a, read value = .ok a ↔ value = write a)
    (conforms_iff : ∀ value, schema.Conforms value ↔ ∃ a, value = write a)
    (keeps : ∀ value, schema.Projects value value) : Codec α where
  read := read
  write := write
  schema := schema
  conforms_iff value := by simp only [conforms_iff, read_iff]
  projects h := by
    rw [← (read_iff _ _).mp h]
    exact keeps _
  read_write a := (read_iff _ a).mpr rfl

/-- Strings. -/
def text : Codec String :=
  exact Field.string .string .text (fun _ _ => string_eq_ok_iff) (fun _ => Iff.rfl) fun _ => rfl

/-- Booleans. -/
def boolean : Codec Bool :=
  exact Field.boolean .bool .boolean (fun _ _ => boolean_eq_ok_iff) (fun _ => Iff.rfl) fun _ => rfl

/-- Strings that begin with `0x`, under a key. -/
def hex (key : String) : Codec HexString :=
  exact (Field.hex key) (fun hex => .string hex.text) .hex (fun _ _ => hex_eq_ok_iff)
    (fun _ => ⟨fun ⟨text, same, begins⟩ => ⟨⟨text, begins⟩, same⟩,
      fun ⟨hex, same⟩ => ⟨hex.text, same, hex.begins_text⟩⟩)
    fun _ => rfl

/-- Integers of 64 bits. -/
def integer : Codec Int64 :=
  exact Field.integer (fun n => .ofInt n.toInt) .integer (fun _ _ => integer_eq_ok_iff)
    (fun _ => ⟨fun ⟨n, same, low, high⟩ =>
        ⟨Int64.ofInt n, by rw [Int64.toInt_ofInt_of_le low high, same]⟩,
      fun ⟨n, same⟩ => ⟨n.toInt, same, n.le_toInt, n.toInt_lt⟩⟩)
    fun _ => rfl

/-- Fees of classic pools. -/
def feeTier : Codec FeeTier :=
  exact FeeTier.check (fun tier => .ofInt tier.fee) .feeTier (fun _ _ => feeTier_eq_ok_iff)
    (fun _ => by simp [Schema.Conforms, FeeTier.fees, FeeTier.mem_all])
    fun _ => rfl

/-- Amounts. -/
def amount : Codec Amount where
  read := Field.amount
  write := Amount.toJson
  schema := .amount
  conforms_iff value := by
    simp only [amount_eq_ok_iff]
    exact ⟨fun ⟨n, encodes⟩ => ⟨⟨n⟩, encodes⟩, fun ⟨amount, encodes⟩ => ⟨amount.value, encodes⟩⟩
  projects {value amount} h :=
    ⟨amount.value, amount.decimal, amount_eq_ok_iff.mp h, Amount.isCanonical_decimal amount, rfl⟩
  read_write amount :=
    amount_eq_ok_iff.mpr (Amount.ofJson?_eq_some_iff.mp (Amount.ofJson?_toJson amount))

/-! ### Lists -/

theorem readList_eq_ok_iff {α : Type} {read : Json → Checked α} {value : Json} {as : List α} :
    (do eachItem read (← Field.array value)) = .ok as ↔ ∃ items, value = .array items ∧
      List.Forall₂ (fun item a => read item = .ok a) items as := by
  simp only [bind_eq_ok_iff, array_eq_ok_iff, eachItem_eq_ok_iff_forall₂]

/-- Arrays of parts. -/
def list {α : Type} (codec : Codec α) : Codec (List α) where
  read value := do eachItem codec.read (← Field.array value)
  write as := .array (as.map codec.write)
  schema := .list codec.schema
  conforms_iff value := by
    simp only [readList_eq_ok_iff, Schema.Conforms, codec.conforms_iff, ← exists_forall₂_iff]
    constructor
    · rintro ⟨items, same, as, each⟩
      exact ⟨as, items, same, each⟩
    · rintro ⟨as, items, same, each⟩
      exact ⟨items, same, as, each⟩
  projects h := by
    obtain ⟨items, rfl, each⟩ := readList_eq_ok_iff.mp h
    refine ⟨items, _, rfl, rfl, List.forall₂_map_right_iff.mpr ?_⟩
    exact each.imp fun _ _ => codec.projects
  read_write as := by
    refine readList_eq_ok_iff.mpr ⟨_, rfl, List.forall₂_map_left_iff.mpr ?_⟩
    exact List.forall₂_same.mpr fun a _ => codec.read_write a

end Codec

/-! ### Objects -/

/-- One key of an object: how its value is read and written, and where the typed value keeps it. -/
structure Slot (α : Type) where
  {β : Type}
  key : String
  codec : Codec β
  get : α → β

namespace Slot

variable {α : Type}

/-- The member of an object that a slot writes. -/
def member (slot : Slot α) (a : α) : String × Json := (slot.key, slot.codec.write (slot.get a))

/-- The key of a slot and the shape of its values. -/
def entry (slot : Slot α) : String × Schema := (slot.key, slot.codec.schema)

/-- Reading the slot among members gives what the typed value keeps in it. -/
def Reads (slot : Slot α) (members : Members) (a : α) : Prop :=
  field members slot.key slot.codec.read = .ok (slot.get a)

/-- The slot can be read among members. -/
def Readable (slot : Slot α) (members : Members) : Prop :=
  ∃ b, field members slot.key slot.codec.read = .ok b

theorem conforms_iff_readable (slot : Slot α) (members : Members) :
    (∃ value, members.lookup slot.key = some value ∧ slot.codec.schema.Conforms value) ↔
      slot.Readable members := by
  simp only [Readable, field_eq_ok_iff, slot.codec.conforms_iff]
  constructor
  · rintro ⟨value, found, b, read⟩
    exact ⟨b, value, found, read⟩
  · rintro ⟨b, value, found, read⟩
    exact ⟨value, found, b, read⟩

theorem lookup_member {slots : List (Slot α)} (distinct : (slots.map Slot.key).Nodup)
    {slot : Slot α} (mem : slot ∈ slots) (a : α) :
    (slots.map fun slot => slot.member a).lookup slot.key =
      some (slot.codec.write (slot.get a)) := by
  induction slots with
  | nil => cases mem
  | cons first rest ih =>
    rw [List.map_cons, List.nodup_cons] at distinct
    rw [List.map_cons, member, List.lookup_cons]
    rcases List.mem_cons.mp mem with rfl | mem
    · rw [beq_self_eq_true]
    · have other : slot.key ≠ first.key := fun same =>
        distinct.1 (same ▸ List.mem_map_of_mem mem)
      rw [beq_false_of_ne other]
      exact ih distinct.2 mem

end Slot

/-- Objects with a fixed set of keys. The reader takes the keys one after another, and a typed value
can be made from any values of its slots. -/
def Codec.record {α : Type} (slots : List (Slot α)) (read : Json → Checked α) (write : α → Json)
    (schema : Schema) (schema_eq : schema = .object (slots.map Slot.entry))
    (distinct : (slots.map Slot.key).Nodup)
    (write_eq : ∀ a, write a = .object (slots.map fun slot => slot.member a))
    (read_iff : ∀ value a, read value = .ok a ↔
      ∃ members, value = .object members ∧ ∀ slot ∈ slots, slot.Reads members a)
    (build : ∀ members, (∀ slot ∈ slots, slot.Readable members) →
      ∃ a, ∀ slot ∈ slots, slot.Reads members a) : Codec α where
  read := read
  write := write
  schema := schema
  conforms_iff value := by
    rw [schema_eq, Schema.conforms_object_iff]
    simp only [List.forall_mem_map]
    constructor
    · rintro ⟨members, rfl, each⟩
      obtain ⟨a, reads⟩ := build members fun slot mem =>
        (slot.conforms_iff_readable members).mp (each slot mem)
      exact ⟨a, (read_iff _ a).mpr ⟨members, rfl, reads⟩⟩
    · rintro ⟨a, h⟩
      obtain ⟨members, rfl, reads⟩ := (read_iff _ a).mp h
      exact ⟨members, rfl, fun slot mem =>
        (slot.conforms_iff_readable members).mpr ⟨_, reads slot mem⟩⟩
  projects {value a} h := by
    obtain ⟨members, rfl, reads⟩ := (read_iff _ a).mp h
    rw [schema_eq]
    refine ⟨members, _, rfl, write_eq a, Schema.projectAll_of_forall₂ ?_⟩
    rw [List.forall₂_map_left_iff, List.forall₂_map_right_iff, List.forall₂_same]
    intro slot mem
    obtain ⟨raw, found, read⟩ := field_eq_ok_iff.mp (reads slot mem)
    exact ⟨rfl, raw, found, slot.codec.projects read⟩
  read_write a := by
    refine (read_iff _ a).mpr ⟨_, write_eq a, fun slot mem => ?_⟩
    exact field_eq_ok_iff.mpr ⟨_, Slot.lookup_member distinct mem a, slot.codec.read_write _⟩

end RouterCall
