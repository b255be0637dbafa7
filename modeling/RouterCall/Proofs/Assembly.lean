import RouterCall.Proofs.FieldPath
import RouterCall.Proofs.Parameter
import RouterCall.Proofs.Verdict

/-!
# How codecs are put together

The laws of a `Codec` say what its reader accepts. What it reports when it refuses is not among
them, since it depends on the order in which a reader asks its questions. `Codec.Built` is that
order: a codec is a leaf, which refuses a value as a whole; a list, which reads its items in order;
a record, which reads its slots in order; or a step of the versioned swap. Every value that a
parameter can hold has a codec built this way.

A statement about all rejections of a value is then proved once, by induction on `Codec.Built`, and
a new descriptor needs nothing more than its line in this module.

## Main definitions

* `Codec.IsLeaf`, `Codec.IsRecord`: readers of one value, readers of the keys of an object
* `Codec.Built`: codecs put together of leaves, lists, records and steps
* `Registry.IsBuilt`: a union of parameters whose values have such codecs

## Main results

* `Parameter.isBuilt_registry`, `V4.Parameter.isBuilt_registry`: both unions are of that kind
-/

namespace RouterCall

instance : Inhabited HexString := ⟨⟨HexString.marker, rfl⟩⟩

/-! ### The kinds of codecs -/

/-- A shape without parts. -/
def Schema.IsLeaf : Schema → Prop
  | .list _ | .object _ => False
  | _ => True

/-- Asks for the slots of an object one after another. -/
def Slot.readAll {α : Type} (members : Members) : List (Slot α) → Checked Unit
  | [] => pure ()
  | slot :: slots => do
    let _ ← field members slot.key slot.codec.read
    readAll members slots

namespace Codec

variable {α : Type}

/-- A codec that refuses a value as a whole. -/
structure IsLeaf (codec : Codec α) : Prop where
  nonempty : Nonempty α
  schema : codec.schema.IsLeaf
  flat : ∀ {value e}, codec.read value = .error e → ∃ reason, e = .value [] reason

/-- A codec that asks for the slots of an object and for nothing else. -/
structure IsRecord (codec : Codec α) (slots : List (Slot α)) : Prop where
  nonempty : Nonempty α
  schema : codec.schema = .object (slots.map Slot.entry) := by rfl
  words : ∀ key ∈ slots.map Slot.key, FieldPath.IsWord key := by decide
  distinct : (slots.map Slot.key).Nodup := by decide
  read_eq_ok_iff : ∀ {value a}, codec.read value = .ok a ↔
    ∃ members, value = .object members ∧ ∀ slot ∈ slots, slot.Reads members a
  verdict_read : ∀ value, (codec.read value).verdict = do
    let members ← Field.object value
    Slot.readAll members slots

/-- A codec put together of leaves, lists, records and steps. -/
inductive Built : ∀ {α : Type}, Codec α → Prop
  | leaf {α : Type} {codec : Codec α} (isLeaf : codec.IsLeaf) : Built codec
  | list {α : Type} {codec : Codec α} (item : Built codec) : Built codec.list
  | record {α : Type} {codec : Codec α} {slots : List (Slot α)} (isRecord : codec.IsRecord slots)
      (each : ∀ slot ∈ slots, Built slot.codec) : Built codec
  | step {α : Type} {codec : Codec α} (description : Built codec) : Built (V4.stepCodec codec)

theorem exists_field_of_readAll {members : Members} {slots : List (Slot α)} {e : Rejection}
    (h : Slot.readAll members slots = .error e) :
    ∃ slot ∈ slots, field members slot.key slot.codec.read = .error e := by
  induction slots with
  | nil => cases h
  | cons slot slots ih =>
    obtain refused | ⟨_, -, rest⟩ := bind_eq_error_iff.mp h
    · exact ⟨slot, List.mem_cons_self, refused⟩
    · obtain ⟨slot', mem, refused⟩ := ih rest
      exact ⟨slot', List.mem_cons_of_mem _ mem, refused⟩

/-- A record refuses a value as a whole, or an object for one of its slots. -/
theorem IsRecord.read_eq_error {codec : Codec α} {slots : List (Slot α)}
    (h : codec.IsRecord slots) {value : Json} {e : Rejection}
    (refused : codec.read value = .error e) :
    e.path = [] ∨ ∃ members, value = .object members ∧
      ∃ slot ∈ slots, field members slot.key slot.codec.read = .error e := by
  rw [← verdict_eq_error_iff, h.verdict_read] at refused
  obtain refused | ⟨members, found, refused⟩ := bind_eq_error_iff.mp refused
  · obtain ⟨-, rfl⟩ := object_eq_error_iff.mp refused
    exact .inl rfl
  · exact .inr ⟨members, object_eq_ok_iff.mp found, exists_field_of_readAll refused⟩

theorem checkStep_eq_error {describe : Json → Checked α} {entry : Json} {e : Rejection}
    (h : V4.checkStep describe entry = .error e) :
    e.path = [] ∨ ∃ members, entry = .object members ∧
      (members.lookup "name" ≠ some (.string V4.stepName) ∧
          e = .value [.key "name"] (.notNamed V4.stepName) ∨
        field members "value" describe = .error e) := by
  obtain refused | ⟨members, found, refused⟩ := bind_eq_error_iff.mp h
  · obtain ⟨-, rfl⟩ := object_eq_error_iff.mp refused
    exact .inl rfl
  · refine .inr ⟨members, object_eq_ok_iff.mp found, ?_⟩
    split at refused
    · exact .inr refused
    · next other =>
      cases refused
      refine .inl ⟨fun named => other ?_, rfl⟩
      rw [named]
      rfl

/-- A built codec accepts some value. -/
theorem Built.exists_read {codec : Codec α} (h : codec.Built) :
    ∃ value a, codec.read value = .ok a := by
  induction h with
  | @leaf _ codec isLeaf =>
    obtain ⟨a⟩ := isLeaf.nonempty
    exact ⟨_, a, codec.read_write a⟩
  | @list _ codec _ _ => exact ⟨_, [], codec.list.read_write []⟩
  | @record _ codec _ isRecord _ _ =>
    obtain ⟨a⟩ := isRecord.nonempty
    exact ⟨_, a, codec.read_write a⟩
  | @step _ codec _ ih =>
    obtain ⟨_, a, _⟩ := ih
    exact ⟨_, a, (V4.stepCodec codec).read_write a⟩

/-! ### Leaves -/

theorem isLeaf_text : text.IsLeaf where
  nonempty := inferInstance
  schema := trivial
  flat {value e} h := by
    change Field.string value = .error e at h
    rw [Field.string] at h
    split at h <;> cases h
    exact ⟨_, rfl⟩

theorem isLeaf_boolean : boolean.IsLeaf where
  nonempty := inferInstance
  schema := trivial
  flat {value e} h := by
    change Field.boolean value = .error e at h
    rw [Field.boolean] at h
    split at h <;> cases h
    exact ⟨_, rfl⟩

theorem isLeaf_hex (key : String) : (hex key).IsLeaf where
  nonempty := inferInstance
  schema := trivial
  flat {value e} h := by
    change Field.hex key value = .error e at h
    rw [Field.hex] at h
    split at h <;> cases h
    exact ⟨_, rfl⟩

theorem isLeaf_integer : integer.IsLeaf where
  nonempty := inferInstance
  schema := trivial
  flat {value e} h := by
    change Field.integer value = .error e at h
    rw [Field.integer] at h
    split at h <;> cases h
    exact ⟨_, rfl⟩

theorem isLeaf_amount : amount.IsLeaf where
  nonempty := inferInstance
  schema := trivial
  flat {value e} h := by
    change Field.amount value = .error e at h
    rw [Field.amount] at h
    split at h <;> cases h
    exact ⟨_, rfl⟩

/-- A fee tier is refused as an integer or as a fee, and as a whole either way. -/
theorem isLeaf_feeTier : feeTier.IsLeaf where
  nonempty := ⟨.low⟩
  schema := trivial
  flat {value e} h := by
    change FeeTier.check value = .error e at h
    rw [FeeTier.check, bind_eq_error_iff] at h
    obtain refused | ⟨n, -, refused⟩ := h
    · exact isLeaf_integer.flat refused
    · split at refused <;> cases refused
      exact ⟨_, rfl⟩

theorem isLeaf_anything : anything.IsLeaf where
  nonempty := ⟨.null⟩
  schema := trivial
  flat h := nomatch h

end Codec

/-! ### Descriptors -/

open Codec

theorem Hop.isRecord : codec.IsRecord slots where
  nonempty := ⟨⟨default, default, .low⟩⟩
  read_eq_ok_iff := check_eq_ok_iff
  verdict_read value := by
    simp only [codec, Codec.record, check, verdict_bind]
    rfl

theorem Hop.built_codec : codec.Built := by
  refine .record isRecord ?_
  simp only [slots, List.forall_mem_cons]
  exact ⟨.leaf (isLeaf_hex _), .leaf (isLeaf_hex _), .leaf isLeaf_feeTier, nofun⟩

namespace V4

theorem PoolKey.isRecord : codec.IsRecord slots where
  nonempty := ⟨⟨default, default, 0, 0, ""⟩⟩
  read_eq_ok_iff := check_eq_ok_iff
  verdict_read value := by
    simp only [codec, Codec.record, check, verdict_bind]
    rfl

theorem PoolKey.built_codec : codec.Built := by
  refine .record isRecord ?_
  simp only [slots, List.forall_mem_cons]
  exact ⟨.leaf (isLeaf_hex _), .leaf (isLeaf_hex _), .leaf isLeaf_integer,
    .leaf isLeaf_integer, .leaf isLeaf_text, nofun⟩

theorem PathKey.isRecord : codec.IsRecord slots where
  nonempty := ⟨⟨default, 0, 0, default, ""⟩⟩
  read_eq_ok_iff := check_eq_ok_iff
  verdict_read value := by
    simp only [codec, Codec.record, check, verdict_bind]
    rfl

theorem PathKey.built_codec : codec.Built := by
  refine .record isRecord ?_
  simp only [slots, List.forall_mem_cons]
  exact ⟨.leaf (isLeaf_hex _), .leaf isLeaf_integer, .leaf isLeaf_integer,
    .leaf (isLeaf_hex _), .leaf isLeaf_text, nofun⟩

theorem ExactInSingle.isRecord : codec.IsRecord slots where
  nonempty := ⟨⟨⟨default, default, 0, 0, ""⟩, true, default, default, default, ""⟩⟩
  read_eq_ok_iff := check_eq_ok_iff
  verdict_read value := by
    simp only [codec, Codec.record, check, verdict_bind]
    rfl

theorem ExactInSingle.built_codec : codec.Built := by
  refine .record isRecord ?_
  simp only [slots, List.forall_mem_cons]
  exact ⟨PoolKey.built_codec, .leaf isLeaf_boolean, .leaf isLeaf_amount, .leaf isLeaf_amount,
    .leaf isLeaf_amount, .leaf isLeaf_text, nofun⟩

theorem ExactOutSingle.isRecord : codec.IsRecord slots where
  nonempty := ⟨⟨⟨default, default, 0, 0, ""⟩, true, default, default, default, ""⟩⟩
  read_eq_ok_iff := check_eq_ok_iff
  verdict_read value := by
    simp only [codec, Codec.record, check, verdict_bind]
    rfl

theorem ExactOutSingle.built_codec : codec.Built := by
  refine .record isRecord ?_
  simp only [slots, List.forall_mem_cons]
  exact ⟨PoolKey.built_codec, .leaf isLeaf_boolean, .leaf isLeaf_amount, .leaf isLeaf_amount,
    .leaf isLeaf_amount, .leaf isLeaf_text, nofun⟩

theorem ExactIn.isRecord : codec.IsRecord slots where
  nonempty := ⟨⟨default, [], default, default⟩⟩
  read_eq_ok_iff := check_eq_ok_iff
  verdict_read value := by
    simp only [codec, Codec.record, check, verdict_bind]
    rfl

theorem ExactIn.built_codec : codec.Built := by
  refine .record isRecord ?_
  simp only [slots, List.forall_mem_cons]
  exact ⟨.leaf (isLeaf_hex _), .list PathKey.built_codec, .leaf isLeaf_amount,
    .leaf isLeaf_amount, nofun⟩

theorem ExactOut.isRecord : codec.IsRecord slots where
  nonempty := ⟨⟨default, [], default, default⟩⟩
  read_eq_ok_iff := check_eq_ok_iff
  verdict_read value := by
    simp only [codec, Codec.record, check, verdict_bind]
    rfl

theorem ExactOut.built_codec : codec.Built := by
  refine .record isRecord ?_
  simp only [slots, List.forall_mem_cons]
  exact ⟨.leaf (isLeaf_hex _), .list PathKey.built_codec, .leaf isLeaf_amount,
    .leaf isLeaf_amount, nofun⟩

end V4

/-! ### The two unions -/

/-- Every value that a parameter of a union can hold has a built codec. -/
def Registry.IsBuilt {π : Type} (registry : Registry π) : Prop :=
  ∀ key arm, registry.arm? key = some arm → arm.codec.Built

theorem Parameter.isBuilt_registry : registry.IsBuilt := by
  intro key _ same
  cases same
  obtain ⟨role, rfl⟩ | rfl | rfl | other := name_cases key
  · rw [arm_role]
    exact .leaf isLeaf_amount
  · exact .list Hop.built_codec
  · exact .leaf isLeaf_boolean
  · rw [arm_of_notMem other]
    exact .leaf isLeaf_anything

theorem V4.Parameter.isBuilt_registry : registry.IsBuilt := by
  intro key arm h
  obtain rfl | rfl | rfl | rfl | ⟨noArm, -⟩ := name_cases key
  · cases h
    exact .list (.step ExactIn.built_codec)
  · cases h
    exact .list (.step ExactOut.built_codec)
  · cases h
    exact .list (.step ExactInSingle.built_codec)
  · cases h
    exact .list (.step ExactOutSingle.built_codec)
  · rw [show registry.arm? key = none from noArm] at h
    cases h

end RouterCall
