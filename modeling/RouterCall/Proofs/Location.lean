import RouterCall.Proofs.Checks
import Mathlib.Data.List.Nodup

/-!
# Where a rejection points

The path of a rejection leads from the raw call down to the field at fault. That it leads somewhere
is the smaller half. A path that resolves may still blame the wrong field, and the test for that is
a repair: some value, put at the very place that is blamed, makes the rejection go away or move
elsewhere. Nothing but that place is touched.

Both halves are local. A reader that is asked for the value of a key or for an item of an array adds
one step to the path and knows what the path behind it says, so `Pinpoints` travels outward one step
at a time. What has to be checked at each step is that no other question of the enclosing reader is
reported under the same key.

## Main definitions

* `Blames`: a reader refuses a value at a path
* `Pinpoints`: a rejection points into the value, and a value fault can be repaired where it points

## Main results

* `Codec.Built.pinpoints`: the values that parameters hold
* `Registry.IsBuilt.pinpoints`, `Command.pinpoints`, `Call.pinpoints`: the levels above
* `Call.validate_error_locates`: every rejection of a call locates its fault
-/

namespace RouterCall

variable {α β : Type}

/-- A reader refuses a value and reports the fault at a path. -/
def Blames (read : Json → Checked α) (value : Json) (path : FieldPath) : Prop :=
  ∃ e, read value = .error e ∧ e.path = path

/-- A rejection of a value points into the value. If it is a value fault, there is a value that can
be put at its place so that the reader does not blame that place any more. -/
structure Pinpoints (read : Json → Checked α) (value : Json) (e : Rejection) : Prop where
  plain : e.path.IsPlain
  pointsInto : e.path.PointsInto value
  repairable : e.kind = .valueConstraintViolation →
    ∃ new, ¬ Blames read (e.path.replace new value) e.path

/-! ### One step outward -/

namespace Pinpoints

variable {outer : Json → Checked β} {read : Json → Checked α}

theorem of_shapeFault {keys : List String} {raw : Json} {e : Rejection}
    (words : ∀ key ∈ keys, FieldPath.IsWord key) (h : ShapeFault keys raw e) :
    Pinpoints read raw e := by
  cases h with
  | whole => exact ⟨FieldPath.isPlain_nil, .here, nofun⟩
  | key members mem reason =>
    exact ⟨FieldPath.isPlain_key_cons.mpr ⟨words _ mem, FieldPath.isPlain_nil⟩,
      FieldPath.pointsInto_key members _, nofun⟩

/-- A value refused as a whole is repaired by any value that is accepted. -/
theorem whole {value new : Json} {a : α} {e : Rejection} (path : e.path = [])
    (good : read new = .ok a) : Pinpoints read value e where
  plain := path ▸ FieldPath.isPlain_nil
  pointsInto := path ▸ .here
  repairable _ := by
    refine ⟨new, ?_⟩
    rintro ⟨e', refused, -⟩
    rw [path, FieldPath.replace, good] at refused
    cases refused

/-- The value of a key is at fault, and nothing else is reported under that key. -/
theorem key {members : Members} {key : String} {value : Json} {e : Rejection}
    (word : FieldPath.IsWord key) (found : members.lookup key = some value)
    (inner : Pinpoints read value e)
    (back : ∀ value' path, Blames outer (.object (Members.put key value' members))
      (.key key :: path) → Blames read value' path) :
    Pinpoints outer (.object members) (e.under [.key key]) where
  plain := FieldPath.isPlain_key_cons.mpr ⟨word, inner.plain⟩
  pointsInto := .key found inner.pointsInto
  repairable kind := by
    obtain ⟨new, repaired⟩ := inner.repairable kind
    refine ⟨new, fun blamed => repaired (back _ _ ?_)⟩
    rwa [← FieldPath.replace_key found]

/-- A key is at fault as a whole, absent or not, and some value under it is not. -/
theorem atKey {members : Members} {key : String} {reason : Reason} (good : Json)
    (word : FieldPath.IsWord key)
    (repaired : ¬ Blames outer (.object (Members.put key good members)) [.key key]) :
    Pinpoints outer (.object members) (.value [.key key] reason) where
  plain := FieldPath.isPlain_key_cons.mpr ⟨word, FieldPath.isPlain_nil⟩
  pointsInto := FieldPath.pointsInto_key members key
  repairable _ := ⟨good, repaired⟩

/-- A required key is at fault, absent or not. -/
theorem field {members : Members} {key : String} {good : Json} {a : α} {e : Rejection}
    (word : FieldPath.IsWord key) (accepted : read good = .ok a)
    (inner : ∀ {value e}, read value = .error e → Pinpoints read value e)
    (back : ∀ members path, Blames outer (.object members) (.key key :: path) →
      ∃ e', field members key read = .error e' ∧ e'.path = .key key :: path)
    (h : RouterCall.field members key read = .error e) : Pinpoints outer (.object members) e := by
  have back' (value' : Json) (path : FieldPath)
      (blamed : Blames outer (.object (Members.put key value' members)) (.key key :: path)) :
      Blames read value' path := by
    obtain ⟨e', refused, same⟩ := back _ _ blamed
    obtain ⟨none, -⟩ | ⟨_, inner, found, refused, rfl⟩ := field_eq_error_iff.mp refused
    · rw [lookup_put_self] at none
      cases none
    · rw [lookup_put_self] at found
      cases found
      exact ⟨inner, refused, (List.cons.inj same).2⟩
  obtain ⟨-, rfl⟩ | ⟨value, e, found, refused, rfl⟩ := field_eq_error_iff.mp h
  · refine .atKey good word fun blamed => ?_
    obtain ⟨e', refused, -⟩ := back' good [] blamed
    rw [accepted] at refused
    cases refused
  · exact .key word found (inner refused) back'

/-- The first item that is refused is the only one reported under its index. -/
theorem item {items : List Json} {position : ℕ} {item : Json} {e : Rejection}
    (fault : FirstFault read items position item e) (inner : Pinpoints read item e) :
    Pinpoints (readArray read) (.array items) (e.under [.index position]) where
  plain := FieldPath.isPlain_index_cons.mpr inner.plain
  pointsInto := .index fault.found inner.pointsInto
  repairable kind := by
    obtain ⟨new, repaired⟩ := inner.repairable kind
    refine ⟨new, ?_⟩
    rintro ⟨e', refused, same⟩
    obtain ⟨position', item', inner', fault', rfl⟩ := eachItem_eq_error_iff.mp refused
    obtain ⟨⟨rfl⟩, path⟩ := List.cons.inj same
    have modified : item' = e.path.replace new item := by
      have found := fault'.found
      rw [List.getElem?_modify_eq, fault.found] at found
      exact (Option.some.inj found).symm
    exact repaired ⟨inner', modified ▸ fault'.refused, path⟩

/-- Throwing the result away changes no rejection. -/
theorem verdict {value : Json} {e : Rejection} (h : Pinpoints read value e) :
    Pinpoints (fun value => (read value).verdict) value e where
  plain := h.plain
  pointsInto := h.pointsInto
  repairable kind := by
    obtain ⟨new, repaired⟩ := h.repairable kind
    refine ⟨new, ?_⟩
    rintro ⟨e', refused, same⟩
    exact repaired ⟨e', verdict_eq_error_iff.mp refused, same⟩

end Pinpoints

theorem Pinpoints.readArray {read : Json → Checked α}
    (inner : ∀ {value e}, read value = .error e → Pinpoints read value e) {value : Json}
    {e : Rejection} (h : readArray read value = .error e) :
    Pinpoints (readArray read) value e := by
  obtain path | ⟨items, position, item, e, rfl, fault, rfl⟩ := readArray_eq_error h
  · exact .whole path (show RouterCall.readArray read (.array []) = .ok [] from rfl)
  · exact .item fault (inner fault.refused)

/-! ### Values of parameters -/

namespace Codec

/-- **A rejection of a value that a parameter holds locates its fault.** -/
theorem Built.pinpoints {codec : Codec α} (h : codec.Built) :
    ∀ {value e}, codec.read value = .error e → Pinpoints codec.read value e := by
  induction h with
  | leaf isLeaf =>
    intro value e refused
    obtain ⟨reason, rfl⟩ := isLeaf.flat refused
    obtain ⟨new, a, good⟩ := (Built.leaf isLeaf).exists_read
    exact .whole rfl good
  | list _ ih => exact .readArray ih
  | @record _ codec slots isRecord each ih =>
    intro value e refused
    obtain path | ⟨members, rfl, slot, mem, refused⟩ := isRecord.read_eq_error refused
    · obtain ⟨new, a, good⟩ := (Built.record isRecord each).exists_read
      exact .whole path good
    · obtain ⟨good, b, accepted⟩ := (each slot mem).exists_read
      refine .field (isRecord.words _ (List.mem_map_of_mem mem)) accepted (ih slot mem) ?_ refused
      -- the keys are distinct, so the key of a path names its slot
      rintro members' path ⟨e', refused', same⟩
      obtain whole | ⟨_, ⟨⟩, slot', mem', refused'⟩ := isRecord.read_eq_error refused'
      · rw [whole] at same
        cases same
      · obtain ⟨_, path'⟩ := path_of_field refused'
        rw [path'] at same
        have keys : slot'.key = slot.key := FieldStep.key.inj (List.cons.inj same).1
        obtain rfl : slot' = slot := List.inj_on_of_nodup_map isRecord.distinct mem' mem keys
        exact ⟨e', refused', path'.trans same⟩
  | @step _ codec description ih =>
    intro entry e refused
    obtain path | ⟨members, rfl, ⟨other, rfl⟩ | refused⟩ := checkStep_eq_error refused
    · obtain ⟨new, a, good⟩ := description.step.exists_read
      exact .whole path good
    · refine .atKey (.string V4.stepName) (by decide) ?_
      rintro ⟨e', refused', same⟩
      obtain whole | ⟨_, ⟨⟩, ⟨other', -⟩ | refused'⟩ := checkStep_eq_error refused'
      · rw [whole] at same
        cases same
      · exact other' (lookup_put_self _ _ _)
      · obtain ⟨_, path'⟩ := path_of_field refused'
        exact absurd (List.cons.inj (path'.symm.trans same)).1 (by decide)
    · obtain ⟨good, b, accepted⟩ := description.exists_read
      refine .field (by decide) accepted ih ?_ refused
      rintro members' path ⟨e', refused', same⟩
      obtain whole | ⟨_, ⟨⟩, ⟨-, rfl⟩ | refused'⟩ := checkStep_eq_error refused'
      · rw [whole] at same
        cases same
      · exact absurd (List.cons.inj same).1 (by decide)
      · exact ⟨e', refused', same⟩

end Codec

/-! ### Parameters -/

namespace Registry

variable {π : Type} {registry : Registry π}

/-- **A rejection of a raw parameter locates its fault.** -/
theorem IsBuilt.pinpoints (h : registry.IsBuilt) {raw : Json} {e : Rejection}
    (refused : registry.classify raw = .error e) : Pinpoints registry.classify raw e := by
  obtain refused | ⟨members, key, value, rfl, named, found, refused⟩ :=
    registry.classify_eq_error_iff.mp refused
  · exact .of_shapeFault (by decide) (shapeFault_of_split refused)
  · obtain ⟨-, rfl⟩ | ⟨arm, inner, chosen, refused', rfl⟩ :=
      registry.ofNamed_eq_error_iff.mp refused
    · exact .of_shapeFault (by decide) (.key members (List.mem_singleton_self "name") _)
    · refine .key (by decide) found ((h key arm chosen).pinpoints refused') ?_
      -- with another value the parameter is still read by the arm of its name
      rintro value' path ⟨e', rejected, same⟩
      rw [registry.classify_put_value named chosen, under_eq_error_iff] at rejected
      obtain ⟨inner', rejected, rfl⟩ := rejected
      exact ⟨inner', map_eq_error_iff.mp rejected, (List.cons.inj same).2⟩

end Registry

/-! ### Commands -/

namespace Command

theorem pinpoints_checkParam {name : String} {raw : Json} {e : Rejection}
    (h : checkParam name raw = .error e) : Pinpoints (checkParam name) raw e := by
  obtain ⟨π, registry, built, same⟩ := exists_registry name
  rw [same] at h ⊢
  exact (built.pinpoints (verdict_eq_error_iff.mp h)).verdict

theorem blames_params {policy : Policy} {members : Members} {header : Header} {value : Json}
    {path : FieldPath} (h : Header.check (.object members) = .ok header)
    (blamed : Blames (fun raw => (classify policy raw).outcome)
      (.object (Members.put "params" value members)) (.key "params" :: path)) :
    Blames (readArray (checkParam header.name)) value path := by
  obtain ⟨e, rejected, same⟩ := blamed
  obtain refused | ⟨header', checked, refused⟩ := classify_eq_error_iff.mp rejected
  · -- the other fields of the header are in order, so the parameters are no array
    cases listed : value.asArray? with
    | some params =>
      obtain rfl := Json.asArray?_eq_some_iff.mp listed
      rw [header_put_params h] at refused
      cases refused
    | none =>
      have path_nil : path = [] := by
        cases shapeFault_of_header refused with
        | whole => cases same
        | key => exact (List.cons.inj same).2.symm
      refine ⟨.value [] (.expected "array" value.kind), ?_, path_nil.symm⟩
      exact bind_eq_error_iff.mpr (.inl (array_eq_error_iff.mpr ⟨listed, rfl⟩))
  · obtain ⟨_, ⟨⟩, named, -, -, listed⟩ := Header.check_eq_ok_iff.mp checked
    rw [lookup_put_self] at listed
    cases listed
    rw [header_put_params h] at checked
    obtain refused | ⟨-, refused⟩ := refused
    · obtain rfl | shape := shapeFault_of_permit refused
      · cases same
      · cases shape [] with
        | whole => cases same
        | @key _ key mem =>
          obtain rfl := FieldStep.key.inj (List.cons.inj same).1
          exact absurd mem (by decide)
    · obtain ⟨position, param, inner, fault, rfl⟩ := checkParams_eq_error_iff.mp refused
      rw [← congrArg Header.name (Except.ok.inj checked)] at fault
      exact ⟨_, eachItem_eq_error_iff.mpr ⟨position, param, inner, fault, rfl⟩,
        (List.cons.inj same).2⟩

/-- **A rejection of a raw command locates its fault.** -/
theorem pinpoints {policy : Policy} {raw : Json} {e : Rejection}
    (h : (classify policy raw).outcome = .error e) :
    Pinpoints (fun raw => (classify policy raw).outcome) raw e := by
  obtain refused | ⟨header, checked, refused⟩ := classify_eq_error_iff.mp h
  · exact .of_shapeFault (by decide) (shapeFault_of_header refused)
  · obtain ⟨members, rfl, -, -, -, listed⟩ := Header.check_eq_ok_iff.mp checked
    obtain refused | ⟨-, refused⟩ := refused
    · obtain rfl | shape := shapeFault_of_permit refused
      · exact ⟨FieldPath.isPlain_nil, .here, nofun⟩
      · exact .of_shapeFault (by decide) (shape members)
    · obtain ⟨position, param, inner, fault, rfl⟩ := checkParams_eq_error_iff.mp refused
      rw [show inner.under [.key "params", .index position] =
        (inner.under [.index position]).under [.key "params"] from rfl]
      exact .key (by decide) listed (.item fault (pinpoints_checkParam fault.refused))
        fun _ _ => blames_params checked

end Command

/-! ### Calls -/

namespace Call

theorem blames_commands {policy : Policy} {members : Members} {value : Json} {path : FieldPath}
    (blamed : Blames (fun raw => (validate policy raw).outcome)
      (.object (Members.put "commands" value members)) (.key "commands" :: path)) :
    Blames (readArray fun raw => (Command.classify policy raw).outcome) value path := by
  obtain ⟨e, rejected, same⟩ := blamed
  obtain refused | ⟨raws, listed, position, command, inner, fault, rfl⟩ :=
    validate_eq_error_iff.mp rejected
  · cases listed : value.asArray? with
    | some raws =>
      obtain rfl := Json.asArray?_eq_some_iff.mp listed
      rw [rawCommands_eq_ok_iff.mpr ⟨_, rfl, lookup_put_self _ _ _⟩] at refused
      cases refused
    | none =>
      have path_nil : path = [] := by
        cases shapeFault_of_rawCommands refused with
        | whole => cases same
        | key => exact (List.cons.inj same).2.symm
      refine ⟨.value [] (.expected "array" value.kind), ?_, path_nil.symm⟩
      exact bind_eq_error_iff.mpr (.inl (array_eq_error_iff.mpr ⟨listed, rfl⟩))
  · obtain ⟨_, ⟨⟩, found⟩ := rawCommands_eq_ok_iff.mp listed
    rw [lookup_put_self] at found
    cases found
    exact ⟨_, eachItem_eq_error_iff.mpr ⟨position, command, inner, fault, rfl⟩,
      (List.cons.inj same).2⟩

/-- **A rejection of a raw call locates its fault.** -/
theorem pinpoints {policy : Policy} {raw : Json} {e : Rejection}
    (h : (validate policy raw).outcome = .error e) :
    Pinpoints (fun raw => (validate policy raw).outcome) raw e := by
  obtain refused | ⟨raws, listed, position, command, inner, fault, rfl⟩ :=
    validate_eq_error_iff.mp h
  · exact .of_shapeFault (by decide) (shapeFault_of_rawCommands refused)
  · obtain ⟨members, rfl, found⟩ := rawCommands_eq_ok_iff.mp listed
    rw [show inner.under [.key "commands", .index position] =
      (inner.under [.index position]).under [.key "commands"] from rfl]
    exact .key (by decide) found (.item fault (Command.pinpoints fault.refused))
      fun _ _ => blames_commands

/-- A call with faults in two commands, of which the first is refused for two of its parameters, and
the first of these for its second hop. -/
def faultyRaw : Json := .object [
  ("commands", .array [
    .object [("commandName", .string "WRAP_ETH"), ("commandType", .ofInt 11),
      ("params", .array [])],
    .object [
      ("commandName", .string "V3_SWAP_EXACT_IN"),
      ("commandType", .ofInt 0),
      ("params", .array [
        .object [("name", .string "amountIn"), ("value", .string "1")],
        .object [("name", .string "path"), ("value", .array [
          .object [("tokenIn", .string "0x1"), ("tokenOut", .string "0x2"), ("fee", .ofInt 500)],
          .object [("tokenIn", .string "0x2"), ("tokenOut", .string "0x3"), ("fee", .ofInt 501)],
          .null])],
        .object [("name", .string "payerIsUser"), ("value", .string "yes")]])],
    .object [("commandName", .string "V4_SWAP"), ("commandType", .ofInt 1),
      ("params", .array [])]])]

/-- The rejection of `faultyRaw`. -/
def faultyRejection : Rejection := .value
  [.key "commands", .index 1, .key "params", .index 1, .key "value", .index 1, .key "fee"]
  (.notAFeeTier 501)

/-- **Every rejection of a call locates its fault.** The field is spelled by a path that points into
the raw call. If the fault is a value fault, some value put at the place that the path points to,
and nothing else, leads to an accepted call or to a rejection with another field. -/
theorem validate_error_locates {policy : Policy} {raw : Json} {e : Rejection}
    (h : (validate policy raw).outcome = .error e) :
    ∃ path : FieldPath, path.Spells e.field ∧ path.PointsInto raw ∧
      (e.kind = .valueConstraintViolation → ∃ new,
        (∃ call, (validate policy (path.replace new raw)).outcome = .ok call) ∨
        ∃ e', (validate policy (path.replace new raw)).outcome = .error e' ∧
          e'.field ≠ e.field) := by
  have located := pinpoints h
  have spelled := FieldPath.spells_render located.plain
  refine ⟨e.path, spelled, located.pointsInto, fun kind => ?_⟩
  obtain ⟨new, repaired⟩ := located.repairable kind
  refine ⟨new, ?_⟩
  cases again : (validate policy (e.path.replace new raw)).outcome with
  | ok call => exact .inl ⟨call, rfl⟩
  | error e' =>
    refine .inr ⟨e', rfl, fun same => repaired ⟨e', again, ?_⟩⟩
    -- a text spells one path, so equal fields are equal places
    have spelled' := FieldPath.spells_render (pinpoints again).plain
    rw [show e'.path.render = e.field from same] at spelled'
    exact spelled'.unique spelled

theorem validate_error_locates_faulty :
    (validate .permissive faultyRaw).outcome = .error faultyRejection ∧
      faultyRejection.field = "commands[1].params[1].value[1].fee" ∧
      ∃ path : FieldPath, path.Spells faultyRejection.field ∧ path.PointsInto faultyRaw ∧
        (faultyRejection.kind = .valueConstraintViolation → ∃ new,
          (∃ call, (validate .permissive (path.replace new faultyRaw)).outcome = .ok call) ∨
          ∃ e', (validate .permissive (path.replace new faultyRaw)).outcome = .error e' ∧
            e'.field ≠ faultyRejection.field) :=
  ⟨rfl, rfl, validate_error_locates (show (validate .permissive faultyRaw).outcome = _ from rfl)⟩

end Call

end RouterCall
