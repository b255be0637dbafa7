import RouterCall.Proofs.Location

/-!
# Failing fast

A call, the parameters of a command and the entries of a value are lists, and each of them is read
up to the first item that is refused. Two things follow at every level. What stands before that item
is in order, so the list cut off there is accepted; and what stands behind it was never looked at,
so it may be anything.

A list may sit deep in a call, and the second statement is always about the whole call: the very
same rejection comes back, path and reason. For that a rejection is carried outward one level at a
time. If the value at a place is replaced by one that is refused in the same way, then so is the
object or the array around it.

## Main definitions

* `StopsAt`: a list is read up to a position and no further
* `Command.StopsAtParam`, `Call.FailsFast`: what a rejection of a command or of a call says about
  its lists

## Main results

* `Codec.Built.stopsAt`: the entries of a value
* `Command.stopsAtParam`: the parameters of a command
* `Call.validate_error_failsFast`: all levels at once
-/

namespace RouterCall

/-- A list is read up to a position and no further. Cut off before it, the list is accepted, and
whatever stands behind it, the list is refused. -/
structure StopsAt (items : List Json) (position : ℕ) (accepted refused : Json → Prop) : Prop where
  inside : position < items.length
  truncated : accepted (.array (items.take position))
  regardless : ∀ others, refused (.array (items.take (position + 1) ++ others))

theorem StopsAt.imp {items : List Json} {position : ℕ} {accepted accepted' refused refused' :
    Json → Prop} (h : StopsAt items position accepted refused)
    (ha : ∀ value, accepted value → accepted' value)
    (hr : ∀ value, refused value → refused' value) : StopsAt items position accepted' refused' :=
  ⟨h.inside, ha _ h.truncated, fun others => hr _ (h.regardless others)⟩

theorem FirstFault.stopsAt {α : Type} {read : Json → Checked α} {items : List Json} {position : ℕ}
    {item : Json} {inner : Rejection} (fault : FirstFault read items position item inner)
    {accepted refused : Json → Prop}
    (ha : ∀ items, (∀ item ∈ items, ∃ a, read item = .ok a) → accepted (.array items))
    (hr : ∀ items, FirstFault read items position item inner → refused (.array items)) :
    StopsAt items position accepted refused :=
  ⟨fault.lt_length, ha _ fault.earlier, fun others => hr _ (fault.append others)⟩

/-! ### Entries of a value -/

/-- A value that is refused for one of its entries is a list of them, read up to that entry. -/
theorem Codec.Built.stopsAt {α : Type} {codec : Codec α} (h : codec.Built) {value : Json}
    {e : Rejection} {position : ℕ} {path : FieldPath} (refused : codec.read value = .error e)
    (blamed : e.path = .index position :: path) :
    ∃ entries, value = .array entries ∧ StopsAt entries position
      (fun value => ∃ a, codec.read value = .ok a) (fun value => codec.read value = .error e) := by
  cases h with
  | leaf isLeaf =>
    obtain ⟨reason, rfl⟩ := isLeaf.flat refused
    cases blamed
  | @list _ codec _ =>
    obtain whole | ⟨entries, position, entry, inner, rfl, fault, rfl⟩ := readArray_eq_error refused
    · rw [whole] at blamed
      cases blamed
    · obtain ⟨⟨rfl⟩, -⟩ := List.cons.inj blamed
      refine ⟨entries, rfl, fault.stopsAt (fun items each => ?_) fun items fault => ?_⟩
      · obtain ⟨as, each⟩ := exists_eachItem_eq_ok_iff.mpr each
        exact ⟨as, each⟩
      · exact eachItem_eq_error_iff.mpr ⟨_, entry, inner, fault, rfl⟩
  | record isRecord _ =>
    obtain whole | ⟨members, rfl, slot, -, refused⟩ := isRecord.read_eq_error refused
    · rw [whole] at blamed
      cases blamed
    · obtain ⟨_, key⟩ := path_of_field refused
      cases key.symm.trans blamed
  | step _ =>
    obtain whole | ⟨members, rfl, ⟨-, rfl⟩ | refused⟩ := checkStep_eq_error refused
    · rw [whole] at blamed
      cases blamed
    · cases blamed
    · obtain ⟨_, key⟩ := path_of_field refused
      cases key.symm.trans blamed

/-- A parameter that is refused for an entry of its value holds a list, read up to that entry. -/
theorem Registry.IsBuilt.stopsAt {π : Type} {registry : Registry π} (h : registry.IsBuilt)
    {raw : Json} {e : Rejection} {position : ℕ} {path : FieldPath}
    (rejected : registry.classify raw = .error e)
    (blamed : e.path = .key "value" :: .index position :: path) :
    ∃ entries, raw.member? "value" = some (.array entries) ∧ StopsAt entries position
      (fun value => ∃ p, registry.classify (FieldPath.replace [.key "value"] value raw) = .ok p)
      (fun value => registry.classify (FieldPath.replace [.key "value"] value raw) = .error e) := by
  obtain refused | ⟨members, key, value, rfl, named, found, refused⟩ :=
    registry.classify_eq_error_iff.mp rejected
  · cases shapeFault_of_split refused with
    | whole => cases blamed
    | key => exact nomatch (List.cons.inj blamed).2
  · obtain ⟨-, rfl⟩ | ⟨arm, inner, chosen, atValue, rfl⟩ :=
      registry.ofNamed_eq_error_iff.mp refused
    · exact nomatch (List.cons.inj blamed).2
    · obtain ⟨entries, rfl, stops⟩ :=
        (h key arm chosen).stopsAt atValue (List.cons.inj blamed).2
      refine ⟨entries, member?_eq_some_iff.mpr ⟨members, rfl, found⟩, stops.imp ?_ ?_⟩
      · rintro value ⟨a, accepted⟩
        refine ⟨arm.make a, ?_⟩
        rw [FieldPath.replace_key found, FieldPath.replace,
          registry.classify_put_value named chosen, accepted]
        rfl
      · intro value refused
        rw [FieldPath.replace_key found, FieldPath.replace,
          registry.classify_put_value named chosen, refused]
        rfl

namespace Command

theorem checkParam_stopsAt {name : String} {raw : Json} {e : Rejection} {position : ℕ}
    {path : FieldPath} (rejected : checkParam name raw = .error e)
    (blamed : e.path = .key "value" :: .index position :: path) :
    ∃ entries, raw.member? "value" = some (.array entries) ∧ StopsAt entries position
      (fun value => checkParam name (FieldPath.replace [.key "value"] value raw) = .ok ())
      (fun value => checkParam name (FieldPath.replace [.key "value"] value raw) = .error e) := by
  obtain ⟨π, registry, built, same⟩ := exists_registry name
  rw [same] at rejected ⊢
  obtain ⟨entries, found, stops⟩ := built.stopsAt (verdict_eq_error_iff.mp rejected) blamed
  exact ⟨entries, found, stops.imp (fun _ => verdict_eq_ok_iff.mpr) fun _ =>
    verdict_eq_error_iff.mpr⟩

/-! ### Parameters of a command -/

section Params

variable {policy : Policy} {members : Members} {header : Header}

/-- A command whose name and number are let through is accepted with any parameters that are. -/
theorem exists_classify_put_params (checked : Header.check (.object members) = .ok header)
    (permitted : permit policy header = .ok ()) {params : List Json}
    (each : ∀ param ∈ params, ∃ a, checkParam header.name param = .ok a) :
    ∃ command, (classify policy (.object (Members.put "params" (.array params) members))).outcome =
      .ok command :=
  exists_classify_eq_ok_iff.mpr
    ⟨_, header_put_params checked params, permitted, checkParams_eq_ok_iff.mpr each⟩

/-- A command whose name and number are let through is refused for the first fault of any
parameters. -/
theorem classify_put_params (checked : Header.check (.object members) = .ok header)
    (permitted : permit policy header = .ok ()) {params : List Json} {position : ℕ} {param : Json}
    {inner : Rejection} (fault : FirstFault (checkParam header.name) params position param inner) :
    (classify policy (.object (Members.put "params" (.array params) members))).outcome =
      .error (inner.under [.key "params", .index position]) :=
  classify_eq_error_iff.mpr (.inr ⟨_, header_put_params checked params,
    .inr ⟨permitted, checkParams_eq_error_iff.mpr ⟨position, param, inner, fault, rfl⟩⟩⟩)

end Params

/-- A raw command is refused for one of its parameters, and for nothing behind it. What comes back
when the value at a place of the command is replaced is up to the enclosing value, and `refused`
says that it is the same rejection. -/
structure StopsAtParam (policy : Policy) (raw : Json) (e : Rejection)
    (refused : FieldPath → Json → Prop) (position : ℕ) (name : String) (params : List Json)
    (param : Json) (inner : Rejection) : Prop where
  named : raw.member? "commandName" = some (.string name)
  listed : raw.member? "params" = some (.array params)
  fault : FirstFault (checkParam name) params position param inner
  rejection : e = inner.under [.key "params", .index position]
  stops : StopsAt params position
    (fun value => ∃ command,
      (classify policy (FieldPath.replace [.key "params"] value raw)).outcome = .ok command)
    (refused [.key "params"])
  entries : ∀ position' path, inner.path = .key "value" :: .index position' :: path →
    ∃ entries, param.member? "value" = some (.array entries) ∧ StopsAt entries position'
      (fun value => checkParam name (FieldPath.replace [.key "value"] value param) = .ok ())
      (refused [.key "params", .index position, .key "value"])

theorem StopsAtParam.imp {policy : Policy} {raw : Json} {e : Rejection}
    {refused refused' : FieldPath → Json → Prop} {position : ℕ} {name : String}
    {params : List Json} {param : Json} {inner : Rejection}
    (h : StopsAtParam policy raw e refused position name params param inner)
    (hr : ∀ place new, refused place new → refused' place new) :
    StopsAtParam policy raw e refused' position name params param inner where
  named := h.named
  listed := h.listed
  fault := h.fault
  rejection := h.rejection
  stops := h.stops.imp (fun _ => id) (hr _)
  entries position' path blamed := by
    obtain ⟨entries, found, stops⟩ := h.entries position' path blamed
    exact ⟨entries, found, stops.imp (fun _ => id) (hr _)⟩

/-- **A command is read up to the first parameter that is refused.** -/
theorem stopsAtParam {policy : Policy} {raw : Json} {e : Rejection} {position : ℕ}
    {path : FieldPath} (rejected : (classify policy raw).outcome = .error e)
    (blamed : e.path = .key "params" :: .index position :: path) :
    ∃ name params param inner, StopsAtParam policy raw e
      (fun place new => (classify policy (place.replace new raw)).outcome = .error e)
      position name params param inner := by
  obtain refused | ⟨header, checked, refused⟩ := classify_eq_error_iff.mp rejected
  · cases shapeFault_of_header refused with
    | whole => cases blamed
    | key => exact nomatch (List.cons.inj blamed).2
  · obtain ⟨members, rfl, named, -, -, listed⟩ := Header.check_eq_ok_iff.mp checked
    obtain refused | ⟨permitted, refused⟩ := refused
    · obtain rfl | shape := shapeFault_of_permit refused
      · cases blamed
      · cases shape [] with
        | whole => cases blamed
        | key => exact nomatch (List.cons.inj blamed).2
    · obtain ⟨position, param, inner, fault, rfl⟩ := checkParams_eq_error_iff.mp refused
      obtain ⟨⟨rfl⟩, -⟩ := List.cons.inj (List.cons.inj blamed).2
      refine ⟨header.name, header.params, param, inner, ?_⟩
      refine
        { named := member?_eq_some_iff.mpr ⟨members, rfl, named⟩
          listed := member?_eq_some_iff.mpr ⟨members, rfl, listed⟩
          fault := fault
          rejection := rfl
          stops := fault.stopsAt (fun items each => ?_) fun items fault => ?_
          entries := fun position' path' blamed' => ?_ }
      · rw [FieldPath.replace_key listed]
        exact exists_classify_put_params checked permitted each
      · rw [FieldPath.replace_key listed]
        exact classify_put_params checked permitted fault
      · obtain ⟨entries, found, stops⟩ := checkParam_stopsAt fault.refused blamed'
        refine ⟨entries, found, stops.imp (fun _ => id) fun value refused => ?_⟩
        rw [FieldPath.replace_key listed]
        exact classify_put_params checked permitted (fault.modify refused)

end Command

/-! ### Commands of a call -/

namespace Call

variable {policy : Policy} {raw : Json} {raws : List Json} {position : ℕ} {command : Json}
  {inner : Rejection}

/-- A call is refused for the first fault of its commands, whatever else it holds. -/
theorem validate_of_firstFault (listed : raw.member? "commands" = some (.array raws))
    (fault : FirstFault (fun raw => (Command.classify policy raw).outcome) raws position command
      inner) :
    (validate policy raw).outcome = .error (inner.under [.key "commands", .index position]) :=
  validate_eq_error_iff.mpr (.inr ⟨raws, rawCommands_eq_ok_iff.mpr (member?_eq_some_iff.mp listed),
    position, command, inner, fault, rfl⟩)

/-- A call is refused in the same way when the command at fault is replaced by another one that is
refused in the same way. -/
theorem validate_replace (listed : raw.member? "commands" = some (.array raws))
    (fault : FirstFault (fun raw => (Command.classify policy raw).outcome) raws position command
      inner) {place : FieldPath} {new : Json}
    (refused : (Command.classify policy (place.replace new command)).outcome = .error inner) :
    (validate policy
        (FieldPath.replace (.key "commands" :: .index position :: place) new raw)).outcome =
      .error (inner.under [.key "commands", .index position]) := by
  obtain ⟨members, rfl, found⟩ := member?_eq_some_iff.mp listed
  rw [FieldPath.replace_key found]
  exact validate_of_firstFault (member?_eq_some_iff.mpr ⟨_, rfl, lookup_put_self _ _ _⟩)
    (fault.modify refused)

/-- A raw call is refused for one of its commands, and for nothing behind it. -/
structure FailsFast (policy : Policy) (raw : Json) (raws : List Json) (e : Rejection)
    (position : ℕ) (command : Json) (inner : Rejection) : Prop where
  fault : FirstFault (fun raw => (Command.classify policy raw).outcome) raws position command inner
  rejection : e = inner.under [.key "commands", .index position]
  spelled : FieldPath.Spells (.key "commands" :: .index position :: inner.path) e.field
  truncated : ∃ call, (validate policy
    (FieldPath.replace [.key "commands"] (.array (raws.take position)) raw)).outcome = .ok call
  regardless : ∀ raw' raws', raw'.member? "commands" = some (.array raws') →
    raws'.take (position + 1) = raws.take (position + 1) →
      (validate policy raw').outcome = .error e
  params : ∀ position' path, inner.path = .key "params" :: .index position' :: path →
    ∃ name params param inner', Command.StopsAtParam policy command inner
      (fun place new => (validate policy
        (FieldPath.replace (.key "commands" :: .index position :: place) new raw)).outcome =
          .error e)
      position' name params param inner'

/-- **A validation stops at the first fault, and what stands behind it does not matter.** A call
with an array of commands is refused for the first of them that is refused on its own; so is a
command that is refused for one of its parameters, and a parameter for an entry of its value. -/
theorem validate_error_failsFast {e : Rejection}
    (listed : raw.member? "commands" = some (.array raws))
    (h : (validate policy raw).outcome = .error e) :
    ∃ position command inner, FailsFast policy raw raws e position command inner := by
  obtain refused | ⟨raws', listed', position, command, inner, fault, rfl⟩ :=
    validate_eq_error_iff.mp h
  · rw [rawCommands_eq_ok_iff.mpr (member?_eq_some_iff.mp listed)] at refused
    cases refused
  · obtain ⟨members, rfl, found⟩ := member?_eq_some_iff.mp listed
    rw [rawCommands_eq_ok_iff.mpr ⟨members, rfl, found⟩] at listed'
    cases listed'
    refine ⟨position, command, inner, ?_⟩
    refine
      { fault := fault
        rejection := rfl
        spelled := FieldPath.spells_render (pinpoints h).plain
        truncated := ?_
        regardless := fun raw' raws' listed same => ?_
        params := fun position' path blamed => ?_ }
    · obtain ⟨commands, each⟩ := exists_forall₂_iff.mpr fault.earlier
      rw [FieldPath.replace_key found]
      exact ⟨⟨commands⟩, validate_eq_ok_iff.mpr ⟨_, _, rfl, lookup_put_self _ _ _, each⟩⟩
    · exact validate_of_firstFault listed (fault.of_take same)
    · obtain ⟨name, params, param, inner', stops⟩ := Command.stopsAtParam fault.refused blamed
      exact ⟨name, params, param, inner', stops.imp fun _ _ => validate_replace listed fault⟩

theorem validate_error_failsFast_faulty :
    ∃ raws, faultyRaw.member? "commands" = some (.array raws) ∧
      (validate .permissive faultyRaw).outcome = .error faultyRejection ∧
      ∃ position command inner,
        FailsFast .permissive faultyRaw raws faultyRejection position command inner :=
  ⟨_, rfl, rfl,
    validate_error_failsFast rfl (show (validate .permissive faultyRaw).outcome = _ from rfl)⟩

end Call

end RouterCall
