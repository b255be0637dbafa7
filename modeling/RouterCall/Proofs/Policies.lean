import RouterCall.Proofs.FailFast

/-!
# What a policy decides

The two policies differ in the treatment of command names outside the table, and in nothing else. On
one raw command they agree, unless it has such a name and a header that is in order up to it; then
the strict policy refuses the name, before the number and the parameters are looked at.

Over a list the two traversals go side by side as long as they agree, and the strict one ends at the
first unknown name if it gets there. So the strict outcome is the permissive one, or it is the
refusal of the first unknown name. The permissive traversal may end later than that, and it may end
in a rejection of its own, but never earlier.

## Main definitions

* `Command.HasUnknownName`, `Call.HasUnknownName`: names outside the table
* `Call.StopsAtName`: the strict outcome is the refusal of the first unknown name

## Main results

* `Command.classify_strict`: the two policies on one raw command
* `FirstFault.permissive`: the two policies on the first command that the strict one refuses
* `Call.validate_strict_permissive`: the two policies on a raw call
-/

namespace RouterCall

/-- The policy that refuses unknown names. -/
def Policy.strict : Policy := ⟨.reject⟩

/-! ### One command -/

namespace Command

/-- A raw command has a name, and it is outside the table. -/
def HasUnknownName (raw : Json) (name : String) : Prop :=
  raw.member? "commandName" = some (.string name) ∧ CommandName.ofName? name = none

/-- **The two policies agree on a command, or the strict one refuses its name.** -/
theorem classify_strict (raw : Json) :
    (classify .strict raw).outcome = (classify .permissive raw).outcome ∨
      ∃ name, HasUnknownName raw name ∧
        (classify .strict raw).outcome =
          .error (.shape [.key "commandName"] (.unknownCommand name)) := by
  cases checked : Header.check raw with
  | error e =>
    have refused (policy : Policy) : (classify policy raw).outcome = .error e :=
      classify_eq_error_iff.mpr (.inl checked)
    exact .inl (by rw [refused, refused])
  | ok header =>
    cases found : CommandName.ofName? header.name with
    | some known =>
      have same : ofHeader .strict header = ofHeader .permissive header := by
        rw [ofHeader_of_known found, ofHeader_of_known found]
      left
      simp only [classify, Traced.outcome_bind, Traced.outcome_lift, checked]
      show ((ofHeader .strict header).outcome >>= _) = ((ofHeader .permissive header).outcome >>= _)
      rw [same]
    | none =>
      obtain ⟨members, rfl, named, -⟩ := Header.check_eq_ok_iff.mp checked
      refine .inr ⟨header.name, ⟨member?_eq_some_iff.mpr ⟨members, rfl, named⟩, found⟩, ?_⟩
      refine classify_eq_error_iff.mpr (.inr ⟨header, checked, .inl ?_⟩)
      rw [permit, found]
      rfl

/-- What the strict policy accepts, the permissive one accepts as the same command. -/
theorem classify_permissive_of_strict {raw : Json} {command : Command}
    (h : (classify .strict raw).outcome = .ok command) :
    (classify .permissive raw).outcome = .ok command := by
  obtain same | ⟨name, -, refused⟩ := classify_strict raw
  · rw [← same, h]
  · rw [h] at refused
    cases refused

theorem ofName?_name_ne_none_of_strict {raw : Json} {command : Command}
    (h : (classify .strict raw).outcome = .ok command) :
    CommandName.ofName? command.name ≠ none := by
  obtain ⟨_, -, ⟨known, entry⟩ | ⟨permissive, -⟩, -⟩ := classify_eq_ok_iff.mp h
  · rw [entry.name, CommandName.ofName?_name]
    nofun
  · cases permissive

theorem not_hasUnknownName_of_strict {raw : Json} {command : Command}
    (h : (classify .strict raw).outcome = .ok command) (name : String) :
    ¬ HasUnknownName raw name := by
  rintro ⟨named, unknown⟩
  rw [member_of_classify h] at named
  cases named
  exact ofName?_name_ne_none_of_strict h unknown

/-- An unknown name is kept in an opaque command. -/
theorem exists_fallback_of_hasUnknownName {policy : Policy} {raw : Json} {command : Command}
    {name : String} (h : (classify policy raw).outcome = .ok command)
    (unknown : HasUnknownName raw name) :
    ∃ kept, command = .fallback kept ∧ kept.knownName? = none := by
  obtain ⟨named, absent⟩ := unknown
  rw [member_of_classify h] at named
  cases named
  obtain ⟨known, entry⟩ | ⟨kept, rfl⟩ := command.exists_isEntry_or_fallback
  · rw [entry.name, CommandName.ofName?_name] at absent
    cases absent
  · exact ⟨kept, rfl, absent⟩

end Command

/-- The first command that the strict policy refuses is the first that the permissive policy
refuses, with the same rejection, or it has an unknown name. -/
theorem FirstFault.permissive {raws : List Json} {position : ℕ} {command : Json} {inner : Rejection}
    (fault : FirstFault (fun raw => (Command.classify .strict raw).outcome) raws position command
      inner) :
    FirstFault (fun raw => (Command.classify .permissive raw).outcome) raws position command inner ∨
      ∃ name, Command.HasUnknownName command name ∧
        inner = .shape [.key "commandName"] (.unknownCommand name) := by
  obtain same | ⟨name, unknown, refused⟩ := Command.classify_strict command
  · refine .inl ⟨fault.found, same ▸ fault.refused, fun other mem => ?_⟩
    obtain ⟨typed, accepted⟩ := fault.earlier other mem
    exact ⟨typed, Command.classify_permissive_of_strict accepted⟩
  · exact .inr ⟨name, unknown, Except.error.inj (fault.refused.symm.trans refused)⟩

/-! ### A list of commands -/

namespace Call

/-- A raw call has a command with a name outside the table at a position. -/
def HasUnknownName (raw : Json) (position : ℕ) (name : String) : Prop :=
  ∃ raws command, raw.member? "commands" = some (.array raws) ∧ raws[position]? = some command ∧
    Command.HasUnknownName command name

/-- All opaque commands of a call have names of the table. -/
def NamesKnown (call : Call) : Prop :=
  ∀ kept, .fallback kept ∈ call.commands → kept.knownName? ≠ none

/-- Under the strict policy a raw call is refused for its first unknown name. -/
structure StopsAtName (raw : Json) (position : ℕ) (name : String) : Prop where
  unknown : HasUnknownName raw position name
  first : ∀ earlier < position, ∀ other, ¬ HasUnknownName raw earlier other
  rejection : (validate .strict raw).outcome = .error
    (.shape [.key "commands", .index position, .key "commandName"] (.unknownCommand name))

variable {raw : Json} {call : Call} {e : Rejection}

/-- Before the first command that the strict policy refuses there is no unknown name. -/
theorem stopsAtName {raws : List Json} {position : ℕ} {command : Json} {name : String}
    (listed : raw.member? "commands" = some (.array raws))
    (fault : FirstFault (fun raw => (Command.classify .strict raw).outcome) raws position command
      (.shape [.key "commandName"] (.unknownCommand name)))
    (unknown : Command.HasUnknownName command name) : StopsAtName raw position name where
  unknown := ⟨raws, command, listed, fault.found, unknown⟩
  first := by
    rintro earlier before other ⟨raws', command', listed', found, unknown'⟩
    rw [listed] at listed'
    cases listed'
    obtain ⟨typed, accepted⟩ := fault.accepted_of_lt before found
    exact Command.not_hasUnknownName_of_strict accepted other unknown'
  rejection := validate_of_firstFault listed fault

/-- What the strict policy accepts, the permissive one accepts as the same call. -/
theorem validate_permissive_of_strict (h : (validate .strict raw).outcome = .ok call) :
    (validate .permissive raw).outcome = .ok call := by
  obtain ⟨members, raws, rfl, listed, each⟩ := validate_eq_ok_iff.mp h
  exact validate_eq_ok_iff.mpr ⟨members, raws, rfl, listed,
    each.imp fun _ _ => Command.classify_permissive_of_strict⟩

/-- **What the strict policy refuses is refused by the permissive one for the same fault, or it is
refused for its first unknown name.** In that case the permissive policy gets at least as far. -/
theorem validate_strict_eq_error (h : (validate .strict raw).outcome = .error e) :
    (validate .permissive raw).outcome = .error e ∨
      ∃ position name, StopsAtName raw position name ∧
        ∀ e', (validate .permissive raw).outcome = .error e' →
          ∃ later path, e'.path = .key "commands" :: .index later :: path ∧ position ≤ later := by
  obtain refused | ⟨raws, listed, position, command, inner, fault, rfl⟩ :=
    validate_eq_error_iff.mp h
  · exact .inl (validate_eq_error_iff.mpr (.inl refused))
  have listed' := member?_eq_some_iff.mpr (rawCommands_eq_ok_iff.mp listed)
  obtain fault' | ⟨name, unknown, rfl⟩ := fault.permissive
  · exact .inl (validate_of_firstFault listed' fault')
  refine .inr ⟨position, name, stopsAtName listed' fault unknown, fun e' rejected => ?_⟩
  obtain refused | ⟨raws', same, later, command', inner', fault', rfl⟩ :=
    validate_eq_error_iff.mp rejected
  · rw [listed] at refused
    cases refused
  rw [listed] at same
  cases same
  refine ⟨later, inner'.path, rfl, Nat.le_of_not_lt fun before => ?_⟩
  -- the permissive policy accepts what the strict one has accepted before
  obtain ⟨typed, accepted⟩ := fault.accepted_of_lt before fault'.found
  have refused := fault'.refused
  rw [Command.classify_permissive_of_strict accepted] at refused
  cases refused

/-- An unknown name in an accepted call is the name of an opaque command. -/
theorem not_namesKnown {position : ℕ} {name : String}
    (h : (validate .permissive raw).outcome = .ok call)
    (unknown : HasUnknownName raw position name) : ¬ call.NamesKnown := by
  obtain ⟨members, raws, rfl, found, each⟩ := validate_eq_ok_iff.mp h
  obtain ⟨raws', command, listed, at', unknown⟩ := unknown
  rw [member?_eq_some_iff.mpr ⟨members, rfl, found⟩] at listed
  cases listed
  obtain ⟨inside, rfl⟩ := List.getElem?_eq_some_iff.mp at'
  have inside' : position < call.commands.length := each.length_eq ▸ inside
  obtain ⟨kept, same, absent⟩ :=
    Command.exists_fallback_of_hasUnknownName (each.get inside inside') unknown
  exact fun known => known kept (same ▸ List.get_mem _ _) absent

/-- All names that the strict policy accepts are names of the table. -/
theorem namesKnown_of_strict (h : (validate .strict raw).outcome = .ok call) : call.NamesKnown := by
  obtain ⟨members, raws, rfl, listed, each⟩ := validate_eq_ok_iff.mp h
  intro kept mem
  obtain ⟨command, accepted⟩ := exists_of_forall₂ each _ mem
  exact Command.ofName?_name_ne_none_of_strict accepted

theorem validate_strict_of_permissive (h : (validate .permissive raw).outcome = .ok call) :
    (call.NamesKnown → (validate .strict raw).outcome = .ok call) ∧
      (¬ call.NamesKnown → ∃ position name, StopsAtName raw position name) := by
  cases strict : (validate .strict raw).outcome with
  | ok call' =>
    have same := validate_permissive_of_strict strict
    rw [h] at same
    cases same
    exact ⟨fun _ => rfl, fun unknown => absurd (namesKnown_of_strict strict) unknown⟩
  | error e =>
    obtain refused | ⟨position, name, stops, -⟩ := validate_strict_eq_error strict
    · rw [h] at refused
      cases refused
    · exact ⟨fun known => absurd known (not_namesKnown h stops.unknown),
        fun _ => ⟨position, name, stops⟩⟩

/-- **The policies are related by unknown names alone.** What the strict policy accepts is accepted
as the same call. An accepted call is accepted by the strict policy if all its names are known, and
otherwise refused for the first name that is not. A refused call is refused for the same fault, or
for its first unknown name, which does not stand behind that fault. A name with a wrong number is
refused in the same way by both. -/
theorem validate_strict_permissive (raw : Json) :
    (∀ call, (validate .strict raw).outcome = .ok call →
      (validate .permissive raw).outcome = .ok call) ∧
    (∀ call, (validate .permissive raw).outcome = .ok call →
      (call.NamesKnown → (validate .strict raw).outcome = .ok call) ∧
      (¬ call.NamesKnown → ∃ position name, StopsAtName raw position name)) ∧
    (∀ e, (validate .permissive raw).outcome = .error e →
      (validate .strict raw).outcome = .error e ∨
      ∃ position name later path, StopsAtName raw position name ∧
        e.path = .key "commands" :: .index later :: path ∧ position ≤ later) ∧
    (∀ e, (validate .strict raw).outcome = .error e → e.kind = .tagOpcodeInconsistency →
      (validate .permissive raw).outcome = .error e) := by
  refine ⟨fun _ => validate_permissive_of_strict, fun _ => validate_strict_of_permissive,
    fun e permissive => ?_, fun e strict kind => ?_⟩
  · cases strict : (validate .strict raw).outcome with
    | ok call =>
      rw [validate_permissive_of_strict strict] at permissive
      cases permissive
    | error e' =>
      obtain same | ⟨position, name, stops, further⟩ := validate_strict_eq_error strict
      · exact .inl (same.symm.trans permissive)
      · obtain ⟨later, path, blamed, le⟩ := further e permissive
        exact .inr ⟨position, name, later, path, stops, blamed, le⟩
  · obtain same | ⟨position, name, stops, -⟩ := validate_strict_eq_error strict
    · exact same
    · -- the refusal of a name is a shape fault
      rw [stops.rejection] at strict
      cases strict
      cases kind

theorem validate_strict_permissive_sample :
    (validate .permissive sampleRaw).outcome = .ok sampleCall ∧
      ∃ position name, StopsAtName sampleRaw position name := by
  have accepted : (validate .permissive sampleRaw).outcome = .ok sampleCall := rfl
  refine ⟨accepted, ((validate_strict_permissive sampleRaw).2.1 _ accepted).2 fun known => ?_⟩
  have last : .fallback ⟨"NEW_COMMAND", 33, [.payerIsUser false]⟩ ∈ sampleCall.commands :=
    .tail _ (.tail _ (.head _))
  exact known _ last rfl

end Call

end RouterCall
