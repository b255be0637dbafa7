import RouterCall.Proofs.Call
import RouterCall.Swap

/-!
# Which role a parameter plays

Whether a parameter is the amount that a swap spends, or the bound on what it receives, is asked of
typed parameters. The answer for an opaque one is not its name: its name and value go through the
registry once more, and only what the registry makes an amount of that role plays the role. So the
question about a typed parameter is the same as writing the parameter out and reading it back.

Reading back may fail. An opaque parameter with the name of a role and a value that is no amount is
refused by the registry, and then it stays what it was and plays no role. A validation never makes
such a parameter, nor any other opaque one that would play a role.

## Main results

* `Parameter.classify_toJson_cases`: what a parameter that is written out is read back as
* `Parameter.roleAmount?_eq_some_iff`: the amount of a parameter in a role is the registry's
* `Parameter.hasRole_iff_registry`: roles, for every parameter and for those of accepted calls
-/

namespace RouterCall

namespace Parameter

/-! ### Opaque parameters asked again -/

/-- The registry gets to see the name and the value of a parameter that is written out. -/
theorem classify_toJson (p : Parameter) : classify p.toJson = ofNamed p.name p.value := rfl

/-- A parameter that is not opaque is read back as it is. -/
theorem classify_toJson_of_not_isFallback {p : Parameter} (h : p.isFallback = false) :
    classify p.toJson = .ok p := by
  refine registry.classify_toJson_iff.mpr ?_
  rintro name value rfl
  cases h

theorem resolve_of_not_isFallback {p : Parameter} (h : p.isFallback = false) : p.resolve = p := by
  cases p with
  | fallback name value => cases h
  | _ => rfl

/-- **A parameter that is written out is read back as what it resolves to**, or it is an opaque one
that the registry refuses, which resolves to itself. -/
theorem classify_toJson_cases (p : Parameter) :
    classify p.toJson = .ok p.resolve ∨
      ∃ e, classify p.toJson = .error e ∧ p.isFallback = true ∧ p.resolve = p := by
  cases kept : p.isFallback with
  | false =>
    rw [resolve_of_not_isFallback kept]
    exact .inl (classify_toJson_of_not_isFallback kept)
  | true =>
    cases p with
    | fallback name value =>
      rw [classify_toJson, resolve, Parameter.name, Parameter.value]
      cases ofNamed name value with
      | ok q => exact .inl rfl
      | error e => exact .inr ⟨e, rfl, rfl, rfl⟩
    | _ => cases kept

theorem resolve_eq_of_classify_toJson {p q : Parameter} (h : classify p.toJson = .ok q) :
    p.resolve = q := by
  obtain read | ⟨e, refused, -, -⟩ := classify_toJson_cases p
  · exact Except.ok.inj (read.symm.trans h)
  · rw [refused] at h
    cases h

theorem amountOf?_eq_some_iff {p : Parameter} {role : AmountRole} {quantity : Amount} :
    p.amountOf? role = some quantity ↔ p = .amount role quantity := by
  cases p <;> simp [amountOf?]

/-- **The amount of a parameter in a role is the one that the registry reads.** -/
theorem roleAmount?_eq_some_iff {p : Parameter} {role : AmountRole} {quantity : Amount} :
    p.roleAmount? role = some quantity ↔ classify p.toJson = .ok (.amount role quantity) := by
  rw [roleAmount?, amountOf?_eq_some_iff]
  constructor
  · intro resolved
    obtain read | ⟨-, -, kept, same⟩ := classify_toJson_cases p
    · rw [read, resolved]
    · -- an opaque parameter that resolves to itself is no amount
      rw [← same, resolved] at kept
      cases kept
  · exact resolve_eq_of_classify_toJson

theorem hasRole_eq_true_iff {p : Parameter} {role : AmountRole} :
    p.hasRole role = true ↔ ∃ quantity, classify p.toJson = .ok (.amount role quantity) := by
  rw [hasRole, Option.isSome_iff_exists]
  simp only [roleAmount?_eq_some_iff]

/-! ### Roles and names -/

/-- A parameter keeps its name when it is written out and read back. -/
theorem name_eq_of_classify_toJson {p q : Parameter} (h : classify p.toJson = .ok q) :
    q.name = p.name := by
  rw [classify_toJson, ofNamed_eq_arm, under_eq_ok_iff, map_eq_ok_iff] at h
  obtain ⟨b, -, rfl⟩ := h
  exact name_arm_make p.name b

theorem name_of_hasRole {p : Parameter} {role : AmountRole} (h : p.hasRole role = true) :
    p.name = role.name := by
  obtain ⟨quantity, read⟩ := hasRole_eq_true_iff.mp h
  exact (name_eq_of_classify_toJson read).symm

theorem name_mem_modeledNames (role : AmountRole) : role.name ∈ Wire.modeledNames := by
  cases role <;> decide

/-- An opaque parameter that the reader can make plays no role. -/
theorem hasRole_of_isProper {p : Parameter} (proper : p.IsProper) (kept : p.isFallback = true)
    (role : AmountRole) : p.hasRole role = false := by
  refine Bool.eq_false_iff.mpr fun plays => ?_
  cases p with
  | fallback name value =>
    have named : name = role.name := name_of_hasRole plays
    exact proper name value rfl (named ▸ name_mem_modeledNames role)
  | _ => cases kept

end Parameter

/-- Every parameter of an accepted call is one that the reader can make. -/
theorem Call.isProper_of_validate {policy : Policy} {raw : Json} {call : Call}
    (h : (validate policy raw).outcome = .ok call) :
    ∀ command ∈ call.commands, command.IsProper := by
  intro command mem
  obtain ⟨members, raws, -, -, each⟩ := validate_eq_ok_iff.mp h
  obtain ⟨raw, read⟩ := exists_of_forall₂ each command mem
  obtain ⟨params, -, -, reads⟩ := Command.classify_eq_ok_iff.mp read
  exact reads.isProper

namespace Parameter

/-- **A parameter plays a role exactly when the registry makes an amount of that role of what it is
written as**, opaque or not, and whatever its name and value. So it plays one role at most, and its
name is the name of that role. An opaque parameter of an accepted call plays none. -/
theorem hasRole_iff_registry :
    (∀ (role : AmountRole) (p : Parameter),
      p.hasRole role = true ↔ ∃ quantity, classify p.toJson = .ok (.amount role quantity)) ∧
    (∀ (p : Parameter) (role role' : AmountRole),
      p.hasRole role = true → p.hasRole role' = true → role = role') ∧
    (∀ (p : Parameter) (role : AmountRole), p.hasRole role = true → p.name = role.name) ∧
    (∀ policy raw call, (Call.validate policy raw).outcome = .ok call →
      ∀ command ∈ call.commands, ∀ params, command.params? = some params →
        ∀ p ∈ params, p.isFallback = true → ∀ role : AmountRole, p.hasRole role = false) := by
  refine ⟨fun role p => hasRole_eq_true_iff, fun p role role' plays plays' => ?_,
    fun p role => name_of_hasRole, fun policy raw call h command mem params held p inside => ?_⟩
  · have same : role.name = role'.name :=
      (name_of_hasRole plays).symm.trans (name_of_hasRole plays')
    rw [← Option.some_inj, ← AmountRole.ofName?_name role, same, AmountRole.ofName?_name]
  · exact hasRole_of_isProper (Call.isProper_of_validate h command mem params held p inside)

/-- An amount in disguise plays its role, and the opaque parameter of the sample call plays none. -/
theorem hasRole_iff_registry_sample :
    (fallback "amountOut" (.string "77")).hasRole .amountOut = true ∧
      (∃ quantity, classify (fallback "amountOut" (.string "77")).toJson =
        .ok (.amount .amountOut quantity)) ∧
      (fallback "amountOut" (.string "77")).name = "amountOut" ∧
      (∀ role, (fallback "amountOut" (.string "77")).hasRole role = true → role = .amountOut) ∧
      (Call.validate .permissive Call.sampleRaw).outcome = .ok Call.sampleCall ∧
      ∀ role, (fallback "recipient" (.object [("kept", .array [.null])])).hasRole role = false := by
  obtain ⟨registry, unique, named, accepted⟩ := hasRole_iff_registry
  have disguised : (fallback "amountOut" (.string "77")).hasRole .amountOut = true := by
    decide +kernel
  have validated : (Call.validate .permissive Call.sampleRaw).outcome = .ok Call.sampleCall := rfl
  refine ⟨disguised, (registry _ _).mp disguised, named _ _ disguised,
    fun role plays => unique _ _ _ plays disguised, validated, ?_⟩
  exact accepted _ _ _ validated _ List.mem_cons_self _ rfl _ (by simp) rfl

end Parameter

end RouterCall
