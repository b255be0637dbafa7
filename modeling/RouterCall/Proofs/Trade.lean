import RouterCall.Proofs.Role
import RouterCall.Proofs.Swap

/-!
# What a swap trades

The two amounts of a swap are looked up, and what they are looked up in may hold anything: a classic
swap made by hand can have an amount in disguise, one that is no amount at all, the same role twice,
or neither role. The rule is that parameters are taken in order and the first one that states an
amount in the role counts. A versioned swap goes by its first step, which stands in the first
parameter that has a step.

Both rules are stated on the typed command alone. `Parameter.States` says of a parameter which
amount it states, with an opaque one held to the grammar of amounts, and `V4.Parameter.Opens` says
of a versioned parameter which trade its first step is.

Writing a swap out turns disguised amounts into amounts. That changes the command, and it does not
change what the command trades.

## Main definitions

* `Parameter.States`, `FirstAmount`: an amount in a role, and the first one in a list
* `V4.Parameter.stepCount`, `V4.Parameter.Opens`: the steps of a parameter, and the first of them

## Main results

* `findAmount_eq_iff`: the amount that is found is the first one
* `Command.swapAmounts?_of_reread`: a swap that is read back trades the same
* `Command.swapAmounts_first_stated_and_reread`: the amounts of every command
-/

namespace RouterCall

/-! ### Classic swaps -/

/-- A parameter states an amount in a role: as a typed amount, or as an opaque parameter with the
name of the role and an encoding of the amount. -/
inductive Parameter.States (role : AmountRole) : Parameter → Amount → Prop
  | typed (quantity : Amount) : States role (.amount role quantity) quantity
  | disguised {value : Json} {quantity : Amount} (encodes : Amount.Encodes value quantity.value) :
      States role (.fallback role.name value) quantity

/-- The amount of the first of some parameters that states one in a role. The parameters before it
may have the name of the role, and those behind it may state another amount. -/
inductive FirstAmount (role : AmountRole) (params : List Parameter) : Option Amount → Prop
  | absent (silent : ∀ p ∈ params, ∀ quantity, ¬ p.States role quantity) :
      FirstAmount role params none
  | found {before after : List Parameter} {p : Parameter} {quantity : Amount}
      (place : params = before ++ p :: after)
      (silent : ∀ q ∈ before, ∀ quantity, ¬ q.States role quantity)
      (states : p.States role quantity) : FirstAmount role params (some quantity)

namespace Parameter

theorem ofNamed_role (role : AmountRole) (value : Json) :
    ofNamed role.name value =
      Checked.under (.amount role <$> Field.amount value) [.key "value"] := by
  rw [ofNamed, AmountRole.ofName?_name]

theorem states_iff {p : Parameter} {role : AmountRole} {quantity : Amount} :
    p.States role quantity ↔ p.roleAmount? role = some quantity := by
  rw [roleAmount?_eq_some_iff]
  constructor
  · intro states
    cases states with
    | typed => exact classify_toJson_of_not_isFallback rfl
    | @disguised value _ encodes =>
      rw [classify_toJson, name, Parameter.value, ofNamed_role, under_eq_ok_iff, map_eq_ok_iff]
      exact ⟨quantity, amount_eq_ok_iff.mpr encodes, rfl⟩
  · intro read
    cases p with
    | fallback key value =>
      obtain rfl : role.name = key := name_eq_of_classify_toJson read
      rw [classify_toJson, name, Parameter.value, ofNamed_role, under_eq_ok_iff,
        map_eq_ok_iff] at read
      obtain ⟨_, encodes, same⟩ := read
      cases same
      exact .disguised (amount_eq_ok_iff.mp encodes)
    | amount found quantity' =>
      rw [classify_toJson_of_not_isFallback rfl] at read
      cases read
      exact .typed quantity
    | _ =>
      rw [classify_toJson_of_not_isFallback rfl] at read
      cases read

theorem roleAmount?_eq_none_iff {p : Parameter} {role : AmountRole} :
    p.roleAmount? role = none ↔ ∀ quantity, ¬ p.States role quantity := by
  simp only [Option.eq_none_iff_forall_ne_some, states_iff, ne_eq]

end Parameter

/-- **The amount that is found is the first one.** -/
theorem findAmount_eq_iff {role : AmountRole} {params : List Parameter} {amount? : Option Amount} :
    findAmount role params = amount? ↔ FirstAmount role params amount? := by
  rw [findAmount]
  constructor
  · rintro rfl
    cases first : params.findSome? (Parameter.roleAmount? role) with
    | none =>
      refine .absent fun p mem => Parameter.roleAmount?_eq_none_iff.mp ?_
      exact List.findSome?_eq_none_iff.mp first p mem
    | some quantity =>
      obtain ⟨before, p, after, place, states, silent⟩ := List.findSome?_eq_some_iff.mp first
      exact .found place (fun q mem => Parameter.roleAmount?_eq_none_iff.mp (silent q mem))
        (Parameter.states_iff.mpr states)
  · intro h
    cases h with
    | absent silent =>
      refine List.findSome?_eq_none_iff.mpr fun p mem => ?_
      exact Parameter.roleAmount?_eq_none_iff.mpr (silent p mem)
    | found place silent states =>
      refine List.findSome?_eq_some_iff.mpr ⟨_, _, _, place, Parameter.states_iff.mp states, ?_⟩
      exact fun q mem => Parameter.roleAmount?_eq_none_iff.mpr (silent q mem)

/-- A malformed amount is passed over, and what comes after the first amount does not count. -/
example : findAmount .amountOut [.fallback "amountOut" (.string "7.7"),
    .fallback "amountOut" (.string "0x4d"), .amount .amountOut ⟨1⟩] = some ⟨77⟩ := rfl

/-! ### Versioned swaps -/

namespace V4.Parameter

/-- The number of steps of a parameter. -/
def stepCount : V4.Parameter → ℕ
  | .exactIn steps => steps.length
  | .exactOut steps => steps.length
  | .exactInSingle steps => steps.length
  | .exactOutSingle steps => steps.length

/-- The trade that the first step of a parameter is. -/
inductive Opens : V4.Parameter → SwapAmounts → Prop
  | exactIn (step : ExactIn) (steps : List ExactIn) : Opens (.exactIn (step :: steps))
      ⟨.exactIn, some step.amountIn, some step.amountOutMinimum⟩
  | exactOut (step : ExactOut) (steps : List ExactOut) : Opens (.exactOut (step :: steps))
      ⟨.exactOut, some step.amountInMaximum, some step.amountOut⟩
  | exactInSingle (step : ExactInSingle) (steps : List ExactInSingle) :
      Opens (.exactInSingle (step :: steps))
        ⟨.exactIn, some step.amountIn, some step.amountOutMinimum⟩
  | exactOutSingle (step : ExactOutSingle) (steps : List ExactOutSingle) :
      Opens (.exactOutSingle (step :: steps))
        ⟨.exactOut, some step.amountInMaximum, some step.amountOut⟩

/-- A parameter trades what its first step does, and nothing if it has none. -/
theorem swapAmounts?_cases (p : V4.Parameter) :
    (p.stepCount = 0 ∧ p.swapAmounts? = none) ∨
      ∃ amounts, p.Opens amounts ∧ p.stepCount ≠ 0 ∧ p.swapAmounts? = some amounts := by
  cases p with
  | exactIn steps =>
    cases steps with
    | nil => exact .inl ⟨rfl, rfl⟩
    | cons step steps => exact .inr ⟨_, .exactIn step steps, Nat.succ_ne_zero _, rfl⟩
  | exactOut steps =>
    cases steps with
    | nil => exact .inl ⟨rfl, rfl⟩
    | cons step steps => exact .inr ⟨_, .exactOut step steps, Nat.succ_ne_zero _, rfl⟩
  | exactInSingle steps =>
    cases steps with
    | nil => exact .inl ⟨rfl, rfl⟩
    | cons step steps => exact .inr ⟨_, .exactInSingle step steps, Nat.succ_ne_zero _, rfl⟩
  | exactOutSingle steps =>
    cases steps with
    | nil => exact .inl ⟨rfl, rfl⟩
    | cons step steps => exact .inr ⟨_, .exactOutSingle step steps, Nat.succ_ne_zero _, rfl⟩

theorem swapAmounts?_eq_none_iff {p : V4.Parameter} : p.swapAmounts? = none ↔ p.stepCount = 0 := by
  obtain ⟨empty, none⟩ | ⟨amounts, -, nonempty, some⟩ := p.swapAmounts?_cases
  · simp [empty, none]
  · simp [nonempty, some]

theorem swapAmounts?_eq_some_iff {p : V4.Parameter} {amounts : SwapAmounts} :
    p.swapAmounts? = some amounts ↔ p.Opens amounts := by
  constructor
  · intro found
    obtain ⟨-, none⟩ | ⟨amounts', opens, -, some⟩ := p.swapAmounts?_cases
    · rw [none] at found
      cases found
    · rw [some] at found
      cases found
      exact opens
  · intro opens
    cases opens <;> rfl

end V4.Parameter

namespace Command

theorem swapAmounts?_v4Swap_eq_none_iff {params : List V4.Parameter} :
    (Command.v4Swap params).swapAmounts? = none ↔ ∀ p ∈ params, p.stepCount = 0 := by
  rw [swapAmounts?, List.findSome?_eq_none_iff]
  simp only [V4.Parameter.swapAmounts?_eq_none_iff]

theorem swapAmounts?_v4Swap_eq_some_iff {params : List V4.Parameter} {amounts : SwapAmounts} :
    (Command.v4Swap params).swapAmounts? = some amounts ↔ ∃ before p after,
      params = before ++ p :: after ∧ p.Opens amounts ∧ ∀ q ∈ before, q.stepCount = 0 := by
  rw [swapAmounts?, List.findSome?_eq_some_iff]
  simp only [V4.Parameter.swapAmounts?_eq_none_iff, V4.Parameter.swapAmounts?_eq_some_iff]

/-! ### Swaps read back -/

/-- Parameters that are read back state the same amounts. -/
theorem findAmount_of_reread {params params' : List Parameter}
    (each : Parameter.registry.ReadsAll (params.map Parameter.toJson) params') (role : AmountRole) :
    findAmount role params' = findAmount role params := by
  rw [Registry.ReadsAll, List.forall₂_map_left_iff] at each
  rw [findAmount, findAmount]
  induction each with
  | nil => rfl
  | @cons p p' params params' read _ ih =>
    have proper : Parameter.classify p'.toJson = .ok p' :=
      Parameter.registry.classify_toJson_iff.mpr (Parameter.registry.isProper_of_classify read)
    have same : p'.roleAmount? role = p.roleAmount? role := by
      rw [Parameter.roleAmount?, Parameter.resolve_eq_of_classify_toJson proper,
        Parameter.roleAmount?, Parameter.resolve_eq_of_classify_toJson read]
    rw [List.findSome?_cons, List.findSome?_cons, same, ih]

theorem swapAmounts?_ofParams (known : CommandName) {params params' : List Parameter}
    (same : ∀ role, findAmount role params' = findAmount role params) :
    (ofParams known params').swapAmounts? = (ofParams known params).swapAmounts? := by
  cases known <;> simp [ofParams, swapAmounts?, same]

/-- Every command of an entry but the versioned swap has classic parameters. -/
theorem IsEntry.exists_params? {known : CommandName} {command : Command}
    (entry : command.IsEntry known) (other : known ≠ .v4Swap) :
    ∃ params, command.params? = some params := by
  cases command with
  | v4Swap params => exact absurd (CommandName.name_injective entry.name.symm) other
  | _ => exact ⟨_, rfl⟩

/-- **A swap that is written out and read back trades the same**, even where it does not come back
as it was. -/
theorem swapAmounts?_of_reread {policy : Policy} {command command' : Command}
    (swap : command.isFallback = false)
    (h : (classify policy command.toJson).outcome = .ok command') :
    command'.swapAmounts? = command.swapAmounts? := by
  obtain ⟨known, entry⟩ := exists_isEntry_of_isSwap (by rw [isSwap_eq_not_isFallback, swap]; rfl)
  by_cases versioned : known = .v4Swap
  · -- no versioned parameter is opaque, so the command comes back as it was
    subst versioned
    have proper : command.IsProper := fun params held => by
      rw [entry.params?_eq_none] at held
      cases held
    have again : (classify policy command.toJson).outcome = .ok command :=
      classify_toJson_iff.mpr ⟨.inl ⟨_, entry⟩, proper⟩
    rw [Except.ok.inj (h.symm.trans again)]
  · obtain ⟨raws, header, admissible, reads⟩ := classify_eq_ok_iff.mp h
    obtain ⟨named, -, rfl⟩ := Header.mk.inj (Except.ok.inj ((header_toJson _).symm.trans header))
    obtain ⟨known', entry'⟩ | ⟨-, unknown, -⟩ := admissible
    · obtain rfl : known = known' := CommandName.name_injective <| by
        rw [← entry.name, ← entry'.name, named]
      obtain ⟨params, held⟩ := entry.exists_params? versioned
      obtain ⟨params', held'⟩ := entry'.exists_params? versioned
      cases reads with
      | versioned only _ =>
        obtain rfl := v4Params?_eq_some_iff.mp only
        cases held'
      | classic same each =>
        cases held'.symm.trans same
        rw [paramsJson_of_params? held] at each
        rw [← (ofParams_eq_iff versioned).mpr ⟨entry, held⟩,
          ← (ofParams_eq_iff versioned).mpr ⟨entry', held'⟩]
        exact swapAmounts?_ofParams known (findAmount_of_reread each)
    · exact absurd (entry.name.symm.trans named) (unknown known)

/-- **The amounts of a command.** An opaque command has none. A classic swap has the direction of
its name, and on either side the first amount that its parameters state in the role for that side,
or none. A versioned swap has what the first step of all trades, and nothing exactly when there is
no step. Whatever a swap made by hand holds, it trades the same once it has been read back. -/
theorem swapAmounts_first_stated_and_reread :
    (∀ kept, (Command.fallback kept).swapAmounts? = none) ∧
    (∀ params, ∃ amountIn amountOut, FirstAmount .amountIn params amountIn ∧
      FirstAmount .amountOutMin params amountOut ∧
      (Command.v2SwapExactIn params).swapAmounts? = some ⟨.exactIn, amountIn, amountOut⟩ ∧
      (Command.v3SwapExactIn params).swapAmounts? = some ⟨.exactIn, amountIn, amountOut⟩) ∧
    (∀ params, ∃ amountIn amountOut, FirstAmount .amountInMax params amountIn ∧
      FirstAmount .amountOut params amountOut ∧
      (Command.v2SwapExactOut params).swapAmounts? = some ⟨.exactOut, amountIn, amountOut⟩ ∧
      (Command.v3SwapExactOut params).swapAmounts? = some ⟨.exactOut, amountIn, amountOut⟩) ∧
    (∀ params, (Command.v4Swap params).swapAmounts? = none ↔ ∀ p ∈ params, p.stepCount = 0) ∧
    (∀ params amounts, (Command.v4Swap params).swapAmounts? = some amounts ↔ ∃ before p after,
      params = before ++ p :: after ∧ p.Opens amounts ∧ ∀ q ∈ before, q.stepCount = 0) ∧
    (∀ policy (command command' : Command), command.isFallback = false →
      (classify policy command.toJson).outcome = .ok command' →
        command'.swapAmounts? = command.swapAmounts?) := by
  refine ⟨fun kept => rfl, fun params => ?_, fun params => ?_,
    fun params => swapAmounts?_v4Swap_eq_none_iff,
    fun params amounts => swapAmounts?_v4Swap_eq_some_iff,
    fun policy command command' => swapAmounts?_of_reread⟩
  · exact ⟨_, _, findAmount_eq_iff.mp rfl, findAmount_eq_iff.mp rfl, rfl, rfl⟩
  · exact ⟨_, _, findAmount_eq_iff.mp rfl, findAmount_eq_iff.mp rfl, rfl, rfl⟩

/-- A swap made by hand, with an amount in disguise in front of the typed one. -/
def disguisedSwap : Command := .v3SwapExactOut [
  .fallback "amountOut" (.string "0x4d"), .amount .amountOut ⟨1⟩, .fallback "note" .null]

/-- The same swap once it has been read back. -/
def undisguisedSwap : Command := .v3SwapExactOut [
  .amount .amountOut ⟨77⟩, .amount .amountOut ⟨1⟩, .fallback "note" .null]

theorem swapAmounts_first_stated_and_reread_disguised :
    disguisedSwap.isFallback = false ∧
      (classify {} disguisedSwap.toJson).outcome = .ok undisguisedSwap ∧
      undisguisedSwap.swapAmounts? = disguisedSwap.swapAmounts? ∧
      disguisedSwap.swapAmounts? = some ⟨.exactOut, none, some ⟨77⟩⟩ := by
  obtain ⟨-, -, -, -, -, reread⟩ := swapAmounts_first_stated_and_reread
  have classified : (classify {} disguisedSwap.toJson).outcome = .ok undisguisedSwap := rfl
  exact ⟨rfl, classified, reread {} disguisedSwap undisguisedSwap rfl classified, rfl⟩

end Command

end RouterCall
