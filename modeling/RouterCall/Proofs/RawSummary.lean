import RouterCall.Proofs.FaultKind
import RouterCall.Proofs.Summary
import RouterCall.Proofs.Swap

/-!
# Summaries of raw calls

The summary of an accepted call can be read off the raw call, by names alone. A command counts as a
swap for its name, and everything else counts as opaque: what the table has besides the swaps, and
what the permissive policy adds. A parameter counts as opaque for its name too, in whatever command
it stands, since opaque commands have their parameters read like the classic swaps.

The versioned swap is the exception. Its parameters are of another union, which has no opaque ones,
so `Wire.classicParams` leaves them out, also when one has a name that is not modeled.

The comparison is made command by command and summed up along the call: a summary is additive in the
commands, on the typed side (`CallSummary.counts_append`) as on the raw one.

## Main definitions

* `Wire.HasSwapName`, `Wire.HasModeledName`, `Wire.classicParams`: what is counted
* `CallSummary.rawCounts`: the summary of raw commands

## Main results

* `CallSummary.ofCommand_eq_rawCounts`: the summary of one command
* `CallSummary.counts_eq_rawCounts`: the summary of all commands of an accepted call
* `Call.summary_counts_raw_and_adds`: what the summary of an accepted call is, and of one call after
  another
-/

namespace RouterCall

/-! ### Names on the wire -/

namespace Wire

/-- The text that a raw value has under a key. -/
def text? (raw : Json) (key : String) : Option String := raw.member? key >>= Json.asString?

theorem text?_of_member? {raw : Json} {key text : String}
    (h : raw.member? key = some (.string text)) : text? raw key = some text := by
  rw [text?, h]
  rfl

/-- A raw command has the name of a swap. -/
def HasSwapName (raw : Json) : Prop := ∃ name ∈ swapNames, text? raw "commandName" = some name

instance (raw : Json) : Decidable (HasSwapName raw) := inferInstanceAs (Decidable (∃ _ ∈ _, _))

/-- A raw parameter has the name of a modeled one. -/
def HasModeledName (raw : Json) : Prop := ∃ name ∈ modeledNames, text? raw "name" = some name

instance (raw : Json) : Decidable (HasModeledName raw) := inferInstanceAs (Decidable (∃ _ ∈ _, _))

/-- The raw parameters of a raw command, and none of the versioned swap. -/
def classicParams (raw : Json) : List Json :=
  if text? raw "commandName" = some "V4_SWAP" then []
  else (raw.member? "params" >>= Json.asArray?).getD []

end Wire

open Wire (HasSwapName HasModeledName classicParams)

/-! ### One command -/

namespace Parameter

/-- Raw parameters become opaque ones where their names are not modeled. -/
theorem countP_isFallback_of_readsAll {raws : List Json} {params : List Parameter}
    (each : registry.ReadsAll raws params) :
    params.countP isFallback = raws.countP fun raw => ¬ HasModeledName raw := by
  induction each with
  | nil => rfl
  | @cons raw param raws params read _ ih =>
    obtain ⟨members, _, _, _, rfl, found, -⟩ := registry.classify_eq_ok_iff.mp read
    have named : (Json.object members).member? "name" = some (.string (registry.name param)) :=
      found
    have kept : param.isFallback = decide ¬ HasModeledName (.object members) := by
      rw [Bool.eq_iff_iff, isFallback_iff_of_classify read named, decide_eq_true_iff,
        HasModeledName, Wire.text?_of_member? named]
      simp
    rw [List.countP_cons, List.countP_cons, ih, kept]

end Parameter

namespace Command

variable {policy : Policy} {raw : Json} {command : Command}

theorem isSwap_iff_hasSwapName (h : (classify policy raw).outcome = .ok command) :
    command.isSwap = true ↔ HasSwapName raw := by
  rw [isSwap_of_classify h, CommandName.any_isSwap_iff, HasSwapName,
    Wire.text?_of_member? (member_of_classify h)]
  simp

/-- The opaque parameters of a command are those with names that are not modeled. -/
theorem countP_isFallback_of_classify (h : (classify policy raw).outcome = .ok command) :
    (command.params?.getD []).countP Parameter.isFallback =
      (classicParams raw).countP fun param => ¬ HasModeledName param := by
  obtain ⟨raws, header, admissible, reads⟩ := classify_eq_ok_iff.mp h
  obtain ⟨named, -, -, listed⟩ := check_eq_ok_iff_hasHeader.mp header
  rw [classicParams, Wire.text?_of_member? named, listed]
  cases reads with
  | classic held each =>
    have other : some command.name ≠ some "V4_SWAP" := fun same =>
      admissible.name_ne_of_params? held (Option.some.inj same)
    rw [if_neg other, held]
    exact Parameter.countP_isFallback_of_readsAll each
  | versioned held _ =>
    obtain rfl := v4Params?_eq_some_iff.mp held
    rfl

end Command

/-! ### All commands -/

namespace CallSummary

/-- How many raw commands there are, how many of them have the name of a swap, how many have not,
and how many raw parameters outside the versioned swap have a name that is not modeled. -/
def rawCounts (raws : List Json) : CallSummary where
  commands := raws.length
  swapCommands := raws.countP fun raw => HasSwapName raw
  fallbackCommands := raws.countP fun raw => ¬ HasSwapName raw
  fallbackParams := (raws.flatMap classicParams).countP fun param => ¬ HasModeledName param

theorem rawCounts_append (raws raws' : List Json) :
    rawCounts (raws ++ raws') = rawCounts raws + rawCounts raws' := by
  simp only [rawCounts, add_def, List.length_append, List.countP_append, List.flatMap_append]

/-- **The summary of one command is that of its raw command.** -/
theorem ofCommand_eq_rawCounts {policy : Policy} {raw : Json} {command : Command}
    (h : (Command.classify policy raw).outcome = .ok command) :
    ofCommand command = rawCounts [raw] := by
  have swap : command.isSwap = decide (HasSwapName raw) :=
    Bool.eq_iff_iff.mpr ((Command.isSwap_iff_hasSwapName h).trans decide_eq_true_iff.symm)
  have kept : command.isFallback = decide ¬ HasSwapName raw := by
    rw [decide_not, ← swap, Command.isSwap_eq_not_isFallback, Bool.not_not]
  rw [ofCommand, rawCounts, Command.countP_isFallback_of_classify h, swap, kept,
    List.countP_singleton, List.countP_singleton, List.flatMap_singleton, List.length_singleton]

/-- **The summary of the commands of an accepted call is that of its raw commands.** -/
theorem counts_eq_rawCounts {policy : Policy} {raws : List Json} {commands : List Command}
    (each : List.Forall₂ (fun raw command => (Command.classify policy raw).outcome = .ok command)
      raws commands) : counts commands = rawCounts raws := by
  induction each with
  | nil => rfl
  | @cons raw command raws commands read _ ih =>
    rw [counts_cons, ih, ofCommand_eq_rawCounts read, ← rawCounts_append, List.singleton_append]

/-- A raw command has the name of a swap or it has not. -/
theorem rawCounts_swapCommands_add (raws : List Json) :
    (rawCounts raws).swapCommands + (rawCounts raws).fallbackCommands = raws.length := by
  rw [List.length_eq_countP_add_countP fun raw => decide (HasSwapName raw)]
  simp only [rawCounts, decide_eq_true_eq]

/-- Nothing is opaque when all commands are swaps and their classic parameters are modeled. -/
theorem hasUnsupportedParts_rawCounts (raws : List Json) :
    (rawCounts raws).hasUnsupportedParts = false ↔
      (∀ raw ∈ raws, HasSwapName raw) ∧
        ∀ raw ∈ raws, ∀ param ∈ classicParams raw, HasModeledName param := by
  simp only [hasUnsupportedParts, rawCounts, Bool.or_eq_false_iff, decide_eq_false_iff_not,
    gt_iff_lt, Nat.pos_iff_ne_zero, not_not, List.countP_eq_zero, decide_eq_true_iff,
    List.mem_flatMap, forall_exists_index, and_imp]
  refine and_congr_right fun _ => ?_
  constructor
  · intro each raw mem param listed
    exact each param raw mem listed
  · intro each param raw mem listed
    exact each raw mem param listed

end CallSummary

namespace Call

/-- The summary of one call after another is the sum of their summaries. -/
theorem summary_append (a b : Call) :
    summary ⟨a.commands ++ b.commands⟩ = a.summary + b.summary := by
  simp only [summary_eq_counts, CallSummary.counts_append]

/-- **What the summary of an accepted call is, and of one call after another.** Whatever the policy,
it counts the raw commands, those that have the name of a swap and those that have not, and the raw
parameters outside the versioned swap whose names are not modeled. Nothing is unsupported exactly
when every raw command has the name of a swap and every classic parameter a modeled one. The summary
of two calls put together is the sum of theirs, field by field. -/
theorem summary_counts_raw_and_adds :
    (∀ policy raw call, (validate policy raw).outcome = .ok call →
      ∃ raws, raw.member? "commands" = some (.array raws) ∧
        call.summary.commands = raws.length ∧
        call.summary.swapCommands = raws.countP (fun raw => HasSwapName raw) ∧
        call.summary.fallbackCommands = raws.countP (fun raw => ¬ HasSwapName raw) ∧
        call.summary.swapCommands + call.summary.fallbackCommands = call.summary.commands ∧
        call.summary.fallbackParams =
          (raws.flatMap classicParams).countP (fun param => ¬ HasModeledName param) ∧
        (call.summary.hasUnsupportedParts = false ↔
          (∀ raw ∈ raws, HasSwapName raw) ∧
            ∀ raw ∈ raws, ∀ param ∈ classicParams raw, HasModeledName param)) ∧
    ∀ a b : Call, summary ⟨a.commands ++ b.commands⟩ =
      ⟨a.summary.commands + b.summary.commands, a.summary.swapCommands + b.summary.swapCommands,
        a.summary.fallbackCommands + b.summary.fallbackCommands,
        a.summary.fallbackParams + b.summary.fallbackParams⟩ := by
  refine ⟨?accepted, summary_append⟩
  case accepted =>
    intro policy raw call h
    obtain ⟨members, raws, rfl, listed, each⟩ := validate_eq_ok_iff.mp h
    have summary : call.summary = CallSummary.rawCounts raws :=
      call.summary_eq_counts.trans (CallSummary.counts_eq_rawCounts each)
    rw [summary]
    exact ⟨raws, listed, rfl, rfl, rfl, CallSummary.rawCounts_swapCommands_add raws, rfl,
      CallSummary.hasUnsupportedParts_rawCounts raws⟩

theorem summary_counts_raw_and_adds_sample :
    (validate .permissive sampleRaw).outcome = .ok sampleCall ∧
      sampleCall.summary = ⟨3, 2, 1, 1⟩ ∧
      ∃ raws, sampleRaw.member? "commands" = some (.array raws) ∧
        raws.countP (fun raw => HasSwapName raw) = 2 ∧
        (raws.flatMap classicParams).countP (fun param => ¬ HasModeledName param) = 1 := by
  have accepted : (validate .permissive sampleRaw).outcome = .ok sampleCall := rfl
  obtain ⟨raws, listed, -, swaps, -, -, params, -⟩ :=
    summary_counts_raw_and_adds.1 .permissive sampleRaw sampleCall accepted
  exact ⟨accepted, rfl, raws, listed, swaps.symm, params.symm⟩

end Call

end RouterCall
