import RouterCall.Proofs.Call
import RouterCall.Swap

/-!
# Which commands are swaps

There are three answers to the question whether a command is a swap. A typed command has an arm of
its own or is kept opaque. The table says which of its names are swaps. And a raw command is a swap
when the strict policy recognises it as one, whatever policy its call was validated under.

The three agree on every command that a validation makes. A name of the table is treated alike by
both policies, so a swap that was recognised under one policy is recognised under the other; and
what the permissive policy adds are names outside the table, which are kept opaque.

## Main results

* `Command.rawIsSwap_iff`: which raw commands are swaps
* `Command.rawIsSwap_of_classify`, `Command.isSwap_of_classify`: the answers agree on one command
* `Call.swaps_eq_filter_rawIsSwap`: they agree on every command of a call, and so on its swaps
-/

namespace RouterCall

/-- The names of the five swaps. -/
def Wire.swapNames : List String :=
  ["V2_SWAP_EXACT_IN", "V2_SWAP_EXACT_OUT", "V3_SWAP_EXACT_IN", "V3_SWAP_EXACT_OUT", "V4_SWAP"]

namespace CommandName

theorem isSwap_iff_mem_swapNames {known : CommandName} :
    known.isSwap = true ↔ known.name ∈ Wire.swapNames := by
  cases known <;> decide

theorem name_mem_swapNames {text : String} (h : text ∈ Wire.swapNames) :
    ∃ known : CommandName, known.name = text := by
  simp only [Wire.swapNames, List.mem_cons, List.not_mem_nil, or_false] at h
  obtain rfl | rfl | rfl | rfl | rfl := h
  exacts [⟨.v2SwapExactIn, rfl⟩, ⟨.v2SwapExactOut, rfl⟩, ⟨.v3SwapExactIn, rfl⟩,
    ⟨.v3SwapExactOut, rfl⟩, ⟨.v4Swap, rfl⟩]

/-- The table has the names of the swaps, and it has them as swaps. -/
theorem any_isSwap_iff {text : String} :
    (ofName? text).any isSwap = true ↔ text ∈ Wire.swapNames := by
  constructor
  · intro h
    cases found : ofName? text with
    | none =>
      rw [found] at h
      cases h
    | some known =>
      rw [found] at h
      rw [← name_of_ofName? found]
      exact isSwap_iff_mem_swapNames.mp h
  · intro mem
    obtain ⟨known, rfl⟩ := name_mem_swapNames mem
    rw [ofName?_name]
    exact isSwap_iff_mem_swapNames.mpr mem

end CommandName

namespace Command

/-- Every command but an opaque one is a swap. -/
theorem isSwap_eq_not_isFallback (command : Command) : command.isSwap = !command.isFallback := by
  cases command <;> rfl

theorem exists_isEntry_of_isSwap {command : Command} (h : command.isSwap = true) :
    ∃ known, command.IsEntry known := by
  obtain entry | ⟨kept, rfl⟩ := command.exists_isEntry_or_fallback
  · exact entry
  · cases h

/-- An admissible command is a swap when its name is that of a swap. -/
theorem IsAdmissible.isSwap_eq {policy : Policy} {command : Command}
    (h : command.IsAdmissible policy) :
    command.isSwap = (CommandName.ofName? command.name).any CommandName.isSwap := by
  obtain ⟨known, entry⟩ | ⟨-, unknown, -⟩ := h
  · rw [entry.name, CommandName.ofName?_name, entry.isSwap]
    rfl
  · rw [CommandName.ofName?_eq_none_iff.mpr unknown]
    refine Bool.eq_false_iff.mpr fun swap => ?_
    obtain ⟨known, entry⟩ := exists_isEntry_of_isSwap swap
    exact unknown known entry.name.symm

/-- A recognised command is a swap when its declared name is that of a swap. -/
theorem isSwap_of_classify {policy : Policy} {raw : Json} {command : Command}
    (h : (classify policy raw).outcome = .ok command) :
    command.isSwap = (CommandName.ofName? command.name).any CommandName.isSwap := by
  obtain ⟨raws, -, admissible, -⟩ := classify_eq_ok_iff.mp h
  exact admissible.isSwap_eq

/-- A swap is recognised under every policy. -/
theorem classify_of_isSwap {policy : Policy} {raw : Json} {command : Command}
    (h : (classify policy raw).outcome = .ok command) (swap : command.isSwap = true)
    (other : Policy) : (classify other raw).outcome = .ok command := by
  obtain ⟨raws, header, -, reads⟩ := classify_eq_ok_iff.mp h
  exact classify_eq_ok_iff.mpr ⟨raws, header, .inl (exists_isEntry_of_isSwap swap), reads⟩

theorem rawIsSwap_eq_true_iff {raw : Json} :
    rawIsSwap raw = true ↔
      ∃ command, (classify {} raw).outcome = .ok command ∧ command.isSwap = true := by
  rw [rawIsSwap]
  cases (classify {} raw).outcome <;> simp

/-- **A raw command is a swap when it is recognised under the strict policy and has the name of a
swap.** -/
theorem rawIsSwap_iff {raw : Json} :
    rawIsSwap raw = true ↔ (∃ command, (classify {} raw).outcome = .ok command) ∧
      ∃ name ∈ Wire.swapNames, raw.member? "commandName" = some (.string name) := by
  rw [rawIsSwap_eq_true_iff]
  constructor
  · rintro ⟨command, read, swap⟩
    rw [isSwap_of_classify read, CommandName.any_isSwap_iff] at swap
    exact ⟨⟨command, read⟩, command.name, swap, member_of_classify read⟩
  · rintro ⟨⟨command, read⟩, name, mem, named⟩
    obtain rfl : command.name = name := by
      simpa [member_of_classify read] using named
    exact ⟨command, read, by rw [isSwap_of_classify read, CommandName.any_isSwap_iff.mpr mem]⟩

/-- **The raw and the typed command agree, whatever the policy of the call.** -/
theorem rawIsSwap_of_classify {policy : Policy} {raw : Json} {command : Command}
    (h : (classify policy raw).outcome = .ok command) : rawIsSwap raw = command.isSwap := by
  rw [Bool.eq_iff_iff, rawIsSwap_eq_true_iff]
  constructor
  · rintro ⟨strict, read, swap⟩
    have same : strict.name = command.name := by
      simpa [member_of_classify h] using (member_of_classify read).symm
    rwa [isSwap_of_classify h, ← same, ← isSwap_of_classify read]
  · exact fun swap => ⟨command, classify_of_isSwap h swap {}, swap⟩

end Command

namespace Call

/-- The swaps of a call, picked by its raw commands. -/
theorem filter_isSwap_eq {policy : Policy} {raws : List Json} {commands : List Command}
    (each : List.Forall₂ (fun raw command => (Command.classify policy raw).outcome = .ok command)
      raws commands) :
    commands.filter Command.isSwap =
      ((raws.zip commands).filter fun pair => Command.rawIsSwap pair.1).map Prod.snd := by
  induction each with
  | nil => rfl
  | @cons raw command raws commands read _ ih =>
    rw [List.filter_cons, List.zip_cons_cons, List.filter_cons, ih,
      Command.rawIsSwap_of_classify read]
    split <;> rfl

/-- **The swaps of a call are its commands whose raw ones are swaps.** A raw command is a swap when
the strict policy recognises it and its name is one of the five. On the commands of an accepted
call, whatever its policy, the typed command, the raw one, the table and the absence of an arm give
one answer, and the swaps of the call are the commands with that answer, in order. An opaque command
is never a swap. -/
theorem swaps_eq_filter_rawIsSwap :
    (∀ raw, Command.rawIsSwap raw = true ↔
      (∃ command, (Command.classify {} raw).outcome = .ok command) ∧
        ∃ name ∈ Wire.swapNames, raw.member? "commandName" = some (.string name)) ∧
    (∀ policy raw call, (validate policy raw).outcome = .ok call →
      ∃ raws, raw.member? "commands" = some (.array raws) ∧
        raws.length = call.commands.length ∧
        (∀ (i : ℕ) (inRaw : i < raws.length) (inCall : i < call.commands.length),
          call.commands[i].isSwap = Command.rawIsSwap raws[i] ∧
          (∃ name, raws[i].member? "commandName" = some (.string name) ∧
            call.commands[i].isSwap = (CommandName.ofName? name).any CommandName.isSwap) ∧
          call.commands[i].isSwap = !call.commands[i].isFallback) ∧
        call.swaps =
          ((raws.zip call.commands).filter fun pair => Command.rawIsSwap pair.1).map Prod.snd) ∧
    (∀ kept, (Command.fallback kept).isSwap = false ∧
      ∀ call : Call, .fallback kept ∉ call.swaps) := by
  refine ⟨fun raw => Command.rawIsSwap_iff, ?accepted, ?handmade⟩
  case accepted =>
    intro policy raw call h
    obtain ⟨members, raws, rfl, listed, each⟩ := validate_eq_ok_iff.mp h
    refine ⟨raws, listed, each.length_eq, fun i inRaw inCall => ?_, filter_isSwap_eq each⟩
    have read : (Command.classify policy raws[i]).outcome = .ok call.commands[i] :=
      each.get inRaw inCall
    exact ⟨(Command.rawIsSwap_of_classify read).symm,
      ⟨_, Command.member_of_classify read, Command.isSwap_of_classify read⟩,
      Command.isSwap_eq_not_isFallback _⟩
  case handmade =>
    intro kept
    refine ⟨rfl, fun call mem => ?_⟩
    cases (List.mem_filter.mp mem).2

theorem swaps_eq_filter_rawIsSwap_sample :
    (validate .permissive sampleRaw).outcome = .ok sampleCall ∧
      sampleCall.swaps = sampleCall.commands.take 2 ∧
      ∃ raws, sampleRaw.member? "commands" = some (.array raws) ∧ raws.length = 3 ∧
        sampleCall.swaps =
          ((raws.zip sampleCall.commands).filter fun pair => Command.rawIsSwap pair.1).map
            Prod.snd := by
  have accepted : (validate .permissive sampleRaw).outcome = .ok sampleCall := rfl
  obtain ⟨raws, listed, length, -, swaps⟩ :=
    swaps_eq_filter_rawIsSwap.2.1 .permissive sampleRaw sampleCall accepted
  exact ⟨accepted, rfl, raws, listed, length, swaps⟩

end Call

end RouterCall
