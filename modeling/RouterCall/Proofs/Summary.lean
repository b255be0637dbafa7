import RouterCall.Swap

/-!
# What a summary counts

The summary of a call is kept by four counters that go up command by command. They start at nothing
and no step looks at them, so a summary is four counts over the commands, whatever their order.

## Main definitions

* `CallSummary.counts`: the four counts

## Main results

* `CallSummary.foldl_ofCommand`: counting on from any summary
* `Call.summary_eq_counts`: what the four counters end with
-/

namespace RouterCall

namespace CallSummary

theorem add_def (a b : CallSummary) :
    a + b = ⟨a.commands + b.commands, a.swapCommands + b.swapCommands,
      a.fallbackCommands + b.fallbackCommands, a.fallbackParams + b.fallbackParams⟩ := rfl

theorem empty_add (summary : CallSummary) : empty + summary = summary := by
  simp [add_def, empty]

theorem add_assoc (a b c : CallSummary) : a + b + c = a + (b + c) := by
  simp [add_def, Nat.add_assoc]

/-- How many commands there are, how many of them are swaps, how many are kept opaque, and how many
opaque parameters they have. -/
def counts (commands : List Command) : CallSummary where
  commands := commands.length
  swapCommands := commands.countP Command.isSwap
  fallbackCommands := commands.countP Command.isFallback
  fallbackParams :=
    (commands.flatMap fun command => command.params?.getD []).countP Parameter.isFallback

theorem counts_cons (command : Command) (commands : List Command) :
    counts (command :: commands) = ofCommand command + counts commands := by
  simp [counts, ofCommand, add_def, List.countP_cons, Nat.add_comm]

theorem counts_append (commands commands' : List Command) :
    counts (commands ++ commands') = counts commands + counts commands' := by
  simp only [counts, add_def, List.length_append, List.countP_append, List.flatMap_append]

/-- Counting on from a summary adds the counts of the further commands. -/
theorem foldl_ofCommand (commands : List Command) (start : CallSummary) :
    commands.foldl (fun summary command => summary + ofCommand command) start =
      start + counts commands := by
  induction commands generalizing start with
  | nil => rfl
  | cons command commands ih => rw [List.foldl_cons, ih, counts_cons, add_assoc]

end CallSummary

/-- **The summary of a call counts its commands**, those that are swaps, those that are kept opaque,
and the opaque parameters of all. -/
theorem Call.summary_eq_counts (call : Call) : call.summary = CallSummary.counts call.commands := by
  rw [summary, CallSummary.foldl_ofCommand, CallSummary.empty_add]

end RouterCall
