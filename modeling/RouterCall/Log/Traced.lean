/-!
# Computations that record events

A computation that records events on its way and may fail is its events in order, together with its
result. Events recorded before a failure stay: `Traced` is not undone by an error, which is the
point of recording them.

## Main definitions

* `Traced`: events and a result, with its `Monad` instance
* `Traced.record`, `Traced.lift`: one event; a result without events
* `Traced.each`: runs a computation on every item of a list, up to the first failure

## Main results

* `Traced.bind_of_ok`, `Traced.bind_of_error`: what a sequence comes to
* `Traced.outcome_bind`: the result of a sequence is the sequence of results
-/

namespace RouterCall

/-- The events of a computation, in order, and its result. -/
structure Traced (ι ε α : Type) where
  events : List ι
  outcome : Except ε α

namespace Traced

variable {ι ε α β : Type}

/-- A result without events. -/
def lift (outcome : Except ε α) : Traced ι ε α := ⟨[], outcome⟩

/-- One event and no result of interest. -/
def record (event : ι) : Traced ι ε Unit := ⟨[event], .ok ()⟩

/-- A failure without events. -/
def fail (error : ε) : Traced ι ε α := ⟨[], .error error⟩

/-- Runs a computation, then another on its result; a failure ends the sequence. -/
protected def bind (first : Traced ι ε α) (next : α → Traced ι ε β) : Traced ι ε β :=
  match first.outcome with
  | .error e => ⟨first.events, .error e⟩
  | .ok a => ⟨first.events ++ (next a).events, (next a).outcome⟩

instance : Monad (Traced ι ε) where
  pure a := ⟨[], .ok a⟩
  bind := Traced.bind

/-- Rewrites the failure of a computation. -/
def mapError (f : ε → ε) (run : Traced ι ε α) : Traced ι ε α :=
  ⟨run.events, run.outcome.mapError f⟩

/-- Records one more event when a computation fails. -/
def recordFailure (event : ε → ι) (run : Traced ι ε α) : Traced ι ε α :=
  match run.outcome with
  | .error e => ⟨run.events ++ [event e], .error e⟩
  | .ok _ => run

/-- Runs a computation on items numbered from `start`, up to the first failure. -/
def eachFrom (run : Nat → α → Traced ι ε β) (start : Nat) : List α → Traced ι ε (List β)
  | [] => pure []
  | a :: as => do
    let b ← run start a
    let bs ← eachFrom run (start + 1) as
    return b :: bs

/-- Runs a computation on every item with its position, up to the first failure. -/
def each (run : Nat → α → Traced ι ε β) (items : List α) : Traced ι ε (List β) :=
  eachFrom run 0 items

@[simp] theorem events_pure (a : α) : (pure a : Traced ι ε α).events = [] := rfl

@[simp] theorem outcome_pure (a : α) : (pure a : Traced ι ε α).outcome = .ok a := rfl

@[simp] theorem events_lift (outcome : Except ε α) :
    (lift outcome : Traced ι ε α).events = [] := rfl

@[simp] theorem outcome_lift (outcome : Except ε α) :
    (lift outcome : Traced ι ε α).outcome = outcome := rfl

@[simp] theorem events_record (event : ι) : (record event : Traced ι ε Unit).events = [event] := rfl

@[simp] theorem outcome_record (event : ι) :
    (record event : Traced ι ε Unit).outcome = .ok () := rfl

@[simp] theorem outcome_mapError (f : ε → ε) (run : Traced ι ε α) :
    (run.mapError f).outcome = run.outcome.mapError f := rfl

@[simp] theorem events_mapError (f : ε → ε) (run : Traced ι ε α) :
    (run.mapError f).events = run.events := rfl

/-- After a success, a sequence goes on with the result of it. -/
theorem bind_of_ok {first : Traced ι ε α} {a : α} (h : first.outcome = .ok a)
    (next : α → Traced ι ε β) :
    first >>= next = ⟨first.events ++ (next a).events, (next a).outcome⟩ := by
  show Traced.bind first next = _
  rw [Traced.bind, h]

/-- A failure ends a sequence, and leaves what was recorded before. -/
theorem bind_of_error {first : Traced ι ε α} {e : ε} (h : first.outcome = .error e)
    (next : α → Traced ι ε β) : first >>= next = ⟨first.events, .error e⟩ := by
  show Traced.bind first next = _
  rw [Traced.bind, h]

/-- The result of a sequence is the sequence of results. -/
@[simp] theorem outcome_bind (first : Traced ι ε α) (next : α → Traced ι ε β) :
    (first >>= next).outcome = first.outcome >>= fun a => (next a).outcome := by
  show (Traced.bind first next).outcome = _
  rw [Traced.bind]
  cases first.outcome <;> rfl

@[simp] theorem outcome_recordFailure (event : ε → ι) (run : Traced ι ε α) :
    (run.recordFailure event).outcome = run.outcome := by
  rw [recordFailure]
  split
  · next h => exact h.symm
  · rfl

end Traced

end RouterCall
