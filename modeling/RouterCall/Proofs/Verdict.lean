import RouterCall.Proofs.Codec

/-!
# Verdicts

The verdict of a check is whether it succeeds and, if it does not, the rejection: what is left of
the check when the typed result is thrown away. Two checks that differ in what they build have the
same verdict when they ask the same questions in the same order, so statements about rejections are
made about verdicts.

A traversal of a list ends at the first item that is refused. `FirstFault` says which one that is:
the item stands at the position, it is refused, and all items before it are accepted. Nothing is
said about the items behind it, which is why they cannot matter.

## Main definitions

* `Checked.verdict`: a check without its result
* `FirstFault`: the first item of a list that is refused

## Main results

* `eachItem_eq_error_iff`: a traversal is refused exactly for its first fault
* `field_eq_error_iff`: a key is refused for being absent or for its value
* `verdict_eachItem`: the verdict on a list depends on the verdicts on its items only
-/

namespace RouterCall

/-! ### Sequences of checks -/

section Checks

variable {ε α β : Type}

theorem bind_eq_error_iff {first : Except ε α} {next : α → Except ε β} {e : ε} :
    (first >>= next) = .error e ↔
      first = .error e ∨ ∃ a, first = .ok a ∧ next a = .error e := by
  cases first with
  | error e' =>
    constructor
    · exact fun h => .inl (congrArg _ (Except.error.inj h))
    · rintro (same | ⟨_, absurd, _⟩)
      · exact congrArg _ (Except.error.inj same)
      · cases absurd
  | ok a =>
    constructor
    · exact fun h => .inr ⟨a, rfl, h⟩
    · rintro (absurd | ⟨_, same, h⟩)
      · cases absurd
      · cases same
        exact h

theorem map_eq_error_iff {f : α → β} {checked : Except ε α} {e : ε} :
    (f <$> checked) = .error e ↔ checked = .error e := by
  cases checked with
  | error e' =>
    exact ⟨fun h => congrArg _ (Except.error.inj h), fun h => congrArg _ (Except.error.inj h)⟩
  | ok a => exact ⟨nofun, nofun⟩

end Checks

section Verdicts

variable {α β : Type}

/-- A check without its result. -/
def Checked.verdict (checked : Checked α) : Checked Unit := (fun _ => ()) <$> checked

theorem verdict_eq_ok_iff {checked : Checked α} :
    checked.verdict = .ok () ↔ ∃ a, checked = .ok a := by
  rw [Checked.verdict, map_eq_ok_iff]
  exact ⟨fun ⟨a, accepted, _⟩ => ⟨a, accepted⟩, fun ⟨a, accepted⟩ => ⟨a, accepted, rfl⟩⟩

theorem verdict_eq_error_iff {checked : Checked α} {e : Rejection} :
    checked.verdict = .error e ↔ checked = .error e :=
  map_eq_error_iff

@[simp] theorem verdict_map (f : α → β) (checked : Checked α) :
    Checked.verdict (f <$> checked) = checked.verdict := by
  cases checked <;> rfl

theorem verdict_bind (first : Checked α) (next : α → Checked β) :
    Checked.verdict (first >>= next) = first >>= fun a => (next a).verdict := by
  cases first <;> rfl

@[simp] theorem verdict_under (checked : Checked α) (outer : FieldPath) :
    (checked.under outer).verdict = checked.verdict.under outer := by
  cases checked <;> rfl

/-- A check whose result is not used may as well have none. -/
theorem verdict_bind_const (first : Checked α) (next : Checked β) :
    (first.verdict >>= fun _ => next) = first >>= fun _ => next := by
  cases first <;> rfl

theorem under_eq_error_iff {checked : Checked α} {outer : FieldPath} {e : Rejection} :
    checked.under outer = .error e ↔ ∃ inner, checked = .error inner ∧ e = inner.under outer := by
  cases checked with
  | error inner =>
    constructor
    · exact fun h => ⟨inner, rfl, (Except.error.inj h).symm⟩
    · rintro ⟨_, same, rfl⟩
      cases same
      rfl
  | ok a => exact ⟨nofun, nofun⟩

/-- **A key is refused for being absent or for its value.** -/
theorem field_eq_error_iff {members : Members} {key : String} {read : Json → Checked α}
    {e : Rejection} :
    field members key read = .error e ↔
      (members.lookup key = none ∧ e = .value [.key key] (.missing "required field")) ∨
      ∃ value inner, members.lookup key = some value ∧ read value = .error inner ∧
        e = inner.under [.key key] := by
  rw [field, under_eq_error_iff]
  cases members.lookup key with
  | none =>
    constructor
    · rintro ⟨_, same, rfl⟩
      cases same
      exact .inl ⟨rfl, rfl⟩
    · rintro (⟨-, rfl⟩ | ⟨_, _, absurd, _⟩)
      · exact ⟨_, rfl, rfl⟩
      · cases absurd
  | some value =>
    constructor
    · rintro ⟨inner, refused, rfl⟩
      exact .inr ⟨value, inner, rfl, refused, rfl⟩
    · rintro (⟨absurd, -⟩ | ⟨_, inner, same, refused, rfl⟩)
      · cases absurd
      · cases same
        exact ⟨inner, refused, rfl⟩

theorem path_of_field {members : Members} {key : String} {read : Json → Checked α} {e : Rejection}
    (h : field members key read = .error e) : ∃ path, e.path = .key key :: path := by
  obtain ⟨-, rfl⟩ | ⟨_, inner, -, -, rfl⟩ := field_eq_error_iff.mp h
  · exact ⟨[], rfl⟩
  · exact ⟨inner.path, rfl⟩

theorem array_eq_error_iff {value : Json} {e : Rejection} :
    Field.array value = .error e ↔
      value.asArray? = none ∧ e = .value [] (.expected "array" value.kind) := by
  rw [Field.array]
  cases value.asArray? with
  | none => exact ⟨fun h => ⟨rfl, (Except.error.inj h).symm⟩, fun h => h.2 ▸ rfl⟩
  | some items => simp

theorem object_eq_error_iff {value : Json} {e : Rejection} :
    Field.object value = .error e ↔
      value.asObject? = none ∧ e = .value [] (.expected "object" value.kind) := by
  rw [Field.object]
  cases value.asObject? with
  | none => exact ⟨fun h => ⟨rfl, (Except.error.inj h).symm⟩, fun h => h.2 ▸ rfl⟩
  | some members => simp

theorem member?_eq_some_iff {value found : Json} {key : String} :
    value.member? key = some found ↔
      ∃ members, value = .object members ∧ members.lookup key = some found := by
  simp only [Json.member?, Option.bind_eq_some_iff, Json.asObject?_eq_some_iff]

/-! ### First faults -/

/-- The first item of a list that is refused. -/
structure FirstFault (read : Json → Checked α) (items : List Json) (position : ℕ) (item : Json)
    (inner : Rejection) : Prop where
  found : items[position]? = some item
  refused : read item = .error inner
  earlier : ∀ other ∈ items.take position, ∃ a, read other = .ok a

namespace FirstFault

variable {read : Json → Checked α} {items : List Json} {position : ℕ} {item : Json}
  {inner : Rejection}

theorem lt_length (h : FirstFault read items position item inner) : position < items.length :=
  (List.getElem?_eq_some_iff.mp h.found).1

theorem accepted_of_lt (h : FirstFault read items position item inner) {before : ℕ} {other : Json}
    (lt : before < position) (found : items[before]? = some other) : ∃ a, read other = .ok a :=
  h.earlier other (List.mem_of_getElem? (by rw [List.getElem?_take_of_lt lt, found]))

/-- The items behind the first fault do not matter. -/
theorem of_take (h : FirstFault read items position item inner) {items' : List Json}
    (same : items'.take (position + 1) = items.take (position + 1)) :
    FirstFault read items' position item inner where
  found := by
    rw [← h.found, ← List.getElem?_take_of_lt (Nat.lt_succ_self position), same,
      List.getElem?_take_of_lt (Nat.lt_succ_self position)]
  refused := h.refused
  earlier := by
    have shorter := congrArg (List.take position) same
    rw [List.take_take, List.take_take, Nat.min_eq_left (Nat.le_succ position)] at shorter
    rw [shorter]
    exact h.earlier

/-- The items behind the first fault may be replaced. -/
theorem append (h : FirstFault read items position item inner) (others : List Json) :
    FirstFault read (items.take (position + 1) ++ others) position item inner := by
  refine h.of_take ?_
  have whole : (items.take (position + 1)).length = position + 1 :=
    List.length_take_of_le h.lt_length
  rw [List.take_append_of_le_length whole.ge, List.take_take, Nat.min_self]

/-- The item at fault may be replaced by one that is refused as well. -/
theorem modify (h : FirstFault read items position item inner) {f : Json → Json}
    {inner' : Rejection} (refused : read (f item) = .error inner') :
    FirstFault read (items.modify position f) position (f item) inner' where
  found := by rw [List.getElem?_modify_eq, h.found]; rfl
  refused := refused
  earlier := by
    have before : (items.take position).length ≤ position := List.length_take_le _ _
    rw [List.take_modify, List.modify_eq_self before]
    exact h.earlier

end FirstFault

theorem firstFault_zero_iff {read : Json → Checked α} {head item : Json} {items : List Json}
    {inner : Rejection} :
    FirstFault read (head :: items) 0 item inner ↔ head = item ∧ read item = .error inner :=
  ⟨fun h => ⟨Option.some.inj h.found, h.refused⟩, fun h => ⟨congrArg some h.1, h.2, nofun⟩⟩

theorem firstFault_succ_iff {read : Json → Checked α} {head item : Json} {items : List Json}
    {position : ℕ} {inner : Rejection} :
    FirstFault read (head :: items) (position + 1) item inner ↔
      (∃ a, read head = .ok a) ∧ FirstFault read items position item inner := by
  constructor
  · rintro ⟨found, refused, earlier⟩
    rw [List.take_succ_cons, List.forall_mem_cons] at earlier
    exact ⟨earlier.1, found, refused, earlier.2⟩
  · rintro ⟨accepted, found, refused, earlier⟩
    refine ⟨found, refused, ?_⟩
    rw [List.take_succ_cons, List.forall_mem_cons]
    exact ⟨accepted, earlier⟩

/-- **A traversal is refused exactly for its first fault.** -/
theorem eachItem_eq_error_iff {read : Json → Checked α} {items : List Json} {e : Rejection} :
    eachItem read items = .error e ↔ ∃ position item inner,
      FirstFault read items position item inner ∧ e = inner.under [.index position] := by
  -- the induction is on the items, from any first position
  suffices ∀ start, eachItemFrom read start items = .error e ↔ ∃ position item inner,
      FirstFault read items position item inner ∧ e = inner.under [.index (start + position)] by
    simpa only [eachItem, Nat.zero_add] using this 0
  induction items with
  | nil =>
    refine fun start => ⟨nofun, ?_⟩
    rintro ⟨_, _, _, fault, -⟩
    exact absurd fault.lt_length (Nat.not_lt_zero _)
  | cons head items ih =>
    intro start
    simp only [eachItemFrom_cons, bind_eq_error_iff, under_eq_error_iff, under_eq_ok_iff, ih]
    constructor
    · rintro (⟨inner, refused, rfl⟩ | ⟨a, accepted, rest⟩)
      · exact ⟨0, head, inner, firstFault_zero_iff.mpr ⟨rfl, refused⟩, rfl⟩
      · obtain ⟨position, item, inner, fault, rfl⟩ | ⟨_, _, absurd⟩ := rest
        · refine ⟨position + 1, item, inner, firstFault_succ_iff.mpr ⟨⟨a, accepted⟩, fault⟩, ?_⟩
          rw [Nat.add_assoc, Nat.add_comm 1]
        · cases absurd
    · rintro ⟨position, item, inner, fault, rfl⟩
      cases position with
      | zero =>
        obtain ⟨rfl, refused⟩ := firstFault_zero_iff.mp fault
        exact .inl ⟨inner, refused, rfl⟩
      | succ position =>
        obtain ⟨⟨a, accepted⟩, fault⟩ := firstFault_succ_iff.mp fault
        refine .inr ⟨a, accepted, .inl ⟨position, item, inner, fault, ?_⟩⟩
        rw [Nat.add_assoc, Nat.add_comm 1]

theorem exists_eachItem_eq_ok_iff {read : Json → Checked α} {items : List Json} :
    (∃ as, eachItem read items = .ok as) ↔ ∀ item ∈ items, ∃ a, read item = .ok a := by
  simp only [eachItem_eq_ok_iff_forall₂, exists_forall₂_iff]

/-- Reads the items of a value that must be an array. -/
def readArray (read : Json → Checked α) (value : Json) : Checked (List α) := do
  eachItem read (← Field.array value)

theorem readArray_eq_error {read : Json → Checked α} {value : Json} {e : Rejection}
    (h : readArray read value = .error e) : e.path = [] ∨ ∃ items position item inner,
      value = .array items ∧ FirstFault read items position item inner ∧
        e = inner.under [.index position] := by
  obtain refused | ⟨items, found, refused⟩ := bind_eq_error_iff.mp h
  · obtain ⟨-, rfl⟩ := array_eq_error_iff.mp refused
    exact .inl rfl
  · obtain rfl := array_eq_ok_iff.mp found
    obtain ⟨position, item, inner, fault, rfl⟩ := eachItem_eq_error_iff.mp refused
    exact .inr ⟨items, position, item, inner, rfl, fault, rfl⟩

/-- **The verdict on a list depends on the verdicts on its items only.** -/
theorem verdict_eachItem (read : Json → Checked α) (items : List Json) :
    (eachItem read items).verdict = (eachItem (fun item => (read item).verdict) items).verdict := by
  suffices ∀ start, (eachItemFrom read start items).verdict =
      (eachItemFrom (fun item => (read item).verdict) start items).verdict from this 0
  induction items with
  | nil => exact fun _ => rfl
  | cons item items ih =>
    intro start
    simp only [eachItemFrom_cons, verdict_bind, bind_pure_comp, verdict_map]
    rw [ih, ← verdict_under, verdict_bind_const]

end Verdicts

end RouterCall
