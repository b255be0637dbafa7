import RouterCall.Proofs.Spelling
import Mathlib.Data.List.Nodup
import Mathlib.Data.String.Basic

/-!
# Values as they are read back

A text shows the members of an object in some order, and a value that is read from one has them by
increasing key. Writing a value and reading the text back therefore gives the value with its objects
put in order, `Json.settled`, and nothing else happens to it. What the reader itself has made is in
order already and stays as it is.

Two things can keep a value from being read back at all: an integer past 64 bits, and containers
nested too deep. `Json.Fits` excludes both, and it holds of everything that has been read.

## Main definitions

* `Json.depth`: how many containers are open at once
* `Json.Fits`: a value that can be written and read back
* `Json.settled`, `Json.IsSettled`: members by increasing key

## Main results

* `Json.readChars_of_spells`: what any spelling of a value is read as
* `Document.fits_of_resolve`: what has been read can be written, and is in order
-/

namespace RouterCall

namespace Json

/-! ### Members by increasing key -/

/-- Members are listed by increasing key; in particular no key is repeated. -/
def Increasing (members : List (String × Json)) : Prop :=
  members.Pairwise fun member member' => member.1 < member'.1

theorem increasing_iff_keys {members : List (String × Json)} :
    Increasing members ↔ (members.map Prod.fst).Pairwise (· < ·) :=
  List.pairwise_map.symm

/-- Setting a member changes the value of its key only. -/
theorem lookup_setMember (key : String) (value : Json) (members : List (String × Json))
    (wanted : String) :
    (setMember key value members).lookup wanted =
      if wanted = key then some value else members.lookup wanted := by
  induction members with
  | nil =>
    rw [setMember, List.lookup_cons]
    cases found : wanted == key <;> simp_all
  | cons member members ih =>
    obtain ⟨k, v⟩ := member
    rw [setMember]
    split
    · rw [List.lookup_cons]
      cases found : wanted == key <;> simp_all
    · split
      · next same =>
        subst same
        simp only [List.lookup_cons]
        cases found : wanted == key <;> simp_all
      · next other =>
        simp only [List.lookup_cons]
        cases found : wanted == k with
        | false => exact ih
        | true =>
          rw [eq_of_beq found, if_neg (Ne.symm other)]

theorem mem_setMember {key : String} {value : Json} {member : String × Json}
    {members : List (String × Json)} (h : member ∈ setMember key value members) :
    member = (key, value) ∨ member ∈ members := by
  induction members with
  | nil => exact .inl (List.mem_singleton.mp h)
  | cons head members ih =>
    rw [setMember] at h
    split at h
    · exact List.mem_cons.mp h
    · split at h
      · exact (List.mem_cons.mp h).imp_right (List.mem_cons_of_mem _)
      · obtain rfl | h := List.mem_cons.mp h
        · exact .inr List.mem_cons_self
        · exact (ih h).imp_right (List.mem_cons_of_mem _)

theorem increasing_setMember (key : String) (value : Json) {members : List (String × Json)}
    (h : Increasing members) : Increasing (setMember key value members) := by
  induction members with
  | nil => exact List.pairwise_singleton _ _
  | cons head members ih =>
    obtain ⟨above, rest⟩ := List.pairwise_cons.mp h
    rw [setMember]
    split
    · next below =>
      refine h.cons fun member mem => ?_
      obtain rfl | mem := List.mem_cons.mp mem
      · exact below
      · exact lt_trans below (above member mem)
    · next notBelow =>
      split
      · next same =>
        subst same
        exact rest.cons above
      · next other =>
        refine (ih rest).cons fun member mem => ?_
        obtain rfl | mem := mem_setMember mem
        · exact lt_of_le_of_ne (not_lt.mp notBelow) (Ne.symm other)
        · exact above member mem

/-- A member with the largest key comes last. -/
theorem setMember_of_lt {key : String} {value : Json} {members : List (String × Json)}
    (h : ∀ member ∈ members, member.1 < key) :
    setMember key value members = members ++ [(key, value)] := by
  induction members with
  | nil => rfl
  | cons head members ih =>
    obtain ⟨below, rest⟩ := List.forall_mem_cons.mp h
    rw [setMember, if_neg (lt_asymm below), if_neg (ne_of_gt below), ih rest]
    rfl

theorem settleMembers_concat (members : List (String × Json)) (member : String × Json) :
    settleMembers (members ++ [member]) =
      setMember member.1 member.2 (settleMembers members) := by
  simp [settleMembers]

theorem increasing_settleMembers (members : List (String × Json)) :
    Increasing (settleMembers members) := by
  induction members using List.reverseRecOn with
  | nil => exact List.Pairwise.nil
  | append_singleton members member ih =>
    rw [settleMembers_concat]
    exact increasing_setMember _ _ ih

theorem mem_of_mem_settleMembers {member : String × Json} {members : List (String × Json)}
    (h : member ∈ settleMembers members) : member ∈ members := by
  induction members using List.reverseRecOn with
  | nil => exact h
  | append_singleton members last ih =>
    rw [settleMembers_concat] at h
    obtain rfl | h := mem_setMember h
    · simp
    · exact List.mem_append_left _ (ih h)

theorem settleMembers_of_increasing {members : List (String × Json)} (h : Increasing members) :
    settleMembers members = members := by
  induction members using List.reverseRecOn with
  | nil => rfl
  | append_singleton members last ih =>
    obtain ⟨before, -, below⟩ := List.pairwise_append.mp h
    rw [settleMembers_concat, ih before,
      setMember_of_lt fun member mem => below member mem last List.mem_cons_self]

/-- Putting members in order does not change their values, when no key is repeated. -/
theorem lookup_settleMembers {members : List (String × Json)}
    (distinct : (members.map Prod.fst).Nodup) (wanted : String) :
    (settleMembers members).lookup wanted = members.lookup wanted := by
  induction members using List.reverseRecOn with
  | nil => rfl
  | append_singleton members last ih =>
    obtain ⟨key, value⟩ := last
    rw [List.map_append, List.nodup_append] at distinct
    obtain ⟨before, -, apart⟩ := distinct
    rw [settleMembers_concat, lookup_setMember, ih before, List.lookup_append]
    split
    · next same =>
      subst same
      have absent : members.lookup wanted = none := by
        rw [List.lookup_eq_none_iff]
        intro member mem
        have := apart member.1 (List.mem_map_of_mem mem) wanted (by simp)
        simpa using Ne.symm this
      simp [absent]
    · next other => simp [List.lookup_cons, beq_false_of_ne other]

/-! ### Values in order -/

mutual

/-- A value with the members of its objects by increasing key. -/
def settled : Json → Json
  | .array items => .array (settledItems items)
  | .object members => .object (settleMembers (settledMembers members))
  | .null => .null
  | .bool b => .bool b
  | .number n => .number n
  | .string s => .string s

/-- The items of an array in order inside. -/
def settledItems : List Json → List Json
  | [] => []
  | item :: items => item.settled :: settledItems items

/-- The members of an object in order inside. -/
def settledMembers : List (String × Json) → List (String × Json)
  | [] => []
  | (key, value) :: members => (key, value.settled) :: settledMembers members

end

theorem settledItems_eq (items : List Json) : settledItems items = items.map settled := by
  induction items with
  | nil => rfl
  | cons item items ih => rw [settledItems, ih, List.map_cons]

theorem settledMembers_eq (members : List (String × Json)) :
    settledMembers members = members.map fun member => (member.1, member.2.settled) := by
  induction members with
  | nil => rfl
  | cons member members ih => rw [settledMembers, ih, List.map_cons]

theorem keys_settledMembers (members : List (String × Json)) :
    (settledMembers members).map Prod.fst = members.map Prod.fst := by
  rw [settledMembers_eq, List.map_map]
  rfl

/-- The objects of a value have their members by increasing key. -/
inductive IsSettled : Json → Prop
  | null : IsSettled .null
  | bool (b : Bool) : IsSettled (.bool b)
  | number (n : Number) : IsSettled (.number n)
  | string (s : String) : IsSettled (.string s)
  | array {items : List Json} (each : ∀ item ∈ items, IsSettled item) : IsSettled (.array items)
  | object {members : List (String × Json)} (increasing : Increasing members)
      (each : ∀ member ∈ members, IsSettled member.2) : IsSettled (.object members)

/-- A value in order is left alone. -/
theorem IsSettled.settled_eq {value : Json} (h : value.IsSettled) : value.settled = value := by
  induction h with
  | null | bool | number | string => rfl
  | @array items _ ih =>
    rw [settled, settledItems_eq, List.map_congr_left ih, List.map_id']
  | @object members increasing _ ih =>
    have same : settledMembers members = members := by
      rw [settledMembers_eq]
      calc members.map (fun member => (member.1, member.2.settled)) = members.map id :=
            List.map_congr_left fun member mem => Prod.ext rfl (ih member mem)
        _ = members := List.map_id members
    rw [settled, same, settleMembers_of_increasing increasing]

/-! ### Values that can be read back -/

mutual

/-- How many containers of a value are open at once. -/
def depth : Json → ℕ
  | .array items => depthItems items + 1
  | .object members => depthMembers members + 1
  | _ => 0

/-- How many containers of the items of an array are open at once. -/
def depthItems : List Json → ℕ
  | [] => 0
  | item :: items => max item.depth (depthItems items)

/-- How many containers of the members of an object are open at once. -/
def depthMembers : List (String × Json) → ℕ
  | [] => 0
  | (_, value) :: members => max value.depth (depthMembers members)

end

/-- A value can be read back with so many containers allowed to open: they are enough for it, and
its numbers are numbers of JSON. -/
inductive Fits : ℕ → Json → Prop
  | null {depth : ℕ} : Fits depth .null
  | bool {depth : ℕ} (b : Bool) : Fits depth (.bool b)
  | number {depth : ℕ} {n : Number} (writable : n.IsWritable) : Fits depth (.number n)
  | string {depth : ℕ} (s : String) : Fits depth (.string s)
  | array {depth : ℕ} {items : List Json} (each : ∀ item ∈ items, Fits depth item) :
      Fits (depth + 1) (.array items)
  | object {depth : ℕ} {members : List (String × Json)}
      (each : ∀ member ∈ members, Fits depth member.2) : Fits (depth + 1) (.object members)

theorem depthItems_le_iff {items : List Json} {n : ℕ} :
    depthItems items ≤ n ↔ ∀ item ∈ items, item.depth ≤ n := by
  induction items with
  | nil => simp [depthItems]
  | cons item items ih => simp [depthItems, ih]

theorem depthMembers_le_iff {members : List (String × Json)} {n : ℕ} :
    depthMembers members ≤ n ↔ ∀ member ∈ members, member.2.depth ≤ n := by
  induction members with
  | nil => simp [depthMembers]
  | cons member members ih => simp [depthMembers, ih]

theorem Fits.depth_le {n : ℕ} {value : Json} (h : value.Fits n) : value.depth ≤ n := by
  induction h with
  | null | bool | number | string => exact Nat.zero_le _
  | array _ ih => exact Nat.succ_le_succ (depthItems_le_iff.mpr ih)
  | object _ ih => exact Nat.succ_le_succ (depthMembers_le_iff.mpr ih)

/-- A value that can be read back needs its own depth only. -/
theorem Fits.of_depth_le {n m : ℕ} {value : Json} (h : value.Fits n) (enough : value.depth ≤ m) :
    value.Fits m := by
  induction h generalizing m with
  | null => exact .null
  | bool b => exact .bool b
  | number writable => exact .number writable
  | string s => exact .string s
  | array _ ih =>
    obtain ⟨m, rfl⟩ := Nat.exists_eq_add_of_le' (Nat.le_of_add_left_le enough)
    exact .array fun item mem =>
      ih item mem (depthItems_le_iff.mp (Nat.le_of_succ_le_succ enough) item mem)
  | object _ ih =>
    obtain ⟨m, rfl⟩ := Nat.exists_eq_add_of_le' (Nat.le_of_add_left_le enough)
    exact .object fun member mem =>
      ih member mem (depthMembers_le_iff.mp (Nat.le_of_succ_le_succ enough) member mem)

end Json

/-! ### From documents to values -/

namespace Number

/-- A number that is read is one of JSON. -/
theorem isWritable_of_ofNumeral? {literal : Numeral} {n : Number}
    (h : ofNumeral? literal = some n) :
    n.IsWritable := by
  rw [ofNumeral?] at h
  by_cases whole : literal.isInteger ∧
      IsWord (if literal.negative then -literal.digitValue else literal.digitValue) ∧
      ¬ (literal.negative ∧ literal.digitValue = 0)
  · rw [if_pos whole] at h
    cases h
    exact whole.2.1
  · rw [if_neg whole] at h
    obtain ⟨x, -, rfl⟩ := Option.map_eq_some_iff.mp h
    trivial

end Number

namespace Document

open Json (documentItems documentMembers settledItems settledMembers)

theorem resolveItems_documentItems {n : ℕ} {items : List Json}
    (each : ∀ item ∈ items, resolve n item.document = some item.settled) :
    resolveItems n (documentItems items) = some (settledItems items) := by
  induction items with
  | nil => rfl
  | cons item items ih =>
    obtain ⟨head, rest⟩ := List.forall_mem_cons.mp each
    rw [documentItems, resolveItems, head, ih rest]
    rfl

theorem resolveMembers_documentMembers {n : ℕ} {members : List (String × Json)}
    (each : ∀ member ∈ members, resolve n member.2.document = some member.2.settled) :
    resolveMembers n (documentMembers members) = some (settledMembers members) := by
  induction members with
  | nil => rfl
  | cons member members ih =>
    obtain ⟨head, rest⟩ := List.forall_mem_cons.mp each
    rw [documentMembers, resolveMembers, head, ih rest]
    rfl

/-- **The document of a value denotes that value in order.** -/
theorem resolve_document {n : ℕ} {value : Json} (h : value.Fits n) :
    resolve n value.document = some value.settled := by
  induction h with
  | null | bool | string => rfl
  | @number n _ writable =>
    rw [Json.document, resolve, Number.ofNumeral?_numeral writable]
    rfl
  | array _ ih =>
    rw [Json.document, resolve, resolveItems_documentItems ih]
    rfl
  | object _ ih =>
    rw [Json.document, resolve, resolveMembers_documentMembers ih]
    rfl

mutual

/-- **What has been read can be written and read back, and is in order.** -/
theorem fits_of_resolve : ∀ (document : Document) {n : ℕ} {value : Json},
    resolve n document = some value → value.Fits n ∧ value.IsSettled
  | .null, _, _, h => by
    cases h
    exact ⟨.null, .null⟩
  | .bool b, _, _, h => by
    cases h
    exact ⟨.bool b, .bool b⟩
  | .number literal, _, _, h => by
    rw [resolve] at h
    obtain ⟨x, found, rfl⟩ := Option.map_eq_some_iff.mp h
    exact ⟨.number (Number.isWritable_of_ofNumeral? found), .number x⟩
  | .string literal, _, _, h => by
    rw [resolve] at h
    obtain ⟨s, -, rfl⟩ := Option.map_eq_some_iff.mp h
    exact ⟨.string s, .string s⟩
  | .array items, 0, _, h => by
    rw [resolve] at h
    cases h
  | .array items, n + 1, _, h => by
    rw [resolve] at h
    obtain ⟨values, found, rfl⟩ := Option.map_eq_some_iff.mp h
    have each := fits_of_resolveItems items found
    exact ⟨.array fun value mem => (each value mem).1, .array fun value mem => (each value mem).2⟩
  | .object members, 0, _, h => by
    rw [resolve] at h
    cases h
  | .object members, n + 1, _, h => by
    rw [resolve] at h
    obtain ⟨written, found, rfl⟩ := Option.map_eq_some_iff.mp h
    have each := fits_of_resolveMembers members found
    exact ⟨.object fun member mem => (each member (Json.mem_of_mem_settleMembers mem)).1,
      .object (Json.increasing_settleMembers written) fun member mem =>
        (each member (Json.mem_of_mem_settleMembers mem)).2⟩

theorem fits_of_resolveItems : ∀ (items : List Document) {n : ℕ} {values : List Json},
    resolveItems n items = some values → ∀ value ∈ values, value.Fits n ∧ value.IsSettled
  | [], _, _, h => by
    cases h
    exact List.forall_mem_nil _
  | item :: items, _, _, h => by
    rw [resolveItems] at h
    obtain ⟨value, head, h⟩ := Option.bind_eq_some_iff.mp h
    obtain ⟨values, rest, h⟩ := Option.bind_eq_some_iff.mp h
    cases h
    exact List.forall_mem_cons.mpr ⟨fits_of_resolve item head, fits_of_resolveItems items rest⟩

theorem fits_of_resolveMembers : ∀ (members : List (Option String × Document)) {n : ℕ}
    {written : List (String × Json)}, resolveMembers n members = some written →
      ∀ member ∈ written, member.2.Fits n ∧ member.2.IsSettled
  | [], _, _, h => by
    cases h
    exact List.forall_mem_nil _
  | (_, item) :: members, _, _, h => by
    rw [resolveMembers] at h
    obtain ⟨key, -, h⟩ := Option.bind_eq_some_iff.mp h
    obtain ⟨value, head, h⟩ := Option.bind_eq_some_iff.mp h
    obtain ⟨written, rest, h⟩ := Option.bind_eq_some_iff.mp h
    cases h
    exact List.forall_mem_cons.mpr ⟨fits_of_resolve item head, fits_of_resolveMembers members rest⟩

end

end Document

namespace Json

/-- **Any spelling of a value is read as that value in order.** -/
theorem readChars_of_spells {value : Json} (fits : value.Fits maxDepth) {cs gap : List Char}
    (spelled : value.Spells cs) (blank : IsGap gap) :
    readChars (cs ++ gap) = some value.settled := by
  rw [readChars, Document.readChars_of_spells spelled blank]
  exact Document.resolve_document fits

theorem read_compact {value : Json} (fits : value.Fits maxDepth) :
    read value.compact = some value.settled := by
  have := readChars_of_spells fits (spells_compactChars value) isGap_nil
  rwa [List.append_nil, ← @String.toList_ofList value.compactChars] at this

theorem read_pretty {value : Json} (fits : value.Fits maxDepth) :
    read value.pretty = some value.settled := by
  have := readChars_of_spells fits (spells_prettyChars value 0) isGap_nil
  rwa [List.append_nil, ← @String.toList_ofList (value.prettyChars 0)] at this

/-- What a text is read as fits, and is in order. -/
theorem fits_of_read {text : String} {value : Json} (h : read text = some value) :
    value.Fits maxDepth ∧ value.IsSettled := by
  obtain ⟨document, -, resolved⟩ := Option.bind_eq_some_iff.mp h
  exact Document.fits_of_resolve document resolved

end Json

end RouterCall
