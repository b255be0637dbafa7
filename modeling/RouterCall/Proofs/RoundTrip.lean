import RouterCall.Proofs.Call
import RouterCall.Proofs.Settled
import RouterCall.Proofs.Unmodeled

/-!
# Calls as texts

An accepted call can be written as a text, in either layout, and the text is accepted again as the
same call. The value of a call is laid out in the order of its fields and read back with its keys in
order, so what is validated the second time is not the value that was written. The two differ in
ways that the grammar does not mention: no reader asks for the position of a key, and the parts
whose inside no reader looks into, the values of opaque parameters, were in order when they were
read the first time.

Writing never opens more containers than the text has had, because every container of the written
value is one of the raw value. So the limit on open containers cannot get in the way.

## Main definitions

* `Schema.Distinct`: no object of a shape names a key twice

## Main results

* `Schema.Projects.fits`, `Schema.Projects.agrees_settled`: what a value is written as is no deeper
  than the value, and putting it in order goes unseen
* `Call.validateText_written`: a call that was read from a text can be written as a text
-/

namespace RouterCall

open Json (Fits IsSettled Increasing settleMembers settledItems settledMembers)

/-! ### Values -/

theorem exists_of_forall₂_of_forall {α β : Type} {relation : α → β → Prop} {holds : α → Prop}
    {as : List α} {bs : List β} (each : List.Forall₂ relation as bs) (all : ∀ a ∈ as, holds a) :
    ∀ b ∈ bs, ∃ a, holds a ∧ relation a b :=
  exists_of_forall₂ ((List.forall₂_and_left as bs).mpr ⟨all, each⟩)

namespace Schema

mutual

/-- No object of a shape names a key twice. -/
def Distinct : Schema → Prop
  | .list item => item.Distinct
  | .object fields => (fields.map Prod.fst).Nodup ∧ DistinctAll fields
  | _ => True

/-- No object inside the fields of a shape names a key twice. -/
def DistinctAll : List (String × Schema) → Prop
  | [] => True
  | (_, schema) :: fields => schema.Distinct ∧ DistinctAll fields

end

mutual

/-- **What a value is written as can be read back where the value can.** -/
theorem Projects.fits : ∀ {schema : Schema} {raw out : Json} {n : ℕ},
    schema.Projects raw out → raw.Fits n → out.Fits n
  | .amount, _, _, _, ⟨_, numeral, _, _, rfl⟩, _ => .string numeral
  | .list item, _, _, _, ⟨raws, outs, rfl, rfl, each⟩, .array fits => by
    refine .array fun out mem => ?_
    obtain ⟨raw, fits, projects⟩ := exists_of_forall₂_of_forall each fits out mem
    exact Projects.fits projects fits
  | .object fields, _, _, _, ⟨_, _, rfl, rfl, all⟩, .object fits =>
    .object (ProjectAll.fits all fits)
  | .anything, _, _, _, rfl, fits | .text, _, _, _, rfl, fits | .hex, _, _, _, rfl, fits
  | .boolean, _, _, _, rfl, fits | .integer, _, _, _, rfl, fits
  | .feeTier, _, _, _, rfl, fits | .constant _, _, _, _, rfl, fits => fits

theorem ProjectAll.fits : ∀ {fields : List (String × Schema)} {members kept : Members} {n : ℕ},
    ProjectAll fields members kept → (∀ member ∈ members, member.2.Fits n) →
      ∀ member ∈ kept, member.2.Fits n
  | [], _, _, _, rfl, _ => List.forall_mem_nil _
  | (_, _) :: _, _, _, _, ⟨_, _, _, found, projects, rest, rfl⟩, fits =>
    List.forall_mem_cons.mpr ⟨Projects.fits projects (fits _ (mem_of_lookup found)),
      ProjectAll.fits rest fits⟩

end

theorem ProjectAll.keys {fields : List (String × Schema)} {members kept : Members}
    (h : ProjectAll fields members kept) : kept.map Prod.fst = fields.map Prod.fst := by
  induction fields generalizing kept with
  | nil =>
    cases h
    rfl
  | cons entry fields ih =>
    obtain ⟨_, _, _, _, _, rest, rfl⟩ := h
    rw [List.map_cons, List.map_cons, ih rest]

/-- One more member under a key of its own. -/
theorem agreeAll_cons {fields : List (String × Schema)} {members members' : Members} {key : String}
    {schema : Schema} {value value' : Json} (absent : key ∉ fields.map Prod.fst)
    (head : schema.Agrees value value') (rest : AgreeAll fields members members') :
    AgreeAll ((key, schema) :: fields) ((key, value) :: members) ((key, value') :: members') := by
  refine ⟨?_, agreeAll_iff.mpr fun entry mem => ?_⟩
  · simpa using Option.Rel.some head
  · have other : (entry.1 == key) = false :=
      beq_false_of_ne fun same => absent (same ▸ List.mem_map_of_mem mem)
    simpa only [List.lookup_cons, other] using agreeAll_iff.mp rest entry mem

/-- Where no key is repeated the order of members does not matter. -/
theorem AgreeAll.settleMembers {fields : List (String × Schema)} {members members' : Members}
    (distinct : (members'.map Prod.fst).Nodup) (h : AgreeAll fields members members') :
    AgreeAll fields members (settleMembers members') := by
  rw [agreeAll_iff] at h ⊢
  intro entry mem
  rw [Json.lookup_settleMembers distinct]
  exact h entry mem

mutual

/-- **Putting in order what a value is written as goes unseen**, when the value was in order. -/
theorem Projects.agrees_settled : ∀ {schema : Schema} {raw out : Json}, schema.Distinct →
    schema.Projects raw out → raw.IsSettled → schema.Agrees out out.settled
  | .amount, _, _, _, ⟨_, _, _, _, rfl⟩, _ => rfl
  | .list item, _, _, distinct, ⟨raws, outs, rfl, rfl, each⟩, .array inOrder => by
    rw [Json.settled, Json.settledItems_eq]
    refine ArraysAgree.arrays (List.forall₂_map_right_iff.mpr (List.forall₂_same.mpr ?_))
    intro out mem
    obtain ⟨raw, inOrder, projects⟩ := exists_of_forall₂_of_forall each inOrder out mem
    exact Projects.agrees_settled distinct projects inOrder
  | .object fields, _, _, ⟨distinct, inside⟩, ⟨_, kept, rfl, rfl, all⟩, .object _ inOrder => by
    have agree := ProjectAll.agrees_settled distinct inside all inOrder
    have keys : ((settledMembers kept).map Prod.fst).Nodup := by
      rwa [Json.keys_settledMembers, all.keys]
    exact ObjectsAgree.objects (agree.settleMembers keys)
  | .anything, _, _, _, rfl, inOrder | .text, _, _, _, rfl, inOrder | .hex, _, _, _, rfl, inOrder
  | .boolean, _, _, _, rfl, inOrder | .integer, _, _, _, rfl, inOrder
  | .feeTier, _, _, _, rfl, inOrder | .constant _, _, _, _, rfl, inOrder => inOrder.settled_eq.symm

theorem ProjectAll.agrees_settled : ∀ {fields : List (String × Schema)} {members kept : Members},
    (fields.map Prod.fst).Nodup → DistinctAll fields → ProjectAll fields members kept →
      (∀ member ∈ members, member.2.IsSettled) → AgreeAll fields kept (settledMembers kept)
  | [], _, _, _, _, rfl, _ => trivial
  | (_, _) :: _, _, _, distinct, ⟨head, inside⟩, ⟨_, _, _, found, projects, rest, rfl⟩, inOrder =>
    agreeAll_cons (List.nodup_cons.mp distinct).1
      (Projects.agrees_settled head projects (inOrder _ (mem_of_lookup found)))
      (ProjectAll.agrees_settled (List.nodup_cons.mp distinct).2 inside rest inOrder)

end

end Schema

/-! ### Parameters, commands and calls -/

namespace Wire

theorem distinct_of_mem_classicUnion : ∀ entry ∈ classicUnion, entry.2.Distinct := by
  simp [classicUnion, hop, Schema.Distinct, Schema.DistinctAll]

theorem distinct_of_mem_versionedUnion : ∀ entry ∈ versionedUnion, entry.2.Distinct := by
  simp [versionedUnion, step, exactIn, exactOut, exactInSingle, exactOutSingle, pathKey, poolKey,
    Schema.Distinct, Schema.DistinctAll]

/-- No shape of the wire format names a key twice. -/
theorem distinct_of_unionOf {commandName name : String} {schema : Schema}
    (h : unionOf commandName name = some schema) : schema.Distinct := by
  rw [unionOf] at h
  split at h
  · exact distinct_of_mem_versionedUnion _ (mem_of_lookup h)
  · cases h
    cases found : classicUnion.lookup name with
    | none => trivial
    | some schema => exact distinct_of_mem_classicUnion _ (mem_of_lookup found)

/-- The keys of a parameter are written in order. -/
theorem settled_parameter (name : String) (value : Json) :
    (Json.object [("name", .string name), ("value", value)]).settled =
      .object [("name", .string name), ("value", value.settled)] := by
  have keys : ["name", "value"].Pairwise (· < ·) := by decide
  exact congrArg Json.object (Json.settleMembers_of_increasing (Json.increasing_iff_keys.mpr keys))

/-- The keys of a command are written in order. -/
theorem settled_command (name : String) (number : Json) (params : List Json) :
    (Json.object [("commandName", .string name), ("commandType", number),
        ("params", .array params)]).settled =
      .object [("commandName", .string name), ("commandType", number.settled),
        ("params", .array (settledItems params))] := by
  have keys : ["commandName", "commandType", "params"].Pairwise (· < ·) := by decide
  exact congrArg Json.object (Json.settleMembers_of_increasing (Json.increasing_iff_keys.mpr keys))

theorem ParameterProjects.fits {union : String → Option Schema} {raw out : Json} {n : ℕ}
    (h : ParameterProjects union raw out) (fits : raw.Fits n) : out.Fits n := by
  obtain ⟨members, name, value, schema, value', rfl, -, found, -, projects, rfl⟩ := h
  cases fits with
  | object each =>
    have inside : value'.Fits _ := projects.fits (each _ (mem_of_lookup found))
    exact .object (List.forall_mem_cons.mpr ⟨.string name, List.forall_mem_singleton.mpr inside⟩)

theorem CommandProjects.fits {raw out : Json} {n : ℕ} (h : CommandProjects raw out)
    (fits : raw.Fits n) : out.Fits n := by
  obtain ⟨members, name, number, params, params', rfl, -, numbered, listed, projects, rfl⟩ := h
  cases fits with
  | object each =>
    have numberFits : number.Fits _ := each _ (mem_of_lookup numbered)
    cases each _ (mem_of_lookup listed) with
    | array each =>
      have paramsFit : (Json.array params').Fits _ := .array fun out mem => by
        obtain ⟨raw, fits, projects⟩ := exists_of_forall₂_of_forall projects each out mem
        exact projects.fits fits
      exact .object (List.forall_mem_cons.mpr ⟨.string name,
        List.forall_mem_cons.mpr ⟨numberFits, List.forall_mem_singleton.mpr paramsFit⟩⟩)

/-- **A call is written with no more containers open than its raw call has.** -/
theorem CallProjects.fits {raw out : Json} {n : ℕ} (h : CallProjects raw out)
    (fits : raw.Fits n) : out.Fits n := by
  obtain ⟨members, commands, commands', rfl, listed, projects, rfl⟩ := h
  cases fits with
  | object each =>
    cases each _ (mem_of_lookup listed) with
    | array each =>
      have commandsFit : (Json.array commands').Fits _ := .array fun out mem => by
        obtain ⟨raw, fits, projects⟩ := exists_of_forall₂_of_forall projects each out mem
        exact projects.fits fits
      exact .object (List.forall_mem_singleton.mpr commandsFit)

theorem ParameterProjects.agrees_settled {union : String → Option Schema} {raw out : Json}
    (shapes : ∀ {name schema}, union name = some schema → schema.Distinct)
    (h : ParameterProjects union raw out) (inOrder : raw.IsSettled) :
    ParametersAgree union out out.settled := by
  obtain ⟨members, name, value, schema, value', rfl, -, found, chosen, projects, rfl⟩ := h
  cases inOrder with
  | object _ inOrder =>
    rw [settled_parameter]
    refine .objects ⟨rfl, .some fun name' schema' named chosen' => ?_⟩
    cases named
    cases chosen.symm.trans chosen'
    exact projects.agrees_settled (shapes chosen) (inOrder _ (mem_of_lookup found))

/-- **Putting a written command in order goes unseen.** -/
theorem CommandProjects.agrees_settled {raw out : Json} (h : CommandProjects raw out)
    (inOrder : raw.IsSettled) : CommandsAgree out out.settled := by
  obtain ⟨members, name, number, params, params', rfl, -, numbered, listed, projects, rfl⟩ := h
  cases inOrder with
  | object _ inOrder =>
    have numberInOrder : number.settled = number := (inOrder _ (mem_of_lookup numbered)).settled_eq
    rw [settled_command, numberInOrder, Json.settledItems_eq]
    refine .objects ⟨rfl, rfl, .some (.arrays ?_)⟩
    refine List.forall₂_map_right_iff.mpr (List.forall₂_same.mpr fun out mem name' named => ?_)
    cases named
    cases inOrder _ (mem_of_lookup listed) with
    | array inOrder =>
      obtain ⟨raw, inOrder, projects⟩ := exists_of_forall₂_of_forall projects inOrder out mem
      exact projects.agrees_settled distinct_of_unionOf inOrder

end Wire

/-! ### Texts -/

namespace Call

theorem validateText_of_read {policy : Policy} {text : String} {raw : Json}
    (h : Json.read text = some raw) : validateText policy text = validate policy raw := by
  rw [validateText, h]

theorem exists_read_of_validateText {policy : Policy} {text : String} {call : Call}
    (h : (validateText policy text).outcome = .ok call) :
    ∃ raw, Json.read text = some raw ∧ (validate policy raw).outcome = .ok call := by
  rw [validateText.eq_def] at h
  split at h
  · cases h
  · next raw found => exact ⟨raw, found, h⟩

/-- An accepted call whose raw call was in order comes back with its keys in order. -/
theorem validate_settled {policy : Policy} {raw : Json} {call : Call}
    (h : (validate policy raw).outcome = .ok call) (inOrder : raw.IsSettled) :
    (validate policy call.toJson.settled).outcome = .ok call := by
  obtain ⟨members, raws, rfl, listed, each⟩ := validate_eq_ok_iff.mp h
  cases inOrder with
  | object _ inOrder =>
    cases inOrder _ (mem_of_lookup listed) with
    | array inOrder =>
      refine validate_eq_ok_iff.mpr ⟨_, _, rfl, rfl, ?_⟩
      rw [Json.settledItems_eq, List.map_map]
      refine List.forall₂_map_left_iff.mpr (List.forall₂_same.mpr fun command mem => ?_)
      obtain ⟨raw, inOrder, read⟩ := exists_of_forall₂_of_forall each inOrder command mem
      have agree := (Command.projects read).agrees_settled inOrder
      show (Command.classify policy command.toJson.settled).outcome = .ok command
      rw [← Command.classify_eq_of_agree policy agree]
      exact Command.classify_toJson_of_classify read

/-- **A call that was read from a text can be written as a text.** Either layout of it is accepted
under the same policy as the same call, and it is nested no deeper than the first text was. -/
theorem validateText_written {policy : Policy} {text : String} {call : Call}
    (h : (validateText policy text).outcome = .ok call) :
    (validateText policy call.toJson.compact).outcome = .ok call ∧
      (validateText policy call.toJson.pretty).outcome = .ok call ∧
      ∃ raw, Json.read text = some raw ∧ call.toJson.depth ≤ raw.depth ∧
        raw.depth ≤ Json.maxDepth := by
  obtain ⟨raw, found, accepted⟩ := exists_read_of_validateText h
  obtain ⟨rawFits, inOrder⟩ := Json.fits_of_read found
  have projects := callProjects accepted
  have fits : call.toJson.Fits Json.maxDepth := projects.fits rawFits
  have again := validate_settled accepted inOrder
  refine ⟨?compact, ?pretty, raw, found, ?shallow, rawFits.depth_le⟩
  case compact =>
    rw [validateText_of_read (Json.read_compact fits)]
    exact again
  case pretty =>
    rw [validateText_of_read (Json.read_pretty fits)]
    exact again
  case shallow => exact (projects.fits (rawFits.of_depth_le le_rfl)).depth_le

/-- A text with its keys out of order, one of them twice, and with escapes and large numbers. -/
def sampleText : String :=
  "\x7b\"commands\":[\x7b\"params\":[\x7b\"value\":\x7b\"b\":1,\"a\":\"\\\"\\\\\\u0001é\",\"b\":
  [-0.5,18446744073709551615]\x7d,\"name\":\"r\"\x7d],\"commandType\":0," ++
  "\"commandName\":\"X\"\x7d]\x7d"

/-- The compact layout of the call that `sampleText` is. -/
def sampleWritten : String :=
  "\x7b\"commands\":[\x7b\"commandName\":\"X\",\"commandType\":0,\"params\":[\x7b" ++
  "\"name\":\"r\",\"value\":\x7b\"a\":\"\\\"\\\\\\u0001é\",\"b\":" ++
  "[-0.5,18446744073709551615]\x7d\x7d]\x7d]\x7d"

theorem validateText_written_sample : ∃ call,
    (validateText .permissive sampleText).outcome = .ok call ∧
      call.toJson.compact = sampleWritten ∧
      (validateText .permissive call.toJson.compact).outcome = .ok call ∧
      (validateText .permissive call.toJson.pretty).outcome = .ok call ∧
      ∃ raw, Json.read sampleText = some raw ∧ call.toJson.depth ≤ raw.depth ∧
        raw.depth ≤ Json.maxDepth := by
  have evaluated : (validateText .permissive sampleText).outcome.toOption.map
      (fun call => call.toJson.compact) = some sampleWritten := by decide +kernel
  obtain ⟨call, found, written⟩ := Option.map_eq_some_iff.mp evaluated
  have accepted : (validateText .permissive sampleText).outcome = .ok call := by
    generalize (validateText .permissive sampleText).outcome = result at found
    cases result <;> cases found
    rfl
  exact ⟨call, accepted, written, validateText_written accepted⟩

end Call

end RouterCall
