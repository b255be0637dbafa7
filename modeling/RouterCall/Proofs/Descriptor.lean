import RouterCall.V4.Classify
import RouterCall.Proofs.Codec
import RouterCall.Proofs.Wire

/-!
# Codecs of the parts of parameters

Hops, keys of pools, descriptions of trades and the steps around them. Each object is given by its
slots, in the order in which its reader takes the keys, and is a `Codec` whose shape is the one that
the wire format declares for it. A reader that took a key from elsewhere, left one out or put one
into another field would not agree with its slots.

## Main definitions

* `Hop.codec`, `V4.PoolKey.codec`, `V4.PathKey.codec`
* `V4.ExactInSingle.codec`, `V4.ExactOutSingle.codec`, `V4.ExactIn.codec`, `V4.ExactOut.codec`
* `V4.stepCodec`: the `swap` object around a description
-/

namespace RouterCall

/-! ### Hops of classic routes -/

/-- The keys of a hop. -/
def Hop.slots : List (Slot Hop) := [
  ⟨"tokenIn", .hex "tokenIn", tokenIn⟩,
  ⟨"tokenOut", .hex "tokenOut", tokenOut⟩,
  ⟨"fee", .feeTier, fee⟩]

theorem Hop.check_eq_ok_iff {value : Json} {hop : Hop} :
    Hop.check value = .ok hop ↔
      ∃ members, value = .object members ∧ ∀ slot ∈ slots, slot.Reads members hop := by
  simp only [Hop.check, bind_eq_ok_iff, pure_eq_ok_iff, object_eq_ok_iff, slots,
    List.forall_mem_cons]
  constructor
  · rintro ⟨members, rfl, _, tokenIn, _, tokenOut, _, fee, rfl⟩
    exact ⟨members, rfl, tokenIn, tokenOut, fee, nofun⟩
  · rintro ⟨members, rfl, tokenIn, tokenOut, fee, -⟩
    exact ⟨members, rfl, _, tokenIn, _, tokenOut, _, fee, rfl⟩

theorem Hop.exists_reads {members : Members} (h : ∀ slot ∈ slots, slot.Readable members) :
    ∃ hop, ∀ slot ∈ slots, slot.Reads members hop := by
  simp only [slots, List.forall_mem_cons] at h ⊢
  obtain ⟨⟨_, tokenIn⟩, ⟨_, tokenOut⟩, ⟨_, fee⟩, -⟩ := h
  exact ⟨⟨_, _, _⟩, tokenIn, tokenOut, fee, nofun⟩

/-- Hops. -/
def Hop.codec : Codec Hop :=
  .record slots check toJson Wire.hop rfl (by decide) (fun _ => rfl)
    (fun _ _ => check_eq_ok_iff) fun _ => exists_reads

namespace V4

/-! ### Keys of pools -/

/-- The keys of a pool key. -/
def PoolKey.slots : List (Slot PoolKey) := [
  ⟨"currency0", .hex "currency0", currency0⟩,
  ⟨"currency1", .hex "currency1", currency1⟩,
  ⟨"fee", .integer, fee⟩,
  ⟨"tickSpacing", .integer, tickSpacing⟩,
  ⟨"hooks", .text, hooks⟩]

theorem PoolKey.check_eq_ok_iff {value : Json} {pool : PoolKey} :
    PoolKey.check value = .ok pool ↔
      ∃ members, value = .object members ∧ ∀ slot ∈ slots, slot.Reads members pool := by
  simp only [PoolKey.check, bind_eq_ok_iff, pure_eq_ok_iff, object_eq_ok_iff, slots,
    List.forall_mem_cons]
  constructor
  · rintro ⟨members, rfl, _, currency0, _, currency1, _, fee, _, tickSpacing, _, hooks, rfl⟩
    exact ⟨members, rfl, currency0, currency1, fee, tickSpacing, hooks, nofun⟩
  · rintro ⟨members, rfl, currency0, currency1, fee, tickSpacing, hooks, -⟩
    exact ⟨members, rfl, _, currency0, _, currency1, _, fee, _, tickSpacing, _, hooks, rfl⟩

theorem PoolKey.exists_reads {members : Members} (h : ∀ slot ∈ slots, slot.Readable members) :
    ∃ pool, ∀ slot ∈ slots, slot.Reads members pool := by
  simp only [slots, List.forall_mem_cons] at h ⊢
  obtain ⟨⟨_, currency0⟩, ⟨_, currency1⟩, ⟨_, fee⟩, ⟨_, tickSpacing⟩, ⟨_, hooks⟩, -⟩ := h
  exact ⟨⟨_, _, _, _, _⟩, currency0, currency1, fee, tickSpacing, hooks, nofun⟩

/-- Pools by their full keys. -/
def PoolKey.codec : Codec PoolKey :=
  .record slots check toJson Wire.poolKey rfl (by decide) (fun _ => rfl)
    (fun _ _ => check_eq_ok_iff) fun _ => exists_reads

/-- The keys of a path key. -/
def PathKey.slots : List (Slot PathKey) := [
  ⟨"intermediateCurrency", .hex "intermediateCurrency", intermediateCurrency⟩,
  ⟨"fee", .integer, fee⟩,
  ⟨"tickSpacing", .integer, tickSpacing⟩,
  ⟨"hooks", .hex "hooks", hooks⟩,
  ⟨"hookData", .text, hookData⟩]

theorem PathKey.check_eq_ok_iff {value : Json} {hop : PathKey} :
    PathKey.check value = .ok hop ↔
      ∃ members, value = .object members ∧ ∀ slot ∈ slots, slot.Reads members hop := by
  simp only [PathKey.check, bind_eq_ok_iff, pure_eq_ok_iff, object_eq_ok_iff, slots,
    List.forall_mem_cons]
  constructor
  · rintro ⟨members, rfl, _, currency, _, fee, _, tickSpacing, _, hooks, _, hookData, rfl⟩
    exact ⟨members, rfl, currency, fee, tickSpacing, hooks, hookData, nofun⟩
  · rintro ⟨members, rfl, currency, fee, tickSpacing, hooks, hookData, -⟩
    exact ⟨members, rfl, _, currency, _, fee, _, tickSpacing, _, hooks, _, hookData, rfl⟩

theorem PathKey.exists_reads {members : Members} (h : ∀ slot ∈ slots, slot.Readable members) :
    ∃ hop, ∀ slot ∈ slots, slot.Reads members hop := by
  simp only [slots, List.forall_mem_cons] at h ⊢
  obtain ⟨⟨_, currency⟩, ⟨_, fee⟩, ⟨_, tickSpacing⟩, ⟨_, hooks⟩, ⟨_, hookData⟩, -⟩ := h
  exact ⟨⟨_, _, _, _, _⟩, currency, fee, tickSpacing, hooks, hookData, nofun⟩

/-- Pools as hops of a versioned route. -/
def PathKey.codec : Codec PathKey :=
  .record slots check toJson Wire.pathKey rfl (by decide) (fun _ => rfl)
    (fun _ _ => check_eq_ok_iff) fun _ => exists_reads

/-! ### Trades through one pool -/

/-- The keys of an exact-in trade through one pool. -/
def ExactInSingle.slots : List (Slot ExactInSingle) := [
  ⟨"poolKey", PoolKey.codec, poolKey⟩,
  ⟨"zeroForOne", .boolean, zeroForOne⟩,
  ⟨"amountIn", .amount, amountIn⟩,
  ⟨"amountOutMinimum", .amount, amountOutMinimum⟩,
  ⟨"sqrtPriceLimitX96", .amount, sqrtPriceLimitX96⟩,
  ⟨"hookData", .text, hookData⟩]

theorem ExactInSingle.check_eq_ok_iff {value : Json} {trade : ExactInSingle} :
    ExactInSingle.check value = .ok trade ↔
      ∃ members, value = .object members ∧ ∀ slot ∈ slots, slot.Reads members trade := by
  simp only [ExactInSingle.check, bind_eq_ok_iff, pure_eq_ok_iff, object_eq_ok_iff, slots,
    List.forall_mem_cons]
  constructor
  · rintro ⟨members, rfl, _, pool, _, direction, _, spent, _, bound, _, limit, _, hookData, rfl⟩
    exact ⟨members, rfl, pool, direction, spent, bound, limit, hookData, nofun⟩
  · rintro ⟨members, rfl, pool, direction, spent, bound, limit, hookData, -⟩
    exact ⟨members, rfl, _, pool, _, direction, _, spent, _, bound, _, limit, _, hookData, rfl⟩

theorem ExactInSingle.exists_reads {members : Members}
    (h : ∀ slot ∈ slots, slot.Readable members) :
    ∃ trade, ∀ slot ∈ slots, slot.Reads members trade := by
  simp only [slots, List.forall_mem_cons] at h ⊢
  obtain ⟨⟨_, pool⟩, ⟨_, direction⟩, ⟨_, spent⟩, ⟨_, bound⟩, ⟨_, limit⟩, ⟨_, hookData⟩, -⟩ := h
  exact ⟨⟨_, _, _, _, _, _⟩, pool, direction, spent, bound, limit, hookData, nofun⟩

/-- Exact-in trades through one pool. -/
def ExactInSingle.codec : Codec ExactInSingle :=
  .record slots check toJson Wire.exactInSingle rfl (by decide) (fun _ => rfl)
    (fun _ _ => check_eq_ok_iff) fun _ => exists_reads

/-- The keys of an exact-out trade through one pool. -/
def ExactOutSingle.slots : List (Slot ExactOutSingle) := [
  ⟨"poolKey", PoolKey.codec, poolKey⟩,
  ⟨"zeroForOne", .boolean, zeroForOne⟩,
  ⟨"amountOut", .amount, amountOut⟩,
  ⟨"amountInMaximum", .amount, amountInMaximum⟩,
  ⟨"sqrtPriceLimitX96", .amount, sqrtPriceLimitX96⟩,
  ⟨"hookData", .text, hookData⟩]

theorem ExactOutSingle.check_eq_ok_iff {value : Json} {trade : ExactOutSingle} :
    ExactOutSingle.check value = .ok trade ↔
      ∃ members, value = .object members ∧ ∀ slot ∈ slots, slot.Reads members trade := by
  simp only [ExactOutSingle.check, bind_eq_ok_iff, pure_eq_ok_iff, object_eq_ok_iff, slots,
    List.forall_mem_cons]
  constructor
  · rintro ⟨members, rfl, _, pool, _, direction, _, received, _, bound, _, limit, _, hookData, rfl⟩
    exact ⟨members, rfl, pool, direction, received, bound, limit, hookData, nofun⟩
  · rintro ⟨members, rfl, pool, direction, received, bound, limit, hookData, -⟩
    exact ⟨members, rfl, _, pool, _, direction, _, received, _, bound, _, limit, _, hookData, rfl⟩

theorem ExactOutSingle.exists_reads {members : Members}
    (h : ∀ slot ∈ slots, slot.Readable members) :
    ∃ trade, ∀ slot ∈ slots, slot.Reads members trade := by
  simp only [slots, List.forall_mem_cons] at h ⊢
  obtain ⟨⟨_, pool⟩, ⟨_, direction⟩, ⟨_, received⟩, ⟨_, bound⟩, ⟨_, limit⟩, ⟨_, hookData⟩, -⟩ := h
  exact ⟨⟨_, _, _, _, _, _⟩, pool, direction, received, bound, limit, hookData, nofun⟩

/-- Exact-out trades through one pool. -/
def ExactOutSingle.codec : Codec ExactOutSingle :=
  .record slots check toJson Wire.exactOutSingle rfl (by decide) (fun _ => rfl)
    (fun _ _ => check_eq_ok_iff) fun _ => exists_reads

/-! ### Trades along a route -/

/-- The keys of an exact-in trade along a route. -/
def ExactIn.slots : List (Slot ExactIn) := [
  ⟨"currencyIn", .hex "currencyIn", currencyIn⟩,
  ⟨"path", PathKey.codec.list, path⟩,
  ⟨"amountIn", .amount, amountIn⟩,
  ⟨"amountOutMinimum", .amount, amountOutMinimum⟩]

theorem ExactIn.check_eq_ok_iff {value : Json} {trade : ExactIn} :
    ExactIn.check value = .ok trade ↔
      ∃ members, value = .object members ∧ ∀ slot ∈ slots, slot.Reads members trade := by
  simp only [ExactIn.check, bind_eq_ok_iff, pure_eq_ok_iff, object_eq_ok_iff, slots,
    List.forall_mem_cons]
  constructor
  · rintro ⟨members, rfl, _, currency, _, path, _, spent, _, bound, rfl⟩
    exact ⟨members, rfl, currency, path, spent, bound, nofun⟩
  · rintro ⟨members, rfl, currency, path, spent, bound, -⟩
    exact ⟨members, rfl, _, currency, _, path, _, spent, _, bound, rfl⟩

theorem ExactIn.exists_reads {members : Members} (h : ∀ slot ∈ slots, slot.Readable members) :
    ∃ trade, ∀ slot ∈ slots, slot.Reads members trade := by
  simp only [slots, List.forall_mem_cons] at h ⊢
  obtain ⟨⟨_, currency⟩, ⟨_, path⟩, ⟨_, spent⟩, ⟨_, bound⟩, -⟩ := h
  exact ⟨⟨_, _, _, _⟩, currency, path, spent, bound, nofun⟩

/-- Exact-in trades along a route. -/
def ExactIn.codec : Codec ExactIn :=
  .record slots check toJson Wire.exactIn rfl (by decide) (fun _ => rfl)
    (fun _ _ => check_eq_ok_iff) fun _ => exists_reads

/-- The keys of an exact-out trade along a route. -/
def ExactOut.slots : List (Slot ExactOut) := [
  ⟨"currencyOut", .hex "currencyOut", currencyOut⟩,
  ⟨"path", PathKey.codec.list, path⟩,
  ⟨"amountOut", .amount, amountOut⟩,
  ⟨"amountInMaximum", .amount, amountInMaximum⟩]

theorem ExactOut.check_eq_ok_iff {value : Json} {trade : ExactOut} :
    ExactOut.check value = .ok trade ↔
      ∃ members, value = .object members ∧ ∀ slot ∈ slots, slot.Reads members trade := by
  simp only [ExactOut.check, bind_eq_ok_iff, pure_eq_ok_iff, object_eq_ok_iff, slots,
    List.forall_mem_cons]
  constructor
  · rintro ⟨members, rfl, _, currency, _, path, _, received, _, bound, rfl⟩
    exact ⟨members, rfl, currency, path, received, bound, nofun⟩
  · rintro ⟨members, rfl, currency, path, received, bound, -⟩
    exact ⟨members, rfl, _, currency, _, path, _, received, _, bound, rfl⟩

theorem ExactOut.exists_reads {members : Members} (h : ∀ slot ∈ slots, slot.Readable members) :
    ∃ trade, ∀ slot ∈ slots, slot.Reads members trade := by
  simp only [slots, List.forall_mem_cons] at h ⊢
  obtain ⟨⟨_, currency⟩, ⟨_, path⟩, ⟨_, received⟩, ⟨_, bound⟩, -⟩ := h
  exact ⟨⟨_, _, _, _⟩, currency, path, received, bound, nofun⟩

/-- Exact-out trades along a route. -/
def ExactOut.codec : Codec ExactOut :=
  .record slots check toJson Wire.exactOut rfl (by decide) (fun _ => rfl)
    (fun _ _ => check_eq_ok_iff) fun _ => exists_reads

/-! ### Steps -/

theorem checkStep_eq_ok_iff {α : Type} {describe : Json → Checked α} {entry : Json} {a : α} :
    checkStep describe entry = .ok a ↔ ∃ members, entry = .object members ∧
      members.lookup "name" = some (.string stepName) ∧
      field members "value" describe = .ok a := by
  have named (members : Members) :
      (members.lookup "name" >>= Json.asString?) = some stepName ↔
        members.lookup "name" = some (.string stepName) := by
    simp only [Option.bind_eq_bind, Option.bind_eq_some_iff, Json.asString?_eq_some_iff]
    exact ⟨fun ⟨_, found, same⟩ => same ▸ found, fun found => ⟨_, found, rfl⟩⟩
  simp only [checkStep, bind_eq_ok_iff, object_eq_ok_iff, ← named]
  refine exists_congr fun members => and_congr_right fun _ => ?_
  split
  · next found => exact ⟨fun h => ⟨found, h⟩, And.right⟩
  · next other => exact ⟨nofun, fun h => absurd h.1 other⟩

/-- The `swap` object around a description. -/
def stepCodec {α : Type} (codec : Codec α) : Codec α where
  read := checkStep codec.read
  write a := RouterCall.Parameter.named stepName (codec.write a)
  schema := Wire.step codec.schema
  conforms_iff entry := by
    simp only [Wire.step, Schema.conforms_object_iff, List.forall_mem_cons, checkStep_eq_ok_iff,
      field_eq_ok_iff, codec.conforms_iff, Schema.Conforms]
    constructor
    · rintro ⟨members, rfl, ⟨_, named, rfl⟩, ⟨value, found, a, read⟩, -⟩
      exact ⟨a, members, rfl, named, value, found, read⟩
    · rintro ⟨a, members, rfl, named, value, found, read⟩
      exact ⟨members, rfl, ⟨_, named, rfl⟩, ⟨value, found, a, read⟩, nofun⟩
  projects h := by
    obtain ⟨members, rfl, named, read⟩ := checkStep_eq_ok_iff.mp h
    obtain ⟨value, found, read⟩ := field_eq_ok_iff.mp read
    exact ⟨members, _, rfl, rfl, _, _, _, named, rfl,
      ⟨_, _, _, found, codec.projects read, rfl, rfl⟩, rfl⟩
  read_write a :=
    checkStep_eq_ok_iff.mpr ⟨_, rfl, rfl, field_eq_ok_iff.mpr ⟨_, rfl, codec.read_write a⟩⟩

end V4

end RouterCall
