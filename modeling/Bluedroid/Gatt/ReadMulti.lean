import Mathlib

/-!
# Gatt.ReadMulti -- the Read Multiple response of `gatt_sr.cc`

`build_read_multi_rsp (p_cmd, mtu)` allocates a buffer with `mtu` bytes of
payload after `L2CAP_MIN_OFFSET`, writes the opcode, and walks the queued
`tGATTS_RSP`s in the order of the requested handles, copying each value (in the
Read Multiple Variable Length form after a two-byte length) until the next one
would pass `mtu`; the first that would is cut to fit, and the walk stops.

The model records every write into the payload as a region (offset from the
start of the payload, length), the bytes it copies from the values, the final
`p_buf->len` and the status.  Lengths are `uint16_t`: the sums and the cut are
taken modulo `2 ^ 16`, as the code computes them.

For the fixed-length form every write stays inside the `mtu` bytes and the
response is at most `mtu` long (`buildReadMultiRsp_within`).  In the variable
form the cut `attr_value.len - (total_len - mtu)` does not leave room for the
two length bytes already counted: once fewer than two bytes are left, the
length field itself is written past the payload and the cut wraps to a
`memcpy` of 65535 or 65534 bytes (`read_multi_variable_overflows`).
-/

namespace Bluedroid.Gatt

set_option autoImplicit false

def gattRspReadMulti : UInt8 := 0x0F
def gattRspReadMultiVar : UInt8 := 0x21
def gattMaxMtuSize : ℕ := 517
def gattMaxAttrLen : ℕ := 512

/-- The `attr_value` of a queued `tGATTS_RSP`. -/
structure AttrValue where
  handle : ℕ
  len : ℕ
  value : List UInt8
  deriving DecidableEq, Repr

inductive GattStatus
  | success
  | notFound
  deriving DecidableEq, Repr

/-- What `build_read_multi_rsp` has done to its buffer. -/
structure MultiRspBuild where
  /-- Regions of the payload written, as (offset, length), in order. -/
  writes : List (ℕ × ℕ)
  /-- The bytes taken from the opcode, the lengths and the values, in order. -/
  bytes : List UInt8
  /-- `p_buf->len`. -/
  len : ℕ
  status : GattStatus
  deriving DecidableEq, Repr

/-- `UINT16_TO_STREAM`. -/
def uint16ToStream (v : ℕ) : List UInt8 := [UInt8.ofNat (v % 256), UInt8.ofNat (v / 256 % 256)]

/-- The loop over the requested handles; `p` is the write offset. -/
def readMultiLoop (variableLen : Bool) (mtu : ℕ) :
    List ℕ → List AttrValue → ℕ → MultiRspBuild → MultiRspBuild
  | [], _, _, built => built
  -- fewer responses than handles: `p_rsp` stays `NULL`
  | _ :: _, [], _, built => { built with status := .notFound }
  | handle :: handles, rsp :: rsps, p, built =>
      let totalLen := (built.len + rsp.len + if variableLen then 2 else 0) % 2 ^ 16
      let isOverflow := decide (mtu < totalLen)
      let len :=
        if isOverflow then (((rsp.len : Int) - ((totalLen : Int) - mtu)) % 2 ^ 16).toNat
        else rsp.len
      let lengthField :=
        if variableLen then
          (p + 2, { built with writes := built.writes ++ [(p, 2)],
                               bytes := built.bytes ++ uint16ToStream len,
                               len := (built.len + 2) % 2 ^ 16 })
        else (p, built)
      let p := lengthField.1
      let built := lengthField.2
      if rsp.handle = handle then
        let built := { built with writes := built.writes ++ [(p, len)],
                                  bytes := built.bytes ++ rsp.value.take len,
                                  len := (built.len + len) % 2 ^ 16 }
        if isOverflow then built else readMultiLoop variableLen mtu handles rsps (p + len) built
      else { built with status := .notFound }

/-- `build_read_multi_rsp` for the requested `handles` and the queued responses
`rsps`, in queue order. -/
def buildReadMultiRsp (variableLen : Bool) (handles : List ℕ) (rsps : List AttrValue)
    (mtu : ℕ) : MultiRspBuild :=
  let opcode := if variableLen then gattRspReadMultiVar else gattRspReadMulti
  let built := readMultiLoop variableLen mtu handles rsps 1
    { writes := [(0, 1)], bytes := [opcode], len := 1, status := .success }
  if built.len = 0 then { built with status := .notFound } else built

/-- Every write lies inside the `mtu` bytes of payload. -/
def WithinPayload (mtu : ℕ) (built : MultiRspBuild) : Prop :=
  ∀ w ∈ built.writes, w.1 + w.2 ≤ mtu

/-! ## The fixed-length form stays inside its buffer -/

section Fixed

variable {mtu : ℕ}

/-- **One response.**  While the write offset is `p_buf->len` and at most
`mtu`, copying a value keeps every write inside the payload, cut or not. -/
theorem readMultiLoop_within (small : mtu ≤ gattMaxMtuSize) :
    ∀ (handles : List ℕ) (rsps : List AttrValue) (built : MultiRspBuild),
      (∀ rsp ∈ rsps, rsp.len ≤ gattMaxAttrLen) → built.len ≤ mtu →
        WithinPayload mtu built →
        WithinPayload mtu (readMultiLoop false mtu handles rsps built.len built) ∧
          (readMultiLoop false mtu handles rsps built.len built).len ≤ mtu
  | [], _, built, _, fits, within => ⟨within, fits⟩
  | _ :: _, [], built, _, fits, within => ⟨within, fits⟩
  | handle :: handles, rsp :: rsps, built, lens, fits, within => by
      have short : rsp.len ≤ gattMaxAttrLen := lens rsp (List.mem_cons_self ..)
      unfold gattMaxAttrLen at short
      unfold gattMaxMtuSize at small
      -- no `uint16_t` sum wraps: the response and one value are below `2 ^ 16`
      have total : (built.len + rsp.len + 0) % 2 ^ 16 = built.len + rsp.len := by omega
      simp only [readMultiLoop, Bool.false_eq_true, if_false, total]
      split_ifs with same overflow
      · -- the value is cut to the `mtu - len` bytes left, and the walk stops
        have cut : (((rsp.len : Int) - ((built.len + rsp.len : ℕ) - mtu)) % 2 ^ 16).toNat =
            mtu - built.len := by omega
        simp only [decide_eq_true_eq] at overflow
        simp only [cut]
        refine ⟨?_, by omega⟩
        intro w written
        simp only [List.mem_append, List.mem_singleton] at written
        rcases written with old | rfl
        · exact within w old
        · simp only
          omega
      · -- the whole value fits, and the walk goes on from its end
        simp only [decide_eq_true_eq] at overflow
        have next := readMultiLoop_within small handles rsps
          { built with writes := built.writes ++ [(built.len, rsp.len)],
                       bytes := built.bytes ++ rsp.value.take rsp.len,
                       len := (built.len + rsp.len) % 2 ^ 16 }
          (fun r mem => lens r (List.mem_cons_of_mem _ mem)) (by simp only; omega) (by
            intro w written
            simp only [List.mem_append, List.mem_singleton] at written
            rcases written with old | rfl
            · exact within w old
            · simp only
              omega)
        have noWrap : (built.len + rsp.len) % 2 ^ 16 = built.len + rsp.len := by omega
        dsimp only at next
        rw [noWrap] at next ⊢
        exact next
      · exact ⟨within, fits⟩

/-- **The Read Multiple response stays inside its buffer**: for every `mtu` up
to 517 and values of at most 512 bytes, every write of the fixed-length form lies
in the `mtu` bytes of payload, and `p_buf->len` ends at most `mtu`. -/
theorem buildReadMultiRsp_within (large : 1 ≤ mtu) (small : mtu ≤ gattMaxMtuSize)
    (handles : List ℕ) (rsps : List AttrValue)
    (lens : ∀ rsp ∈ rsps, rsp.len ≤ gattMaxAttrLen) :
    WithinPayload mtu (buildReadMultiRsp false handles rsps mtu) ∧
      (buildReadMultiRsp false handles rsps mtu).len ≤ mtu := by
  have opcode : WithinPayload mtu
      { writes := [(0, 1)], bytes := [gattRspReadMulti], len := 1, status := .success } := by
    intro w written
    simp only [List.mem_singleton] at written
    subst written
    simp only
    omega
  have loop := readMultiLoop_within small handles rsps _ lens large opcode
  unfold buildReadMultiRsp
  simp only [Bool.false_eq_true, if_false]
  split_ifs
  · exact loop
  · exact loop

/-- The responses of the overflow below, in the fixed-length form, stay inside
the 23 bytes. -/
theorem read_multi_fixed_at_default_mtu :
    (1 : ℕ) ≤ 23 ∧ 23 ≤ gattMaxMtuSize ∧
      (∀ rsp ∈ [(⟨1, 19, List.replicate 19 0xAA⟩ : AttrValue),
          ⟨2, 5, List.replicate 5 0xBB⟩], rsp.len ≤ gattMaxAttrLen) ∧
      WithinPayload 23 (buildReadMultiRsp false [1, 2]
        [⟨1, 19, List.replicate 19 0xAA⟩, ⟨2, 5, List.replicate 5 0xBB⟩] 23) ∧
      (buildReadMultiRsp false [1, 2]
        [⟨1, 19, List.replicate 19 0xAA⟩, ⟨2, 5, List.replicate 5 0xBB⟩] 23).len ≤ 23 :=
  ⟨by decide, by decide, by decide,
    buildReadMultiRsp_within (by decide) (by decide) _ _ (by decide)⟩

end Fixed

/-- **The variable-length form overflows.**  With the default `mtu` of 23, a
19-byte value leaves one byte; the next response's two length bytes are written
at offsets 22 and 23, and its 5-byte value is cut to `5 - 6`, which as a
`uint16_t` is a `memcpy` of 65535 bytes at offset 24. -/
theorem read_multi_variable_overflows :
    (buildReadMultiRsp true [1, 2]
      [⟨1, 19, List.replicate 19 0xAA⟩, ⟨2, 5, List.replicate 5 0xBB⟩] 23).writes =
      [(0, 1), (1, 2), (3, 19), (22, 2), (24, 65535)] := by
  decide +kernel

end Bluedroid.Gatt
