import Bluedroid.Theory.Cmac

/-!
# CryptoToolbox.AesCmac -- `aes_cmac` is RFC 4493 read backwards

`aes_cmac.cc` keeps keys, messages and MACs least significant octet first, the
reverse of RFC 4493.  It copies the message to the end of a buffer of whole
blocks (`alloca`), so that the message's first octets, the RFC's last, are in
the buffer's first block; it pads or XORs that block in place
(`cmac_prepare_last_block`), and chains the blocks from the buffer's last down
to its first (`cmac_aes_k_calculate`).  Its AES, `aes_128`, reverses key and
block around `aes_encrypt`, which is left abstract here (`BlockCipher`).

`aesCmac_eq_mac` shows that for every cipher, every sixteen-octet key and
every message, and whatever the octets `alloca` returns hold, `aes_cmac` is
the reverse of RFC 4493's MAC of the reversed message under the reversed key.
The proof carries every sixteen-octet array to its block (`blockLE`): `aes_128`
is the cipher on blocks (`blockLE_aes128`), `xor_128` the XOR
(`blockLE_xor128`), `leftshift_onebit` the shift (`blockLE_leftshiftOnebit`)
and the top-bit test the `msb` (`topBit_iff_msb`), so the subkeys are the RFC's
(`cmacGenerateSubkey_keys`).  `padding`, read backwards, is the RFC's
(`reverse_padding`); the buffer's blocks past the first, reversed, are the
message's blocks in the other order (`textBlock_chain`), and its first block,
past the stale octets, is the message's last (`textBlock_last`).  The chain of
`cmac_aes_k_calculate` is then the RFC's (`blockLE_cmacAesKCalculate`).
-/

namespace Bluedroid.CryptoToolbox

open Bluedroid.Theory

set_option autoImplicit false

/-! ## The model -/

/-- `aes_set_key` then `aes_encrypt` of aes.cc: AES-128 on a key and a block in
the standard octet order, left abstract as any function that maps sixteen
octets to sixteen octets. -/
structure BlockCipher where
  encrypt : List UInt8 → List UInt8 → List UInt8
  length_encrypt : ∀ key block, (encrypt key block).length = 16

/-- The cipher on 128-bit blocks, most significant octet first: the AES of the
specifications. -/
def BlockCipher.block (c : BlockCipher) (K B : BitVec 128) : BitVec 128 :=
  blockBE (c.encrypt (octetsBE K) (octetsBE B))

/-- `OCTET16_LEN`. -/
def octet16Len : ℕ := 16

/-- `aes_128(key, message)`: key and message reversed, encrypted, and the
output reversed. -/
def aes128 (c : BlockCipher) (key message : List UInt8) : List UInt8 :=
  (c.encrypt key.reverse message.reverse).reverse

/-- The overload `aes_128(key, message, length)`: the first `length` octets of
`message` followed by zeros. -/
def aes128Prefix (c : BlockCipher) (key message : List UInt8) (length : ℕ) : List UInt8 :=
  aes128 c key (message.take length ++ List.replicate (octet16Len - length) 0)

/-- `const_Rb`, least significant octet first. -/
def constRb : List UInt8 := 0x87 :: List.replicate 15 0

/-- `xor_128(a, b)`: `a[i] ^ b[i]` octet by octet. -/
def xor128 (a b : List UInt8) : List UInt8 := List.zipWith (· ^^^ ·) a b

/-- `padding(dest, length)`: for `i` from `length` to `15`, octet `15 - i` is
set to `0x80` for the first and to `0` after it. -/
def padding (dest : List UInt8) (length : ℕ) : List UInt8 :=
  (List.range' length (octet16Len - length)).foldl
    (fun p i => p.set (octet16Len - i - 1) (if i = length then 0x80 else 0)) dest

/-- The loop of `leftshift_onebit` from one octet on, with the `overflow` of the
octet below it. -/
def leftshiftLoop : List UInt8 → UInt8 → List UInt8
  | [], _ => []
  | x :: input, overflow =>
      let nextOverflow : UInt8 := if x &&& 0x80 ≠ 0 then 1 else 0
      ((x <<< 1) ||| overflow) :: leftshiftLoop input nextOverflow

/-- `leftshift_onebit(input, output)`: the sixteen octets shifted left by one
bit, least significant octet first. -/
def leftshiftOnebit (input : List UInt8) : List UInt8 := leftshiftLoop input 0

/-- `tCMAC_CB`: the buffer of whole blocks, the message length and the number
of blocks. -/
structure CmacCb where
  text : List UInt8
  len : ℕ
  round : ℕ

/-- The `i`-th block of the buffer, `&text[i * OCTET16_LEN]`. -/
def textBlock (text : List UInt8) (i : ℕ) : List UInt8 :=
  (text.drop (i * octet16Len)).take octet16Len

/-- `cmac_aes_k_calculate(key)`: for `i` from `1` to `round`, block
`round - i` XOR-ed with the last output and encrypted. -/
def cmacAesKCalculate (c : BlockCipher) (key : List UInt8) (cb : CmacCb) : List UInt8 :=
  (List.range cb.round).reverse.foldl
    (fun x j => aes128Prefix c key (xor128 (textBlock cb.text j) x) octet16Len)
    (List.replicate octet16Len 0)

/-- `cmac_prepare_last_block(k1, k2)`: the buffer's first block, XOR-ed with
`k1` when the message ends on a whole block, padded and XOR-ed with `k2`
otherwise. -/
def cmacPrepareLastBlock (cb : CmacCb) (k1 k2 : List UInt8) : CmacCb :=
  let flag := cb.len % octet16Len = 0 ∧ cb.len ≠ 0
  let first := textBlock cb.text 0
  let first := if flag then xor128 first k1 else xor128 (padding first (cb.len % 16)) k2
  { cb with text := first ++ cb.text.drop octet16Len }

/-- One subkey from the one before: shifted, with `const_Rb` XOR-ed in when
the top bit was set. -/
def nextSubkey (p : List UInt8) : List UInt8 :=
  if p.getD (octet16Len - 1) 0 &&& 0x80 ≠ 0 then xor128 (leftshiftOnebit p) constRb
  else leftshiftOnebit p

/-- `cmac_generate_subkey(key)`: `k1` and `k2` from the encrypted zero block,
then the last block prepared with them. -/
def cmacGenerateSubkey (c : BlockCipher) (key : List UInt8) (cb : CmacCb) : CmacCb :=
  let p := aes128Prefix c key (List.replicate octet16Len 0) octet16Len
  let k1 := nextSubkey p
  let k2 := nextSubkey k1
  cmacPrepareLastBlock cb k1 k2

/-- `aes_cmac(key, input, length)`.  The `alloca`'d buffer holds `n` whole
blocks; the message is copied to its end, and the octets before it are
whatever the stack held (`stale`). -/
def aesCmac (c : BlockCipher) (key input : List UInt8) (stale : ℕ → UInt8) : List UInt8 :=
  let length := input.length
  let n := (length + octet16Len - 1) / octet16Len
  let n := if n = 0 then 1 else n
  let len := n * octet16Len
  let diff := len - length
  let text := (List.range diff).map stale ++ input
  -- an empty message copies nothing and leaves `cmac_cb.len` at `0`
  let cb : CmacCb := ⟨text, length, n⟩
  cmacAesKCalculate c key (cmacGenerateSubkey c key cb)

variable (c : BlockCipher)

/-! ## Sixteen octets as a block -/

@[simp] theorem length_aes128 (key message : List UInt8) : (aes128 c key message).length = 16 := by
  rw [aes128, List.length_reverse, c.length_encrypt]

@[simp] theorem length_aes128Prefix (key message : List UInt8) (length : ℕ) :
    (aes128Prefix c key message length).length = 16 :=
  length_aes128 c _ _

theorem aes128Prefix_of_length {key message : List UInt8} (sixteen : message.length = 16) :
    aes128Prefix c key message octet16Len = aes128 c key message := by
  rw [aes128Prefix, List.take_of_length_le (by rw [sixteen]; rfl), Nat.sub_self, List.replicate_zero,
    List.append_nil]

/-- **`aes_128` is the cipher on blocks**, both read least significant octet first. -/
theorem blockLE_aes128 {key message : List UInt8} (sixteenK : key.length = 16)
    (sixteenM : message.length = 16) :
    blockLE (aes128 c key message) = c.block (blockLE key) (blockLE message) := by
  rw [aes128, BlockCipher.block, octetsBE, octetsBE, octetsLE_blockLE sixteenK,
    octetsLE_blockLE sixteenM, blockBE]

@[simp] theorem length_xor128 (a b : List UInt8) : (xor128 a b).length = min a.length b.length :=
  List.length_zipWith

theorem blockLE_xor128 {a b : List UInt8} (sixteenA : a.length = 16) (sixteenB : b.length = 16) :
    blockLE (xor128 a b) = blockLE a ^^^ blockLE b :=
  blockLE_zipWith_xor sixteenA sixteenB

/-! ## The subkeys -/

@[simp] theorem length_leftshiftLoop : ∀ (input : List UInt8) (overflow : UInt8),
    (leftshiftLoop input overflow).length = input.length
  | [], _ => rfl
  | x :: input, _ => by rw [leftshiftLoop, List.length_cons, length_leftshiftLoop, List.length_cons]

theorem leValue_leftshiftLoop : ∀ (input : List UInt8) (overflow : UInt8), overflow.toNat ≤ 1 →
    leValue (leftshiftLoop input overflow) =
      (2 * leValue input + overflow.toNat) % 2 ^ (8 * input.length)
  | [], _, _ => by simp [leftshiftLoop, Nat.mod_one]
  | x :: input, overflow, bit => by
    -- the bit shifted out of `x` is the overflow of the octet above it
    have carry : (if x &&& 0x80 ≠ 0 then (1 : UInt8) else 0).toNat = x.toNat / 128 := by
      have octet := x.toNat_lt
      by_cases top : x &&& 0x80 ≠ 0
      · rw [if_pos top, UInt8.toNat_one]
        have := (and_0x80_ne_zero_iff x).mp top
        omega
      · rw [if_neg top, UInt8.toNat_zero]
        have := mt (and_0x80_ne_zero_iff x).mpr top
        omega
    have rest := leValue_leftshiftLoop input _ (by rw [carry]; have := x.toNat_lt; omega)
    rw [leftshiftLoop, leValue_cons, rest, carry, toNat_shiftLeft_one_or x overflow bit,
      List.length_cons, Nat.mul_succ, pow_add, Nat.mul_comm (2 ^ (8 * input.length)),
      add_mul_mod_mul (Nat.mod_lt _ (by omega)), leValue_cons]
    congr 1
    omega

/-- **`leftshift_onebit` is the shift of the block.** -/
theorem blockLE_leftshiftOnebit {p : List UInt8} (sixteen : p.length = 16) :
    blockLE (leftshiftOnebit p) = blockLE p <<< 1 := by
  apply BitVec.eq_of_toNat_eq
  rw [BitVec.toNat_shiftLeft, toNat_blockLE sixteen,
    toNat_blockLE (by rw [leftshiftOnebit, length_leftshiftLoop, sixteen]), leftshiftOnebit,
    leValue_leftshiftLoop p 0 (by decide), sixteen, Nat.shiftLeft_eq, UInt8.toNat_zero, Nat.add_zero,
    pow_one, Nat.mul_comm]

/-- The test of `cmac_generate_subkey`, on octet `15`, is the test of `MSB`. -/
theorem topBit_iff_msb {p : List UInt8} (sixteen : p.length = 16) :
    p.getD (octet16Len - 1) 0 &&& 0x80 ≠ 0 ↔ (blockLE p).msb = true := by
  rw [and_0x80_ne_zero_iff, msb_blockLE sixteen]
  rfl

theorem blockLE_constRb : blockLE constRb = Cmac.constRb := by
  decide

@[simp] theorem length_nextSubkey {p : List UInt8} (sixteen : p.length = 16) :
    (nextSubkey p).length = 16 := by
  have shifted : (leftshiftOnebit p).length = 16 := by rw [leftshiftOnebit, length_leftshiftLoop, sixteen]
  unfold nextSubkey
  split_ifs
  · rw [length_xor128, shifted]
    rfl
  · exact shifted

/-- **One subkey from the one before is the RFC's doubling.** -/
theorem blockLE_nextSubkey {p : List UInt8} (sixteen : p.length = 16) :
    blockLE (nextSubkey p) = Cmac.double (blockLE p) := by
  have shifted : (leftshiftOnebit p).length = 16 := by rw [leftshiftOnebit, length_leftshiftLoop, sixteen]
  unfold nextSubkey Cmac.double
  by_cases top : p.getD (octet16Len - 1) 0 &&& 0x80 ≠ 0
  · rw [if_pos top, if_pos ((topBit_iff_msb sixteen).mp top), blockLE_xor128 shifted rfl,
      blockLE_leftshiftOnebit sixteen, blockLE_constRb]
  · rw [if_neg top, if_neg (mt (topBit_iff_msb sixteen).mpr top), blockLE_leftshiftOnebit sixteen]

/-- The subkeys `k1` and `k2` of `cmac_generate_subkey` are the RFC's `K1` and `K2`. -/
theorem cmacGenerateSubkey_keys {key : List UInt8} (sixteen : key.length = 16) :
    let p := aes128Prefix c key (List.replicate octet16Len 0) octet16Len
    (nextSubkey p).length = 16 ∧ (nextSubkey (nextSubkey p)).length = 16 ∧
      (blockLE (nextSubkey p), blockLE (nextSubkey (nextSubkey p))) =
        Cmac.generateSubkey c.block (blockLE key) := by
  intro p
  have zeros : (List.replicate octet16Len (0 : UInt8)).length = 16 := List.length_replicate
  have encrypted : blockLE p = c.block (blockLE key) 0 := by
    rw [show p = aes128 c key (List.replicate octet16Len 0) from aes128Prefix_of_length c zeros,
      blockLE_aes128 c sixteen zeros]
    rfl
  have first := length_nextSubkey (length_aes128Prefix c key (List.replicate octet16Len 0) octet16Len)
  refine ⟨first, length_nextSubkey first, ?_⟩
  rw [Cmac.generateSubkey, blockLE_nextSubkey first, blockLE_nextSubkey (length_aes128Prefix ..),
    encrypted]

/-! ## The last block -/

/-- Setting octet `i` and dropping the octets before it. -/
theorem drop_set_self {l : List UInt8} {i : ℕ} (v : UInt8) (within : i < l.length) :
    (l.set i v).drop i = v :: l.drop (i + 1) := by
  rw [List.drop_set, if_neg (Nat.lt_irrefl i), Nat.sub_self, List.drop_eq_getElem_cons within,
    List.set_cons_zero]

/-- The loop of `padding` from `i = 16 - k` on, past the octet that takes `0x80`,
clears octets `0` to `k - 1`. -/
theorem padding_loop_clears (length : ℕ) :
    ∀ (k : ℕ) (dest : List UInt8), dest.length = 16 → length + k < 16 →
      (List.range' (16 - k) k).foldl
          (fun p i => p.set (octet16Len - i - 1) (if i = length then 0x80 else 0)) dest =
        List.replicate k 0 ++ dest.drop k
  | 0, dest, _, _ => rfl
  | k + 1, dest, sixteen, past => by
    have first : 16 - (k + 1) = 15 - k := by omega
    have next : 15 - k + 1 = 16 - k := by omega
    rw [first, List.range'_succ, List.foldl_cons, if_neg (by omega), next,
      show octet16Len - (15 - k) - 1 = k by unfold octet16Len; omega,
      padding_loop_clears length k _ (by rw [List.length_set, sixteen]) (by omega),
      drop_set_self 0 (by omega), List.replicate_succ', List.append_assoc, List.singleton_append]

/-- **`padding` writes `0x80` below the message's octets and zeros below it.** -/
theorem padding_eq {dest : List UInt8} {length : ℕ} (sixteen : dest.length = 16) (short : length < 16) :
    padding dest length = List.replicate (15 - length) 0 ++ 0x80 :: dest.drop (16 - length) := by
  have count : octet16Len - length = 15 - length + 1 := by unfold octet16Len; omega
  have next : length + 1 = 16 - (15 - length) := by omega
  rw [padding, count, List.range'_succ, List.foldl_cons, if_pos rfl, next,
    show octet16Len - length - 1 = 15 - length by unfold octet16Len; omega,
    padding_loop_clears length (15 - length) _ (by rw [List.length_set, sixteen]) (by omega),
    drop_set_self 0x80 (by omega), show 15 - length + 1 = 16 - length by omega]

theorem length_padding {dest : List UInt8} {length : ℕ} (sixteen : dest.length = 16) (short : length < 16) :
    (padding dest length).length = 16 := by
  rw [padding_eq sixteen short, List.length_append, List.length_replicate, List.length_cons,
    List.length_drop, sixteen]
  omega

/-- Read the other way round, `padding` is the RFC's `padding`. -/
theorem reverse_padding {dest : List UInt8} {length : ℕ} (sixteen : dest.length = 16) (short : length < 16) :
    (padding dest length).reverse = Cmac.padding (dest.drop (16 - length)).reverse := by
  have kept : (dest.drop (16 - length)).reverse.length = length := by
    rw [List.length_reverse, List.length_drop]
    omega
  rw [padding_eq sixteen short, Cmac.padding, kept, List.reverse_append, List.reverse_cons,
    List.reverse_replicate, List.append_assoc, List.singleton_append]

/-! ## The blocks of the buffer -/

theorem textBlock_zero {first : List UInt8} (rest : List UInt8) (sixteen : first.length = 16) :
    textBlock (first ++ rest) 0 = first := by
  rw [textBlock, Nat.zero_mul, List.drop_zero, List.take_append_of_le_length (by rw [sixteen]; rfl),
    List.take_of_length_le (by rw [sixteen]; rfl)]

/-- Past a first block of sixteen octets, the blocks are those of the rest. -/
theorem textBlock_succ {first : List UInt8} (rest : List UInt8) (sixteen : first.length = 16) (j : ℕ) :
    textBlock (first ++ rest) (j + 1) = textBlock rest j := by
  rw [textBlock, textBlock, Nat.succ_mul, Nat.add_comm, ← List.drop_drop,
    List.drop_left' (by rw [sixteen]; rfl)]

/-- A block of the buffer, past the stale octets before the message. -/
theorem textBlock_append {pre : List UInt8} (input : List UInt8) {j : ℕ}
    (past : pre.length ≤ j * octet16Len) :
    textBlock (pre ++ input) j = (input.drop (j * octet16Len - pre.length)).take octet16Len := by
  rw [textBlock, show j * octet16Len = pre.length + (j * octet16Len - pre.length) by omega,
    ← List.drop_drop, List.drop_left, Nat.add_sub_cancel_left]

/-- A whole block of the reversed message, read in the message's order. -/
theorem block_reverse (l : List UInt8) {i : ℕ} (within : 16 * i + 16 ≤ l.length) :
    Cmac.block l.reverse i = ((l.drop (l.length - 16 * i - 16)).take 16).reverse := by
  rw [Cmac.block, List.drop_reverse, List.take_reverse, List.length_take,
    Nat.min_eq_left (Nat.sub_le _ _), List.drop_take,
    show l.length - 16 * i - (l.length - 16 * i - 16) = 16 by omega]

/-- The short last block of the reversed message. -/
theorem block_reverse_last (l : List UInt8) {i : ℕ} (within : l.length ≤ 16 * i + 16) :
    Cmac.block l.reverse i = (l.take (l.length - 16 * i)).reverse := by
  rw [Cmac.block, List.drop_reverse, List.take_of_length_le]
  rw [List.length_reverse, List.length_take]
  omega

/-! ## The chain -/

/-- Block `m` down to block `0`: the first `m` counted from `m`, then `0`. -/
theorem reverse_range_succ (m : ℕ) : (List.range (m + 1)).reverse = (List.range m).map (m - ·) ++ [0] := by
  rw [List.range_eq_range', List.reverse_range', List.range_succ, List.map_append, List.map_singleton,
    Nat.zero_add, Nat.add_sub_cancel, Nat.sub_self]

/-- One pass of `cmac_aes_k_calculate`: a block XOR-ed with the last output and
encrypted. -/
theorem blockLE_kStep {key block x : List UInt8} (sixteenK : key.length = 16)
    (sixteenB : block.length = 16) (sixteenX : x.length = 16) :
    blockLE (aes128Prefix c key (xor128 block x) octet16Len) =
      c.block (blockLE key) (blockLE block ^^^ blockLE x) := by
  have xored : (xor128 block x).length = 16 := by rw [length_xor128, sixteenB, sixteenX]; rfl
  rw [aes128Prefix_of_length c xored, blockLE_aes128 c sixteenK xored, blockLE_xor128 sixteenB sixteenX]

/-- **`cmac_aes_k_calculate` is the chain of RFC 4493**, given the blocks `B` of
the message that the buffer's blocks `m` down to `1` stand for: block `0`, the
last, is XOR-ed with the chain over the others and encrypted. -/
theorem blockLE_cmacAesKCalculate {key : List UInt8} (sixteenK : key.length = 16) (cb : CmacCb)
    {m : ℕ} (round : cb.round = m + 1) (blocks : ∀ j ≤ m, (textBlock cb.text j).length = 16)
    (B : ℕ → BitVec 128) (same : ∀ i < m, blockLE (textBlock cb.text (m - i)) = B i) :
    blockLE (cmacAesKCalculate c key cb) =
      c.block (blockLE key)
        (blockLE (textBlock cb.text 0) ^^^
          (List.range m).foldl (fun X i => c.block (blockLE key) (X ^^^ B i)) 0) := by
  let step := fun x j => aes128Prefix c key (xor128 (textBlock cb.text j) x) octet16Len
  -- the invariant of the chain over the first `k` blocks: sixteen octets, the RFC's `X`
  have chain : ∀ k ≤ m, ((List.range k).foldl (fun x i => step x (m - i)) (List.replicate octet16Len 0)).length = 16 ∧
      blockLE ((List.range k).foldl (fun x i => step x (m - i)) (List.replicate octet16Len 0)) =
        (List.range k).foldl (fun X i => c.block (blockLE key) (X ^^^ B i)) 0 := by
    intro k
    induction k with
    | zero => exact fun _ => ⟨rfl, rfl⟩
    | succ k ih =>
      intro within
      obtain ⟨sixteenX, value⟩ := ih (by omega)
      simp only [List.range_succ, List.foldl_append, List.foldl_cons, List.foldl_nil]
      refine ⟨length_aes128Prefix .., ?_⟩
      rw [blockLE_kStep c sixteenK (blocks _ (Nat.sub_le m k)) sixteenX, value, same k (by omega),
        BitVec.xor_comm]
  obtain ⟨sixteenX, value⟩ := chain m le_rfl
  rw [cmacAesKCalculate, round, reverse_range_succ, List.foldl_append, List.foldl_map, List.foldl_cons,
    List.foldl_nil]
  -- the last pass, on block `0`
  have last := blockLE_kStep c sixteenK (blocks 0 (Nat.zero_le m)) sixteenX
  rw [value] at last
  exact last

/-! ## `aes_cmac` -/

theorem textBlock_drop (text : List UInt8) (j : ℕ) :
    textBlock (text.drop octet16Len) j = textBlock text (j + 1) := by
  rw [textBlock, textBlock, List.drop_drop, Nat.succ_mul, Nat.add_comm]

/-- The blocks of the buffer past the first, once it is prepared: the message's
blocks but the last, in the other order. -/
theorem textBlock_chain {pre input first : List UInt8} {m : ℕ} (sixteen : first.length = 16)
    (fits : input.length + pre.length = 16 * (m + 1)) (short : pre.length ≤ 16) :
    (∀ j ≤ m, (textBlock (first ++ (pre ++ input).drop octet16Len) j).length = 16) ∧
      ∀ i < m, blockLE (textBlock (first ++ (pre ++ input).drop octet16Len) (m - i)) =
        blockBE (Cmac.block input.reverse i) := by
  -- block `j + 1` of the prepared buffer is octets `16 * (j + 1) - pre.length` on of the message
  have inner : ∀ j < m, textBlock (first ++ (pre ++ input).drop octet16Len) (j + 1) =
      (input.drop ((j + 1) * 16 - pre.length)).take 16 := by
    intro j _
    rw [textBlock_succ _ sixteen, textBlock_drop, textBlock_append input (by unfold octet16Len; omega)]
    rfl
  constructor
  · intro j within
    cases j with
    | zero => rw [textBlock_zero _ sixteen, sixteen]
    | succ j =>
      rw [inner j (by omega), List.length_take, List.length_drop]
      omega
  · intro i below
    obtain ⟨j, index⟩ : ∃ j, m - i = j + 1 := ⟨m - i - 1, by omega⟩
    rw [index, inner j (by omega), blockBE, block_reverse input (by omega), List.reverse_reverse,
      show input.length - 16 * i - 16 = (j + 1) * 16 - pre.length by omega]

/-- The buffer's first block, past the stale octets: the message's last block. -/
theorem textBlock_last {pre input : List UInt8} {m : ℕ} (fits : input.length + pre.length = 16 * (m + 1))
    (short : pre.length ≤ 16) :
    ((textBlock (pre ++ input) 0).drop pre.length).reverse = Cmac.block input.reverse m := by
  rw [textBlock, Nat.zero_mul, List.drop_zero, List.drop_take, List.drop_left,
    block_reverse_last input (by omega)]
  congr 2
  unfold octet16Len
  omega

@[simp] theorem length_textBlock_zero {text : List UInt8} (long : octet16Len ≤ text.length) :
    (textBlock text 0).length = 16 := by
  rw [textBlock, Nat.zero_mul, List.drop_zero, List.length_take, Nat.min_eq_left long]
  rfl

theorem blockLE_aesCmac {key : List UInt8} (input : List UInt8) (stale : ℕ → UInt8) (sixteen : key.length = 16) :
    blockLE (aesCmac c key input stale) = Cmac.mac c.block (blockLE key) input.reverse := by
  obtain ⟨sixteen1, sixteen2, keys⟩ := cmacGenerateSubkey_keys c sixteen
  unfold aesCmac cmacGenerateSubkey cmacPrepareLastBlock
  dsimp only
  simp only [Cmac.mac, List.length_reverse, ← keys]
  -- `m + 1` blocks, on both sides
  obtain ⟨m, rounds, pair⟩ : ∃ m,
      (if (input.length + octet16Len - 1) / octet16Len = 0 then 1
        else (input.length + octet16Len - 1) / octet16Len) = m + 1 ∧
      (if (input.length + 15) / 16 = 0 then (1, false)
        else ((input.length + 15) / 16, decide (input.length % 16 = 0))) =
        (m + 1, decide (input.length % octet16Len = 0 ∧ input.length ≠ 0)) := by
    refine ⟨(input.length + 15) / 16 - 1, ?_, ?_⟩
    · unfold octet16Len
      split_ifs <;> omega
    · by_cases empty : input.length = 0
      · rw [if_pos (by omega)]
        simp [empty]
      · rw [if_neg (by omega)]
        simp only [Prod.mk.injEq]
        constructor
        · omega
        · simp [empty, octet16Len]
  rw [rounds, pair, Nat.add_sub_cancel]
  dsimp only
  have around : input.length ≤ (m + 1) * 16 ∧ (m * 16 < input.length ∨ input.length = 0 ∧ m = 0) := by
    unfold octet16Len at rounds
    split_ifs at rounds <;> omega
  -- the stale octets before the message
  generalize stalePre : List.map stale (List.range ((m + 1) * octet16Len - input.length)) = pre
  have fits : input.length + pre.length = 16 * (m + 1) := by
    rw [← stalePre, List.length_map, List.length_range]
    unfold octet16Len
    omega
  set k1 := nextSubkey (aes128Prefix c key (List.replicate octet16Len 0) octet16Len)
  set k2 := nextSubkey k1
  have long : octet16Len ≤ (pre ++ input).length := by
    rw [List.length_append]
    unfold octet16Len
    omega
  have firstLen : (if input.length % octet16Len = 0 ∧ input.length ≠ 0 then xor128 (textBlock (pre ++ input) 0) k1
      else xor128 (padding (textBlock (pre ++ input) 0) (input.length % 16)) k2).length = 16 := by
    split_ifs
    · rw [length_xor128, length_textBlock_zero long, sixteen1]
      rfl
    · rw [length_xor128, length_padding (length_textBlock_zero long) (Nat.mod_lt _ (by omega)), sixteen2]
      rfl
  obtain ⟨blocks, same⟩ := textBlock_chain firstLen fits (by omega)
  rw [blockLE_cmacAesKCalculate c sixteen _ rfl blocks _ same, textBlock_zero _ firstLen]
  congr 2
  have last := textBlock_last fits (by omega)
  simp only [decide_eq_true_eq]
  unfold octet16Len at *
  split_ifs with whole
  · -- a message of whole blocks: no stale octets, and the last block XOR-ed with `K1`
    rw [blockLE_xor128 (length_textBlock_zero long) sixteen1, show pre.length = 0 by omega,
      List.drop_zero] at *
    rw [← last, blockBE, List.reverse_reverse]
  · -- otherwise the stale octets are overwritten by the padding, XOR-ed with `K2`
    have short := Nat.mod_lt input.length (show 16 > 0 by omega)
    rw [blockLE_xor128 (length_padding (length_textBlock_zero long) short) sixteen2, ← last,
      ← show 16 - input.length % 16 = pre.length by omega,
      ← reverse_padding (length_textBlock_zero long) short, blockBE, List.reverse_reverse]

@[simp] theorem length_cmacAesKCalculate (key : List UInt8) (cb : CmacCb) :
    (cmacAesKCalculate c key cb).length = 16 := by
  -- every pass outputs sixteen octets, and the chain starts from sixteen zeros
  have passes : ∀ (js : List ℕ) (x : List UInt8), x.length = 16 →
      (js.foldl (fun x j => aes128Prefix c key (xor128 (textBlock cb.text j) x) octet16Len) x).length = 16 := by
    intro js
    induction js with
    | nil => exact fun _ sixteen => sixteen
    | cons j js ih => exact fun _ _ => ih _ (length_aes128Prefix ..)
  exact passes _ _ List.length_replicate

@[simp] theorem length_aesCmac (key input : List UInt8) (stale : ℕ → UInt8) :
    (aesCmac c key input stale).length = 16 :=
  length_cmacAesKCalculate c key _

/-- **`aes_cmac` is RFC 4493 read backwards**: for every cipher, every key, every
message and whatever the stack held, the MAC least significant octet first is
the RFC's MAC of the reversed message under the reversed key. -/
theorem aesCmac_eq_mac {key : List UInt8} (input : List UInt8) (stale : ℕ → UInt8) (sixteen : key.length = 16) :
    aesCmac c key input stale = octetsLE (Cmac.mac c.block (blockLE key) input.reverse) := by
  rw [← blockLE_aesCmac c input stale sixteen, octetsLE_blockLE (length_aesCmac c key input stale)]

end Bluedroid.CryptoToolbox
