import Mathlib.Data.Nat.Digits.Defs
import Mathlib.Logic.Function.Iterate
import Bluedroid.Theory.Loop

/-!
# Smp.Multiprecision -- the 256-bit word arithmetic of `p_256_multprecision.cc`

A field element or a scalar is eight little-endian `uint32_t` words
(`multiprecisionValue`).  The functions here are the ones `ECC_NAF` and
`ECC_ValidatePoint` call: the bit counts and the right shift, the comparison,
the carrying add and sub, the modular add and sub against `curve_p256.p`, the
8x8-word schoolbook product and its reduction `multiprecision_fast_mod_P256`.

The reduction is the Solinas folding of a 512-bit product for
`p = 2 ^ 256 - 2 ^ 224 + 2 ^ 192 + 2 ^ 96 - 1`.  It forms the sums `A` .. `G` of
high words, each with an 8-bit carry, then builds the result word by word with
a running carry `U` that the code reads as signed through `U & 0x80000000`.
Between two words the carry goes through one block (`propagateCarry`): a
positive `U` is added to the next word with `U = (c[i] < a[i])`, a negative one
is subtracted with `U = (a[i] < UU)`.  In the second branch the borrow is set
to `1` where the word has wrapped downwards and the carry into the next word is
`-1`: the block is exact except there, where it counts `2 ^ 33` too much
(`propagateCarry_value`).
-/

namespace Bluedroid.Smp

set_option autoImplicit false

/-- `KEY_LENGTH_DWORDS_P256`. -/
def keyLengthDwordsP256 : ℕ := 8

/-- The number a little-endian array of `uint32_t` words stands for. -/
def multiprecisionValue (a : List UInt32) : ℕ :=
  Nat.ofDigits (2 ^ 32) (a.map UInt32.toNat)

/-! ## Bit counts and shifts -/

/-- The loop of `multiprecision_dword_bits` with `left` rounds to go, after `i`
shifts of `a`. -/
def dwordBitsLoop : ℕ → ℕ → UInt32 → ℕ
  | 0, i, _ => i
  | left + 1, i, a => if a = 0 then i else dwordBitsLoop left (i + 1) (a >>> 1)

/-- `multiprecision_dword_bits`: the number of significant bits of `a`. -/
def multiprecisionDwordBits (a : UInt32) : ℕ := dwordBitsLoop 32 0 a

/-- `multiprecision_most_signdwords`: one more than the index of the highest
non-zero word, `0` when all are zero. -/
def multiprecisionMostSigndwords (a : List UInt32) : ℕ :=
  match (List.range keyLengthDwordsP256).reverse.find? (fun i => a.getD i 0 ≠ 0) with
  | some i => i + 1
  | none => 0

/-- `multiprecision_most_signbits`: the number of significant bits of `a`. -/
def multiprecisionMostSignbits (a : List UInt32) : ℕ :=
  let aMostSignDwords := multiprecisionMostSigndwords a
  if aMostSignDwords = 0 then 0
  else (aMostSignDwords - 1) * 32 + multiprecisionDwordBits (a.getD (aMostSignDwords - 1) 0)

/-- `multiprecision_rshift(c, a)`: from the top word down, each word shifted
right by one takes the low bit of the word above it as its top bit. -/
def multiprecisionRshift (a : List UInt32) : List UInt32 :=
  (a.foldr (fun (w : UInt32) (acc : List UInt32 × UInt32) =>
    (((w >>> 1) ||| acc.2) :: acc.1, w <<< 31)) ([], 0)).1

/-! ## Comparison, add and sub -/

/-- The loop of `multiprecision_compare` over the indices `is`, from the top:
the first word that differs decides. -/
def compareLoop (a b : List UInt32) : List ℕ → ℤ
  | [] => 0
  | i :: is =>
      if a.getD i 0 > b.getD i 0 then 1
      else if a.getD i 0 < b.getD i 0 then -1
      else compareLoop a b is

/-- `multiprecision_compare(a, b)`: `1`, `-1` or `0`. -/
def multiprecisionCompare (a b : List UInt32) : ℤ :=
  compareLoop a b (List.range keyLengthDwordsP256).reverse

/-- `multiprecision_iszero(a)`: whether all eight words are zero. -/
def multiprecisionIszero (a : List UInt32) : Bool :=
  (List.range keyLengthDwordsP256).all fun i => a.getD i 0 == 0

/-- The loop of `multiprecision_add` from one word on, with the carry
`carrier` into it: the words written and the carry out.  Each round reads
`a[i]` and `b[i]` before it writes `c[i]`, so `c` may be `a`. -/
def addLoop : List UInt32 → List UInt32 → UInt32 → List UInt32 × UInt32
  | a :: as, b :: bs, carrier =>
      let temp := a + carrier
      let carrier := (decide (temp < carrier)).toUInt32
      let temp := temp + b
      let carrier := carrier ||| (decide (temp < b)).toUInt32
      let (c, carrier) := addLoop as bs carrier
      (temp :: c, carrier)
  | _, _, carrier => ([], carrier)

/-- `multiprecision_add(c, a, b)` on eight-word arrays: `c` and the carry. -/
def multiprecisionAdd (a b : List UInt32) : List UInt32 × UInt32 := addLoop a b 0

/-- The loop of `multiprecision_sub` from one word on, with the borrow into it. -/
def subLoop : List UInt32 → List UInt32 → UInt32 → List UInt32 × UInt32
  | a :: as, b :: bs, borrow =>
      let temp := a - borrow
      let borrow := (decide (temp > a)).toUInt32
      let c := temp - b
      let borrow := borrow ||| (decide (c > temp)).toUInt32
      let (cs, borrow) := subLoop as bs borrow
      (c :: cs, borrow)
  | _, _, borrow => ([], borrow)

/-- `multiprecision_sub(c, a, b)` on eight-word arrays: `c = a - b` and the borrow. -/
def multiprecisionSub (a b : List UInt32) : List UInt32 × UInt32 := subLoop a b 0

/-! ## The curve and the modular add and sub -/

/-- The fields of `elliptic_curve_t` that the modelled functions read. -/
structure EllipticCurve where
  b : List UInt32
  p : List UInt32
  deriving DecidableEq, Repr

/-- `curve_p256` as `p_256_init_curve` sets it. -/
def p256InitCurve : EllipticCurve where
  b := [0x27d2604b, 0x3bce3c3e, 0xcc53b0f6, 0x651d06b0,
        0x769886bc, 0xb3ebbd55, 0xaa3a93e7, 0x5ac635d8]
  p := [0xFFFFFFFF, 0xFFFFFFFF, 0xFFFFFFFF, 0x0, 0x0, 0x0, 0x00000001, 0xFFFFFFFF]

/-- `multiprecision_add_mod(c, a, b)`: `a + b`, less `p` once on a carry or when
it is at least `p`. -/
def multiprecisionAddMod (a b : List UInt32) : List UInt32 :=
  let modp := p256InitCurve.p
  let (c, carrier) := multiprecisionAdd a b
  if carrier ≠ 0 then (multiprecisionSub c modp).1
  else if multiprecisionCompare c modp ≥ 0 then (multiprecisionSub c modp).1
  else c

/-- `multiprecision_sub_mod(c, a, b)`: `a - b`, plus `p` once on a borrow. -/
def multiprecisionSubMod (a b : List UInt32) : List UInt32 :=
  let modp := p256InitCurve.p
  let (c, borrow) := multiprecisionSub a b
  if borrow ≠ 0 then (multiprecisionAdd c modp).1 else c

/-- The loop of `multiprecision_lshift` from one word on, with the bit `carrier`
shifted out of the word below: the words written and the bit shifted out of the
top.  Each round reads `a[i]` before it writes `c[i]`, so `c` may be `a`. -/
def lshiftLoop : List UInt32 → UInt32 → List UInt32 × UInt32
  | a :: as, carrier =>
      let temp := a
      let c := (temp <<< 1) ||| carrier
      let carrier := temp >>> 31
      let (cs, carrier) := lshiftLoop as carrier
      (c :: cs, carrier)
  | [], carrier => ([], carrier)

/-- `multiprecision_lshift(c, a)`: `a << 1` and the bit shifted out of the top. -/
def multiprecisionLshift (a : List UInt32) : List UInt32 × UInt32 := lshiftLoop a 0

/-- The correction `multiprecision_add_mod` and `multiprecision_lshift_mod` make
after their first step: less `modp` once on a carry out of the top word, or when
the words are at least `modp`. -/
def subModpOnce (modp c : List UInt32) (carrier : UInt32) : List UInt32 :=
  if carrier ≠ 0 then (multiprecisionSub c modp).1
  else if multiprecisionCompare c modp ≥ 0 then (multiprecisionSub c modp).1
  else c

/-- `multiprecision_lshift_mod(c, a)`: `2 a`, less `p` once on a carry or when it
is at least `p`. -/
def multiprecisionLshiftMod (a : List UInt32) : List UInt32 :=
  let modp := p256InitCurve.p
  let (c, carrier) := multiprecisionLshift a
  subModpOnce modp c carrier

/-! ## The inverse -/

/-- Where `multiprecision_inv_mod` is: at the test of its outer loop, or at the
test of the loop that halves `u` or of the one that halves `v`. -/
inductive InvModPc where
  | outer
  | halveU
  | halveV
  deriving DecidableEq, Repr

/-- The locals of `multiprecision_inv_mod` at a test: `u` (the caller's array,
which the function overwrites), `v`, and the first eight words of `A` and `C`.
Their ninth words are written and read within one halving, so the halving keeps
them as a local of its own (`halveAccumulator`). -/
structure InvModState where
  pc : InvModPc
  u : List UInt32
  v : List UInt32
  A : List UInt32
  C : List UInt32
  deriving DecidableEq, Repr

/-- The halving of `A` (or `C`) that goes with a halving of `u` (or `v`): an
even accumulator is shifted; to an odd one `p` is added, with the carry in the
ninth word, the eight words are shifted, and the carry comes back as the top
bit of the eighth. -/
def halveAccumulator (modp A : List UInt32) : List UInt32 :=
  if A.getD 0 0 &&& 0x01 = 0 then multiprecisionRshift A
  else
    let (A, carry) := multiprecisionAdd A modp
    let A := multiprecisionRshift A
    A.set (keyLengthDwordsP256 - 1) (A.getD (keyLengthDwordsP256 - 1) 0 ||| (carry <<< 31))

/-- One test of `multiprecision_inv_mod` and what follows it up to the next
test, against the modulus `modp` and with the modular subtraction `subMod`. -/
def invModPass (modp : List UInt32) (subMod : List UInt32 → List UInt32 → List UInt32)
    (s : InvModState) : InvModState ⊕ List UInt32 :=
  match s.pc with
  | .outer =>
      if multiprecisionIszero s.u then
        -- after the loop: `C`, less `p` if it is not below it
        .inr (if multiprecisionCompare s.C modp ≥ 0 then (multiprecisionSub s.C modp).1 else s.C)
      else .inl { s with pc := .halveU }
  | .halveU =>
      if s.u.getD 0 0 &&& 0x01 = 0 then
        .inl { s with u := multiprecisionRshift s.u, A := halveAccumulator modp s.A }
      else .inl { s with pc := .halveV }
  | .halveV =>
      if s.v.getD 0 0 &&& 0x01 = 0 then
        .inl { s with v := multiprecisionRshift s.v, C := halveAccumulator modp s.C }
      else if multiprecisionCompare s.u s.v ≥ 0 then
        .inl { s with pc := .outer, u := (multiprecisionSub s.u s.v).1, A := subMod s.A s.C }
      else .inl { s with pc := .outer, v := (multiprecisionSub s.v s.u).1, C := subMod s.C s.A }

/-- `multiprecision_init(c)`: eight zero words. -/
def multiprecisionInit : List UInt32 := List.replicate keyLengthDwordsP256 0

/-- The locals as the loop starts: `v` a copy of `p`, `A = 1` and `C = 0`. -/
def invModInit (modp u : List UInt32) : InvModState :=
  ⟨.outer, u, modp, multiprecisionInit.set 0 1, multiprecisionInit⟩

/-- `multiprecision_inv_mod(aminus, u)` with at most `fuel` tests: `aminus`, or
`none` when the tests run out. -/
def multiprecisionInvMod (u : List UInt32) (fuel : ℕ) : Option (List UInt32) :=
  Theory.loop (invModPass p256InitCurve.p multiprecisionSubMod) fuel (invModInit p256InitCurve.p u)

/-! ### The GD copy

`gd/security/ecc/multprecision.cc` has the same helpers with the same text; its
`multiprecision_add_mod`, `multiprecision_sub_mod`, `multiprecision_lshift_mod`
and `multiprecision_inv_mod` take the modulus as an argument where the stack's
read `curve_p256.p`. -/

namespace Ecc

/-- `multiprecision_sub_mod(c, a, b, modp)` of the GD copy. -/
def multiprecisionSubMod (a b modp : List UInt32) : List UInt32 :=
  let (c, borrow) := multiprecisionSub a b
  if borrow ≠ 0 then (multiprecisionAdd c modp).1 else c

/-- `multiprecision_add_mod(c, a, b, modp)` of the GD copy. -/
def multiprecisionAddMod (a b modp : List UInt32) : List UInt32 :=
  let (c, carrier) := multiprecisionAdd a b
  subModpOnce modp c carrier

/-- `multiprecision_lshift_mod(c, a, modp)` of the GD copy. -/
def multiprecisionLshiftMod (a modp : List UInt32) : List UInt32 :=
  let (c, carrier) := multiprecisionLshift a
  subModpOnce modp c carrier

/-- `multiprecision_inv_mod(aminus, u, modp)` of the GD copy. -/
def multiprecisionInvMod (u modp : List UInt32) (fuel : ℕ) : Option (List UInt32) :=
  Theory.loop (invModPass modp fun a b => multiprecisionSubMod a b modp) fuel (invModInit modp u)

end Ecc

/-! ## The product -/

/-- One round of the inner loop of `multiprecision_mult`: `c[k] += a[i] * b[j] + U`
with `k = i + j`, the high word and the carries into `U`. -/
def multStep (ai bj : UInt32) (k : ℕ) (s : List UInt32 × UInt32) : List UInt32 × UInt32 :=
  let (c, U) := s
  let W := ((ai.toUInt64 * bj.toUInt64) >>> 32).toUInt32
  let V := ai * bj
  let V := V + U
  let U := (decide (V < U)).toUInt32
  let U := U + W
  let V := V + c.getD k 0
  let U := U + (decide (V < c.getD k 0)).toUInt32
  (c.set k V, U)

/-- One round of the outer loop of `multiprecision_mult`: row `i` of the
product, its last carry stored at `c[i + 8]`. -/
def multRow (a b : List UInt32) (c : List UInt32) (i : ℕ) : List UInt32 :=
  let (c, U) := (List.range keyLengthDwordsP256).foldl
    (fun s j => multStep (a.getD i 0) (b.getD j 0) (i + j) s) (c, 0)
  c.set (i + keyLengthDwordsP256) U

/-- `multiprecision_mult(c, a, b)`: the sixteen words of `a * b`.  The code
clears only `c[0..7]`; row `i` reads `c[i..i+7]`, and `c[i+7]` was written by
the row before, so the upper half is never read before it is written. -/
def multiprecisionMult (a b : List UInt32) : List UInt32 :=
  (List.range keyLengthDwordsP256).foldl (multRow a b)
    (List.replicate (2 * keyLengthDwordsP256) 0)

/-! ## The reduction -/

/-- An update of a result word `c[i]` and the running carry `U` in
`multiprecision_fast_mod_P256`. -/
inductive WordOp
  /-- Add a word: `c[i] += x; U += (c[i] < x);` -/
  | add (x : UInt32)
  /-- Subtract a word: `U -= (c[i] < x); c[i] -= x;` -/
  | sub (x : UInt32)
  /-- Add the 8-bit carry `ux` of a sum of high words: `U += ux;` -/
  | addHigh (u : UInt8)
  /-- Subtract one: `U -= ux;` -/
  | subHigh (u : UInt8)
  deriving DecidableEq, Repr

def WordOp.apply : WordOp → UInt32 × UInt32 → UInt32 × UInt32
  | .add x, (c, U) => (c + x, U + (decide (c + x < x)).toUInt32)
  | .sub x, (c, U) => (c - x, U - (decide (c < x)).toUInt32)
  | .addHigh u, (c, U) => (c, U + u.toUInt32)
  | .subHigh u, (c, U) => (c, U - u.toUInt32)

/-- The updates of one result word, in the order of the code. -/
def accumulate (ops : List WordOp) (s : UInt32 × UInt32) : UInt32 × UInt32 :=
  ops.foldl (fun s op => op.apply s) s

/-- The block between two result words: `c[i]` starts as `a[i]` plus the carry
`U` of the word below, read as negative when `U & 0x80000000` is set. -/
def propagateCarry (ai U : UInt32) : UInt32 × UInt32 :=
  if U &&& 0x80000000 ≠ 0 then
    let UU := 0 - U
    (ai - UU, (decide (ai < UU)).toUInt32)
  else
    let c := ai + U
    (c, (decide (c < ai)).toUInt32)

/-- `multiprecision_fast_mod_P256(c, a)` for the sixteen words `a`. -/
def multiprecisionFastModP256 (a : List UInt32) : List UInt32 :=
  let w := fun i => a.getD i 0
  let modp := p256InitCurve.p
  -- C = a[13] + a[14] + a[15]
  let C := w 13 + w 14
  let UC := (decide (C < w 14)).toUInt8
  let C := C + w 15
  let UC := UC + (decide (C < w 15)).toUInt8
  -- E = a[8] + a[9]
  let E := w 8 + w 9
  let UE := (decide (E < w 9)).toUInt8
  -- F = a[9] + a[10]
  let F := w 9 + w 10
  let UF := (decide (F < w 10)).toUInt8
  -- G = a[10] + a[11]
  let G := w 10 + w 11
  let UG := (decide (G < w 11)).toUInt8
  -- B = a[12] + a[13] + a[14] + a[15] == C + a[12]
  let B := C + w 12
  let UB := UC + (decide (B < w 12)).toUInt8
  -- A = a[11] + a[12] + a[13] + a[14] == B + a[11] - a[15]
  let A := B + w 11
  let UA := UB + (decide (A < w 11)).toUInt8
  let UA := UA - (decide (A < w 15)).toUInt8
  let A := A - w 15
  -- D = a[10] + a[11] + a[12] + a[13] == A + a[10] - a[14]
  let D := A + w 10
  let UD := UA + (decide (D < w 10)).toUInt8
  let UD := UD - (decide (D < w 14)).toUInt8
  let D := D - w 14
  let (c0, U) := accumulate [.add E, .addHigh UE, .sub A, .subHigh UA] (w 0, 0)
  let (c1, U) := accumulate [.add F, .addHigh UF, .sub B, .subHigh UB] (propagateCarry (w 1) U)
  let (c2, U) := accumulate [.add G, .addHigh UG, .sub C, .subHigh UC] (propagateCarry (w 2) U)
  let (c3, U) := accumulate [.add A, .addHigh UA, .add (w 11), .add (w 12), .sub (w 14),
    .sub (w 15), .sub E, .subHigh UE] (propagateCarry (w 3) U)
  let (c4, U) := accumulate [.add B, .addHigh UB, .sub (w 15), .add (w 12), .add (w 13),
    .sub F, .subHigh UF] (propagateCarry (w 4) U)
  let (c5, U) := accumulate [.add C, .addHigh UC, .add (w 13), .add (w 14), .sub G,
    .subHigh UG] (propagateCarry (w 5) U)
  let (c6, U) := accumulate [.add C, .addHigh UC, .add (w 14), .add (w 14), .add (w 15),
    .sub E, .subHigh UE] (propagateCarry (w 6) U)
  let (c7, U) := accumulate [.add (w 15), .add (w 15), .add (w 15), .add (w 8), .sub D,
    .subHigh UD] (propagateCarry (w 7) U)
  let c := [c0, c1, c2, c3, c4, c5, c6, c7]
  -- `while (U) { multiprecision_add(c, c, modp); U++; }` and the `U--` loop
  let c :=
    if U &&& 0x80000000 ≠ 0 then (fun c => (multiprecisionAdd c modp).1)^[(0 - U).toNat] c
    else (fun c => (multiprecisionSub c modp).1)^[U.toNat] c
  if multiprecisionCompare c modp ≥ 0 then (multiprecisionSub c modp).1 else c

/-- `multiprecision_mersenns_mult_mod(c, a, b)`. -/
def multiprecisionMersennsMultMod (a b : List UInt32) : List UInt32 :=
  multiprecisionFastModP256 (multiprecisionMult a b)

/-- `multiprecision_mersenns_squa_mod(c, a)`. -/
def multiprecisionMersennsSquaMod (a : List UInt32) : List UInt32 :=
  multiprecisionMersennsMultMod a a

/-! ## The carry between two words of the reduction -/

/-- The carry `U` as the reduction reads it: negative when its top bit is set. -/
def signedCarry (U : UInt32) : ℤ :=
  if U &&& 0x80000000 ≠ 0 then -((0 - U).toNat : ℤ) else U.toNat

theorem msb_ne_zero_iff (U : UInt32) : U &&& 0x80000000 ≠ 0 ↔ 2 ^ 31 ≤ U.toNat := by
  have bound := U.toNat_lt
  have toNat : (U &&& 0x80000000).toNat = U.toNat &&& 2 ^ 31 := by
    rw [UInt32.toNat_and]
    rfl
  rw [Ne, ← UInt32.toNat_inj, toNat, UInt32.toNat_zero]
  constructor
  · -- below `2 ^ 31` no bit of `U` meets bit 31
    intro set
    by_contra small
    apply set
    apply Nat.eq_of_testBit_eq
    intro i
    rw [Nat.testBit_and, Nat.testBit_two_pow, Nat.zero_testBit]
    by_cases top : i = 31
    · subst top
      rw [Nat.testBit_lt_two_pow (by omega), Bool.false_and]
    · simp [Ne.symm top]
  · intro large vanishes
    have bit : (U.toNat &&& 2 ^ 31).testBit 31 = true := by
      rw [Nat.testBit_and, Nat.testBit_of_two_pow_le_and_two_pow_add_one_gt large bound,
        Nat.testBit_two_pow_self, Bool.and_self]
    rw [vanishes, Nat.zero_testBit] at bit
    exact Bool.false_ne_true bit

theorem toNat_toUInt32_decide (p : Prop) [Decidable p] :
    (decide p).toUInt32.toNat = if p then 1 else 0 := by
  by_cases h : p <;> simp [h, Bool.toUInt32]

/-- **The carry block is exact but for one case.**  The next word and the new
carry stand for the old word plus the signed carry, except when a negative carry
borrows from the word: the code then sets the carry to `1` where the borrow is
`-1`, and the pair counts `2 ^ 33` too much. -/
theorem propagateCarry_value (ai U : UInt32) :
    ((propagateCarry ai U).1.toNat : ℤ) + 2 ^ 32 * (propagateCarry ai U).2.toNat =
      ai.toNat + signedCarry U + if U &&& 0x80000000 ≠ 0 ∧ ai < 0 - U then 2 ^ 33 else 0 := by
  have ai_lt := ai.toNat_lt
  have U_lt := U.toNat_lt
  unfold propagateCarry signedCarry
  by_cases negative : U &&& 0x80000000 ≠ 0
  · -- the carry is `-UU`, subtracted from `a[i]`
    have large := (msb_ne_zero_iff U).mp negative
    have UU : (0 - U).toNat = 2 ^ 32 - U.toNat := by
      rw [UInt32.toNat_sub, UInt32.toNat_zero]
      omega
    simp only [negative, if_true, ne_eq, not_false_eq_true, true_and, toNat_toUInt32_decide,
      UInt32.lt_iff_toNat_lt, UU, UInt32.toNat_sub]
    split_ifs <;> omega
  · have small : U.toNat < 2 ^ 31 := by
      have := (msb_ne_zero_iff U).not.mp negative
      omega
    simp only [negative, if_false, false_and, toNat_toUInt32_decide, UInt32.lt_iff_toNat_lt,
      UInt32.toNat_add]
    split_ifs <;> omega

end Bluedroid.Smp
