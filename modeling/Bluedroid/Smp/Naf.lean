import Bluedroid.Theory.SignedDigits
import Bluedroid.Smp.Multiprecision
import Mathlib

/-!
# Smp.Naf -- the scalar recoding of `ECC_PointMult_Bin_NAF`

`ECC_PointMult_Bin_NAF(q, p, n)` in `p_256_ecc_pp.cc` multiplies the point `p`
by the 256-bit scalar `n`, given as eight little-endian `uint32_t` words.
`ECC_NAF` first recodes the scalar into signed binary digits, two bits each in
`naf[]`: `1` for `+1`, `3` for `-1`.  While `k` is not zero, an odd `k` gives the
digit `1` or `3` from `k & 3` and `k` becomes `k - 1` or `k + 1`, the latter with
the carry loop `do k[j]++; while (k[j++] == 0);`; then `k` is shifted right.
The point loop doubles and adds `p` or `-p` from the most significant digit
down (`pointMultLoop`).

The model keeps the words of `k`, the memory after them (where the carry loop
may go), the digit array and the indices of `k` written.  The point operations
`ECC_Double` and `ECC_Add` are parameters; instantiated with a group law, the
point loop is the double-and-add of `Theory.SignedDigits`
(`pointMultLoop_eq_doubleAndAdd`).

The carry loop is bounded by nothing but the words it meets.  For the scalar
`2 ^ 256 - 1` the first `+1` wraps all eight words: the loop writes `k[8]`,
past the key, and what is left of `k` is zero, so the recoding is the single
digit `-1` and the product is `-p` (`naf_of_all_ones_key`).
-/

namespace Bluedroid.Smp

open Bluedroid.Theory

set_option autoImplicit false

/-! ## `ECC_NAF` -/

/-- The carry loop `do k[j]++; while (k[j++] == 0);` on the words from `k[j]`
on: the words after it, how many it wrote, and whether it wrapped the last. -/
def incrementWords : List UInt32 → List UInt32 × ℕ × Bool
  | [] => ([], 0, true)
  | w :: ws =>
      if w + 1 = 0 then
        let (ws', n, out) := incrementWords ws
        (0 :: ws', n + 1, out)
      else ((w + 1) :: ws, 1, false)

/-- What `ECC_NAF` works on. -/
structure NafState where
  /-- `k[0..7]`. -/
  k : List UInt32
  /-- The memory after `k[7]`: `k[8]`, `k[9]`, … -/
  beyond : List UInt32
  /-- The `256 / 4 + 1` bytes of `naf[]`. -/
  naf : List UInt8
  /-- `i`: the digits recorded so far. -/
  i : ℕ
  /-- The indices of `k` written, in order. -/
  kWrites : List ℕ
  deriving DecidableEq, Repr

/-- The state `ECC_NAF` starts from: `naf[]` cleared, no digit yet. -/
def NafState.init (k beyond : List UInt32) : NafState :=
  { k, beyond, naf := List.replicate (256 / 4 + 1) 0, i := 0, kWrites := [] }

/-- `k = k - naf[i]` for an odd `k` and `sign = k[0] & 3`: clear the low bit for
`1`; for `3` add one, carrying through `k[1..7]` and on into the memory after
them.  `none` when the carry runs past the memory the state holds. -/
def subtractDigit (s : NafState) (sign : UInt32) : Option NafState :=
  let k0 := s.k.getD 0 0
  if sign = 1 then some { s with k := s.k.set 0 (k0 &&& 0xFFFFFFFE), kWrites := s.kWrites ++ [0] }
  else
    let s := { s with k := s.k.set 0 (k0 + 1), kWrites := s.kWrites ++ [0] }
    if k0 + 1 = 0 then
      let (inKey, n, out) := incrementWords (s.k.drop 1)
      let s := { s with k := s.k.take 1 ++ inKey,
                        kWrites := s.kWrites ++ (List.range n).map (· + 1) }
      if out then
        -- nothing stops the loop at `k[7]`
        let (beyond, m, out) := incrementWords s.beyond
        if out then none
        else some { s with beyond,
                           kWrites := s.kWrites ++ (List.range m).map (· + keyLengthDwordsP256) }
      else some s
    else some s

/-- One round of the loop of `ECC_NAF`: take the digit off, shift `k` right and
record the digit at `naf[i / 4]`, bits `(i % 4) * 2`. -/
def eccNafStep (s : NafState) : Option NafState :=
  let k0 := s.k.getD 0 0
  let digit : Option (UInt32 × NafState) :=
    if k0 &&& 0x01 ≠ 0 then (subtractDigit s (k0 &&& 0x03)).map ((k0 &&& 0x03), ·)
    else some (0, s)
  digit.map fun (sign, s) =>
    let byte := s.naf.getD (s.i / 4) 0
    { s with
      k := multiprecisionRshift s.k
      kWrites := s.kWrites ++ (List.range keyLengthDwordsP256).reverse
      naf := s.naf.set (s.i / 4) (byte.toUInt32 ||| sign <<< ((s.i % 4) * 2).toUInt32).toUInt8
      i := s.i + 1 }

/-- `while (multiprecision_most_signbits(k) >= 1)`, for at most `fuel` rounds. -/
def eccNafLoop : ℕ → NafState → Option NafState
  | 0, _ => none
  | fuel + 1, s =>
      if 1 ≤ multiprecisionMostSignbits s.k then (eccNafStep s).bind (eccNafLoop fuel)
      else some s

/-- `ECC_NAF(naf, &NumNaf, n)` after `memset(naf, 0, sizeof(naf))`, on the key
words `k` and the memory `beyond` after them.  A 256-bit `k` takes at most 257
rounds. -/
def eccNaf (k beyond : List UInt32) : Option NafState :=
  eccNafLoop (32 * keyLengthDwordsP256 + 2) (NafState.init k beyond)

theorem incrementWords_of_ne {w : UInt32} (noWrap : w ≠ 0xFFFFFFFF) (ws : List UInt32) :
    incrementWords (w :: ws) = ((w + 1) :: ws, 1, false) := by
  have : w + 1 ≠ 0 := by grind
  simp [incrementWords, this]

/-! ## The point loop -/

/-- The digit `ECC_PointMult_Bin_NAF` reads: `(naf[i / 4] >> ((i % 4) * 2)) & 0x03`. -/
def nafSign (naf : List UInt8) (i : ℕ) : UInt32 :=
  ((naf.getD (i / 4) 0).toUInt32 >>> ((i % 4) * 2).toUInt32) &&& 0x03

/-- The digit a `sign` stands for. -/
def nafDigit (sign : UInt32) : ℤ :=
  if sign = 1 then 1 else if sign = 3 then -1 else 0

section PointMult

variable {α : Type*} (eccDouble : α → α) (eccAdd : α → α → α)

/-- The loop of `ECC_PointMult_Bin_NAF` over the digits `n - 1` down to `0`:
`ECC_Double`, then `ECC_Add` of `p` for the digit `1` and of `minus_p` for `3`. -/
def pointMultLoop (p minusP : α) (naf : List UInt8) : ℕ → α → α
  | 0, q => q
  | n + 1, q =>
      let q := eccDouble q
      let sign := nafSign naf n
      pointMultLoop p minusP naf n
        (if sign = 1 then eccAdd q p else if sign = 3 then eccAdd q minusP else q)

/-- `ECC_PointMult_Bin_NAF(q, p, n)` from the point at infinity, up to the final
conversion to affine coordinates. -/
def eccPointMultBinNaf (infinity p minusP : α) (n beyond : List UInt32) : Option α :=
  (eccNaf n beyond).map fun s => pointMultLoop eccDouble eccAdd p minusP s.naf s.i infinity

end PointMult

/-- **With a group law the point loop is double-and-add** over the digits of
`naf[]`. -/
theorem pointMultLoop_eq_doubleAndAdd {G : Type*} [AddCommGroup G] (p : G) (naf : List UInt8)
    (n : ℕ) (q : G) :
    pointMultLoop (fun q => q + q) (· + ·) p (-p) naf n q =
      doubleAndAdd (fun i => nafDigit (nafSign naf i)) p n q := by
  induction n generalizing q with
  | zero => rfl
  | succ n ih =>
      simp only [pointMultLoop, doubleAndAdd, ← ih]
      congr 1
      -- the three digits `ECC_PointMult_Bin_NAF` tells apart
      by_cases one : nafSign naf n = 1
      · simp [nafDigit, one]
      · by_cases three : nafSign naf n = 3
        · simp [nafDigit, three, ← sub_eq_add_neg]
        · simp [nafDigit, one, three]

/-- **The point loop, read through a map.**  Where `read` takes the doubling and the
two additions of one instance of the loop to those of another, on the points an
invariant holds of, and the steps keep the invariant, it takes the whole loop to
the other's. -/
theorem pointMultLoop_map {α β : Type*} {eccDouble : α → α} {eccAdd : α → α → α}
    {double : β → β} {add : β → β → β} (read : α → β) (inv : α → Prop) {p minusP : α}
    (doubles : ∀ q, inv q → inv (eccDouble q) ∧ read (eccDouble q) = double (read q))
    (addsP : ∀ q, inv q → inv (eccAdd q p) ∧ read (eccAdd q p) = add (read q) (read p))
    (addsMinusP : ∀ q, inv q → inv (eccAdd q minusP) ∧ read (eccAdd q minusP) = add (read q) (read minusP))
    (naf : List UInt8) (n : ℕ) {q : α} (start : inv q) :
    inv (pointMultLoop eccDouble eccAdd p minusP naf n q) ∧
      read (pointMultLoop eccDouble eccAdd p minusP naf n q) =
        pointMultLoop double add (read p) (read minusP) naf n (read q) := by
  induction n generalizing q with
  | zero => exact ⟨start, rfl⟩
  | succ n ih =>
      obtain ⟨doubled, readDoubled⟩ := doubles q start
      simp only [pointMultLoop]
      -- the digit picks the same step on both sides
      split_ifs
      · obtain ⟨added, readAdded⟩ := addsP _ doubled
        rw [← readDoubled, ← readAdded]
        exact ih added
      · obtain ⟨added, readAdded⟩ := addsMinusP _ doubled
        rw [← readDoubled, ← readAdded]
        exact ih added
      · rw [← readDoubled]
        exact ih doubled

/-! ## The scalar `2 ^ 256 - 1` -/

/-- **`ECC_NAF` writes past the key for `2 ^ 256 - 1`.**  With any word `w`
after the key that does not wrap, the carry loop writes `k[8]`, the recoding is
the single digit `-1`, and in a group where `p` has odd order and is not the
identity the product is `-p`, not `[2 ^ 256 - 1] p`. -/
theorem naf_of_all_ones_key (w : UInt32) (rest : List UInt32) (noWrap : w ≠ 0xFFFFFFFF)
    {G : Type*} [AddCommGroup G] (p : G) (odd : Odd (addOrderOf p)) (nonzero : p ≠ 0) :
    eccNaf (List.replicate 8 0xFFFFFFFF) (w :: rest) =
        some { k := List.replicate 8 0, beyond := (w + 1) :: rest,
               naf := 3 :: List.replicate 64 0, i := 1,
               kWrites := [0, 1, 2, 3, 4, 5, 6, 7, 8, 7, 6, 5, 4, 3, 2, 1, 0] } ∧
      eccPointMultBinNaf (fun q => q + q) (· + ·) 0 p (-p) (List.replicate 8 0xFFFFFFFF)
          (w :: rest) = some (-p) ∧
      -p ≠ multiprecisionValue (List.replicate 8 0xFFFFFFFF) • p := by
  -- one round: the `+1` wraps the eight words and the carry stops at `w`
  have first : eccNafStep (NafState.init (List.replicate 8 0xFFFFFFFF) (w :: rest)) =
      some { k := List.replicate 8 0, beyond := (w + 1) :: rest,
             naf := 3 :: List.replicate 64 0, i := 1,
             kWrites := [0, 1, 2, 3, 4, 5, 6, 7, 8, 7, 6, 5, 4, 3, 2, 1, 0] } := by
    simp +decide [eccNafStep, NafState.init, subtractDigit, incrementWords_of_ne noWrap,
      incrementWords, multiprecisionRshift, keyLengthDwordsP256, List.range_succ]
  -- and then `k` is zero
  have run : eccNaf (List.replicate 8 0xFFFFFFFF) (w :: rest) =
      some { k := List.replicate 8 0, beyond := (w + 1) :: rest,
             naf := 3 :: List.replicate 64 0, i := 1,
             kWrites := [0, 1, 2, 3, 4, 5, 6, 7, 8, 7, 6, 5, 4, 3, 2, 1, 0] } := by
    have start : 1 ≤ multiprecisionMostSignbits
        (NafState.init (List.replicate 8 0xFFFFFFFF) (w :: rest)).k := by
      show 1 ≤ multiprecisionMostSignbits (List.replicate 8 0xFFFFFFFF)
      decide
    have stop : ¬1 ≤ multiprecisionMostSignbits (List.replicate 8 0) := by decide
    rw [eccNaf, eccNafLoop, if_pos start, first, Option.bind_some, eccNafLoop, if_neg stop]
  refine ⟨run, ?_, ?_⟩
  · have digit :
        signedValue (fun i => nafDigit (nafSign (3 :: List.replicate 64 0) i)) 1 = -1 := by
      decide
    rw [eccPointMultBinNaf, run, Option.map_some, pointMultLoop_eq_doubleAndAdd, doubleAndAdd_zero,
      digit, neg_one_zsmul]
  · have value : multiprecisionValue (List.replicate 8 0xFFFFFFFF) = 2 ^ 256 - 1 := by
      rfl
    rw [value]
    exact nsmul_two_pow_sub_one_ne_neg odd nonzero 256

/-- In `ZMod 3`, whose `1` has order 3, the product of `1` by the all-ones key is `-1`. -/
theorem all_ones_key_in_zmod_three :
    (0 : UInt32) ≠ 0xFFFFFFFF ∧ Odd (addOrderOf (1 : ZMod 3)) ∧ (1 : ZMod 3) ≠ 0 ∧
      eccPointMultBinNaf (fun q => q + q) (· + ·) 0 (1 : ZMod 3) (-1)
        (List.replicate 8 0xFFFFFFFF) [0] = some (-1) := by
  have odd : Odd (addOrderOf (1 : ZMod 3)) := by
    rw [ZMod.addOrderOf_one]
    decide
  exact ⟨by decide, odd, by decide,
    (naf_of_all_ones_key 0 [] (by decide) (1 : ZMod 3) odd (by decide)).2.1⟩

end Bluedroid.Smp
