import Bluedroid.Smp.MultiprecisionValue
import Mathlib.Tactic.Ring

/-!
# Smp.MultiprecisionExact -- the product, the shift and the modular operations

`multiprecision_mult` is a schoolbook product: row `i` adds `a[i] * b` into
`c[i..i+7]` through the carry `U` and stores the last `U` at `c[i+8]`.  One
round writes the low word of `a[i] * b[j] + U + c[i+j]` and keeps the high one
in `U`; that sum is at most `(2^32 - 1)^2 + 2 (2^32 - 1) = 2^64 - 1`, so the two
words the code computes from it, with their wrapped comparisons, are exact
(`multStep_value`).  The rows then add up to the product (`multRow_value`,
`multiprecisionMult_value`); the upper half, which the code never clears, is
written before it is read because the product so far fits below it
(`getD_eq_zero_of_value_lt`).

`multiprecision_add_mod` and `multiprecision_lshift_mod` compute a sum below
`2 p` with a carry out of the top word and take `p` away once
(`subModpOnce_value`): with a carry, the words hold the sum less `2^256`, which
is below `p`, and the subtraction borrows it back.  Together with the
subtraction of `Smp.MultiprecisionValue` this makes all three modular operations
exact for any modulus of eight words, the GD copies', and so for the stack's at
`curve_p256.p` (`multiprecision_primitives_exact`).
-/

namespace Bluedroid.Smp

set_option autoImplicit false

/-! ## Words of an array -/

/-- Writing word `k` puts the new word in the place of the old. -/
theorem multiprecisionValue_set (c : List UInt32) {k : ℕ} (inside : k < c.length) (w : UInt32) :
    multiprecisionValue (c.set k w) + 2 ^ (32 * k) * (c.getD k 0).toNat =
      multiprecisionValue c + 2 ^ (32 * k) * w.toNat := by
  induction c generalizing k with
  | nil => simp at inside
  | cons x c ih =>
    cases k with
    | zero =>
      simp only [List.set_cons_zero, multiprecisionValue_cons, List.getD_cons_zero]
      omega
    | succ k =>
      simp only [List.length_cons, Nat.add_lt_add_iff_right] at inside
      simp only [List.set_cons_succ, multiprecisionValue_cons, List.getD_cons_succ]
      -- the rest of the array sits one word up
      have lifted := congrArg (2 ^ 32 * ·) (ih inside)
      simp only [Nat.mul_add] at lifted
      rw [Nat.mul_succ, pow_add]
      ring_nf
      ring_nf at lifted
      omega

theorem multiprecisionValue_replicate_zero (n : ℕ) : multiprecisionValue (List.replicate n 0) = 0 := by
  induction n with
  | zero => rfl
  | succ n ih => rw [List.replicate_succ, multiprecisionValue_cons, ih, UInt32.toNat_zero, Nat.mul_zero]

/-- A word at or above the length a number needs is zero. -/
theorem getD_eq_zero_of_value_lt (c : List UInt32) {m : ℕ}
    (small : multiprecisionValue c < 2 ^ (32 * m)) : c.getD m 0 = 0 := by
  have prefixLe : multiprecisionValue (c.take (m + 1)) ≤ multiprecisionValue c := by
    rw [multiprecisionValue_take]
    exact Nat.mod_le _ _
  rw [multiprecisionValue_take_succ] at prefixLe
  have noWord : (c.getD m 0).toNat = 0 := by
    by_contra nonzero
    have : 2 ^ (32 * m) ≤ 2 ^ (32 * m) * (c.getD m 0).toNat :=
      Nat.le_mul_of_pos_right _ (Nat.pos_of_ne_zero nonzero)
    omega
  exact UInt32.toNat_inj.mp noWord

/-! ## The product -/

/-- One round of the inner loop of `multiprecision_mult`: the word written and
the new `U` make up `a[i] * b[j] + U + c[k]` exactly. -/
theorem multStep_value (ai bj : UInt32) (c : List UInt32) {k : ℕ} (inside : k < c.length)
    (U : UInt32) :
    multiprecisionValue (multStep ai bj k (c, U)).1 + 2 ^ (32 * (k + 1)) * (multStep ai bj k (c, U)).2.toNat =
        multiprecisionValue c + 2 ^ (32 * k) * (ai.toNat * bj.toNat + U.toNat) ∧
      (multStep ai bj k (c, U)).1.length = c.length ∧
      ∀ m, m ≠ k → (multStep ai bj k (c, U)).1.getD m 0 = c.getD m 0 := by
  have aBound := ai.toNat_lt
  have bBound := bj.toNat_lt
  have uBound := U.toNat_lt
  have cBound := (c.getD k 0).toNat_lt
  -- the product of two words is at most `(2^32 - 1)^2`
  have product : ai.toNat * bj.toNat ≤ (2 ^ 32 - 1) * (2 ^ 32 - 1) :=
    Nat.mul_le_mul (by omega) (by omega)
  have wide : (ai.toUInt64 * bj.toUInt64).toNat = ai.toNat * bj.toNat := by
    rw [UInt64.toNat_mul, UInt32.toNat_toUInt64, UInt32.toNat_toUInt64]
    exact Nat.mod_eq_of_lt (by omega)
  have high : ((ai.toUInt64 * bj.toUInt64) >>> 32).toUInt32.toNat = ai.toNat * bj.toNat / 2 ^ 32 := by
    rw [UInt64.toNat_toUInt32, UInt64.toNat_shiftRight, wide, show UInt64.toNat 32 % 64 = 32 from rfl,
      Nat.shiftRight_eq_div_pow]
    omega
  -- the word written and the carry out, as the code computes them
  have word : (ai * bj + U + c.getD k 0).toNat +
      2 ^ 32 * ((decide (ai * bj + U < U)).toUInt32 + ((ai.toUInt64 * bj.toUInt64) >>> 32).toUInt32 +
        (decide (ai * bj + U + c.getD k 0 < c.getD k 0)).toUInt32).toNat =
      ai.toNat * bj.toNat + U.toNat + (c.getD k 0).toNat := by
    simp only [UInt32.toNat_add, UInt32.toNat_mul, toNat_toUInt32_decide, UInt32.lt_iff_toNat_lt,
      high]
    split_ifs <;> omega
  refine ⟨?_, by simp [multStep], fun m other => ?_⟩
  · have placed := multiprecisionValue_set c inside (ai * bj + U + c.getD k 0)
    simp only [multStep]
    rw [Nat.mul_succ, pow_add]
    -- the carry out is the word above the one written
    have lifted := congrArg (2 ^ (32 * k) * ·) word
    simp only [Nat.mul_add] at lifted
    ring_nf
    ring_nf at lifted placed
    omega
  · simp only [multStep, List.getD_eq_getElem?_getD, List.getElem?_set_ne (Ne.symm other)]

/-- The inner loop of row `i` after `n` rounds: `a[i]` times the first `n` words
of `b` added in at word `i`, the last carry in `U`, and the words from `i + n`
on untouched. -/
theorem multRowLoop_value (a b c : List UInt32) (i : ℕ) :
    ∀ n, i + n ≤ c.length →
      multiprecisionValue ((List.range n).foldl
          (fun s j => multStep (a.getD i 0) (b.getD j 0) (i + j) s) (c, 0)).1 +
        2 ^ (32 * (i + n)) * ((List.range n).foldl
          (fun s j => multStep (a.getD i 0) (b.getD j 0) (i + j) s) (c, 0)).2.toNat =
        multiprecisionValue c + 2 ^ (32 * i) * ((a.getD i 0).toNat * multiprecisionValue (b.take n)) ∧
      ((List.range n).foldl
          (fun s j => multStep (a.getD i 0) (b.getD j 0) (i + j) s) (c, 0)).1.length = c.length ∧
      ∀ m, i + n ≤ m → ((List.range n).foldl
          (fun s j => multStep (a.getD i 0) (b.getD j 0) (i + j) s) (c, 0)).1.getD m 0 = c.getD m 0
  | 0, _ => by simp
  | n + 1, inside => by
    obtain ⟨value, length, frame⟩ := multRowLoop_value a b c i n (by omega)
    rw [List.range_succ, List.foldl_append, List.foldl_cons, List.foldl_nil]
    generalize ((List.range n).foldl
      (fun s j => multStep (a.getD i 0) (b.getD j 0) (i + j) s) (c, 0)) = s at value length frame ⊢
    obtain ⟨c', U⟩ := s
    dsimp only at value length frame
    obtain ⟨stepValue, stepLength, stepFrame⟩ :=
      multStep_value (a.getD i 0) (b.getD n 0) c' (k := i + n) (by omega) U
    refine ⟨?_, by rw [stepLength, length], fun m above => ?_⟩
    · rw [multiprecisionValue_take_succ]
      calc multiprecisionValue (multStep (a.getD i 0) (b.getD n 0) (i + n) (c', U)).1 +
            2 ^ (32 * (i + (n + 1))) * (multStep (a.getD i 0) (b.getD n 0) (i + n) (c', U)).2.toNat
          = multiprecisionValue c' + 2 ^ (32 * (i + n)) * U.toNat +
              2 ^ (32 * (i + n)) * ((a.getD i 0).toNat * (b.getD n 0).toNat) := by
            rw [← Nat.add_assoc i n 1, stepValue]
            ring
        _ = multiprecisionValue c + 2 ^ (32 * i) * ((a.getD i 0).toNat * multiprecisionValue (b.take n)) +
              2 ^ (32 * (i + n)) * ((a.getD i 0).toNat * (b.getD n 0).toNat) := by
            rw [value]
        _ = multiprecisionValue c + 2 ^ (32 * i) * ((a.getD i 0).toNat *
              (multiprecisionValue (b.take n) + 2 ^ (32 * n) * (b.getD n 0).toNat)) := by
            rw [Nat.mul_add 32 i n, pow_add]
            ring
    · rw [stepFrame m (by omega), frame m (by omega)]

/-- **One row of `multiprecision_mult`** adds `a[i] * b` at word `i`, when the
word it stores its last carry in is still zero. -/
theorem multRow_value (a b c : List UInt32) {i : ℕ} (sixteen : c.length = 16) (row : i < 8)
    (eightB : b.length = 8) (free : c.getD (i + 8) 0 = 0) :
    multiprecisionValue (multRow a b c i) =
        multiprecisionValue c + 2 ^ (32 * i) * ((a.getD i 0).toNat * multiprecisionValue b) ∧
      (multRow a b c i).length = 16 := by
  obtain ⟨value, length, frame⟩ := multRowLoop_value a b c i 8 (by omega)
  rw [List.take_of_length_le (by omega)] at value
  unfold multRow
  simp only [keyLengthDwordsP256]
  generalize ((List.range 8).foldl
    (fun s j => multStep (a.getD i 0) (b.getD j 0) (i + j) s) (c, 0)) = s at value length frame ⊢
  obtain ⟨c', U⟩ := s
  dsimp only at value length frame
  have stored := multiprecisionValue_set c' (k := i + 8) (by omega) U
  rw [frame (i + 8) le_rfl, free, UInt32.toNat_zero, Nat.mul_zero, Nat.add_zero] at stored
  refine ⟨?_, by rw [List.length_set, length, sixteen]⟩
  rw [stored, value]

/-- **`multiprecision_mult` is exact**: sixteen words of `a * b`. -/
theorem multiprecisionMult_value {a b : List UInt32} (eightA : a.length = 8) (eightB : b.length = 8) :
    multiprecisionValue (multiprecisionMult a b) = multiprecisionValue a * multiprecisionValue b ∧
      (multiprecisionMult a b).length = 16 := by
  -- the rows so far make the product of the first words of `a` with `b`
  have rows : ∀ n, n ≤ 8 →
      multiprecisionValue ((List.range n).foldl (multRow a b) (List.replicate 16 0)) =
          multiprecisionValue (a.take n) * multiprecisionValue b ∧
        ((List.range n).foldl (multRow a b) (List.replicate 16 0)).length = 16 := by
    intro n
    induction n with
    | zero =>
      intro _
      exact ⟨by rw [List.range_zero, List.foldl_nil, multiprecisionValue_replicate_zero,
        List.take_zero, multiprecisionValue_nil, Nat.zero_mul], by simp⟩
    | succ n ih =>
      intro atMost
      obtain ⟨value, length⟩ := ih (by omega)
      rw [List.range_succ, List.foldl_append, List.foldl_cons, List.foldl_nil]
      -- the product so far fits below word `n + 8`, so that word is still zero
      have fits : multiprecisionValue ((List.range n).foldl (multRow a b) (List.replicate 16 0)) <
          2 ^ (32 * (n + 8)) := by
        rw [value, Nat.mul_add, pow_add]
        have bBound := multiprecisionValue_lt b
        rw [eightB] at bBound
        exact Nat.mul_lt_mul'' (multiprecisionValue_take_lt a n) bBound
      obtain ⟨rowValue, rowLength⟩ := multRow_value a b _ length (by omega) eightB
        (getD_eq_zero_of_value_lt _ fits)
      refine ⟨?_, rowLength⟩
      rw [rowValue, value, multiprecisionValue_take_succ]
      ring
  obtain ⟨value, length⟩ := rows 8 le_rfl
  rw [List.take_of_length_le (by omega)] at value
  exact ⟨value, length⟩

/-! ## The shift -/

/-- One round of `multiprecision_lshift`: the word written and the bit shifted
out make up twice the word and the bit shifted in. -/
theorem lshiftWord_value (w carrier : UInt32) (bit : carrier.toNat ≤ 1) :
    ((w <<< 1) ||| carrier).toNat + 2 ^ 32 * (w >>> 31).toNat = 2 * w.toNat + carrier.toNat ∧
      (w >>> 31).toNat ≤ 1 := by
  have word := w.toNat_lt
  have shifted : (w <<< 1).toNat = 2 ^ 1 * (w.toNat % 2 ^ 31) := by
    rw [UInt32.toNat_shiftLeft, show UInt32.toNat 1 % 32 = 1 from rfl, Nat.shiftLeft_eq]
    omega
  have out : (w >>> 31).toNat = w.toNat / 2 ^ 31 := by
    rw [UInt32.toNat_shiftRight, show UInt32.toNat 31 % 32 = 31 from rfl, Nat.shiftRight_eq_div_pow]
  -- the bit shifted in fills the low bit the shift left free, so the or is a sum
  rw [UInt32.toNat_or, shifted, ← Nat.two_pow_add_eq_or_of_lt (by omega), out]
  omega

theorem lshiftLoop_value : ∀ (a : List UInt32) (carrier : UInt32), carrier.toNat ≤ 1 →
    multiprecisionValue (lshiftLoop a carrier).1 + 2 ^ (32 * a.length) * (lshiftLoop a carrier).2.toNat =
      2 * multiprecisionValue a + carrier.toNat ∧
    (lshiftLoop a carrier).2.toNat ≤ 1 ∧ (lshiftLoop a carrier).1.length = a.length
  | [], carrier, bit => ⟨by simp [lshiftLoop], bit, rfl⟩
  | w :: ws, carrier, bit => by
    obtain ⟨word, wordBit⟩ := lshiftWord_value w carrier bit
    obtain ⟨rest, restBit, restLength⟩ := lshiftLoop_value ws (w >>> 31) wordBit
    have split : 2 ^ (32 * (ws.length + 1)) = 2 ^ 32 * 2 ^ (32 * ws.length) := by
      rw [Nat.mul_succ, pow_add, Nat.mul_comm]
    refine ⟨?_, restBit, by simp [lshiftLoop, restLength]⟩
    simp only [lshiftLoop, List.length_cons, split, multiprecisionValue_cons]
    -- the bit shifted out of this word is shifted into the rest
    have lifted := congrArg (2 ^ 32 * ·) rest
    simp only [Nat.mul_add, ← Nat.mul_assoc] at lifted
    omega

/-- **`multiprecision_lshift` doubles**, with the bit shifted out as the word above. -/
theorem multiprecisionLshift_value (a : List UInt32) :
    multiprecisionValue (multiprecisionLshift a).1 +
        2 ^ (32 * a.length) * (multiprecisionLshift a).2.toNat = 2 * multiprecisionValue a ∧
    (multiprecisionLshift a).2.toNat ≤ 1 ∧ (multiprecisionLshift a).1.length = a.length := by
  have chain := lshiftLoop_value a 0 (by decide)
  rw [UInt32.toNat_zero, Nat.add_zero] at chain
  exact chain

/-! ## The modular operations -/

/-- **The correction of the modular add and shift**: words and a carry that
make up less than `2 p` come out reduced modulo `p`. -/
theorem subModpOnce_value {modp c : List UInt32} {carrier : UInt32} (eightC : c.length = 8)
    (eightP : modp.length = 8) (bit : carrier.toNat ≤ 1)
    (twice : multiprecisionValue c + 2 ^ 256 * carrier.toNat < 2 * multiprecisionValue modp) :
    multiprecisionValue (subModpOnce modp c carrier) =
        (multiprecisionValue c + 2 ^ 256 * carrier.toNat) % multiprecisionValue modp ∧
      (subModpOnce modp c carrier).length = 8 := by
  have pBound := multiprecisionValue_lt modp
  rw [eightP] at pBound
  unfold subModpOnce
  rcases Nat.le_one_iff_eq_zero_or_eq_one.mp bit with none | carried
  · -- no carry: take `p` away when the words are at least `p`
    have zero : carrier = 0 := UInt32.toNat_inj.mp none
    rw [if_neg (not_not.mpr zero), none, Nat.mul_zero, Nat.add_zero]
    split
    case isTrue atLeast =>
      rw [ge_iff_le, multiprecisionCompare_nonneg_iff eightC eightP] at atLeast
      obtain ⟨value, _, length⟩ := multiprecisionSub_of_le (by omega) atLeast
      rw [value, length, Nat.mod_eq_sub_mod atLeast, Nat.mod_eq_of_lt (by omega)]
      exact ⟨rfl, eightC⟩
    case isFalse below =>
      rw [ge_iff_le, multiprecisionCompare_nonneg_iff eightC eightP] at below
      exact ⟨(Nat.mod_eq_of_lt (by omega)).symm, eightC⟩
  · -- a carry: the words hold the sum less `2^256`, below `p`, and the
    -- subtraction borrows the carry back
    have nonzero : carrier ≠ 0 := fun zero => by
      rw [zero, UInt32.toNat_zero] at carried
      cases carried
    rw [if_pos nonzero, carried, Nat.mul_one]
    rw [carried, Nat.mul_one] at twice
    obtain ⟨value, _, length⟩ := multiprecisionSub_of_lt (a := c) (b := modp) (by omega) (by omega)
    rw [value, length, eightC, Nat.mod_eq_sub_mod (by omega), Nat.mod_eq_of_lt (by omega)]
    exact ⟨rfl, rfl⟩

theorem Ecc.multiprecisionAddMod_eq (a b modp : List UInt32) :
    Ecc.multiprecisionAddMod a b modp =
      subModpOnce modp (multiprecisionAdd a b).1 (multiprecisionAdd a b).2 := rfl

theorem Ecc.multiprecisionLshiftMod_eq (a modp : List UInt32) :
    Ecc.multiprecisionLshiftMod a modp =
      subModpOnce modp (multiprecisionLshift a).1 (multiprecisionLshift a).2 := rfl

/-- **`multiprecision_add_mod` adds modulo `p`** for `a` and `b` below `p`. -/
theorem Ecc.multiprecisionAddMod_value {a b modp : List UInt32} (eightA : a.length = 8)
    (eightB : b.length = 8) (eightP : modp.length = 8)
    (ltA : multiprecisionValue a < multiprecisionValue modp)
    (ltB : multiprecisionValue b < multiprecisionValue modp) :
    multiprecisionValue (Ecc.multiprecisionAddMod a b modp) =
        (multiprecisionValue a + multiprecisionValue b) % multiprecisionValue modp ∧
      (Ecc.multiprecisionAddMod a b modp).length = 8 := by
  obtain ⟨sum, bit, length⟩ := multiprecisionAdd_value (a := a) (b := b) (by omega)
  rw [eightA] at sum
  rw [eightA] at length
  rw [Ecc.multiprecisionAddMod_eq, ← sum]
  exact subModpOnce_value length eightP bit (by omega)

/-- **`multiprecision_lshift_mod` doubles modulo `p`** for `a` below `p`. -/
theorem Ecc.multiprecisionLshiftMod_value {a modp : List UInt32} (eightA : a.length = 8)
    (eightP : modp.length = 8) (ltA : multiprecisionValue a < multiprecisionValue modp) :
    multiprecisionValue (Ecc.multiprecisionLshiftMod a modp) =
        2 * multiprecisionValue a % multiprecisionValue modp ∧
      (Ecc.multiprecisionLshiftMod a modp).length = 8 := by
  obtain ⟨doubled, bit, length⟩ := multiprecisionLshift_value a
  rw [eightA] at doubled
  rw [eightA] at length
  rw [Ecc.multiprecisionLshiftMod_eq, ← doubled]
  exact subModpOnce_value length eightP bit (by omega)

/-- **`multiprecision_sub_mod` subtracts modulo `p`**, as a remainder in `ℤ`. -/
theorem Ecc.multiprecisionSubMod_emod {a b modp : List UInt32} (eightA : a.length = 8)
    (eightB : b.length = 8) (eightP : modp.length = 8)
    (ltA : multiprecisionValue a < multiprecisionValue modp)
    (ltB : multiprecisionValue b < multiprecisionValue modp) :
    (multiprecisionValue (Ecc.multiprecisionSubMod a b modp) : ℤ) =
        ((multiprecisionValue a : ℤ) - multiprecisionValue b) % multiprecisionValue modp := by
  obtain ⟨value, _⟩ := Ecc.multiprecisionSubMod_value eightA eightB eightP ltA ltB
  rw [value]
  split
  case isTrue le =>
    rw [Int.emod_eq_of_lt (by omega) (by omega)]
    omega
  case isFalse lt =>
    -- a negative difference is brought back by one `p`
    rw [← Int.add_emod_right, Int.emod_eq_of_lt (by omega) (by omega)]
    omega

theorem multiprecisionAddMod_eq_ecc (a b : List UInt32) :
    multiprecisionAddMod a b = Ecc.multiprecisionAddMod a b p256InitCurve.p := rfl

theorem multiprecisionLshiftMod_eq_ecc (a : List UInt32) :
    multiprecisionLshiftMod a = Ecc.multiprecisionLshiftMod a p256InitCurve.p := rfl

/-- The three modular operations of the GD copy, for `a` and `b` below a modulus
of eight words: each is the remainder it should be, and below the modulus. -/
theorem Ecc.modularOps_value {a b modp : List UInt32} (eightA : a.length = 8)
    (eightB : b.length = 8) (eightP : modp.length = 8)
    (ltA : multiprecisionValue a < multiprecisionValue modp)
    (ltB : multiprecisionValue b < multiprecisionValue modp) :
    multiprecisionValue (Ecc.multiprecisionAddMod a b modp) =
        (multiprecisionValue a + multiprecisionValue b) % multiprecisionValue modp ∧
      multiprecisionValue (Ecc.multiprecisionAddMod a b modp) < multiprecisionValue modp ∧
      (multiprecisionValue (Ecc.multiprecisionSubMod a b modp) : ℤ) =
        ((multiprecisionValue a : ℤ) - multiprecisionValue b) % multiprecisionValue modp ∧
      multiprecisionValue (Ecc.multiprecisionSubMod a b modp) < multiprecisionValue modp ∧
      multiprecisionValue (Ecc.multiprecisionLshiftMod a modp) =
        2 * multiprecisionValue a % multiprecisionValue modp ∧
      multiprecisionValue (Ecc.multiprecisionLshiftMod a modp) < multiprecisionValue modp := by
  have positive : 0 < multiprecisionValue modp := by omega
  obtain ⟨added, _⟩ := Ecc.multiprecisionAddMod_value eightA eightB eightP ltA ltB
  obtain ⟨doubled, _⟩ := Ecc.multiprecisionLshiftMod_value eightA eightP ltA
  obtain ⟨subtracted, _⟩ := Ecc.multiprecisionSubMod_value eightA eightB eightP ltA ltB
  have remainder := Ecc.multiprecisionSubMod_emod eightA eightB eightP ltA ltB
  refine ⟨added, added ▸ Nat.mod_lt _ positive, remainder, ?_, doubled,
    doubled ▸ Nat.mod_lt _ positive⟩
  rw [subtracted]
  split <;> omega

/-- **The multiprecision primitives are exact.**  `multiprecision_mult` writes the
512-bit product of two 256-bit numbers; `multiprecision_add` and
`multiprecision_sub` return the carry and the borrow of the exact sum and
difference; and for `a`, `b` below the modulus, `multiprecision_add_mod`,
`multiprecision_sub_mod` and `multiprecision_lshift_mod` return `(a + b) mod p`,
`(a - b) mod p` and `2 a mod p`, each below `p` -- in the GD copies for every
modulus of eight words, and in the stack's for `curve_p256.p`.  The product,
the sum, the difference and the shift have the same text in both copies. -/
theorem multiprecision_primitives_exact :
    (∀ a b : List UInt32, a.length = 8 → b.length = 8 →
      multiprecisionValue (multiprecisionMult a b) = multiprecisionValue a * multiprecisionValue b ∧
        (multiprecisionMult a b).length = 16) ∧
    (∀ a b : List UInt32, a.length = 8 → b.length = 8 →
      multiprecisionValue (multiprecisionAdd a b).1 + 2 ^ 256 * (multiprecisionAdd a b).2.toNat =
          multiprecisionValue a + multiprecisionValue b ∧
        (multiprecisionAdd a b).2.toNat ≤ 1) ∧
    (∀ a b : List UInt32, a.length = 8 → b.length = 8 →
      multiprecisionValue (multiprecisionSub a b).1 + multiprecisionValue b =
          multiprecisionValue a + 2 ^ 256 * (multiprecisionSub a b).2.toNat ∧
        (multiprecisionSub a b).2.toNat ≤ 1) ∧
    (∀ a b modp : List UInt32, a.length = 8 → b.length = 8 → modp.length = 8 →
      multiprecisionValue a < multiprecisionValue modp →
      multiprecisionValue b < multiprecisionValue modp →
      multiprecisionValue (Ecc.multiprecisionAddMod a b modp) =
          (multiprecisionValue a + multiprecisionValue b) % multiprecisionValue modp ∧
        multiprecisionValue (Ecc.multiprecisionAddMod a b modp) < multiprecisionValue modp ∧
        (multiprecisionValue (Ecc.multiprecisionSubMod a b modp) : ℤ) =
          ((multiprecisionValue a : ℤ) - multiprecisionValue b) % multiprecisionValue modp ∧
        multiprecisionValue (Ecc.multiprecisionSubMod a b modp) < multiprecisionValue modp ∧
        multiprecisionValue (Ecc.multiprecisionLshiftMod a modp) =
          2 * multiprecisionValue a % multiprecisionValue modp ∧
        multiprecisionValue (Ecc.multiprecisionLshiftMod a modp) < multiprecisionValue modp) ∧
    (∀ a b : List UInt32, a.length = 8 → b.length = 8 →
      multiprecisionValue a < multiprecisionValue p256InitCurve.p →
      multiprecisionValue b < multiprecisionValue p256InitCurve.p →
      multiprecisionValue (multiprecisionAddMod a b) =
          (multiprecisionValue a + multiprecisionValue b) % multiprecisionValue p256InitCurve.p ∧
        multiprecisionValue (multiprecisionAddMod a b) < multiprecisionValue p256InitCurve.p ∧
        (multiprecisionValue (multiprecisionSubMod a b) : ℤ) =
          ((multiprecisionValue a : ℤ) - multiprecisionValue b) % multiprecisionValue p256InitCurve.p ∧
        multiprecisionValue (multiprecisionSubMod a b) < multiprecisionValue p256InitCurve.p ∧
        multiprecisionValue (multiprecisionLshiftMod a) =
          2 * multiprecisionValue a % multiprecisionValue p256InitCurve.p ∧
        multiprecisionValue (multiprecisionLshiftMod a) < multiprecisionValue p256InitCurve.p) := by
  refine ⟨?mult, ?add, ?sub, ?gd, ?stack⟩
  case mult =>
    intro a b eightA eightB
    exact multiprecisionMult_value eightA eightB
  case add =>
    intro a b eightA eightB
    obtain ⟨sum, bit, _⟩ := multiprecisionAdd_value (a := a) (b := b) (by omega)
    rw [eightA] at sum
    exact ⟨sum, bit⟩
  case sub =>
    intro a b eightA eightB
    obtain ⟨difference, bit, _⟩ := multiprecisionSub_value (a := a) (b := b) (by omega)
    rw [eightA] at difference
    exact ⟨difference, bit⟩
  case gd =>
    intro a b modp eightA eightB eightP ltA ltB
    exact Ecc.modularOps_value eightA eightB eightP ltA ltB
  case stack =>
    -- the stack's copies are the GD ones at `curve_p256.p`
    intro a b eightA eightB ltA ltB
    rw [multiprecisionAddMod_eq_ecc, multiprecisionSubMod_eq_ecc, multiprecisionLshiftMod_eq_ecc]
    exact Ecc.modularOps_value eightA eightB rfl ltA ltB

/-- The words of P-256's base point, `G.x` and `G.y` as `p_256_init_curve`
sets them: their product; the sum of `p` and `G.x`, which carries out of the
top word; `b - G.x`, which borrows; and the modular operations of both copies
on `G.x` and `G.y`. -/
theorem multiprecision_primitives_base_point :
    (multiprecisionValue (multiprecisionMult
        [0xd898c296, 0xf4a13945, 0x2deb33a0, 0x77037d81, 0x63a440f2, 0xf8bce6e5, 0xe12c4247, 0x6b17d1f2]
        [0x37bf51f5, 0xcbb64068, 0x6b315ece, 0x2bce3357, 0x7c0f9e16, 0x8ee7eb4a, 0xfe1a7f9b, 0x4fe342e2]) =
      multiprecisionValue
          [0xd898c296, 0xf4a13945, 0x2deb33a0, 0x77037d81, 0x63a440f2, 0xf8bce6e5, 0xe12c4247, 0x6b17d1f2] *
        multiprecisionValue
          [0x37bf51f5, 0xcbb64068, 0x6b315ece, 0x2bce3357, 0x7c0f9e16, 0x8ee7eb4a, 0xfe1a7f9b, 0x4fe342e2] ∧
      (multiprecisionMult
        [0xd898c296, 0xf4a13945, 0x2deb33a0, 0x77037d81, 0x63a440f2, 0xf8bce6e5, 0xe12c4247, 0x6b17d1f2]
        [0x37bf51f5, 0xcbb64068, 0x6b315ece, 0x2bce3357, 0x7c0f9e16, 0x8ee7eb4a, 0xfe1a7f9b, 0x4fe342e2]).length =
        16) ∧
    (multiprecisionAdd p256InitCurve.p
        [0xd898c296, 0xf4a13945, 0x2deb33a0, 0x77037d81, 0x63a440f2, 0xf8bce6e5, 0xe12c4247, 0x6b17d1f2]).2 = 1 ∧
    (multiprecisionValue (multiprecisionAdd p256InitCurve.p
        [0xd898c296, 0xf4a13945, 0x2deb33a0, 0x77037d81, 0x63a440f2, 0xf8bce6e5, 0xe12c4247, 0x6b17d1f2]).1 +
        2 ^ 256 * (multiprecisionAdd p256InitCurve.p
          [0xd898c296, 0xf4a13945, 0x2deb33a0, 0x77037d81, 0x63a440f2, 0xf8bce6e5, 0xe12c4247, 0x6b17d1f2]).2.toNat =
      multiprecisionValue p256InitCurve.p +
        multiprecisionValue
          [0xd898c296, 0xf4a13945, 0x2deb33a0, 0x77037d81, 0x63a440f2, 0xf8bce6e5, 0xe12c4247, 0x6b17d1f2]) ∧
    (multiprecisionSub p256InitCurve.b
        [0xd898c296, 0xf4a13945, 0x2deb33a0, 0x77037d81, 0x63a440f2, 0xf8bce6e5, 0xe12c4247, 0x6b17d1f2]).2 = 1 ∧
    (multiprecisionValue (multiprecisionSub p256InitCurve.b
        [0xd898c296, 0xf4a13945, 0x2deb33a0, 0x77037d81, 0x63a440f2, 0xf8bce6e5, 0xe12c4247, 0x6b17d1f2]).1 +
        multiprecisionValue
          [0xd898c296, 0xf4a13945, 0x2deb33a0, 0x77037d81, 0x63a440f2, 0xf8bce6e5, 0xe12c4247, 0x6b17d1f2] =
      multiprecisionValue p256InitCurve.b + 2 ^ 256 * (multiprecisionSub p256InitCurve.b
        [0xd898c296, 0xf4a13945, 0x2deb33a0, 0x77037d81, 0x63a440f2, 0xf8bce6e5, 0xe12c4247, 0x6b17d1f2]).2.toNat) ∧
    multiprecisionValue (Ecc.multiprecisionAddMod
        [0xd898c296, 0xf4a13945, 0x2deb33a0, 0x77037d81, 0x63a440f2, 0xf8bce6e5, 0xe12c4247, 0x6b17d1f2]
        [0x37bf51f5, 0xcbb64068, 0x6b315ece, 0x2bce3357, 0x7c0f9e16, 0x8ee7eb4a, 0xfe1a7f9b, 0x4fe342e2]
        p256InitCurve.p) =
      (multiprecisionValue
          [0xd898c296, 0xf4a13945, 0x2deb33a0, 0x77037d81, 0x63a440f2, 0xf8bce6e5, 0xe12c4247, 0x6b17d1f2] +
        multiprecisionValue
          [0x37bf51f5, 0xcbb64068, 0x6b315ece, 0x2bce3357, 0x7c0f9e16, 0x8ee7eb4a, 0xfe1a7f9b, 0x4fe342e2]) %
        multiprecisionValue p256InitCurve.p ∧
    (multiprecisionValue (multiprecisionSubMod
        [0x37bf51f5, 0xcbb64068, 0x6b315ece, 0x2bce3357, 0x7c0f9e16, 0x8ee7eb4a, 0xfe1a7f9b, 0x4fe342e2]
        [0xd898c296, 0xf4a13945, 0x2deb33a0, 0x77037d81, 0x63a440f2, 0xf8bce6e5, 0xe12c4247, 0x6b17d1f2]) : ℤ) =
      ((multiprecisionValue
          [0x37bf51f5, 0xcbb64068, 0x6b315ece, 0x2bce3357, 0x7c0f9e16, 0x8ee7eb4a, 0xfe1a7f9b, 0x4fe342e2] : ℤ) -
        multiprecisionValue
          [0xd898c296, 0xf4a13945, 0x2deb33a0, 0x77037d81, 0x63a440f2, 0xf8bce6e5, 0xe12c4247, 0x6b17d1f2]) %
        multiprecisionValue p256InitCurve.p ∧
    multiprecisionValue (multiprecisionLshiftMod
        [0xd898c296, 0xf4a13945, 0x2deb33a0, 0x77037d81, 0x63a440f2, 0xf8bce6e5, 0xe12c4247, 0x6b17d1f2]) =
      2 * multiprecisionValue
          [0xd898c296, 0xf4a13945, 0x2deb33a0, 0x77037d81, 0x63a440f2, 0xf8bce6e5, 0xe12c4247, 0x6b17d1f2] %
        multiprecisionValue p256InitCurve.p := by
  obtain ⟨mult, add, sub, gd, stack⟩ := multiprecision_primitives_exact
  have gyBelow : multiprecisionValue
      [0x37bf51f5, 0xcbb64068, 0x6b315ece, 0x2bce3357, 0x7c0f9e16, 0x8ee7eb4a, 0xfe1a7f9b, 0x4fe342e2] <
        multiprecisionValue p256InitCurve.p := by decide
  have gxBelow : multiprecisionValue
      [0xd898c296, 0xf4a13945, 0x2deb33a0, 0x77037d81, 0x63a440f2, 0xf8bce6e5, 0xe12c4247, 0x6b17d1f2] <
        multiprecisionValue p256InitCurve.p := by decide
  exact ⟨mult _ _ rfl rfl, by decide, (add _ _ rfl rfl).1, by decide, (sub _ _ rfl rfl).1,
    (gd _ _ _ rfl rfl rfl gxBelow gyBelow).1, (stack _ _ rfl rfl gyBelow gxBelow).2.2.1,
    (stack _ _ rfl rfl gxBelow gyBelow).2.2.2.2.1⟩

end Bluedroid.Smp
