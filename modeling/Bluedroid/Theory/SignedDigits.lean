import Mathlib.GroupTheory.OrderOfElement
import Mathlib.Tactic.Module

/-!
# Theory.SignedDigits -- double-and-add over signed binary digits

A scalar recoded into digits `d 0, d 1, …` (least significant first, each digit
any integer, in practice `-1`, `0` or `1`) stands for `∑ d i * 2 ^ i`
(`signedValue`).  Double-and-add reads the digits from the most significant
down, doubling the accumulator and adding `d i • p` (`doubleAndAdd`); it
computes `2 ^ n • q + signedValue d n • p` from any start `q`
(`doubleAndAdd_eq`), so from the identity it multiplies `p` by the recoded
value, whatever the recoding.  Whether that value is the scalar meant is the
recoder's business.

In a group where `p` has odd order and is not the identity, `-p` is not
`(2 ^ m - 1) • p` (`nsmul_two_pow_sub_one_ne_neg`): a recoding of `2 ^ m - 1`
that loses its top digit is visible in the product.
-/

namespace Bluedroid.Theory

set_option autoImplicit false

variable {G : Type*} [AddCommGroup G]

/-- The value of the first `n` signed binary digits, least significant first. -/
def signedValue (d : ℕ → ℤ) : ℕ → ℤ
  | 0 => 0
  | n + 1 => signedValue d n + d n * 2 ^ n

/-- The value reads only the digits below `n`. -/
theorem signedValue_congr {d d' : ℕ → ℤ} {n : ℕ} (same : ∀ j < n, d j = d' j) :
    signedValue d n = signedValue d' n := by
  induction n with
  | zero => rfl
  | succ n ih =>
      rw [signedValue, signedValue, ih (fun j lt => same j (by omega)), same n (by omega)]

/-- Double-and-add over the digits `n - 1` down to `0`, from the accumulator `q`. -/
def doubleAndAdd (d : ℕ → ℤ) (p : G) : ℕ → G → G
  | 0, q => q
  | n + 1, q => doubleAndAdd d p n ((q + q) + d n • p)

/-- **Double-and-add multiplies by the recoded value.** -/
theorem doubleAndAdd_eq (d : ℕ → ℤ) (p : G) (n : ℕ) (q : G) :
    doubleAndAdd d p n q = 2 ^ n • q + signedValue d n • p := by
  -- the digit read first is the most significant, so the accumulator is generalised
  induction n generalizing q with
  | zero => simp [doubleAndAdd, signedValue]
  | succ n ih =>
      rw [doubleAndAdd, ih, signedValue]
      module

theorem doubleAndAdd_zero (d : ℕ → ℤ) (p : G) (n : ℕ) :
    doubleAndAdd d p n 0 = signedValue d n • p := by
  simp [doubleAndAdd_eq]

/-- In a group where `p` has odd order, `2 ^ m • p = 0` only for the identity. -/
theorem two_pow_nsmul_ne_zero {p : G} (odd : Odd (addOrderOf p)) (nonzero : p ≠ 0) (m : ℕ) :
    (2 ^ m) • p ≠ 0 := by
  intro vanishes
  have divides : addOrderOf p ∣ 2 ^ m := addOrderOf_dvd_iff_nsmul_eq_zero.mpr vanishes
  have one : addOrderOf p = 1 :=
    Nat.Coprime.eq_one_of_dvd (odd.coprime_two_right.pow_right m) divides
  exact nonzero (AddMonoid.addOrderOf_eq_one_iff.mp one)

theorem nsmul_two_pow_sub_one_ne_neg {p : G} (odd : Odd (addOrderOf p)) (nonzero : p ≠ 0)
    (m : ℕ) : -p ≠ (2 ^ m - 1) • p := by
  intro same
  have split : (2 ^ m) • p = (2 ^ m - 1) • p + p := by
    rw [← succ_nsmul, Nat.sub_add_cancel (Nat.one_le_two_pow)]
  apply two_pow_nsmul_ne_zero odd nonzero m
  rw [split, ← same, neg_add_cancel]

end Bluedroid.Theory
