import Bluedroid.Theory.Octets
import Mathlib.Data.List.Range

/-!
# Theory.BitStream -- bit strings, least significant bit first

A writer that packs fields of any width into octets produces a bit string: the
bits of each octet, least significant first, then the bits it holds back.  The
low `k` bits of a number in that order are `bitsOf x k`, and the bits of an
octet string are those of its number (`bitsOf_leValue`).

So a proof about such a writer can work on numbers: a field `b` of `k` bits
written after `j` bits `a` is the number `a + 2 ^ j * b`, whose bits are those
of `a` followed by those of `b` (`bitsOf_add_two_pow_mul`), and only the low
`k` bits of the field count (`bitsOf_mod_two_pow`).
-/

namespace Bluedroid.Theory

set_option autoImplicit false

/-- The low `k` bits of `x`, least significant first. -/
def bitsOf (x k : ℕ) : List Bool := (List.range k).map x.testBit

@[simp] theorem length_bitsOf (x k : ℕ) : (bitsOf x k).length = k := by
  simp [bitsOf]

@[simp] theorem bitsOf_zero (x : ℕ) : bitsOf x 0 = [] := rfl

/-- The first `j` bits, then the `k` after them. -/
theorem bitsOf_add (x j k : ℕ) : bitsOf x (j + k) = bitsOf x j ++ bitsOf (x / 2 ^ j) k := by
  simp only [bitsOf, List.range_add, List.map_append, List.map_map]
  congr 1
  apply List.map_congr_left
  intro i _
  simp only [Function.comp_apply, Nat.testBit_div_two_pow, Nat.add_comm]

/-- Bits at or above `m` do not show among the low `k ≤ m`. -/
theorem bitsOf_mod_two_pow (x : ℕ) {k m : ℕ} (within : k ≤ m) :
    bitsOf (x % 2 ^ m) k = bitsOf x k := by
  apply List.map_congr_left
  intro i mem
  rw [List.mem_range] at mem
  simp only [Nat.testBit_mod_two_pow, decide_eq_true (Nat.lt_of_lt_of_le mem within),
    Bool.true_and]

/-- The bits of a field that lies below `m` do not see the bits at or above `m`. -/
theorem bitsOf_mod_div (x : ℕ) {j k m : ℕ} (within : j + k ≤ m) :
    bitsOf (x % 2 ^ m / 2 ^ j) k = bitsOf (x / 2 ^ j) k := by
  apply List.map_congr_left
  intro i mem
  rw [List.mem_range] at mem
  simp only [Nat.testBit_div_two_pow, Nat.testBit_mod_two_pow,
    decide_eq_true (show i + j < m by omega), Bool.true_and]

/-- `k` fields of `w` bits each, the lowest first. -/
theorem bitsOf_mul (x w k : ℕ) :
    bitsOf x (w * k) = (List.range k).flatMap fun i => bitsOf (x / 2 ^ (w * i)) w := by
  induction k with
  | zero => rfl
  | succ k ih => rw [Nat.mul_succ, bitsOf_add, ih, List.range_succ, List.flatMap_append,
      List.flatMap_singleton]

/-- A field `b` written after the `j` bits of `a`. -/
theorem bitsOf_add_two_pow_mul {a : ℕ} (b : ℕ) {j : ℕ} (k : ℕ) (low : a < 2 ^ j) :
    bitsOf (a + 2 ^ j * b) (j + k) = bitsOf a j ++ bitsOf b k := by
  have pos : 0 < 2 ^ j := Nat.two_pow_pos j
  have lowPart : (a + 2 ^ j * b) % 2 ^ j = a := by
    rw [Nat.add_mul_mod_self_left, Nat.mod_eq_of_lt low]
  have highPart : (a + 2 ^ j * b) / 2 ^ j = b := by
    rw [Nat.add_mul_div_left _ _ pos, Nat.div_eq_of_lt low, Nat.zero_add]
  rw [bitsOf_add, highPart, ← bitsOf_mod_two_pow _ (le_refl j), lowPart]

/-- A field of `k` bits above `j` bits makes a number of `j + k` bits. -/
theorem add_two_pow_mul_lt {a b j k : ℕ} (low : a < 2 ^ j) (high : b < 2 ^ k) :
    a + 2 ^ j * b < 2 ^ (j + k) :=
  calc a + 2 ^ j * b < 2 ^ j * (b + 1) := by rw [Nat.mul_succ]; omega
    _ ≤ 2 ^ j * 2 ^ k := Nat.mul_le_mul_left _ high
    _ = 2 ^ (j + k) := (pow_add 2 j k).symm

/-- The bits of an octet string, octet by octet. -/
theorem bitsOf_leValue (b : List UInt8) :
    bitsOf (leValue b) (8 * b.length) = b.flatMap fun x => bitsOf x.toNat 8 := by
  induction b with
  | nil => rfl
  | cons x b ih =>
    rw [leValue_cons, List.length_cons, Nat.mul_succ, Nat.add_comm (8 * b.length) 8,
      show (256 : ℕ) = 2 ^ 8 from rfl, bitsOf_add_two_pow_mul _ _ x.toNat_lt, ih,
      List.flatMap_cons]

end Bluedroid.Theory
