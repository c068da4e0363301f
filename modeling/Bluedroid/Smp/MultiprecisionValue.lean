import Bluedroid.Smp.Multiprecision

/-!
# Smp.MultiprecisionValue -- what the word helpers do to the number

Each helper of `p_256_multprecision.cc` gets one lemma that says what it does to
`multiprecisionValue`: the right shift halves (`multiprecisionValue_rshift`),
the add and the sub give the sum and the difference with the carry or borrow
out as the word above (`addLoop_value`, `subLoop_value`), the comparison is the
order of the numbers (`multiprecisionCompare_eq`) and the zero test is the test
of the number (`multiprecisionIszero_iff`).  Callers cite these and never
unfold a helper.

A round of the add or the sub is one word of a carry chain: the word written
and the carry out make up the two words and the carry in (`addWord_value`,
`subWord_value`), as a limb of an adder is specified.
-/

namespace Bluedroid.Smp

set_option autoImplicit false

/-! ## The value of a word array -/

@[simp] theorem multiprecisionValue_nil : multiprecisionValue [] = 0 := rfl

@[simp] theorem multiprecisionValue_cons (w : UInt32) (ws : List UInt32) :
    multiprecisionValue (w :: ws) = w.toNat + 2 ^ 32 * multiprecisionValue ws := by
  simp [multiprecisionValue, Nat.ofDigits_cons]

theorem multiprecisionValue_lt (a : List UInt32) :
    multiprecisionValue a < 2 ^ (32 * a.length) := by
  induction a with
  | nil => simp
  | cons w ws ih =>
      have word := w.toNat_lt
      have split : 2 ^ (32 * (ws.length + 1)) = 2 ^ 32 * 2 ^ (32 * ws.length) := by
        rw [Nat.mul_succ, pow_add, Nat.mul_comm]
      rw [multiprecisionValue_cons, List.length_cons, split]
      calc w.toNat + 2 ^ 32 * multiprecisionValue ws
          < 2 ^ 32 * (multiprecisionValue ws + 1) := by omega
        _ ≤ 2 ^ 32 * 2 ^ (32 * ws.length) := Nat.mul_le_mul_left _ ih

theorem multiprecisionValue_mod_two (a : List UInt32) :
    multiprecisionValue a % 2 = (a.headD 0).toNat % 2 := by
  cases a with
  | nil => rfl
  | cons w ws =>
      simp only [multiprecisionValue_cons, List.headD_cons]
      omega

theorem multiprecisionValue_mod_four (a : List UInt32) :
    multiprecisionValue a % 4 = (a.getD 0 0).toNat % 4 := by
  cases a with
  | nil => rfl
  | cons w ws =>
      simp only [multiprecisionValue_cons, List.getD_cons_zero]
      omega

theorem multiprecisionValue_eq_zero_iff (a : List UInt32) :
    multiprecisionValue a = 0 ↔ ∀ i < a.length, a.getD i 0 = 0 := by
  induction a with
  | nil => simp
  | cons w ws ih =>
      rw [multiprecisionValue_cons]
      constructor
      · intro zero i lt
        cases i with
        | zero =>
            show w = 0
            exact UInt32.toNat_inj.mp (by simp only [UInt32.toNat_zero]; omega)
        | succ i =>
            exact ih.mp (by omega) i (by simpa using lt)
      · intro zero
        have first : w = 0 := by simpa using zero 0 (by simp)
        have firstNat : w.toNat = 0 := by simp [first]
        have rest : multiprecisionValue ws = 0 :=
          ih.mpr fun i lt => by simpa using zero (i + 1) (by simpa using lt)
        omega

theorem multiprecisionValue_append (a b : List UInt32) :
    multiprecisionValue (a ++ b) =
      multiprecisionValue a + 2 ^ (32 * a.length) * multiprecisionValue b := by
  simp only [multiprecisionValue, List.map_append, Nat.ofDigits_append, List.length_map, ← pow_mul]

/-- The first `n` words stand for the value modulo `2 ^ (32 * n)`. -/
theorem multiprecisionValue_take (a : List UInt32) (n : ℕ) :
    multiprecisionValue (a.take n) = multiprecisionValue a % 2 ^ (32 * n) := by
  induction a generalizing n with
  | nil => simp
  | cons w ws ih =>
    cases n with
    | zero => simp [Nat.mod_one]
    | succ n =>
      have word := w.toNat_lt
      rw [List.take_succ_cons, multiprecisionValue_cons, multiprecisionValue_cons, ih,
        Nat.mul_succ, pow_add, Nat.mul_comm (2 ^ (32 * n)), Nat.mod_mul]
      -- the low word is what is left below `2 ^ 32`, the rest is the quotient
      have low : (w.toNat + 2 ^ 32 * multiprecisionValue ws) % 2 ^ 32 = w.toNat := by omega
      have high : (w.toNat + 2 ^ 32 * multiprecisionValue ws) / 2 ^ 32 = multiprecisionValue ws := by
        omega
      rw [low, high]

theorem multiprecisionValue_take_succ (a : List UInt32) (n : ℕ) :
    multiprecisionValue (a.take (n + 1)) =
      multiprecisionValue (a.take n) + 2 ^ (32 * n) * (a.getD n 0).toNat := by
  induction a generalizing n with
  | nil => simp
  | cons w ws ih =>
    cases n with
    | zero => simp
    | succ n =>
      rw [List.take_succ_cons, List.take_succ_cons, multiprecisionValue_cons,
        multiprecisionValue_cons, ih, List.getD_cons_succ, Nat.mul_succ, pow_add]
      ring

theorem multiprecisionValue_take_lt (a : List UInt32) (n : ℕ) :
    multiprecisionValue (a.take n) < 2 ^ (32 * n) := by
  rw [multiprecisionValue_take]
  exact Nat.mod_lt _ (by positivity)

/-! ## Bits of a `uint32_t` -/

theorem toNat_and_one (w : UInt32) : (w &&& 1).toNat = w.toNat % 2 := by
  rw [UInt32.toNat_and, show UInt32.toNat 1 = 2 ^ 1 - 1 from rfl,
    Nat.and_two_pow_sub_one_eq_mod]

theorem toNat_and_three (w : UInt32) : (w &&& 3).toNat = w.toNat % 4 := by
  rw [UInt32.toNat_and, show UInt32.toNat 3 = 2 ^ 2 - 1 from rfl,
    Nat.and_two_pow_sub_one_eq_mod]

theorem toNat_decide_or_decide (p q : Prop) [Decidable p] [Decidable q] :
    ((decide p).toUInt32 ||| (decide q).toUInt32).toNat = if p ∨ q then 1 else 0 := by
  by_cases hp : p <;> by_cases hq : q <;> simp [hp, hq, Bool.toUInt32]

/-- The word `multiprecision_rshift` writes: `(a[i] >> 1) | (a[i + 1] << 31)`. -/
theorem toNat_shift_or (w h : UInt32) :
    ((w >>> 1) ||| (h <<< 31)).toNat = w.toNat / 2 + h.toNat % 2 * 2 ^ 31 := by
  rw [UInt32.toNat_or, UInt32.toNat_shiftRight, UInt32.toNat_shiftLeft]
  have low : w.toNat >>> (UInt32.toNat 1 % 32) = w.toNat / 2 := by
    simp [Nat.shiftRight_eq_div_pow]
  have high : h.toNat <<< (UInt32.toNat 31 % 32) % 2 ^ 32 = 2 ^ 31 * (h.toNat % 2) := by
    simp only [Nat.shiftLeft_eq]
    show h.toNat * 2 ^ 31 % 2 ^ 32 = 2 ^ 31 * (h.toNat % 2)
    omega
  have small : w.toNat / 2 < 2 ^ 31 := by
    have word := w.toNat_lt
    omega
  -- the two parts occupy disjoint bits, so the or is a sum
  rw [low, high, Nat.or_comm, ← Nat.two_pow_add_eq_or_of_lt small]
  omega

/-! ## The multiprecision helpers -/

theorem multiprecisionRshift_cons (w : UInt32) (ws : List UInt32) :
    multiprecisionRshift (w :: ws) =
      ((w >>> 1) ||| (ws.headD 0 <<< 31)) :: multiprecisionRshift ws := by
  cases ws <;> rfl

@[simp] theorem length_multiprecisionRshift (a : List UInt32) :
    (multiprecisionRshift a).length = a.length := by
  induction a with
  | nil => rfl
  | cons w ws ih => simp [multiprecisionRshift_cons, ih]

/-- **`multiprecision_rshift` halves.** -/
theorem multiprecisionValue_rshift (a : List UInt32) :
    multiprecisionValue (multiprecisionRshift a) = multiprecisionValue a / 2 := by
  induction a with
  | nil => rfl
  | cons w ws ih =>
      have parity := multiprecisionValue_mod_two ws
      rw [multiprecisionRshift_cons, multiprecisionValue_cons, multiprecisionValue_cons,
        toNat_shift_or, ih]
      omega

/-- **The ninth word of an accumulator.**  Shifting the words of `a` and or-ing
the low bit of a word `top` above them into the top word is shifting the words
of `a` with `top` above them, and keeping as many as `a` has. -/
theorem multiprecisionRshift_set_top (top : UInt32) : ∀ (a : List UInt32), a ≠ [] →
    (multiprecisionRshift a).set (a.length - 1)
        ((multiprecisionRshift a).getD (a.length - 1) 0 ||| (top <<< 31)) =
      (multiprecisionRshift (a ++ [top])).take a.length
  | [w], _ => by simp [multiprecisionRshift]
  | w :: w' :: ws, _ => by
    have rest := multiprecisionRshift_set_top top (w' :: ws) (List.cons_ne_nil _ _)
    rw [List.length_cons, Nat.add_sub_cancel] at rest
    have shifted : multiprecisionRshift (w :: w' :: ws ++ [top]) =
        ((w >>> 1) ||| (w' <<< 31)) :: multiprecisionRshift (w' :: ws ++ [top]) := by
      simp only [List.cons_append, multiprecisionRshift_cons, List.headD_cons]
    rw [multiprecisionRshift_cons w (w' :: ws), List.headD_cons, shifted, List.length_cons,
      List.length_cons, Nat.add_sub_cancel, List.getD_cons_succ, List.set_cons_succ,
      List.take_succ_cons, rest]

/-- Shifting `a` with a bit above it halves the number the two make up. -/
theorem multiprecisionValue_rshift_append {a : List UInt32} {top : UInt32} (bit : top.toNat ≤ 1) :
    multiprecisionValue ((multiprecisionRshift (a ++ [top])).take a.length) =
      (multiprecisionValue a + 2 ^ (32 * a.length) * top.toNat) / 2 := by
  have below := multiprecisionValue_lt a
  have fits : (multiprecisionValue a + 2 ^ (32 * a.length) * top.toNat) / 2 < 2 ^ (32 * a.length) := by
    rcases Nat.le_one_iff_eq_zero_or_eq_one.mp bit with zero | one
    · rw [zero]
      omega
    · rw [one]
      omega
  rw [multiprecisionValue_take, multiprecisionValue_rshift, multiprecisionValue_append,
    multiprecisionValue_cons, multiprecisionValue_nil, Nat.mul_zero, Nat.add_zero,
    Nat.mod_eq_of_lt fits]

/-! ## Add and sub -/

/-- The carry out of one round of `multiprecision_add`. -/
def addCarry (a b carrier : UInt32) : UInt32 :=
  (decide (a + carrier < carrier)).toUInt32 ||| (decide (a + carrier + b < b)).toUInt32

theorem addLoop_cons (a b carrier : UInt32) (as bs : List UInt32) :
    addLoop (a :: as) (b :: bs) carrier =
      ((a + carrier + b) :: (addLoop as bs (addCarry a b carrier)).1,
        (addLoop as bs (addCarry a b carrier)).2) := rfl

/-- One round of `multiprecision_add`: the word written and the carry out make
up the two words and the carry in. -/
theorem addWord_value (a b carrier : UInt32) (bit : carrier.toNat ≤ 1) :
    (a + carrier + b).toNat + 2 ^ 32 * (addCarry a b carrier).toNat =
      a.toNat + b.toNat + carrier.toNat ∧ (addCarry a b carrier).toNat ≤ 1 := by
  have a_lt := a.toNat_lt
  have b_lt := b.toNat_lt
  rw [addCarry, toNat_decide_or_decide]
  simp only [UInt32.lt_iff_toNat_lt, UInt32.toNat_add]
  split_ifs <;> omega

theorem addLoop_value : ∀ (a b : List UInt32) (carrier : UInt32), a.length = b.length →
    carrier.toNat ≤ 1 →
    multiprecisionValue (addLoop a b carrier).1 + 2 ^ (32 * a.length) * (addLoop a b carrier).2.toNat =
      multiprecisionValue a + multiprecisionValue b + carrier.toNat ∧
    (addLoop a b carrier).2.toNat ≤ 1 ∧ (addLoop a b carrier).1.length = a.length
  | [], [], carrier, _, bit => ⟨by simp [addLoop], bit, rfl⟩
  | a :: as, b :: bs, carrier, same, bit => by
    obtain ⟨word, wordBit⟩ := addWord_value a b carrier bit
    obtain ⟨rest, restBit, restLength⟩ :=
      addLoop_value as bs (addCarry a b carrier) (by simpa using same) wordBit
    have split : 2 ^ (32 * (as.length + 1)) = 2 ^ 32 * 2 ^ (32 * as.length) := by
      rw [Nat.mul_succ, pow_add, Nat.mul_comm]
    rw [addLoop_cons, List.length_cons, split]
    refine ⟨?_, restBit, by rw [List.length_cons, restLength]⟩
    simp only [multiprecisionValue_cons]
    -- the carry into the rest is the word above this round's word
    have lifted := congrArg (2 ^ 32 * ·) rest
    simp only [Nat.mul_add, ← Nat.mul_assoc] at lifted
    omega

/-- The borrow out of one round of `multiprecision_sub`. -/
def subBorrow (a b borrow : UInt32) : UInt32 :=
  (decide (a - borrow > a)).toUInt32 ||| (decide (a - borrow - b > a - borrow)).toUInt32

theorem subLoop_cons (a b borrow : UInt32) (as bs : List UInt32) :
    subLoop (a :: as) (b :: bs) borrow =
      ((a - borrow - b) :: (subLoop as bs (subBorrow a b borrow)).1,
        (subLoop as bs (subBorrow a b borrow)).2) := rfl

/-- One round of `multiprecision_sub`: the word written, the word taken away and
the borrow in make up the word it is taken from and the borrow out. -/
theorem subWord_value (a b borrow : UInt32) (bit : borrow.toNat ≤ 1) :
    (a - borrow - b).toNat + b.toNat + borrow.toNat = a.toNat + 2 ^ 32 * (subBorrow a b borrow).toNat ∧
      (subBorrow a b borrow).toNat ≤ 1 := by
  have a_lt := a.toNat_lt
  have b_lt := b.toNat_lt
  rw [subBorrow, toNat_decide_or_decide]
  simp only [gt_iff_lt, UInt32.lt_iff_toNat_lt, UInt32.toNat_sub]
  split_ifs <;> omega

theorem subLoop_value : ∀ (a b : List UInt32) (borrow : UInt32), a.length = b.length →
    borrow.toNat ≤ 1 →
    multiprecisionValue (subLoop a b borrow).1 + multiprecisionValue b + borrow.toNat =
      multiprecisionValue a + 2 ^ (32 * a.length) * (subLoop a b borrow).2.toNat ∧
    (subLoop a b borrow).2.toNat ≤ 1 ∧ (subLoop a b borrow).1.length = a.length
  | [], [], borrow, _, bit => ⟨by simp [subLoop], bit, rfl⟩
  | a :: as, b :: bs, borrow, same, bit => by
    obtain ⟨word, wordBit⟩ := subWord_value a b borrow bit
    obtain ⟨rest, restBit, restLength⟩ :=
      subLoop_value as bs (subBorrow a b borrow) (by simpa using same) wordBit
    have split : 2 ^ (32 * (as.length + 1)) = 2 ^ 32 * 2 ^ (32 * as.length) := by
      rw [Nat.mul_succ, pow_add, Nat.mul_comm]
    rw [subLoop_cons, List.length_cons, split]
    refine ⟨?_, restBit, by rw [List.length_cons, restLength]⟩
    simp only [multiprecisionValue_cons]
    -- the borrow into the rest is taken from the word above this round's word
    have lifted := congrArg (2 ^ 32 * ·) rest
    simp only [Nat.mul_add, ← Nat.mul_assoc] at lifted
    omega

/-- **`multiprecision_add` adds**, with the carry out as the word above. -/
theorem multiprecisionAdd_value {a b : List UInt32} (same : a.length = b.length) :
    multiprecisionValue (multiprecisionAdd a b).1 +
        2 ^ (32 * a.length) * (multiprecisionAdd a b).2.toNat =
      multiprecisionValue a + multiprecisionValue b ∧
    (multiprecisionAdd a b).2.toNat ≤ 1 ∧ (multiprecisionAdd a b).1.length = a.length := by
  have chain := addLoop_value a b 0 same (by decide)
  rw [UInt32.toNat_zero, Nat.add_zero] at chain
  exact chain

/-- **`multiprecision_sub` subtracts**, with the borrow out taken from the word
above. -/
theorem multiprecisionSub_value {a b : List UInt32} (same : a.length = b.length) :
    multiprecisionValue (multiprecisionSub a b).1 + multiprecisionValue b =
      multiprecisionValue a + 2 ^ (32 * a.length) * (multiprecisionSub a b).2.toNat ∧
    (multiprecisionSub a b).2.toNat ≤ 1 ∧ (multiprecisionSub a b).1.length = a.length := by
  have chain := subLoop_value a b 0 same (by decide)
  rw [UInt32.toNat_zero, Nat.add_zero] at chain
  exact chain

/-- **`multiprecision_sub` takes away exactly** when it does not borrow, which
is when the number taken away is not larger. -/
theorem multiprecisionSub_of_le {a b : List UInt32} (same : a.length = b.length)
    (le : multiprecisionValue b ≤ multiprecisionValue a) :
    multiprecisionValue (multiprecisionSub a b).1 = multiprecisionValue a - multiprecisionValue b ∧
      (multiprecisionSub a b).2 = 0 ∧ (multiprecisionSub a b).1.length = a.length := by
  obtain ⟨value, bit, length⟩ := multiprecisionSub_value same
  have below := multiprecisionValue_lt (multiprecisionSub a b).1
  rw [length] at below
  have noBorrow : (multiprecisionSub a b).2.toNat = 0 := by
    by_contra borrowed
    have one : 2 ^ (32 * a.length) ≤ 2 ^ (32 * a.length) * (multiprecisionSub a b).2.toNat :=
      Nat.le_mul_of_pos_right _ (by omega)
    omega
  rw [noBorrow, Nat.mul_zero] at value
  exact ⟨by omega, UInt32.toNat_inj.mp noBorrow, length⟩

/-- With a larger number taken away `multiprecision_sub` borrows, and the
difference wraps around. -/
theorem multiprecisionSub_of_lt {a b : List UInt32} (same : a.length = b.length)
    (lt : multiprecisionValue a < multiprecisionValue b) :
    multiprecisionValue (multiprecisionSub a b).1 =
        multiprecisionValue a + 2 ^ (32 * a.length) - multiprecisionValue b ∧
      (multiprecisionSub a b).2 ≠ 0 ∧ (multiprecisionSub a b).1.length = a.length := by
  obtain ⟨value, bit, length⟩ := multiprecisionSub_value same
  have borrowed : (multiprecisionSub a b).2.toNat = 1 := by
    by_contra none
    have zero : (multiprecisionSub a b).2.toNat = 0 := by omega
    rw [zero, Nat.mul_zero] at value
    omega
  rw [borrowed, Nat.mul_one] at value
  refine ⟨by omega, fun zero => ?_, length⟩
  rw [zero, UInt32.toNat_zero] at borrowed
  cases borrowed

/-! ## The zero test and the comparison -/

theorem multiprecisionIszero_iff {a : List UInt32} (eight : a.length = 8) :
    multiprecisionIszero a = true ↔ multiprecisionValue a = 0 := by
  rw [multiprecisionValue_eq_zero_iff, multiprecisionIszero, List.all_eq_true, eight]
  simp [keyLengthDwordsP256]

/-- A higher word decides over whatever lies below it. -/
theorem add_mul_lt_add_mul {X low low' w w' : ℕ} (below : low < X) (higher : w < w') :
    low + X * w < low' + X * w' :=
  calc low + X * w < X * (w + 1) := by rw [Nat.mul_succ]; omega
    _ ≤ X * w' := Nat.mul_le_mul_left X higher
    _ ≤ low' + X * w' := Nat.le_add_left _ _

/-- The loop of `multiprecision_compare` from word `n - 1` down compares the
numbers the first `n` words make up. -/
theorem compareLoop_range (a b : List UInt32) : ∀ n, compareLoop a b (List.range n).reverse =
    if multiprecisionValue (b.take n) < multiprecisionValue (a.take n) then 1
    else if multiprecisionValue (a.take n) < multiprecisionValue (b.take n) then -1 else 0
  | 0 => by simp [compareLoop]
  | n + 1 => by
    have lowA := multiprecisionValue_take_lt a n
    have lowB := multiprecisionValue_take_lt b n
    rw [List.range_succ, List.reverse_append, List.reverse_singleton, List.singleton_append,
      compareLoop, multiprecisionValue_take_succ, multiprecisionValue_take_succ]
    -- the top word decides unless the two are equal, and then the words below do
    by_cases above : b.getD n 0 < a.getD n 0
    · rw [if_pos above, if_pos (add_mul_lt_add_mul lowB (UInt32.lt_iff_toNat_lt.mp above))]
    by_cases below : a.getD n 0 < b.getD n 0
    · have less : multiprecisionValue (a.take n) + 2 ^ (32 * n) * (a.getD n 0).toNat <
          multiprecisionValue (b.take n) + 2 ^ (32 * n) * (b.getD n 0).toNat :=
        add_mul_lt_add_mul lowA (UInt32.lt_iff_toNat_lt.mp below)
      rw [if_neg above, if_pos below, if_neg (by omega), if_pos less]
    have same : a.getD n 0 = b.getD n 0 := by
      rw [UInt32.lt_iff_toNat_lt] at above below
      exact UInt32.toNat_inj.mp (by omega)
    rw [if_neg above, if_neg below, compareLoop_range a b n, same]
    split_ifs <;> omega

/-- **`multiprecision_compare` is the order of the numbers.** -/
theorem multiprecisionCompare_eq {a b : List UInt32} (eightA : a.length = 8) (eightB : b.length = 8) :
    multiprecisionCompare a b =
      if multiprecisionValue b < multiprecisionValue a then 1
      else if multiprecisionValue a < multiprecisionValue b then -1 else 0 := by
  rw [multiprecisionCompare, compareLoop_range, keyLengthDwordsP256,
    List.take_of_length_le (by omega), List.take_of_length_le (by omega)]

theorem multiprecisionCompare_nonneg_iff {a b : List UInt32} (eightA : a.length = 8)
    (eightB : b.length = 8) :
    0 ≤ multiprecisionCompare a b ↔ multiprecisionValue b ≤ multiprecisionValue a := by
  rw [multiprecisionCompare_eq eightA eightB]
  split_ifs <;> omega

/-! ## The modular subtraction -/

theorem Ecc.multiprecisionSubMod_eq (a b modp : List UInt32) :
    Ecc.multiprecisionSubMod a b modp =
      if (multiprecisionSub a b).2 ≠ 0 then (multiprecisionAdd (multiprecisionSub a b).1 modp).1
      else (multiprecisionSub a b).1 := rfl

/-- The stack's `multiprecision_sub_mod` is the GD copy at `curve_p256.p`. -/
theorem multiprecisionSubMod_eq_ecc (a b : List UInt32) :
    multiprecisionSubMod a b = Ecc.multiprecisionSubMod a b p256InitCurve.p := rfl

/-- **`multiprecision_sub_mod` subtracts modulo `p`** for `a` and `b` below `p`:
on a borrow the wrapped difference plus `p` carries out of the top word, and
what is left is `a + p - b`. -/
theorem Ecc.multiprecisionSubMod_value {a b modp : List UInt32} (eightA : a.length = 8)
    (eightB : b.length = 8) (eightP : modp.length = 8)
    (ltA : multiprecisionValue a < multiprecisionValue modp)
    (ltB : multiprecisionValue b < multiprecisionValue modp) :
    multiprecisionValue (Ecc.multiprecisionSubMod a b modp) =
        (if multiprecisionValue b ≤ multiprecisionValue a then
          multiprecisionValue a - multiprecisionValue b
        else multiprecisionValue a + multiprecisionValue modp - multiprecisionValue b) ∧
      (Ecc.multiprecisionSubMod a b modp).length = 8 := by
  rw [Ecc.multiprecisionSubMod_eq]
  by_cases le : multiprecisionValue b ≤ multiprecisionValue a
  · obtain ⟨value, noBorrow, length⟩ := multiprecisionSub_of_le (a := a) (b := b) (by omega) le
    rw [if_neg (by rw [noBorrow]; exact not_not.mpr rfl), if_pos le, length]
    exact ⟨value, eightA⟩
  · obtain ⟨value, borrowed, length⟩ := multiprecisionSub_of_lt (a := a) (b := b) (by omega) (by omega)
    obtain ⟨sum, bit, sumLength⟩ := multiprecisionAdd_value (a := (multiprecisionSub a b).1)
      (b := modp) (by omega)
    have below := multiprecisionValue_lt (multiprecisionAdd (multiprecisionSub a b).1 modp).1
    have pBelow := multiprecisionValue_lt modp
    rw [sumLength, length, eightA] at below
    rw [length, eightA] at sum
    rw [eightA] at value
    rw [eightP] at pBelow
    rw [if_pos borrowed, if_neg le, sumLength, length]
    refine ⟨?_, eightA⟩
    -- the sum is `a + p - b` plus `2 ^ 256`, and `a + p - b` is below `p`
    have carried : (multiprecisionAdd (multiprecisionSub a b).1 modp).2.toNat = 1 := by
      by_contra none
      have zero : (multiprecisionAdd (multiprecisionSub a b).1 modp).2.toNat = 0 := by omega
      rw [zero, Nat.mul_zero] at sum
      omega
    rw [carried, Nat.mul_one] at sum
    omega

end Bluedroid.Smp
