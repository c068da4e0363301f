import Bluedroid.Smp.Naf
import Bluedroid.Smp.MultiprecisionValue
import Mathlib.Tactic.IntervalCases
import Mathlib.Tactic.LinearCombination

/-!
# Smp.NafRecoding -- `ECC_NAF` recodes every other key

`naf_of_all_ones_key` shows the one key on which `ECC_NAF` goes wrong.  This
module shows it is the only one: for every eight-word key `k` whose value is
not `2 ^ 256 - 1`, and whatever memory follows it, `ECC_NAF` stops within its
257 rounds, writes no word of `k` past `k[7]`, leaves the memory after the key
as it was, and the digits it leaves in `naf[]` stand for the value of `k`
(`eccNaf_recodes`).  With a group law for `ECC_Double` and `ECC_Add`,
`ECC_PointMult_Bin_NAF` then multiplies by the key (`pointMult_of_not_all_ones`).

The proof runs on values.  The words of `k` are read as the number
`multiprecisionValue`, and each helper of `p_256_multprecision.cc` gets one
lemma that says what it does to that number (`multiprecisionValue_rshift`,
`incrementWords_value`, `one_le_multiprecisionMostSignbits_iff`).  A round of
the loop takes the digit `d` of the value `v` (`0` for even `v`, `1` or `-1` by
`v % 4`), leaves `(v - d) / 2`, and records `d` in the two bits `nafSign`
reads back (`nafSign_record`).  The invariant `NafInv` keeps
`v * 2 ^ i + (digits so far) = key`, with `v * 2 ^ i ≤ 2 ^ 256`, which bounds
the rounds, keeps `naf[i / 4]` in range, and keeps the `+1` of a digit `-1`
from carrying out of `k[7]`.
-/

namespace Bluedroid.Smp

open Bluedroid.Theory

set_option autoImplicit false

/-! ## Bits of a `uint32_t` -/

/-- `k[j]++` wraps exactly the all-ones word. -/
theorem toNat_of_add_one_eq_zero {w : UInt32} (wraps : w + 1 = 0) : w.toNat + 1 = 2 ^ 32 := by
  have sum := congrArg UInt32.toNat wraps
  rw [UInt32.toNat_add, UInt32.toNat_zero, show UInt32.toNat 1 = 1 from rfl] at sum
  have word := w.toNat_lt
  omega

theorem toNat_add_one {w : UInt32} (noWrap : w + 1 ≠ 0) : (w + 1).toNat = w.toNat + 1 := by
  have notOnes : w.toNat + 1 ≠ 2 ^ 32 := fun ones => noWrap (UInt32.toNat_inj.mp (by
    rw [UInt32.toNat_add, UInt32.toNat_zero, show UInt32.toNat 1 = 1 from rfl]
    omega))
  have word := w.toNat_lt
  rw [UInt32.toNat_add, show UInt32.toNat 1 = 1 from rfl]
  omega

/-- `k[0] & 3` of an odd word is `1` or `3`. -/
theorem and_three_of_odd {w : UInt32} (odd : w.toNat % 2 = 1) :
    (w &&& 3 = 1 ∧ w.toNat % 4 = 1) ∨ (w &&& 3 = 3 ∧ w.toNat % 4 = 3) := by
  have low := toNat_and_three w
  by_cases one : w.toNat % 4 = 1
  · exact .inl ⟨UInt32.toNat_inj.mp (by rw [low, one]; rfl), one⟩
  · have three : w.toNat % 4 = 3 := by omega
    exact .inr ⟨UInt32.toNat_inj.mp (by rw [low, three]; rfl), three⟩

/-- `k[0] & 0xFFFFFFFE` takes one off an odd word. -/
theorem toNat_and_clear (w : UInt32) (odd : w.toNat % 2 = 1) :
    (w &&& 0xFFFFFFFE).toNat = w.toNat - 1 := by
  have word := w.toNat_lt
  rw [UInt32.toNat_and]
  apply Nat.eq_of_testBit_eq
  intro i
  rw [Nat.testBit_and]
  -- bit 0 is cleared; every other bit is kept, up to the width of the word
  cases i with
  | zero =>
      have lowered : (w.toNat - 1) % 2 = 0 := by omega
      simp [Nat.testBit_zero, lowered]
  | succ i =>
      rw [Nat.testBit_succ, Nat.testBit_succ, Nat.testBit_succ]
      have half : (w.toNat - 1) / 2 = w.toNat / 2 := by omega
      have mask : UInt32.toNat 0xFFFFFFFE / 2 = 2 ^ 31 - 1 := rfl
      rw [half, mask, Nat.testBit_two_pow_sub_one]
      by_cases low : i < 31
      · simp [low]
      · have bound : w.toNat / 2 < 2 ^ i :=
          Nat.lt_of_lt_of_le (show w.toNat / 2 < 2 ^ 31 by omega)
            (Nat.pow_le_pow_right (by omega) (by omega))
        simp [low, Nat.testBit_lt_two_pow bound]

/-! ## The multiprecision helpers -/

theorem incrementWords_length (ws : List UInt32) : (incrementWords ws).1.length = ws.length := by
  induction ws with
  | nil => rfl
  | cons w ws ih =>
      unfold incrementWords
      split_ifs <;> simp [ih]

theorem incrementWords_written (ws : List UInt32) : (incrementWords ws).2.1 ≤ ws.length := by
  induction ws with
  | nil => simp [incrementWords]
  | cons w ws ih =>
      unfold incrementWords
      split_ifs <;> simp [ih]

/-- **The carry loop adds one**, and a carry out of the last word means the
words were all ones. -/
theorem incrementWords_value (ws : List UInt32) :
    multiprecisionValue (incrementWords ws).1 +
        (if (incrementWords ws).2.2 then 2 ^ (32 * ws.length) else 0) =
      multiprecisionValue ws + 1 := by
  induction ws with
  | nil => simp [incrementWords]
  | cons w ws ih =>
      have word := w.toNat_lt
      have split : 2 ^ (32 * (ws.length + 1)) = 2 ^ 32 * 2 ^ (32 * ws.length) := by
        rw [Nat.mul_succ, pow_add, Nat.mul_comm]
      unfold incrementWords
      by_cases wraps : w + 1 = 0
      · -- the word wraps to zero and the carry moves on
        have ones := toNat_of_add_one_eq_zero wraps
        rw [if_pos wraps]
        simp only [List.length_cons, multiprecisionValue_cons, UInt32.toNat_zero, split]
        generalize multiprecisionValue (incrementWords ws).1 = rest at ih ⊢
        generalize 2 ^ (32 * ws.length) = top at ih ⊢
        split_ifs at ih ⊢
        · calc 0 + 2 ^ 32 * rest + 2 ^ 32 * top = 2 ^ 32 * (rest + top) := by ring
            _ = 2 ^ 32 * (multiprecisionValue ws + 1) := by rw [ih]
            _ = w.toNat + 2 ^ 32 * multiprecisionValue ws + 1 := by omega
        · calc 0 + 2 ^ 32 * rest + 0 = 2 ^ 32 * (rest + 0) := by ring
            _ = 2 ^ 32 * (multiprecisionValue ws + 1) := by rw [ih]
            _ = w.toNat + 2 ^ 32 * multiprecisionValue ws + 1 := by omega
      · rw [if_neg wraps]
        simp [toNat_add_one wraps]
        omega

/-! ## The loop guard -/

theorem dwordBitsLoop_ge : ∀ (left i : ℕ) (a : UInt32), i ≤ dwordBitsLoop left i a
  | 0, _, _ => Nat.le_refl _
  | left + 1, i, a => by
      unfold dwordBitsLoop
      split_ifs
      · exact Nat.le_refl _
      · exact Nat.le_of_succ_le (dwordBitsLoop_ge left (i + 1) _)

theorem multiprecisionDwordBits_pos {a : UInt32} (nonzero : a ≠ 0) :
    1 ≤ multiprecisionDwordBits a := by
  unfold multiprecisionDwordBits dwordBitsLoop
  rw [if_neg nonzero]
  exact dwordBitsLoop_ge 31 1 _

/-- `multiprecision_most_signdwords` finds a non-zero word among the eight, or
there is none. -/
theorem multiprecisionMostSigndwords_cases (a : List UInt32) :
    (multiprecisionMostSigndwords a = 0 ∧ ∀ i < keyLengthDwordsP256, a.getD i 0 = 0) ∨
      ∃ i, multiprecisionMostSigndwords a = i + 1 ∧ a.getD i 0 ≠ 0 := by
  unfold multiprecisionMostSigndwords
  split
  · rename_i i found
    have nonzero := List.find?_some found
    exact .inr ⟨i, rfl, by simpa using nonzero⟩
  · rename_i none
    refine .inl ⟨rfl, fun i lt => ?_⟩
    have := List.find?_eq_none.mp none i (by simpa using lt)
    simpa using this

/-- **The loop of `ECC_NAF` runs while `k` is not zero.** -/
theorem one_le_multiprecisionMostSignbits_iff {a : List UInt32}
    (eight : a.length = keyLengthDwordsP256) :
    1 ≤ multiprecisionMostSignbits a ↔ multiprecisionValue a ≠ 0 := by
  rw [Ne, multiprecisionValue_eq_zero_iff, eight]
  unfold multiprecisionMostSignbits
  rcases multiprecisionMostSigndwords_cases a with ⟨none, zero⟩ | ⟨i, found, nonzero⟩
  · simp only [none, if_true]
    simpa using zero
  · simp only [found, Nat.add_one_ne_zero, if_false, Nat.add_sub_cancel]
    have bits := multiprecisionDwordBits_pos nonzero
    constructor
    · rintro - zero
      have inKey : i < keyLengthDwordsP256 := by
        by_contra past
        apply nonzero
        rw [List.getD_eq_getElem?_getD, List.getElem?_eq_none (by omega)]
        rfl
      exact nonzero (zero i inKey)
    · rintro -
      omega

/-! ## The digit array -/

/-- Base-4 digit `j` of `b + s * 4 ^ r`, where `b` has only the digits below `r`. -/
theorem add_mul_four_pow_digit (b s r j : ℕ) (low : b < 4 ^ r) (digit : s < 4) :
    (b + s * 4 ^ r) / 4 ^ j % 4 = if j < r then b / 4 ^ j % 4 else if j = r then s else 0 := by
  split_ifs with below same
  · -- the new digit sits whole multiples of 4 above digit `j`
    obtain ⟨e, rfl⟩ := Nat.exists_eq_add_of_lt below
    have shifted : s * 4 ^ (j + e + 1) = 4 ^ j * (4 * (s * 4 ^ e)) := by ring
    rw [shifted, Nat.add_mul_div_left _ _ (by positivity), Nat.add_mul_mod_self_left]
  · subst same
    rw [Nat.add_mul_div_right _ _ (by positivity), Nat.div_eq_of_lt low, Nat.zero_add,
      Nat.mod_eq_of_lt digit]
  · have above : r < j := by omega
    have small : b + s * 4 ^ r < 4 ^ j :=
      calc b + s * 4 ^ r < 4 ^ r + 3 * 4 ^ r := by
            have := Nat.mul_le_mul_right (4 ^ r) (show s ≤ 3 by omega)
            omega
        _ = 4 ^ (r + 1) := by ring
        _ ≤ 4 ^ j := Nat.pow_le_pow_right (by omega) above
    rw [Nat.div_eq_of_lt small]

theorem toNat_nafSign (naf : List UInt8) (j : ℕ) :
    (nafSign naf j).toNat = (naf.getD (j / 4) 0).toNat / 4 ^ (j % 4) % 4 := by
  have shift : ((j % 4) * 2 : ℕ).toUInt32.toNat % 32 = 2 * (j % 4) := by
    simp only [Nat.toUInt32_eq, UInt32.toNat_ofNat']
    omega
  rw [nafSign, toNat_and_three, UInt32.toNat_shiftRight, shift, Nat.shiftRight_eq_div_pow,
    pow_mul]
  rfl

/-- The byte `naf[i / 4] |= sign << ((i % 4) * 2)` writes, when the digits from
`i % 4` up are still clear. -/
theorem toNat_nafByte (byte : UInt8) (sign : UInt32) (r : ℕ) (hr : r < 4)
    (low : byte.toNat < 4 ^ r) (digit : sign.toNat < 4) :
    ((byte.toUInt32 ||| sign <<< (r * 2 : ℕ).toUInt32).toUInt8).toNat =
      byte.toNat + sign.toNat * 4 ^ r := by
  have shift : (r * 2 : ℕ).toUInt32.toNat % 32 = 2 * r := by
    simp only [Nat.toUInt32_eq, UInt32.toNat_ofNat']
    omega
  have four : (2 : ℕ) ^ (2 * r) = 4 ^ r := by
    rw [pow_mul]
    norm_num
  have place : 4 ^ r ≤ 4 ^ 3 := Nat.pow_le_pow_right (by omega) (by omega)
  have fits : sign.toNat * 4 ^ r < 2 ^ 32 :=
    calc sign.toNat * 4 ^ r ≤ 3 * 4 ^ 3 := Nat.mul_le_mul (by omega) place
      _ < 2 ^ 32 := by norm_num
  have placed : sign.toNat <<< (2 * r) % 2 ^ 32 = 4 ^ r * sign.toNat := by
    rw [Nat.shiftLeft_eq, four, Nat.mod_eq_of_lt fits, Nat.mul_comm]
  have lowBits : byte.toNat < 2 ^ (2 * r) := by rwa [four]
  -- the byte's bits are below the new digit's, so the or is a sum
  rw [UInt32.toNat_toUInt8, UInt32.toNat_or, UInt32.toNat_shiftLeft, shift, placed,
    UInt8.toNat_toUInt32, Nat.or_comm, ← four, ← Nat.two_pow_add_eq_or_of_lt lowBits, four]
  have total : 4 ^ r * sign.toNat + byte.toNat < 2 ^ 8 :=
    calc 4 ^ r * sign.toNat + byte.toNat < 4 ^ r * sign.toNat + 4 ^ r := by omega
      _ = 4 ^ r * (sign.toNat + 1) := by ring
      _ ≤ 4 ^ 3 * 4 := Nat.mul_le_mul place (by omega)
      _ = 2 ^ 8 := by norm_num
  rw [Nat.mod_eq_of_lt total]
  ring

/-- A byte whose digits from `r` up read as zero is below `4 ^ r`. -/
theorem lt_four_pow_of_digits_zero (b r : ℕ) (byte : b < 256) (hr : r < 4)
    (zero : ∀ r', r ≤ r' → r' < 4 → b / 4 ^ r' % 4 = 0) : b < 4 ^ r := by
  have d3 := zero 3 (by omega) (by omega)
  norm_num at d3
  interval_cases r
  · have d0 := zero 0 (by omega) (by omega)
    have d1 := zero 1 (by omega) (by omega)
    have d2 := zero 2 (by omega) (by omega)
    norm_num at d0 d1 d2 ⊢
    omega
  · have d1 := zero 1 (by omega) (by omega)
    have d2 := zero 2 (by omega) (by omega)
    norm_num at d1 d2 ⊢
    omega
  · have d2 := zero 2 (by omega) (by omega)
    norm_num at d2 ⊢
    omega
  · norm_num
    omega

/-- **Recording a digit.**  When the digits from `i` up are clear, the write of
`ECC_NAF` at `naf[i / 4]` makes digit `i` read as `sign` and leaves the others. -/
theorem nafSign_record (naf : List UInt8) (i : ℕ) (sign : UInt32) (digit : sign.toNat < 4)
    (inArray : i / 4 < naf.length) (clear : ∀ j, i ≤ j → nafSign naf j = 0) (j : ℕ) :
    nafSign (naf.set (i / 4) ((naf.getD (i / 4) 0).toUInt32 |||
        sign <<< ((i % 4) * 2 : ℕ).toUInt32).toUInt8) j =
      if j < i then nafSign naf j else if j = i then sign else 0 := by
  set byte := naf.getD (i / 4) 0
  have low : byte.toNat < 4 ^ (i % 4) := by
    apply lt_four_pow_of_digits_zero _ _ byte.toNat_lt (Nat.mod_lt _ (by omega))
    intro r' above below
    have read := congrArg UInt32.toNat (clear (4 * (i / 4) + r') (by omega))
    rwa [toNat_nafSign, show (4 * (i / 4) + r') / 4 = i / 4 by omega,
      show (4 * (i / 4) + r') % 4 = r' by omega] at read
  apply UInt32.toNat_inj.mp
  rw [toNat_nafSign, List.getD_eq_getElem?_getD, List.getElem?_set]
  by_cases same : i / 4 = j / 4
  · -- the digit shares its byte with digit `i`
    rw [if_pos same, if_pos (by omega), Option.getD_some,
      toNat_nafByte byte sign _ (Nat.mod_lt _ (by omega)) low digit,
      add_mul_four_pow_digit _ _ _ _ low digit]
    have old := toNat_nafSign naf j
    rw [← same] at old
    -- within one byte, the order of the digits is the order of the indices
    have before : j % 4 < i % 4 ↔ j < i := by omega
    have atDigit : j % 4 = i % 4 ↔ j = i := by omega
    by_cases earlier : j < i
    · rw [if_pos (before.mpr earlier), if_pos earlier, old]
    · rw [if_neg (mt before.mp earlier), if_neg earlier]
      by_cases here : j = i
      · rw [if_pos (atDigit.mpr here), if_pos here]
      · rw [if_neg (mt atDigit.mp here), if_neg here]
        rfl
  · -- another byte: unchanged, and clear if it is past digit `i`
    rw [if_neg same, ← List.getD_eq_getElem?_getD, ← toNat_nafSign]
    by_cases earlier : j < i
    · rw [if_pos earlier]
    · rw [if_neg earlier, if_neg (by omega), clear j (by omega)]

/-! ## One round -/

section Round

variable {s : NafState}

/-- **`k = k - naf[i]`.**  On an odd `k` with no carry out of `k[7]` possible,
the digit `1` takes one off and the digit `3` adds one; only `k[0..7]` is
written. -/
theorem subtractDigit_spec (eight : s.k.length = keyLengthDwordsP256)
    (noWrap : multiprecisionValue s.k + 1 < 2 ^ 256) (odd : multiprecisionValue s.k % 2 = 1) :
    ∃ s₁, subtractDigit s (s.k.getD 0 0 &&& 3) = some s₁ ∧ s₁.naf = s.naf ∧
      s₁.i = s.i ∧ s₁.beyond = s.beyond ∧ s₁.k.length = keyLengthDwordsP256 ∧
      (multiprecisionValue s₁.k : ℤ) =
        multiprecisionValue s.k - nafDigit (s.k.getD 0 0 &&& 3) ∧
      ∀ j ∈ s₁.kWrites, j ∈ s.kWrites ∨ j < keyLengthDwordsP256 := by
  rcases s with ⟨_ | ⟨w, ws⟩, beyond, naf, i, kWrites⟩
  · simp [keyLengthDwordsP256] at eight
  have seven : ws.length = 7 := by simpa [keyLengthDwordsP256] using eight
  simp only [multiprecisionValue_cons] at noWrap odd
  simp only [List.getD_cons_zero, multiprecisionValue_cons]
  have word := w.toNat_lt
  have low : w.toNat % 2 = 1 := by omega
  rcases and_three_of_odd low with ⟨one, -⟩ | ⟨three, -⟩
  · -- clear the low bit
    unfold subtractDigit
    simp only [List.getD_cons_zero, if_pos one, List.set_cons_zero]
    refine ⟨_, rfl, rfl, rfl, rfl, by simpa using eight, ?_, fun j written => ?_⟩
    · rw [multiprecisionValue_cons, toNat_and_clear w low, one, nafDigit, if_pos rfl]
      push_cast [Nat.cast_sub (by omega : 1 ≤ w.toNat)]
      ring
    · rcases List.mem_append.mp written with old | first
      · exact .inl old
      · exact .inr (by simp_all [keyLengthDwordsP256])
  · -- add one, carrying as far as the words wrap
    have one : ¬w &&& 3 = 1 := by rw [three]; decide
    have digit : nafDigit (w &&& 3) = -1 := by rw [three]; rfl
    rw [digit]
    unfold subtractDigit
    simp only [List.getD_cons_zero, if_neg one, List.set_cons_zero]
    by_cases wraps : w + 1 = 0
    · have ones := toNat_of_add_one_eq_zero wraps
      have carried := incrementWords_value ws
      -- a carry out of `k[7]` would need every word to be all ones
      have noCarryOut : (incrementWords ws).2.2 = false := by
        by_contra out
        rw [if_pos (by simpa using out), seven] at carried
        omega
      rw [noCarryOut, if_neg Bool.false_ne_true, Nat.add_zero] at carried
      rw [if_pos wraps]
      simp only [List.drop_succ_cons, List.drop_zero, List.take_succ_cons, List.take_zero,
        noCarryOut, Bool.false_eq_true, if_false, wraps]
      refine ⟨_, rfl, rfl, rfl, rfl, ?_, ?_, fun j written => ?_⟩
      · simp [incrementWords_length, seven, keyLengthDwordsP256]
      · rw [List.singleton_append, multiprecisionValue_cons, UInt32.toNat_zero]
        push_cast
        omega
      · simp only [List.mem_append, List.mem_singleton, List.mem_map, List.mem_range] at written
        rcases written with (old | rfl) | ⟨n, lt, rfl⟩
        · exact .inl old
        · exact .inr (by decide)
        · -- the carry loop writes `k[1..n]` with `n ≤ 7`
          have bound : n < 7 := Nat.lt_of_lt_of_le lt (seven ▸ incrementWords_written ws)
          exact .inr (Nat.succ_lt_succ bound)
    · rw [if_neg wraps]
      refine ⟨_, rfl, rfl, rfl, rfl, by simpa using eight, ?_, fun j written => ?_⟩
      · rw [multiprecisionValue_cons, toNat_add_one wraps]
        push_cast
        ring
      · rcases List.mem_append.mp written with old | first
        · exact .inl old
        · exact .inr (by simp_all [keyLengthDwordsP256])

/-- **One round of `ECC_NAF`.**  It takes the digit `sign` off the value `v` of
`k` (`0` for an even `v`, `1` or `3` by `v % 4`), halves what is left, records
the digit at `naf[i / 4]`, and writes only `k[0..7]`. -/
theorem eccNafStep_spec (eight : s.k.length = keyLengthDwordsP256)
    (noWrap : multiprecisionValue s.k + 1 < 2 ^ 256) :
    ∃ sign : UInt32, ∃ s', eccNafStep s = some s' ∧
      ((sign = 0 ∧ multiprecisionValue s.k % 2 = 0) ∨
        (sign = 1 ∧ multiprecisionValue s.k % 4 = 1) ∨
        (sign = 3 ∧ multiprecisionValue s.k % 4 = 3)) ∧
      2 * (multiprecisionValue s'.k : ℤ) = multiprecisionValue s.k - nafDigit sign ∧
      s'.k.length = keyLengthDwordsP256 ∧ s'.beyond = s.beyond ∧ s'.i = s.i + 1 ∧
      s'.naf = s.naf.set (s.i / 4) ((s.naf.getD (s.i / 4) 0).toUInt32 |||
        sign <<< ((s.i % 4) * 2 : ℕ).toUInt32).toUInt8 ∧
      ∀ j ∈ s'.kWrites, j ∈ s.kWrites ∨ j < keyLengthDwordsP256 := by
  have low := toNat_and_one (s.k.getD 0 0)
  have parity := multiprecisionValue_mod_four s.k
  -- the shift writes `k[7]` down to `k[0]`
  have shiftWrites :
      ∀ j ∈ (List.range keyLengthDwordsP256).reverse, j < keyLengthDwordsP256 := by
    intro j mem
    simpa using mem
  unfold eccNafStep
  by_cases even : s.k.getD 0 0 &&& 0x01 = 0
  · have evenValue : multiprecisionValue s.k % 2 = 0 := by
      have := congrArg UInt32.toNat even
      rw [low, UInt32.toNat_zero] at this
      omega
    dsimp only
    rw [if_neg (show ¬(s.k.getD 0 0 &&& 1 ≠ 0) from not_not.mpr even), Option.map_some]
    refine ⟨0, _, rfl, .inl ⟨rfl, evenValue⟩, ?_, by simpa using eight, rfl, rfl, rfl, ?_⟩
    · rw [multiprecisionValue_rshift, show nafDigit 0 = 0 from rfl]
      push_cast
      omega
    · intro j written
      rcases List.mem_append.mp written with old | shifted
      · exact .inl old
      · exact .inr (shiftWrites j shifted)
  · have oddValue : multiprecisionValue s.k % 2 = 1 := by
      have : (s.k.getD 0 0 &&& 1).toNat ≠ 0 := fun zero => even (UInt32.toNat_inj.mp zero)
      rw [low] at this
      omega
    obtain ⟨s₁, sub, naf₁, i₁, beyond₁, len₁, value₁, writes₁⟩ :=
      subtractDigit_spec eight noWrap oddValue
    have ends := and_three_of_odd (show (s.k.getD 0 0).toNat % 2 = 1 by omega)
    dsimp only
    rw [if_pos (show s.k.getD 0 0 &&& 1 ≠ 0 from even), sub, Option.map_some, Option.map_some]
    refine ⟨s.k.getD 0 0 &&& 3, _, rfl, ?_, ?_, by simpa using len₁, beyond₁, by simp [i₁],
      by simp [naf₁, i₁], ?_⟩
    · -- an odd value ends in `1` or `3` in base 4
      rcases ends with ⟨one, low⟩ | ⟨three, low⟩
      · exact .inr (.inl ⟨one, by omega⟩)
      · exact .inr (.inr ⟨three, by omega⟩)
    · have evenAfter : multiprecisionValue s₁.k % 2 = 0 := by
        rcases ends with ⟨one, low⟩ | ⟨three, low⟩
        · rw [one, show nafDigit 1 = 1 from rfl] at value₁
          omega
        · rw [three, show nafDigit 3 = -1 from rfl] at value₁
          omega
      rw [multiprecisionValue_rshift, ← value₁]
      push_cast
      omega
    · intro j written
      rcases List.mem_append.mp written with old | shifted
      · exact writes₁ j old
      · exact .inr (shiftWrites j shifted)

end Round

/-! ## The whole loop -/

theorem neg_one_le_nafDigit (sign : UInt32) : -1 ≤ nafDigit sign := by
  unfold nafDigit
  split_ifs <;> decide

/-- What the rounds of `ECC_NAF` keep, for the value `key` of the key and the
memory `beyond` after it. -/
structure NafInv (key : ℕ) (beyond : List UInt32) (s : NafState) : Prop where
  eight : s.k.length = keyLengthDwordsP256
  beyond_eq : s.beyond = beyond
  naf_length : s.naf.length = 256 / 4 + 1
  writes : ∀ j ∈ s.kWrites, j < keyLengthDwordsP256
  rounds : s.i ≤ 257
  clear : ∀ j, s.i ≤ j → nafSign s.naf j = 0
  recoded : (multiprecisionValue s.k : ℤ) * 2 ^ s.i +
    signedValue (fun j => nafDigit (nafSign s.naf j)) s.i = key
  bounded : multiprecisionValue s.k * 2 ^ s.i ≤ 2 ^ 256
  noWrap : multiprecisionValue s.k + 1 < 2 ^ 256

theorem nafInv_init {k : List UInt32} (beyond : List UInt32)
    (eight : k.length = keyLengthDwordsP256)
    (notAllOnes : multiprecisionValue k ≠ 2 ^ 256 - 1) :
    NafInv (multiprecisionValue k) beyond (NafState.init k beyond) := by
  have below : multiprecisionValue k < 2 ^ 256 := by
    simpa [eight, keyLengthDwordsP256] using multiprecisionValue_lt k
  refine ⟨eight, rfl, by simp [NafState.init], by simp [NafState.init], by simp [NafState.init],
    fun j _ => ?_, by simp [NafState.init, signedValue], by simp [NafState.init]; omega,
    by show multiprecisionValue k + 1 < 2 ^ 256; omega⟩
  -- `naf[]` starts cleared
  apply UInt32.toNat_inj.mp
  rw [toNat_nafSign]
  simp only [NafState.init, List.getD_eq_getElem?_getD, List.getElem?_replicate]
  split_ifs <;> simp

/-- A value at most `2 ^ (256 - i)` that is odd and above one leaves room for
one more multiple of `2 ^ i`. -/
theorem add_one_mul_two_pow_le {v i : ℕ} (bounded : v * 2 ^ i ≤ 2 ^ 256) (odd : v % 2 = 1)
    (large : 1 < v) : (v + 1) * 2 ^ i ≤ 2 ^ 256 := by
  have rounds : i < 256 := by
    by_contra late
    have : 2 ^ 256 ≤ 2 ^ i := Nat.pow_le_pow_right (by omega) (by omega)
    have : 2 * 2 ^ i ≤ v * 2 ^ i := Nat.mul_le_mul_right _ large
    omega
  -- `2 ^ 256 = 2 ^ i * (2 * 2 ^ (255 - i))`, so `v ≤ 2 * 2 ^ (255 - i)`, an even bound
  have split : 2 ^ 256 = 2 ^ i * (2 * 2 ^ (255 - i)) := by
    rw [← pow_succ', ← pow_add]
    congr 1
    omega
  rw [split] at bounded ⊢
  have le : v ≤ 2 * 2 ^ (255 - i) := by
    rw [Nat.mul_comm] at bounded
    exact Nat.le_of_mul_le_mul_left bounded (by positivity)
  have lt : v + 1 ≤ 2 * 2 ^ (255 - i) := by omega
  rw [Nat.mul_comm]
  exact Nat.mul_le_mul_left _ lt

/-- **A round keeps the invariant.** -/
theorem NafInv.step {key : ℕ} {beyond : List UInt32} {s : NafState} (inv : NafInv key beyond s)
    (running : multiprecisionValue s.k ≠ 0) :
    ∃ s', eccNafStep s = some s' ∧ s'.i = s.i + 1 ∧ NafInv key beyond s' := by
  obtain ⟨sign, s', stepped, digits, halved, eight', beyond', i', naf', writes'⟩ :=
    eccNafStep_spec inv.eight inv.noWrap
  have positive : 1 ≤ multiprecisionValue s.k := Nat.one_le_iff_ne_zero.mpr running
  -- a non-zero value bounds the digits recorded so far
  have early : s.i ≤ 256 := by
    have : 2 ^ s.i ≤ 2 ^ 256 :=
      Nat.le_trans (Nat.le_mul_of_pos_left _ positive) inv.bounded
    exact (Nat.pow_le_pow_iff_right (by omega)).mp this
  have small : sign.toNat < 4 := by
    rcases digits with ⟨rfl, -⟩ | ⟨rfl, -⟩ | ⟨rfl, -⟩ <;> decide
  have record := nafSign_record s.naf s.i sign small (by rw [inv.naf_length]; omega) inv.clear
  rw [← naf'] at record
  refine ⟨s', stepped, i', eight', beyond'.trans inv.beyond_eq, by simp [naf', inv.naf_length],
    fun j written => (writes' j written).elim (inv.writes j) id, by omega, ?_, ?_, ?_, ?_⟩
  · intro j later
    rw [record, if_neg (by omega), if_neg (by omega)]
  · -- the digit taken off is the digit recorded
    have earlier : signedValue (fun j => nafDigit (nafSign s'.naf j)) s.i =
        signedValue (fun j => nafDigit (nafSign s.naf j)) s.i :=
      signedValue_congr fun j lt => by rw [record, if_pos lt]
    have digit : nafSign s'.naf s.i = sign := by rw [record, if_neg (by omega), if_pos rfl]
    rw [i', signedValue, earlier, digit, ← inv.recoded, pow_succ]
    linear_combination (2 : ℤ) ^ s.i * halved
  · have doubled : multiprecisionValue s'.k * 2 ^ s'.i =
        (2 * multiprecisionValue s'.k) * 2 ^ s.i := by
      rw [i', pow_succ]
      ring
    rw [doubled]
    rcases digits with ⟨rfl, even⟩ | ⟨rfl, one⟩ | ⟨rfl, three⟩
    · have : 2 * multiprecisionValue s'.k = multiprecisionValue s.k := by
        have := halved
        simp only [show nafDigit 0 = 0 from rfl, sub_zero] at this
        omega
      rw [this]
      exact inv.bounded
    · have : 2 * multiprecisionValue s'.k ≤ multiprecisionValue s.k := by
        have := halved
        simp only [show nafDigit 1 = 1 from rfl] at this
        omega
      exact Nat.le_trans (Nat.mul_le_mul_right _ this) inv.bounded
    · have : 2 * multiprecisionValue s'.k = multiprecisionValue s.k + 1 := by
        have := halved
        simp only [show nafDigit 3 = -1 from rfl] at this
        omega
      rw [this]
      exact add_one_mul_two_pow_le inv.bounded (by omega) (by omega)
  · -- at most half of `v + 1` is left
    have noWrap := inv.noWrap
    have least := neg_one_le_nafDigit sign
    omega

/-- **The loop of `ECC_NAF` stops** with `k` zero once `fuel + i` passes 257,
the invariant kept. -/
theorem eccNafLoop_spec {key : ℕ} {beyond : List UInt32} :
    ∀ (fuel : ℕ) (s : NafState), NafInv key beyond s → 257 < fuel + s.i →
      ∃ s', eccNafLoop fuel s = some s' ∧ NafInv key beyond s' ∧ multiprecisionValue s'.k = 0
  | 0, s, inv, enough => absurd inv.rounds (by omega)
  | fuel + 1, s, inv, enough => by
      rw [eccNafLoop]
      by_cases running : multiprecisionValue s.k = 0
      · rw [if_neg (by
          rw [one_le_multiprecisionMostSignbits_iff inv.eight]
          exact not_not.mpr running)]
        exact ⟨s, rfl, inv, running⟩
      · rw [if_pos ((one_le_multiprecisionMostSignbits_iff inv.eight).mpr running)]
        obtain ⟨s', stepped, i', inv'⟩ := inv.step running
        rw [stepped, Option.bind_some]
        exact eccNafLoop_spec fuel s' inv' (by omega)

/-- **`ECC_NAF` recodes every key but `2 ^ 256 - 1`**: it stops, writes no word
of `k` past `k[7]`, leaves the memory after the key alone, and its digits stand
for the key. -/
theorem eccNaf_recodes (k beyond : List UInt32) (eight : k.length = keyLengthDwordsP256)
    (notAllOnes : multiprecisionValue k ≠ 2 ^ 256 - 1) :
    ∃ s, eccNaf k beyond = some s ∧ s.beyond = beyond ∧
      (∀ j ∈ s.kWrites, j < keyLengthDwordsP256) ∧ s.i ≤ 257 ∧
      signedValue (fun j => nafDigit (nafSign s.naf j)) s.i = multiprecisionValue k := by
  obtain ⟨s, run, inv, zero⟩ :=
    eccNafLoop_spec (32 * keyLengthDwordsP256 + 2) _ (nafInv_init beyond eight notAllOnes)
      (by simp [NafState.init, keyLengthDwordsP256])
  refine ⟨s, run, inv.beyond_eq, inv.writes, inv.rounds, ?_⟩
  have recoded := inv.recoded
  rw [zero, Nat.cast_zero, zero_mul, zero_add] at recoded
  exact recoded

/-- **`ECC_PointMult_Bin_NAF` multiplies by every key but `2 ^ 256 - 1`.**  For
an eight-word key of any other value and any memory after it, `ECC_NAF` stops,
writes only `k[0..7]` and leaves the memory after the key as it was; and with a
group law for `ECC_Double` and `ECC_Add` the point loop returns `[k] p`. -/
theorem pointMult_of_not_all_ones (k beyond : List UInt32) (eight : k.length = keyLengthDwordsP256)
    (notAllOnes : multiprecisionValue k ≠ 2 ^ 256 - 1) {G : Type*} [AddCommGroup G] (p : G) :
    (∃ s, eccNaf k beyond = some s ∧ s.beyond = beyond ∧
        ∀ j ∈ s.kWrites, j < keyLengthDwordsP256) ∧
      eccPointMultBinNaf (fun q => q + q) (· + ·) 0 p (-p) k beyond =
        some (multiprecisionValue k • p) := by
  obtain ⟨s, run, beyond', writes, -, recoded⟩ := eccNaf_recodes k beyond eight notAllOnes
  refine ⟨⟨s, run, beyond', writes⟩, ?_⟩
  rw [eccPointMultBinNaf, run, Option.map_some, pointMultLoop_eq_doubleAndAdd,
    doubleAndAdd_zero, recoded, natCast_zsmul]

/-- The key `5`, in `ZMod 7`. -/
theorem pointMult_of_key_five :
    ([5, 0, 0, 0, 0, 0, 0, 0] : List UInt32).length = keyLengthDwordsP256 ∧
      multiprecisionValue [5, 0, 0, 0, 0, 0, 0, 0] ≠ 2 ^ 256 - 1 ∧
      eccPointMultBinNaf (fun q => q + q) (· + ·) 0 (1 : ZMod 7) (-1)
        [5, 0, 0, 0, 0, 0, 0, 0] [] = some (multiprecisionValue [5, 0, 0, 0, 0, 0, 0, 0] • 1) :=
  ⟨rfl, by decide, (pointMult_of_not_all_ones _ [] rfl (by decide) (1 : ZMod 7)).2⟩

end Bluedroid.Smp
