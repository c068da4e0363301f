import Mathlib.Data.Nat.Digits.Defs
import Mathlib.Data.Nat.Bitwise

/-!
# Theory.Octets -- octet strings, their numbers, and 128-bit blocks

An octet string read least significant octet first stands for the number
`leValue`; most significant first, for the number of its reverse.  A block of
a 128-bit cipher is a `BitVec 128`; sixteen octets make one either way round
(`blockLE`, `blockBE`), and a block gives its sixteen octets back either way
round (`octetsLE`, `octetsBE`).

The lemmas say what the octet-wise operations of an implementation do to the
number: the XOR of two strings octet by octet is the XOR of their numbers
(`leValue_zipWith_xor`), the top bit of the last octet is the top bit of the
block (`msb_blockLE`), and the two conversions are inverse on sixteen
octets (`octetsLE_blockLE`, `blockLE_octetsLE`).  For a word of flags: one whose
bits lie in a mask is its AND with the mask, and a one-bit mask takes all of
its bit or nothing (`eq_and_of_and_not_eq_zero`, `and_two_pow_cases`).
-/

namespace Bluedroid.Theory

set_option autoImplicit false

/-- The number an octet string stands for, its first octet the least
significant. -/
def leValue (b : List UInt8) : ℕ := Nat.ofDigits 256 (b.map UInt8.toNat)

@[simp] theorem leValue_nil : leValue [] = 0 := rfl

@[simp] theorem leValue_cons (x : UInt8) (b : List UInt8) :
    leValue (x :: b) = x.toNat + 256 * leValue b := by
  simp [leValue, Nat.ofDigits_cons]

theorem leValue_lt (b : List UInt8) : leValue b < 2 ^ (8 * b.length) := by
  induction b with
  | nil => simp
  | cons x b ih =>
    have octet := x.toNat_lt
    have split : 2 ^ (8 * (b.length + 1)) = 256 * 2 ^ (8 * b.length) := by
      rw [Nat.mul_succ, pow_add, Nat.mul_comm]
      rfl
    rw [leValue_cons, List.length_cons, split]
    calc x.toNat + 256 * leValue b < 256 * (leValue b + 1) := by omega
      _ ≤ 256 * 2 ^ (8 * b.length) := Nat.mul_le_mul_left _ ih

theorem leValue_append (a b : List UInt8) :
    leValue (a ++ b) = leValue a + 2 ^ (8 * a.length) * leValue b := by
  simp only [leValue, List.map_append, Nat.ofDigits_append, List.length_map]
  rw [pow_mul]
  rfl

theorem leValue_take_add_drop (b : List UInt8) (n : ℕ) (within : n ≤ b.length) :
    leValue b = leValue (b.take n) + 2 ^ (8 * n) * leValue (b.drop n) := by
  conv_lhs => rw [← List.take_append_drop n b]
  rw [leValue_append, List.length_take, Nat.min_eq_left within]

/-- A remainder below `k` and a multiple of `k` reduce together. -/
theorem add_mul_mod_mul {s k y X : ℕ} (low : s < k) : s + k * (y % X) = (s + k * y) % (k * X) := by
  have pos : 0 < k := by omega
  rw [Nat.mod_mul, Nat.add_mul_mod_self_left, Nat.mod_eq_of_lt low, Nat.add_mul_div_left _ _ pos,
    Nat.div_eq_of_lt low, Nat.zero_add]

/-- The low `k` bits and the rest of a number are XOR-ed apart. -/
theorem add_two_pow_mul_xor {k lo lo' hi hi' : ℕ} (low : lo < 2 ^ k) (low' : lo' < 2 ^ k) :
    (lo + 2 ^ k * hi) ^^^ (lo' + 2 ^ k * hi') = (lo ^^^ lo') + 2 ^ k * (hi ^^^ hi') := by
  apply Nat.eq_of_testBit_eq
  intro j
  rw [Nat.add_comm lo, Nat.add_comm lo', Nat.add_comm (lo ^^^ lo'), Nat.testBit_xor,
    Nat.testBit_two_pow_mul_add _ low, Nat.testBit_two_pow_mul_add _ low',
    Nat.testBit_two_pow_mul_add _ (Nat.xor_lt_two_pow low low')]
  -- below bit `k` the low parts decide, from bit `k` on the high parts
  split_ifs <;> rw [Nat.testBit_xor]

/-- **The octet-wise XOR of two strings is the XOR of their numbers.** -/
theorem leValue_zipWith_xor : ∀ (a b : List UInt8), a.length = b.length →
    leValue (List.zipWith (· ^^^ ·) a b) = leValue a ^^^ leValue b
  | [], [], _ => rfl
  | x :: a, y :: b, same => by
    have rest := leValue_zipWith_xor a b (by simpa using same)
    rw [List.zipWith_cons_cons, leValue_cons, leValue_cons, leValue_cons, rest, UInt8.toNat_xor]
    exact (add_two_pow_mul_xor (k := 8) x.toNat_lt y.toNat_lt).symm

/-! ## Octets -/

/-- The top bit of an octet. -/
theorem and_0x80_ne_zero_iff (w : UInt8) : w &&& 0x80 ≠ 0 ↔ 128 ≤ w.toNat := by
  have bound := w.toNat_lt
  rw [Ne, ← UInt8.toNat_inj, UInt8.toNat_and, UInt8.toNat_zero,
    show UInt8.toNat 0x80 = 2 ^ 7 from rfl, Nat.and_two_pow, Nat.testBit_eq_decide_div_mod_eq]
  by_cases top : w.toNat / 2 ^ 7 % 2 = 1
  · simp only [top, decide_true, Bool.toNat_true]
    omega
  · simp only [top, decide_false, Bool.toNat_false]
    omega

/-- An octet shifted left by one, with a bit or-ed into the bit freed. -/
theorem toNat_shiftLeft_one_or (w c : UInt8) (bit : c.toNat ≤ 1) :
    ((w <<< 1) ||| c).toNat = (2 * w.toNat + c.toNat) % 256 := by
  rw [UInt8.toNat_or, UInt8.toNat_shiftLeft, show (UInt8.toNat 1) % 8 = 1 from rfl,
    Nat.shiftLeft_eq, show w.toNat * 2 ^ 1 % 2 ^ 8 = 2 ^ 1 * (w.toNat % 128) by omega,
    ← Nat.two_pow_add_eq_or_of_lt (by omega)]
  omega

/-! ## Flag words -/

/-- A word whose set bits all lie in a mask is its own AND with the mask. -/
theorem eq_and_of_and_not_eq_zero {x m : UInt16} (inside : x &&& ~~~m = 0) : x = x &&& m := by
  have cleared := congrArg UInt16.toBitVec inside
  apply UInt16.toBitVec_inj.mp
  simp only [UInt16.toBitVec_and, UInt16.toBitVec_not, UInt16.toBitVec_zero] at cleared ⊢
  calc x.toBitVec = x.toBitVec &&& (m.toBitVec ||| ~~~m.toBitVec) := by
        rw [BitVec.or_not_self, BitVec.and_allOnes]
    _ = (x.toBitVec &&& m.toBitVec) ||| (x.toBitVec &&& ~~~m.toBitVec) := BitVec.and_or_distrib_left
    _ = x.toBitVec &&& m.toBitVec := by rw [cleared, BitVec.or_zero]

/-- A word whose set bits all lie among three masks is the OR of its parts in
each. -/
theorem eq_or_of_and_not_eq_zero {x a b c : UInt16} (inside : x &&& ~~~(a ||| b ||| c) = 0) :
    x = (x &&& a) ||| (x &&& b) ||| (x &&& c) := by
  conv_lhs => rw [eq_and_of_and_not_eq_zero inside]
  apply UInt16.toBitVec_inj.mp
  simp only [UInt16.toBitVec_and, UInt16.toBitVec_or]
  rw [BitVec.and_or_distrib_left, BitVec.and_or_distrib_left]

/-- A one-bit mask takes the whole bit or nothing. -/
theorem and_two_pow_cases (x : UInt16) {k : ℕ} (small : k < 16) :
    x &&& UInt16.ofNat (2 ^ k) = 0 ∨ x &&& UInt16.ofNat (2 ^ k) = UInt16.ofNat (2 ^ k) := by
  have bit : (UInt16.ofNat (2 ^ k)).toNat = 2 ^ k := by
    rw [UInt16.toNat_ofNat', Nat.mod_eq_of_lt (Nat.pow_lt_pow_right (by decide) small)]
  rw [← UInt16.toNat_inj, ← UInt16.toNat_inj, UInt16.toNat_and, bit, Nat.and_two_pow, UInt16.toNat_zero]
  cases x.toNat.testBit k
  · exact .inl (by rw [Bool.toNat_false, Nat.zero_mul])
  · exact .inr (by rw [Bool.toNat_true, Nat.one_mul])

/-- A number's low `len` octets, the least significant first. -/
def leOctets : ℕ → ℕ → List UInt8
  | 0, _ => []
  | len + 1, n => UInt8.ofNat n :: leOctets len (n / 256)

@[simp] theorem length_leOctets (len n : ℕ) : (leOctets len n).length = len := by
  induction len generalizing n with
  | zero => rfl
  | succ len ih => simp [leOctets, ih]

theorem leValue_leOctets (len n : ℕ) : leValue (leOctets len n) = n % 2 ^ (8 * len) := by
  induction len generalizing n with
  | zero => simp [leOctets, Nat.mod_one]
  | succ len ih =>
    rw [leOctets, leValue_cons, ih, UInt8.toNat_ofNat', Nat.mul_succ, pow_add,
      Nat.mul_comm (2 ^ (8 * len)), Nat.mod_mul]
    rfl

theorem leOctets_leValue : ∀ (b : List UInt8), leOctets b.length (leValue b) = b
  | [] => rfl
  | x :: b => by
    have octet := x.toNat_lt
    have low : UInt8.ofNat (x.toNat + 256 * leValue b) = x := by
      apply UInt8.toNat_inj.mp
      rw [UInt8.toNat_ofNat']
      omega
    have high : (x.toNat + 256 * leValue b) / 256 = leValue b := by omega
    rw [List.length_cons, leOctets, leValue_cons, low, high, leOctets_leValue b]

theorem take_leOctets : ∀ (k len n : ℕ), (leOctets len n).take k = leOctets (min k len) n
  | 0, _, _ => by simp [leOctets]
  | _ + 1, 0, _ => rfl
  | k + 1, len + 1, n => by
    rw [leOctets, List.take_succ_cons, take_leOctets k len, Nat.add_min_add_right, leOctets]

/-! ## Blocks -/

/-- A 128-bit block from sixteen octets, the first the least significant. -/
def blockLE (b : List UInt8) : BitVec 128 := BitVec.ofNat 128 (leValue b)

/-- A 128-bit block from sixteen octets, the first the most significant. -/
def blockBE (b : List UInt8) : BitVec 128 := blockLE b.reverse

/-- The sixteen octets of a block, the least significant first. -/
def octetsLE (x : BitVec 128) : List UInt8 := leOctets 16 x.toNat

/-- The sixteen octets of a block, the most significant first. -/
def octetsBE (x : BitVec 128) : List UInt8 := (octetsLE x).reverse

@[simp] theorem length_octetsLE (x : BitVec 128) : (octetsLE x).length = 16 :=
  length_leOctets 16 _

theorem toNat_blockLE {b : List UInt8} (sixteen : b.length = 16) : (blockLE b).toNat = leValue b := by
  have below := leValue_lt b
  rw [sixteen] at below
  rw [blockLE, BitVec.toNat_ofNat, Nat.mod_eq_of_lt below]

theorem blockLE_octetsLE (x : BitVec 128) : blockLE (octetsLE x) = x := by
  apply BitVec.eq_of_toNat_eq
  rw [toNat_blockLE (length_octetsLE x), octetsLE, leValue_leOctets, Nat.mod_eq_of_lt x.isLt]

theorem octetsLE_blockLE {b : List UInt8} (sixteen : b.length = 16) : octetsLE (blockLE b) = b := by
  rw [octetsLE, toNat_blockLE sixteen, ← sixteen, leOctets_leValue]

theorem blockBE_octetsBE (x : BitVec 128) : blockBE (octetsBE x) = x := by
  rw [blockBE, octetsBE, List.reverse_reverse, blockLE_octetsLE]

theorem octetsBE_blockBE {b : List UInt8} (sixteen : b.length = 16) : octetsBE (blockBE b) = b := by
  rw [octetsBE, blockBE, octetsLE_blockLE (by rw [List.length_reverse, sixteen]), List.reverse_reverse]

theorem blockLE_zipWith_xor {a b : List UInt8} (sixteenA : a.length = 16) (sixteenB : b.length = 16) :
    blockLE (List.zipWith (· ^^^ ·) a b) = blockLE a ^^^ blockLE b := by
  apply BitVec.eq_of_toNat_eq
  rw [BitVec.toNat_xor, toNat_blockLE sixteenA, toNat_blockLE sixteenB,
    toNat_blockLE (by rw [List.length_zipWith, sixteenA, sixteenB]; rfl),
    leValue_zipWith_xor a b (by rw [sixteenA, sixteenB])]

/-- The top bit of a block is the top bit of its last octet. -/
theorem msb_blockLE {b : List UInt8} (sixteen : b.length = 16) :
    (blockLE b).msb = true ↔ 128 ≤ (b.getD 15 0).toNat := by
  have split := leValue_take_add_drop b 15 (by omega)
  have low := leValue_lt (b.take 15)
  have top : b.drop 15 = [b.getD 15 0] := by
    rw [List.drop_eq_getElem_cons (by omega), List.drop_of_length_le (by omega),
      List.getD_eq_getElem _ _ (by omega)]
  rw [top, leValue_cons, leValue_nil] at split
  rw [List.length_take, sixteen, show min 15 16 = 15 from rfl] at low
  rw [BitVec.msb_eq_decide, toNat_blockLE sixteen, decide_eq_true_iff, split]
  omega

/-- The first four octets of a block are the block modulo `2 ^ 32`. -/
theorem leValue_take_octetsLE (x : BitVec 128) : leValue ((octetsLE x).take 4) = x.toNat % 2 ^ 32 := by
  rw [octetsLE, take_leOctets, leValue_leOctets]
  rfl

end Bluedroid.Theory
