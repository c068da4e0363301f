import Mathlib.Data.ZMod.Basic
import Mathlib.Tactic.LinearCombination
import Bluedroid.Theory.Loop

/-!
# Theory.BinaryInverse -- the inverse modulo an odd number by halving and subtracting

The binary extended Euclidean algorithm keeps two numbers `u` and `v`, starting
from `u₀` and the odd modulus `m`, and two accumulators with `a * u₀ ≡ u` and
`c * u₀ ≡ v`.  It halves `u` while it is even, halving `a` modulo `m` with it,
then does the same to `v` and `c`, then takes the smaller of `u` and `v` from
the larger, and the matching accumulator from the other modulo `m`.  When `u`
reaches zero, `v` is `gcd u₀ m` and `c * u₀ ≡ v`: for `u₀` prime to `m`, `c` is
the inverse.

Here the algorithm is a loop body over a record of naturals (`pass`), written
as a machine that is at the test of the outer loop or in one of the two halving
loops, so that one pass is one test.  `Inv` is the invariant; `pass_inv` says
that each pass keeps it and lowers `measure`, or leaves with the gcd's
multiplier (`Result`); `run_result` puts the two together through the variant
rule of Theory/Loop.lean.  The gcd is carried as it is (`gcd u v = gcd u₀ m`),
not assumed to be one, so that a caller decides what it knows of `u₀`.
-/

namespace Bluedroid.Theory.BinaryInverse

set_option autoImplicit false

/-- Where the algorithm is: at the test of its outer loop, or at the test of
the loop that halves `u` or of the one that halves `v`. -/
inductive Phase where
  | test
  | halveU
  | halveV
  deriving DecidableEq, Repr

structure State where
  phase : Phase
  u : ℕ
  v : ℕ
  a : ℕ
  c : ℕ
  deriving DecidableEq, Repr

/-- Half of `x` modulo `m`: `x / 2` for an even `x`, `(x + m) / 2` for an odd
one, which is exact when `m` is odd. -/
def halfMod (m x : ℕ) : ℕ := if x % 2 = 0 then x / 2 else (x + m) / 2

/-- `x - y` modulo `m`, for `x` and `y` below `m`. -/
def subMod (m x y : ℕ) : ℕ := if y ≤ x then x - y else x + m - y

/-- `c` with `m` taken off once if it is not below `m`. -/
def reduceOnce (m c : ℕ) : ℕ := if m ≤ c then c - m else c

/-- One test of the algorithm and what follows it up to the next test. -/
def pass (m : ℕ) (s : State) : State ⊕ ℕ :=
  match s.phase with
  | .test => if s.u = 0 then .inr (reduceOnce m s.c) else .inl { s with phase := .halveU }
  | .halveU =>
      if s.u % 2 = 0 then .inl { s with u := s.u / 2, a := halfMod m s.a }
      else .inl { s with phase := .halveV }
  | .halveV =>
      if s.v % 2 = 0 then .inl { s with v := s.v / 2, c := halfMod m s.c }
      else if s.v ≤ s.u then .inl { s with phase := .test, u := s.u - s.v, a := subMod m s.a s.c }
      else .inl { s with phase := .test, v := s.v - s.u, c := subMod m s.c s.a }

/-- The start: `u₀` and `m`, with the accumulators `1` and `0`. -/
def init (m u₀ : ℕ) : State := ⟨.test, u₀, m, 1, 0⟩

/-- Each test costs one, each halving or subtraction lowers `u + v`. -/
def Phase.rank : Phase → ℕ
  | .test => 2
  | .halveU => 1
  | .halveV => 0

def measure (s : State) : ℕ := 3 * (s.u + s.v) + s.phase.rank

/-- The invariant: the accumulators are below `m` and multiply `u₀` to `u` and
`v`, the gcd is the start's, `v` is positive, one of `u` and `v` is odd, `u` is
not zero while it is halved and odd while `v` is. -/
structure Inv (m u₀ : ℕ) (s : State) : Prop where
  a_lt : s.a < m
  c_lt : s.c < m
  a_mul : (s.a : ZMod m) * u₀ = s.u
  c_mul : (s.c : ZMod m) * u₀ = s.v
  gcd_eq : Nat.gcd s.u s.v = Nat.gcd u₀ m
  v_pos : 0 < s.v
  one_odd : s.u % 2 = 1 ∨ s.v % 2 = 1
  halving_u : s.phase = .halveU → 0 < s.u
  halving_v : s.phase = .halveV → s.u % 2 = 1

/-- What the algorithm leaves: a number below `m` that multiplies `u₀` to the
gcd of `u₀` and `m`. -/
def Result (m u₀ r : ℕ) : Prop := r < m ∧ (r : ZMod m) * u₀ = Nat.gcd u₀ m

section Arithmetic

variable {m : ℕ}

theorem halfMod_lt {x : ℕ} (lt : x < m) : halfMod m x < m := by
  unfold halfMod
  split_ifs <;> omega

/-- Halving modulo an odd `m` is exact: twice the half is `x` again. -/
theorem two_mul_halfMod (odd : m % 2 = 1) (x : ℕ) : (2 : ZMod m) * halfMod m x = x := by
  unfold halfMod
  split_ifs with even
  · have twice : 2 * (x / 2) = x := by omega
    exact_mod_cast congrArg (fun n : ℕ => (n : ZMod m)) twice
  · have twice : 2 * ((x + m) / 2) = x + m := by omega
    have cast := congrArg (fun n : ℕ => (n : ZMod m)) twice
    push_cast at cast
    rw [cast, ZMod.natCast_self, add_zero]

/-- Two is a unit modulo an odd `m`, so a doubled equation may be halved. -/
theorem cancel_two (odd : m % 2 = 1) {x y : ZMod m} (twice : 2 * x = 2 * y) : x = y := by
  have coprime : Nat.Coprime 2 m := Nat.coprime_two_left.mpr (Nat.odd_iff.mpr odd)
  have unit : IsUnit (2 : ZMod m) := by
    exact_mod_cast (ZMod.unitOfCoprime 2 coprime).isUnit
  exact unit.mul_left_cancel twice

theorem subMod_lt {x y : ℕ} (hx : x < m) (hy : y < m) : subMod m x y < m := by
  unfold subMod
  split_ifs <;> omega

theorem subMod_add {x y : ℕ} (hy : y < m) : (subMod m x y : ZMod m) + y = x := by
  unfold subMod
  split_ifs with le
  · rw [Nat.cast_sub le, sub_add_cancel]
  · rw [Nat.cast_sub (by omega), Nat.cast_add, ZMod.natCast_self, add_zero, sub_add_cancel]

theorem reduceOnce_of_lt {c : ℕ} (lt : c < m) : reduceOnce m c = c := by
  rw [reduceOnce, if_neg (by omega)]

end Arithmetic

/-! ## The gcd through a pass -/

theorem gcd_half_left {u v : ℕ} (even : u % 2 = 0) (odd : v % 2 = 1) :
    Nat.gcd (u / 2) v = Nat.gcd u v := by
  have coprime : Nat.Coprime 2 v := Nat.coprime_two_left.mpr (Nat.odd_iff.mpr odd)
  have twice : 2 * (u / 2) = u := by omega
  rw [← Nat.Coprime.gcd_mul_left_cancel (u / 2) coprime, twice]

theorem gcd_half_right {u v : ℕ} (odd : u % 2 = 1) (even : v % 2 = 0) :
    Nat.gcd u (v / 2) = Nat.gcd u v := by
  rw [Nat.gcd_comm, gcd_half_left even odd, Nat.gcd_comm]

/-! ## One pass -/

section Pass

variable {m u₀ : ℕ} {s : State}

/-- The accumulator of a number halved with it still multiplies `u₀` to it. -/
theorem halfMod_mul (odd : m % 2 = 1) {x n : ℕ} (even : n % 2 = 0)
    (mul : (x : ZMod m) * u₀ = n) : (halfMod m x : ZMod m) * u₀ = (n / 2 : ℕ) := by
  apply cancel_two odd
  have twice : 2 * (n / 2) = n := by omega
  rw [← mul_assoc, two_mul_halfMod odd, mul, ← Nat.cast_ofNat, ← Nat.cast_mul, twice]

/-- The accumulator of a difference is the difference of the accumulators. -/
theorem subMod_mul {x y n k : ℕ} (hy : y < m) (le : k ≤ n) (mulX : (x : ZMod m) * u₀ = n)
    (mulY : (y : ZMod m) * u₀ = k) : (subMod m x y : ZMod m) * u₀ = (n - k : ℕ) := by
  have sum := subMod_add (x := x) hy
  rw [Nat.cast_sub le, ← mulX, ← mulY, ← sum, add_mul, add_sub_cancel_right]

theorem pass_test (inv : Inv m u₀ s) (test : s.phase = .test) :
    (∃ s', pass m s = .inl s' ∧ Inv m u₀ s' ∧ measure s' < measure s) ∨
      ∃ r, pass m s = .inr r ∧ Result m u₀ r := by
  by_cases zero : s.u = 0
  · -- `u` is zero: `v` is the gcd and `c` its multiplier
    right
    have gcd := inv.gcd_eq
    rw [zero, Nat.gcd_zero_left] at gcd
    refine ⟨s.c, by rw [pass, test, if_pos zero, reduceOnce_of_lt inv.c_lt], inv.c_lt, ?_⟩
    rw [inv.c_mul, gcd]
  · left
    refine ⟨{ s with phase := .halveU }, by rw [pass, test, if_neg zero], ?_, ?_⟩
    · exact { inv with halving_u := fun _ => Nat.pos_of_ne_zero zero, halving_v := nofun }
    · simp only [measure, test, Phase.rank]
      omega

theorem pass_halveU (odd : m % 2 = 1) (inv : Inv m u₀ s) (halving : s.phase = .halveU) :
    ∃ s', pass m s = .inl s' ∧ Inv m u₀ s' ∧ measure s' < measure s := by
  have pos := inv.halving_u halving
  by_cases even : s.u % 2 = 0
  · -- then `v` is the odd one, and halving `u` keeps the gcd
    have oddV : s.v % 2 = 1 := by have := inv.one_odd; omega
    refine ⟨{ s with u := s.u / 2, a := halfMod m s.a }, by rw [pass, halving, if_pos even], ?_, ?_⟩
    · exact { inv with
        a_lt := halfMod_lt inv.a_lt
        a_mul := halfMod_mul odd even inv.a_mul
        gcd_eq := by rw [← inv.gcd_eq]; exact gcd_half_left even oddV
        one_odd := .inr oddV
        halving_u := fun _ => by dsimp only; omega
        halving_v := fun moved => by simp [halving] at moved }
    · simp only [measure, halving, Phase.rank]
      omega
  · refine ⟨{ s with phase := .halveV }, by rw [pass, halving, if_neg even], ?_, ?_⟩
    · exact { inv with halving_u := nofun, halving_v := fun _ => by dsimp only; omega }
    · simp only [measure, halving, Phase.rank]
      omega

theorem pass_halveV (odd : m % 2 = 1) (inv : Inv m u₀ s) (halving : s.phase = .halveV) :
    ∃ s', pass m s = .inl s' ∧ Inv m u₀ s' ∧ measure s' < measure s := by
  have oddU := inv.halving_v halving
  by_cases even : s.v % 2 = 0
  · refine ⟨{ s with v := s.v / 2, c := halfMod m s.c }, by rw [pass, halving, if_pos even], ?_, ?_⟩
    · exact { inv with
        c_lt := halfMod_lt inv.c_lt
        c_mul := halfMod_mul odd even inv.c_mul
        gcd_eq := by rw [← inv.gcd_eq]; exact gcd_half_right oddU even
        v_pos := by have := inv.v_pos; dsimp only; omega
        one_odd := .inl oddU
        halving_u := fun moved => by simp [halving] at moved }
    · have := inv.v_pos
      simp only [measure, halving, Phase.rank]
      omega
  have oddV : s.v % 2 = 1 := by omega
  by_cases le : s.v ≤ s.u
  · -- `u - v` is even, `v` stays odd and positive
    refine ⟨{ s with phase := .test, u := s.u - s.v, a := subMod m s.a s.c },
      by rw [pass, halving, if_neg even, if_pos le], ?_, ?_⟩
    · exact { inv with
        a_lt := subMod_lt inv.a_lt inv.c_lt
        a_mul := subMod_mul inv.c_lt le inv.a_mul inv.c_mul
        gcd_eq := by rw [← inv.gcd_eq]; exact Nat.gcd_sub_self_left le
        one_odd := .inr oddV
        halving_u := nofun
        halving_v := nofun }
    · have := inv.v_pos
      simp only [measure, halving, Phase.rank]
      omega
  · -- `v - u` is even and positive, `u` stays odd
    refine ⟨{ s with phase := .test, v := s.v - s.u, c := subMod m s.c s.a },
      by rw [pass, halving, if_neg even, if_neg le], ?_, ?_⟩
    · exact { inv with
        c_lt := subMod_lt inv.c_lt inv.a_lt
        c_mul := subMod_mul (n := s.v) (k := s.u) inv.a_lt (by omega) inv.c_mul inv.a_mul
        gcd_eq := by rw [← inv.gcd_eq]; exact Nat.gcd_sub_self_right (m := s.u) (n := s.v) (by omega)
        v_pos := by dsimp only; omega
        one_odd := .inl oddU
        halving_u := nofun
        halving_v := nofun }
    · simp only [measure, halving, Phase.rank]
      omega

/-- **A pass keeps the invariant and lowers the measure, or leaves with the
result.** -/
theorem pass_inv (odd : m % 2 = 1) (inv : Inv m u₀ s) :
    (∃ s', pass m s = .inl s' ∧ Inv m u₀ s' ∧ measure s' < measure s) ∨
      ∃ r, pass m s = .inr r ∧ Result m u₀ r := by
  cases phase : s.phase with
  | test => exact pass_test inv phase
  | halveU => exact .inl (pass_halveU odd inv phase)
  | halveV => exact .inl (pass_halveV odd inv phase)

/-- The invariant survives every pass that goes on. -/
theorem inv_of_pass (odd : m % 2 = 1) {s' : State} (inv : Inv m u₀ s)
    (goes : pass m s = .inl s') : Inv m u₀ s' := by
  rcases pass_inv odd inv with ⟨t, goes', holds, -⟩ | ⟨r, leaves, -⟩
  · rw [goes, Sum.inl.injEq] at goes'
    exact goes' ▸ holds
  · rw [goes] at leaves
    cases leaves

end Pass

/-! ## The whole run -/

variable {m : ℕ}

theorem init_inv (odd : m % 2 = 1) (one_lt : 1 < m) (u₀ : ℕ) : Inv m u₀ (init m u₀) where
  a_lt := one_lt
  c_lt := by dsimp only [init]; omega
  a_mul := by simp [init]
  c_mul := by simp [init]
  gcd_eq := rfl
  v_pos := by dsimp only [init]; omega
  one_odd := .inr odd
  halving_u := nofun
  halving_v := nofun

/-- **The algorithm stops, within one pass more than the measure of its start,
and leaves the multiplier of the gcd below `m`.** -/
theorem run_result (odd : m % 2 = 1) (one_lt : 1 < m) (u₀ : ℕ) :
    ∃ r, Result m u₀ r ∧ ∀ fuel, measure (init m u₀) < fuel → loop (pass m) fuel (init m u₀) = some r :=
  loop_total (Inv m u₀) (Result m u₀) measure (fun _ inv => pass_inv odd inv) _
    (init_inv odd one_lt u₀)

/-- Prime to `m`, `u₀` gets its inverse. -/
theorem result_of_coprime {u₀ r : ℕ} (coprime : Nat.gcd u₀ m = 1)
    (result : Result m u₀ r) : r < m ∧ r * u₀ ≡ 1 [MOD m] := by
  refine ⟨result.1, ?_⟩
  rw [← ZMod.natCast_eq_natCast_iff, Nat.cast_mul, result.2, coprime, Nat.cast_one]

end Bluedroid.Theory.BinaryInverse
