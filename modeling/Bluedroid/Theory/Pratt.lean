import Mathlib.Data.List.Prime
import Mathlib.NumberTheory.LucasPrimality

/-!
# Theory.Pratt -- primality by a checked certificate

Lucas's test (`lucas_primality`) shows `p` prime from a witness `a` of order
`p - 1` modulo `p`: `a ^ (p - 1) ≡ 1` and `a ^ ((p - 1) / q) ≢ 1` for every prime
`q` dividing `p - 1`.  A Pratt certificate lists, for each number to certify,
the witness and the factorization of `p - 1`, every factor of which is
certified by an earlier entry.  `check` tests a certificate by computation
alone, with square-and-multiply powers (`powMod`), so that the kernel can run
it for numbers of a few hundred bits; `check_sound` turns a passing
certificate into primality.
-/

namespace Bluedroid.Theory

set_option autoImplicit false

/-- `a ^ n % m` by square-and-multiply over the `bits` low bits of `n`. -/
def powMod (m : ℕ) : ℕ → ℕ → ℕ → ℕ
  | 0, _, _ => 1 % m
  | bits + 1, a, n =>
      let rest := powMod m bits (a * a % m) (n / 2)
      if n % 2 = 1 then rest * a % m else rest

theorem powMod_eq (m : ℕ) : ∀ (bits a n : ℕ), n < 2 ^ bits → powMod m bits a n = a ^ n % m
  | 0, a, n, fits => by
    obtain rfl : n = 0 := by simpa using fits
    rfl
  | bits + 1, a, n, fits => by
    have half : n / 2 < 2 ^ bits := by
      rw [pow_succ] at fits
      omega
    -- the low bit of `n` decides whether `a` is multiplied in once more
    have squared : (a * a % m) ^ (n / 2) % m = a ^ (2 * (n / 2)) % m := by
      rw [← Nat.pow_mod, pow_mul, sq]
    simp only [powMod]
    rw [powMod_eq m bits (a * a % m) (n / 2) half, squared]
    split_ifs with odd
    · conv_rhs => rw [← Nat.div_add_mod n 2, odd, pow_succ]
      rw [Nat.mod_mul_mod]
    · have even : n % 2 = 0 := by omega
      conv_rhs => rw [← Nat.div_add_mod n 2, even, Nat.add_zero]

/-- A power of `a` is one modulo `p` exactly when the natural power leaves one. -/
theorem natCast_pow_eq_one_iff {p : ℕ} (two : 2 ≤ p) (a n : ℕ) :
    (a : ZMod p) ^ n = 1 ↔ a ^ n % p = 1 := by
  rw [← Nat.cast_pow, ← Nat.cast_one, ZMod.natCast_eq_natCast_iff',
    Nat.one_mod_eq_one.mpr (by omega)]

/-- One entry of a certificate: the number `p`, Lucas's witness `a`, and the
primes of `p - 1` with their exponents. -/
structure PrattEntry where
  p : ℕ
  a : ℕ
  factors : List (ℕ × ℕ)

/-- Lucas's test for one entry, with exponents of at most `bits` bits, given the
numbers certified before it. -/
def PrattEntry.check (bits : ℕ) (proven : List ℕ) (e : PrattEntry) : Bool :=
  decide (2 ≤ e.p) && decide (e.p ≤ 2 ^ bits) &&
    e.factors.all (fun f => decide (f.1 ∈ proven)) &&
    (e.factors.map fun f => f.1 ^ f.2).prod == e.p - 1 &&
    powMod e.p bits e.a (e.p - 1) == 1 &&
    e.factors.all fun f => powMod e.p bits e.a ((e.p - 1) / f.1) != 1

/-- A certificate, entry by entry, each tested against those before it. -/
def prattCheck (bits : ℕ) : List ℕ → List PrattEntry → Bool
  | _, [] => true
  | proven, e :: es => e.check bits proven && prattCheck bits (e.p :: proven) es

/-- An entry that passes, whose factors are prime, certifies a prime. -/
theorem PrattEntry.prime_of_check {bits : ℕ} {proven : List ℕ} {e : PrattEntry}
    (primes : ∀ q ∈ proven, q.Prime) (passes : e.check bits proven = true) : e.p.Prime := by
  simp only [PrattEntry.check, Bool.and_eq_true, decide_eq_true_eq, List.all_eq_true, beq_iff_eq,
    bne_iff_ne, ne_eq] at passes
  obtain ⟨⟨⟨⟨⟨two, small⟩, certified⟩, product⟩, full⟩, partial_⟩ := passes
  have fits : ∀ n, n ≤ e.p - 1 → n < 2 ^ bits := fun n le => by omega
  refine lucas_primality e.p (e.a : ZMod e.p) ?_ ?_
  · rw [natCast_pow_eq_one_iff two, ← powMod_eq _ _ _ _ (fits _ le_rfl)]
    exact full
  · intro q prime divides
    -- a prime divisor of `p - 1` is one of the listed primes
    rw [← product] at divides
    obtain ⟨power, listed, dvd_power⟩ := (Prime.dvd_prod_iff prime.prime).mp divides
    obtain ⟨f, mem, rfl⟩ := List.mem_map.mp listed
    have same : q = f.1 :=
      (Nat.prime_dvd_prime_iff_eq prime (primes _ (certified f mem))).mp
        (prime.dvd_of_dvd_pow dvd_power)
    subst same
    rw [ne_eq, natCast_pow_eq_one_iff two, ← powMod_eq _ _ _ _ (fits _ (Nat.div_le_self _ _))]
    exact partial_ f mem

/-- Every number a passing certificate certifies is prime. -/
theorem check_sound {bits : ℕ} :
    ∀ {proven : List ℕ} {es : List PrattEntry}, (∀ q ∈ proven, q.Prime) →
      prattCheck bits proven es = true → ∀ e ∈ es, e.p.Prime
  | _, [], _, _, _, mem => absurd mem List.not_mem_nil
  | proven, e :: es, primes, passes, e', mem => by
    simp only [prattCheck, Bool.and_eq_true] at passes
    have prime := PrattEntry.prime_of_check primes passes.1
    rcases List.mem_cons.mp mem with rfl | later
    · exact prime
    · refine check_sound ?_ passes.2 e' later
      rintro q (_ | ⟨_, earlier⟩)
      · exact prime
      · exact primes q earlier

/-- The numbers of a passing certificate that starts from nothing are prime. -/
theorem prime_of_prattCheck {bits p : ℕ} {es : List PrattEntry} (passes : prattCheck bits [] es = true)
    (listed : p ∈ es.map PrattEntry.p) : p.Prime := by
  obtain ⟨e, mem, rfl⟩ := List.mem_map.mp listed
  exact check_sound (fun _ mem => absurd mem List.not_mem_nil) passes e mem

end Bluedroid.Theory
