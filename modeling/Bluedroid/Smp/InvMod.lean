import Bluedroid.Smp.MultiprecisionValue
import Bluedroid.Smp.P256Prime
import Bluedroid.Theory.BinaryInverse

/-!
# Smp.InvMod -- `multiprecision_inv_mod` inverts modulo `p`

`multiprecision_inv_mod` is the binary extended Euclidean algorithm of
Theory/BinaryInverse.lean on eight-word arrays.  Read through
`multiprecisionValue`, each of its passes is a pass of that algorithm on the
numbers (`invModPass_value`), as long as the accumulators are below `p`, which
the algorithm's invariant keeps; so the loop returns what the algorithm returns
(`invModLoop_result`, by the simulation rule of Theory/Loop.lean).  The one
place where the words do more than the numbers is the halving of an odd
accumulator: `A + p` needs a ninth word, which holds the carry and comes back as
the top bit of the eighth; `halveAccumulator_of_odd` shows this is the shift of
the nine words, and `halveAccumulator_value` that nothing is lost.

Both copies are the same loop with a different modular subtraction; each meets
`SubModSpec`, and the modulus of P-256 is an odd prime (Smp/P256Prime.lean), so
both invert every unit and send zero to zero (`multiprecisionInvMod_inverts`).
-/

namespace Bluedroid.Smp

open Bluedroid.Theory
open Bluedroid.Theory.BinaryInverse (Phase State Inv Result halfMod)

set_option autoImplicit false

/-! ## The halving of an accumulator -/

/-- `a[0] & 0x01` tests the parity of the number. -/
theorem lowBit_eq_zero_iff (a : List UInt32) :
    a.getD 0 0 &&& 0x01 = 0 ↔ multiprecisionValue a % 2 = 0 := by
  cases a with
  | nil => simp
  | cons w ws =>
    rw [List.getD_cons_zero, multiprecisionValue_cons, ← UInt32.toNat_inj, toNat_and_one,
      UInt32.toNat_zero]
    omega

/-- The halving of an odd accumulator is the shift of the nine words `A + p`,
of which the eight low ones are kept. -/
theorem halveAccumulator_of_odd {modp A : List UInt32} (eightA : A.length = 8)
    (eightP : modp.length = 8) (odd : ¬A.getD 0 0 &&& 0x01 = 0) :
    halveAccumulator modp A =
      (multiprecisionRshift ((multiprecisionAdd A modp).1 ++ [(multiprecisionAdd A modp).2])).take 8 := by
  obtain ⟨-, -, length⟩ := multiprecisionAdd_value (a := A) (b := modp) (by omega)
  have top := multiprecisionRshift_set_top (multiprecisionAdd A modp).2 (multiprecisionAdd A modp).1
    (List.ne_nil_of_length_pos (by omega))
  rw [length, eightA] at top
  rw [← top, halveAccumulator, if_neg odd]
  rfl

/-- **The halving is exact**: the accumulator becomes its half modulo `p`. -/
theorem halveAccumulator_value {modp A : List UInt32} (eightA : A.length = 8)
    (eightP : modp.length = 8) :
    multiprecisionValue (halveAccumulator modp A) =
        halfMod (multiprecisionValue modp) (multiprecisionValue A) ∧
      (halveAccumulator modp A).length = 8 := by
  by_cases even : A.getD 0 0 &&& 0x01 = 0
  · rw [halveAccumulator, if_pos even, multiprecisionValue_rshift, length_multiprecisionRshift,
      halfMod, if_pos ((lowBit_eq_zero_iff A).mp even)]
    exact ⟨rfl, eightA⟩
  · obtain ⟨sum, bit, length⟩ := multiprecisionAdd_value (a := A) (b := modp) (by omega)
    have shifted := multiprecisionValue_rshift_append (a := (multiprecisionAdd A modp).1) bit
    rw [length, sum, eightA] at shifted
    rw [halveAccumulator_of_odd eightA eightP even, halfMod,
      if_neg (fun zero => even ((lowBit_eq_zero_iff A).mpr zero))]
    refine ⟨shifted, ?_⟩
    rw [List.length_take, length_multiprecisionRshift, List.length_append, length, eightA]
    rfl

/-! ## The words and the numbers -/

/-- The phase of the algorithm a test of the code is at. -/
def InvModPc.phase : InvModPc → Phase
  | .outer => .test
  | .halveU => .halveU
  | .halveV => .halveV

/-- The numbers the arrays of a state stand for. -/
def InvModState.value (s : InvModState) : State :=
  ⟨s.pc.phase, multiprecisionValue s.u, multiprecisionValue s.v, multiprecisionValue s.A,
    multiprecisionValue s.C⟩

@[simp] theorem InvModState.value_phase (s : InvModState) : s.value.phase = s.pc.phase := rfl
@[simp] theorem InvModState.value_u (s : InvModState) : s.value.u = multiprecisionValue s.u := rfl
@[simp] theorem InvModState.value_v (s : InvModState) : s.value.v = multiprecisionValue s.v := rfl
@[simp] theorem InvModState.value_a (s : InvModState) : s.value.a = multiprecisionValue s.A := rfl
@[simp] theorem InvModState.value_c (s : InvModState) : s.value.c = multiprecisionValue s.C := rfl

/-- All four arrays of a state have eight words. -/
structure InvModState.Eight (s : InvModState) : Prop where
  u_eight : s.u.length = 8
  v_eight : s.v.length = 8
  A_eight : s.A.length = 8
  C_eight : s.C.length = 8

/-- What the loop needs of its modular subtraction: on eight words below `p`, it
returns eight words that stand for the difference modulo `p`. -/
def SubModSpec (modp : List UInt32) (subMod : List UInt32 → List UInt32 → List UInt32) : Prop :=
  ∀ a b, a.length = 8 → b.length = 8 → multiprecisionValue a < multiprecisionValue modp →
    multiprecisionValue b < multiprecisionValue modp →
    multiprecisionValue (subMod a b) =
        BinaryInverse.subMod (multiprecisionValue modp) (multiprecisionValue a) (multiprecisionValue b) ∧
      (subMod a b).length = 8

section Simulation

variable {modp : List UInt32} {subMod : List UInt32 → List UInt32 → List UInt32}

theorem invModPass_outer (eightP : modp.length = 8) {s : InvModState} (eight : s.Eight)
    (outer : s.pc = .outer) :
    Sum.map InvModState.value multiprecisionValue (invModPass modp subMod s) =
      BinaryInverse.pass (multiprecisionValue modp) s.value := by
  have test : s.value.phase = .test := by rw [InvModState.value_phase, outer, InvModPc.phase]
  rw [invModPass, outer, BinaryInverse.pass, test]
  by_cases zero : s.value.u = 0
  · -- after the loop: `C`, less `p` once if it is not below `p`
    rw [if_pos ((multiprecisionIszero_iff eight.u_eight).mpr zero), if_pos zero, Sum.map_inr,
      BinaryInverse.reduceOnce]
    congr 1
    split_ifs with atLeast reduces reduces
    · exact (multiprecisionSub_of_le (by rw [eight.C_eight, eightP])
        ((multiprecisionCompare_nonneg_iff eight.C_eight eightP).mp atLeast)).1
    · exact absurd ((multiprecisionCompare_nonneg_iff eight.C_eight eightP).mp atLeast) reduces
    · exact absurd ((multiprecisionCompare_nonneg_iff eight.C_eight eightP).mpr reduces) atLeast
    · rfl
  · rw [if_neg (fun iszero => zero ((multiprecisionIszero_iff eight.u_eight).mp iszero)),
      if_neg zero, Sum.map_inl]
    rfl

theorem invModPass_halveU (eightP : modp.length = 8) {s : InvModState} (eight : s.Eight)
    (halveU : s.pc = .halveU) :
    Sum.map InvModState.value multiprecisionValue (invModPass modp subMod s) =
      BinaryInverse.pass (multiprecisionValue modp) s.value := by
  have phase : s.value.phase = .halveU := by rw [InvModState.value_phase, halveU, InvModPc.phase]
  rw [invModPass, halveU, BinaryInverse.pass, phase]
  by_cases even : s.u.getD 0 0 &&& 0x01 = 0
  · rw [if_pos even, if_pos (show s.value.u % 2 = 0 from (lowBit_eq_zero_iff s.u).mp even),
      Sum.map_inl]
    simp only [InvModState.value, InvModPc.phase, multiprecisionValue_rshift,
      (halveAccumulator_value eight.A_eight eightP).1]
  · rw [if_neg even, if_neg (show ¬s.value.u % 2 = 0 from fun zero =>
      even ((lowBit_eq_zero_iff s.u).mpr zero)), Sum.map_inl]
    rfl

theorem invModPass_halveV (eightP : modp.length = 8) (spec : SubModSpec modp subMod)
    {s : InvModState} (eight : s.Eight) (ltA : multiprecisionValue s.A < multiprecisionValue modp)
    (ltC : multiprecisionValue s.C < multiprecisionValue modp) (halveV : s.pc = .halveV) :
    Sum.map InvModState.value multiprecisionValue (invModPass modp subMod s) =
      BinaryInverse.pass (multiprecisionValue modp) s.value := by
  have phase : s.value.phase = .halveV := by rw [InvModState.value_phase, halveV, InvModPc.phase]
  rw [invModPass, halveV, BinaryInverse.pass, phase]
  by_cases even : s.v.getD 0 0 &&& 0x01 = 0
  · rw [if_pos even, if_pos (show s.value.v % 2 = 0 from (lowBit_eq_zero_iff s.v).mp even),
      Sum.map_inl]
    simp only [InvModState.value, InvModPc.phase, multiprecisionValue_rshift,
      (halveAccumulator_value eight.C_eight eightP).1]
  rw [if_neg even, if_neg (show ¬s.value.v % 2 = 0 from fun zero =>
    even ((lowBit_eq_zero_iff s.v).mpr zero))]
  -- the larger of `u` and `v` loses the smaller, its accumulator the other's
  by_cases le : s.value.v ≤ s.value.u
  · rw [if_pos ((multiprecisionCompare_nonneg_iff eight.u_eight eight.v_eight).mpr le), if_pos le,
      Sum.map_inl]
    simp only [InvModState.value, InvModPc.phase,
      (multiprecisionSub_of_le (a := s.u) (b := s.v) (by rw [eight.u_eight, eight.v_eight]) le).1,
      (spec s.A s.C eight.A_eight eight.C_eight ltA ltC).1]
  · rw [if_neg (fun nonneg => le ((multiprecisionCompare_nonneg_iff eight.u_eight eight.v_eight).mp
      nonneg)), if_neg le, Sum.map_inl]
    simp only [InvModState.value, InvModPc.phase,
      (multiprecisionSub_of_le (a := s.v) (b := s.u) (by rw [eight.v_eight, eight.u_eight])
        (Nat.le_of_lt (Nat.lt_of_not_le le))).1,
      (spec s.C s.A eight.C_eight eight.A_eight ltC ltA).1]

/-- **A pass of the code is a pass of the algorithm on the numbers**, while the
accumulators are below `p`. -/
theorem invModPass_value (eightP : modp.length = 8) (spec : SubModSpec modp subMod)
    {s : InvModState} (eight : s.Eight) (ltA : multiprecisionValue s.A < multiprecisionValue modp)
    (ltC : multiprecisionValue s.C < multiprecisionValue modp) :
    Sum.map InvModState.value multiprecisionValue (invModPass modp subMod s) =
      BinaryInverse.pass (multiprecisionValue modp) s.value := by
  cases pc : s.pc with
  | outer => exact invModPass_outer eightP eight pc
  | halveU => exact invModPass_halveU eightP eight pc
  | halveV => exact invModPass_halveV eightP spec eight ltA ltC pc

/-- A pass keeps eight words in every array. -/
theorem invModPass_eight (eightP : modp.length = 8) (spec : SubModSpec modp subMod)
    {s s' : InvModState} (eight : s.Eight) (ltA : multiprecisionValue s.A < multiprecisionValue modp)
    (ltC : multiprecisionValue s.C < multiprecisionValue modp)
    (goes : invModPass modp subMod s = .inl s') : s'.Eight := by
  have sameUV : s.u.length = s.v.length := by rw [eight.u_eight, eight.v_eight]
  unfold invModPass at goes
  split at goes
  · split at goes
    · cases goes
    · cases goes
      exact { eight with }
  · split at goes <;> cases goes
    · exact { eight with
        u_eight := by rw [length_multiprecisionRshift, eight.u_eight]
        A_eight := (halveAccumulator_value eight.A_eight eightP).2 }
    · exact { eight with }
  · split at goes
    · cases goes
      exact { eight with
        v_eight := by rw [length_multiprecisionRshift, eight.v_eight]
        C_eight := (halveAccumulator_value eight.C_eight eightP).2 }
    · split at goes <;> cases goes
      · exact { eight with
          u_eight := by rw [(multiprecisionSub_value sameUV).2.2, eight.u_eight]
          A_eight := (spec s.A s.C eight.A_eight eight.C_eight ltA ltC).2 }
      · exact { eight with
          v_eight := by rw [(multiprecisionSub_value sameUV.symm).2.2, eight.v_eight]
          C_eight := (spec s.C s.A eight.C_eight eight.A_eight ltC ltA).2 }

/-- What holds at every test: eight-word arrays whose numbers satisfy the
algorithm's invariant for the start `u₀`. -/
def InvModInv (modp : List UInt32) (u₀ : ℕ) (s : InvModState) : Prop :=
  s.Eight ∧ Inv (multiprecisionValue modp) u₀ s.value

variable (eightP : modp.length = 8) (odd : multiprecisionValue modp % 2 = 1)
  (spec : SubModSpec modp subMod)

include eightP odd spec in
/-- Every pass that goes on keeps `InvModInv`: the numbers take a pass of the
algorithm, which keeps its invariant. -/
theorem invModInv_of_pass {u₀ : ℕ} {s s' : InvModState} (holds : InvModInv modp u₀ s)
    (goes : invModPass modp subMod s = .inl s') : InvModInv modp u₀ s' := by
  obtain ⟨eight, inv⟩ := holds
  have step := invModPass_value eightP spec eight inv.a_lt inv.c_lt
  rw [goes, Sum.map_inl] at step
  exact ⟨invModPass_eight eightP spec eight inv.a_lt inv.c_lt goes,
    BinaryInverse.inv_of_pass odd inv step.symm⟩

theorem invModInit_value (u : List UInt32) :
    (invModInit modp u).value = BinaryInverse.init (multiprecisionValue modp) (multiprecisionValue u) :=
  rfl

include eightP odd in
theorem invModInit_inv (one_lt : 1 < multiprecisionValue modp) {u : List UInt32}
    (eightU : u.length = 8) : InvModInv modp (multiprecisionValue u) (invModInit modp u) :=
  ⟨⟨eightU, eightP, rfl, rfl⟩, by
    rw [invModInit_value]
    exact BinaryInverse.init_inv odd one_lt _⟩

include eightP odd spec in
/-- **The loop returns what the algorithm returns**, read as a number. -/
theorem invModLoop_value (one_lt : 1 < multiprecisionValue modp) {u : List UInt32}
    (eightU : u.length = 8) (fuel : ℕ) :
    (loop (invModPass modp subMod) fuel (invModInit modp u)).map multiprecisionValue =
      loop (BinaryInverse.pass (multiprecisionValue modp)) fuel
        (BinaryInverse.init (multiprecisionValue modp) (multiprecisionValue u)) := by
  rw [← invModInit_value]
  refine loop_simulation InvModState.value multiprecisionValue
    (InvModInv modp (multiprecisionValue u)) ?_ ?_ fuel _ (invModInit_inv eightP odd one_lt eightU)
  · intro s ⟨eight, inv⟩
    exact invModPass_value eightP spec eight inv.a_lt inv.c_lt
  · intro s s' holds goes
    exact invModInv_of_pass eightP odd spec holds goes

include eightP odd spec in
/-- **The loop stops and leaves the multiplier of the gcd below `p`.** -/
theorem invModLoop_result (one_lt : 1 < multiprecisionValue modp) {u : List UInt32}
    (eightU : u.length = 8) :
    ∃ fuel r, loop (invModPass modp subMod) fuel (invModInit modp u) = some r ∧
      Result (multiprecisionValue modp) (multiprecisionValue u) (multiprecisionValue r) := by
  obtain ⟨r, result, runs⟩ := BinaryInverse.run_result odd one_lt (multiprecisionValue u)
  have value := invModLoop_value eightP odd spec one_lt eightU
    (BinaryInverse.measure (BinaryInverse.init (multiprecisionValue modp) (multiprecisionValue u)) + 1)
  rw [runs _ (Nat.lt_succ_self _), Option.map_eq_some_iff] at value
  obtain ⟨r', ran, rfl⟩ := value
  exact ⟨_, r', ran, result⟩

include eightP odd spec in
/-- A `u` prime to the modulus gets its inverse. -/
theorem invModLoop_inverse (one_lt : 1 < multiprecisionValue modp) {u : List UInt32}
    (eightU : u.length = 8) (coprime : Nat.gcd (multiprecisionValue u) (multiprecisionValue modp) = 1) :
    ∃ fuel r, loop (invModPass modp subMod) fuel (invModInit modp u) = some r ∧
      multiprecisionValue r < multiprecisionValue modp ∧
      multiprecisionValue r * multiprecisionValue u ≡ 1 [MOD multiprecisionValue modp] := by
  obtain ⟨fuel, r, ran, result⟩ := invModLoop_result eightP odd spec one_lt eightU
  exact ⟨fuel, r, ran, BinaryInverse.result_of_coprime coprime result⟩

include eightP odd spec in
/-- Zero is sent to zero, at the first test. -/
theorem invModLoop_zero (one_lt : 1 < multiprecisionValue modp) {u : List UInt32}
    (eightU : u.length = 8) (zero : multiprecisionValue u = 0) :
    ∃ r, loop (invModPass modp subMod) 1 (invModInit modp u) = some r ∧ multiprecisionValue r = 0 := by
  have value := invModLoop_value eightP odd spec one_lt eightU 1
  have leaves : loop (BinaryInverse.pass (multiprecisionValue modp)) 1
      (BinaryInverse.init (multiprecisionValue modp) (multiprecisionValue u)) = some 0 := by
    simp [loop, BinaryInverse.pass, BinaryInverse.init, zero, BinaryInverse.reduceOnce_of_lt,
      show 0 < multiprecisionValue modp by omega]
  rw [leaves, Option.map_eq_some_iff] at value
  exact value

include eightP odd spec in
/-- At every test the accumulators are eight words below `p`. -/
theorem invModPasses_lt (one_lt : 1 < multiprecisionValue modp) {u : List UInt32}
    (eightU : u.length = 8) {s : InvModState}
    (passes : Passes (invModPass modp subMod) (invModInit modp u) s) :
    multiprecisionValue s.A < multiprecisionValue modp ∧
      multiprecisionValue s.C < multiprecisionValue modp := by
  obtain ⟨-, inv⟩ := passes_invariant (InvModInv modp (multiprecisionValue u))
    (fun _ _ holds goes => invModInv_of_pass eightP odd spec holds goes)
    (invModInit_inv eightP odd one_lt eightU) passes
  exact ⟨inv.a_lt, inv.c_lt⟩

end Simulation

/-! ## The two copies at P-256 -/

theorem p256_p_length : p256InitCurve.p.length = 8 := rfl

theorem p256_p_odd : multiprecisionValue p256InitCurve.p % 2 = 1 := by
  rw [multiprecisionValue_p256]
  norm_num

theorem one_lt_p256_p : 1 < multiprecisionValue p256InitCurve.p := by
  rw [multiprecisionValue_p256]
  norm_num

theorem ecc_subModSpec (modp : List UInt32) (eightP : modp.length = 8) :
    SubModSpec modp fun a b => Ecc.multiprecisionSubMod a b modp := by
  intro a b eightA eightB ltA ltB
  exact Ecc.multiprecisionSubMod_value eightA eightB eightP ltA ltB

theorem subModSpec_p256 : SubModSpec p256InitCurve.p multiprecisionSubMod := by
  intro a b eightA eightB ltA ltB
  rw [multiprecisionSubMod_eq_ecc]
  exact Ecc.multiprecisionSubMod_value eightA eightB p256_p_length ltA ltB

/-- A number strictly between zero and the prime `p` is prime to it. -/
theorem gcd_p256_p {u : ℕ} (pos : 0 < u) (lt : u < multiprecisionValue p256InitCurve.p) :
    Nat.gcd u (multiprecisionValue p256InitCurve.p) = 1 := by
  have coprime : Nat.Coprime (multiprecisionValue p256InitCurve.p) u :=
    (Nat.Prime.coprime_iff_not_dvd p256_prime).mpr fun divides =>
      absurd (Nat.le_of_dvd pos divides) (by omega)
  exact coprime.symm

/-- **`multiprecision_inv_mod` inverts modulo `p`, in both copies.**  For `u`
strictly between `0` and `p` it stops with `aminus < p` and `aminus * u ≡ 1`;
for `u = 0` it stops with `0`.  At every test of either loop `A` and `C` are
below `p`, and the halving of an odd accumulator is the shift of the nine words
`A + p`, so that the ninth word, which holds the carry, comes back whole and
the halving is exact. -/
theorem multiprecisionInvMod_inverts :
    (∀ u : List UInt32, u.length = 8 → 0 < multiprecisionValue u →
        multiprecisionValue u < multiprecisionValue p256InitCurve.p →
      (∃ fuel r, multiprecisionInvMod u fuel = some r ∧
          multiprecisionValue r < multiprecisionValue p256InitCurve.p ∧
          multiprecisionValue r * multiprecisionValue u ≡ 1 [MOD multiprecisionValue p256InitCurve.p]) ∧
      ∃ fuel r, Ecc.multiprecisionInvMod u p256InitCurve.p fuel = some r ∧
          multiprecisionValue r < multiprecisionValue p256InitCurve.p ∧
          multiprecisionValue r * multiprecisionValue u ≡ 1 [MOD multiprecisionValue p256InitCurve.p]) ∧
    (∀ u : List UInt32, u.length = 8 → multiprecisionValue u = 0 →
      (∃ fuel r, multiprecisionInvMod u fuel = some r ∧ multiprecisionValue r = 0) ∧
      ∃ fuel r, Ecc.multiprecisionInvMod u p256InitCurve.p fuel = some r ∧ multiprecisionValue r = 0) ∧
    (∀ (u : List UInt32) (s : InvModState), u.length = 8 →
      (Passes (invModPass p256InitCurve.p multiprecisionSubMod) (invModInit p256InitCurve.p u) s ∨
        Passes (invModPass p256InitCurve.p fun a b => Ecc.multiprecisionSubMod a b p256InitCurve.p)
          (invModInit p256InitCurve.p u) s) →
      multiprecisionValue s.A < multiprecisionValue p256InitCurve.p ∧
        multiprecisionValue s.C < multiprecisionValue p256InitCurve.p) ∧
    (∀ X : List UInt32, X.length = 8 → X.getD 0 0 &&& 0x01 ≠ 0 →
      halveAccumulator p256InitCurve.p X =
          (multiprecisionRshift ((multiprecisionAdd X p256InitCurve.p).1 ++
            [(multiprecisionAdd X p256InitCurve.p).2])).take 8 ∧
        multiprecisionValue (halveAccumulator p256InitCurve.p X) =
          (multiprecisionValue X + multiprecisionValue p256InitCurve.p) / 2) := by
  have gd := ecc_subModSpec p256InitCurve.p p256_p_length
  refine ⟨fun u eightU pos lt => ⟨?_, ?_⟩, fun u eightU zero => ⟨?_, ?_⟩, ?_, ?_⟩
  · exact invModLoop_inverse p256_p_length p256_p_odd subModSpec_p256 one_lt_p256_p eightU
      (gcd_p256_p pos lt)
  · exact invModLoop_inverse p256_p_length p256_p_odd gd one_lt_p256_p eightU (gcd_p256_p pos lt)
  · obtain ⟨r, ran, value⟩ :=
      invModLoop_zero p256_p_length p256_p_odd subModSpec_p256 one_lt_p256_p eightU zero
    exact ⟨1, r, ran, value⟩
  · obtain ⟨r, ran, value⟩ := invModLoop_zero p256_p_length p256_p_odd gd one_lt_p256_p eightU zero
    exact ⟨1, r, ran, value⟩
  · rintro u s eightU (stack | copy)
    · exact invModPasses_lt p256_p_length p256_p_odd subModSpec_p256 one_lt_p256_p eightU stack
    · exact invModPasses_lt p256_p_length p256_p_odd gd one_lt_p256_p eightU copy
  · intro X eightX odd
    refine ⟨halveAccumulator_of_odd eightX p256_p_length odd, ?_⟩
    rw [(halveAccumulator_value eightX p256_p_length).1, halfMod,
      if_neg (fun even => odd ((lowBit_eq_zero_iff X).mpr even))]

theorem multiprecisionInvMod_inverts_two :
    (∃ fuel r, multiprecisionInvMod [2, 0, 0, 0, 0, 0, 0, 0] fuel = some r ∧
        multiprecisionValue r < multiprecisionValue p256InitCurve.p ∧
        multiprecisionValue r * multiprecisionValue [2, 0, 0, 0, 0, 0, 0, 0] ≡ 1
          [MOD multiprecisionValue p256InitCurve.p]) ∧
      ∃ fuel r, Ecc.multiprecisionInvMod [2, 0, 0, 0, 0, 0, 0, 0] p256InitCurve.p fuel = some r ∧
        multiprecisionValue r < multiprecisionValue p256InitCurve.p ∧
        multiprecisionValue r * multiprecisionValue [2, 0, 0, 0, 0, 0, 0, 0] ≡ 1
          [MOD multiprecisionValue p256InitCurve.p] :=
  multiprecisionInvMod_inverts.1 _ rfl (by decide) (by decide)

end Bluedroid.Smp
