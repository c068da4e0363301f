import Mathlib
import Bluedroid.Smp.Naf

/-!
# Smp.Jacobian -- `ECC_Double` and `ECC_Add`, the point arithmetic of `ECC_PointMult_Bin_NAF`

`p_256_ecc_pp.cc` keeps points in Jacobian coordinates `(x, y, z)`, eight words
each, and computes on them with the operations of `p_256_multprecision.h`.  The
stack's copy reduces modulo `curve_p256.p` and the GD copy passes the modulus;
the text of `ECC_Double` and `ECC_Add` is the same in both, so the model takes
the arithmetic as a parameter (`ModArith`), and the stack's is one instance
(`p256Arith`).

`ECC_Double(q, p)` writes `2 p` into `q`, and for `p` at infinity (`z = 0`)
clears `q->z` only.  `ECC_Add(r, p, q)`, for `q` with `z = 1`, writes `p + q`:
the other point when one is at infinity, `ECC_Double(r, q)` when the two are the
same point, and `r` with `z` cleared when they are opposite.  The point loop
calls each on a copy of the point it overwrites, so `Smp.Naf`'s loop gets them as
`fun q => eccDouble q q` and `fun q p => eccAdd q q p` (`eccPointMultBinNafP256`).

With an arithmetic that computes in a commutative ring (`ModArith.Exact`), the
code's formulas are those of the curve `y² = x³ - 3x + b` of `p_256_init_curve`
in Mathlib's Jacobian coordinates: `ECC_Double` is `dblXYZ` (`eccDouble_coords`),
and `ECC_Add` of two points on the curve with different `x` is `addXYZ` scaled by
`-z₁`, which stands for the same point (`eccAdd_coords_of_ne`).  What goes wrong
in the stack's arithmetic is its reduction (`fast_mod_p256_miscarries`), not
these formulas.
-/

namespace Bluedroid.Smp

open WeierstrassCurve.Jacobian (addZ)
open scoped WeierstrassCurve.Jacobian

set_option autoImplicit false

/-- `Point` of `p_256_ecc_pp.h`, in Jacobian coordinates. -/
structure JacobianPoint (W : Type) where
  x : W
  y : W
  z : W
  deriving DecidableEq, Repr

/-- The operations of `p_256_multprecision.h` that `ECC_Double` and `ECC_Add` call. -/
structure ModArith (W : Type) where
  mersennsSquaMod : W → W
  mersennsMultMod : W → W → W
  addMod : W → W → W
  subMod : W → W → W
  lshiftMod : W → W
  iszero : W → Bool
  init : W

/-- The stack's arithmetic, modulo `curve_p256.p`. -/
def p256Arith : ModArith (List UInt32) :=
  ⟨multiprecisionMersennsSquaMod, multiprecisionMersennsMultMod, multiprecisionAddMod,
    multiprecisionSubMod, multiprecisionLshiftMod, multiprecisionIszero, multiprecisionInit⟩

section Formulas

variable {W : Type} (A : ModArith W)

/-- `ECC_Double(q, p)`, where `q` held `out`: at infinity only `q->z` is cleared. -/
def eccDouble (out p : JacobianPoint W) : JacobianPoint W :=
  if A.iszero p.z then { out with z := A.init }
  else
    let t1 := A.mersennsSquaMod p.z
    let t2 := A.subMod p.x t1
    let t1 := A.addMod p.x t1
    let t2 := A.mersennsMultMod t1 t2
    let t3 := A.lshiftMod t2
    let t2 := A.addMod t3 t2
    let z3 := A.mersennsMultMod p.y p.z
    let z3 := A.lshiftMod z3
    let y3 := A.mersennsSquaMod p.y
    let y3 := A.lshiftMod y3
    let t3 := A.mersennsMultMod y3 p.x
    let t3 := A.lshiftMod t3
    let y3 := A.mersennsSquaMod y3
    let y3 := A.lshiftMod y3
    let x3 := A.mersennsSquaMod t2
    let t1 := A.lshiftMod t3
    let x3 := A.subMod x3 t1
    let t1 := A.subMod t3 x3
    let t1 := A.mersennsMultMod t1 t2
    let y3 := A.subMod t1 y3
    ⟨x3, y3, z3⟩

/-- `ECC_Add(r, p, q)` for `q` with `z = 1`, where `r` held `out`.  The code uses
`p->z` for the product `t4` once it has read it; both callers pass a `p` that is
not `r`. -/
def eccAdd (out p q : JacobianPoint W) : JacobianPoint W :=
  if A.iszero q.z then p
  else if A.iszero p.z then q
  else
    let t1 := A.mersennsSquaMod p.z
    let t2 := A.mersennsMultMod p.z t1
    let t1 := A.mersennsMultMod q.x t1
    let t2 := A.mersennsMultMod q.y t2
    let t1 := A.subMod t1 p.x
    let t2 := A.subMod t2 p.y
    if A.iszero t1 then
      if A.iszero t2 then eccDouble A out q
      else { out with z := A.init }
    else
      let z3 := A.mersennsMultMod p.z t1
      let y3 := A.mersennsSquaMod t1
      let z1 := A.mersennsMultMod y3 t1
      let y3 := A.mersennsMultMod y3 p.x
      let t1 := A.lshiftMod y3
      let x3 := A.mersennsSquaMod t2
      let x3 := A.subMod x3 t1
      let x3 := A.subMod x3 z1
      let y3 := A.subMod y3 x3
      let y3 := A.mersennsMultMod y3 t2
      let z1 := A.mersennsMultMod z1 p.y
      let y3 := A.subMod y3 z1
      ⟨x3, y3, z3⟩

end Formulas

/-- `ECC_PointMult_Bin_NAF(q, p, n)` with the stack's arithmetic.  `p->z` is set to
one, `minus_p` is `(p.x, p - p.y, 1)`, and the loop starts from the zero point of
`p_256_init_point`; the result is taken to affine coordinates by
`multiprecision_inv_mod`, run with `fuel` tests, and three products. -/
def eccPointMultBinNafP256 (fuel : ℕ) (p : JacobianPoint (List UInt32)) (n beyond : List UInt32) :
    Option (JacobianPoint (List UInt32)) := do
  let one := multiprecisionInit.set 0 1
  let p := { p with z := one }
  let minusP : JacobianPoint (List UInt32) := ⟨p.x, (multiprecisionSub p256InitCurve.p p.y).1, one⟩
  let q ← eccPointMultBinNaf (fun q => eccDouble p256Arith q q) (fun q p => eccAdd p256Arith q q p)
    ⟨multiprecisionInit, multiprecisionInit, multiprecisionInit⟩ p minusP n beyond
  let zInv ← multiprecisionInvMod q.z fuel
  let z2 := multiprecisionMersennsSquaMod zInv
  let x := multiprecisionMersennsMultMod q.x z2
  let z3 := multiprecisionMersennsMultMod z2 zInv
  let y := multiprecisionMersennsMultMod q.y z3
  pure ⟨x, y, z3⟩

/-! ## Exact arithmetic -/

/-- An arithmetic that computes in the commutative ring `R`, read through `val`:
what the operations are meant to do modulo `p`. -/
structure ModArith.Exact {W : Type} (A : ModArith W) {R : Type} [CommRing R] (val : W → R) :
    Prop where
  squa : ∀ a, val (A.mersennsSquaMod a) = val a ^ 2
  mult : ∀ a b, val (A.mersennsMultMod a b) = val a * val b
  add : ∀ a b, val (A.addMod a b) = val a + val b
  sub : ∀ a b, val (A.subMod a b) = val a - val b
  lshift : ∀ a, val (A.lshiftMod a) = 2 * val a
  iszero : ∀ a, A.iszero a = true ↔ val a = 0
  init : val A.init = 0

/-- A ring's own arithmetic. -/
def ringArith (R : Type) [CommRing R] [DecidableEq R] : ModArith R :=
  ⟨(· ^ 2), (· * ·), (· + ·), (· - ·), (2 * ·), fun a => decide (a = 0), 0⟩

theorem ringArith_exact (R : Type) [CommRing R] [DecidableEq R] : (ringArith R).Exact id :=
  ⟨fun _ => rfl, fun _ _ => rfl, fun _ _ => rfl, fun _ _ => rfl, fun _ => rfl,
    fun _ => decide_eq_true_iff, rfl⟩

/-- The coordinates of a point, read through `val`. -/
def JacobianPoint.coords {W R : Type} (val : W → R) (P : JacobianPoint W) : Fin 3 → R :=
  ![val P.x, val P.y, val P.z]

/-- The curve of `p_256_init_curve`, `y² = x³ - 3x + b`, over `R`. -/
def p256Curve {R : Type} [CommRing R] (b : R) : WeierstrassCurve.Jacobian R :=
  ⟨0, 0, 0, -3, b⟩

section Exact

variable {W R : Type} [CommRing R] {A : ModArith W} {val : W → R} (exact : A.Exact val)
include exact

theorem ModArith.Exact.iszero_eq_false {a : W} (nonzero : val a ≠ 0) : A.iszero a = false :=
  Bool.eq_false_iff.mpr fun zero => nonzero ((exact.iszero a).mp zero)

/-- **`ECC_Double` is Jacobian doubling** on `y² = x³ - 3x + b`: for a point not at
infinity, the code's formulas are Mathlib's `dblXYZ`, whatever `b`. -/
theorem eccDouble_coords (b : R) (out p : JacobianPoint W) (finite : val p.z ≠ 0) :
    (eccDouble A out p).coords val = (p256Curve b).dblXYZ (p.coords val) := by
  rw [eccDouble, if_neg (by simp [exact.iszero_eq_false finite])]
  funext i
  fin_cases i <;>
    simp only [JacobianPoint.coords, exact.squa, exact.mult, exact.add, exact.sub, exact.lshift,
      WeierstrassCurve.Jacobian.dblXYZ, WeierstrassCurve.Jacobian.dblX,
      WeierstrassCurve.Jacobian.dblY, WeierstrassCurve.Jacobian.dblZ,
      WeierstrassCurve.Jacobian.negDblY, WeierstrassCurve.Jacobian.dblU_eq,
      WeierstrassCurve.Jacobian.negY, p256Curve, Fin.zero_eta, Fin.mk_one, Fin.reduceFinMk,
      Matrix.cons_val_zero, Matrix.cons_val_one, Matrix.cons_val_two, Matrix.head_cons,
      Matrix.tail_cons] <;>
    ring

/-- What `ECC_Add`'s two tests decide for `q` with `z = 1`: whether the points have
the same `x`, and the same `y`, in Mathlib's terms. -/
theorem eccAdd_tests (p q : JacobianPoint W) (affine : val q.z = 1) :
    (A.iszero (A.subMod (A.mersennsMultMod q.x (A.mersennsSquaMod p.z)) p.x) = true ↔
        val p.x * val q.z ^ 2 = val q.x * val p.z ^ 2) ∧
      (A.iszero (A.subMod (A.mersennsMultMod q.y (A.mersennsMultMod p.z (A.mersennsSquaMod p.z))) p.y) =
          true ↔ val p.y * val q.z ^ 3 = val q.y * val p.z ^ 3) := by
  simp only [exact.iszero, exact.sub, exact.mult, exact.squa, affine]
  constructor <;> constructor <;> intro same <;> linear_combination -same

variable [Nontrivial R]

/-- A coordinate of `1` is not zero: `ECC_Add`'s test of `q` for infinity fails. -/
theorem ModArith.Exact.iszero_of_one {a : W} (one : val a = 1) : A.iszero a = false :=
  exact.iszero_eq_false (one ▸ one_ne_zero)

/-- With `p` at infinity `ECC_Add` gives `q`. -/
theorem eccAdd_of_infinity (out p q : JacobianPoint W) (affine : val q.z = 1)
    (infinity : val p.z = 0) : eccAdd A out p q = q := by
  rw [eccAdd, if_neg (by simp [exact.iszero_of_one affine]),
    if_pos ((exact.iszero p.z).mpr infinity)]

/-- **Two points with different `x`**: `ECC_Add` is Mathlib's `addXYZ` scaled by
`-z₁`, for two points on the curve. -/
theorem eccAdd_coords_of_ne (b : R) (out p q : JacobianPoint W) (affine : val q.z = 1)
    (finite : val p.z ≠ 0) (onP : (p256Curve b).Equation (p.coords val))
    (onQ : (p256Curve b).Equation (q.coords val))
    (distinct : val p.x * val q.z ^ 2 ≠ val q.x * val p.z ^ 2) :
    (eccAdd A out p q).coords val = (-val p.z) • (p256Curve b).addXYZ (p.coords val) (q.coords val) := by
  have moved := Bool.eq_false_iff.mpr fun same => distinct ((eccAdd_tests exact p q affine).1.mp same)
  rw [eccAdd, if_neg (by simp [exact.iszero_of_one affine]),
    if_neg (by simp [exact.iszero_eq_false finite])]
  simp only [moved, Bool.false_eq_true, if_false]
  -- the curve's addition, with `q` affine, in the form the code computes it
  have sumX := WeierstrassCurve.Jacobian.addX_eq' onP onQ
  have sumY := @WeierstrassCurve.Jacobian.negAddY_eq' R _ (p256Curve b) (p.coords val) (q.coords val)
  simp only [JacobianPoint.coords, p256Curve, affine, addZ, Matrix.cons_val_zero, Matrix.cons_val_one,
    Matrix.cons_val_two, Matrix.head_cons, Matrix.tail_cons] at sumX sumY
  funext i
  fin_cases i <;>
    simp only [JacobianPoint.coords, exact.squa, exact.mult, exact.sub, exact.lshift,
      WeierstrassCurve.Jacobian.smul_fin3, WeierstrassCurve.Jacobian.addXYZ,
      WeierstrassCurve.Jacobian.addY, WeierstrassCurve.Jacobian.negY, addZ, p256Curve, affine,
      Fin.zero_eta, Fin.mk_one, Fin.reduceFinMk, Matrix.cons_val_zero, Matrix.cons_val_one,
      Matrix.cons_val_two, Matrix.head_cons, Matrix.tail_cons]
  · linear_combination -sumX
  · linear_combination -sumY + (val q.y * (val p.z * val p.z ^ 2) - val p.y) * sumX
  · ring

/-- **The same point**: `ECC_Add` doubles `q`. -/
theorem eccAdd_coords_of_same (b : R) (out p q : JacobianPoint W) (affine : val q.z = 1)
    (finite : val p.z ≠ 0) (sameX : val p.x * val q.z ^ 2 = val q.x * val p.z ^ 2)
    (sameY : val p.y * val q.z ^ 3 = val q.y * val p.z ^ 3) :
    (eccAdd A out p q).coords val = (p256Curve b).dblXYZ (q.coords val) := by
  obtain ⟨testX, testY⟩ := eccAdd_tests exact p q affine
  rw [eccAdd, if_neg (by simp [exact.iszero_of_one affine]),
    if_neg (by simp [exact.iszero_eq_false finite])]
  simp only [testX.mpr sameX, testY.mpr sameY, if_true]
  exact eccDouble_coords exact b out q (affine ▸ one_ne_zero)

/-- **Opposite points**: `ECC_Add` clears `r->z`, the point at infinity. -/
theorem eccAdd_coords_of_opposite (out p q : JacobianPoint W) (affine : val q.z = 1)
    (finite : val p.z ≠ 0) (sameX : val p.x * val q.z ^ 2 = val q.x * val p.z ^ 2)
    (otherY : val p.y * val q.z ^ 3 ≠ val q.y * val p.z ^ 3) :
    (eccAdd A out p q).coords val = ![val out.x, val out.y, 0] := by
  obtain ⟨testX, testY⟩ := eccAdd_tests exact p q affine
  have apart := Bool.eq_false_iff.mpr fun same => otherY (testY.mp same)
  rw [eccAdd, if_neg (by simp [exact.iszero_of_one affine]),
    if_neg (by simp [exact.iszero_eq_false finite])]
  simp only [testX.mpr sameX, apart, if_true, Bool.false_eq_true, if_false]
  simp [JacobianPoint.coords, exact.init]

/-- **`ECC_Add` is the group law of the curve** `y² = x³ - 3x + b` in Jacobian
coordinates, with exact arithmetic, for `q` with `z = 1` and two points on the
curve: `q` when `p` is at infinity; for different `x`, Mathlib's `addXYZ` scaled by
`-z₁`, which stands for the same point; for the same point, `dblXYZ q`; and for
opposite points a point at infinity. -/
theorem ecc_add_group_law [DecidableEq R] (b : R) (out p q : JacobianPoint W)
    (affine : val q.z = 1) (onP : (p256Curve b).Equation (p.coords val))
    (onQ : (p256Curve b).Equation (q.coords val)) :
    (eccAdd A out p q).coords val =
      if val p.z = 0 then q.coords val
      else if val p.x * val q.z ^ 2 ≠ val q.x * val p.z ^ 2 then
        (-val p.z) • (p256Curve b).addXYZ (p.coords val) (q.coords val)
      else if val p.y * val q.z ^ 3 = val q.y * val p.z ^ 3 then (p256Curve b).dblXYZ (q.coords val)
      else ![val out.x, val out.y, 0] := by
  by_cases infinity : val p.z = 0
  · rw [if_pos infinity, eccAdd_of_infinity exact out p q affine infinity]
  rw [if_neg infinity]
  by_cases distinct : val p.x * val q.z ^ 2 ≠ val q.x * val p.z ^ 2
  · rw [if_pos distinct]
    exact eccAdd_coords_of_ne exact b out p q affine infinity onP onQ distinct
  rw [if_neg distinct]
  have sameX := not_not.mp distinct
  by_cases sameY : val p.y * val q.z ^ 3 = val q.y * val p.z ^ 3
  · rw [if_pos sameY]
    exact eccAdd_coords_of_same exact b out p q affine infinity sameX sameY
  · rw [if_neg sameY]
    exact eccAdd_coords_of_opposite exact out p q affine infinity sameX sameY

end Exact

/-- Over `ZMod 11` with `b = 3`: `(0, 7, 2)`, the affine point `(0, 5)` in Jacobian
coordinates, and the affine `(1, 1)`, which have different `x`. -/
theorem ecc_add_group_law_zmod :
    (p256Curve (3 : ZMod 11)).Equation ![0, 7, 2] ∧ (p256Curve (3 : ZMod 11)).Equation ![1, 1, 1] ∧
      (eccAdd (ringArith (ZMod 11)) ⟨0, 7, 2⟩ ⟨0, 7, 2⟩ ⟨1, 1, 1⟩).coords id =
        (-2 : ZMod 11) • (p256Curve 3).addXYZ ![0, 7, 2] ![1, 1, 1] := by
  have onP : (p256Curve (3 : ZMod 11)).Equation ![0, 7, 2] :=
    (WeierstrassCurve.Jacobian.equation_iff _).mpr (by decide)
  have onQ : (p256Curve (3 : ZMod 11)).Equation ![1, 1, 1] :=
    (WeierstrassCurve.Jacobian.equation_iff _).mpr (by decide)
  refine ⟨onP, onQ, ?_⟩
  have : Fact (1 < 11) := ⟨by decide⟩
  rw [ecc_add_group_law (ringArith_exact (ZMod 11)) 3 ⟨0, 7, 2⟩ ⟨0, 7, 2⟩ ⟨1, 1, 1⟩ rfl onP onQ,
    if_neg (by decide), if_pos (by decide)]
  rfl

end Bluedroid.Smp
