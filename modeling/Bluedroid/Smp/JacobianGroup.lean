import Mathlib
import Bluedroid.Smp.Jacobian
import Bluedroid.Smp.NafRecoding

/-!
# Smp.JacobianGroup -- `ECC_PointMult_Bin_NAF` in the group of the curve

`Smp.Jacobian` shows that, with exact arithmetic, `ECC_Double` and `ECC_Add`
compute Mathlib's Jacobian formulas, branch by branch.  Here the points they
return are read as points of the curve's group (`JacobianPoint.toAffine`, through
Mathlib's `Jacobian.Point.toAffine`), which sends every point with `z = 0` to the
identity, whatever its `x` and `y`, as the code treats them.

The loop's accumulator is always at infinity or a nonsingular point of the curve
(`JacobianPoint.OnCurve`).  On such a point `ECC_Double` doubles
(`eccDouble_toAffine`), and `ECC_Add` of a nonsingular point with `z = 1` adds it
(`eccAdd_toAffine`), each keeping the accumulator on the curve.  The loop of
`ECC_PointMult_Bin_NAF` is then the group's double-and-add
(`pointMultLoop_toAffine`, an instance of `pointMultLoop_map`), and with the
recoding of `Smp.NafRecoding` it multiplies the point by the key, for every key
but `2 ^ 256 - 1` (`ecc_point_mult_exact`).
-/

namespace Bluedroid.Smp

open Bluedroid.Theory WeierstrassCurve.Jacobian

set_option autoImplicit false

variable {W F : Type} [Field F]

/-- The point of the curve `y² = x³ - 3x + b` a code point stands for. -/
noncomputable def JacobianPoint.toAffine (b : F) (val : W → F) (P : JacobianPoint W) :
    (p256Curve b).toAffine.Point :=
  Point.toAffine (p256Curve b) (P.coords val)

/-- What the loop may hold: a point at infinity, whatever its `x` and `y`, or a
nonsingular point of the curve. -/
def JacobianPoint.OnCurve (b : F) (val : W → F) (P : JacobianPoint W) : Prop :=
  val P.z = 0 ∨ (p256Curve b).Nonsingular (P.coords val)

variable {b : F} {val : W → F}

theorem JacobianPoint.toAffine_of_infinity {P : JacobianPoint W} (infinity : val P.z = 0) :
    P.toAffine b val = 0 :=
  Point.toAffine_of_Z_eq_zero infinity

variable [DecidableEq F]

/-- A code point whose coordinates are a unit times Mathlib's sum of two
nonsingular points is on the curve and stands for their sum. -/
theorem JacobianPoint.onCurve_of_coords_eq_add {P : JacobianPoint W} {S T : Fin 3 → F}
    (onS : (p256Curve b).Nonsingular S) (onT : (p256Curve b).Nonsingular T) {u : F}
    (unit : IsUnit u) (coords : P.coords val = u • (p256Curve b).add S T) :
    P.OnCurve b val ∧
      P.toAffine b val = Point.toAffine (p256Curve b) S + Point.toAffine (p256Curve b) T := by
  refine ⟨Or.inr ?_, ?_⟩
  · rw [coords, nonsingular_smul _ unit]
    exact nonsingular_add onS onT
  · rw [JacobianPoint.toAffine, coords, Point.toAffine_smul _ unit, Point.toAffine_add onS onT]

section Exact

variable {A : ModArith W} (exact : A.Exact val)
include exact

/-- **`ECC_Double` doubles** a point on the curve, and keeps it on the curve. -/
theorem eccDouble_toAffine (out P : JacobianPoint W) (onCurve : P.OnCurve b val) :
    (eccDouble A out P).OnCurve b val ∧
      (eccDouble A out P).toAffine b val = P.toAffine b val + P.toAffine b val := by
  by_cases infinity : val P.z = 0
  · -- `r->z` is cleared: the double of infinity is infinity
    have cleared : val (eccDouble A out P).z = 0 := by
      simp [eccDouble, (exact.iszero P.z).mpr infinity, exact.init]
    refine ⟨Or.inl cleared, ?_⟩
    rw [JacobianPoint.toAffine_of_infinity cleared, JacobianPoint.toAffine_of_infinity infinity,
      add_zero]
  · have onP := onCurve.resolve_left infinity
    apply JacobianPoint.onCurve_of_coords_eq_add onP onP isUnit_one
    rw [one_smul, add_self, eccDouble_coords exact b out P infinity]

/-- **`ECC_Add` adds** a nonsingular point `q` with `z = 1` to a point on the
curve, and keeps it on the curve. -/
theorem eccAdd_toAffine (out P Q : JacobianPoint W) (onCurve : P.OnCurve b val)
    (affine : val Q.z = 1) (onQ : (p256Curve b).Nonsingular (Q.coords val)) :
    (eccAdd A out P Q).OnCurve b val ∧
      (eccAdd A out P Q).toAffine b val = P.toAffine b val + Q.toAffine b val := by
  have finiteQ : val Q.z ≠ 0 := affine ▸ one_ne_zero
  by_cases infinity : val P.z = 0
  · rw [eccAdd_of_infinity exact out P Q affine infinity, JacobianPoint.toAffine_of_infinity infinity,
      zero_add]
    exact ⟨Or.inr onQ, rfl⟩
  have onP := onCurve.resolve_left infinity
  by_cases distinct : val P.x * val Q.z ^ 2 ≠ val Q.x * val P.z ^ 2
  · -- different `x`: Mathlib's sum, scaled by `-z₁`
    apply JacobianPoint.onCurve_of_coords_eq_add onP onQ (Ne.isUnit infinity).neg
    rw [eccAdd_coords_of_ne exact b out P Q affine infinity onP.left onQ.left distinct,
      add_of_not_equiv (not_equiv_of_X_ne (P := P.coords val) (Q := Q.coords val) distinct)]
  have sameX := not_not.mp distinct
  by_cases sameY : val P.y * val Q.z ^ 3 = val Q.y * val P.z ^ 3
  · -- the same point: `ECC_Add` doubles `q`, and `p` stands for `q`
    have same : P.toAffine b val = Q.toAffine b val :=
      Point.toAffine_of_equiv
        (equiv_of_X_eq_of_Y_eq (P := P.coords val) (Q := Q.coords val) infinity finiteQ sameX sameY)
    rw [same]
    apply JacobianPoint.onCurve_of_coords_eq_add onQ onQ isUnit_one
    rw [one_smul, add_self, eccAdd_coords_of_same exact b out P Q affine infinity sameX sameY]
  · -- opposite points: `r->z` is cleared, and Mathlib's sum is at infinity too
    have cleared : val (eccAdd A out P Q).z = 0 :=
      congrFun (eccAdd_coords_of_opposite exact out P Q affine infinity sameX sameY) 2
    have opposite :
        Point.toAffine (p256Curve b) ((p256Curve b).add (P.coords val) (Q.coords val)) = 0 := by
      rw [add_of_Y_ne onP.left onQ.left infinity finiteQ sameX sameY]
      exact Point.toAffine_of_Z_eq_zero (by simp [smul_fin3])
    refine ⟨Or.inl cleared, ?_⟩
    calc (eccAdd A out P Q).toAffine b val = 0 := JacobianPoint.toAffine_of_infinity cleared
      _ = Point.toAffine (p256Curve b) ((p256Curve b).add (P.coords val) (Q.coords val)) :=
        opposite.symm
      _ = P.toAffine b val + Q.toAffine b val := Point.toAffine_add onP onQ

/-- **The loop of `ECC_PointMult_Bin_NAF` is double-and-add in the curve's
group**, from any accumulator on the curve, for `p` and `minus_p` nonsingular with
`z = 1`. -/
theorem pointMultLoop_toAffine (p minusP : JacobianPoint W) (affineP : val p.z = 1)
    (onP : (p256Curve b).Nonsingular (p.coords val)) (affineMinusP : val minusP.z = 1)
    (onMinusP : (p256Curve b).Nonsingular (minusP.coords val)) (naf : List UInt8) (n : ℕ)
    {q : JacobianPoint W} (start : q.OnCurve b val) :
    (pointMultLoop (fun q => eccDouble A q q) (fun q p => eccAdd A q q p) p minusP naf n q).toAffine
        b val =
      pointMultLoop (fun q => q + q) (· + ·) (p.toAffine b val) (minusP.toAffine b val) naf n
        (q.toAffine b val) :=
  (pointMultLoop_map (JacobianPoint.toAffine b val) (JacobianPoint.OnCurve b val)
    (fun q onCurve => eccDouble_toAffine exact q q onCurve)
    (fun q onCurve => eccAdd_toAffine exact q q p onCurve affineP onP)
    (fun q onCurve => eccAdd_toAffine exact q q minusP onCurve affineMinusP onMinusP)
    naf n start).2

/-- **With exact arithmetic, `ECC_PointMult_Bin_NAF` multiplies by the key** in
the group of `y² = x³ - 3x + b`: for a nonsingular `p` with `z = 1`, `minus_p` its
negation `(x, -y, 1)`, and an eight-word key of any value but `2 ^ 256 - 1`, the
loop from `p_256_init_point`'s zero point returns a point that stands for
`[k] p`. -/
theorem ecc_point_mult_exact (b : F) (p minusP : JacobianPoint W) (affine : val p.z = 1)
    (onCurve : (p256Curve b).Nonsingular (p.coords val))
    (negated : minusP.coords val = ![val p.x, -val p.y, 1]) (k beyond : List UInt32)
    (eight : k.length = keyLengthDwordsP256) (notAllOnes : multiprecisionValue k ≠ 2 ^ 256 - 1) :
    ∃ q, eccPointMultBinNaf (fun q => eccDouble A q q) (fun q p => eccAdd A q q p)
        ⟨A.init, A.init, A.init⟩ p minusP k beyond = some q ∧
      q.toAffine b val = multiprecisionValue k • p.toAffine b val := by
  obtain ⟨s, run, -, -, -, recoded⟩ := eccNaf_recodes k beyond eight notAllOnes
  -- `minus_p` is Mathlib's negation of `p`
  have negation : minusP.coords val = (p256Curve b).neg (p.coords val) := by
    rw [negated]
    funext i
    fin_cases i <;> simp [neg, negY, p256Curve, JacobianPoint.coords, affine]
  have affineMinusP : val minusP.z = 1 := by
    simpa [JacobianPoint.coords] using congrFun negated 2
  have onMinusP : (p256Curve b).Nonsingular (minusP.coords val) := negation ▸ nonsingular_neg onCurve
  have minusRead : minusP.toAffine b val = -p.toAffine b val := by
    rw [JacobianPoint.toAffine, negation, Point.toAffine_neg onCurve]
    rfl
  have start : (⟨A.init, A.init, A.init⟩ : JacobianPoint W).OnCurve b val := Or.inl exact.init
  refine ⟨_, by rw [eccPointMultBinNaf, run, Option.map_some], ?_⟩
  rw [pointMultLoop_toAffine exact p minusP affine onCurve affineMinusP onMinusP s.naf s.i start,
    minusRead, JacobianPoint.toAffine_of_infinity (P := ⟨A.init, A.init, A.init⟩) exact.init, pointMultLoop_eq_doubleAndAdd,
    doubleAndAdd_zero, recoded, natCast_zsmul]

end Exact

/-- The key `5`, over `ℚ` on `y² = x³ - 3x + 3`, from `(1, 1)`. -/
theorem ecc_point_mult_exact_rat :
    (p256Curve (3 : ℚ)).Nonsingular ![1, 1, 1] ∧
      multiprecisionValue [5, 0, 0, 0, 0, 0, 0, 0] ≠ 2 ^ 256 - 1 ∧
      ∃ q, eccPointMultBinNaf (fun q => eccDouble (ringArith ℚ) q q)
          (fun q p => eccAdd (ringArith ℚ) q q p) ⟨0, 0, 0⟩ ⟨1, 1, 1⟩ ⟨1, -1, 1⟩
          [5, 0, 0, 0, 0, 0, 0, 0] [] = some q ∧
        q.toAffine 3 id =
          multiprecisionValue [5, 0, 0, 0, 0, 0, 0, 0] • JacobianPoint.toAffine 3 id ⟨1, 1, 1⟩ := by
  have onCurve : (p256Curve (3 : ℚ)).Nonsingular ![1, 1, 1] := by
    rw [nonsingular_some, WeierstrassCurve.Affine.nonsingular_iff', WeierstrassCurve.Affine.equation_iff']
    norm_num [p256Curve]
  have notAllOnes : multiprecisionValue [5, 0, 0, 0, 0, 0, 0, 0] ≠ 2 ^ 256 - 1 := by decide
  exact ⟨onCurve, notAllOnes,
    ecc_point_mult_exact (ringArith_exact ℚ) 3 ⟨1, 1, 1⟩ ⟨1, -1, 1⟩ rfl onCurve rfl _ [] rfl notAllOnes⟩

end Bluedroid.Smp
