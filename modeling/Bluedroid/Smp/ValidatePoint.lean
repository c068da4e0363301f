import Bluedroid.Smp.Multiprecision
import Mathlib.Data.Int.ModEq

/-!
# Smp.ValidatePoint -- the peer public-key check `ECC_ValidatePoint`

`smp_process_pairing_public_key` (and `ValidateECDHPoint` in the GD stack) lets a
peer's public key through only if `ECC_ValidatePoint` accepts it.  The check
computes `y ^ 2` and `(x ^ 2 - 3) * x + b` with the reducing product
`multiprecision_mersenns_mult_mod`, `sub_mod` and `add_mod`, and compares the
two word arrays.  It checks no range of the coordinates.

What the check is meant to accept is a canonical point of P-256: coordinates
below `p` that satisfy `y ^ 2 = x ^ 3 - 3 x + b` modulo `p` (`CanonicalPoint`).
The reduction it relies on miscarries (`propagateCarry_value`): already the
square of `x = 2 ^ 128`, the product with the single word `a[8] = 1`, is
reduced wrongly (`fast_mod_p256_miscarries`).  The right-hand side it computes
for that `x` is a square modulo `p` other than the true one, and with `y` its
root below `p` the check accepts a point that is not on the curve
(`validate_point_accepts_off_curve`).
-/

namespace Bluedroid.Smp

set_option autoImplicit false

/-- The coordinates of a `Point` that `ECC_ValidatePoint` reads (it does not read `z`). -/
structure Point where
  x : List UInt32
  y : List UInt32
  deriving DecidableEq, Repr

/-- `ECC_ValidatePoint(pt)`. -/
def eccValidatePoint (pt : Point) : Bool :=
  let curve := p256InitCurve
  -- y^2 mod p
  let y2Mod := multiprecisionMersennsSquaMod pt.y
  -- right hand side: (x^2 - 3) * x + b
  let rhs := multiprecisionMersennsSquaMod pt.x
  let three : List UInt32 := [3, 0, 0, 0, 0, 0, 0, 0]
  let rhs := multiprecisionSubMod rhs three
  let rhs := multiprecisionMersennsMultMod rhs pt.x
  let rhs := multiprecisionAddMod rhs curve.b
  multiprecisionCompare rhs y2Mod = 0

/-! ## What the check is for -/

/-- The P-256 prime. -/
def p256Prime : ℕ := 2 ^ 256 - 2 ^ 224 + 2 ^ 192 + 2 ^ 96 - 1

/-- The words of `curve_p256.p` are the prime. -/
example : multiprecisionValue p256InitCurve.p = p256Prime := by decide +kernel

/-! ## The reduction it relies on -/

/-- **`multiprecision_fast_mod_P256` does not reduce modulo `p`.**  `x = 2 ^ 128`
is a 256-bit value; `multiprecision_mult` gives the sixteen words of `2 ^ 256`, and
the reduction of these words is not `2 ^ 256 mod p`: the borrow of word 4 is
carried as `+1` (`propagateCarry_value`).  So neither
`multiprecision_mersenns_mult_mod` nor `multiprecision_mersenns_squa_mod` computes
the product modulo `p`. -/
theorem fast_mod_p256_miscarries :
    multiprecisionValue [0, 0, 0, 0, 1, 0, 0, 0] < 2 ^ 256 ∧
    multiprecisionMult [0, 0, 0, 0, 1, 0, 0, 0] [0, 0, 0, 0, 1, 0, 0, 0] =
      [0, 0, 0, 0, 0, 0, 0, 0, 1, 0, 0, 0, 0, 0, 0, 0] ∧
    multiprecisionValue (multiprecisionFastModP256
        [0, 0, 0, 0, 0, 0, 0, 0, 1, 0, 0, 0, 0, 0, 0, 0]) ≠
      multiprecisionValue [0, 0, 0, 0, 0, 0, 0, 0, 1, 0, 0, 0, 0, 0, 0, 0] % p256Prime ∧
    multiprecisionValue (multiprecisionMersennsMultMod [0, 0, 0, 0, 1, 0, 0, 0]
        [0, 0, 0, 0, 1, 0, 0, 0]) ≠
      multiprecisionValue [0, 0, 0, 0, 1, 0, 0, 0] * multiprecisionValue [0, 0, 0, 0, 1, 0, 0, 0] %
        p256Prime ∧
    multiprecisionValue (multiprecisionMersennsSquaMod [0, 0, 0, 0, 1, 0, 0, 0]) ≠
      multiprecisionValue [0, 0, 0, 0, 1, 0, 0, 0] ^ 2 % p256Prime := by
  refine ⟨?inRange, ?product, ?reduced, ?multMod, ?squaMod⟩
  case inRange => decide +kernel
  case product => decide +kernel
  case reduced => decide +kernel
  case multMod => decide +kernel
  case squaMod => decide +kernel

/-- `(x, y)` satisfies the curve equation `y ^ 2 = x ^ 3 - 3 x + b` modulo `p`. -/
def OnCurve (x y : ℕ) : Prop :=
  (y : ℤ) ^ 2 ≡ (x : ℤ) ^ 3 - 3 * x + multiprecisionValue p256InitCurve.b [ZMOD p256Prime]

instance (x y : ℕ) : Decidable (OnCurve x y) :=
  inferInstanceAs (Decidable (Int.ModEq _ _ _))

/-- A point the scalar multiplication may be given: both coordinates below `p`,
and on the curve. -/
def CanonicalPoint (pt : Point) : Prop :=
  multiprecisionValue pt.x < p256Prime ∧ multiprecisionValue pt.y < p256Prime ∧
    OnCurve (multiprecisionValue pt.x) (multiprecisionValue pt.y)

instance (pt : Point) : Decidable (CanonicalPoint pt) :=
  inferInstanceAs (Decidable (_ ∧ _ ∧ _))

/-- The generator of P-256 passes the check. -/
example : eccValidatePoint
    ⟨[0xd898c296, 0xf4a13945, 0x2deb33a0, 0x77037d81,
      0x63a440f2, 0xf8bce6e5, 0xe12c4247, 0x6b17d1f2],
     [0x37bf51f5, 0xcbb64068, 0x6b315ece, 0x2bce3357,
      0x7c0f9e16, 0x8ee7eb4a, 0xfe1a7f9b, 0x4fe342e2]⟩ = true := by
  decide +kernel

/-! ## An accepted point off the curve -/

/-- **`ECC_ValidatePoint` accepts a point that is not on the curve.**  For
`x = 2 ^ 128` the reduced `x ^ 2` is already wrong; the right-hand side the code
computes is the square of the `y` below, which is smaller than `p`, and the
point is accepted although `y ^ 2 ≠ x ^ 3 - 3 x + b` modulo `p`. -/
theorem validate_point_accepts_off_curve :
    eccValidatePoint ⟨[0, 0, 0, 0, 1, 0, 0, 0],
      [0xd57181c2, 0x37eac301, 0x16691541, 0x3b871344,
       0xcaf5dae9, 0xafd716fc, 0xfa317d28, 0x4ab49dff]⟩ = true ∧
    multiprecisionValue [0, 0, 0, 0, 1, 0, 0, 0] < p256Prime ∧
    multiprecisionValue [0xd57181c2, 0x37eac301, 0x16691541, 0x3b871344,
       0xcaf5dae9, 0xafd716fc, 0xfa317d28, 0x4ab49dff] < p256Prime ∧
    ¬ CanonicalPoint ⟨[0, 0, 0, 0, 1, 0, 0, 0],
      [0xd57181c2, 0x37eac301, 0x16691541, 0x3b871344,
       0xcaf5dae9, 0xafd716fc, 0xfa317d28, 0x4ab49dff]⟩ := by
  refine ⟨?accepted, ?xBelow, ?yBelow, ?offCurve⟩
  case accepted => decide +kernel
  case xBelow => decide +kernel
  case yBelow => decide +kernel
  case offCurve => decide +kernel

end Bluedroid.Smp
