import Bluedroid.Theory.Pratt
import Bluedroid.Smp.Multiprecision

/-!
# Smp.P256Prime -- the modulus of `curve_p256` is prime

`multiprecision_inv_mod` inverts every non-zero residue only because the
modulus `curve_p256.p = 2 ^ 256 - 2 ^ 224 + 2 ^ 192 + 2 ^ 96 - 1` is prime.
This module proves it with a Pratt certificate (`Theory.Pratt`): every prime
in it is certified by Lucas's test from the factors of its predecessor, the
last entry being `p` itself.
-/

namespace Bluedroid.Smp

set_option autoImplicit false

open Bluedroid.Theory

/-- A Pratt certificate for the modulus of P-256, each entry after the primes
its factors need. -/
def p256PrattCertificate : List PrattEntry := [
  ⟨2, 1, []⟩,
  ⟨3, 2, [(2, 1)]⟩,
  ⟨5, 2, [(2, 2)]⟩,
  ⟨17, 3, [(2, 4)]⟩,
  ⟨257, 3, [(2, 8)]⟩,
  ⟨641, 3, [(2, 7), (5, 1)]⟩,
  ⟨1531, 2, [(2, 1), (3, 2), (5, 1), (17, 1)]⟩,
  ⟨65537, 3, [(2, 16)]⟩,
  ⟨7, 3, [(2, 1), (3, 1)]⟩,
  ⟨13, 2, [(2, 2), (3, 1)]⟩,
  ⟨53, 2, [(2, 2), (13, 1)]⟩,
  ⟨11, 2, [(2, 1), (5, 1)]⟩,
  ⟨661, 2, [(2, 2), (3, 1), (5, 1), (11, 1)]⟩,
  ⟨490463, 14, [(2, 1), (7, 1), (53, 1), (661, 1)]⟩,
  ⟨727, 5, [(2, 1), (3, 1), (11, 2)]⟩,
  ⟨17449, 14, [(2, 3), (3, 1), (727, 1)]⟩,
  ⟨6700417, 5, [(2, 7), (3, 1), (17449, 1)]⟩,
  ⟨241, 7, [(2, 4), (3, 1), (5, 1)]⟩,
  ⟨2411, 6, [(2, 1), (5, 1), (241, 1)]⟩,
  ⟨23, 5, [(2, 1), (11, 1)]⟩,
  ⟨107, 2, [(2, 1), (53, 1)]⟩,
  ⟨157, 5, [(2, 2), (3, 1), (13, 1)]⟩,
  ⟨3769, 7, [(2, 3), (3, 1), (157, 1)]⟩,
  ⟨204061199, 11, [(2, 1), (11, 1), (23, 1), (107, 1), (3769, 1)]⟩,
  ⟨34282281433, 17, [(2, 3), (3, 1), (7, 1), (204061199, 1)]⟩,
  ⟨43, 3, [(2, 1), (3, 1), (7, 1)]⟩,
  ⟨173, 2, [(2, 2), (43, 1)]⟩,
  ⟨197, 2, [(2, 2), (7, 2)]⟩,
  ⟨919, 7, [(2, 1), (3, 3), (17, 1)]⟩,
  ⟨3677, 2, [(2, 2), (919, 1)]⟩,
  ⟨66417393611, 6, [(2, 1), (5, 1), (53, 1), (173, 1), (197, 1), (3677, 1)]⟩,
  ⟨11290956913871, 13, [(2, 1), (5, 1), (17, 1), (66417393611, 1)]⟩,
  ⟨757, 2, [(2, 2), (3, 3), (7, 1)]⟩,
  ⟨18169, 11, [(2, 3), (3, 1), (757, 1)]⟩,
  ⟨181, 2, [(2, 2), (3, 2), (5, 1)]⟩,
  ⟨1087, 3, [(2, 1), (3, 1), (181, 1)]⟩,
  ⟨4349, 2, [(2, 2), (1087, 1)]⟩,
  ⟨78283, 3, [(2, 1), (3, 2), (4349, 1)]⟩,
  ⟨313, 10, [(2, 3), (3, 1), (13, 1)]⟩,
  ⟨704251, 2, [(2, 1), (3, 2), (5, 3), (313, 1)]⟩,
  ⟨46076956964474543, 5, [(2, 1), (23, 1), (18169, 1), (78283, 1), (704251, 1)]⟩,
  ⟨774023187263532362759620327192479577272145303, 3, [(2, 1), (3, 2), (2411, 1), (34282281433, 1), (11290956913871, 1), (46076956964474543, 1)]⟩,
  ⟨835945042244614951780389953367877943453916927241, 11, [(2, 3), (3, 3), (5, 1), (774023187263532362759620327192479577272145303, 1)]⟩,
  ⟨115792089210356248762697446949407573530086143415290314195533631308867097853951, 6, [(2, 1), (3, 1), (5, 2), (17, 1), (257, 1), (641, 1), (1531, 1), (65537, 1), (490463, 1), (6700417, 1), (835945042244614951780389953367877943453916927241, 1)]⟩
]

theorem p256PrattCertificate_check : prattCheck 256 [] p256PrattCertificate = true := by
  decide +kernel

theorem multiprecisionValue_p256 :
    multiprecisionValue p256InitCurve.p = 2 ^ 256 - 2 ^ 224 + 2 ^ 192 + 2 ^ 96 - 1 := by
  decide +kernel

/-- **The modulus of `curve_p256` is prime.** -/
theorem p256_prime : (multiprecisionValue p256InitCurve.p).Prime := by
  rw [multiprecisionValue_p256]
  exact prime_of_prattCheck p256PrattCertificate_check (by decide +kernel)

end Bluedroid.Smp
