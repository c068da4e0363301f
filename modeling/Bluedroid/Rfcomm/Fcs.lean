import Bluedroid.Theory.Footprint

/-!
# Rfcomm.Fcs -- the frame check sequence of TS 07.10

`rfc_calc_fcs` and `rfc_check_fcs` (rfc_utils.cc) run the reversed CRC-8 of
GSM 07.10 (polynomial `0x07`) over `len` octets at `p`, one table lookup an
octet (`crcStep`, `crcLoop`).  `rfc_calc_fcs` returns the ones' complement of
the register; `rfc_check_fcs` runs one more step on the received FCS and
compares with `0xCF`.  Both read memory, so both are `Reads` programs; they
read exactly the `len` octets at `p` (`within_crcLoop`).

The table takes `0xCF` at `0xFF` only (`rfcCrctable_eq_cf_iff`), so the check
accepts exactly the FCS that the calculation gives (`rfcCheckFcs_iff`).
-/

namespace Bluedroid.Rfcomm

open Bluedroid.Theory

set_option autoImplicit false

/-- `rfc_crctable`: the reversed CRC table, 8-bit, polynomial `0x07`. -/
def rfcCrctable : List UInt8 := [
  0x00, 0x91, 0xE3, 0x72, 0x07, 0x96, 0xE4, 0x75, 0x0E, 0x9F, 0xED,
  0x7C, 0x09, 0x98, 0xEA, 0x7B, 0x1C, 0x8D, 0xFF, 0x6E, 0x1B, 0x8A,
  0xF8, 0x69, 0x12, 0x83, 0xF1, 0x60, 0x15, 0x84, 0xF6, 0x67, 0x38,
  0xA9, 0xDB, 0x4A, 0x3F, 0xAE, 0xDC, 0x4D, 0x36, 0xA7, 0xD5, 0x44,
  0x31, 0xA0, 0xD2, 0x43, 0x24, 0xB5, 0xC7, 0x56, 0x23, 0xB2, 0xC0,
  0x51, 0x2A, 0xBB, 0xC9, 0x58, 0x2D, 0xBC, 0xCE, 0x5F, 0x70, 0xE1,
  0x93, 0x02, 0x77, 0xE6, 0x94, 0x05, 0x7E, 0xEF, 0x9D, 0x0C, 0x79,
  0xE8, 0x9A, 0x0B, 0x6C, 0xFD, 0x8F, 0x1E, 0x6B, 0xFA, 0x88, 0x19,
  0x62, 0xF3, 0x81, 0x10, 0x65, 0xF4, 0x86, 0x17, 0x48, 0xD9, 0xAB,
  0x3A, 0x4F, 0xDE, 0xAC, 0x3D, 0x46, 0xD7, 0xA5, 0x34, 0x41, 0xD0,
  0xA2, 0x33, 0x54, 0xC5, 0xB7, 0x26, 0x53, 0xC2, 0xB0, 0x21, 0x5A,
  0xCB, 0xB9, 0x28, 0x5D, 0xCC, 0xBE, 0x2F, 0xE0, 0x71, 0x03, 0x92,
  0xE7, 0x76, 0x04, 0x95, 0xEE, 0x7F, 0x0D, 0x9C, 0xE9, 0x78, 0x0A,
  0x9B, 0xFC, 0x6D, 0x1F, 0x8E, 0xFB, 0x6A, 0x18, 0x89, 0xF2, 0x63,
  0x11, 0x80, 0xF5, 0x64, 0x16, 0x87, 0xD8, 0x49, 0x3B, 0xAA, 0xDF,
  0x4E, 0x3C, 0xAD, 0xD6, 0x47, 0x35, 0xA4, 0xD1, 0x40, 0x32, 0xA3,
  0xC4, 0x55, 0x27, 0xB6, 0xC3, 0x52, 0x20, 0xB1, 0xCA, 0x5B, 0x29,
  0xB8, 0xCD, 0x5C, 0x2E, 0xBF, 0x90, 0x01, 0x73, 0xE2, 0x97, 0x06,
  0x74, 0xE5, 0x9E, 0x0F, 0x7D, 0xEC, 0x99, 0x08, 0x7A, 0xEB, 0x8C,
  0x1D, 0x6F, 0xFE, 0x8B, 0x1A, 0x68, 0xF9, 0x82, 0x13, 0x61, 0xF0,
  0x85, 0x14, 0x66, 0xF7, 0xA8, 0x39, 0x4B, 0xDA, 0xAF, 0x3E, 0x4C,
  0xDD, 0xA6, 0x37, 0x45, 0xD4, 0xA1, 0x30, 0x42, 0xD3, 0xB4, 0x25,
  0x57, 0xC6, 0xB3, 0x22, 0x50, 0xC1, 0xBA, 0x2B, 0x59, 0xC8, 0xBD,
  0x2C, 0x5E, 0xCF]

/-- One octet into the register: `fcs = rfc_crctable[fcs ^ *p++]`. -/
def crcStep (fcs b : UInt8) : UInt8 := rfcCrctable.getD (fcs ^^^ b).toNat 0

/-- The loop `while (len--) fcs = rfc_crctable[fcs ^ *p++];` from the register
`fcs`, over the `len` octets at `p`. -/
def crcLoop (fcs : UInt8) (p : ℕ) : ℕ → Reads UInt8 UInt8
  | 0 => pure fcs
  | len + 1 => do
    let b ← Reads.get p
    crcLoop (crcStep fcs b) (p + 1) len

/-- `rfc_calc_fcs(len, p)`: the ones' complement of the register. -/
def rfcCalcFcs (len p : ℕ) : Reads UInt8 UInt8 := do
  let fcs ← crcLoop 0xFF p len
  pure (0xFF - fcs)

/-- `rfc_check_fcs(len, p, received_fcs)`: one more step on the received FCS,
compared with `0xCF`, the reversed `11110011`. -/
def rfcCheckFcs (len p : ℕ) (receivedFcs : UInt8) : Reads UInt8 Bool := do
  let fcs ← crcLoop 0xFF p len
  pure (crcStep fcs receivedFcs == 0xCF)

/-! ## What the loop reads and computes -/

theorem within_crcLoop : ∀ (len : ℕ) (fcs : UInt8) (p : ℕ), Reads.Within p (p + len) (crcLoop fcs p len)
  | 0, _, _ => Reads.within_pure _
  | len + 1, fcs, p =>
    Reads.within_get_bind (Nat.le_refl p) (by omega) fun b =>
      (within_crcLoop len (crcStep fcs b) (p + 1)).mono (by omega) (by omega)

/-- The register after the loop is the fold of `crcStep` over the octets read. -/
theorem value_crcLoop (mem : ℕ → UInt8) :
    ∀ (len : ℕ) (fcs : UInt8) (p : ℕ),
      (crcLoop fcs p len).value mem = ((List.range len).map fun i => mem (p + i)).foldl crcStep fcs
  | 0, _, _ => rfl
  | len + 1, fcs, p => by
    rw [crcLoop, Reads.value_bind, Reads.value_get, value_crcLoop mem len, List.range_succ_eq_map,
      List.map_cons, List.map_map, List.foldl_cons, Nat.add_zero]
    congr 2
    funext i
    simp only [Function.comp, Nat.add_assoc, Nat.add_comm 1 i]

theorem value_rfcCalcFcs (mem : ℕ → UInt8) (len p : ℕ) :
    (rfcCalcFcs len p).value mem = 0xFF - ((List.range len).map fun i => mem (p + i)).foldl crcStep 0xFF := by
  rw [rfcCalcFcs, Reads.value_bind, value_crcLoop, Reads.value_pure]

theorem within_rfcCheckFcs (len p : ℕ) (receivedFcs : UInt8) :
    Reads.Within p (p + len) (rfcCheckFcs len p receivedFcs) :=
  (within_crcLoop len 0xFF p).bind fun _ => Reads.within_pure _

/-! ## The check accepts the calculated FCS -/

theorem rfcCrctable_eq_cf_iff (x : UInt8) : rfcCrctable.getD x.toNat 0 = 0xCF ↔ x = 0xFF := by
  have table : ∀ n < 256, rfcCrctable.getD n 0 = 0xCF ↔ n = 255 := by decide +kernel
  rw [table x.toNat x.toNat_lt, ← UInt8.toNat_inj]
  rfl

theorem ff_sub_eq_xor : ∀ x : UInt8, 0xFF - x = x ^^^ 0xFF := by
  have bytes : ∀ n < 256, 0xFF - UInt8.ofNat n = UInt8.ofNat n ^^^ 0xFF := by
    decide +kernel
  intro x
  simpa using bytes x.toNat x.toNat_lt

theorem crcStep_eq_cf_iff (fcs b : UInt8) : crcStep fcs b = 0xCF ↔ b = 0xFF - fcs := by
  rw [crcStep, rfcCrctable_eq_cf_iff, ff_sub_eq_xor]
  constructor
  · intro xored
    rw [← xored, ← UInt8.xor_assoc, UInt8.xor_self, UInt8.zero_xor]
  · rintro rfl
    rw [← UInt8.xor_assoc, UInt8.xor_self, UInt8.zero_xor]

/-- **`rfc_check_fcs` holds exactly of the FCS `rfc_calc_fcs` gives.** -/
theorem rfcCheckFcs_iff (mem : ℕ → UInt8) (len p : ℕ) (receivedFcs : UInt8) :
    (rfcCheckFcs len p receivedFcs).value mem = true ↔ receivedFcs = (rfcCalcFcs len p).value mem := by
  simp only [rfcCheckFcs, rfcCalcFcs, Reads.value_bind, Reads.value_pure, beq_iff_eq]
  exact crcStep_eq_cf_iff _ _

end Bluedroid.Rfcomm
