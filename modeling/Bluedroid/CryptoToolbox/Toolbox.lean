import Bluedroid.CryptoToolbox.AesCmac

/-!
# CryptoToolbox.Toolbox -- the SMP functions of Core Vol 3 Part H 2.2

`crypto_toolbox.cc` builds the messages of the LE Secure Connections functions
`f4`, `f5`, `f6`, `g2`, `h6`, `h7` and of the key conversions
`ltk_to_link_key` and `link_key_to_ltk` least significant octet first, and
hands them to `aes_cmac`.  The specification (`Core`) writes every value most
significant octet first and concatenates left to right.

With `aesCmac_eq_mac`, each function of the toolbox is the octets, least
significant first, of its `Core` definition on the reversed arguments: the
code's message is the reverse of the specification's, and its constants
(`SALT`, `keyID`, `Length`, the key identifiers `tmp1`, `lebr`, `tmp2`,
`brle`) are the specification's reversed.  `g2` keeps the MAC's low four
octets as a little-endian `uint32_t` (`STREAM_TO_UINT32` in the stack,
`le32toh` in the GD copy), which is the MAC modulo `2 ^ 32`.  The GD copy's
other functions are the stack's, octet for octet.
-/

namespace Bluedroid.CryptoToolbox

open Bluedroid.Theory

set_option autoImplicit false

/-! ## The specification -/

namespace Core

variable (E : BitVec 128 → BitVec 128 → BitVec 128)

/-- `SALT` of `f5`. -/
def salt : BitVec 128 := 0x6C888391AAF5A53860370BDB5A6083BE#128

/-- `keyID` of `f5`, `0x62746c65`. -/
def keyId : List UInt8 := [0x62, 0x74, 0x6c, 0x65]

/-- `f4(U, V, X, Z) = AES-CMAC_X(U || V || Z)`. -/
def f4 (U V : List UInt8) (X : BitVec 128) (Z : UInt8) : BitVec 128 := Cmac.mac E X (U ++ V ++ [Z])

/-- `f5(W, N1, N2, A1, A2)`: `T = AES-CMAC_SALT(W)`, then the MacKey and the
LTK, `AES-CMAC_T(Counter || keyID || N1 || N2 || A1 || A2 || Length)` with
`Counter` `0` and `1` and `Length = 0x0100`. -/
def f5 (W N1 N2 A1 A2 : List UInt8) : BitVec 128 × BitVec 128 :=
  let T := Cmac.mac E salt W
  let key (counter : UInt8) := Cmac.mac E T (counter :: keyId ++ N1 ++ N2 ++ A1 ++ A2 ++ [0x01, 0x00])
  (key 0, key 1)

/-- `f6(W, N1, N2, R, IOcap, A1, A2) = AES-CMAC_W(N1 || N2 || R || IOcap || A1 || A2)`. -/
def f6 (W : BitVec 128) (N1 N2 R IOcap A1 A2 : List UInt8) : BitVec 128 :=
  Cmac.mac E W (N1 ++ N2 ++ R ++ IOcap ++ A1 ++ A2)

/-- `g2(U, V, X, Y) = AES-CMAC_X(U || V || Y) mod 2 ^ 32`. -/
def g2 (U V : List UInt8) (X : BitVec 128) (Y : List UInt8) : ℕ :=
  (Cmac.mac E X (U ++ V ++ Y)).toNat % 2 ^ 32

/-- The six-digit numeric comparison value, `g2 mod 10 ^ 6`. -/
def numericValue (U V : List UInt8) (X : BitVec 128) (Y : List UInt8) : ℕ := g2 E U V X Y % 10 ^ 6

/-- `h6(W, keyID) = AES-CMAC_W(keyID)`. -/
def h6 (W : BitVec 128) (keyID : List UInt8) : BitVec 128 := Cmac.mac E W keyID

/-- `h7(SALT, W) = AES-CMAC_SALT(W)`. -/
def h7 (SALT W : BitVec 128) : BitVec 128 := Cmac.mac E SALT (octetsBE W)

/-- The conversions between an LTK and a BR/EDR link key: the intermediate
key by `h7` with the salt `SALT` when both sides support it (`CT2`), by `h6`
with the key identifier `tmpId` otherwise, then `h6` with `keyID`. -/
def keyConversion (SALT : BitVec 128) (tmpId keyID : List UInt8) (K : BitVec 128) (ct2 : Bool) :
    BitVec 128 :=
  let intermediate := if ct2 then h7 E SALT K else h6 E K tmpId
  h6 E intermediate keyID

/-- The LTK to a BR/EDR link key: `ILK` by `h7` with `SALT = 'tmp1'` or by
`h6(LTK, 'tmp1')`, then `h6(ILK, 'lebr')`. -/
def ltkToLinkKey (LTK : BitVec 128) (ct2 : Bool) : BitVec 128 :=
  keyConversion E 0x746D7031#128 [0x74, 0x6D, 0x70, 0x31] [0x6C, 0x65, 0x62, 0x72] LTK ct2

/-- A BR/EDR link key to the LTK: `ILTK` by `h7` with `SALT = 'tmp2'` or by
`h6(LK, 'tmp2')`, then `h6(ILTK, 'brle')`. -/
def linkKeyToLtk (LK : BitVec 128) (ct2 : Bool) : BitVec 128 :=
  keyConversion E 0x746D7032#128 [0x74, 0x6D, 0x70, 0x32] [0x62, 0x72, 0x6C, 0x65] LK ct2

end Core

/-! ## The model

Every function hands its message to `aes_cmac`, whose buffer starts with
whatever the stack held (`stale`). -/

variable (c : BlockCipher)

/-- `h6(w, keyid)`. -/
def h6 (w keyid : List UInt8) (stale : ℕ → UInt8) : List UInt8 := aesCmac c w keyid stale

/-- `h7(salt, w)`. -/
def h7 (salt w : List UInt8) (stale : ℕ → UInt8) : List UInt8 := aesCmac c salt w stale

/-- `f4(u, v, x, z)`: the message `z`, `v`, `u`. -/
def f4 (u v x : List UInt8) (z : UInt8) (stale : ℕ → UInt8) : List UInt8 :=
  aesCmac c x ([z] ++ v ++ u) stale

/-- `calculate_mac_key_or_ltk`: the message `length`, `a2`, `a1`, `n2`, `n1`,
`key_id`, `counter`. -/
def calculateMacKeyOrLtk (t : List UInt8) (counter : UInt8) (keyId n1 n2 a1 a2 length : List UInt8)
    (stale : ℕ → UInt8) : List UInt8 :=
  aesCmac c t (length ++ a2 ++ a1 ++ n2 ++ n1 ++ keyId ++ [counter]) stale

/-- `f5(w, n1, n2, a1, a2)`: the MacKey and the LTK. -/
def f5 (w n1 n2 a1 a2 : List UInt8) (stale : ℕ → UInt8) : List UInt8 × List UInt8 :=
  let salt : List UInt8 :=
    [0xBE, 0x83, 0x60, 0x5A, 0xDB, 0x0B, 0x37, 0x60, 0x38, 0xA5, 0xF5, 0xAA, 0x91, 0x83, 0x88, 0x6C]
  let t := aesCmac c salt w stale
  let keyId : List UInt8 := [0x65, 0x6c, 0x74, 0x62]
  let length : List UInt8 := [0x00, 0x01]
  (calculateMacKeyOrLtk c t 0 keyId n1 n2 a1 a2 length stale,
    calculateMacKeyOrLtk c t 1 keyId n1 n2 a1 a2 length stale)

/-- `f6(w, n1, n2, r, iocap, a1, a2)`: the message `a2`, `a1`, `iocap`, `r`,
`n2`, `n1`. -/
def f6 (w n1 n2 r iocap a1 a2 : List UInt8) (stale : ℕ → UInt8) : List UInt8 :=
  aesCmac c w (a2 ++ a1 ++ iocap ++ r ++ n2 ++ n1) stale

/-- `STREAM_TO_UINT32(u32, p)`: four octets, the first the least significant. -/
def streamToUint32 (p : List UInt8) : UInt32 :=
  (p.getD 0 0).toUInt32 + ((p.getD 1 0).toUInt32 <<< 8) + ((p.getD 2 0).toUInt32 <<< 16) +
    ((p.getD 3 0).toUInt32 <<< 24)

/-- `g2(u, v, x, y)`: the message `y`, `v`, `u`, and the MAC's first four
octets modulo `1000000`. -/
def g2 (u v x y : List UInt8) (stale : ℕ → UInt8) : UInt32 :=
  let cmac := aesCmac c x (y ++ v ++ u) stale
  streamToUint32 cmac % 1000000

/-- The body shared by `ltk_to_link_key` and `link_key_to_ltk`: the
intermediate key by `h7` with `salt` or by `h6` with `tmpId`, then `h6` with
`keyId`. -/
def keyConversion (salt tmpId keyId key : List UInt8) (useH7 : Bool) (stale : ℕ → UInt8) : List UInt8 :=
  let intermediate := if useH7 then h7 c salt key stale else h6 c key tmpId stale
  h6 c intermediate keyId stale

/-- `ltk_to_link_key(ltk, use_h7)`: the salt and `keyID_tmp1` are `"tmp1"`,
the second key identifier `"lebr"`. -/
def ltkToLinkKey (ltk : List UInt8) (useH7 : Bool) (stale : ℕ → UInt8) : List UInt8 :=
  keyConversion c [0x31, 0x70, 0x6D, 0x74, 0, 0, 0, 0, 0, 0, 0, 0, 0, 0, 0, 0] [0x31, 0x70, 0x6D, 0x74]
    [0x72, 0x62, 0x65, 0x6c] ltk useH7 stale

/-- `link_key_to_ltk(link_key, use_h7)`: the salt and `keyID_tmp2` are
`"tmp2"`, the second key identifier `"brle"`. -/
def linkKeyToLtk (linkKey : List UInt8) (useH7 : Bool) (stale : ℕ → UInt8) : List UInt8 :=
  keyConversion c [0x32, 0x70, 0x6D, 0x74, 0, 0, 0, 0, 0, 0, 0, 0, 0, 0, 0, 0] [0x32, 0x70, 0x6D, 0x74]
    [0x65, 0x6c, 0x72, 0x62] linkKey useH7 stale

namespace Gd

/-- `le32toh(*(uint32_t*)p)`: the first four octets loaded as a `uint32_t` and
brought from little-endian order to the host's, on any host the little-endian
value of the four octets. -/
def le32toh (p : List UInt8) : UInt32 := UInt32.ofNat (leValue (p.take 4))

/-- The GD copy of `g2`. -/
def g2 (u v x y : List UInt8) (stale : ℕ → UInt8) : UInt32 :=
  let cmac := aesCmac c x (y ++ v ++ u) stale
  le32toh cmac % 1000000

end Gd

/-! ## The toolbox is the specification -/

/-- `STREAM_TO_UINT32` reads four octets least significant first. -/
theorem toNat_streamToUint32 {p : List UInt8} (long : 4 ≤ p.length) :
    (streamToUint32 p).toNat = leValue (p.take 4) := by
  obtain ⟨a, b, c, d, rest, rfl⟩ : ∃ a b c d rest, p = a :: b :: c :: d :: rest := by
    match p, long with
    | a :: b :: c :: d :: rest, _ => exact ⟨a, b, c, d, rest, rfl⟩
  have := a.toNat_lt
  have := b.toNat_lt
  have := c.toNat_lt
  have := d.toNat_lt
  simp [streamToUint32, UInt32.toNat_add, UInt32.toNat_shiftLeft, Nat.shiftLeft_eq]
  omega

/-- So does the GD copy's load and `le32toh`. -/
theorem toNat_le32toh {p : List UInt8} : (Gd.le32toh p).toNat = leValue (p.take 4) := by
  have bound := leValue_lt (p.take 4)
  rw [Gd.le32toh, UInt32.toNat_ofNat', Nat.mod_eq_of_lt]
  calc leValue (p.take 4) < 2 ^ (8 * (p.take 4).length) := bound
    _ ≤ 2 ^ 32 := Nat.pow_le_pow_right (by omega) (by rw [List.length_take]; omega)

theorem h6_eq {w : List UInt8} (keyid : List UInt8) (stale : ℕ → UInt8) (sixteen : w.length = 16) :
    h6 c w keyid stale = octetsLE (Core.h6 c.block (blockLE w) keyid.reverse) :=
  aesCmac_eq_mac c keyid stale sixteen

theorem h7_eq {salt w : List UInt8} (stale : ℕ → UInt8) (sixteenS : salt.length = 16)
    (sixteenW : w.length = 16) :
    h7 c salt w stale = octetsLE (Core.h7 c.block (blockLE salt) (blockLE w)) := by
  rw [h7, aesCmac_eq_mac c w stale sixteenS, Core.h7, octetsBE, octetsLE_blockLE sixteenW]

theorem f4_eq {x : List UInt8} (u v : List UInt8) (z : UInt8) (stale : ℕ → UInt8) (sixteen : x.length = 16) :
    f4 c u v x z stale = octetsLE (Core.f4 c.block u.reverse v.reverse (blockLE x) z) := by
  rw [f4, aesCmac_eq_mac c _ stale sixteen, Core.f4, List.reverse_append, List.reverse_append,
    List.reverse_singleton, List.append_assoc]

theorem calculateMacKeyOrLtk_eq {t : List UInt8} (counter : UInt8) (keyId n1 n2 a1 a2 length : List UInt8)
    (stale : ℕ → UInt8) (sixteen : t.length = 16) :
    calculateMacKeyOrLtk c t counter keyId n1 n2 a1 a2 length stale =
      octetsLE (Cmac.mac c.block (blockLE t)
        (counter :: keyId.reverse ++ n1.reverse ++ n2.reverse ++ a1.reverse ++ a2.reverse ++ length.reverse)) := by
  rw [calculateMacKeyOrLtk, aesCmac_eq_mac c _ stale sixteen]
  simp only [List.reverse_append, List.reverse_singleton, List.append_assoc, List.cons_append,
    List.nil_append]

theorem f5_eq (w n1 n2 a1 a2 : List UInt8) (stale : ℕ → UInt8) :
    f5 c w n1 n2 a1 a2 stale =
      ((Core.f5 c.block w.reverse n1.reverse n2.reverse a1.reverse a2.reverse).map octetsLE octetsLE) := by
  have salt : blockLE [0xBE, 0x83, 0x60, 0x5A, 0xDB, 0x0B, 0x37, 0x60, 0x38, 0xA5, 0xF5, 0xAA, 0x91, 0x83,
      0x88, 0x6C] = Core.salt := by decide
  simp only [f5, Core.f5, Prod.map]
  rw [calculateMacKeyOrLtk_eq c _ _ _ _ _ _ _ _ (length_aesCmac ..),
    calculateMacKeyOrLtk_eq c _ _ _ _ _ _ _ _ (length_aesCmac ..), aesCmac_eq_mac c w stale rfl,
    blockLE_octetsLE, salt]
  rfl

theorem f6_eq {w : List UInt8} (n1 n2 r iocap a1 a2 : List UInt8) (stale : ℕ → UInt8) (sixteen : w.length = 16) :
    f6 c w n1 n2 r iocap a1 a2 stale =
      octetsLE (Core.f6 c.block (blockLE w) n1.reverse n2.reverse r.reverse iocap.reverse a1.reverse a2.reverse) := by
  rw [f6, aesCmac_eq_mac c _ stale sixteen, Core.f6]
  simp only [List.reverse_append, List.append_assoc]

/-- The MAC's first four octets, least significant first, are the MAC modulo `2 ^ 32`. -/
theorem leValue_take_aesCmac {x : List UInt8} (message : List UInt8) (stale : ℕ → UInt8) (sixteen : x.length = 16) :
    leValue ((aesCmac c x message stale).take 4) = (Cmac.mac c.block (blockLE x) message.reverse).toNat % 2 ^ 32 := by
  rw [aesCmac_eq_mac c message stale sixteen, leValue_take_octetsLE]

theorem g2_eq {x : List UInt8} (u v y : List UInt8) (stale : ℕ → UInt8) (sixteen : x.length = 16) :
    (g2 c u v x y stale).toNat = Core.numericValue c.block u.reverse v.reverse (blockLE x) y.reverse := by
  rw [g2, UInt32.toNat_mod, toNat_streamToUint32 (by rw [length_aesCmac]; omega),
    leValue_take_aesCmac c _ stale sixteen, Core.numericValue, Core.g2]
  simp only [List.reverse_append, List.append_assoc]
  rfl

theorem gd_g2_eq {x : List UInt8} (u v y : List UInt8) (stale : ℕ → UInt8) (sixteen : x.length = 16) :
    (Gd.g2 c u v x y stale).toNat = Core.numericValue c.block u.reverse v.reverse (blockLE x) y.reverse := by
  rw [Gd.g2, UInt32.toNat_mod, toNat_le32toh, leValue_take_aesCmac c _ stale sixteen, Core.numericValue,
    Core.g2]
  simp only [List.reverse_append, List.append_assoc]
  rfl

theorem keyConversion_eq {salt key : List UInt8} (tmpId keyId : List UInt8) (useH7 : Bool) (stale : ℕ → UInt8)
    (sixteenS : salt.length = 16) (sixteenK : key.length = 16) :
    keyConversion c salt tmpId keyId key useH7 stale =
      octetsLE (Core.keyConversion c.block (blockLE salt) tmpId.reverse keyId.reverse (blockLE key) useH7) := by
  -- the intermediate key is sixteen octets either way, the octets of its `Core` block
  have intermediate : (if useH7 then h7 c salt key stale else h6 c key tmpId stale) =
      octetsLE (if useH7 then Core.h7 c.block (blockLE salt) (blockLE key)
        else Core.h6 c.block (blockLE key) tmpId.reverse) := by
    cases useH7 with
    | true => exact h7_eq c stale sixteenS sixteenK
    | false => exact h6_eq c tmpId stale sixteenK
  rw [keyConversion, intermediate, h6_eq c keyId stale (length_octetsLE _), blockLE_octetsLE]
  rfl

theorem ltkToLinkKey_eq {ltk : List UInt8} (useH7 : Bool) (stale : ℕ → UInt8) (sixteen : ltk.length = 16) :
    ltkToLinkKey c ltk useH7 stale = octetsLE (Core.ltkToLinkKey c.block (blockLE ltk) useH7) := by
  have tmp1 : blockLE [0x31, 0x70, 0x6D, 0x74, 0, 0, 0, 0, 0, 0, 0, 0, 0, 0, 0, 0] = 0x746D7031#128 := by decide
  rw [ltkToLinkKey, keyConversion_eq c _ _ useH7 stale rfl sixteen, tmp1]
  rfl

theorem linkKeyToLtk_eq {linkKey : List UInt8} (useH7 : Bool) (stale : ℕ → UInt8) (sixteen : linkKey.length = 16) :
    linkKeyToLtk c linkKey useH7 stale = octetsLE (Core.linkKeyToLtk c.block (blockLE linkKey) useH7) := by
  have tmp2 : blockLE [0x32, 0x70, 0x6D, 0x74, 0, 0, 0, 0, 0, 0, 0, 0, 0, 0, 0, 0] = 0x746D7032#128 := by decide
  rw [linkKeyToLtk, keyConversion_eq c _ _ useH7 stale rfl sixteen, tmp2]
  rfl

/-- **The crypto toolbox computes the specification, least significant octet
first.**  For every block cipher: `aes_cmac` is RFC 4493's AES-CMAC on the
reversed key and message, reversed, for every message and whatever its buffer
held before; and `f4`, `f5`, `f6`, `g2` (both copies), `h6`, `h7`,
`ltk_to_link_key` and `link_key_to_ltk` are their Core definitions on the
reversed arguments. -/
theorem cryptoToolbox_refines_core (c : BlockCipher) :
    (∀ (key input : List UInt8) (stale : ℕ → UInt8), key.length = 16 →
      aesCmac c key input stale = (octetsBE (Cmac.mac c.block (blockBE key.reverse) input.reverse)).reverse) ∧
    (∀ (u v x : List UInt8) (z : UInt8) (stale : ℕ → UInt8), x.length = 16 →
      f4 c u v x z stale = octetsLE (Core.f4 c.block u.reverse v.reverse (blockLE x) z)) ∧
    (∀ (w n1 n2 a1 a2 : List UInt8) (stale : ℕ → UInt8),
      f5 c w n1 n2 a1 a2 stale =
        (Core.f5 c.block w.reverse n1.reverse n2.reverse a1.reverse a2.reverse).map octetsLE octetsLE) ∧
    (∀ (w n1 n2 r iocap a1 a2 : List UInt8) (stale : ℕ → UInt8), w.length = 16 →
      f6 c w n1 n2 r iocap a1 a2 stale =
        octetsLE (Core.f6 c.block (blockLE w) n1.reverse n2.reverse r.reverse iocap.reverse a1.reverse
          a2.reverse)) ∧
    (∀ (u v x y : List UInt8) (stale : ℕ → UInt8), x.length = 16 →
      (g2 c u v x y stale).toNat = Core.numericValue c.block u.reverse v.reverse (blockLE x) y.reverse ∧
        (Gd.g2 c u v x y stale).toNat = Core.numericValue c.block u.reverse v.reverse (blockLE x) y.reverse) ∧
    (∀ (w keyid : List UInt8) (stale : ℕ → UInt8), w.length = 16 →
      h6 c w keyid stale = octetsLE (Core.h6 c.block (blockLE w) keyid.reverse)) ∧
    (∀ (salt w : List UInt8) (stale : ℕ → UInt8), salt.length = 16 → w.length = 16 →
      h7 c salt w stale = octetsLE (Core.h7 c.block (blockLE salt) (blockLE w))) ∧
    (∀ (key : List UInt8) (useH7 : Bool) (stale : ℕ → UInt8), key.length = 16 →
      ltkToLinkKey c key useH7 stale = octetsLE (Core.ltkToLinkKey c.block (blockLE key) useH7) ∧
        linkKeyToLtk c key useH7 stale = octetsLE (Core.linkKeyToLtk c.block (blockLE key) useH7)) := by
  refine ⟨?cmac, fun u v x z stale sixteen => f4_eq c u v z stale sixteen, f5_eq c,
    fun w n1 n2 r iocap a1 a2 stale sixteen => f6_eq c n1 n2 r iocap a1 a2 stale sixteen,
    fun u v x y stale sixteen => ⟨g2_eq c u v y stale sixteen, gd_g2_eq c u v y stale sixteen⟩,
    fun w keyid stale sixteen => h6_eq c keyid stale sixteen,
    fun salt w stale sixteenS sixteenW => h7_eq c stale sixteenS sixteenW,
    fun key useH7 stale sixteen => ⟨ltkToLinkKey_eq c useH7 stale sixteen, linkKeyToLtk_eq c useH7 stale sixteen⟩⟩
  case cmac =>
    intro key input stale sixteen
    rw [blockBE, List.reverse_reverse, octetsBE, List.reverse_reverse, aesCmac_eq_mac c input stale sixteen]

/-- A cipher that is not AES but mixes each key octet with two octets of the
block, so that no two blocks encrypt alike by accident: the instance below. -/
def mixCipher : BlockCipher where
  encrypt key block := (List.range 16).map fun i =>
    key.getD i 0 ^^^ (block.getD ((i + 1) % 16) 0 + 3 * block.getD i 0 + UInt8.ofNat i)
  length_encrypt _ _ := by simp

/-- Sixteen octets of key, least significant first. -/
def sampleKey : List UInt8 := (List.range 16).map fun i => UInt8.ofNat (0x2B + 7 * i)

/-- Sixty-four octets of message. -/
def sampleMessage : List UInt8 := (List.range 64).map fun i => UInt8.ofNat (0x6B + 13 * i)

/-- Each function of the toolbox under that cipher, with a stale buffer that is
not zero: `aes_cmac` on a message of less than a block and on one of two whole
blocks and part of a third; `f4` on two 32-octet public keys; `f5`, `f6`,
`g2`, `h6` with the key ID "btle", `h7` with the salt of `ltk_to_link_key`,
and both key conversions with and without `h7`. -/
theorem cryptoToolbox_refines_core_mix :
    aesCmac mixCipher sampleKey (sampleMessage.take 5) UInt8.ofNat =
      (octetsBE (Cmac.mac mixCipher.block (blockBE sampleKey.reverse) (sampleMessage.take 5).reverse)).reverse ∧
    aesCmac mixCipher sampleKey (sampleMessage.take 37) UInt8.ofNat =
      (octetsBE (Cmac.mac mixCipher.block (blockBE sampleKey.reverse) (sampleMessage.take 37).reverse)).reverse ∧
    f4 mixCipher (sampleMessage.take 32) (sampleMessage.drop 32) sampleKey 0 UInt8.ofNat =
      octetsLE (Core.f4 mixCipher.block (sampleMessage.take 32).reverse (sampleMessage.drop 32).reverse
        (blockLE sampleKey) 0) ∧
    f5 mixCipher (sampleMessage.take 32) (sampleKey.take 16) (sampleMessage.take 16) [1, 2, 3, 4, 5, 6, 0]
        [6, 5, 4, 3, 2, 1, 1] UInt8.ofNat =
      (Core.f5 mixCipher.block (sampleMessage.take 32).reverse (sampleKey.take 16).reverse
        (sampleMessage.take 16).reverse [0, 6, 5, 4, 3, 2, 1] [1, 1, 2, 3, 4, 5, 6]).map octetsLE octetsLE ∧
    f6 mixCipher sampleKey (sampleMessage.take 16) (sampleMessage.drop 48) [0, 0, 0, 0, 0, 0, 0, 0, 0, 0, 0, 0,
        0, 0, 0, 0] [1, 0, 3] [1, 2, 3, 4, 5, 6, 0] [6, 5, 4, 3, 2, 1, 1] UInt8.ofNat =
      octetsLE (Core.f6 mixCipher.block (blockLE sampleKey) (sampleMessage.take 16).reverse
        (sampleMessage.drop 48).reverse (List.replicate 16 0) [3, 0, 1] [0, 6, 5, 4, 3, 2, 1]
        [1, 1, 2, 3, 4, 5, 6]) ∧
    ((g2 mixCipher (sampleMessage.take 32) (sampleMessage.drop 32) sampleKey (sampleKey.reverse)
        UInt8.ofNat).toNat =
      Core.numericValue mixCipher.block (sampleMessage.take 32).reverse (sampleMessage.drop 32).reverse
        (blockLE sampleKey) sampleKey.reverse.reverse ∧
      (Gd.g2 mixCipher (sampleMessage.take 32) (sampleMessage.drop 32) sampleKey (sampleKey.reverse)
        UInt8.ofNat).toNat =
      Core.numericValue mixCipher.block (sampleMessage.take 32).reverse (sampleMessage.drop 32).reverse
        (blockLE sampleKey) sampleKey.reverse.reverse) ∧
    h6 mixCipher sampleKey [0x65, 0x6c, 0x74, 0x62] UInt8.ofNat =
      octetsLE (Core.h6 mixCipher.block (blockLE sampleKey) [0x62, 0x74, 0x6c, 0x65]) ∧
    h7 mixCipher (sampleMessage.take 16) sampleKey UInt8.ofNat =
      octetsLE (Core.h7 mixCipher.block (blockLE (sampleMessage.take 16)) (blockLE sampleKey)) ∧
    (ltkToLinkKey mixCipher sampleKey true UInt8.ofNat =
        octetsLE (Core.ltkToLinkKey mixCipher.block (blockLE sampleKey) true) ∧
      linkKeyToLtk mixCipher sampleKey true UInt8.ofNat =
        octetsLE (Core.linkKeyToLtk mixCipher.block (blockLE sampleKey) true)) ∧
    (ltkToLinkKey mixCipher sampleKey false UInt8.ofNat =
        octetsLE (Core.ltkToLinkKey mixCipher.block (blockLE sampleKey) false) ∧
      linkKeyToLtk mixCipher sampleKey false UInt8.ofNat =
        octetsLE (Core.linkKeyToLtk mixCipher.block (blockLE sampleKey) false)) := by
  have sixteen : sampleKey.length = 16 := rfl
  obtain ⟨cmac, f4Core, f5Core, f6Core, g2Core, h6Core, h7Core, conversions⟩ :=
    cryptoToolbox_refines_core mixCipher
  exact ⟨cmac _ _ _ sixteen, cmac _ _ _ sixteen, f4Core _ _ _ _ _ sixteen, f5Core _ _ _ _ _ _,
    f6Core _ _ _ _ _ _ _ _ sixteen, g2Core _ _ _ _ _ sixteen, h6Core _ _ _ sixteen,
    h7Core _ _ _ rfl sixteen, conversions _ _ _ sixteen, conversions _ _ _ sixteen⟩

end Bluedroid.CryptoToolbox
