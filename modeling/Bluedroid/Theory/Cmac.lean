import Bluedroid.Theory.Octets

/-!
# Theory.Cmac -- AES-CMAC as RFC 4493 specifies it

The MAC of an octet string `M` under a key `K`, for a block cipher
`E : key → block → block` on 128-bit blocks, step by step as in the RFC's
Figures 2.2 (`generateSubkey`) and 2.3 (`mac`).  Blocks are 128-bit strings,
`BitVec 128`; the message is a string of octets, its `i`-th block the octets
`16 * i` to `16 * i + 15` read most significant first (`blockBE`), and the
last block is padded with a one bit and zero bits when it is short
(`padding`).  The cipher is a parameter: the RFC's AES-128, or whatever an
implementation calls.
-/

namespace Bluedroid.Theory.Cmac

set_option autoImplicit false

/-- `const_Rb` of a 128-bit block cipher. -/
def constRb : BitVec 128 := 0x87#128

/-- `L << 1` in the subkey generation, with `const_Rb` added when the bit shifted
out, `MSB(L)`, is set. -/
def double (L : BitVec 128) : BitVec 128 := if L.msb then (L <<< 1) ^^^ constRb else L <<< 1

/-- Generate_Subkey (Figure 2.2): `K1` and `K2` from `L = E(K, 0)`. -/
def generateSubkey (E : BitVec 128 → BitVec 128 → BitVec 128) (K : BitVec 128) :
    BitVec 128 × BitVec 128 :=
  let L := E K 0
  let K1 := double L
  (K1, double K1)

/-- `padding(x)` of a last block of fewer than sixteen octets: `x`, a one bit,
then zero bits up to sixteen octets. -/
def padding (x : List UInt8) : List UInt8 := x ++ 0x80 :: List.replicate (15 - x.length) 0

/-- The octets of block `i` of `M`, counted from `0`. -/
def block (M : List UInt8) (i : ℕ) : List UInt8 := (M.drop (16 * i)).take 16

/-- AES-CMAC (Figure 2.3) of the octet string `M` under the key `K`. -/
def mac (E : BitVec 128 → BitVec 128 → BitVec 128) (K : BitVec 128) (M : List UInt8) :
    BitVec 128 :=
  let (K1, K2) := generateSubkey E K
  -- steps 2 and 3: the number of blocks, and whether the last is complete
  let n := (M.length + 15) / 16
  let (n, flag) := if n = 0 then (1, false) else (n, M.length % 16 = 0)
  -- step 4
  let last := if flag then blockBE (block M (n - 1)) ^^^ K1
    else blockBE (padding (block M (n - 1))) ^^^ K2
  -- steps 5 and 6: the chain over the blocks but the last, then the last
  let X := (List.range (n - 1)).foldl (fun X i => E K (X ^^^ blockBE (block M i))) 0
  E K (last ^^^ X)

end Bluedroid.Theory.Cmac
