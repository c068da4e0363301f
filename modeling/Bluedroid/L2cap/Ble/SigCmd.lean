import Mathlib.Data.List.Basic

/-!
# L2cap.Ble.SigCmd -- what `l2cble_process_sig_cmd` reads of a packet

`l2cble_process_sig_cmd (p_lcb, p, pkt_len)` parses one LE signalling command
at `p`: a four-byte header (code, identifier, `cmd_len`), checked against
`pkt_len`, then the command's fields.  This module models the memory it reads,
as offsets from `p`, in order (`l2cbleProcessSigCmdReads`).  Reading happens
only through `STREAM_TO_UINT8` / `STREAM_TO_UINT16`, and before every field it
compares the cursor with `p_pkt_end`, except in one branch.

Which fields are read after the length checks can depend on the link's
channels (a CCB found by identifier or CID, a registered PSM).  The model reads
what the code reads when every such lookup succeeds: the largest footprint,
which is the one a bound over every occupancy of the CCB pool is about.

Every branch but the Command Reject stays inside `[p, p + pkt_len)`
(`reads_lt_pktLen_of_ne_reject`).  The Command Reject branch reads its two-byte
reason with no check at all, so a four-byte packet holding only a Command
Reject header is read two bytes past its end
(`reject_reads_past_packet_iff`, `command_reject_reads_past_packet`).
-/

namespace Bluedroid.L2cap.Ble

set_option autoImplicit false

/-! ## Command codes -/

def l2capCmdReject : ℕ := 0x01
def l2capCmdDiscReq : ℕ := 0x06
def l2capCmdDiscRsp : ℕ := 0x07
def l2capCmdEchoReq : ℕ := 0x08
def l2capCmdEchoRsp : ℕ := 0x09
def l2capCmdInfoReq : ℕ := 0x0A
def l2capCmdInfoRsp : ℕ := 0x0B
def l2capCmdBleUpdateReq : ℕ := 0x12
def l2capCmdBleUpdateRsp : ℕ := 0x13
def l2capCmdBleCreditBasedConnReq : ℕ := 0x14
def l2capCmdBleCreditBasedConnRes : ℕ := 0x15
def l2capCmdBleFlowCtrlCredit : ℕ := 0x16
def l2capCmdCreditBasedConnReq : ℕ := 0x17
def l2capCmdCreditBasedConnRes : ℕ := 0x18
def l2capCmdCreditBasedReconfigReq : ℕ := 0x19
def l2capCmdCreditBasedReconfigRes : ℕ := 0x1A

def l2capCreditBasedMaxCids : ℕ := 5

/-! ## Reads -/

/-- `count` successive `STREAM_TO_UINT16`s from `offset`. -/
def uint16Reads (offset count : ℕ) : List ℕ :=
  (List.range (2 * count)).map (offset + ·)

theorem mem_uint16Reads {offset count o : ℕ} :
    o ∈ uint16Reads offset count ↔ offset ≤ o ∧ o < offset + 2 * count := by
  simp only [uint16Reads, List.mem_map, List.mem_range]
  constructor
  · rintro ⟨i, lt, rfl⟩
    omega
  · rintro ⟨le, lt⟩
    exact ⟨o - offset, by omega, by omega⟩

/-- `STREAM_TO_UINT16`: little-endian. -/
def uint16At (pkt : List UInt8) (offset : ℕ) : ℕ :=
  (pkt.getD offset 0).toNat + 256 * (pkt.getD (offset + 1) 0).toNat

/-- `(uint8_t)((p_pkt_end - p) / sizeof(uint16_t))` with `p` at `offset`. -/
def numOfChannels (pktLen offset : ℕ) : ℕ := (pktLen - offset) / 2 % 256

/-- The fields of the command with code `cmdCode`, after its header, when every
lookup of the link's channels succeeds.  `p` is at offset 4 and `p_pkt_end` at
`pktLen`; a length check `p + k > p_pkt_end` that fails ends the command. -/
def sigCommandReads (cmdCode pktLen : ℕ) : List ℕ :=
  if cmdCode = l2capCmdReject then
    -- `STREAM_TO_UINT16(reason, p)` with no check
    uint16Reads 4 1
  else if cmdCode = l2capCmdBleUpdateReq then
    if pktLen < 4 + 8 then [] else uint16Reads 4 4
  else if cmdCode = l2capCmdCreditBasedConnReq then
    if pktLen < 4 + 10 then []
    else
      -- the channel list is read once the count, the PSM and the parameters pass
      uint16Reads 4 4 ++
        if l2capCreditBasedMaxCids < numOfChannels pktLen 12 then []
        else uint16Reads 12 (numOfChannels pktLen 12)
  else if cmdCode = l2capCmdCreditBasedConnRes then
    if pktLen < 4 + 8 then [] else uint16Reads 4 4 ++ uint16Reads 12 (numOfChannels pktLen 12)
  else if cmdCode = l2capCmdCreditBasedReconfigReq then
    -- both loops over the channel list read the same fields
    if pktLen < 4 + 6 then []
    else uint16Reads 4 2 ++ uint16Reads 8 (numOfChannels pktLen 8) ++
      uint16Reads 8 (numOfChannels pktLen 8)
  else if cmdCode = l2capCmdCreditBasedReconfigRes then
    if pktLen < 4 + 2 then [] else uint16Reads 4 1
  else if cmdCode = l2capCmdBleCreditBasedConnReq ∨ cmdCode = l2capCmdBleCreditBasedConnRes then
    if pktLen < 4 + 10 then [] else uint16Reads 4 5
  else if cmdCode = l2capCmdBleFlowCtrlCredit ∨ cmdCode = l2capCmdDiscReq ∨
      cmdCode = l2capCmdDiscRsp then
    if pktLen < 4 + 4 then [] else uint16Reads 4 2
  -- Echo and Information requests and responses, the connection parameter
  -- update response and unknown codes read nothing more
  else []

/-- **`l2cble_process_sig_cmd`**: the offsets from `p` it reads, in order.
`pkt` holds the packet and whatever follows it in memory. -/
def l2cbleProcessSigCmdReads (pkt : List UInt8) (pktLen : ℕ) : List ℕ :=
  if pktLen < 4 then []
  else
    let header := [0, 1] ++ uint16Reads 2 1
    let cmdCode := (pkt.getD 0 0).toNat
    let cmdLen := uint16At pkt 2
    if pktLen < 4 + cmdLen then header else header ++ sigCommandReads cmdCode pktLen

/-! ## Bounds -/

theorem numOfChannels_le (pktLen offset : ℕ) :
    2 * numOfChannels pktLen offset ≤ pktLen - offset := by
  unfold numOfChannels
  have truncated := Nat.mod_le ((pktLen - offset) / 2) 256
  omega

/-- Every command but the Command Reject reads inside the packet. -/
theorem sigCommandReads_lt {cmdCode pktLen o : ℕ} (notReject : cmdCode ≠ l2capCmdReject)
    (read : o ∈ sigCommandReads cmdCode pktLen) : o < pktLen := by
  have channels12 := numOfChannels_le pktLen 12
  have channels8 := numOfChannels_le pktLen 8
  unfold sigCommandReads at read
  rw [if_neg notReject] at read
  -- each branch reads only after a length check that covers its fields
  split_ifs at read <;>
    simp only [List.mem_append, List.not_mem_nil, or_false, mem_uint16Reads] at read <;> omega

/-- **Outside the Command Reject, every read lies in `[p, p + pkt_len)`.** -/
theorem reads_lt_pktLen_of_ne_reject {pkt : List UInt8} {pktLen o : ℕ}
    (notReject : (pkt.getD 0 0).toNat ≠ l2capCmdReject)
    (read : o ∈ l2cbleProcessSigCmdReads pkt pktLen) : o < pktLen := by
  unfold l2cbleProcessSigCmdReads at read
  dsimp only at read
  split_ifs at read with short tooLong
  · simp at read
  · simp only [List.mem_append, List.mem_cons, List.not_mem_nil, or_false, mem_uint16Reads] at read
    omega
  · simp only [List.mem_append, List.mem_cons, List.not_mem_nil, or_false, mem_uint16Reads] at read
    rcases read with header | command
    · omega
    · exact sigCommandReads_lt notReject command

/-- A connection parameter update request of twelve bytes is read inside them. -/
theorem update_request_reads_inside :
    (([0x12, 0x01, 0x08, 0x00, 6, 0, 6, 0, 0, 0, 10, 0] : List UInt8).getD 0 0).toNat ≠
        l2capCmdReject ∧
      11 ∈ l2cbleProcessSigCmdReads [0x12, 0x01, 0x08, 0x00, 6, 0, 6, 0, 0, 0, 10, 0] 12 ∧
      11 < 12 :=
  ⟨by decide, by decide,
    @reads_lt_pktLen_of_ne_reject [0x12, 0x01, 0x08, 0x00, 6, 0, 6, 0, 0, 0, 10, 0] 12 11
      (by decide) (by decide)⟩

/-- **The Command Reject reads past the packet** exactly when its header passes
the length checks and the packet has fewer than six bytes. -/
theorem reject_reads_past_packet_iff {pkt : List UInt8} {pktLen : ℕ}
    (reject : (pkt.getD 0 0).toNat = l2capCmdReject) :
    (∃ o ∈ l2cbleProcessSigCmdReads pkt pktLen, pktLen ≤ o) ↔
      4 ≤ pktLen ∧ 4 + uint16At pkt 2 ≤ pktLen ∧ pktLen < 6 := by
  unfold l2cbleProcessSigCmdReads
  dsimp only
  split_ifs with short tooLong
  · simp only [List.not_mem_nil, false_and, exists_false, false_iff]
    omega
  · simp only [List.mem_append, List.mem_cons, List.not_mem_nil, or_false, mem_uint16Reads]
    constructor
    · rintro ⟨o, read, past⟩
      omega
    · intro fits
      omega
  · simp only [sigCommandReads, reject, if_true, List.mem_append, List.mem_cons,
      List.not_mem_nil, or_false, mem_uint16Reads]
    constructor
    · rintro ⟨o, read, past⟩
      omega
    · rintro ⟨-, -, small⟩
      exact ⟨5, by omega, by omega⟩

/-- A four-byte packet holding only a Command Reject header with `cmd_len` 0
has its reason read from offsets 4 and 5, past its end and past its
`cmd_len`. -/
theorem command_reject_reads_past_packet :
    l2cbleProcessSigCmdReads [0x01, 0x07, 0x00, 0x00] 4 = [0, 1, 2, 3, 4, 5] := by
  decide

end Bluedroid.L2cap.Ble
