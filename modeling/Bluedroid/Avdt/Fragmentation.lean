import Bluedroid.Avdt.Msg
import Bluedroid.Theory.Chunks

/-!
# Avdt.Fragmentation -- a signalling message survives fragmentation and reassembly

From the pass lemmas of `Avdt.Msg`: `avdt_msg_send` sends a message that fits
as one SINGLE packet, and otherwise as a START packet with the first `mtu - 3`
bytes and then the rest cut into `Theory.Chunks` of `mtu - 1` bytes, each
after a CONTINUE header octet but the last, which goes after an END one
(`avdtMsgSend_fragmented`).  Fed those packets in order, `avdt_msg_asmbl`
returns nothing until the last, and then the message as a SINGLE packet would
carry it but for the packet type in its header octet (`asmblRun_fragmented`).
Whatever it is fed, it writes only inside its buffers (`asmblRun_within`).

NOSP is computed by a formula, `(len + 3 - mtu) / (mtu - 1) + 2`, not by
counting the packets: it is one more than their number when the bytes after
the START packet are a multiple of `mtu - 1` (`nosp_eq`).
-/

namespace Bluedroid.Avdt

open Bluedroid.Theory (Chunks copyInto loop loop_succ)

set_option autoImplicit false

/-! ## Sending -/

theorem sendBody_last {peerMtu currMsgLen : ℕ} {curr : CurrMsg} {packet : List UInt8}
    (pass : sendPass peerMtu curr currMsgLen = (packet, none)) (sent : List (List UInt8)) :
    sendBody peerMtu (curr, currMsgLen, sent) = .inr (sent ++ [packet]) := by
  simp only [sendBody, pass]

theorem sendBody_next {peerMtu currMsgLen currMsgLen' : ℕ} {curr curr' : CurrMsg} {packet : List UInt8}
    (pass : sendPass peerMtu curr currMsgLen = (packet, some (curr', currMsgLen'))) (sent : List (List UInt8)) :
    sendBody peerMtu (curr, currMsgLen, sent) = .inl (curr', currMsgLen', sent ++ [packet]) := by
  simp only [sendBody, pass]

theorem length_payload {curr : CurrMsg} (inside : curr.offset + curr.len ≤ curr.data.length) :
    curr.payload.length = curr.len := by
  simp only [CurrMsg.payload, List.length_take, List.length_drop]
  omega

/-- **A started message runs out.**  Past its START packet, the loop sends
CONTINUE packets of `mtu - 1` bytes while more than that is left, and then an
END packet with the rest, within one pass per packet. -/
theorem sendLoop_started {peerMtu : ℕ} (mtu : avdtLenTypeCont < peerMtu) :
    ∀ (len : ℕ) (curr : CurrMsg) (sent : List (List UInt8)), curr.len = len →
      avdtMsgOffset < curr.offset → 0 < len → curr.offset + len ≤ curr.data.length →
      ∃ full last, Chunks (peerMtu - avdtLenTypeCont) curr.payload full last ∧
        ∀ fuel, len ≤ fuel → loop (sendBody peerMtu) fuel (curr, curr.len, sent) =
          some (sent ++ full.map (bldHdr curr.label avdtPktTypeCont curr.msg :: ·) ++
            [bldHdr curr.label avdtPktTypeEnd curr.msg :: last]) := by
  intro len
  -- strong induction on the bytes left: a CONTINUE packet takes `mtu - 1` of them
  induction len using Nat.strong_induction_on with
  | _ len ih =>
    intro curr sent lenEq started nonempty inside
    have length := length_payload (lenEq ▸ inside)
    by_cases long : peerMtu - avdtLenTypeCont < curr.len
    · -- a CONTINUE packet, and the rest of the message after it
      have pass := sendPass_cont started long
      obtain ⟨full, last, chunks, runs⟩ := ih (len - (peerMtu - avdtLenTypeCont)) (by omega)
        (curr.advance (peerMtu - avdtLenTypeCont)) _ (by rw [CurrMsg.len_advance, lenEq])
        (by rw [CurrMsg.offset_advance]; omega) (by omega)
        (by rw [CurrMsg.offset_advance, CurrMsg.data_advance]; omega)
      rw [payload_advance] at chunks
      rw [CurrMsg.len_advance] at runs
      refine ⟨_, last, chunks.take_cons (by omega), ?_⟩
      rintro (_ | fuel) enough
      · omega
      · rw [loop_succ, sendBody_next pass, Sum.elim_inl, runs fuel (by omega)]
        simp only [CurrMsg.label_advance, CurrMsg.msg_advance, List.map_cons, List.append_assoc,
          List.cons_append, List.nil_append]
    · -- the END packet with the rest
      have pass := sendPass_end started (Nat.not_lt.mp long)
      refine ⟨[], curr.payload, Chunks.last_only (by omega) (by omega), ?_⟩
      rintro (_ | fuel) enough
      · omega
      · rw [loop_succ, sendBody_last pass, Sum.elim_inr, List.map_nil, List.append_nil]

/-- A message that fits in one packet goes as a SINGLE packet. -/
theorem avdtMsgSend_single {peerMtu : ℕ} {pMsg : CurrMsg} (atStart : pMsg.offset = avdtMsgOffset)
    (fits : pMsg.len ≤ peerMtu - avdtLenTypeSingle) :
    avdtMsgSend peerMtu pMsg = some [[bldHdr pMsg.label avdtPktTypeSingle pMsg.msg, pMsg.sig] ++ pMsg.payload] := by
  rw [avdtMsgSend, loop_succ, sendBody_last (sendPass_single atStart fits), Sum.elim_inr, List.nil_append]

/-- **How a message is fragmented.**  A message that does not fit goes as a
START packet with NOSP, the signal id and the first `mtu - 3` bytes, then the
rest in pieces of `mtu - 1` bytes after CONTINUE header octets, the last one
after an END header octet. -/
theorem avdtMsgSend_fragmented {peerMtu : ℕ} (mtu : avdtLenTypeStart < peerMtu) {pMsg : CurrMsg}
    (atStart : pMsg.offset = avdtMsgOffset) (long : peerMtu - avdtLenTypeSingle < pMsg.len)
    (inside : pMsg.offset + pMsg.len ≤ pMsg.data.length) :
    ∃ full last, Chunks (peerMtu - avdtLenTypeCont) (pMsg.payload.drop (peerMtu - avdtLenTypeStart)) full last ∧
      avdtMsgSend peerMtu pMsg = some
        (([bldHdr pMsg.label avdtPktTypeStart pMsg.msg, nosp peerMtu pMsg.len, pMsg.sig] ++
            pMsg.payload.take (peerMtu - avdtLenTypeStart)) ::
          (full.map (bldHdr pMsg.label avdtPktTypeCont pMsg.msg :: ·) ++
            [bldHdr pMsg.label avdtPktTypeEnd pMsg.msg :: last])) := by
  simp only [avdtLenTypeStart, avdtLenTypeSingle] at mtu long
  have mtuCont : avdtLenTypeCont < peerMtu := by
    simp only [avdtLenTypeCont]
    omega
  obtain ⟨full, last, chunks, runs⟩ := sendLoop_started mtuCont
    (pMsg.len - (peerMtu - avdtLenTypeStart)) (pMsg.advance (peerMtu - avdtLenTypeStart)) _
    (CurrMsg.len_advance _ _) (by rw [CurrMsg.offset_advance, atStart]; simp only [avdtLenTypeStart]; omega)
    (by simp only [avdtLenTypeStart]; omega)
    (by rw [CurrMsg.offset_advance, CurrMsg.data_advance]; simp only [avdtLenTypeStart]; omega)
  rw [payload_advance] at chunks
  rw [CurrMsg.len_advance] at runs
  refine ⟨full, last, chunks, ?_⟩
  rw [avdtMsgSend, loop_succ, sendBody_next (sendPass_start atStart (by simp only [avdtLenTypeSingle]; omega)),
    Sum.elim_inl, runs pMsg.len (by omega)]
  simp only [CurrMsg.label_advance, CurrMsg.msg_advance, List.nil_append, List.cons_append]

/-- NOSP is the number of packets, and one more when the bytes after the START
packet are a multiple of `mtu - 1`. -/
theorem nosp_eq {peerMtu : ℕ} (mtu : avdtLenTypeStart < peerMtu) {pMsg : CurrMsg}
    (long : peerMtu - avdtLenTypeSingle < pMsg.len) (inside : pMsg.offset + pMsg.len ≤ pMsg.data.length)
    {full : List (List UInt8)} {last : List UInt8}
    (chunks : Chunks (peerMtu - avdtLenTypeCont) (pMsg.payload.drop (peerMtu - avdtLenTypeStart)) full last) :
    nosp peerMtu pMsg.len = UInt8.ofNat (full.length + 2 +
      if peerMtu - 1 ∣ pMsg.len + avdtLenTypeStart - peerMtu then 1 else 0) := by
  have rest : (pMsg.payload.drop (peerMtu - avdtLenTypeStart)).length = pMsg.len + avdtLenTypeStart - peerMtu := by
    rw [List.length_drop, length_payload inside]
    simp only [avdtLenTypeStart, avdtLenTypeSingle] at mtu long ⊢
    omega
  have pos : 0 < pMsg.len + avdtLenTypeStart - peerMtu := by
    simp only [avdtLenTypeStart, avdtLenTypeSingle] at mtu long ⊢
    omega
  -- the formula divides all the bytes after START, the count all but one of them
  have counted : (pMsg.len + avdtLenTypeStart - peerMtu) / (peerMtu - 1) =
      full.length + if peerMtu - 1 ∣ pMsg.len + avdtLenTypeStart - peerMtu then 1 else 0 := by
    rw [chunks.length_full, rest, show avdtLenTypeCont = 1 from rfl,
      ← Nat.sub_add_cancel (Nat.succ_le_of_lt pos), Nat.succ_div, Nat.add_sub_cancel]
  rw [nosp, counted, Nat.add_right_comm]

/-! ## Reassembling -/

/-- **The packets after START are put back.**  From a reassembly that holds
`xs`, CONTINUE packets and an END packet add their pieces, and the END packet
returns the whole; nothing is returned before it. -/
theorem asmblRun_conts {hCont hEnd : UInt8} (isCont : prsPktType hCont = avdtPktTypeCont)
    (isEnd : prsPktType hEnd = avdtPktTypeEnd) (last : List UInt8) :
    ∀ (conts : List (List UInt8)) (pBufs : List BtHdr) (rx : RxMsg) (xs : List UInt8), rx.Holds xs →
      rx.offset + (conts.flatten ++ last).length ≤ rxBufLen →
      List.Forall₂ (fun pBuf packet => pBuf.Wf ∧ pBuf.bytes = packet) pBufs
        (conts.map (hCont :: ·) ++ [hEnd :: last]) →
      ∃ ret, asmblRun (some rx) pBufs = some (List.replicate conts.length none ++ [some ret]) ∧
        ret.bytes = xs ++ conts.flatten ++ last := by
  intro conts
  induction conts with
  | nil =>
    intro pBufs rx xs holds fits bufs
    obtain ⟨pBuf, rest, ⟨wf, bytes⟩, none, rfl⟩ := List.forall₂_cons_right_iff.mp bufs
    rw [List.forall₂_nil_right_iff.mp none]
    obtain ⟨ret, step, -, retBytes⟩ :=
      avdtMsgAsmbl_end holds wf bytes isEnd (by simpa using fits)
    refine ⟨ret, ?_, by rw [retBytes, List.flatten_nil, List.append_nil]⟩
    rw [asmblRun_cons step]
    rfl
  | cons piece conts ih =>
    intro pBufs rx xs holds fits bufs
    obtain ⟨pBuf, rest, ⟨wf, bytes⟩, bufs', rfl⟩ := List.forall₂_cons_right_iff.mp bufs
    obtain ⟨rx', step, holds', offset'⟩ :=
      avdtMsgAsmbl_cont holds wf bytes isCont (by simp only [List.flatten_cons, List.length_append] at fits; omega)
    obtain ⟨ret, run, retBytes⟩ := ih rest rx' (xs ++ piece) holds'
      (by simp only [List.flatten_cons, List.length_append] at fits ⊢; omega) bufs'
    refine ⟨ret, ?_, by rw [retBytes, List.flatten_cons]; simp only [List.append_assoc]⟩
    rw [asmblRun_cons step, run, Option.map_some, List.length_cons, List.replicate_succ, List.cons_append]

/-- **A fragmented message is put back.**  Its START packet, at an offset that
leaves room for the whole message in the reassembly buffer, then its
CONTINUE and END packets, give back header octet, signal id and payload. -/
theorem asmblRun_fragmented {hStart hCont hEnd n s : UInt8} (isStart : prsPktType hStart = avdtPktTypeStart)
    (isCont : prsPktType hCont = avdtPktTypeCont) (isEnd : prsPktType hEnd = avdtPktTypeEnd)
    {first last : List UInt8} {full : List (List UInt8)} {pBufs : List BtHdr} (pRxMsg : Option RxMsg)
    (bufs : List.Forall₂ (fun pBuf packet => pBuf.Wf ∧ pBuf.bytes = packet) pBufs
      (([hStart, n, s] ++ first) :: (full.map (hCont :: ·) ++ [hEnd :: last])))
    (fits : ∀ pBuf ∈ pBufs.head?, pBuf.offset + avdtLenTypeStart + (first ++ full.flatten ++ last).length ≤ rxBufLen) :
    ∃ ret, asmblRun pRxMsg pBufs = some (List.replicate (full.length + 1) none ++ [some ret]) ∧
      ret.bytes = hStart :: s :: (first ++ full.flatten ++ last) := by
  obtain ⟨pBuf, rest, ⟨wf, bytes⟩, bufs', rfl⟩ := List.forall₂_cons_right_iff.mp bufs
  have room := fits pBuf rfl
  simp only [List.cons_append, List.nil_append] at bytes
  obtain ⟨-, length⟩ := BtHdr.bytes_cons wf bytes
  simp only [List.length_cons, List.length_append] at length room
  obtain ⟨rx, step, holds, offset⟩ := avdtMsgAsmbl_start wf bytes isStart
    (by simp only [avdtLenTypeStart] at room; omega) pRxMsg
  obtain ⟨ret, run, retBytes⟩ := asmblRun_conts isCont isEnd last full rest rx _ holds
    (by rw [offset]; simp only [List.length_append, avdtLenTypeStart] at room ⊢; omega) bufs'
  refine ⟨ret, ?_, by rw [retBytes]; simp only [List.cons_append, List.append_assoc]⟩
  rw [asmblRun_cons step, run, Option.map_some, List.replicate_succ, List.cons_append]

/-! ## The round trip -/

/-- What the packets of a message are meant to do: SINGLE, or START,
CONTINUE, ..., END; at most `mtu` bytes each; NOSP in the START packet; and,
fed in order to `avdt_msg_asmbl`, the message back after the last one, in its
SINGLE form but for the packet-type bits of the header octet.  NOSP is
written here as the code computes it: the number of packets, and one more
when the bytes after the START packet are a multiple of `mtu - 1`. -/
structure Delivers (peerMtu : ℕ) (pMsg : CurrMsg) (packets : List (List UInt8)) : Prop where
  pktTypes : packets.map (·.head?.map prsPktType) = [some avdtPktTypeSingle] ∨
    packets.map (·.head?.map prsPktType) =
      some avdtPktTypeStart :: (List.replicate (packets.length - 2) (some avdtPktTypeCont) ++ [some avdtPktTypeEnd])
  length_le : ∀ packet ∈ packets, packet.length ≤ peerMtu
  nosp : 1 < packets.length → packets.head?.bind (·[1]?) =
    some (UInt8.ofNat (packets.length + if peerMtu - 1 ∣ pMsg.len + avdtLenTypeStart - peerMtu then 1 else 0))
  reassembles : ∀ (pBufs : List BtHdr) (pRxMsg : Option RxMsg),
    List.Forall₂ (fun pBuf packet => pBuf.Wf ∧ pBuf.bytes = packet) pBufs packets →
    (∀ pBuf ∈ pBufs.head?, pBuf.offset + avdtLenTypeStart + pMsg.len ≤ rxBufLen) →
    ∃ ret, asmblRun pRxMsg pBufs = some (List.replicate (packets.length - 1) none ++ [some ret]) ∧
      ret.bytes.head?.map (· &&& 0xF3) = some (bldHdr pMsg.label avdtPktTypeSingle pMsg.msg) ∧
      ret.bytes.tail = pMsg.sig :: pMsg.payload

theorem delivers_single {peerMtu : ℕ} (mtu : avdtLenTypeStart < peerMtu) {pMsg : CurrMsg} (inside : pMsg.offset + pMsg.len ≤ pMsg.data.length)
    (fits : pMsg.len ≤ peerMtu - avdtLenTypeSingle) :
    Delivers peerMtu pMsg [[bldHdr pMsg.label avdtPktTypeSingle pMsg.msg, pMsg.sig] ++ pMsg.payload] where
  pktTypes := by
    left
    rw [List.map_singleton, List.cons_append, List.head?_cons, Option.map_some, prsPktType_bldHdr_single]
  length_le := by
    intro packet mem
    rw [List.mem_singleton.mp mem, List.length_append, length_payload inside]
    simp only [avdtLenTypeSingle] at fits
    simp only [avdtLenTypeStart] at mtu
    simp only [List.length_cons, List.length_nil]
    omega
  nosp := by
    intro many
    simp only [List.length_singleton, Nat.lt_irrefl] at many
  reassembles := by
    intro pBufs pRxMsg bufs _
    obtain ⟨pBuf, rest, ⟨wf, bytes⟩, none, rfl⟩ := List.forall₂_cons_right_iff.mp bufs
    rw [List.forall₂_nil_right_iff.mp none]
    rw [List.cons_append, List.cons_append, List.nil_append] at bytes
    refine ⟨pBuf, ?_, ?_, ?_⟩
    · rw [asmblRun_cons (avdtMsgAsmbl_single wf bytes (prsPktType_bldHdr_single pMsg.label pMsg.msg) pRxMsg)]
      rfl
    · rw [bytes, List.head?_cons, Option.map_some]
      exact congrArg some (bldHdr_and_not_pktType pMsg.label 0 pMsg.msg)
    · rw [bytes, List.tail_cons]

theorem delivers_fragmented {peerMtu : ℕ} (mtu : avdtLenTypeStart < peerMtu) {pMsg : CurrMsg}
    (inside : pMsg.offset + pMsg.len ≤ pMsg.data.length) (long : peerMtu - avdtLenTypeSingle < pMsg.len)
    {full : List (List UInt8)} {last : List UInt8}
    (chunks : Chunks (peerMtu - avdtLenTypeCont) (pMsg.payload.drop (peerMtu - avdtLenTypeStart)) full last) :
    Delivers peerMtu pMsg
      (([bldHdr pMsg.label avdtPktTypeStart pMsg.msg, nosp peerMtu pMsg.len, pMsg.sig] ++
          pMsg.payload.take (peerMtu - avdtLenTypeStart)) ::
        (full.map (bldHdr pMsg.label avdtPktTypeCont pMsg.msg :: ·) ++
          [bldHdr pMsg.label avdtPktTypeEnd pMsg.msg :: last])) where
  pktTypes := by
    right
    simp only [List.map_cons, List.map_append, List.map_map, Function.comp_def, List.cons_append,
      List.head?_cons, Option.map_some, List.map_const', List.map_nil, List.length_cons, List.length_append,
      List.length_map, List.length_nil, prsPktType_bldHdr_start, prsPktType_bldHdr_cont, prsPktType_bldHdr_end,
      Nat.zero_add, Nat.add_assoc, Nat.add_sub_cancel]
  length_le := by
    simp only [avdtLenTypeStart, avdtLenTypeCont] at mtu chunks ⊢
    rintro packet (_ | ⟨_, mem⟩)
    · simp only [List.length_append, List.length_cons, List.length_nil, List.length_take]
      omega
    · rcases List.mem_append.mp mem with inFull | isLast
      · obtain ⟨chunk, inChunks, rfl⟩ := List.mem_map.mp inFull
        rw [List.length_cons, chunks.full_length chunk inChunks]
        omega
      · rw [List.mem_singleton.mp isLast, List.length_cons]
        have := chunks.last_le
        omega
  nosp := by
    intro _
    rw [nosp_eq mtu long inside chunks]
    simp only [List.head?_cons, Option.bind_some, List.length_cons, List.length_append, List.length_map]
    rfl
  reassembles := by
    intro pBufs pRxMsg bufs fits
    have payload : pMsg.payload.take (peerMtu - avdtLenTypeStart) ++ full.flatten ++ last = pMsg.payload := by
      rw [List.append_assoc, ← chunks.spells, List.take_append_drop]
    obtain ⟨ret, run, retBytes⟩ := asmblRun_fragmented (prsPktType_bldHdr_start pMsg.label pMsg.msg)
      (prsPktType_bldHdr_cont pMsg.label pMsg.msg) (prsPktType_bldHdr_end pMsg.label pMsg.msg) pRxMsg bufs
      (by rw [payload, length_payload inside]; exact fits)
    refine ⟨ret, ?_, ?_, ?_⟩
    · rw [run, List.length_cons, List.length_append, List.length_map, List.length_singleton, Nat.add_sub_cancel]
    · rw [retBytes, List.head?_cons, Option.map_some]
      exact congrArg some (bldHdr_and_not_pktType pMsg.label 1 pMsg.msg)
    · rw [retBytes, List.tail_cons, payload]

/-- **Fragmentation round-trips.**  For every `mtu` above the START header and
every message queued at `AVDT_MSG_OFFSET`, `avdt_msg_send` sends packets that
deliver it, with NOSP as the code computes it. -/
theorem avdtMsgSend_delivers {peerMtu : ℕ} (mtu : avdtLenTypeStart < peerMtu) {pMsg : CurrMsg}
    (atStart : pMsg.offset = avdtMsgOffset) (inside : pMsg.offset + pMsg.len ≤ pMsg.data.length) :
    ∃ packets, avdtMsgSend peerMtu pMsg = some packets ∧ Delivers peerMtu pMsg packets := by
  by_cases fits : pMsg.len ≤ peerMtu - avdtLenTypeSingle
  · exact ⟨_, avdtMsgSend_single atStart fits, delivers_single mtu inside fits⟩
  · obtain ⟨full, last, chunks, sent⟩ := avdtMsgSend_fragmented mtu atStart (Nat.lt_of_not_le fits) inside
    exact ⟨_, sent, delivers_fragmented mtu inside (Nat.lt_of_not_le fits) chunks⟩

/-- NOSP counts one packet too many: a 92-byte message at an `mtu` of 48 goes
as a START packet with 45 bytes and an END packet with the other 47, and the
START packet says there are 3. -/
theorem nosp_counts_extra_packet :
    ∃ packets, avdtMsgSend 48 ⟨List.replicate 120 0, avdtMsgOffset, 92, 0, 0, 0⟩ = some packets ∧
      packets.length = 2 ∧ packets.head?.bind (·[1]?) = some 3 :=
  ⟨_, rfl, rfl, rfl⟩

/-! ## Writes stay inside the buffers -/

/-- No reassembly, or one in a buffer of `BT_DEFAULT_BUFFER_SIZE` bytes with
its offset inside. -/
def RxInv : Option RxMsg → Prop
  | none => True
  | some rx => rx.data.length = rxBufLen ∧ rx.offset ≤ rxBufLen

/-- A CONTINUE or END piece that passes the size check fits in the reassembly buffer. -/
theorem exists_copyPiece {rx : RxMsg} (lengthData : rx.data.length = rxBufLen) {pBuf : BtHdr}
    (fits : ¬rx.offset + (pBuf.len - avdtLenTypeCont) > rxBufLen) :
    ∃ data, copyInto rx.data rx.offset ((pBuf.data.drop (pBuf.offset + avdtLenTypeCont)).take
      (pBuf.len - avdtLenTypeCont)) = some data ∧ data.length = rxBufLen := by
  have room : rx.offset + ((pBuf.data.drop (pBuf.offset + avdtLenTypeCont)).take
      (pBuf.len - avdtLenTypeCont)).length ≤ rx.data.length := by
    rw [lengthData, List.length_take]
    omega
  obtain ⟨data, copied, length⟩ := Theory.exists_copyInto room
  exact ⟨data, copied, length.trans lengthData⟩

/-- One call writes only inside its buffers, and leaves the reassembly as it
found it: none, or a buffer with its offset inside. -/
theorem avdtMsgAsmbl_within {pRxMsg : Option RxMsg} (inv : RxInv pRxMsg) {pBuf : BtHdr} (wf : pBuf.Wf) :
    ∃ pRxMsg' ret, avdtMsgAsmbl pRxMsg pBuf = some (pRxMsg', ret) ∧ RxInv pRxMsg' := by
  unfold BtHdr.Wf at wf
  unfold avdtMsgAsmbl
  dsimp only
  split_ifs with empty short single start tooBig isEnd
  · exact ⟨_, _, rfl, inv⟩
  · exact ⟨_, _, rfl, inv⟩
  · exact ⟨_, _, rfl, trivial⟩
  · exact ⟨_, _, rfl, trivial⟩
  · -- START: the packet's buffer fits, and so does the octet over NOSP
    rw [start, avdtMsgPktTypeLen_start] at short
    simp only [btHdrSize, btDefaultBufferSize] at tooBig
    have fits₁ : 0 + (pBuf.data.take (pBuf.offset + pBuf.len)).length ≤ (List.replicate rxBufLen (0 : UInt8)).length := by
      simp only [List.length_take, List.length_replicate, rxBufLen, btDefaultBufferSize, btHdrSize]
      omega
    obtain ⟨data₁, copied₁, length₁⟩ := Theory.exists_copyInto fits₁
    have fits₂ : pBuf.offset + 1 + [data₁.getD pBuf.offset 0].length ≤ data₁.length := by
      rw [length₁, List.length_replicate, List.length_singleton]
      simp only [rxBufLen, btDefaultBufferSize, btHdrSize]
      omega
    obtain ⟨data₂, copied₂, length₂⟩ := Theory.exists_copyInto fits₂
    refine ⟨some ⟨data₂, pBuf.offset + pBuf.len, pBuf.len - 1⟩, none, ?_, ?_⟩
    · simp only [copied₁, copied₂, Option.bind_eq_bind, Option.bind_some, Option.pure_def]
    · exact ⟨by rw [length₂, length₁, List.length_replicate],
        by simp only [rxBufLen, btDefaultBufferSize, btHdrSize]; omega⟩
  · -- END: the piece fits after what is held, or everything is dropped
    split
    case h_1 => exact ⟨_, _, rfl, trivial⟩
    case h_2 rx =>
      split_ifs with overflow
      · exact ⟨_, _, rfl, trivial⟩
      · obtain ⟨data, copied, -⟩ := exists_copyPiece inv.1 overflow
        simp only [copied, Option.bind_eq_bind, Option.bind_some, Option.pure_def]
        exact ⟨_, _, rfl, trivial⟩
  · -- CONTINUE: the same, and the offset moves on past the piece
    split
    case h_1 => exact ⟨_, _, rfl, trivial⟩
    case h_2 rx =>
      split_ifs with overflow
      · exact ⟨_, _, rfl, trivial⟩
      · obtain ⟨data, copied, length⟩ := exists_copyPiece inv.1 overflow
        simp only [copied, Option.bind_eq_bind, Option.bind_some, Option.pure_def]
        exact ⟨_, _, rfl, length, by dsimp only; omega⟩

/-- **Whatever the packets, `avdt_msg_asmbl` writes only inside its buffers.** -/
theorem asmblRun_within :
    ∀ (pBufs : List BtHdr) (pRxMsg : Option RxMsg), RxInv pRxMsg → (∀ pBuf ∈ pBufs, pBuf.Wf) →
      ∃ rets, asmblRun pRxMsg pBufs = some rets ∧ rets.length = pBufs.length
  | [], _, _, _ => ⟨[], rfl, rfl⟩
  | pBuf :: pBufs, pRxMsg, inv, wf => by
    obtain ⟨pRxMsg', ret, step, inv'⟩ := avdtMsgAsmbl_within inv (wf pBuf List.mem_cons_self)
    obtain ⟨rets, run, length⟩ :=
      asmblRun_within pBufs pRxMsg' inv' (fun b mem => wf b (List.mem_cons_of_mem pBuf mem))
    exact ⟨ret :: rets, by rw [asmblRun_cons step, run, Option.map_some], by rw [List.length_cons, length,
      List.length_cons]⟩

end Bluedroid.Avdt
