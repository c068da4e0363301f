import Mathlib
import Bluedroid.Theory.Transition
import Bluedroid.Avdt.Ccb

/-!
# Avdt.Transport -- what one end sends, the other puts back together

The two ends of a signalling channel: the sending side of `Avdt.Ccb`, which
writes the packets of its messages on the wire whatever congestion L2CAP
reports, and the peer's `avdt_msg_asmbl`, which puts packets back together
into messages.  The reassembly is a run of a step that writes an output, one
per packet (`asmblRun_eq_runOut`, over `Theory.Transition.runOut`); a message
sent whole puts itself back together from whatever state the peer is in, since
its first packet drops any reassembly in progress.  So the whole wire is
reassembled message by message (`Theory.Transition.runOut_flatten`):

* `txRun_reassembled`: over any run of an open channel, the packets on the
  wire, up to the message still being sent, are whole messages; fed them in
  order, from any reassembly state, the peer hands on nothing until the last
  packet of each, and then that message, with its header, signal and payload:
  no message is lost, duplicated, reordered or mixed with another.
-/

namespace Bluedroid.Avdt

open Bluedroid.Theory (runOut runOut_flatten)

set_option autoImplicit false

/-- The buffer `ret` the peer hands on holds the message `m`: its first octet,
the packet type aside, is the header of `m` as a single packet, and the signal
and the payload of `m` follow. -/
def Reassembled (m : CurrMsg) (ret : BtHdr) : Prop :=
  ret.bytes.head?.map (· &&& 0xF3) = some (bldHdr m.label avdtPktTypeSingle m.msg) ∧
    ret.bytes.tail = m.sig :: m.payload

/-! ## Reassembly as a run -/

/-- `avdt_msg_asmbl` on each packet in turn is a run of it that writes what
each call returns. -/
theorem asmblRun_eq_runOut : ∀ (pBufs : List BtHdr) (pRxMsg : Option RxMsg),
    asmblRun pRxMsg pBufs = (runOut avdtMsgAsmbl pRxMsg pBufs).map Prod.snd
  | [], _ => rfl
  | pBuf :: pBufs, pRxMsg => by
    simp only [asmblRun, runOut]
    cases avdtMsgAsmbl pRxMsg pBuf with
    | none => rfl
    | some stepped =>
      obtain ⟨pRxMsg', ret⟩ := stepped
      simp only [Option.bind_some, asmblRun_eq_runOut pBufs pRxMsg', Option.map_map]
      rfl

/-- A message sent whole puts itself back together from any reassembly state:
nothing is handed on until its last packet, and then the message. -/
theorem runOut_of_delivers {peerMtu : ℕ} {m : CurrMsg} {frame : List (List UInt8)}
    (delivers : Delivers peerMtu m frame) {seg : List BtHdr}
    (bufs : List.Forall₂ (fun pBuf packet => pBuf.Wf ∧ pBuf.bytes = packet) seg frame)
    (room : ∀ pBuf ∈ seg.head?, pBuf.offset + avdtLenTypeStart + m.len ≤ rxBufLen) (pRxMsg : Option RxMsg) :
    ∃ t out, runOut avdtMsgAsmbl pRxMsg seg = some (t, out) ∧
      ∃ ret, out = List.replicate (out.length - 1) none ++ [some ret] ∧ Reassembled m ret := by
  obtain ⟨ret, ran, header, body⟩ := delivers.reassembles seg pRxMsg bufs room
  rw [asmblRun_eq_runOut] at ran
  obtain ⟨⟨t, out⟩, ranOut, rfl⟩ := Option.map_eq_some_iff.mp ran
  refine ⟨t, _, ranOut, ret, ?_, header, body⟩
  simp only [List.length_append, List.length_replicate, List.length_singleton, Nat.add_sub_cancel]

/-! ## Lists of lists -/

section Lists

variable {α β γ : Type}

/-- A witness for each member of a list, in order. -/
theorem exists_forall₂_of_forall_mem {R : α → β → Prop} :
    ∀ {l : List β}, (∀ b ∈ l, ∃ a, R a b) → ∃ as, List.Forall₂ R as l
  | [], _ => ⟨[], .nil⟩
  | b :: l, each => by
    obtain ⟨a, related⟩ := each b List.mem_cons_self
    obtain ⟨as, rest⟩ := exists_forall₂_of_forall_mem (fun b' mem => each b' (List.mem_cons_of_mem b mem))
    exact ⟨a :: as, .cons related rest⟩

/-- A list related to the pieces of another, put together, is made of pieces
related to them one by one. -/
theorem forall₂_flatten_right {R : α → β → Prop} :
    ∀ {l : List α} {pieces : List (List β)}, List.Forall₂ R l pieces.flatten →
      ∃ ls : List (List α), l = ls.flatten ∧ List.Forall₂ (List.Forall₂ R) ls pieces
  | l, [], rel => ⟨[], by simpa using rel, .nil⟩
  | l, piece :: pieces, rel => by
    rw [List.flatten_cons] at rel
    -- the first piece's length of `l`, then the rest
    have first := List.forall₂_take_append l piece pieces.flatten rel
    obtain ⟨ls, rest, rels⟩ := forall₂_flatten_right (List.forall₂_drop_append l piece pieces.flatten rel)
    refine ⟨l.take piece.length :: ls, ?_, .cons first rels⟩
    rw [List.flatten_cons, ← rest, List.take_append_drop]

/-- Two lists related to one same list are related through it. -/
theorem forall₂_through {P : α → β → Prop} {Q : γ → β → Prop} :
    ∀ {as : List α} {bs : List β} {cs : List γ}, List.Forall₂ P as bs → List.Forall₂ Q cs bs →
      List.Forall₂ (fun a c => ∃ b, P a b ∧ Q c b) as cs
  | [], [], [], .nil, .nil => .nil
  | _ :: _, _ :: _, _ :: _, .cons first rest, .cons first' rest' =>
    .cons ⟨_, first, first'⟩ (forall₂_through rest rest')

/-- Related lists are related with each pair's members in them. -/
theorem forall₂_with_mem {R : α → β → Prop} :
    ∀ {l : List α} {m : List β}, List.Forall₂ R l m → List.Forall₂ (fun a b => a ∈ l ∧ b ∈ m ∧ R a b) l m
  | [], [], .nil => .nil
  | a :: _, b :: _, .cons head rest =>
    .cons ⟨List.mem_cons_self, List.mem_cons_self, head⟩
      ((forall₂_with_mem rest).imp fun _ _ ⟨inL, inM, related⟩ =>
        ⟨List.mem_cons_of_mem a inL, List.mem_cons_of_mem b inM, related⟩)

end Lists

/-! ## The two ends -/

/-- **What one end sends, the other puts back together.**  Take any run of an
open channel that starts sending nothing, with its messages as the queueing
functions leave them.  The wire is whole messages, each cut by
`avdt_msg_send`, then the first packets of the message still being sent.  Fed
the packets of the whole messages in order, in buffers with room for each
message, the peer's `avdt_msg_asmbl`, from whatever reassembly state, hands on
nothing until the last packet of each message, and then that message: none is
lost, duplicated, reordered or mixed with another. -/
theorem txRun_reassembled {peerMtu : ℕ} (mtu : avdtLenTypeStart < peerMtu) {allocated : ℕ → ℕ → Bool}
    {s : CcbTx} (idle : s.pCurrMsg = none) (queued : ∀ m ∈ s.cmdQ ++ s.rspQ, m.Fresh)
    (inFlight : ∀ m ∈ s.ccb.pCurrCmd, m.Fresh) {evs : List (TxEvent × ℕ)} (wf : ∀ ev ∈ evs, ev.1.Wf)
    {s' : CcbTx} {actions : List IndAction} {wire : List (List UInt8)}
    (ran : txRun allocated peerMtu s evs = some (s', actions, wire)) :
    ∃ (msgs : List CurrMsg) (frames : List (List (List UInt8))) (part : List (List UInt8)),
      wire = frames.flatten ++ part ∧
      List.Forall₂ (fun m frame => m.Fresh ∧ avdtMsgSend peerMtu m = some frame) msgs frames ∧
      ∀ pBufs, List.Forall₂ (fun pBuf packet => pBuf.Wf ∧ pBuf.bytes = packet) pBufs frames.flatten →
        (∀ pBuf ∈ pBufs, ∀ m ∈ msgs, pBuf.offset + avdtLenTypeStart + m.len ≤ rxBufLen) →
        ∀ pRxMsg, ∃ outs, asmblRun pRxMsg pBufs = some outs.flatten ∧
          List.Forall₂ (fun m out => ∃ ret, out = List.replicate (out.length - 1) none ++ [some ret] ∧
            Reassembled m ret) msgs outs := by
  obtain ⟨frames, part, onWire, framed, -⟩ := (txRun_inv mtu evs (TxInv.idle idle queued inFlight) wf ran).wire
  obtain ⟨msgs, sent⟩ := exists_forall₂_of_forall_mem framed
  refine ⟨msgs, frames, part, onWire, sent, fun pBufs bufs room pRxMsg => ?_⟩
  -- the buffers, cut message by message
  obtain ⟨segs, rfl, segBufs⟩ := forall₂_flatten_right bufs
  have each : List.Forall₂ (fun m seg => ∀ p, ∃ t out, runOut avdtMsgAsmbl p seg = some (t, out) ∧
      ∃ ret, out = List.replicate (out.length - 1) none ++ [some ret] ∧ Reassembled m ret) msgs segs := by
    refine (forall₂_with_mem (forall₂_through sent segBufs)).imp
      fun m seg ⟨mem_msgs, mem_segs, frame, ⟨fresh, sentFrame⟩, segFrame⟩ p => ?_
    refine runOut_of_delivers (delivers_of_fresh mtu fresh sentFrame) segFrame (fun pBuf first => ?_) p
    exact room pBuf (List.mem_flatten.mpr ⟨seg, mem_segs, List.mem_of_mem_head? first⟩) m mem_msgs
  obtain ⟨t, outs, whole, reassembled⟩ := runOut_flatten each pRxMsg
  exact ⟨outs, by rw [asmblRun_eq_runOut, whole, Option.map_some], reassembled⟩

set_option maxRecDepth 4000 in
theorem txRun_reassembled_congested :
    ∃ s' actions wire, txRun (fun _ _ => true) 48 openIdle congestedTrace = some (s', actions, wire) ∧
      wire.map List.length = [48, 48, 10, 6, 2] ∧
      ∃ (msgs : List CurrMsg) (frames : List (List (List UInt8))) (part : List (List UInt8)),
        wire = frames.flatten ++ part ∧
        List.Forall₂ (fun m frame => m.Fresh ∧ avdtMsgSend 48 m = some frame) msgs frames ∧
        ∀ pBufs, List.Forall₂ (fun pBuf packet => pBuf.Wf ∧ pBuf.bytes = packet) pBufs frames.flatten →
          (∀ pBuf ∈ pBufs, ∀ m ∈ msgs, pBuf.offset + avdtLenTypeStart + m.len ≤ rxBufLen) →
          ∀ pRxMsg, ∃ outs, asmblRun pRxMsg pBufs = some outs.flatten ∧
            List.Forall₂ (fun m out => ∃ ret, out = List.replicate (out.length - 1) none ++ [some ret] ∧
              Reassembled m ret) msgs outs :=
  ⟨_, _, _, rfl, rfl, @txRun_reassembled 48 (by decide) (fun _ _ => true) openIdle rfl
    (fun m mem => absurd mem List.not_mem_nil) (fun m none => absurd none (Option.not_mem_none m))
    congestedTrace congestedTrace_wf _ _ _ rfl⟩

end Bluedroid.Avdt
