import Bluedroid.L2cap.Fcr.Window

/-!
# L2cap.Fcr.Link -- two ERTM channels over a lossy link

Two channels `a` and `b`, each running `l2c_fcr.cc` (`channelStep`), are joined
by a FIFO link in each direction.  A link never reorders, duplicates or
invents frames: the link towards a party carries exactly what its peer sent,
in order, and takes the frames one at a time, either delivering one intact or
losing it (a frame that fails its FCS in `l2c_fcr_proc_pdu` is dropped there,
which is the same as a loss).  So the state of a link is how many of its
peer's `sent` frames it has taken.  The upper layer writes SDUs at `a`; the
ghost list `written` records them, and `receivedB` the frames `b` processed.

Every joint step moves each party by at most one `channelStep`
(`linkStep_party`), so every party of a reachable joint state is a reachable
channel (`reachable_party`), and the results of `L2cap.Fcr.Window` hold on
both sides of the link.

Delivery is not safe: `staleRetransmission` is a run with windows of 63 in
which one frame is lost, two polls each draw an SREJ for it, both SREJs are
served, and the second copy of frame 0 reaches `b` after `b` has passed
sequence number 63.  Its distance from `next_seq_expected` is then 1, below
the window, so `b` holds it as new, and passes SDU 0 up a second time once
frame 63 arrives (`stale_retransmission_delivered_twice`).  The RR with which
`b` then acknowledges the copy acknowledges more frames than `a` has waiting,
and `a` disconnects (`stale_retransmission_bad_req_seq`).
-/

namespace Bluedroid.L2cap.Fcr

open Bluedroid.Theory

set_option autoImplicit false

/-! ## The joint system -/

inductive Side
  | a
  | b
  deriving DecidableEq, Repr

def Side.peer : Side → Side
  | .a => .b
  | .b => .a

/-- Two channels and the two links between them. -/
structure LinkState where
  a : Channel
  b : Channel
  /-- How many frames of `b.sent` the link towards `a` has taken. -/
  takenA : ℕ
  /-- How many frames of `a.sent` the link towards `b` has taken. -/
  takenB : ℕ
  /-- The frames `b` received intact, in order. -/
  receivedB : List Pdu
  /-- The SDUs the upper layer wrote at `a`, in order. -/
  written : List (List UInt8)
  deriving DecidableEq, Repr

namespace LinkState

def party (s : LinkState) : Side → Channel
  | .a => s.a
  | .b => s.b

def setParty (s : LinkState) : Side → Channel → LinkState
  | .a, c => { s with a := c }
  | .b, c => { s with b := c }

def taken (s : LinkState) : Side → ℕ
  | .a => s.takenA
  | .b => s.takenB

/-- The next frame on the link towards `side`: the oldest one its peer sent
that the link has not taken yet. -/
def nextInbound (s : LinkState) (side : Side) : Option Pdu :=
  (s.party side.peer).sent[s.taken side]?

/-- The link towards `side` takes its next frame. -/
def take (s : LinkState) : Side → LinkState
  | .a => { s with takenA := s.takenA + 1 }
  | .b => { s with takenB := s.takenB + 1 }

/-- `side` receives `pdu` intact. -/
def logReceived (s : LinkState) : Side → Pdu → LinkState
  | .a, _ => s
  | .b, pdu => { s with receivedB := s.receivedB ++ [pdu] }

/-- Both channels freshly opened with the same parameters, nothing sent. -/
def initial (ourTxWinSz peerTxWinSz maxTransmit txMps maxRxMtu maxHeldAcks : ℕ) : LinkState where
  a := Channel.opened ourTxWinSz peerTxWinSz maxTransmit txMps maxRxMtu maxHeldAcks
  b := Channel.opened peerTxWinSz ourTxWinSz maxTransmit txMps maxRxMtu maxHeldAcks
  takenA := 0
  takenB := 0
  receivedB := []
  written := []

@[simp] theorem party_setParty_self (s : LinkState) (side : Side) (c : Channel) :
    (s.setParty side c).party side = c := by
  cases side <;> rfl

@[simp] theorem party_setParty_peer (s : LinkState) (side : Side) (c : Channel) :
    (s.setParty side c).party side.peer = s.party side.peer := by
  cases side <;> rfl

@[simp] theorem party_take (s : LinkState) (side other : Side) :
    (s.take side).party other = s.party other := by
  cases side <;> cases other <;> rfl

@[simp] theorem party_logReceived (s : LinkState) (side other : Side) (pdu : Pdu) :
    (s.logReceived side pdu).party other = s.party other := by
  cases side <;> cases other <;> rfl

end LinkState

/-- What can happen in the joint system. -/
inductive LinkEvent
  /-- The upper layer at `a` writes an SDU. -/
  | write (sdu : List UInt8)
  /-- The link scheduler serves `side`. -/
  | xmit (side : Side)
  | monRetransTimeout (side : Side)
  | ackTimeout (side : Side)
  /-- The next frame towards `side` arrives intact. -/
  | deliver (side : Side)
  /-- The next frame towards `side` is lost or corrupted. -/
  | lose (side : Side)
  deriving DecidableEq, Repr

/-- One event of the joint system; `none` where it cannot happen. -/
def linkStep (s : LinkState) : LinkEvent → Option LinkState
  | .write sdu =>
      (channelStep s.a (.dataWrite sdu)).map fun a =>
        { s with a := a, written := s.written ++ [sdu] }
  | .xmit side => (channelStep (s.party side) .linkXmit).map (s.setParty side)
  | .monRetransTimeout side => (channelStep (s.party side) .monRetransTimeout).map (s.setParty side)
  | .ackTimeout side => (channelStep (s.party side) .ackTimeout).map (s.setParty side)
  | .deliver side =>
      (s.nextInbound side).bind fun pdu =>
        (channelStep (s.party side) (.pduReceived pdu)).map
          (((s.take side).logReceived side pdu).setParty side)
  | .lose side => (s.nextInbound side).map fun _ => s.take side

/-! ## Each party runs its own channel -/

/-- Setting one party to the result of a channel step moves every party by at
most that step. -/
theorem setParty_moves {s : LinkState} {side : Side} {c : Channel} {e : ChannelEvent}
    (stepped : channelStep (s.party side) e = some c) (other : Side) :
    (s.setParty side c).party other = s.party other ∨
      ∃ e', channelStep (s.party other) e' = some ((s.setParty side c).party other) := by
  cases side <;> cases other
  · exact .inr ⟨e, stepped⟩
  · exact .inl rfl
  · exact .inl rfl
  · exact .inr ⟨e, stepped⟩

/-- **One joint step.**  Each party stays as it was or takes one step of its
own channel. -/
theorem linkStep_party {s s' : LinkState} {e : LinkEvent} (stepped : linkStep s e = some s')
    (side : Side) :
    s'.party side = s.party side ∨
      ∃ e', channelStep (s.party side) e' = some (s'.party side) := by
  cases e with
  | write sdu =>
      obtain ⟨a, wrote, rfl⟩ := Option.map_eq_some_iff.mp stepped
      cases side
      · exact .inr ⟨.dataWrite sdu, wrote⟩
      · exact .inl rfl
  | xmit actor =>
      obtain ⟨c, served, rfl⟩ := Option.map_eq_some_iff.mp stepped
      exact setParty_moves served side
  | monRetransTimeout actor =>
      obtain ⟨c, fired, rfl⟩ := Option.map_eq_some_iff.mp stepped
      exact setParty_moves fired side
  | ackTimeout actor =>
      obtain ⟨c, fired, rfl⟩ := Option.map_eq_some_iff.mp stepped
      exact setParty_moves fired side
  | deliver actor =>
      obtain ⟨pdu, -, delivered⟩ := Option.bind_eq_some_iff.mp stepped
      obtain ⟨c, processed, rfl⟩ := Option.map_eq_some_iff.mp delivered
      -- taking the frame off the link and logging it leave both parties alone
      have unmoved :
          ∀ other, ((s.take actor).logReceived actor pdu).party other = s.party other :=
        fun other => by simp
      rw [← unmoved actor] at processed
      have moved := setParty_moves processed side
      rwa [unmoved side] at moved
  | lose actor =>
      obtain ⟨pdu, -, rfl⟩ := Option.map_eq_some_iff.mp stepped
      exact .inl (LinkState.party_take s actor side)

section Reachable

variable {ourTxWinSz peerTxWinSz maxTransmit txMps maxRxMtu maxHeldAcks : ℕ} {s : LinkState}

/-- **Every party of a reachable joint state is a reachable channel**, from the
channel it was opened as. -/
theorem reachable_party
    (reach : Reachable linkStep
      (LinkState.initial ourTxWinSz peerTxWinSz maxTransmit txMps maxRxMtu maxHeldAcks) s)
    (side : Side) :
    Reachable channelStep
      ((LinkState.initial ourTxWinSz peerTxWinSz maxTransmit txMps maxRxMtu maxHeldAcks).party side)
      (s.party side) := by
  let opened := LinkState.initial ourTxWinSz peerTxWinSz maxTransmit txMps maxRxMtu maxHeldAcks
  refine Reachable.rec_invariant
    (P := fun t => Reachable channelStep (opened.party side) (t.party side)) (Reachable.init _ _) ?_
    reach
  intro s e t reachable stepped
  obtain same | ⟨e', moved⟩ := linkStep_party stepped side
  · rwa [same]
  · exact reachable.step e' moved

/-- The sender window holds at both ends of the link, each for the window its
peer granted it. -/
theorem windowInv_party (small : ourTxWinSz ≤ 63 ∧ peerTxWinSz ≤ 63)
    (reach : Reachable linkStep
      (LinkState.initial ourTxWinSz peerTxWinSz maxTransmit txMps maxRxMtu maxHeldAcks) s)
    (side : Side) : WindowInv (s.party side) := by
  cases side
  · exact (windowInv_of_reachable small.2 (reachable_party reach .a)).1
  · exact (windowInv_of_reachable small.1 (reachable_party reach .b)).1

/-- Three SDUs written at a; the first frame is lost on the way to b, which
holds the other two behind an SREJ for it; a sends it again, b acknowledges
all three with an RR, and a sends a fourth.  Both ends keep the sender window. -/
theorem windowInv_party_after_loss :
    ∃ s, ((63 : ℕ) ≤ 63 ∧ (63 : ℕ) ≤ 63) ∧
      Reachable linkStep (LinkState.initial 63 63 10 1000 1000 21) s ∧
      s.a.waitingForAckQ.map IFrame.txSeq = [3] ∧ s.a.lastRxAck = 3 ∧ s.a.sent.length = 5 ∧
      s.b.nextSeqExpected = 3 ∧ s.receivedB.length = 3 ∧
      WindowInv (s.party .a) ∧ WindowInv (s.party .b) := by
  have reach := @Reachable.of_run _ _ linkStep (LinkState.initial 63 63 10 1000 1000 21) _
    [.write [0], .write [1], .write [2], .xmit .a, .xmit .a, .xmit .a, .lose .b, .deliver .b,
      .deliver .b, .deliver .a, .xmit .a, .deliver .b, .deliver .a, .write [3], .xmit .a] rfl
  exact ⟨_, ⟨le_refl 63, le_refl 63⟩, reach, rfl, rfl, rfl, rfl, rfl,
    windowInv_party ⟨le_refl 63, le_refl 63⟩ reach .a, windowInv_party ⟨le_refl 63, le_refl 63⟩ reach .b⟩

end Reachable

/-! ## A stale retransmission delivered as new data -/

/-- Windows of 63, one-byte SDUs `[0]`, `[1]`, …, `[63]` written at `a`.  `a`
sends frames 0 to 62; frame 0 is lost and `b` holds 1 to 62 behind an SREJ for
0, which is lost too.  `a` times out twice and polls twice; `b` answers each
poll with an SREJ(F) for 0, and `a` resends frame 0 for each of them.  The
first copy completes `b`'s hold queue (`next_seq_expected` becomes 63, and `b`
acknowledges everything with an RR); the second copy is 1 ahead of 63 modulo
64, so `b` holds it as new.  `a` takes the RR and sends frame 63, after which
`b` delivers SDU 63 and then the held copy of frame 0. -/
def staleRetransmission : List LinkEvent :=
  (List.range 64).map (fun i => .write [UInt8.ofNat i]) ++
  List.replicate 63 (.xmit .a) ++
  -- frame 0 is lost; frame 1 draws an SREJ for 0, frames 2 to 62 are held
  [.lose .b] ++ List.replicate 62 (.deliver .b) ++
  -- the SREJ is lost, and `a` polls twice
  [.lose .a, .monRetransTimeout .a, .monRetransTimeout .a, .deliver .b, .deliver .b] ++
  -- each SREJ(F) answering a poll makes `a` send frame 0 again
  [.deliver .a, .xmit .a, .deliver .a, .xmit .a] ++
  -- the first copy is delivered with 1 to 62; the second is held as new
  [.deliver .b, .deliver .b] ++
  -- `a` takes the RR for 63 and sends frame 63
  [.deliver .a, .xmit .a, .deliver .b]

/-- **ERTM delivery is not safe.**  Over links that only lose frames (what `b`
received is a sublist of what `a` sent), `b` passes up every SDU written at
`a` and then SDU `[0]` once more. -/
theorem stale_retransmission_delivered_twice :
    ∃ s, run linkStep (LinkState.initial 63 63 10 1000 1000 21) staleRetransmission = some s ∧
      s.receivedB.Sublist s.a.sent ∧ s.b.delivered = s.written ++ [[0]] := by
  have found : (run linkStep (LinkState.initial 63 63 10 1000 1000 21) staleRetransmission).any
      (fun s => s.receivedB.isSublist s.a.sent && decide (s.b.delivered = s.written ++ [[0]])) =
        true := by
    decide +kernel
  obtain ⟨s, ran, holds⟩ := (Option.any_eq_true _ _).mp found
  rw [Bool.and_eq_true, List.isSublist_iff_sublist, decide_eq_true_iff] at holds
  exact ⟨s, ran, holds⟩

/-- **Honest peers disconnect.**  After the run above `b` has passed the stale
copy up and acknowledged it with an RR for ReqSeq 1, written from its
`next_seq_expected`.  The SREJ for 63 before it leaves `a` as it was; then the
RR reaches `a`, which has taken the RR for 63 and waits for frame 63 alone:
`(1 - 63) mod 64 = 2` frames would be acknowledged of the one waiting, so
`process_reqseq` takes its "BAD Req_Seq" branch and `a` closes the channel. -/
theorem stale_retransmission_bad_req_seq :
    ∃ s, run linkStep (LinkState.initial 63 63 10 1000 1000 21)
        (staleRetransmission ++ [.deliver .a]) = some s ∧
      s.a.isOpen = true ∧ s.a.waitAck = false ∧
      s.nextInbound .a = some (.sFrame ⟨.rr, 1, false, false⟩) ∧
      s.a.waitingForAckQ.length < ((1 : Seq) - s.a.lastRxAck).val ∧
      (processReqseq s.a (.sFrame ⟨.rr, 1, false, false⟩)).2 = false ∧
      ∃ s', linkStep s (.deliver .a) = some s' ∧ s'.a.isOpen = false := by
  have found : (run linkStep (LinkState.initial 63 63 10 1000 1000 21)
      (staleRetransmission ++ [.deliver .a])).any (fun s =>
        s.a.isOpen && !s.a.waitAck &&
        decide (s.nextInbound .a = some (.sFrame ⟨.rr, 1, false, false⟩)) &&
        decide (s.a.waitingForAckQ.length < ((1 : Seq) - s.a.lastRxAck).val) &&
        !(processReqseq s.a (.sFrame ⟨.rr, 1, false, false⟩)).2 &&
        (linkStep s (.deliver .a)).any (fun s' => !s'.a.isOpen)) = true := by
    decide +kernel
  obtain ⟨s, ran, holds⟩ := (Option.any_eq_true _ _).mp found
  simp only [Bool.and_eq_true, Bool.not_eq_true', decide_eq_true_eq] at holds
  obtain ⟨⟨⟨⟨⟨opened, notWaiting⟩, inbound⟩, beyond⟩, bad⟩, closed⟩ := holds
  obtain ⟨s', delivered, shut⟩ := (Option.any_eq_true _ _).mp closed
  exact ⟨s, ran, opened, notWaiting, inbound, beyond, bad, s', delivered,
    by simpa using shut⟩

end Bluedroid.L2cap.Fcr
