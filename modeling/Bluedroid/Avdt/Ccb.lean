import Mathlib
import Bluedroid.Avdt.Ind

/-!
# Avdt.Ccb -- the sending side of the signalling channel

A channel queues the commands it sends on `cmd_q` and its responses and rejects
on `rsp_q` (`avdt_msg_send_cmd`, `avdt_msg_send_rsp`, `avdt_msg_send_rej`,
`avdt_msg_send_grej`), and its state machine sends them: `avdt_ccb_snd_msg`
goes on with the message being sent (`p_curr_msg`), or else sends the queued
responses, then `avdt_ccb_snd_cmd` sends the next command if none awaits its
response (`p_curr_cmd`).  L2CAP reports congestion from inside the write that
fills it (`LL_CONG_EVT`, `avdt_ccb_cong_state`), which stops `avdt_msg_send`
between two packets of a message; the channel goes on when the congestion
clears.  Here L2CAP takes `room` more packets before it reports congestion, a
number each event brings.

* `avdtMsgSendTx_sentFrom`: what a call of `avdt_msg_send` writes before
  congestion stops it, followed by what it sends when it goes on from
  `p_curr_msg`, are exactly the packets of one call that is never stopped, the
  model of `Avdt.Msg`: no packet is lost or sent twice.
* `txRun_delivers`: over any run of an open channel, whatever the congestion,
  the packets on the wire are whole messages, each cut as `avdt_msg_send` cuts a
  message queued at `AVDT_MSG_OFFSET` and so put back together by the peer's
  `avdt_msg_asmbl`, and then the first packets of the message being sent: the
  packets of two messages never interleave.
* `cmdFailActions_delayRpt` and `clearCmds_delayRpt`: `avdt_ccb_cmd_fail` fakes a
  reject of the command in flight, raising the event `avdt_msg_rej_2_evt` gives
  its signal; for a DELAY_REPORT that entry is 0, which `avdt_msg_ind` never
  sends to a stream but `avdt_ccb_cmd_fail` does, and 0 is
  `AVDT_SCB_API_REMOVE_EVT`.  When the channel closes, every DELAY_REPORT still
  queued for a stream removes it.
* `clearCmds_ccClose`: after failing the commands, `avdt_ccb_clear_cmds` raises
  `AVDT_SCB_CC_CLOSE_EVT`, with no data, once on each allocated stream of the
  channel and on no other, under the handle `avdt_scb_by_hdl` takes back to it.
* `txRun_retTout_eq_rspTout`: sending touches of the CCB only its label and
  command in flight (`CcbFrame`), so the retransmission count stays 0, and with
  `AVDT_RET_MAX` at 1 a retransmission timeout fails the command as a response
  timeout does: the branch of `avdt_ccb_ret_cmd` that sends it again is dead.

Only the open state's actions that send are modelled, with the events the
others raise as their result; timers and the other states are not.
-/

namespace Bluedroid.Avdt

open Bluedroid.Theory (copyInto fits_of_copyInto length_copyInto loop loop_succ loop_total)

set_option autoImplicit false

/-! ## Constants -/

/-- `AVDT_RET_MAX`. -/
def avdtRetMax : ℕ := 1

/-- `AVDT_ERR_CONNECT`. -/
def avdtErrConnect : UInt8 := 0x07

/-- `AVDT_ERR_TIMEOUT`. -/
def avdtErrTimeout : UInt8 := 0x08

/-- `AVDT_SCB_API_REMOVE_EVT`, the first event of a stream's state machine. -/
def avdtScbApiRemoveEvt : UInt8 := 0

/-- `AVDT_SCB_CC_CLOSE_EVT`, the last event of a stream's state machine. -/
def avdtScbCcCloseEvt : UInt8 := 47

/-! ## The channel control block -/

/-- The fields of `AvdtpCcb` the sending side reads and writes, besides those
of `Avdt.Ind` (the command in flight, the retransmission count): the queues
`cmd_q` and `rsp_q`, the message being sent `p_curr_msg`, and `cong`. -/
structure CcbTx where
  ccb : AvdtpCcb
  cmdQ : List CurrMsg
  rspQ : List CurrMsg
  pCurrMsg : Option CurrMsg
  cong : Bool

/-- What `memcpy` copies of a queued message: its header and the first
`offset + len` octets of its buffer. -/
def CurrMsg.copy (m : CurrMsg) : CurrMsg := { m with data := m.data.take (m.offset + m.len) }

/-! ## Sending with congestion -/

/-- A pass of the loop of `avdt_msg_send` on a channel that takes `room` more
packets: the state is the message, `curr_msg_len`, the packets written and the
room, and the loop leaves with the packets, `p_curr_msg`, `cong` and the room.
The write that finds no room reports congestion, which ends the loop. -/
def sendCongBody (peerMtu : ℕ) (state : CurrMsg × ℕ × List (List UInt8) × ℕ) :
    (CurrMsg × ℕ × List (List UInt8) × ℕ) ⊕ (List (List UInt8) × Option CurrMsg × Bool × ℕ) :=
  match sendPass peerMtu state.1 state.2.1, state.2.2.2 with
  | (packet, next), 0 => .inr (state.2.2.1 ++ [packet], next.map Prod.fst, true, 0)
  | (packet, none), room + 1 => .inr (state.2.2.1 ++ [packet], none, false, room)
  | (packet, some (curr, currMsgLen)), room + 1 => .inl (curr, currMsgLen, state.2.2.1 ++ [packet], room)

/-- `avdt_msg_send` on a channel that takes `room` more packets: the message
passed in, if any, becomes `p_curr_msg`, and the loop runs from it while the
channel is not congested.  The packets written, `p_curr_msg` and `cong` after,
and the room left; `none` for a `p_curr_msg` that is `NULL`, or a loop that
does not end within a pass per octet. -/
def avdtMsgSendTx (peerMtu room : ℕ) (cong : Bool) (pCurrMsg pMsg : Option CurrMsg) :
    Option (List (List UInt8) × Option CurrMsg × Bool × ℕ) := do
  let curr ← pMsg.or pCurrMsg
  if cong then pure ([], some curr, true, room)
  else loop (sendCongBody peerMtu) (curr.len + 1) (curr, curr.len, [], room)

/-! ## The actions that send -/

/-- `avdt_ccb_snd_cmd`: on a channel not congested, with no message being sent
and no command awaiting its response, the next command of `cmd_q` is sent, and
a copy of it kept as `p_curr_cmd`.  The packets written, and the room left. -/
def avdtCcbSndCmd (peerMtu room : ℕ) (s : CcbTx) : Option (CcbTx × List (List UInt8) × ℕ) :=
  if s.cong = false ∧ s.pCurrMsg = none ∧ s.ccb.pCurrCmd = none then
    match s.cmdQ with
    | [] => some (s, [], room)
    | pMsg :: cmdQ => do
      let s := { s with ccb := { s.ccb with pCurrCmd := some pMsg.copy }, cmdQ }
      let (packets, pCurrMsg, cong, room) ← avdtMsgSendTx peerMtu room s.cong s.pCurrMsg (some pMsg)
      pure ({ s with pCurrMsg, cong }, packets, room)
  else some (s, [], room)

/-- The loop of `avdt_ccb_snd_msg` over `rsp_q`: each response is sent in turn
until one leaves the channel congested. -/
def sndRsps (peerMtu : ℕ) : ℕ → CcbTx → List CurrMsg → Option (CcbTx × List (List UInt8) × ℕ)
  | room, s, [] => some ({ s with rspQ := [] }, [], room)
  | room, s, pMsg :: rspQ => do
    let (packets, pCurrMsg, cong, room) ← avdtMsgSendTx peerMtu room s.cong s.pCurrMsg (some pMsg)
    let s := { s with rspQ, pCurrMsg, cong }
    if cong then pure (s, packets, room)
    else do
      let (s, more, room) ← sndRsps peerMtu room s rspQ
      pure (s, packets ++ more, room)

/-- The first part of `avdt_ccb_snd_msg`: the message being sent goes on, or
else the queued responses go. -/
def sndMsgFirst (peerMtu room : ℕ) (s : CcbTx) : Option (CcbTx × List (List UInt8) × ℕ) :=
  if s.pCurrMsg ≠ none then do
    let (packets, pCurrMsg, cong, room) ← avdtMsgSendTx peerMtu room s.cong s.pCurrMsg none
    pure ({ s with pCurrMsg, cong }, packets, room)
  else if s.rspQ ≠ [] then sndRsps peerMtu room s s.rspQ
  else some (s, [], room)

/-- `avdt_ccb_snd_msg`: on a channel not congested, the message being sent goes
on, or else the queued responses go; then `avdt_ccb_snd_cmd`. -/
def avdtCcbSndMsg (peerMtu room : ℕ) (s : CcbTx) : Option (CcbTx × List (List UInt8) × ℕ) :=
  if s.cong = false then do
    let (s, packets, room) ← sndMsgFirst peerMtu room s
    let (s, more, room) ← avdtCcbSndCmd peerMtu room s
    pure (s, packets ++ more, room)
  else some (s, [], room)

/-- `avdt_ccb_free_cmd`: the command in flight is answered, and freed. -/
def avdtCcbFreeCmd (s : CcbTx) : CcbTx := { s with ccb := { s.ccb with pCurrCmd := none } }

/-- The message `avdt_ccb_cmd_fail` fakes: the error code, no error parameter
and the channel's index; the rest of it is not set, and taken as zero. -/
def cmdFailMsg (errCode ccbIdx : UInt8) : AvdtMsg :=
  { AvdtMsg.zero with hdr := { AvdtMsg.zero.hdr with errCode, errParam := 0, ccbIdx } }

/-- What `avdt_ccb_cmd_fail` raises for the command `cmd`, as if a reject had
come: the event of `avdt_msg_rej_2_evt`, to the channel's state machine, or to
the stream whose handle is in front of the command, whatever the event. -/
def cmdFailActions (allocated : ℕ → ℕ → Bool) (cmd : CurrMsg) (msg : AvdtMsg) : Option (List IndAction) := do
  let evt ← sigEntry avdtMsgRej2Evt cmd.sig
  if evt &&& avdtCcbMkr ≠ 0 then pure [.ccbEvent (evt &&& ~~~avdtCcbMkr) (some msg)]
  else do
    let hdl ← cmd.data[0]?
    pure (if avdtScbByHdl allocated hdl = true then [.scbEvent hdl evt msg] else [])

/-- `avdt_ccb_cmd_fail`: the command in flight, if any, is failed and freed. -/
def avdtCcbCmdFail (allocated : ℕ → ℕ → Bool) (errCode : UInt8) (s : CcbTx) : Option (CcbTx × List IndAction) :=
  match s.ccb.pCurrCmd with
  | none => some (s, [])
  | some cmd => do
    let actions ← cmdFailActions allocated cmd (cmdFailMsg errCode s.ccb.ccbIdx)
    pure ({ s with ccb := { s.ccb with pCurrCmd := none } }, actions)

/-- `avdt_ccb_ret_cmd`: one more retransmission; at `AVDT_RET_MAX` the command
fails with `AVDT_ERR_TIMEOUT` and the next one is sent, else a copy of the
command in flight is sent again on a channel clear for it. -/
def avdtCcbRetCmd (allocated : ℕ → ℕ → Bool) (peerMtu room : ℕ) (s : CcbTx) :
    Option (CcbTx × List IndAction × List (List UInt8) × ℕ) :=
  let s := { s with ccb := { s.ccb with retCount := s.ccb.retCount + 1 } }
  if s.ccb.retCount = avdtRetMax then do
    let (s, actions) ← avdtCcbCmdFail allocated avdtErrTimeout { s with ccb := { s.ccb with retCount := 0 } }
    let (s, packets, room) ← avdtCcbSndCmd peerMtu room s
    pure (s, actions, packets, room)
  else
    match s.ccb.pCurrCmd with
    | some cmd =>
      if s.cong = false ∧ s.pCurrMsg = none then do
        let (packets, pCurrMsg, cong, room) ← avdtMsgSendTx peerMtu room s.cong s.pCurrMsg (some cmd.copy)
        pure ({ s with pCurrMsg, cong }, [], packets, room)
      else some (s, [], [], room)
    | none => some (s, [], [], room)

/-- `avdt_ccb_clear_ccb`: not congested, no retransmission counted, the message
being sent and the one being reassembled freed, `rsp_q` emptied. -/
def avdtCcbClearCcb (s : CcbTx) : CcbTx :=
  { s with cong := false, ccb := { s.ccb with retCount := 0, pRxMsg := none }, pCurrMsg := none, rspQ := [] }

/-- The loop of `avdt_ccb_clear_cmds`: the command in flight is failed, then
each queued command in turn is made the command in flight and failed. -/
def clearCmdsLoop (allocated : ℕ → ℕ → Bool) : CcbTx → List CurrMsg → Option (CcbTx × List IndAction)
  | s, [] => do
    let (s, actions) ← avdtCcbCmdFail allocated avdtErrConnect s
    pure ({ s with cmdQ := [] }, actions)
  | s, pMsg :: cmdQ => do
    let (s, actions) ← avdtCcbCmdFail allocated avdtErrConnect s
    let (s, more) ← clearCmdsLoop allocated { s with ccb := { s.ccb with pCurrCmd := some pMsg }, cmdQ } cmdQ
    pure (s, actions ++ more)

/-- The last loop of `avdt_ccb_clear_cmds`: `AVDT_SCB_CC_CLOSE_EVT`, with no
data, to each stream of the channel's `scb[]` that is allocated, in order.
`avdt_scb_alloc` gives `ccb[i].scb[j]` the `p_ccb` of `ccb[i]`, so the test
`p_scb->p_ccb == p_ccb` holds of each allocated one; its handle is
`i * AVDT_NUM_SEPS + j + 1`, as `ComputeScbHandle` counts. -/
def ccCloseActions (allocated : ℕ → ℕ → Bool) (ccbIdx : UInt8) : List IndAction :=
  ((List.range avdtNumSeps).filter (allocated ccbIdx.toNat)).map fun j =>
    .scbEventNoData (UInt8.ofNat (ccbIdx.toNat * avdtNumSeps + j + 1)) avdtScbCcCloseEvt

/-- `avdt_ccb_clear_cmds`: the CCB cleared, every command, the one in flight
and then each queued one, failed with `AVDT_ERR_CONNECT`, and then each
allocated stream of the channel told that the channel closed. -/
def avdtCcbClearCmds (allocated : ℕ → ℕ → Bool) (s : CcbTx) : Option (CcbTx × List IndAction) := do
  let (s', actions) ← clearCmdsLoop allocated (avdtCcbClearCcb s) s.cmdQ
  pure (s', actions ++ ccCloseActions allocated s.ccb.ccbIdx)

/-! ## The open channel -/

/-- What drives the sending side of an open channel: a message queued by
`avdt_msg_send_cmd`, `avdt_msg_send_rsp`, `avdt_msg_send_rej` or
`avdt_msg_send_grej`, each of which raises `AVDT_CCB_SENDMSG_EVT`, and the
events `AVDT_CCB_SENDMSG_EVT`, `AVDT_CCB_RCVRSP_EVT`, `AVDT_CCB_RET_TOUT_EVT`,
`AVDT_CCB_RSP_TOUT_EVT` and `AVDT_CCB_LL_CONG_EVT`. -/
inductive TxEvent where
  | sendCmd (pScb : ScbArg) (sigId : UInt8) (pParams : AvdtMsg) (fresh : List UInt8)
  | sendRsp (sigId : UInt8) (pParams : AvdtMsg) (fresh : List UInt8)
  | sendRej (sigId : UInt8) (pParams : AvdtMsg) (fresh : List UInt8)
  | sendGrej (sigId : UInt8) (pParams : AvdtMsg) (fresh : List UInt8)
  | sendMsg
  | rcvRsp
  | retTout
  | rspTout
  | llCong (llcong : Bool)

/-- The buffer a queueing function is given is the one `osi_malloc` returns for
`AVDT_CMD_BUF_SIZE`. -/
def TxEvent.Wf : TxEvent → Prop
  | .sendCmd _ _ _ fresh | .sendRsp _ _ fresh | .sendRej _ _ fresh | .sendGrej _ _ fresh =>
    fresh.length = avdtCmdBufSize - btHdrSize
  | _ => True

/-- `avdt_ccb_event` in `AVDT_CCB_OPEN_ST` for the events that send, with the
actions `avdt_ccb_st_open` gives them, on a channel that takes `room` more
packets: the CCB after, what the actions raise, and the packets written. -/
def avdtCcbEventOpen (allocated : ℕ → ℕ → Bool) (peerMtu room : ℕ) (s : CcbTx) :
    TxEvent → Option (CcbTx × List IndAction × List (List UInt8))
  | .sendCmd pScb sigId pParams fresh => do
    let (ccb, pMsg, _) ← avdtMsgSendCmd s.ccb pScb sigId pParams fresh
    let (s, packets, _) ← avdtCcbSndMsg peerMtu room { s with ccb, cmdQ := s.cmdQ ++ [pMsg] }
    pure (s, [], packets)
  | .sendRsp sigId pParams fresh => do
    let (pMsg, _) ← avdtMsgSendRsp sigId pParams fresh
    let (s, packets, _) ← avdtCcbSndMsg peerMtu room { s with rspQ := s.rspQ ++ [pMsg] }
    pure (s, [], packets)
  | .sendRej sigId pParams fresh => do
    let pMsg ← avdtMsgSendRej sigId pParams fresh
    let (s, packets, _) ← avdtCcbSndMsg peerMtu room { s with rspQ := s.rspQ ++ [pMsg] }
    pure (s, [], packets)
  | .sendGrej sigId pParams fresh => do
    let (s, packets, _) ←
      avdtCcbSndMsg peerMtu room { s with rspQ := s.rspQ ++ [avdtMsgSendGrej sigId pParams fresh] }
    pure (s, [], packets)
  | .sendMsg => do
    let (s, packets, _) ← avdtCcbSndMsg peerMtu room s
    pure (s, [], packets)
  | .rcvRsp => do
    let (s, packets, _) ← avdtCcbSndCmd peerMtu room (avdtCcbFreeCmd s)
    pure (s, [], packets)
  | .retTout => do
    let (s, actions, packets, _) ← avdtCcbRetCmd allocated peerMtu room s
    pure (s, actions, packets)
  | .rspTout => do
    let (s, actions) ← avdtCcbCmdFail allocated avdtErrTimeout s
    let (s, packets, _) ← avdtCcbSndCmd peerMtu room s
    pure (s, actions, packets)
  | .llCong llcong => do
    let (s, packets, _) ← avdtCcbSndMsg peerMtu room { s with cong := llcong }
    pure (s, [], packets)

/-- The open channel over a run of events, each with the room L2CAP has for it:
the CCB after, all that was raised, and the packets written, in order. -/
def txRun (allocated : ℕ → ℕ → Bool) (peerMtu : ℕ) :
    CcbTx → List (TxEvent × ℕ) → Option (CcbTx × List IndAction × List (List UInt8))
  | s, [] => some (s, [], [])
  | s, (ev, room) :: evs => do
    let (s, actions, packets) ← avdtCcbEventOpen allocated peerMtu room s ev
    let (s, more, rest) ← txRun allocated peerMtu s evs
    pure (s, actions ++ more, packets ++ rest)

/-! ## What each action does -/

section Cases

variable {peerMtu : ℕ}

/-- `avdt_ccb_snd_cmd` sends nothing, or on a clear channel the head of
`cmd_q`, with a copy of it kept in flight. -/
theorem avdtCcbSndCmd_cases {room : ℕ} {s s' : CcbTx} {packets : List (List UInt8)} {room' : ℕ}
    (sent : avdtCcbSndCmd peerMtu room s = some (s', packets, room')) :
    (s' = s ∧ packets = [] ∧ room' = room) ∨
      ∃ (pMsg : CurrMsg) (cmdQ : List CurrMsg) (pCurrMsg : Option CurrMsg) (cong : Bool),
        s.pCurrMsg = none ∧ s.cmdQ = pMsg :: cmdQ ∧
        avdtMsgSendTx peerMtu room s.cong s.pCurrMsg (some pMsg) = some (packets, pCurrMsg, cong, room') ∧
        s' = { s with ccb := { s.ccb with pCurrCmd := some pMsg.copy }, cmdQ, pCurrMsg, cong } := by
  unfold avdtCcbSndCmd at sent
  split_ifs at sent with clear
  · split at sent
    · simp only [Option.some.injEq, Prod.mk.injEq] at sent
      obtain ⟨rfl, rfl, rfl⟩ := sent
      exact .inl ⟨rfl, rfl, rfl⟩
    · next pMsg cmdQ queued =>
      simp only [Option.bind_eq_bind, Option.bind_eq_some_iff, Option.pure_def, Option.some.injEq,
        Prod.mk.injEq] at sent
      obtain ⟨⟨packets₁, pCurrMsg, cong, room₁⟩, sentTx, rfl, rfl, rfl⟩ := sent
      exact .inr ⟨pMsg, cmdQ, pCurrMsg, cong, clear.2.1, queued, sentTx, rfl⟩
  · simp only [Option.some.injEq, Prod.mk.injEq] at sent
    obtain ⟨rfl, rfl, rfl⟩ := sent
    exact .inl ⟨rfl, rfl, rfl⟩

/-- The first part of `avdt_ccb_snd_msg` goes on with the message being sent,
or sends `rsp_q` when none is, or does nothing. -/
theorem sndMsgFirst_cases {room : ℕ} {s s' : CcbTx} {packets : List (List UInt8)} {room' : ℕ}
    (first : sndMsgFirst peerMtu room s = some (s', packets, room')) :
    (∃ (pCurrMsg : Option CurrMsg) (cong : Bool),
        avdtMsgSendTx peerMtu room s.cong s.pCurrMsg none = some (packets, pCurrMsg, cong, room') ∧
        s' = { s with pCurrMsg, cong }) ∨
      (s.pCurrMsg = none ∧ sndRsps peerMtu room s s.rspQ = some (s', packets, room')) ∨
      (s' = s ∧ packets = [] ∧ room' = room) := by
  unfold sndMsgFirst at first
  split_ifs at first with sending queued
  · simp only [Option.bind_eq_bind, Option.bind_eq_some_iff, Option.pure_def, Option.some.injEq,
      Prod.mk.injEq] at first
    obtain ⟨⟨packets₁, pCurrMsg, cong, room₁⟩, sentTx, rfl, rfl, rfl⟩ := first
    exact .inl ⟨pCurrMsg, cong, sentTx, rfl⟩
  · exact .inr (.inl ⟨not_not.mp sending, first⟩)
  · simp only [Option.some.injEq, Prod.mk.injEq] at first
    obtain ⟨rfl, rfl, rfl⟩ := first
    exact .inr (.inr ⟨rfl, rfl, rfl⟩)

/-- `avdt_ccb_snd_msg` does nothing on a congested channel, or else its first
part and then `avdt_ccb_snd_cmd`. -/
theorem avdtCcbSndMsg_cases {room : ℕ} {s s' : CcbTx} {packets : List (List UInt8)} {room' : ℕ}
    (sent : avdtCcbSndMsg peerMtu room s = some (s', packets, room')) :
    (s' = s ∧ packets = [] ∧ room' = room) ∨
      ∃ (s₁ : CcbTx) (packets₁ more : List (List UInt8)) (room₁ : ℕ),
        sndMsgFirst peerMtu room s = some (s₁, packets₁, room₁) ∧
        avdtCcbSndCmd peerMtu room₁ s₁ = some (s', more, room') ∧ packets = packets₁ ++ more := by
  unfold avdtCcbSndMsg at sent
  split_ifs at sent
  · simp only [Option.bind_eq_bind, Option.bind_eq_some_iff, Option.pure_def, Option.some.injEq,
      Prod.mk.injEq] at sent
    obtain ⟨⟨s₁, packets₁, room₁⟩, first, ⟨s₂, more, room₂⟩, sent₂, rfl, rfl, rfl⟩ := sent
    exact .inr ⟨s₁, packets₁, more, room₁, first, sent₂, rfl⟩
  · simp only [Option.some.injEq, Prod.mk.injEq] at sent
    obtain ⟨rfl, rfl, rfl⟩ := sent
    exact .inl ⟨rfl, rfl, rfl⟩

end Cases

/-- `avdt_ccb_cmd_fail` fails the command in flight, if any, and frees it. -/
theorem avdtCcbCmdFail_spec {allocated : ℕ → ℕ → Bool} {errCode : UInt8} {s s' : CcbTx} {actions : List IndAction}
    (failed : avdtCcbCmdFail allocated errCode s = some (s', actions)) :
    s' = { s with ccb := { s.ccb with pCurrCmd := none } } ∧
      ∃ raised, List.Forall₂ (fun cmd acts => cmdFailActions allocated cmd (cmdFailMsg errCode s.ccb.ccbIdx) = some acts)
        s.ccb.pCurrCmd.toList raised ∧ actions = raised.flatten := by
  unfold avdtCcbCmdFail at failed
  split at failed
  · next nothing =>
    simp only [Option.some.injEq, Prod.mk.injEq] at failed
    obtain ⟨rfl, rfl⟩ := failed
    refine ⟨?_, [], by rw [nothing]; exact List.Forall₂.nil, rfl⟩
    obtain ⟨⟨label, pCurrCmd, pRxMsg, procData, procParam, retCount, ccbIdx⟩, cmdQ, rspQ, pCurrMsg, cong⟩ := s
    cases nothing
    rfl
  · next cmd inFlight =>
    simp only [Option.bind_eq_bind, Option.bind_eq_some_iff, Option.pure_def, Option.some.injEq,
      Prod.mk.injEq] at failed
    obtain ⟨acts, raised, rfl, rfl⟩ := failed
    refine ⟨rfl, [acts], ?_, by rw [List.flatten_singleton]⟩
    rw [inFlight]
    exact List.Forall₂.cons raised List.Forall₂.nil

/-! ## A message sent in several calls -/

/-- `now` are the first packets `avdt_msg_send` sends of `curr`, and the rest
are sent from `next`: nothing once all are sent. -/
def SentFrom (peerMtu : ℕ) (curr : CurrMsg) (now : List (List UInt8)) : Option CurrMsg → Prop
  | none => avdtMsgSend peerMtu curr = some now
  | some next => ∃ rest, avdtMsgSend peerMtu curr = some (now ++ rest) ∧ avdtMsgSend peerMtu next = some rest

section Resume

variable {peerMtu : ℕ}

/-- Where a pass goes on from: nowhere once `curr_msg_len` is used up. -/
theorem sendPass_snd (curr : CurrMsg) (currMsgLen : ℕ) :
    (sendPass peerMtu curr currMsgLen).2 =
      if currMsgLen - (sendBranch peerMtu curr).2 = 0 then none
      else some (curr.advance (sendBranch peerMtu curr).2, currMsgLen - (sendBranch peerMtu curr).2) :=
  rfl

/-- A pass takes the rest of the message, or, over an MTU above the START
header, at least an octet of it. -/
theorem sendBranch_snd (mtu : avdtLenTypeStart < peerMtu) (curr : CurrMsg) :
    (sendBranch peerMtu curr).2 = curr.len ∨ 0 < (sendBranch peerMtu curr).2 := by
  simp only [avdtLenTypeStart] at mtu
  unfold sendBranch
  split_ifs
  · exact .inl rfl
  · exact .inr (by simp only [avdtLenTypeStart]; omega)
  · exact .inr (by simp only [avdtLenTypeCont]; omega)
  · exact .inl rfl

/-- A pass that does not end the message goes on from a shorter one, with
`curr_msg_len` its length. -/
theorem sendPass_goes_on (mtu : avdtLenTypeStart < peerMtu) {curr curr' : CurrMsg} {packet : List UInt8}
    {currMsgLen' : ℕ} (pass : sendPass peerMtu curr curr.len = (packet, some (curr', currMsgLen'))) :
    currMsgLen' = curr'.len ∧ curr'.len < curr.len := by
  have next := congrArg Prod.snd pass
  rw [sendPass_snd] at next
  split_ifs at next with done
  obtain ⟨rfl, rfl⟩ := Prod.mk.inj (Option.some.inj next)
  rw [CurrMsg.len_advance]
  refine ⟨rfl, ?_⟩
  rcases sendBranch_snd mtu curr with all | some <;> omega

/-- Over an MTU above the START header, the loop of `avdt_msg_send` ends, with
what it ends with whatever the passes it is given beyond one per octet. -/
theorem sendLoop_total (mtu : avdtLenTypeStart < peerMtu) (curr : CurrMsg) (sent : List (List UInt8)) :
    ∃ packets, ∀ fuel, curr.len < fuel → loop (sendBody peerMtu) fuel (curr, curr.len, sent) = some packets := by
  have pass : ∀ state : CurrMsg × ℕ × List (List UInt8), state.2.1 = state.1.len →
      (∃ state', sendBody peerMtu state = .inl state' ∧ state'.2.1 = state'.1.len ∧ state'.1.len < state.1.len) ∨
        ∃ packets, sendBody peerMtu state = .inr packets ∧ True := by
    rintro ⟨curr, currMsgLen, sent⟩ inv
    dsimp only at inv ⊢
    subst inv
    cases passed : sendPass peerMtu curr curr.len with
    | mk packet next =>
      cases next with
      | none => exact .inr ⟨_, sendBody_last passed sent, trivial⟩
      | some next =>
        obtain ⟨curr', currMsgLen'⟩ := next
        obtain ⟨rfl, shorter⟩ := sendPass_goes_on mtu passed
        exact .inl ⟨_, sendBody_next passed sent, rfl, shorter⟩
  obtain ⟨packets, -, runs⟩ := loop_total (fun state : CurrMsg × ℕ × List (List UInt8) => state.2.1 = state.1.len)
    (fun _ => True) (fun state => state.1.len) pass (curr, curr.len, sent) rfl
  exact ⟨packets, runs⟩

/-- The packets the loop sends follow those it was given. -/
theorem loop_sendBody_sent : ∀ (fuel : ℕ) (curr : CurrMsg) (currMsgLen : ℕ) (sent : List (List UInt8)),
    loop (sendBody peerMtu) fuel (curr, currMsgLen, sent) =
      (loop (sendBody peerMtu) fuel (curr, currMsgLen, [])).map (sent ++ ·)
  | 0, _, _, _ => rfl
  | fuel + 1, curr, currMsgLen, sent => by
    rw [loop_succ, loop_succ]
    cases passed : sendPass peerMtu curr currMsgLen with
    | mk packet next =>
      cases next with
      | none => simp only [sendBody_last passed, Sum.elim_inr, Option.map_some, List.nil_append]
      | some next =>
        obtain ⟨curr', currMsgLen'⟩ := next
        rw [sendBody_next passed, sendBody_next passed, Sum.elim_inl, Sum.elim_inl,
          loop_sendBody_sent fuel curr' currMsgLen' (sent ++ [packet]),
          loop_sendBody_sent fuel curr' currMsgLen' ([] ++ [packet]), Option.map_map]
        simp only [Function.comp_def, List.nil_append, List.append_assoc, List.singleton_append]

/-- Every message has its packets. -/
theorem avdtMsgSend_total (mtu : avdtLenTypeStart < peerMtu) (curr : CurrMsg) :
    ∃ packets, avdtMsgSend peerMtu curr = some packets := by
  obtain ⟨packets, runs⟩ := sendLoop_total mtu curr []
  exact ⟨packets, runs _ (Nat.lt_succ_self _)⟩

/-- Nothing is sent yet of a message about to be sent. -/
theorem SentFrom.start (mtu : avdtLenTypeStart < peerMtu) (curr : CurrMsg) : SentFrom peerMtu curr [] (some curr) := by
  obtain ⟨packets, sent⟩ := avdtMsgSend_total mtu curr
  exact ⟨packets, sent, sent⟩

/-- Packets sent of a message, then packets sent from where they stopped, are
packets sent of the message. -/
theorem SentFrom.trans {curr mid : CurrMsg} {now now' : List (List UInt8)} {next : Option CurrMsg}
    (first : SentFrom peerMtu curr now (some mid)) (second : SentFrom peerMtu mid now' next) :
    SentFrom peerMtu curr (now ++ now') next := by
  obtain ⟨rest, whole, fromMid⟩ := first
  cases next with
  | none =>
    have same : rest = now' := Option.some.inj (fromMid.symm.trans second)
    rw [← same]
    exact whole
  | some next =>
    obtain ⟨rest', fromMid', fromNext⟩ := second
    have same : rest = now' ++ rest' := Option.some.inj (fromMid.symm.trans fromMid')
    exact ⟨rest', by rw [whole, same, List.append_assoc], fromNext⟩

/-- A pass sends the first packet of a message, and goes on from the rest. -/
theorem sentFrom_pass (mtu : avdtLenTypeStart < peerMtu) {curr : CurrMsg} {packet : List UInt8}
    {next : Option (CurrMsg × ℕ)} (passed : sendPass peerMtu curr curr.len = (packet, next)) :
    SentFrom peerMtu curr [packet] (next.map Prod.fst) := by
  cases next with
  | none =>
    change avdtMsgSend peerMtu curr = some [packet]
    rw [avdtMsgSend, loop_succ, sendBody_last passed, Sum.elim_inr, List.nil_append]
  | some next =>
    obtain ⟨curr', currMsgLen'⟩ := next
    obtain ⟨rfl, shorter⟩ := sendPass_goes_on mtu passed
    obtain ⟨rest, runs⟩ := sendLoop_total mtu curr' []
    refine ⟨rest, ?_, runs _ (Nat.lt_succ_self _)⟩
    rw [avdtMsgSend, loop_succ, sendBody_next passed, Sum.elim_inl, loop_sendBody_sent, runs _ shorter,
      Option.map_some, List.nil_append]

/-- The loop of `avdt_msg_send` on a channel that takes `room` more packets
sends the first packets of the message, and stops where the rest are sent from;
it stops short only on congestion. -/
theorem sendCong_sentFrom (mtu : avdtLenTypeStart < peerMtu) :
    ∀ (fuel : ℕ) (curr : CurrMsg) (sent : List (List UInt8)) (room : ℕ) {out : List (List UInt8)}
      {next : Option CurrMsg} {cong : Bool} {room' : ℕ},
      loop (sendCongBody peerMtu) fuel (curr, curr.len, sent, room) = some (out, next, cong, room') →
      ∃ now, out = sent ++ now ∧ SentFrom peerMtu curr now next ∧ (cong = false → next = none)
  | 0, _, _, _, _, _, _, _, ran => by simp at ran
  | fuel + 1, curr, sent, room, out, next, cong, room', ran => by
    rw [loop_succ] at ran
    cases passed : sendPass peerMtu curr curr.len with
    | mk packet passNext =>
      have first := sentFrom_pass mtu passed
      cases room with
      | zero =>
        -- the write reports congestion, wherever the message is
        simp only [sendCongBody, passed, Sum.elim_inr, Option.some.injEq, Prod.mk.injEq] at ran
        obtain ⟨rfl, rfl, rfl, rfl⟩ := ran
        exact ⟨[packet], rfl, first, fun never => absurd never (by decide)⟩
      | succ room =>
        cases passNext with
        | none =>
          simp only [sendCongBody, passed, Sum.elim_inr, Option.some.injEq, Prod.mk.injEq] at ran
          obtain ⟨rfl, rfl, rfl, rfl⟩ := ran
          exact ⟨[packet], rfl, first, fun _ => rfl⟩
        | some passNext =>
          obtain ⟨curr', currMsgLen'⟩ := passNext
          obtain ⟨rfl, -⟩ := sendPass_goes_on mtu passed
          simp only [sendCongBody, passed, Sum.elim_inl] at ran
          obtain ⟨now, rfl, rest, stops⟩ := sendCong_sentFrom mtu fuel curr' (sent ++ [packet]) room ran
          exact ⟨packet :: now, by rw [List.append_assoc, List.singleton_append], first.trans rest, stops⟩

/-- **A message sent in several calls.**  Whatever L2CAP's room, a call of
`avdt_msg_send` writes the first packets of `p_curr_msg` (or of the message it
is given) as one call that is never stopped would write them, and leaves
`p_curr_msg` where that call would send the rest from; it leaves it before the
end only on congestion. -/
theorem avdtMsgSendTx_sentFrom (mtu : avdtLenTypeStart < peerMtu) {room : ℕ} {cong : Bool}
    {pCurrMsg pMsg : Option CurrMsg} {curr : CurrMsg} (current : pMsg.or pCurrMsg = some curr)
    {packets : List (List UInt8)} {next : Option CurrMsg} {cong' : Bool} {room' : ℕ}
    (sent : avdtMsgSendTx peerMtu room cong pCurrMsg pMsg = some (packets, next, cong', room')) :
    SentFrom peerMtu curr packets next ∧ (cong' = false → next = none) := by
  simp only [avdtMsgSendTx, current, Option.bind_eq_bind, Option.bind_some] at sent
  cases cong with
  | true =>
    simp only [if_true, Option.pure_def, Option.some.injEq, Prod.mk.injEq] at sent
    obtain ⟨rfl, rfl, rfl, rfl⟩ := sent
    exact ⟨SentFrom.start mtu curr, fun never => absurd never (by decide)⟩
  | false =>
    obtain ⟨now, rfl, sentFrom, stops⟩ := sendCong_sentFrom mtu _ curr [] room sent
    exact ⟨sentFrom, stops⟩

end Resume

/-! ## The wire of an open channel -/

/-- A message as the queueing functions leave it: at `AVDT_MSG_OFFSET`, inside
its buffer. -/
def CurrMsg.Fresh (m : CurrMsg) : Prop := m.offset = avdtMsgOffset ∧ m.offset + m.len ≤ m.data.length

/-- What is on the wire of the message being sent: nothing if there is none,
else the first packets of a queued message, sent up to `p_curr_msg`. -/
def Sending (peerMtu : ℕ) (part : List (List UInt8)) : Option CurrMsg → Prop
  | none => part = []
  | some curr => ∃ m, m.Fresh ∧ SentFrom peerMtu m part (some curr)

/-- The wire of a channel sending `pCurrMsg`: whole queued messages, each as
`avdt_msg_send` sends it, then the packets sent of the one being sent. -/
def WireInv (peerMtu : ℕ) (pCurrMsg : Option CurrMsg) (wire : List (List UInt8)) : Prop :=
  ∃ (frames : List (List (List UInt8))) (part : List (List UInt8)), wire = frames.flatten ++ part ∧
    (∀ frame ∈ frames, ∃ m, m.Fresh ∧ avdtMsgSend peerMtu m = some frame) ∧ Sending peerMtu part pCurrMsg

/-- The invariant of an open channel's sending side: the queued messages and
the command in flight as they were queued, and the wire. -/
structure TxInv (peerMtu : ℕ) (s : CcbTx) (wire : List (List UInt8)) : Prop where
  cmdQ : ∀ m ∈ s.cmdQ, m.Fresh
  rspQ : ∀ m ∈ s.rspQ, m.Fresh
  pCurrCmd : ∀ m ∈ s.ccb.pCurrCmd, m.Fresh
  wire : WireInv peerMtu s.pCurrMsg wire

section Wire

variable {peerMtu : ℕ}

theorem CurrMsg.Fresh.copy {m : CurrMsg} (fresh : m.Fresh) : m.copy.Fresh := by
  obtain ⟨atStart, inside⟩ := fresh
  refine ⟨atStart, ?_⟩
  simp only [CurrMsg.copy, List.length_take]
  omega

/-- Packets sent of a queued message, after whole messages: a whole message
more once it is all sent. -/
theorem wireInv_of_sentFrom {frames : List (List (List UInt8))}
    (framed : ∀ frame ∈ frames, ∃ m, m.Fresh ∧ avdtMsgSend peerMtu m = some frame) {m : CurrMsg}
    (fresh : m.Fresh) {now : List (List UInt8)} {next : Option CurrMsg} (sentFrom : SentFrom peerMtu m now next) :
    WireInv peerMtu next (frames.flatten ++ now) := by
  cases next with
  | none =>
    refine ⟨frames ++ [now], [], by simp, fun frame mem => ?_, rfl⟩
    rcases List.mem_append.mp mem with old | new
    · exact framed frame old
    · obtain rfl := List.mem_singleton.mp new
      exact ⟨m, fresh, sentFrom⟩
  | some curr => exact ⟨frames, now, rfl, framed, m, fresh, sentFrom⟩

/-- A call of `avdt_msg_send` that goes on with the message being sent, or
starts a queued one when none is, keeps the wire whole messages and a part. -/
theorem wireInv_sendTx (mtu : avdtLenTypeStart < peerMtu) {pCurrMsg pMsg : Option CurrMsg}
    {wire : List (List UInt8)} (inv : WireInv peerMtu pCurrMsg wire) (clear : pMsg = none ∨ pCurrMsg = none)
    (fresh : ∀ m ∈ pMsg, m.Fresh) {room : ℕ} {cong cong' : Bool} {packets : List (List UInt8)}
    {next : Option CurrMsg} {room' : ℕ} (sent : avdtMsgSendTx peerMtu room cong pCurrMsg pMsg = some (packets, next, cong', room')) :
    WireInv peerMtu next (wire ++ packets) := by
  obtain ⟨frames, part, rfl, framed, sending⟩ := inv
  rcases clear with rfl | rfl
  · -- going on with `p_curr_msg`
    cases pCurrMsg with
    | none => simp [avdtMsgSendTx] at sent
    | some curr =>
      obtain ⟨m, mFresh, sentSoFar⟩ := sending
      rw [List.append_assoc]
      exact wireInv_of_sentFrom framed mFresh (sentSoFar.trans (avdtMsgSendTx_sentFrom mtu rfl sent).1)
  · -- a new message, nothing being sent
    cases pMsg with
    | none => simp [avdtMsgSendTx] at sent
    | some m =>
      have nothing : part = [] := sending
      rw [nothing, List.append_nil]
      exact wireInv_of_sentFrom framed (fresh m rfl) (avdtMsgSendTx_sentFrom mtu rfl sent).1

/-- `avdt_ccb_snd_cmd` keeps the invariant. -/
theorem avdtCcbSndCmd_inv (mtu : avdtLenTypeStart < peerMtu) {room : ℕ} {s s' : CcbTx}
    {packets : List (List UInt8)} {room' : ℕ} (sent : avdtCcbSndCmd peerMtu room s = some (s', packets, room'))
    {wire : List (List UInt8)} (inv : TxInv peerMtu s wire) : TxInv peerMtu s' (wire ++ packets) := by
  rcases avdtCcbSndCmd_cases sent with ⟨rfl, rfl, -⟩ | ⟨pMsg, cmdQ, pCurrMsg, cong, idle, queued, sentTx, rfl⟩
  · rw [List.append_nil]
    exact inv
  · have pMsgFresh : pMsg.Fresh := inv.cmdQ pMsg (by rw [queued]; exact List.mem_cons_self ..)
    exact ⟨fun m mem => inv.cmdQ m (by rw [queued]; exact List.mem_cons_of_mem _ mem), inv.rspQ,
      fun m mem => by cases mem; exact pMsgFresh.copy,
      wireInv_sendTx mtu inv.wire (.inr idle) (fun m mem => by cases mem; exact pMsgFresh) sentTx⟩

/-- The loop over `rsp_q` keeps the invariant: each response starts with
nothing being sent, since the one before went out whole. -/
theorem sndRsps_inv (mtu : avdtLenTypeStart < peerMtu) :
    ∀ (rspQ : List CurrMsg) {room : ℕ} {s : CcbTx} {wire : List (List UInt8)}, TxInv peerMtu s wire →
      (∀ m ∈ rspQ, m.Fresh) → s.pCurrMsg = none → ∀ {s' : CcbTx} {packets : List (List UInt8)} {room' : ℕ},
      sndRsps peerMtu room s rspQ = some (s', packets, room') → TxInv peerMtu s' (wire ++ packets)
  | [], room, s, wire, inv, _, _, s', packets, room', sent => by
    simp only [sndRsps, Option.some.injEq, Prod.mk.injEq] at sent
    obtain ⟨rfl, rfl, rfl⟩ := sent
    rw [List.append_nil]
    exact ⟨inv.cmdQ, (fun m mem => absurd mem List.not_mem_nil), inv.pCurrCmd, inv.wire⟩
  | pMsg :: rspQ, room, s, wire, inv, fresh, idle, s', packets, room', sent => by
    simp only [sndRsps, Option.bind_eq_bind, Option.bind_eq_some_iff] at sent
    obtain ⟨⟨packets₁, pCurrMsg, cong, room₁⟩, sentTx, rest⟩ := sent
    have inv₁ : TxInv peerMtu { s with rspQ, pCurrMsg, cong } (wire ++ packets₁) :=
      ⟨inv.cmdQ, fun m mem => fresh m (List.mem_cons_of_mem _ mem), inv.pCurrCmd,
        wireInv_sendTx mtu inv.wire (.inr idle) (fun m mem => by cases mem; exact fresh pMsg (List.mem_cons_self ..))
          sentTx⟩
    cases cong with
    | true =>
      -- congested: the loop breaks
      simp only [if_true, Option.pure_def, Option.some.injEq, Prod.mk.injEq] at rest
      obtain ⟨rfl, rfl, rfl⟩ := rest
      exact inv₁
    | false =>
      have sentWhole := (avdtMsgSendTx_sentFrom mtu rfl sentTx).2 rfl
      simp only [Bool.false_eq_true, if_false, Option.bind_eq_some_iff, Option.pure_def, Option.some.injEq,
        Prod.mk.injEq] at rest
      obtain ⟨⟨s₂, more, room₂⟩, sent₂, rfl, rfl, rfl⟩ := rest
      rw [← List.append_assoc]
      exact sndRsps_inv mtu rspQ inv₁ (fun m mem => fresh m (List.mem_cons_of_mem _ mem)) sentWhole sent₂

/-- `avdt_ccb_snd_msg` keeps the invariant. -/
theorem avdtCcbSndMsg_inv (mtu : avdtLenTypeStart < peerMtu) {room : ℕ} {s s' : CcbTx}
    {packets : List (List UInt8)} {room' : ℕ} (sent : avdtCcbSndMsg peerMtu room s = some (s', packets, room'))
    {wire : List (List UInt8)} (inv : TxInv peerMtu s wire) : TxInv peerMtu s' (wire ++ packets) := by
  rcases avdtCcbSndMsg_cases sent with ⟨rfl, rfl, -⟩ | ⟨s₁, packets₁, more, room₁, first, sent₂, rfl⟩
  · rw [List.append_nil]
    exact inv
  · have inv₁ : TxInv peerMtu s₁ (wire ++ packets₁) := by
      rcases sndMsgFirst_cases first with ⟨pCurrMsg, cong, sentTx, rfl⟩ | ⟨idle, sentRsps⟩ | ⟨rfl, rfl, -⟩
      · -- the message being sent goes on
        exact ⟨inv.cmdQ, inv.rspQ, inv.pCurrCmd,
          wireInv_sendTx mtu inv.wire (.inl rfl) (fun m none => absurd none (Option.not_mem_none m)) sentTx⟩
      · exact sndRsps_inv mtu s.rspQ inv inv.rspQ idle sentRsps
      · rw [List.append_nil]
        exact inv
    rw [← List.append_assoc]
    exact avdtCcbSndCmd_inv mtu sent₂ inv₁

/-- Failing or freeing the command in flight keeps the invariant. -/
theorem avdtCcbCmdFail_inv {allocated : ℕ → ℕ → Bool} {errCode : UInt8} {s s' : CcbTx} {actions : List IndAction}
    (failed : avdtCcbCmdFail allocated errCode s = some (s', actions)) {wire : List (List UInt8)}
    (inv : TxInv peerMtu s wire) : TxInv peerMtu s' wire := by
  obtain ⟨rfl, -⟩ := avdtCcbCmdFail_spec failed
  exact ⟨inv.cmdQ, inv.rspQ, (fun m none => absurd none (Option.not_mem_none m)), inv.wire⟩

/-- `avdt_ccb_ret_cmd` keeps the invariant: a retransmission is a copy of the
command in flight, sent whole when nothing else is being sent. -/
theorem avdtCcbRetCmd_inv (mtu : avdtLenTypeStart < peerMtu) {allocated : ℕ → ℕ → Bool} {s : CcbTx}
    {wire : List (List UInt8)} (inv : TxInv peerMtu s wire) {room : ℕ} {s' : CcbTx} {actions : List IndAction}
    {packets : List (List UInt8)} {room' : ℕ}
    (sent : avdtCcbRetCmd allocated peerMtu room s = some (s', actions, packets, room')) :
    TxInv peerMtu s' (wire ++ packets) := by
  unfold avdtCcbRetCmd at sent
  dsimp only at sent
  split_ifs at sent with atMax clear
  · -- the command fails, and the next one goes
    simp only [Option.bind_eq_bind, Option.bind_eq_some_iff, Option.pure_def, Option.some.injEq,
      Prod.mk.injEq] at sent
    obtain ⟨⟨s₁, failedActions⟩, failed, ⟨s₂, packets₂, room₂⟩, sent₂, rfl, rfl, rfl, rfl⟩ := sent
    exact avdtCcbSndCmd_inv mtu sent₂ (avdtCcbCmdFail_inv failed ⟨inv.cmdQ, inv.rspQ, inv.pCurrCmd, inv.wire⟩)
  · split at sent
    · next cmd inFlight =>
      simp only [Option.bind_eq_bind, Option.bind_eq_some_iff, Option.pure_def, Option.some.injEq,
        Prod.mk.injEq] at sent
      obtain ⟨⟨packets₁, pCurrMsg, cong, room₁⟩, sentTx, rfl, rfl, rfl, rfl⟩ := sent
      have cmdFresh : cmd.Fresh := inv.pCurrCmd cmd inFlight
      exact ⟨inv.cmdQ, inv.rspQ, inv.pCurrCmd,
        wireInv_sendTx mtu inv.wire (.inr clear.2) (fun m mem => by cases mem; exact cmdFresh.copy) sentTx⟩
    · simp only [Option.some.injEq, Prod.mk.injEq] at sent
      obtain ⟨rfl, rfl, rfl, rfl⟩ := sent
      rw [List.append_nil]
      exact ⟨inv.cmdQ, inv.rspQ, inv.pCurrCmd, inv.wire⟩
  · -- nothing is sent again
    split at sent <;>
    · simp only [Option.some.injEq, Prod.mk.injEq] at sent
      obtain ⟨rfl, rfl, rfl, rfl⟩ := sent
      rw [List.append_nil]
      exact ⟨inv.cmdQ, inv.rspQ, inv.pCurrCmd, inv.wire⟩

/-! ### Queueing -/

/-- The handles go in front of the message, in the buffer as it is. -/
theorem length_stashScb {pScb : ScbArg} {sigId : UInt8} {len : ℕ} {data data' : List UInt8}
    (stashed : stashScb pScb sigId len data = some data') : data'.length = data.length := by
  cases pScb with
  | none =>
    cases stashed
    rfl
  | scb hdl =>
    simp only [stashScb] at stashed
    split_ifs at stashed
    exact length_copyInto stashed
  | hdls hdls =>
    simp only [stashScb] at stashed
    split_ifs at stashed
    obtain ⟨read, -, copied⟩ := Option.bind_eq_some_iff.mp stashed
    exact length_copyInto copied

/-- `avdt_msg_send_cmd` queues a message at `AVDT_MSG_OFFSET` inside its
buffer, and leaves the command in flight alone. -/
theorem avdtMsgSendCmd_fresh {ccb ccb' : AvdtpCcb} {pScb : ScbArg} {sigId : UInt8} {pParams sent : AvdtMsg}
    {fresh : List UInt8} {pMsg : CurrMsg} (queued : avdtMsgSendCmd ccb pScb sigId pParams fresh = some (ccb', pMsg, sent)) :
    pMsg.Fresh ∧ ccb'.pCurrCmd = ccb.pCurrCmd := by
  simp only [avdtMsgSendCmd, Option.bind_eq_bind, Option.bind_eq_some_iff, Option.pure_def, Option.some.injEq,
    Prod.mk.injEq] at queued
  obtain ⟨_, -, data, copied, data', stashed, rfl, rfl, -⟩ := queued
  refine ⟨⟨rfl, ?_⟩, rfl⟩
  rw [length_stashScb stashed, length_copyInto copied]
  exact fits_of_copyInto copied

/-- `avdt_msg_send_cmd` moves the channel's label on, and nothing else of it. -/
theorem avdtMsgSendCmd_ccb {ccb ccb' : AvdtpCcb} {pScb : ScbArg} {sigId : UInt8} {pParams sent : AvdtMsg}
    {fresh : List UInt8} {pMsg : CurrMsg} (queued : avdtMsgSendCmd ccb pScb sigId pParams fresh = some (ccb', pMsg, sent)) :
    ccb' = { ccb with label := ccb.label + 1 } := by
  simp only [avdtMsgSendCmd, Option.bind_eq_bind, Option.bind_eq_some_iff, Option.pure_def, Option.some.injEq,
    Prod.mk.injEq] at queued
  obtain ⟨_, -, _, -, _, -, rfl, -, -⟩ := queued
  rfl

/-- `avdt_msg_send_rsp` queues a message at `AVDT_MSG_OFFSET` inside its buffer. -/
theorem avdtMsgSendRsp_fresh {sigId : UInt8} {pParams sent : AvdtMsg} {fresh : List UInt8} {pMsg : CurrMsg}
    (queued : avdtMsgSendRsp sigId pParams fresh = some (pMsg, sent)) : pMsg.Fresh := by
  simp only [avdtMsgSendRsp, Option.bind_eq_bind, Option.bind_eq_some_iff, Option.pure_def, Option.some.injEq,
    Prod.mk.injEq] at queued
  obtain ⟨_, -, data, copied, rfl, -⟩ := queued
  exact ⟨rfl, by rw [length_copyInto copied]; exact fits_of_copyInto copied⟩

/-- `avdt_msg_send_rej` queues a message at `AVDT_MSG_OFFSET` inside its buffer. -/
theorem avdtMsgSendRej_fresh {sigId : UInt8} {pParams : AvdtMsg} {fresh : List UInt8} {pMsg : CurrMsg}
    (queued : avdtMsgSendRej sigId pParams fresh = some pMsg) : pMsg.Fresh := by
  simp only [avdtMsgSendRej, Option.bind_eq_bind, Option.bind_eq_some_iff, Option.pure_def,
    Option.some.injEq] at queued
  obtain ⟨data, copied, rfl⟩ := queued
  exact ⟨rfl, by rw [length_copyInto copied]; exact fits_of_copyInto copied⟩

/-- A message appended to a queue of messages as queued. -/
theorem fresh_append {q : List CurrMsg} (queued : ∀ m ∈ q, m.Fresh) {pMsg : CurrMsg} (fresh : pMsg.Fresh) :
    ∀ m ∈ q ++ [pMsg], m.Fresh := by
  intro m mem
  rcases List.mem_append.mp mem with old | new
  · exact queued m old
  · rw [List.mem_singleton.mp new]
    exact fresh

/-- Every event of an open channel keeps the invariant. -/
theorem avdtCcbEventOpen_inv (mtu : avdtLenTypeStart < peerMtu) {allocated : ℕ → ℕ → Bool} {s : CcbTx}
    {wire : List (List UInt8)} (inv : TxInv peerMtu s wire) {ev : TxEvent} (wf : ev.Wf) {room : ℕ} {s' : CcbTx}
    {actions : List IndAction} {packets : List (List UInt8)}
    (stepped : avdtCcbEventOpen allocated peerMtu room s ev = some (s', actions, packets)) :
    TxInv peerMtu s' (wire ++ packets) := by
  cases ev <;>
    simp only [avdtCcbEventOpen, Option.bind_eq_bind, Option.bind_eq_some_iff, Option.pure_def,
      Option.some.injEq, Prod.mk.injEq] at stepped
  case sendCmd pScb sigId pParams fresh =>
    obtain ⟨⟨ccb, pMsg, _⟩, queued, ⟨s₁, packets₁, room₁⟩, sent, rfl, rfl, rfl⟩ := stepped
    obtain ⟨pMsgFresh, keeps⟩ := avdtMsgSendCmd_fresh queued
    exact avdtCcbSndMsg_inv mtu sent ⟨fresh_append inv.cmdQ pMsgFresh, inv.rspQ, by rw [keeps]; exact inv.pCurrCmd,
      inv.wire⟩
  case sendRsp sigId pParams fresh =>
    obtain ⟨⟨pMsg, _⟩, queued, ⟨s₁, packets₁, room₁⟩, sent, rfl, rfl, rfl⟩ := stepped
    exact avdtCcbSndMsg_inv mtu sent ⟨inv.cmdQ, fresh_append inv.rspQ (avdtMsgSendRsp_fresh queued), inv.pCurrCmd,
      inv.wire⟩
  case sendRej sigId pParams fresh =>
    obtain ⟨pMsg, queued, ⟨s₁, packets₁, room₁⟩, sent, rfl, rfl, rfl⟩ := stepped
    exact avdtCcbSndMsg_inv mtu sent ⟨inv.cmdQ, fresh_append inv.rspQ (avdtMsgSendRej_fresh queued), inv.pCurrCmd,
      inv.wire⟩
  case sendGrej sigId pParams fresh =>
    obtain ⟨⟨s₁, packets₁, room₁⟩, sent, rfl, rfl, rfl⟩ := stepped
    -- the empty buffer of a general reject lies inside the one allocated
    have grejFresh : (avdtMsgSendGrej sigId pParams fresh).Fresh := by
      simp only [TxEvent.Wf] at wf
      refine ⟨rfl, ?_⟩
      simp only [avdtMsgSendGrej, wf, avdtMsgOffset, l2capMinOffset, avdtNumSeps, avdtLenTypeStart, avdtCmdBufSize,
        btHdrSize]
      omega
    exact avdtCcbSndMsg_inv mtu sent ⟨inv.cmdQ, fresh_append inv.rspQ grejFresh, inv.pCurrCmd, inv.wire⟩
  case sendMsg =>
    obtain ⟨⟨s₁, packets₁, room₁⟩, sent, rfl, rfl, rfl⟩ := stepped
    exact avdtCcbSndMsg_inv mtu sent inv
  case rcvRsp =>
    obtain ⟨⟨s₁, packets₁, room₁⟩, sent, rfl, rfl, rfl⟩ := stepped
    exact avdtCcbSndCmd_inv mtu sent ⟨inv.cmdQ, inv.rspQ, (fun m none => absurd none (Option.not_mem_none m)), inv.wire⟩
  case retTout =>
    obtain ⟨⟨s₁, actions₁, packets₁, room₁⟩, sent, rfl, rfl, rfl⟩ := stepped
    exact avdtCcbRetCmd_inv mtu inv sent
  case rspTout =>
    obtain ⟨⟨s₁, actions₁⟩, failed, ⟨s₂, packets₂, room₂⟩, sent, rfl, rfl, rfl⟩ := stepped
    exact avdtCcbSndCmd_inv mtu sent (avdtCcbCmdFail_inv failed inv)
  case llCong llcong =>
    obtain ⟨⟨s₁, packets₁, room₁⟩, sent, rfl, rfl, rfl⟩ := stepped
    exact avdtCcbSndMsg_inv mtu sent ⟨inv.cmdQ, inv.rspQ, inv.pCurrCmd, inv.wire⟩

/-- Every run of an open channel keeps the invariant. -/
theorem txRun_inv (mtu : avdtLenTypeStart < peerMtu) {allocated : ℕ → ℕ → Bool} :
    ∀ (evs : List (TxEvent × ℕ)) {s : CcbTx} {wire : List (List UInt8)}, TxInv peerMtu s wire →
      (∀ ev ∈ evs, ev.1.Wf) → ∀ {s' : CcbTx} {actions : List IndAction} {packets : List (List UInt8)},
      txRun allocated peerMtu s evs = some (s', actions, packets) → TxInv peerMtu s' (wire ++ packets)
  | [], s, wire, inv, _, s', actions, packets, ran => by
    simp only [txRun, Option.some.injEq, Prod.mk.injEq] at ran
    obtain ⟨rfl, rfl, rfl⟩ := ran
    rw [List.append_nil]
    exact inv
  | (ev, room) :: evs, s, wire, inv, wf, s', actions, packets, ran => by
    simp only [txRun, Option.bind_eq_bind, Option.bind_eq_some_iff, Option.pure_def, Option.some.injEq,
      Prod.mk.injEq] at ran
    obtain ⟨⟨s₁, actions₁, packets₁⟩, stepped, ⟨s₂, more, rest⟩, ran₂, rfl, rfl, rfl⟩ := ran
    rw [← List.append_assoc]
    exact txRun_inv mtu evs (avdtCcbEventOpen_inv mtu inv (wf _ List.mem_cons_self) stepped)
      (fun ev mem => wf ev (List.mem_cons_of_mem _ mem)) ran₂

/-- A message as queued is sent as the peer puts it back together. -/
theorem delivers_of_fresh (mtu : avdtLenTypeStart < peerMtu) {m : CurrMsg} (fresh : m.Fresh)
    {packets : List (List UInt8)} (sent : avdtMsgSend peerMtu m = some packets) : Delivers peerMtu m packets := by
  obtain ⟨packets', sent', delivers⟩ := avdtMsgSend_delivers mtu fresh.1 fresh.2
  rw [sent] at sent'
  rw [Option.some.inj sent']
  exact delivers

/-- A channel sending nothing, with its messages as the queueing functions
leave them, starts with nothing on the wire. -/
theorem TxInv.idle {s : CcbTx} (idle : s.pCurrMsg = none) (queued : ∀ m ∈ s.cmdQ ++ s.rspQ, m.Fresh)
    (inFlight : ∀ m ∈ s.ccb.pCurrCmd, m.Fresh) : TxInv peerMtu s [] :=
  ⟨fun m mem => queued m (List.mem_append_left _ mem), fun m mem => queued m (List.mem_append_right _ mem),
    inFlight, [], [], rfl, (fun m mem => absurd mem List.not_mem_nil), by rw [idle]; rfl⟩

end Wire

/-- **The packets of two messages never interleave.**  Over any run of an open
channel that starts sending nothing, with every message queued as the queueing
functions queue them and L2CAP reporting congestion after any packet, the wire
is whole messages, each cut by `avdt_msg_send` from a message queued at
`AVDT_MSG_OFFSET` and put back together whole by the peer, then the first
packets of the message being sent, whose rest `avdt_msg_send` sends from
`p_curr_msg`. -/
theorem txRun_delivers {peerMtu : ℕ} (mtu : avdtLenTypeStart < peerMtu) {allocated : ℕ → ℕ → Bool} {s : CcbTx}
    (idle : s.pCurrMsg = none) (queued : ∀ m ∈ s.cmdQ ++ s.rspQ, m.Fresh) (inFlight : ∀ m ∈ s.ccb.pCurrCmd, m.Fresh)
    {evs : List (TxEvent × ℕ)} (wf : ∀ ev ∈ evs, ev.1.Wf) {s' : CcbTx} {actions : List IndAction}
    {wire : List (List UInt8)} (ran : txRun allocated peerMtu s evs = some (s', actions, wire)) :
    ∃ (frames : List (List (List UInt8))) (part : List (List UInt8)), wire = frames.flatten ++ part ∧
      (∀ frame ∈ frames, ∃ m : CurrMsg, m.Fresh ∧ avdtMsgSend peerMtu m = some frame ∧ Delivers peerMtu m frame) ∧
      (s'.pCurrMsg = none → part = []) ∧
      ∀ curr ∈ s'.pCurrMsg, ∃ (m : CurrMsg) (rest : List (List UInt8)), m.Fresh ∧
        avdtMsgSend peerMtu m = some (part ++ rest) ∧ Delivers peerMtu m (part ++ rest) ∧
        avdtMsgSend peerMtu curr = some rest := by
  obtain ⟨frames, part, onWire, framed, sending⟩ := (txRun_inv mtu evs (TxInv.idle idle queued inFlight) wf ran).wire
  refine ⟨frames, part, onWire, fun frame mem => ?_, fun none => ?_, fun curr current => ?_⟩
  · obtain ⟨m, fresh, sent⟩ := framed frame mem
    exact ⟨m, fresh, sent, delivers_of_fresh mtu fresh sent⟩
  · rw [none] at sending
    exact sending
  · rw [current] at sending
    obtain ⟨m, fresh, rest, sent, sentRest⟩ := sending
    exact ⟨m, rest, fresh, sent, delivers_of_fresh mtu fresh sent, sentRest⟩

/-- An open channel with nothing queued, in flight or being sent, at label `0`. -/
def openIdle : CcbTx := ⟨⟨⟨0, Nat.succ_pos 15⟩, none, none, .none, 0, 0, 0⟩, [], [], none, false⟩

/-- A security command of 101 octets, cut into three packets for an MTU of 48,
with L2CAP congested once two are written; a discover response queued
meanwhile, on a channel with no room; the last packet once the congestion
clears; the response on the next `AVDT_CCB_SENDMSG_EVT`; and a discover command
once the peer answers the first command. -/
def congestedTrace : List (TxEvent × ℕ) :=
  [(.sendCmd .none avdtSigSecurity
      { AvdtMsg.zero with hdr := ⟨0, 0, 0, 4, 0, 0⟩, data := (List.range 100).map UInt8.ofNat }
      (List.replicate 652 0), 1),
   (.sendRsp avdtSigDiscover
      { AvdtMsg.zero with
        hdr := ⟨0, 0, 3, 0, 0, 0⟩, numSeps := 2, sepInfo := [⟨false, 1, 0, 0⟩, ⟨true, 2, 0, 1⟩] }
      (List.replicate 652 0), 0),
   (.llCong false, 10),
   (.sendCmd .none avdtSigDiscover AvdtMsg.zero (List.replicate 652 0), 10),
   (.rcvRsp, 10)]

theorem congestedTrace_wf : ∀ ev ∈ congestedTrace, ev.1.Wf := by
  intro ev mem
  simp only [congestedTrace, List.mem_cons, List.not_mem_nil, or_false] at mem
  -- the three queueing events get the buffer `osi_malloc` returns; the others need nothing
  rcases mem with rfl | rfl | rfl | rfl | rfl
  · exact List.length_replicate
  · exact List.length_replicate
  · trivial
  · exact List.length_replicate
  · trivial

set_option maxRecDepth 4000 in
theorem txRun_delivers_congested :
    ∃ s' actions wire, txRun (fun _ _ => true) 48 openIdle congestedTrace = some (s', actions, wire) ∧
      wire.map List.length = [48, 48, 10, 6, 2] ∧
      ∃ (frames : List (List (List UInt8))) (part : List (List UInt8)), wire = frames.flatten ++ part ∧
        (∀ frame ∈ frames, ∃ m : CurrMsg, m.Fresh ∧ avdtMsgSend 48 m = some frame ∧ Delivers 48 m frame) ∧
        (s'.pCurrMsg = none → part = []) ∧
        ∀ curr ∈ s'.pCurrMsg, ∃ (m : CurrMsg) (rest : List (List UInt8)), m.Fresh ∧
          avdtMsgSend 48 m = some (part ++ rest) ∧ Delivers 48 m (part ++ rest) ∧ avdtMsgSend 48 curr = some rest :=
  ⟨_, _, _, rfl, rfl, @txRun_delivers 48 (by decide) (fun _ _ => true) openIdle rfl
    (fun m mem => absurd mem List.not_mem_nil) (fun m none => absurd none (Option.not_mem_none m))
    congestedTrace congestedTrace_wf _ _ _ rfl⟩

/-! ## Failing commands -/

section Fail

variable {allocated : ℕ → ℕ → Bool}

/-- The loop of `avdt_ccb_clear_cmds` fails every command, the one in flight
first and then the queued ones in order, and leaves none. -/
theorem clearCmdsLoop_spec : ∀ (cmdQ : List CurrMsg) {s s' : CcbTx} {actions : List IndAction},
    clearCmdsLoop allocated s cmdQ = some (s', actions) →
    s' = { s with ccb := { s.ccb with pCurrCmd := none }, cmdQ := [] } ∧
      ∃ raised, List.Forall₂ (fun cmd acts =>
          cmdFailActions allocated cmd (cmdFailMsg avdtErrConnect s.ccb.ccbIdx) = some acts)
        (s.ccb.pCurrCmd.toList ++ cmdQ) raised ∧ actions = raised.flatten
  | [], s, s', actions, cleared => by
    simp only [clearCmdsLoop, Option.bind_eq_bind, Option.bind_eq_some_iff, Option.pure_def, Option.some.injEq,
      Prod.mk.injEq] at cleared
    obtain ⟨⟨s₁, acts⟩, failed, rfl, rfl⟩ := cleared
    obtain ⟨rfl, raised, all, rfl⟩ := avdtCcbCmdFail_spec failed
    exact ⟨rfl, raised, by rw [List.append_nil]; exact all, rfl⟩
  | pMsg :: cmdQ, s, s', actions, cleared => by
    simp only [clearCmdsLoop, Option.bind_eq_bind, Option.bind_eq_some_iff, Option.pure_def, Option.some.injEq,
      Prod.mk.injEq] at cleared
    obtain ⟨⟨s₁, acts⟩, failed, ⟨s₂, more⟩, rest, rfl, rfl⟩ := cleared
    obtain ⟨rfl, raised, all, rfl⟩ := avdtCcbCmdFail_spec failed
    -- the next queued command becomes the one in flight, and the loop goes on
    obtain ⟨rfl, raised', all', rfl⟩ := clearCmdsLoop_spec cmdQ rest
    refine ⟨rfl, raised ++ raised', ?_, by rw [List.flatten_append]⟩
    rw [← List.singleton_append]
    exact List.rel_append all all'

/-- A related pair for each member of a list. -/
theorem exists_rel_of_forall₂ {α β : Type} {R : α → β → Prop} {l : List α} {m : List β} (rel : List.Forall₂ R l m)
    {a : α} (mem : a ∈ l) : ∃ b ∈ m, R a b := by
  induction rel with
  | nil => cases mem
  | cons head _ ih =>
    rcases List.mem_cons.mp mem with rfl | later
    · exact ⟨_, List.mem_cons_self, head⟩
    · obtain ⟨b, bMem, related⟩ := ih later
      exact ⟨b, List.mem_cons_of_mem _ bMem, related⟩

/-- `avdt_ccb_clear_cmds` leaves no command, and raises what failing each
command raises, the one in flight first, then the closing of the streams. -/
theorem avdtCcbClearCmds_spec {s s' : CcbTx} {actions : List IndAction}
    (cleared : avdtCcbClearCmds allocated s = some (s', actions)) :
    s'.ccb.pCurrCmd = none ∧ s'.cmdQ = [] ∧
      ∃ raised, List.Forall₂ (fun cmd acts =>
          cmdFailActions allocated cmd (cmdFailMsg avdtErrConnect s.ccb.ccbIdx) = some acts)
        (s.ccb.pCurrCmd.toList ++ s.cmdQ) raised ∧
        actions = raised.flatten ++ ccCloseActions allocated s.ccb.ccbIdx := by
  simp only [avdtCcbClearCmds, Option.bind_eq_bind, Option.bind_eq_some_iff, Option.pure_def, Option.some.injEq,
    Prod.mk.injEq] at cleared
  obtain ⟨⟨s₁, failedActs⟩, looped, rfl, rfl⟩ := cleared
  obtain ⟨rfl, raised, all, rfl⟩ := clearCmdsLoop_spec s.cmdQ looped
  exact ⟨rfl, rfl, raised, all, rfl⟩

/-- The fake reject of a DELAY_REPORT goes to its stream as event 0, which is
`AVDT_SCB_API_REMOVE_EVT`. -/
theorem cmdFailActions_delayRpt {cmd : CurrMsg} (delay : cmd.sig = avdtSigDelayRpt) {hdl : UInt8}
    (stash : cmd.data[0]? = some hdl) (known : avdtScbByHdl allocated hdl = true) (msg : AvdtMsg) :
    cmdFailActions allocated cmd msg = some [.scbEvent hdl avdtScbApiRemoveEvt msg] := by
  have noEvent : sigEntry avdtMsgRej2Evt avdtSigDelayRpt = some 0 := by decide
  simp [cmdFailActions, delay, noEvent, stash, known, avdtScbApiRemoveEvt]

/-- `avdt_msg_send_cmd` queues a command under the signal it is given. -/
theorem avdtMsgSendCmd_sig {ccb : AvdtpCcb} {pScb : ScbArg} {sigId : UInt8} {pParams : AvdtMsg}
    {fresh : List UInt8} {ccb' : AvdtpCcb} {cmd : CurrMsg} {sent : AvdtMsg}
    (queued : avdtMsgSendCmd ccb pScb sigId pParams fresh = some (ccb', cmd, sent)) : cmd.sig = sigId := by
  simp only [avdtMsgSendCmd, Option.bind_eq_bind, Option.bind_eq_some_iff, Option.pure_def,
    Option.some.injEq, Prod.mk.injEq] at queued
  obtain ⟨_, -, data, -, data', -, -, rfl, -⟩ := queued
  rfl

/-- **Closing the channel removes a stream with a DELAY_REPORT pending.**
`avdt_ccb_clear_cmds`, which a disconnection, a lost link and the idle timer
run, fails the command in flight and every queued one.  A DELAY_REPORT that
`avdt_msg_send_cmd` queued for a stream, and that is still pending, raises
`AVDT_SCB_API_REMOVE_EVT` on that stream, as if its owner had removed it. -/
theorem clearCmds_delayRpt {ccb ccb' : AvdtpCcb} {hdl : UInt8} {pParams : AvdtMsg} {fresh : List UInt8}
    {cmd : CurrMsg} {sent : AvdtMsg}
    (queued : avdtMsgSendCmd ccb (.scb hdl) avdtSigDelayRpt pParams fresh = some (ccb', cmd, sent))
    (known : avdtScbByHdl allocated hdl = true) {s s' : CcbTx} (pending : cmd ∈ s.ccb.pCurrCmd.toList ++ s.cmdQ)
    {actions : List IndAction} (cleared : avdtCcbClearCmds allocated s = some (s', actions)) :
    s'.ccb.pCurrCmd = none ∧ s'.cmdQ = [] ∧
      IndAction.scbEvent hdl avdtScbApiRemoveEvt (cmdFailMsg avdtErrConnect s.ccb.ccbIdx) ∈ actions := by
  obtain ⟨none, empty, raised, all, rfl⟩ := avdtCcbClearCmds_spec cleared
  obtain ⟨acts, mem, fails⟩ := exists_rel_of_forall₂ all pending
  rw [cmdFailActions_delayRpt (avdtMsgSendCmd_sig queued) (avdtMsgSendCmd_hdl queued) known,
    Option.some.injEq] at fails
  subst fails
  exact ⟨none, empty, List.mem_append_left _ (List.mem_flatten.mpr ⟨_, mem, List.mem_singleton_self _⟩)⟩

set_option maxRecDepth 4000 in
theorem clearCmds_delayRpt_queued :
    ∃ cmd sent, avdtMsgSendCmd ⟨0, none, none, .none, 0, 0, 0⟩ (.scb 1) avdtSigDelayRpt
        (Cmd.delayRpt 1 100).msg (List.replicate 652 0) = some (⟨1, none, none, .none, 0, 0, 0⟩, cmd, sent) ∧
      ∃ s' actions, avdtCcbClearCmds (fun _ _ => true) ⟨⟨0, none, none, .none, 0, 0, 0⟩, [cmd], [], none, false⟩ =
          some (s', actions) ∧
        s'.ccb.pCurrCmd = none ∧ s'.cmdQ = [] ∧
        IndAction.scbEvent 1 avdtScbApiRemoveEvt (cmdFailMsg avdtErrConnect 0) ∈ actions :=
  ⟨_, _, rfl, _, _, rfl,
    @clearCmds_delayRpt (fun _ _ => true) ⟨0, none, none, .none, 0, 0, 0⟩ ⟨1, none, none, .none, 0, 0, 0⟩ 1
      (Cmd.delayRpt 1 100).msg (List.replicate 652 0) _ _ rfl (by decide)
      ⟨⟨0, none, none, .none, 0, 0, 0⟩, [_], [], none, false⟩ ⟨⟨0, none, none, .none, 0, 0, 0⟩, [], [], none, false⟩
      (List.mem_singleton_self _) _ rfl⟩

end Fail

/-! ## Retransmission -/

section Frame

variable {allocated : ℕ → ℕ → Bool} {peerMtu : ℕ}

/-- A step that changes, of the CCB, only its label and the command in flight:
the reassembly, the procedure data, the retransmission count and the index are
left as they were. -/
def CcbFrame (s s' : CcbTx) : Prop :=
  ∃ (label : Fin 16) (pCurrCmd : Option CurrMsg), s'.ccb = { s.ccb with label, pCurrCmd }

theorem CcbFrame.refl (s : CcbTx) : CcbFrame s s := ⟨s.ccb.label, s.ccb.pCurrCmd, rfl⟩

theorem CcbFrame.of_ccb_eq {s s' : CcbTx} (same : s'.ccb = s.ccb) : CcbFrame s s' :=
  ⟨s.ccb.label, s.ccb.pCurrCmd, same⟩

theorem CcbFrame.trans {s₁ s₂ s₃ : CcbTx} (first : CcbFrame s₁ s₂) (second : CcbFrame s₂ s₃) : CcbFrame s₁ s₃ := by
  obtain ⟨label, pCurrCmd, same⟩ := first
  obtain ⟨label', pCurrCmd', same'⟩ := second
  exact ⟨label', pCurrCmd', by rw [same', same]⟩

theorem CcbFrame.retCount_eq {s s' : CcbTx} (frame : CcbFrame s s') : s'.ccb.retCount = s.ccb.retCount := by
  obtain ⟨label, pCurrCmd, same⟩ := frame
  rw [same]

theorem CcbFrame.pRxMsg_eq {s s' : CcbTx} (frame : CcbFrame s s') : s'.ccb.pRxMsg = s.ccb.pRxMsg := by
  obtain ⟨label, pCurrCmd, same⟩ := frame
  rw [same]

/-- Setting a count of 0 to 0 changes nothing. -/
theorem CcbTx.reset_retCount {s : CcbTx} (zero : s.ccb.retCount = 0) :
    { s with ccb := { s.ccb with retCount := 0 } } = s := by
  obtain ⟨⟨label, pCurrCmd, pRxMsg, procData, procParam, retCount, ccbIdx⟩, cmdQ, rspQ, pCurrMsg, cong⟩ := s
  dsimp only at zero
  subst zero
  rfl

theorem avdtCcbSndCmd_frame {room : ℕ} {s s' : CcbTx} {packets : List (List UInt8)} {room' : ℕ}
    (sent : avdtCcbSndCmd peerMtu room s = some (s', packets, room')) : CcbFrame s s' := by
  rcases avdtCcbSndCmd_cases sent with ⟨rfl, -, -⟩ | ⟨pMsg, cmdQ, pCurrMsg, cong, -, -, -, rfl⟩
  · exact .refl _
  · exact ⟨s.ccb.label, some pMsg.copy, rfl⟩

/-- The loop over `rsp_q` leaves the CCB alone. -/
theorem sndRsps_ccb : ∀ (rspQ : List CurrMsg) {room : ℕ} {s s' : CcbTx} {packets : List (List UInt8)} {room' : ℕ},
    sndRsps peerMtu room s rspQ = some (s', packets, room') → s'.ccb = s.ccb
  | [], room, s, s', packets, room', sent => by
    simp only [sndRsps, Option.some.injEq, Prod.mk.injEq] at sent
    obtain ⟨rfl, -, -⟩ := sent
    rfl
  | pMsg :: rspQ, room, s, s', packets, room', sent => by
    simp only [sndRsps, Option.bind_eq_bind, Option.bind_eq_some_iff] at sent
    obtain ⟨⟨packets₁, pCurrMsg, cong, room₁⟩, -, rest⟩ := sent
    cases cong with
    | true =>
      simp only [if_true, Option.pure_def, Option.some.injEq, Prod.mk.injEq] at rest
      obtain ⟨rfl, -, -⟩ := rest
      rfl
    | false =>
      simp only [Bool.false_eq_true, if_false, Option.bind_eq_some_iff, Option.pure_def, Option.some.injEq,
        Prod.mk.injEq] at rest
      obtain ⟨⟨s₂, more, room₂⟩, sent₂, rfl, -, -⟩ := rest
      have same := sndRsps_ccb rspQ sent₂
      exact same

theorem avdtCcbSndMsg_frame {room : ℕ} {s s' : CcbTx} {packets : List (List UInt8)} {room' : ℕ}
    (sent : avdtCcbSndMsg peerMtu room s = some (s', packets, room')) : CcbFrame s s' := by
  rcases avdtCcbSndMsg_cases sent with ⟨rfl, -, -⟩ | ⟨s₁, packets₁, more, room₁, first, sent₂, -⟩
  · exact .refl _
  · -- the first part sends what is already queued, and leaves the CCB alone
    have same : s₁.ccb = s.ccb := by
      rcases sndMsgFirst_cases first with ⟨pCurrMsg, cong, -, rfl⟩ | ⟨-, sentRsps⟩ | ⟨rfl, -, -⟩
      · rfl
      · exact sndRsps_ccb s.rspQ sentRsps
      · rfl
    exact (CcbFrame.of_ccb_eq same).trans (avdtCcbSndCmd_frame sent₂)

theorem avdtCcbCmdFail_frame {errCode : UInt8} {s s' : CcbTx} {actions : List IndAction}
    (failed : avdtCcbCmdFail allocated errCode s = some (s', actions)) : CcbFrame s s' :=
  ⟨s.ccb.label, none, by rw [(avdtCcbCmdFail_spec failed).1]⟩

/-- With no retransmission counted, `avdt_ccb_ret_cmd` reaches `AVDT_RET_MAX`
at once: it fails the command in flight and sends the next one, as a response
timeout does. -/
theorem avdtCcbRetCmd_of_zero {s : CcbTx} (zero : s.ccb.retCount = 0) (room : ℕ) :
    avdtCcbRetCmd allocated peerMtu room s = (do
      let (s, actions) ← avdtCcbCmdFail allocated avdtErrTimeout s
      let (s, packets, room) ← avdtCcbSndCmd peerMtu room s
      pure (s, actions, packets, room)) := by
  have atMax : s.ccb.retCount + 1 = avdtRetMax := by rw [zero]; rfl
  unfold avdtCcbRetCmd
  dsimp only
  rw [if_pos atMax, CcbTx.reset_retCount zero]

theorem avdtCcbEventOpen_frame {s : CcbTx} (zero : s.ccb.retCount = 0) {ev : TxEvent} {room : ℕ} {s' : CcbTx}
    {actions : List IndAction} {packets : List (List UInt8)}
    (stepped : avdtCcbEventOpen allocated peerMtu room s ev = some (s', actions, packets)) : CcbFrame s s' := by
  cases ev <;>
    simp only [avdtCcbEventOpen, Option.bind_eq_bind, Option.bind_eq_some_iff, Option.pure_def,
      Option.some.injEq, Prod.mk.injEq] at stepped
  case sendCmd pScb sigId pParams fresh =>
    obtain ⟨⟨ccb, pMsg, _⟩, queued, ⟨s₁, packets₁, room₁⟩, sent, rfl, -, -⟩ := stepped
    exact CcbFrame.trans ⟨s.ccb.label + 1, s.ccb.pCurrCmd, avdtMsgSendCmd_ccb queued⟩ (avdtCcbSndMsg_frame sent)
  case sendRsp sigId pParams fresh =>
    obtain ⟨_, -, ⟨s₁, packets₁, room₁⟩, sent, rfl, -, -⟩ := stepped
    have sentFrame := avdtCcbSndMsg_frame sent
    exact (CcbFrame.of_ccb_eq rfl).trans sentFrame
  case sendRej sigId pParams fresh =>
    obtain ⟨_, -, ⟨s₁, packets₁, room₁⟩, sent, rfl, -, -⟩ := stepped
    have sentFrame := avdtCcbSndMsg_frame sent
    exact (CcbFrame.of_ccb_eq rfl).trans sentFrame
  case sendGrej sigId pParams fresh =>
    obtain ⟨⟨s₁, packets₁, room₁⟩, sent, rfl, -, -⟩ := stepped
    have sentFrame := avdtCcbSndMsg_frame sent
    exact (CcbFrame.of_ccb_eq rfl).trans sentFrame
  case sendMsg =>
    obtain ⟨⟨s₁, packets₁, room₁⟩, sent, rfl, -, -⟩ := stepped
    exact avdtCcbSndMsg_frame sent
  case rcvRsp =>
    obtain ⟨⟨s₁, packets₁, room₁⟩, sent, rfl, -, -⟩ := stepped
    exact CcbFrame.trans ⟨s.ccb.label, none, rfl⟩ (avdtCcbSndCmd_frame sent)
  case retTout =>
    obtain ⟨⟨s₁, actions₁, packets₁, room₁⟩, sent, rfl, -, -⟩ := stepped
    -- with no retransmission counted, the command fails at once
    simp only [avdtCcbRetCmd_of_zero zero, Option.bind_eq_bind, Option.bind_eq_some_iff, Option.pure_def,
      Option.some.injEq, Prod.mk.injEq] at sent
    obtain ⟨⟨s₂, actions₂⟩, failed, ⟨s₃, packets₃, room₃⟩, sent, rfl, -, -, -⟩ := sent
    exact (avdtCcbCmdFail_frame failed).trans (avdtCcbSndCmd_frame sent)
  case rspTout =>
    obtain ⟨⟨s₁, actions₁⟩, failed, ⟨s₂, packets₂, room₂⟩, sent, rfl, -, -⟩ := stepped
    exact (avdtCcbCmdFail_frame failed).trans (avdtCcbSndCmd_frame sent)
  case llCong llcong =>
    obtain ⟨⟨s₁, packets₁, room₁⟩, sent, rfl, -, -⟩ := stepped
    have sentFrame := avdtCcbSndMsg_frame sent
    exact (CcbFrame.of_ccb_eq rfl).trans sentFrame

/-- Over a run from a CCB with no retransmission counted, the sending side
changes of the CCB only its label and its command in flight. -/
theorem txRun_frame : ∀ (evs : List (TxEvent × ℕ)) {s : CcbTx}, s.ccb.retCount = 0 →
    ∀ {s' : CcbTx} {actions : List IndAction} {wire : List (List UInt8)},
    txRun allocated peerMtu s evs = some (s', actions, wire) → CcbFrame s s'
  | [], s, _, s', actions, wire, ran => by
    simp only [txRun, Option.some.injEq, Prod.mk.injEq] at ran
    obtain ⟨rfl, -, -⟩ := ran
    exact .refl s
  | (ev, room) :: evs, s, zero, s', actions, wire, ran => by
    simp only [txRun, Option.bind_eq_bind, Option.bind_eq_some_iff, Option.pure_def, Option.some.injEq,
      Prod.mk.injEq] at ran
    obtain ⟨⟨s₁, actions₁, packets₁⟩, stepped, ⟨s₂, more, rest⟩, ran₂, rfl, -, -⟩ := ran
    -- the count is still 0 after the first event, and the run goes on from there
    have first := avdtCcbEventOpen_frame zero stepped
    exact first.trans (txRun_frame evs (by rw [first.retCount_eq, zero]) ran₂)

end Frame

/-- **A command is never sent again.**  With `AVDT_RET_MAX` at its default 1, over
any run of an open channel from a CCB with no retransmission counted, the
count stays 0 and the reassembly is left alone; so in every state reached,
`AVDT_CCB_RET_TOUT_EVT` does exactly what `AVDT_CCB_RSP_TOUT_EVT` does: it fails
the command in flight and sends the next one, and the branch of
`avdt_ccb_ret_cmd` that sends the command again is never taken. -/
theorem txRun_retTout_eq_rspTout {allocated : ℕ → ℕ → Bool} {peerMtu : ℕ} {s : CcbTx} (zero : s.ccb.retCount = 0)
    {evs : List (TxEvent × ℕ)} {s' : CcbTx} {actions : List IndAction} {wire : List (List UInt8)}
    (ran : txRun allocated peerMtu s evs = some (s', actions, wire)) :
    s'.ccb.retCount = 0 ∧ s'.ccb.pRxMsg = s.ccb.pRxMsg ∧
      ∀ room, avdtCcbEventOpen allocated peerMtu room s' .retTout = avdtCcbEventOpen allocated peerMtu room s' .rspTout := by
  have frame := txRun_frame evs zero ran
  have zero' : s'.ccb.retCount = 0 := by rw [frame.retCount_eq, zero]
  refine ⟨zero', frame.pRxMsg_eq, fun room => ?_⟩
  simp only [avdtCcbEventOpen, avdtCcbRetCmd_of_zero zero', Option.bind_eq_bind, Option.bind_assoc,
    Option.pure_def, Option.bind_some]

set_option maxRecDepth 4000 in
theorem txRun_retTout_eq_rspTout_discover :
    ∃ s' actions wire, txRun (fun _ _ => true) 48 ⟨⟨0, none, none, .none, 0, 0, 0⟩, [], [], none, false⟩
        [(.sendCmd .none avdtSigDiscover AvdtMsg.zero (List.replicate 652 0), 5), (.retTout, 5)] =
        some (s', actions, wire) ∧
      s'.ccb.retCount = 0 ∧ s'.ccb.pRxMsg = none ∧
      ∀ room, avdtCcbEventOpen (fun _ _ => true) 48 room s' .retTout =
        avdtCcbEventOpen (fun _ _ => true) 48 room s' .rspTout :=
  ⟨_, _, _, rfl, @txRun_retTout_eq_rspTout (fun _ _ => true) 48 ⟨⟨0, none, none, .none, 0, 0, 0⟩, [], [], none, false⟩
    rfl [(.sendCmd .none avdtSigDiscover AvdtMsg.zero (List.replicate 652 0), 5), (.retTout, 5)] _ _ _ rfl⟩

end Bluedroid.Avdt
