import Mathlib
import Bluedroid.Avdt.Fragmentation
import Bluedroid.Avdt.Signal

/-!
# Avdt.Ind -- queueing and receiving signalling messages

`avdt_msg_send_cmd`, `avdt_msg_send_rsp`, `avdt_msg_send_rej` and
`avdt_msg_send_grej` build a message into a fresh buffer at `AVDT_MSG_OFFSET`
and stash its signal, label and message type in the buffer's header;
`avdt_msg_send` then cuts it into packets (`Avdt.Msg`).  A command buffer also
hides the handles of the streams it is for in front of the message.

`avdt_msg_ind` takes each packet the channel receives: it reassembles
(`avdt_msg_asmbl`), reads the header and the signal, points the parser at
where it is to write (the application's storage `p_proc_data` for the
responses to DISCOVER, GETCAP and GET_ALLCAP), parses, and hands the message
to the channel's or a stream's state machine, after checking that a response
or reject answers the command in flight.

* `cmd_delivered`: a command the peer accepts, queued by `avdt_msg_send_cmd`
  and sent by `avdt_msg_send` over any MTU, raises at the peer exactly the
  event of its signal, with its parameters, whatever packets came before.
* `rsp_delivered`: a response sent under the header of the command in flight
  reaches the channel's state machine or the stream the command was for,
  with its parameters in the application's storage, and ends the command.
* `rej_delivered`: a reject of the command in flight is no general reject;
  it raises the event `avdt_msg_rej_2_evt` has for the command, with the error
  code and parameter sent, and ends the command.  A rejected DELAY_REPORT
  raises nothing but the end of the command.
* `avdtMsgInd_answers`: a response or reject raises an event only if its
  signal and label are those of the command in flight.
* `unanswered_getcap_rsp_overwrites`: a GETCAP response that answers no
  command is dropped, but only after it has been parsed into the
  application's storage, which `p_proc_data` still points to.

The CCB's timers, its queues and its state machine are not modelled: the
events `avdt_msg_ind` raises are its result.
-/

namespace Bluedroid.Avdt

open Bluedroid.Theory (copyInto readAt exists_copyInto drop_copyInto window_copyInto readAt_of_le getElem?_copyInto)

set_option autoImplicit false

/-! ## Constants -/

/-- `AVDT_MSG_TYPE_CMD`. -/
def avdtMsgTypeCmd : Fin 4 := 0

/-- `AVDT_MSG_TYPE_GRJ`. -/
def avdtMsgTypeGrj : Fin 4 := 1

/-- `AVDT_MSG_TYPE_RSP`. -/
def avdtMsgTypeRsp : Fin 4 := 2

/-- `AVDT_MSG_TYPE_REJ`. -/
def avdtMsgTypeRej : Fin 4 := 3

/-- `AVDT_LEN_GEN_REJ`. -/
def avdtLenGenRej : ℕ := 2

/-- `AVDT_ERR_NSC`. -/
def avdtErrNsc : UInt8 := 0x19

/-- `AVDT_CCB_MKR`: the bit that marks an event of the channel's state machine. -/
def avdtCcbMkr : UInt8 := 0x80

/-- `AVDT_CMD_BUF_SIZE`, `BT_SMALL_BUFFER_SIZE`. -/
def avdtCmdBufSize : ℕ := 660

/-- `AVDT_CCB_MSG_DISCOVER_CMD_EVT`. -/
def avdtCcbMsgDiscoverCmdEvt : UInt8 := 10

/-- `AVDT_CCB_MSG_GETCAP_CMD_EVT`. -/
def avdtCcbMsgGetcapCmdEvt : UInt8 := 11

/-- `AVDT_CCB_MSG_START_CMD_EVT`. -/
def avdtCcbMsgStartCmdEvt : UInt8 := 12

/-- `AVDT_CCB_MSG_SUSPEND_CMD_EVT`. -/
def avdtCcbMsgSuspendCmdEvt : UInt8 := 13

/-- `AVDT_CCB_MSG_DISCOVER_RSP_EVT`. -/
def avdtCcbMsgDiscoverRspEvt : UInt8 := 14

/-- `AVDT_CCB_MSG_GETCAP_RSP_EVT`. -/
def avdtCcbMsgGetcapRspEvt : UInt8 := 15

/-- `AVDT_CCB_MSG_START_RSP_EVT`. -/
def avdtCcbMsgStartRspEvt : UInt8 := 16

/-- `AVDT_CCB_MSG_SUSPEND_RSP_EVT`. -/
def avdtCcbMsgSuspendRspEvt : UInt8 := 17

/-- `AVDT_CCB_RCVRSP_EVT`. -/
def avdtCcbRcvrspEvt : UInt8 := 18

/-- `AVDT_SCB_MSG_SETCONFIG_CMD_EVT`. -/
def avdtScbMsgSetconfigCmdEvt : UInt8 := 18

/-- `AVDT_SCB_MSG_GETCONFIG_CMD_EVT`. -/
def avdtScbMsgGetconfigCmdEvt : UInt8 := 19

/-- `AVDT_SCB_MSG_OPEN_CMD_EVT`. -/
def avdtScbMsgOpenCmdEvt : UInt8 := 20

/-- `AVDT_SCB_MSG_CLOSE_CMD_EVT`. -/
def avdtScbMsgCloseCmdEvt : UInt8 := 23

/-- `AVDT_SCB_MSG_ABORT_CMD_EVT`. -/
def avdtScbMsgAbortCmdEvt : UInt8 := 24

/-- `AVDT_SCB_MSG_RECONFIG_CMD_EVT`. -/
def avdtScbMsgReconfigCmdEvt : UInt8 := 25

/-- `AVDT_SCB_MSG_SECURITY_CMD_EVT`. -/
def avdtScbMsgSecurityCmdEvt : UInt8 := 26

/-- `AVDT_SCB_MSG_DELAY_RPT_CMD_EVT`. -/
def avdtScbMsgDelayRptCmdEvt : UInt8 := 27

/-- `AVDT_SCB_MSG_DELAY_RPT_RSP_EVT`. -/
def avdtScbMsgDelayRptRspEvt : UInt8 := 28

/-- `AVDT_SCB_MSG_SETCONFIG_RSP_EVT`. -/
def avdtScbMsgSetconfigRspEvt : UInt8 := 29

/-- `AVDT_SCB_MSG_GETCONFIG_RSP_EVT`. -/
def avdtScbMsgGetconfigRspEvt : UInt8 := 30

/-- `AVDT_SCB_MSG_OPEN_RSP_EVT`. -/
def avdtScbMsgOpenRspEvt : UInt8 := 31

/-- `AVDT_SCB_MSG_CLOSE_RSP_EVT`. -/
def avdtScbMsgCloseRspEvt : UInt8 := 34

/-- `AVDT_SCB_MSG_ABORT_RSP_EVT`. -/
def avdtScbMsgAbortRspEvt : UInt8 := 35

/-- `AVDT_SCB_MSG_RECONFIG_RSP_EVT`. -/
def avdtScbMsgReconfigRspEvt : UInt8 := 36

/-- `AVDT_SCB_MSG_SECURITY_RSP_EVT`. -/
def avdtScbMsgSecurityRspEvt : UInt8 := 37

/-- `AVDT_SCB_MSG_SETCONFIG_REJ_EVT`. -/
def avdtScbMsgSetconfigRejEvt : UInt8 := 38

/-- `AVDT_SCB_MSG_OPEN_REJ_EVT`. -/
def avdtScbMsgOpenRejEvt : UInt8 := 39

/-- `avdt_msg_cmd_2_evt`, by signal. -/
def avdtMsgCmd2Evt : List UInt8 :=
  [avdtCcbMsgDiscoverCmdEvt + avdtCcbMkr, avdtCcbMsgGetcapCmdEvt + avdtCcbMkr, avdtScbMsgSetconfigCmdEvt,
    avdtScbMsgGetconfigCmdEvt, avdtScbMsgReconfigCmdEvt, avdtScbMsgOpenCmdEvt, avdtCcbMsgStartCmdEvt + avdtCcbMkr,
    avdtScbMsgCloseCmdEvt, avdtCcbMsgSuspendCmdEvt + avdtCcbMkr, avdtScbMsgAbortCmdEvt, avdtScbMsgSecurityCmdEvt,
    avdtCcbMsgGetcapCmdEvt + avdtCcbMkr, avdtScbMsgDelayRptCmdEvt]

/-- `avdt_msg_rsp_2_evt`, by signal. -/
def avdtMsgRsp2Evt : List UInt8 :=
  [avdtCcbMsgDiscoverRspEvt + avdtCcbMkr, avdtCcbMsgGetcapRspEvt + avdtCcbMkr, avdtScbMsgSetconfigRspEvt,
    avdtScbMsgGetconfigRspEvt, avdtScbMsgReconfigRspEvt, avdtScbMsgOpenRspEvt, avdtCcbMsgStartRspEvt + avdtCcbMkr,
    avdtScbMsgCloseRspEvt, avdtCcbMsgSuspendRspEvt + avdtCcbMkr, avdtScbMsgAbortRspEvt, avdtScbMsgSecurityRspEvt,
    avdtCcbMsgGetcapRspEvt + avdtCcbMkr, avdtScbMsgDelayRptRspEvt]

/-- `avdt_msg_rej_2_evt`, by signal. -/
def avdtMsgRej2Evt : List UInt8 :=
  [avdtCcbMsgDiscoverRspEvt + avdtCcbMkr, avdtCcbMsgGetcapRspEvt + avdtCcbMkr, avdtScbMsgSetconfigRejEvt,
    avdtScbMsgGetconfigRspEvt, avdtScbMsgReconfigRspEvt, avdtScbMsgOpenRejEvt, avdtCcbMsgStartRspEvt + avdtCcbMkr,
    avdtScbMsgCloseRspEvt, avdtCcbMsgSuspendRspEvt + avdtCcbMkr, avdtScbMsgAbortRspEvt, avdtScbMsgSecurityRspEvt,
    avdtCcbMsgGetcapRspEvt + avdtCcbMkr, 0]

/-! ## The channel control block -/

/-- What `p_proc_data` points to: nothing, the application's SEP information
array of a discover procedure, or its configuration of a get capabilities
procedure. -/
inductive ProcData where
  | none
  | sepInfo (infos : List SepInfo)
  | cfg (cfg : AvdtpSepConfig)
  deriving DecidableEq, Repr

/-- The fields of `AvdtpCcb` that queueing and receiving a signalling message
read and write: the next label, the command in flight, the message being
reassembled, the procedure's storage and parameter, the retransmission count,
and `avdt_ccb_to_idx(p_ccb)`. -/
structure AvdtpCcb where
  label : Fin 16
  pCurrCmd : Option CurrMsg
  pRxMsg : Option RxMsg
  procData : ProcData
  procParam : UInt8
  retCount : ℕ
  ccbIdx : UInt8

/-- `AvdtpSepConfig cfg{}`. -/
def AvdtpSepConfig.zero : AvdtpSepConfig :=
  ⟨List.replicate avdtCodecSize 0, List.replicate avdtProtectSize 0, 0, 0, 0, 0, 0, 0, 0⟩

/-- What `avdt_msg_ind` hands on: an event to the channel's state machine, with
the message or `NULL`; an event to the stream of a handle, with a message or,
as the channel's actions raise it when it closes, with `NULL`; a general reject
or a reject to send back. -/
inductive IndAction where
  | ccbEvent (evt : UInt8) (msg : Option AvdtMsg)
  | scbEvent (hdl : UInt8) (evt : UInt8) (msg : AvdtMsg)
  | scbEventNoData (hdl : UInt8) (evt : UInt8)
  | sendGrej (sigId : UInt8) (msg : AvdtMsg)
  | sendRej (sigId : UInt8) (msg : AvdtMsg)

/-! ## Queueing -/

/-- The argument `p_scb` of `avdt_msg_send_cmd`: none, the stream a command is
for, or the array of handles of a START or SUSPEND. -/
inductive ScbArg where
  | none
  | scb (hdl : UInt8)
  | hdls (hdls : List UInt8)

/-- A `p_scb` of the kind `avdt_msg_send_cmd` expects for a message of `len`
octets: the handles of START and SUSPEND, one per octet and at most
`AVDT_NUM_SEPS` (the room in front of the message), one stream for the other
signals, or none. -/
def ScbArg.Fits (sigId : UInt8) (len : ℕ) : ScbArg → Prop
  | .none => True
  | .scb _ => ¬(sigId = avdtSigStart ∨ sigId = avdtSigSuspend)
  | .hdls hs => (sigId = avdtSigStart ∨ sigId = avdtSigSuspend) ∧ len ≤ hs.length ∧ len ≤ avdtNumSeps

/-- The block of `avdt_msg_send_cmd` that stores the handles at the start of
the buffer, in front of the message of `len` octets: as many handles of the
array of a START or SUSPEND, the handle of the stream of any other command;
`none` for a read past the array or a `p_scb` of the other kind. -/
def stashScb (pScb : ScbArg) (sigId : UInt8) (len : ℕ) (data : List UInt8) : Option (List UInt8) :=
  match pScb with
  | .none => some data
  | .hdls hdls =>
    if sigId = avdtSigStart ∨ sigId = avdtSigSuspend then do copyInto data 0 (← readAt hdls 0 len)
    else none
  | .scb hdl => if sigId = avdtSigStart ∨ sigId = avdtSigSuspend then none else copyInto data 0 [hdl]

/-- `avdt_msg_send_cmd`: the CCB with its label moved on, the buffer it queues
on `cmd_q`, and the parameters after the builder.  `fresh` is the data of the
buffer `osi_malloc` returned; `none` is a write past it, a read past the
handles, or handles of the wrong kind. -/
def avdtMsgSendCmd (ccb : AvdtpCcb) (pScb : ScbArg) (sigId : UInt8) (pParams : AvdtMsg) (fresh : List UInt8) :
    Option (AvdtpCcb × CurrMsg × AvdtMsg) := do
  let (bytes, pParams) ← bldBy avdtMsgBldCmd sigId pParams
  let data ← copyInto fresh avdtMsgOffset bytes
  let data ← stashScb pScb sigId bytes.length data
  pure ({ ccb with label := ccb.label + 1 },
    ⟨data, avdtMsgOffset, bytes.length, ccb.label, avdtMsgTypeCmd, sigId⟩, pParams)

/-- `avdt_msg_send_rsp`: the buffer it queues on `rsp_q`, and the parameters
after the builder. -/
def avdtMsgSendRsp (sigId : UInt8) (pParams : AvdtMsg) (fresh : List UInt8) : Option (CurrMsg × AvdtMsg) := do
  let (bytes, pParams) ← bldBy avdtMsgBldRsp sigId pParams
  let data ← copyInto fresh avdtMsgOffset bytes
  pure (⟨data, avdtMsgOffset, bytes.length, Fin.ofNat 16 pParams.hdr.label.toNat, avdtMsgTypeRsp, sigId⟩, pParams)

/-- `avdt_msg_send_rej`: the buffer it queues on `rsp_q`. -/
def avdtMsgSendRej (sigId : UInt8) (pParams : AvdtMsg) (fresh : List UInt8) : Option CurrMsg := do
  let bytes := avdtMsgBldRej sigId pParams
  let data ← copyInto fresh avdtMsgOffset bytes
  pure ⟨data, avdtMsgOffset, bytes.length, Fin.ofNat 16 pParams.hdr.label.toNat, avdtMsgTypeRej, sigId⟩

/-- `avdt_msg_send_grej`: the empty buffer it queues on `rsp_q`. -/
def avdtMsgSendGrej (sigId : UInt8) (pParams : AvdtMsg) (fresh : List UInt8) : CurrMsg :=
  ⟨fresh, avdtMsgOffset, 0, Fin.ofNat 16 pParams.hdr.label.toNat, avdtMsgTypeGrj, sigId⟩

/-! ## Receiving -/

/-- Where `avdt_msg_ind` has the parser write: for a response to DISCOVER the
application's array and the room it gave, for a response to GETCAP or
GET_ALLCAP the application's configuration (`NULL` if there is none), and a
zeroed configuration of its own for a response to GETCONFIG and a SETCONFIG or
RECONFIG command.  A SEP information array through a pointer to anything else
has no room; a configuration written over a SEP information array is `none`. -/
def indSetup (ccb : AvdtpCcb) (msgType : Fin 4) (sig : UInt8) (msg : AvdtMsg) : Option AvdtMsg :=
  if msgType = avdtMsgTypeRsp ∧ sig = avdtSigDiscover then
    match ccb.procData with
    | .sepInfo infos => some { msg with sepInfo := infos, numSeps := ccb.procParam }
    | _ => some { msg with sepInfo := [], numSeps := ccb.procParam }
  else if msgType = avdtMsgTypeRsp ∧ (sig = avdtSigGetcap ∨ sig = avdtSigGetAllcap) then
    match ccb.procData with
    | .none => some { msg with cfg := none }
    | .cfg cfg => some { msg with cfg := some cfg }
    | .sepInfo _ => none
  else if msgType = avdtMsgTypeRsp ∧ sig = avdtSigGetconfig ∨
      msgType = avdtMsgTypeCmd ∧ (sig = avdtSigSetconfig ∨ sig = avdtSigReconfig) then
    some { msg with cfg := some AvdtpSepConfig.zero }
  else some msg

/-- The parse of `avdt_msg_ind`: the message after the parser of the message
type and signal, the error, and the event the signal maps to. -/
def indParse (allocated : ℕ → ℕ → Bool) (msgType : Fin 4) (sig : UInt8) (msg : AvdtMsg) (p : List UInt8) :
    Option (AvdtMsg × UInt8 × UInt8) :=
  if msgType = avdtMsgTypeCmd then do
    let (msg, err) ← prsBy avdtMsgPrsCmd sig allocated msg p
    let evt ← sigEntry avdtMsgCmd2Evt sig
    pure (msg.withErrCode err, err, evt)
  else if msgType = avdtMsgTypeRsp then do
    let (msg, err) ← prsBy avdtMsgPrsRsp sig allocated msg p
    let evt ← sigEntry avdtMsgRsp2Evt sig
    pure (msg.withErrCode err, err, evt)
  else do
    let (msg, err) ← avdtMsgPrsRej msg p sig
    let evt ← sigEntry avdtMsgRej2Evt sig
    pure (msg, err, evt)

/-- What the parser wrote through `p_proc_data` stays in the application's
storage, whatever becomes of the message. -/
def indWriteBack (ccb : AvdtpCcb) (msgType : Fin 4) (sig : UInt8) (msg : AvdtMsg) : AvdtpCcb :=
  if msgType = avdtMsgTypeRsp ∧ sig = avdtSigDiscover then
    match ccb.procData with
    | .sepInfo _ => { ccb with procData := .sepInfo msg.sepInfo }
    | _ => ccb
  else if msgType = avdtMsgTypeRsp ∧ (sig = avdtSigGetcap ∨ sig = avdtSigGetAllcap) then
    match msg.cfg with
    | some cfg => { ccb with procData := .cfg cfg }
    | none => ccb
  else ccb

/-- The hand-over at the end of `avdt_msg_ind`: a CCB event, or an event to the
stream of the SEID, the message's for a command and the one hidden in the
command in flight for a response. -/
def indDeliver (allocated : ℕ → ℕ → Bool) (ccb : AvdtpCcb) (msgType : Fin 4) (evt : UInt8) (msg : AvdtMsg) :
    Option (List IndAction) :=
  if evt &&& avdtCcbMkr ≠ 0 then some [.ccbEvent (evt &&& ~~~avdtCcbMkr) (some msg)]
  else do
    let scbHdl ← if msgType = avdtMsgTypeCmd then some msg.hdr.seid else ccb.pCurrCmd.bind fun cmd => cmd.data[0]?
    pure (if evt ≠ 0 ∧ avdtScbByHdl allocated scbHdl = true then [.scbEvent scbHdl evt msg] else [])

/-- The end of `avdt_msg_ind` for a message that parsed: a response or reject is
dropped unless it has the signal and label of the command in flight, whose
retransmissions it then stops. -/
def indFinish (allocated : ℕ → ℕ → Bool) (ccb : AvdtpCcb) (msgType : Fin 4) (sig label evt : UInt8)
    (msg : AvdtMsg) : Option (AvdtpCcb × List IndAction) :=
  if msgType = avdtMsgTypeRsp ∨ msgType = avdtMsgTypeRej then
    match ccb.pCurrCmd with
    | some cmd =>
      if cmd.sig = sig ∧ UInt8.ofNat cmd.label.val = label then do
        let actions ← indDeliver allocated ccb msgType evt msg
        pure ({ ccb with retCount := 0 }, actions ++ [.ccbEvent avdtCcbRcvrspEvt none])
      else some (ccb, [])
    | none => some (ccb, [])
  else do
    let actions ← indDeliver allocated ccb msgType evt msg
    pure (ccb, actions)

/-- The message `avdt_msg_ind` starts from: `msg{}` with the label and the
channel's index. -/
def indStart (label ccbIdx : UInt8) : AvdtMsg :=
  { AvdtMsg.zero with hdr := { AvdtMsg.zero.hdr with label := label, ccbIdx := ccbIdx } }

/-- `msg.hdr.sig_id = sig`. -/
@[simps]
def AvdtMsg.withSigId (msg : AvdtMsg) (sig : UInt8) : AvdtMsg := { msg with hdr := { msg.hdr with sigId := sig } }

/-- `avdt_msg_ind` on a reassembled message: header, signal, parse, hand-over. -/
def indMsg (allocated : ℕ → ℕ → Bool) (ccb : AvdtpCcb) (buf : BtHdr) : Option (AvdtpCcb × List IndAction) := do
  let octet ← buf.bytes[0]?
  let label := (octet >>> 4) &&& 0x0F
  let msgType := Fin.ofNat 4 (octet &&& 0x03).toNat
  let msg := indStart label ccb.ccbIdx
  if msgType = avdtMsgTypeGrj then some (ccb, [])
  else if msgType = avdtMsgTypeRej ∧ buf.len = avdtLenGenRej then
    -- a general reject: it answers the command in flight, if there is one
    match ccb.pCurrCmd with
    | some cmd => do
      let evt ← sigEntry avdtMsgRej2Evt cmd.sig
      let msg := { msg with hdr := { msg.hdr with sigId := cmd.sig, errCode := avdtErrNsc, errParam := 0 } }
      indFinish allocated ccb msgType cmd.sig label evt msg
    | none => indFinish allocated ccb msgType 0 label 0 msg
  else do
    let sig := (← buf.bytes[1]?) &&& 0x3F
    let msg := msg.withSigId sig
    if sig = 0 ∨ sig > avdtSigMax then some (ccb, if msgType = avdtMsgTypeCmd then [.sendGrej sig msg] else [])
    else
      let msg ← indSetup ccb msgType sig msg
      let (msg, err, evt) ← indParse allocated msgType sig msg (buf.bytes.drop avdtLenTypeSingle)
      let ccb := indWriteBack ccb msgType sig msg
      if err ≠ 0 then
        -- a command that fails to parse is rejected, but for an ABORT
        some (ccb, if msgType = avdtMsgTypeCmd ∧ sig ≠ avdtSigAbort then [.sendRej sig msg] else [])
      else indFinish allocated ccb msgType sig label evt msg

/-- `avdt_msg_ind`: the CCB after the packet in `pBuf` and what it hands on;
`none` for a read past the message or a write past a buffer. -/
def avdtMsgInd (allocated : ℕ → ℕ → Bool) (ccb : AvdtpCcb) (pBuf : BtHdr) : Option (AvdtpCcb × List IndAction) := do
  let (pRxMsg, ret) ← avdtMsgAsmbl ccb.pRxMsg pBuf
  let ccb := { ccb with pRxMsg := pRxMsg }
  match ret with
  | none => some (ccb, [])
  | some buf => indMsg allocated ccb buf

/-- `avdt_msg_ind` on each packet in turn: the CCB after the last, and all that
was handed on. -/
def indRun (allocated : ℕ → ℕ → Bool) : AvdtpCcb → List BtHdr → Option (AvdtpCcb × List IndAction)
  | ccb, [] => some (ccb, [])
  | ccb, pBuf :: pBufs => do
    let (ccb, actions) ← avdtMsgInd allocated ccb pBuf
    let (ccb, rest) ← indRun allocated ccb pBufs
    pure (ccb, actions ++ rest)

/-! ## What a command raises at the peer -/

/-- A command fits the buffer `avdt_msg_send_cmd` allocates: only security data
can be too long for it. -/
def Cmd.Fits : Cmd → Prop
  | .security _ data => avdtMsgOffset + 1 + data.length ≤ avdtCmdBufSize - btHdrSize
  | _ => True

/-- The event a command raises at the peer, with the message parsed: one of the
channel's state machine for DISCOVER, GETCAP, START, SUSPEND and GET_ALLCAP,
one of the addressed stream's for the others. -/
def Cmd.delivery : Cmd → AvdtMsg → IndAction
  | .discover, msg => .ccbEvent avdtCcbMsgDiscoverCmdEvt (some msg)
  | .getcap _, msg | .getAllcap _, msg => .ccbEvent avdtCcbMsgGetcapCmdEvt (some msg)
  | .start _, msg => .ccbEvent avdtCcbMsgStartCmdEvt (some msg)
  | .suspend _, msg => .ccbEvent avdtCcbMsgSuspendCmdEvt (some msg)
  | .setconfig seid .., msg => .scbEvent seid avdtScbMsgSetconfigCmdEvt msg
  | .getconfig seid, msg => .scbEvent seid avdtScbMsgGetconfigCmdEvt msg
  | .reconfig seid _, msg => .scbEvent seid avdtScbMsgReconfigCmdEvt msg
  | .openStream seid, msg => .scbEvent seid avdtScbMsgOpenCmdEvt msg
  | .close seid, msg => .scbEvent seid avdtScbMsgCloseCmdEvt msg
  | .abort seid, msg => .scbEvent seid avdtScbMsgAbortCmdEvt msg
  | .security seid _, msg => .scbEvent seid avdtScbMsgSecurityCmdEvt msg
  | .delayRpt seid _, msg => .scbEvent seid avdtScbMsgDelayRptCmdEvt msg

/-! ## What a response raises at the channel that sent the command -/

/-- A response fits the buffer `avdt_msg_send_rsp` allocates: only security
data can be too long for it. -/
def Rsp.Fits : Rsp → Prop
  | .security data => avdtMsgOffset + data.length ≤ avdtCmdBufSize - btHdrSize
  | _ => True

/-- The storage the application gave for the procedure, where `avdt_msg_ind`
has the parser write: an array with room for the entries of a DISCOVER
response, a configuration for a GETCAP or GET_ALLCAP response. -/
def Rsp.Awaits : Rsp → AvdtpCcb → Prop
  | .discover infos, ccb =>
    ∃ arr, ccb.procData = .sepInfo arr ∧ infos.length ≤ ccb.procParam.toNat ∧ ccb.procParam.toNat ≤ arr.length
  | .getcap _, ccb | .getAllcap _, ccb => ∃ stored, ccb.procData = .cfg stored ∧ stored.Wf
  | _, _ => True

/-- Whether the response goes to a stream's state machine, the one whose handle
the command in flight hides in front of it. -/
def Rsp.toScb : Rsp → Bool
  | .discover _ | .getcap _ | .start | .suspend | .getAllcap _ => false
  | _ => true

/-- The event a response raises with the message parsed: one of the channel's
state machine, or one of the stream of the handle `hdl`. -/
def Rsp.delivery : Rsp → UInt8 → AvdtMsg → IndAction
  | .discover _, _, msg => .ccbEvent avdtCcbMsgDiscoverRspEvt (some msg)
  | .getcap _, _, msg | .getAllcap _, _, msg => .ccbEvent avdtCcbMsgGetcapRspEvt (some msg)
  | .start, _, msg => .ccbEvent avdtCcbMsgStartRspEvt (some msg)
  | .suspend, _, msg => .ccbEvent avdtCcbMsgSuspendRspEvt (some msg)
  | .setconfig, hdl, msg => .scbEvent hdl avdtScbMsgSetconfigRspEvt msg
  | .getconfig _, hdl, msg => .scbEvent hdl avdtScbMsgGetconfigRspEvt msg
  | .reconfig, hdl, msg => .scbEvent hdl avdtScbMsgReconfigRspEvt msg
  | .openStream, hdl, msg => .scbEvent hdl avdtScbMsgOpenRspEvt msg
  | .close, hdl, msg => .scbEvent hdl avdtScbMsgCloseRspEvt msg
  | .abort, hdl, msg => .scbEvent hdl avdtScbMsgAbortRspEvt msg
  | .security _, hdl, msg => .scbEvent hdl avdtScbMsgSecurityRspEvt msg
  | .delayRpt, hdl, msg => .scbEvent hdl avdtScbMsgDelayRptRspEvt msg

/-! ## What a reject raises at the channel that sent the command -/

/-- Whether the command is for one stream, whose handle `avdt_msg_send_cmd`
puts in front of it. -/
def Cmd.toScb : Cmd → Bool
  | .discover | .getcap _ | .start _ | .suspend _ | .getAllcap _ => false
  | _ => true

/-- What a reject of the command raises with the message parsed: the event of
`avdt_msg_rej_2_evt`, to the channel's state machine or to the stream of the
handle `hdl`; nothing for a DELAY_REPORT, whose entry is 0. -/
def Cmd.rejDelivery : Cmd → UInt8 → AvdtMsg → List IndAction
  | .discover, _, msg => [.ccbEvent avdtCcbMsgDiscoverRspEvt (some msg)]
  | .getcap _, _, msg | .getAllcap _, _, msg => [.ccbEvent avdtCcbMsgGetcapRspEvt (some msg)]
  | .start _, _, msg => [.ccbEvent avdtCcbMsgStartRspEvt (some msg)]
  | .suspend _, _, msg => [.ccbEvent avdtCcbMsgSuspendRspEvt (some msg)]
  | .setconfig .., hdl, msg => [.scbEvent hdl avdtScbMsgSetconfigRejEvt msg]
  | .getconfig _, hdl, msg => [.scbEvent hdl avdtScbMsgGetconfigRspEvt msg]
  | .reconfig .., hdl, msg => [.scbEvent hdl avdtScbMsgReconfigRspEvt msg]
  | .openStream _, hdl, msg => [.scbEvent hdl avdtScbMsgOpenRejEvt msg]
  | .close _, hdl, msg => [.scbEvent hdl avdtScbMsgCloseRspEvt msg]
  | .abort _, hdl, msg => [.scbEvent hdl avdtScbMsgAbortRspEvt msg]
  | .security .., hdl, msg => [.scbEvent hdl avdtScbMsgSecurityRspEvt msg]
  | .delayRpt .., _, _ => []

/-! ## The stages of `avdt_msg_ind` -/

section Receive

variable {allocated : ℕ → ℕ → Bool}

/-- A packet that completes no message changes only the reassembly. -/
theorem avdtMsgInd_fragment {ccb : AvdtpCcb} {pBuf : BtHdr} {pRxMsg : Option RxMsg}
    (asmbl : avdtMsgAsmbl ccb.pRxMsg pBuf = some (pRxMsg, none)) :
    avdtMsgInd allocated ccb pBuf = some ({ ccb with pRxMsg := pRxMsg }, []) := by
  simp only [avdtMsgInd, asmbl, Option.bind_eq_bind, Option.bind_some]

/-- A packet that completes a message has it handled. -/
theorem avdtMsgInd_whole {ccb : AvdtpCcb} {pBuf buf : BtHdr} {pRxMsg : Option RxMsg}
    (asmbl : avdtMsgAsmbl ccb.pRxMsg pBuf = some (pRxMsg, some buf)) :
    avdtMsgInd allocated ccb pBuf = indMsg allocated { ccb with pRxMsg := pRxMsg } buf := by
  simp only [avdtMsgInd, asmbl, Option.bind_eq_bind, Option.bind_some]

/-- The first packet of a run, and what the reassembly makes of the others. -/
theorem asmblRun_cons_eq_some {pRxMsg : Option RxMsg} {pBuf : BtHdr} {pBufs : List BtHdr} {ret : Option BtHdr}
    {rets : List (Option BtHdr)} (run : asmblRun pRxMsg (pBuf :: pBufs) = some (ret :: rets)) :
    ∃ pRxMsg', avdtMsgAsmbl pRxMsg pBuf = some (pRxMsg', ret) ∧ asmblRun pRxMsg' pBufs = some rets := by
  simp only [asmblRun, Option.bind_eq_some_iff, Option.map_eq_some_iff, List.cons.injEq] at run
  obtain ⟨⟨pRxMsg', ret'⟩, step, rets', rest, rfl, rfl⟩ := run
  exact ⟨pRxMsg', step, rest⟩

/-- A run of the reassembly yields an answer per packet. -/
theorem length_of_asmblRun : ∀ {pRxMsg : Option RxMsg} {pBufs : List BtHdr} {rets : List (Option BtHdr)},
    asmblRun pRxMsg pBufs = some rets → rets.length = pBufs.length
  | _, [], rets, run => by
    simp only [asmblRun, Option.some.injEq] at run
    subst run
    rfl
  | _, pBuf :: pBufs, rets, run => by
    simp only [asmblRun, Option.bind_eq_some_iff, Option.map_eq_some_iff] at run
    obtain ⟨_, _, rets', rest, rfl⟩ := run
    rw [List.length_cons, List.length_cons, length_of_asmblRun rest]

/-- Over the packets of one message, `avdt_msg_ind` hands on what the whole
message gives, from the CCB with its reassembly moved on. -/
theorem indRun_of_asmblRun : ∀ {pBufs : List BtHdr} {ccb : AvdtpCcb} {k : ℕ} {ret : BtHdr},
    asmblRun ccb.pRxMsg pBufs = some (List.replicate k none ++ [some ret]) →
    ∃ pRxMsg, indRun allocated ccb pBufs = indMsg allocated { ccb with pRxMsg := pRxMsg } ret
  | [], _, k, _, run => by
    simp only [asmblRun, Option.some.injEq] at run
    cases k <;> simp at run
  | pBuf :: pBufs, ccb, 0, ret, run => by
    obtain ⟨pRxMsg, asmbl, rest⟩ := asmblRun_cons_eq_some run
    -- the packet completes the message, and is the last
    have last : pBufs = [] := List.length_eq_zero_iff.mp (by rw [← length_of_asmblRun rest, List.length_nil])
    subst last
    refine ⟨pRxMsg, ?_⟩
    simp only [indRun, avdtMsgInd_whole asmbl, Option.bind_eq_bind]
    cases indMsg allocated { ccb with pRxMsg := pRxMsg } ret <;> simp
  | pBuf :: pBufs, ccb, k + 1, ret, run => by
    rw [List.replicate_succ, List.cons_append] at run
    obtain ⟨pRxMsg, asmbl, rest⟩ := asmblRun_cons_eq_some run
    obtain ⟨pRxMsg', ran⟩ := @indRun_of_asmblRun pBufs { ccb with pRxMsg := pRxMsg } k ret rest
    refine ⟨pRxMsg', ?_⟩
    simp only [indRun, avdtMsgInd_fragment asmbl, Option.bind_eq_bind, Option.bind_some, ran]
    cases indMsg allocated { ccb with pRxMsg := pRxMsg' } ret <;> simp

/-- The label reads back from a header octet, whatever its packet type bits. -/
theorem label_of_hdr {octet : UInt8} {label : Fin 16} {msgType : Fin 4}
    (hdr : octet &&& 0xF3 = bldHdr label avdtPktTypeSingle msgType) :
    (octet >>> 4) &&& 0x0F = UInt8.ofNat label.val := by
  have every : ∀ (label : Fin 16) (msgType : Fin 4),
      (bldHdr label avdtPktTypeSingle msgType >>> 4) &&& 0x0F = UInt8.ofNat label.val := by
    decide
  have high : ((0xF3 : UInt8) >>> 4) &&& 0x0F = 0x0F := by decide
  calc (octet >>> 4) &&& (0x0F : UInt8) = ((octet &&& 0xF3) >>> 4) &&& 0x0F := by
        rw [UInt8.shiftRight_and, UInt8.and_assoc, high]
    _ = UInt8.ofNat label.val := by rw [hdr, every]

/-- The message type reads back from a header octet, whatever its packet type bits. -/
theorem msgType_of_hdr {octet : UInt8} {label : Fin 16} {msgType : Fin 4}
    (hdr : octet &&& 0xF3 = bldHdr label avdtPktTypeSingle msgType) :
    Fin.ofNat 4 (octet &&& 0x03).toNat = msgType := by
  have every : ∀ (label : Fin 16) (msgType : Fin 4),
      Fin.ofNat 4 (bldHdr label avdtPktTypeSingle msgType &&& 0x03).toNat = msgType := by
    decide
  have low : (0xF3 : UInt8) &&& 0x03 = 0x03 := by decide
  calc Fin.ofNat 4 (octet &&& (0x03 : UInt8)).toNat = Fin.ofNat 4 ((octet &&& 0xF3) &&& 0x03).toNat := by
        rw [UInt8.and_assoc, low]
    _ = msgType := by rw [hdr, every]

/-- For a command the parser is given the message as it is, with a zeroed
configuration to write for SETCONFIG and RECONFIG. -/
theorem indSetup_cmd_eq (ccb : AvdtpCcb) (sig : UInt8) (msg : AvdtMsg) :
    indSetup ccb avdtMsgTypeCmd sig msg =
      if sig = avdtSigSetconfig ∨ sig = avdtSigReconfig then some { msg with cfg := some AvdtpSepConfig.zero }
      else some msg := by
  simp [indSetup, avdtMsgTypeCmd, avdtMsgTypeRsp]

/-- The message a command's parser is given keeps its header, and has a
well-formed configuration to write where the command carries one. -/
theorem indSetup_cmd (c : Cmd) (ccb : AvdtpCcb) (msg : AvdtMsg) :
    ∃ recv, indSetup ccb avdtMsgTypeCmd c.sigId msg = some recv ∧ recv.hdr = msg.hdr ∧
      (c.hasCfg = true → ∃ target, recv.cfg = some target ∧ target.Wf) := by
  rw [indSetup_cmd_eq]
  split_ifs with setsCfg
  · exact ⟨_, rfl, rfl, fun _ => ⟨_, rfl, rfl, rfl⟩⟩
  · -- only SETCONFIG and RECONFIG carry a configuration
    refine ⟨msg, rfl, rfl, fun has => ?_⟩
    cases c <;> simp_all [Cmd.hasCfg, Cmd.sigId]

/-- A command writes nothing through `p_proc_data`. -/
theorem indWriteBack_cmd (ccb : AvdtpCcb) (sig : UInt8) (msg : AvdtMsg) :
    indWriteBack ccb avdtMsgTypeCmd sig msg = ccb := by
  simp [indWriteBack, avdtMsgTypeCmd, avdtMsgTypeRsp]

/-- A command that parsed is handed on whatever command is in flight. -/
theorem indFinish_cmd (ccb : AvdtpCcb) (sig label evt : UInt8) (msg : AvdtMsg) :
    indFinish allocated ccb avdtMsgTypeCmd sig label evt msg =
      (indDeliver allocated ccb avdtMsgTypeCmd evt msg).map fun actions => (ccb, actions) := by
  simp only [indFinish, avdtMsgTypeCmd, avdtMsgTypeRsp, avdtMsgTypeRej, Option.bind_eq_bind]
  simp only [show ¬((0 : Fin 4) = 2 ∨ (0 : Fin 4) = 3) from by decide, if_false]
  cases indDeliver allocated ccb 0 evt msg <;> rfl

/-- The parse of a command: the parser of its signal, and the event of the table. -/
theorem indParse_cmd {sig : UInt8} {msg msg' : AvdtMsg} {p : List UInt8} {err evt : UInt8}
    (parsed : prsBy avdtMsgPrsCmd sig allocated msg p = some (msg', err))
    (event : sigEntry avdtMsgCmd2Evt sig = some evt) :
    indParse allocated avdtMsgTypeCmd sig msg p = some (msg'.withErrCode err, err, evt) := by
  rw [indParse, if_pos rfl]
  simp only [parsed, event, Option.bind_eq_bind, Option.bind_some, Option.pure_def]

/-- `avdt_msg_ind` on a whole message, other than a general reject, whose
signal is valid and that parses without error: the end for a message that
parsed, after what the parser wrote through `p_proc_data`. -/
theorem indMsg_parsed {ccb : AvdtpCcb} {buf : BtHdr} {octet sig : UInt8} {payload : List UInt8} {label : Fin 16}
    {msgType : Fin 4} (bytes : buf.bytes = octet :: sig :: payload)
    (hdr : octet &&& 0xF3 = bldHdr label avdtPktTypeSingle msgType) (notGrj : msgType ≠ avdtMsgTypeGrj)
    (notGenRej : ¬(msgType = avdtMsgTypeRej ∧ buf.len = avdtLenGenRej))
    (low : sig &&& 0x3F = sig) (signal : ¬(sig = 0 ∨ sig > avdtSigMax)) {recv msg' : AvdtMsg} {evt : UInt8}
    (setup : indSetup ccb msgType sig ((indStart (UInt8.ofNat label.val) ccb.ccbIdx).withSigId sig) = some recv)
    (parsed : indParse allocated msgType sig recv payload = some (msg', 0, evt)) :
    indMsg allocated ccb buf =
      indFinish allocated (indWriteBack ccb msgType sig msg') msgType sig (UInt8.ofNat label.val) evt msg' := by
  have atPayload : (octet :: sig :: payload).drop avdtLenTypeSingle = payload := rfl
  simp only [indMsg, bytes, atPayload, List.getElem?_cons_zero, List.getElem?_cons_succ, label_of_hdr hdr,
    msgType_of_hdr hdr, notGrj, notGenRej, if_false, low, signal, setup, parsed, ne_eq, not_true_eq_false,
    Option.bind_eq_bind, Option.bind_some]

/-- `avdt_msg_ind` on a whole command message that parses without error: its
event, handed on from the CCB as it was. -/
theorem indMsg_cmd {ccb : AvdtpCcb} {buf : BtHdr} {octet sig : UInt8} {payload : List UInt8} {label : Fin 16}
    (bytes : buf.bytes = octet :: sig :: payload)
    (hdr : octet &&& 0xF3 = bldHdr label avdtPktTypeSingle avdtMsgTypeCmd)
    (low : sig &&& 0x3F = sig) (signal : ¬(sig = 0 ∨ sig > avdtSigMax)) {recv msg' : AvdtMsg} {evt : UInt8}
    (setup : indSetup ccb avdtMsgTypeCmd sig ((indStart (UInt8.ofNat label.val) ccb.ccbIdx).withSigId sig) = some recv)
    (parsed : prsBy avdtMsgPrsCmd sig allocated recv payload = some (msg', 0))
    (event : sigEntry avdtMsgCmd2Evt sig = some evt) :
    indMsg allocated ccb buf = (indDeliver allocated ccb avdtMsgTypeCmd evt (msg'.withErrCode 0)).map
      fun actions => (ccb, actions) := by
  rw [indMsg_parsed bytes hdr (by decide) (fun rej => absurd rej.1 (by decide)) low signal setup
    (indParse_cmd parsed event), indWriteBack_cmd, indFinish_cmd]

/-- An event of the channel's state machine is handed on with the message and
the mark taken off. -/
theorem indDeliver_ccbEvt (ccb : AvdtpCcb) (msgType : Fin 4) {e : UInt8} (small : e < avdtCcbMkr) (msg : AvdtMsg) :
    indDeliver allocated ccb msgType (e + avdtCcbMkr) msg = some [.ccbEvent e (some msg)] := by
  have every : ∀ e : Fin 128, (UInt8.ofNat e.val + avdtCcbMkr) &&& avdtCcbMkr ≠ 0 ∧
      (UInt8.ofNat e.val + avdtCcbMkr) &&& ~~~avdtCcbMkr = UInt8.ofNat e.val := by
    decide
  obtain ⟨marked, unmarked⟩ := every ⟨e.toNat, UInt8.lt_iff_toNat_lt.mp small⟩
  rw [UInt8.ofNat_toNat] at marked unmarked
  simp only [indDeliver, marked, unmarked, ne_eq, not_false_eq_true, if_true]

/-- An event of a stream's state machine, for a command, goes to the stream of
the message's SEID if there is one. -/
theorem indDeliver_cmd_scbEvt (ccb : AvdtpCcb) {evt : UInt8} (unmarked : evt &&& avdtCcbMkr = 0) (nonzero : evt ≠ 0)
    {msg : AvdtMsg} (known : avdtScbByHdl allocated msg.hdr.seid = true) :
    indDeliver allocated ccb avdtMsgTypeCmd evt msg = some [.scbEvent msg.hdr.seid evt msg] := by
  simp [indDeliver, unmarked, nonzero, known]

/-- What a command the peer accepts raises: the event of its signal, to the
channel or to the stream its SEID names. -/
theorem indDeliver_cmd {c : Cmd} (valid : c.Valid allocated) {msg : AvdtMsg} (received : c.Received msg)
    (ccb : AvdtpCcb) :
    ∃ evt, sigEntry avdtMsgCmd2Evt c.sigId = some evt ∧
      indDeliver allocated ccb avdtMsgTypeCmd evt msg = some [c.delivery msg] := by
  have ccbEvt : ∀ {e : UInt8}, e < avdtCcbMkr →
      indDeliver allocated ccb avdtMsgTypeCmd (e + avdtCcbMkr) msg = some [.ccbEvent e (some msg)] :=
    fun small => indDeliver_ccbEvt ccb _ small msg
  have scbEvt : ∀ {seid evt : UInt8}, evt &&& avdtCcbMkr = 0 → evt ≠ 0 → SeidKnown allocated seid →
      msg.hdr.seid = seid → indDeliver allocated ccb avdtMsgTypeCmd evt msg = some [.scbEvent seid evt msg] := by
    rintro seid evt unmarked nonzero ⟨-, known⟩ rfl
    exact indDeliver_cmd_scbEvt ccb unmarked nonzero known
  cases c with
  | discover => exact ⟨_, rfl, ccbEvt (by decide)⟩
  | getcap _ | getAllcap _ => exact ⟨_, rfl, ccbEvt (by decide)⟩
  | start _ | suspend _ => exact ⟨_, rfl, ccbEvt (by decide)⟩
  | setconfig _ _ _ => exact ⟨_, rfl, scbEvt (by decide) (by decide) valid.1 received.1⟩
  | reconfig _ _ => exact ⟨_, rfl, scbEvt (by decide) (by decide) valid.1 received.1⟩
  | security _ _ | delayRpt _ _ => exact ⟨_, rfl, scbEvt (by decide) (by decide) valid received.1⟩
  | getconfig _ | openStream _ | close _ | abort _ => exact ⟨_, rfl, scbEvt (by decide) (by decide) valid received⟩

/-- Writing through `p_proc_data` leaves the command in flight alone. -/
@[simp]
theorem pCurrCmd_indWriteBack (ccb : AvdtpCcb) (msgType : Fin 4) (sig : UInt8) (msg : AvdtMsg) :
    (indWriteBack ccb msgType sig msg).pCurrCmd = ccb.pCurrCmd := by
  unfold indWriteBack
  split_ifs
  · cases ccb.procData <;> rfl
  · cases msg.cfg <;> rfl
  · rfl

/-- A response or reject hands something on only if it has the signal and the
label of the command in flight. -/
theorem indFinish_answers {ccb : AvdtpCcb} {msgType : Fin 4} {sig label evt : UInt8} {msg : AvdtMsg}
    {ccb' : AvdtpCcb} {actions : List IndAction} (answer : msgType = avdtMsgTypeRsp ∨ msgType = avdtMsgTypeRej)
    (finished : indFinish allocated ccb msgType sig label evt msg = some (ccb', actions)) (raised : actions ≠ []) :
    ∃ cmd, ccb.pCurrCmd = some cmd ∧ cmd.sig = sig ∧ UInt8.ofNat cmd.label.val = label := by
  unfold indFinish at finished
  rw [if_pos answer] at finished
  split at finished
  · next cmd inFlight =>
    split_ifs at finished with matching
    · exact ⟨cmd, inFlight, matching⟩
    · cases finished
      exact absurd rfl raised
  · cases finished
    exact absurd rfl raised

/-- The message types other than a command and a general reject. -/
theorem answer_of_ne {msgType : Fin 4} (notCmd : msgType ≠ avdtMsgTypeCmd) (notGrj : msgType ≠ avdtMsgTypeGrj) :
    msgType = avdtMsgTypeRsp ∨ msgType = avdtMsgTypeRej := by
  revert msgType
  decide

/-- What `avdt_msg_ind` hands on for a whole message that is no command
answers the command in flight: its label, and its signal unless it is a
general reject. -/
theorem indMsg_answers {ccb : AvdtpCcb} {buf : BtHdr} {ccb' : AvdtpCcb} {actions : List IndAction}
    (handled : indMsg allocated ccb buf = some (ccb', actions)) (raised : actions ≠ []) :
    ∃ octet : UInt8, buf.bytes[0]? = some octet ∧
      (Fin.ofNat 4 (octet &&& 0x03).toNat = avdtMsgTypeCmd ∨
        ∃ cmd, ccb.pCurrCmd = some cmd ∧ UInt8.ofNat cmd.label.val = (octet >>> 4) &&& 0x0F ∧
          (buf.len = avdtLenGenRej ∨ buf.bytes[1]?.map (· &&& (0x3F : UInt8)) = some cmd.sig)) := by
  obtain ⟨octet, first⟩ : ∃ octet, buf.bytes[0]? = some octet := by
    cases first : buf.bytes[0]? with
    | none => simp [indMsg, first] at handled
    | some octet => exact ⟨octet, rfl⟩
  refine ⟨octet, first, ?_⟩
  by_cases isCmd : Fin.ofNat 4 (octet &&& 0x03).toNat = avdtMsgTypeCmd
  · exact Or.inl isCmd
  right
  simp only [indMsg, first, Option.bind_eq_bind, Option.bind_some] at handled
  split_ifs at handled with isGrj genRej
  · cases handled
    exact absurd rfl raised
  · -- a general reject: the signal is the one of the command in flight
    split at handled
    · obtain ⟨evt, -, finished⟩ := Option.bind_eq_some_iff.mp handled
      obtain ⟨cmd, inFlight, -, label⟩ := indFinish_answers (Or.inr genRej.1) finished raised
      exact ⟨cmd, inFlight, label, Or.inl genRej.2⟩
    · obtain ⟨cmd, inFlight, -, label⟩ := indFinish_answers (Or.inr genRej.1) handled raised
      exact ⟨cmd, inFlight, label, Or.inl genRej.2⟩
  · obtain ⟨byte, second, handled⟩ := Option.bind_eq_some_iff.mp handled
    by_cases invalid : byte &&& 0x3F = 0 ∨ byte &&& 0x3F > avdtSigMax
    · rw [if_pos invalid] at handled
      cases handled
      exact absurd rfl raised
    rw [if_neg invalid] at handled
    obtain ⟨recv, -, handled⟩ := Option.bind_eq_some_iff.mp handled
    obtain ⟨⟨msg', err, evt⟩, -, handled⟩ := Option.bind_eq_some_iff.mp handled
    dsimp only at handled
    by_cases failed : err ≠ 0
    · -- a response that fails to parse is dropped
      rw [if_pos failed, if_neg (fun both : _ ∧ _ => isCmd both.1)] at handled
      cases handled
      exact absurd rfl raised
    rw [if_neg failed] at handled
    obtain ⟨cmd, inFlight, sig, label⟩ := indFinish_answers (answer_of_ne isCmd isGrj) handled raised
    rw [pCurrCmd_indWriteBack] at inFlight
    exact ⟨cmd, inFlight, label, Or.inr (by rw [second, Option.map_some, sig])⟩

/-- The parse of a response: the parser of its signal, and the event of the table. -/
theorem indParse_rsp {sig : UInt8} {msg msg' : AvdtMsg} {p : List UInt8} {err evt : UInt8}
    (parsed : prsBy avdtMsgPrsRsp sig allocated msg p = some (msg', err))
    (event : sigEntry avdtMsgRsp2Evt sig = some evt) :
    indParse allocated avdtMsgTypeRsp sig msg p = some (msg'.withErrCode err, err, evt) := by
  rw [indParse, if_neg (by decide), if_pos rfl]
  simp only [parsed, event, Option.bind_eq_bind, Option.bind_some, Option.pure_def]

/-- A GETCAP response is parsed into the configuration `p_proc_data` points to. -/
theorem indSetup_getcap {ccb : AvdtpCcb} {stored : AvdtpSepConfig} (storage : ccb.procData = .cfg stored)
    (msg : AvdtMsg) : indSetup ccb avdtMsgTypeRsp avdtSigGetcap msg = some { msg with cfg := some stored } := by
  simp +decide [indSetup, storage]

/-- What the parser wrote for a GETCAP response stays in the application's storage. -/
theorem indWriteBack_getcap (ccb : AvdtpCcb) {msg : AvdtMsg} {c : AvdtpSepConfig} (written : msg.cfg = some c) :
    indWriteBack ccb avdtMsgTypeRsp avdtSigGetcap msg = { ccb with procData := .cfg c } := by
  simp +decide [indWriteBack, written]

/-- A response or reject that answers no command in flight is dropped, the
CCB as it was. -/
theorem indFinish_unanswered {ccb : AvdtpCcb} {msgType : Fin 4} {sig label evt : UInt8} {msg : AvdtMsg}
    (answer : msgType = avdtMsgTypeRsp ∨ msgType = avdtMsgTypeRej)
    (stray : ∀ cmd ∈ ccb.pCurrCmd, ¬(cmd.sig = sig ∧ UInt8.ofNat cmd.label.val = label)) :
    indFinish allocated ccb msgType sig label evt msg = some (ccb, []) := by
  unfold indFinish
  rw [if_pos answer]
  cases inFlight : ccb.pCurrCmd with
  | none => rfl
  | some cmd => simp only [if_neg (stray cmd inFlight)]

/-- Labels are told apart in the octet they are compared in. -/
theorem label_eq_of_ofNat {a b : Fin 16} (same : UInt8.ofNat a.val = UInt8.ofNat b.val) : a = b := by
  revert a b
  decide

/-- A response that answers the command in flight is handed on, and stops the
command's retransmissions. -/
theorem indFinish_answered {ccb : AvdtpCcb} {msgType : Fin 4} {sig label evt : UInt8} {msg : AvdtMsg}
    {actions : List IndAction} (answer : msgType = avdtMsgTypeRsp ∨ msgType = avdtMsgTypeRej) {cmd : CurrMsg}
    (inFlight : ccb.pCurrCmd = some cmd) (matching : cmd.sig = sig ∧ UInt8.ofNat cmd.label.val = label)
    (delivered : indDeliver allocated ccb msgType evt msg = some actions) :
    indFinish allocated ccb msgType sig label evt msg =
      some ({ ccb with retCount := 0 }, actions ++ [.ccbEvent avdtCcbRcvrspEvt none]) := by
  unfold indFinish
  rw [if_pos answer]
  simp only [inFlight, if_pos matching, delivered, Option.bind_eq_bind, Option.bind_some, Option.pure_def]

/-- An event of a stream's state machine, for a response or a reject, goes to
the stream whose handle the command in flight hides in front of it. -/
theorem indDeliver_answer_scbEvt {ccb : AvdtpCcb} {msgType : Fin 4} (answer : msgType ≠ avdtMsgTypeCmd) {evt : UInt8}
    (unmarked : evt &&& avdtCcbMkr = 0) (nonzero : evt ≠ 0) {cmd : CurrMsg} (inFlight : ccb.pCurrCmd = some cmd)
    {hdl : UInt8} (stash : cmd.data[0]? = some hdl) (known : avdtScbByHdl allocated hdl = true) (msg : AvdtMsg) :
    indDeliver allocated ccb msgType evt msg = some [.scbEvent hdl evt msg] := by
  simp [indDeliver, unmarked, nonzero, inFlight, stash, known, answer]

/-- What a response raises: the event of its signal, to the channel, or to the
stream of the command in flight. -/
theorem indDeliver_rsp (r : Rsp) {ccb : AvdtpCcb} {cmd : CurrMsg} (inFlight : ccb.pCurrCmd = some cmd) {hdl : UInt8}
    (stash : r.toScb = true → cmd.data[0]? = some hdl ∧ avdtScbByHdl allocated hdl = true) (msg : AvdtMsg) :
    ∃ evt, sigEntry avdtMsgRsp2Evt r.sigId = some evt ∧
      indDeliver allocated ccb avdtMsgTypeRsp evt msg = some [r.delivery hdl msg] := by
  have ccbEvt : ∀ {e : UInt8}, e < avdtCcbMkr →
      indDeliver allocated ccb avdtMsgTypeRsp (e + avdtCcbMkr) msg = some [.ccbEvent e (some msg)] :=
    fun small => indDeliver_ccbEvt ccb _ small msg
  have scbEvt : ∀ {evt : UInt8}, r.toScb = true → evt &&& avdtCcbMkr = 0 → evt ≠ 0 →
      indDeliver allocated ccb avdtMsgTypeRsp evt msg = some [.scbEvent hdl evt msg] :=
    fun toScb unmarked nonzero =>
      indDeliver_answer_scbEvt (by decide) unmarked nonzero inFlight (stash toScb).1 (stash toScb).2 msg
  cases r with
  | discover _ | getcap _ | start | suspend | getAllcap _ => exact ⟨_, rfl, ccbEvt (by decide)⟩
  | setconfig | getconfig _ | reconfig | openStream | close | abort | security _ | delayRpt =>
    exact ⟨_, rfl, scbEvt rfl (by decide) (by decide)⟩

/-- The message a response's parser is given keeps its header, and points where
the response's parser needs to write. -/
theorem indSetup_rsp (r : Rsp) {ccb : AvdtpCcb} (awaits : r.Awaits ccb) (msg : AvdtMsg) :
    ∃ recv, indSetup ccb avdtMsgTypeRsp r.sigId msg = some recv ∧ recv.hdr = msg.hdr ∧ r.Ready recv := by
  cases r with
  | discover infos =>
    obtain ⟨arr, storage, enough, room⟩ := awaits
    refine ⟨{ msg with sepInfo := arr, numSeps := ccb.procParam }, ?_, rfl, enough, room⟩
    simp +decide [indSetup, storage, Rsp.sigId]
  | getcap _ =>
    obtain ⟨stored, storage, storedWf⟩ := awaits
    exact ⟨_, indSetup_getcap storage msg, rfl, stored, rfl, storedWf⟩
  | getAllcap _ =>
    obtain ⟨stored, storage, storedWf⟩ := awaits
    refine ⟨{ msg with cfg := some stored }, ?_, rfl, stored, rfl, storedWf⟩
    simp +decide [indSetup, storage, Rsp.sigId]
  | getconfig _ =>
    refine ⟨{ msg with cfg := some AvdtpSepConfig.zero }, ?_, rfl, _, rfl, rfl, rfl⟩
    simp +decide [indSetup, Rsp.sigId]
  | setconfig | reconfig | openStream | start | close | suspend | abort | security _ | delayRpt =>
    exact ⟨msg, by simp +decide [indSetup, Rsp.sigId], rfl, trivial⟩

/-- A reject is parsed into the message as it stands: nothing is pointed to for it. -/
theorem indSetup_rej (ccb : AvdtpCcb) (sig : UInt8) (msg : AvdtMsg) :
    indSetup ccb avdtMsgTypeRej sig msg = some msg := by
  simp +decide [indSetup]

/-- Nothing is written through `p_proc_data` for a reject. -/
theorem indWriteBack_rej (ccb : AvdtpCcb) (sig : UInt8) (msg : AvdtMsg) :
    indWriteBack ccb avdtMsgTypeRej sig msg = ccb := by
  simp +decide [indWriteBack]

/-- The parse of a reject: `avdt_msg_prs_rej`, and the event of its table. -/
theorem indParse_rej {sig : UInt8} {msg msg' : AvdtMsg} {p : List UInt8} {err evt : UInt8}
    (parsed : avdtMsgPrsRej msg p sig = some (msg', err)) (event : sigEntry avdtMsgRej2Evt sig = some evt) :
    indParse allocated avdtMsgTypeRej sig msg p = some (msg', err, evt) := by
  rw [indParse, if_neg (by decide), if_neg (by decide)]
  simp only [parsed, event, Option.bind_eq_bind, Option.bind_some, Option.pure_def]

/-- What a reject raises: the event `avdt_msg_rej_2_evt` has for the rejected
command, to the channel or to the stream of the command in flight, whose handle
is read even where the table has no event. -/
theorem indDeliver_rej (c : Cmd) {ccb : AvdtpCcb} {cmd : CurrMsg} (inFlight : ccb.pCurrCmd = some cmd) {hdl : UInt8}
    (stash : cmd.data[0]? = some hdl) (known : c.toScb = true → avdtScbByHdl allocated hdl = true) (msg : AvdtMsg) :
    ∃ evt, sigEntry avdtMsgRej2Evt c.sigId = some evt ∧
      indDeliver allocated ccb avdtMsgTypeRej evt msg = some (c.rejDelivery hdl msg) := by
  have ccbEvt : ∀ {e : UInt8}, e < avdtCcbMkr →
      indDeliver allocated ccb avdtMsgTypeRej (e + avdtCcbMkr) msg = some [.ccbEvent e (some msg)] :=
    fun small => indDeliver_ccbEvt ccb _ small msg
  have scbEvt : ∀ {evt : UInt8}, c.toScb = true → evt &&& avdtCcbMkr = 0 → evt ≠ 0 →
      indDeliver allocated ccb avdtMsgTypeRej evt msg = some [.scbEvent hdl evt msg] :=
    fun toScb unmarked nonzero => indDeliver_answer_scbEvt (by decide) unmarked nonzero inFlight stash (known toScb) msg
  cases c with
  | discover | getcap _ | start _ | suspend _ | getAllcap _ => exact ⟨_, rfl, ccbEvt (by decide)⟩
  | setconfig _ _ _ | getconfig _ | reconfig _ _ | openStream _ | close _ | abort _ | security _ _ =>
    exact ⟨_, rfl, scbEvt rfl (by decide) (by decide)⟩
  | delayRpt _ _ =>
    refine ⟨0, rfl, ?_⟩
    simp +decide [indDeliver, inFlight, stash, Cmd.rejDelivery]

end Receive

/-! ## Queueing a command -/

section Queue

/-- The handles go in front of the message and leave it alone. -/
theorem stashScb_keeps {pScb : ScbArg} {sigId : UInt8} {len : ℕ} (fits : pScb.Fits sigId len) {data : List UInt8}
    (room : avdtMsgOffset ≤ data.length) :
    ∃ data', stashScb pScb sigId len data = some data' ∧ data'.length = data.length ∧
      data'.drop avdtMsgOffset = data.drop avdtMsgOffset := by
  have front : avdtNumSeps ≤ avdtMsgOffset := by simp only [avdtNumSeps, avdtMsgOffset]; omega
  cases pScb with
  | none => exact ⟨data, rfl, rfl, rfl⟩
  | scb hdl =>
    obtain ⟨data', copied, length⟩ : ∃ out, copyInto data 0 [hdl] = some out ∧ out.length = data.length :=
      exists_copyInto (by simp only [List.length_singleton, avdtNumSeps] at front ⊢; omega)
    refine ⟨data', ?_, length, drop_copyInto copied (by simp only [List.length_singleton, avdtNumSeps] at front ⊢; omega)⟩
    simp only [stashScb, if_neg fits, copied]
  | hdls hs =>
    obtain ⟨multi, inArray, atMost⟩ := fits
    have read : readAt hs 0 len = some (hs.take len) := by rw [readAt_of_le (by omega), List.drop_zero]
    have lengthRead : (hs.take len).length = len := List.length_take_of_le inArray
    obtain ⟨data', copied, length⟩ : ∃ out, copyInto data 0 (hs.take len) = some out ∧ out.length = data.length :=
      exists_copyInto (by omega)
    refine ⟨data', ?_, length, drop_copyInto copied (by omega)⟩
    simp only [stashScb, if_pos multi, read, copied, Option.bind_eq_bind, Option.bind_some]

/-- `avdt_msg_send_cmd` queues what the builder wrote at `AVDT_MSG_OFFSET`,
under the CCB's label, and moves the label on. -/
theorem avdtMsgSendCmd_of_bld {ccb : AvdtpCcb} {pScb : ScbArg} {sigId : UInt8} {pParams sent : AvdtMsg}
    {fresh bytes : List UInt8} (built : bldBy avdtMsgBldCmd sigId pParams = some (bytes, sent))
    (room : avdtMsgOffset + bytes.length ≤ fresh.length) (scb : pScb.Fits sigId bytes.length) :
    ∃ data, avdtMsgSendCmd ccb pScb sigId pParams fresh =
        some ({ ccb with label := ccb.label + 1 },
          ⟨data, avdtMsgOffset, bytes.length, ccb.label, avdtMsgTypeCmd, sigId⟩, sent) ∧
      avdtMsgOffset + bytes.length ≤ data.length ∧ (data.drop avdtMsgOffset).take bytes.length = bytes := by
  obtain ⟨data, copied, length⟩ := exists_copyInto room
  obtain ⟨data', stashed, length', kept⟩ := @stashScb_keeps _ _ _ scb data (by omega)
  refine ⟨data', ?_, by omega, ?_⟩
  · simp only [avdtMsgSendCmd, built, copied, stashed, Option.bind_eq_bind, Option.bind_some, Option.pure_def]
  · rw [kept, window_copyInto copied]

/-- A command for one stream carries the stream's handle at the start of its
buffer, where `avdt_msg_ind` looks for the stream a response is for. -/
theorem avdtMsgSendCmd_hdl {ccb : AvdtpCcb} {hdl sigId : UInt8} {pParams : AvdtMsg} {fresh : List UInt8}
    {ccb' : AvdtpCcb} {cmd : CurrMsg} {sent : AvdtMsg}
    (queued : avdtMsgSendCmd ccb (.scb hdl) sigId pParams fresh = some (ccb', cmd, sent)) :
    cmd.data[0]? = some hdl := by
  simp only [avdtMsgSendCmd, Option.bind_eq_bind, Option.bind_eq_some_iff, Option.pure_def,
    Option.some.injEq, Prod.mk.injEq] at queued
  obtain ⟨_, -, data, -, data', stashed, -, rfl, -⟩ := queued
  simp only [stashScb] at stashed
  split_ifs at stashed
  rw [getElem?_copyInto stashed, if_pos (by simp)]
  rfl

variable {allocated : ℕ → ℕ → Bool}

/-- A command the peer accepts fits, after `AVDT_MSG_OFFSET`, in the buffer
`avdt_msg_send_cmd` allocates. -/
theorem room_of_bldCmd {c : Cmd} (valid : c.Valid allocated) (fits : c.Fits) {bytes : List UInt8} {sent : AvdtMsg}
    (built : bldBy avdtMsgBldCmd c.sigId c.msg = some (bytes, sent)) :
    avdtMsgOffset + bytes.length ≤ avdtCmdBufSize - btHdrSize := by
  have cfgRoom := length_avdtMsgBldCfg_le
  simp only [avdtMsgOffset, l2capMinOffset, avdtNumSeps, avdtLenTypeStart, avdtCmdBufSize, btHdrSize,
    avdtCodecSize, avdtProtectSize] at cfgRoom ⊢
  cases c with
  | setconfig seid intSeid cfg =>
    obtain ⟨rfl, -⟩ := Prod.mk.inj (Option.some.inj built)
    have := cfgRoom cfg
    simp only [List.length_append, List.length_cons, List.length_nil]
    omega
  | reconfig seid cfg =>
    obtain ⟨rfl, -⟩ := Prod.mk.inj (Option.some.inj built)
    have := cfgRoom { cfg with pscMask := 0 }
    simp only [List.length_cons]
    omega
  | start seids | suspend seids =>
    obtain ⟨rfl, -⟩ := Prod.mk.inj (Option.some.inj built)
    have atMost := valid.2.1
    simp only [avdtNumSeps] at atMost
    simp only [Cmd.msg, List.length_map]
    omega
  | security seid data =>
    obtain ⟨rfl, -⟩ := Prod.mk.inj (Option.some.inj built)
    simp only [Cmd.Fits, avdtMsgOffset, l2capMinOffset, avdtNumSeps, avdtLenTypeStart, avdtCmdBufSize,
      btHdrSize] at fits
    simp only [Cmd.msg, List.length_cons]
    omega
  | discover | getcap _ | getconfig _ | openStream _ | close _ | abort _ | getAllcap _ | delayRpt _ _ =>
    obtain ⟨rfl, -⟩ := Prod.mk.inj (Option.some.inj built)
    simp

/-- START and SUSPEND write one octet per stream. -/
theorem length_bldCmd_multi {c : Cmd} (multi : c.sigId = avdtSigStart ∨ c.sigId = avdtSigSuspend) {bytes : List UInt8}
    {sent : AvdtMsg} (built : bldBy avdtMsgBldCmd c.sigId c.msg = some (bytes, sent)) :
    bytes.length = c.msg.seidList.length := by
  cases c with
  | start seids | suspend seids =>
    obtain ⟨rfl, -⟩ := Prod.mk.inj (Option.some.inj built)
    exact List.length_map ..
  | _ => exact absurd multi (by simp only [Cmd.sigId]; decide)

/-- `avdt_msg_send_rsp` queues what the builder wrote at `AVDT_MSG_OFFSET`,
under the label of the message's header. -/
theorem avdtMsgSendRsp_of_bld {sigId : UInt8} {pParams sent : AvdtMsg} {fresh bytes : List UInt8}
    (built : bldBy avdtMsgBldRsp sigId pParams = some (bytes, sent)) (room : avdtMsgOffset + bytes.length ≤ fresh.length) :
    ∃ data, avdtMsgSendRsp sigId pParams fresh =
        some (⟨data, avdtMsgOffset, bytes.length, Fin.ofNat 16 sent.hdr.label.toNat, avdtMsgTypeRsp, sigId⟩, sent) ∧
      avdtMsgOffset + bytes.length ≤ data.length ∧ (data.drop avdtMsgOffset).take bytes.length = bytes := by
  obtain ⟨data, copied, length⟩ := exists_copyInto room
  refine ⟨data, ?_, by omega, window_copyInto copied⟩
  simp only [avdtMsgSendRsp, built, copied, Option.bind_eq_bind, Option.bind_some, Option.pure_def]

/-- The response builders do not read the header: a response builds the same
with the header of the command it answers. -/
theorem bldRsp_withHdr {r : Rsp} {bytes : List UInt8} {sent : AvdtMsg}
    (built : bldBy avdtMsgBldRsp r.sigId r.msg = some (bytes, sent)) (hdr : EvtHdr) :
    bldBy avdtMsgBldRsp r.sigId { r.msg with hdr := hdr } = some (bytes, { sent with hdr := hdr }) := by
  cases r with
  | discover infos =>
    change avdtMsgBldDiscoverRsp _ = _ at built ⊢
    unfold avdtMsgBldDiscoverRsp at built ⊢
    split_ifs at built ⊢ with room
    cases built
    rfl
  | _ =>
    obtain ⟨rfl, rfl⟩ := Prod.mk.inj (Option.some.inj built)
    rfl

variable {allocated : ℕ → ℕ → Bool}

/-- A response the peer accepts fits, after `AVDT_MSG_OFFSET`, in the buffer
`avdt_msg_send_rsp` allocates. -/
theorem room_of_bldRsp {r : Rsp} (valid : r.Valid) (fits : r.Fits) {bytes : List UInt8} {sent : AvdtMsg}
    (built : bldBy avdtMsgBldRsp r.sigId r.msg = some (bytes, sent)) :
    avdtMsgOffset + bytes.length ≤ avdtCmdBufSize - btHdrSize := by
  have cfgRoom := length_avdtMsgBldCfg_le
  simp only [avdtMsgOffset, l2capMinOffset, avdtNumSeps, avdtLenTypeStart, avdtCmdBufSize, btHdrSize,
    avdtCodecSize, avdtProtectSize] at cfgRoom ⊢
  cases r with
  | discover infos =>
    change avdtMsgBldDiscoverRsp _ = _ at built
    unfold avdtMsgBldDiscoverRsp at built
    split_ifs at built with room
    cases built
    have few := valid.1
    have taken := List.length_take_le' (UInt8.ofNat infos.length).toNat infos
    simp only [Rsp.msg, length_flatMap_bldDisc]
    omega
  | getcap cfg =>
    obtain ⟨rfl, -⟩ := Prod.mk.inj (Option.some.inj built)
    exact Nat.add_le_add_left (cfgRoom _) 28 |>.trans (by decide)
  | getconfig cfg | getAllcap cfg =>
    obtain ⟨rfl, -⟩ := Prod.mk.inj (Option.some.inj built)
    exact Nat.add_le_add_left (cfgRoom _) 28 |>.trans (by decide)
  | security data =>
    obtain ⟨rfl, -⟩ := Prod.mk.inj (Option.some.inj built)
    simp only [Rsp.Fits, avdtMsgOffset, l2capMinOffset, avdtNumSeps, avdtLenTypeStart, avdtCmdBufSize,
      btHdrSize] at fits
    exact fits
  | setconfig | reconfig | openStream | start | close | suspend | abort | delayRpt =>
    obtain ⟨rfl, -⟩ := Prod.mk.inj (Option.some.inj built)
    decide

/-- A reject of a signal carries its error code, after the error parameter of
the four signals that have one. -/
theorem length_avdtMsgBldRej {sigId : UInt8} (signal : sigId ≠ avdtSigNone) (msg : AvdtMsg) :
    1 ≤ (avdtMsgBldRej sigId msg).length ∧ (avdtMsgBldRej sigId msg).length ≤ 2 := by
  unfold avdtMsgBldRej
  rw [if_neg signal]
  split_ifs <;> simp

/-- `avdt_msg_send_rej` queues the reject's parameters at `AVDT_MSG_OFFSET`,
under the label of the message's header. -/
theorem avdtMsgSendRej_of_bld {sigId : UInt8} {pParams : AvdtMsg} {fresh : List UInt8}
    (room : avdtMsgOffset + (avdtMsgBldRej sigId pParams).length ≤ fresh.length) :
    ∃ data, avdtMsgSendRej sigId pParams fresh = some ⟨data, avdtMsgOffset, (avdtMsgBldRej sigId pParams).length,
        Fin.ofNat 16 pParams.hdr.label.toNat, avdtMsgTypeRej, sigId⟩ ∧
      avdtMsgOffset + (avdtMsgBldRej sigId pParams).length ≤ data.length ∧
      (data.drop avdtMsgOffset).take (avdtMsgBldRej sigId pParams).length = avdtMsgBldRej sigId pParams := by
  obtain ⟨data, copied, length⟩ := exists_copyInto room
  refine ⟨data, ?_, by omega, window_copyInto copied⟩
  simp only [avdtMsgSendRej, copied, Option.bind_eq_bind, Option.bind_some, Option.pure_def]

end Queue

/-! ## Commands end to end -/

/-- A command's signal survives the mask of `avdt_msg_ind` and passes its check. -/
theorem Cmd.sigId_parses (c : Cmd) : c.sigId &&& 0x3F = c.sigId ∧ ¬(c.sigId = 0 ∨ c.sigId > avdtSigMax) := by
  cases c <;> simp only [Cmd.sigId] <;> decide

/-- What a command carries is not in the error code. -/
theorem Cmd.received_withErrCode {c : Cmd} {msg : AvdtMsg} (received : c.Received msg) (err : UInt8) :
    c.Received (msg.withErrCode err) := by
  cases c <;> exact received


/-- A response's signal survives the mask of `avdt_msg_ind` and passes its check. -/
theorem Rsp.sigId_parses (r : Rsp) : r.sigId &&& 0x3F = r.sigId ∧ ¬(r.sigId = 0 ∨ r.sigId > avdtSigMax) := by
  cases r <;> simp only [Rsp.sigId] <;> decide

/-- What a response carries is not in the error code. -/
theorem Rsp.received_withErrCode {r : Rsp} {msg : AvdtMsg} (received : r.Received msg) (err : UInt8) :
    r.Received (msg.withErrCode err) := by
  cases r <;> exact received

/-- The reassembled message of a command: its header octet, the signal, and
the bytes the builder wrote. -/
theorem bytes_of_delivered {ret : BtHdr} {curr : CurrMsg} {bytes : List UInt8}
    (hdrOctet : ret.bytes.head?.map (· &&& 0xF3) = some (bldHdr curr.label avdtPktTypeSingle curr.msg))
    (tail : ret.bytes.tail = curr.sig :: curr.payload) (payload : curr.payload = bytes) :
    ∃ octet, octet &&& 0xF3 = bldHdr curr.label avdtPktTypeSingle curr.msg ∧ ret.bytes = octet :: curr.sig :: bytes := by
  cases retBytes : ret.bytes with
  | nil =>
    rw [retBytes] at hdrOctet
    cases hdrOctet
  | cons octet rest =>
    rw [retBytes, List.head?_cons, Option.map_some, Option.some.injEq] at hdrOctet
    rw [retBytes, List.tail_cons, payload] at tail
    exact ⟨octet, hdrOctet, by rw [tail]⟩

/-- What `avdt_msg_send` cuts a queued message into, at any MTU above the START
header, reaches `avdt_msg_ind` at the peer as the whole message, whatever the
peer was reassembling before: the header octet of its label and type, its
signal, then the bytes queued. -/
theorem indRun_of_sent {allocated : ℕ → ℕ → Bool} {peerMtu : ℕ} (mtu : avdtLenTypeStart < peerMtu)
    {curr : CurrMsg} (atStart : curr.offset = avdtMsgOffset) (inside : curr.offset + curr.len ≤ curr.data.length)
    {bytes : List UInt8} (payload : curr.payload = bytes) (rx : AvdtpCcb) :
    ∃ packets, avdtMsgSend peerMtu curr = some packets ∧
      ∀ pBufs, List.Forall₂ (fun pBuf packet => pBuf.Wf ∧ pBuf.bytes = packet) pBufs packets →
        (∀ pBuf ∈ pBufs.head?, pBuf.offset + avdtLenTypeStart + curr.len ≤ rxBufLen) →
        ∃ pRxMsg ret, ∃ octet : UInt8, indRun allocated rx pBufs = indMsg allocated { rx with pRxMsg := pRxMsg } ret ∧
          octet &&& 0xF3 = bldHdr curr.label avdtPktTypeSingle curr.msg ∧ ret.bytes = octet :: curr.sig :: bytes := by
  obtain ⟨packets, sent, delivers⟩ := avdtMsgSend_delivers mtu atStart inside
  refine ⟨packets, sent, fun pBufs bufs first => ?_⟩
  obtain ⟨ret, run, hdrOctet, tail⟩ := delivers.reassembles pBufs rx.pRxMsg bufs first
  obtain ⟨pRxMsg, ran⟩ := @indRun_of_asmblRun allocated pBufs rx _ ret run
  obtain ⟨octet, hdr, retBytes⟩ := bytes_of_delivered hdrOctet tail payload
  exact ⟨pRxMsg, ret, octet, ran, hdr, retBytes⟩

/-- **A command arrives as it was sent.**  A command the peer accepts, queued
by `avdt_msg_send_cmd` and cut into packets by `avdt_msg_send` at any MTU above
the START header, raises at the peer, through `avdt_msg_ind` on each packet,
exactly the event of its signal, with its parameters, the label it was sent
under and the peer's channel index, whatever the peer was reassembling before. -/
theorem cmd_delivered {allocated : ℕ → ℕ → Bool} {c : Cmd} (valid : c.Valid allocated) (fits : c.Fits)
    (ccb : AvdtpCcb) {pScb : ScbArg} (scb : pScb.Fits c.sigId c.msg.seidList.length) {fresh : List UInt8}
    (sized : fresh.length = avdtCmdBufSize - btHdrSize) {peerMtu : ℕ} (mtu : avdtLenTypeStart < peerMtu)
    (rx : AvdtpCcb) :
    ∃ curr sent packets,
      avdtMsgSendCmd ccb pScb c.sigId c.msg fresh = some ({ ccb with label := ccb.label + 1 }, curr, sent) ∧
      avdtMsgSend peerMtu curr = some packets ∧
      ∀ pBufs, List.Forall₂ (fun pBuf packet => pBuf.Wf ∧ pBuf.bytes = packet) pBufs packets →
        (∀ pBuf ∈ pBufs.head?, pBuf.offset + avdtLenTypeStart + curr.len ≤ rxBufLen) →
        ∃ pRxMsg msg', indRun allocated rx pBufs = some ({ rx with pRxMsg := pRxMsg }, [c.delivery msg']) ∧
          c.Received msg' ∧ msg'.hdr.errCode = 0 ∧ msg'.hdr.label = UInt8.ofNat ccb.label.val ∧
          msg'.hdr.sigId = c.sigId ∧ msg'.hdr.ccbIdx = rx.ccbIdx := by
  -- the sender: build, queue, cut into packets
  obtain ⟨recv, setup, recvHdr, ready⟩ :=
    indSetup_cmd c rx ((indStart (UInt8.ofNat ccb.label.val) rx.ccbIdx).withSigId c.sigId)
  obtain ⟨bytes, sent, msg', built, parsed, received, kept⟩ := prsCmd_bldCmd valid recv ready
  have scbFits : pScb.Fits c.sigId bytes.length := by
    cases pScb with
    | none => trivial
    | scb _ => exact scb
    | hdls _ => rw [length_bldCmd_multi scb.1 built]; exact scb
  obtain ⟨data, queued, inside, window⟩ :=
    avdtMsgSendCmd_of_bld built (by rw [sized]; exact room_of_bldCmd valid fits built) scbFits
  obtain ⟨packets, sentPackets, arrives⟩ := @indRun_of_sent allocated peerMtu mtu
    ⟨data, avdtMsgOffset, bytes.length, ccb.label, avdtMsgTypeCmd, c.sigId⟩ rfl inside bytes window rx
  refine ⟨_, sent, packets, queued, sentPackets, fun pBufs bufs first => ?_⟩
  -- the peer: the whole message, handled
  obtain ⟨pRxMsg, ret, octet, ran, hdr, retBytes⟩ := arrives pBufs bufs first
  obtain ⟨evt, event, raised⟩ := indDeliver_cmd valid (Cmd.received_withErrCode received 0) { rx with pRxMsg := pRxMsg }
  obtain ⟨low, signal⟩ := Cmd.sigId_parses c
  have setup' : indSetup { rx with pRxMsg := pRxMsg } avdtMsgTypeCmd c.sigId
      ((indStart (UInt8.ofNat ccb.label.val) rx.ccbIdx).withSigId c.sigId) = some recv := by
    rw [indSetup_cmd_eq, ← setup, indSetup_cmd_eq]
  refine ⟨pRxMsg, msg'.withErrCode 0, ?_, Cmd.received_withErrCode received 0, rfl,
    kept.label.trans (congrArg EvtHdr.label recvHdr), kept.sigId.trans (congrArg EvtHdr.sigId recvHdr),
    kept.ccbIdx.trans (congrArg EvtHdr.ccbIdx recvHdr)⟩
  rw [ran, indMsg_cmd retBytes hdr low signal setup' parsed event, raised]
  rfl

/-- A GETCAP for stream 1, sent from a fresh channel at an MTU of 48 to a peer
with every stream allocated. -/
theorem cmd_delivered_getcap :
    ∃ curr sent packets,
      avdtMsgSendCmd ⟨0, none, none, .none, 0, 0, 0⟩ .none (Cmd.getcap 1).sigId (Cmd.getcap 1).msg
          (List.replicate 652 0) = some (⟨1, none, none, .none, 0, 0, 0⟩, curr, sent) ∧
      avdtMsgSend 48 curr = some packets ∧
      ∀ pBufs, List.Forall₂ (fun pBuf packet => pBuf.Wf ∧ pBuf.bytes = packet) pBufs packets →
        (∀ pBuf ∈ pBufs.head?, pBuf.offset + avdtLenTypeStart + curr.len ≤ rxBufLen) →
        ∃ pRxMsg msg', indRun (fun _ _ => true) ⟨0, none, none, .none, 0, 0, 0⟩ pBufs =
            some (⟨0, none, pRxMsg, .none, 0, 0, 0⟩, [(Cmd.getcap 1).delivery msg']) ∧
          (Cmd.getcap 1).Received msg' ∧ msg'.hdr.errCode = 0 ∧ msg'.hdr.label = 0 ∧
          msg'.hdr.sigId = (Cmd.getcap 1).sigId ∧ msg'.hdr.ccbIdx = 0 :=
  @cmd_delivered (fun _ _ => true) (Cmd.getcap 1) ⟨by decide, rfl⟩ trivial ⟨0, none, none, .none, 0, 0, 0⟩ .none trivial
    (List.replicate 652 0) List.length_replicate 48 (by decide) ⟨0, none, none, .none, 0, 0, 0⟩

/-! ## Responses answer the command in flight -/

/-- **Responses answer the command in flight.**  Whatever packet the channel
receives, in whatever state, `avdt_msg_ind` hands something on only for a
message the packet completes that is a command, or that has the label of the
command in flight and, unless it is a general reject, its signal. -/
theorem avdtMsgInd_answers {allocated : ℕ → ℕ → Bool} {ccb : AvdtpCcb} {pBuf : BtHdr} {ccb' : AvdtpCcb}
    {actions : List IndAction} (ind : avdtMsgInd allocated ccb pBuf = some (ccb', actions)) (raised : actions ≠ []) :
    ∃ pRxMsg buf, ∃ octet : UInt8, avdtMsgAsmbl ccb.pRxMsg pBuf = some (pRxMsg, some buf) ∧ buf.bytes[0]? = some octet ∧
      (Fin.ofNat 4 (octet &&& 0x03).toNat = avdtMsgTypeCmd ∨
        ∃ cmd, ccb.pCurrCmd = some cmd ∧ UInt8.ofNat cmd.label.val = (octet >>> 4) &&& 0x0F ∧
          (buf.len = avdtLenGenRej ∨ buf.bytes[1]?.map (· &&& (0x3F : UInt8)) = some cmd.sig)) := by
  obtain ⟨⟨pRxMsg, ret⟩, asmbl, handled⟩ := Option.bind_eq_some_iff.mp ind
  cases ret with
  | none =>
    cases handled
    exact absurd rfl raised
  | some buf =>
    obtain ⟨octet, first, answers⟩ := indMsg_answers handled raised
    exact ⟨pRxMsg, buf, octet, asmbl, first, answers⟩

/-- A GETCAP response in one packet, label 0, to the GETCAP in flight under
label 0, with the application's configuration to write. -/
theorem avdtMsgInd_answers_getcap :
    ∃ ccb' actions,
      avdtMsgInd (fun _ _ => true) ⟨1, some ⟨[], avdtMsgOffset, 1, 0, avdtMsgTypeCmd, avdtSigGetcap⟩, none,
          .cfg AvdtpSepConfig.zero, 0, 0, 0⟩ ⟨[0x02, 0x02], 0, 2⟩ = some (ccb', actions) ∧ actions ≠ [] ∧
      ∃ pRxMsg buf, ∃ octet : UInt8, avdtMsgAsmbl none ⟨[0x02, 0x02], 0, 2⟩ = some (pRxMsg, some buf) ∧
        buf.bytes[0]? = some octet ∧
        (Fin.ofNat 4 (octet &&& 0x03).toNat = avdtMsgTypeCmd ∨
          ∃ cmd, some (CurrMsg.mk [] avdtMsgOffset 1 0 avdtMsgTypeCmd avdtSigGetcap) = some cmd ∧
            UInt8.ofNat cmd.label.val = (octet >>> 4) &&& 0x0F ∧
            (buf.len = avdtLenGenRej ∨ buf.bytes[1]?.map (· &&& (0x3F : UInt8)) = some cmd.sig)) :=
  ⟨_, _, rfl, List.cons_ne_nil _ _,
    @avdtMsgInd_answers (fun _ _ => true) ⟨1, some ⟨[], avdtMsgOffset, 1, 0, avdtMsgTypeCmd, avdtSigGetcap⟩, none,
      .cfg AvdtpSepConfig.zero, 0, 0, 0⟩ ⟨[0x02, 0x02], 0, 2⟩ _ _ rfl (List.cons_ne_nil _ _)⟩

/-! ## Responses end to end -/

/-- **A response reaches what sent the command.**  A response the channel
accepts, sent under the header of the command in flight (its signal and
label), queued by `avdt_msg_send_rsp` and cut into packets by `avdt_msg_send`
at any MTU above the START header, is handed on by `avdt_msg_ind`, whatever
was being reassembled before: to the channel's state machine, or to the stream
whose handle the command hides in front of it, with its parameters parsed into
the storage the application gave; the command's retransmissions stop and the
channel is told the command is answered. -/
theorem rsp_delivered {allocated : ℕ → ℕ → Bool} {r : Rsp} (valid : r.Valid) (fits : r.Fits) (hdr : EvtHdr)
    {fresh : List UInt8} (sized : fresh.length = avdtCmdBufSize - btHdrSize) {peerMtu : ℕ}
    (mtu : avdtLenTypeStart < peerMtu) {ccb : AvdtpCcb} {cmd : CurrMsg} (inFlight : ccb.pCurrCmd = some cmd)
    (answers : cmd.sig = r.sigId ∧ cmd.label = Fin.ofNat 16 hdr.label.toNat) (awaits : r.Awaits ccb) {hdl : UInt8}
    (stash : r.toScb = true → cmd.data[0]? = some hdl ∧ avdtScbByHdl allocated hdl = true) :
    ∃ curr sent packets, avdtMsgSendRsp r.sigId { r.msg with hdr := hdr } fresh = some (curr, sent) ∧
      avdtMsgSend peerMtu curr = some packets ∧
      ∀ pBufs, List.Forall₂ (fun pBuf packet => pBuf.Wf ∧ pBuf.bytes = packet) pBufs packets →
        (∀ pBuf ∈ pBufs.head?, pBuf.offset + avdtLenTypeStart + curr.len ≤ rxBufLen) →
        ∃ pRxMsg msg', indRun allocated ccb pBufs =
            some ({ indWriteBack { ccb with pRxMsg := pRxMsg } avdtMsgTypeRsp r.sigId msg' with retCount := 0 },
              [r.delivery hdl msg', .ccbEvent avdtCcbRcvrspEvt none]) ∧
          r.Received msg' ∧ msg'.hdr.errCode = 0 ∧ msg'.hdr.label = UInt8.ofNat cmd.label.val ∧
          msg'.hdr.sigId = r.sigId := by
  -- the peer: build under the command's header, queue, cut into packets
  obtain ⟨recv, setup, recvHdr, ready⟩ :=
    indSetup_rsp r awaits ((indStart (UInt8.ofNat (Fin.ofNat 16 hdr.label.toNat).val) ccb.ccbIdx).withSigId r.sigId)
  obtain ⟨bytes, sent, msg', built, parsed, received, kept⟩ := @prsRsp_bldRsp allocated r valid recv ready
  obtain ⟨data, queued, inside, window⟩ :=
    avdtMsgSendRsp_of_bld (bldRsp_withHdr built hdr) (by rw [sized]; exact room_of_bldRsp valid fits built)
  obtain ⟨packets, sentPackets, arrives⟩ := @indRun_of_sent allocated peerMtu mtu
    ⟨data, avdtMsgOffset, bytes.length, Fin.ofNat 16 hdr.label.toNat, avdtMsgTypeRsp, r.sigId⟩ rfl inside bytes window ccb
  refine ⟨_, _, packets, queued, sentPackets, fun pBufs bufs first => ?_⟩
  -- the channel: the whole message, handled
  obtain ⟨pRxMsg, ret, octet, ran, hdrBits, retBytes⟩ := arrives pBufs bufs first
  obtain ⟨low, signal⟩ := Rsp.sigId_parses r
  have stillInFlight : (indWriteBack { ccb with pRxMsg := pRxMsg } avdtMsgTypeRsp r.sigId (msg'.withErrCode 0)).pCurrCmd =
      some cmd := by
    rw [pCurrCmd_indWriteBack]
    exact inFlight
  obtain ⟨evt, event, raised⟩ := indDeliver_rsp r stillInFlight stash (msg'.withErrCode 0)
  have setup' : indSetup { ccb with pRxMsg := pRxMsg } avdtMsgTypeRsp r.sigId
      ((indStart (UInt8.ofNat (Fin.ofNat 16 hdr.label.toNat).val) ccb.ccbIdx).withSigId r.sigId) = some recv := setup
  have matching : cmd.sig = r.sigId ∧ UInt8.ofNat cmd.label.val = UInt8.ofNat (Fin.ofNat 16 hdr.label.toNat).val :=
    ⟨answers.1, by rw [answers.2]⟩
  refine ⟨pRxMsg, msg'.withErrCode 0, ?_, Rsp.received_withErrCode received 0, rfl,
    by rw [answers.2]; exact kept.label.trans (congrArg EvtHdr.label recvHdr),
    kept.sigId.trans (congrArg EvtHdr.sigId recvHdr)⟩
  have notGrj : avdtMsgTypeRsp ≠ avdtMsgTypeGrj := by decide
  have notRej : avdtMsgTypeRsp ≠ avdtMsgTypeRej := by decide
  rw [ran, indMsg_parsed retBytes hdrBits notGrj (fun rej => notRej rej.1) low signal setup'
    (indParse_rsp parsed event), indFinish_answered (Or.inl rfl) stillInFlight matching raised]
  rfl

/-- An OPEN response under label 3 to the OPEN in flight for stream 1, at an
MTU of 48. -/
theorem rsp_delivered_open :
    ∃ curr sent packets, avdtMsgSendRsp Rsp.openStream.sigId { Rsp.openStream.msg with hdr := ⟨0, 0, 3, 0, 6, 0⟩ }
        (List.replicate 652 0) = some (curr, sent) ∧
      avdtMsgSend 48 curr = some packets ∧
      ∀ pBufs, List.Forall₂ (fun pBuf packet => pBuf.Wf ∧ pBuf.bytes = packet) pBufs packets →
        (∀ pBuf ∈ pBufs.head?, pBuf.offset + avdtLenTypeStart + curr.len ≤ rxBufLen) →
        ∃ pRxMsg msg', indRun (fun _ _ => true)
            ⟨0, some ⟨[1], avdtMsgOffset, 1, 3, avdtMsgTypeCmd, avdtSigOpen⟩, none, .none, 0, 2, 0⟩ pBufs =
            some ({ indWriteBack ⟨0, some ⟨[1], avdtMsgOffset, 1, 3, avdtMsgTypeCmd, avdtSigOpen⟩, pRxMsg, .none, 0, 2, 0⟩
                avdtMsgTypeRsp Rsp.openStream.sigId msg' with retCount := 0 },
              [Rsp.openStream.delivery 1 msg', .ccbEvent avdtCcbRcvrspEvt none]) ∧
          Rsp.openStream.Received msg' ∧ msg'.hdr.errCode = 0 ∧ msg'.hdr.label = 3 ∧
          msg'.hdr.sigId = Rsp.openStream.sigId :=
  @rsp_delivered (fun _ _ => true) .openStream trivial trivial ⟨0, 0, 3, 0, 6, 0⟩ (List.replicate 652 0)
    List.length_replicate 48 (by decide)
    ⟨0, some ⟨[1], avdtMsgOffset, 1, 3, avdtMsgTypeCmd, avdtSigOpen⟩, none, .none, 0, 2, 0⟩ _ rfl ⟨rfl, rfl⟩ trivial 1
    (fun _ => ⟨rfl, rfl⟩)

/-! ## Rejects end to end -/

/-- **A reject reaches what sent the command.**  A reject of a command, sent
under the header of the command in flight, queued by `avdt_msg_send_rej` and cut
into packets by `avdt_msg_send` at any MTU above the START header, is no general
reject to `avdt_msg_ind`: it raises the event `avdt_msg_rej_2_evt` has for the
command, with the error code and the error parameter it was sent with, stops
the command's retransmissions and tells the channel the command is answered.
For a DELAY_REPORT the stream's handle is read, and only the channel hears. -/
theorem rej_delivered {allocated : ℕ → ℕ → Bool} (c : Cmd) {pParams : AvdtMsg}
    (small : c.sigId = avdtSigStart ∨ c.sigId = avdtSigSuspend → pParams.hdr.errParam < 64) {fresh : List UInt8}
    (sized : fresh.length = avdtCmdBufSize - btHdrSize) {peerMtu : ℕ} (mtu : avdtLenTypeStart < peerMtu)
    {ccb : AvdtpCcb} {cmd : CurrMsg} (inFlight : ccb.pCurrCmd = some cmd)
    (answers : cmd.sig = c.sigId ∧ cmd.label = Fin.ofNat 16 pParams.hdr.label.toNat) {hdl : UInt8}
    (stash : cmd.data[0]? = some hdl) (known : c.toScb = true → avdtScbByHdl allocated hdl = true) :
    ∃ curr packets, avdtMsgSendRej c.sigId pParams fresh = some curr ∧ avdtMsgSend peerMtu curr = some packets ∧
      ∀ pBufs, List.Forall₂ (fun pBuf packet => pBuf.Wf ∧ pBuf.bytes = packet) pBufs packets →
        (∀ pBuf ∈ pBufs.head?, pBuf.offset + avdtLenTypeStart + curr.len ≤ rxBufLen) →
        ∃ pRxMsg msg', indRun allocated ccb pBufs =
            some ({ ccb with pRxMsg := pRxMsg, retCount := 0 },
              c.rejDelivery hdl msg' ++ [.ccbEvent avdtCcbRcvrspEvt none]) ∧
          msg'.hdr.errCode = pParams.hdr.errCode ∧
          (c.sigId = avdtSigSetconfig ∨ c.sigId = avdtSigReconfig ∨ c.sigId = avdtSigStart ∨
            c.sigId = avdtSigSuspend → msg'.hdr.errParam = pParams.hdr.errParam) ∧
          msg'.hdr.label = UInt8.ofNat cmd.label.val ∧ msg'.hdr.sigId = c.sigId := by
  -- the peer: the reject's parameters, queued and cut into packets
  obtain ⟨low, signal⟩ := Cmd.sigId_parses c
  have named : c.sigId ≠ avdtSigNone := fun none => signal (Or.inl none)
  obtain ⟨atLeast, atMost⟩ := length_avdtMsgBldRej named pParams
  obtain ⟨data, queued, inside, window⟩ := @avdtMsgSendRej_of_bld c.sigId pParams fresh
    (by simp only [sized, avdtMsgOffset, l2capMinOffset, avdtNumSeps, avdtLenTypeStart, avdtCmdBufSize, btHdrSize]
        omega)
  obtain ⟨packets, sentPackets, arrives⟩ := @indRun_of_sent allocated peerMtu mtu
    ⟨data, avdtMsgOffset, _, Fin.ofNat 16 pParams.hdr.label.toNat, avdtMsgTypeRej, c.sigId⟩ rfl inside _ window ccb
  refine ⟨_, packets, queued, sentPackets, fun pBufs bufs first => ?_⟩
  -- the channel: the whole message, with an error code after the signal
  obtain ⟨pRxMsg, ret, octet, ran, hdrBits, retBytes⟩ := arrives pBufs bufs first
  have notGenRej : ¬(avdtMsgTypeRej = avdtMsgTypeRej ∧ ret.len = avdtLenGenRej) := by
    rintro ⟨-, two⟩
    have held : ret.bytes.length ≤ ret.len := List.length_take_le _ _
    simp only [retBytes, List.length_cons, avdtLenGenRej] at held two
    omega
  obtain ⟨errParam, parsed, carried⟩ := avdtMsgPrsRej_bld named small
    ((indStart (UInt8.ofNat (Fin.ofNat 16 pParams.hdr.label.toNat).val) ccb.ccbIdx).withSigId c.sigId)
  have stillInFlight : ({ ccb with pRxMsg := pRxMsg } : AvdtpCcb).pCurrCmd = some cmd := inFlight
  obtain ⟨evt, event, raised⟩ := indDeliver_rej c stillInFlight stash known
    ((((indStart (UInt8.ofNat (Fin.ofNat 16 pParams.hdr.label.toNat).val) ccb.ccbIdx).withSigId c.sigId).withErrParam
      errParam).withErrCode pParams.hdr.errCode)
  have matching : cmd.sig = c.sigId ∧
      UInt8.ofNat cmd.label.val = UInt8.ofNat (Fin.ofNat 16 pParams.hdr.label.toNat).val :=
    ⟨answers.1, by rw [answers.2]⟩
  have notGrj : avdtMsgTypeRej ≠ avdtMsgTypeGrj := by decide
  refine ⟨pRxMsg, (((indStart (UInt8.ofNat (Fin.ofNat 16 pParams.hdr.label.toNat).val) ccb.ccbIdx).withSigId
    c.sigId).withErrParam errParam).withErrCode pParams.hdr.errCode, ?_, rfl, carried, by rw [answers.2]; rfl, rfl⟩
  rw [ran, indMsg_parsed retBytes hdrBits notGrj notGenRej low signal (indSetup_rej { ccb with pRxMsg := pRxMsg } _ _)
    (indParse_rej parsed event), indWriteBack_rej, indFinish_answered (Or.inr rfl) stillInFlight matching raised]

/-- A reject of the SETCONFIG in flight for stream 1, under label 3, with
error parameter 7 and error code 0x29, at an MTU of 48. -/
theorem rej_delivered_setconfig :
    ∃ curr packets, avdtMsgSendRej (Cmd.setconfig 1 2 AvdtpSepConfig.zero).sigId
        { AvdtMsg.zero with hdr := ⟨0x29, 7, 3, 0, avdtSigSetconfig, 0⟩ } (List.replicate 652 0) = some curr ∧
      avdtMsgSend 48 curr = some packets ∧
      ∀ pBufs, List.Forall₂ (fun pBuf packet => pBuf.Wf ∧ pBuf.bytes = packet) pBufs packets →
        (∀ pBuf ∈ pBufs.head?, pBuf.offset + avdtLenTypeStart + curr.len ≤ rxBufLen) →
        ∃ pRxMsg msg', indRun (fun _ _ => true)
            ⟨0, some ⟨[1], avdtMsgOffset, 1, 3, avdtMsgTypeCmd, avdtSigSetconfig⟩, none, .none, 0, 2, 0⟩ pBufs =
            some (⟨0, some ⟨[1], avdtMsgOffset, 1, 3, avdtMsgTypeCmd, avdtSigSetconfig⟩, pRxMsg, .none, 0, 0, 0⟩,
              (Cmd.setconfig 1 2 AvdtpSepConfig.zero).rejDelivery 1 msg' ++ [.ccbEvent avdtCcbRcvrspEvt none]) ∧
          msg'.hdr.errCode = 0x29 ∧
          ((Cmd.setconfig 1 2 AvdtpSepConfig.zero).sigId = avdtSigSetconfig ∨
            (Cmd.setconfig 1 2 AvdtpSepConfig.zero).sigId = avdtSigReconfig ∨
            (Cmd.setconfig 1 2 AvdtpSepConfig.zero).sigId = avdtSigStart ∨
            (Cmd.setconfig 1 2 AvdtpSepConfig.zero).sigId = avdtSigSuspend → msg'.hdr.errParam = 7) ∧
          msg'.hdr.label = 3 ∧ msg'.hdr.sigId = (Cmd.setconfig 1 2 AvdtpSepConfig.zero).sigId :=
  @rej_delivered (fun _ _ => true) (Cmd.setconfig 1 2 AvdtpSepConfig.zero)
    { AvdtMsg.zero with hdr := ⟨0x29, 7, 3, 0, avdtSigSetconfig, 0⟩ } (fun _ => by decide) (List.replicate 652 0)
    List.length_replicate 48 (by decide)
    ⟨0, some ⟨[1], avdtMsgOffset, 1, 3, avdtMsgTypeCmd, avdtSigSetconfig⟩, none, .none, 0, 2, 0⟩ _ rfl ⟨rfl, rfl⟩ 1
    rfl (fun _ => rfl)

/-! ## A GETCAP response that answers nothing -/

/-- **An unanswered GETCAP response still overwrites.**  `p_proc_data` keeps
pointing to the application's configuration after the GETCAP procedure that set
it.  A GETCAP response, in one packet, whose signal or label are not those of
the command in flight is dropped by `avdt_msg_ind`, but only after it has been
parsed there: the application's configuration is replaced by the capabilities
the response carries. -/
theorem unanswered_getcap_rsp_overwrites {allocated : ℕ → ℕ → Bool} {cfg : AvdtpSepConfig}
    (valid : (Rsp.getcap cfg).Valid) {ccb : AvdtpCcb} {stored : AvdtpSepConfig} (storage : ccb.procData = .cfg stored)
    (storedWf : stored.Wf) (label : Fin 16)
    (stray : ∀ cmd ∈ ccb.pCurrCmd, ¬(cmd.sig = avdtSigGetcap ∧ cmd.label = label)) :
    ∃ bytes sent, bldBy avdtMsgBldRsp avdtSigGetcap (Rsp.getcap cfg).msg = some (bytes, sent) ∧
      ∀ pBuf : BtHdr, pBuf.Wf →
        pBuf.bytes = bldHdr label avdtPktTypeSingle avdtMsgTypeRsp :: avdtSigGetcap :: bytes →
        ∃ c, avdtMsgInd allocated ccb pBuf = some ({ ccb with pRxMsg := none, procData := .cfg c }, []) ∧
          c.Carries { cfg with pscMask := cfg.pscMask &&& avdtLegPsc } := by
  obtain ⟨bytes, sent, msg', built, parsed, ⟨c, written, carries⟩, -⟩ :=
    @prsRsp_bldRsp allocated (.getcap cfg) valid
      { (indStart (UInt8.ofNat label.val) ccb.ccbIdx).withSigId avdtSigGetcap with cfg := some stored }
      ⟨stored, rfl, storedWf⟩
  refine ⟨bytes, sent, built, fun pBuf wf packet => ⟨c, ?_, carries⟩⟩
  rw [avdtMsgInd_whole (avdtMsgAsmbl_single wf packet (prsPktType_bldHdr_single label avdtMsgTypeRsp) ccb.pRxMsg)]
  rw [indMsg_parsed packet (bldHdr_and_not_pktType label 0 avdtMsgTypeRsp) (by decide)
    (fun rej => absurd rej.1 (by decide)) (by decide) (by decide)
    (@indSetup_getcap { ccb with pRxMsg := none } _ storage _) (indParse_rsp parsed rfl),
    @indWriteBack_getcap _ (msg'.withErrCode 0) c written]
  -- parsed into the application's storage, then dropped
  rw [indFinish_unanswered (Or.inl rfl)]
  intro cmd inFlight matching
  exact stray cmd inFlight ⟨matching.1, label_eq_of_ofNat matching.2⟩

/-- The application's last GETCAP procedure stored an AAC codec element with
delay reporting; a GETCAP command is now in flight under label 3.  A GETCAP
response under label 5, advertising the media transport and an SBC codec
element, is dropped, and the stored configuration is now the SBC one. -/
theorem unanswered_getcap_rsp_overwrites_aac :
    ∃ bytes sent, bldBy avdtMsgBldRsp avdtSigGetcap (Rsp.getcap
        ⟨[6, 0, 0, 0xFF, 0xFF, 2, 53] ++ List.replicate 13 0, List.replicate 90 0, 1, 0, avdtPscTrans, 0, 0, 0, 0⟩).msg =
        some (bytes, sent) ∧
      ∀ pBuf : BtHdr, pBuf.Wf →
        pBuf.bytes = bldHdr 5 avdtPktTypeSingle avdtMsgTypeRsp :: avdtSigGetcap :: bytes →
        ∃ c, avdtMsgInd (fun _ _ => true)
            ⟨3, some ⟨[4], 0, 1, 3, avdtMsgTypeCmd, avdtSigGetcap⟩, none,
              .cfg ⟨[8, 0, 2, 0x80, 1, 0x8C, 0x84, 0xE2, 0] ++ List.replicate 11 0, List.replicate 90 0, 1, 0,
                avdtPscTrans ||| avdtPscDelayRpt, 0, 0, 0, 0⟩, 0, 0, 0⟩ pBuf =
            some (⟨3, some ⟨[4], 0, 1, 3, avdtMsgTypeCmd, avdtSigGetcap⟩, none, .cfg c, 0, 0, 0⟩, []) ∧
          c.Carries ⟨[6, 0, 0, 0xFF, 0xFF, 2, 53] ++ List.replicate 13 0, List.replicate 90 0, 1, 0,
            avdtPscTrans &&& avdtLegPsc, 0, 0, 0, 0⟩ :=
  @unanswered_getcap_rsp_overwrites (fun _ _ => true)
    ⟨[6, 0, 0, 0xFF, 0xFF, 2, 53] ++ List.replicate 13 0, List.replicate 90 0, 1, 0, avdtPscTrans, 0, 0, 0, 0⟩
    ⟨⟨rfl, rfl⟩, by decide, by decide, by decide, fun _ => by decide, fun none => absurd rfl none⟩
    ⟨3, some ⟨[4], 0, 1, 3, avdtMsgTypeCmd, avdtSigGetcap⟩, none,
      .cfg ⟨[8, 0, 2, 0x80, 1, 0x8C, 0x84, 0xE2, 0] ++ List.replicate 11 0, List.replicate 90 0, 1, 0,
        avdtPscTrans ||| avdtPscDelayRpt, 0, 0, 0, 0⟩, 0, 0, 0⟩ _ rfl ⟨rfl, rfl⟩ 5
    (fun cmd inFlight => by obtain rfl := Option.some_inj.mp inFlight; decide)

end Bluedroid.Avdt
