import Mathlib
import Bluedroid.Avdt.Msg
import Bluedroid.Avdt.Cfg

/-!
# Avdt.Signal -- the signalling messages of `avdt_msg.cc`

Each of the thirteen AVDTP signals has a builder for its command and one for
its response (`avdt_msg_bld_cmd`, `avdt_msg_bld_rsp`), and a parser for each
(`avdt_msg_prs_cmd`, `avdt_msg_prs_rsp`); the tables are indexed by
`sig_id - 1`.  The parameters travel in a `tAVDT_MSG`, a union of one struct
per kind of message, all beginning with the event header.  A reject carries an
error code, after an error parameter for four of the signals
(`avdt_msg_send_rej`, `avdt_msg_prs_rej`).

The parsers read `len` octets from `p`; a read past them is `none`, as is an
access through a `NULL` configuration or past an application's array.  The
receiver's parsers check every SEID against the stream control blocks that
`avdt_scb_by_hdl` finds allocated.

Over the tables sits what a signal means: `Cmd` and `Rsp` list the commands
and responses by what they carry, with the conditions under which the peer
accepts them.  `prsCmd_bldCmd` and `prsRsp_bldRsp` say that every such
command and response is parsed back from what its builder writes, with no
error; `avdtMsgPrsRej_bld` says the same of rejects.
-/

namespace Bluedroid.Avdt

set_option autoImplicit false

/-! ## Constants of `avdt_defs.h`, `avdt_int.h` and `avdt_api.h` -/

/-- `AVDT_SIG_NONE`. -/
def avdtSigNone : UInt8 := 0

/-- `AVDT_SIG_DISCOVER`. -/
def avdtSigDiscover : UInt8 := 1

/-- `AVDT_SIG_GETCAP`. -/
def avdtSigGetcap : UInt8 := 2

/-- `AVDT_SIG_GETCONFIG`. -/
def avdtSigGetconfig : UInt8 := 4

/-- `AVDT_SIG_OPEN`. -/
def avdtSigOpen : UInt8 := 6

/-- `AVDT_SIG_START`. -/
def avdtSigStart : UInt8 := 7

/-- `AVDT_SIG_CLOSE`. -/
def avdtSigClose : UInt8 := 8

/-- `AVDT_SIG_SUSPEND`. -/
def avdtSigSuspend : UInt8 := 9

/-- `AVDT_SIG_ABORT`. -/
def avdtSigAbort : UInt8 := 10

/-- `AVDT_SIG_SECURITY`. -/
def avdtSigSecurity : UInt8 := 11

/-- `AVDT_SIG_GET_ALLCAP`. -/
def avdtSigGetAllcap : UInt8 := 12

/-- `AVDT_SIG_DELAY_RPT`. -/
def avdtSigDelayRpt : UInt8 := 13

/-- `AVDT_SIG_MAX`. -/
def avdtSigMax : UInt8 := avdtSigDelayRpt

/-- `AVDT_SEID_MIN`. -/
def avdtSeidMin : UInt8 := 0x01

/-- `AVDT_SEID_MAX`. -/
def avdtSeidMax : UInt8 := 0x3E

/-- `AVDT_NUM_LINKS`. -/
def avdtNumLinks : ℕ := 6

/-- `AVDT_LEN_SINGLE`. -/
def avdtLenSingle : ℕ := 1

/-- `AVDT_LEN_SETCONFIG_MIN`. -/
def avdtLenSetconfigMin : ℕ := 2

/-- `AVDT_LEN_RECONFIG_MIN`. -/
def avdtLenReconfigMin : ℕ := 1

/-- `AVDT_LEN_MULTI_MIN`. -/
def avdtLenMultiMin : ℕ := 1

/-- `AVDT_LEN_SECURITY_MIN`. -/
def avdtLenSecurityMin : ℕ := 1

/-- `AVDT_LEN_DELAY_RPT`. -/
def avdtLenDelayRpt : ℕ := 3

/-- `AVDT_ERR_SEID`. -/
def avdtErrSeid : UInt8 := 0x12

/-- `AVDT_ERR_INVALID_CAP`. -/
def avdtErrInvalidCap : UInt8 := 0x1A

/-- `AVDT_ERR_BAD_STATE`. -/
def avdtErrBadState : UInt8 := 0x31

/-- `AVDT_PSC_RECOV`. -/
def avdtPscRecov : UInt16 := (1 : UInt16) <<< 3

/-- `AVDT_PSC_HDRCMP`. -/
def avdtPscHdrcmp : UInt16 := (1 : UInt16) <<< 5

/-- `AVDT_PSC_MUX`. -/
def avdtPscMux : UInt16 := (1 : UInt16) <<< 6

/-- `AVDT_PSC`: the protocol service capabilities this stack supports. -/
def avdtPsc : UInt16 := avdtPscTrans ||| avdtPscReport ||| avdtPscDelayRpt

/-- `AVDT_LEG_PSC`: the basic capabilities of a GetCapabilities response. -/
def avdtLegPsc : UInt16 := avdtPscTrans ||| avdtPscReport

/-- `AVDT_MSG_PSC_MASK`. -/
def avdtMsgPscMask : UInt16 :=
  avdtPscTrans ||| avdtPscReport ||| avdtPscDelayRpt ||| avdtPscRecov ||| avdtPscHdrcmp ||| avdtPscMux

/-! ## SEIDs and the stream control blocks -/

/-- `AVDT_MSG_BLD_SEID`. -/
def bldSeid (seid : UInt8) : UInt8 := seid <<< 2

/-- `AVDT_MSG_PRS_SEID`. -/
def prsSeid (octet : UInt8) : UInt8 := (octet >>> 2) &&& 0x3F

/-- A SEID of six bits reads back from its octet. -/
theorem prsSeid_bldSeid {seid : UInt8} (small : seid < 64) : prsSeid (bldSeid seid) = seid := by
  have every : ∀ s : Fin 64, prsSeid (bldSeid (UInt8.ofNat s)) = UInt8.ofNat s := by decide
  simpa using every ⟨seid.toNat, small⟩

/-- `avdt_scb_by_hdl`: whether `hdl` names an allocated stream control block,
`avdtp_cb.ccb[i].scb[j]` for `hdl - 1 = i * AVDT_NUM_SEPS + j`. -/
def avdtScbByHdl (allocated : ℕ → ℕ → Bool) (hdl : UInt8) : Bool :=
  if hdl.toNat < 1 ∨ hdl.toNat > avdtNumLinks * avdtNumSeps then false
  else allocated ((hdl.toNat - 1) / avdtNumSeps) ((hdl.toNat - 1) % avdtNumSeps)

/-- A SEID the receiver reads back and accepts: six bits, naming an allocated
stream control block. -/
def SeidKnown (allocated : ℕ → ℕ → Bool) (seid : UInt8) : Prop :=
  seid < 64 ∧ avdtScbByHdl allocated seid = true

/-! ## Messages -/

/-- `tAVDT_EVT_HDR`. -/
structure EvtHdr where
  errCode : UInt8
  errParam : UInt8
  label : UInt8
  seid : UInt8
  sigId : UInt8
  ccbIdx : UInt8
  deriving DecidableEq, Repr

/-- `tAVDT_SEP_INFO`. -/
structure SepInfo where
  inUse : Bool
  seid : UInt8
  mediaType : UInt8
  tsep : UInt8
  deriving DecidableEq, Repr

/-- `tAVDT_MSG`.  Every member of the union begins with the header.  Behind
it, members that the code reads through one another share a field: `p_cfg` of
`config_cmd`, `reconfig_cmd` and `svccap` (`none` for `NULL`), and `p_data`,
`len` of `security_cmd` and `security_rsp`.  `seidList` is
`multi.seid_list[0 .. num_seps)`, and `sepInfo` the application's array
`discover_rsp.p_sep_info` of which `numSeps` entries are meant. -/
structure AvdtMsg where
  hdr : EvtHdr
  cfg : Option AvdtpSepConfig
  intSeid : UInt8
  seidList : List UInt8
  data : List UInt8
  sepInfo : List SepInfo
  numSeps : UInt8
  delay : UInt16
  deriving DecidableEq, Repr

/-- `tAVDT_MSG msg{}`. -/
def AvdtMsg.zero : AvdtMsg := ⟨⟨0, 0, 0, 0, 0, 0⟩, none, 0, [], [], [], 0, 0⟩

/-- `p_msg->hdr.seid = seid`. -/
@[simps]
def AvdtMsg.withSeid (msg : AvdtMsg) (seid : UInt8) : AvdtMsg := { msg with hdr := { msg.hdr with seid := seid } }

/-- `p_msg->hdr.err_param = errParam`. -/
@[simps]
def AvdtMsg.withErrParam (msg : AvdtMsg) (errParam : UInt8) : AvdtMsg :=
  { msg with hdr := { msg.hdr with errParam := errParam } }

/-- `p_msg->hdr.err_code = errCode`. -/
@[simps]
def AvdtMsg.withErrCode (msg : AvdtMsg) (errCode : UInt8) : AvdtMsg :=
  { msg with hdr := { msg.hdr with errCode := errCode } }

/-- The entry `table[sig_id - 1]` of a table indexed by signal; `none` outside it. -/
def sigEntry {α : Type} (table : List α) (sigId : UInt8) : Option α :=
  if sigId.toNat = 0 then none else table[sigId.toNat - 1]?

/-! ## Builders -/

/-- A builder of `avdt_msg_bld_cmd` or `avdt_msg_bld_rsp`: the octets it writes
from `*p` on and the message after it; `none` for an access through `NULL` or
past an array. -/
abbrev MsgBld := AvdtMsg → Option (List UInt8 × AvdtMsg)

/-- `AVDT_MSG_BLD_DISC`. -/
def bldDisc (info : SepInfo) : List UInt8 :=
  [(info.seid <<< 2) ||| ((if info.inUse then 1 else 0 : UInt8) <<< 1), (info.mediaType <<< 4) ||| (info.tsep <<< 3)]

/-- `avdt_msg_bld_none`. -/
def avdtMsgBldNone : MsgBld := fun msg => some ([], msg)

/-- `avdt_msg_bld_single`. -/
def avdtMsgBldSingle : MsgBld := fun msg => some ([bldSeid msg.hdr.seid], msg)

/-- `avdt_msg_bld_setconfig_cmd`. -/
def avdtMsgBldSetconfigCmd : MsgBld := fun msg => do
  let cfg ← msg.cfg
  pure ([bldSeid msg.hdr.seid, bldSeid msg.intSeid] ++ avdtMsgBldCfg cfg, msg)

/-- `avdt_msg_bld_reconfig_cmd`: it clears the caller's `psc_mask` before it
builds the configuration. -/
def avdtMsgBldReconfigCmd : MsgBld := fun msg => do
  let cfg ← msg.cfg
  let cfg := { cfg with pscMask := 0 }
  pure (bldSeid msg.hdr.seid :: avdtMsgBldCfg cfg, { msg with cfg := some cfg })

/-- `avdt_msg_bld_multi`. -/
def avdtMsgBldMulti : MsgBld := fun msg => some (msg.seidList.map bldSeid, msg)

/-- `avdt_msg_bld_security_cmd`. -/
def avdtMsgBldSecurityCmd : MsgBld := fun msg => some (bldSeid msg.hdr.seid :: msg.data, msg)

/-- `avdt_msg_bld_delay_rpt`: the SEID, then the delay most significant octet first. -/
def avdtMsgBldDelayRpt : MsgBld := fun msg =>
  some ([bldSeid msg.hdr.seid, (msg.delay >>> 8).toUInt8, msg.delay.toUInt8], msg)

/-- `avdt_msg_bld_discover_rsp`: the first `num_seps` entries of `p_sep_info`. -/
def avdtMsgBldDiscoverRsp : MsgBld := fun msg =>
  if msg.numSeps.toNat ≤ msg.sepInfo.length then
    some ((msg.sepInfo.take msg.numSeps.toNat).flatMap bldDisc, msg)
  else none

/-- `avdt_msg_bld_svccap`: a copy of the configuration with only the basic
capabilities. -/
def avdtMsgBldSvccap : MsgBld := fun msg => do
  let cfg ← msg.cfg
  pure (avdtMsgBldCfg { cfg with pscMask := cfg.pscMask &&& avdtLegPsc }, msg)

/-- `avdt_msg_bld_all_svccap`. -/
def avdtMsgBldAllSvccap : MsgBld := fun msg => do
  let cfg ← msg.cfg
  pure (avdtMsgBldCfg cfg, msg)

/-- `avdt_msg_bld_security_rsp`. -/
def avdtMsgBldSecurityRsp : MsgBld := fun msg => some (msg.data, msg)

/-- `avdt_msg_bld_cmd`, by signal. -/
def avdtMsgBldCmd : List MsgBld :=
  [avdtMsgBldNone, avdtMsgBldSingle, avdtMsgBldSetconfigCmd, avdtMsgBldSingle, avdtMsgBldReconfigCmd,
    avdtMsgBldSingle, avdtMsgBldMulti, avdtMsgBldSingle, avdtMsgBldMulti, avdtMsgBldSingle,
    avdtMsgBldSecurityCmd, avdtMsgBldSingle, avdtMsgBldDelayRpt]

/-- `avdt_msg_bld_rsp`, by signal. -/
def avdtMsgBldRsp : List MsgBld :=
  [avdtMsgBldDiscoverRsp, avdtMsgBldSvccap, avdtMsgBldNone, avdtMsgBldAllSvccap, avdtMsgBldNone,
    avdtMsgBldNone, avdtMsgBldNone, avdtMsgBldNone, avdtMsgBldNone, avdtMsgBldNone,
    avdtMsgBldSecurityRsp, avdtMsgBldAllSvccap, avdtMsgBldNone]

/-- The parameters `avdt_msg_send_rej` writes: for a SETCONFIG or RECONFIG the
error parameter, for a START or SUSPEND it as a SEID, then the error code;
nothing for `AVDT_SIG_NONE`. -/
def avdtMsgBldRej (sigId : UInt8) (msg : AvdtMsg) : List UInt8 :=
  if sigId = avdtSigNone then []
  else
    (if sigId = avdtSigSetconfig ∨ sigId = avdtSigReconfig then [msg.hdr.errParam]
      else if sigId = avdtSigStart ∨ sigId = avdtSigSuspend then [bldSeid msg.hdr.errParam]
      else []) ++ [msg.hdr.errCode]

/-! ## Parsers -/

/-- A parser of `avdt_msg_prs_cmd` or `avdt_msg_prs_rsp`, given the
`allocated` flags `avdt_scb_by_hdl` reads, the message and the `len` octets at
`p`: the message after it and the error it returns; `none` for a read past
the octets or an access through `NULL` or past an array. -/
abbrev MsgPrs := (ℕ → ℕ → Bool) → AvdtMsg → List UInt8 → Option (AvdtMsg × UInt8)

/-- `avdt_msg_prs_cfg` through the pointer `p_cfg`, with `p_elem` pointing at
`errParam`: `NULL` is refused with `AVDT_ERR_BAD_STATE`. -/
def prsCfgInto (pCfg : Option AvdtpSepConfig) (p : List UInt8) (errParam sigId : UInt8) :
    Option (Option AvdtpSepConfig × UInt8 × UInt8) :=
  match pCfg with
  | none => some (none, errParam, avdtErrBadState)
  | some cfg => (avdtMsgPrsCfg cfg p sigId).map fun (cfg, elem, err) => (some cfg, elem, err)

/-- `AVDT_MSG_PRS_DISC`. -/
def prsDisc (o₀ o₁ : UInt8) : SepInfo :=
  ⟨(o₀ >>> 1) &&& 0x01 ≠ 0, o₀ >>> 2, (o₁ >>> 4) &&& 0x0F, (o₁ >>> 3) &&& 0x01⟩

/-- `avdt_msg_prs_none`. -/
def avdtMsgPrsNone : MsgPrs := fun _ msg _ => some (msg, 0)

/-- `avdt_msg_prs_single`. -/
def avdtMsgPrsSingle : MsgPrs := fun allocated msg p =>
  if p.length ≠ avdtLenSingle then some (msg, avdtErrLength)
  else do
    let seid := prsSeid (← p[0]?)
    pure (msg.withSeid seid, if avdtScbByHdl allocated seid then 0 else avdtErrSeid)

/-- `avdt_msg_prs_setconfig_cmd`: both SEIDs, then the configuration, which
must hold a codec and no capability the stack lacks. -/
def avdtMsgPrsSetconfigCmd : MsgPrs := fun allocated msg p => do
  let msg := msg.withErrParam 0
  if p.length < avdtLenSetconfigMin then pure (msg, avdtErrLength)
  else
    let seid := prsSeid (← p[0]?)
    let intSeid := prsSeid (← p[1]?)
    let msg := { msg.withSeid seid with intSeid := intSeid }
    if !avdtScbByHdl allocated seid ∨ intSeid < avdtSeidMin ∨ intSeid > avdtSeidMax then pure (msg, avdtErrSeid)
    else
      let (cfg, errParam, err) ← prsCfgInto msg.cfg (p.drop 2) msg.hdr.errParam avdtSigSetconfig
      let msg := { msg.withErrParam errParam with cfg := cfg }
      if err ≠ 0 then pure (msg, err)
      else do
        let cfg ← cfg
        pure (msg, if cfg.pscMask &&& ~~~avdtPsc ≠ 0 ∨ cfg.numCodec = 0 then avdtErrInvalidCap else 0)

/-- `avdt_msg_prs_reconfig_cmd`: the SEID, then a configuration of codec and
content protection only. -/
def avdtMsgPrsReconfigCmd : MsgPrs := fun allocated msg p => do
  let msg := msg.withErrParam 0
  if p.length < avdtLenReconfigMin then pure (msg, avdtErrLength)
  else
    let seid := prsSeid (← p[0]?)
    let msg := msg.withSeid seid
    if !avdtScbByHdl allocated seid then pure (msg, avdtErrSeid)
    else
      let (cfg, errParam, err) ← prsCfgInto msg.cfg (p.drop 1) msg.hdr.errParam avdtSigReconfig
      let msg := { msg.withErrParam errParam with cfg := cfg }
      if err ≠ 0 then pure (msg, err)
      else do
        let cfg ← cfg
        pure (msg, if cfg.pscMask ≠ 0 ∨ (cfg.numCodec = 0 ∧ cfg.numProtect = 0) then avdtErrInvalidCap else 0)

/-- The `for` loop of `avdt_msg_prs_multi` over the octets left: the SEIDs
before the first that names no allocated stream, and that one. -/
def prsMultiSeids (allocated : ℕ → ℕ → Bool) : List UInt8 → List UInt8 × Option UInt8
  | [] => ([], none)
  | octet :: octets =>
    if avdtScbByHdl allocated (prsSeid octet) then
      let (seids, bad) := prsMultiSeids allocated octets
      (prsSeid octet :: seids, bad)
    else ([], some (prsSeid octet))

/-- `avdt_msg_prs_multi`: one SEID per octet, at most `AVDT_NUM_SEPS`. -/
def avdtMsgPrsMulti : MsgPrs := fun allocated msg p =>
  let msg := msg.withErrParam 0
  if p.length < avdtLenMultiMin ∨ p.length > avdtNumSeps then some (msg, avdtErrLength)
  else
    match prsMultiSeids allocated p with
    | (seids, none) => some ({ msg with seidList := seids }, 0)
    | (seids, some bad) => some ({ msg.withErrParam bad with seidList := seids }, avdtErrSeid)

/-- `avdt_msg_prs_security_cmd`: the SEID, and the octets after it as the data. -/
def avdtMsgPrsSecurityCmd : MsgPrs := fun allocated msg p =>
  if p.length < avdtLenSecurityMin then some (msg, avdtErrLength)
  else do
    let seid := prsSeid (← p[0]?)
    let msg := msg.withSeid seid
    if avdtScbByHdl allocated seid then pure ({ msg with data := p.drop 1 }, 0) else pure (msg, avdtErrSeid)

/-- The `for` loop of `avdt_msg_prs_discover_rsp` over `n` entries: those it
writes, the last of them the first with an invalid SEID, and the error. -/
def prsDiscEntries : ℕ → List UInt8 → Option (List SepInfo × UInt8)
  | 0, _ => some ([], 0)
  | n + 1, p => do
    let info := prsDisc (← p[0]?) (← p[1]?)
    if info.seid < avdtSeidMin ∨ info.seid > avdtSeidMax then pure ([info], avdtErrSeid)
    else
      let (infos, err) ← prsDiscEntries n (p.drop 2)
      pure (info :: infos, err)

/-- `avdt_msg_prs_discover_rsp`: `num_seps`, the room the application gave,
is cut to the entries the message has; the entries are written over the
application's array. -/
def avdtMsgPrsDiscoverRsp : MsgPrs := fun _ msg p => do
  let numSeps := if msg.numSeps.toNat > p.length / 2 then UInt8.ofNat (p.length / 2) else msg.numSeps
  let (infos, err) ← prsDiscEntries numSeps.toNat p
  if infos.length ≤ msg.sepInfo.length then
    pure ({ msg with numSeps := numSeps, sepInfo := infos ++ msg.sepInfo.drop infos.length }, err)
  else none

/-- `avdt_msg_prs_svccap`: the configuration, cut to the basic capabilities. -/
def avdtMsgPrsSvccap : MsgPrs := fun _ msg p => do
  let (cfg, errParam, err) ← prsCfgInto msg.cfg p msg.hdr.errParam avdtSigGetcap
  let cfg := cfg.map fun cfg => { cfg with pscMask := cfg.pscMask &&& avdtLegPsc }
  pure ({ msg.withErrParam errParam with cfg := cfg }, err)

/-- `avdt_msg_prs_all_svccap`. -/
def avdtMsgPrsAllSvccap : MsgPrs := fun _ msg p => do
  let (cfg, errParam, err) ← prsCfgInto msg.cfg p msg.hdr.errParam avdtSigGetAllcap
  let cfg := cfg.map fun cfg => { cfg with pscMask := cfg.pscMask &&& avdtMsgPscMask }
  pure ({ msg.withErrParam errParam with cfg := cfg }, err)

/-- `avdt_msg_prs_security_rsp`. -/
def avdtMsgPrsSecurityRsp : MsgPrs := fun _ msg p => some ({ msg with data := p }, 0)

/-- `avdt_msg_prs_delay_rpt`: the SEID and the delay, most significant octet first. -/
def avdtMsgPrsDelayRpt : MsgPrs := fun allocated msg p =>
  if p.length ≠ avdtLenDelayRpt then some (msg, avdtErrLength)
  else do
    let seid := prsSeid (← p[0]?)
    let msg := msg.withSeid seid
    if !avdtScbByHdl allocated seid then pure (msg, avdtErrSeid)
    else do
      let hi ← p[1]?
      let lo ← p[2]?
      pure ({ msg with delay := (hi.toUInt16 <<< (8 : UInt16)) + lo.toUInt16 }, 0)

/-- `avdt_msg_prs_cmd`, by signal. -/
def avdtMsgPrsCmd : List MsgPrs :=
  [avdtMsgPrsNone, avdtMsgPrsSingle, avdtMsgPrsSetconfigCmd, avdtMsgPrsSingle, avdtMsgPrsReconfigCmd,
    avdtMsgPrsSingle, avdtMsgPrsMulti, avdtMsgPrsSingle, avdtMsgPrsMulti, avdtMsgPrsSingle,
    avdtMsgPrsSecurityCmd, avdtMsgPrsSingle, avdtMsgPrsDelayRpt]

/-- `avdt_msg_prs_rsp`, by signal. -/
def avdtMsgPrsRsp : List MsgPrs :=
  [avdtMsgPrsDiscoverRsp, avdtMsgPrsSvccap, avdtMsgPrsNone, avdtMsgPrsAllSvccap, avdtMsgPrsNone,
    avdtMsgPrsNone, avdtMsgPrsNone, avdtMsgPrsNone, avdtMsgPrsNone, avdtMsgPrsNone,
    avdtMsgPrsSecurityRsp, avdtMsgPrsAllSvccap, avdtMsgPrsNone]

/-- `(*table[sig_id - 1])(&p, p_msg)` for a table of builders. -/
def bldBy (table : List MsgBld) (sigId : UInt8) (msg : AvdtMsg) : Option (List UInt8 × AvdtMsg) :=
  (sigEntry table sigId).bind fun bld => bld msg

/-- `(*table[sig_id - 1])(&msg, p, len)` for a table of parsers. -/
def prsBy (table : List MsgPrs) (sigId : UInt8) (allocated : ℕ → ℕ → Bool) (msg : AvdtMsg) (p : List UInt8) :
    Option (AvdtMsg × UInt8) :=
  (sigEntry table sigId).bind fun prs => prs allocated msg p

/-- `avdt_msg_prs_rej`: the error parameter of a SETCONFIG or RECONFIG, the
SEID of a START or SUSPEND, then the error code. -/
def avdtMsgPrsRej (msg : AvdtMsg) (p : List UInt8) (sig : UInt8) : Option (AvdtMsg × UInt8) := do
  let (msg, p) ←
    if 0 < p.length then
      if sig = avdtSigSetconfig ∨ sig = avdtSigReconfig then do pure (msg.withErrParam (← p[0]?), p.drop 1)
      else if sig = avdtSigStart ∨ sig = avdtSigSuspend then do pure (msg.withErrParam (prsSeid (← p[0]?)), p.drop 1)
      else pure (msg, p)
    else pure (msg, p)
  if p.length < 1 then pure (msg, avdtErrLength)
  else do pure (msg.withErrCode (← p[0]?), 0)

/-! ## Octets read back -/

/-- An entry of a discover response reads back, for a SEID of six bits, a media
type of four and a SEP type of one. -/
theorem prsDisc_bldDisc {info : SepInfo} (seid : info.seid < 64) (mediaType : info.mediaType < 16)
    (tsep : info.tsep < 2) :
    prsDisc ((info.seid <<< 2) ||| ((if info.inUse then 1 else 0 : UInt8) <<< 1))
      ((info.mediaType <<< 4) ||| (info.tsep <<< 3)) = info := by
  have first : ∀ (s : Fin 64) (u : Bool),
      ((UInt8.ofNat s <<< 2) ||| ((if u then 1 else 0 : UInt8) <<< 1)) >>> 2 = UInt8.ofNat s ∧
        decide ((((UInt8.ofNat s <<< 2) ||| ((if u then 1 else 0 : UInt8) <<< 1)) >>> 1) &&& 0x01 ≠ 0) = u := by
    decide
  have second : ∀ (t : Fin 16) (ts : Fin 2),
      ((UInt8.ofNat t <<< 4 ||| UInt8.ofNat ts <<< 3) >>> 4) &&& 0x0F = UInt8.ofNat t ∧
        ((UInt8.ofNat t <<< 4 ||| UInt8.ofNat ts <<< 3) >>> 3) &&& 0x01 = UInt8.ofNat ts := by
    decide
  obtain ⟨readSeid, readInUse⟩ := first ⟨info.seid.toNat, seid⟩ info.inUse
  obtain ⟨readType, readTsep⟩ := second ⟨info.mediaType.toNat, mediaType⟩ ⟨info.tsep.toNat, tsep⟩
  simp only [UInt8.ofNat_toNat] at readSeid readInUse readType readTsep
  rw [prsDisc, readSeid, readInUse, readType, readTsep]

/-- The delay of a delay report reads back from its two octets. -/
theorem delay_read_back (delay : UInt16) :
    ((delay >>> 8).toUInt8.toUInt16 <<< (8 : UInt16)) + delay.toUInt8.toUInt16 = delay := by
  apply UInt16.toNat_inj.mp
  rw [UInt16.toNat_add, UInt16.toNat_shiftLeft, UInt8.toNat_toUInt16, UInt16.toNat_toUInt8, UInt8.toNat_toUInt16,
    UInt16.toNat_toUInt8, UInt16.toNat_shiftRight]
  have small := delay.toNat_lt
  simp only [UInt16.toNat_ofNat, Nat.shiftLeft_eq, Nat.shiftRight_eq_div_pow, Nat.reduceMod, Nat.reducePow]
  omega

/-! ## Configurations read back -/

/-- A configuration that `avdt_msg_bld_cfg` writes in full and
`avdt_msg_prs_cfg` reads back: arrays of their sizes, no capability beyond
`AVDT_PSC`, at most one codec and one protection element, each as long as the
tables ask and inside its array. -/
structure AvdtpSepConfig.Sendable (cfg : AvdtpSepConfig) : Prop where
  wf : cfg.Wf
  psc : cfg.pscMask &&& ~~~avdtPsc = 0
  oneCodec : cfg.numCodec ≤ 1
  oneProtect : cfg.numProtect ≤ 1
  codecLosc : cfg.numCodec ≠ 0 →
    2 ≤ (cfg.codecInfo.getD 0 0).toNat ∧ (cfg.codecInfo.getD 0 0).toNat + 1 ≤ avdtCodecSize
  protectLosc : cfg.numProtect ≠ 0 →
    2 ≤ (cfg.protectInfo.getD 0 0).toNat ∧ (cfg.protectInfo.getD 0 0).toNat + 1 ≤ avdtProtectSize

/-- What a parsed configuration keeps of the one sent: the capabilities, the
counts, and the codec and protection elements with their length octets. -/
structure AvdtpSepConfig.Carries (cfg sent : AvdtpSepConfig) : Prop where
  wf : cfg.Wf
  pscMask : cfg.pscMask = sent.pscMask
  numCodec : cfg.numCodec = sent.numCodec
  numProtect : cfg.numProtect = sent.numProtect
  codecInfo : sent.numCodec ≠ 0 → cfg.codecInfo.take ((sent.codecInfo.getD 0 0).toNat + 1) =
    sent.codecInfo.take ((sent.codecInfo.getD 0 0).toNat + 1)
  protectInfo : sent.numProtect ≠ 0 → cfg.protectInfo.take ((sent.protectInfo.getD 0 0).toNat + 1) =
    sent.protectInfo.take ((sent.protectInfo.getD 0 0).toNat + 1)

/-- A sendable configuration is parsed back into any configuration of the right sizes. -/
theorem avdtMsgPrsCfg_of_sendable {sent target : AvdtpSepConfig} (sendable : sent.Sendable) (targetWf : target.Wf)
    (sigId : UInt8) :
    ∃ cfg elem, avdtMsgPrsCfg target (avdtMsgBldCfg sent) sigId = some (cfg, elem, 0) ∧ cfg.Carries sent := by
  obtain ⟨cfg, elem, parsed, wf, psc, codec, protect, codecInfo, protectInfo⟩ :=
    avdtMsgPrsCfg_bldCfg sendable.wf sendable.psc sendable.oneCodec sendable.oneProtect sendable.codecLosc
      sendable.protectLosc targetWf sigId
  exact ⟨cfg, elem, parsed, ⟨wf, psc, codec, protect, codecInfo, protectInfo⟩⟩

/-- The same through a pointer to the target. -/
theorem prsCfgInto_of_sendable {sent target : AvdtpSepConfig} (sendable : sent.Sendable) (targetWf : target.Wf)
    (errParam sigId : UInt8) :
    ∃ cfg elem, prsCfgInto (some target) (avdtMsgBldCfg sent) errParam sigId = some (some cfg, elem, 0) ∧
      cfg.Carries sent := by
  obtain ⟨cfg, elem, parsed, carries⟩ := avdtMsgPrsCfg_of_sendable sendable targetWf sigId
  exact ⟨cfg, elem, by rw [prsCfgInto, parsed, Option.map_some], carries⟩

/-- Masking the capabilities with a word that keeps `AVDT_PSC` leaves a
sendable configuration's capabilities as they are. -/
theorem pscMask_and_of_sendable {cfg : AvdtpSepConfig} (sendable : cfg.Sendable) {mask : UInt16}
    (keeps : avdtPsc &&& mask = avdtPsc) : cfg.pscMask &&& mask = cfg.pscMask := by
  have inside := Theory.eq_and_of_and_not_eq_zero sendable.psc
  calc cfg.pscMask &&& mask = (cfg.pscMask &&& avdtPsc) &&& mask := by rw [← inside]
    _ = cfg.pscMask &&& avdtPsc := by rw [UInt16.and_assoc, keeps]
    _ = cfg.pscMask := inside.symm

/-- The basic capabilities of any configuration are inside `AVDT_PSC`. -/
theorem and_legPsc_and_not_psc (psc : UInt16) : psc &&& avdtLegPsc &&& ~~~avdtPsc = 0 := by
  have outside : avdtLegPsc &&& ~~~avdtPsc = 0 := by decide
  rw [UInt16.and_assoc, outside, UInt16.and_zero]

/-! ## Each parser reads back what its builder writes -/

section RoundTrip

variable {allocated : ℕ → ℕ → Bool}

/-- A SEID in `AVDT_SEID_MIN .. AVDT_SEID_MAX` has six bits. -/
theorem lt_of_le_seidMax {seid : UInt8} (le : seid ≤ avdtSeidMax) : seid < 64 :=
  UInt8.lt_of_le_of_lt le (by decide)

/-- `avdt_msg_prs_single` reads back the SEID of an allocated stream. -/
theorem avdtMsgPrsSingle_bld {seid : UInt8} (known : SeidKnown allocated seid) (msg : AvdtMsg) :
    avdtMsgPrsSingle allocated msg [bldSeid seid] = some (msg.withSeid seid, 0) := by
  simp [avdtMsgPrsSingle, avdtLenSingle, prsSeid_bldSeid known.1, known.2]

/-- `avdt_msg_prs_setconfig_cmd` reads back both SEIDs and a sendable configuration with a codec. -/
theorem avdtMsgPrsSetconfigCmd_bld {seid intSeid : UInt8} {sent target : AvdtpSepConfig}
    (known : SeidKnown allocated seid) (intMin : avdtSeidMin ≤ intSeid) (intMax : intSeid ≤ avdtSeidMax)
    (sendable : sent.Sendable) (codec : sent.numCodec ≠ 0) {msg : AvdtMsg} (ready : msg.cfg = some target)
    (targetWf : target.Wf) :
    ∃ cfg elem, avdtMsgPrsSetconfigCmd allocated msg ([bldSeid seid, bldSeid intSeid] ++ avdtMsgBldCfg sent) =
      some ({ (msg.withSeid seid).withErrParam elem with intSeid := intSeid, cfg := some cfg }, 0) ∧
      cfg.Carries sent := by
  obtain ⟨cfg, elem, parsed, carries⟩ := prsCfgInto_of_sendable sendable targetWf 0 avdtSigSetconfig
  have long : ¬(avdtMsgBldCfg sent).length + 1 + 1 < avdtLenSetconfigMin := by
    simp only [avdtLenSetconfigMin]
    omega
  have seids : ¬((!avdtScbByHdl allocated seid) = true ∨ intSeid < avdtSeidMin ∨ intSeid > avdtSeidMax) := by
    simp only [known.2, not_or]
    exact ⟨by decide, UInt8.not_lt.mpr intMin, UInt8.not_lt.mpr intMax⟩
  have supported : ¬(cfg.pscMask &&& ~~~avdtPsc ≠ 0 ∨ cfg.numCodec = 0) := by
    rw [carries.pscMask, carries.numCodec, not_or, not_not]
    exact ⟨sendable.psc, codec⟩
  refine ⟨cfg, elem, ?_, carries⟩
  simp only [avdtMsgPrsSetconfigCmd, List.length_cons, long,
    List.cons_append, List.getElem?_cons_zero, List.getElem?_cons_succ, List.drop_succ_cons, List.drop_zero,
    List.nil_append, prsSeid_bldSeid known.1, prsSeid_bldSeid (lt_of_le_seidMax intMax), AvdtMsg.withSeid,
    AvdtMsg.withErrParam, ready, parsed, Option.bind_eq_bind,
    Option.bind_some, Option.pure_def, seids, supported, if_false, ne_eq, not_true_eq_false]

/-- `avdt_msg_prs_reconfig_cmd` reads back the SEID and a configuration of a
codec or content protection element; the builder has cleared the capabilities. -/
theorem avdtMsgPrsReconfigCmd_bld {seid : UInt8} {sent target : AvdtpSepConfig} (known : SeidKnown allocated seid)
    (sendable : { sent with pscMask := 0 }.Sendable) (element : sent.numCodec ≠ 0 ∨ sent.numProtect ≠ 0)
    {msg : AvdtMsg} (ready : msg.cfg = some target) (targetWf : target.Wf) :
    ∃ cfg elem, avdtMsgPrsReconfigCmd allocated msg (bldSeid seid :: avdtMsgBldCfg { sent with pscMask := 0 }) =
      some ({ (msg.withSeid seid).withErrParam elem with cfg := some cfg }, 0) ∧
      cfg.Carries { sent with pscMask := 0 } := by
  obtain ⟨cfg, elem, parsed, carries⟩ := prsCfgInto_of_sendable sendable targetWf 0 avdtSigReconfig
  have long : ¬(avdtMsgBldCfg { sent with pscMask := 0 }).length + 1 < avdtLenReconfigMin := by
    simp only [avdtLenReconfigMin]
    omega
  have supported : ¬(cfg.pscMask ≠ 0 ∨ (cfg.numCodec = 0 ∧ cfg.numProtect = 0)) := by
    rw [carries.pscMask, carries.numCodec, carries.numProtect, not_or, not_not, not_and_or]
    exact ⟨rfl, element⟩
  refine ⟨cfg, elem, ?_, carries⟩
  simp only [avdtMsgPrsReconfigCmd, List.length_cons, long, List.getElem?_cons_zero, List.drop_succ_cons,
    List.drop_zero, prsSeid_bldSeid known.1, AvdtMsg.withSeid, AvdtMsg.withErrParam, ready, parsed,
    Option.bind_eq_bind, Option.bind_some, Option.pure_def, known.2, Bool.not_true, Bool.false_eq_true, supported,
    if_false, ne_eq, not_true_eq_false]

/-- The `for` loop of `avdt_msg_prs_multi` reads back SEIDs of allocated streams. -/
theorem prsMultiSeids_map : ∀ {seids : List UInt8}, (∀ seid ∈ seids, SeidKnown allocated seid) →
    prsMultiSeids allocated (seids.map bldSeid) = (seids, none)
  | [], _ => rfl
  | seid :: seids, known => by
    have head := known seid List.mem_cons_self
    have rest := prsMultiSeids_map fun other mem => known other (List.mem_cons_of_mem seid mem)
    simp only [List.map_cons, prsMultiSeids, prsSeid_bldSeid head.1, head.2, if_true, rest]

/-- `avdt_msg_prs_multi` reads back between one and `AVDT_NUM_SEPS` SEIDs of allocated streams. -/
theorem avdtMsgPrsMulti_bld {seids : List UInt8} (atLeast : avdtLenMultiMin ≤ seids.length)
    (atMost : seids.length ≤ avdtNumSeps) (known : ∀ seid ∈ seids, SeidKnown allocated seid) (msg : AvdtMsg) :
    avdtMsgPrsMulti allocated msg (seids.map bldSeid) = some ({ msg.withErrParam 0 with seidList := seids }, 0) := by
  have length : ¬(seids.length < avdtLenMultiMin ∨ seids.length > avdtNumSeps) := by omega
  simp only [avdtMsgPrsMulti, List.length_map, length, if_false, prsMultiSeids_map known]

/-- `avdt_msg_prs_security_cmd` reads back the SEID and the data after it. -/
theorem avdtMsgPrsSecurityCmd_bld {seid : UInt8} (known : SeidKnown allocated seid) (data : List UInt8)
    (msg : AvdtMsg) :
    avdtMsgPrsSecurityCmd allocated msg (bldSeid seid :: data) = some ({ msg.withSeid seid with data := data }, 0) := by
  have long : ¬(data.length + 1 < avdtLenSecurityMin) := by simp only [avdtLenSecurityMin]; omega
  simp only [avdtMsgPrsSecurityCmd, List.length_cons, long, if_false, List.getElem?_cons_zero,
    prsSeid_bldSeid known.1, known.2, if_true, List.drop_succ_cons, List.drop_zero,
    Option.bind_eq_bind, Option.bind_some, Option.pure_def]

/-- `avdt_msg_prs_delay_rpt` reads back the SEID and the delay. -/
theorem avdtMsgPrsDelayRpt_bld {seid : UInt8} (known : SeidKnown allocated seid) (delay : UInt16) (msg : AvdtMsg) :
    avdtMsgPrsDelayRpt allocated msg [bldSeid seid, (delay >>> 8).toUInt8, delay.toUInt8] =
      some ({ msg.withSeid seid with delay := delay }, 0) := by
  simp only [avdtMsgPrsDelayRpt, avdtLenDelayRpt, List.length_cons, List.length_nil, ne_eq, not_true_eq_false,
    if_false, List.getElem?_cons_zero, List.getElem?_cons_succ, prsSeid_bldSeid known.1, known.2, Bool.not_true, Bool.false_eq_true, delay_read_back, Option.bind_eq_bind, Option.bind_some,
    Option.pure_def]

/-- A discover response entry the peer accepts: a SEID in range, a media type of
four bits and a SEP type of one. -/
structure SepInfo.Valid (info : SepInfo) : Prop where
  seidMin : avdtSeidMin ≤ info.seid
  seidMax : info.seid ≤ avdtSeidMax
  mediaType : info.mediaType < 16
  tsep : info.tsep < 2

/-- Two octets an entry. -/
theorem length_flatMap_bldDisc : ∀ infos : List SepInfo, (infos.flatMap bldDisc).length = 2 * infos.length
  | [] => rfl
  | info :: infos => by
    rw [List.flatMap_cons, List.length_append, length_flatMap_bldDisc infos, List.length_cons]
    simp only [bldDisc, List.length_cons, List.length_nil]
    omega

/-- The `for` loop of `avdt_msg_prs_discover_rsp` reads back entries the peer accepts. -/
theorem prsDiscEntries_flatMap : ∀ {infos : List SepInfo}, (∀ info ∈ infos, info.Valid) →
    prsDiscEntries infos.length (infos.flatMap bldDisc) = some (infos, 0)
  | [], _ => rfl
  | info :: infos, valid => by
    have head := valid info List.mem_cons_self
    have rest := prsDiscEntries_flatMap fun other mem => valid other (List.mem_cons_of_mem info mem)
    have read := prsDisc_bldDisc (lt_of_le_seidMax head.seidMax) head.mediaType head.tsep
    have accepted : ¬(info.seid < avdtSeidMin ∨ info.seid > avdtSeidMax) := by
      rw [not_or]
      exact ⟨UInt8.not_lt.mpr head.seidMin, UInt8.not_lt.mpr head.seidMax⟩
    simp only [List.flatMap_cons, List.length_cons, prsDiscEntries, bldDisc, List.cons_append,
      List.getElem?_cons_zero, List.getElem?_cons_succ, read, accepted, if_false, List.drop_succ_cons, List.drop_zero,
      List.nil_append, rest, Option.bind_eq_bind, Option.bind_some, Option.pure_def]

/-- `avdt_msg_prs_discover_rsp` reads back entries the peer accepts into an
application array with room for them. -/
theorem avdtMsgPrsDiscoverRsp_bld {infos : List SepInfo} (valid : ∀ info ∈ infos, info.Valid) {msg : AvdtMsg}
    (room : infos.length ≤ msg.numSeps.toNat) (array : msg.numSeps.toNat ≤ msg.sepInfo.length) :
    avdtMsgPrsDiscoverRsp allocated msg (infos.flatMap bldDisc) =
      some ({ msg with numSeps := UInt8.ofNat infos.length, sepInfo := infos ++ msg.sepInfo.drop infos.length }, 0) := by
  have half : (infos.flatMap bldDisc).length / 2 = infos.length := by
    rw [length_flatMap_bldDisc]
    omega
  have small : infos.length < 256 := Nat.lt_of_le_of_lt room msg.numSeps.toNat_lt
  -- `num_seps` is cut to the entries of the message, or is already that many
  have numSeps : (if msg.numSeps.toNat > (infos.flatMap bldDisc).length / 2 then
      UInt8.ofNat ((infos.flatMap bldDisc).length / 2) else msg.numSeps) = UInt8.ofNat infos.length := by
    rw [half]
    split_ifs with more
    · rfl
    · apply UInt8.toNat_inj.mp
      rw [UInt8.toNat_ofNat', Nat.mod_eq_of_lt small]
      omega
  have fits : infos.length ≤ msg.sepInfo.length := Nat.le_trans room array
  simp only [avdtMsgPrsDiscoverRsp, numSeps, UInt8.toNat_ofNat', Nat.mod_eq_of_lt small,
    prsDiscEntries_flatMap valid, fits, if_true, Option.bind_eq_bind, Option.bind_some, Option.pure_def]

/-- Masking the capabilities of a parsed configuration with a word that keeps
those sent keeps what it carries. -/
theorem AvdtpSepConfig.Carries.maskPsc {cfg sent : AvdtpSepConfig} (carries : cfg.Carries sent) {mask : UInt16}
    (keeps : sent.pscMask &&& mask = sent.pscMask) : { cfg with pscMask := cfg.pscMask &&& mask }.Carries sent :=
  ⟨⟨carries.wf.1, carries.wf.2⟩, by rw [carries.pscMask]; exact keeps, carries.numCodec, carries.numProtect, carries.codecInfo,
    carries.protectInfo⟩

/-- `avdt_msg_prs_svccap` reads back the basic capabilities `avdt_msg_bld_svccap` writes. -/
theorem avdtMsgPrsSvccap_bld {sent target : AvdtpSepConfig}
    (sendable : { sent with pscMask := sent.pscMask &&& avdtLegPsc }.Sendable) {msg : AvdtMsg}
    (ready : msg.cfg = some target) (targetWf : target.Wf) :
    ∃ cfg elem, avdtMsgPrsSvccap allocated msg (avdtMsgBldCfg { sent with pscMask := sent.pscMask &&& avdtLegPsc }) =
      some ({ msg.withErrParam elem with cfg := some cfg }, 0) ∧
      cfg.Carries { sent with pscMask := sent.pscMask &&& avdtLegPsc } := by
  obtain ⟨cfg, elem, parsed, carries⟩ := prsCfgInto_of_sendable sendable targetWf msg.hdr.errParam avdtSigGetcap
  have keeps : sent.pscMask &&& avdtLegPsc &&& avdtLegPsc = sent.pscMask &&& avdtLegPsc := by
    rw [UInt16.and_assoc, UInt16.and_self]
  refine ⟨_, elem, ?_, carries.maskPsc keeps⟩
  simp only [avdtMsgPrsSvccap, ready, parsed, Option.map_some, Option.bind_eq_bind, Option.bind_some,
    Option.pure_def]

/-- `avdt_msg_prs_all_svccap` reads back a sendable configuration. -/
theorem avdtMsgPrsAllSvccap_bld {sent target : AvdtpSepConfig} (sendable : sent.Sendable) {msg : AvdtMsg}
    (ready : msg.cfg = some target) (targetWf : target.Wf) :
    ∃ cfg elem, avdtMsgPrsAllSvccap allocated msg (avdtMsgBldCfg sent) =
      some ({ msg.withErrParam elem with cfg := some cfg }, 0) ∧ cfg.Carries sent := by
  obtain ⟨cfg, elem, parsed, carries⟩ := prsCfgInto_of_sendable sendable targetWf msg.hdr.errParam avdtSigGetAllcap
  have keeps : sent.pscMask &&& avdtMsgPscMask = sent.pscMask := pscMask_and_of_sendable sendable (by decide)
  refine ⟨_, elem, ?_, carries.maskPsc keeps⟩
  simp only [avdtMsgPrsAllSvccap, ready, parsed, Option.map_some, Option.bind_eq_bind, Option.bind_some,
    Option.pure_def]

/-- `avdt_msg_prs_rej` reads back what `avdt_msg_send_rej` writes for a signal:
the error code, and the error parameter of the four signals that carry one. -/
theorem avdtMsgPrsRej_bld {sigId : UInt8} (signal : sigId ≠ avdtSigNone) {msg : AvdtMsg}
    (small : sigId = avdtSigStart ∨ sigId = avdtSigSuspend → msg.hdr.errParam < 64) (recv : AvdtMsg) :
    ∃ errParam, avdtMsgPrsRej recv (avdtMsgBldRej sigId msg) sigId =
        some ((recv.withErrParam errParam).withErrCode msg.hdr.errCode, 0) ∧
      (sigId = avdtSigSetconfig ∨ sigId = avdtSigReconfig ∨ sigId = avdtSigStart ∨ sigId = avdtSigSuspend →
        errParam = msg.hdr.errParam) := by
  by_cases config : sigId = avdtSigSetconfig ∨ sigId = avdtSigReconfig
  · refine ⟨msg.hdr.errParam, ?_, fun _ => rfl⟩
    simp [avdtMsgBldRej, avdtMsgPrsRej, signal, config]
  by_cases multi : sigId = avdtSigStart ∨ sigId = avdtSigSuspend
  · refine ⟨msg.hdr.errParam, ?_, fun _ => rfl⟩
    simp [avdtMsgBldRej, avdtMsgPrsRej, signal, config, multi, prsSeid_bldSeid (small multi)]
  refine ⟨recv.hdr.errParam, ?_, fun four => absurd four (by tauto)⟩
  simp [avdtMsgBldRej, avdtMsgPrsRej, signal, config, multi, AvdtMsg.withErrParam, AvdtMsg.withErrCode]

end RoundTrip

/-! ## What the signals carry -/

/-- The commands of AVDTP signalling, by what each carries. -/
inductive Cmd where
  | discover
  | getcap (seid : UInt8)
  | setconfig (seid intSeid : UInt8) (cfg : AvdtpSepConfig)
  | getconfig (seid : UInt8)
  | reconfig (seid : UInt8) (cfg : AvdtpSepConfig)
  | openStream (seid : UInt8)
  | start (seids : List UInt8)
  | close (seid : UInt8)
  | suspend (seids : List UInt8)
  | abort (seid : UInt8)
  | security (seid : UInt8) (data : List UInt8)
  | getAllcap (seid : UInt8)
  | delayRpt (seid : UInt8) (delay : UInt16)

namespace Cmd

/-- The command's signal. -/
def sigId : Cmd → UInt8
  | discover => avdtSigDiscover
  | getcap _ => avdtSigGetcap
  | setconfig .. => avdtSigSetconfig
  | getconfig _ => avdtSigGetconfig
  | reconfig .. => avdtSigReconfig
  | openStream _ => avdtSigOpen
  | start _ => avdtSigStart
  | close _ => avdtSigClose
  | suspend _ => avdtSigSuspend
  | abort _ => avdtSigAbort
  | security .. => avdtSigSecurity
  | getAllcap _ => avdtSigGetAllcap
  | delayRpt .. => avdtSigDelayRpt

/-- The message the command is built from. -/
def msg : Cmd → AvdtMsg
  | discover => AvdtMsg.zero
  | getcap seid | getconfig seid | openStream seid | close seid | abort seid | getAllcap seid =>
    AvdtMsg.zero.withSeid seid
  | setconfig seid intSeid cfg => { AvdtMsg.zero.withSeid seid with intSeid := intSeid, cfg := some cfg }
  | reconfig seid cfg => { AvdtMsg.zero.withSeid seid with cfg := some cfg }
  | start seids | suspend seids => { AvdtMsg.zero with seidList := seids }
  | security seid data => { AvdtMsg.zero.withSeid seid with data := data }
  | delayRpt seid delay => { AvdtMsg.zero.withSeid seid with delay := delay }

/-- Whether the command's parser writes a configuration. -/
def hasCfg : Cmd → Bool
  | setconfig .. | reconfig .. => true
  | _ => false

/-- The commands the peer accepts, `allocated` being its stream control blocks:
SEIDs of its streams, a configuration that travels whole, with a codec for
SETCONFIG and a codec or protection element for RECONFIG, and between one and
`AVDT_NUM_SEPS` streams for START and SUSPEND. -/
def Valid (allocated : ℕ → ℕ → Bool) : Cmd → Prop
  | discover => True
  | getcap seid | getconfig seid | openStream seid | close seid | abort seid | getAllcap seid
  | security seid _ | delayRpt seid _ => SeidKnown allocated seid
  | setconfig seid intSeid cfg =>
    SeidKnown allocated seid ∧ avdtSeidMin ≤ intSeid ∧ intSeid ≤ avdtSeidMax ∧ cfg.Sendable ∧ cfg.numCodec ≠ 0
  | reconfig seid cfg =>
    SeidKnown allocated seid ∧ { cfg with pscMask := 0 }.Sendable ∧ (cfg.numCodec ≠ 0 ∨ cfg.numProtect ≠ 0)
  | start seids | suspend seids =>
    avdtLenMultiMin ≤ seids.length ∧ seids.length ≤ avdtNumSeps ∧ ∀ seid ∈ seids, SeidKnown allocated seid

/-- What the peer's message holds of the command once parsed; RECONFIG's
capabilities are those the builder left, none. -/
def Received : Cmd → AvdtMsg → Prop
  | discover, _ => True
  | getcap seid, msg | getconfig seid, msg | openStream seid, msg | close seid, msg | abort seid, msg
  | getAllcap seid, msg => msg.hdr.seid = seid
  | setconfig seid intSeid cfg, msg =>
    msg.hdr.seid = seid ∧ msg.intSeid = intSeid ∧ ∃ c, msg.cfg = some c ∧ c.Carries cfg
  | reconfig seid cfg, msg => msg.hdr.seid = seid ∧ ∃ c, msg.cfg = some c ∧ c.Carries { cfg with pscMask := 0 }
  | start seids, msg | suspend seids, msg => msg.seidList = seids
  | security seid data, msg => msg.hdr.seid = seid ∧ msg.data = data
  | delayRpt seid delay, msg => msg.hdr.seid = seid ∧ msg.delay = delay

end Cmd

/-- The responses of AVDTP signalling, by what each carries. -/
inductive Rsp where
  | discover (infos : List SepInfo)
  | getcap (cfg : AvdtpSepConfig)
  | setconfig
  | getconfig (cfg : AvdtpSepConfig)
  | reconfig
  | openStream
  | start
  | close
  | suspend
  | abort
  | security (data : List UInt8)
  | getAllcap (cfg : AvdtpSepConfig)
  | delayRpt

namespace Rsp

/-- The response's signal. -/
def sigId : Rsp → UInt8
  | discover _ => avdtSigDiscover
  | getcap _ => avdtSigGetcap
  | setconfig => avdtSigSetconfig
  | getconfig _ => avdtSigGetconfig
  | reconfig => avdtSigReconfig
  | openStream => avdtSigOpen
  | start => avdtSigStart
  | close => avdtSigClose
  | suspend => avdtSigSuspend
  | abort => avdtSigAbort
  | security _ => avdtSigSecurity
  | getAllcap _ => avdtSigGetAllcap
  | delayRpt => avdtSigDelayRpt

/-- The message the response is built from. -/
def msg : Rsp → AvdtMsg
  | discover infos => { AvdtMsg.zero with sepInfo := infos, numSeps := UInt8.ofNat infos.length }
  | getcap cfg | getconfig cfg | getAllcap cfg => { AvdtMsg.zero with cfg := some cfg }
  | security data => { AvdtMsg.zero with data := data }
  | _ => AvdtMsg.zero

/-- The responses the peer accepts: fewer than 256 entries it accepts for
DISCOVER, and configurations that travel whole. -/
def Valid : Rsp → Prop
  | discover infos => infos.length < 256 ∧ ∀ info ∈ infos, info.Valid
  | getcap cfg => { cfg with pscMask := cfg.pscMask &&& avdtLegPsc }.Sendable
  | getconfig cfg | getAllcap cfg => cfg.Sendable
  | _ => True

/-- What the parser must be given: an application array with room for the
entries of a DISCOVER response, and a configuration to write for a capability
or configuration response. -/
def Ready : Rsp → AvdtMsg → Prop
  | discover infos, recv => infos.length ≤ recv.numSeps.toNat ∧ recv.numSeps.toNat ≤ recv.sepInfo.length
  | getcap _, recv | getconfig _, recv | getAllcap _, recv => ∃ target, recv.cfg = some target ∧ target.Wf
  | _, _ => True

/-- What the peer's message holds of the response once parsed; GETCAP's
capabilities are the basic ones the builder left. -/
def Received : Rsp → AvdtMsg → Prop
  | discover infos, msg => msg.numSeps.toNat = infos.length ∧ msg.sepInfo.take infos.length = infos
  | getcap cfg, msg => ∃ c, msg.cfg = some c ∧ c.Carries { cfg with pscMask := cfg.pscMask &&& avdtLegPsc }
  | getconfig cfg, msg | getAllcap cfg, msg => ∃ c, msg.cfg = some c ∧ c.Carries cfg
  | security data, msg => msg.data = data
  | _, _ => True

end Rsp

/-- The header fields `avdt_msg_ind` sets before it parses, which the parsers
keep: label, signal and channel index. -/
structure EvtHdr.Kept (hdr hdr' : EvtHdr) : Prop where
  label : hdr'.label = hdr.label
  sigId : hdr'.sigId = hdr.sigId
  ccbIdx : hdr'.ccbIdx = hdr.ccbIdx

/-- **Every command round-trips.**  What `avdt_msg_bld_cmd` writes for a
command the peer accepts, `avdt_msg_prs_cmd` parses without error into a
message that holds the command's parameters. -/
theorem prsCmd_bldCmd {allocated : ℕ → ℕ → Bool} {c : Cmd} (valid : c.Valid allocated) (recv : AvdtMsg)
    (ready : c.hasCfg = true → ∃ target, recv.cfg = some target ∧ target.Wf) :
    ∃ bytes sent msg', bldBy avdtMsgBldCmd c.sigId c.msg = some (bytes, sent) ∧
      prsBy avdtMsgPrsCmd c.sigId allocated recv bytes = some (msg', 0) ∧ c.Received msg' ∧ recv.hdr.Kept msg'.hdr := by
  cases c with
  | discover => exact ⟨[], _, recv, rfl, rfl, trivial, ⟨rfl, rfl, rfl⟩⟩
  | getcap seid => exact ⟨_, _, _, rfl, avdtMsgPrsSingle_bld valid recv, rfl, ⟨rfl, rfl, rfl⟩⟩
  | getconfig seid => exact ⟨_, _, _, rfl, avdtMsgPrsSingle_bld valid recv, rfl, ⟨rfl, rfl, rfl⟩⟩
  | openStream seid => exact ⟨_, _, _, rfl, avdtMsgPrsSingle_bld valid recv, rfl, ⟨rfl, rfl, rfl⟩⟩
  | close seid => exact ⟨_, _, _, rfl, avdtMsgPrsSingle_bld valid recv, rfl, ⟨rfl, rfl, rfl⟩⟩
  | abort seid => exact ⟨_, _, _, rfl, avdtMsgPrsSingle_bld valid recv, rfl, ⟨rfl, rfl, rfl⟩⟩
  | getAllcap seid => exact ⟨_, _, _, rfl, avdtMsgPrsSingle_bld valid recv, rfl, ⟨rfl, rfl, rfl⟩⟩
  | setconfig seid intSeid cfg =>
    obtain ⟨known, intMin, intMax, sendable, codec⟩ := valid
    obtain ⟨target, isTarget, targetWf⟩ := ready rfl
    obtain ⟨c, elem, parsed, carries⟩ := avdtMsgPrsSetconfigCmd_bld known intMin intMax sendable codec isTarget targetWf
    exact ⟨_, _, _, rfl, parsed, ⟨rfl, rfl, c, rfl, carries⟩, ⟨rfl, rfl, rfl⟩⟩
  | reconfig seid cfg =>
    obtain ⟨known, sendable, element⟩ := valid
    obtain ⟨target, isTarget, targetWf⟩ := ready rfl
    obtain ⟨c, elem, parsed, carries⟩ := avdtMsgPrsReconfigCmd_bld known sendable element isTarget targetWf
    exact ⟨_, _, _, rfl, parsed, ⟨rfl, c, rfl, carries⟩, ⟨rfl, rfl, rfl⟩⟩
  | start seids =>
    obtain ⟨atLeast, atMost, known⟩ := valid
    exact ⟨_, _, _, rfl, avdtMsgPrsMulti_bld atLeast atMost known recv, rfl, ⟨rfl, rfl, rfl⟩⟩
  | suspend seids =>
    obtain ⟨atLeast, atMost, known⟩ := valid
    exact ⟨_, _, _, rfl, avdtMsgPrsMulti_bld atLeast atMost known recv, rfl, ⟨rfl, rfl, rfl⟩⟩
  | security seid data => exact ⟨_, _, _, rfl, avdtMsgPrsSecurityCmd_bld valid data recv, ⟨rfl, rfl⟩, ⟨rfl, rfl, rfl⟩⟩
  | delayRpt seid delay => exact ⟨_, _, _, rfl, avdtMsgPrsDelayRpt_bld valid delay recv, ⟨rfl, rfl⟩, ⟨rfl, rfl, rfl⟩⟩

/-- **Every response round-trips.**  What `avdt_msg_bld_rsp` writes for a
response the peer accepts, `avdt_msg_prs_rsp` parses without error into a
message that holds the response's parameters. -/
theorem prsRsp_bldRsp {allocated : ℕ → ℕ → Bool} {r : Rsp} (valid : r.Valid) {recv : AvdtMsg} (ready : r.Ready recv) :
    ∃ bytes sent msg', bldBy avdtMsgBldRsp r.sigId r.msg = some (bytes, sent) ∧
      prsBy avdtMsgPrsRsp r.sigId allocated recv bytes = some (msg', 0) ∧ r.Received msg' ∧ recv.hdr.Kept msg'.hdr := by
  cases r with
  | discover infos =>
    obtain ⟨few, entries⟩ := valid
    obtain ⟨room, array⟩ := ready
    have count : (UInt8.ofNat infos.length).toNat = infos.length := by
      rw [UInt8.toNat_ofNat', Nat.mod_eq_of_lt few]
    have built : bldBy avdtMsgBldRsp avdtSigDiscover (Rsp.discover infos).msg =
        some (infos.flatMap bldDisc, (Rsp.discover infos).msg) := by
      show avdtMsgBldDiscoverRsp { AvdtMsg.zero with sepInfo := infos, numSeps := UInt8.ofNat infos.length } = _
      simp only [avdtMsgBldDiscoverRsp, count, Nat.le_refl, if_true, List.take_length]
      rfl
    refine ⟨_, _, _, built, @avdtMsgPrsDiscoverRsp_bld allocated _ entries _ room array, ⟨count, ?_⟩, ⟨rfl, rfl, rfl⟩⟩
    simp
  | getcap cfg =>
    obtain ⟨target, isTarget, targetWf⟩ := ready
    obtain ⟨c, elem, parsed, carries⟩ := @avdtMsgPrsSvccap_bld allocated _ _ valid _ isTarget targetWf
    exact ⟨_, _, _, rfl, parsed, ⟨c, rfl, carries⟩, ⟨rfl, rfl, rfl⟩⟩
  | getconfig cfg =>
    obtain ⟨target, isTarget, targetWf⟩ := ready
    obtain ⟨c, elem, parsed, carries⟩ := @avdtMsgPrsAllSvccap_bld allocated _ _ valid _ isTarget targetWf
    exact ⟨_, _, _, rfl, parsed, ⟨c, rfl, carries⟩, ⟨rfl, rfl, rfl⟩⟩
  | getAllcap cfg =>
    obtain ⟨target, isTarget, targetWf⟩ := ready
    obtain ⟨c, elem, parsed, carries⟩ := @avdtMsgPrsAllSvccap_bld allocated _ _ valid _ isTarget targetWf
    exact ⟨_, _, _, rfl, parsed, ⟨c, rfl, carries⟩, ⟨rfl, rfl, rfl⟩⟩
  | security data => exact ⟨_, _, _, rfl, rfl, rfl, ⟨rfl, rfl, rfl⟩⟩
  | setconfig => exact ⟨_, _, _, rfl, rfl, trivial, ⟨rfl, rfl, rfl⟩⟩
  | reconfig => exact ⟨_, _, _, rfl, rfl, trivial, ⟨rfl, rfl, rfl⟩⟩
  | openStream => exact ⟨_, _, _, rfl, rfl, trivial, ⟨rfl, rfl, rfl⟩⟩
  | start => exact ⟨_, _, _, rfl, rfl, trivial, ⟨rfl, rfl, rfl⟩⟩
  | close => exact ⟨_, _, _, rfl, rfl, trivial, ⟨rfl, rfl, rfl⟩⟩
  | suspend => exact ⟨_, _, _, rfl, rfl, trivial, ⟨rfl, rfl, rfl⟩⟩
  | abort => exact ⟨_, _, _, rfl, rfl, trivial, ⟨rfl, rfl, rfl⟩⟩
  | delayRpt => exact ⟨_, _, _, rfl, rfl, trivial, ⟨rfl, rfl, rfl⟩⟩

end Bluedroid.Avdt
