import FlexRic.Agent.AsyncEvents
import FlexRic.Lib.CString
import FlexRic.Sm.Gtp
import FlexRic.Sm.Mac.Ind
import FlexRic.Sm.Pdcp
import FlexRic.Sm.Rlc
import FlexRic.Sm.Slice.Plain
import FlexRic.Sm.Tc.CtrlPlain
import FlexRic.Sm.Tc.IndPlain

/-! # The procedures of the service models

The two sides of a service model, of which there are six with a plain codec: `mac_sm_ric.c` and its siblings are
loaded by the RIC and the xApps, `mac_sm_agent.c` and its siblings by the agents. What they exchange is in the
messages that `msg_generator_xapp.c` generates and `msg_handler_agent.c` handles. -/

namespace FlexRic.Sm
open Agent E2ap Gtp Mac Pdcp Plain Rlc Slice Tc

def smMacId : Nat := 142
def smRlcId : Nat := 143
def smPdcpId : Nat := 144
def smSliceId : Nat := 145
def smTcId : Nat := 146
def smGtpId : Nat := 148

/-! ### Data -/

/-- `sm_subs_data_t` -/
structure SmSubsData where
  ricReqId : Nat
  eventTrigger : Bytes
  actionDef : Option Bytes

/-- `sm_ctrl_req_data_t` -/
structure SmCtrlReqData where
  ctrlHdr : Bytes
  ctrlMsg : Bytes

/-- `mac_ind_data_t` and its siblings -/
structure IndData (μ : Type) where
  hdr : UInt32
  msg : μ
  procId : Option UInt32

/-- `mac_ctrl_req_data_t` and its siblings -/
structure CtrlReqData (μ : Type) where
  hdr : UInt32
  msg : μ

/-- `sm_ag_if_rd_ind_t` -/
inductive RdInd
  | mac (ind : IndData MacIndMsg)
  | rlc (ind : IndData (StatsRet RlcRadioBearerStats))
  | pdcp (ind : IndData (StatsRet PdcpRadioBearerStats))
  | slice (ind : IndData SliceIndMsg)
  | tc (ind : IndData TcIndMsg)
  | gtp (ind : IndData (StatsRet GtpNguTStats))

/-- `sm_ag_if_ans_ctrl_t` -/
inductive AnsCtrl
  | mac (ans : UInt32)
  | rlc (ans : UInt32)
  | pdcp (ans : UInt32)
  | slice (out : SliceCtrlOut)
  | tc (out : UInt32)
  | gtp (ans : UInt32)

namespace AnsCtrl

/-- The outcome, when it is one of the MAC service model; and so on. -/
def mac? : AnsCtrl → Option UInt32
  | mac ans => some ans
  | _ => none

def pdcp? : AnsCtrl → Option UInt32
  | pdcp ans => some ans
  | _ => none

def slice? : AnsCtrl → Option SliceCtrlOut
  | slice out => some out
  | _ => none

def tc? : AnsCtrl → Option UInt32
  | tc out => some out
  | _ => none

end AnsCtrl

/-- `sm_ag_if_ans_t` -/
inductive Ans
  | ctrlOutcome (ctrlOut : AnsCtrl)
  | none_

/-- `sm_io_ag_ran_t`: what the RAN reads into the data of an indication, and what it answers to a request. -/
structure SmIoAgRan where
  mac : MacIndMsg
  rlc : RlcIndMsg
  pdcp : PdcpIndMsg
  slice : SliceIndMsg
  tc : TcIndMsg
  gtp : GtpIndMsg
  macCtrl : CtrlReqData MacCtrlMsg → Ans
  rlcCtrl : CtrlReqData UInt32 → Ans
  pdcpCtrl : CtrlReqData UInt32 → Ans
  sliceCtrl : CtrlReqData SliceCtrlMsg → Ans
  tcCtrl : CtrlReqData TcCtrlMsg → Ans
  gtpCtrl : CtrlReqData UInt32 → Ans

/-! ### Subscriptions -/

/-- `strncmp(s, t, n) == 0`, of texts -/
abbrev SameTo (n : Nat) (s t : List UInt8) : Prop := s.take n = t.take n

/-- The commands, with their milliseconds -/
def commands : List (List UInt8 × UInt32) :=
  [(ascii "1_ms", 1), (ascii "2_ms", 2), (ascii "5_ms", 5), (ascii "10_ms", 10), (ascii "100_ms", 100),
   (ascii "1000_ms", 1000)]

/-- The comparisons of `on_subscription`, one after the other -/
def commandMs (cmd : List UInt8) : Except String UInt32 :=
  match commands.find? fun c => SameTo 10 cmd c.1 with
  | some c => .ok c.2
  | none => .error "Invalid input"

def onSubscriptionSmRic (encEventTrigger : UInt32 → Bytes) (cmd : List UInt8) : Except String SmSubsData := do
  let ms ← commandMs cmd
  return ⟨0, encEventTrigger ms, none⟩

def onSubscriptionMacSmRic := onSubscriptionSmRic macEncEventTriggerPlain
def onSubscriptionRlcSmRic := onSubscriptionSmRic rlcEncEventTriggerPlain
def onSubscriptionPdcpSmRic := onSubscriptionSmRic pdcpEncEventTriggerPlain
def onSubscriptionSliceSmRic := onSubscriptionSmRic sliceEncEventTriggerPlain
def onSubscriptionTcSmRic := onSubscriptionSmRic tcEncEventTriggerPlain
def onSubscriptionGtpSmRic := onSubscriptionSmRic gtpEncEventTriggerPlain

def onSubscriptionSmAg (decEventTrigger : Bytes → Except String UInt32) (data : SmSubsData) :
    Except String SubscribeTimer := do
  let ms ← decEventTrigger data.eventTrigger
  return ⟨ms.toNat, 0⟩

def onSubscriptionMacSmAg := onSubscriptionSmAg macDecEventTriggerPlain
def onSubscriptionRlcSmAg := onSubscriptionSmAg rlcDecEventTriggerPlain
def onSubscriptionPdcpSmAg := onSubscriptionSmAg pdcpDecEventTriggerPlain
def onSubscriptionSliceSmAg := onSubscriptionSmAg sliceDecEventTriggerPlain
def onSubscriptionTcSmAg := onSubscriptionSmAg tcDecEventTriggerPlain
def onSubscriptionGtpSmAg := onSubscriptionSmAg gtpDecEventTriggerPlain

/-! ### Indications

The six agents do the same. Of the other side, some decode the message before the header, some leave the header out, and
some do not look at the call process. -/

/-- `actDef` is a pointer, which has to be `NULL`. -/
def onIndicationSmAg {μ : Type} (encIndHdr : UInt32 → Bytes) (encIndMsg : μ → Except String Bytes) (notNeeded : String)
    (msg : μ) (actDef : Nat) : Except String SmIndData := do
  require (actDef = 0) notNeeded
  let indMsg ← encIndMsg msg
  return ⟨encIndHdr 0, indMsg, none⟩

def onIndicationMacSmAg :=
  onIndicationSmAg macEncIndHdrPlain macEncIndMsgPlain "Action definition data not needed for this SM"

def onIndicationRlcSmAg :=
  onIndicationSmAg rlcEncIndHdrPlain rlcEncIndMsgPlain "Action Definition data not needed for this SM"

def onIndicationPdcpSmAg :=
  onIndicationSmAg pdcpEncIndHdrPlain pdcpEncIndMsgPlain "Subscription data not needed for this SM"

def onIndicationSliceSmAg :=
  onIndicationSmAg sliceEncIndHdrPlain sliceEncIndMsgPlain "Subscription data not needed for this SM"

def onIndicationTcSmAg :=
  onIndicationSmAg tcEncIndHdrPlain tcEncIndMsgPlain "Action definition data not needed for this SM"

def onIndicationGtpSmAg :=
  onIndicationSmAg gtpEncIndHdrPlain gtpEncIndMsgPlain "Action Definition data not needed for this SM"

def onIndicationMacSmRic (data : SmIndData) : Except String RdInd := do
  let hdr ← macDecIndHdrPlain data.indHdr
  let msg ← macDecIndMsgPlain data.indMsg
  require (data.callProcessId = none) "not implemented"
  return .mac ⟨hdr, msg, none⟩

def onIndicationRlcSmRic (data : SmIndData) : Except String RdInd := do
  let msg ← rlcDecIndMsgPlain granted data.indMsg
  let hdr ← rlcDecIndHdrPlain data.indHdr
  require (data.callProcessId = none) "not implemented"
  return .rlc ⟨hdr, msg, none⟩

def onIndicationPdcpSmRic (data : SmIndData) : Except String RdInd := do
  let hdr ← pdcpDecIndHdrPlain data.indHdr
  let msg ← pdcpDecIndMsgPlain granted data.indMsg
  return .pdcp ⟨hdr, msg, none⟩

def onIndicationSliceSmRic (data : SmIndData) : Except String RdInd := do
  let msg ← sliceDecIndMsgPlain data.indMsg
  return .slice ⟨0, msg, none⟩

def onIndicationTcSmRic (data : SmIndData) : Except String RdInd := do
  let msg ← tcDecIndMsgPlain data.indMsg
  return .tc ⟨0, msg, none⟩

def onIndicationGtpSmRic (data : SmIndData) : Except String RdInd := do
  let msg ← gtpDecIndMsgPlain granted data.indMsg
  let hdr ← gtpDecIndHdrPlain data.indHdr
  return .gtp ⟨hdr, msg, none⟩

/-! ### Control -/

def onControlReqSmRic {μ : Type} (encCtrlHdr : UInt32 → Bytes) (encCtrlMsg : μ → Except String Bytes)
    (req : CtrlReqData μ) : Except String SmCtrlReqData := do
  let ctrlMsg ← encCtrlMsg req.msg
  return ⟨encCtrlHdr req.hdr, ctrlMsg⟩

def ricOnControlReqMacSmRic := onControlReqSmRic macEncCtrlHdrPlain macEncCtrlMsgPlain
def onControlReqPdcpSmRic := onControlReqSmRic pdcpEncCtrlHdrPlain fun msg => .ok (pdcpEncCtrlMsgPlain msg)
def ricOnControlReqSliceSmRic := onControlReqSmRic sliceEncCtrlHdrPlain sliceEncCtrlMsgPlain
def ricOnControlReqTcSmRic := onControlReqSmRic tcEncCtrlHdrPlain tcEncCtrlMsgPlain

/-- The RLC and the GTP service model assert what the request is. -/
def onControlReqOnly (encCtrlHdr encCtrlMsg : UInt32 → Bytes) (req : CtrlReqData UInt32) :
    Except String SmCtrlReqData := do
  require (req.hdr = 0) "req->hdr.dummy == 0"
  require (req.msg = 42) "req->msg.action == 42"
  return ⟨encCtrlHdr req.hdr, encCtrlMsg req.msg⟩

def ricOnControlReqRlcSmRic := onControlReqOnly rlcEncCtrlHdrPlain rlcEncCtrlMsgPlain
def ricOnControlReqGtpSmRic := onControlReqOnly gtpEncCtrlHdrPlain gtpEncCtrlMsgPlain

/-- The answer of the RAN, which has to be an outcome of the service model's own -/
def ctrlOutcome {ω : Type} (own : AnsCtrl → Option ω) (type : String) : Ans → Except String ω
  | .none_ => .error "ans.type == CTRL_OUTCOME_SM_AG_IF_ANS_V0"
  | .ctrlOutcome ctrlOut =>
    match own ctrlOut with
    | none => .error type
    | some out => .ok out

/-- The request that is given to the RAN, and the outcome that is encoded -/
def onControlSmAg {μ ω : Type} (decCtrlHdr : Bytes → Except String UInt32) (decCtrlMsg : Bytes → Except String μ)
    (encCtrlOut : ω → Except String Bytes) (own : AnsCtrl → Option ω) (type : String) (writeCtrl : CtrlReqData μ → Ans)
    (data : SmCtrlReqData) : Except String (CtrlReqData μ × Bytes) := do
  let hdr ← decCtrlHdr data.ctrlHdr
  let msg ← decCtrlMsg data.ctrlMsg
  let out ← ctrlOutcome own type (writeCtrl ⟨hdr, msg⟩)
  let ctrlOut ← encCtrlOut out
  return (⟨hdr, msg⟩, ctrlOut)

def onControlMacSmAg (io : SmIoAgRan) :=
  onControlSmAg macDecCtrlHdrPlain macDecCtrlMsgPlain (fun out => .ok (macEncCtrlOutPlain out)) AnsCtrl.mac?
    "ans.ctrl_out.type == MAC_AGENT_IF_CTRL_ANS_V0" io.macCtrl

def onControlSliceSmAg (io : SmIoAgRan) :=
  onControlSmAg sliceDecCtrlHdrPlain sliceDecCtrlMsgPlain sliceEncCtrlOutPlain AnsCtrl.slice?
    "ans.ctrl_out.type == SLICE_AGENT_IF_CTRL_ANS_V0" io.sliceCtrl

def onControlTcSmAg (io : SmIoAgRan) :=
  onControlSmAg tcDecCtrlHdrPlain tcDecCtrlMsgPlain (fun out => .ok (tcEncCtrlOutPlain out)) AnsCtrl.tc?
    "ans.ctrl_out.type == TC_AGENT_IF_CTRL_ANS_V0" io.tcCtrl

/-- The request, of which one is supported -/
def decCtrlOnly (decCtrlHdr decCtrlMsg : Bytes → Except String UInt32) (data : SmCtrlReqData) :
    Except String (CtrlReqData UInt32) := do
  let hdr ← decCtrlHdr data.ctrlHdr
  require (hdr = 0) "Only dummy == 0 supported "
  let msg ← decCtrlMsg data.ctrlMsg
  require (msg = 42) "Only action number 42 supported"
  return ⟨hdr, msg⟩

def onControlPdcpSmAg (io : SmIoAgRan) (data : SmCtrlReqData) : Except String (CtrlReqData UInt32 × Bytes) := do
  let req ← decCtrlOnly pdcpDecCtrlHdrPlain pdcpDecCtrlMsgPlain data
  let out ← ctrlOutcome AnsCtrl.pdcp? "ans.ctrl_out.type == PDCP_AGENT_IF_CTRL_ANS_V0" (io.pdcpCtrl req)
  return (req, pdcpEncCtrlOutPlain out)

/-- The answer of the RAN is not looked at, and there is no outcome. -/
def onControlOnly (decCtrlHdr decCtrlMsg : Bytes → Except String UInt32) (data : SmCtrlReqData) :
    Except String (CtrlReqData UInt32 × Bytes) := do
  let req ← decCtrlOnly decCtrlHdr decCtrlMsg data
  return (⟨0, req.msg⟩, [])

def onControlRlcSmAg := onControlOnly rlcDecCtrlHdrPlain rlcDecCtrlMsgPlain
def onControlGtpSmAg := onControlOnly gtpDecCtrlHdrPlain gtpDecCtrlMsgPlain

/-! ### The service models of a process -/

/-- `sm_ric_t` -/
structure SmRic where
  ranFuncId : Nat
  onSubscription : List UInt8 → Except String SmSubsData
  onIndication : SmIndData → Except String RdInd

/-- `sm_agent_t`, made for what the RAN does at the time -/
structure SmAg where
  id : Nat
  onSubscription : SmSubsData → Except String SubscribeTimer
  onIndication : Nat → Except String SmIndData

/-- What `make_mac_sm_ric` and its siblings make -/
def smRics : List SmRic :=
  [⟨smMacId, onSubscriptionMacSmRic, onIndicationMacSmRic⟩, ⟨smRlcId, onSubscriptionRlcSmRic, onIndicationRlcSmRic⟩,
   ⟨smPdcpId, onSubscriptionPdcpSmRic, onIndicationPdcpSmRic⟩,
   ⟨smSliceId, onSubscriptionSliceSmRic, onIndicationSliceSmRic⟩,
   ⟨smTcId, onSubscriptionTcSmRic, onIndicationTcSmRic⟩, ⟨smGtpId, onSubscriptionGtpSmRic, onIndicationGtpSmRic⟩]

/-- What `make_mac_sm_agent` and its siblings make -/
def smAgs (io : SmIoAgRan) : List SmAg :=
  [⟨smMacId, onSubscriptionMacSmAg, onIndicationMacSmAg io.mac⟩,
   ⟨smRlcId, onSubscriptionRlcSmAg, onIndicationRlcSmAg io.rlc⟩,
   ⟨smPdcpId, onSubscriptionPdcpSmAg, onIndicationPdcpSmAg io.pdcp⟩,
   ⟨smSliceId, onSubscriptionSliceSmAg, onIndicationSliceSmAg io.slice⟩,
   ⟨smTcId, onSubscriptionTcSmAg, onIndicationTcSmAg io.tc⟩,
   ⟨smGtpId, onSubscriptionGtpSmAg, onIndicationGtpSmAg io.gtp⟩]

/-- `sm_plugin_ric`, with the six loaded -/
def smPluginRic (ranFuncId : Nat) : Except String SmRic :=
  if ¬0 < ranFuncId then .error "Reserved value"
  else
    match smRics.find? (·.ranFuncId = ranFuncId) with
    | none => .error "RAN function ID not found in the RAN"
    | some sm => .ok sm

/-- `on_indication` of the service model with the RAN function identifier -/
def onIndicationRic (ranFuncId : Nat) (data : SmIndData) : Except String RdInd := do
  let sm ← smPluginRic ranFuncId
  sm.onIndication data

/-- The service model that an agent has found, with its functions -/
def smAg (io : SmIoAgRan) (sm : SmAgent) : Except String SmAg :=
  match (smAgs io).find? (·.id = sm.id) with
  | none => .error "no such service model"
  | some ag => .ok ag

/-- `on_indication` of the service model of an event -/
def onIndicationAg (io : SmIoAgRan) (sm : SmAgent) (actDef : Nat) : Except String SmIndData := do
  let ag ← smAg io sm
  ag.onIndication actDef

/-! ### Requests -/

/-- `generate_subscription_request` -/
def generateSubscriptionRequest (ricId : RicGenId) (sm : SmRic) (cmd : List UInt8) :
    Except String RicSubscriptionRequest := do
  let data ← sm.onSubscription cmd
  require ((data.actionDef.getD []).length < 2048) "data.len_ad < 2048"
  return ⟨ricId, data.eventTrigger, [⟨0, .report, data.actionDef, none⟩]⟩

/-- `generate_sm_subs_data` -/
def generateSmSubsData (sr : RicSubscriptionRequest) : SmSubsData :=
  ⟨sr.ricId.ricReqId, sr.eventTrigger, sr.action.head?.bind (·.definition)⟩

/-- `e2ap_handle_subscription_request_agent`, and the timer that the service model answers with -/
def handleSubscriptionRequestSm (io : SmIoAgRan) (ag : E2Agent) (sr : RicSubscriptionRequest) (fd : Nat) :
    Except String (SubscribeTimer × E2Agent × RicSubscriptionResponse) := do
  let _ ← supportedRicSubscriptionRequest sr
  let sm ← smPluginAg ag.plugin sr.ricId.ranFuncId
  let sm ← smAg io sm
  let t ← sm.onSubscription (generateSmSubsData sr)
  let (ag, ans) ← ag.handleSubscriptionRequest sr t fd
  return (t, ag, ans)

/-- `generate_ric_control_request`, with the data of the service model: the lengths that it asserts -/
def generateRicControlRequest (data : SmCtrlReqData) : Except String SmCtrlReqData := do
  require (data.ctrlHdr.length < 2049) "Check that the SM is built with the same flags as FlexRIC "
  require (data.ctrlMsg.length < 2049) "Check that the SM is built with the same flags as FlexRIC"
  return data

end FlexRic.Sm
