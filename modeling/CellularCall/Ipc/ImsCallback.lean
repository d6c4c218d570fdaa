import CellularCall.Ipc.Common
import CellularCall.SsCommandTable
import CellularCall.SsResults

/-!
# Callbacks of the IMS service

The IMS service answers requests and reports changes through
`ImsCallCallbackProxy`; `ImsCallCallbackStub` receives them.  A message is an
`ImsCallback`, named after the proxy's function.

`delivered_iff` says which messages arrive as they were sent.
-/

namespace CellularCall

open Lib

/-! ## Messages -/

namespace Ipc

/-- `ImsCurrentCall` as it travels, with the fields of `CellularCall.ImsCurrentCall`
and those only passed on. -/
structure ImsCurrentCall where
  index : Int
  dir : Int
  state : Int
  mode : Int
  mpty : Int
  voiceDomain : Int
  callType : Int
  number : Str
  name : Str
  type : Int
  alpha : Str
  toa : Int
  toneType : Int
  callInitialType : Int
  namePresentation : Int
  newCallUseBox : Int
  rttState : Int
  rttChannelId : Int
  imsDomain : Int
deriving DecidableEq, Repr

/-- `ImsCurrentCallList`. -/
structure ImsCurrentCallList where
  callSize : Int
  flag : Int
  calls : List ImsCurrentCall
deriving DecidableEq, Repr

end Ipc

/-- `DisconnectedDetails`. -/
structure DisconnectedDetails where
  reason : Int
  message : Str
deriving DecidableEq, Repr

/-- `ImsCapFromChip`. -/
structure ImsCapFromChip where
  volteCap : Int
  vowifiCap : Int
  vonrCap : Int
  vtCap : Int
deriving DecidableEq, Repr

/-- `ImsCallRttEventInfo`. -/
structure ImsCallRttEventInfo where
  callId : Int
  eventType : Int
  reason : Int
deriving DecidableEq, Repr

/-- `ImsCallRttErrorInfo`. -/
structure ImsCallRttErrorInfo where
  callId : Int
  operationType : Int
  causeCode : Int
  reasonText : Str
deriving DecidableEq, Repr

/-- `ImsCallCallbackInterfaceCode`. -/
inductive ImsCallCallbackInterfaceCode where
  | imsDial
  | imsHangUp
  | imsReject
  | imsAnswer
  | imsHold
  | imsUnHold
  | imsSwitch
  | imsCombineConference
  | imsInviteToConference
  | imsRecvCallMediaModeRequest
  | imsCallStateChange
  | imsLastCallFailReason
  | imsGetCallsData
  | imsCallCring
  | imsRecvCallMediaModeResponse
  | imsCallSessionEventChanged
  | imsCallPeerDimensionsChanged
  | imsCallDataUsageChanged
  | imsCallCameraCapabilitiesChanged
  | imsStartDtmf
  | imsSendDtmf
  | imsStopDtmf
  | imsStartRtt
  | imsStopRtt
  | imsUpgradeOrDowngradeRttEvt
  | imsUpgradeOrDowngradeRttErr
  | imsSetSwitchStatus
  | imsGetSwitchStatus
  | imsSetMute
  | imsGetImsCapability
  | imsGetCallClip
  | imsSetCallClip
  | imsGetCallClir
  | imsSetCallClir
  | imsGetCallForward
  | imsSetCallForward
  | imsGetCallRestriction
  | imsSetCallRestriction
  | imsGetCallWait
  | imsSetCallWait
  | imsGetCallColr
  | imsSetCallColr
  | imsSetCallColp
  | imsGetCallColp
  | imsSuppExtChanged
deriving DecidableEq, Repr

/-- The functions of `ImsCallCallbackInterface`.  `getImsCallsDataResponse` and
`getImsSwitchResponse` come in two overloads each. -/
inductive ImsCallback (Z : RawSizes) where
  | dialResponse (slotId : Int) (info : Block Z.radioResponseInfo)
  | hangUpResponse (slotId : Int) (info : Block Z.radioResponseInfo)
  | rejectWithReasonResponse (slotId : Int) (info : Block Z.radioResponseInfo)
  | answerResponse (slotId : Int) (info : Block Z.radioResponseInfo)
  | holdCallResponse (slotId : Int) (info : Block Z.radioResponseInfo)
  | unHoldCallResponse (slotId : Int) (info : Block Z.radioResponseInfo)
  | switchCallResponse (slotId : Int) (info : Block Z.radioResponseInfo)
  | startDtmfResponse (slotId : Int) (info : Block Z.radioResponseInfo)
  | sendDtmfResponse (slotId : Int) (info : Block Z.radioResponseInfo) (callIndex : Int)
  | stopDtmfResponse (slotId : Int) (info : Block Z.radioResponseInfo)
  | startRttResponse (slotId : Int) (info : Block Z.radioResponseInfo)
  | stopRttResponse (slotId : Int) (info : Block Z.radioResponseInfo)
  | callStateChangeReport (slotId : Int)
  | getImsCallsDataResponse (slotId : Int) (info : Block Z.radioResponseInfo)
  | getImsCallsDataResponseList (slotId : Int) (callList : Ipc.ImsCurrentCallList)
  | setImsSwitchResponse (slotId : Int) (info : Block Z.radioResponseInfo)
  | getImsSwitchResponse (slotId : Int) (info : Block Z.radioResponseInfo)
  | getImsSwitchResponseActive (slotId active : Int)
  | callRingBackReport (slotId : Int) (info : Block Z.ringbackVoice)
  | setMuteResponse (slotId : Int) (response : Block Z.muteControlResponse)
  | lastCallFailReasonResponse (slotId : Int) (details : DisconnectedDetails)
  | setClipResponse (slotId : Int) (resultInfo : SsBaseResult)
  | getClipResponse (slotId : Int) (result : GetClipResult)
  | getClirResponse (slotId : Int) (result : GetClirResult)
  | setClirResponse (slotId : Int) (resultInfo : SsBaseResult)
  | getCallTransferResponse (slotId : Int) (cFQueryList : CallForwardQueryInfoList)
  | setCallTransferResponse (slotId : Int) (resultInfo : SsBaseResult)
  | getCallRestrictionResponse (slotId : Int) (result : CallRestrictionResult)
  | setCallRestrictionResponse (slotId : Int) (resultInfo : SsBaseResult)
  | getCallWaitingResponse (slotId : Int) (result : CallWaitResult)
  | setCallWaitingResponse (slotId : Int) (resultInfo : SsBaseResult)
  | setColrResponse (slotId : Int) (resultInfo : SsBaseResult)
  | getColrResponse (slotId : Int) (result : GetColrResult)
  | setColpResponse (slotId : Int) (resultInfo : SsBaseResult)
  | getColpResponse (slotId : Int) (result : GetColpResult)
  | getImsSuppExtResponse (slotId code callId : Int)
  | combineConferenceResponse (slotId : Int) (info : Block Z.radioResponseInfo)
  | inviteToConferenceResponse (slotId : Int) (info : Block Z.radioResponseInfo)
  | receiveUpdateCallMediaModeRequest (slotId : Int)
      (callModeRequest : Block Z.imsCallModeReceiveInfo)
  | receiveUpdateCallMediaModeResponse (slotId : Int)
      (callModeResponse : Block Z.imsCallModeReceiveInfo)
  | callSessionEventChanged (slotId : Int)
      (callSessionEventInfo : Block Z.imsCallSessionEventInfo)
  | peerDimensionsChanged (slotId : Int)
      (callPeerDimensionsInfo : Block Z.imsCallPeerDimensionsInfo)
  | callDataUsageChanged (slotId : Int) (callDataUsageInfo : Block Z.imsCallDataUsageInfo)
  | cameraCapabilitiesChanged (slotId : Int)
      (cameraCapabilitiesInfo : Block Z.cameraCapabilitiesInfo)
  | getImsCapResponse (slotId : Int) (imsCap : ImsCapFromChip)
  | receiveUpdateImsCallRttEvtResponse (slotId : Int) (rttEvtInfo : ImsCallRttEventInfo)
  | receiveUpdateImsCallRttErrResponse (slotId : Int) (rttErrInfo : ImsCallRttErrorInfo)
deriving DecidableEq

/-! ## The proxy -/

namespace ImsCallCallbackProxy

/-- `ImsCallCallbackInterface::GetDescriptor`. -/
def descriptor : Str := "OHOS.Telephony.ImsCallCallback".toList

/-- `WriteCommonInfo`. -/
def writeCommonInfo (slotId : Int) : Parcel := [.token descriptor, .int32 slotId]

/-- `WriteCommonInfo` and a struct as raw data. -/
def writeBlock {size : Nat} (slotId : Int) (info : Block size) : Parcel :=
  writeCommonInfo slotId ++ [info.item]

/-- The fields of an `SsBaseResult`. -/
def ssBaseResult (r : SsBaseResult) : Parcel :=
  [.int32 r.index, .int32 r.result, .int32 r.reason, .string r.message]

/-- `WriteSsBaseResultCommonInfo`. -/
def writeSsBaseResultCommonInfo (slotId : Int) (r : SsBaseResult) : Parcel :=
  writeCommonInfo slotId ++ ssBaseResult r

/-- A result with two numbers after the `SsBaseResult`. -/
def writeSsPair (slotId : Int) (r : SsBaseResult) (first second : Int) : Parcel :=
  writeSsBaseResultCommonInfo slotId r ++ [.int32 first, .int32 second]

/-- `WriteCallInfo`. -/
def writeCallInfo (call : Ipc.ImsCurrentCall) : Parcel :=
  [.int32 call.index, .int32 call.dir, .int32 call.state, .int32 call.mode, .int32 call.mpty,
    .int32 call.voiceDomain, .int32 call.callType, .string call.number, .string call.name,
    .int32 call.type, .string call.alpha, .int32 call.toa, .int32 call.toneType,
    .int32 call.callInitialType, .int32 call.namePresentation, .int32 call.newCallUseBox,
    .int32 call.rttState, .int32 call.rttChannelId, .int32 call.imsDomain]

/-- An entry of a call-forwarding list. -/
def writeQueryResult (call : CallForwardQueryResult) : Parcel :=
  [.int32 call.serial, .int32 call.result, .int32 call.status, .int32 call.classx,
    .string call.number, .int32 call.type, .int32 call.reason, .int32 call.time,
    .int32 call.startHour, .int32 call.startMinute, .int32 call.endHour, .int32 call.endMinute]

/-- `SendDtmfResponse`. -/
def sendDtmfResponse {Z : RawSizes} (slotId : Int) (info : Block Z.radioResponseInfo)
    (callIndex : Int) : Parcel :=
  writeBlock slotId info ++ [.int32 callIndex]

/-- `GetImsCallsDataResponse` for a list. -/
def getImsCallsDataResponseList (slotId : Int) (callList : Ipc.ImsCurrentCallList) : Parcel :=
  writeCommonInfo slotId ++ [.int32 callList.callSize, .int32 callList.flag,
    .int32 (int32Size callList.calls.length)] ++ callList.calls.flatMap writeCallInfo

/-- `GetCallTransferResponse`. -/
def getCallTransferResponse (slotId : Int) (cFQueryList : CallForwardQueryInfoList) : Parcel :=
  writeSsBaseResultCommonInfo slotId cFQueryList.result ++
    [.int32 cFQueryList.callSize, .int32 cFQueryList.flag,
      .int32 (int32Size cFQueryList.calls.length)] ++ cFQueryList.calls.flatMap writeQueryResult

open ImsCallCallbackInterfaceCode in
/-- Each function of the proxy: the code it sends under, and what it writes. -/
def send {Z : RawSizes} : ImsCallback Z → ImsCallCallbackInterfaceCode × Parcel
  | .dialResponse slotId info => (imsDial, writeBlock slotId info)
  | .hangUpResponse slotId info => (imsHangUp, writeBlock slotId info)
  | .rejectWithReasonResponse slotId info => (imsReject, writeBlock slotId info)
  | .answerResponse slotId info => (imsAnswer, writeBlock slotId info)
  | .holdCallResponse slotId info => (imsHold, writeBlock slotId info)
  | .unHoldCallResponse slotId info => (imsUnHold, writeBlock slotId info)
  | .switchCallResponse slotId info => (imsSwitch, writeBlock slotId info)
  | .startDtmfResponse slotId info => (imsStartDtmf, writeBlock slotId info)
  | .sendDtmfResponse slotId info callIndex =>
    (imsSendDtmf, sendDtmfResponse slotId info callIndex)
  | .stopDtmfResponse slotId info => (imsStopDtmf, writeBlock slotId info)
  | .startRttResponse slotId info => (imsStartRtt, writeBlock slotId info)
  | .stopRttResponse slotId info => (imsStopRtt, writeBlock slotId info)
  | .callStateChangeReport slotId => (imsCallStateChange, writeCommonInfo slotId)
  | .getImsCallsDataResponse slotId info => (imsGetCallsData, writeBlock slotId info)
  | .getImsCallsDataResponseList slotId callList =>
    (imsGetCallsData, getImsCallsDataResponseList slotId callList)
  | .setImsSwitchResponse slotId info => (imsSetSwitchStatus, writeBlock slotId info)
  | .getImsSwitchResponse slotId info => (imsGetSwitchStatus, writeBlock slotId info)
  | .getImsSwitchResponseActive slotId active =>
    (imsGetSwitchStatus, writeCommonInfo slotId ++ [.int32 active])
  | .callRingBackReport slotId info => (imsCallCring, writeBlock slotId info)
  | .setMuteResponse slotId response => (imsSetMute, writeBlock slotId response)
  | .lastCallFailReasonResponse slotId details =>
    (imsLastCallFailReason,
      writeCommonInfo slotId ++ [.int32 details.reason, .string details.message])
  | .setClipResponse slotId r => (imsSetCallClip, writeSsBaseResultCommonInfo slotId r)
  | .getClipResponse slotId r => (imsGetCallClip, writeSsPair slotId r.result r.action r.clipStat)
  | .getClirResponse slotId r => (imsGetCallClir, writeSsPair slotId r.result r.action r.clirStat)
  | .setClirResponse slotId r => (imsSetCallClir, writeSsBaseResultCommonInfo slotId r)
  | .getCallTransferResponse slotId cFQueryList =>
    (imsGetCallForward, getCallTransferResponse slotId cFQueryList)
  | .setCallTransferResponse slotId r => (imsSetCallForward, writeSsBaseResultCommonInfo slotId r)
  | .getCallRestrictionResponse slotId r =>
    (imsGetCallRestriction, writeSsPair slotId r.result r.status r.classCw)
  | .setCallRestrictionResponse slotId r =>
    (imsSetCallRestriction, writeSsBaseResultCommonInfo slotId r)
  | .getCallWaitingResponse slotId r =>
    (imsGetCallWait, writeSsPair slotId r.result r.status r.classCw)
  | .setCallWaitingResponse slotId r => (imsSetCallWait, writeSsBaseResultCommonInfo slotId r)
  | .setColrResponse slotId r => (imsSetCallColr, writeSsBaseResultCommonInfo slotId r)
  | .getColrResponse slotId r => (imsGetCallColr, writeSsPair slotId r.result r.action r.colrStat)
  | .setColpResponse slotId r => (imsSetCallColp, writeSsBaseResultCommonInfo slotId r)
  | .getColpResponse slotId r => (imsGetCallColp, writeSsPair slotId r.result r.action r.colpStat)
  | .getImsSuppExtResponse slotId code callId =>
    (imsSuppExtChanged, writeCommonInfo slotId ++ [.int32 code, .int32 callId])
  | .combineConferenceResponse slotId info => (imsCombineConference, writeBlock slotId info)
  | .inviteToConferenceResponse slotId info => (imsInviteToConference, writeBlock slotId info)
  | .receiveUpdateCallMediaModeRequest slotId info =>
    (imsRecvCallMediaModeRequest, writeBlock slotId info)
  | .receiveUpdateCallMediaModeResponse slotId info =>
    (imsRecvCallMediaModeResponse, writeBlock slotId info)
  | .callSessionEventChanged slotId info => (imsCallSessionEventChanged, writeBlock slotId info)
  | .peerDimensionsChanged slotId info => (imsCallPeerDimensionsChanged, writeBlock slotId info)
  | .callDataUsageChanged slotId info => (imsCallDataUsageChanged, writeBlock slotId info)
  | .cameraCapabilitiesChanged slotId info =>
    (imsCallCameraCapabilitiesChanged, writeBlock slotId info)
  | .getImsCapResponse slotId imsCap =>
    (imsGetImsCapability, writeCommonInfo slotId ++ [.int32 imsCap.volteCap,
      .int32 imsCap.vowifiCap, .int32 imsCap.vonrCap, .int32 imsCap.vtCap])
  | .receiveUpdateImsCallRttEvtResponse slotId info =>
    (imsUpgradeOrDowngradeRttEvt, writeCommonInfo slotId ++
      [.int32 info.callId, .int32 info.eventType, .int32 info.reason])
  | .receiveUpdateImsCallRttErrResponse slotId info =>
    (imsUpgradeOrDowngradeRttErr, writeCommonInfo slotId ++
      [.int32 info.callId, .int32 info.causeCode, .int32 info.operationType,
        .string info.reasonText])

end ImsCallCallbackProxy

/-! ## The stub -/

namespace ImsCallCallbackStub

/-- A result of a supplementary service that is not forwarded: its index is
`INVALID_INDEX`. -/
def notForwarded {Z : RawSizes} : Served (ImsCallback Z) :=
  ⟨.success, [.int32 telephonySuccess], []⟩

def readSsBaseResult : Reader SsBaseResult := do
  let index ← Reader.int32
  let result ← Reader.int32
  let reason ← Reader.int32
  let message ← Reader.string
  pure ⟨index, result, reason, message⟩

def readImsCurrentCall : Reader Ipc.ImsCurrentCall := do
  let index ← Reader.int32
  let dir ← Reader.int32
  let state ← Reader.int32
  let mode ← Reader.int32
  let mpty ← Reader.int32
  let voiceDomain ← Reader.int32
  let callType ← Reader.int32
  let number ← Reader.string
  let name ← Reader.string
  let type ← Reader.int32
  let alpha ← Reader.string
  let toa ← Reader.int32
  let toneType ← Reader.int32
  let callInitialType ← Reader.int32
  let namePresentation ← Reader.int32
  let newCallUseBox ← Reader.int32
  let rttState ← Reader.int32
  let rttChannelId ← Reader.int32
  let imsDomain ← Reader.int32
  pure ⟨index, dir, state, mode, mpty, voiceDomain, callType, number, name, type, alpha, toa,
    toneType, callInitialType, namePresentation, newCallUseBox, rttState, rttChannelId, imsDomain⟩

def readQueryResult : Reader CallForwardQueryResult := do
  let serial ← Reader.int32
  let result ← Reader.int32
  let status ← Reader.int32
  let classx ← Reader.int32
  let number ← Reader.string
  let type ← Reader.int32
  let reason ← Reader.int32
  let time ← Reader.int32
  let startHour ← Reader.int32
  let startMinute ← Reader.int32
  let endHour ← Reader.int32
  let endMinute ← Reader.int32
  pure ⟨serial, result, status, classx, number, type, reason, time, startHour, startMinute,
    endHour, endMinute⟩

variable {Z : RawSizes} (service : ImsCallback Z → Int)

/-- What the handlers of supplementary-service results have in common. -/
def forward (index : Int) (m : ImsCallback Z) : Served (ImsCallback Z) :=
  if index = invalidIndex then notForwarded else .call service m

/-- A handler of an `SsBaseResult`. -/
def ssInner (call : Int → SsBaseResult → ImsCallback Z) : Reader (Served (ImsCallback Z)) := do
  let slotId ← Reader.int32
  let resultInfo ← readSsBaseResult
  pure (forward service resultInfo.index (call slotId resultInfo))

/-- A handler of an `SsBaseResult` with two numbers. -/
def ssPairInner (call : Int → SsBaseResult → Int → Int → ImsCallback Z) :
    Reader (Served (ImsCallback Z)) := do
  let slotId ← Reader.int32
  let result ← readSsBaseResult
  let first ← Reader.int32
  let second ← Reader.int32
  pure (forward service result.index (call slotId result first second))

/-- `OnSendDtmfResponseInner`: the call index is read before the raw data. -/
def onSendDtmfResponseInner : Reader (Served (ImsCallback Z)) := do
  let slotId ← Reader.int32
  let callIndex ← Reader.int32
  match ← Reader.block Z.radioResponseInfo with
  | none => pure (.refused .errArgumentInvalid)
  | some info => pure (.call service (.sendDtmfResponse slotId info callIndex))

def onCallStateChangeReportInner : Reader (Served (ImsCallback Z)) := do
  let slotId ← Reader.int32
  pure (.call service (.callStateChangeReport slotId))

/-- `OnGetImsSwitchResponseInner`: without raw data, the number is read. -/
def onGetImsSwitchResponseInner : Reader (Served (ImsCallback Z)) := do
  let slotId ← Reader.int32
  match ← Reader.block Z.radioResponseInfo with
  | none => do
    let active ← Reader.int32
    pure (.call service (.getImsSwitchResponseActive slotId active))
  | some info => pure (.call service (.getImsSwitchResponse slotId info))

/-- `OnGetImsCallsDataResponseInner`: without raw data, the list is read. -/
def onGetImsCallsDataResponseInner : Reader (Served (ImsCallback Z)) := do
  let slotId ← Reader.int32
  match ← Reader.block Z.radioResponseInfo with
  | none => do
    let callSize ← Reader.int32
    let flag ← Reader.int32
    listInner readImsCurrentCall fun calls =>
      .call service (.getImsCallsDataResponseList slotId ⟨callSize, flag, calls⟩)
  | some info => pure (.call service (.getImsCallsDataResponse slotId info))

def onLastCallFailReasonResponseInner : Reader (Served (ImsCallback Z)) := do
  let slotId ← Reader.int32
  let reason ← Reader.int32
  let message ← Reader.string
  pure (.call service (.lastCallFailReasonResponse slotId ⟨reason, message⟩))

def onGetCallTransferResponseInner : Reader (Served (ImsCallback Z)) := do
  let slotId ← Reader.int32
  let result ← readSsBaseResult
  let callSize ← Reader.int32
  let flag ← Reader.int32
  listInner readQueryResult fun calls =>
    forward service result.index (.getCallTransferResponse slotId ⟨result, callSize, flag, calls⟩)

def onImsSuppExtResponseInner : Reader (Served (ImsCallback Z)) := do
  let slotId ← Reader.int32
  let code ← Reader.int32
  let callId ← Reader.int32
  pure (.call service (.getImsSuppExtResponse slotId code callId))

def onGetImsCapResponseInner : Reader (Served (ImsCallback Z)) := do
  let slotId ← Reader.int32
  let volteCap ← Reader.int32
  let vowifiCap ← Reader.int32
  let vonrCap ← Reader.int32
  let vtCap ← Reader.int32
  pure (.call service (.getImsCapResponse slotId ⟨volteCap, vowifiCap, vonrCap, vtCap⟩))

def onReceiveUpdateCallRttEvtResponseInner : Reader (Served (ImsCallback Z)) := do
  let slotId ← Reader.int32
  let callId ← Reader.int32
  let eventType ← Reader.int32
  let reason ← Reader.int32
  pure (.call service
    (.receiveUpdateImsCallRttEvtResponse slotId ⟨callId, eventType, reason⟩))

def onReceiveUpdateCallRttErrResponseInner : Reader (Served (ImsCallback Z)) := do
  let slotId ← Reader.int32
  let callId ← Reader.int32
  let causeCode ← Reader.int32
  let operationType ← Reader.int32
  let reasonText ← Reader.string
  pure (.call service (.receiveUpdateImsCallRttErrResponse slotId
    { callId := callId, operationType := operationType, causeCode := causeCode,
      reasonText := reasonText }))

/-- `requestFuncMap_`. -/
def requestFuncMap : ImsCallCallbackInterfaceCode → Option (Reader (Served (ImsCallback Z)))
  | .imsDial => some (blockInner _ service .dialResponse)
  | .imsHangUp => some (blockInner _ service .hangUpResponse)
  | .imsReject => some (blockInner _ service .rejectWithReasonResponse)
  | .imsAnswer => some (blockInner _ service .answerResponse)
  | .imsHold => some (blockInner _ service .holdCallResponse)
  | .imsUnHold => some (blockInner _ service .unHoldCallResponse)
  | .imsSwitch => some (blockInner _ service .switchCallResponse)
  | .imsCallStateChange => some (onCallStateChangeReportInner service)
  | .imsLastCallFailReason => some (onLastCallFailReasonResponseInner service)
  | .imsCallCring => some (blockInner _ service .callRingBackReport)
  | .imsCombineConference => some (blockInner _ service .combineConferenceResponse)
  | .imsInviteToConference => some (blockInner _ service .inviteToConferenceResponse)
  | .imsRecvCallMediaModeRequest => some (blockInner _ service .receiveUpdateCallMediaModeRequest)
  | .imsRecvCallMediaModeResponse =>
    some (blockInner _ service .receiveUpdateCallMediaModeResponse)
  | .imsCallSessionEventChanged => some (blockInner _ service .callSessionEventChanged)
  | .imsCallPeerDimensionsChanged => some (blockInner _ service .peerDimensionsChanged)
  | .imsCallDataUsageChanged => some (blockInner _ service .callDataUsageChanged)
  | .imsCallCameraCapabilitiesChanged => some (blockInner _ service .cameraCapabilitiesChanged)
  | .imsStartDtmf => some (blockInner _ service .startDtmfResponse)
  | .imsSendDtmf => some (onSendDtmfResponseInner service)
  | .imsStopDtmf => some (blockInner _ service .stopDtmfResponse)
  | .imsStartRtt => some (blockInner _ service .startRttResponse)
  | .imsStopRtt => some (blockInner _ service .stopRttResponse)
  | .imsUpgradeOrDowngradeRttEvt => some (onReceiveUpdateCallRttEvtResponseInner service)
  | .imsUpgradeOrDowngradeRttErr => some (onReceiveUpdateCallRttErrResponseInner service)
  | .imsSetSwitchStatus => some (blockInner _ service .setImsSwitchResponse)
  | .imsGetSwitchStatus => some (onGetImsSwitchResponseInner service)
  | .imsGetCallsData => some (onGetImsCallsDataResponseInner service)
  | .imsSetMute => some (blockInner _ service .setMuteResponse)
  | .imsGetImsCapability => some (onGetImsCapResponseInner service)
  | .imsSuppExtChanged => some (onImsSuppExtResponseInner service)
  | .imsSetCallClip => some (ssInner service .setClipResponse)
  | .imsGetCallClip =>
    some (ssPairInner service fun slotId r action stat => .getClipResponse slotId ⟨r, action, stat⟩)
  | .imsGetCallClir =>
    some (ssPairInner service fun slotId r action stat => .getClirResponse slotId ⟨r, action, stat⟩)
  | .imsSetCallClir => some (ssInner service .setClirResponse)
  | .imsGetCallForward => some (onGetCallTransferResponseInner service)
  | .imsSetCallForward => some (ssInner service .setCallTransferResponse)
  | .imsGetCallRestriction =>
    some (ssPairInner service fun slotId r status classCw =>
      .getCallRestrictionResponse slotId ⟨r, status, classCw⟩)
  | .imsSetCallRestriction => some (ssInner service .setCallRestrictionResponse)
  | .imsGetCallWait =>
    some (ssPairInner service fun slotId r status classCw =>
      .getCallWaitingResponse slotId ⟨r, status, classCw⟩)
  | .imsSetCallWait => some (ssInner service .setCallWaitingResponse)
  | .imsGetCallColr =>
    some (ssPairInner service fun slotId r action stat => .getColrResponse slotId ⟨r, action, stat⟩)
  | .imsSetCallColr => some (ssInner service .setColrResponse)
  | .imsSetCallColp => some (ssInner service .setColpResponse)
  | .imsGetCallColp =>
    some (ssPairInner service fun slotId r action stat => .getColpResponse slotId ⟨r, action, stat⟩)

end ImsCallCallbackStub

/-- What the stub makes of a message of the proxy. -/
def ImsCallback.deliver {Z : RawSizes} (service : ImsCallback Z → Int) (m : ImsCallback Z) :
    Option (Served (ImsCallback Z)) :=
  serve ImsCallCallbackProxy.descriptor (ImsCallCallbackStub.requestFuncMap service)
    (ImsCallCallbackProxy.send m)

/-! ## Delivery -/

namespace ImsCallback

variable {Z : RawSizes}

/-- The index of a supplementary-service result. -/
def ssIndex : ImsCallback Z → Option Int
  | .setClipResponse _ r | .setClirResponse _ r | .setCallTransferResponse _ r
  | .setCallRestrictionResponse _ r | .setCallWaitingResponse _ r | .setColrResponse _ r
  | .setColpResponse _ r => some r.index
  | .getClipResponse _ r => some r.result.index
  | .getClirResponse _ r => some r.result.index
  | .getCallTransferResponse _ r => some r.result.index
  | .getCallRestrictionResponse _ r => some r.result.index
  | .getCallWaitingResponse _ r => some r.result.index
  | .getColrResponse _ r => some r.result.index
  | .getColpResponse _ r => some r.result.index
  | _ => none

/-- What must become of a message: the same message is passed on, once, and the
result is the reply; but a supplementary-service result without an index is not
passed on. -/
def expected (service : ImsCallback Z → Int) (m : ImsCallback Z) : Served (ImsCallback Z) :=
  match m.ssIndex with
  | some index => ImsCallCallbackStub.forward service index m
  | none => .call service m

/-- The messages whose reader follows their writer: not `SendDtmfResponse`, and
lists only up to `MAX_SIZE`.  (Nothing of a list without an index is passed on,
so there it is enough that its length passes the check.) -/
def Agreed : ImsCallback Z → Prop
  | .sendDtmfResponse _ _ _ => False
  | .getImsCallsDataResponseList _ callList => (callList.calls.length : Int) ≤ maxSize
  | .getCallTransferResponse _ r => (r.calls.length : Int) ≤ maxSize ∨
      (r.result.index = invalidIndex ∧ Readable r.calls.length)
  | _ => True

end ImsCallback

namespace ImsCallCallbackStub

variable {Z : RawSizes} (service : ImsCallback Z → Int)

theorem readImsCurrentCall_yields (call : Ipc.ImsCurrentCall) :
    Yields readImsCurrentCall (ImsCallCallbackProxy.writeCallInfo call) call := fun _ => rfl

theorem readQueryResult_yields (call : CallForwardQueryResult) :
    Yields readQueryResult (ImsCallCallbackProxy.writeQueryResult call) call := fun _ => rfl

theorem ssInner_yields (call : Int → SsBaseResult → ImsCallback Z) (slotId : Int)
    (r : SsBaseResult) :
    Yields (ssInner service call) (.int32 slotId :: ImsCallCallbackProxy.ssBaseResult r)
      (forward service r.index (call slotId r)) := fun _ => rfl

theorem ssPairInner_yields (call : Int → SsBaseResult → Int → Int → ImsCallback Z) (slotId : Int)
    (r : SsBaseResult) (first second : Int) :
    Yields (ssPairInner service call)
      (.int32 slotId :: ImsCallCallbackProxy.ssBaseResult r ++ [.int32 first, .int32 second])
      (forward service r.index (call slotId r first second)) := fun _ => rfl

/-- The overload of `GetImsSwitchResponse` is told by the raw data. -/
theorem onGetImsSwitchResponseInner_yields (slotId : Int) (info : Block Z.radioResponseInfo) :
    Yields (onGetImsSwitchResponseInner service) [.int32 slotId, info.item]
      (.call service (.getImsSwitchResponse slotId info)) :=
  (Yields.int32 slotId).bind ((Yields.block info).bind (Yields.pure _))

/-- So is that of `GetImsCallsDataResponse`. -/
theorem onGetImsCallsDataResponseInner_yields (slotId : Int) (info : Block Z.radioResponseInfo) :
    Yields (onGetImsCallsDataResponseInner service) [.int32 slotId, info.item]
      (.call service (.getImsCallsDataResponse slotId info)) :=
  (Yields.int32 slotId).bind ((Yields.block info).bind (Yields.pure _))

/-- Without raw data, the list of calls is read. -/
theorem onGetImsCallsDataResponseInner_list (slotId callSize flag : Int) (p : Parcel) :
    onGetImsCallsDataResponseInner service
        (.int32 slotId :: .int32 callSize :: .int32 flag :: p) =
      listInner readImsCurrentCall (fun calls =>
        .call service (.getImsCallsDataResponseList slotId ⟨callSize, flag, calls⟩)) p := rfl

/-- After the result, the call-forwarding list is read. -/
theorem onGetCallTransferResponseInner_list (slotId : Int) (r : SsBaseResult)
    (callSize flag : Int) (p : Parcel) :
    onGetCallTransferResponseInner service (.int32 slotId ::
        (ImsCallCallbackProxy.ssBaseResult r ++ .int32 callSize :: .int32 flag :: p)) =
      listInner readQueryResult (fun calls =>
        forward service r.index
          (.getCallTransferResponse slotId ⟨r, callSize, flag, calls⟩)) p := rfl

end ImsCallCallbackStub

namespace ImsCallback

open ImsCallCallbackStub

variable {Z : RawSizes} (service : ImsCallback Z → Int)

/-- What becomes of a list of calls. -/
theorem deliver_callsData (slotId : Int) (L : Ipc.ImsCurrentCallList) :
    deliver service (.getImsCallsDataResponseList slotId L) =
      some (if Readable L.calls.length then
          .call service (.getImsCallsDataResponseList slotId
            { L with calls := L.calls.take (int32Size L.calls.length).toNat })
        else .refused .errFail) := by
  have hfunc : requestFuncMap service .imsGetCallsData =
    some (onGetImsCallsDataResponseInner service) := rfl
  have hserve := serve_cons ImsCallCallbackProxy.descriptor (requestFuncMap service) hfunc
    (.int32 slotId :: .int32 L.callSize :: .int32 L.flag ::
      .int32 (int32Size L.calls.length) :: L.calls.flatMap ImsCallCallbackProxy.writeCallInfo)
  rw [onGetImsCallsDataResponseInner_list,
    listInner_written readImsCurrentCall_yields] at hserve
  exact hserve

/-- What becomes of a call-forwarding list. -/
theorem deliver_callTransfer (slotId : Int) (L : CallForwardQueryInfoList) :
    deliver service (.getCallTransferResponse slotId L) =
      some (if Readable L.calls.length then
          forward service L.result.index (.getCallTransferResponse slotId
            { L with calls := L.calls.take (int32Size L.calls.length).toNat })
        else .refused .errFail) := by
  have hfunc : requestFuncMap service .imsGetCallForward =
    some (onGetCallTransferResponseInner service) := rfl
  have hserve := serve_cons ImsCallCallbackProxy.descriptor (requestFuncMap service) hfunc
    (.int32 slotId ::
      (ImsCallCallbackProxy.ssBaseResult L.result ++ .int32 L.callSize :: .int32 L.flag ::
        .int32 (int32Size L.calls.length) ::
          L.calls.flatMap ImsCallCallbackProxy.writeQueryResult))
  rw [onGetCallTransferResponseInner_list, listInner_written readQueryResult_yields] at hserve
  exact hserve

/-- `SendDtmfResponse` is read astray: its call index is where the raw data
is. -/
theorem deliver_sendDtmf (slotId : Int) (info : Block Z.radioResponseInfo) (callIndex : Int) :
    deliver service (.sendDtmfResponse slotId info callIndex) = none := rfl

/-- A list of calls arrives if it is short. -/
theorem deliver_callsData_iff (slotId : Int) (L : Ipc.ImsCurrentCallList) :
    deliver service (.getImsCallsDataResponseList slotId L) =
        some (expected service (.getImsCallsDataResponseList slotId L)) ↔
      (L.calls.length : Int) ≤ maxSize := by
  rw [deliver_callsData, Option.some.injEq]
  split
  · rename_i hread
    rw [← take_int32Size_eq_iff hread]
    constructor
    · intro hsame
      have hcalls := congrArg Served.calls hsame
      simp only [Served.call, expected, ssIndex, List.cons.injEq,
        getImsCallsDataResponseList.injEq, true_and, and_true] at hcalls
      exact congrArg Ipc.ImsCurrentCallList.calls hcalls
    · intro htake
      rw [htake]
      rfl
  · rename_i hread
    constructor
    · intro hsame
      cases congrArg Served.ret hsame
    · intro hle
      exact absurd (readable_of_le hle) hread

/-- A list whose length the stub refuses is neither short nor left aside. -/
theorem not_agreed_of_unreadable {n : Nat} {index : Int} (hread : ¬Readable n) :
    ¬((n : Int) ≤ maxSize ∨ (index = invalidIndex ∧ Readable n)) := by
  intro h
  rcases h with hle | ⟨-, hread'⟩
  · exact hread (readable_of_le hle)
  · exact hread hread'

/-- A call-forwarding list arrives if it is short, or if there is nothing to
pass on. -/
theorem deliver_callTransfer_iff (slotId : Int) (L : CallForwardQueryInfoList) :
    deliver service (.getCallTransferResponse slotId L) =
        some (expected service (.getCallTransferResponse slotId L)) ↔
      (L.calls.length : Int) ≤ maxSize ∨
        (L.result.index = invalidIndex ∧ Readable L.calls.length) := by
  rw [deliver_callTransfer, Option.some.injEq]
  have hexpected : expected service (.getCallTransferResponse slotId L) =
      forward service L.result.index (.getCallTransferResponse slotId L) := rfl
  rw [hexpected]
  by_cases hindex : L.result.index = invalidIndex
  · simp only [forward, if_pos hindex]
    split
    · rename_i hread
      exact ⟨fun _ => .inr ⟨hindex, hread⟩, fun _ => rfl⟩
    · rename_i hread
      constructor
      · intro hsame
        cases congrArg Served.ret hsame
      · intro hagreed
        exact absurd hagreed (not_agreed_of_unreadable hread)
  · simp only [forward, if_neg hindex]
    split
    · rename_i hread
      rw [← take_int32Size_eq_iff hread]
      constructor
      · intro hsame
        have hcalls := congrArg Served.calls hsame
        simp only [Served.call, List.cons.injEq, getCallTransferResponse.injEq, true_and,
          and_true] at hcalls
        exact .inl (congrArg CallForwardQueryInfoList.calls hcalls)
      · intro h
        rcases h with htake | ⟨hinvalid, -⟩
        · rw [htake]
        · exact absurd hinvalid hindex
    · rename_i hread
      constructor
      · intro hsame
        cases congrArg Served.ret hsame
      · intro hagreed
        exact absurd hagreed (not_agreed_of_unreadable hread)

/-- A message arrives exactly if reader and writer agree. -/
theorem delivered_iff (m : ImsCallback Z) :
    deliver service m = some (expected service m) ↔ m.Agreed := by
  cases m with
  | sendDtmfResponse slotId info callIndex =>
    rw [deliver_sendDtmf]
    constructor
    · intro hnone
      cases hnone
    · intro hagreed
      exact hagreed.elim
  | getImsCallsDataResponseList slotId L => exact deliver_callsData_iff service slotId L
  | getCallTransferResponse slotId L => exact deliver_callTransfer_iff service slotId L
  | dialResponse slotId info | hangUpResponse slotId info | rejectWithReasonResponse slotId info
  | answerResponse slotId info | holdCallResponse slotId info | unHoldCallResponse slotId info
  | switchCallResponse slotId info | startDtmfResponse slotId info | stopDtmfResponse slotId info
  | startRttResponse slotId info | stopRttResponse slotId info | setImsSwitchResponse slotId info
  | callRingBackReport slotId info | setMuteResponse slotId info
  | combineConferenceResponse slotId info | inviteToConferenceResponse slotId info
  | receiveUpdateCallMediaModeRequest slotId info
  | receiveUpdateCallMediaModeResponse slotId info | callSessionEventChanged slotId info
  | peerDimensionsChanged slotId info | callDataUsageChanged slotId info
  | cameraCapabilitiesChanged slotId info =>
    exact iff_of_true (serve_of_yields rfl rfl (blockInner_yields service _ slotId info)) trivial
  | getImsCallsDataResponse slotId info =>
    exact iff_of_true
      (serve_of_yields rfl rfl (onGetImsCallsDataResponseInner_yields service slotId info)) trivial
  | getImsSwitchResponse slotId info =>
    exact iff_of_true
      (serve_of_yields rfl rfl (onGetImsSwitchResponseInner_yields service slotId info)) trivial
  | setClipResponse slotId r | setClirResponse slotId r | setCallTransferResponse slotId r
  | setCallRestrictionResponse slotId r | setCallWaitingResponse slotId r
  | setColrResponse slotId r | setColpResponse slotId r =>
    exact iff_of_true (serve_of_yields rfl rfl (ssInner_yields service _ slotId r)) trivial
  | getClipResponse slotId r | getClirResponse slotId r | getCallRestrictionResponse slotId r
  | getCallWaitingResponse slotId r | getColrResponse slotId r | getColpResponse slotId r =>
    exact iff_of_true
      (serve_of_yields rfl rfl (ssPairInner_yields service _ slotId r.result _ _)) trivial
  | callStateChangeReport slotId | getImsSwitchResponseActive slotId active
  | lastCallFailReasonResponse slotId details | getImsSuppExtResponse slotId code callId
  | getImsCapResponse slotId imsCap | receiveUpdateImsCallRttEvtResponse slotId info
  | receiveUpdateImsCallRttErrResponse slotId info =>
    exact iff_of_true (serve_of_yields rfl rfl (fun _ => rfl)) trivial

/-- The DTMF result of call 1 does not arrive. -/
theorem not_delivered :
    ¬∀ (Z : RawSizes) (service : ImsCallback Z → Int) (m : ImsCallback Z),
      deliver service m = some (expected service m) := by
  intro hclaim
  have hsame := hclaim ⟨16, 8, 8, 12, 8, 12, 16, 12, 272, 304⟩ (fun _ => 0)
    (.sendDtmfResponse 0 (.zero 16) 1)
  rw [deliver_sendDtmf] at hsame
  cases hsame

end ImsCallback

end CellularCall
