import CellularCall.Ipc.Common

/-!
# Requests to the IMS service

`ImsCallProxy` sends the requests of the cellular call service to the IMS
service, whose side is `ImsCallStub`.  A request is an `ImsRequest`, named after
the proxy's function; what the stub makes of it is an `ImsCall`, the name of an
operation and its arguments.

`answered_iff` says which of the requests that both sides implement reach the
operation they name.
-/

namespace CellularCall

open Lib

/-! ## Requests and calls -/

/-- `ImsCapability`. -/
structure ImsCapability where
  imsCapabilityType : Int
  imsRadioTech : Int
  enable : Bool
deriving DecidableEq, Repr

/-- The operations of the IMS service, by the names of the two sides. -/
inductive ImsOperation where
  | dial
  | hangUp
  | rejectWithReason
  | answer
  | holdCall
  | unHoldCall
  | switchCall
  | combineConference
  | inviteToConference
  | kickOutFromConference
  | sendUpdateCallMediaModeRequest
  | sendUpdateCallMediaModeResponse
  | cancelCallUpgrade
  | requestCameraCapabilities
  | getImsCallsDataRequest
  | getLastCallFailReason
  | startDtmf
  | sendDtmf
  | stopDtmf
  | updateImsRttCallMode
  | setDomainPreferenceMode
  | getDomainPreferenceMode
  | setCarrierVtConfig
  | setImsSwitchStatus
  | getImsSwitchStatus
  | setImsConfig
  | getImsConfig
  | setImsFeatureValue
  | getImsFeatureValue
  | setMute
  | getMute
  | controlCamera
  | ctrlCamera
  | setPreviewWindow
  | setDisplayWindow
  | setCameraZoom
  | setPausePicture
  | setPauseImage
  | setDeviceDirection
  | setClip
  | getClip
  | setClir
  | getClir
  | setCallTransfer
  | canSetCallTransferTime
  | getCallTransfer
  | setCallRestriction
  | getCallRestriction
  | setCallWaiting
  | setVideoCallWaiting
  | getCallWaiting
  | setColr
  | getColr
  | setColp
  | getColp
  | registerImsCallCallback
  | updateImsCapabilities
  | getUtImpuFromNetwork
  | notifyOperatorConfigChanged
  | getImsCapabilities
deriving DecidableEq, Repr

/-- A call of an operation.  The arguments are typed as parcel items are. -/
structure ImsCall where
  operation : ImsOperation
  args : Parcel
deriving DecidableEq, Repr

/-- `ImsCallInterfaceCode`. -/
inductive ImsCallInterfaceCode where
  | imsDial
  | imsHangUp
  | imsRejectWithReason
  | imsAnswer
  | imsHold
  | imsUnHold
  | imsSwitch
  | imsCombineConference
  | imsInviteToConference
  | imsKickOutConference
  | imsSendCallMediaModeRequest
  | imsCallStateChange
  | imsGetCallData
  | imsGetLastCallFailReason
  | imsSendCallMediaModeResponse
  | imsCancelCallUpgrade
  | imsRequestCameraCapabilities
  | imsStartDtmf
  | imsSendDtmf
  | imsStopDtmf
  | imsStartRtt
  | imsStopRtt
  | imsUpdateRttCallMode
  | imsSetDomainPreferenceMode
  | imsGetDomainPreferenceMode
  | imsSetSwitchStatus
  | imsGetSwitchStatus
  | imsSetImsConfigString
  | imsSetImsConfigInt
  | imsGetImsConfig
  | imsSetVtConfig
  | imsSetImsFeature
  | imsGetImsFeature
  | imsSetMute
  | imsGetMute
  | imsSetImsRegErrorReport
  | imsUpdateCapability
  | imsGetImpuFromNetwork
  | imsOperatorConfigChanged
  | imsGetImsCapability
  | imsCtrlCamera
  | imsSetPreviewWindow
  | imsSetDisplayWindow
  | imsSetCameraZoom
  | imsSetPauseImage
  | imsSetDeviceDirection
  | imsGetClip
  | imsSetClip
  | imsSetClir
  | imsGetClir
  | imsSetCallTransfer
  | imsGetCallTransfer
  | imsCanSetCallTransferTime
  | imsSetCallRestriction
  | imsGetCallRestriction
  | imsSetCallWaiting
  | imsGetCallWaiting
  | imsSetColr
  | imsGetColr
  | imsSetColp
  | imsGetColp
  | imsSetVideoCallWaiting
  | imsCallRegisterCallback
deriving DecidableEq, Repr

/-- The functions of `ImsCallProxy`.  `SetImsConfig` comes in two overloads.  A
surface is known by the object of its producer, and null without one;
`getImsFeatureValue` is given what its reference argument holds. -/
inductive ImsRequest (Z : RawSizes) where
  | dial (callInfo : Block Z.imsCallInfo) (mode : Int)
  | hangUp (callInfo : Block Z.imsCallInfo)
  | rejectWithReason (callInfo : Block Z.imsCallInfo) (reason : Int)
  | answer (callInfo : Block Z.imsCallInfo)
  | holdCall (slotId callType : Int) (isRTT : Bool)
  | unHoldCall (slotId callType : Int) (isRTT : Bool)
  | switchCall (slotId callType : Int) (isRTT : Bool)
  | combineConference (slotId : Int)
  | inviteToConference (slotId : Int) (numberList : List Str)
  | kickOutFromConference (slotId index : Int)
  | sendUpdateCallMediaModeRequest (callInfo : Block Z.imsCallInfo) (callType : Int)
  | sendUpdateCallMediaModeResponse (callInfo : Block Z.imsCallInfo) (callType : Int)
  | cancelCallUpgrade (slotId callIndex : Int)
  | requestCameraCapabilities (slotId callIndex : Int)
  | getImsCallsDataRequest (slotId lastCallsDataFlag : Int)
  | getLastCallFailReason (slotId : Int)
  | startDtmf (slotId cDtmfCode index : Int)
  | sendDtmf (slotId cDtmfCode index : Int)
  | stopDtmf (slotId index : Int)
  | updateImsRttCallMode (slotId callId mode : Int)
  | setDomainPreferenceMode (slotId mode : Int)
  | getDomainPreferenceMode (slotId : Int)
  | setCarrierVtConfig (slotId active : Int)
  | setImsSwitchStatus (slotId active : Int)
  | getImsSwitchStatus (slotId : Int)
  | setImsConfigString (item : Int) (value : Str)
  | setImsConfigInt (item value : Int)
  | getImsConfig (item : Int)
  | setImsFeatureValue (type value : Int)
  | getImsFeatureValue (type value : Int)
  | setMute (slotId mute : Int)
  | getMute (slotId : Int)
  | controlCamera (slotId callIndex : Int) (cameraId : Str)
  | setPreviewWindow (slotId callIndex : Int) (surfaceID : Str) (surface : Option Nat)
  | setDisplayWindow (slotId callIndex : Int) (surfaceID : Str) (surface : Option Nat)
  | setCameraZoom (zoomRatio : Nat)
  | setPausePicture (slotId callIndex : Int) (path : Str)
  | setDeviceDirection (slotId callIndex rotation : Int)
  | setClip (slotId action index : Int)
  | getClip (slotId index : Int)
  | setClir (slotId action index : Int)
  | getClir (slotId index : Int)
  | setCallTransfer (slotId : Int) (cfInfo : Block Z.callTransferInfo) (classType index : Int)
  | canSetCallTransferTime (slotId : Int) (result : Bool)
  | getCallTransfer (slotId reason index : Int)
  | setCallRestriction (slotId : Int) (fac : Str) (mode : Int) (pw : Str) (index : Int)
  | getCallRestriction (slotId : Int) (fac : Str) (index : Int)
  | setCallWaiting (slotId : Int) (activate : Bool) (classType index : Int)
  | setVideoCallWaiting (slotId : Int) (activate : Bool)
  | getCallWaiting (slotId index : Int)
  | setColr (slotId presentation index : Int)
  | getColr (slotId index : Int)
  | setColp (slotId action index : Int)
  | getColp (slotId index : Int)
  | registerImsCallCallback (callback : Option Nat)
  | updateImsCapabilities (slotId : Int) (imsCapabilities : List ImsCapability)
  | getUtImpuFromNetwork (slotId : Int) (impu : Str)
  | notifyOperatorConfigChanged (slotId state : Int)
  | getImsCapabilities (slotId : Int)

/-- What the service behind the stub answers: the result of each call, and what
`GetImsFeatureValue` leaves in its reference argument.  The numbers of the errors
and of the calling process are given by the platform. -/
structure ImsServer where
  result : ImsCall → Int
  featureValue : ImsCall → Int
  errorCode : IpcRet → Int
  callingUid : Int
  callingPid : Int
deriving Inhabited

/-! ## The proxy -/

namespace ImsCallProxy

/-- `ImsCallInterface::GetDescriptor`. -/
def descriptor : Str := "OHOS.Telephony.ImsCallInterface".toList

/-- The descriptor token alone, where there is no slot to write. -/
def writeToken : Parcel := [.token descriptor]

/-- `WriteCommonInfo`. -/
def writeCommonInfo (slotId : Int) : Parcel := [.token descriptor, .int32 slotId]

/-- `WriteCommonInfo` with a call type. -/
def writeCommonInfoType (slotId callType : Int) : Parcel :=
  writeCommonInfo slotId ++ [.int32 callType]

/-- An object, unless it is null. -/
def writeObject : Option Nat → Parcel
  | some number => [.object number]
  | none => []

/-- An entry of an `ImsCapabilityList`. -/
def writeImsCapability (c : ImsCapability) : Parcel :=
  [.int32 c.imsCapabilityType, .int32 c.imsRadioTech, .bool c.enable]

/-- `UpdateImsCapabilities`. -/
def updateImsCapabilities (slotId : Int) (imsCapabilities : List ImsCapability) : Parcel :=
  writeCommonInfo slotId ++ [.int32 (int32Size imsCapabilities.length)] ++
    imsCapabilities.flatMap writeImsCapability

open ImsCallInterfaceCode in
/-- Each function of the proxy: the code it sends under, and what it writes.  A
callback that is null is not sent. -/
def send {Z : RawSizes} : ImsRequest Z → Option (ImsCallInterfaceCode × Parcel)
  | .dial callInfo mode => some (imsDial, writeToken ++ [callInfo.item, .int32 mode])
  | .hangUp callInfo => some (imsHangUp, writeToken ++ [callInfo.item])
  | .rejectWithReason callInfo reason =>
    some (imsRejectWithReason, writeToken ++ [callInfo.item, .int32 reason])
  | .answer callInfo => some (imsAnswer, writeToken ++ [callInfo.item])
  | .holdCall slotId callType isRTT =>
    some (imsHold, writeCommonInfoType slotId callType ++ [.bool isRTT])
  | .unHoldCall slotId callType isRTT =>
    some (imsUnHold, writeCommonInfoType slotId callType ++ [.bool isRTT])
  | .switchCall slotId callType isRTT =>
    some (imsSwitch, writeCommonInfoType slotId callType ++ [.bool isRTT])
  | .combineConference slotId => some (imsCombineConference, writeCommonInfo slotId)
  | .inviteToConference slotId numberList =>
    some (imsInviteToConference, writeCommonInfo slotId ++ [.strings numberList])
  | .kickOutFromConference slotId index =>
    some (imsKickOutConference, writeCommonInfo slotId ++ [.int32 index])
  | .sendUpdateCallMediaModeRequest callInfo callType =>
    some (imsSendCallMediaModeRequest, writeToken ++ [callInfo.item, .int32 callType])
  | .sendUpdateCallMediaModeResponse callInfo callType =>
    some (imsSendCallMediaModeResponse, writeToken ++ [callInfo.item, .int32 callType])
  | .cancelCallUpgrade slotId callIndex =>
    some (imsCancelCallUpgrade, writeToken ++ [.int32 slotId, .int32 callIndex])
  | .requestCameraCapabilities slotId callIndex =>
    some (imsRequestCameraCapabilities, writeToken ++ [.int32 slotId, .int32 callIndex])
  | .getImsCallsDataRequest slotId lastCallsDataFlag =>
    some (imsGetCallData, writeCommonInfo slotId ++ [.int64 lastCallsDataFlag])
  | .getLastCallFailReason slotId => some (imsGetLastCallFailReason, writeCommonInfo slotId)
  | .startDtmf slotId cDtmfCode index =>
    some (imsStartDtmf, writeCommonInfo slotId ++ [.int8 cDtmfCode, .int32 index])
  | .sendDtmf slotId cDtmfCode index =>
    some (imsSendDtmf, writeCommonInfo slotId ++ [.int8 cDtmfCode, .int32 index])
  | .stopDtmf slotId index => some (imsStopDtmf, writeCommonInfo slotId ++ [.int32 index])
  | .updateImsRttCallMode slotId callId mode =>
    some (imsUpdateRttCallMode, writeCommonInfo slotId ++ [.int32 callId, .int32 mode])
  | .setDomainPreferenceMode slotId mode =>
    some (imsSetDomainPreferenceMode, writeCommonInfo slotId ++ [.int32 mode])
  | .getDomainPreferenceMode slotId => some (imsGetDomainPreferenceMode, writeCommonInfo slotId)
  | .setCarrierVtConfig slotId active =>
    some (imsSetVtConfig, writeCommonInfo slotId ++ [.int32 active])
  | .setImsSwitchStatus slotId active =>
    some (imsSetSwitchStatus, writeCommonInfo slotId ++ [.int32 active])
  | .getImsSwitchStatus slotId => some (imsGetSwitchStatus, writeCommonInfo slotId)
  | .setImsConfigString item value =>
    some (imsSetImsConfigString, writeToken ++ [.int32 item, .string value])
  | .setImsConfigInt item value =>
    some (imsSetImsConfigInt, writeToken ++ [.int32 item, .int32 value])
  | .getImsConfig item => some (imsGetImsConfig, writeToken ++ [.int32 item])
  | .setImsFeatureValue type value =>
    some (imsSetImsFeature, writeToken ++ [.int32 type, .int32 value])
  | .getImsFeatureValue type _ => some (imsGetImsFeature, writeToken ++ [.int32 type])
  | .setMute slotId mute => some (imsSetMute, writeCommonInfo slotId ++ [.int32 mute])
  | .getMute slotId => some (imsGetMute, writeCommonInfo slotId)
  | .controlCamera slotId callIndex cameraId =>
    some (imsCtrlCamera, writeCommonInfo slotId ++ [.int32 callIndex, .string cameraId])
  | .setPreviewWindow slotId callIndex surfaceID surface =>
    some (imsSetPreviewWindow,
      writeCommonInfo slotId ++ [.int32 callIndex, .string surfaceID] ++ writeObject surface)
  | .setDisplayWindow slotId callIndex surfaceID surface =>
    some (imsSetDisplayWindow,
      writeCommonInfo slotId ++ [.int32 callIndex, .string surfaceID] ++ writeObject surface)
  | .setCameraZoom zoomRatio => some (imsSetCameraZoom, writeToken ++ [.float zoomRatio])
  | .setPausePicture slotId callIndex path =>
    some (imsSetPauseImage, writeCommonInfo slotId ++ [.int32 callIndex, .string path])
  | .setDeviceDirection slotId callIndex rotation =>
    some (imsSetDeviceDirection, writeCommonInfo slotId ++ [.int32 callIndex, .int32 rotation])
  | .setClip slotId action index =>
    some (imsSetClip, writeCommonInfo slotId ++ [.int32 action, .int32 index])
  | .getClip slotId index => some (imsGetClip, writeCommonInfo slotId ++ [.int32 index])
  | .setClir slotId action index =>
    some (imsSetClir, writeCommonInfo slotId ++ [.int32 action, .int32 index])
  | .getClir slotId index => some (imsGetClir, writeCommonInfo slotId ++ [.int32 index])
  | .setCallTransfer slotId cfInfo classType index =>
    some (imsSetCallTransfer,
      writeCommonInfo slotId ++ [cfInfo.item, .int32 classType, .int32 index])
  | .canSetCallTransferTime slotId result =>
    some (imsCanSetCallTransferTime, writeCommonInfo slotId ++ [.bool result])
  | .getCallTransfer slotId reason index =>
    some (imsGetCallTransfer, writeCommonInfo slotId ++ [.int32 reason, .int32 index])
  | .setCallRestriction slotId fac mode pw index =>
    some (imsSetCallRestriction,
      writeCommonInfo slotId ++ [.string fac, .int32 mode, .string pw, .int32 index])
  | .getCallRestriction slotId fac index =>
    some (imsGetCallRestriction, writeCommonInfo slotId ++ [.string fac, .int32 index])
  | .setCallWaiting slotId activate classType index =>
    some (imsSetCallWaiting,
      writeCommonInfo slotId ++ [.bool activate, .int32 classType, .int32 index])
  | .setVideoCallWaiting slotId activate =>
    some (imsSetVideoCallWaiting, writeCommonInfo slotId ++ [.bool activate])
  | .getCallWaiting slotId index =>
    some (imsGetCallWaiting, writeCommonInfo slotId ++ [.int32 index])
  | .setColr slotId presentation index =>
    some (imsSetColr, writeCommonInfo slotId ++ [.int32 presentation, .int32 index])
  | .getColr slotId index => some (imsGetColr, writeCommonInfo slotId ++ [.int32 index])
  | .setColp slotId action index =>
    some (imsSetColp, writeCommonInfo slotId ++ [.int32 action, .int32 index])
  | .getColp slotId index => some (imsGetColp, writeCommonInfo slotId ++ [.int32 index])
  | .registerImsCallCallback none => none
  | .registerImsCallCallback (some callback) =>
    some (imsCallRegisterCallback, writeToken ++ [.object callback])
  | .updateImsCapabilities slotId imsCapabilities =>
    some (imsUpdateCapability, updateImsCapabilities slotId imsCapabilities)
  | .getUtImpuFromNetwork slotId impu =>
    some (imsGetImpuFromNetwork, writeCommonInfo slotId ++ [.string impu])
  | .notifyOperatorConfigChanged slotId state =>
    some (imsOperatorConfigChanged, writeCommonInfo slotId ++ [.int32 state])
  | .getImsCapabilities slotId => some (imsGetImsCapability, writeCommonInfo slotId)

/-- What a function of the proxy returns. -/
inductive Ret where
  | value (result : Int)
  | argumentInvalid
  | ipcConnectStubFail
deriving DecidableEq, Repr

/-- What is read of the reply: `CanSetCallTransferTime` reads its answer before
the result. -/
def readReply {Z : RawSizes} : ImsRequest Z → Reader Int
  | .canSetCallTransferTime _ _ => do
    let _ ← Reader.bool
    Reader.int32
  | _ => Reader.int32

/-- `SendRequest`, once the stub has answered. -/
def sendRequest {Z : RawSizes} (m : ImsRequest Z) (served : Served ImsCall) : Option Ret :=
  if served.ret = .success then (readReply m served.reply).map fun out => .value out.1
  else some .ipcConnectStubFail

end ImsCallProxy

/-! ## The stub -/

namespace ImsCallStub

section Handlers

variable (Z : RawSizes) (isValidSlotId : Int → Bool) (server : ImsServer)

/-- A handler that reads the arguments of an operation and calls it. -/
def onCall (operation : ImsOperation) (kinds : List Kind) : Reader (Served ImsCall) := do
  let args ← Reader.items kinds
  pure (.call server.result ⟨operation, args⟩)

/-- A handler whose first argument is an `ImsCallInfo`. -/
def onCallInfo (operation : ImsOperation) (kinds : List Kind) : Reader (Served ImsCall) := do
  match ← Reader.block Z.imsCallInfo with
  | none => pure ⟨.errLocalPtrNull, [.int32 (server.errorCode .errLocalPtrNull)], []⟩
  | some callInfo => do
    let args ← Reader.items kinds
    pure (.call server.result ⟨operation, callInfo.item :: args⟩)

def onDial := onCallInfo Z server .dial [.int32]

def onHangUp := onCallInfo Z server .hangUp []

def onRejectWithReason := onCallInfo Z server .rejectWithReason [.int32]

def onAnswer := onCallInfo Z server .answer []

def onHoldCall := onCall server .holdCall [.int32, .int32, .bool]

def onUnHoldCall := onCall server .unHoldCall [.int32, .int32, .bool]

def onSwitchCall := onCall server .switchCall [.int32, .int32, .bool]

def onCombineConference := onCall server .combineConference [.int32]

def onInviteToConference := onCall server .inviteToConference [.int32, .strings]

/-- `OnKickOutFromConference`. -/
def onKickOutFromConference : Reader (Served ImsCall) := do
  let slotId ← Reader.int32
  let kickoutCallIndex ← Reader.int32
  if isValidSlotId slotId = false then
    pure ⟨.errSlotIdInvalid, [.int32 (server.errorCode .errFail)], []⟩
  else
    pure (.call server.result ⟨.kickOutFromConference, [.int32 slotId, .int32 kickoutCallIndex]⟩)

def onGetImsCallsDataRequest := onCall server .getImsCallsDataRequest [.int32, .int64]

def onGetLastCallFailReason := onCall server .getLastCallFailReason [.int32]

def onStartDtmf := onCall server .startDtmf [.int32, .int8, .int32]

def onSendDtmf := onCall server .sendDtmf [.int32, .int8, .int32]

def onStopDtmf := onCall server .stopDtmf [.int32, .int32]

def onUpdateImsRttCallMode := onCall server .updateImsRttCallMode [.int32, .int32, .int32]

def onSetDomainPreferenceMode := onCall server .setDomainPreferenceMode [.int32, .int32]

def onGetDomainPreferenceMode := onCall server .getDomainPreferenceMode [.int32]

def onSetImsSwitchStatus := onCall server .setImsSwitchStatus [.int32, .int32]

def onGetImsSwitchStatus := onCall server .getImsSwitchStatus [.int32]

def onSetImsConfigInt := onCall server .setImsConfig [.int32, .int32]

def onSetImsConfigString := onCall server .setImsConfig [.int32, .string]

def onGetImsConfig := onCall server .getImsConfig [.int32]

def onSetImsFeatureValue := onCall server .setImsFeatureValue [.int32, .int32]

/-- `OnGetImsFeatureValue`: the reply is the result and then the value. -/
def onGetImsFeatureValue : Reader (Served ImsCall) := do
  let type ← Reader.int32
  let call : ImsCall := ⟨.getImsFeatureValue, [.int32 type]⟩
  pure ⟨.success, [.int32 (server.result call), .int32 (server.featureValue call)], [call]⟩

def onSetMute := onCall server .setMute [.int32, .int32]

def onGetMute := onCall server .getMute [.int32]

/-- `OnCtrlCamera`. -/
def onCtrlCamera : Reader (Served ImsCall) := do
  let cameraId ← Reader.string16
  pure (.call server.result ⟨.ctrlCamera,
    [.string16 cameraId, .int32 server.callingUid, .int32 server.callingPid]⟩)

def onSetPreviewWindow :=
  onCall server .setPreviewWindow [.int32, .int32, .int32, .int32, .int32]

def onSetDisplayWindow :=
  onCall server .setDisplayWindow [.int32, .int32, .int32, .int32, .int32]

def onSetCameraZoom := onCall server .setCameraZoom [.float]

def onSetPauseImage := onCall server .setPauseImage [.string16]

def onSetDeviceDirection := onCall server .setDeviceDirection [.int32]

/-- `OnSetClip`, which no code leads to. -/
def onSetClip := onCall server .setClip [.int32, .int32]

def onGetClip := onCall server .getClip [.int32]

def onSetClir := onCall server .setClir [.int32, .int32]

def onGetClir := onCall server .getClir [.int32]

def onSetCallTransfer :=
  onCall server .setCallTransfer [.int32, .int32, .int32, .string, .int32]

def onGetCallTransfer := onCall server .getCallTransfer [.int32, .int32]

def onSetCallRestriction := onCall server .setCallRestriction [.int32, .string, .int32, .string]

def onGetCallRestriction := onCall server .getCallRestriction [.int32, .string]

def onSetCallWaiting := onCall server .setCallWaiting [.int32, .bool, .int32]

def onGetCallWaiting := onCall server .getCallWaiting [.int32]

def onSetColr := onCall server .setColr [.int32, .int32]

def onGetColr := onCall server .getColr [.int32]

def onSetColp := onCall server .setColp [.int32, .int32]

def onGetColp := onCall server .getColp [.int32]

def onRegisterImsCallCallback := onCall server .registerImsCallCallback [.object]

def readImsCapability : Reader ImsCapability := do
  let imsCapabilityType ← Reader.int32
  let imsRadioTech ← Reader.int32
  let enable ← Reader.bool
  pure ⟨imsCapabilityType, imsRadioTech, enable⟩

/-- `OnUpdateImsCapabilities`.  Its `IMS_CAPABILITIES_MAX_SIZE` is the
`MAX_SIZE` of the callback stubs. -/
def onUpdateImsCapabilities : Reader (Served ImsCall) := do
  let slotId ← Reader.int32
  listInner readImsCapability fun imsCapabilities =>
    .call server.result ⟨.updateImsCapabilities,
      .int32 slotId :: imsCapabilities.flatMap ImsCallProxy.writeImsCapability⟩

/-- `memberFuncMap_`. -/
def memberFuncMap : ImsCallInterfaceCode → Option (Reader (Served ImsCall))
  | .imsDial => some (onDial Z server)
  | .imsHangUp => some (onHangUp Z server)
  | .imsRejectWithReason => some (onRejectWithReason Z server)
  | .imsAnswer => some (onAnswer Z server)
  | .imsHold => some (onHoldCall server)
  | .imsUnHold => some (onUnHoldCall server)
  | .imsSwitch => some (onSwitchCall server)
  | .imsCombineConference => some (onCombineConference server)
  | .imsInviteToConference => some (onInviteToConference server)
  | .imsKickOutConference => some (onKickOutFromConference isValidSlotId server)
  | .imsGetCallData => some (onGetImsCallsDataRequest server)
  | .imsGetLastCallFailReason => some (onGetLastCallFailReason server)
  | .imsStartDtmf => some (onStartDtmf server)
  | .imsSendDtmf => some (onSendDtmf server)
  | .imsStopDtmf => some (onStopDtmf server)
  | .imsUpdateRttCallMode => some (onUpdateImsRttCallMode server)
  | .imsSetDomainPreferenceMode => some (onSetDomainPreferenceMode server)
  | .imsGetDomainPreferenceMode => some (onGetDomainPreferenceMode server)
  | .imsSetSwitchStatus => some (onSetImsSwitchStatus server)
  | .imsGetSwitchStatus => some (onGetImsSwitchStatus server)
  | .imsSetImsConfigString => some (onSetImsConfigString server)
  | .imsSetImsConfigInt => some (onSetImsConfigInt server)
  | .imsGetImsConfig => some (onGetImsConfig server)
  | .imsSetImsFeature => some (onSetImsFeatureValue server)
  | .imsGetImsFeature => some (onGetImsFeatureValue server)
  | .imsSetMute => some (onSetMute server)
  | .imsGetMute => some (onGetMute server)
  | .imsUpdateCapability => some (onUpdateImsCapabilities server)
  | .imsCtrlCamera => some (onCtrlCamera server)
  | .imsSetPreviewWindow => some (onSetPreviewWindow server)
  | .imsSetDisplayWindow => some (onSetDisplayWindow server)
  | .imsSetCameraZoom => some (onSetCameraZoom server)
  | .imsSetPauseImage => some (onSetPauseImage server)
  | .imsSetDeviceDirection => some (onSetDeviceDirection server)
  | .imsSetClip => some (onGetClip server)
  | .imsGetClip => some (onGetClip server)
  | .imsSetClir => some (onSetClir server)
  | .imsGetClir => some (onGetClir server)
  | .imsSetCallTransfer => some (onSetCallTransfer server)
  | .imsGetCallTransfer => some (onGetCallTransfer server)
  | .imsSetCallRestriction => some (onSetCallRestriction server)
  | .imsGetCallRestriction => some (onGetCallRestriction server)
  | .imsSetCallWaiting => some (onSetCallWaiting server)
  | .imsGetCallWaiting => some (onGetCallWaiting server)
  | .imsSetColr => some (onSetColr server)
  | .imsGetColr => some (onGetColr server)
  | .imsSetColp => some (onSetColp server)
  | .imsGetColp => some (onGetColp server)
  | .imsCallRegisterCallback => some (onRegisterImsCallCallback server)
  | _ => none

end Handlers

end ImsCallStub

/-! ## Requests answered -/

/-- What comes of a request: the calls that are made, what the proxy returns, and
what the reference argument of `GetImsFeatureValue` holds then. -/
structure ImsOutcome where
  calls : List ImsCall
  ret : ImsCallProxy.Ret
  value : Option Int
deriving DecidableEq, Repr

namespace ImsRequest

variable {Z : RawSizes}

/-- The reference argument of `GetImsFeatureValue`. -/
def value : ImsRequest Z → Option Int
  | .getImsFeatureValue _ value => some value
  | _ => none

/-- A request on its way to the stub and back.  The proxy leaves the reference
argument of `GetImsFeatureValue` as it is. -/
def transact (isValidSlotId : Int → Bool) (server : ImsServer) (m : ImsRequest Z) :
    Option ImsOutcome :=
  match ImsCallProxy.send m with
  | none => some ⟨[], .argumentInvalid, m.value⟩
  | some message => do
    let served ← serve ImsCallProxy.descriptor
      (ImsCallStub.memberFuncMap Z isValidSlotId server) message
    let ret ← ImsCallProxy.sendRequest m served
    pure ⟨served.calls, ret, m.value⟩

/-- The call a request stands for: the operation of its name, with its
arguments. -/
def call : ImsRequest Z → ImsCall
  | .dial callInfo mode => ⟨.dial, [callInfo.item, .int32 mode]⟩
  | .hangUp callInfo => ⟨.hangUp, [callInfo.item]⟩
  | .rejectWithReason callInfo reason => ⟨.rejectWithReason, [callInfo.item, .int32 reason]⟩
  | .answer callInfo => ⟨.answer, [callInfo.item]⟩
  | .holdCall slotId callType isRTT =>
    ⟨.holdCall, [.int32 slotId, .int32 callType, .bool isRTT]⟩
  | .unHoldCall slotId callType isRTT =>
    ⟨.unHoldCall, [.int32 slotId, .int32 callType, .bool isRTT]⟩
  | .switchCall slotId callType isRTT =>
    ⟨.switchCall, [.int32 slotId, .int32 callType, .bool isRTT]⟩
  | .combineConference slotId => ⟨.combineConference, [.int32 slotId]⟩
  | .inviteToConference slotId numberList =>
    ⟨.inviteToConference, [.int32 slotId, .strings numberList]⟩
  | .kickOutFromConference slotId index =>
    ⟨.kickOutFromConference, [.int32 slotId, .int32 index]⟩
  | .sendUpdateCallMediaModeRequest callInfo callType =>
    ⟨.sendUpdateCallMediaModeRequest, [callInfo.item, .int32 callType]⟩
  | .sendUpdateCallMediaModeResponse callInfo callType =>
    ⟨.sendUpdateCallMediaModeResponse, [callInfo.item, .int32 callType]⟩
  | .cancelCallUpgrade slotId callIndex =>
    ⟨.cancelCallUpgrade, [.int32 slotId, .int32 callIndex]⟩
  | .requestCameraCapabilities slotId callIndex =>
    ⟨.requestCameraCapabilities, [.int32 slotId, .int32 callIndex]⟩
  | .getImsCallsDataRequest slotId lastCallsDataFlag =>
    ⟨.getImsCallsDataRequest, [.int32 slotId, .int64 lastCallsDataFlag]⟩
  | .getLastCallFailReason slotId => ⟨.getLastCallFailReason, [.int32 slotId]⟩
  | .startDtmf slotId cDtmfCode index =>
    ⟨.startDtmf, [.int32 slotId, .int8 cDtmfCode, .int32 index]⟩
  | .sendDtmf slotId cDtmfCode index =>
    ⟨.sendDtmf, [.int32 slotId, .int8 cDtmfCode, .int32 index]⟩
  | .stopDtmf slotId index => ⟨.stopDtmf, [.int32 slotId, .int32 index]⟩
  | .updateImsRttCallMode slotId callId mode =>
    ⟨.updateImsRttCallMode, [.int32 slotId, .int32 callId, .int32 mode]⟩
  | .setDomainPreferenceMode slotId mode =>
    ⟨.setDomainPreferenceMode, [.int32 slotId, .int32 mode]⟩
  | .getDomainPreferenceMode slotId => ⟨.getDomainPreferenceMode, [.int32 slotId]⟩
  | .setCarrierVtConfig slotId active =>
    ⟨.setCarrierVtConfig, [.int32 slotId, .int32 active]⟩
  | .setImsSwitchStatus slotId active =>
    ⟨.setImsSwitchStatus, [.int32 slotId, .int32 active]⟩
  | .getImsSwitchStatus slotId => ⟨.getImsSwitchStatus, [.int32 slotId]⟩
  | .setImsConfigString item value => ⟨.setImsConfig, [.int32 item, .string value]⟩
  | .setImsConfigInt item value => ⟨.setImsConfig, [.int32 item, .int32 value]⟩
  | .getImsConfig item => ⟨.getImsConfig, [.int32 item]⟩
  | .setImsFeatureValue type value => ⟨.setImsFeatureValue, [.int32 type, .int32 value]⟩
  | .getImsFeatureValue type _ => ⟨.getImsFeatureValue, [.int32 type]⟩
  | .setMute slotId mute => ⟨.setMute, [.int32 slotId, .int32 mute]⟩
  | .getMute slotId => ⟨.getMute, [.int32 slotId]⟩
  | .controlCamera slotId callIndex cameraId =>
    ⟨.controlCamera, [.int32 slotId, .int32 callIndex, .string cameraId]⟩
  | .setPreviewWindow slotId callIndex surfaceID surface =>
    ⟨.setPreviewWindow, [.int32 slotId, .int32 callIndex, .string surfaceID] ++
      ImsCallProxy.writeObject surface⟩
  | .setDisplayWindow slotId callIndex surfaceID surface =>
    ⟨.setDisplayWindow, [.int32 slotId, .int32 callIndex, .string surfaceID] ++
      ImsCallProxy.writeObject surface⟩
  | .setCameraZoom zoomRatio => ⟨.setCameraZoom, [.float zoomRatio]⟩
  | .setPausePicture slotId callIndex path =>
    ⟨.setPausePicture, [.int32 slotId, .int32 callIndex, .string path]⟩
  | .setDeviceDirection slotId callIndex rotation =>
    ⟨.setDeviceDirection, [.int32 slotId, .int32 callIndex, .int32 rotation]⟩
  | .setClip slotId action index => ⟨.setClip, [.int32 slotId, .int32 action, .int32 index]⟩
  | .getClip slotId index => ⟨.getClip, [.int32 slotId, .int32 index]⟩
  | .setClir slotId action index => ⟨.setClir, [.int32 slotId, .int32 action, .int32 index]⟩
  | .getClir slotId index => ⟨.getClir, [.int32 slotId, .int32 index]⟩
  | .setCallTransfer slotId cfInfo classType index =>
    ⟨.setCallTransfer, [.int32 slotId, cfInfo.item, .int32 classType, .int32 index]⟩
  | .canSetCallTransferTime slotId result =>
    ⟨.canSetCallTransferTime, [.int32 slotId, .bool result]⟩
  | .getCallTransfer slotId reason index =>
    ⟨.getCallTransfer, [.int32 slotId, .int32 reason, .int32 index]⟩
  | .setCallRestriction slotId fac mode pw index =>
    ⟨.setCallRestriction, [.int32 slotId, .string fac, .int32 mode, .string pw, .int32 index]⟩
  | .getCallRestriction slotId fac index =>
    ⟨.getCallRestriction, [.int32 slotId, .string fac, .int32 index]⟩
  | .setCallWaiting slotId activate classType index =>
    ⟨.setCallWaiting, [.int32 slotId, .bool activate, .int32 classType, .int32 index]⟩
  | .setVideoCallWaiting slotId activate =>
    ⟨.setVideoCallWaiting, [.int32 slotId, .bool activate]⟩
  | .getCallWaiting slotId index => ⟨.getCallWaiting, [.int32 slotId, .int32 index]⟩
  | .setColr slotId presentation index =>
    ⟨.setColr, [.int32 slotId, .int32 presentation, .int32 index]⟩
  | .getColr slotId index => ⟨.getColr, [.int32 slotId, .int32 index]⟩
  | .setColp slotId action index => ⟨.setColp, [.int32 slotId, .int32 action, .int32 index]⟩
  | .getColp slotId index => ⟨.getColp, [.int32 slotId, .int32 index]⟩
  | .registerImsCallCallback callback =>
    ⟨.registerImsCallCallback, ImsCallProxy.writeObject callback⟩
  | .updateImsCapabilities slotId imsCapabilities =>
    ⟨.updateImsCapabilities,
      .int32 slotId :: imsCapabilities.flatMap ImsCallProxy.writeImsCapability⟩
  | .getUtImpuFromNetwork slotId impu =>
    ⟨.getUtImpuFromNetwork, [.int32 slotId, .string impu]⟩
  | .notifyOperatorConfigChanged slotId state =>
    ⟨.notifyOperatorConfigChanged, [.int32 slotId, .int32 state]⟩
  | .getImsCapabilities slotId => ⟨.getImsCapabilities, [.int32 slotId]⟩

/-- What must come of a request: its call is made, the proxy returns the result,
and the reference argument holds the value of the service. -/
def expected (server : ImsServer) (m : ImsRequest Z) : ImsOutcome :=
  ⟨[m.call], .value (server.result m.call), m.value.map fun _ => server.featureValue m.call⟩

/-- Both sides implement the code of the request. -/
def Shared (isValidSlotId : Int → Bool) (m : ImsRequest Z) : Prop :=
  ∀ server message, ImsCallProxy.send m = some message →
    ImsCallStub.memberFuncMap Z isValidSlotId server message.1 ≠ none

/-- The parcel of the request, if one is written, has what the request names
done, whatever the service answers. -/
def Answered (isValidSlotId : Int → Bool) (m : ImsRequest Z) : Prop :=
  ∀ server message, ImsCallProxy.send m = some message →
    transact isValidSlotId server m = some (expected server m)

/-- The requests whose reader follows their writer.  Of those that both sides
implement, these are all but the value of a feature, the video settings (but for
the zoom) and the supplementary services; a participant is taken out of a
conference only on a valid slot, and capabilities are read up to `MAX_SIZE`. -/
def Agreed (isValidSlotId : Int → Bool) : ImsRequest Z → Prop
  | .kickOutFromConference slotId _ => isValidSlotId slotId = true
  | .updateImsCapabilities _ imsCapabilities => (imsCapabilities.length : Int) ≤ maxSize
  | .getImsFeatureValue _ _ | .controlCamera _ _ _ | .setPreviewWindow _ _ _ _
  | .setDisplayWindow _ _ _ _ | .setPausePicture _ _ _ | .setDeviceDirection _ _ _
  | .setClip _ _ _ | .getClip _ _ | .setClir _ _ _ | .getClir _ _ | .setCallTransfer _ _ _ _
  | .getCallTransfer _ _ _ | .setCallRestriction _ _ _ _ _ | .getCallRestriction _ _ _
  | .setCallWaiting _ _ _ _ | .getCallWaiting _ _ | .setColr _ _ _ | .getColr _ _
  | .setColp _ _ _ | .getColp _ _ => False
  | _ => True

open ImsCallStub

variable {isValidSlotId : Int → Bool}

/-- A request is what its handler reads, and then what the proxy makes of the
reply. -/
theorem transact_eq_bind {server : ImsServer} {m : ImsRequest Z} {code : ImsCallInterfaceCode}
    {func : Reader (Served ImsCall)} {p : Parcel}
    (hsend : ImsCallProxy.send m = some (code, .token ImsCallProxy.descriptor :: p))
    (hfunc : memberFuncMap Z isValidSlotId server code = some func) :
    transact isValidSlotId server m = ((func p).map Prod.fst).bind fun served =>
      (ImsCallProxy.sendRequest m served).map fun ret => ⟨served.calls, ret, m.value⟩ := by
  unfold transact
  rw [hsend]
  show (serve ImsCallProxy.descriptor (memberFuncMap Z isValidSlotId server)
    (code, .token ImsCallProxy.descriptor :: p)).bind _ = _
  rw [serve_cons ImsCallProxy.descriptor (memberFuncMap Z isValidSlotId server) hfunc p]
  congr 1
  funext served
  rw [Option.map_eq_bind]
  rfl

/-- What comes of a request whose parcel the handler of its code does not read
astray. -/
theorem transact_of_eq {server : ImsServer} {m : ImsRequest Z} {code : ImsCallInterfaceCode}
    {func : Reader (Served ImsCall)} {p rest : Parcel} {served : Served ImsCall}
    (hsend : ImsCallProxy.send m = some (code, .token ImsCallProxy.descriptor :: p))
    (hfunc : memberFuncMap Z isValidSlotId server code = some func)
    (hread : func p = some (served, rest)) :
    transact isValidSlotId server m =
      (ImsCallProxy.sendRequest m served).map fun ret => ⟨served.calls, ret, m.value⟩ := by
  rw [transact_eq_bind hsend hfunc, hread]
  rfl

/-- Nothing comes of a request that is read astray. -/
theorem transact_of_none {server : ImsServer} {m : ImsRequest Z} {code : ImsCallInterfaceCode}
    {func : Reader (Served ImsCall)} {p : Parcel}
    (hsend : ImsCallProxy.send m = some (code, .token ImsCallProxy.descriptor :: p))
    (hfunc : memberFuncMap Z isValidSlotId server code = some func) (hread : func p = none) :
    transact isValidSlotId server m = none := by
  rw [transact_eq_bind hsend hfunc, hread]
  rfl

/-- The proxy returns the result of a call that was made. -/
theorem sendRequest_call {m : ImsRequest Z} (hreply : ImsCallProxy.readReply m = Reader.int32)
    (service : ImsCall → Int) (call : ImsCall) :
    ImsCallProxy.sendRequest m (.call service call) = some (.value (service call)) := by
  have hsuccess : (Served.call service call).ret = .success := rfl
  rw [ImsCallProxy.sendRequest, if_pos hsuccess, hreply]
  rfl

/-- A request is answered if its handler makes its call. -/
theorem answered_of_calls {m : ImsRequest Z} {code : ImsCallInterfaceCode} {p : Parcel}
    (hsend : ImsCallProxy.send m = some (code, .token ImsCallProxy.descriptor :: p))
    (hreply : ImsCallProxy.readReply m = Reader.int32) (hvalue : m.value = none)
    (hcall : ∀ server, ∃ func rest, memberFuncMap Z isValidSlotId server code = some func ∧
      func p = some (.call server.result m.call, rest)) :
    Answered isValidSlotId m := by
  intro server message _
  obtain ⟨func, rest, hfunc, hread⟩ := hcall server
  rw [transact_of_eq hsend hfunc hread, sendRequest_call hreply]
  unfold expected
  rw [hvalue]
  rfl

/-- A request is not answered if its handler makes another call. -/
theorem not_answered_of_calls {m : ImsRequest Z} {code : ImsCallInterfaceCode} {p : Parcel}
    (server : ImsServer) {func : Reader (Served ImsCall)} {served : Served ImsCall}
    {rest : Parcel}
    (hsend : ImsCallProxy.send m = some (code, .token ImsCallProxy.descriptor :: p))
    (hfunc : memberFuncMap Z isValidSlotId server code = some func)
    (hread : func p = some (served, rest)) (hcalls : served.calls ≠ [m.call]) :
    ¬Answered isValidSlotId m := by
  intro hanswered
  have hsame := hanswered server _ hsend
  rw [transact_of_eq hsend hfunc hread] at hsame
  obtain ⟨ret, -, houtcome⟩ := Option.map_eq_some_iff.mp hsame
  exact hcalls (congrArg ImsOutcome.calls houtcome)

/-- A request is not answered if it is read astray. -/
theorem not_answered_of_none {m : ImsRequest Z} {code : ImsCallInterfaceCode} {p : Parcel}
    (server : ImsServer) {func : Reader (Served ImsCall)}
    (hsend : ImsCallProxy.send m = some (code, .token ImsCallProxy.descriptor :: p))
    (hfunc : memberFuncMap Z isValidSlotId server code = some func) (hread : func p = none) :
    ¬Answered isValidSlotId m := by
  intro hanswered
  have hsame := hanswered server _ hsend
  rw [transact_of_none hsend hfunc hread] at hsame
  cases hsame

/-- What a handler makes of the arguments a request was written with. -/
theorem onCall_eq (server : ImsServer) (operation : ImsOperation) (kinds : List Kind)
    (p : Parcel) :
    onCall server operation kinds p =
      if kinds = (p.take kinds.length).map Item.kind then
        some (.call server.result ⟨operation, p.take kinds.length⟩, p.drop kinds.length)
      else none := by
  show (Reader.items kinds p).bind _ = _
  rw [Reader.items_eq]
  split
  · rfl
  · rfl

/-- A request whose parcel holds its arguments is answered exactly if its handler
reads just these and calls the operation of its name. -/
theorem answered_onCall_iff {m : ImsRequest Z} {code : ImsCallInterfaceCode}
    {operation : ImsOperation} {kinds : List Kind}
    (hsend : ImsCallProxy.send m = some (code, .token ImsCallProxy.descriptor :: m.call.args))
    (hfunc : ∀ server, memberFuncMap Z isValidSlotId server code =
      some (onCall server operation kinds))
    (hreply : ImsCallProxy.readReply m = Reader.int32) (hvalue : m.value = none) :
    Answered isValidSlotId m ↔
      operation = m.call.operation ∧ kinds = m.call.args.map Item.kind := by
  have hread := fun server : ImsServer => onCall_eq server operation kinds m.call.args
  constructor
  · intro hanswered
    by_cases hkinds : kinds = (m.call.args.take kinds.length).map Item.kind
    · by_cases hcall : (⟨operation, m.call.args.take kinds.length⟩ : ImsCall) = m.call
      · have hargs : m.call.args.take kinds.length = m.call.args := congrArg ImsCall.args hcall
        rw [hargs] at hkinds
        exact ⟨congrArg ImsCall.operation hcall, hkinds⟩
      · refine absurd hanswered (not_answered_of_calls default hsend (hfunc default)
          ((hread default).trans (if_pos hkinds)) ?_)
        intro hcalls
        exact hcall (List.head_eq_of_cons_eq hcalls)
    · exact absurd hanswered (not_answered_of_none default hsend (hfunc default)
        ((hread default).trans (if_neg hkinds)))
  · intro h
    obtain ⟨hoperation, hkinds⟩ := h
    apply answered_of_calls hsend hreply hvalue
    intro server
    have hlength : kinds.length = m.call.args.length := by rw [hkinds, List.length_map]
    have htake : m.call.args.take kinds.length = m.call.args := by
      rw [hlength, List.take_length]
    refine ⟨_, m.call.args.drop kinds.length, hfunc server, ?_⟩
    rw [hread server, htake, if_pos hkinds, hoperation]

/-- A request that is sent with an `ImsCallInfo` is answered. -/
theorem answered_onCallInfo {m : ImsRequest Z} {code : ImsCallInterfaceCode}
    {operation : ImsOperation} (callInfo : Block Z.imsCallInfo) (args : Parcel)
    (hsend : ImsCallProxy.send m =
      some (code, .token ImsCallProxy.descriptor :: callInfo.item :: args))
    (hfunc : ∀ server, memberFuncMap Z isValidSlotId server code =
      some (onCallInfo Z server operation (args.map Item.kind)))
    (hcall : m.call = ⟨operation, callInfo.item :: args⟩)
    (hreply : ImsCallProxy.readReply m = Reader.int32) (hvalue : m.value = none) :
    Answered isValidSlotId m := by
  apply answered_of_calls hsend hreply hvalue
  intro server
  refine ⟨_, [], hfunc server, ?_⟩
  have hargs : onCallInfo Z server operation (args.map Item.kind) (callInfo.item :: args) =
      ((Reader.items (args.map Item.kind)) >>= fun args => pure (.call server.result
        ⟨operation, callInfo.item :: args⟩) : Reader (Served ImsCall)) args :=
    (Yields.block callInfo).run_bind _ args
  have hitems : Reader.items (args.map Item.kind) args = some (args, []) := by
    rw [Reader.items_eq, List.length_map, List.take_length, if_pos rfl, List.drop_length]
  rw [hargs, Reader.bind_of_eq hitems, hcall]
  rfl

/-- A participant is taken out of a conference on a valid slot only. -/
theorem answered_kickOut_iff (slotId index : Int) :
    Answered isValidSlotId (.kickOutFromConference slotId index : ImsRequest Z) ↔
      isValidSlotId slotId = true := by
  have hread : ∀ server : ImsServer,
      onKickOutFromConference isValidSlotId server [.int32 slotId, .int32 index] =
        if isValidSlotId slotId = false then
          some (⟨.errSlotIdInvalid, [.int32 (server.errorCode .errFail)], []⟩, [])
        else some (.call server.result
          ⟨.kickOutFromConference, [.int32 slotId, .int32 index]⟩, []) := by
    intro server
    show (if isValidSlotId slotId = false then
        (pure ⟨.errSlotIdInvalid, [.int32 (server.errorCode .errFail)], []⟩ :
          Reader (Served ImsCall))
      else pure (.call server.result
        ⟨.kickOutFromConference, [.int32 slotId, .int32 index]⟩)) [] = _
    split
    · rfl
    · rfl
  cases hvalid : isValidSlotId slotId with
  | true =>
    refine iff_of_true (answered_of_calls rfl rfl rfl ?_) rfl
    intro server
    have hcall := hread server
    rw [hvalid, if_neg Bool.noConfusion] at hcall
    exact ⟨_, [], rfl, hcall⟩
  | false =>
    refine iff_of_false ?_ Bool.noConfusion
    have hrefused := hread default
    rw [hvalid, if_pos rfl] at hrefused
    exact not_answered_of_calls default rfl rfl hrefused (List.cons_ne_nil _ _).symm

/-- The value of a feature is asked of the service but does not come back. -/
theorem not_answered_getImsFeatureValue (type value : Int) :
    ¬Answered isValidSlotId (.getImsFeatureValue type value : ImsRequest Z) := by
  intro hanswered
  -- A service whose value is not the one the reference argument holds already.
  have hsame := hanswered { (default : ImsServer) with featureValue := fun _ => value + 1 } _ rfl
  have hvalue := congrArg ImsOutcome.value (Option.some.inj hsame)
  have hshifted : value = value + 1 := Option.some.inj hvalue
  omega

theorem readImsCapability_yields (c : ImsCapability) :
    Yields readImsCapability (ImsCallProxy.writeImsCapability c) c := fun _ => rfl

theorem length_flatMap_writeImsCapability (cs : List ImsCapability) :
    (cs.flatMap ImsCallProxy.writeImsCapability).length = 3 * cs.length := by
  induction cs with
  | nil => rfl
  | cons c cs ih =>
    rw [List.flatMap_cons, List.length_append, List.length_cons, ih]
    have hentry : (ImsCallProxy.writeImsCapability c).length = 3 := rfl
    omega

theorem onUpdateImsCapabilities_list (server : ImsServer) (slotId : Int) (p : Parcel) :
    onUpdateImsCapabilities server (.int32 slotId :: p) =
      listInner readImsCapability (fun imsCapabilities =>
        .call server.result ⟨.updateImsCapabilities,
          .int32 slotId :: imsCapabilities.flatMap ImsCallProxy.writeImsCapability⟩) p := rfl

/-- What becomes of capabilities: a length that passes the check lets as many in,
any other refuses them all. -/
theorem onUpdateImsCapabilities_written (server : ImsServer) (slotId : Int)
    (cs : List ImsCapability) :
    (onUpdateImsCapabilities server (.int32 slotId :: .int32 (int32Size cs.length) ::
        cs.flatMap ImsCallProxy.writeImsCapability)).map Prod.fst =
      some (if Readable cs.length then
          .call server.result ⟨.updateImsCapabilities, .int32 slotId ::
            (cs.take (int32Size cs.length).toNat).flatMap ImsCallProxy.writeImsCapability⟩
        else .refused .errFail) := by
  rw [onUpdateImsCapabilities_list, listInner_written readImsCapability_yields]

/-- Capabilities arrive if there are few of them. -/
theorem answered_updateImsCapabilities_iff (slotId : Int) (cs : List ImsCapability) :
    Answered isValidSlotId (.updateImsCapabilities slotId cs : ImsRequest Z) ↔
      (cs.length : Int) ≤ maxSize := by
  have hwritten := fun server => onUpdateImsCapabilities_written server slotId cs
  by_cases hread : Readable cs.length
  · by_cases hle : (cs.length : Int) ≤ maxSize
    · refine iff_of_true (answered_of_calls rfl rfl rfl ?_) hle
      intro server
      have hcall := hwritten server
      rw [if_pos hread, (take_int32Size_eq_iff hread).mpr hle] at hcall
      obtain ⟨⟨served, rest⟩, hfunc, hserved⟩ := Option.map_eq_some_iff.mp hcall
      have hsame : served = .call server.result
        (ImsRequest.updateImsCapabilities (Z := Z) slotId cs).call := hserved
      rw [hsame] at hfunc
      exact ⟨_, rest, rfl, hfunc⟩
    · refine iff_of_false ?_ hle
      have hcall := hwritten default
      rw [if_pos hread] at hcall
      obtain ⟨⟨served, rest⟩, hfunc, hserved⟩ := Option.map_eq_some_iff.mp hcall
      refine not_answered_of_calls default rfl rfl hfunc ?_
      intro hcalls
      have hsame : served = _ := hserved
      rw [hsame] at hcalls
      have hargs := congrArg ImsCall.args (List.head_eq_of_cons_eq hcalls)
      have htail := congrArg List.length (List.tail_eq_of_cons_eq hargs)
      rw [length_flatMap_writeImsCapability, length_flatMap_writeImsCapability,
        List.length_take] at htail
      unfold Readable at hread
      omega
  · have hle : ¬(cs.length : Int) ≤ maxSize := fun hle => hread (readable_of_le hle)
    refine iff_of_false ?_ hle
    have hrefused := hwritten default
    rw [if_neg hread] at hrefused
    obtain ⟨⟨served, rest⟩, hfunc, hserved⟩ := Option.map_eq_some_iff.mp hrefused
    refine not_answered_of_calls default rfl rfl hfunc ?_
    have hsame : served = _ := hserved
    rw [hsame]
    exact (List.cons_ne_nil _ _).symm

/-- A request is answered exactly if reader and writer agree. -/
theorem answered_iff (isValidSlotId : Int → Bool) (m : ImsRequest Z)
    (hshared : m.Shared isValidSlotId) : m.Answered isValidSlotId ↔ m.Agreed isValidSlotId := by
  cases m with
  | dial callInfo mode | rejectWithReason callInfo mode =>
    exact iff_of_true (answered_onCallInfo callInfo [.int32 mode] rfl (fun _ => rfl) rfl rfl rfl)
      trivial
  | hangUp callInfo | answer callInfo =>
    exact iff_of_true (answered_onCallInfo callInfo [] rfl (fun _ => rfl) rfl rfl rfl) trivial
  | kickOutFromConference slotId index => exact answered_kickOut_iff slotId index
  | getImsFeatureValue type value =>
    exact iff_of_false (not_answered_getImsFeatureValue type value) id
  | updateImsCapabilities slotId imsCapabilities =>
    exact answered_updateImsCapabilities_iff slotId imsCapabilities
  | registerImsCallCallback callback =>
    cases callback with
    | none => exact iff_of_true (fun _ _ hsend => by cases hsend) trivial
    | some callback =>
      exact (answered_onCall_iff rfl (fun _ => rfl) rfl rfl).trans (iff_of_true ⟨rfl, rfl⟩ trivial)
  | holdCall slotId callType isRTT | unHoldCall slotId callType isRTT
  | switchCall slotId callType isRTT | combineConference slotId
  | inviteToConference slotId numberList | getImsCallsDataRequest slotId lastCallsDataFlag
  | getLastCallFailReason slotId | startDtmf slotId cDtmfCode index
  | sendDtmf slotId cDtmfCode index | stopDtmf slotId index
  | updateImsRttCallMode slotId callId mode | setDomainPreferenceMode slotId mode
  | getDomainPreferenceMode slotId | setImsSwitchStatus slotId active
  | getImsSwitchStatus slotId | setImsConfigString item value | setImsConfigInt item value
  | getImsConfig item | setImsFeatureValue type value | setMute slotId mute | getMute slotId
  | setCameraZoom zoomRatio =>
    exact (answered_onCall_iff rfl (fun _ => rfl) rfl rfl).trans (iff_of_true ⟨rfl, rfl⟩ trivial)
  | setDeviceDirection slotId callIndex rotation | setPausePicture slotId callIndex path
  | setClip slotId action index | getClip slotId index | setClir slotId action index
  | getClir slotId index | setCallTransfer slotId cfInfo classType index
  | getCallTransfer slotId reason index | setCallRestriction slotId fac mode pw index
  | getCallRestriction slotId fac index | setCallWaiting slotId activate classType index
  | getCallWaiting slotId index | setColr slotId presentation index | getColr slotId index
  | setColp slotId action index | getColp slotId index =>
    refine (answered_onCall_iff rfl (fun _ => rfl) rfl rfl).trans (iff_of_false ?_ id)
    intro h
    obtain ⟨-, hkinds⟩ := h
    cases hkinds
  | setPreviewWindow slotId callIndex surfaceID surface
  | setDisplayWindow slotId callIndex surfaceID surface =>
    refine (answered_onCall_iff rfl (fun _ => rfl) rfl rfl).trans (iff_of_false ?_ id)
    intro h
    obtain ⟨-, hkinds⟩ := h
    cases surface with
    | none => cases hkinds
    | some producer => cases hkinds
  | controlCamera slotId callIndex cameraId =>
    exact iff_of_false (not_answered_of_none default rfl rfl rfl) id
  | sendUpdateCallMediaModeRequest callInfo callType
  | sendUpdateCallMediaModeResponse callInfo callType | cancelCallUpgrade slotId callIndex
  | requestCameraCapabilities slotId callIndex | setCarrierVtConfig slotId active
  | canSetCallTransferTime slotId result | setVideoCallWaiting slotId activate
  | getUtImpuFromNetwork slotId impu | notifyOperatorConfigChanged slotId state
  | getImsCapabilities slotId => exact absurd rfl (hshared default _ rfl)

/-- A request to hold the call of a slot is answered. -/
theorem answered_holdCall :
    (holdCall 0 0 false : ImsRequest ⟨16, 8, 8, 12, 8, 12, 16, 12, 272, 304⟩).Answered
      (fun slotId => slotId == 0) := by
  refine (answered_iff _ _ ?_).mpr trivial
  intro server message hsend
  cases hsend
  exact Option.some_ne_none _

/-- A request to switch the calling line presentation on asks for its state
instead. -/
theorem not_answered :
    ¬∀ (Z : RawSizes) (isValidSlotId : Int → Bool) (m : ImsRequest Z),
      m.Shared isValidSlotId → m.Answered isValidSlotId := by
  intro hclaim
  have hanswered := hclaim ⟨16, 8, 8, 12, 8, 12, 16, 12, 272, 304⟩ (fun slotId => slotId == 0)
    (.setClip 0 1 7) (fun server message hsend => by cases hsend; exact Option.some_ne_none _)
  have hsame := hanswered default _ rfl
  cases congrArg ImsOutcome.calls (Option.some.inj hsame)

end ImsRequest

end CellularCall
