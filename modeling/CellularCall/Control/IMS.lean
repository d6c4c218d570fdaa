import CellularCall.Control.CS

/-!
# `IMSControl`

The control of the IMS calls.  Beyond the call table it holds the flag of a
silent CS redial and the emergency call that waits for the radio.

A dial that finds an active call is kept in that call's connection
(`setHoldToDialInfo`) while the call is switched to hold, and is sent from
there by `dialAfterHold` when the switch is answered.

A timer armed by `savePendingEmcCallInfo` holds a weak reference to its
control, so the armed timers are part of the control and end with it.
`waitForRadioOn` is the handle of the last one, the only one that can be
skipped.

`ImsService` is what the IMS service answers to the requests of one step.
-/

namespace CellularCall

open Lib CallTable

/-- The answers of the IMS service during one step. -/
structure ImsService where
  needCallImsService : Bool
  switchCall : RetCode
  dial : RetCode
  hangUp : RetCode
  answer : RetCode
  reject : RetCode
deriving DecidableEq, Repr

/-- A request to switch calls is sent and accepted. -/
def ImsService.acceptsSwitch (service : ImsService) : Bool :=
  service.needCallImsService && decide (service.switchCall = .success)

/-- What an IMS dial asks of the network, the emergency number list and the IMS
service. -/
structure ImsDialEnv where
  inService : Bool
  mmi : MmiOutcome
  isEmergency : Bool
  service : ImsService
deriving DecidableEq, Repr

/-- A service that accepts everything, for concrete runs. -/
def ImsService.plain : ImsService := ⟨true, .success, .success, .success, .success, .success⟩

/-- A dial of a plain number in service. -/
def ImsDialEnv.plain (service : ImsService) : ImsDialEnv := ⟨true, .plain, false, service⟩

/-- `IMSControl`. -/
structure IMSControl extends CallTable ImsPart where
  isSilentCsRedial : Bool
  pendingEmcDialCallInfo : CellularCallInfo
  isPendingEmc : Bool
  waitForRadioOn : Option Nat
  timers : List Nat
  nextTimer : Nat
deriving DecidableEq

/-- The code of a `VideoStateType`. -/
def VideoStateType.code : VideoStateType → Int
  | .voice => 0
  | .sendOnly => 1
  | .receiveOnly => 2
  | .video => 3

namespace CellularCallConnectionIMS

/-- `SetHoldToDialInfo`. -/
def setHoldToDialInfo (c : CellularCallConnectionIMS) (holdToDialNum : Str)
    (holdToDialClirMode : CLIRMode) (holdToDialVideoState : Int) (isEmergency : Bool) :
    CellularCallConnectionIMS :=
  { c with own := { c.own with holdToDialInfo := { c.own.holdToDialInfo with
      phoneNum := holdToDialNum
      clirMode := holdToDialClirMode
      videoState := holdToDialVideoState
      bEmergencyCall := isEmergency } } }

def setDialFlag (c : CellularCallConnectionIMS) (isNeedToDial : Bool) :
    CellularCallConnectionIMS :=
  { c with own := { c.own with isNeedToDial := isNeedToDial } }

def isNeedToDial (c : CellularCallConnectionIMS) : Bool := c.own.isNeedToDial

def setHangupFlag (c : CellularCallConnectionIMS) (isPendingHangup : Bool) :
    CellularCallConnectionIMS :=
  { c with own := { c.own with isPendingHangup := isPendingHangup } }

def isPendingHangup (c : CellularCallConnectionIMS) : Bool := c.own.isPendingHangup

def isPendingHold (c : CellularCallConnectionIMS) : Bool := c.callReportInfo.isPendingHold

end CellularCallConnectionIMS

namespace IMSControl

open CellularCallConnectionIMS

/-- The members of a new control. -/
def fresh : IMSControl where
  connectionMap := ∅
  pendingPhoneNumber := []
  isIgnoredIncomingCall := false
  isSilentCsRedial := false
  pendingEmcDialCallInfo := .zeroed
  isPendingEmc := false
  waitForRadioOn := none
  timers := []
  nextTimer := 0

/-- `GetCallMode`. -/
def getCallMode : ImsCallType → VideoStateType
  | .voice => .voice
  | .vtTx => .sendOnly
  | .vtRx => .receiveOnly
  | .vt => .video
  | .other _ => .voice

/-- `EncapsulationCallReportInfo`: a number that does not fit leaves the record
zeroed but for the name. -/
def encapsulationCallReportInfo (P : Platform) (slotId : Int) (callInfo : ImsCurrentCall) :
    CallReportInfo :=
  let name := if callInfo.number = [] then [] else callInfo.name
  let newString := formatNumberAndToa callInfo.number callInfo.toa
  if (cStr newString).length + 1 > P.kMaxNumberLen + 1 then
    { CallReportInfo.zeroed with name := name }
  else
    { CallReportInfo.zeroed with
      name := name
      accountNum := cStr newString
      index := callInfo.index
      accountId := slotId
      state := callInfo.state
      voiceDomain := callInfo.voiceDomain
      callType := .ims
      callMode := getCallMode callInfo.callType
      mpty := callInfo.mpty
      crsType := callInfo.toneType
      originalCallType := callInfo.callInitialType
      namePresentation := callInfo.namePresentation
      newCallUseBox := callInfo.newCallUseBox
      rttState := callInfo.rttState
      rttChannelId := callInfo.rttChannelId
      imsDomain := callInfo.imsDomain }

/-- The IMS domain: the end of a call is reported with reason and message. -/
def domain : ReasonDomain ImsCurrentCall ImsPart where
  callType := .ims
  fresh := .fresh
  index := ImsCurrentCall.index
  number := ImsCurrentCall.number
  state := ImsCurrentCall.state
  encapsulationCallReportInfo := encapsulationCallReportInfo
  incomingWhenAlone := true
  connectedOut := true
  updateClearsIgnored := true
  ended := fun own info =>
    { info with reason := own.disconnectReason, message := own.disconnectMessage }
  disconnectReason := ImsPart.disconnectReason
  setDisconnectReason := fun reason message own =>
    { own with disconnectReason := reason, disconnectMessage := message }

/-! ## Call lists -/

def reportIncomingInfo (P : Platform) (registered : Bool) (slotId : Int) (t : IMSControl)
    (L : ImsCurrentCallList) : IMSControl × List Output :=
  let (table, outputs) :=
    CallTable.reportIncomingInfo domain.toCallDomain P registered slotId t.toCallTable L
  ({ t with toCallTable := table }, outputs)

/-- `ReportUpdateInfo`: the update after an ignored incoming call is dropped,
and the ones after it are reported again. -/
def reportUpdateInfo (P : Platform) (slotId : Int) (t : IMSControl) (L : ImsCurrentCallList) :
    IMSControl × List Output :=
  let (table, outputs) :=
    CallTable.reportUpdateInfo domain.toCallDomain P slotId t.toCallTable L
  ({ t with toCallTable := table }, outputs)

/-- `ReportHangUpInfo`: the report is dropped, once, for an ignored incoming
call and during a silent CS redial.  Where it is not dropped, neither flag was
set. -/
def reportHangUpInfo (P : Platform) (slotId : Int) (t : IMSControl) : IMSControl × List Output :=
  let (table, outputs) :=
    CallTable.reportHangUpInfo domain.toCallDomain P slotId t.isSilentCsRedial t.toCallTable
  ({ t with toCallTable := table, isSilentCsRedial := false }, outputs)

def hasEndCallWithoutReason (t : IMSControl) (L : ImsCurrentCallList) : Bool :=
  CallTable.hasEndCallWithoutReason domain t.connectionMap L

/-- `ReportImsCallsData`. -/
def reportImsCallsData (P : Platform) (registered : Bool) (slotId : Int) (t : IMSControl)
    (L : ImsCurrentCallList) (isNeedQuery : Bool) : IMSControl × List Output :=
  if L.callSize ≤ 0 then
    if isNeedQuery then (t, [.getCallFailReason .ims])
    else reportHangUpInfo P slotId t
  else if t.connectionMap.isEmpty then reportIncomingInfo P registered slotId t L
  else if isNeedQuery then (t, [.getCallFailReason .ims])
  else reportUpdateInfo P slotId t L

def setSilentCsRedialFlag (t : IMSControl) (isSilentCsRedial : Bool) : IMSControl :=
  { t with isSilentCsRedial := isSilentCsRedial }

def updateDisconnectedReason (t : IMSControl) (L : ImsCurrentCallList)
    (reason : RilDisconnectedReason) (message : Str) : IMSControl :=
  { t with
    connectionMap := CallTable.updateDisconnectedReason domain t.connectionMap L reason message }

/-- The entry `ReportHangUp` sends for a call the call manager names.  The mode
is video because the call type is not 0. -/
def hangUpEntry (P : Platform) (info : CellularCallInfo) : CallReportInfo :=
  { P.defaultCallReportInfo with
    accountNum := cStr (info.phoneNum.take P.kMaxNumberLen)
    index := info.index
    accountId := info.slotId
    callType := .ims
    callMode := .video
    state := .disconnected }

/-- `ReportHangUp` reports the named calls of this slot ended.  It releases
nothing: `RestoreConnection` and the requests to the IMS service follow. -/
def reportHangUp (P : Platform) (slotId : Int) (infos : List CellularCallInfo) : List Output :=
  let callVec := (infos.filter fun info => info.callType == .ims && info.slotId == slotId).map
    (hangUpEntry P)
  [.reportCallsInfo .ims ⟨slotId, callVec⟩]

/-- `RestoreConnection`: a connection for each named call of this slot. -/
def restoreConnection (slotId : Int) (t : IMSControl) (infos : List CellularCallInfo) :
    IMSControl :=
  let named := infos.filter fun info => info.callType == .ims && info.slotId == slotId
  let m := named.foldl (fun m info =>
    m.insertNew info.index (((Connection.fresh ImsPart.fresh).setIndex info.index).setNumber
      (cStr info.phoneNum))) t.connectionMap
  { t with connectionMap := m }

/-! ## Requests to the IMS service -/

/-- A request that carries a number: it is refused without an IMS service, or
when the number does not fit. -/
def numberedRequest (service : ImsService) (phoneNum : Str) (ret : RetCode) (request : Output) :
    RetCode × List Output :=
  if service.needCallImsService = false then (.error, [])
  else if phoneNum.length + 1 > kMaxNumberLength then (.errStrcpyFail, [])
  else (ret, [request])

def hangUpRequest (service : ImsService) (phoneNum : Str) (index : Int) : RetCode × List Output :=
  numberedRequest service phoneNum service.hangUp (.imsHangUpRequest phoneNum index)

def answerRequest (service : ImsService) (phoneNum : Str) (videoState index : Int) (isRTT : Bool) :
    RetCode × List Output :=
  numberedRequest service phoneNum service.answer
    (.imsAnswerRequest phoneNum videoState index isRTT)

def rejectRequest (service : ImsService) (phoneNum : Str) (index : Int) : RetCode × List Output :=
  numberedRequest service phoneNum service.reject (.imsRejectRequest phoneNum index)

/-- `DialRequest`. -/
def dialRequest (service : ImsService) (request : ImsDialInfoStruct) : RetCode × List Output :=
  let phoneNumber := (extractAddressAndPostDial request.phoneNum).1
  let ret :=
    if (cStr phoneNumber).length + 1 > kMaxNumberLength then .errStrcpyFail else service.dial
  (ret, [.imsDialRequest request ret])

/-- `SwitchCallRequest` on the connection under `key`: it becomes pending hold
when the service accepts. -/
def switchCallRequest (service : ImsService) (m : ConnectionMap ImsPart) (key : Int)
    (videoState : Int) : RetCode × ConnectionMap ImsPart × List Output :=
  if service.needCallImsService then
    (service.switchCall,
      if service.switchCall = .success then
        m.modify key (fun c => c.updatePendingHoldFlag true)
      else m,
      [.imsSwitchCall videoState service.switchCall])
  else (.error, m, [])

/-! ## Dialling -/

/-- `EncapsulateDial`. -/
def encapsulateDial (env : ImsDialEnv) (phoneNum : Str) (clirMode : CLIRMode) (videoState : Int)
    (isRTT : Bool) : RetCode × List Output :=
  dialRequest env.service ⟨⟨phoneNum, clirMode⟩, videoState, env.isEmergency, isRTT⟩

/-- The connection `DialJudgment` puts on hold: the first that is active and not
being hung up. -/
def dialTarget (m : ConnectionMap ImsPart) : Option (Int × CellularCallConnectionIMS) :=
  m.first? (fun c => decide (c.getStatus = .active) && !isPendingHangup c)

/-- `DialJudgment`. -/
def dialJudgment (env : ImsDialEnv) (t : IMSControl) (phoneNum : Str) (clirMode : CLIRMode)
    (videoState : Int) (isRTT : Bool) : RetCode × IMSControl × List Output :=
  if canCall t.connectionMap = false then (.callCountsExceedLimit, t, [])
  else
    let t := { t with pendingPhoneNumber := phoneNum }
    match dialTarget t.connectionMap with
    | some (key, _) =>
      let m := t.connectionMap.modify key fun c =>
        setDialFlag (setHoldToDialInfo c phoneNum clirMode videoState env.isEmergency) true
      let (ret, m, outputs) := switchCallRequest env.service m key videoState
      (ret, { t with connectionMap := m }, outputs)
    | none =>
      let (ret, outputs) := encapsulateDial env phoneNum clirMode videoState isRTT
      (ret, t, outputs)

/-- `SavePendingEmcCallInfo`: the call is copied, and a timer of its own is
armed for it.  The handle of an earlier timer is overwritten. -/
def savePendingEmcCallInfo (P : Platform) (t : IMSControl) (callInfo : CellularCallInfo) :
    RetCode × IMSControl × List Output :=
  (.success,
    { t with
      pendingEmcDialCallInfo :=
        { t.pendingEmcDialCallInfo with
          callId := callInfo.callId
          slotId := callInfo.slotId
          accountId := callInfo.accountId
          callType := callInfo.callType
          videoState := callInfo.videoState
          index := callInfo.index
          phoneNum := callInfo.phoneNum.take P.kMaxNumberLen }
      isPendingEmc := true
      waitForRadioOn := some t.nextTimer
      timers := t.timers ++ [t.nextTimer]
      nextTimer := t.nextTimer + 1 },
    [.waitForRadioOn t.nextTimer])

/-- A `sip` URI loses its separators. -/
def standardizedNumber (phoneNum : Str) : Str :=
  if phoneNum.contains '@' || phoneNum.tails.any (['%', '4', '0'].isPrefixOf ·) then
    removeSeparatorsPhoneNumber phoneNum
  else phoneNum

/-- `Dial`: an emergency call that finds the radio off is kept until it is on. -/
def dial (P : Platform) (env : ImsDialEnv) (isRadioOn : Bool) (t : IMSControl)
    (callInfo : CellularCallInfo) (isEcc : Bool) : RetCode × IMSControl × List Output :=
  let ret := dialPreJudgment isRadioOn callInfo
  if ret = .getRadioStateFailed ∧ isEcc = true then savePendingEmcCallInfo P t callInfo
  else if ret ≠ .success then (ret, t, [])
  else if !(env.inService || isEcc) then (.errNetworkNotInService, t, [])
  else
    match env.mmi.apply (standardizedNumber (cStr callInfo.phoneNum)) with
    | none => (.typeMmi, t, [])
    | some (newPhoneNum, clirMode) =>
      dialJudgment env t newPhoneNum clirMode callInfo.videoState callInfo.isRTT

/-! ## Switching, answering and hanging up -/

/-- `HangUp`. -/
def hangUp (service : ImsService) (t : IMSControl) (callInfo : CellularCallInfo)
    (type : CallSupplementType) : RetCode × IMSControl × List Output :=
  match type with
  | .default =>
    match findConnectionByIndex t.connectionMap callInfo.index with
    | none => (.callConnectionNotExist, t, [])
    | some (key, connection) =>
      let m := t.connectionMap.modify key fun c =>
        setReason domain .userTerminated [] (setHangupFlag c true)
      let (ret, outputs) := hangUpRequest service (cStr callInfo.phoneNum) callInfo.index
      (ret, { t with connectionMap := m },
        .reportSingleCallInfo .ims { connection.callReportInfo with state := .disconnecting } ::
          outputs)
  | .hangUpHoldWait | .hangUpActive =>
    let m := updateCallDisconnectReason domain t.connectionMap callInfo.callId .userTerminated []
    (.success, { t with connectionMap := m }, [.callSupplement type])
  | .hangUpAll =>
    let m := t.connectionMap.mapValues (setReason domain .userTerminated [])
    let (ret, outputs) := rejectRequest service (cStr callInfo.phoneNum) callInfo.index
    (ret, { t with connectionMap := m }, outputs)
  | .other _ => (.errArgumentInvalid, t, [])

/-- The loop of `CheckAndHangupHoldingCall`: it stops at the first request that
fails. -/
def hangUpEach (service : ImsService) : List CellularCallConnectionIMS → RetCode × List Output
  | [] => (.success, [])
  | c :: cs =>
    let (ret, outputs) :=
      hangUpRequest service c.callReportInfo.accountNum c.callReportInfo.index
    if ret ≠ .success then (ret, outputs)
    else
      let (ret, rest) := hangUpEach service cs
      (ret, outputs ++ rest)

/-- `CheckAndHangupHoldingCall`. -/
def checkAndHangupHoldingCall (service : ImsService) (m : ConnectionMap ImsPart) :
    RetCode × List Output :=
  hangUpEach service (m.values.filter fun c => c.getStatus == .holding)

/-- The first step of `Answer`: with a call on hold beside the active one, the
one on hold is hung up. -/
def makeRoom (service : ImsService) (m : ConnectionMap ImsPart) : RetCode × List Output :=
  if isInState m .holding && isInState m .active then checkAndHangupHoldingCall service m
  else (.success, [])

/-- The connection `Answer` switches to hold: the first active one, unless it is
pending hold already, for a call that is waiting. -/
def answerTarget (m : ConnectionMap ImsPart) (connection : CellularCallConnectionIMS) :
    Option (Int × CellularCallConnectionIMS) :=
  match findConnectionByState m .active with
  | some (key, con) =>
    if isPendingHold con = false ∧ connection.getStatus = .waiting then some (key, con) else none
  | none => none

/-- `Answer`: a waiting call is answered by switching the active one to hold. -/
def answer (service : ImsService) (t : IMSControl) (callInfo : CellularCallInfo) :
    RetCode × IMSControl × List Output :=
  match findConnectionByIndex t.connectionMap callInfo.index with
  | none => (.callConnectionNotExist, t, [])
  | some (_, connection) =>
    let (ret, hungUp) := makeRoom service t.connectionMap
    if ret ≠ .success then (ret, t, hungUp)
    else
      match answerTarget t.connectionMap connection with
      | some (key, _) =>
        let (ret, m, outputs) := switchCallRequest service t.connectionMap key callInfo.videoState
        (ret, { t with connectionMap := m }, hungUp ++ outputs)
      | none =>
        if connection.isRingingState then
          let (ret, outputs) := answerRequest service (cStr callInfo.phoneNum) callInfo.videoState
            callInfo.index callInfo.isRTT
          (ret, t, hungUp ++ outputs)
        else (.callState, t, hungUp)

/-- `Reject`. -/
def reject (service : ImsService) (t : IMSControl) (callInfo : CellularCallInfo) :
    RetCode × IMSControl × List Output :=
  match findConnectionByIndex t.connectionMap callInfo.index with
  | none => (.callConnectionNotExist, t, [])
  | some (key, connection) =>
    if connection.isRingingState = false then (.callState, t, [])
    else
      let m := t.connectionMap.modify key fun c =>
        { c with own := { c.own with disconnectReason := .userDecline } }
      let (ret, outputs) := rejectRequest service (cStr callInfo.phoneNum) callInfo.index
      (ret, { t with connectionMap := m },
        .reportSingleCallInfo .ims { connection.callReportInfo with state := .disconnecting } ::
          outputs)

/-- `SwitchCall`: the user's own switch, sent from a connection outside the
table. -/
def switchCall (service : ImsService) (slotId : Int) (t : IMSControl) : RetCode × List Output :=
  let callMode :=
    match t.connectionMap.first? (fun c => decide (c.callReportInfo.accountId = slotId)) with
    | some (_, c) => c.callReportInfo.callMode
    | none => .voice
  if service.needCallImsService then
    (service.switchCall, [.imsSwitchCall callMode.code service.switchCall])
  else (.error, [])

/-- `HangUpAllConnection`. -/
def hangUpAllConnection (service : ImsService) (t : IMSControl) : List Output :=
  t.connectionMap.values.flatMap fun c => (rejectRequest service c.number c.index).2

/-- `DialAfterHold`: the first connection with a dial to make makes it. -/
def dialAfterHold (service : ImsService) (t : IMSControl) : IMSControl × List Output :=
  match t.connectionMap.first? isNeedToDial with
  | some (key, c) =>
    ({ t with connectionMap := t.connectionMap.modify key (fun c => setDialFlag c false) },
      (dialRequest service c.own.holdToDialInfo).2)
  | none => (t, [])

/-- `RecoverPendingHold`: the first connection pending hold no longer is. -/
def recoverPendingHold (t : IMSControl) : IMSControl :=
  { t with
    connectionMap :=
      t.connectionMap.modifyFirst isPendingHold (fun c => c.updatePendingHoldFlag false) }

/-! ## The pending emergency call -/

/-- `SkipWaitForRadioOn`. -/
def skipWaitForRadioOn (t : IMSControl) : IMSControl :=
  match t.waitForRadioOn with
  | some timer =>
    { t with timers := t.timers.filter (fun id => id != timer), waitForRadioOn := none }
  | none => t

def setPendingEmcFlag (t : IMSControl) (flag : Bool) : IMSControl :=
  { t with isPendingEmc := flag }

/-- The task of an armed timer: the calls of the slot are reported hung up, and
whatever emergency call is pending no longer is. -/
def waitForRadioOnTimeout (P : Platform) (t : IMSControl) : IMSControl × List Output :=
  let (t, outputs) := reportHangUpInfo P t.pendingEmcDialCallInfo.slotId t
  (t.setPendingEmcFlag false, outputs)

/-! ## What the operations keep -/

/-- `ReportImsCallsData` in the shape the domains share: the calls it hangs up
end a silent redial, and it changes nothing outside the call table otherwise. -/
theorem reportImsCallsData_eq (P : Platform) (registered : Bool) (slotId : Int) (t : IMSControl)
    (L : ImsCurrentCallList) (isNeedQuery : Bool) :
    reportImsCallsData P registered slotId t L isNeedQuery =
      let (table, outputs) := reportCallsData domain.toCallDomain P registered slotId
        t.isSilentCsRedial t.toCallTable L isNeedQuery
      ({ t with
          toCallTable := table
          isSilentCsRedial :=
            t.isSilentCsRedial && !(decide (L.callSize ≤ 0) && !isNeedQuery) }, outputs) := by
  unfold reportImsCallsData reportCallsData
  by_cases hsize : L.callSize ≤ 0
  · cases isNeedQuery <;> simp [hsize, reportHangUpInfo, domain]
  · simp only [hsize, if_false, decide_false, Bool.false_and, Bool.not_false, Bool.and_true]
    split
    · rfl
    · cases isNeedQuery <;> rfl

/-! ### Dialling -/

/-- The number and mode a dial is judged with, if it gets that far. -/
def judged (env : ImsDialEnv) (isRadioOn : Bool) (callInfo : CellularCallInfo) (isEcc : Bool) :
    Option (Str × CLIRMode) :=
  if dialPreJudgment isRadioOn callInfo ≠ .success then none
  else if !(env.inService || isEcc) then none
  else env.mmi.apply (standardizedNumber (cStr callInfo.phoneNum))

/-- The connection a dial puts on hold, and what is to be dialled then. -/
def holdPath (env : ImsDialEnv) (isRadioOn : Bool) (t : IMSControl) (callInfo : CellularCallInfo)
    (isEcc : Bool) : Option (Int × ImsDialInfoStruct) :=
  match judged env isRadioOn callInfo isEcc with
  | none => none
  | some (phoneNum, clirMode) =>
    if canCall t.connectionMap then
      (dialTarget t.connectionMap).map fun (key, c) =>
        (key, (setHoldToDialInfo c phoneNum clirMode callInfo.videoState
          env.isEmergency).own.holdToDialInfo)
    else none

/-- The connection with a dial to make when it is on hold. -/
def holdDial (info : ImsDialInfoStruct) (c : CellularCallConnectionIMS) :
    CellularCallConnectionIMS :=
  { c with own := { c.own with isNeedToDial := true, holdToDialInfo := info } }

/-- The ways a dial can go: kept until the radio is on, refused, sent, or put
into the connection that is switched to hold first. -/
inductive DialStep (P : Platform) (env : ImsDialEnv) (isRadioOn : Bool) (t : IMSControl)
    (callInfo : CellularCallInfo) (isEcc : Bool) : RetCode × IMSControl × List Output → Prop
  | saved : isRadioOn = false → isEcc = true →
      holdPath env isRadioOn t callInfo isEcc = none →
      DialStep P env isRadioOn t callInfo isEcc (savePendingEmcCallInfo P t callInfo)
  | refused (ret : RetCode) : ret ≠ .success →
      holdPath env isRadioOn t callInfo isEcc = none →
      DialStep P env isRadioOn t callInfo isEcc (ret, t, [])
  | sent (ret : RetCode) (pending : Str) (request : ImsDialInfoStruct) :
      holdPath env isRadioOn t callInfo isEcc = none →
      DialStep P env isRadioOn t callInfo isEcc
        (ret, { t with pendingPhoneNumber := pending }, [.imsDialRequest request ret])
  | held (key : Int) (info : ImsDialInfoStruct) (pending : Str) :
      holdPath env isRadioOn t callInfo isEcc = some (key, info) →
      DialStep P env isRadioOn t callInfo isEcc
        ((switchCallRequest env.service (t.connectionMap.modify key (holdDial info)) key
            callInfo.videoState).1,
          { t with
            pendingPhoneNumber := pending
            connectionMap := (switchCallRequest env.service
              (t.connectionMap.modify key (holdDial info)) key callInfo.videoState).2.1 },
          (switchCallRequest env.service (t.connectionMap.modify key (holdDial info)) key
            callInfo.videoState).2.2)

theorem dialStep (P : Platform) (env : ImsDialEnv) (isRadioOn : Bool) (t : IMSControl)
    (callInfo : CellularCallInfo) (isEcc : Bool) :
    DialStep P env isRadioOn t callInfo isEcc (dial P env isRadioOn t callInfo isEcc) := by
  by_cases hpre : dialPreJudgment isRadioOn callInfo = .success
  · unfold dial
    simp only [if_false, hpre, ne_eq, not_true_eq_false]
    by_cases hservice : (!(env.inService || isEcc)) = true
    · rw [if_pos hservice]
      exact .refused _ (by simp) (by simp [holdPath, judged, hservice])
    · rw [if_neg hservice]
      cases hmmi : env.mmi.apply (standardizedNumber (cStr callInfo.phoneNum)) with
      | none => exact .refused _ (by simp) (by simp [holdPath, judged, hservice, hmmi])
      | some dialled =>
        obtain ⟨phoneNum, clirMode⟩ := dialled
        have hjudged : judged env isRadioOn callInfo isEcc = some (phoneNum, clirMode) := by
          simp [judged, hpre, hservice, hmmi]
        simp only [dialJudgment]
        cases hcan : canCall t.connectionMap with
        | false =>
          exact .refused _ (by simp) (by simp [holdPath, hjudged, hcan])
        | true =>
          cases htarget : dialTarget t.connectionMap with
          | none => exact .sent _ _ _ (by simp [holdPath, hjudged, hcan, htarget])
          | some target =>
            obtain ⟨key, c⟩ := target
            have hc : t.connectionMap.get? key = some c :=
              (OrdMap.get?_of_first?_eq_some htarget).1
            have hmodify : t.connectionMap.modify key (fun c => setDialFlag
                (setHoldToDialInfo c phoneNum clirMode callInfo.videoState env.isEmergency) true) =
                t.connectionMap.modify key (holdDial (setHoldToDialInfo c phoneNum clirMode
                  callInfo.videoState env.isEmergency).own.holdToDialInfo) := by
              refine OrdMap.modify_congr fun c' hc' => ?_
              rw [hc, Option.some.injEq] at hc'
              rw [← hc']
              rfl
            simp only [Bool.true_eq_false, if_false, hmodify]
            exact .held key _ phoneNum (by simp [holdPath, hjudged, hcan, htarget])
  · have hjudged : judged env isRadioOn callInfo isEcc = none := by simp [judged, hpre]
    have hpath : holdPath env isRadioOn t callInfo isEcc = none := by simp [holdPath, hjudged]
    unfold dial
    dsimp only
    split
    · rename_i hsaved
      refine .saved ?_ hsaved.2 hpath
      have hradio := hsaved.1
      unfold dialPreJudgment at hradio
      split at hradio
      · cases hradio
      · split at hradio
        · assumption
        · cases hradio
    · exact .refused _ hpre hpath

/-! ### Answering -/

/-- The connection an answer switches to hold, if it gets that far. -/
def answerPath (service : ImsService) (t : IMSControl) (callInfo : CellularCallInfo) :
    Option Int :=
  match findConnectionByIndex t.connectionMap callInfo.index with
  | none => none
  | some (_, connection) =>
    if (makeRoom service t.connectionMap).1 ≠ .success then none
    else (answerTarget t.connectionMap connection).map Prod.fst

theorem mem_numberedRequest {service : ImsService} {phoneNum : Str} {ret : RetCode}
    {request o : Output} (ho : o ∈ (numberedRequest service phoneNum ret request).2) :
    o = request := by
  unfold numberedRequest at ho
  split at ho
  · cases ho
  · split at ho
    · cases ho
    · exact List.mem_singleton.mp ho

theorem mem_hangUpEach {service : ImsService} {cs : List CellularCallConnectionIMS} {o : Output}
    (ho : o ∈ (hangUpEach service cs).2) :
    ∃ phoneNum index, o = .imsHangUpRequest phoneNum index := by
  induction cs with
  | nil => cases ho
  | cons c cs ih =>
    simp only [hangUpEach] at ho
    split at ho
    · exact ⟨_, _, mem_numberedRequest ho⟩
    · rcases List.mem_append.mp ho with ho | ho
      · exact ⟨_, _, mem_numberedRequest ho⟩
      · exact ih ho

/-- The ways an answer can go: the active call is switched to hold first, or
not. -/
inductive AnswerStep (service : ImsService) (t : IMSControl) (callInfo : CellularCallInfo) :
    RetCode × IMSControl × List Output → Prop
  | held (key : Int) (hungUp : List Output) : answerPath service t callInfo = some key →
      (∀ o ∈ hungUp, o.isImsSwitch = false ∧ o.isReport = false) →
      AnswerStep service t callInfo
        ((switchCallRequest service t.connectionMap key callInfo.videoState).1,
          { t with
            connectionMap :=
              (switchCallRequest service t.connectionMap key callInfo.videoState).2.1 },
          hungUp ++ (switchCallRequest service t.connectionMap key callInfo.videoState).2.2)
  | unheld (ret : RetCode) (outputs : List Output) : answerPath service t callInfo = none →
      (∀ o ∈ outputs, o.isImsSwitch = false ∧ o.isReport = false) →
      AnswerStep service t callInfo (ret, t, outputs)

theorem answerStep (service : ImsService) (t : IMSControl) (callInfo : CellularCallInfo) :
    AnswerStep service t callInfo (answer service t callInfo) := by
  have hroom : ∀ o ∈ (makeRoom service t.connectionMap).2,
      o.isImsSwitch = false ∧ o.isReport = false := by
    intro o ho
    unfold makeRoom at ho
    split at ho
    · obtain ⟨phoneNum, index, rfl⟩ := mem_hangUpEach ho
      exact ⟨rfl, rfl⟩
    · cases ho
  unfold answer
  cases hfind : findConnectionByIndex t.connectionMap callInfo.index with
  | none => exact .unheld _ _ (by simp [answerPath, hfind]) (by simp)
  | some found =>
    obtain ⟨index, connection⟩ := found
    dsimp only
    split
    · rename_i hret
      exact .unheld _ _ (by simp [answerPath, hfind, hret]) hroom
    · rename_i hret
      cases htarget : answerTarget t.connectionMap connection with
      | some target =>
        exact .held target.1 _ (by simp [answerPath, hfind, hret, htarget]) hroom
      | none =>
        have hpath : answerPath service t callInfo = none := by
          simp [answerPath, hfind, htarget]
        dsimp only
        split
        · refine .unheld _ _ hpath fun o ho => ?_
          rcases List.mem_append.mp ho with ho | ho
          · exact hroom o ho
          · rw [mem_numberedRequest ho]
            exact ⟨rfl, rfl⟩
        · exact .unheld _ _ hpath hroom

/-! ### The pending emergency call -/

/-- The members that belong to the pending emergency call. -/
def emc (t : IMSControl) : CellularCallInfo × Bool × Option Nat × List Nat × Nat :=
  (t.pendingEmcDialCallInfo, t.isPendingEmc, t.waitForRadioOn, t.timers, t.nextTimer)

@[simp] theorem emc_reportImsCallsData (P : Platform) (registered : Bool) (slotId : Int)
    (t : IMSControl) (L : ImsCurrentCallList) (isNeedQuery : Bool) :
    (reportImsCallsData P registered slotId t L isNeedQuery).1.emc = t.emc := by
  rw [reportImsCallsData_eq]
  rfl

@[simp] theorem emc_hangUp (service : ImsService) (t : IMSControl) (callInfo : CellularCallInfo)
    (type : CallSupplementType) : (hangUp service t callInfo type).2.1.emc = t.emc := by
  unfold hangUp
  split
  · split <;> rfl
  all_goals rfl

@[simp] theorem emc_answer (service : ImsService) (t : IMSControl)
    (callInfo : CellularCallInfo) : (answer service t callInfo).2.1.emc = t.emc := by
  have hstep := answerStep service t callInfo
  generalize answer service t callInfo = result at hstep
  cases hstep <;> rfl

@[simp] theorem emc_reject (service : ImsService) (t : IMSControl)
    (callInfo : CellularCallInfo) : (reject service t callInfo).2.1.emc = t.emc := by
  unfold reject
  split
  · rfl
  · split <;> rfl

@[simp] theorem emc_dialAfterHold (service : ImsService) (t : IMSControl) :
    (dialAfterHold service t).1.emc = t.emc := by
  unfold dialAfterHold
  split <;> rfl

/-- A dial tracks no other calls. -/
theorem keys_dial (P : Platform) (env : ImsDialEnv) (isRadioOn : Bool) (t : IMSControl)
    (callInfo : CellularCallInfo) (isEcc : Bool) :
    (dial P env isRadioOn t callInfo isEcc).2.1.connectionMap.keys = t.connectionMap.keys := by
  have hstep := dialStep P env isRadioOn t callInfo isEcc
  generalize dial P env isRadioOn t callInfo isEcc = result at hstep
  cases hstep with
  | saved => rfl
  | refused => rfl
  | sent => rfl
  | held key info pending =>
    simp only [switchCallRequest]
    split
    · dsimp only
      split <;> simp
    · simp

/-! ### Outputs that report no call -/

theorem isReport_numberedRequest (service : ImsService) (phoneNum : Str) (ret : RetCode)
    {request : Output} (hrequest : request.isReport = false) :
    ∀ o ∈ (numberedRequest service phoneNum ret request).2, o.isReport = false := by
  intro o ho
  rw [mem_numberedRequest ho]
  exact hrequest

theorem isReport_switchCallRequest (service : ImsService) (m : ConnectionMap ImsPart)
    (key videoState : Int) :
    ∀ o ∈ (switchCallRequest service m key videoState).2.2, o.isReport = false := by
  unfold switchCallRequest
  split <;> simp [Output.isReport]

/-- A dial reports no call. -/
theorem isReport_dial (P : Platform) (env : ImsDialEnv) (isRadioOn : Bool) (t : IMSControl)
    (callInfo : CellularCallInfo) (isEcc : Bool) :
    ∀ o ∈ (dial P env isRadioOn t callInfo isEcc).2.2, o.isReport = false := by
  have hstep := dialStep P env isRadioOn t callInfo isEcc
  generalize dial P env isRadioOn t callInfo isEcc = result at hstep
  cases hstep with
  | saved => simp [savePendingEmcCallInfo, Output.isReport]
  | refused => simp
  | sent => simp [Output.isReport]
  | held => exact isReport_switchCallRequest _ _ _ _

/-- An answer reports no call. -/
theorem isReport_answer (service : ImsService) (t : IMSControl) (callInfo : CellularCallInfo) :
    ∀ o ∈ (answer service t callInfo).2.2, o.isReport = false := by
  have hstep := answerStep service t callInfo
  generalize answer service t callInfo = result at hstep
  cases hstep with
  | held key hungUp _ hhung =>
    intro o ho
    rcases List.mem_append.mp ho with ho | ho
    · exact (hhung o ho).2
    · exact isReport_switchCallRequest _ _ _ _ o ho
  | unheld ret outputs _ houtputs => exact fun o ho => (houtputs o ho).2

theorem isReport_switchCall (service : ImsService) (slotId : Int) (t : IMSControl) :
    ∀ o ∈ (switchCall service slotId t).2, o.isReport = false := by
  unfold switchCall
  dsimp only
  cases service.needCallImsService <;> simp [Output.isReport]

theorem isReport_dialAfterHold (service : ImsService) (t : IMSControl) :
    ∀ o ∈ (dialAfterHold service t).2, o.isReport = false := by
  unfold dialAfterHold
  split <;> simp [dialRequest, Output.isReport]

theorem isReport_hangUpAllConnection (service : ImsService) (t : IMSControl) :
    ∀ o ∈ hangUpAllConnection service t, o.isReport = false := by
  intro o ho
  obtain ⟨c, -, hc⟩ := List.mem_flatMap.mp ho
  exact isReport_numberedRequest _ _ _ rfl o hc

/-! ### The tables -/

variable {J : Int → CellularCallConnectionIMS → Prop} (hJ : Steady J)
include hJ

theorem holds_switchCallRequest {service : ImsService} {m : ConnectionMap ImsPart}
    (hm : Holds J m) (key videoState : Int) :
    Holds J (switchCallRequest service m key videoState).2.1 := by
  unfold switchCallRequest
  split
  · dsimp only
    split
    · exact hm.modify hJ _ fun _ => ⟨rfl, rfl, rfl, rfl, rfl⟩
    · exact hm
  · exact hm

theorem holds_dial {P : Platform} {env : ImsDialEnv} {isRadioOn : Bool} {t : IMSControl}
    (ht : Holds J t.connectionMap) (callInfo : CellularCallInfo) (isEcc : Bool) :
    Holds J (dial P env isRadioOn t callInfo isEcc).2.1.connectionMap := by
  have hstep := dialStep P env isRadioOn t callInfo isEcc
  generalize dial P env isRadioOn t callInfo isEcc = result at hstep
  cases hstep with
  | saved => exact ht
  | refused => exact ht
  | sent => exact ht
  | held key info =>
    have hheld : Holds J (t.connectionMap.modify key (holdDial info)) :=
      ht.modify hJ key fun _ => ⟨rfl, rfl, rfl, rfl, rfl⟩
    exact holds_switchCallRequest hJ hheld _ _

theorem holds_hangUp {service : ImsService} {t : IMSControl} (ht : Holds J t.connectionMap)
    (callInfo : CellularCallInfo) (type : CallSupplementType) :
    Holds J (hangUp service t callInfo type).2.1.connectionMap := by
  unfold hangUp
  split
  · split
    · exact ht
    · dsimp only
      exact ht.modify hJ _ fun _ => ⟨rfl, rfl, rfl, rfl, rfl⟩
  · exact holds_updateCallDisconnectReason _ hJ ht _ _ _
  · exact holds_updateCallDisconnectReason _ hJ ht _ _ _
  · dsimp only
    exact ht.mapValues hJ fun _ => ⟨rfl, rfl, rfl, rfl, rfl⟩
  · exact ht

theorem holds_answer {service : ImsService} {t : IMSControl} (ht : Holds J t.connectionMap)
    (callInfo : CellularCallInfo) :
    Holds J (answer service t callInfo).2.1.connectionMap := by
  have hstep := answerStep service t callInfo
  generalize answer service t callInfo = result at hstep
  cases hstep with
  | held => exact holds_switchCallRequest hJ ht _ _
  | unheld => exact ht

theorem holds_reject {service : ImsService} {t : IMSControl} (ht : Holds J t.connectionMap)
    (callInfo : CellularCallInfo) : Holds J (reject service t callInfo).2.1.connectionMap := by
  unfold reject
  split
  · exact ht
  · split
    · exact ht
    · dsimp only
      exact ht.modify hJ _ fun _ => ⟨rfl, rfl, rfl, rfl, rfl⟩

theorem holds_dialAfterHold {service : ImsService} {t : IMSControl}
    (ht : Holds J t.connectionMap) : Holds J (dialAfterHold service t).1.connectionMap := by
  unfold dialAfterHold
  split
  · dsimp only
    exact ht.modify hJ _ fun _ => ⟨rfl, rfl, rfl, rfl, rfl⟩
  · exact ht

theorem holds_recoverPendingHold {t : IMSControl} (ht : Holds J t.connectionMap) :
    Holds J (recoverPendingHold t).connectionMap :=
  ht.modifyFirst hJ _ fun _ => ⟨rfl, rfl, rfl, rfl, rfl⟩

end IMSControl

end CellularCall
