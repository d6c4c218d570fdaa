import CellularCall.CallTable

/-!
# `CSControl`

The control of the circuit-switched calls: the call table with the CS report
encapsulation, and the operations the service and the handler call on it.

The answers of the world outside come as arguments: the radio and network state
and the outcome of the MMI check of a dial in `CsDialEnv`.
-/

namespace CellularCall

open Lib CallTable

/-- How `IsNeedExecuteMMI` leaves a dialled string: executed as an MMI code,
left as it is, or stripped of a CLIR prefix. -/
inductive MmiOutcome where
  | executed
  | plain
  | clir (dialString : Str) (mode : CLIRMode)
deriving DecidableEq, Repr

/-- The number and the CLIR mode to dial with. -/
def MmiOutcome.apply (mmi : MmiOutcome) (phoneNum : Str) : Option (Str × CLIRMode) :=
  match mmi with
  | .executed => none
  | .plain => some (phoneNum, .default)
  | .clir dialString mode => some (dialString, mode)

/-- `DialPreJudgment`: the number must not be empty and the radio must be on. -/
def dialPreJudgment (isRadioOn : Bool) (callInfo : CellularCallInfo) : RetCode :=
  if cStr callInfo.phoneNum = [] then .phoneNumberEmpty
  else if isRadioOn = false then .getRadioStateFailed
  else .success

/-- `PhoneType`, as `CSControl::Dial` tells the networks apart. -/
inductive PhoneType where
  | gsm
  | cdma
  | other
deriving DecidableEq, Repr

/-- What a CS dial asks of the network. -/
structure CsDialEnv where
  inService : Bool
  netType : PhoneType
  mmi : MmiOutcome
deriving DecidableEq, Repr

abbrev CSControl := CallTable CsPart

namespace CSControl

/-- `EncapsulationCallReportInfo`: a number that does not fit leaves the record
zeroed. -/
def encapsulationCallReportInfo (P : Platform) (slotId : Int) (callInfo : CallInfo) :
    CallReportInfo :=
  let newString := formatNumberAndToa callInfo.number callInfo.type
  if (cStr newString).length + 1 > P.kMaxNumberLen + 1 then .zeroed
  else
    { CallReportInfo.zeroed with
      accountNum := cStr newString
      index := callInfo.index
      accountId := slotId
      voiceDomain := callInfo.voiceDomain
      state := callInfo.state
      callType := .cs
      callMode := .voice
      mpty := callInfo.mpty
      name := if callInfo.number = [] then [] else callInfo.name
      namePresentation := callInfo.namePresentation }

/-- The CS domain: `DeleteConnection` and `ReportHangUpInfo` report the reason. -/
def domain : ReasonDomain CallInfo CsPart where
  callType := .cs
  fresh := .fresh
  index := CallInfo.index
  number := CallInfo.number
  state := CallInfo.state
  encapsulationCallReportInfo := encapsulationCallReportInfo
  incomingWhenAlone := true
  connectedOut := true
  updateClearsIgnored := false
  ended := fun own info => { info with reason := own.disconnectReason }
  disconnectReason := CsPart.disconnectReason
  setDisconnectReason := fun reason _ _ => ⟨reason⟩

/-! ## Call lists -/

def reportIncomingInfo (P : Platform) (registered : Bool) (slotId : Int) (t : CSControl)
    (L : CallInfoList) : CSControl × List Output :=
  CallTable.reportIncomingInfo domain.toCallDomain P registered slotId t L

/-- `ReportUpdateInfo`: nothing is reported while an incoming call is ignored. -/
def reportUpdateInfo (P : Platform) (slotId : Int) (t : CSControl) (L : CallInfoList) :
    CSControl × List Output :=
  CallTable.reportUpdateInfo domain.toCallDomain P slotId t L

/-- `ReportHangUpInfo`: the report is dropped, once, for an ignored incoming
call. -/
def reportHangUpInfo (P : Platform) (slotId : Int) (t : CSControl) : CSControl × List Output :=
  CallTable.reportHangUpInfo domain.toCallDomain P slotId false t

def hasEndCallWithoutReason (t : CSControl) (L : CallInfoList) : Bool :=
  CallTable.hasEndCallWithoutReason domain t.connectionMap L

/-- `ReportCsCallsData`: a list that ends calls without a known reason is not
processed now; the reason is asked for first. -/
def reportCsCallsData (P : Platform) (registered : Bool) (slotId : Int) (t : CSControl)
    (L : CallInfoList) (isNeedQuery : Bool) : CSControl × List Output :=
  if L.callSize ≤ 0 then
    if isNeedQuery && hasEndCallWithoutReason t L then (t, [.getCallFailReason .cs])
    else reportHangUpInfo P slotId t
  else if t.connectionMap.isEmpty then reportIncomingInfo P registered slotId t L
  else if isNeedQuery && hasEndCallWithoutReason t L then (t, [.getCallFailReason .cs])
  else reportUpdateInfo P slotId t L

def updateDisconnectedReason (t : CSControl) (L : CallInfoList) (reason : RilDisconnectedReason) :
    CSControl :=
  { t with connectionMap := CallTable.updateDisconnectedReason domain t.connectionMap L reason [] }

/-- The entry `ReportHangUp` sends for a call the call manager names. -/
def hangUpEntry (P : Platform) (info : CellularCallInfo) : CallReportInfo :=
  { P.defaultCallReportInfo with
    accountNum := cStr (info.phoneNum.take P.kMaxNumberLen)
    index := info.index
    accountId := info.slotId
    callType := .cs
    callMode := .voice
    state := .disconnected }

/-- `ReportHangUp`: the named calls of this slot are reported ended, and every
connection is released. -/
def reportHangUp (P : Platform) (slotId : Int) (t : CSControl) (infos : List CellularCallInfo) :
    CSControl × List Output :=
  let callVec := (infos.filter fun info => info.callType == .cs && info.slotId == slotId).map
    (hangUpEntry P)
  (releaseAllConnection t, [.reportCallsInfo .cs ⟨slotId, callVec⟩])

/-- `HangUpAllConnection` reuses the reject request. -/
def hangUpAllConnection : List Output := [.rejectRequest]

/-! ## Requests -/

/-- `EncapsulateDialCommon` with `DialRequest`, which sends the address part of
the number. -/
def encapsulateDialCommon (t : CSControl) (phoneNum : Str) (clirMode : CLIRMode) :
    RetCode × CSControl × List Output :=
  (.success, { t with pendingPhoneNumber := phoneNum },
    [.dialRequest ⟨(extractAddressAndPostDial phoneNum).1, clirMode⟩])

/-- `DialCdma`: an active call makes the dial a three-way request, which sends
nothing. -/
def dialCdma (env : CsDialEnv) (t : CSControl) (callInfo : CellularCallInfo) :
    RetCode × CSControl × List Output :=
  match env.mmi.apply (removeSeparatorsPhoneNumber (cStr callInfo.phoneNum)) with
  | none => (.typeMmi, t, [])
  | some (newPhoneNum, clirMode) =>
    if canCall t.connectionMap = false then (.callCountsExceedLimit, t, [])
    else if isInState t.connectionMap .active then (.success, t, [])
    else encapsulateDialCommon t newPhoneNum clirMode

/-- `DialGsm`: an active call is put on hold first. -/
def dialGsm (env : CsDialEnv) (t : CSControl) (callInfo : CellularCallInfo) :
    RetCode × CSControl × List Output :=
  match env.mmi.apply (removeSeparatorsPhoneNumber (cStr callInfo.phoneNum)) with
  | none => (.typeMmi, t, [])
  | some (newPhoneNum, clirMode) =>
    if canCall t.connectionMap = false then (.callCountsExceedLimit, t, [])
    else
      let held := if isInState t.connectionMap .active then [Output.switchCall] else []
      let (ret, t, outputs) := encapsulateDialCommon t newPhoneNum clirMode
      (ret, t, held ++ outputs)

def dial (env : CsDialEnv) (isRadioOn : Bool) (t : CSControl) (callInfo : CellularCallInfo)
    (isEcc : Bool) : RetCode × CSControl × List Output :=
  let ret := dialPreJudgment isRadioOn callInfo
  if ret ≠ .success then (ret, t, [])
  else if !(env.inService || isEcc) then (.errNetworkNotInService, t, [])
  else
    match env.netType with
    | .gsm => dialGsm env t callInfo
    | .cdma => dialCdma env t callInfo
    | .other => (.unsupportedNetworkType, t, [])

/-- `HangUp`. -/
def hangUp (t : CSControl) (callInfo : CellularCallInfo) (type : CallSupplementType) :
    RetCode × CSControl × List Output :=
  match type with
  | .default =>
    match findConnectionByIndex t.connectionMap callInfo.index with
    | none => (.callConnectionNotExist, t, [])
    | some (key, connection) =>
      let m := t.connectionMap.modify key (setReason domain .userTerminated [])
      (.success, { t with connectionMap := m },
        [.reportSingleCallInfo .cs { connection.callReportInfo with state := .disconnecting },
          .hangUpRequest connection.index])
  | .hangUpHoldWait | .hangUpActive =>
    let m := updateCallDisconnectReason domain t.connectionMap callInfo.callId .userTerminated []
    (.success, { t with connectionMap := m }, [.callSupplement type])
  | .hangUpAll =>
    let m := t.connectionMap.mapValues (setReason domain .userTerminated [])
    (.success, { t with connectionMap := m }, [.rejectRequest])
  | .other _ => (.errArgumentInvalid, t, [])

/-- `CheckAndHangupHoldingCall`: every held call is hung up. -/
def checkAndHangupHoldingCall (t : CSControl) : List Output :=
  (t.connectionMap.values.filter fun c => c.getStatus == .holding).map fun c =>
    .hangUpRequest c.index

/-- `Answer`: the active call is switched to hold before the call is answered. -/
def answer (t : CSControl) (callInfo : CellularCallInfo) : RetCode × CSControl × List Output :=
  match findConnectionByIndex t.connectionMap callInfo.index with
  | none => (.callConnectionNotExist, t, [])
  | some (_, connection) =>
    let hungUp :=
      if isInState t.connectionMap .holding && isInState t.connectionMap .active then
        checkAndHangupHoldingCall t
      else []
    let held :=
      if (findConnectionByState t.connectionMap .active).isSome then [Output.switchCall] else []
    if connection.isRingingState then
      (.success, t, hungUp ++ held ++ [.answerRequest])
    else (.callState, t, hungUp ++ held)

/-- `Reject`. -/
def reject (t : CSControl) (callInfo : CellularCallInfo) : RetCode × CSControl × List Output :=
  match findConnectionByIndex t.connectionMap callInfo.index with
  | none => (.callConnectionNotExist, t, [])
  | some (key, connection) =>
    if connection.isRingingState = false then (.callState, t, [])
    else
      let m := t.connectionMap.modify key (setReason domain .userDecline [])
      (.success, { t with connectionMap := m },
        [.reportSingleCallInfo .cs { connection.callReportInfo with state := .disconnecting },
          .rejectRequest])

/-! ## What the operations keep -/

/-- `ReportCsCallsData` in the shape the domains share. -/
theorem reportCsCallsData_eq (P : Platform) (registered : Bool) (slotId : Int) (t : CSControl)
    (L : CallInfoList) (isNeedQuery : Bool) :
    reportCsCallsData P registered slotId t L isNeedQuery =
      reportCallsData domain.toCallDomain P registered slotId false t L
        (isNeedQuery && hasEndCallWithoutReason t L) := rfl

/-- A dial remembers at most the number it dials. -/
theorem dialGsm_frame (env : CsDialEnv) (t : CSControl) (callInfo : CellularCallInfo) :
    ∃ pending, (dialGsm env t callInfo).2.1 = { t with pendingPhoneNumber := pending } := by
  unfold dialGsm
  split
  · exact ⟨t.pendingPhoneNumber, rfl⟩
  · rename_i newPhoneNum clirMode _
    split
    · exact ⟨t.pendingPhoneNumber, rfl⟩
    · exact ⟨newPhoneNum, rfl⟩

theorem dialCdma_frame (env : CsDialEnv) (t : CSControl) (callInfo : CellularCallInfo) :
    ∃ pending, (dialCdma env t callInfo).2.1 = { t with pendingPhoneNumber := pending } := by
  unfold dialCdma
  split
  · exact ⟨t.pendingPhoneNumber, rfl⟩
  · rename_i newPhoneNum clirMode _
    split
    · exact ⟨t.pendingPhoneNumber, rfl⟩
    · split
      · exact ⟨t.pendingPhoneNumber, rfl⟩
      · exact ⟨newPhoneNum, rfl⟩

theorem dial_frame (env : CsDialEnv) (isRadioOn : Bool) (t : CSControl)
    (callInfo : CellularCallInfo) (isEcc : Bool) :
    ∃ pending, (dial env isRadioOn t callInfo isEcc).2.1 =
      { t with pendingPhoneNumber := pending } := by
  have hself : ∃ pending, t = { t with pendingPhoneNumber := pending } :=
    ⟨t.pendingPhoneNumber, rfl⟩
  unfold dial
  dsimp only
  split
  · exact hself
  · split
    · exact hself
    · split
      · exact dialGsm_frame env t callInfo
      · exact dialCdma_frame env t callInfo
      · exact hself

theorem connectionMap_dial (env : CsDialEnv) (isRadioOn : Bool) (t : CSControl)
    (callInfo : CellularCallInfo) (isEcc : Bool) :
    (dial env isRadioOn t callInfo isEcc).2.1.connectionMap = t.connectionMap := by
  obtain ⟨pending, hdial⟩ := dial_frame env isRadioOn t callInfo isEcc
  rw [hdial]

/-- An answer changes nothing in the control. -/
theorem answer_frame (t : CSControl) (callInfo : CellularCallInfo) :
    (answer t callInfo).2.1 = t := by
  unfold answer
  split
  · rfl
  · dsimp only
    split <;> rfl

/-- What a dial sends. -/
theorem mem_dial {env : CsDialEnv} {isRadioOn : Bool} {t : CSControl}
    {callInfo : CellularCallInfo} {isEcc : Bool} {o : Output}
    (ho : o ∈ (dial env isRadioOn t callInfo isEcc).2.2) :
    o = .switchCall ∨ ∃ request, o = .dialRequest request := by
  have hgsm : o ∈ (dialGsm env t callInfo).2.2 →
      o = .switchCall ∨ ∃ request, o = .dialRequest request := by
    intro ho
    unfold dialGsm at ho
    split at ho
    · cases ho
    · split at ho
      · cases ho
      · dsimp only [encapsulateDialCommon] at ho
        split at ho <;> simp only [List.mem_append, List.mem_singleton, List.nil_append] at ho <;>
          grind
  have hcdma : o ∈ (dialCdma env t callInfo).2.2 →
      o = .switchCall ∨ ∃ request, o = .dialRequest request := by
    intro ho
    unfold dialCdma at ho
    split at ho
    · cases ho
    · split at ho
      · cases ho
      · split at ho
        · cases ho
        · exact Or.inr ⟨_, List.mem_singleton.mp ho⟩
  unfold dial at ho
  dsimp only at ho
  split at ho
  · cases ho
  · split at ho
    · cases ho
    · split at ho
      · exact hgsm ho
      · exact hcdma ho
      · cases ho

/-- A dial reports no call. -/
theorem isReport_dial (env : CsDialEnv) (isRadioOn : Bool) (t : CSControl)
    (callInfo : CellularCallInfo) (isEcc : Bool) :
    ∀ o ∈ (dial env isRadioOn t callInfo isEcc).2.2, o.isReport = false := by
  intro o ho
  rcases mem_dial ho with rfl | ⟨request, rfl⟩ <;> rfl

/-- A dial switches no IMS calls. -/
theorem isImsSwitch_dial (env : CsDialEnv) (isRadioOn : Bool) (t : CSControl)
    (callInfo : CellularCallInfo) (isEcc : Bool) :
    ∀ o ∈ (dial env isRadioOn t callInfo isEcc).2.2, o.isImsSwitch = false := by
  intro o ho
  rcases mem_dial ho with rfl | ⟨request, rfl⟩ <;> rfl

/-- What an answer sends. -/
theorem mem_answer {t : CSControl} {callInfo : CellularCallInfo} {o : Output}
    (ho : o ∈ (answer t callInfo).2.2) :
    o = .answerRequest ∨ o = .switchCall ∨ ∃ index, o = .hangUpRequest index := by
  have hheld : ∀ o ∈ checkAndHangupHoldingCall t, ∃ index, o = .hangUpRequest index := by
    intro o ho
    obtain ⟨c, -, rfl⟩ := List.mem_map.mp ho
    exact ⟨c.index, rfl⟩
  unfold answer at ho
  split at ho
  · cases ho
  · dsimp only at ho
    split at ho <;> simp only [List.mem_append, List.mem_singleton] at ho <;> grind

/-- An answer reports no call. -/
theorem isReport_answer (t : CSControl) (callInfo : CellularCallInfo) :
    ∀ o ∈ (answer t callInfo).2.2, o.isReport = false := by
  intro o ho
  rcases mem_answer ho with rfl | rfl | ⟨index, rfl⟩ <;> rfl

variable {J : Int → CellularCallConnectionCS → Prop} (hJ : Steady J)
include hJ

theorem holds_hangUp {t : CSControl} (ht : Holds J t.connectionMap)
    (callInfo : CellularCallInfo) (type : CallSupplementType) :
    Holds J (hangUp t callInfo type).2.1.connectionMap := by
  unfold hangUp
  split
  · split
    · exact ht
    · exact ht.modify hJ _ fun _ => ⟨rfl, rfl, rfl, rfl, rfl⟩
  · exact holds_updateCallDisconnectReason _ hJ ht _ _ _
  · exact holds_updateCallDisconnectReason _ hJ ht _ _ _
  · exact ht.mapValues hJ fun _ => ⟨rfl, rfl, rfl, rfl, rfl⟩
  · exact ht

theorem holds_reject {t : CSControl} (ht : Holds J t.connectionMap)
    (callInfo : CellularCallInfo) : Holds J (reject t callInfo).2.1.connectionMap := by
  unfold reject
  split
  · exact ht
  · split
    · exact ht
    · exact ht.modify hJ _ fun _ => ⟨rfl, rfl, rfl, rfl, rfl⟩

end CSControl

end CellularCall
