import CellularCall.Control.IMS
import CellularCall.Lib.Machine

/-!
# One slot

`CellularCallHandler` and `CellularCallService` keep the two controls of a slot:
they create one when a dial or a list needs it, hand it lists and responses, and
drop it when its calls are over.  `Slot` is the state they share, and each
handler is a function on it.

An `Event` is a message to the handler or a call of the service, together with
what the world outside answers while it is processed.  `slotMachine` is the
whole: the slot as a machine over its events.
-/

namespace CellularCall

open Lib

/-- What the handler and the service keep for one slot.

* `currentCsCallInfoList` and `currentCallList` are the last lists received.
* `srvccState` is the handler's, `serviceSrvccState` the service's.
* `registered` tells whether the call manager has registered its callback. -/
structure Slot where
  csControl : Option CSControl
  imsControl : Option IMSControl
  currentCsCallInfoList : CallInfoList
  currentCallList : ImsCurrentCallList
  srvccState : SrvccState
  serviceSrvccState : SrvccState
  isDuringRSRVCC : Bool
  isRadioOn : Bool
  registered : Bool
deriving DecidableEq

namespace Slot

/-- The slot before its first event. -/
def init : Slot where
  csControl := none
  imsControl := none
  currentCsCallInfoList := .none
  currentCallList := .none
  srvccState := .none
  serviceSrvccState := .none
  isDuringRSRVCC := false
  isRadioOn := false
  registered := false

variable (P : Platform) (slotId : Int)

/-! ## Call lists -/

/-- `IsSilentCsRedial`: the last two lists show one and the same call, dialling
in both domains. -/
def isSilentCsRedial (s : Slot) : Bool :=
  if s.currentCallList.callSize ≠ 1 ∨ s.currentCsCallInfoList.callSize ≠ 1 then false
  else
    match s.currentCallList.calls, s.currentCsCallInfoList.calls with
    | imsCall :: _, csCall :: _ =>
      imsCall.index == csCall.index && imsCall.dir == csCall.dir &&
        imsCall.state == .dialing && csCall.state == imsCall.state &&
        imsCall.number == csCall.number
    | _, _ => false

/-- `ReportNoCsCallsData`: the control is dropped unless calls wait for their
disconnect reason. -/
def reportNoCsCallsData (s : Slot) (L : CallInfoList) : Slot × List Output :=
  if s.isDuringRSRVCC then ({ s with isDuringRSRVCC := false }, [])
  else
    match s.csControl with
    | none => (s, [])
    | some csControl =>
      let (csControl, outputs) := csControl.reportCsCallsData P s.registered slotId L true
      if csControl.hasEndCallWithoutReason L then
        ({ s with csControl := some csControl }, outputs)
      else ({ s with csControl := none }, outputs)

/-- A CS list reaches a control: an existing one, or a new one for a single
call. -/
def csControlFor (s : Slot) (L : CallInfoList) : Option CSControl :=
  match s.csControl with
  | some csControl => some csControl
  | none => if L.callSize = 1 then some CallTable.fresh else none

/-- `ReportCsCallsData`. -/
def reportCsCallsData (s : Slot) (L : CallInfoList) : Slot × List Output :=
  let s := { s with currentCsCallInfoList := L }
  if L.callSize = 0 then s.reportNoCsCallsData P slotId L
  else if s.isDuringRSRVCC then (s, [])
  else
    match s.csControlFor L with
    | none => (s, [])
    | some csControl =>
      let (csControl, outputs) := csControl.reportCsCallsData P s.registered slotId L true
      let s := { s with csControl := some csControl }
      if s.isSilentCsRedial then
        ({ s with imsControl := s.imsControl.map fun c => c.setSilentCsRedialFlag true }, outputs)
      else (s, outputs)

/-- `ReportNoImsCallsData`. -/
def reportNoImsCallsData (s : Slot) (L : ImsCurrentCallList) : Slot × List Output :=
  match s.imsControl with
  | none => (s, [])
  | some imsControl =>
    let hasEndCallWithoutReason := imsControl.hasEndCallWithoutReason L
    let (imsControl, outputs) :=
      imsControl.reportImsCallsData P s.registered slotId L hasEndCallWithoutReason
    if hasEndCallWithoutReason then ({ s with imsControl := some imsControl }, outputs)
    else ({ s with imsControl := none }, outputs)

/-- An IMS list reaches a control: an existing one, or a new one for at most
`MAX_ACTIVE_CALL_NUM` calls. -/
def imsControlFor (s : Slot) (L : ImsCurrentCallList) : Option IMSControl :=
  match s.imsControl with
  | some imsControl => some imsControl
  | none => if 0 < L.callSize ∧ L.callSize ≤ 2 then some IMSControl.fresh else none

/-- `ReportImsCallsData`. -/
def reportImsCallsData (s : Slot) (L : ImsCurrentCallList) : Slot × List Output :=
  let s := { s with currentCallList := L }
  if L.callSize = 0 then s.reportNoImsCallsData P slotId L
  else if s.srvccState = .started then (s, [])
  else
    match s.imsControlFor L with
    | none => (s, [])
    | some imsControl =>
      let hasEndCallWithoutReason := imsControl.hasEndCallWithoutReason L
      let (imsControl, outputs) :=
        imsControl.reportImsCallsData P s.registered slotId L hasEndCallWithoutReason
      ({ s with imsControl := some imsControl }, outputs)

/-- `HandleCallDisconnectReason`: the last list of the IMS control, or of the CS
control where there is no IMS control, is processed once more without asking.
Then each control whose last list is empty is dropped. -/
def handleCallDisconnectReason (s : Slot) (reason : RilDisconnectedReason) (message : Str) :
    Slot × List Output :=
  match s.imsControl, s.csControl with
  | some imsControl, _ =>
    let imsControl := imsControl.updateDisconnectedReason s.currentCallList reason message
    let (imsControl, outputs) :=
      imsControl.reportImsCallsData P s.registered slotId s.currentCallList false
    (dropEmpty { s with imsControl := some imsControl }, outputs)
  | none, some csControl =>
    let csControl := csControl.updateDisconnectedReason s.currentCsCallInfoList reason
    let (csControl, outputs) :=
      csControl.reportCsCallsData P s.registered slotId s.currentCsCallInfoList false
    (dropEmpty { s with csControl := some csControl }, outputs)
  | none, none => (s, [])
where
  /-- The end of `HandleCallDisconnectReason`. -/
  dropEmpty (s : Slot) : Slot :=
    let s := if s.currentCallList.callSize = 0 then { s with imsControl := none } else s
    if s.currentCsCallInfoList.callSize = 0 then { s with csControl := none } else s

/-! ## Requests of the service -/

/-- `DialNormalCall`: the control is created first, whatever the dial returns. -/
def dialNormalCall (s : Slot) (callInfo : CellularCallInfo) (isEcc useIms : Bool)
    (csEnv : CsDialEnv) (imsEnv : ImsDialEnv) : Slot × List Output :=
  if useIms then
    let (ret, imsControl, outputs) :=
      IMSControl.dial P imsEnv s.isRadioOn (s.imsControl.getD .fresh) callInfo isEcc
    ({ s with imsControl := some imsControl }, outputs ++ [.returned ret])
  else
    let (ret, csControl, outputs) :=
      CSControl.dial csEnv s.isRadioOn (s.csControl.getD CallTable.fresh) callInfo isEcc
    ({ s with csControl := some csControl }, outputs ++ [.returned ret])

/-- `CellularCallService::Dial`, without a satellite. -/
def dial (s : Slot) (callInfo : CellularCallInfo) (isEcc useIms : Bool) (csEnv : CsDialEnv)
    (imsEnv : ImsDialEnv) : Slot × List Output :=
  if s.serviceSrvccState = .started then (s, [.returned .errFail])
  else s.dialNormalCall P callInfo isEcc useIms csEnv imsEnv

/-- The common shape of `HangUp`, `Answer` and `Reject`: the request goes to the
control of its type, and a missing control is reported. -/
def request (s : Slot) (callInfo : CellularCallInfo)
    (onCs : CSControl → RetCode × CSControl × List Output)
    (onIms : IMSControl → RetCode × IMSControl × List Output) : Slot × List Output :=
  if s.serviceSrvccState = .started then (s, [.returned .errFail])
  else
    match callInfo.callType with
    | .cs =>
      match s.csControl with
      | none => (s, [.reportControlException callInfo, .returned .errLocalPtrNull])
      | some csControl =>
        let (ret, csControl, outputs) := onCs csControl
        ({ s with csControl := some csControl }, outputs ++ [.returned ret])
    | .ims =>
      match s.imsControl with
      | none => (s, [.reportControlException callInfo, .returned .errLocalPtrNull])
      | some imsControl =>
        let (ret, imsControl, outputs) := onIms imsControl
        ({ s with imsControl := some imsControl }, outputs ++ [.returned ret])
    | _ => (s, [.returned .errArgumentInvalid])

def hangUp (s : Slot) (service : ImsService) (callInfo : CellularCallInfo)
    (type : CallSupplementType) : Slot × List Output :=
  s.request callInfo (fun c => c.hangUp callInfo type)
    (fun c => IMSControl.hangUp service c callInfo type)

def answer (s : Slot) (service : ImsService) (callInfo : CellularCallInfo) :
    Slot × List Output :=
  s.request callInfo (fun c => c.answer callInfo) (fun c => IMSControl.answer service c callInfo)

def reject (s : Slot) (service : ImsService) (callInfo : CellularCallInfo) :
    Slot × List Output :=
  s.request callInfo (fun c => c.reject callInfo) (fun c => IMSControl.reject service c callInfo)

/-- `CellularCallService::SwitchCall` of an IMS call. -/
def switchCall (s : Slot) (service : ImsService) : Slot × List Output :=
  if s.serviceSrvccState = .started then (s, [.returned .errFail])
  else
    match s.imsControl with
    | none => (s, [.returned .errLocalPtrNull])
    | some imsControl =>
      let (ret, outputs) := imsControl.switchCall service slotId
      (s, outputs ++ [.returned ret])

/-- `ClearAllCalls`: `SetControl` for every named call, then
`HangUpWithCellularCallRestart`. -/
def clearAllCalls (s : Slot) (service : ImsService) (infos : List CellularCallInfo) :
    Slot × List Output :=
  if infos = [] then (s, [.returned .errArgumentInvalid])
  else
    let named (callType : CallType) : Bool :=
      infos.any fun info => info.callType == callType && info.slotId == slotId
    let csControl := s.csControl.or (if named .cs then some CallTable.fresh else none)
    let imsControl := s.imsControl.or (if named .ims then some IMSControl.fresh else none)
    let (csControl, csOutputs) :=
      match csControl with
      | none => (none, [])
      | some c =>
        let (c, outputs) := c.reportHangUp P slotId infos
        (some c, outputs ++ CSControl.hangUpAllConnection)
    let (imsControl, imsOutputs) :=
      match imsControl with
      | none => (none, [])
      | some c =>
        let outputs := IMSControl.reportHangUp P slotId infos
        let c := c.restoreConnection slotId infos
        let outputs := outputs ++ c.hangUpAllConnection service
        (some { c with toCallTable := CallTable.releaseAllConnection c.toCallTable }, outputs)
    ({ s with csControl := csControl, imsControl := imsControl },
      csOutputs ++ imsOutputs ++ [.returned .success])

/-! ## Responses and indications -/

/-- `SwapCallResponse` for an IMS swap. -/
def swapCallResponse (s : Slot) (service : ImsService) (ok : Bool) : Slot × List Output :=
  match s.imsControl with
  | none => (s, [])
  | some imsControl =>
    let imsControl := imsControl.recoverPendingHold
    if ok then
      let (imsControl, outputs) := imsControl.dialAfterHold service
      ({ s with imsControl := some imsControl }, outputs)
    else ({ s with imsControl := some imsControl }, [.reportEventResultInfo])

/-- `RadioStateChangeProcess`: with the radio on, the pending emergency call is
dialled, and hung up if the dial fails. -/
def radioStateChangeProcess (s : Slot) (radioOn : Bool) (env : ImsDialEnv) :
    Slot × List Output :=
  let s := { s with isRadioOn := radioOn }
  if radioOn = false then (s, [])
  else
    match s.imsControl with
    | none => (s, [])
    | some imsControl =>
      let imsControl := imsControl.skipWaitForRadioOn
      if imsControl.isPendingEmc then
        let callInfo := imsControl.pendingEmcDialCallInfo
        let (ret, imsControl, outputs) := IMSControl.dial P env s.isRadioOn imsControl callInfo true
        let outputs := .imsControlDial callInfo :: outputs
        if ret ≠ .success then
          let (imsControl, hungUp) := imsControl.reportHangUpInfo P slotId
          ({ s with imsControl := some (imsControl.setPendingEmcFlag false) }, outputs ++ hungUp)
        else ({ s with imsControl := some (imsControl.setPendingEmcFlag false) }, outputs)
      else ({ s with imsControl := some imsControl }, [])

/-- An armed timer expires; it finds its control only while that exists. -/
def radioWaitTimeout (s : Slot) (timer : Nat) : Slot × List Output :=
  match s.imsControl with
  | none => (s, [])
  | some imsControl =>
    if timer ∈ imsControl.timers then
      let imsControl := { imsControl with timers := imsControl.timers.filter (fun id => id != timer) }
      let (imsControl, outputs) := imsControl.waitForRadioOnTimeout P
      ({ s with imsControl := some imsControl }, outputs)
    else (s, [])

/-- `OnRilAdapterHostDied`: every call is hung up and both controls are dropped. -/
def onRilAdapterHostDied (s : Slot) : Slot × List Output :=
  let csOutputs :=
    match s.csControl with
    | none => []
    | some csControl => (csControl.reportHangUpInfo P slotId).2
  let imsOutputs :=
    match s.imsControl with
    | none => []
    | some imsControl => (imsControl.reportHangUpInfo P slotId).2
  ({ s with csControl := none, imsControl := none }, csOutputs ++ imsOutputs)

/-- `SrvccStateCompleted`: the calls have moved to CS, so both tables are
released without a report, and a missing CS control is created. -/
def srvccStateCompleted (s : Slot) : Slot :=
  { s with
    isDuringRSRVCC := false
    csControl := if s.csControl.isSome then none else some CallTable.fresh
    imsControl := none
    srvccState := .none }

/-- `UpdateSrvccStateReport`. -/
def updateSrvccStateReport (s : Slot) (status : SrvccState) : Slot × List Output :=
  let s := { s with srvccState := status, serviceSrvccState := status }
  if status ≠ .completed then (s, []) else (s.srvccStateCompleted, [])

/-- `UpdateRsrvccStateReport`. -/
def updateRsrvccStateReport (s : Slot) : Slot × List Output :=
  ({ s with isDuringRSRVCC := true, csControl := none }, [])

end Slot

/-! ## Events -/

/-- What reaches a slot.

* `callFailReason asker reason message`: the answer to a query of the control
  `asker`; the handler does not look at `asker`.
* `swapCallResponse request ok service`: the answer to the IMS switch request
  numbered `request`; the handler does not look at the number. -/
inductive Event where
  | csCallsData (L : CallInfoList)
  | imsCallsData (L : ImsCurrentCallList)
  | callFailReason (asker : CallType) (reason : RilDisconnectedReason) (message : Str)
  | dial (callInfo : CellularCallInfo) (isEcc useIms : Bool) (csEnv : CsDialEnv)
      (imsEnv : ImsDialEnv)
  | hangUp (service : ImsService) (callInfo : CellularCallInfo) (type : CallSupplementType)
  | answer (service : ImsService) (callInfo : CellularCallInfo)
  | reject (service : ImsService) (callInfo : CellularCallInfo)
  | switchCall (service : ImsService)
  | swapCallResponse (request : Nat) (ok : Bool) (service : ImsService)
  | radioStateChange (radioOn : Bool) (env : ImsDialEnv)
  | radioWaitTimeout (timer : Nat)
  | rilAdapterHostDied
  | clearAllCalls (service : ImsService) (infos : List CellularCallInfo)
  | registerCallBack (registered : Bool)
  | srvccState (status : SrvccState)
  | rsrvccState
deriving DecidableEq

/-- One slot of the service as a machine. -/
def slotMachine (P : Platform) (slotId : Int) : Machine Slot Event Output where
  init := .init
  step s
    | .csCallsData L => s.reportCsCallsData P slotId L
    | .imsCallsData L => s.reportImsCallsData P slotId L
    | .callFailReason _ reason message => s.handleCallDisconnectReason P slotId reason message
    | .dial callInfo isEcc useIms csEnv imsEnv => s.dial P callInfo isEcc useIms csEnv imsEnv
    | .hangUp service callInfo type => s.hangUp service callInfo type
    | .answer service callInfo => s.answer service callInfo
    | .reject service callInfo => s.reject service callInfo
    | .switchCall service => s.switchCall slotId service
    | .swapCallResponse _ ok service => s.swapCallResponse service ok
    | .radioStateChange radioOn env => s.radioStateChangeProcess P slotId radioOn env
    | .radioWaitTimeout timer => s.radioWaitTimeout P timer
    | .rilAdapterHostDied => s.onRilAdapterHostDied P slotId
    | .clearAllCalls service infos => s.clearAllCalls P slotId service infos
    | .registerCallBack registered => ({ s with registered := registered }, [])
    | .srvccState status => s.updateSrvccStateReport status
    | .rsrvccState => s.updateRsrvccStateReport

namespace Slot

variable (P : Platform) (slotId : Int)

/-! ## The ways a list can go -/

/-- The IMS control after a CS list: marked if the list starts a silent redial. -/
def markSilent (s : Slot) (L : CallInfoList) : Option IMSControl :=
  if ({ s with currentCsCallInfoList := L } : Slot).isSilentCsRedial then
    s.imsControl.map fun c => c.setSilentCsRedialFlag true
  else s.imsControl

/-- A CS list is not for a control, or ends all its calls, or is processed.  An
empty list that ends calls without a known reason only asks for it. -/
inductive CsListStep (s : Slot) (L : CallInfoList) : Slot × List Output → Prop
  | idle (duringRSRVCC : Bool) : (L.callSize = 0 → s.isDuringRSRVCC = false → s.csControl = none) →
      CsListStep s L
        ({ s with currentCsCallInfoList := L, isDuringRSRVCC := duringRSRVCC }, [])
  | asked (t : CSControl) : L.callSize = 0 → s.csControl = some t →
      t.hasEndCallWithoutReason L = true →
      CsListStep s L ({ s with currentCsCallInfoList := L }, [.getCallFailReason .cs])
  | hungUp (t : CSControl) : L.callSize = 0 → s.csControl = some t →
      t.hasEndCallWithoutReason L = false →
      CsListStep s L ({ s with currentCsCallInfoList := L, csControl := none },
        (t.reportHangUpInfo P slotId).2)
  | processed (t : CSControl) : L.callSize ≠ 0 → s.csControlFor L = some t →
      CsListStep s L
        ({ s with
            currentCsCallInfoList := L
            csControl := some (t.reportCsCallsData P s.registered slotId L true).1
            imsControl := s.markSilent L },
          (t.reportCsCallsData P s.registered slotId L true).2)

theorem csListStep (s : Slot) (L : CallInfoList) :
    CsListStep P slotId s L (s.reportCsCallsData P slotId L) := by
  unfold reportCsCallsData
  dsimp only
  split
  · rename_i hsize
    have hle : L.callSize ≤ 0 := by omega
    unfold reportNoCsCallsData
    dsimp only
    split
    · rename_i hrsrvcc
      exact .idle false fun _ h => by rw [h] at hrsrvcc; cases hrsrvcc
    · split
      · rename_i hcontrol
        exact .idle s.isDuringRSRVCC fun _ _ => hcontrol
      · rename_i t hcontrol
        cases hend : t.hasEndCallWithoutReason L with
        | true =>
          have hask : t.reportCsCallsData P s.registered slotId L true =
              (t, [.getCallFailReason .cs]) := by
            simp [CSControl.reportCsCallsData, hle, hend]
          rw [hask, if_pos hend, ← hcontrol]
          exact .asked t hsize hcontrol hend
        | false =>
          have hhang : t.reportCsCallsData P s.registered slotId L true =
              t.reportHangUpInfo P slotId := by
            simp [CSControl.reportCsCallsData, hle, hend]
          have hgone : (t.reportHangUpInfo P slotId).1.hasEndCallWithoutReason L = false := by
            simp [CSControl.hasEndCallWithoutReason, CallTable.hasEndCallWithoutReason,
              CSControl.reportHangUpInfo, OrdMap.any_eq_false_iff]
          rw [hhang, hgone]
          exact .hungUp t hsize hcontrol hend
  · rename_i hsize
    split
    · exact .idle s.isDuringRSRVCC fun h => absurd h hsize
    · split
      · exact .idle s.isDuringRSRVCC fun h => absurd h hsize
      · rename_i t hcontrol
        have hprocessed : CsListStep P slotId s L (_, _) := .processed t hsize hcontrol
        split
        · rename_i hsilent
          have hmark : s.markSilent L = s.imsControl.map fun c => c.setSilentCsRedialFlag true :=
            if_pos hsilent
          rw [hmark] at hprocessed
          exact hprocessed
        · rename_i hsilent
          have hmark : s.markSilent L = s.imsControl := if_neg hsilent
          rw [hmark] at hprocessed
          exact hprocessed

/-- A CS list that finds no control is remembered, and nothing more. -/
theorem reportCsCallsData_of_no_control {s : Slot} {L : CallInfoList}
    (hnone : s.csControlFor L = none) :
    ∃ duringRSRVCC, s.reportCsCallsData P slotId L =
      ({ s with currentCsCallInfoList := L, isDuringRSRVCC := duringRSRVCC }, []) := by
  have hstep := csListStep P slotId s L
  generalize s.reportCsCallsData P slotId L = result at hstep
  cases hstep with
  | idle duringRSRVCC => exact ⟨duringRSRVCC, rfl⟩
  | asked t _ ht =>
    rw [csControlFor, ht] at hnone
    cases hnone
  | hungUp t _ ht =>
    rw [csControlFor, ht] at hnone
    cases hnone
  | processed t _ ht =>
    rw [hnone] at ht
    cases ht

/-- The same for an IMS list. -/
inductive ImsListStep (s : Slot) (L : ImsCurrentCallList) : Slot × List Output → Prop
  | idle : (L.callSize = 0 → s.imsControl = none) →
      ImsListStep s L ({ s with currentCallList := L }, [])
  | asked (t : IMSControl) : L.callSize = 0 → s.imsControl = some t →
      t.hasEndCallWithoutReason L = true →
      ImsListStep s L ({ s with currentCallList := L }, [.getCallFailReason .ims])
  | hungUp (t : IMSControl) : L.callSize = 0 → s.imsControl = some t →
      t.hasEndCallWithoutReason L = false →
      ImsListStep s L ({ s with currentCallList := L, imsControl := none },
        (t.reportHangUpInfo P slotId).2)
  | processed (t : IMSControl) : L.callSize ≠ 0 → s.imsControlFor L = some t →
      ImsListStep s L
        ({ s with
            currentCallList := L
            imsControl := some
              (t.reportImsCallsData P s.registered slotId L (t.hasEndCallWithoutReason L)).1 },
          (t.reportImsCallsData P s.registered slotId L (t.hasEndCallWithoutReason L)).2)

theorem imsListStep (s : Slot) (L : ImsCurrentCallList) :
    ImsListStep P slotId s L (s.reportImsCallsData P slotId L) := by
  unfold reportImsCallsData
  dsimp only
  split
  · rename_i hsize
    have hle : L.callSize ≤ 0 := by omega
    unfold reportNoImsCallsData
    dsimp only
    split
    · rename_i hcontrol
      exact .idle fun _ => hcontrol
    · rename_i t hcontrol
      cases hend : t.hasEndCallWithoutReason L with
      | true =>
        have hask : t.reportImsCallsData P s.registered slotId L true =
            (t, [.getCallFailReason .ims]) := by
          simp [IMSControl.reportImsCallsData, hle]
        rw [hask, if_pos rfl, ← hcontrol]
        exact .asked t hsize hcontrol hend
      | false =>
        have hhang : t.reportImsCallsData P s.registered slotId L false =
            t.reportHangUpInfo P slotId := by
          simp [IMSControl.reportImsCallsData, hle]
        rw [hhang]
        exact .hungUp t hsize hcontrol hend
  · rename_i hsize
    split
    · exact .idle fun h => absurd h hsize
    · split
      · exact .idle fun h => absurd h hsize
      · rename_i t hcontrol
        exact .processed t hsize hcontrol

/-- An IMS list that finds no control is remembered, and nothing more. -/
theorem reportImsCallsData_of_no_control {s : Slot} {L : ImsCurrentCallList}
    (hnone : s.imsControlFor L = none) :
    s.reportImsCallsData P slotId L = ({ s with currentCallList := L }, []) := by
  have hstep := imsListStep P slotId s L
  generalize s.reportImsCallsData P slotId L = result at hstep
  cases hstep with
  | idle => rfl
  | asked t _ ht =>
    rw [imsControlFor, ht] at hnone
    cases hnone
  | hungUp t _ ht =>
    rw [imsControlFor, ht] at hnone
    cases hnone
  | processed t _ ht =>
    rw [hnone] at ht
    cases ht

section
variable (s : Slot)

@[simp] theorem csControl_dropEmpty :
    (handleCallDisconnectReason.dropEmpty s).csControl =
      if s.currentCsCallInfoList.callSize = 0 then none else s.csControl := by
  unfold handleCallDisconnectReason.dropEmpty
  dsimp only
  split <;> split <;> simp_all

@[simp] theorem imsControl_dropEmpty :
    (handleCallDisconnectReason.dropEmpty s).imsControl =
      if s.currentCallList.callSize = 0 then none else s.imsControl := by
  unfold handleCallDisconnectReason.dropEmpty
  dsimp only
  split <;> split <;> simp_all

@[simp] theorem currentCsCallInfoList_dropEmpty :
    (handleCallDisconnectReason.dropEmpty s).currentCsCallInfoList = s.currentCsCallInfoList := by
  unfold handleCallDisconnectReason.dropEmpty
  dsimp only
  split <;> split <;> rfl

@[simp] theorem currentCallList_dropEmpty :
    (handleCallDisconnectReason.dropEmpty s).currentCallList = s.currentCallList := by
  unfold handleCallDisconnectReason.dropEmpty
  dsimp only
  split <;> split <;> rfl

end

end Slot

end CellularCall
