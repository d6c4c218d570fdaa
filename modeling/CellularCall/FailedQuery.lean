import CellularCall.Control.Satellite
import CellularCall.Lib.Regex
import CellularCall.SlotInvariant

/-!
# A failed query ends no call

The answer to a query for the current calls is a list, an error or nothing.  The
handlers of the CS and the IMS answers report an error and leave the calls alone.
That of the satellite answer makes up a list of no calls instead.

`SettledSlot` is a slot between two answers, with the control of its satellite
calls; every state of `queriedMachine` is one.  `harmless_iff` says which answers
end no call that is still there.
-/

namespace CellularCall

open Lib CallTable

/-! ## Answers -/

/-- What answers a query for the calls of a domain: a list, a `RadioResponseInfo`
with its error, or nothing. -/
inductive QueryAnswer (κ : Type) where
  | list (L : CallList κ)
  | responseInfo (error : Int)
  | nothing
deriving DecidableEq, Repr

/-- `ErrType::NONE`. -/
def errTypeNone : Int := 0

/-- `RequestResultEventId`, as far as a query reports it. -/
inductive RequestResultEventId where
  | resultGetCurrentCallsFailed
deriving DecidableEq, Repr

/-- What the handler of an answer sends: what a control does, or that the query
failed. -/
inductive QueryOutput where
  | control (output : Output)
  | reportEventResultInfo (eventId : RequestResultEventId)
  | reportGetCallDataResult (error : Int)
deriving DecidableEq, Repr

/-- A report of calls. -/
def QueryOutput.isReport : QueryOutput → Bool
  | .control output => output.isReport
  | _ => false

/-! ## Numbers -/

/-- `CN_INTERNATIONAL_NUMBER_PREFIX`. -/
def cnInternationalNumberPrefix : Str := ['+', '8', '6']

/-- `replacePrefix`, on a SIM of country 460. -/
def replacePrefix (imsi number : Str) : Str :=
  let prefix1 : Str := ['0', '0', '8', '6']
  let prefix2 : Str := ['0', '8', '6']
  if imsi.take 3 ≠ ['4', '6', '0'] then number
  else if number.length > prefix1.length ∧ prefix1 <+: number then
    cnInternationalNumberPrefix ++ number.drop prefix1.length
  else if number.length > prefix2.length ∧ prefix2 <+: number then
    cnInternationalNumberPrefix ++ number.drop prefix2.length
  else number

/-- `13[0-9]|14[0-9]|15[0-9]|162|165|166|167|17[0-9]|18[0-9]|19[0-9]`. -/
def mobilePattern : Regex Char :=
  let digit (w : Str) : Regex Char := .seq (.word w) (.rep Char.isDigit 1 (some 1))
  .alt (digit ['1', '3']) (.alt (digit ['1', '4']) (.alt (digit ['1', '5'])
    (.alt (.word ['1', '6', '2']) (.alt (.word ['1', '6', '5']) (.alt (.word ['1', '6', '6'])
      (.alt (.word ['1', '6', '7']) (.alt (digit ['1', '7']) (.alt (digit ['1', '8'])
        (digit ['1', '9'])))))))))

/-- `DUPLICATIVE_CN_INTERNATIONAL_NUMBER_PREFIX_FORMAT`. -/
def phoneContextPattern : Regex Char :=
  .seq (.group 1 (.seq (.opt (.word ['+'])) (.word ['8', '6']))) (.seq (.opt (.word ['8', '6']))
    (.seq (.group 2 mobilePattern) (.group 3 (.rep Char.isDigit 8 (some 8)))))

/-- `DOUBLE_PHONE_NUMBER_PREFIX`, for a number of this type. -/
def doublePhoneNumberPrefix (type : Int) : Str :=
  if type = 145 then ['+', '8', '6', '8', '6'] else ['8', '6', '8', '6']

/-- What `ProcessRedundantCode` makes of the number of a call. -/
def redundantCode (callInfo : CallInfo) : Str :=
  let doublePrefix := doublePhoneNumberPrefix callInfo.type
  if callInfo.number.length ≠ 15 ∧ callInfo.number.length ≠ 16 then callInfo.number
  else if ¬doublePrefix <+: callInfo.number then callInfo.number
  else if (phoneContextPattern.fullMatch callInfo.number).isSome then
    cnInternationalNumberPrefix ++ callInfo.number.drop doublePrefix.length
  else callInfo.number

/-- The common shape of `ProcessCsPhoneNumber`, `ProcessImsPhoneNumber` and
`ProcessRedundantCode`: each call of a list is changed. -/
def processCalls {κ : Type} (f : κ → κ) (L : CallList κ) : CallList κ :=
  if L.callSize = 0 ∨ L.calls.isEmpty = true then L else { L with calls := L.calls.map f }

def processCsPhoneNumber (imsi : Str) : CallInfoList → CallInfoList :=
  processCalls fun call => { call with number := replacePrefix imsi call.number }

def processRedundantCode : CallInfoList → CallInfoList :=
  processCalls fun call => { call with number := redundantCode call }

def processImsPhoneNumber (imsi : Str) : ImsCurrentCallList → ImsCurrentCallList :=
  processCalls fun call => { call with number := replacePrefix imsi call.number }

/-! ## Handlers -/

/-- A slot with the control of its satellite calls. -/
structure QueriedSlot where
  slot : Slot
  satelliteControl : Option SatelliteControl
deriving DecidableEq

namespace QueriedSlot

variable (P : Platform) (slotId : Int)

/-- `GetCsCallsDataResponse`. -/
def getCsCallsDataResponse (s : QueriedSlot) (imsi : Str) (answer : QueryAnswer CallInfo) :
    QueriedSlot × List QueryOutput :=
  match answer with
  | .list L =>
    let L := processRedundantCode (processCsPhoneNumber imsi L)
    let (slot, outputs) := s.slot.reportCsCallsData P slotId L
    ({ s with slot := slot }, outputs.map .control)
  | .responseInfo error =>
    if error = errTypeNone then (s, [])
    else (s, [.reportEventResultInfo .resultGetCurrentCallsFailed])
  | .nothing => (s, [])

/-- `GetImsCallsDataResponse`. -/
def getImsCallsDataResponse (s : QueriedSlot) (imsi : Str)
    (answer : QueryAnswer ImsCurrentCall) : QueriedSlot × List QueryOutput :=
  match answer with
  | .list L =>
    let (slot, outputs) := s.slot.reportImsCallsData P slotId (processImsPhoneNumber imsi L)
    ({ s with slot := slot }, outputs.map .control)
  | .responseInfo error =>
    if error = errTypeNone then (s, []) else (s, [.reportGetCallDataResult error])
  | .nothing => (s, [])

/-- A satellite list reaches a control: an existing one, or a new one for a
single call. -/
def satelliteControlFor (s : QueriedSlot) (L : SatelliteCurrentCallList) :
    Option SatelliteControl :=
  match s.satelliteControl with
  | some satelliteControl => some satelliteControl
  | none => if L.callSize = 1 then some CallTable.fresh else none

/-- `ReportSatelliteCallsData`: the control is dropped when there are no calls. -/
def reportSatelliteCallsData (s : QueriedSlot) (L : SatelliteCurrentCallList) :
    QueriedSlot × List QueryOutput :=
  if L.callSize = 0 then
    match s.satelliteControl with
    | none => (s, [])
    | some satelliteControl =>
      let (_, outputs) := satelliteControl.reportSatelliteCallsData P s.slot.registered slotId L
      ({ s with satelliteControl := none }, outputs.map .control)
  else
    match s.satelliteControlFor L with
    | none => (s, [])
    | some satelliteControl =>
      let (satelliteControl, outputs) :=
        satelliteControl.reportSatelliteCallsData P s.slot.registered slotId L
      ({ s with satelliteControl := some satelliteControl }, outputs.map .control)

/-- `GetSatelliteCallsDataResponse`: where there is no list, a new one has no
calls. -/
def getSatelliteCallsDataResponse (s : QueriedSlot) (answer : QueryAnswer SatelliteCurrentCall) :
    QueriedSlot × List QueryOutput :=
  match answer with
  | .list L => s.reportSatelliteCallsData P slotId L
  | .responseInfo _ => s.reportSatelliteCallsData P slotId .none
  | .nothing => s.reportSatelliteCallsData P slotId .none

end QueriedSlot

/-- The answer to a query for the calls of one domain, with the IMSI at the time. -/
inductive CallsDataResponse where
  | cs (imsi : Str) (answer : QueryAnswer CallInfo)
  | ims (imsi : Str) (answer : QueryAnswer ImsCurrentCall)
  | satellite (answer : QueryAnswer SatelliteCurrentCall)
deriving DecidableEq, Repr

/-- The answer is no list. -/
def QueryAnswer.failed {κ : Type} : QueryAnswer κ → Bool
  | .list _ => false
  | _ => true

/-- The calls a list has: none, whatever follows, where it announces none. -/
def QueryAnswer.indices {κ : Type} (index : κ → Int) : QueryAnswer κ → Option (List Int)
  | .list L => some (if 0 < L.callSize then L.calls.map index else [])
  | _ => none

namespace CallsDataResponse

def failed : CallsDataResponse → Bool
  | cs _ answer => answer.failed
  | ims _ answer => answer.failed
  | satellite answer => answer.failed

/-- The calls of a domain that the answer lists. -/
def indices : CallsDataResponse → CallType → Option (List Int)
  | cs _ answer, .cs => answer.indices CallInfo.index
  | ims _ answer, .ims => answer.indices ImsCurrentCall.index
  | satellite answer, .satellite => answer.indices SatelliteCurrentCall.index
  | _, _ => none

end CallsDataResponse

namespace QueriedSlot

variable (P : Platform) (slotId : Int)

/-- The handler of an answer. -/
def callsDataResponse (s : QueriedSlot) : CallsDataResponse → QueriedSlot × List QueryOutput
  | .cs imsi answer => s.getCsCallsDataResponse P slotId imsi answer
  | .ims imsi answer => s.getImsCallsDataResponse P slotId imsi answer
  | .satellite answer => s.getSatelliteCallsDataResponse P slotId answer

/-- The satellite control, or the one that would be created. -/
def satelliteOrFresh (s : QueriedSlot) : SatelliteControl :=
  s.satelliteControl.getD CallTable.fresh

/-- The calls of a domain that are tracked. -/
def keys (s : QueriedSlot) : CallType → List Int
  | .cs => s.slot.csKeys
  | .ims => s.slot.imsKeys
  | .satellite => s.satelliteOrFresh.connectionMap.keys
  | .other _ => []

/-- An answer that is no list changes nothing and reports no call, and a call
ends only by a list of its domain that does not have it. -/
structure Harmless (s : QueriedSlot) (response : CallsDataResponse) : Prop where
  unchanged : response.failed = true → (s.callsDataResponse P slotId response).1 = s
  quiet : response.failed = true →
    ∀ o ∈ (s.callsDataResponse P slotId response).2, o.isReport = false
  ended : ∀ domain, ∀ k ∈ s.keys domain,
    k ∉ (s.callsDataResponse P slotId response).1.keys domain →
      ∃ indices, response.indices domain = some indices ∧ k ∉ indices

/-- Each connection is stored under its own index, and none is marked. -/
structure Settled (s : QueriedSlot) : Prop where
  slot : s.slot.Holds settledSpec
  satellite : ∀ t, s.satelliteControl = some t → CallTable.Settled t.connectionMap

end QueriedSlot

/-! ## Ended calls -/

section
variable {κ : Type} (f : κ → κ) (L : CallList κ)

theorem callSize_processCalls : (processCalls f L).callSize = L.callSize := by
  unfold processCalls
  split <;> rfl

theorem map_processCalls {index : κ → Int} (hindex : ∀ call, index (f call) = index call) :
    (processCalls f L).calls.map index = L.calls.map index := by
  unfold processCalls
  split
  · rfl
  · rw [List.map_map]
    exact List.map_congr_left fun call _ => hindex call

/-- A list has the same calls after its numbers are changed. -/
theorem indices_processCalls {index : κ → Int} (hindex : ∀ call, index (f call) = index call) :
    (QueryAnswer.list (processCalls f L)).indices index = (QueryAnswer.list L).indices index := by
  rw [QueryAnswer.indices, QueryAnswer.indices, callSize_processCalls,
    map_processCalls f L hindex]

end

theorem indices_processCsPhoneNumber (imsi : Str) (L : CallInfoList) :
    (QueryAnswer.list (processCsPhoneNumber imsi L)).indices CallInfo.index =
      (QueryAnswer.list L).indices CallInfo.index :=
  indices_processCalls _ L fun _ => rfl

theorem indices_processRedundantCode (L : CallInfoList) :
    (QueryAnswer.list (processRedundantCode L)).indices CallInfo.index =
      (QueryAnswer.list L).indices CallInfo.index :=
  indices_processCalls _ L fun _ => rfl

theorem indices_processImsPhoneNumber (imsi : Str) (L : ImsCurrentCallList) :
    (QueryAnswer.list (processImsPhoneNumber imsi L)).indices ImsCurrentCall.index =
      (QueryAnswer.list L).indices ImsCurrentCall.index :=
  indices_processCalls _ L fun _ => rfl

/-- No call is on a list that announces none. -/
theorem QueryAnswer.unlisted_of_callSize {κ : Type} (index : κ → Int) {L : CallList κ}
    (hsize : ¬0 < L.callSize) (k : Int) :
    ∃ indices, (QueryAnswer.list L).indices index = some indices ∧ k ∉ indices := by
  refine ⟨_, rfl, ?_⟩
  rw [if_neg hsize]
  exact List.not_mem_nil

/-- A call that a list ends is not on it, or the list announces no calls. -/
theorem CallTable.unlisted_of_ended {κ δ : Type} (D : CallDomain κ δ) (P : Platform)
    (registered : Bool) (slotId : Int) {t : CallTable δ}
    (ht : CallTable.Settled t.connectionMap) (silent ask : Bool) {L : CallList κ} {k : Int}
    (hk : k ∈ t.connectionMap.keys)
    (hgone : k ∉ (reportCallsData D P registered slotId silent t L ask).1.connectionMap.keys) :
    ∃ indices, (QueryAnswer.list L).indices D.index = some indices ∧ k ∉ indices := by
  by_cases hsize : 0 < L.callSize
  · refine ⟨_, rfl, ?_⟩
    rw [if_pos hsize]
    have hstep := listStep D P slotId registered silent t L ask
    generalize reportCallsData D P registered slotId silent t L ask = result at hstep hgone
    cases hstep with
    | asked => exact absurd hk hgone
    | hungUp _ hle => omega
    | incoming _ hempty =>
      rw [OrdMap.isEmpty_iff.mp hempty] at hk
      cases hk
    | updated =>
      rw [connectionMap_reportUpdateInfo] at hgone
      exact fun hmem => hgone ((mem_keys_updateInfo D P slotId ht L k).mpr hmem)
  · exact QueryAnswer.unlisted_of_callSize D.index hsize k

theorem Slot.csEnded {P : Platform} {slotId : Int} {s : Slot} (hs : s.Holds settledSpec)
    {L : CallInfoList} {k : Int} (hk : k ∈ s.csKeys)
    (hgone : k ∉ (s.reportCsCallsData P slotId L).1.csKeys) :
    ∃ indices, (QueryAnswer.list L).indices CallInfo.index = some indices ∧ k ∉ indices := by
  have hstep := csListStep P slotId s L
  generalize s.reportCsCallsData P slotId L = result at hstep hgone
  cases hstep with
  | idle => exact absurd hk hgone
  | asked => exact absurd hk hgone
  | hungUp t hsize => exact QueryAnswer.unlisted_of_callSize _ (by omega) k
  | processed t _ ht =>
    have hsettled := (holds_csControlFor hs L t ht).toSettled
    rw [csKeys, csOrFresh_of_csControlFor ht] at hk
    rw [csKeys_of_some rfl, CSControl.reportCsCallsData_eq] at hgone
    exact CallTable.unlisted_of_ended CSControl.domain.toCallDomain P s.registered slotId hsettled
      _ _ hk hgone

theorem Slot.imsEnded {P : Platform} {slotId : Int} {s : Slot} (hs : s.Holds settledSpec)
    {L : ImsCurrentCallList} {k : Int} (hk : k ∈ s.imsKeys)
    (hgone : k ∉ (s.reportImsCallsData P slotId L).1.imsKeys) :
    ∃ indices, (QueryAnswer.list L).indices ImsCurrentCall.index = some indices ∧
      k ∉ indices := by
  have hstep := imsListStep P slotId s L
  generalize s.reportImsCallsData P slotId L = result at hstep hgone
  cases hstep with
  | idle => exact absurd hk hgone
  | asked => exact absurd hk hgone
  | hungUp t hsize => exact QueryAnswer.unlisted_of_callSize _ (by omega) k
  | processed t _ ht =>
    have hsettled := (holds_imsControlFor hs L t ht).toSettled
    rw [imsKeys, imsOrFresh_of_imsControlFor ht] at hk
    rw [imsKeys_of_some rfl, IMSControl.reportImsCallsData_eq] at hgone
    exact CallTable.unlisted_of_ended IMSControl.domain.toCallDomain P s.registered slotId
      hsettled _ _ hk hgone

namespace QueriedSlot

variable {P : Platform} {slotId : Int} {s : QueriedSlot}

/-- The control a satellite list reaches is the one there is, as far as its
members go. -/
theorem satelliteControlFor_eq_some {L : SatelliteCurrentCallList} {t : SatelliteControl}
    (ht : s.satelliteControlFor L = some t) :
    s.satelliteControl = some t ∨ s.satelliteControl = none ∧ t = CallTable.fresh := by
  unfold satelliteControlFor at ht
  split at ht
  · rename_i t' ht'
    exact Or.inl (ht'.trans ht)
  · rename_i hnone
    split at ht
    · exact Or.inr ⟨hnone, (Option.some.inj ht).symm⟩
    · cases ht

theorem settled_satelliteControlFor (hs : s.Settled) {L : SatelliteCurrentCallList}
    {t : SatelliteControl} (ht : s.satelliteControlFor L = some t) :
    CallTable.Settled t.connectionMap := by
  rcases satelliteControlFor_eq_some ht with ht | ⟨-, rfl⟩
  · exact hs.satellite t ht
  · exact (CallTable.Holds.empty (J := fun _ _ => True)).toSettled

/-- The ways a satellite list can go: there is no control for it, it ends all
calls and drops the control, or it is processed. -/
inductive SatelliteStep (P : Platform) (slotId : Int) (s : QueriedSlot)
    (L : SatelliteCurrentCallList) : QueriedSlot × List QueryOutput → Prop
  | idle (h : L.callSize = 0 → s.satelliteControl = none) : SatelliteStep P slotId s L (s, [])
  | hungUp (t : SatelliteControl) (hsize : L.callSize = 0) (ht : s.satelliteControl = some t) :
      SatelliteStep P slotId s L ({ s with satelliteControl := none },
        (t.reportSatelliteCallsData P s.slot.registered slotId L).2.map .control)
  | processed (t : SatelliteControl) (hsize : L.callSize ≠ 0)
      (ht : s.satelliteControlFor L = some t) :
      SatelliteStep P slotId s L
        ({ s with
            satelliteControl := some
              (t.reportSatelliteCallsData P s.slot.registered slotId L).1 },
          (t.reportSatelliteCallsData P s.slot.registered slotId L).2.map .control)

theorem satelliteStep (P : Platform) (slotId : Int) (s : QueriedSlot)
    (L : SatelliteCurrentCallList) :
    SatelliteStep P slotId s L (s.reportSatelliteCallsData P slotId L) := by
  unfold reportSatelliteCallsData
  split
  · rename_i hsize
    split
    · rename_i hcontrol
      exact .idle fun _ => hcontrol
    · rename_i t hcontrol
      exact .hungUp t hsize hcontrol
  · rename_i hsize
    split
    · exact .idle fun h => absurd h hsize
    · rename_i t hcontrol
      exact .processed t hsize hcontrol

theorem satelliteEnded (hs : s.Settled) {L : SatelliteCurrentCallList} {k : Int}
    (hk : k ∈ s.keys .satellite)
    (hgone : k ∉ (s.reportSatelliteCallsData P slotId L).1.keys .satellite) :
    ∃ indices, (QueryAnswer.list L).indices SatelliteCurrentCall.index = some indices ∧
      k ∉ indices := by
  have hstep := satelliteStep P slotId s L
  generalize s.reportSatelliteCallsData P slotId L = result at hstep hgone
  cases hstep with
  | idle => exact absurd hk hgone
  | hungUp t hsize => exact QueryAnswer.unlisted_of_callSize _ (by omega) k
  | processed t _ ht =>
    have hbefore : s.satelliteOrFresh = t := by
      rcases satelliteControlFor_eq_some ht with ht | ⟨hnone, rfl⟩
      · rw [satelliteOrFresh, ht, Option.getD_some]
      · rw [satelliteOrFresh, hnone, Option.getD_none]
    rw [keys, hbefore] at hk
    exact CallTable.unlisted_of_ended SatelliteControl.domain P s.slot.registered slotId
      (settled_satelliteControlFor hs ht) false false hk hgone

/-- A satellite list leaves the slot's other controls alone. -/
theorem slot_reportSatelliteCallsData (slotId : Int) (L : SatelliteCurrentCallList) :
    (s.reportSatelliteCallsData P slotId L).1.slot = s.slot := by
  have hstep := satelliteStep P slotId s L
  generalize s.reportSatelliteCallsData P slotId L = result at hstep
  cases hstep <;> rfl

/-- A call ends only by a list of its domain that does not have it. -/
theorem ended_of_list (hs : s.Settled) {response : CallsDataResponse}
    (hlist : response.failed = false) (domain : CallType) (k : Int) (hk : k ∈ s.keys domain)
    (hgone : k ∉ (s.callsDataResponse P slotId response).1.keys domain) :
    ∃ indices, response.indices domain = some indices ∧ k ∉ indices := by
  cases response with
  | cs imsi answer =>
    cases answer with
    | responseInfo error => cases hlist
    | nothing => cases hlist
    | list L =>
      have hindices := (indices_processRedundantCode (processCsPhoneNumber imsi L)).trans
        (indices_processCsPhoneNumber imsi L)
      have hims := Slot.imsOrFresh_reportCsCallsData P slotId s.slot
        (processRedundantCode (processCsPhoneNumber imsi L))
      cases domain with
      | cs =>
        have hended := Slot.csEnded hs.slot hk hgone
        rw [hindices] at hended
        exact hended
      | ims =>
        refine absurd ?_ hgone
        simp only [keys, Slot.imsKeys, callsDataResponse, getCsCallsDataResponse, hims]
        exact hk
      | satellite => exact absurd hk hgone
      | other code => exact absurd hk hgone
  | ims imsi answer =>
    cases answer with
    | responseInfo error => cases hlist
    | nothing => cases hlist
    | list L =>
      have hindices := indices_processImsPhoneNumber imsi L
      have hcs := Slot.csOrFresh_reportImsCallsData P slotId s.slot
        (processImsPhoneNumber imsi L)
      cases domain with
      | cs =>
        refine absurd ?_ hgone
        simp only [keys, Slot.csKeys, callsDataResponse, getImsCallsDataResponse, hcs]
        exact hk
      | ims =>
        have hended := Slot.imsEnded hs.slot hk hgone
        rw [hindices] at hended
        exact hended
      | satellite => exact absurd hk hgone
      | other code => exact absurd hk hgone
  | satellite answer =>
    cases answer with
    | responseInfo error => cases hlist
    | nothing => cases hlist
    | list L =>
      have hslot := slot_reportSatelliteCallsData (P := P) (s := s) slotId L
      cases domain with
      | cs =>
        refine absurd ?_ hgone
        simp only [keys, callsDataResponse, getSatelliteCallsDataResponse, hslot]
        exact hk
      | ims =>
        refine absurd ?_ hgone
        simp only [keys, callsDataResponse, getSatelliteCallsDataResponse, hslot]
        exact hk
      | satellite => exact satelliteEnded hs hk hgone
      | other code => exact absurd hk hgone

/-! ## Settled slots -/

theorem settled_reportSatelliteCallsData (hs : s.Settled) (slotId : Int)
    (L : SatelliteCurrentCallList) : (s.reportSatelliteCallsData P slotId L).1.Settled := by
  have hstep := satelliteStep P slotId s L
  generalize s.reportSatelliteCallsData P slotId L = result at hstep
  cases hstep with
  | idle => exact hs
  | hungUp => exact ⟨hs.slot, fun t ht => absurd ht (by simp)⟩
  | processed t hsize ht =>
    refine ⟨hs.slot, fun t' ht' => ?_⟩
    obtain rfl := Option.some.inj ht'
    have hholds : CallTable.Holds (fun _ _ => True)
        (reportCallsData SatelliteControl.domain P s.slot.registered slotId false t L
          false).1.connectionMap :=
      (CallRule.trivial SatelliteControl.domain P slotId).holds_reportCallsData
        s.slot.registered (settled_satelliteControlFor hs ht).holds (fun _ _ => trivial) false
    exact hholds.toSettled

/-- The handlers of the answers keep the tables settled. -/
theorem settled_callsDataResponse (hs : s.Settled) (response : CallsDataResponse) :
    (s.callsDataResponse P slotId response).1.Settled := by
  cases response with
  | cs imsi answer =>
    cases answer with
    | list L =>
      exact ⟨Slot.holds_reportCsCallsData (settledSpec_sound P slotId) hs.slot
        fun _ _ => trivial, hs.satellite⟩
    | responseInfo error =>
      simp only [callsDataResponse, getCsCallsDataResponse]
      split <;> exact hs
    | nothing => exact hs
  | ims imsi answer =>
    cases answer with
    | list L =>
      exact ⟨Slot.holds_reportImsCallsData (settledSpec_sound P slotId) hs.slot
        fun _ _ => trivial, hs.satellite⟩
    | responseInfo error =>
      simp only [callsDataResponse, getImsCallsDataResponse]
      split <;> exact hs
    | nothing => exact hs
  | satellite answer => cases answer <;> exact settled_reportSatelliteCallsData hs slotId _

end QueriedSlot

/-- A slot between two answers. -/
structure SettledSlot extends QueriedSlot where
  settled : toQueriedSlot.Settled

/-- What reaches a slot: its events, the answers to its queries, and a satellite
dial, which creates the control. -/
inductive QueryEvent where
  | event (e : Event)
  | response (response : CallsDataResponse)
  | dialSatellite

/-- A slot with its satellite control, as a machine. -/
def queriedMachine (P : Platform) (slotId : Int) : Machine QueriedSlot QueryEvent QueryOutput where
  init := ⟨.init, none⟩
  step s
    | .event e =>
      let (slot, outputs) := (slotMachine P slotId).step s.slot e
      ({ s with slot := slot }, outputs.map .control)
    | .response response => s.callsDataResponse P slotId response
    | .dialSatellite => ({ s with satelliteControl := some s.satelliteOrFresh }, [])

/-- Every slot that is reached is settled. -/
theorem settled_of_queriedRun {P : Platform} {slotId : Int} {s : QueriedSlot} {h : Unit}
    (hrun : Run (queriedMachine P slotId) Monitor.free unconditional s h) : s.Settled := by
  refine Run.invariant (I := fun s _ => s.Settled)
    ⟨Slot.Holds.init, fun t ht => absurd ht (by simp [queriedMachine])⟩ ?_ hrun
  intro s _ e hs _ _
  cases e with
  | event e =>
    exact ⟨Slot.holds_step (settledSpec_sound P slotId) hs.slot (settledSpec_admits e),
      hs.satellite⟩
  | response response => exact QueriedSlot.settled_callsDataResponse hs response
  | dialSatellite =>
    refine ⟨hs.slot, fun t ht => ?_⟩
    obtain rfl := Option.some.inj ht
    cases hcontrol : s.satelliteControl with
    | none =>
      rw [QueriedSlot.satelliteOrFresh, hcontrol]
      exact (CallTable.Holds.empty (J := fun _ _ => True)).toSettled
    | some t =>
      rw [QueriedSlot.satelliteOrFresh, hcontrol]
      exact hs.satellite t hcontrol

namespace QueriedSlot

variable {P : Platform} {slotId : Int} {s : QueriedSlot}

/-! ## Failed queries -/

/-- A handler that at most reports a failure changes nothing and reports no
call. -/
theorem quiet_of_failure (s : QueriedSlot) (noReason : Prop) [Decidable noReason]
    {failure : QueryOutput} (hfailure : failure.isReport = false) :
    (if noReason then (s, []) else (s, [failure])).1 = s ∧
      ∀ o ∈ (if noReason then (s, []) else (s, [failure])).2, o.isReport = false := by
  split
  · exact ⟨rfl, fun o ho => absurd ho List.not_mem_nil⟩
  · refine ⟨rfl, fun o ho => ?_⟩
    rw [List.mem_singleton.mp ho]
    exact hfailure

theorem cs_of_failed {imsi : Str} {answer : QueryAnswer CallInfo} (h : answer.failed = true) :
    (s.getCsCallsDataResponse P slotId imsi answer).1 = s ∧
      ∀ o ∈ (s.getCsCallsDataResponse P slotId imsi answer).2, o.isReport = false := by
  cases answer with
  | list L => cases h
  | nothing => exact ⟨rfl, fun o ho => absurd ho List.not_mem_nil⟩
  | responseInfo error => exact quiet_of_failure s (error = errTypeNone) rfl

theorem ims_of_failed {imsi : Str} {answer : QueryAnswer ImsCurrentCall}
    (h : answer.failed = true) :
    (s.getImsCallsDataResponse P slotId imsi answer).1 = s ∧
      ∀ o ∈ (s.getImsCallsDataResponse P slotId imsi answer).2, o.isReport = false := by
  cases answer with
  | list L => cases h
  | nothing => exact ⟨rfl, fun o ho => absurd ho List.not_mem_nil⟩
  | responseInfo error => exact quiet_of_failure s (error = errTypeNone) rfl

/-- The satellite handler drops the control. -/
theorem satellite_of_failed (slotId : Int) {answer : QueryAnswer SatelliteCurrentCall}
    (h : answer.failed = true) :
    (s.getSatelliteCallsDataResponse P slotId answer).1 = { s with satelliteControl := none } ∧
      (s.satelliteControl = none →
        (s.getSatelliteCallsDataResponse P slotId answer).2 = []) := by
  have hmadeUp : s.getSatelliteCallsDataResponse P slotId answer =
      s.reportSatelliteCallsData P slotId .none := by
    cases answer with
    | list L => cases h
    | responseInfo error => rfl
    | nothing => rfl
  have hstep := satelliteStep P slotId s .none
  rw [hmadeUp]
  generalize s.reportSatelliteCallsData P slotId .none = result at hstep
  cases hstep with
  | idle hnone =>
    rw [← hnone rfl]
    exact ⟨rfl, fun _ => rfl⟩
  | hungUp t _ ht =>
    refine ⟨rfl, fun hnone => ?_⟩
    rw [hnone] at ht
    cases ht
  | processed t hsize => exact absurd rfl hsize

/-- An answer ends only calls that are gone, unless it is a failed satellite
query that finds a control. -/
theorem harmless_iff (P : Platform) (slotId : Int) (s : SettledSlot)
    (response : CallsDataResponse) :
    s.toQueriedSlot.Harmless P slotId response ↔
      ∀ answer, response = .satellite answer → answer.failed = true →
        s.satelliteControl = none := by
  constructor
  · rintro h answer rfl hfailed
    have hunchanged := h.unchanged hfailed
    have hdropped := (satellite_of_failed (P := P) (s := s.toQueriedSlot)
      slotId hfailed).1
    rw [callsDataResponse, hdropped] at hunchanged
    exact (congrArg QueriedSlot.satelliteControl hunchanged).symm
  · intro h
    have hfailed : response.failed = true →
        (s.toQueriedSlot.callsDataResponse P slotId response).1 = s.toQueriedSlot ∧
          ∀ o ∈ (s.toQueriedSlot.callsDataResponse P slotId response).2, o.isReport = false := by
      intro hfailed
      cases response with
      | cs imsi answer => exact cs_of_failed hfailed
      | ims imsi answer => exact ims_of_failed hfailed
      | satellite answer =>
        have hnone := h answer rfl hfailed
        obtain ⟨hdropped, hquiet⟩ := satellite_of_failed (P := P) (s := s.toQueriedSlot)
          slotId hfailed
        refine ⟨hdropped.trans ?_, fun o ho => ?_⟩
        · rw [← hnone]
        · rw [callsDataResponse, hquiet hnone] at ho
          cases ho
    refine ⟨fun hf => (hfailed hf).1, fun hf => (hfailed hf).2, fun domain k hk hgone => ?_⟩
    cases hlist : response.failed with
    | true =>
      rw [(hfailed hlist).1] at hgone
      exact absurd hk hgone
    | false => exact ended_of_list s.settled hlist domain k hk hgone

/-- A satellite call is tracked, and the next query is answered with an error:
the call is gone, and no list was without it. -/
theorem not_harmless :
    ¬∀ (P : Platform) (slotId : Int) (s : SettledSlot) (response : CallsDataResponse),
      s.toQueriedSlot.Harmless P slotId response := by
  intro hclaim
  obtain ⟨s, hrun, hk⟩ : ∃ s, Run (queriedMachine .plain 0) Monitor.free unconditional s () ∧
      1 ∈ s.keys .satellite :=
    ⟨_, Run.of_admits [.response (.satellite (.list (.of [.plain 1 .active])))] (by decide),
      by decide⟩
  have hgone : 1 ∉ (s.callsDataResponse .plain 0 (.satellite (.responseInfo 1))).1.keys
      .satellite := by
    rw [callsDataResponse, (satellite_of_failed 0 rfl).1]
    exact List.not_mem_nil
  obtain ⟨_, hlisted, -⟩ := (hclaim .plain 0 ⟨s, settled_of_queriedRun hrun⟩
    (.satellite (.responseInfo 1))).ended .satellite 1 hk hgone
  cases hlisted

end QueriedSlot

end CellularCall
