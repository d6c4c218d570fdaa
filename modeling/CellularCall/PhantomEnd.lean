import CellularCall.ListTracking
import CellularCall.ReportIdentity

/-!
# Only calls that are gone are reported ended

A call ends when the list of its domain no longer has it.  A disconnect reason
makes the handler process the last list again, but that of the IMS control
whenever there is one, whichever control asked for the reason.

`NoPhantomEnd` says that no call on the last list of its domain is reported
ended, and that a disconnect reason ends no call of the other domain.
`endings` remembers the lists and the controls that wait for a reason, and
`noPhantomEnd_of_run` shows when the handler meets it.
-/

namespace CellularCall

open Lib CallTable

/-- What a control reports of single calls. -/
def Output.entries (sender : CallType) (outputs : List Output) : List CallReportInfo :=
  ((Output.reports outputs).filter fun report => report.1 == sender).flatMap fun report =>
    report.2.callVec

/-- The ended calls that a control reports. -/
def Output.ends (sender : CallType) (outputs : List Output) : List CallReportInfo :=
  (Output.entries sender outputs).filter fun r => r.state == .disconnected

theorem Output.mem_entries_iff {sender : CallType} {outputs : List Output} {r : CallReportInfo} :
    r ∈ Output.entries sender outputs ↔
      ∃ info, (sender, info) ∈ Output.reports outputs ∧ r ∈ info.callVec := by
  simp only [Output.entries, List.mem_flatMap, List.mem_filter, beq_iff_eq]
  constructor
  · intro h
    obtain ⟨⟨sender', info⟩, ⟨hreport, rfl⟩, hr⟩ := h
    exact ⟨info, hreport, hr⟩
  · intro h
    obtain ⟨info, hreport, hr⟩ := h
    exact ⟨(sender, info), ⟨hreport, rfl⟩, hr⟩

theorem Output.mem_ends_iff {sender : CallType} {outputs : List Output} {r : CallReportInfo} :
    r ∈ Output.ends sender outputs ↔ r.state = .disconnected ∧
      ∃ info, (sender, info) ∈ Output.reports outputs ∧ r ∈ info.callVec := by
  rw [Output.ends, List.mem_filter, beq_iff_eq, Output.mem_entries_iff, and_comm]

/-- Where nothing is reported under a type, there is no entry of it. -/
theorem Output.entries_eq_nil {sender : CallType} {outputs : List Output}
    (hsender : ∀ report ∈ Output.reports outputs, report.1 ≠ sender) :
    Output.entries sender outputs = [] := by
  refine List.eq_nil_iff_forall_not_mem.mpr ?_
  intro r hr
  obtain ⟨info, hreport, -⟩ := Output.mem_entries_iff.mp hr
  exact hsender _ hreport rfl

theorem Output.entries_of_reports_nil {sender : CallType} {outputs : List Output}
    (hquiet : Output.reports outputs = []) : Output.entries sender outputs = [] := by
  rw [Output.entries, hquiet]
  rfl

/-- Without an entry, no call is reported ended. -/
theorem Output.ends_eq_nil {sender : CallType} {outputs : List Output}
    (hnone : Output.entries sender outputs = []) : Output.ends sender outputs = [] := by
  rw [Output.ends, hnone]
  rfl

/-- What holds of the calls that are reported ended, where none is. -/
theorem Output.forall_mem_ends {sender : CallType} {outputs : List Output}
    {p : CallReportInfo → Prop} (hnone : Output.ends sender outputs = []) :
    ∀ r ∈ Output.ends sender outputs, p r := by
  rw [hnone]
  exact fun _ hr => absurd hr List.not_mem_nil

/-! ## One table -/

section
variable {κ δ : Type} (D : CallDomain κ δ) (P : Platform) (slotId : Int)

/-- Why a control reports a call ended: the list says so, the list does not have
it, or the table is empty and the default entry is sent. -/
inductive EndOrigin (silent : Bool) (t : CallTable δ) (L : CallList κ) (r : CallReportInfo) :
    Prop
  | listed (call : κ) : call ∈ L.calls →
      (D.encapsulationCallReportInfo P slotId call).state = .disconnected →
      EndOrigin silent t L r
  | gone (k : Int) : k ∈ t.connectionMap.keys → r.index = k →
      (0 < L.callSize → k ∉ L.calls.map D.index) →
      t.isIgnoredIncomingCall = false → (L.callSize ≤ 0 → silent = false) →
      EndOrigin silent t L r
  | default : L.callSize ≤ 0 → t.isIgnoredIncomingCall = false → silent = false →
      EndOrigin silent t L r

variable {D P slotId}

/-- A list makes a waiting call incoming, and ends none. -/
theorem state_listedReport {size : Nat} {call : κ}
    (hstate : (listedReport D P slotId size call).state = .disconnected) :
    (D.encapsulationCallReportInfo P slotId call).state = .disconnected := by
  unfold listedReport at hstate
  dsimp only at hstate
  split at hstate
  · cases hstate
  · exact hstate

variable {ok : κ → Prop} {t : CallTable δ} {L : CallList κ}

/-- Hanging up ends the calls of the table, or sends the default entry. -/
theorem Describes.endOrigin_reportHangUpInfo (hD : Describes D P slotId ok)
    (ht : CallTable.Holds (NamesItself D.callType slotId) t.connectionMap) {silent : Bool}
    (hsize : L.callSize ≤ 0) {r : CallReportInfo}
    (hr : r ∈ Output.ends D.callType (reportHangUpInfo D P slotId silent t).2) :
    EndOrigin D P slotId silent t L r := by
  obtain ⟨-, info, hinfo, hentry⟩ := Output.mem_ends_iff.mp hr
  rw [reports_reportHangUpInfo] at hinfo
  split at hinfo
  · cases hinfo
  · rename_i hloud
    obtain ⟨hignored, hsilent⟩ := Bool.or_eq_false_iff.mp (Bool.eq_false_iff.mpr hloud)
    rw [List.mem_singleton, Prod.mk.injEq] at hinfo
    rw [hinfo.2] at hentry
    cases hempty : t.connectionMap.isEmpty with
    | true => exact .default hsize hignored hsilent
    | false =>
      have hnames := hD.names_hangUp ht hempty
      have hmem := List.mem_map_of_mem (f := CallReportInfo.identity) hentry
      rw [hnames] at hmem
      obtain ⟨k, hk, hidentity⟩ := List.mem_map.mp hmem
      simp only [CallReportInfo.identity, Prod.mk.injEq] at hidentity
      exact .gone k hk hidentity.2.2.symm (fun h => by omega) hignored fun _ => hsilent

/-- An update ends the calls the list does not have. -/
theorem Describes.endOrigin_updateInfo (hD : Describes D P slotId ok)
    (ht : CallTable.Holds (NamesItself D.callType slotId) t.connectionMap) {silent : Bool}
    (hsize : 0 < L.callSize) (hignored : t.isIgnoredIncomingCall = false) {r : CallReportInfo}
    (hstate : r.state = .disconnected) (hr : r ∈ (updateInfo D P slotId t L).2.1.callVec) :
    EndOrigin D P slotId silent t L r := by
  rw [callVec_updateInfo D P slotId ht.toSettled L] at hr
  obtain hlisted | hended := List.mem_append.mp hr
  · obtain ⟨call, hcall, rfl⟩ := List.mem_map.mp hlisted
    exact .listed call hcall (state_listedReport hstate)
  · obtain ⟨c, hc, rfl⟩ := List.mem_map.mp hended
    obtain ⟨k, hget⟩ := OrdMap.mem_values_iff.mp hc
    have hget' := hget
    rw [unlisted, OrdMap.get?_filter, Option.filter_eq_some_iff] at hget'
    have hk : k ∈ (unlisted D L.calls t.connectionMap).keys := OrdMap.mem_keys_iff.mpr ⟨c, hget⟩
    rw [keys_unlisted D ht.keyed] at hk
    obtain ⟨htracked, hgone⟩ := List.mem_filter.mp hk
    have hidentity : (endedReport D c).identity = (D.callType, slotId, k) :=
      (hD.ended c.own _).trans (ht.each k c hget'.1)
    simp only [CallReportInfo.identity, Prod.mk.injEq] at hidentity
    exact .gone k htracked hidentity.2.2 (fun _ => of_decide_eq_true hgone) hignored
      fun h => by omega

/-- Why a control that processes a list reports a call ended. -/
theorem Describes.endOrigin_reportCallsData (hD : Describes D P slotId ok)
    (ht : CallTable.Holds (NamesItself D.callType slotId) t.connectionMap)
    {registered silent ask : Bool} {r : CallReportInfo}
    (hr : r ∈ Output.ends D.callType
      (reportCallsData D P registered slotId silent t L ask).2) :
    EndOrigin D P slotId silent t L r := by
  have hstep := listStep D P slotId registered silent t L ask
  generalize reportCallsData D P registered slotId silent t L ask = result at hstep hr
  cases hstep with
  | asked => cases hr
  | hungUp _ hsize => exact hD.endOrigin_reportHangUpInfo ht hsize hr
  | incoming =>
    obtain ⟨hstate, info, hinfo, hentry⟩ := Output.mem_ends_iff.mp hr
    rw [reports_reportIncomingInfo] at hinfo
    split at hinfo
    · cases hinfo
    · rw [List.mem_singleton, Prod.mk.injEq] at hinfo
      rw [hinfo.2] at hentry
      obtain ⟨call, hcall, rfl⟩ := List.mem_map.mp hentry
      exact .listed call hcall hstate
  | updated _ hsize _ =>
    obtain ⟨hstate, info, hinfo, hentry⟩ := Output.mem_ends_iff.mp hr
    rw [reports_reportUpdateInfo] at hinfo
    split at hinfo
    · cases hinfo
    · rename_i hignored
      rw [List.mem_singleton, Prod.mk.injEq] at hinfo
      rw [hinfo.2] at hentry
      exact hD.endOrigin_updateInfo ht hsize (Bool.eq_false_iff.mpr hignored) hstate hentry

/-- Processing a list that ends no call again ends none: the report is kept back,
or every tracked call is listed. -/
def EndsNothing (silent : Bool) (t : CallTable δ) (callSize : Int) (listed : List Int) : Prop :=
  t.isIgnoredIncomingCall = true ∨ callSize ≤ 0 ∧ silent = true ∨
    0 < callSize ∧ ∀ k ∈ t.connectionMap.keys, k ∈ listed

instance (silent : Bool) (t : CallTable δ) (callSize : Int) (listed : List Int) :
    Decidable (EndsNothing silent t callSize listed) :=
  inferInstanceAs (Decidable (_ ∨ _ ∧ _ ∨ _ ∧ ∀ k ∈ t.connectionMap.keys, k ∈ listed))

/-- A call that a control reports ended is not on the list it processes. -/
theorem EndOrigin.not_listed {silent : Bool} {r : CallReportInfo}
    (horigin : EndOrigin D P slotId silent t L r) (hL : L.Announced)
    (hopen : ∀ call ∈ L.calls,
      (D.encapsulationCallReportInfo P slotId call).state ≠ .disconnected) :
    r.index ∉ L.calls.map D.index := by
  have hnil : L.callSize ≤ 0 → L.calls = [] := by
    intro hsize
    unfold CallList.Announced at hL
    exact List.length_eq_zero_iff.mp (by omega)
  cases horigin with
  | listed call hcall hstate => exact absurd hstate (hopen call hcall)
  | gone k _ hindex hgone =>
    rw [hindex]
    by_cases hsize : 0 < L.callSize
    · exact hgone hsize
    · rw [hnil (by omega)]
      exact List.not_mem_nil
  | default hsize =>
    rw [hnil hsize]
    exact List.not_mem_nil

/-- Where nothing is to be ended, no call is reported ended. -/
theorem EndsNothing.not_endOrigin {silent : Bool} {r : CallReportInfo}
    (hnothing : EndsNothing silent t L.callSize (L.calls.map D.index))
    (hopen : ∀ call ∈ L.calls,
      (D.encapsulationCallReportInfo P slotId call).state ≠ .disconnected) :
    ¬EndOrigin D P slotId silent t L r := by
  intro horigin
  cases horigin with
  | listed call hcall hstate => exact hopen call hcall hstate
  | gone k hk _ hgone hignored hloud =>
    obtain hkept | ⟨hsize, hkept⟩ | ⟨hsize, hall⟩ := hnothing
    · rw [hkept] at hignored
      cases hignored
    · rw [hloud hsize] at hkept
      cases hkept
    · exact hgone hsize (hall k hk)
  | default hsize hignored hloud =>
    obtain hkept | ⟨-, hkept⟩ | ⟨hpos, -⟩ := hnothing
    · rw [hkept] at hignored
      cases hignored
    · rw [hloud] at hkept
      cases hkept
    · omega

end

/-! ## Listed calls -/

/-- The call is in one of the states a list has, and its number fits. -/
def CallInfo.Ongoing (P : Platform) (call : CallInfo) : Prop :=
  call.NumberFits P ∧ call.state ≠ .disconnected

def ImsCurrentCall.Ongoing (P : Platform) (call : ImsCurrentCall) : Prop :=
  call.NumberFits P ∧ call.state ≠ .disconnected

instance (P : Platform) (call : CallInfo) : Decidable (call.Ongoing P) :=
  inferInstanceAs (Decidable (_ ∧ _))

instance (P : Platform) (call : ImsCurrentCall) : Decidable (call.Ongoing P) :=
  inferInstanceAs (Decidable (_ ∧ _))

/-- What is said of more calls is said of fewer. -/
theorem Describes.mono {κ δ : Type} {D : CallDomain κ δ} {P : Platform} {slotId : Int}
    {ok ok' : κ → Prop} (hD : Describes D P slotId ok) (hok : ∀ call, ok' call → ok call) :
    Describes D P slotId ok' where
  listed := fun call hcall => hD.listed call (hok call hcall)
  ended := hD.ended

theorem CSControl.describes_ongoing (P : Platform) (slotId : Int) :
    Describes CSControl.domain.toCallDomain P slotId (CallInfo.Ongoing P) :=
  (CSControl.describes P slotId).mono fun _ hcall => hcall.1

theorem IMSControl.describes_ongoing (P : Platform) (slotId : Int) :
    Describes IMSControl.domain.toCallDomain P slotId (ImsCurrentCall.Ongoing P) :=
  (IMSControl.describes P slotId).mono fun _ hcall => hcall.1

/-- A listed call is reported in the state it is listed with. -/
theorem CSControl.state_of_ongoing {P : Platform} {slotId : Int} {call : CallInfo}
    (hcall : call.Ongoing P) :
    (CSControl.domain.encapsulationCallReportInfo P slotId call).state ≠ .disconnected := by
  simp only [CSControl.domain, CSControl.encapsulationCallReportInfo]
  split
  · exact TelCallState.noConfusion
  · exact hcall.2

theorem IMSControl.state_of_ongoing {P : Platform} {slotId : Int} {call : ImsCurrentCall}
    (hcall : call.Ongoing P) :
    (IMSControl.domain.encapsulationCallReportInfo P slotId call).state ≠ .disconnected := by
  simp only [IMSControl.domain, IMSControl.encapsulationCallReportInfo]
  split
  · exact TelCallState.noConfusion
  · exact hcall.2

/-- Tables whose connections name themselves, and lists of ongoing calls. -/
def ongoingSpec (P : Platform) (slotId : Int) : TableSpec where
  okCs := CallInfo.Ongoing P
  okIms := ImsCurrentCall.Ongoing P
  cs := NamesItself .cs slotId
  ims := NamesItself .ims slotId

theorem ongoingSpec_sound (P : Platform) (slotId : Int) : (ongoingSpec P slotId).Sound P slotId :=
  ⟨(CSControl.describes_ongoing P slotId).rule, (IMSControl.describes_ongoing P slotId).rule⟩

/-! ## Who waits for a reason -/

/-- The controls that have asked for a disconnect reason, and the last list of each
domain. -/
structure EndHistory where
  asked : List CallType
  csList : List Int
  imsList : List Int
deriving DecidableEq

/-- Dials, lists, and one answer to each request for a disconnect reason, with the
callback of the call manager registered at any time. -/
def endings : Monitor Slot Event Output EndHistory where
  init := ⟨[], [], []⟩
  allowed h _ e :=
    match e with
    | .csCallsData L => L.Announced
    | .imsCallsData L => L.Announced
    | .callFailReason asker _ _ => asker ∈ h.asked
    | .dial .. | .registerCallBack _ => True
    | _ => False
  update h _ e _ outputs :=
    match e with
    | .csCallsData L =>
      { h with asked := h.asked ++ Output.queries outputs, csList := L.calls.map CallInfo.index }
    | .imsCallsData L =>
      { h with
        asked := h.asked ++ Output.queries outputs, imsList := L.calls.map ImsCurrentCall.index }
    | .callFailReason asker _ _ =>
      { h with asked := h.asked.erase asker ++ Output.queries outputs }
    | _ => { h with asked := h.asked ++ Output.queries outputs }

instance (h : EndHistory) (s : Slot) (e : Event) : Decidable (endings.allowed h s e) :=
  match e with
  | .csCallsData L => inferInstanceAs (Decidable L.Announced)
  | .imsCallsData L => inferInstanceAs (Decidable L.Announced)
  | .callFailReason asker _ _ => inferInstanceAs (Decidable (asker ∈ h.asked))
  | .dial .. | .registerCallBack _ => isTrue trivial
  | .hangUp .. | .answer .. | .reject .. | .switchCall .. | .swapCallResponse ..
  | .radioStateChange .. | .radioWaitTimeout .. | .rilAdapterHostDied | .clearAllCalls ..
  | .srvccState .. | .rsrvccState => isFalse not_false

/-- On the next event that `C` admits, the calls reported ended are not on the last
list of their domain, and a disconnect reason ends no call of the other domain. -/
structure NoPhantomEnd (P : Platform) (slotId : Int) (C : Event → Prop) (s : Slot)
    (h : EndHistory) : Prop where
  cs : ∀ e, endings.allowed h s e → C e →
    ∀ r ∈ Output.ends .cs ((slotMachine P slotId).step s e).2,
      r.index ∉ (endings.next (slotMachine P slotId) h s e).csList
  ims : ∀ e, endings.allowed h s e → C e →
    ∀ r ∈ Output.ends .ims ((slotMachine P slotId).step s e).2,
      r.index ∉ (endings.next (slotMachine P slotId) h s e).imsList
  csReason : ∀ reason message, endings.allowed h s (.callFailReason .cs reason message) →
    C (.callFailReason .cs reason message) →
    Output.ends .ims
      ((slotMachine P slotId).step s (.callFailReason .cs reason message)).2 = []
  imsReason : ∀ reason message, endings.allowed h s (.callFailReason .ims reason message) →
    C (.callFailReason .ims reason message) →
    Output.ends .cs
      ((slotMachine P slotId).step s (.callFailReason .ims reason message)).2 = []

/-- Listed calls are ongoing, and when a reason goes to the control that did not ask
for it, processing its last list again ends nothing. -/
def EndsOwnCalls (P : Platform) : StepCond Slot Event EndHistory := fun h s e =>
  match e with
  | .csCallsData L => ∀ call ∈ L.calls, call.Ongoing P
  | .imsCallsData L => ∀ call ∈ L.calls, call.Ongoing P
  | .callFailReason .cs _ _ => ∀ t ∈ s.imsControl,
      EndsNothing t.isSilentCsRedial t.toCallTable s.currentCallList.callSize h.imsList
  | .callFailReason .ims _ _ => s.imsControl = none → ∀ t ∈ s.csControl,
      EndsNothing false t s.currentCsCallInfoList.callSize h.csList
  | _ => True

instance (P : Platform) (h : EndHistory) (s : Slot) (e : Event) :
    Decidable (EndsOwnCalls P h s e) :=
  match e with
  | .csCallsData L => inferInstanceAs (Decidable (∀ call ∈ L.calls, call.Ongoing P))
  | .imsCallsData L => inferInstanceAs (Decidable (∀ call ∈ L.calls, call.Ongoing P))
  | .callFailReason .cs _ _ =>
    inferInstanceAs (Decidable (∀ t ∈ s.imsControl, EndsNothing _ t.toCallTable _ _))
  | .callFailReason .ims _ _ =>
    inferInstanceAs (Decidable (s.imsControl = none → ∀ t ∈ s.csControl, EndsNothing _ t _ _))
  | .callFailReason .satellite _ _ | .callFailReason (.other _) _ _
  | .dial .. | .hangUp .. | .answer .. | .reject .. | .switchCall .. | .swapCallResponse ..
  | .radioStateChange .. | .radioWaitTimeout .. | .rilAdapterHostDied | .clearAllCalls ..
  | .registerCallBack .. | .srvccState .. | .rsrvccState => isTrue trivial

/-! ## The invariant -/

namespace Slot

variable (P : Platform) (slotId : Int) (s : Slot)

/-- A list becomes the last one of its domain. -/
theorem currentLists_reportCsCallsData (L : CallInfoList) :
    (s.reportCsCallsData P slotId L).1.currentCsCallInfoList = L ∧
      (s.reportCsCallsData P slotId L).1.currentCallList = s.currentCallList := by
  have hstep := csListStep P slotId s L
  generalize s.reportCsCallsData P slotId L = result at hstep
  cases hstep <;> exact ⟨rfl, rfl⟩

theorem currentLists_reportImsCallsData (L : ImsCurrentCallList) :
    (s.reportImsCallsData P slotId L).1.currentCsCallInfoList = s.currentCsCallInfoList ∧
      (s.reportImsCallsData P slotId L).1.currentCallList = L := by
  have hstep := imsListStep P slotId s L
  generalize s.reportImsCallsData P slotId L = result at hstep
  cases hstep <;> exact ⟨rfl, rfl⟩

/-- A disconnect reason leaves the last lists. -/
theorem currentLists_handleCallDisconnectReason (reason : RilDisconnectedReason)
    (message : Str) :
    (s.handleCallDisconnectReason P slotId reason message).1.currentCsCallInfoList =
        s.currentCsCallInfoList ∧
      (s.handleCallDisconnectReason P slotId reason message).1.currentCallList =
        s.currentCallList := by
  unfold handleCallDisconnectReason
  split
  · exact ⟨currentCsCallInfoList_dropEmpty _, currentCallList_dropEmpty _⟩
  · exact ⟨currentCsCallInfoList_dropEmpty _, currentCallList_dropEmpty _⟩
  · exact ⟨rfl, rfl⟩

end Slot

/-- The lists the slot keeps are the last ones. -/
structure LastLists (s : Slot) (csList imsList : List Int) : Prop where
  cs : csList = s.currentCsCallInfoList.calls.map CallInfo.index
  ims : imsList = s.currentCallList.calls.map ImsCurrentCall.index
  csAnnounced : s.currentCsCallInfoList.Announced
  imsAnnounced : s.currentCallList.Announced

namespace LastLists

variable {P : Platform} {slotId : Int} {s : Slot} {csList imsList : List Int}

/-- An empty list has no indices. -/
theorem csList_eq_nil (hl : LastLists s csList imsList)
    (hsize : s.currentCsCallInfoList.callSize = 0) : csList = [] := by
  have hannounced := hl.csAnnounced
  unfold CallList.Announced at hannounced
  have hnone : s.currentCsCallInfoList.calls = [] := List.length_eq_zero_iff.mp (by omega)
  rw [hl.cs, hnone, List.map_nil]

/-- An event that brings no list. -/
theorem of_same (hl : LastLists s csList imsList) {s' : Slot}
    (hcs : s'.currentCsCallInfoList = s.currentCsCallInfoList)
    (hims : s'.currentCallList = s.currentCallList) : LastLists s' csList imsList := by
  constructor
  · rw [hcs]
    exact hl.cs
  · rw [hims]
    exact hl.ims
  · rw [hcs]
    exact hl.csAnnounced
  · rw [hims]
    exact hl.imsAnnounced

theorem reportCsCallsData (hl : LastLists s csList imsList) {L : CallInfoList}
    (hL : L.Announced) :
    LastLists (s.reportCsCallsData P slotId L).1 (L.calls.map CallInfo.index) imsList := by
  obtain ⟨hcs, hims⟩ := Slot.currentLists_reportCsCallsData P slotId s L
  constructor
  · rw [hcs]
  · rw [hims]
    exact hl.ims
  · rw [hcs]
    exact hL
  · rw [hims]
    exact hl.imsAnnounced

theorem reportImsCallsData (hl : LastLists s csList imsList) {L : ImsCurrentCallList}
    (hL : L.Announced) :
    LastLists (s.reportImsCallsData P slotId L).1 csList (L.calls.map ImsCurrentCall.index) := by
  obtain ⟨hcs, hims⟩ := Slot.currentLists_reportImsCallsData P slotId s L
  constructor
  · rw [hcs]
    exact hl.cs
  · rw [hims]
  · rw [hcs]
    exact hl.csAnnounced
  · rw [hims]
    exact hL

theorem handleCallDisconnectReason (P : Platform) (slotId : Int)
    (hl : LastLists s csList imsList) (reason : RilDisconnectedReason) (message : Str) :
    LastLists (s.handleCallDisconnectReason P slotId reason message).1 csList imsList := by
  obtain ⟨hcs, hims⟩ := Slot.currentLists_handleCallDisconnectReason P slotId s reason message
  exact hl.of_same hcs hims

end LastLists

/-- The tables name their calls, and the lists the slot keeps are the last ones. -/
structure EndInvariant (P : Platform) (slotId : Int) (s : Slot) (h : EndHistory) : Prop where
  holds : s.Holds (ongoingSpec P slotId)
  lists : LastLists s h.csList h.imsList

theorem endInvariant_step {P : Platform} {slotId : Int} {s : Slot} {h : EndHistory} {e : Event}
    (hinv : EndInvariant P slotId s h) (hallowed : endings.allowed h s e)
    (hcond : EndsOwnCalls P h s e) :
    EndInvariant P slotId ((slotMachine P slotId).step s e).1
      (endings.next (slotMachine P slotId) h s e) := by
  have hsound := ongoingSpec_sound P slotId
  cases e with
  | csCallsData L =>
    exact ⟨Slot.holds_step hsound hinv.holds (e := .csCallsData L) hcond,
      hinv.lists.reportCsCallsData hallowed⟩
  | imsCallsData L =>
    exact ⟨Slot.holds_step hsound hinv.holds (e := .imsCallsData L) hcond,
      hinv.lists.reportImsCallsData hallowed⟩
  | callFailReason asker reason message =>
    exact ⟨Slot.holds_handleCallDisconnectReason hsound hinv.holds reason message,
      hinv.lists.handleCallDisconnectReason P slotId reason message⟩
  | dial callInfo isEcc useIms csEnv imsEnv =>
    have hkeeps := Slot.keepsControls_dial P s callInfo isEcc useIms csEnv imsEnv
    exact ⟨Slot.holds_dial hsound hinv.holds callInfo isEcc useIms csEnv imsEnv,
      hinv.lists.of_same hkeeps.csList hkeeps.imsList⟩
  | registerCallBack registered =>
    exact ⟨Slot.holds_step hsound hinv.holds (e := .registerCallBack registered) trivial,
      hinv.lists.of_same rfl rfl⟩
  | hangUp | answer | reject | switchCall | swapCallResponse | radioStateChange
  | radioWaitTimeout | rilAdapterHostDied | clearAllCalls | srvccState | rsrvccState =>
    cases hallowed

theorem endInvariant_of_run {P : Platform} {slotId : Int} {s : Slot} {h : EndHistory}
    (hrun : Run (slotMachine P slotId) endings (EndsOwnCalls P) s h) :
    EndInvariant P slotId s h := by
  refine Run.invariant ?_ (fun _ _ _ => endInvariant_step) hrun
  exact ⟨.init, ⟨rfl, rfl, rfl, rfl⟩⟩

/-! ## What the controls report ended -/

section
variable {P : Platform} {slotId : Int} {registered : Bool}

theorem CSControl.endOrigin {t : CSControl}
    (ht : CallTable.Holds (NamesItself .cs slotId) t.connectionMap) {L : CallInfoList}
    {isNeedQuery : Bool} {r : CallReportInfo}
    (hr : r ∈ Output.ends .cs (t.reportCsCallsData P registered slotId L isNeedQuery).2) :
    EndOrigin CSControl.domain.toCallDomain P slotId false t L r := by
  rw [CSControl.reportCsCallsData_eq] at hr
  exact (CSControl.describes_ongoing P slotId).endOrigin_reportCallsData ht hr

theorem IMSControl.endOrigin {t : IMSControl}
    (ht : CallTable.Holds (NamesItself .ims slotId) t.connectionMap) {L : ImsCurrentCallList}
    {isNeedQuery : Bool} {r : CallReportInfo}
    (hr : r ∈ Output.ends .ims (t.reportImsCallsData P registered slotId L isNeedQuery).2) :
    EndOrigin IMSControl.domain.toCallDomain P slotId t.isSilentCsRedial t.toCallTable L r := by
  rw [IMSControl.reportImsCallsData_eq] at hr
  exact (IMSControl.describes_ongoing P slotId).endOrigin_reportCallsData ht hr

/-- A control reports no call of the other domain. -/
theorem entries_reportCallsData {κ δ : Type} (D : CallDomain κ δ) (silent : Bool)
    (t : CallTable δ) (L : CallList κ) (ask : Bool) {sender : CallType}
    (hsender : D.callType ≠ sender) :
    Output.entries sender (reportCallsData D P registered slotId silent t L ask).2 = [] := by
  refine Output.entries_eq_nil ?_
  intro report hreport
  rw [sender_reportCallsData D P slotId registered silent t L ask report hreport]
  exact hsender

theorem CSControl.entries_ims (t : CSControl) (L : CallInfoList) (isNeedQuery : Bool) :
    Output.entries .ims (t.reportCsCallsData P registered slotId L isNeedQuery).2 = [] :=
  entries_reportCallsData CSControl.domain.toCallDomain _ t L _ CallType.noConfusion

theorem IMSControl.entries_cs (t : IMSControl) (L : ImsCurrentCallList) (isNeedQuery : Bool) :
    Output.entries .cs (t.reportImsCallsData P registered slotId L isNeedQuery).2 = [] := by
  rw [IMSControl.reportImsCallsData_eq]
  exact entries_reportCallsData IMSControl.domain.toCallDomain _ _ L _ CallType.noConfusion

end

namespace Slot

variable (P : Platform) (slotId : Int) {s : Slot}

/-- A CS list reports only what a CS control reports of it. -/
theorem reports_reportCsCallsData {T : TableSpec} (hs : s.Holds T) (L : CallInfoList) :
    Output.reports (s.reportCsCallsData P slotId L).2 = [] ∨
      ∃ t isNeedQuery, CallTable.Holds T.cs t.connectionMap ∧
        (s.reportCsCallsData P slotId L).2 =
          (CSControl.reportCsCallsData P s.registered slotId t L isNeedQuery).2 := by
  have hstep := csListStep P slotId s L
  generalize s.reportCsCallsData P slotId L = result at hstep
  cases hstep with
  | idle => exact .inl rfl
  | asked => exact .inl rfl
  | hungUp t hsize ht =>
    refine .inr ⟨t, false, hs.cs t ht, ?_⟩
    unfold CSControl.reportCsCallsData
    rw [if_pos (by omega)]
    rfl
  | processed t _ ht => exact .inr ⟨t, true, holds_csControlFor hs L t ht, rfl⟩

/-- An IMS list reports only what an IMS control reports of it. -/
theorem reports_reportImsCallsData {T : TableSpec} (hs : s.Holds T) (L : ImsCurrentCallList) :
    Output.reports (s.reportImsCallsData P slotId L).2 = [] ∨
      ∃ t isNeedQuery, CallTable.Holds T.ims t.connectionMap ∧
        (s.reportImsCallsData P slotId L).2 =
          (IMSControl.reportImsCallsData P s.registered slotId t L isNeedQuery).2 := by
  have hstep := imsListStep P slotId s L
  generalize s.reportImsCallsData P slotId L = result at hstep
  cases hstep with
  | idle => exact .inl rfl
  | asked => exact .inl rfl
  | hungUp t hsize ht =>
    refine .inr ⟨t, false, hs.ims t ht, ?_⟩
    unfold IMSControl.reportImsCallsData
    rw [if_pos (by omega)]
    rfl
  | processed t _ ht => exact .inr ⟨t, _, holds_imsControlFor hs L t ht, rfl⟩

/-- A list of one domain reports no call of the other. -/
theorem entries_ims_reportCsCallsData {T : TableSpec} (hs : s.Holds T) (L : CallInfoList) :
    Output.entries .ims (s.reportCsCallsData P slotId L).2 = [] := by
  obtain hquiet | ⟨t, isNeedQuery, -, hsent⟩ :=
    reports_reportCsCallsData P slotId hs L
  · exact Output.entries_of_reports_nil hquiet
  · rw [hsent]
    exact CSControl.entries_ims t L isNeedQuery

theorem entries_cs_reportImsCallsData {T : TableSpec} (hs : s.Holds T) (L : ImsCurrentCallList) :
    Output.entries .cs (s.reportImsCallsData P slotId L).2 = [] := by
  obtain hquiet | ⟨t, isNeedQuery, -, hsent⟩ :=
    reports_reportImsCallsData P slotId hs L
  · exact Output.entries_of_reports_nil hquiet
  · rw [hsent]
    exact IMSControl.entries_cs t L isNeedQuery

end Slot

/-- Setting reasons changes nothing about what processing a list again would end. -/
theorem endsNothing_updateDisconnectedReason {κ δ : Type} (R : ReasonDomain κ δ)
    {silent : Bool} {t : CallTable δ} {callSize : Int} {listed : List Int} (L : CallList κ)
    (reason : RilDisconnectedReason) (message : Str) :
    EndsNothing silent
        { t with connectionMap := updateDisconnectedReason R t.connectionMap L reason message }
        callSize listed ↔
      EndsNothing silent t callSize listed := by
  unfold EndsNothing
  dsimp only
  rw [keys_updateDisconnectedReason]

namespace EndInvariant

variable {P : Platform} {slotId : Int} {s : Slot} {h : EndHistory}
  {reason : RilDisconnectedReason} {message : Str}

/-- The calls of a list that is processed again are ongoing. -/
theorem csOpen (hinv : EndInvariant P slotId s h) : ∀ call ∈ s.currentCsCallInfoList.calls,
    (CSControl.domain.encapsulationCallReportInfo P slotId call).state ≠ .disconnected :=
  fun call hcall => CSControl.state_of_ongoing (hinv.holds.csList call hcall)

theorem imsOpen (hinv : EndInvariant P slotId s h) : ∀ call ∈ s.currentCallList.calls,
    (IMSControl.domain.encapsulationCallReportInfo P slotId call).state ≠ .disconnected :=
  fun call hcall => IMSControl.state_of_ongoing (hinv.holds.imsList call hcall)

/-- A disconnect reason ends the IMS calls its last list does not have, if there is
an IMS control. -/
theorem reason_of_ims (hinv : EndInvariant P slotId s h) {t : IMSControl}
    (ht : s.imsControl = some t) :
    Output.ends .cs (s.handleCallDisconnectReason P slotId reason message).2 = [] ∧
      ∀ r ∈ Output.ends .ims (s.handleCallDisconnectReason P slotId reason message).2,
        EndOrigin IMSControl.domain.toCallDomain P slotId t.isSilentCsRedial
          (t.updateDisconnectedReason s.currentCallList reason message).toCallTable
          s.currentCallList r := by
  unfold Slot.handleCallDisconnectReason
  rw [ht]
  dsimp only
  have hholds : CallTable.Holds (NamesItself .ims slotId)
      (t.updateDisconnectedReason s.currentCallList reason message).connectionMap :=
    holds_updateDisconnectedReason _ (ongoingSpec_sound P slotId).ims.steady
      (hinv.holds.ims t ht) _ reason message
  exact ⟨Output.ends_eq_nil (IMSControl.entries_cs _ _ _),
    fun r hr => IMSControl.endOrigin hholds hr⟩

/-- Without an IMS control, it ends the CS calls its last list does not have. -/
theorem reason_of_cs (hinv : EndInvariant P slotId s h) {t : CSControl}
    (hims : s.imsControl = none) (ht : s.csControl = some t) :
    Output.ends .ims (s.handleCallDisconnectReason P slotId reason message).2 = [] ∧
      ∀ r ∈ Output.ends .cs (s.handleCallDisconnectReason P slotId reason message).2,
        EndOrigin CSControl.domain.toCallDomain P slotId false
          (t.updateDisconnectedReason s.currentCsCallInfoList reason) s.currentCsCallInfoList
          r := by
  unfold Slot.handleCallDisconnectReason
  rw [hims, ht]
  dsimp only
  have hholds : CallTable.Holds (NamesItself .cs slotId)
      (t.updateDisconnectedReason s.currentCsCallInfoList reason).connectionMap :=
    holds_updateDisconnectedReason _ (ongoingSpec_sound P slotId).cs.steady
      (hinv.holds.cs t ht) _ reason []
  exact ⟨Output.ends_eq_nil (CSControl.entries_ims _ _ _),
    fun r hr => CSControl.endOrigin hholds hr⟩

/-- Without a control, it ends nothing. -/
theorem reason_of_none (hims : s.imsControl = none) (hcs : s.csControl = none)
    (sender : CallType) :
    Output.ends sender (s.handleCallDisconnectReason P slotId reason message).2 = [] := by
  unfold Slot.handleCallDisconnectReason
  rw [hims, hcs]
  rfl

/-- A disconnect reason ends no call on the last list of its domain. -/
theorem cs_callFailReason (hinv : EndInvariant P slotId s h) :
    ∀ r ∈ Output.ends .cs (s.handleCallDisconnectReason P slotId reason message).2,
      r.index ∉ h.csList := by
  cases hims : s.imsControl with
  | some t => exact Output.forall_mem_ends (hinv.reason_of_ims hims).1
  | none =>
    cases hcs : s.csControl with
    | none => exact Output.forall_mem_ends (reason_of_none hims hcs .cs)
    | some t =>
      rw [hinv.lists.cs]
      intro r hr
      exact ((hinv.reason_of_cs hims hcs).2 r hr).not_listed hinv.lists.csAnnounced hinv.csOpen

theorem ims_callFailReason (hinv : EndInvariant P slotId s h) :
    ∀ r ∈ Output.ends .ims (s.handleCallDisconnectReason P slotId reason message).2,
      r.index ∉ h.imsList := by
  cases hims : s.imsControl with
  | some t =>
    rw [hinv.lists.ims]
    intro r hr
    exact ((hinv.reason_of_ims hims).2 r hr).not_listed hinv.lists.imsAnnounced hinv.imsOpen
  | none =>
    cases hcs : s.csControl with
    | none => exact Output.forall_mem_ends (reason_of_none hims hcs .ims)
    | some t => exact Output.forall_mem_ends (hinv.reason_of_cs hims hcs).1

/-- Where nothing is to be ended, the reason of a CS call ends no IMS call. -/
theorem csReason (hinv : EndInvariant P slotId s h)
    (hcond : EndsOwnCalls P h s (.callFailReason .cs reason message)) :
    Output.ends .ims (s.handleCallDisconnectReason P slotId reason message).2 = [] := by
  cases hims : s.imsControl with
  | some t =>
    refine List.eq_nil_iff_forall_not_mem.mpr ?_
    intro r hr
    have hnothing := hcond t hims
    rw [hinv.lists.ims] at hnothing
    exact EndsNothing.not_endOrigin
      ((endsNothing_updateDisconnectedReason IMSControl.domain _ reason message).mpr hnothing)
      hinv.imsOpen ((hinv.reason_of_ims hims).2 r hr)
  | none =>
    cases hcs : s.csControl with
    | none => exact reason_of_none hims hcs .ims
    | some t => exact (hinv.reason_of_cs hims hcs).1

/-- The reason of an IMS call ends no CS call. -/
theorem imsReason (hinv : EndInvariant P slotId s h)
    (hcond : EndsOwnCalls P h s (.callFailReason .ims reason message)) :
    Output.ends .cs (s.handleCallDisconnectReason P slotId reason message).2 = [] := by
  cases hims : s.imsControl with
  | some t => exact (hinv.reason_of_ims hims).1
  | none =>
    cases hcs : s.csControl with
    | none => exact reason_of_none hims hcs .cs
    | some t =>
      refine List.eq_nil_iff_forall_not_mem.mpr ?_
      intro r hr
      have hnothing := hcond hims t hcs
      rw [hinv.lists.cs] at hnothing
      exact EndsNothing.not_endOrigin
        ((endsNothing_updateDisconnectedReason CSControl.domain _ reason []).mpr hnothing)
        hinv.csOpen ((hinv.reason_of_cs hims hcs).2 r hr)

/-- A CS list ends no IMS call, and no CS call it has. -/
theorem ends_csCallsData (hinv : EndInvariant P slotId s h) {L : CallInfoList}
    (hL : L.Announced) (hongoing : ∀ call ∈ L.calls, call.Ongoing P) :
    Output.ends .ims (s.reportCsCallsData P slotId L).2 = [] ∧
      ∀ r ∈ Output.ends .cs (s.reportCsCallsData P slotId L).2,
        r.index ∉ L.calls.map CallInfo.index := by
  refine ⟨Output.ends_eq_nil (Slot.entries_ims_reportCsCallsData P slotId hinv.holds L), ?_⟩
  obtain hquiet | ⟨t, isNeedQuery, ht, hsent⟩ :=
    Slot.reports_reportCsCallsData P slotId hinv.holds L
  · exact Output.forall_mem_ends (Output.ends_eq_nil (Output.entries_of_reports_nil hquiet))
  · rw [hsent]
    intro r hr
    exact (CSControl.endOrigin ht hr).not_listed hL
      fun call hcall => CSControl.state_of_ongoing (hongoing call hcall)

/-- An IMS list ends no CS call, and no IMS call it has. -/
theorem ends_imsCallsData (hinv : EndInvariant P slotId s h) {L : ImsCurrentCallList}
    (hL : L.Announced) (hongoing : ∀ call ∈ L.calls, call.Ongoing P) :
    Output.ends .cs (s.reportImsCallsData P slotId L).2 = [] ∧
      ∀ r ∈ Output.ends .ims (s.reportImsCallsData P slotId L).2,
        r.index ∉ L.calls.map ImsCurrentCall.index := by
  refine ⟨Output.ends_eq_nil (Slot.entries_cs_reportImsCallsData P slotId hinv.holds L), ?_⟩
  obtain hquiet | ⟨t, isNeedQuery, ht, hsent⟩ :=
    Slot.reports_reportImsCallsData P slotId hinv.holds L
  · exact Output.forall_mem_ends (Output.ends_eq_nil (Output.entries_of_reports_nil hquiet))
  · rw [hsent]
    intro r hr
    exact (IMSControl.endOrigin ht hr).not_listed hL
      fun call hcall => IMSControl.state_of_ongoing (hongoing call hcall)

/-- A dial ends no call. -/
theorem ends_dial (callInfo : CellularCallInfo) (isEcc useIms : Bool) (csEnv : CsDialEnv)
    (imsEnv : ImsDialEnv) (sender : CallType) :
    Output.ends sender (s.dial P callInfo isEcc useIms csEnv imsEnv).2 = [] := by
  have hquiet := Output.reports_of_isReport
    (Slot.isReport_dial (P := P) (s := s) callInfo isEcc useIms csEnv imsEnv)
  exact Output.ends_eq_nil (Output.entries_of_reports_nil hquiet)

end EndInvariant

/-! ## The runs -/

/-- In every run in which listed calls are ongoing and a disconnect reason that goes
to the other control ends nothing there, only calls that are gone are reported
ended. -/
theorem noPhantomEnd_of_run {P : Platform} {slotId : Int} {s : Slot} {h : EndHistory}
    (hrun : Run (slotMachine P slotId) endings (EndsOwnCalls P) s h) :
    NoPhantomEnd P slotId (EndsOwnCalls P h s) s h := by
  have hinv := endInvariant_of_run hrun
  refine ⟨?_, ?_, fun _ _ _ hcond => hinv.csReason hcond, fun _ _ _ hcond => hinv.imsReason hcond⟩
  · intro e hallowed hcond
    cases e with
    | csCallsData L => exact (hinv.ends_csCallsData hallowed hcond).2
    | imsCallsData L => exact Output.forall_mem_ends (hinv.ends_imsCallsData hallowed hcond).1
    | callFailReason asker reason message => exact hinv.cs_callFailReason
    | dial callInfo isEcc useIms csEnv imsEnv =>
      exact Output.forall_mem_ends (EndInvariant.ends_dial callInfo isEcc useIms csEnv imsEnv .cs)
    | registerCallBack registered => exact Output.forall_mem_ends rfl
    | hangUp | answer | reject | switchCall | swapCallResponse | radioStateChange
    | radioWaitTimeout | rilAdapterHostDied | clearAllCalls | srvccState | rsrvccState =>
      cases hallowed
  · intro e hallowed hcond
    cases e with
    | csCallsData L => exact Output.forall_mem_ends (hinv.ends_csCallsData hallowed hcond).1
    | imsCallsData L => exact (hinv.ends_imsCallsData hallowed hcond).2
    | callFailReason asker reason message => exact hinv.ims_callFailReason
    | dial callInfo isEcc useIms csEnv imsEnv =>
      exact Output.forall_mem_ends (EndInvariant.ends_dial callInfo isEcc useIms csEnv imsEnv .ims)
    | registerCallBack registered => exact Output.forall_mem_ends rfl
    | hangUp | answer | reject | switchCall | swapCallResponse | radioStateChange
    | radioWaitTimeout | rilAdapterHostDied | clearAllCalls | srvccState | rsrvccState =>
      cases hallowed

/-- A CS call ends while the IMS control has a call of its own on its last list. -/
theorem noPhantomEnd_two_domains :
    let events : List Event :=
      [.registerCallBack true, .csCallsData (.of [.plain 1 .active]),
        .imsCallsData (.of [.plain 1 .dialing]), .csCallsData (.of [])]
    NoPhantomEnd .plain 0
      (EndsOwnCalls .plain (exec (slotMachine .plain 0) endings .init endings.init events).2
        (exec (slotMachine .plain 0) endings .init endings.init events).1)
      (exec (slotMachine .plain 0) endings .init endings.init events).1
      (exec (slotMachine .plain 0) endings .init endings.init events).2 :=
  noPhantomEnd_of_run (Run.of_admits (M := slotMachine .plain 0) (H := endings) _
    (by decide +kernel))

/-- A dial creates an IMS control, and then a CS call ends: its reason makes the IMS
control report the default entry. -/
theorem not_noPhantomEnd_of_run :
    ¬∀ (P : Platform) (slotId : Int) (s : Slot) (h : EndHistory),
      Run (slotMachine P slotId) endings unconditional s h →
      NoPhantomEnd P slotId (fun _ => True) s h := by
  intro hclaim
  have hrun := Run.of_admits (M := slotMachine .plain 0) (H := endings) (C := unconditional)
    [.registerCallBack true, .csCallsData (.of [.plain 1 .active]),
      .dial (.plain .ims 0) false true ⟨true, .gsm, .plain⟩ (.plain .plain),
      .csCallsData (.of [])] (by decide +kernel)
  have hnone := (hclaim _ _ _ _ hrun).csReason .normal [] (by decide +kernel) trivial
  revert hnone
  decide +kernel

end CellularCall
