import CellularCall.SlotInvariant

/-!
# Every call list is tracked

A list reaches the calls of its domain only through a control.  The handler
creates one for a list that is short enough, a dial creates one, and so does the
end of a hand-over that finds none; in five places controls are dropped.

`TracksList` says what a list has to bring about: its calls are in the table,
and they have been reported.  A list that ends a call for an unknown reason is
put off until the reason arrives, and `listings` remembers such lists.
`tracksLists_of_run` shows which lists get through.
-/

namespace CellularCall

open Lib CallTable

section
variable {κ δ : Type} (D : CallDomain κ δ) (P : Platform) (slotId : Int)

/-- Some report has every call of the list. -/
def ReportsList (L : CallList κ) (outputs : List Output) : Prop :=
  ∃ info, (D.callType, info) ∈ Output.reports outputs ∧ ∀ call ∈ L.calls,
    D.encapsulationCallReportInfo P slotId call ∈ info.callVec ∨
      listedReport D P slotId L.calls.length call ∈ info.callVec

/-- The calls of the list are tracked by the control, and with a callback they
have been reported. -/
structure TracksList (registered : Bool) (L : CallList κ) (control : Option (ConnectionMap δ))
    (outputs : List Output) : Prop where
  tracked : ∃ m, control = some m ∧ ∀ call ∈ L.calls, D.index call ∈ m.keys
  reported : registered = true → ReportsList D P slotId L outputs

variable {D P slotId} {t : CallTable δ} {L : CallList κ}

/-- A list of calls that is processed is tracked, unless an update is kept back
for an ignored incoming call. -/
theorem tracksList_reportCallsData (ht : Settled t.connectionMap) (hsize : 0 < L.callSize)
    (registered silent ask : Bool)
    (hask : ask = true → t.connectionMap.isEmpty = true)
    (hflag : registered = true → t.connectionMap.isEmpty = false →
      t.isIgnoredIncomingCall = false) :
    TracksList D P slotId registered L
      (some (reportCallsData D P registered slotId silent t L ask).1.connectionMap)
      (reportCallsData D P registered slotId silent t L ask).2 := by
  have hstep := listStep D P slotId registered silent t L ask
  generalize reportCallsData D P registered slotId silent t L ask = result at hstep
  cases hstep with
  | asked htrue hcase =>
    rcases hcase with hle | hempty
    · omega
    · rw [hask htrue] at hempty
      cases hempty
  | hungUp _ hle => omega
  | incoming _ hempty =>
    refine ⟨⟨_, rfl, fun call hcall => ?_⟩, fun hregistered => ?_⟩
    · exact (mem_keys_reportIncomingInfo D P slotId registered hempty L _).mpr
        (List.mem_map_of_mem hcall)
    · refine ⟨⟨slotId, L.calls.map (D.encapsulationCallReportInfo P slotId)⟩, ?_, ?_⟩
      · rw [reports_reportIncomingInfo, hregistered]
        exact List.mem_singleton.mpr rfl
      · exact fun call hcall => Or.inl (List.mem_map_of_mem hcall)
  | updated _ _ hempty =>
    refine ⟨⟨_, rfl, fun call hcall => ?_⟩, fun hregistered => ?_⟩
    · rw [connectionMap_reportUpdateInfo]
      exact (mem_keys_updateInfo D P slotId ht L _).mpr (List.mem_map_of_mem hcall)
    · refine ⟨(updateInfo D P slotId t L).2.1, ?_, fun call hcall => Or.inr ?_⟩
      · rw [reports_reportUpdateInfo, hflag hregistered hempty]
        exact List.mem_singleton.mpr rfl
      · rw [callVec_updateInfo D P slotId ht L]
        exact List.mem_append_left _ (List.mem_map_of_mem hcall)

end

/-! ## The lists that are put off -/

/-- The last list of each domain, while it waits for a disconnect reason. -/
structure Owed where
  cs : Option CallInfoList
  ims : Option ImsCurrentCallList
deriving DecidableEq

/-- The event takes a list back that waits, because its control goes for good. -/
def Event.endsCs : Event → Bool
  | .rilAdapterHostDied => true
  | .srvccState status => decide (status = .completed)
  | .rsrvccState => true
  | _ => false

def Event.endsIms : Event → Bool
  | .rilAdapterHostDied => true
  | .srvccState status => decide (status = .completed)
  | _ => false

/-- The lists that wait for a reason, after an event.  A list with calls waits if
it is asked about, and the next list of the domain, its answer and the end of
the domain's calls end that. -/
def listings : Monitor Slot Event Output Owed where
  init := ⟨none, none⟩
  allowed _ _
    | .csCallsData L => L.Announced
    | .imsCallsData L => L.Announced
    | _ => True
  update h _ e _ outputs :=
    match e with
    | .csCallsData L =>
      { h with cs := if 0 < L.callSize ∧ .cs ∈ Output.queries outputs then some L else none }
    | .imsCallsData L =>
      { h with ims := if 0 < L.callSize ∧ .ims ∈ Output.queries outputs then some L else none }
    | .callFailReason .cs _ _ => { h with cs := none }
    | .callFailReason .ims _ _ => { h with ims := none }
    | e => ⟨if e.endsCs then none else h.cs, if e.endsIms then none else h.ims⟩

instance (h : Owed) (s : Slot) (e : Event) : Decidable (listings.allowed h s e) :=
  match e with
  | .csCallsData L => inferInstanceAs (Decidable L.Announced)
  | .imsCallsData L => inferInstanceAs (Decidable L.Announced)
  | .callFailReason .. | .dial .. | .hangUp .. | .answer .. | .reject .. | .switchCall ..
  | .swapCallResponse .. | .radioStateChange .. | .radioWaitTimeout .. | .rilAdapterHostDied
  | .clearAllCalls .. | .registerCallBack .. | .srvccState .. | .rsrvccState => isTrue trivial

/-- The CS calls of a slot, if it has a control for them. -/
def Slot.csCalls (s : Slot) : Option (ConnectionMap CsPart) :=
  s.csControl.map fun t => t.connectionMap

/-- The IMS calls of a slot, if it has a control for them. -/
def Slot.imsCalls (s : Slot) : Option (ConnectionMap ImsPart) :=
  s.imsControl.map fun t => t.connectionMap

/-- A list of calls that `C` admits is tracked, or asks for a disconnect reason
first; and then it is tracked when the reason arrives. -/
structure TracksLists (P : Platform) (slotId : Int) (C : Event → Prop) (s : Slot) (h : Owed) :
    Prop where
  csList : ∀ L, C (.csCallsData L) → 0 < L.callSize → s.srvccState ≠ .started →
    s.isDuringRSRVCC = false →
    TracksList CSControl.domain.toCallDomain P slotId s.registered L
        ((slotMachine P slotId).step s (.csCallsData L)).1.csCalls
        ((slotMachine P slotId).step s (.csCallsData L)).2 ∨
      (listings.next (slotMachine P slotId) h s (.csCallsData L)).cs = some L
  imsList : ∀ L, C (.imsCallsData L) → 0 < L.callSize → s.srvccState ≠ .started →
    s.isDuringRSRVCC = false →
    TracksList IMSControl.domain.toCallDomain P slotId s.registered L
        ((slotMachine P slotId).step s (.imsCallsData L)).1.imsCalls
        ((slotMachine P slotId).step s (.imsCallsData L)).2 ∨
      (listings.next (slotMachine P slotId) h s (.imsCallsData L)).ims = some L
  csAnswer : ∀ L ∈ h.cs, ∀ reason message, C (.callFailReason .cs reason message) →
    TracksList CSControl.domain.toCallDomain P slotId s.registered L
      ((slotMachine P slotId).step s (.callFailReason .cs reason message)).1.csCalls
      ((slotMachine P slotId).step s (.callFailReason .cs reason message)).2
  imsAnswer : ∀ L ∈ h.ims, ∀ reason message, C (.callFailReason .ims reason message) →
    TracksList IMSControl.domain.toCallDomain P slotId s.registered L
      ((slotMachine P slotId).step s (.callFailReason .ims reason message)).1.imsCalls
      ((slotMachine P slotId).step s (.callFailReason .ims reason message)).2

/-- With a callback, an update of the table is not kept back. -/
def Unhindered {δ : Type} (registered : Bool) (t : CallTable δ) : Prop :=
  registered = true → t.connectionMap.isEmpty = false → t.isIgnoredIncomingCall = false

instance {δ : Type} (registered : Bool) (t : CallTable δ) : Decidable (Unhindered registered t) :=
  inferInstanceAs (Decidable (_ → _ → _))

/-- What a list of calls needs: a control, or to be short enough for a new one;
no incoming call that is ignored; and, for a CS list that waits, no IMS control
when the reason arrives. -/
def ListsGetThrough : StepCond Slot Event Owed := fun h s e =>
  match e with
  | .csCallsData L => 0 < L.callSize → s.srvccState ≠ .started → s.isDuringRSRVCC = false →
      (s.csControl = none → L.callSize = 1) ∧
      (s.csOrFresh.hasEndCallWithoutReason L = false → Unhindered s.registered s.csOrFresh)
  | .imsCallsData L => 0 < L.callSize → s.srvccState ≠ .started → s.isDuringRSRVCC = false →
      (s.imsControl = none → L.callSize ≤ 2) ∧
      (s.imsOrFresh.hasEndCallWithoutReason L = false →
        Unhindered s.registered s.imsOrFresh.toCallTable)
  | .callFailReason .cs _ _ => ∀ L ∈ h.cs,
      s.imsControl = none ∧ Unhindered s.registered s.csOrFresh ∨
        s.imsControl ≠ none ∧ s.registered = false ∧ ∀ call ∈ L.calls, call.index ∈ s.csKeys
  | .callFailReason .ims _ _ => h.ims.isSome = true →
      Unhindered s.registered s.imsOrFresh.toCallTable
  | _ => True

instance (h : Owed) (s : Slot) (e : Event) : Decidable (ListsGetThrough h s e) :=
  match e with
  | .csCallsData _ => inferInstanceAs (Decidable (_ → _ → _ → _ ∧ (_ → Unhindered _ _)))
  | .imsCallsData _ => inferInstanceAs (Decidable (_ → _ → _ → _ ∧ (_ → Unhindered _ _)))
  | .callFailReason .cs _ _ => inferInstanceAs (Decidable (∀ L ∈ h.cs,
      _ ∧ Unhindered _ _ ∨ _ ∧ _ ∧ ∀ call ∈ L.calls, call.index ∈ s.csKeys))
  | .callFailReason .ims _ _ => inferInstanceAs (Decidable (_ → Unhindered _ _))
  | .callFailReason .satellite _ _ | .callFailReason (.other _) _ _
  | .dial .. | .hangUp .. | .answer .. | .reject .. | .switchCall ..
  | .swapCallResponse .. | .radioStateChange .. | .radioWaitTimeout .. | .rilAdapterHostDied
  | .clearAllCalls .. | .registerCallBack .. | .srvccState .. | .rsrvccState => isTrue trivial

/-! ## Where controls and lists go -/

/-- Neither a list, nor a disconnect reason, nor the end of a domain's calls. -/
def Event.isOrdinary : Event → Bool
  | .csCallsData _ => false
  | .imsCallsData _ => false
  | .callFailReason _ _ _ => false
  | e => !e.endsCs

namespace Slot

variable {s : Slot}

/-- The lists are the same, and no control is gone. -/
structure KeepsControls (s s' : Slot) : Prop where
  csList : s'.currentCsCallInfoList = s.currentCsCallInfoList
  imsList : s'.currentCallList = s.currentCallList
  cs : s.csControl.isSome = true → s'.csControl.isSome = true
  ims : s.imsControl.isSome = true → s'.imsControl.isSome = true

theorem KeepsControls.refl (s : Slot) : KeepsControls s s := ⟨rfl, rfl, id, id⟩

theorem KeepsControls.setCs (s : Slot) (t : CSControl) :
    KeepsControls s { s with csControl := some t } := ⟨rfl, rfl, fun _ => rfl, id⟩

theorem KeepsControls.setIms (s : Slot) (t : IMSControl) :
    KeepsControls s { s with imsControl := some t } := ⟨rfl, rfl, id, fun _ => rfl⟩

theorem keepsControls_request (s : Slot) (callInfo : CellularCallInfo)
    (onCs : CSControl → RetCode × CSControl × List Output)
    (onIms : IMSControl → RetCode × IMSControl × List Output) :
    KeepsControls s (s.request callInfo onCs onIms).1 := by
  unfold request
  split
  · exact .refl s
  · split
    · split
      · exact .refl s
      · exact .setCs s _
    · split
      · exact .refl s
      · exact .setIms s _
    · exact .refl s

theorem keepsControls_dial (P : Platform) (s : Slot) (callInfo : CellularCallInfo)
    (isEcc useIms : Bool) (csEnv : CsDialEnv) (env : ImsDialEnv) :
    KeepsControls s (s.dial P callInfo isEcc useIms csEnv env).1 := by
  unfold dial dialNormalCall
  split
  · exact .refl s
  · split
    · exact .setIms s _
    · exact .setCs s _

theorem keepsControls_clearAllCalls (P : Platform) (slotId : Int) (s : Slot) (service : ImsService)
    (infos : List CellularCallInfo) :
    KeepsControls s (s.clearAllCalls P slotId service infos).1 := by
  obtain ⟨hcsList, himsList⟩ := currentLists_clearAllCalls (s := s) P slotId service infos
  refine ⟨hcsList, himsList, fun hcs => ?_, fun hims => ?_⟩
  · obtain ⟨t, ht⟩ := Option.isSome_iff_exists.mp hcs
    unfold clearAllCalls
    split
    · exact hcs
    · simp [ht]
  · obtain ⟨t, ht⟩ := Option.isSome_iff_exists.mp hims
    unfold clearAllCalls
    split
    · exact hims
    · simp [ht]

/-- A CS list of calls that has a control is processed. -/
theorem reportCsCallsData_of_control (P : Platform) (slotId : Int) {s : Slot} {L : CallInfoList}
    {t : CSControl} (hsize : L.callSize ≠ 0) (hrsrvcc : s.isDuringRSRVCC = false)
    (ht : s.csControlFor L = some t) :
    s.reportCsCallsData P slotId L =
      ({ s with
          currentCsCallInfoList := L
          csControl := some (t.reportCsCallsData P s.registered slotId L true).1
          imsControl := s.markSilent L },
        (t.reportCsCallsData P s.registered slotId L true).2) := by
  have hfor : ({ s with currentCsCallInfoList := L } : Slot).csControlFor L = some t := ht
  unfold reportCsCallsData
  dsimp only
  rw [if_neg hsize, if_neg (by simp [hrsrvcc]), hfor]
  dsimp only
  split
  · rename_i hsilent
    have hmark : s.markSilent L = s.imsControl.map fun c => c.setSilentCsRedialFlag true :=
      if_pos hsilent
    rw [hmark]
  · rename_i hsilent
    have hmark : s.markSilent L = s.imsControl := if_neg hsilent
    rw [hmark]

/-- An IMS list of calls that has a control is processed. -/
theorem reportImsCallsData_of_control (P : Platform) (slotId : Int) {s : Slot}
    {L : ImsCurrentCallList} {t : IMSControl} (hsize : L.callSize ≠ 0)
    (hsrvcc : s.srvccState ≠ .started) (ht : s.imsControlFor L = some t) :
    s.reportImsCallsData P slotId L =
      ({ s with
          currentCallList := L
          imsControl := some
            (t.reportImsCallsData P s.registered slotId L (t.hasEndCallWithoutReason L)).1 },
        (t.reportImsCallsData P s.registered slotId L (t.hasEndCallWithoutReason L)).2) := by
  have hfor : ({ s with currentCallList := L } : Slot).imsControlFor L = some t := ht
  unfold reportImsCallsData
  dsimp only
  rw [if_neg hsize, if_neg hsrvcc, hfor]

/-- Most events keep the lists and drop no control. -/
theorem keepsControls_step (P : Platform) (slotId : Int) (s : Slot) {e : Event}
    (he : e.isOrdinary = true) : KeepsControls s ((slotMachine P slotId).step s e).1 := by
  cases e with
  | csCallsData L => cases he
  | imsCallsData L => cases he
  | callFailReason asker reason message => cases he
  | dial callInfo isEcc useIms csEnv env => exact keepsControls_dial P s _ _ _ _ _
  | hangUp service callInfo type => exact keepsControls_request s callInfo _ _
  | answer service callInfo => exact keepsControls_request s callInfo _ _
  | reject service callInfo => exact keepsControls_request s callInfo _ _
  | switchCall service =>
    simp only [slotMachine, switchCall]
    split
    · exact .refl s
    · split <;> exact .refl s
  | swapCallResponse request ok service =>
    simp only [slotMachine, swapCallResponse]
    split
    · exact .refl s
    · split <;> exact .setIms s _
  | radioStateChange radioOn env =>
    simp only [slotMachine, radioStateChangeProcess]
    split
    · exact ⟨rfl, rfl, id, id⟩
    · split
      · exact ⟨rfl, rfl, id, id⟩
      · split
        · split <;> exact ⟨rfl, rfl, id, fun _ => rfl⟩
        · exact ⟨rfl, rfl, id, fun _ => rfl⟩
  | radioWaitTimeout timer =>
    simp only [slotMachine, radioWaitTimeout]
    split
    · exact .refl s
    · split
      · exact .setIms s _
      · exact .refl s
  | rilAdapterHostDied => cases he
  | clearAllCalls service infos => exact keepsControls_clearAllCalls P slotId s service infos
  | registerCallBack registered => exact ⟨rfl, rfl, id, id⟩
  | srvccState status =>
    have hstatus : status ≠ .completed := by simpa [Event.isOrdinary, Event.endsCs] using he
    simp only [slotMachine, updateSrvccStateReport, if_pos hstatus]
    exact ⟨rfl, rfl, id, id⟩
  | rsrvccState => cases he

end Slot

/-! ## The lists that wait are kept -/

/-- A list that waits is the last one of its domain, and its control is there. -/
structure ListingInvariant (s : Slot) (h : Owed) : Prop where
  tables : s.Holds settledSpec
  cs : ∀ L ∈ h.cs, 0 < L.callSize ∧ s.currentCsCallInfoList = L ∧ s.csControl.isSome = true
  ims : ∀ L ∈ h.ims, 0 < L.callSize ∧ s.currentCallList = L ∧ s.imsControl.isSome = true

namespace ListingInvariant

variable {P : Platform} {slotId : Int} {s : Slot} {h : Owed}

theorem init : ListingInvariant Slot.init listings.init where
  tables := .init
  cs := by simp [listings]
  ims := by simp [listings]

theorem step_csCallsData (hinv : ListingInvariant s h) (L : CallInfoList) :
    ListingInvariant ((slotMachine P slotId).step s (.csCallsData L)).1
      (listings.next (slotMachine P slotId) h s (.csCallsData L)) := by
  have htables := Slot.holds_step (settledSpec_sound P slotId) hinv.tables
    (settledSpec_admits (.csCallsData L))
  have hstep := Slot.csListStep P slotId s L
  simp only [slotMachine, Monitor.next] at htables ⊢
  generalize s.reportCsCallsData P slotId L = result at hstep htables
  refine ⟨htables, fun L' hL' => ?_, fun L' hL' => ?_⟩
  · simp only [listings] at hL'
    split at hL'
    · rename_i hasked
      cases hL'
      cases hstep with
      | idle => simp at hasked
      | asked t hsize => omega
      | hungUp t hsize => omega
      | processed t hsize ht => exact ⟨hasked.1, rfl, rfl⟩
    · cases hL'
  · obtain ⟨hsize, hlist, hsome⟩ := hinv.ims L' hL'
    cases hstep with
    | idle => exact ⟨hsize, hlist, hsome⟩
    | asked => exact ⟨hsize, hlist, hsome⟩
    | hungUp => exact ⟨hsize, hlist, hsome⟩
    | processed t hsize' ht =>
      refine ⟨hsize, hlist, ?_⟩
      show (s.markSilent L).isSome = true
      unfold Slot.markSilent
      split
      · simpa using hsome
      · exact hsome

theorem step_imsCallsData (hinv : ListingInvariant s h) (L : ImsCurrentCallList) :
    ListingInvariant ((slotMachine P slotId).step s (.imsCallsData L)).1
      (listings.next (slotMachine P slotId) h s (.imsCallsData L)) := by
  have htables := Slot.holds_step (settledSpec_sound P slotId) hinv.tables
    (settledSpec_admits (.imsCallsData L))
  have hstep := Slot.imsListStep P slotId s L
  simp only [slotMachine, Monitor.next] at htables ⊢
  generalize s.reportImsCallsData P slotId L = result at hstep htables
  refine ⟨htables, fun L' hL' => ?_, fun L' hL' => ?_⟩
  · obtain ⟨hsize, hlist, hsome⟩ := hinv.cs L' hL'
    cases hstep <;> exact ⟨hsize, hlist, hsome⟩
  · simp only [listings] at hL'
    split at hL'
    · rename_i hasked
      cases hL'
      cases hstep with
      | idle => simp at hasked
      | asked t hsize => omega
      | hungUp t hsize => omega
      | processed t hsize ht => exact ⟨hasked.1, rfl, rfl⟩
    · cases hL'

/-- A disconnect reason drops only controls whose last list is empty. -/
theorem step_callFailReason (hinv : ListingInvariant s h) (asker : CallType)
    (reason : RilDisconnectedReason) (message : Str) :
    ListingInvariant ((slotMachine P slotId).step s (.callFailReason asker reason message)).1
      (listings.next (slotMachine P slotId) h s (.callFailReason asker reason message)) := by
  have htables := Slot.holds_step (settledSpec_sound P slotId) hinv.tables
    (settledSpec_admits (.callFailReason asker reason message))
  have hcs : ∀ L ∈ h.cs, 0 < L.callSize ∧
      (s.handleCallDisconnectReason P slotId reason message).1.currentCsCallInfoList = L ∧
      (s.handleCallDisconnectReason P slotId reason message).1.csControl.isSome = true := by
    intro L hL
    obtain ⟨hsize, rfl, hsome⟩ := hinv.cs L hL
    have hne : s.currentCsCallInfoList.callSize ≠ 0 := by omega
    unfold Slot.handleCallDisconnectReason
    split
    · exact ⟨hsize, by simp, by simpa [hne] using hsome⟩
    · exact ⟨hsize, by simp, by simp [hne]⟩
    · exact ⟨hsize, rfl, hsome⟩
  have hims : ∀ L ∈ h.ims, 0 < L.callSize ∧
      (s.handleCallDisconnectReason P slotId reason message).1.currentCallList = L ∧
      (s.handleCallDisconnectReason P slotId reason message).1.imsControl.isSome = true := by
    intro L hL
    obtain ⟨hsize, rfl, hsome⟩ := hinv.ims L hL
    have hne : s.currentCallList.callSize ≠ 0 := by omega
    unfold Slot.handleCallDisconnectReason
    split
    · exact ⟨hsize, by simp, by simp [hne]⟩
    · exact ⟨hsize, by simp, by simpa [hne] using hsome⟩
    · exact ⟨hsize, rfl, hsome⟩
  simp only [slotMachine, Monitor.next] at htables ⊢
  cases asker with
  | cs => exact ⟨htables, by simp [listings], hims⟩
  | ims => exact ⟨htables, hcs, by simp [listings]⟩
  | satellite => exact ⟨htables, hcs, hims⟩
  | other code => exact ⟨htables, hcs, hims⟩

theorem next_of_isOrdinary {e : Event} (he : e.isOrdinary = true) :
    listings.next (slotMachine P slotId) h s e = h := by
  cases e with
  | csCallsData L => cases he
  | imsCallsData L => cases he
  | callFailReason asker reason message => cases he
  | rilAdapterHostDied => cases he
  | rsrvccState => cases he
  | srvccState status =>
    have hstatus : status ≠ .completed := by simpa [Event.isOrdinary, Event.endsCs] using he
    simp [Monitor.next, listings, Event.endsCs, Event.endsIms, hstatus]
  | _ => rfl

theorem step (hinv : ListingInvariant s h) (e : Event) :
    ListingInvariant ((slotMachine P slotId).step s e).1
      (listings.next (slotMachine P slotId) h s e) := by
  have htables := Slot.holds_step (settledSpec_sound P slotId) hinv.tables (settledSpec_admits e)
  by_cases he : e.isOrdinary = true
  · obtain ⟨hcsList, himsList, hcs, hims⟩ := Slot.keepsControls_step P slotId s he
    rw [next_of_isOrdinary he]
    refine ⟨htables, fun L hL => ?_, fun L hL => ?_⟩
    · obtain ⟨hsize, hlist, hsome⟩ := hinv.cs L hL
      exact ⟨hsize, hcsList.trans hlist, hcs hsome⟩
    · obtain ⟨hsize, hlist, hsome⟩ := hinv.ims L hL
      exact ⟨hsize, himsList.trans hlist, hims hsome⟩
  · cases e with
    | csCallsData L => exact hinv.step_csCallsData L
    | imsCallsData L => exact hinv.step_imsCallsData L
    | callFailReason asker reason message => exact hinv.step_callFailReason asker reason message
    | rilAdapterHostDied =>
      refine ⟨htables, fun L hL => ?_, fun L hL => ?_⟩
      · cases hL
      · cases hL
    | srvccState status =>
      have hstatus : status = .completed := by simpa [Event.isOrdinary, Event.endsCs] using he
      subst hstatus
      refine ⟨htables, fun L hL => ?_, fun L hL => ?_⟩
      · cases hL
      · cases hL
    | rsrvccState =>
      refine ⟨htables, fun L hL => ?_, fun L hL => hinv.ims L hL⟩
      cases hL
    | _ => exact absurd rfl he

/-! ### What a list brings about -/

/-- A CS list with a control is tracked, or put off. -/
theorem csList (hinv : ListingInvariant s h) {L : CallInfoList} (hsize : 0 < L.callSize)
    (hsrvcc : s.srvccState ≠ .started) (hrsrvcc : s.isDuringRSRVCC = false)
    (hcond : ListsGetThrough h s (.csCallsData L)) :
    TracksList CSControl.domain.toCallDomain P slotId s.registered L
        ((slotMachine P slotId).step s (.csCallsData L)).1.csCalls
        ((slotMachine P slotId).step s (.csCallsData L)).2 ∨
      (listings.next (slotMachine P slotId) h s (.csCallsData L)).cs = some L := by
  obtain ⟨hcontrol, hflag⟩ := hcond hsize hsrvcc hrsrvcc
  obtain ⟨t, ht⟩ : ∃ t, s.csControlFor L = some t := by
    cases hc : s.csControl with
    | some t => exact ⟨t, by rw [Slot.csControlFor, hc]⟩
    | none => exact ⟨CallTable.fresh, by rw [Slot.csControlFor, hc]; exact if_pos (hcontrol hc)⟩
  have hfresh := Slot.csOrFresh_of_csControlFor ht
  have hsettled : Settled t.connectionMap := hfresh ▸ hinv.tables.getD_cs.toSettled
  rw [hfresh] at hflag
  have hstep := Slot.reportCsCallsData_of_control P slotId (by omega) hrsrvcc ht
  simp only [Monitor.next, slotMachine]
  rw [hstep]
  cases hend : t.hasEndCallWithoutReason L with
  | false =>
    left
    exact tracksList_reportCallsData hsettled hsize s.registered false _ (by simp [hend])
      (hflag hend)
  | true =>
    right
    have hempty := isEmpty_of_hasEndCallWithoutReason hend
    have hasked : (t.reportCsCallsData P s.registered slotId L true).2 =
        [.getCallFailReason .cs] := by
      simp [CSControl.reportCsCallsData, show ¬L.callSize ≤ 0 by omega, hempty, hend]
    simp [listings, hasked, hsize]

/-- An IMS list with a control is tracked, or put off. -/
theorem imsList (hinv : ListingInvariant s h) {L : ImsCurrentCallList} (hsize : 0 < L.callSize)
    (hsrvcc : s.srvccState ≠ .started) (hrsrvcc : s.isDuringRSRVCC = false)
    (hcond : ListsGetThrough h s (.imsCallsData L)) :
    TracksList IMSControl.domain.toCallDomain P slotId s.registered L
        ((slotMachine P slotId).step s (.imsCallsData L)).1.imsCalls
        ((slotMachine P slotId).step s (.imsCallsData L)).2 ∨
      (listings.next (slotMachine P slotId) h s (.imsCallsData L)).ims = some L := by
  obtain ⟨hcontrol, hflag⟩ := hcond hsize hsrvcc hrsrvcc
  obtain ⟨t, ht⟩ : ∃ t, s.imsControlFor L = some t := by
    cases hc : s.imsControl with
    | some t => exact ⟨t, by rw [Slot.imsControlFor, hc]⟩
    | none =>
      exact ⟨.fresh, by rw [Slot.imsControlFor, hc]; exact if_pos ⟨hsize, hcontrol hc⟩⟩
  have hfresh := Slot.imsOrFresh_of_imsControlFor ht
  have hsettled : Settled t.connectionMap := hfresh ▸ hinv.tables.getD_ims.toSettled
  rw [hfresh] at hflag
  have hstep := Slot.reportImsCallsData_of_control P slotId (by omega) hsrvcc ht
  simp only [Monitor.next, slotMachine]
  rw [hstep]
  cases hend : t.hasEndCallWithoutReason L with
  | false =>
    left
    rw [IMSControl.reportImsCallsData_eq]
    exact tracksList_reportCallsData hsettled hsize s.registered _ false (fun h => by cases h)
      (hflag hend)
  | true =>
    right
    have hempty := isEmpty_of_hasEndCallWithoutReason hend
    have hasked : (t.reportImsCallsData P s.registered slotId L true).2 =
        [.getCallFailReason .ims] := by
      simp [IMSControl.reportImsCallsData, show ¬L.callSize ≤ 0 by omega, hempty]
    simp [listings, hasked, hsize]

/-- A CS list that was put off is tracked when the reason arrives. -/
theorem csAnswer (hinv : ListingInvariant s h) {L : CallInfoList} (hL : L ∈ h.cs)
    (reason : RilDisconnectedReason) (message : Str)
    (hcond : ListsGetThrough h s (.callFailReason .cs reason message)) :
    TracksList CSControl.domain.toCallDomain P slotId s.registered L
      ((slotMachine P slotId).step s (.callFailReason .cs reason message)).1.csCalls
      ((slotMachine P slotId).step s (.callFailReason .cs reason message)).2 := by
  obtain ⟨hsize, rfl, hsome⟩ := hinv.cs L hL
  obtain ⟨t, ht⟩ := Option.isSome_iff_exists.mp hsome
  have hne : s.currentCsCallInfoList.callSize ≠ 0 := by omega
  rcases hcond _ hL with ⟨hnone, hflag⟩ | ⟨hims, hregistered, hkeys⟩
  · have hupdated := (holds_updateDisconnectedReason CSControl.domain Steady.trivial
      (hinv.tables.cs t ht) s.currentCsCallInfoList reason []).toSettled
    simp only [slotMachine, Slot.handleCallDisconnectReason, hnone, ht, Slot.csCalls,
      Slot.csControl_dropEmpty, if_neg hne]
    rw [Slot.csOrFresh_of_some ht] at hflag
    refine tracksList_reportCallsData hupdated hsize s.registered false _ (fun h => by cases h)
      fun hregistered hempty => hflag hregistered ?_
    exact (OrdMap.isEmpty_mapValues _ _).symm.trans hempty
  · rw [Slot.csKeys_of_some ht] at hkeys
    have hcalls : ((slotMachine P slotId).step s (.callFailReason .cs reason message)).1.csCalls =
        some t.connectionMap := by
      simp only [slotMachine, Slot.handleCallDisconnectReason]
      split
      · simp [Slot.csCalls, hne, ht]
      · rename_i hnone _
        exact absurd hnone hims
      · rename_i hnone _
        exact absurd hnone hims
    refine ⟨⟨_, hcalls, hkeys⟩, fun h => ?_⟩
    rw [hregistered] at h
    cases h

/-- An IMS list that was put off is tracked when the reason arrives. -/
theorem imsAnswer (hinv : ListingInvariant s h) {L : ImsCurrentCallList} (hL : L ∈ h.ims)
    (reason : RilDisconnectedReason) (message : Str)
    (hcond : ListsGetThrough h s (.callFailReason .ims reason message)) :
    TracksList IMSControl.domain.toCallDomain P slotId s.registered L
      ((slotMachine P slotId).step s (.callFailReason .ims reason message)).1.imsCalls
      ((slotMachine P slotId).step s (.callFailReason .ims reason message)).2 := by
  obtain ⟨hsize, rfl, hsome⟩ := hinv.ims L hL
  obtain ⟨t, ht⟩ := Option.isSome_iff_exists.mp hsome
  have hne : s.currentCallList.callSize ≠ 0 := by omega
  have hflag := hcond (Option.isSome_iff_exists.mpr ⟨_, hL⟩)
  rw [Slot.imsOrFresh_of_some ht] at hflag
  have hupdated := (holds_updateDisconnectedReason IMSControl.domain Steady.trivial
    (hinv.tables.ims t ht) s.currentCallList reason message).toSettled
  simp only [slotMachine, Slot.handleCallDisconnectReason, ht, Slot.imsCalls,
    Slot.imsControl_dropEmpty, if_neg hne]
  rw [IMSControl.reportImsCallsData_eq]
  refine tracksList_reportCallsData hupdated hsize s.registered _ false (fun h => by cases h)
    fun hregistered hempty => hflag hregistered ?_
  exact (OrdMap.isEmpty_mapValues _ _).symm.trans hempty

end ListingInvariant

/-- In every run whose lists get through, every list of calls is tracked, at
once or when the disconnect reason arrives. -/
theorem tracksLists_of_run (P : Platform) (slotId : Int) (s : Slot) (h : Owed)
    (hrun : Run (slotMachine P slotId) listings ListsGetThrough s h) :
    TracksLists P slotId (fun e => listings.allowed h s e ∧ ListsGetThrough h s e) s h := by
  have hinv : ListingInvariant s h :=
    Run.invariant ListingInvariant.init (fun _ _ e hinv _ _ => hinv.step e) hrun
  exact ⟨fun L hL hsize hsrvcc hrsrvcc => hinv.csList hsize hsrvcc hrsrvcc hL.2,
    fun L hL hsize hsrvcc hrsrvcc => hinv.imsList hsize hsrvcc hrsrvcc hL.2,
    fun L hL reason message hcond => hinv.csAnswer hL reason message hcond.2,
    fun L hL reason message hcond => hinv.imsAnswer hL reason message hcond.2⟩

/-- A hand-over that finds a CS control drops it, and the list of the two calls
that were handed over finds none. -/
theorem not_tracksLists_of_run :
    ¬∀ s h, Run (slotMachine .plain 0) listings unconditional s h →
      TracksLists .plain 0 (fun e => listings.allowed h s e) s h := by
  intro hclaim
  have hfound := hclaim _ _ (Run.of_admits (M := slotMachine .plain 0) (H := listings)
    [.registerCallBack true, .csCallsData (.of [.plain 1 .active]), .srvccState .completed]
    (by decide))
  rcases hfound.csList (.of [.plain 1 .active, .plain 2 .holding]) (by decide) (by decide)
    (by decide) (by decide) with htracked | howed
  · obtain ⟨m, hm, -⟩ := htracked.tracked
    cases hm
  · cases howed

/-- A list ends a call whose reason is asked for first. -/
theorem tracksLists_after_update :
    let M := slotMachine .plain 0
    let es : List Event := [.registerCallBack true, .csCallsData (.of [.plain 1 .active]),
      .csCallsData (.of [.plain 1 .active, .plain 2 .holding]),
      .csCallsData (.of [.plain 2 .active])]
    TracksLists .plain 0
      (fun e => listings.allowed (exec M listings M.init listings.init es).2
          (exec M listings M.init listings.init es).1 e ∧
        ListsGetThrough (exec M listings M.init listings.init es).2
          (exec M listings M.init listings.init es).1 e)
      (exec M listings M.init listings.init es).1 (exec M listings M.init listings.init es).2 :=
  tracksLists_of_run .plain 0 _ _ (Run.of_admits _ (by decide))

end CellularCall
