import CellularCall.SlotInvariant

/-!
# The window of a hand-over

Between the report that a hand-over to CS has started and the next SRVCC report,
the calls of the slot are on their way from one domain to the other, and what
the lists say about them is to be ignored.

The handler looks at its SRVCC state when an IMS list arrives, but for a CS list
only when the list is asked for, and not at all when a disconnect reason
arrives.  `silentWindow_of_run` says which responses may cross the window.
-/

namespace CellularCall

open Lib CallTable

/-! ## The two copies of the SRVCC state -/

namespace Slot

variable {s : Slot}

/-- The SRVCC states of the handler and of the service. -/
def srvcc (s : Slot) : SrvccState × SrvccState := (s.srvccState, s.serviceSrvccState)

theorem srvcc_request (s : Slot) (callInfo : CellularCallInfo)
    (onCs : CSControl → RetCode × CSControl × List Output)
    (onIms : IMSControl → RetCode × IMSControl × List Output) :
    (s.request callInfo onCs onIms).1.srvcc = s.srvcc := by
  unfold request
  split
  · rfl
  · split
    · split <;> rfl
    · split <;> rfl
    · rfl

theorem srvcc_dropEmpty (s : Slot) : (handleCallDisconnectReason.dropEmpty s).srvcc = s.srvcc := by
  unfold handleCallDisconnectReason.dropEmpty
  dsimp only
  split <;> split <;> rfl

/-- Only an SRVCC report changes the SRVCC states. -/
theorem srvcc_step (P : Platform) (slotId : Int) (s : Slot) {e : Event}
    (he : ∀ status, e ≠ .srvccState status) :
    ((slotMachine P slotId).step s e).1.srvcc = s.srvcc := by
  cases e with
  | csCallsData L =>
    have hstep := csListStep P slotId s L
    simp only [slotMachine]
    generalize s.reportCsCallsData P slotId L = result at hstep
    cases hstep <;> rfl
  | imsCallsData L =>
    have hstep := imsListStep P slotId s L
    simp only [slotMachine]
    generalize s.reportImsCallsData P slotId L = result at hstep
    cases hstep <;> rfl
  | callFailReason asker reason message =>
    simp only [slotMachine, handleCallDisconnectReason]
    split
    · exact srvcc_dropEmpty _
    · exact srvcc_dropEmpty _
    · rfl
  | dial callInfo isEcc useIms csEnv env =>
    simp only [slotMachine, dial, dialNormalCall]
    split
    · rfl
    · split <;> rfl
  | hangUp service callInfo type => exact srvcc_request s callInfo _ _
  | answer service callInfo => exact srvcc_request s callInfo _ _
  | reject service callInfo => exact srvcc_request s callInfo _ _
  | switchCall service =>
    simp only [slotMachine, switchCall]
    split
    · rfl
    · split <;> rfl
  | swapCallResponse request ok service =>
    simp only [slotMachine, swapCallResponse]
    split
    · rfl
    · split <;> rfl
  | radioStateChange radioOn env =>
    simp only [slotMachine, radioStateChangeProcess]
    split
    · rfl
    · split
      · rfl
      · split
        · split <;> rfl
        · rfl
  | radioWaitTimeout timer =>
    simp only [slotMachine, radioWaitTimeout]
    split
    · rfl
    · split <;> rfl
  | rilAdapterHostDied => rfl
  | clearAllCalls service infos =>
    simp only [slotMachine, clearAllCalls]
    split <;> rfl
  | registerCallBack registered => rfl
  | srvccState status => exact absurd rfl (he status)
  | rsrvccState => rfl

end Slot

/-! ## The window -/

/-- A hand-over has been reported to start, and nothing since. -/
def srvccWindow : Monitor Slot Event Output Bool where
  init := false
  allowed _ _ _ := True
  update started _ e _ _ :=
    match e with
    | .srvccState status => decide (status = .started)
    | _ => started

instance (started : Bool) (s : Slot) (e : Event) : Decidable (srvccWindow.allowed started s e) :=
  isTrue trivial

/-- The responses that describe calls: a CS list, an IMS list of calls, and a
disconnect reason. -/
def Event.isResponse : Event → Bool
  | .csCallsData _ => true
  | .imsCallsData L => decide (L.callSize ≠ 0)
  | .callFailReason _ _ _ => true
  | _ => false

/-- An event leaves the calls of both domains alone and reports none. -/
structure LeavesCalls (P : Platform) (slotId : Int) (s : Slot) (e : Event) : Prop where
  cs : ((slotMachine P slotId).step s e).1.csOrFresh.connectionMap = s.csOrFresh.connectionMap
  ims : ((slotMachine P slotId).step s e).1.imsOrFresh.connectionMap = s.imsOrFresh.connectionMap
  silent : ∀ o ∈ ((slotMachine P slotId).step s e).2, o.isReport = false

/-- Within the window every response that `C` admits leaves the calls alone. -/
def SilentWindow (P : Platform) (slotId : Int) (C : Event → Prop) (s : Slot) (started : Bool) :
    Prop :=
  started = true → ∀ e, C e → e.isResponse = true → LeavesCalls P slotId s e

/-- Within the window, a CS list finds no control, or the one that is there asks
for a disconnect reason first, or the slot ignores CS lists; and a disconnect
reason finds no control in either domain. -/
def CrossesUnseen : StepCond Slot Event Bool := fun started s e =>
  match e with
  | .csCallsData L => started = true → s.isDuringRSRVCC = true ∨ s.csControlFor L = none ∨
      s.csOrFresh.hasEndCallWithoutReason L = true
  | .callFailReason _ _ _ => started = true → s.imsControl = none ∧ s.csControl = none
  | _ => True

instance (started : Bool) (s : Slot) (e : Event) : Decidable (CrossesUnseen started s e) :=
  match e with
  | .csCallsData _ => inferInstanceAs (Decidable (_ → _ ∨ _ ∨ _))
  | .callFailReason .. => inferInstanceAs (Decidable (_ → _ ∧ _))
  | .imsCallsData .. | .dial .. | .hangUp .. | .answer .. | .reject .. | .switchCall ..
  | .swapCallResponse .. | .radioStateChange .. | .radioWaitTimeout .. | .rilAdapterHostDied
  | .clearAllCalls .. | .registerCallBack .. | .srvccState .. | .rsrvccState => isTrue trivial

section
variable {P : Platform} {slotId : Int} {s : Slot}

/-- A CS list that finds no control is not processed. -/
theorem leavesCalls_of_idle {L : CallInfoList}
    (hidle : s.isDuringRSRVCC = true ∨ s.csControlFor L = none) :
    LeavesCalls P slotId s (.csCallsData L) := by
  have hstep : ∃ duringRSRVCC, (slotMachine P slotId).step s (.csCallsData L) =
      ({ s with currentCsCallInfoList := L, isDuringRSRVCC := duringRSRVCC }, []) := by
    rcases hidle with hrsrvcc | hnone
    · simp only [slotMachine, Slot.reportCsCallsData, Slot.reportNoCsCallsData, hrsrvcc, if_true]
      split
      · exact ⟨false, rfl⟩
      · exact ⟨true, rfl⟩
    · exact Slot.reportCsCallsData_of_no_control P slotId hnone
  obtain ⟨duringRSRVCC, hstep⟩ := hstep
  refine ⟨?_, ?_, ?_⟩
  · rw [hstep]
    rfl
  · rw [hstep]
    rfl
  · rw [hstep]
    simp

/-- A CS list whose reasons are asked for first is not processed now. -/
theorem leavesCalls_of_asked {L : CallInfoList}
    (hend : s.csOrFresh.hasEndCallWithoutReason L = true) :
    LeavesCalls P slotId s (.csCallsData L) := by
  have hasked (t : CSControl) (ht : t.hasEndCallWithoutReason L = true) (registered : Bool) :
      t.reportCsCallsData P registered slotId L true = (t, [.getCallFailReason .cs]) := by
    have hempty : t.connectionMap.isEmpty = false := isEmpty_of_hasEndCallWithoutReason ht
    simp [CSControl.reportCsCallsData, hempty, ht]
  have hquery : ∀ o ∈ [Output.getCallFailReason .cs], o.isReport = false := by
    intro o ho
    rw [List.mem_singleton.mp ho]
    rfl
  have hleft : ∀ result, Slot.CsListStep P slotId s L result →
      result.1.csOrFresh.connectionMap = s.csOrFresh.connectionMap ∧
        result.1.imsOrFresh.connectionMap = s.imsOrFresh.connectionMap ∧
        ∀ o ∈ result.2, o.isReport = false := by
    intro result hstep
    cases hstep with
    | idle => exact ⟨rfl, rfl, by simp⟩
    | asked => exact ⟨rfl, rfl, hquery⟩
    | hungUp t hsize ht hnone =>
      rw [Slot.csOrFresh_of_some ht, hnone] at hend
      cases hend
    | processed t hsize ht =>
      have hfresh := Slot.csOrFresh_of_csControlFor ht
      rw [hfresh] at hend ⊢
      rw [hasked t hend s.registered]
      exact ⟨rfl, congrArg CallTable.connectionMap (Slot.imsOrFresh_markSilent (L := L) _ rfl),
        hquery⟩
  obtain ⟨hcs, hims, hsilent⟩ := hleft _ (Slot.csListStep P slotId s L)
  exact ⟨hcs, hims, hsilent⟩

/-- An IMS list of calls is ignored by the handler that knows of the hand-over. -/
theorem leavesCalls_imsCallsData (hstarted : s.srvccState = .started) {L : ImsCurrentCallList}
    (hsize : L.callSize ≠ 0) : LeavesCalls P slotId s (.imsCallsData L) := by
  have hidle : (slotMachine P slotId).step s (.imsCallsData L) =
      ({ s with currentCallList := L }, []) := by
    simp only [slotMachine, Slot.reportImsCallsData, if_neg hsize, if_pos hstarted]
  refine ⟨?_, ?_, ?_⟩
  · rw [hidle]
    rfl
  · rw [hidle]
    rfl
  · rw [hidle]
    simp

/-- A disconnect reason without controls has nothing to do. -/
theorem leavesCalls_callFailReason (hims : s.imsControl = none) (hcs : s.csControl = none)
    (asker : CallType) (reason : RilDisconnectedReason) (message : Str) :
    LeavesCalls P slotId s (.callFailReason asker reason message) := by
  have hnothing : (slotMachine P slotId).step s (.callFailReason asker reason message) =
      (s, []) := by
    simp only [slotMachine, Slot.handleCallDisconnectReason, hims, hcs]
  refine ⟨?_, ?_, ?_⟩
  · rw [hnothing]
  · rw [hnothing]
  · rw [hnothing]
    simp

end

/-- The handler knows of the hand-over as long as the window is open. -/
theorem srvccState_of_run {P : Platform} {slotId : Int} {C : StepCond Slot Event Bool} {s : Slot}
    {started : Bool} (hrun : Run (slotMachine P slotId) srvccWindow C s started) :
    started = true → s.srvccState = .started := by
  refine Run.invariant (I := fun s started => started = true → s.srvccState = .started)
    (fun h => by cases h) (fun s started e hinv _ _ => ?_) hrun
  by_cases he : ∃ status, e = .srvccState status
  · obtain ⟨status, rfl⟩ := he
    intro hstarted
    have hstatus : status = .started := of_decide_eq_true hstarted
    subst hstatus
    rfl
  · have hsame := Slot.srvcc_step P slotId s fun status h => he ⟨status, h⟩
    have hwindow : srvccWindow.next (slotMachine P slotId) started s e = started := by
      cases e with
      | srvccState status => exact absurd ⟨status, rfl⟩ he
      | _ => rfl
    rw [hwindow]
    exact fun h => (congrArg Prod.fst hsame).trans (hinv h)

/-- In every run whose responses cross the window unseen, the window is silent. -/
theorem silentWindow_of_run (P : Platform) (slotId : Int) (s : Slot) (started : Bool)
    (hrun : Run (slotMachine P slotId) srvccWindow CrossesUnseen s started) :
    SilentWindow P slotId (CrossesUnseen started s) s started := by
  intro hstarted e hcond hresponse
  cases e with
  | csCallsData L =>
    rcases hcond hstarted with hrsrvcc | hnone | hend
    · exact leavesCalls_of_idle (Or.inl hrsrvcc)
    · exact leavesCalls_of_idle (Or.inr hnone)
    · exact leavesCalls_of_asked hend
  | imsCallsData L =>
    exact leavesCalls_imsCallsData (srvccState_of_run hrun hstarted) (of_decide_eq_true hresponse)
  | callFailReason asker reason message =>
    obtain ⟨hims, hcs⟩ := hcond hstarted
    exact leavesCalls_callFailReason hims hcs asker reason message
  | _ => cases hresponse

/-- A CS list that was asked for before the hand-over shows the calls that are
handed over, and adds them. -/
theorem not_silentWindow_of_run :
    ¬∀ s started, Run (slotMachine .plain 0) srvccWindow unconditional s started →
      SilentWindow .plain 0 (fun _ => True) s started := by
  intro hclaim
  have hfound := hclaim _ _ (Run.of_admits (M := slotMachine .plain 0) (H := srvccWindow)
    [.registerCallBack true, .imsCallsData (.of [.plain 1 .active]), .srvccState .started]
    (by decide))
  have hsilent := hfound rfl (.csCallsData (.of [.plain 1 .active])) trivial rfl
  exact absurd hsilent.cs (by decide)

/-- A hand-over of an IMS call, during which an IMS list arrives. -/
theorem silentWindow_after_start :
    let M := slotMachine .plain 0
    let es : List Event := [.registerCallBack true, .imsCallsData (.of [.plain 1 .active]),
      .srvccState .started, .imsCallsData (.of [.plain 1 .active])]
    SilentWindow .plain 0
      (CrossesUnseen (exec M srvccWindow M.init srvccWindow.init es).2
        (exec M srvccWindow M.init srvccWindow.init es).1)
      (exec M srvccWindow M.init srvccWindow.init es).1
      (exec M srvccWindow M.init srvccWindow.init es).2 :=
  silentWindow_of_run .plain 0 _ _ (Run.of_admits _ (by decide))

end CellularCall
