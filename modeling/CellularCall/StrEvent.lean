import CellularCall.HangUpAll
import CellularCall.Lib.Threads
import CellularCall.ListTracking

/-!
# Going to sleep

A device that is about to suspend to RAM asks every handler first.  A handler that finds a
call, or a configuration that is not finished, keeps the event: it holds its result until
the calls are over, and hangs them all up.  The result is one for all handlers, and so is
the flag of the configuration.

`strEvents_of_run` says what becomes of the events on every run of all slots.  Each is
finished once at most; one that is not finished either waits, or was replaced by another.
And an event that waits has something to wait for: a configuration that is not finished, or
a control whose calls may end; unless a control was dropped in another way than by an empty
list, since only the empty list looks for the event.
-/

namespace CellularCall

open Lib

/-- The service with its slots, and what the handlers share: `isNvCfgFinish_` and
`strEnterEventResult_`.  Results are numbered as they are handed out. -/
structure StrService where
  service : Service
  isNvCfgFinish : Bool
  strEnterEventResult : Option Nat
  results : Nat

/-- What is sent: what a slot sends, the requests that hang up all calls, and that an event
is kept or finished. -/
inductive StrOutput where
  | slot (slotId : Int) (output : Output)
  | hangUp (request : (Int × CallType) × Output)
  | goAsyncCommonEvent (result : Nat)
  | finishCommonEvent (result : Nat)
deriving DecidableEq, Repr

/-- What happens.

* `enterStr`: the event comes to the handler of a slot, with whether the slot has a SIM
  profile and whether the event has a result to hold.
* `nvCfgFinished`: `NvCfgFinishedIndication`, with its state. -/
inductive StrMessage where
  | slot (slotId : Int) (e : Event)
  | enterStr (slotId : Int) (hasSimProfile hasResult : Bool) (service : ImsService)
  | nvCfgFinished (slotId : Int) (data : Int)
deriving DecidableEq

/-- `STATE_NV_REFRESH_FINISHED`. -/
def stateNvRefreshFinished : Int := 1

/-- `STATE_NV_REFRESH_ALREADY_FINISHED`. -/
def stateNvRefreshAlreadyFinished : Int := 4

/-- The empty lists that find a control: `ReportNoCsCallsData` and
`ReportNoImsCallsData` past their checks. -/
def Slot.looksForEvent (s : Slot) : Event → Bool
  | .csCallsData L => L.callSize == 0 && !s.isDuringRSRVCC && s.csControl.isSome
  | .imsCallsData L => L.callSize == 0 && s.imsControl.isSome
  | _ => false

namespace StrService

def init : StrService := ⟨⟨fun _ => .init, .none⟩, false, none, 0⟩

/-- The control maps, as far as `HangUpAllConnection()` reads them. -/
def controls (s : StrService) : Controls where
  csControlMap := fun slotId => (s.service.slots slotId).csControl
  imsControlMap := fun slotId => (s.service.slots slotId).imsControl
  satelliteControlMap := fun _ => none

/-- `IsCellularCallExist`. -/
def isCellularCallExist (slotCount : Int) (s : StrService) : Bool :=
  (getSlotInfo slotCount).any fun slotId =>
    ((s.controls.getImsControl slotCount slotId).any fun c => !c.connectionMap.isEmpty) ||
      (s.controls.getCsControl slotCount slotId).any fun c => !c.connectionMap.isEmpty

/-- `ProcessFinishCommonEvent`. -/
def processFinishCommonEvent (s : StrService) : StrService × List StrOutput :=
  match s.strEnterEventResult with
  | none => (s, [])
  | some result => ({ s with strEnterEventResult := none }, [.finishCommonEvent result])

/-- `OnReceiveEvent` of `ENTER_STR_TELEPHONY_NOTIFY`. -/
def onReceiveEvent (slotCount : Int) (s : StrService) (hasSimProfile hasResult : Bool)
    (service : ImsService) : StrService × List StrOutput :=
  if hasSimProfile && (s.isCellularCallExist slotCount || !s.isNvCfgFinish) then
    let hungUp := (s.controls.hangUpAllConnection slotCount service).2.map StrOutput.hangUp
    if hasResult then
      ({ s with strEnterEventResult := some s.results, results := s.results + 1 },
        .goAsyncCommonEvent s.results :: hungUp)
    else ({ s with strEnterEventResult := none }, hungUp)
  else (s, [])

/-- `NvCfgFinishedIndication`, as far as the event is concerned. -/
def nvCfgFinishedIndication (s : StrService) (data : Int) : StrService × List StrOutput :=
  if data = stateNvRefreshFinished ∨ stateNvRefreshAlreadyFinished ≤ data then
    processFinishCommonEvent { s with isNvCfgFinish := true }
  else ({ s with isNvCfgFinish := false }, [])

/-- A message for one slot: an empty list finishes the event before it is processed. -/
def slotStep (P : Platform) (s : StrService) (slotId : Int) (e : Event) :
    StrService × List StrOutput :=
  let (s, finished) :=
    if (s.service.slot slotId).looksForEvent e then s.processFinishCommonEvent else (s, [])
  let (service, outputs) := (serviceMachine P).step s.service (slotId, e)
  ({ s with service := service }, finished ++ outputs.map (StrOutput.slot slotId))

def machine (P : Platform) (slotCount : Int) : Machine StrService StrMessage StrOutput where
  init := init
  step s
    | .slot slotId e => s.slotStep P slotId e
    | .enterStr _ hasSimProfile hasResult service =>
      s.onReceiveEvent slotCount hasSimProfile hasResult service
    | .nvCfgFinished _ data => s.nvCfgFinishedIndication data

/-- What is remembered of a run: the results that were finished, those whose place another
event took, and whether a control may have been dropped, other than by an empty list, since
the event came that waits. -/
structure Past where
  finished : List Nat
  replaced : List Nat
  dropped : Bool

/-- The result an output finishes. -/
def finished? : StrOutput → Option Nat
  | .finishCommonEvent result => some result
  | _ => none

/-- The messages that drop a control without an empty list: a disconnect reason, the death
of the modem's host, and a hand-over. -/
def drops : Event → Bool
  | .csCallsData _ | .imsCallsData _ => false
  | e => !e.isOrdinary

def past : Monitor StrService StrMessage StrOutput Past where
  init := ⟨[], [], false⟩
  allowed _ _ _ := True
  update r s m s' outputs :=
    let finished := outputs.filterMap finished? ++ r.finished
    match m with
    | .slot _ e => { r with finished := finished, dropped := r.dropped || drops e }
    | .enterStr _ _ _ _ =>
      if s'.strEnterEventResult = s.strEnterEventResult then { r with finished := finished }
      else ⟨finished, s.strEnterEventResult.toList ++ r.replaced, false⟩
    | .nvCfgFinished _ _ => { r with finished := finished }

instance (r : Past) (s : StrService) (m : StrMessage) : Decidable (past.allowed r s m) :=
  isTrue trivial

end StrService

/-! ## Controls that stay -/

namespace Slot

variable {P : Platform} {slotId : Int} {s : Slot}

/-- The slot has a control for calls. -/
def HasControl (s : Slot) : Prop := s.csControl.isSome = true ∨ s.imsControl.isSome = true

/-- A CS list that does not look for the event leaves the controls there are. -/
theorem HasControl.reportCsCallsData (h : s.HasControl) {L : CallInfoList}
    (hlooks : s.looksForEvent (.csCallsData L) = false) :
    (s.reportCsCallsData P slotId L).1.HasControl := by
  by_cases hrsrvcc : s.isDuringRSRVCC = true
  · -- the list is only remembered
    unfold Slot.reportCsCallsData reportNoCsCallsData
    dsimp only
    rw [hrsrvcc]
    split <;> exact h
  · have hstep := csListStep P slotId s L
    generalize s.reportCsCallsData P slotId L = result at hstep
    cases hstep with
    | idle => exact h
    | asked => exact h
    | hungUp t hsize ht =>
      rw [looksForEvent, hsize, ht] at hlooks
      simp [hrsrvcc] at hlooks
    | processed t => exact .inl rfl

theorem HasControl.reportImsCallsData (h : s.HasControl) {L : ImsCurrentCallList}
    (hlooks : s.looksForEvent (.imsCallsData L) = false) :
    (s.reportImsCallsData P slotId L).1.HasControl := by
  have hstep := imsListStep P slotId s L
  generalize s.reportImsCallsData P slotId L = result at hstep
  cases hstep with
  | idle => exact h
  | asked => exact h
  | hungUp t hsize ht =>
    rw [looksForEvent, hsize, ht] at hlooks
    simp at hlooks
  | processed t => exact .inr rfl

/-- An empty IMS list without a control, and an empty CS list during a hand-over. -/
theorem reportImsCallsData_none (hnone : s.imsControl = none) :
    (s.reportImsCallsData P slotId .none).1 = { s with currentCallList := .none } := by
  unfold Slot.reportImsCallsData reportNoImsCallsData
  simp [CallList.none, hnone]

theorem reportCsCallsData_none (hrsrvcc : s.isDuringRSRVCC = true) :
    (s.reportCsCallsData P slotId .none).1 =
      { s with currentCsCallInfoList := .none, isDuringRSRVCC := false } := by
  unfold Slot.reportCsCallsData reportNoCsCallsData
  simp [CallList.none, hrsrvcc]

theorem HasControl.step (h : s.HasControl) {e : Event} (hdrops : StrService.drops e = false)
    (hlooks : s.looksForEvent e = false) : ((slotMachine P slotId).step s e).1.HasControl := by
  have hordinary : e.isOrdinary = true → ((slotMachine P slotId).step s e).1.HasControl := by
    intro he
    have hkeeps := keepsControls_step P slotId s he
    exact h.imp hkeeps.cs hkeeps.ims
  cases e with
  | csCallsData L => exact h.reportCsCallsData hlooks
  | imsCallsData L => exact h.reportImsCallsData hlooks
  | _ => exact hordinary (by simpa [StrService.drops] using hdrops)

end Slot

namespace StrService

variable {P : Platform} {slotCount : Int} {s : StrService} {r : Past}

/-- Some slot has a control. -/
def HasControls (slotCount : Int) (s : StrService) : Prop :=
  ∃ slotId, isValidSlotId slotCount slotId = true ∧ (s.service.slots slotId).HasControl

theorem HasControls.of_isCellularCallExist (h : s.isCellularCallExist slotCount = true) :
    s.HasControls slotCount := by
  obtain ⟨slotId, hslot, hcalls⟩ := List.any_eq_true.mp h
  have hvalid := mem_getSlotInfo_iff.mp hslot
  refine ⟨slotId, hvalid, ?_⟩
  simp only [Controls.getImsControl, Controls.getCsControl, hvalid, if_true, Bool.or_eq_true] at hcalls
  rcases hcalls with hims | hcs
  · obtain ⟨t, ht, -⟩ := (Option.any_eq_true _ _).mp hims
    exact .inr (by rw [show (s.service.slots slotId).imsControl = some t from ht]; rfl)
  · obtain ⟨t, ht, -⟩ := (Option.any_eq_true _ _).mp hcs
    exact .inl (by rw [show (s.service.slots slotId).csControl = some t from ht]; rfl)

/-! ## Events -/

/-- What becomes of the events. -/
structure Accounted (slotCount : Int) (s : StrService) (r : Past) : Prop where
  each : (r.finished ++ r.replaced ++ s.strEnterEventResult.toList).Perm (List.range s.results)
  awaited : s.strEnterEventResult ≠ none →
    s.isNvCfgFinish = false ∨ r.dropped = true ∨ s.HasControls slotCount

/-- The event that waits is finished, if there is one. -/
theorem each_processFinishCommonEvent
    (h : (r.finished ++ r.replaced ++ s.strEnterEventResult.toList).Perm (List.range s.results)) :
    (s.processFinishCommonEvent.2.filterMap finished? ++ r.finished ++ r.replaced ++
      s.processFinishCommonEvent.1.strEnterEventResult.toList).Perm
        (List.range s.processFinishCommonEvent.1.results) := by
  unfold processFinishCommonEvent
  cases hwaits : s.strEnterEventResult with
  | none =>
    rw [hwaits] at h
    simpa [hwaits] using h
  | some n =>
    rw [hwaits] at h
    refine List.Perm.trans ?_ h
    refine List.perm_iff_count.mpr fun m => ?_
    simp only [List.filterMap_cons, finished?, List.filterMap_nil, Option.toList_none,
      Option.toList_some, List.count_append, List.append_nil]
    omega

theorem waiting_processFinishCommonEvent (s : StrService) :
    s.processFinishCommonEvent.1.strEnterEventResult = none := by
  unfold processFinishCommonEvent
  cases hwaits : s.strEnterEventResult with
  | none => exact hwaits
  | some n => rfl

theorem finished?_hangUp (requests : List ((Int × CallType) × Output)) :
    (requests.map StrOutput.hangUp).filterMap finished? = [] := by
  induction requests with
  | nil => rfl
  | cons request requests ih => exact ih

theorem finished?_slot (slotId : Int) (outputs : List Output) :
    (outputs.map (StrOutput.slot slotId)).filterMap finished? = [] := by
  induction outputs with
  | nil => rfl
  | cons o outputs ih => exact ih

theorem Accounted.nvCfgFinished (h : Accounted slotCount s r) (slotId data : Int) :
    Accounted slotCount ((machine P slotCount).step s (.nvCfgFinished slotId data)).1
      (past.next (machine P slotCount) r s (.nvCfgFinished slotId data)) := by
  show Accounted slotCount (s.nvCfgFinishedIndication data).1
    { r with finished := (s.nvCfgFinishedIndication data).2.filterMap finished? ++ r.finished }
  unfold nvCfgFinishedIndication
  split
  · refine ⟨each_processFinishCommonEvent (s := { s with isNvCfgFinish := true }) h.each,
      fun hwaits => ?_⟩
    exact absurd (waiting_processFinishCommonEvent _) hwaits
  · exact ⟨h.each, fun _ => .inl rfl⟩

/-- The event is kept for a call or for the configuration. -/
theorem Accounted.enterStr (h : Accounted slotCount s r) (slotId : Int)
    (hasSimProfile hasResult : Bool) (service : ImsService) :
    Accounted slotCount
      ((machine P slotCount).step s (.enterStr slotId hasSimProfile hasResult service)).1
      (past.next (machine P slotCount) r s (.enterStr slotId hasSimProfile hasResult service)) := by
  show Accounted slotCount (s.onReceiveEvent slotCount hasSimProfile hasResult service).1
    (past.update r s (.enterStr slotId hasSimProfile hasResult service)
      (s.onReceiveEvent slotCount hasSimProfile hasResult service).1
      (s.onReceiveEvent slotCount hasSimProfile hasResult service).2)
  have hlt : ∀ n, s.strEnterEventResult = some n → n < s.results := by
    intro n hn
    refine List.mem_range.mp (h.each.mem_iff.mp ?_)
    simp [hn]
  unfold onReceiveEvent
  split
  · next hkept =>
    have hawaited : s.isNvCfgFinish = false ∨ s.HasControls slotCount := by
      rw [Bool.and_eq_true, Bool.or_eq_true, Bool.not_eq_true'] at hkept
      exact hkept.2.symm.imp id HasControls.of_isCellularCallExist
    split
    · have hnew : some s.results ≠ s.strEnterEventResult := fun heq =>
        Nat.lt_irrefl _ (hlt _ heq.symm)
      simp only [past, if_neg hnew, List.filterMap_cons, finished?, finished?_hangUp,
        List.nil_append]
      refine ⟨?_, fun _ => hawaited.imp id .inr⟩
      have heach := h.each
      rw [List.range_succ]
      refine List.perm_iff_count.mpr fun m => ?_
      have hcount := heach.count_eq m
      simp only [List.count_append, Option.toList_some] at hcount ⊢
      omega
    · simp only [past, finished?_hangUp, List.nil_append]
      cases hwaits : s.strEnterEventResult with
      | none =>
        refine ⟨?_, fun hne => absurd rfl hne⟩
        simpa [hwaits] using h.each
      | some n =>
        simp only [reduceCtorEq, if_false]
        refine ⟨?_, fun hne => absurd rfl hne⟩
        have heach := h.each
        rw [hwaits] at heach
        refine List.Perm.trans (List.perm_iff_count.mpr fun m => ?_) heach
        simp only [List.count_append, Option.toList_some, Option.toList_none, List.count_nil]
        omega
  · refine ⟨?_, ?_⟩
    · simpa [past] using h.each
    · simpa [past] using h.awaited

/-- Another slot's control stays, and so does this slot's if nothing drops it. -/
theorem HasControls.serviceStep (h : s.HasControls slotCount) {slotId : Int} {e : Event}
    (hdrops : drops e = false) (hlooks : (s.service.slot slotId).looksForEvent e = false) :
    HasControls slotCount
      { s with service := ((serviceMachine P).step s.service (slotId, e)).1 } := by
  obtain ⟨i, hvalid, hcontrol⟩ := h
  refine ⟨i, hvalid, ?_⟩
  show (if i = slotId then _ else s.service.slots i).HasControl
  split
  · next heq =>
    rw [heq] at hcontrol
    exact Slot.HasControl.step (s := s.service.slot slotId) hcontrol hdrops hlooks
  · exact hcontrol

theorem Accounted.slot (h : Accounted slotCount s r) (slotId : Int) (e : Event) :
    Accounted slotCount ((machine P slotCount).step s (.slot slotId e)).1
      (past.next (machine P slotCount) r s (.slot slotId e)) := by
  show Accounted slotCount (s.slotStep P slotId e).1
    { r with
      finished := (s.slotStep P slotId e).2.filterMap finished? ++ r.finished
      dropped := r.dropped || drops e }
  unfold slotStep
  cases hlooks : (s.service.slot slotId).looksForEvent e with
  | true =>
    simp only [if_true, List.filterMap_append, finished?_slot, List.append_nil]
    refine ⟨each_processFinishCommonEvent h.each, fun hwaits => ?_⟩
    exact absurd (waiting_processFinishCommonEvent s) hwaits
  | false =>
    simp only [Bool.false_eq_true, if_false, List.nil_append, finished?_slot]
    refine ⟨h.each, fun hwaits => ?_⟩
    rcases h.awaited hwaits with hcfg | hdropped | hcontrols
    · exact .inl hcfg
    · exact .inr (.inl (by rw [hdropped, Bool.true_or]))
    · cases hdrops : drops e with
      | true => exact .inr (.inl (Bool.or_true _))
      | false => exact .inr (.inr (hcontrols.serviceStep hdrops hlooks))

/-- On every run of all slots, an event that was kept is finished once, or waits, or was
replaced by another; and the one that waits has a configuration or a control to wait for,
unless a control may have been dropped meanwhile by something else than an empty list. -/
theorem strEvents_of_run (P : Platform) (slotCount : Int) {s : StrService} {r : Past}
    (hrun : Run (machine P slotCount) past unconditional s r) : Accounted slotCount s r := by
  refine hrun.invariant (I := Accounted slotCount) ⟨List.Perm.refl _, fun h => absurd rfl h⟩ ?_
  intro s r m h _ _
  cases m with
  | slot slotId e => exact h.slot slotId e
  | enterStr slotId hasSimProfile hasResult service =>
    exact h.enterStr slotId hasSimProfile hasResult service
  | nvCfgFinished slotId data => exact h.nvCfgFinished slotId data

/-- The modem's host dies while the event waits for a call: the control is gone, and the
empty list that follows finds nothing to finish the event for. -/
theorem strEvents_after_host_died :
    let s := exec (machine .plain 1) past init past.init
      [.nvCfgFinished 0 1, .slot 0 (.csCallsData (.of [.plain 1 .active])),
        .enterStr 0 true true .plain, .slot 0 .rilAdapterHostDied, .slot 0 (.csCallsData .none)]
    Accounted 1 s.1 s.2 ∧ s.1.strEnterEventResult = some 0 ∧ s.1.isNvCfgFinish = true ∧
      s.1.isCellularCallExist 1 = false :=
  ⟨strEvents_of_run .plain 1 (Run.of_admits (M := machine .plain 1) (H := past) _ (by decide)),
    by decide, by decide, by decide⟩

/-! ## The event that waits -/

section
variable {n : Nat} {slotId : Int} {e : Event} (hwaits : s.strEnterEventResult = some n)
include hwaits

/-- An empty list that looks for the event finishes it. -/
theorem mem_slotStep_of_looks (hlooks : (s.service.slot slotId).looksForEvent e = true) :
    .finishCommonEvent n ∈ (s.slotStep P slotId e).2 := by
  unfold slotStep
  rw [hlooks]
  refine List.mem_append_left _ ?_
  simp [processFinishCommonEvent, hwaits]

/-- Any other message for the slot leaves it waiting. -/
theorem waiting_slotStep (hlooks : (s.service.slot slotId).looksForEvent e = false) :
    (s.slotStep P slotId e).1.strEnterEventResult = some n := by
  unfold slotStep
  rw [hlooks]
  exact hwaits

end

/-- The slot after a message that does not look for the event. -/
theorem slot_slotStep {slotId : Int} {e : Event}
    (hlooks : (s.service.slot slotId).looksForEvent e = false) :
    (s.slotStep P slotId e).1.service.slot slotId =
      ((slotMachine P slotId).step (s.service.slot slotId) e).1 := by
  have hput : ∀ (sv : Service) (t : Slot), (sv.put slotId t).slot slotId = t := by
    intro sv t
    simp [Service.slot, Service.put]
  unfold slotStep
  rw [hlooks]
  exact hput _ _

/-- From every state in which the event waits and the slot has a control, lists of no calls
finish it: an IMS list, or a CS list, or a second one where the first ends a hand-over. -/
theorem finishes_of_no_calls (P : Platform) (slotCount : Int) (s : StrService) (n : Nat)
    (hwaits : s.strEnterEventResult = some n) (slotId : Int)
    (hcontrol : (s.service.slots slotId).HasControl) :
    .finishCommonEvent n ∈ (machine P slotCount).outputs s
      [.slot slotId (.imsCallsData .none), .slot slotId (.csCallsData .none),
        .slot slotId (.csCallsData .none)] := by
  show _ ∈ (s.slotStep P slotId (.imsCallsData .none)).2 ++ _
  cases hims : (s.service.slot slotId).looksForEvent (.imsCallsData .none) with
  | true => exact List.mem_append_left _ (mem_slotStep_of_looks hwaits hims)
  | false =>
    have hnone : (s.service.slot slotId).imsControl = none := by
      simpa [Slot.looksForEvent, CallList.none] using hims
    have hcs : (s.service.slot slotId).csControl.isSome = true := by
      rcases hcontrol with hcs | hother
      · exact hcs
      · rw [show (s.service.slots slotId).imsControl = none from hnone] at hother
        cases hother
    refine List.mem_append_right _ ?_
    show _ ∈ (machine P slotCount).outputs (s.slotStep P slotId (.imsCallsData .none)).1 _
    have hwaits' := waiting_slotStep (P := P) hwaits hims
    have hslot := slot_slotStep (P := P) hims
    rw [show (slotMachine P slotId).step (s.service.slot slotId) (.imsCallsData .none) =
      (s.service.slot slotId).reportImsCallsData P slotId .none from rfl,
      Slot.reportImsCallsData_none hnone] at hslot
    generalize (s.slotStep P slotId (.imsCallsData .none)).1 = s' at hwaits' hslot
    have hcs' : (s'.service.slot slotId).csControl.isSome = true := by
      rw [hslot]
      exact hcs
    show _ ∈ (s'.slotStep P slotId (.csCallsData .none)).2 ++ _
    cases hlooks : (s'.service.slot slotId).looksForEvent (.csCallsData .none) with
    | true => exact List.mem_append_left _ (mem_slotStep_of_looks hwaits' hlooks)
    | false =>
      have hrsrvcc : (s'.service.slot slotId).isDuringRSRVCC = true := by
        simpa [Slot.looksForEvent, CallList.none, hcs'] using hlooks
      refine List.mem_append_right _ ?_
      show _ ∈ (machine P slotCount).outputs (s'.slotStep P slotId (.csCallsData .none)).1 _
      have hwaits₂ := waiting_slotStep (P := P) hwaits' hlooks
      have hslot₂ := slot_slotStep (P := P) hlooks
      rw [show (slotMachine P slotId).step (s'.service.slot slotId) (.csCallsData .none) =
        (s'.service.slot slotId).reportCsCallsData P slotId .none from rfl,
        Slot.reportCsCallsData_none hrsrvcc] at hslot₂
      generalize (s'.slotStep P slotId (.csCallsData .none)).1 = s₂ at hwaits₂ hslot₂
      show _ ∈ (s₂.slotStep P slotId (.csCallsData .none)).2 ++ _
      refine List.mem_append_left _ (mem_slotStep_of_looks hwaits₂ ?_)
      rw [hslot₂]
      simpa [Slot.looksForEvent, CallList.none] using hcs'

/-- A call of slot 0 keeps the event, and its end finishes it. -/
theorem finishes_after_call :
    let s := (exec (machine .plain 1) past init past.init
      [.slot 0 (.csCallsData (.of [.plain 1 .active])), .enterStr 0 true true .plain]).1
    .finishCommonEvent 0 ∈ (machine .plain 1).outputs s
      [.slot 0 (.imsCallsData .none), .slot 0 (.csCallsData .none),
        .slot 0 (.csCallsData .none)] :=
  finishes_of_no_calls .plain 1 _ 0 (by decide) 0 (.inl (by decide))

end StrService

end CellularCall
