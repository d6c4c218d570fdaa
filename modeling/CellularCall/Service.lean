import CellularCall.SrvccWindow

/-!
# The service and its slots

`CellularCallService` serves all slots of the device.  Each slot has a handler
and controls of its own, but there is one `srvccState_` in the service, which
every handler writes when its modem reports the progress of a hand-over, and
which the call operations of every slot read.

`Service` puts the slots together.  `isolated_iff_of_run` says when an operation
sees the state of its own slot.  `step_eq_guarded` links it to the model of one slot:
the operations of `slotMachine` are the guarded ones of the service.
-/

namespace CellularCall

open Lib

/-- `CellularCallService::IsValidSlotId`, where `slotCount` is
`SIM_SLOT_COUNT`. -/
def isValidSlotId (slotCount slotId : Int) : Bool :=
  if slotCount = 1 then slotId == 0
  else if slotCount = 2 then slotId == 0 || slotId == 1
  else false

/-- The slots, and the SRVCC state of the service. -/
structure Service where
  slots : Int → Slot
  srvccState : SrvccState

/-- How a guarded operation ends: on its slot number, on a hand-over, or with
what it does. -/
inductive Outcome where
  | invalidSlotId
  | rejected
  | performed (result : Slot × List Output)
deriving DecidableEq

namespace Service

/-- The slot as its operations see it. -/
def slot (sv : Service) (slotId : Int) : Slot :=
  { sv.slots slotId with serviceSrvccState := sv.srvccState }

/-- The service once a slot has changed. -/
def put (sv : Service) (slotId : Int) (s : Slot) : Service where
  slots := fun i => if i = slotId then s else sv.slots i
  srvccState := s.serviceSrvccState

/-- What `Dial`, `HangUp`, `Reject`, `Answer`, `HoldCall`, `UnHoldCall`,
`SwitchCall`, `CombineConference`, `StartDtmf`, `StopDtmf`, `SendDtmf` and
`PostDialProceed` have in common: the checks before `body`, the operation's
own work. -/
def guarded (slotCount : Int) (sv : Service) (slotId : Int)
    (body : Slot → Slot × List Output) : Outcome :=
  if isValidSlotId slotCount slotId = false then .invalidSlotId
  else if sv.srvccState = .started then .rejected
  else .performed (body (sv.slot slotId))

end Service

/-- The service as a machine; an event comes with its slot. -/
def serviceMachine (P : Platform) : Machine Service (Int × Event) Output where
  init := ⟨fun _ => .init, .none⟩
  step sv e :=
    let (s, outputs) := (slotMachine P e.1).step (sv.slot e.1) e.2
    (sv.put e.1 s, outputs)

/-! ## The operations behind the guard -/

namespace Slot

/-- `HangUp`, `Answer` and `Reject` past their checks. -/
def dispatch (s : Slot) (callInfo : CellularCallInfo)
    (onCs : CSControl → RetCode × CSControl × List Output)
    (onIms : IMSControl → RetCode × IMSControl × List Output) : Slot × List Output :=
  match callInfo.callType with
  | .cs =>
    match s.csControl with
    | none => (s, [.reportControlException callInfo, .returned .errLocalPtrNull])
    | some csControl =>
      let (ret, csControl, outputs) := onCs csControl
      ({ s with csControl := some csControl }, outputs ++ [.returned ret])
  | .ims =>
    match s.imsControl with
    | none => (s, [.reportControlException callInfo, .returned .errLocalPtrNull])
    | some imsControl =>
      let (ret, imsControl, outputs) := onIms imsControl
      ({ s with imsControl := some imsControl }, outputs ++ [.returned ret])
  | _ => (s, [.returned .errArgumentInvalid])

/-- `SwitchCall` past its checks. -/
def switchDispatch (slotId : Int) (service : ImsService) (s : Slot) : Slot × List Output :=
  match s.imsControl with
  | none => (s, [.returned .errLocalPtrNull])
  | some imsControl =>
    let (ret, outputs) := imsControl.switchCall service slotId
    (s, outputs ++ [.returned ret])

end Slot

/-- The work of the operations a slot is asked for. -/
def Event.body (P : Platform) (slotId : Int) : Event → Option (Slot → Slot × List Output)
  | .dial callInfo isEcc useIms csEnv env =>
    some fun s => s.dialNormalCall P callInfo isEcc useIms csEnv env
  | .hangUp service callInfo type => some fun s => s.dispatch callInfo
      (fun c => c.hangUp callInfo type) (fun c => IMSControl.hangUp service c callInfo type)
  | .answer service callInfo => some fun s => s.dispatch callInfo
      (fun c => c.answer callInfo) (fun c => IMSControl.answer service c callInfo)
  | .reject service callInfo => some fun s => s.dispatch callInfo
      (fun c => c.reject callInfo) (fun c => IMSControl.reject service c callInfo)
  | .switchCall service => some (Slot.switchDispatch slotId service)
  | _ => none

/-- What an operation leaves in its slot: an operation that is rejected returns
`TELEPHONY_ERR_FAIL` and does nothing else. -/
def Outcome.result (s : Slot) : Outcome → Slot × List Output
  | .performed result => result
  | .rejected => (s, [.returned .errFail])
  | .invalidSlotId => (s, [])

/-- The operations of the slot model are guarded so. -/
theorem step_eq_guarded (P : Platform) {slotCount slotId : Int}
    (hvalid : isValidSlotId slotCount slotId = true) (sv : Service) {e : Event}
    {body : Slot → Slot × List Output} (he : e.body P slotId = some body) :
    (slotMachine P slotId).step (sv.slot slotId) e =
      (Service.guarded slotCount sv slotId body).result (sv.slot slotId) := by
  have hchecked : Service.guarded slotCount sv slotId body =
      if sv.srvccState = .started then .rejected else .performed (body (sv.slot slotId)) := by
    rw [Service.guarded, if_neg (by simp [hvalid])]
  rw [hchecked]
  by_cases hstarted : sv.srvccState = .started
  · have hslot : (sv.slot slotId).serviceSrvccState = .started := hstarted
    rw [if_pos hstarted]
    cases e with
    | dial callInfo isEcc useIms csEnv env =>
      simp only [slotMachine, Slot.dial, if_pos hslot, Outcome.result]
    | hangUp service callInfo type =>
      simp only [slotMachine, Slot.hangUp, Slot.request, if_pos hslot, Outcome.result]
    | answer service callInfo =>
      simp only [slotMachine, Slot.answer, Slot.request, if_pos hslot, Outcome.result]
    | reject service callInfo =>
      simp only [slotMachine, Slot.reject, Slot.request, if_pos hslot, Outcome.result]
    | switchCall service =>
      simp only [slotMachine, Slot.switchCall, if_pos hslot, Outcome.result]
    | _ => cases he
  · have hslot : ¬(sv.slot slotId).serviceSrvccState = .started := hstarted
    rw [if_neg hstarted]
    cases e with
    | dial callInfo isEcc useIms csEnv env =>
      cases he
      simp only [slotMachine, Slot.dial, if_neg hslot, Outcome.result]
    | hangUp service callInfo type =>
      cases he
      simp only [slotMachine, Slot.hangUp, Slot.request, if_neg hslot, Outcome.result]
      rfl
    | answer service callInfo =>
      cases he
      simp only [slotMachine, Slot.answer, Slot.request, if_neg hslot, Outcome.result]
      rfl
    | reject service callInfo =>
      cases he
      simp only [slotMachine, Slot.reject, Slot.request, if_neg hslot, Outcome.result]
      rfl
    | switchCall service =>
      cases he
      simp only [slotMachine, Slot.switchCall, if_neg hslot, Outcome.result]
      rfl
    | _ => cases he

/-! ## Isolation -/

/-- The last SRVCC report of each slot, and the last of any slot. -/
structure SrvccReports where
  slot : Int → SrvccState
  last : SrvccState

def srvccReports (slotCount : Int) : Monitor Service (Int × Event) Output SrvccReports where
  init := ⟨fun _ => .none, .none⟩
  allowed _ _ e := isValidSlotId slotCount e.1 = true
  update h _ e _ _ :=
    match e.2 with
    | .srvccState status => ⟨fun i => if i = e.1 then status else h.slot i, status⟩
    | _ => h

instance (slotCount : Int) (h : SrvccReports) (sv : Service) (e : Int × Event) :
    Decidable ((srvccReports slotCount).allowed h sv e) :=
  inferInstanceAs (Decidable (_ = _))

/-- A guarded operation is rejected if its slot is being handed over, and goes
through otherwise. -/
structure Isolated (slotCount : Int) (sv : Service) (h : SrvccReports) (slotId : Int)
    (body : Slot → Slot × List Output) : Prop where
  started : h.slot slotId = .started → Service.guarded slotCount sv slotId body = .rejected
  free : h.slot slotId ≠ .started →
    Service.guarded slotCount sv slotId body = .performed (body (sv.slot slotId))

/-- The service remembers the last report, of whichever slot. -/
theorem srvccState_eq_last {P : Platform} {slotCount : Int}
    {C : StepCond Service (Int × Event) SrvccReports} {sv : Service} {h : SrvccReports}
    (hrun : Run (serviceMachine P) (srvccReports slotCount) C sv h) : sv.srvccState = h.last := by
  refine Run.invariant (I := fun sv h => sv.srvccState = h.last) rfl
    (fun sv h e hinv _ _ => ?_) hrun
  obtain ⟨slotId, e⟩ := e
  by_cases he : ∃ status, e = .srvccState status
  · obtain ⟨status, rfl⟩ := he
    show ((sv.slot slotId).updateSrvccStateReport status).1.serviceSrvccState = status
    unfold Slot.updateSrvccStateReport
    dsimp only
    split <;> rfl
  · have hsame := Slot.srvcc_step P slotId (sv.slot slotId) fun status h => he ⟨status, h⟩
    have hkept : (srvccReports slotCount).next (serviceMachine P) h sv (slotId, e) = h := by
      cases e with
      | srvccState status => exact absurd ⟨status, rfl⟩ he
      | _ => rfl
    rw [hkept]
    exact (congrArg Prod.snd hsame).trans hinv

/-- Wherever the slots and their hand-overs have taken the service, an operation
sees the hand-over of its own slot if and only if the last report of any slot
tells the same as the last of its own. -/
theorem isolated_iff_of_run (P : Platform) (slotCount : Int) (sv : Service) (h : SrvccReports)
    (hrun : Run (serviceMachine P) (srvccReports slotCount) unconditional sv h) (slotId : Int)
    (hvalid : isValidSlotId slotCount slotId = true) (body : Slot → Slot × List Output) :
    Isolated slotCount sv h slotId body ↔ (h.last = .started ↔ h.slot slotId = .started) := by
  have hchecked : Service.guarded slotCount sv slotId body =
      if h.last = .started then .rejected else .performed (body (sv.slot slotId)) := by
    rw [Service.guarded, if_neg (by simp [hvalid]), srvccState_eq_last hrun]
  constructor
  · intro hisolated
    by_cases hlast : h.last = .started
    · rw [if_pos hlast] at hchecked
      refine iff_of_true hlast ?_
      by_contra hslot
      have hperformed := hisolated.free hslot
      rw [hchecked] at hperformed
      cases hperformed
    · rw [if_neg hlast] at hchecked
      refine iff_of_false hlast fun hslot => ?_
      have hrejected := hisolated.started hslot
      rw [hchecked] at hrejected
      cases hrejected
  · intro hagree
    refine ⟨fun hslot => ?_, fun hslot => ?_⟩
    · rw [hchecked, if_pos (hagree.mpr hslot)]
    · rw [hchecked, if_neg fun hlast => hslot (hagree.mp hlast)]

/-- Slot 0 is being handed over when slot 1 reports that its own hand-over has
failed: a dial on slot 0 goes through. -/
theorem not_isolated_of_run :
    ¬∀ sv h, Run (serviceMachine .plain) (srvccReports 2) unconditional sv h →
      ∀ slotId, isValidSlotId 2 slotId = true → ∀ body, Isolated 2 sv h slotId body := by
  intro hclaim
  have hfound := hclaim _ _ (Run.of_admits (M := serviceMachine .plain) (H := srvccReports 2)
    [(0, .srvccState .started), (1, .srvccState (.other 4))] (by decide)) 0 (by decide)
    (fun s => s.dialNormalCall .plain (.plain .ims 0) false true ⟨true, .gsm, .plain⟩
      (.plain .plain))
  have hrejected := hfound.started (by decide)
  exact absurd hrejected (by decide)

/-- A hand-over of slot 0, while slot 1 reports nothing. -/
theorem isolated_iff_after_start :
    let M := serviceMachine .plain
    let H := srvccReports 2
    let es : List (Int × Event) := [(0, .srvccState .started)]
    let body : Slot → Slot × List Output :=
      fun s => s.dialNormalCall .plain (.plain .ims 0) false true ⟨true, .gsm, .plain⟩ (.plain .plain)
    Isolated 2 (exec M H M.init H.init es).1 (exec M H M.init H.init es).2 0 body ↔
      ((exec M H M.init H.init es).2.last = .started ↔
        (exec M H M.init H.init es).2.slot 0 = .started) :=
  isolated_iff_of_run .plain 2 _ _ (Run.of_admits _ (by decide)) 0 (by decide) _

end CellularCall
