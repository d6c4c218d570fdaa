import CellularCall.SlotInvariant

/-!
# The pending emergency call

An emergency call that finds the radio off is saved in its control, and a timer
of its own is armed for it.  The next radio-on dials the saved call; a timer
that expires hangs it up.

There is one record and one timer handle for all such calls, and a timer that
expires reads the record as it is then.  `emergencies` watches the call saved
last: how often it was dialled and how often it was reported hung up.
`accounted_of_run` shows that it ends once, as long as the timers that expire
are its own.
-/

namespace CellularCall

open Lib CallTable

/-- The call saved last, with the timer armed for it, how often it was passed to
`IMSControl::Dial`, and how often it was reported hung up before. -/
structure EmcCall where
  info : CellularCallInfo
  timer : Nat
  dialled : Nat
  hungUp : Nat
deriving DecidableEq

/-- Nothing has become of the call yet. -/
def EmcCall.Open (c : EmcCall) : Prop := c.dialled = 0 ∧ c.hungUp = 0

instance EmcCall.decidableOpen (c : EmcCall) : Decidable c.Open :=
  inferInstanceAs (Decidable (_ ∧ _))

/-- The call waits in the control of the slot, and its timer is armed. -/
structure EmcCall.Waiting (c : EmcCall) (s : Slot) : Prop where
  pending : s.imsOrFresh.isPendingEmc = true
  info : s.imsOrFresh.pendingEmcDialCallInfo = c.info
  timer : c.timer ∈ s.imsOrFresh.timers

/-- What `SavePendingEmcCallInfo` keeps of a call. -/
def CellularCallInfo.saved (P : Platform) (callInfo : CellularCallInfo) : CellularCallInfo :=
  { callInfo with phoneNum := callInfo.phoneNum.take P.kMaxNumberLen, isRTT := false }

/-- The timer armed in these outputs. -/
def Output.armedTimer (outputs : List Output) : Option Nat :=
  outputs.findSome? fun
    | .waitForRadioOn timer => some timer
    | _ => none

/-- How often these outputs report the hang-up of a call that is not tracked. -/
def hangUps (P : Platform) (slotId : Int) (outputs : List Output) : Nat :=
  (Output.reports outputs).count (.ims, ⟨slotId, [defaultHangUpEntry P slotId]⟩)

/-- A step that reported hang-ups, if it came while the call was not dialled. -/
def EmcCall.endedBy (c : EmcCall) (reported : Nat) : EmcCall :=
  if c.dialled = 0 then { c with hungUp := c.hungUp + reported } else c

/-- The emergency call saved last.  Emergency calls are dialled while the radio
is off; an armed timer may expire, the radio may change, and IMS lists may
come at any time. -/
def emergencies (P : Platform) (slotId : Int) : Monitor Slot Event Output (Option EmcCall) where
  init := none
  allowed _ s
    | .dial callInfo isEcc useIms _ _ =>
      isEcc = true ∧ useIms = true ∧ s.isRadioOn = false ∧ s.serviceSrvccState ≠ .started ∧
        cStr callInfo.phoneNum ≠ [] ∧ callInfo.slotId = slotId
    | .radioWaitTimeout timer => timer ∈ s.imsOrFresh.timers
    | .imsCallsData L => L.Announced
    | .radioStateChange _ _ => True
    | .registerCallBack _ => True
    | _ => False
  update last _ e _ outputs :=
    match e with
    | .dial callInfo _ _ _ _ =>
      (Output.armedTimer outputs).elim last fun timer => some ⟨callInfo.saved P, timer, 0, 0⟩
    | .radioStateChange _ _ =>
      last.map fun c => { c with dialled := c.dialled + (Output.controlDials outputs).length }
    | .radioWaitTimeout _ => last.map fun c => c.endedBy (hangUps P slotId outputs)
    | .imsCallsData L =>
      if L.callSize = 0 then last.map fun c => c.endedBy (hangUps P slotId outputs) else last
    | _ => last

instance (P : Platform) (slotId : Int) (last : Option EmcCall) (s : Slot) (e : Event) :
    Decidable ((emergencies P slotId).allowed last s e) :=
  match e with
  | .dial .. => inferInstanceAs (Decidable (_ ∧ _ ∧ _ ∧ _ ∧ _ ∧ _))
  | .radioWaitTimeout timer => inferInstanceAs (Decidable (timer ∈ s.imsOrFresh.timers))
  | .imsCallsData L => inferInstanceAs (Decidable L.Announced)
  | .radioStateChange .. | .registerCallBack .. => isTrue trivial
  | .csCallsData .. | .callFailReason .. | .hangUp .. | .answer .. | .reject .. | .switchCall ..
  | .swapCallResponse .. | .rilAdapterHostDied | .clearAllCalls .. | .srvccState ..
  | .rsrvccState => isFalse id

/-- The call saved last ends once: a radio-on dials it, its own timer reports it
hung up, and no other timer reports or releases anything. -/
structure EmcAccounted (P : Platform) (slotId : Int) (C : Event → Prop) (s : Slot)
    (last : Option EmcCall) : Prop where
  once : ∀ c ∈ last, c.dialled + c.hungUp = 1 ∨ c.Open ∧ c.Waiting s
  radioOn : ∀ env, C (.radioStateChange true env) →
    Output.controlDials ((slotMachine P slotId).step s (.radioStateChange true env)).2 =
      ((last.filter fun c => decide c.Open).map EmcCall.info).toList
  expired : ∀ c ∈ last, c.Open → C (.radioWaitTimeout c.timer) →
    Output.reports ((slotMachine P slotId).step s (.radioWaitTimeout c.timer)).2 =
      [(.ims, ⟨slotId, [defaultHangUpEntry P slotId]⟩)]
  others : ∀ timer, C (.radioWaitTimeout timer) → (∀ c ∈ last, c.Open → c.timer ≠ timer) →
    Output.reports ((slotMachine P slotId).step s (.radioWaitTimeout timer)).2 = [] ∧
      ((slotMachine P slotId).step s (.radioWaitTimeout timer)).1.imsKeys = s.imsKeys ∧
      ((slotMachine P slotId).step s (.radioWaitTimeout timer)).1.imsOrFresh.isPendingEmc =
        s.imsOrFresh.isPendingEmc

/-- A hang-up of the control would be reported. -/
def IMSControl.reportsHangUp (t : IMSControl) : Bool :=
  !(t.isIgnoredIncomingCall || t.isSilentCsRedial)

/-- A timer that expires is that of the call that still waits, and it is hung up
alone: no calls are tracked, and the report is not suppressed.  Any other timer finds
no call that waits, no calls and the report suppressed.  A list of no calls that takes
the control away hangs the call up alone as well; and once the call was reported hung
up, such a list reports nothing more. -/
def OwnTimers : StepCond Slot Event (Option EmcCall) := fun last s e =>
  match e with
  | .radioWaitTimeout timer => s.imsOrFresh.connectionMap.isEmpty = true ∧
      ((∃ c ∈ last, c.Open ∧ c.timer = timer ∧ s.imsOrFresh.reportsHangUp = true) ∨
        (∀ c ∈ last, ¬c.Open) ∧ s.imsOrFresh.reportsHangUp = false)
  | .imsCallsData L => L.callSize = 0 → s.imsOrFresh.hasEndCallWithoutReason L = false →
      ∀ c ∈ last, (c.Open → s.imsOrFresh.connectionMap.isEmpty = true ∧
        s.imsOrFresh.reportsHangUp = true) ∧
      (c.dialled = 0 → c.hungUp ≠ 0 → s.imsControl.isSome = true →
        s.imsOrFresh.reportsHangUp = false)
  | _ => True

instance (last : Option EmcCall) (s : Slot) (e : Event) : Decidable (OwnTimers last s e) :=
  match e with
  | .radioWaitTimeout _ =>
    inferInstanceAs (Decidable (_ ∧ ((∃ c ∈ last, c.Open ∧ _ ∧ _) ∨ (∀ c ∈ last, ¬c.Open) ∧ _)))
  | .imsCallsData _ => inferInstanceAs (Decidable (_ → _ → ∀ c ∈ last, _ ∧ _))
  | .csCallsData .. | .callFailReason .. | .dial .. | .hangUp .. | .answer .. | .reject ..
  | .switchCall .. | .swapCallResponse .. | .radioStateChange .. | .rilAdapterHostDied
  | .clearAllCalls .. | .registerCallBack .. | .srvccState .. | .rsrvccState => isTrue trivial

/-! ## What the events do to the saved call -/

namespace IMSControl

/-- The control's own dial is not one of the handler. -/
theorem controlDials_dial (P : Platform) (env : ImsDialEnv) (isRadioOn : Bool) (t : IMSControl)
    (callInfo : CellularCallInfo) (isEcc : Bool) :
    Output.controlDials (dial P env isRadioOn t callInfo isEcc).2.2 = [] := by
  have hstep := dialStep P env isRadioOn t callInfo isEcc
  generalize dial P env isRadioOn t callInfo isEcc = result at hstep
  cases hstep with
  | saved => rfl
  | refused => rfl
  | sent => rfl
  | held key info pending _ =>
    simp only [switchCallRequest]
    split <;> rfl

theorem controlDials_reportHangUpInfo (P : Platform) (slotId : Int) (t : IMSControl) :
    Output.controlDials (reportHangUpInfo P slotId t).2 = [] := by
  show Output.controlDials (CallTable.reportHangUpInfo _ P slotId _ t.toCallTable).2 = []
  unfold CallTable.reportHangUpInfo
  split <;> rfl

/-- With the radio on, a dial saves nothing. -/
theorem emc_dial_of_radioOn (P : Platform) (env : ImsDialEnv) (t : IMSControl)
    (callInfo : CellularCallInfo) (isEcc : Bool) :
    (dial P env true t callInfo isEcc).2.1.emc = t.emc := by
  have hstep := dialStep P env true t callInfo isEcc
  generalize dial P env true t callInfo isEcc = result at hstep
  cases hstep with
  | saved hradio => cases hradio
  | refused => rfl
  | sent => rfl
  | held => rfl

/-- An emergency call that finds the radio off is saved. -/
theorem dial_of_radioOff (P : Platform) (env : ImsDialEnv) (t : IMSControl)
    {callInfo : CellularCallInfo} (hnumber : cStr callInfo.phoneNum ≠ []) :
    dial P env false t callInfo true = savePendingEmcCallInfo P t callInfo := by
  have hradio : dialPreJudgment false callInfo = .getRadioStateFailed := by
    simp [dialPreJudgment, hnumber]
  unfold dial
  rw [hradio]
  exact if_pos ⟨rfl, rfl⟩

theorem emc_skipWaitForRadioOn (t : IMSControl) :
    t.skipWaitForRadioOn.isPendingEmc = t.isPendingEmc ∧
      t.skipWaitForRadioOn.pendingEmcDialCallInfo = t.pendingEmcDialCallInfo := by
  unfold skipWaitForRadioOn
  split <;> exact ⟨rfl, rfl⟩

/-- A control without calls reports the entry of an empty table, or nothing. -/
theorem reports_reportHangUpInfo_of_isEmpty (P : Platform) (slotId : Int) {t : IMSControl}
    (hempty : t.connectionMap.isEmpty = true) :
    Output.reports (reportHangUpInfo P slotId t).2 =
      if t.reportsHangUp then [(.ims, ⟨slotId, [defaultHangUpEntry P slotId]⟩)] else [] := by
  have hvalues : t.connectionMap.values = [] := by
    have hkeys := OrdMap.isEmpty_iff.mp hempty
    rw [OrdMap.keys, List.map_eq_nil_iff] at hkeys
    rw [OrdMap.values, hkeys]
    rfl
  have hsent : Output.reports (reportHangUpInfo P slotId t).2 =
      if t.isIgnoredIncomingCall || t.isSilentCsRedial then []
      else [(.ims, hangUpInfo domain.toCallDomain P slotId t.connectionMap)] :=
    CallTable.reports_reportHangUpInfo _ P slotId _ _
  rw [hsent, reportsHangUp, hangUpInfo, hvalues, if_pos hempty]
  cases t.isIgnoredIncomingCall || t.isSilentCsRedial <;> rfl

/-- A hang-up that is suppressed reports nothing. -/
theorem reports_reportHangUpInfo_of_suppressed (P : Platform) (slotId : Int) {t : IMSControl}
    (hsuppressed : t.reportsHangUp = false) :
    Output.reports (reportHangUpInfo P slotId t).2 = [] := by
  have hsent : Output.reports (reportHangUpInfo P slotId t).2 =
      if t.isIgnoredIncomingCall || t.isSilentCsRedial then []
      else [(.ims, hangUpInfo domain.toCallDomain P slotId t.connectionMap)] :=
    CallTable.reports_reportHangUpInfo _ P slotId _ _
  rw [hsent, if_pos]
  rw [reportsHangUp, Bool.not_eq_false'] at hsuppressed
  exact hsuppressed

end IMSControl

/-- Without a report, no call is hung up. -/
theorem map_endedBy_hangUps {P : Platform} {slotId : Int} {outputs : List Output}
    {last : Option EmcCall} (hreports : Output.reports outputs = []) :
    (last.map fun c => c.endedBy (hangUps P slotId outputs)) = last := by
  have hsame : (fun c : EmcCall => c.endedBy (hangUps P slotId outputs)) = id := by
    funext c
    simp [EmcCall.endedBy, hangUps, hreports]
  rw [hsame, Option.map_id]
  rfl

/-! ## The invariant -/

/-- The call saved last waits until it has ended once, and nothing waits
otherwise. -/
structure EmcInvariant (slotId : Int) (s : Slot) (last : Option EmcCall) : Prop where
  notRtt : s.imsOrFresh.pendingEmcDialCallInfo.isRTT = false
  ended : (∀ c ∈ last, ¬c.Open) → s.imsOrFresh.isPendingEmc = false
  waiting : ∀ c ∈ last, c.Open → c.Waiting s
  here : ∀ c ∈ last, c.info.slotId = slotId
  once : ∀ c ∈ last, c.Open ∨ c.dialled + c.hungUp = 1

namespace EmcInvariant

variable {P : Platform} {slotId : Int} {s s' : Slot} {last : Option EmcCall}

theorem init : EmcInvariant slotId Slot.init (emergencies P slotId).init where
  notRtt := rfl
  ended := fun _ => rfl
  waiting := by simp [emergencies]
  here := by simp [emergencies]
  once := by simp [emergencies]

/-- The call that waits keeps the control alive. -/
theorem control (hinv : EmcInvariant slotId s last) {c : EmcCall} (hc : c ∈ last)
    (hopen : c.Open) : ∃ t, s.imsControl = some t := by
  cases ht : s.imsControl with
  | some t => exact ⟨t, rfl⟩
  | none =>
    have hpending := (hinv.waiting c hc hopen).pending
    rw [Slot.imsOrFresh, ht] at hpending
    cases hpending

/-- What leaves the pending call alone keeps the invariant. -/
theorem of_emc (hinv : EmcInvariant slotId s last) (hemc : s'.imsOrFresh.emc = s.imsOrFresh.emc) :
    EmcInvariant slotId s' last := by
  obtain ⟨hinfo, hpending, -, htimers, -⟩ := by
    simpa only [IMSControl.emc, Prod.mk.injEq] using hemc
  refine ⟨hinfo ▸ hinv.notRtt, fun h => hpending ▸ hinv.ended h, fun c hc hopen => ?_, hinv.here,
    hinv.once⟩
  obtain ⟨hp, hi, ht⟩ := hinv.waiting c hc hopen
  exact ⟨hpending ▸ hp, hinfo ▸ hi, htimers ▸ ht⟩

/-- A call that is saved replaces the one before. -/
theorem step_dial (hinv : EmcInvariant slotId s last) {callInfo : CellularCallInfo}
    {isEcc useIms : Bool} {csEnv : CsDialEnv} {env : ImsDialEnv}
    (hallowed : (emergencies P slotId).allowed last s (.dial callInfo isEcc useIms csEnv env)) :
    EmcInvariant slotId
      ((slotMachine P slotId).step s (.dial callInfo isEcc useIms csEnv env)).1
      ((emergencies P slotId).next (slotMachine P slotId) last s
        (.dial callInfo isEcc useIms csEnv env)) := by
  obtain ⟨rfl, rfl, hradio, hsrvcc, hnumber, hslot⟩ := hallowed
  have hsaved : (slotMachine P slotId).step s (.dial callInfo true true csEnv env) =
      ({ s with
          imsControl := some (IMSControl.savePendingEmcCallInfo P s.imsOrFresh callInfo).2.1 },
        [.waitForRadioOn s.imsOrFresh.nextTimer, .returned .success]) := by
    simp only [slotMachine, Slot.dial, if_neg hsrvcc, Slot.dialNormalCall, if_true, hradio]
    rw [IMSControl.dial_of_radioOff P env _ hnumber]
    rfl
  have hinfo :
      (IMSControl.savePendingEmcCallInfo P s.imsOrFresh callInfo).2.1.pendingEmcDialCallInfo =
        callInfo.saved P := by
    simp only [IMSControl.savePendingEmcCallInfo, CellularCallInfo.saved]
    rw [hinv.notRtt]
  rw [Monitor.next, hsaved]
  refine ⟨?_, fun hended => ?_, ?_, ?_, ?_⟩
  · exact hinfo ▸ rfl
  · exact absurd ⟨rfl, rfl⟩ (hended _ (Option.mem_some_self _))
  · rintro c hc -
    cases hc
    exact ⟨rfl, hinfo, List.mem_append_right _ (List.mem_singleton.mpr rfl)⟩
  · rintro c hc
    cases hc
    exact hslot
  · rintro c hc
    cases hc
    exact Or.inl ⟨rfl, rfl⟩

/-- With the radio on, the call that is pending is dialled, whatever comes of
it. -/
theorem radioOn_of_pending (P : Platform) (slotId : Int) {t : IMSControl}
    (ht : s.imsControl = some t)
    (hpending : t.isPendingEmc = true) (env : ImsDialEnv) :
    let result := (slotMachine P slotId).step s (.radioStateChange true env)
    Output.controlDials result.2 = [t.pendingEmcDialCallInfo] ∧
      result.1.imsOrFresh.isPendingEmc = false ∧
      result.1.imsOrFresh.pendingEmcDialCallInfo = t.pendingEmcDialCallInfo := by
  obtain ⟨hflag, hinfo⟩ := IMSControl.emc_skipWaitForRadioOn t
  have hemc := IMSControl.emc_dial_of_radioOn P env t.skipWaitForRadioOn
    t.skipWaitForRadioOn.pendingEmcDialCallInfo true
  have hkept : (IMSControl.dial P env true t.skipWaitForRadioOn
      t.skipWaitForRadioOn.pendingEmcDialCallInfo true).2.1.pendingEmcDialCallInfo =
        t.pendingEmcDialCallInfo := (congrArg Prod.fst hemc).trans hinfo
  have hdials : Output.controlDials (.imsControlDial t.skipWaitForRadioOn.pendingEmcDialCallInfo ::
      (IMSControl.dial P env true t.skipWaitForRadioOn
        t.skipWaitForRadioOn.pendingEmcDialCallInfo true).2.2) = [t.pendingEmcDialCallInfo] := by
    rw [← List.singleton_append, Output.controlDials_append, IMSControl.controlDials_dial, hinfo]
    rfl
  simp only [slotMachine, Slot.radioStateChangeProcess, Bool.true_eq_false, if_false, ht, hflag,
    hpending, if_true]
  split
  · rw [Output.controlDials_append, hdials, IMSControl.controlDials_reportHangUpInfo]
    exact ⟨rfl, rfl, hkept⟩
  · exact ⟨hdials, rfl, hkept⟩

/-- Nothing is dialled while no call is pending. -/
theorem radioOn_of_not_pending (P : Platform) (slotId : Int)
    (hpending : s.imsOrFresh.isPendingEmc = false) (radioOn : Bool) (env : ImsDialEnv) :
    let result := (slotMachine P slotId).step s (.radioStateChange radioOn env)
    Output.controlDials result.2 = [] ∧ result.1.imsOrFresh.isPendingEmc = false ∧
      result.1.imsOrFresh.pendingEmcDialCallInfo = s.imsOrFresh.pendingEmcDialCallInfo := by
  simp only [slotMachine, Slot.radioStateChangeProcess]
  split
  · exact ⟨rfl, hpending, rfl⟩
  · split
    · exact ⟨rfl, hpending, rfl⟩
    · rename_i t ht
      rw [Slot.imsOrFresh_of_some ht] at hpending ⊢
      obtain ⟨hflag, hinfo⟩ := IMSControl.emc_skipWaitForRadioOn t
      rw [if_neg (by simp [hflag, hpending])]
      exact ⟨rfl, hflag.trans hpending, hinfo⟩

theorem controlDials_radioOn (hinv : EmcInvariant slotId s last) (env : ImsDialEnv) :
    Output.controlDials ((slotMachine P slotId).step s (.radioStateChange true env)).2 =
      ((last.filter fun c => decide c.Open).map EmcCall.info).toList := by
  by_cases hopen : ∃ c ∈ last, c.Open
  · obtain ⟨c, hc, hopen⟩ := hopen
    obtain ⟨t, ht⟩ := hinv.control hc hopen
    have hwaiting := hinv.waiting c hc hopen
    obtain ⟨hpending, hinfo, -⟩ := hwaiting
    rw [Slot.imsOrFresh_of_some ht] at hpending hinfo
    have hdials := (radioOn_of_pending P slotId ht hpending env).1
    rw [hdials, hinfo, Option.mem_def.mp hc, Option.filter_some, if_pos (decide_eq_true hopen)]
    rfl
  · have hnone : ∀ c ∈ last, ¬c.Open := fun c hc ho => hopen ⟨c, hc, ho⟩
    have hfilter : (last.filter fun c => decide c.Open) = none := by
      rw [Option.filter_eq_none_iff]
      exact fun c hc => by simpa using hnone c hc
    rw [hfilter]
    exact (radioOn_of_not_pending P slotId (hinv.ended hnone) true env).1

theorem step_radioStateChange (hinv : EmcInvariant slotId s last) (radioOn : Bool)
    (env : ImsDialEnv) :
    EmcInvariant slotId ((slotMachine P slotId).step s (.radioStateChange radioOn env)).1
      ((emergencies P slotId).next (slotMachine P slotId) last s
        (.radioStateChange radioOn env)) := by
  cases radioOn with
  | false =>
    have hidle : (slotMachine P slotId).step s (.radioStateChange false env) =
        ({ s with isRadioOn := false }, []) := rfl
    have hlast : (emergencies P slotId).next (slotMachine P slotId) last s
        (.radioStateChange false env) = last := by
      cases last <;> rfl
    rw [hlast, hidle]
    exact hinv.of_emc rfl
  | true =>
    by_cases hopen : ∃ c ∈ last, c.Open
    · obtain ⟨c, hc, hopen⟩ := hopen
      obtain ⟨t, ht⟩ := hinv.control hc hopen
      have hpending := (hinv.waiting c hc hopen).pending
      rw [Slot.imsOrFresh_of_some ht] at hpending
      obtain ⟨hdials, hoff, hinfo⟩ :=
        radioOn_of_pending P slotId ht hpending env
      have hlast : (emergencies P slotId).next (slotMachine P slotId) last s
          (.radioStateChange true env) = some { c with dialled := 1 } := by
        rw [Monitor.next, Option.mem_def.mp hc]
        simp only [emergencies, Option.map_some]
        rw [hdials, hopen.1]
        rfl
      rw [hlast]
      refine ⟨?_, fun _ => hoff, ?_, ?_, ?_⟩
      · have hrtt := hinv.notRtt
        rw [Slot.imsOrFresh_of_some ht, ← hinfo] at hrtt
        exact hrtt
      · rintro d hd hopen'
        cases hd
        cases hopen'.1
      · rintro d hd
        cases hd
        exact hinv.here c hc
      · rintro d hd
        cases hd
        exact Or.inr (by simp [hopen.2])
    · have hnone : ∀ c ∈ last, ¬c.Open := fun c hc ho => hopen ⟨c, hc, ho⟩
      obtain ⟨hdials, hoff, hinfo⟩ := radioOn_of_not_pending P slotId (hinv.ended hnone)
        true env
      have hlast : (emergencies P slotId).next (slotMachine P slotId) last s
          (.radioStateChange true env) = last := by
        rw [Monitor.next]
        simp only [emergencies]
        rw [hdials]
        cases last <;> rfl
      rw [hlast]
      exact ⟨hinfo ▸ hinv.notRtt, fun _ => hoff, fun c hc ho => absurd ho (hnone c hc), hinv.here,
        hinv.once⟩

/-- The timer of the call that waits hangs it up. -/
theorem expires (hinv : EmcInvariant slotId s last) {c : EmcCall} (hc : c ∈ last)
    (hopen : c.Open) (hempty : s.imsOrFresh.connectionMap.isEmpty = true)
    (hreports : s.imsOrFresh.reportsHangUp = true) :
    let result := (slotMachine P slotId).step s (.radioWaitTimeout c.timer)
    Output.reports result.2 = [(.ims, ⟨slotId, [defaultHangUpEntry P slotId]⟩)] ∧
      result.1.imsOrFresh.isPendingEmc = false ∧
      result.1.imsOrFresh.pendingEmcDialCallInfo = c.info := by
  obtain ⟨t, ht⟩ := hinv.control hc hopen
  obtain ⟨-, hinfo, htimer⟩ := hinv.waiting c hc hopen
  rw [Slot.imsOrFresh_of_some ht] at hinfo htimer hempty hreports
  simp only [slotMachine, Slot.radioWaitTimeout, ht, if_pos htimer,
    IMSControl.waitForRadioOnTimeout]
  refine ⟨?_, rfl, hinfo⟩
  refine (IMSControl.reports_reportHangUpInfo_of_isEmpty P _ (by exact hempty)).trans ?_
  rw [hinfo, hinv.here c hc]
  exact if_pos hreports

/-- A timer that finds no call that waits, no calls and the report suppressed, does
nothing. -/
theorem expires_quiet (P : Platform) (slotId : Int) (timer : Nat)
    (hempty : s.imsOrFresh.connectionMap.isEmpty = true)
    (hsuppressed : s.imsOrFresh.reportsHangUp = false)
    (hpending : s.imsOrFresh.isPendingEmc = false) :
    let result := (slotMachine P slotId).step s (.radioWaitTimeout timer)
    Output.reports result.2 = [] ∧ result.1.imsKeys = s.imsKeys ∧
      result.1.imsOrFresh.isPendingEmc = false ∧
      result.1.imsOrFresh.pendingEmcDialCallInfo = s.imsOrFresh.pendingEmcDialCallInfo := by
  simp only [slotMachine, Slot.radioWaitTimeout]
  split
  · exact ⟨rfl, rfl, hpending, rfl⟩
  · rename_i t ht
    have hcontrol := Slot.imsOrFresh_of_some ht
    split
    · rw [hcontrol] at hempty hsuppressed
      refine ⟨IMSControl.reports_reportHangUpInfo_of_suppressed P _ (by exact hsuppressed), ?_,
        rfl, ?_⟩
      · rw [Slot.imsKeys_of_some ht, OrdMap.isEmpty_iff.mp hempty]
        exact congrArg OrdMap.keys (CallTable.connectionMap_reportHangUpInfo _ P _ _ _)
      · rw [hcontrol]
        rfl
    · exact ⟨rfl, rfl, hpending, rfl⟩

/-- The call that waits is hung up by its own timer. -/
theorem step_ownTimeout (hinv : EmcInvariant slotId s last) {c : EmcCall} (hc : c ∈ last)
    (hopen : c.Open) (hempty : s.imsOrFresh.connectionMap.isEmpty = true)
    (hreportsHangUp : s.imsOrFresh.reportsHangUp = true) :
    EmcInvariant slotId ((slotMachine P slotId).step s (.radioWaitTimeout c.timer)).1
      ((emergencies P slotId).next (slotMachine P slotId) last s (.radioWaitTimeout c.timer)) := by
  obtain ⟨hreports, hoff, hinfo⟩ := hinv.expires (P := P) hc hopen hempty hreportsHangUp
  have hlast : (emergencies P slotId).next (slotMachine P slotId) last s
      (.radioWaitTimeout c.timer) = some { c with hungUp := 1 } := by
    rw [Monitor.next, Option.mem_def.mp hc]
    simp only [emergencies, Option.map_some, EmcCall.endedBy, if_pos hopen.1, hangUps]
    rw [hreports, hopen.2]
    simp
  rw [hlast]
  refine ⟨?_, fun _ => hoff, ?_, ?_, ?_⟩
  · have hrtt := hinv.notRtt
    rw [(hinv.waiting c hc hopen).info] at hrtt
    rw [hinfo, hrtt]
  · rintro d hd hopen'
    cases hd
    cases hopen'.2
  · rintro d hd
    cases hd
    exact hinv.here c hc
  · rintro d hd
    cases hd
    exact Or.inr (by simp [hopen.1])

/-- Another timer changes nothing. -/
theorem step_otherTimeout (hinv : EmcInvariant slotId s last) (timer : Nat)
    (hnone : ∀ c ∈ last, ¬c.Open) (hempty : s.imsOrFresh.connectionMap.isEmpty = true)
    (hsuppressed : s.imsOrFresh.reportsHangUp = false) :
    EmcInvariant slotId ((slotMachine P slotId).step s (.radioWaitTimeout timer)).1
      ((emergencies P slotId).next (slotMachine P slotId) last s (.radioWaitTimeout timer)) := by
  obtain ⟨hreports, -, hoff, hinfo⟩ :=
    expires_quiet P slotId timer hempty hsuppressed (hinv.ended hnone)
  have hlast : (emergencies P slotId).next (slotMachine P slotId) last s
      (.radioWaitTimeout timer) = last := map_endedBy_hangUps hreports
  rw [hlast]
  exact ⟨hinfo ▸ hinv.notRtt, fun _ => hoff, fun c hc hopen => absurd hopen (hnone c hc),
    hinv.here, hinv.once⟩

theorem step_radioWaitTimeout (hinv : EmcInvariant slotId s last) {timer : Nat}
    (hcond : OwnTimers last s (.radioWaitTimeout timer)) :
    EmcInvariant slotId ((slotMachine P slotId).step s (.radioWaitTimeout timer)).1
      ((emergencies P slotId).next (slotMachine P slotId) last s (.radioWaitTimeout timer)) := by
  obtain ⟨hempty, hown | ⟨hnone, hsuppressed⟩⟩ := hcond
  · obtain ⟨c, hc, hopen, rfl, hreports⟩ := hown
    exact hinv.step_ownTimeout hc hopen hempty hreports
  · exact hinv.step_otherTimeout timer hnone hempty hsuppressed

/-- A list of no calls that takes the control away. -/
theorem step_hungUp (hinv : EmcInvariant slotId s last) {L : ImsCurrentCallList} {t : IMSControl}
    (ht : s.imsControl = some t) (hsize : L.callSize = 0)
    (hend : t.hasEndCallWithoutReason L = false) (hcond : OwnTimers last s (.imsCallsData L)) :
    EmcInvariant slotId { s with currentCallList := L, imsControl := none }
      (last.map fun c => c.endedBy (hangUps P slotId (t.reportHangUpInfo P slotId).2)) := by
  have hcases := hcond hsize (by rw [Slot.imsOrFresh_of_some ht]; exact hend)
  rw [Slot.imsOrFresh_of_some ht] at hcases
  have honce : ∀ c ∈ last, (c.endedBy (hangUps P slotId (t.reportHangUpInfo P slotId).2)).dialled +
      (c.endedBy (hangUps P slotId (t.reportHangUpInfo P slotId).2)).hungUp = 1 := by
    intro c hc
    obtain ⟨hwaits, hgone⟩ := hcases c hc
    by_cases hdialled : c.dialled = 0
    · rw [EmcCall.endedBy, if_pos hdialled, hangUps]
      by_cases hhungUp : c.hungUp = 0
      · obtain ⟨hempty, hreports⟩ := hwaits ⟨hdialled, hhungUp⟩
        rw [IMSControl.reports_reportHangUpInfo_of_isEmpty _ _ hempty, if_pos hreports]
        simp [hdialled, hhungUp]
      · rw [IMSControl.reports_reportHangUpInfo_of_suppressed _ _
          (hgone hdialled hhungUp (by rw [ht]; rfl))]
        rcases hinv.once c hc with hopen | hone
        · exact absurd hopen.2 hhungUp
        · exact hone
    · rw [EmcCall.endedBy, if_neg hdialled]
      rcases hinv.once c hc with hopen | hone
      · exact absurd hopen.1 hdialled
      · exact hone
  refine ⟨rfl, fun _ => rfl, ?_, ?_, ?_⟩
  · intro d hd hopen
    obtain ⟨c, hc, rfl⟩ := Option.mem_map.mp hd
    have hone := honce c hc
    rw [hopen.1, hopen.2] at hone
    cases hone
  · intro d hd
    obtain ⟨c, hc, rfl⟩ := Option.mem_map.mp hd
    rw [EmcCall.endedBy]
    split <;> exact hinv.here c hc
  · intro d hd
    obtain ⟨c, hc, rfl⟩ := Option.mem_map.mp hd
    exact Or.inr (honce c hc)

theorem step_imsCallsData (hinv : EmcInvariant slotId s last) {L : ImsCurrentCallList}
    (hcond : OwnTimers last s (.imsCallsData L)) :
    EmcInvariant slotId ((slotMachine P slotId).step s (.imsCallsData L)).1
      ((emergencies P slotId).next (slotMachine P slotId) last s (.imsCallsData L)) := by
  have hquiet (outputs : List Output) (h : Output.reports outputs = []) :
      (if L.callSize = 0 then last.map fun c => c.endedBy (hangUps P slotId outputs) else last) =
        last := by
    split
    · exact map_endedBy_hangUps h
    · rfl
  have hstep := Slot.imsListStep P slotId s L
  simp only [Monitor.next, emergencies, slotMachine]
  generalize s.reportImsCallsData P slotId L = result at hstep
  cases hstep with
  | idle =>
    rw [hquiet _ rfl]
    exact hinv.of_emc rfl
  | asked =>
    rw [hquiet _ rfl]
    exact hinv.of_emc rfl
  | hungUp t hsize ht hend =>
    rw [if_pos hsize]
    exact hinv.step_hungUp ht hsize hend hcond
  | processed t hsize ht =>
    rw [if_neg hsize]
    refine hinv.of_emc ?_
    rw [Slot.imsOrFresh_of_imsControlFor ht]
    exact IMSControl.emc_reportImsCallsData _ _ _ _ _ _

theorem step (hinv : EmcInvariant slotId s last) {e : Event}
    (hallowed : (emergencies P slotId).allowed last s e) (hcond : OwnTimers last s e) :
    EmcInvariant slotId ((slotMachine P slotId).step s e).1
      ((emergencies P slotId).next (slotMachine P slotId) last s e) := by
  cases e with
  | dial callInfo isEcc useIms csEnv env => exact hinv.step_dial hallowed
  | radioStateChange radioOn env => exact hinv.step_radioStateChange radioOn env
  | radioWaitTimeout timer => exact hinv.step_radioWaitTimeout hcond
  | imsCallsData L => exact hinv.step_imsCallsData hcond
  | registerCallBack registered => exact hinv.of_emc rfl
  | _ => cases hallowed

end EmcInvariant

/-! ## The result -/

/-- In every run in which no timer but that of the waiting call does anything, and it
is hung up alone, the call saved last is dialled once or reported hung up once. -/
theorem accounted_of_run (P : Platform) (slotId : Int) (s : Slot) (last : Option EmcCall)
    (hrun : Run (slotMachine P slotId) (emergencies P slotId) OwnTimers s last) :
    EmcAccounted P slotId
      (fun e => (emergencies P slotId).allowed last s e ∧ OwnTimers last s e) s last := by
  have hinv : EmcInvariant slotId s last :=
    Run.invariant EmcInvariant.init (fun _ _ _ hinv hallowed hcond => hinv.step hallowed hcond) hrun
  refine ⟨fun c hc => ?_, fun env _ => hinv.controlDials_radioOn env, fun c hc hopen hexpires => ?_,
    fun timer hexpires hother => ?_⟩
  · rcases hinv.once c hc with hopen | hone
    · exact Or.inr ⟨hopen, hinv.waiting c hc hopen⟩
    · exact Or.inl hone
  · obtain ⟨hempty, ⟨c', hc', -, -, hreports⟩ | ⟨hnone, -⟩⟩ := hexpires.2
    · exact (hinv.expires hc hopen hempty hreports).1
    · exact absurd hopen (hnone c hc)
  · obtain ⟨hempty, ⟨c, hc, hopen, heq, -⟩ | ⟨hnone, hsuppressed⟩⟩ := hexpires.2
    · exact absurd heq (hother c hc hopen)
    · have hpending := hinv.ended hnone
      obtain ⟨hreports, hkeys, hoff, -⟩ :=
        EmcInvariant.expires_quiet P slotId timer hempty hsuppressed hpending
      exact ⟨hreports, hkeys, hoff.trans hpending.symm⟩

/-- A second emergency call is saved before the radio comes on; the timer of the
first one hangs it up. -/
theorem not_accounted_of_run :
    ¬∀ s last, Run (slotMachine .plain 0) (emergencies .plain 0) unconditional s last →
      EmcAccounted .plain 0 (fun e => (emergencies .plain 0).allowed last s e) s last := by
  intro hclaim
  let emergency : Event := .dial (.plain .ims 0) true true ⟨true, .gsm, .plain⟩ (.plain .plain)
  have hfound := hclaim _ _ (Run.of_admits (M := slotMachine .plain 0) (H := emergencies .plain 0)
    [emergency, emergency] (by decide))
  have hsilent := (hfound.others 0 (by decide) (by decide)).1
  exact absurd hsilent (by decide)

/-- An emergency call is dialled when the radio comes on; the next one runs out
of time. -/
theorem accounted_after_radioOn :
    let M := slotMachine .plain 0
    let H := emergencies .plain 0
    let emergency : Event := .dial (.plain .ims 0) true true ⟨true, .gsm, .plain⟩ (.plain .plain)
    let es : List Event := [emergency, .radioStateChange true (.plain .plain),
      .radioStateChange false (.plain .plain), emergency, .radioWaitTimeout 1]
    EmcAccounted .plain 0
      (fun e => H.allowed (exec M H M.init H.init es).2 (exec M H M.init H.init es).1 e ∧
        OwnTimers (exec M H M.init H.init es).2 (exec M H M.init H.init es).1 e)
      (exec M H M.init H.init es).1 (exec M H M.init H.init es).2 :=
  accounted_of_run .plain 0 _ _ (Run.of_admits _ (by decide))

end CellularCall
