import CellularCall.Screen

/-!
# What the call manager sees

Two domains share the callback of a slot, and the call manager has a screen for
each.  `screens` keeps them beside the runs of a slot: they hear what is sent while
the call manager is registered, and start anew when it registers.

Every event is a change of both tables, or tells nothing of one of them.
`showsCalls_of_run` puts the events together: the calls on the screens are the
calls in the tables, on every run whose steps all tell what they drop.
`resyncs_of_run` says how a screen gets up to date: with the next list that is
reported.
-/

namespace CellularCall

open Lib CallTable

/-! ## Requests -/

/-- The table tracks the same calls, and nothing is told. -/
structure QuietStep {δ : Type} (t t' : CallTable δ) (outputs : List Output) : Prop where
  keys : t'.connectionMap.keys = t.connectionMap.keys
  flag : t'.isIgnoredIncomingCall = t.isIgnoredIncomingCall
  quiet : ∀ o ∈ outputs, o.isQuiet = true

/-- What a request does to a table and tells of it: nothing, or one tracked call in a
new state. -/
inductive RequestStep {δ : Type} (callType : CallType) (slotId : Int) (t t' : CallTable δ) :
    List Output → Prop
  | quiet {outputs : List Output} : QuietStep t t' outputs →
      RequestStep callType slotId t t' outputs
  | single {rest : List Output} (i : Int) (r : CallReportInfo) : QuietStep t t' rest →
      i ∈ t.connectionMap.keys → r.identity = (callType, slotId, i) → r.state ≠ .disconnected →
      RequestStep callType slotId t t' (.reportSingleCallInfo callType r :: rest)

section
variable {δ : Type} {P : Platform} {slotId : Int} {callType other : CallType} {t t' : CallTable δ}
  {outputs : List Output} {registered : Bool} {v : Screen}

theorem QuietStep.append (h : QuietStep t t' outputs) {rest : List Output}
    (hrest : ∀ o ∈ rest, o.isQuiet = true) : QuietStep t t' (outputs ++ rest) :=
  ⟨h.keys, h.flag, List.forall_mem_append.mpr ⟨h.quiet, hrest⟩⟩

theorem RequestStep.append (h : RequestStep callType slotId t t' outputs) {rest : List Output}
    (hrest : ∀ o ∈ rest, o.isQuiet = true) :
    RequestStep callType slotId t t' (outputs ++ rest) := by
  cases h with
  | quiet hquiet => exact .quiet (hquiet.append hrest)
  | single i r hquiet hi hidentity hstate =>
    exact .single i r (hquiet.append hrest) hi hidentity hstate

theorem Told.quietStep (h : Told registered t v) (hstep : QuietStep t t' outputs) :
    Told registered t' (v.hear P slotId callType registered outputs) :=
  h.unheard hstep.keys hstep.flag (.of_isQuiet hstep.quiet)

/-- The screen follows a request for a call the call manager knows of. -/
theorem Told.requestStep (h : Told registered t v)
    (hstep : RequestStep callType slotId t t' outputs) (hloud : t.isIgnoredIncomingCall = false) :
    Told registered t' (v.hear P slotId callType registered outputs) := by
  cases hstep with
  | quiet hquiet => exact h.quietStep hquiet
  | single i r hquiet hi hidentity hstate =>
    simp only [CallReportInfo.identity, Prod.mk.injEq] at hidentity
    exact h.single hquiet.keys (hquiet.flag.trans hloud) (hidentity.2.2 ▸ hi) hstate hquiet.quiet

/-- The other domain hears nothing. -/
theorem RequestStep.unheard (hstep : RequestStep callType slotId t t' outputs)
    (hne : callType ≠ other) : Unheard P slotId other outputs := by
  cases hstep with
  | quiet hquiet => exact .of_isQuiet hquiet.quiet
  | single i r hquiet hi hidentity hstate =>
    simp only [CallReportInfo.identity, Prod.mk.injEq] at hidentity
    have hfirst : Unheard P slotId other [.reportSingleCallInfo callType r] := by
      refine .of_types (fun o ho r' hr' => ?_) rfl
      rw [List.mem_singleton.mp ho] at hr'
      rw [List.mem_singleton.mp hr', hidentity.1]
      exact hne
    exact hfirst.append (.of_isQuiet hquiet.quiet)

end

namespace CSControl

variable {slotId : Int}

theorem quietStep_dial (env : CsDialEnv) (isRadioOn : Bool) (t : CSControl)
    (callInfo : CellularCallInfo) (isEcc : Bool) :
    QuietStep t (dial env isRadioOn t callInfo isEcc).2.1
      (dial env isRadioOn t callInfo isEcc).2.2 := by
  refine ⟨by rw [connectionMap_dial], ?_, fun o ho => ?_⟩
  · obtain ⟨pending, hdial⟩ := dial_frame env isRadioOn t callInfo isEcc
    rw [hdial]
  · rcases mem_dial ho with rfl | ⟨request, rfl⟩ <;> rfl

theorem quietStep_answer (t : CSControl) (callInfo : CellularCallInfo) :
    QuietStep t (answer t callInfo).2.1 (answer t callInfo).2.2 := by
  refine ⟨by rw [answer_frame], by rw [answer_frame], fun o ho => ?_⟩
  rcases mem_answer ho with rfl | rfl | ⟨index, rfl⟩ <;> rfl

theorem requestStep_hangUp {t : CSControl}
    (ht : CallTable.Holds (NamesItself .cs slotId) t.connectionMap) (callInfo : CellularCallInfo)
    (type : CallSupplementType) :
    RequestStep .cs slotId t (hangUp t callInfo type).2.1 (hangUp t callInfo type).2.2 := by
  have hfirst : (updateCallDisconnectReason domain t.connectionMap callInfo.callId .userTerminated
      []).keys = t.connectionMap.keys := by
    unfold updateCallDisconnectReason OrdMap.modifyFirst
    split <;> simp
  unfold hangUp
  split
  · rw [findConnectionByIndex_eq ht.keyed]
    cases hget : t.connectionMap.get? callInfo.index with
    | none => exact .quiet ⟨rfl, rfl, by simp⟩
    | some c =>
      exact .single callInfo.index _ ⟨OrdMap.keys_modify _ _ _, rfl, by simp [Output.isQuiet]⟩
        (OrdMap.mem_keys_iff.mpr ⟨c, hget⟩) (ht.each _ c hget) (by simp)
  · exact .quiet ⟨hfirst, rfl, by simp [Output.isQuiet]⟩
  · exact .quiet ⟨hfirst, rfl, by simp [Output.isQuiet]⟩
  · exact .quiet ⟨OrdMap.keys_mapValues _ _, rfl, by simp [Output.isQuiet]⟩
  · exact .quiet ⟨rfl, rfl, by simp⟩

theorem requestStep_reject {t : CSControl}
    (ht : CallTable.Holds (NamesItself .cs slotId) t.connectionMap) (callInfo : CellularCallInfo) :
    RequestStep .cs slotId t (reject t callInfo).2.1 (reject t callInfo).2.2 := by
  unfold reject
  rw [findConnectionByIndex_eq ht.keyed]
  cases hget : t.connectionMap.get? callInfo.index with
  | none => exact .quiet ⟨rfl, rfl, by simp⟩
  | some c =>
    simp only [Option.map_some]
    split
    · exact .quiet ⟨rfl, rfl, by simp⟩
    · exact .single callInfo.index _ ⟨OrdMap.keys_modify _ _ _, rfl, by simp [Output.isQuiet]⟩
        (OrdMap.mem_keys_iff.mpr ⟨c, hget⟩) (ht.each _ c hget) (by simp)

end CSControl

namespace IMSControl

variable {slotId : Int}

theorem isQuiet_numberedRequest {service : ImsService} {phoneNum : Str} {ret : RetCode}
    {request : Output} (h : request.isQuiet = true) :
    ∀ o ∈ (numberedRequest service phoneNum ret request).2, o.isQuiet = true := by
  intro o ho
  rw [mem_numberedRequest ho]
  exact h

theorem keys_switchCallRequest (service : ImsService) (m : ConnectionMap ImsPart)
    (key videoState : Int) : (switchCallRequest service m key videoState).2.1.keys = m.keys := by
  unfold switchCallRequest
  split
  · dsimp only
    split <;> simp
  · rfl

theorem isQuiet_switchCallRequest (service : ImsService) (m : ConnectionMap ImsPart)
    (key videoState : Int) :
    ∀ o ∈ (switchCallRequest service m key videoState).2.2, o.isQuiet = true := by
  unfold switchCallRequest
  split <;> simp [Output.isQuiet]

theorem quietStep_dial (P : Platform) (env : ImsDialEnv) (isRadioOn : Bool) (t : IMSControl)
    (callInfo : CellularCallInfo) (isEcc : Bool) :
    QuietStep t.toCallTable (dial P env isRadioOn t callInfo isEcc).2.1.toCallTable
      (dial P env isRadioOn t callInfo isEcc).2.2 := by
  refine ⟨keys_dial P env isRadioOn t callInfo isEcc, ?_, ?_⟩
  all_goals
    have hstep := dialStep P env isRadioOn t callInfo isEcc
    generalize dial P env isRadioOn t callInfo isEcc = result at hstep
    cases hstep
  · rfl
  · rfl
  · rfl
  · rfl
  · simp [savePendingEmcCallInfo, Output.isQuiet]
  · simp
  · simp [Output.isQuiet]
  · exact isQuiet_switchCallRequest _ _ _ _

theorem isSilentCsRedial_dial (P : Platform) (env : ImsDialEnv) (isRadioOn : Bool)
    (t : IMSControl) (callInfo : CellularCallInfo) (isEcc : Bool) :
    (dial P env isRadioOn t callInfo isEcc).2.1.isSilentCsRedial = t.isSilentCsRedial := by
  have hstep := dialStep P env isRadioOn t callInfo isEcc
  generalize dial P env isRadioOn t callInfo isEcc = result at hstep
  cases hstep <;> rfl

theorem quietStep_answer (service : ImsService) (t : IMSControl) (callInfo : CellularCallInfo) :
    QuietStep t.toCallTable (answer service t callInfo).2.1.toCallTable
      (answer service t callInfo).2.2 := by
  have hroom : ∀ o ∈ (makeRoom service t.connectionMap).2, o.isQuiet = true := by
    intro o ho
    unfold makeRoom at ho
    split at ho
    · obtain ⟨phoneNum, index, rfl⟩ := mem_hangUpEach ho
      rfl
    · cases ho
  unfold answer
  split
  · exact ⟨rfl, rfl, by simp⟩
  · dsimp only
    split
    · exact ⟨rfl, rfl, hroom⟩
    · split
      · exact ⟨keys_switchCallRequest _ _ _ _, rfl,
          List.forall_mem_append.mpr ⟨hroom, isQuiet_switchCallRequest _ _ _ _⟩⟩
      · split
        · exact ⟨rfl, rfl,
            List.forall_mem_append.mpr ⟨hroom, isQuiet_numberedRequest rfl⟩⟩
        · exact ⟨rfl, rfl, hroom⟩

theorem requestStep_hangUp (service : ImsService) {t : IMSControl}
    (ht : CallTable.Holds (NamesItself .ims slotId) t.connectionMap) (callInfo : CellularCallInfo)
    (type : CallSupplementType) :
    RequestStep .ims slotId t.toCallTable (hangUp service t callInfo type).2.1.toCallTable
      (hangUp service t callInfo type).2.2 := by
  have hfirst : (updateCallDisconnectReason domain t.connectionMap callInfo.callId .userTerminated
      []).keys = t.connectionMap.keys := by
    unfold updateCallDisconnectReason OrdMap.modifyFirst
    split <;> simp
  unfold hangUp
  split
  · rw [findConnectionByIndex_eq ht.keyed]
    cases hget : t.connectionMap.get? callInfo.index with
    | none => exact .quiet ⟨rfl, rfl, by simp⟩
    | some c =>
      exact .single callInfo.index _
        ⟨OrdMap.keys_modify _ _ _, rfl, isQuiet_numberedRequest rfl⟩
        (OrdMap.mem_keys_iff.mpr ⟨c, hget⟩) (ht.each _ c hget) (by simp)
  · exact .quiet ⟨hfirst, rfl, by simp [Output.isQuiet]⟩
  · exact .quiet ⟨hfirst, rfl, by simp [Output.isQuiet]⟩
  · exact .quiet ⟨OrdMap.keys_mapValues _ _, rfl, isQuiet_numberedRequest rfl⟩
  · exact .quiet ⟨rfl, rfl, by simp⟩

theorem requestStep_reject (service : ImsService) {t : IMSControl}
    (ht : CallTable.Holds (NamesItself .ims slotId) t.connectionMap)
    (callInfo : CellularCallInfo) :
    RequestStep .ims slotId t.toCallTable (reject service t callInfo).2.1.toCallTable
      (reject service t callInfo).2.2 := by
  unfold reject
  rw [findConnectionByIndex_eq ht.keyed]
  cases hget : t.connectionMap.get? callInfo.index with
  | none => exact .quiet ⟨rfl, rfl, by simp⟩
  | some c =>
    simp only [Option.map_some]
    split
    · exact .quiet ⟨rfl, rfl, by simp⟩
    · exact .single callInfo.index _
        ⟨OrdMap.keys_modify _ _ _, rfl, isQuiet_numberedRequest rfl⟩
        (OrdMap.mem_keys_iff.mpr ⟨c, hget⟩) (ht.each _ c hget) (by simp)

theorem quietStep_recoverPendingHold (t : IMSControl) :
    QuietStep t.toCallTable t.recoverPendingHold.toCallTable [] := by
  refine ⟨?_, rfl, by simp⟩
  simp only [recoverPendingHold, OrdMap.modifyFirst]
  split <;> simp

theorem quietStep_dialAfterHold (service : ImsService) (t : IMSControl) :
    QuietStep t.toCallTable (dialAfterHold service t).1.toCallTable
      (dialAfterHold service t).2 := by
  unfold dialAfterHold
  split
  · exact ⟨OrdMap.keys_modify _ _ _, rfl, by simp [dialRequest, Output.isQuiet]⟩
  · exact ⟨rfl, rfl, by simp⟩

end IMSControl

/-! ## One slot -/

/-- The screens of the two domains. -/
structure Screens where
  cs : Screen
  ims : Screen

def Screens.hear (P : Platform) (slotId : Int) (registered : Bool) (h : Screens)
    (outputs : List Output) : Screens :=
  ⟨h.cs.hear P slotId .cs registered outputs, h.ims.hear P slotId .ims registered outputs⟩

theorem Screens.hear_append (P : Platform) (slotId : Int) (registered : Bool) (h : Screens)
    (a b : List Output) : h.hear P slotId registered (a ++ b) =
      (h.hear P slotId registered a).hear P slotId registered b := by
  simp only [Screens.hear, Screen.hear_append]

/-- Lists are of ongoing calls and announce their size, a dial reaches the slot it
names, and the number of a request fits its buffer.  What is sent is heard by the call
manager that is registered then; a call manager that registers has heard nothing. -/
def screens (P : Platform) (slotId : Int) : Monitor Slot Event Output Screens where
  init := ⟨.start false, .start false⟩
  allowed _ _ e :=
    match e with
    | .csCallsData L => L.Announced ∧ ∀ call ∈ L.calls, call.Ongoing P
    | .imsCallsData L => L.Announced ∧ ∀ call ∈ L.calls, call.Ongoing P
    | .dial callInfo _ _ _ _ => callInfo.slotId = slotId
    | .hangUp _ callInfo _ => Fits P callInfo.phoneNum
    | .answer _ callInfo => Fits P callInfo.phoneNum
    | .reject _ callInfo => Fits P callInfo.phoneNum
    | _ => True
  update h s e _ outputs :=
    match e with
    | .registerCallBack _ =>
      ⟨.start !s.csOrFresh.connectionMap.isEmpty, .start !s.imsOrFresh.connectionMap.isEmpty⟩
    | _ => h.hear P slotId s.registered outputs

instance (P : Platform) (slotId : Int) (h : Screens) (s : Slot) (e : Event) :
    Decidable ((screens P slotId).allowed h s e) :=
  match e with
  | .csCallsData L =>
    inferInstanceAs (Decidable (L.Announced ∧ ∀ call ∈ L.calls, CallInfo.Ongoing P call))
  | .imsCallsData L =>
    inferInstanceAs (Decidable (L.Announced ∧ ∀ call ∈ L.calls, ImsCurrentCall.Ongoing P call))
  | .dial callInfo .. => inferInstanceAs (Decidable (callInfo.slotId = slotId))
  | .hangUp _ callInfo _ | .answer _ callInfo | .reject _ callInfo =>
    inferInstanceAs (Decidable (Fits P callInfo.phoneNum))
  | .callFailReason .. | .switchCall .. | .swapCallResponse .. | .radioStateChange ..
  | .radioWaitTimeout .. | .rilAdapterHostDied | .clearAllCalls .. | .registerCallBack ..
  | .srvccState .. | .rsrvccState => isTrue trivial

/-- The calls `infos` name in a slot, of one type. -/
def namedCalls (slotId : Int) (callType : CallType) (infos : List CellularCallInfo) : List Int :=
  (infos.filter fun info => info.callType == callType && info.slotId == slotId).map (·.index)

/-- The step drops no call without a report.

* The end of IMS calls is not kept back for a silent redial.
* A disconnect reason that goes to the IMS control, and a hand-over, find no calls to
  drop.
* The call manager ends a call it knows of, and clears all calls by naming them. -/
def TellsAll (slotId : Int) : StepCond Slot Event Screens := fun _ s e =>
  match e with
  | .imsCallsData L => L.callSize = 0 → s.imsOrFresh.isSilentCsRedial = false
  | .callFailReason _ _ _ =>
    (s.currentCallList.callSize = 0 → s.imsOrFresh.isSilentCsRedial = false) ∧
      (s.imsControl.isSome = true → s.currentCsCallInfoList.callSize = 0 → s.csKeys = [])
  | .hangUp _ _ _ =>
    s.csOrFresh.isIgnoredIncomingCall = false ∧ s.imsOrFresh.isIgnoredIncomingCall = false
  | .reject _ _ =>
    s.csOrFresh.isIgnoredIncomingCall = false ∧ s.imsOrFresh.isIgnoredIncomingCall = false
  | .radioStateChange _ _ => s.imsOrFresh.isSilentCsRedial = false
  | .radioWaitTimeout _ => s.imsOrFresh.isSilentCsRedial = false
  | .rilAdapterHostDied => s.imsOrFresh.isSilentCsRedial = false
  | .clearAllCalls _ infos => infos = [] ∨
    (s.csOrFresh.isIgnoredIncomingCall = false ∧ s.imsOrFresh.isIgnoredIncomingCall = false) ∧
      (∀ i ∈ s.csKeys, i ∈ namedCalls slotId .cs infos) ∧
      ∀ i ∈ s.imsKeys, i ∈ namedCalls slotId .ims infos
  | .srvccState status => status = .completed → s.csKeys = [] ∧ s.imsKeys = []
  | .rsrvccState => s.csKeys = []
  | _ => True

instance (slotId : Int) (h : Screens) (s : Slot) (e : Event) : Decidable (TellsAll slotId h s e) :=
  match e with
  | .imsCallsData L =>
    inferInstanceAs (Decidable (L.callSize = 0 → s.imsOrFresh.isSilentCsRedial = false))
  | .callFailReason .. => inferInstanceAs (Decidable ((_ = _ → _ = _) ∧ (_ = _ → _ = _ → _ = _)))
  | .hangUp .. | .reject .. => inferInstanceAs (Decidable (_ = _ ∧ _ = _))
  | .radioStateChange .. | .radioWaitTimeout .. | .rilAdapterHostDied =>
    inferInstanceAs (Decidable (_ = _))
  | .clearAllCalls _ infos =>
    inferInstanceAs (Decidable (infos = [] ∨ (_ = _ ∧ _ = _) ∧ (∀ i ∈ s.csKeys, _ ∈ _) ∧
      ∀ i ∈ s.imsKeys, _ ∈ _))
  | .srvccState status => inferInstanceAs (Decidable (status = .completed → _ = _ ∧ _ = _))
  | .rsrvccState => inferInstanceAs (Decidable (_ = _))
  | .csCallsData .. | .dial .. | .answer .. | .switchCall .. | .swapCallResponse ..
  | .registerCallBack .. => isTrue trivial

namespace Slot

variable {P : Platform} {slotId : Int} {registered : Bool} {s s' : Slot} {h : Screens}
  {outputs : List Output}

/-- Both screens are right about their tables. -/
structure OnScreen (registered : Bool) (s : Slot) (h : Screens) : Prop where
  cs : Told registered s.csOrFresh h.cs
  ims : Told registered s.imsOrFresh.toCallTable h.ims

/-- Neither screen hears anything, and neither table changes its calls. -/
theorem OnScreen.quiet (hs : s.OnScreen registered h)
    (hcs : QuietStep s.csOrFresh s'.csOrFresh outputs)
    (hims : QuietStep s.imsOrFresh.toCallTable s'.imsOrFresh.toCallTable outputs) :
    s'.OnScreen registered (h.hear P slotId registered outputs) :=
  ⟨hs.cs.quietStep hcs, hs.ims.quietStep hims⟩

/-- Nothing at all happens to the tables. -/
theorem OnScreen.same (hs : s.OnScreen registered h) (hcs : s'.csOrFresh = s.csOrFresh)
    (hims : s'.imsOrFresh.toCallTable = s.imsOrFresh.toCallTable)
    (hquiet : ∀ o ∈ outputs, o.isQuiet = true) :
    s'.OnScreen registered (h.hear P slotId registered outputs) :=
  hs.quiet ⟨by rw [hcs], by rw [hcs], hquiet⟩ ⟨by rw [hims], by rw [hims], hquiet⟩

/-! ### Lists -/

section
variable (hP : P.Untyped) (hs : s.OnScreen s.registered h) (ht : s.Holds (ongoingSpec P slotId))
include hP hs ht

theorem onScreen_reportCsCallsData {L : CallInfoList} (hannounced : L.Announced)
    (hL : ∀ call ∈ L.calls, call.Ongoing P) :
    (s.reportCsCallsData P slotId L).1.OnScreen s.registered
      (h.hear P slotId s.registered (s.reportCsCallsData P slotId L).2) := by
  have hD := CSControl.describesOpen P slotId
  have hstep := csListStep P slotId s L
  generalize s.reportCsCallsData P slotId L = result at hstep
  cases hstep with
  | idle => exact hs.same rfl rfl (by simp)
  | asked => exact hs.same rfl rfl (by simp [Output.isQuiet])
  | hungUp t _ hc =>
    have hheld := ht.cs t hc
    refine ⟨?_, hs.ims.unheard rfl rfl (hD.unheard_reportHangUpInfo hheld (by decide) hP.2 false)⟩
    have hnext := (csOrFresh_of_some hc ▸ hs.cs).hear
      (hD.change_reportHangUpInfo hheld s.registered)
    exact hnext.fresh (by rw [connectionMap_reportHangUpInfo, OrdMap.keys_empty])
  | processed t hsize hc =>
    have hheld := holds_csControlFor ht L t hc
    have hnext := hD.told_reportCallsData (csOrFresh_of_csControlFor hc ▸ hs.cs) hheld hL
      hannounced false (true && t.hasEndCallWithoutReason L) fun _ _ => rfl
    refine ⟨hnext, ?_⟩
    refine hs.ims.unheard ?_ ?_ (hD.unheard_reportCallsData hheld hL (by decide) hP.2 _ _ _)
    · rw [imsOrFresh_markSilent _ rfl]
    · rw [imsOrFresh_markSilent _ rfl]

theorem onScreen_reportImsCallsData {L : ImsCurrentCallList} (hannounced : L.Announced)
    (hL : ∀ call ∈ L.calls, call.Ongoing P)
    (hsilent : L.callSize = 0 → s.imsOrFresh.isSilentCsRedial = false) :
    (s.reportImsCallsData P slotId L).1.OnScreen s.registered
      (h.hear P slotId s.registered (s.reportImsCallsData P slotId L).2) := by
  have hD := IMSControl.describesOpen P slotId
  have hstep := imsListStep P slotId s L
  generalize s.reportImsCallsData P slotId L = result at hstep
  cases hstep with
  | idle => exact hs.same rfl rfl (by simp)
  | asked => exact hs.same rfl rfl (by simp [Output.isQuiet])
  | hungUp t hsize hc =>
    have hheld := ht.ims t hc
    have hloud : t.isSilentCsRedial = false := by
      rw [← imsOrFresh_of_some hc]
      exact hsilent hsize
    refine ⟨hs.cs.unheard rfl rfl (hD.unheard_reportHangUpInfo hheld (by decide) hP.1 _), ?_⟩
    have hnext := (imsOrFresh_of_some hc ▸ hs.ims).hear
      (hD.change_reportHangUpInfo hheld s.registered)
    rw [← hloud] at hnext
    exact hnext.fresh (by rw [connectionMap_reportHangUpInfo, OrdMap.keys_empty])
  | processed t hsize hc =>
    have hheld := holds_imsControlFor ht L t hc
    have hpos : ¬L.callSize ≤ 0 := by
      rw [CallList.Announced] at hannounced
      omega
    have hnext := hD.told_reportCallsData (imsOrFresh_of_imsControlFor hc ▸ hs.ims) hheld hL
      hannounced t.isSilentCsRedial (t.hasEndCallWithoutReason L) fun hle => absurd hle hpos
    rw [IMSControl.reportImsCallsData_eq]
    refine ⟨?_, hnext⟩
    exact hs.cs.unheard rfl rfl (hD.unheard_reportCallsData hheld hL (by decide) hP.1 _ _ _)

/-- A disconnect reason: the last list of one control is processed again, and each
control whose last list is empty is dropped. -/
theorem onScreen_handleCallDisconnectReason (hcsList : s.currentCsCallInfoList.Announced)
    (himsList : s.currentCallList.Announced) (reason : RilDisconnectedReason) (message : Str)
    (hsilent : s.currentCallList.callSize = 0 → s.imsOrFresh.isSilentCsRedial = false)
    (hdropped : s.imsControl.isSome = true → s.currentCsCallInfoList.callSize = 0 →
      s.csKeys = []) :
    (s.handleCallDisconnectReason P slotId reason message).1.OnScreen s.registered
      (h.hear P slotId s.registered (s.handleCallDisconnectReason P slotId reason message).2) := by
  unfold handleCallDisconnectReason
  split
  · rename_i t hc
    have hD := IMSControl.describesOpen P slotId
    have hheld : CallTable.Holds (NamesItself .ims slotId)
        (t.updateDisconnectedReason s.currentCallList reason message).toCallTable.connectionMap :=
      holds_updateDisconnectedReason IMSControl.domain (ongoingSpec_sound P slotId).ims.steady
        (ht.ims t hc) s.currentCallList reason message
    have htold : Told s.registered
        (t.updateDisconnectedReason s.currentCallList reason message).toCallTable h.ims :=
      (imsOrFresh_of_some hc ▸ hs.ims).frame (keys_updateDisconnectedReason _ _ _ _ _) rfl
    have hnext := hD.told_reportCallsData htold hheld ht.imsList himsList
      (t.updateDisconnectedReason s.currentCallList reason message).isSilentCsRedial false
      fun hle _ => by
        rw [CallList.Announced] at himsList
        have hloud := hsilent (by omega)
        rw [imsOrFresh_of_some hc] at hloud
        exact hloud
    have hother : Unheard P slotId .cs (reportCallsData IMSControl.domain.toCallDomain P
        s.registered slotId
        (t.updateDisconnectedReason s.currentCallList reason message).isSilentCsRedial
        (t.updateDisconnectedReason s.currentCallList reason message).toCallTable
        s.currentCallList false).2 :=
      hD.unheard_reportCallsData hheld ht.imsList (by decide) hP.1 _ _ _
    have hgone : s.currentCallList.callSize = 0 → (reportCallsData IMSControl.domain.toCallDomain P
        s.registered slotId
        (t.updateDisconnectedReason s.currentCallList reason message).isSilentCsRedial
        (t.updateDisconnectedReason s.currentCallList reason message).toCallTable
        s.currentCallList false).1.connectionMap.keys = [] := fun hempty =>
      keys_reportCallsData_of_empty (le_of_eq hempty)
    dsimp only
    rw [IMSControl.reportImsCallsData_eq]
    generalize reportCallsData IMSControl.domain.toCallDomain P s.registered slotId
      (t.updateDisconnectedReason s.currentCallList reason message).isSilentCsRedial
      (t.updateDisconnectedReason s.currentCallList reason message).toCallTable
      s.currentCallList false = result at hnext hother hgone ⊢
    dsimp only
    refine ⟨?_, ?_⟩
    · rw [csOrFresh_dropEmpty]
      refine Told.unheard ?_ rfl rfl hother
      split
      · rename_i hempty
        exact hs.cs.fresh (hdropped (by rw [hc]; rfl) hempty)
      · exact hs.cs
    · rw [imsOrFresh_dropEmpty]
      split
      · rename_i hempty
        exact hnext.fresh (hgone hempty)
      · exact hnext
  · rename_i t hims hc
    have hD := CSControl.describesOpen P slotId
    have hheld : CallTable.Holds (NamesItself .cs slotId)
        (t.updateDisconnectedReason s.currentCsCallInfoList reason).connectionMap :=
      holds_updateDisconnectedReason CSControl.domain (ongoingSpec_sound P slotId).cs.steady
        (ht.cs t hc) s.currentCsCallInfoList reason []
    have htold : Told s.registered (t.updateDisconnectedReason s.currentCsCallInfoList reason)
        h.cs := (csOrFresh_of_some hc ▸ hs.cs).frame (keys_updateDisconnectedReason _ _ _ _ _) rfl
    have hnext := hD.told_reportCallsData htold hheld ht.csList hcsList false false fun _ _ => rfl
    have hother : Unheard P slotId .ims (reportCallsData CSControl.domain.toCallDomain P
        s.registered slotId false (t.updateDisconnectedReason s.currentCsCallInfoList reason)
        s.currentCsCallInfoList false).2 :=
      hD.unheard_reportCallsData hheld ht.csList (by decide) hP.2 _ _ _
    refine ⟨?_, ?_⟩
    · rw [csOrFresh_dropEmpty]
      split
      · rename_i hempty
        exact hnext.fresh (keys_reportCallsData_of_empty (le_of_eq hempty))
      · exact hnext
    · have hfresh : s.imsOrFresh = .fresh := by rw [imsOrFresh, hims]; rfl
      have hafter : ∀ control : CSControl, (handleCallDisconnectReason.dropEmpty
          { s with csControl := some control }).imsOrFresh = s.imsOrFresh := by
        intro control
        rw [imsOrFresh_dropEmpty, hfresh]
        split
        · rfl
        · exact hfresh
      exact hs.ims.unheard (by rw [hafter]) (by rw [hafter]) hother
  · exact hs.same rfl rfl (by simp)

end

/-! ### Requests and responses -/

theorem onScreen_dial (hs : s.OnScreen registered h) (callInfo : CellularCallInfo)
    (isEcc useIms : Bool) (csEnv : CsDialEnv) (imsEnv : ImsDialEnv) :
    (s.dial P callInfo isEcc useIms csEnv imsEnv).1.OnScreen registered
      (h.hear P slotId registered (s.dial P callInfo isEcc useIms csEnv imsEnv).2) := by
  unfold dial dialNormalCall
  split
  · exact hs.same rfl rfl (by simp [Output.isQuiet])
  · split
    · have hdial := (IMSControl.quietStep_dial P imsEnv s.isRadioOn s.imsOrFresh callInfo
        isEcc).append (by simp [Output.isQuiet] :
          ∀ o ∈ [Output.returned (IMSControl.dial P imsEnv s.isRadioOn s.imsOrFresh callInfo
            isEcc).1], o.isQuiet = true)
      exact hs.quiet ⟨rfl, rfl, hdial.quiet⟩ hdial
    · have hdial := (CSControl.quietStep_dial csEnv s.isRadioOn s.csOrFresh callInfo
        isEcc).append (by simp [Output.isQuiet] :
          ∀ o ∈ [Output.returned (CSControl.dial csEnv s.isRadioOn s.csOrFresh callInfo
            isEcc).1], o.isQuiet = true)
      exact hs.quiet hdial ⟨rfl, rfl, hdial.quiet⟩

/-- A missing control has no calls, and its screen loses none. -/
theorem onScreen_controlException (hs : s.OnScreen registered h) {callInfo : CellularCallInfo}
    (hfits : Fits P callInfo.phoneNum) (ret : RetCode)
    (hmissing : callInfo.callType = .cs ∧ s.csControl = none ∨
      callInfo.callType = .ims ∧ s.imsControl = none) :
    s.OnScreen registered (h.hear P slotId registered
      [.reportControlException callInfo, .returned ret]) := by
  have hrecord : ∀ o ∈ [Output.reportControlException callInfo, .returned ret], ∀ r ∈ o.records P,
      r.state = .disconnected ∧ r.callType = callInfo.callType := by
    have hlen : ¬P.kMaxNumberLen < (cStr callInfo.phoneNum).length := by
      simp only [Fits] at hfits
      omega
    simp [Output.records, controlExceptionReport, hlen]
  rcases hmissing with ⟨htype, hnone⟩ | ⟨htype, hnone⟩
  · have hkeys : s.csOrFresh.connectionMap.keys = [] := by
      rw [csOrFresh, hnone]
      rfl
    refine ⟨hs.cs.hear_of_empty hkeys fun o ho r hr => (hrecord o ho r hr).1,
      hs.ims.unheard rfl rfl (.of_types (fun o ho r hr => ?_) rfl)⟩
    rw [(hrecord o ho r hr).2, htype]
    decide
  · have hkeys : s.imsOrFresh.connectionMap.keys = [] := by
      rw [imsOrFresh, hnone]
      rfl
    refine ⟨hs.cs.unheard rfl rfl (.of_types (fun o ho r hr => ?_) rfl),
      hs.ims.hear_of_empty hkeys fun o ho r hr => (hrecord o ho r hr).1⟩
    rw [(hrecord o ho r hr).2, htype]
    decide

/-- A request is told by the control it goes to. -/
theorem onScreen_request (hs : s.OnScreen registered h) {callInfo : CellularCallInfo}
    (hfits : Fits P callInfo.phoneNum)
    {onCs : CSControl → RetCode × CSControl × List Output}
    {onIms : IMSControl → RetCode × IMSControl × List Output}
    (hcs : ∀ t, s.csControl = some t → QuietStep t (onCs t).2.1 (onCs t).2.2 ∨
      t.isIgnoredIncomingCall = false ∧ RequestStep .cs slotId t (onCs t).2.1 (onCs t).2.2)
    (hims : ∀ t, s.imsControl = some t →
      QuietStep t.toCallTable (onIms t).2.1.toCallTable (onIms t).2.2 ∨
      t.isIgnoredIncomingCall = false ∧
        RequestStep .ims slotId t.toCallTable (onIms t).2.1.toCallTable (onIms t).2.2) :
    (s.request callInfo onCs onIms).1.OnScreen registered
      (h.hear P slotId registered (s.request callInfo onCs onIms).2) := by
  have hreturned : ∀ ret : RetCode, ∀ o ∈ [Output.returned ret], o.isQuiet = true := by
    simp [Output.isQuiet]
  unfold request
  split
  · exact hs.same rfl rfl (hreturned _)
  · split
    · rename_i htype
      split
      · rename_i hnone
        exact onScreen_controlException hs hfits _ (.inl ⟨htype, hnone⟩)
      · rename_i t hc
        have htold : Told registered t h.cs := csOrFresh_of_some hc ▸ hs.cs
        rcases hcs t hc with hquiet | ⟨hloud, hstep⟩
        · have hnext := hquiet.append (hreturned (onCs t).1)
          exact ⟨htold.quietStep hnext, hs.ims.quietStep ⟨rfl, rfl, hnext.quiet⟩⟩
        · have hnext := hstep.append (hreturned (onCs t).1)
          exact ⟨htold.requestStep hnext hloud,
            hs.ims.unheard rfl rfl (hnext.unheard (by decide))⟩
    · rename_i htype
      split
      · rename_i hnone
        exact onScreen_controlException hs hfits _ (.inr ⟨htype, hnone⟩)
      · rename_i t hc
        have htold : Told registered t.toCallTable h.ims := imsOrFresh_of_some hc ▸ hs.ims
        rcases hims t hc with hquiet | ⟨hloud, hstep⟩
        · have hnext := hquiet.append (hreturned (onIms t).1)
          exact ⟨hs.cs.quietStep ⟨rfl, rfl, hnext.quiet⟩, htold.quietStep hnext⟩
        · have hnext := hstep.append (hreturned (onIms t).1)
          exact ⟨hs.cs.unheard rfl rfl (hnext.unheard (by decide)),
            htold.requestStep hnext hloud⟩
    · exact hs.same rfl rfl (hreturned _)

theorem onScreen_switchCall (hs : s.OnScreen registered h) (service : ImsService) :
    (s.switchCall slotId service).1.OnScreen registered
      (h.hear P slotId registered (s.switchCall slotId service).2) := by
  unfold switchCall
  split
  · exact hs.same rfl rfl (by simp [Output.isQuiet])
  · split
    · exact hs.same rfl rfl (by simp [Output.isQuiet])
    · rename_i t _
      refine hs.same rfl rfl (List.forall_mem_append.mpr ⟨?_, by simp [Output.isQuiet]⟩)
      unfold IMSControl.switchCall
      dsimp only
      cases service.needCallImsService <;> simp [Output.isQuiet]

theorem onScreen_swapCallResponse (hs : s.OnScreen registered h) (service : ImsService)
    (ok : Bool) :
    (s.swapCallResponse service ok).1.OnScreen registered
      (h.hear P slotId registered (s.swapCallResponse service ok).2) := by
  unfold swapCallResponse
  split
  · exact hs.same rfl rfl (by simp)
  · rename_i t hc
    have hrecover : QuietStep s.imsOrFresh.toCallTable t.recoverPendingHold.toCallTable [] := by
      rw [imsOrFresh_of_some hc]
      exact IMSControl.quietStep_recoverPendingHold t
    have hdial := IMSControl.quietStep_dialAfterHold service t.recoverPendingHold
    dsimp only
    split
    · refine hs.quiet ⟨rfl, rfl, hdial.quiet⟩ ⟨?_, ?_, hdial.quiet⟩
      · exact hdial.keys.trans hrecover.keys
      · exact hdial.flag.trans hrecover.flag
    · refine hs.quiet ⟨rfl, rfl, by simp [Output.isQuiet]⟩ ⟨?_, ?_, by simp [Output.isQuiet]⟩
      · exact hrecover.keys
      · exact hrecover.flag

/-! ### Ends of calls -/

theorem onScreen_radioStateChangeProcess (hP : P.Untyped) (hs : s.OnScreen registered h)
    (ht : s.Holds (ongoingSpec P slotId)) (hsilent : s.imsOrFresh.isSilentCsRedial = false)
    (radioOn : Bool) (env : ImsDialEnv) :
    (s.radioStateChangeProcess P slotId radioOn env).1.OnScreen registered
      (h.hear P slotId registered (s.radioStateChangeProcess P slotId radioOn env).2) := by
  unfold radioStateChangeProcess
  dsimp only
  split
  · exact hs.same rfl rfl (by simp)
  · split
    · exact hs.same rfl rfl (by simp)
    · rename_i t hc
      have hskip : t.skipWaitForRadioOn.toCallTable = t.toCallTable := by
        unfold IMSControl.skipWaitForRadioOn
        split <;> rfl
      have hskipSilent : t.skipWaitForRadioOn.isSilentCsRedial = t.isSilentCsRedial := by
        unfold IMSControl.skipWaitForRadioOn
        split <;> rfl
      have htable : s.imsOrFresh.toCallTable = t.skipWaitForRadioOn.toCallTable := by
        rw [imsOrFresh_of_some hc, hskip]
      split
      · have hdial := IMSControl.quietStep_dial P env radioOn t.skipWaitForRadioOn
          t.skipWaitForRadioOn.pendingEmcDialCallInfo true
        have hquiet : ∀ o ∈ .imsControlDial t.skipWaitForRadioOn.pendingEmcDialCallInfo ::
            (IMSControl.dial P env radioOn t.skipWaitForRadioOn
              t.skipWaitForRadioOn.pendingEmcDialCallInfo true).2.2, o.isQuiet = true :=
          List.forall_mem_cons.mpr ⟨rfl, hdial.quiet⟩
        have hstep := QuietStep.mk hdial.keys hdial.flag hquiet
        rw [← htable] at hstep
        split
        · -- the dial fails: what it left is hung up
          have hheld : CallTable.Holds (NamesItself .ims slotId) (IMSControl.dial P env radioOn
              t.skipWaitForRadioOn t.skipWaitForRadioOn.pendingEmcDialCallInfo
              true).2.1.connectionMap := by
            refine IMSControl.holds_dial (ongoingSpec_sound P slotId).ims.steady ?_ _ _
            rw [hskip]
            exact ht.ims t hc
          have hloud : (IMSControl.dial P env radioOn t.skipWaitForRadioOn
              t.skipWaitForRadioOn.pendingEmcDialCallInfo true).2.1.isSilentCsRedial = false := by
            rw [IMSControl.isSilentCsRedial_dial, hskipSilent, ← imsOrFresh_of_some hc]
            exact hsilent
          rw [Screens.hear_append]
          exact ⟨(hs.cs.quietStep ⟨rfl, rfl, hquiet⟩).unheard rfl rfl
              (IMSControl.unheard_reportHangUpInfo hP hheld),
            IMSControl.told_reportHangUpInfo (hs.ims.quietStep hstep) hheld hloud⟩
        · exact hs.quiet ⟨rfl, rfl, hquiet⟩ hstep
      · exact hs.same rfl htable.symm (by simp)

theorem onScreen_radioWaitTimeout (hP : P.Untyped) (hs : s.OnScreen registered h)
    (ht : s.Holds (ongoingSpec P slotId))
    (hhere : ∀ t, s.imsControl = some t → PendingHere slotId t)
    (hsilent : s.imsOrFresh.isSilentCsRedial = false) (timer : Nat) :
    (s.radioWaitTimeout P timer).1.OnScreen registered
      (h.hear P slotId registered (s.radioWaitTimeout P timer).2) := by
  unfold radioWaitTimeout
  split
  · exact hs.same rfl rfl (by simp)
  · rename_i t hc
    split
    · rename_i htimer
      rw [imsOrFresh_of_some hc] at hsilent
      have hslot : t.pendingEmcDialCallInfo.slotId = slotId :=
        hhere t hc (List.ne_nil_of_mem htimer)
      have htold : Told registered t.toCallTable h.ims := imsOrFresh_of_some hc ▸ hs.ims
      have hims := IMSControl.told_reportHangUpInfo (P := P) htold (ht.ims t hc) hsilent
      simp only [IMSControl.waitForRadioOnTimeout, hslot]
      exact ⟨hs.cs.unheard rfl rfl (IMSControl.unheard_reportHangUpInfo hP (ht.ims t hc)), hims⟩
    · exact hs.same rfl rfl (by simp)

/-- The modem's service dies: both tables are hung up and dropped. -/
theorem onScreen_onRilAdapterHostDied (hP : P.Untyped) (hs : s.OnScreen registered h)
    (ht : s.Holds (ongoingSpec P slotId)) (hsilent : s.imsOrFresh.isSilentCsRedial = false) :
    (s.onRilAdapterHostDied P slotId).1.OnScreen registered
      (h.hear P slotId registered (s.onRilAdapterHostDied P slotId).2) := by
  have hcs : ∀ t, s.csControl = some t →
      Told registered (CallTable.fresh : CSControl)
          (h.hear P slotId registered (t.reportHangUpInfo P slotId).2).cs ∧
        Told registered s.imsOrFresh.toCallTable
          (h.hear P slotId registered (t.reportHangUpInfo P slotId).2).ims := by
    intro t hc
    have hD := CSControl.describesOpen P slotId
    have hheld := ht.cs t hc
    have htold : Told registered t h.cs := csOrFresh_of_some hc ▸ hs.cs
    have hnext := htold.hear (hD.change_reportHangUpInfo hheld registered)
    exact ⟨hnext.fresh (by rw [connectionMap_reportHangUpInfo, OrdMap.keys_empty]),
      hs.ims.unheard rfl rfl (hD.unheard_reportHangUpInfo hheld (by decide) hP.2 false)⟩
  have hnone : s.csControl = none → Told registered (CallTable.fresh : CSControl) h.cs := by
    intro hc
    have hfresh : s.csOrFresh = CallTable.fresh := by
      rw [csOrFresh, hc]
      rfl
    exact hfresh ▸ hs.cs
  -- the IMS control comes second, and finds the screens as the CS control left them
  have hims : ∀ t, s.imsControl = some t → ∀ h' : Screens,
      Told registered (CallTable.fresh : CSControl) h'.cs →
      Told registered s.imsOrFresh.toCallTable h'.ims →
      Told registered (CallTable.fresh : CSControl)
          (h'.hear P slotId registered (t.reportHangUpInfo P slotId).2).cs ∧
        Told registered IMSControl.fresh.toCallTable
          (h'.hear P slotId registered (t.reportHangUpInfo P slotId).2).ims := by
    intro t hi h' hcs' hims'
    rw [imsOrFresh_of_some hi] at hsilent
    have htold := IMSControl.told_reportHangUpInfo (P := P) (imsOrFresh_of_some hi ▸ hims')
      (ht.ims t hi) hsilent
    exact ⟨hcs'.unheard rfl rfl (IMSControl.unheard_reportHangUpInfo hP (ht.ims t hi)),
      htold.fresh (by simp [IMSControl.reportHangUpInfo])⟩
  have hfresh : s.imsControl = none → s.imsOrFresh = .fresh := by
    intro hi
    rw [imsOrFresh, hi]
    rfl
  unfold onRilAdapterHostDied
  cases hc : s.csControl with
  | none =>
    cases hi : s.imsControl with
    | none => exact ⟨(hnone hc).quietStep ⟨rfl, rfl, by simp⟩,
        (hfresh hi ▸ hs.ims).quietStep ⟨rfl, rfl, by simp⟩⟩
    | some t =>
      obtain ⟨h₁, h₂⟩ := hims t hi h (hnone hc) hs.ims
      exact ⟨h₁, h₂⟩
  | some c =>
    obtain ⟨hc₁, hc₂⟩ := hcs c hc
    dsimp only
    rw [Screens.hear_append]
    cases hi : s.imsControl with
    | none => exact ⟨hc₁.quietStep ⟨rfl, rfl, by simp⟩,
        (hfresh hi ▸ hc₂).quietStep ⟨rfl, rfl, by simp⟩⟩
    | some t =>
      obtain ⟨h₁, h₂⟩ := hims t hi _ hc₁ hc₂
      exact ⟨h₁, h₂⟩

/-- The records of a call that is cleared. -/
theorem records_clearAllCalls (service : ImsService) (infos : List CellularCallInfo) :
    ∀ o ∈ (s.clearAllCalls P slotId service infos).2, ∀ r ∈ o.records P,
      r.state = .disconnected := by
  have hentries : ∀ {entry : CellularCallInfo → CallReportInfo} {callType : CallType},
      (∀ info, (entry info).state = .disconnected) → ∀ r ∈ (infos.filter fun info =>
        info.callType == callType && info.slotId == slotId).map entry, r.state = .disconnected := by
    intro entry callType hentry r hr
    obtain ⟨info, -, rfl⟩ := List.mem_map.mp hr
    exact hentry info
  intro o ho r hr
  unfold clearAllCalls at ho
  split at ho
  · rw [List.mem_singleton.mp ho] at hr
    cases hr
  · dsimp only at ho
    rcases List.mem_append.mp ho with ho | ho
    · rcases List.mem_append.mp ho with ho | ho
      · split at ho
        · cases ho
        · rcases List.mem_append.mp ho with ho | ho
          · rw [List.mem_singleton.mp ho] at hr
            exact hentries (fun _ => rfl) r hr
          · rw [List.mem_singleton.mp ho] at hr
            cases hr
      · split at ho
        · cases ho
        · rcases List.mem_append.mp ho with ho | ho
          · rw [List.mem_singleton.mp ho] at hr
            exact hentries (fun _ => rfl) r hr
          · obtain ⟨c, -, hc⟩ := List.mem_flatMap.mp ho
            rw [Output.records_of_isQuiet P (IMSControl.isQuiet_numberedRequest rfl o hc)] at hr
            cases hr
    · rw [List.mem_singleton.mp ho] at hr
      cases hr

/-- The entries of a report of named calls. -/
theorem mem_heard_named {callType : CallType} {entry : CellularCallInfo → CallReportInfo}
    (hentry : ∀ info, (entry info).identity = (callType, info.slotId, info.index))
    {infos : List CellularCallInfo} {i : Int} (hi : i ∈ namedCalls slotId callType infos)
    (hreport : .reportCallsInfo callType ⟨slotId, (infos.filter fun info =>
      info.callType == callType && info.slotId == slotId).map entry⟩ ∈ outputs) :
    i ∈ (heard P slotId callType outputs).map Prod.fst := by
  obtain ⟨info, hinfo, rfl⟩ := List.mem_map.mp hi
  have hnamed := (List.mem_filter.mp hinfo).2
  simp only [Bool.and_eq_true, beq_iff_eq] at hnamed
  have hidentity := hentry info
  simp only [CallReportInfo.identity, Prod.mk.injEq] at hidentity
  refine List.mem_map.mpr ⟨(entry info).entry, mem_heard.mpr ⟨_, hreport, entry info, ?_, ?_, rfl⟩,
    hidentity.2.2⟩
  · exact List.mem_map_of_mem hinfo
  · exact ⟨hidentity.1, hidentity.2.1.trans hnamed.2⟩

/-- A call is tracked by a control. -/
theorem csControl_of_mem {i : Int} (hi : i ∈ s.csKeys) : ∃ t, s.csControl = some t := by
  cases hc : s.csControl with
  | some t => exact ⟨t, rfl⟩
  | none =>
    rw [csKeys, csOrFresh, hc] at hi
    cases hi

theorem imsControl_of_mem {i : Int} (hi : i ∈ s.imsKeys) : ∃ t, s.imsControl = some t := by
  cases hc : s.imsControl with
  | some t => exact ⟨t, rfl⟩
  | none =>
    rw [imsKeys, imsOrFresh, hc] at hi
    cases hi

/-- The call manager clears the calls it names. -/
theorem onScreen_clearAllCalls (hs : s.OnScreen registered h) (service : ImsService)
    (infos : List CellularCallInfo)
    (hnamed : infos = [] ∨
      (s.csOrFresh.isIgnoredIncomingCall = false ∧ s.imsOrFresh.isIgnoredIncomingCall = false) ∧
        (∀ i ∈ s.csKeys, i ∈ namedCalls slotId .cs infos) ∧
        ∀ i ∈ s.imsKeys, i ∈ namedCalls slotId .ims infos) :
    (s.clearAllCalls P slotId service infos).1.OnScreen registered
      (h.hear P slotId registered (s.clearAllCalls P slotId service infos).2) := by
  have hends : ∀ o ∈ (s.clearAllCalls P slotId service infos).2, ∀ r ∈ o.records P,
      r.state = .disconnected := records_clearAllCalls service infos
  by_cases hinfos : infos = []
  · subst hinfos
    exact hs.same rfl rfl (by simp [clearAllCalls, Output.isQuiet])
  · obtain ⟨⟨hcsLoud, himsLoud⟩, hcsNamed, himsNamed⟩ := hnamed.resolve_left hinfos
    have hcs := csOrFresh_clearAllCalls (s := s) P slotId service hinfos
    have hims := imsOrFresh_clearAllCalls (s := s) P slotId service hinfos
    refine ⟨hs.cs.hear (.of_empty ?_ ?_ hends fun _ i hi => ?_),
      hs.ims.hear (.of_empty ?_ ?_ hends fun _ i hi => ?_)⟩
    · rw [hcs]
      rfl
    · rw [hcs]
      exact hcsLoud
    · obtain ⟨t, hc⟩ := csControl_of_mem hi
      have hentry : ∀ info, (CSControl.hangUpEntry P info).identity =
          (.cs, info.slotId, info.index) := fun _ => rfl
      refine mem_heard_named hentry (hcsNamed i hi) ?_
      unfold clearAllCalls
      rw [if_neg hinfos, hc]
      simp [CSControl.reportHangUp]
    · rw [hims]
      rfl
    · rw [hims]
      exact himsLoud
    · obtain ⟨t, hc⟩ := imsControl_of_mem hi
      have hentry : ∀ info, (IMSControl.hangUpEntry P info).identity =
          (.ims, info.slotId, info.index) := fun _ => rfl
      refine mem_heard_named hentry (himsNamed i hi) ?_
      unfold clearAllCalls
      rw [if_neg hinfos, hc]
      simp [IMSControl.reportHangUp]

/-- A hand-over finds no calls. -/
theorem onScreen_updateSrvccStateReport (hs : s.OnScreen registered h) (status : SrvccState)
    (hempty : status = .completed → s.csKeys = [] ∧ s.imsKeys = []) :
    (s.updateSrvccStateReport status).1.OnScreen registered
      (h.hear P slotId registered (s.updateSrvccStateReport status).2) := by
  unfold updateSrvccStateReport
  dsimp only
  split
  · exact hs.same rfl rfl (by simp)
  · rename_i hstatus
    obtain ⟨hcs, hims⟩ := hempty (not_not.mp hstatus)
    have hfresh : ({ s with srvccState := status, serviceSrvccState := status } :
        Slot).srvccStateCompleted.csOrFresh = CallTable.fresh := by
      unfold csOrFresh srvccStateCompleted
      split <;> rfl
    refine ⟨?_, (hs.ims.fresh hims).quietStep ⟨rfl, rfl, by simp⟩⟩
    rw [hfresh]
    exact (hs.cs.fresh hcs).quietStep ⟨rfl, rfl, by simp⟩

theorem onScreen_updateRsrvccStateReport (hs : s.OnScreen registered h) (hempty : s.csKeys = []) :
    s.updateRsrvccStateReport.1.OnScreen registered
      (h.hear P slotId registered s.updateRsrvccStateReport.2) :=
  ⟨(hs.cs.fresh hempty).quietStep ⟨rfl, rfl, by simp [updateRsrvccStateReport]⟩,
    hs.ims.quietStep ⟨rfl, rfl, by simp [updateRsrvccStateReport]⟩⟩

/-! ### Runs -/

/-- What an event leaves of the callback and the lists kept. -/
def keptAfter (s : Slot) : Event → Bool × CallInfoList × ImsCurrentCallList
  | .csCallsData L => (s.registered, L, s.currentCallList)
  | .imsCallsData L => (s.registered, s.currentCsCallInfoList, L)
  | .registerCallBack registered => (registered, s.currentCsCallInfoList, s.currentCallList)
  | _ => (s.registered, s.currentCsCallInfoList, s.currentCallList)

/-- The callback and the lists kept. -/
def kept (s : Slot) : Bool × CallInfoList × ImsCurrentCallList :=
  (s.registered, s.currentCsCallInfoList, s.currentCallList)

theorem kept_dropEmpty (s : Slot) : kept (handleCallDisconnectReason.dropEmpty s) = kept s := by
  unfold handleCallDisconnectReason.dropEmpty
  dsimp only
  split <;> split <;> rfl

theorem kept_request (s : Slot) (callInfo : CellularCallInfo)
    (onCs : CSControl → RetCode × CSControl × List Output)
    (onIms : IMSControl → RetCode × IMSControl × List Output) :
    kept (s.request callInfo onCs onIms).1 = kept s := by
  unfold request
  split
  · rfl
  · split
    · split <;> rfl
    · split <;> rfl
    · rfl

theorem kept_step (P : Platform) (slotId : Int) (s : Slot) (e : Event) :
    kept ((slotMachine P slotId).step s e).1 = s.keptAfter e := by
  cases e with
  | csCallsData L =>
    have hstep := csListStep P slotId s L
    simp only [slotMachine]
    generalize s.reportCsCallsData P slotId L = result at hstep ⊢
    cases hstep <;> rfl
  | imsCallsData L =>
    have hstep := imsListStep P slotId s L
    simp only [slotMachine]
    generalize s.reportImsCallsData P slotId L = result at hstep ⊢
    cases hstep <;> rfl
  | callFailReason asker reason message =>
    simp only [slotMachine, handleCallDisconnectReason]
    split
    · exact kept_dropEmpty _
    · exact kept_dropEmpty _
    · rfl
  | dial callInfo isEcc useIms csEnv imsEnv =>
    simp only [slotMachine, dial, dialNormalCall]
    split
    · rfl
    · split <;> rfl
  | hangUp service callInfo type => exact kept_request s _ _ _
  | answer service callInfo => exact kept_request s _ _ _
  | reject service callInfo => exact kept_request s _ _ _
  | switchCall service =>
    simp only [slotMachine, switchCall]
    split
    · rfl
    · split <;> rfl
  | swapCallResponse request ok service =>
    simp only [slotMachine, swapCallResponse]
    split
    · rfl
    · split <;> rfl
  | radioStateChange radioOn env =>
    simp only [slotMachine, radioStateChangeProcess]
    split
    · rfl
    · split
      · rfl
      · split
        · split <;> rfl
        · rfl
  | radioWaitTimeout timer =>
    simp only [slotMachine, radioWaitTimeout]
    split
    · rfl
    · split <;> rfl
  | rilAdapterHostDied => rfl
  | clearAllCalls service infos =>
    simp only [slotMachine, clearAllCalls]
    split <;> rfl
  | registerCallBack registered => rfl
  | srvccState status =>
    simp only [slotMachine, updateSrvccStateReport]
    split <;> rfl
  | rsrvccState => rfl

/-- The screens are right, and so is what the tables and the kept lists rest on. -/
structure Watched (P : Platform) (slotId : Int) (s : Slot) (h : Screens) : Prop where
  tables : s.Holds (ongoingSpec P slotId)
  timers : ∀ t, s.imsControl = some t → PendingHere slotId t
  csList : s.currentCsCallInfoList.Announced
  imsList : s.currentCallList.Announced
  onScreen : s.OnScreen s.registered h

theorem Watched.init : Watched P slotId Slot.init (screens P slotId).init where
  tables := Holds.init
  timers := fun t ht => nomatch ht
  csList := rfl
  imsList := rfl
  onScreen := by
    refine ⟨⟨fun _ => rfl, fun i hi => absurd rfl hi, ?_, ?_⟩,
      ⟨fun _ => rfl, fun i hi => absurd rfl hi, ?_, ?_⟩⟩
    all_goals simp [Slot.init, csOrFresh, imsOrFresh, CallTable.fresh, IMSControl.fresh]

/-- What the call manager hears of every event leaves its screens right. -/
theorem Watched.onScreen_step (hP : P.Untyped) (hs : s.Watched P slotId h) {e : Event}
    (hallowed : (screens P slotId).allowed h s e) (htells : TellsAll slotId h s e) :
    ((slotMachine P slotId).step s e).1.OnScreen (s.keptAfter e).1
      ((screens P slotId).next (slotMachine P slotId) h s e) := by
  have hscreen := hs.onScreen
  cases e with
  | csCallsData L => exact onScreen_reportCsCallsData hP hscreen hs.tables hallowed.1 hallowed.2
  | imsCallsData L =>
    exact onScreen_reportImsCallsData hP hscreen hs.tables hallowed.1 hallowed.2 htells
  | callFailReason asker reason message =>
    exact onScreen_handleCallDisconnectReason hP hscreen hs.tables hs.csList hs.imsList reason
      message htells.1 htells.2
  | dial callInfo isEcc useIms csEnv imsEnv =>
    exact onScreen_dial hscreen callInfo isEcc useIms csEnv imsEnv
  | hangUp service callInfo type =>
    refine onScreen_request hscreen hallowed (fun t ht => .inr ?_) fun t ht => .inr ?_
    · exact ⟨csOrFresh_of_some ht ▸ htells.1,
        CSControl.requestStep_hangUp (hs.tables.cs t ht) callInfo type⟩
    · exact ⟨imsOrFresh_of_some ht ▸ htells.2,
        IMSControl.requestStep_hangUp service (hs.tables.ims t ht) callInfo type⟩
  | answer service callInfo =>
    refine onScreen_request hscreen hallowed (fun t ht => .inl ?_) fun t ht => .inl ?_
    · exact CSControl.quietStep_answer t callInfo
    · exact IMSControl.quietStep_answer service t callInfo
  | reject service callInfo =>
    refine onScreen_request hscreen hallowed (fun t ht => .inr ?_) fun t ht => .inr ?_
    · exact ⟨csOrFresh_of_some ht ▸ htells.1,
        CSControl.requestStep_reject (hs.tables.cs t ht) callInfo⟩
    · exact ⟨imsOrFresh_of_some ht ▸ htells.2,
        IMSControl.requestStep_reject service (hs.tables.ims t ht) callInfo⟩
  | switchCall service => exact onScreen_switchCall hscreen service
  | swapCallResponse request ok service => exact onScreen_swapCallResponse hscreen service ok
  | radioStateChange radioOn env =>
    exact onScreen_radioStateChangeProcess hP hscreen hs.tables htells radioOn env
  | radioWaitTimeout timer =>
    exact onScreen_radioWaitTimeout hP hscreen hs.tables hs.timers htells timer
  | rilAdapterHostDied => exact onScreen_onRilAdapterHostDied hP hscreen hs.tables htells
  | clearAllCalls service infos => exact onScreen_clearAllCalls hscreen service infos htells
  | registerCallBack registered =>
    exact ⟨hscreen.cs.register registered, hscreen.ims.register registered⟩
  | srvccState status => exact onScreen_updateSrvccStateReport hscreen status htells
  | rsrvccState => exact onScreen_updateRsrvccStateReport hscreen htells

theorem Watched.step (hP : P.Untyped) (hs : s.Watched P slotId h) {e : Event}
    (hallowed : (screens P slotId).allowed h s e) (htells : TellsAll slotId h s e) :
    ((slotMachine P slotId).step s e).1.Watched P slotId
      ((screens P slotId).next (slotMachine P slotId) h s e) := by
  have hkept := kept_step P slotId s e
  have hadmits : (ongoingSpec P slotId).Admits e := by
    cases e <;> first | exact hallowed.2 | trivial
  have haddressed : (addressed slotId).allowed () s e := by
    cases e <;> first | exact hallowed | trivial
  have hlists : (s.keptAfter e).2.1.Announced ∧ (s.keptAfter e).2.2.Announced := by
    cases e <;> first
      | exact ⟨hs.csList, hs.imsList⟩
      | exact ⟨hallowed.1, hs.imsList⟩
      | exact ⟨hs.csList, hallowed.1⟩
  rw [← hkept] at hlists
  have hscreen := hs.onScreen_step hP hallowed htells
  rw [← hkept] at hscreen
  exact ⟨holds_step (ongoingSpec_sound P slotId) hs.tables hadmits,
    pendingHere_step hs.timers haddressed, hlists.1, hlists.2, hscreen⟩

end Slot

/-- The call manager shows the calls that are tracked: never another call, and every
one unless it registered late. -/
structure ShowsCalls (s : Slot) (h : Screens) : Prop where
  csTracked : ∀ i, h.cs.shown i ≠ none → i ∈ s.csKeys
  imsTracked : ∀ i, h.ims.shown i ≠ none → i ∈ s.imsKeys
  csShown : s.registered = true → h.cs.late = false → ∀ i ∈ s.csKeys, h.cs.shown i ≠ none
  imsShown : s.registered = true → h.ims.late = false → ∀ i ∈ s.imsKeys, h.ims.shown i ≠ none

theorem watched_of_run {P : Platform} {slotId : Int} (hP : P.Untyped) {s : Slot} {h : Screens}
    (hrun : Run (slotMachine P slotId) (screens P slotId) (TellsAll slotId) s h) :
    s.Watched P slotId h :=
  Run.invariant .init (fun _ _ _ hs hallowed htells => hs.step hP hallowed htells) hrun

/-- On every run whose steps tell what they drop, the calls the call manager shows are
those the controls track. -/
theorem showsCalls_of_run {P : Platform} {slotId : Int} (hP : P.Untyped) {s : Slot} {h : Screens}
    (hrun : Run (slotMachine P slotId) (screens P slotId) (TellsAll slotId) s h) :
    ShowsCalls s h := by
  have hscreen := (watched_of_run hP hrun).onScreen
  exact ⟨hscreen.cs.tracked, hscreen.ims.tracked, hscreen.cs.shown, hscreen.ims.shown⟩

/-- An incoming call finds no call manager; one registers late, and hears of an IMS
call. -/
theorem showsCalls_after_late_registration :
    ShowsCalls
      (exec (slotMachine .plain 0) (screens .plain 0) Slot.init (screens .plain 0).init
        [.csCallsData (.of [.plain 1 .incoming]), .registerCallBack true,
          .imsCallsData (.of [.plain 2 .incoming])]).1
      (exec (slotMachine .plain 0) (screens .plain 0) Slot.init (screens .plain 0).init
        [.csCallsData (.of [.plain 1 .incoming]), .registerCallBack true,
          .imsCallsData (.of [.plain 2 .incoming])]).2 :=
  showsCalls_of_run (by decide) (Run.of_admits _ (by decide))

/-- A list of different calls that is reported makes the records the call manager
shows those of the table. -/
structure Resyncs (P : Platform) (slotId : Int) (s : Slot) (h : Screens) : Prop where
  cs : ∀ L : CallInfoList, (∀ call ∈ L.calls, call.Ongoing P) →
    (L.calls.map CallInfo.index).Nodup →
    reportsBy .cs ((slotMachine P slotId).step s (.csCallsData L)).2 = true →
    (h.hear P slotId true ((slotMachine P slotId).step s (.csCallsData L)).2).cs.shown =
      shownBy ((slotMachine P slotId).step s (.csCallsData L)).1.csOrFresh.connectionMap
  ims : ∀ L : ImsCurrentCallList, (∀ call ∈ L.calls, call.Ongoing P) →
    (L.calls.map ImsCurrentCall.index).Nodup →
    reportsBy .ims ((slotMachine P slotId).step s (.imsCallsData L)).2 = true →
    (h.hear P slotId true ((slotMachine P slotId).step s (.imsCallsData L)).2).ims.shown =
      shownBy ((slotMachine P slotId).step s (.imsCallsData L)).1.imsOrFresh.connectionMap

namespace Slot

variable {P : Platform} {slotId : Int} {s : Slot} {h : Screens}

theorem shown_reportCsCallsData (hs : s.Watched P slotId h) (hregistered : s.registered = true)
    {L : CallInfoList} (hL : ∀ call ∈ L.calls, call.Ongoing P)
    (hnodup : (L.calls.map CallInfo.index).Nodup)
    (hreported : reportsBy .cs (s.reportCsCallsData P slotId L).2 = true) :
    (h.cs.hear P slotId .cs true (s.reportCsCallsData P slotId L).2).shown =
      shownBy (s.reportCsCallsData P slotId L).1.csOrFresh.connectionMap := by
  have hD := CSControl.describesOpen P slotId
  have htold := hregistered ▸ hs.onScreen.cs
  have hstep := csListStep P slotId s L
  generalize s.reportCsCallsData P slotId L = result at hstep hreported
  cases hstep with
  | idle => cases hreported
  | asked => cases hreported
  | hungUp t _ hc =>
    have hloud : t.isIgnoredIncomingCall = false := by
      by_contra hkept
      rw [Bool.not_eq_false] at hkept
      rw [reportsBy, CSControl.reportHangUpInfo, reports_reportHangUpInfo, hkept] at hreported
      cases hreported
    have hshown := hD.shown_reportHangUpInfo (csOrFresh_of_some hc ▸ htold) (hs.tables.cs t hc)
      hloud
    rw [connectionMap_reportHangUpInfo] at hshown
    exact hshown
  | processed t _ hc =>
    rw [hregistered] at hreported ⊢
    exact hD.shown_reportCallsData (csOrFresh_of_csControlFor hc ▸ htold)
      (holds_csControlFor hs.tables L t hc) hL hnodup hreported

theorem shown_reportImsCallsData (hs : s.Watched P slotId h) (hregistered : s.registered = true)
    {L : ImsCurrentCallList} (hL : ∀ call ∈ L.calls, call.Ongoing P)
    (hnodup : (L.calls.map ImsCurrentCall.index).Nodup)
    (hreported : reportsBy .ims (s.reportImsCallsData P slotId L).2 = true) :
    (h.ims.hear P slotId .ims true (s.reportImsCallsData P slotId L).2).shown =
      shownBy (s.reportImsCallsData P slotId L).1.imsOrFresh.connectionMap := by
  have hD := IMSControl.describesOpen P slotId
  have htold := hregistered ▸ hs.onScreen.ims
  have hstep := imsListStep P slotId s L
  generalize s.reportImsCallsData P slotId L = result at hstep hreported
  cases hstep with
  | idle => cases hreported
  | asked => cases hreported
  | hungUp t _ hc =>
    have hloud : (t.isIgnoredIncomingCall || t.isSilentCsRedial) = false := by
      by_contra hkept
      rw [Bool.not_eq_false] at hkept
      simp only [reportsBy, IMSControl.reportHangUpInfo] at hreported
      rw [reports_reportHangUpInfo, if_pos hkept] at hreported
      cases hreported
    rw [Bool.or_eq_false_iff] at hloud
    have hshown := hD.shown_reportHangUpInfo (imsOrFresh_of_some hc ▸ htold) (hs.tables.ims t hc)
      hloud.1
    rw [connectionMap_reportHangUpInfo, ← hloud.2] at hshown
    exact hshown
  | processed t _ hc =>
    rw [IMSControl.reportImsCallsData_eq, hregistered] at hreported ⊢
    exact hD.shown_reportCallsData (imsOrFresh_of_imsControlFor hc ▸ htold)
      (holds_imsControlFor hs.tables L t hc) hL hnodup hreported

end Slot

/-- Wherever a run has taken a slot with a registered call manager, the next list that
is reported makes the records shown those of the table. -/
theorem resyncs_of_run {P : Platform} {slotId : Int} (hP : P.Untyped) {s : Slot} {h : Screens}
    (hrun : Run (slotMachine P slotId) (screens P slotId) (TellsAll slotId) s h)
    (hregistered : s.registered = true) : Resyncs P slotId s h where
  cs := fun _ hL hnodup hreported =>
    Slot.shown_reportCsCallsData (watched_of_run hP hrun) hregistered hL hnodup hreported
  ims := fun _ hL hnodup hreported =>
    Slot.shown_reportImsCallsData (watched_of_run hP hrun) hregistered hL hnodup hreported

/-- A call manager that registers twice during a call is late, and the end of another
call brings its screen up to date. -/
theorem resyncs_after_two_calls :
    Resyncs .plain 0
      (exec (slotMachine .plain 0) (screens .plain 0) Slot.init (screens .plain 0).init
        [.registerCallBack true, .csCallsData (.of [.plain 1 .incoming]),
          .csCallsData (.of [.plain 1 .active, .plain 2 .waiting]), .registerCallBack true]).1
      (exec (slotMachine .plain 0) (screens .plain 0) Slot.init (screens .plain 0).init
        [.registerCallBack true, .csCallsData (.of [.plain 1 .incoming]),
          .csCallsData (.of [.plain 1 .active, .plain 2 .waiting]), .registerCallBack true]).2 :=
  resyncs_of_run (by decide) (Run.of_admits _ (by decide)) (by decide)

end CellularCall
