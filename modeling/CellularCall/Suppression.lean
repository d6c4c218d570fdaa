import CellularCall.SlotInvariant

/-!
# Suppressed reports

An incoming call that finds no callback is not reported, and
`isIgnoredIncomingCall` keeps the reports of it back until it is over.
`isSilentCsRedial` keeps back the end of an IMS call that goes on in CS.  Both
are flags of the control, not of the call they were set for.

`arrivals` watches which of the tracked calls have been reported.  The flags are
harmless as long as they end with their call (`Quiet`), and
`unsuppressed_of_run` shows when they do.
-/

namespace CellularCall

open Lib CallTable

/-- `sender` reports calls in these outputs. -/
def reportsBy (sender : CallType) (outputs : List Output) : Bool :=
  (Output.reports outputs).any fun r => decide (r.1 = sender)

/-- The tracked calls whose arrival has been reported, after a step that left
`keys`: a report covers all that are tracked. -/
def arrivedAfter (sender : CallType) (keys : List Int) (outputs : List Output)
    (arrived : List Int) : List Int :=
  if reportsBy sender outputs then keys else arrived.filter fun i => decide (i ∈ keys)

theorem arrivedAfter_subset {sender : CallType} {keys : List Int} {outputs : List Output}
    {arrived : List Int} : ∀ i ∈ arrivedAfter sender keys outputs arrived, i ∈ keys := by
  intro i hi
  unfold arrivedAfter at hi
  split at hi
  · exact hi
  · simpa using (List.mem_filter.mp hi).2

theorem arrivedAfter_nil {sender : CallType} {keys : List Int} {outputs : List Output}
    (h : reportsBy sender outputs = false) : arrivedAfter sender keys outputs [] = [] := by
  simp [arrivedAfter, h]

/-! ## One table -/

section
variable {κ δ : Type} (D : CallDomain κ δ) (P : Platform) (slotId : Int)

/-- The ignored call is still there, and no call that is tracked with it has
been reported. -/
structure Quiet (t : CallTable δ) (arrived : List Int) : Prop where
  known : ∀ i ∈ arrived, i ∈ t.connectionMap.keys
  empty : t.connectionMap.isEmpty = true → t.isIgnoredIncomingCall = false
  ignored : t.isIgnoredIncomingCall = true → arrived = []

variable {D P slotId} {t : CallTable δ} {arrived : List Int}

theorem Quiet.fresh : Quiet (CallTable.fresh : CallTable δ) [] :=
  ⟨by simp, fun _ => rfl, fun _ => rfl⟩

/-- A step that leaves the calls and the flag of a table alone, and sends no
report for it, leaves it quiet. -/
theorem Quiet.of_same (ht : Quiet t arrived) {t' : CallTable δ}
    (hkeys : t'.connectionMap.keys = t.connectionMap.keys)
    (hflag : t'.isIgnoredIncomingCall = t.isIgnoredIncomingCall) {sender : CallType}
    {outputs : List Output} (hsilent : reportsBy sender outputs = false) :
    Quiet t' (arrivedAfter sender t'.connectionMap.keys outputs arrived) where
  known := arrivedAfter_subset
  empty := by
    intro hempty
    rw [hflag]
    refine ht.empty ?_
    rw [OrdMap.isEmpty_iff] at hempty ⊢
    rw [← hkeys]
    exact hempty
  ignored := by
    intro h
    rw [ht.ignored (hflag.symm.trans h)]
    exact arrivedAfter_nil hsilent

/-- A table is quiet if its flag is off. -/
theorem Quiet.of_flag (hflag : t.isIgnoredIncomingCall = false)
    {sender : CallType} {outputs : List Output} :
    Quiet t (arrivedAfter sender t.connectionMap.keys outputs arrived) where
  known := arrivedAfter_subset
  empty := fun _ => hflag
  ignored := by
    intro h
    rw [hflag] at h
    cases h

theorem reportsBy_of_reports {sender : CallType} {outputs : List Output}
    (h : Output.reports outputs = []) : reportsBy sender outputs = false := by
  rw [reportsBy, h]
  rfl

/-- Processing a list that announces its size keeps a table quiet. -/
theorem Quiet.reportCallsData (ht : Quiet t arrived) (hsettled : Settled t.connectionMap)
    {L : CallList κ} (hL : L.Announced) (registered silent ask : Bool) :
    Quiet (reportCallsData D P registered slotId silent t L ask).1
      (arrivedAfter D.callType
        (reportCallsData D P registered slotId silent t L ask).1.connectionMap.keys
        (reportCallsData D P registered slotId silent t L ask).2 arrived) := by
  have hleft : 0 < L.callSize →
      (CallTable.reportCallsData D P registered slotId silent t L ask).1.connectionMap.isEmpty =
        false := by
    intro hsize
    refine isEmpty_reportCallsData D P slotId registered hsettled silent ask hsize ?_
    intro hnil
    rw [hL, hnil] at hsize
    simp at hsize
  have hstep := listStep D P slotId registered silent t L ask
  generalize CallTable.reportCallsData D P registered slotId silent t L ask = result at hstep hleft
  cases hstep with
  | asked => exact ht.of_same rfl rfl rfl
  | hungUp =>
    exact Quiet.of_flag (isIgnored_reportHangUpInfo D P slotId silent t)
  | incoming hsize hempty =>
    refine ⟨arrivedAfter_subset, ?_, ?_⟩
    · intro hempty'
      rw [hleft hsize] at hempty'
      cases hempty'
    · intro hflag
      have harrived : arrived = [] := by
        refine List.eq_nil_iff_forall_not_mem.mpr fun i hi => ?_
        have hmem := ht.known i hi
        rw [OrdMap.isEmpty_iff.mp hempty] at hmem
        cases hmem
      have hignores : ignoresIncoming D P registered slotId L = true := by
        by_contra hnot
        unfold reportIncomingInfo at hflag
        simp only [hnot, Bool.false_eq_true, if_false, ht.empty hempty] at hflag
      rw [harrived]
      refine arrivedAfter_nil (reportsBy_of_reports ?_)
      rw [reports_reportIncomingInfo, if_pos hignores]
  | updated _ hsize hempty =>
    refine ⟨arrivedAfter_subset, ?_, ?_⟩
    · intro hempty'
      rw [hleft hsize] at hempty'
      cases hempty'
    · intro hflag
      have hbefore : t.isIgnoredIncomingCall = true := by
        by_contra hnot
        have hsame : (updateInfo D P slotId t L).1.isIgnoredIncomingCall =
          t.isIgnoredIncomingCall := rfl
        unfold reportUpdateInfo at hflag
        simp only [hsame, hnot, if_false] at hflag
      rw [ht.ignored hbefore]
      refine arrivedAfter_nil (reportsBy_of_reports ?_)
      rw [reports_reportUpdateInfo, if_pos hbefore]

/-- The report has an entry for a call of the list with index `i`. -/
def ReportsCall (D : CallDomain κ δ) (P : Platform) (slotId : Int) (L : CallList κ) (i : Int)
    (info : CallsReportInfo) : Prop :=
  ∃ call ∈ L.calls, D.index call = i ∧
    ∃ r ∈ info.callVec, r = D.encapsulationCallReportInfo P slotId call ∨
      r = listedReport D P slotId L.calls.length call

/-- While an incoming call is ignored, the list brings no new one. -/
def NoNewcomer (D : CallDomain κ δ) (t : CallTable δ) (L : CallList κ) : Prop :=
  t.isIgnoredIncomingCall = true → t.connectionMap.isEmpty = false →
    ∀ call ∈ L.calls, D.index call ∈ t.connectionMap.keys

instance (t : CallTable δ) (L : CallList κ) : Decidable (NoNewcomer D t L) :=
  inferInstanceAs (Decidable (_ → _ → ∀ call ∈ L.calls, D.index call ∈ t.connectionMap.keys))

/-- Setting reasons makes no call a new one. -/
theorem NoNewcomer.updateDisconnectedReason (R : ReasonDomain κ δ) {L : CallList κ}
    (ht : NoNewcomer R.toCallDomain t L) (reason : RilDisconnectedReason) (message : Str) :
    NoNewcomer R.toCallDomain { t with
      connectionMap := CallTable.updateDisconnectedReason R t.connectionMap L reason message } L := by
  intro hflag hempty call hcall
  rw [keys_updateDisconnectedReason]
  exact ht hflag ((OrdMap.isEmpty_mapValues _ _).symm.trans hempty) call hcall

/-- With a callback, a call that a list adds is in the report of the list. -/
theorem reportsCall_of_newcomer (hsettled : Settled t.connectionMap) {L : CallList κ}
    (silent ask : Bool) (hnew : ask = false → NoNewcomer D t L) {i : Int}
    (hi : i ∈ (CallTable.reportCallsData D P true slotId silent t L ask).1.connectionMap.keys)
    (hi' : i ∉ t.connectionMap.keys) :
    ∃ info, (D.callType, info) ∈
        Output.reports (CallTable.reportCallsData D P true slotId silent t L ask).2 ∧
      ReportsCall D P slotId L i info := by
  have hstep := listStep D P slotId true silent t L ask
  generalize CallTable.reportCallsData D P true slotId silent t L ask = result at hstep hi
  cases hstep with
  | asked => exact absurd hi hi'
  | hungUp =>
    rw [connectionMap_reportHangUpInfo] at hi
    cases hi
  | incoming _ hempty =>
    obtain ⟨call, hcall, hindex⟩ :=
      List.mem_map.mp ((mem_keys_reportIncomingInfo D P slotId true hempty L i).mp hi)
    refine ⟨⟨slotId, L.calls.map (D.encapsulationCallReportInfo P slotId)⟩, ?_, call, hcall, hindex,
      D.encapsulationCallReportInfo P slotId call, ?_, Or.inl rfl⟩
    · rw [reports_reportIncomingInfo]
      simp [ignoresIncoming]
    · exact List.mem_map_of_mem hcall
  | updated hask _ hempty =>
    rw [connectionMap_reportUpdateInfo] at hi
    obtain ⟨call, hcall, hindex⟩ :=
      List.mem_map.mp ((mem_keys_updateInfo D P slotId hsettled L i).mp hi)
    have hflag : ¬t.isIgnoredIncomingCall = true := by
      intro hflag
      exact hi' (hindex ▸ hnew hask hflag hempty call hcall)
    refine ⟨(updateInfo D P slotId t L).2.1, ?_, call, hcall, hindex,
      listedReport D P slotId L.calls.length call, ?_, Or.inr rfl⟩
    · rw [reports_reportUpdateInfo, if_neg hflag]
      exact List.mem_singleton.mpr rfl
    · rw [callVec_updateInfo D P slotId hsettled L]
      exact List.mem_append_left _ (List.mem_map_of_mem hcall)

end

/-! ## The slot -/

/-- The tracked calls whose arrival has been reported, by domain. -/
structure Arrivals where
  cs : List Int
  ims : List Int
deriving DecidableEq, Repr

/-- What happens to the controls of a slot while no request is made. -/
def Event.isUnasked : Event → Bool
  | .csCallsData _ => true
  | .imsCallsData _ => true
  | .callFailReason _ _ _ => true
  | .rilAdapterHostDied => true
  | .clearAllCalls _ _ => true
  | .registerCallBack _ => true
  | _ => false

def arrivals : Monitor Slot Event Output Arrivals where
  init := ⟨[], []⟩
  allowed _ _ e := e.isUnasked = true
  update h _ _ s' outputs :=
    ⟨arrivedAfter .cs s'.csKeys outputs h.cs, arrivedAfter .ims s'.imsKeys outputs h.ims⟩

instance (h : Arrivals) (s : Slot) (e : Event) : Decidable (arrivals.allowed h s e) :=
  inferInstanceAs (Decidable (e.isUnasked = true))

/-- The CS list an event has processed. -/
def Slot.csListOf (s : Slot) : Event → Option CallInfoList
  | .csCallsData L => some L
  | .callFailReason _ _ _ => some s.currentCsCallInfoList
  | _ => none

/-- The IMS list an event has processed. -/
def Slot.imsListOf (s : Slot) : Event → Option ImsCurrentCallList
  | .imsCallsData L => some L
  | .callFailReason _ _ _ => some s.currentCallList
  | _ => none

/-- The flags do not outlive their call: they are off in an empty table; while
an incoming call is ignored, no tracked call has been reported; and with a
callback, every call that an event allowed by `C` adds is reported with it. -/
structure Unsuppressed (P : Platform) (slotId : Int) (C : Event → Prop) (s : Slot)
    (h : Arrivals) : Prop where
  csEmpty : ∀ t, s.csControl = some t → t.connectionMap.isEmpty = true →
    t.isIgnoredIncomingCall = false
  imsEmpty : ∀ t, s.imsControl = some t → t.connectionMap.isEmpty = true →
    t.isIgnoredIncomingCall = false ∧ t.isSilentCsRedial = false
  csIgnored : ∀ t, s.csControl = some t → t.isIgnoredIncomingCall = true → h.cs = []
  imsIgnored : ∀ t, s.imsControl = some t → t.isIgnoredIncomingCall = true → h.ims = []
  csNew : ∀ e, C e → s.registered = true →
    ∀ i ∈ ((slotMachine P slotId).step s e).1.csKeys, i ∉ s.csKeys →
    ∃ L ∈ s.csListOf e, ∃ info,
      (.cs, info) ∈ Output.reports ((slotMachine P slotId).step s e).2 ∧
      ReportsCall CSControl.domain.toCallDomain P slotId L i info
  imsNew : ∀ e, C e → s.registered = true →
    ∀ i ∈ ((slotMachine P slotId).step s e).1.imsKeys, i ∉ s.imsKeys →
    ∃ L ∈ s.imsListOf e, ∃ info,
      (.ims, info) ∈ Output.reports ((slotMachine P slotId).step s e).2 ∧
      ReportsCall IMSControl.domain.toCallDomain P slotId L i info

/-- When the flags end with their call: lists announce their size; a list
processed while an incoming call is ignored brings no new one, once there is a
callback; a silent redial starts while the IMS call is still tracked; and
`ClearAllCalls` comes with all flags off. -/
def FlagsEnd : StepCond Slot Event Arrivals := fun _ s e =>
  match e with
  | .csCallsData L =>
    L.Announced ∧
    (s.registered = true → s.csOrFresh.hasEndCallWithoutReason L = false →
      NoNewcomer CSControl.domain.toCallDomain s.csOrFresh L) ∧
    (({ s with currentCsCallInfoList := L } : Slot).isSilentCsRedial = true →
      ∀ t ∈ s.imsControl, t.connectionMap.isEmpty = false)
  | .imsCallsData L =>
    L.Announced ∧
    (s.registered = true → s.imsOrFresh.hasEndCallWithoutReason L = false →
      NoNewcomer IMSControl.domain.toCallDomain s.imsOrFresh.toCallTable L)
  | .callFailReason _ _ _ => s.registered = true →
    (s.imsControl.isSome = true →
      NoNewcomer IMSControl.domain.toCallDomain s.imsOrFresh.toCallTable s.currentCallList) ∧
    (s.imsControl = none →
      NoNewcomer CSControl.domain.toCallDomain s.csOrFresh s.currentCsCallInfoList)
  | .clearAllCalls _ infos => infos ≠ [] →
    s.csOrFresh.isIgnoredIncomingCall = false ∧ s.imsOrFresh.isIgnoredIncomingCall = false ∧
      s.imsOrFresh.isSilentCsRedial = false
  | _ => True

instance (h : Arrivals) (s : Slot) (e : Event) : Decidable (FlagsEnd h s e) :=
  match e with
  | .csCallsData L => inferInstanceAs (Decidable (L.Announced ∧ (_ → _ → NoNewcomer _ _ L) ∧
      (_ → ∀ t ∈ s.imsControl, t.connectionMap.isEmpty = false)))
  | .imsCallsData L => inferInstanceAs (Decidable (L.Announced ∧ (_ → _ → NoNewcomer _ _ L)))
  | .callFailReason .. => inferInstanceAs (Decidable (_ → (_ → NoNewcomer _ _ s.currentCallList) ∧
      (_ → NoNewcomer _ _ s.currentCsCallInfoList)))
  | .clearAllCalls _ infos => inferInstanceAs (Decidable (infos ≠ [] → _ ∧ _ ∧ _))
  | .dial .. | .hangUp .. | .answer .. | .reject .. | .switchCall .. | .swapCallResponse ..
  | .radioStateChange .. | .radioWaitTimeout .. | .rilAdapterHostDied | .registerCallBack ..
  | .srvccState .. | .rsrvccState => isTrue trivial

/-- What holds between two events. -/
structure SuppressionInvariant (s : Slot) (h : Arrivals) : Prop where
  tables : s.Holds settledSpec
  csList : s.currentCsCallInfoList.Announced
  imsList : s.currentCallList.Announced
  cs : Quiet s.csOrFresh h.cs
  ims : Quiet s.imsOrFresh.toCallTable h.ims
  silent : s.imsOrFresh.connectionMap.isEmpty = true → s.imsOrFresh.isSilentCsRedial = false

namespace SuppressionInvariant

variable {P : Platform} {slotId : Int} {s : Slot} {h : Arrivals}

/-! ### The controls -/

theorem reportsBy_other {sender : CallType} {outputs : List Output} {callType : CallType}
    (hsender : ∀ r ∈ Output.reports outputs, r.1 = callType) (hne : callType ≠ sender) :
    reportsBy sender outputs = false := by
  rw [reportsBy, List.any_eq_false]
  intro r hr
  simp [hsender r hr, hne]

/-- The CS control sends no IMS report, and the other way round. -/
theorem reportsBy_cs {t : CSControl} {registered isNeedQuery : Bool} {L : CallInfoList} :
    reportsBy .ims (t.reportCsCallsData P registered slotId L isNeedQuery).2 = false :=
  reportsBy_other (sender_reportCallsData _ _ _ _ _ _ _ _) (by decide)

theorem reportsBy_ims {t : IMSControl} {registered isNeedQuery : Bool} {L : ImsCurrentCallList} :
    reportsBy .cs (t.reportImsCallsData P registered slotId L isNeedQuery).2 = false := by
  rw [IMSControl.reportImsCallsData_eq]
  exact reportsBy_other (sender_reportCallsData _ _ _ _ _ _ _ _) (by decide)

theorem reportsBy_hangUp {δ κ : Type} {D : CallDomain κ δ} {silent : Bool} {t : CallTable δ}
    {sender : CallType} (hne : D.callType ≠ sender) :
    reportsBy sender (CallTable.reportHangUpInfo D P slotId silent t).2 = false := by
  refine reportsBy_other (fun r hr => ?_) hne
  rw [reports_reportHangUpInfo] at hr
  split at hr
  · cases hr
  · rw [List.mem_singleton.mp hr]

theorem quiet_cs {t : CSControl} {arrived : List Int} (ht : Quiet t arrived)
    (hsettled : Settled t.connectionMap) {L : CallInfoList} (hL : L.Announced)
    (registered isNeedQuery : Bool) :
    Quiet (t.reportCsCallsData P registered slotId L isNeedQuery).1
      (arrivedAfter .cs (t.reportCsCallsData P registered slotId L isNeedQuery).1.connectionMap.keys
        (t.reportCsCallsData P registered slotId L isNeedQuery).2 arrived) :=
  Quiet.reportCallsData ht hsettled hL _ _ _

theorem quiet_ims {t : IMSControl} {arrived : List Int} (ht : Quiet t.toCallTable arrived)
    (hsettled : Settled t.connectionMap) {L : ImsCurrentCallList} (hL : L.Announced)
    (registered isNeedQuery : Bool) :
    Quiet (t.reportImsCallsData P registered slotId L isNeedQuery).1.toCallTable
      (arrivedAfter .ims
        (t.reportImsCallsData P registered slotId L isNeedQuery).1.connectionMap.keys
        (t.reportImsCallsData P registered slotId L isNeedQuery).2 arrived) := by
  rw [IMSControl.reportImsCallsData_eq]
  exact Quiet.reportCallsData ht hsettled hL _ _ _

/-- A silent redial is over when the last call is. -/
theorem silent_ims {t : IMSControl} (hsettled : Settled t.connectionMap)
    (ht : t.connectionMap.isEmpty = true → t.isSilentCsRedial = false) {L : ImsCurrentCallList}
    (hL : L.Announced) (registered isNeedQuery : Bool) :
    (t.reportImsCallsData P registered slotId L isNeedQuery).1.connectionMap.isEmpty = true →
      (t.reportImsCallsData P registered slotId L isNeedQuery).1.isSilentCsRedial = false := by
  intro hempty
  rw [IMSControl.reportImsCallsData_eq] at hempty ⊢
  by_cases hsize : L.callSize ≤ 0
  · cases isNeedQuery with
    | false => simp [hsize]
    | true =>
      have hasked : (reportCallsData IMSControl.domain.toCallDomain P registered slotId
          t.isSilentCsRedial t.toCallTable L true).1 = t.toCallTable := by
        simp [reportCallsData, hsize]
      dsimp only at hempty ⊢
      rw [hasked] at hempty
      rw [ht hempty]
      rfl
  · have hleft := isEmpty_reportCallsData IMSControl.domain.toCallDomain P slotId registered
      hsettled t.isSilentCsRedial isNeedQuery (L := L) (by omega) (by
        intro hnil
        rw [hL, hnil] at hsize
        simp at hsize)
    dsimp only at hempty
    rw [hleft] at hempty
    cases hempty

/-! ### The events -/

theorem settled_csOrFresh (hinv : SuppressionInvariant s h) :
    Settled s.csOrFresh.connectionMap := hinv.tables.getD_cs.toSettled

theorem settled_imsOrFresh (hinv : SuppressionInvariant s h) :
    Settled s.imsOrFresh.connectionMap := hinv.tables.getD_ims.toSettled

/-- The invariant after a step, from its parts. -/
theorem next_of {s' : Slot} {outputs : List Output} {e : Event} (tables : s'.Holds settledSpec)
    (csList : s'.currentCsCallInfoList.Announced) (imsList : s'.currentCallList.Announced)
    (cs : Quiet s'.csOrFresh
      (arrivedAfter .cs s'.csOrFresh.connectionMap.keys outputs h.cs))
    (ims : Quiet s'.imsOrFresh.toCallTable
      (arrivedAfter .ims s'.imsOrFresh.connectionMap.keys outputs h.ims))
    (silent : s'.imsOrFresh.connectionMap.isEmpty = true →
      s'.imsOrFresh.isSilentCsRedial = false) :
    SuppressionInvariant s' (arrivals.update h s e s' outputs) :=
  ⟨tables, csList, imsList, cs, ims, silent⟩

theorem step_csCallsData (hinv : SuppressionInvariant s h) {L : CallInfoList}
    (hcond : FlagsEnd h s (.csCallsData L)) :
    SuppressionInvariant ((slotMachine P slotId).step s (.csCallsData L)).1
      (arrivals.next (slotMachine P slotId) h s (.csCallsData L)) := by
  have htables := Slot.holds_step (settledSpec_sound P slotId) hinv.tables
    (settledSpec_admits (.csCallsData L))
  obtain ⟨hL, -, hsilent⟩ := hcond
  have hstep := Slot.csListStep P slotId s L
  simp only [slotMachine, Monitor.next] at htables ⊢
  generalize s.reportCsCallsData P slotId L = result at hstep htables
  cases hstep with
  | idle =>
    exact next_of htables hL hinv.imsList (hinv.cs.of_same rfl rfl rfl)
      (hinv.ims.of_same rfl rfl rfl) hinv.silent
  | asked =>
    exact next_of htables hL hinv.imsList (hinv.cs.of_same rfl rfl rfl)
      (hinv.ims.of_same rfl rfl rfl) hinv.silent
  | hungUp t =>
    exact next_of htables hL hinv.imsList (Quiet.of_flag rfl)
      (hinv.ims.of_same rfl rfl (reportsBy_hangUp (by decide))) hinv.silent
  | processed t _ ht =>
    have ht' := Slot.csOrFresh_of_csControlFor ht
    have hcs := hinv.cs
    have hsettled := hinv.settled_csOrFresh
    rw [ht'] at hcs hsettled
    have hims := Slot.imsOrFresh_markSilent (L := L) (s := s)
      { s with
        currentCsCallInfoList := L
        csControl := some (t.reportCsCallsData P s.registered slotId L true).1
        imsControl := s.markSilent L } rfl
    refine next_of htables hL hinv.imsList (quiet_cs hcs hsettled hL _ _)
      (hinv.ims.of_same (congrArg (fun t => t.connectionMap.keys) hims)
        (congrArg (fun t => t.isIgnoredIncomingCall) hims) reportsBy_cs) ?_
    intro hempty
    have hempty' : s.imsOrFresh.connectionMap.isEmpty = true := by
      rw [← hims]
      exact hempty
    by_cases hredial : ({ s with currentCsCallInfoList := L } : Slot).isSilentCsRedial = true
    · cases hcontrol : s.imsControl with
      | none => simp [Slot.imsOrFresh, Slot.markSilent, hcontrol, IMSControl.fresh]
      | some t' =>
        have hleft := hsilent hredial t' hcontrol
        rw [Slot.imsOrFresh_of_some hcontrol, hleft] at hempty'
        cases hempty'
    · have hmark : s.markSilent L = s.imsControl := if_neg hredial
      simp only [Slot.imsOrFresh, hmark]
      exact hinv.silent hempty'

theorem step_imsCallsData (hinv : SuppressionInvariant s h) {L : ImsCurrentCallList}
    (hcond : FlagsEnd h s (.imsCallsData L)) :
    SuppressionInvariant ((slotMachine P slotId).step s (.imsCallsData L)).1
      (arrivals.next (slotMachine P slotId) h s (.imsCallsData L)) := by
  have htables := Slot.holds_step (settledSpec_sound P slotId) hinv.tables
    (settledSpec_admits (.imsCallsData L))
  obtain ⟨hL, -⟩ := hcond
  have hstep := Slot.imsListStep P slotId s L
  simp only [slotMachine, Monitor.next] at htables ⊢
  generalize s.reportImsCallsData P slotId L = result at hstep htables
  cases hstep with
  | idle =>
    exact next_of htables hinv.csList hL (hinv.cs.of_same rfl rfl rfl)
      (hinv.ims.of_same rfl rfl rfl) hinv.silent
  | asked =>
    exact next_of htables hinv.csList hL (hinv.cs.of_same rfl rfl rfl)
      (hinv.ims.of_same rfl rfl rfl) hinv.silent
  | hungUp t =>
    exact next_of htables hinv.csList hL
      (hinv.cs.of_same rfl rfl (reportsBy_hangUp (by decide))) (Quiet.of_flag rfl) fun _ => rfl
  | processed t _ ht =>
    have ht' := Slot.imsOrFresh_of_imsControlFor ht
    have hims := hinv.ims
    have hsettled := hinv.settled_imsOrFresh
    have hsilent := hinv.silent
    rw [ht'] at hims hsettled hsilent
    exact next_of htables hinv.csList hL (hinv.cs.of_same rfl rfl reportsBy_ims)
      (quiet_ims hims hsettled hL _ _) (silent_ims hsettled hsilent hL _ _)

/-- A table with the same calls and the same flag is as quiet. -/
theorem quiet_congr {δ : Type} {t t' : CallTable δ} {arrived : List Int} (ht : Quiet t arrived)
    (hkeys : t'.connectionMap.keys = t.connectionMap.keys)
    (hflag : t'.isIgnoredIncomingCall = t.isIgnoredIncomingCall) : Quiet t' arrived where
  known := by
    rw [hkeys]
    exact ht.known
  empty := by
    rw [OrdMap.isEmpty_iff, hkeys, hflag, ← OrdMap.isEmpty_iff]
    exact ht.empty
  ignored := by
    rw [hflag]
    exact ht.ignored

theorem step_callFailReason (hinv : SuppressionInvariant s h) (asker : CallType)
    (reason : RilDisconnectedReason) (message : Str) :
    SuppressionInvariant ((slotMachine P slotId).step s (.callFailReason asker reason message)).1
      (arrivals.next (slotMachine P slotId) h s (.callFailReason asker reason message)) := by
  have htables := Slot.holds_step (settledSpec_sound P slotId) hinv.tables
    (settledSpec_admits (.callFailReason asker reason message))
  simp only [slotMachine, Monitor.next, Slot.handleCallDisconnectReason] at htables ⊢
  split at htables
  · rename_i t ht
    have hsettled := (holds_updateDisconnectedReason IMSControl.domain Steady.trivial
      (hinv.tables.ims t ht) s.currentCallList reason message).toSettled
    have hims := hinv.ims
    have hsilent := hinv.silent
    rw [Slot.imsOrFresh_of_some ht] at hims hsilent
    have hims' : Quiet (t.updateDisconnectedReason s.currentCallList reason message).toCallTable
        h.ims := quiet_congr hims (keys_updateDisconnectedReason _ _ _ _ _) rfl
    have hsilent' :
        (t.updateDisconnectedReason s.currentCallList reason message).connectionMap.isEmpty = true →
          (t.updateDisconnectedReason s.currentCallList reason message).isSilentCsRedial =
            false := by
      intro hempty
      refine hsilent ?_
      rw [IMSControl.updateDisconnectedReason, CallTable.updateDisconnectedReason] at hempty
      simpa using hempty
    refine next_of htables (by simpa using hinv.csList) (by simpa using hinv.imsList) ?_ ?_ ?_
    · rw [Slot.csOrFresh_dropEmpty]
      split
      · exact Quiet.of_flag rfl
      · exact hinv.cs.of_same rfl rfl reportsBy_ims
    · rw [Slot.imsOrFresh_dropEmpty]
      split
      · exact Quiet.of_flag rfl
      · exact quiet_ims hims' hsettled hinv.imsList _ _
    · rw [Slot.imsOrFresh_dropEmpty]
      split
      · exact fun _ => rfl
      · exact silent_ims hsettled hsilent' hinv.imsList _ _
  · rename_i t _ ht
    have hsettled := (holds_updateDisconnectedReason CSControl.domain Steady.trivial
      (hinv.tables.cs t ht) s.currentCsCallInfoList reason []).toSettled
    have hcs := hinv.cs
    rw [Slot.csOrFresh_of_some ht] at hcs
    have hcs' : Quiet (t.updateDisconnectedReason s.currentCsCallInfoList reason) h.cs :=
      quiet_congr hcs (keys_updateDisconnectedReason _ _ _ _ _) rfl
    refine next_of htables (by simpa using hinv.csList) (by simpa using hinv.imsList) ?_ ?_ ?_
    · rw [Slot.csOrFresh_dropEmpty]
      split
      · exact Quiet.of_flag rfl
      · exact quiet_cs hcs' hsettled hinv.csList _ _
    · rw [Slot.imsOrFresh_dropEmpty]
      split
      · exact Quiet.of_flag rfl
      · exact hinv.ims.of_same rfl rfl reportsBy_cs
    · rw [Slot.imsOrFresh_dropEmpty]
      split
      · exact fun _ => rfl
      · exact hinv.silent
  · exact next_of htables hinv.csList hinv.imsList (hinv.cs.of_same rfl rfl rfl)
      (hinv.ims.of_same rfl rfl rfl) hinv.silent

theorem step (hinv : SuppressionInvariant s h) {e : Event} (hallowed : arrivals.allowed h s e)
    (hcond : FlagsEnd h s e) :
    SuppressionInvariant ((slotMachine P slotId).step s e).1
      (arrivals.next (slotMachine P slotId) h s e) := by
  cases e with
  | csCallsData L => exact step_csCallsData hinv hcond
  | imsCallsData L => exact step_imsCallsData hinv hcond
  | callFailReason asker reason message => exact step_callFailReason hinv asker reason message
  | rilAdapterHostDied =>
    exact next_of ⟨Slot.Holds.none, Slot.Holds.none, hinv.tables.csList, hinv.tables.imsList⟩
      hinv.csList hinv.imsList (Quiet.of_flag rfl) (Quiet.of_flag rfl) fun _ => rfl
  | clearAllCalls service infos =>
    have htables := Slot.holds_step (settledSpec_sound P slotId) hinv.tables
      (settledSpec_admits (.clearAllCalls service infos))
    obtain ⟨hcsList, himsList⟩ := Slot.currentLists_clearAllCalls (s := s) P slotId service infos
    by_cases hinfos : infos = []
    · subst hinfos
      exact next_of htables hinv.csList hinv.imsList (hinv.cs.of_same rfl rfl rfl)
        (hinv.ims.of_same rfl rfl rfl) hinv.silent
    · obtain ⟨hcs, hims, hsilent⟩ := hcond hinfos
      refine next_of htables (hcsList ▸ hinv.csList) (himsList ▸ hinv.imsList)
        (Quiet.of_flag ?_) (Quiet.of_flag ?_) fun _ => ?_
      · exact (congrArg CallTable.isIgnoredIncomingCall
          (Slot.csOrFresh_clearAllCalls P slotId service hinfos)).trans hcs
      · exact (congrArg (fun t => t.isIgnoredIncomingCall)
          (Slot.imsOrFresh_clearAllCalls P slotId service hinfos)).trans hims
      · exact (congrArg IMSControl.isSilentCsRedial
          (Slot.imsOrFresh_clearAllCalls P slotId service hinfos)).trans hsilent
  | registerCallBack registered =>
    exact next_of ⟨hinv.tables.cs, hinv.tables.ims, hinv.tables.csList, hinv.tables.imsList⟩
      hinv.csList hinv.imsList (hinv.cs.of_same rfl rfl rfl) (hinv.ims.of_same rfl rfl rfl)
      hinv.silent
  | _ => cases hallowed

/-! ### Newcomers -/

theorem newcomer_cs {t : CSControl} (hsettled : Settled t.connectionMap) {L : CallInfoList}
    (isNeedQuery : Bool)
    (hnew : (isNeedQuery && t.hasEndCallWithoutReason L) = false →
      NoNewcomer CSControl.domain.toCallDomain t L) {i : Int}
    (hi : i ∈ (t.reportCsCallsData P true slotId L isNeedQuery).1.connectionMap.keys)
    (hi' : i ∉ t.connectionMap.keys) :
    ∃ info, (.cs, info) ∈
        Output.reports (t.reportCsCallsData P true slotId L isNeedQuery).2 ∧
      ReportsCall CSControl.domain.toCallDomain P slotId L i info :=
  reportsCall_of_newcomer hsettled _ _ hnew hi hi'

theorem newcomer_ims {t : IMSControl} (hsettled : Settled t.connectionMap)
    {L : ImsCurrentCallList} (isNeedQuery : Bool)
    (hnew : isNeedQuery = false →
      NoNewcomer IMSControl.domain.toCallDomain t.toCallTable L) {i : Int}
    (hi : i ∈ (t.reportImsCallsData P true slotId L isNeedQuery).1.connectionMap.keys)
    (hi' : i ∉ t.connectionMap.keys) :
    ∃ info, (.ims, info) ∈
        Output.reports (t.reportImsCallsData P true slotId L isNeedQuery).2 ∧
      ReportsCall IMSControl.domain.toCallDomain P slotId L i info := by
  rw [IMSControl.reportImsCallsData_eq] at hi ⊢
  exact reportsCall_of_newcomer hsettled _ _ hnew hi hi'

theorem csNew (hinv : SuppressionInvariant s h) {e : Event} (hallowed : arrivals.allowed h s e)
    (hcond : FlagsEnd h s e) (hregistered : s.registered = true) {i : Int}
    (hi : i ∈ ((slotMachine P slotId).step s e).1.csKeys) (hi' : i ∉ s.csKeys) :
    ∃ L ∈ s.csListOf e, ∃ info,
      (.cs, info) ∈ Output.reports ((slotMachine P slotId).step s e).2 ∧
      ReportsCall CSControl.domain.toCallDomain P slotId L i info := by
  cases e with
  | csCallsData L =>
    refine ⟨L, rfl, ?_⟩
    obtain ⟨-, hnew, -⟩ := hcond
    have hstep := Slot.csListStep P slotId s L
    simp only [slotMachine] at hi ⊢
    generalize s.reportCsCallsData P slotId L = result at hstep hi ⊢
    cases hstep with
    | idle => exact absurd hi hi'
    | asked => exact absurd hi hi'
    | hungUp => cases hi
    | processed t _ ht =>
      have ht' := Slot.csOrFresh_of_csControlFor ht
      have hsettled := hinv.settled_csOrFresh
      simp only [Slot.csKeys, ht'] at hi' hsettled hnew
      rw [hregistered] at hi ⊢
      exact newcomer_cs hsettled _ (fun hask => hnew hregistered (by simpa using hask)) hi hi'
  | callFailReason asker reason message =>
    refine ⟨s.currentCsCallInfoList, rfl, ?_⟩
    have hnew := (hcond hregistered).2
    simp only [slotMachine, Slot.handleCallDisconnectReason] at hi ⊢
    cases hims : s.imsControl with
    | some t =>
      simp only [hims, Slot.csKeys, Slot.csOrFresh, Slot.csControl_dropEmpty] at hi
      split at hi
      · cases hi
      · exact absurd hi hi'
    | none =>
      cases hcs : s.csControl with
      | none =>
        simp only [hims, hcs] at hi
        exact absurd hi hi'
      | some t =>
        have hnew' := hnew hims
        rw [Slot.csOrFresh_of_some hcs] at hnew'
        rw [Slot.csKeys_of_some hcs] at hi'
        simp only [hims, hcs, Slot.csKeys, Slot.csOrFresh, Slot.csControl_dropEmpty] at hi ⊢
        split at hi
        · cases hi
        · have hsettled := (holds_updateDisconnectedReason CSControl.domain Steady.trivial
            (hinv.tables.cs t hcs) s.currentCsCallInfoList reason []).toSettled
          rw [hregistered] at hi ⊢
          rw [← keys_updateDisconnectedReason CSControl.domain] at hi'
          exact newcomer_cs hsettled false
            (fun _ => hnew'.updateDisconnectedReason CSControl.domain reason []) hi hi'
  | imsCallsData L =>
    simp only [slotMachine, Slot.csKeys] at hi
    rw [Slot.csOrFresh_reportImsCallsData] at hi
    exact absurd hi hi'
  | rilAdapterHostDied => cases hi
  | clearAllCalls service infos =>
    by_cases hinfos : infos = []
    · subst hinfos
      exact absurd hi hi'
    · simp only [slotMachine, Slot.csKeys,
        Slot.csOrFresh_clearAllCalls P slotId service hinfos] at hi
      cases hi
  | registerCallBack registered => exact absurd hi hi'
  | _ => cases hallowed

theorem imsNew (hinv : SuppressionInvariant s h) {e : Event} (hallowed : arrivals.allowed h s e)
    (hcond : FlagsEnd h s e) (hregistered : s.registered = true) {i : Int}
    (hi : i ∈ ((slotMachine P slotId).step s e).1.imsKeys) (hi' : i ∉ s.imsKeys) :
    ∃ L ∈ s.imsListOf e, ∃ info,
      (.ims, info) ∈ Output.reports ((slotMachine P slotId).step s e).2 ∧
      ReportsCall IMSControl.domain.toCallDomain P slotId L i info := by
  cases e with
  | csCallsData L =>
    simp only [slotMachine, Slot.imsKeys] at hi
    rw [Slot.imsOrFresh_reportCsCallsData] at hi
    exact absurd hi hi'
  | imsCallsData L =>
    refine ⟨L, rfl, ?_⟩
    obtain ⟨-, hnew⟩ := hcond
    have hstep := Slot.imsListStep P slotId s L
    simp only [slotMachine] at hi ⊢
    generalize s.reportImsCallsData P slotId L = result at hstep hi ⊢
    cases hstep with
    | idle => exact absurd hi hi'
    | asked => exact absurd hi hi'
    | hungUp => cases hi
    | processed t _ ht =>
      have ht' := Slot.imsOrFresh_of_imsControlFor ht
      have hsettled := hinv.settled_imsOrFresh
      simp only [Slot.imsKeys, ht'] at hi' hsettled hnew
      rw [hregistered] at hi ⊢
      exact newcomer_ims hsettled _ (hnew hregistered) hi hi'
  | callFailReason asker reason message =>
    refine ⟨s.currentCallList, rfl, ?_⟩
    have hnew := (hcond hregistered).1
    simp only [slotMachine, Slot.handleCallDisconnectReason] at hi ⊢
    cases hims : s.imsControl with
    | some t =>
      have hnew' := hnew (by rw [hims]; rfl)
      rw [Slot.imsOrFresh_of_some hims] at hnew'
      rw [Slot.imsKeys_of_some hims] at hi'
      simp only [hims, Slot.imsKeys, Slot.imsOrFresh, Slot.imsControl_dropEmpty] at hi ⊢
      split at hi
      · cases hi
      · have hsettled := (holds_updateDisconnectedReason IMSControl.domain Steady.trivial
          (hinv.tables.ims t hims) s.currentCallList reason message).toSettled
        rw [hregistered] at hi ⊢
        rw [← keys_updateDisconnectedReason IMSControl.domain] at hi'
        exact newcomer_ims hsettled false
          (fun _ => hnew'.updateDisconnectedReason IMSControl.domain reason message) hi hi'
    | none =>
      cases hcs : s.csControl with
      | none =>
        simp only [hims, hcs] at hi
        exact absurd hi hi'
      | some t =>
        simp only [hims, hcs, Slot.imsKeys, Slot.imsOrFresh, Slot.imsControl_dropEmpty] at hi
        split at hi <;> cases hi
  | rilAdapterHostDied => cases hi
  | clearAllCalls service infos =>
    by_cases hinfos : infos = []
    · subst hinfos
      exact absurd hi hi'
    · simp only [slotMachine, Slot.imsKeys,
        Slot.imsOrFresh_clearAllCalls P slotId service hinfos] at hi
      cases hi
  | registerCallBack registered => exact absurd hi hi'
  | _ => cases hallowed

theorem init : SuppressionInvariant Slot.init arrivals.init where
  tables := .init
  csList := rfl
  imsList := rfl
  cs := Quiet.fresh
  ims := Quiet.fresh
  silent := fun _ => rfl

end SuppressionInvariant

/-- In every run whose steps let the flags end with their call, no suppression
outlives the call it was for. -/
theorem unsuppressed_of_run (P : Platform) (slotId : Int) (s : Slot) (h : Arrivals)
    (hrun : Run (slotMachine P slotId) arrivals FlagsEnd s h) :
    Unsuppressed P slotId (fun e => arrivals.allowed h s e ∧ FlagsEnd h s e) s h := by
  have hinv : SuppressionInvariant s h :=
    Run.invariant SuppressionInvariant.init (fun _ _ _ hinv ha hc => hinv.step ha hc) hrun
  have hcs : ∀ t, s.csControl = some t → Quiet t h.cs := by
    intro t ht
    have hquiet := hinv.cs
    rw [Slot.csOrFresh_of_some ht] at hquiet
    exact hquiet
  have hims : ∀ t, s.imsControl = some t → Quiet t.toCallTable h.ims := by
    intro t ht
    have hquiet := hinv.ims
    rw [Slot.imsOrFresh_of_some ht] at hquiet
    exact hquiet
  refine ⟨fun t ht => (hcs t ht).empty, fun t ht hempty => ⟨(hims t ht).empty hempty, ?_⟩,
    fun t ht => (hcs t ht).ignored, fun t ht => (hims t ht).ignored,
    fun e he hregistered i hi hi' => hinv.csNew he.1 he.2 hregistered hi hi',
    fun e he hregistered i hi hi' => hinv.imsNew he.1 he.2 hregistered hi hi'⟩
  have hsilent := hinv.silent
  rw [Slot.imsOrFresh_of_some ht] at hsilent
  exact hsilent hempty

/-- An incoming call is ignored, and `ClearAllCalls` releases it; the flag stays
on, and the next call will be ignored for it. -/
theorem not_unsuppressed_of_run :
    ¬∀ s h, Run (slotMachine .plain 0) arrivals unconditional s h →
      Unsuppressed .plain 0 (fun e => arrivals.allowed h s e) s h := by
  intro hclaim
  have hfound := hclaim _ _ (Run.of_admits (M := slotMachine .plain 0) (H := arrivals)
    [.csCallsData (.of [.plain 1 .incoming]),
      .clearAllCalls ⟨false, .success, .success, .success, .success, .success⟩ [.plain .cs 1]]
    (by decide))
  exact absurd (hfound.csEmpty _ rfl rfl) (by decide)

/-- An ignored call ends, and the next one is reported with a callback. -/
theorem unsuppressed_after_ignored :
    let M := slotMachine .plain 0
    let es : List Event := [.csCallsData (.of [.plain 1 .incoming]), .csCallsData .none,
      .callFailReason .cs .normal [], .registerCallBack true,
      .csCallsData (.of [.plain 1 .incoming])]
    Unsuppressed .plain 0
      (fun e => arrivals.allowed (exec M arrivals M.init arrivals.init es).2
          (exec M arrivals M.init arrivals.init es).1 e ∧
        FlagsEnd (exec M arrivals M.init arrivals.init es).2
          (exec M arrivals M.init arrivals.init es).1 e)
      (exec M arrivals M.init arrivals.init es).1 (exec M arrivals M.init arrivals.init es).2 :=
  unsuppressed_of_run .plain 0 _ _ (Run.of_admits _ (by decide))

end CellularCall
