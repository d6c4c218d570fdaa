import CellularCall.Slot

/-!
# What every event keeps

An invariant of the call tables has to be shown for sixteen events, most of
which treat the tables alike: they process a list, make a request that leaves
the identity of the calls alone, or drop a control.  `Slot.holds_step` goes
through the events once, for any property of connections that a `CallRule`
allows, in both domains at a time.

The lists a slot keeps are processed again when a disconnect reason arrives, so
they are part of the invariant: what was asked of the calls of a list when it
came still holds when it is replayed.
-/

namespace CellularCall

open Lib CallTable

/-- What the invariant asks of the two domains: `ok` of the listed calls, `J` of
the connections. -/
structure TableSpec where
  okCs : CallInfo → Prop
  okIms : ImsCurrentCall → Prop
  cs : Int → CellularCallConnectionCS → Prop
  ims : Int → CellularCallConnectionIMS → Prop

/-- The specification is met by what lists and requests do. -/
structure TableSpec.Sound (T : TableSpec) (P : Platform) (slotId : Int) : Prop where
  cs : CallRule CSControl.domain.toCallDomain P slotId T.okCs T.cs
  ims : CallRule IMSControl.domain.toCallDomain P slotId T.okIms T.ims

/-- The list an event brings is fine. -/
def TableSpec.Admits (T : TableSpec) : Event → Prop
  | .csCallsData L => ∀ call ∈ L.calls, T.okCs call
  | .imsCallsData L => ∀ call ∈ L.calls, T.okIms call
  | _ => True

/-- Tables that are settled, and nothing more. -/
def settledSpec : TableSpec := ⟨fun _ => True, fun _ => True, fun _ _ => True, fun _ _ => True⟩

theorem settledSpec_sound (P : Platform) (slotId : Int) : settledSpec.Sound P slotId :=
  ⟨CallRule.trivial _ _ _, CallRule.trivial _ _ _⟩

theorem settledSpec_admits (e : Event) : settledSpec.Admits e := by
  cases e <;> simp [TableSpec.Admits, settledSpec]

namespace Slot

/-- Both tables meet the specification, and so do the lists kept. -/
structure Holds (T : TableSpec) (s : Slot) : Prop where
  cs : ∀ c, s.csControl = some c → CallTable.Holds T.cs c.connectionMap
  ims : ∀ c, s.imsControl = some c → CallTable.Holds T.ims c.connectionMap
  csList : ∀ call ∈ s.currentCsCallInfoList.calls, T.okCs call
  imsList : ∀ call ∈ s.currentCallList.calls, T.okIms call

theorem Holds.init {T : TableSpec} : Slot.init.Holds T where
  cs := by simp [Slot.init]
  ims := by simp [Slot.init]
  csList := by simp [Slot.init, CallList.none]
  imsList := by simp [Slot.init, CallList.none]

variable {T : TableSpec} {P : Platform} {slotId : Int} {s : Slot}

theorem Holds.setCs (hs : s.Holds T) {cs : Option CSControl}
    (hcs : ∀ c, cs = some c → CallTable.Holds T.cs c.connectionMap) :
    ({ s with csControl := cs } : Slot).Holds T :=
  ⟨hcs, hs.ims, hs.csList, hs.imsList⟩

theorem Holds.setIms (hs : s.Holds T) {ims : Option IMSControl}
    (hims : ∀ c, ims = some c → CallTable.Holds T.ims c.connectionMap) :
    ({ s with imsControl := ims } : Slot).Holds T :=
  ⟨hs.cs, hims, hs.csList, hs.imsList⟩

theorem Holds.some {δ : Type} {J : Int → Connection δ → Prop} {γ : Type}
    {table : γ → ConnectionMap δ} {c : γ} (h : CallTable.Holds J (table c)) :
    ∀ c', Option.some c = Option.some c' → CallTable.Holds J (table c') := by
  intro c' hc'
  rw [Option.some.injEq] at hc'
  exact hc' ▸ h

theorem Holds.none {δ : Type} {J : Int → Connection δ → Prop} {γ : Type}
    {table : γ → ConnectionMap δ} :
    ∀ c, (Option.none : Option γ) = Option.some c → CallTable.Holds J (table c) := by
  intro c hc
  cases hc

variable (hT : T.Sound P slotId)
include hT

/-! ## The controls -/

theorem holds_csCallsData {t : CSControl} (ht : CallTable.Holds T.cs t.connectionMap)
    {L : CallInfoList} (hL : ∀ call ∈ L.calls, T.okCs call) (registered isNeedQuery : Bool) :
    CallTable.Holds T.cs
      (t.reportCsCallsData P registered slotId L isNeedQuery).1.connectionMap := by
  rw [CSControl.reportCsCallsData_eq]
  exact hT.cs.holds_reportCallsData registered ht hL _

theorem holds_imsCallsData {t : IMSControl} (ht : CallTable.Holds T.ims t.connectionMap)
    {L : ImsCurrentCallList} (hL : ∀ call ∈ L.calls, T.okIms call)
    (registered isNeedQuery : Bool) :
    CallTable.Holds T.ims
      (t.reportImsCallsData P registered slotId L isNeedQuery).1.connectionMap := by
  rw [IMSControl.reportImsCallsData_eq]
  exact hT.ims.holds_reportCallsData registered ht hL _

omit hT in
theorem csControlFor_eq_some {L : CallInfoList} {t : CSControl} (ht : s.csControlFor L = some t) :
    s.csControl = some t ∨ s.csControl = none ∧ t = CallTable.fresh := by
  unfold csControlFor at ht
  split at ht
  · rename_i t' ht'
    exact Or.inl (ht'.trans ht)
  · rename_i hnone
    split at ht
    · exact Or.inr ⟨hnone, (Option.some.inj ht).symm⟩
    · cases ht

omit hT in
theorem imsControlFor_eq_some {L : ImsCurrentCallList} {t : IMSControl}
    (ht : s.imsControlFor L = some t) :
    s.imsControl = some t ∨ s.imsControl = none ∧ t = IMSControl.fresh := by
  unfold imsControlFor at ht
  split at ht
  · rename_i t' ht'
    exact Or.inl (ht'.trans ht)
  · rename_i hnone
    split at ht
    · exact Or.inr ⟨hnone, (Option.some.inj ht).symm⟩
    · cases ht

omit hT in
theorem holds_csControlFor (hs : s.Holds T) (L : CallInfoList) :
    ∀ c, s.csControlFor L = .some c → CallTable.Holds T.cs c.connectionMap := by
  intro c hc
  rcases csControlFor_eq_some hc with hc | ⟨-, rfl⟩
  · exact hs.cs c hc
  · exact .empty

omit hT in
theorem holds_imsControlFor (hs : s.Holds T) (L : ImsCurrentCallList) :
    ∀ c, s.imsControlFor L = .some c → CallTable.Holds T.ims c.connectionMap := by
  intro c hc
  rcases imsControlFor_eq_some hc with hc | ⟨-, rfl⟩
  · exact hs.ims c hc
  · exact .empty

omit hT in
theorem Holds.getD_cs (hs : s.Holds T) :
    CallTable.Holds T.cs (s.csControl.getD CallTable.fresh).connectionMap := by
  cases hc : s.csControl with
  | none => exact .empty
  | some c => exact hs.cs c hc

omit hT in
theorem Holds.getD_ims (hs : s.Holds T) :
    CallTable.Holds T.ims (s.imsControl.getD .fresh).connectionMap := by
  cases hc : s.imsControl with
  | none => exact .empty
  | some c => exact hs.ims c hc

/-! ## Lists and reasons -/

omit hT in
/-- Marking a silent redial changes no table. -/
theorem table_markSilent {L : CallInfoList} {t : IMSControl} (ht : s.markSilent L = some t) :
    ∃ t', s.imsControl = some t' ∧ t.toCallTable = t'.toCallTable ∧ t.emc = t'.emc := by
  unfold markSilent at ht
  split at ht
  · obtain ⟨t', ht', rfl⟩ := Option.map_eq_some_iff.mp ht
    exact ⟨t', ht', rfl, rfl⟩
  · exact ⟨t, ht, rfl, rfl⟩

theorem holds_reportCsCallsData (hs : s.Holds T) {L : CallInfoList}
    (hL : ∀ call ∈ L.calls, T.okCs call) : (s.reportCsCallsData P slotId L).1.Holds T := by
  have hstep := csListStep P slotId s L
  generalize s.reportCsCallsData P slotId L = result at hstep
  cases hstep with
  | idle => exact ⟨hs.cs, hs.ims, hL, hs.imsList⟩
  | asked => exact ⟨hs.cs, hs.ims, hL, hs.imsList⟩
  | hungUp => exact ⟨Holds.none, hs.ims, hL, hs.imsList⟩
  | processed t _ ht =>
    have hlist := holds_csCallsData hT (holds_csControlFor hs L t ht) hL s.registered true
    refine ⟨Holds.some hlist, fun c hc => ?_, hL, hs.imsList⟩
    obtain ⟨c', hc', htable, -⟩ := table_markSilent hc
    rw [htable]
    exact hs.ims c' hc'

theorem holds_reportImsCallsData (hs : s.Holds T) {L : ImsCurrentCallList}
    (hL : ∀ call ∈ L.calls, T.okIms call) : (s.reportImsCallsData P slotId L).1.Holds T := by
  have hstep := imsListStep P slotId s L
  generalize s.reportImsCallsData P slotId L = result at hstep
  cases hstep with
  | idle => exact ⟨hs.cs, hs.ims, hs.csList, hL⟩
  | asked => exact ⟨hs.cs, hs.ims, hs.csList, hL⟩
  | hungUp => exact ⟨hs.cs, Holds.none, hs.csList, hL⟩
  | processed t _ ht =>
    exact ⟨hs.cs, Holds.some (holds_imsCallsData hT (holds_imsControlFor hs L t ht) hL _ _),
      hs.csList, hL⟩

omit hT in
theorem holds_dropEmpty (hs : s.Holds T) :
    (handleCallDisconnectReason.dropEmpty s).Holds T := by
  unfold handleCallDisconnectReason.dropEmpty
  dsimp only
  split <;> split
  · exact (hs.setIms Holds.none).setCs Holds.none
  · exact hs.setIms Holds.none
  · exact hs.setCs Holds.none
  · exact hs

theorem holds_handleCallDisconnectReason (hs : s.Holds T) (reason : RilDisconnectedReason)
    (message : Str) : (s.handleCallDisconnectReason P slotId reason message).1.Holds T := by
  unfold handleCallDisconnectReason
  split
  · rename_i c hc
    refine holds_dropEmpty (hs.setIms (Holds.some ?_))
    exact holds_imsCallsData hT
      (holds_updateDisconnectedReason IMSControl.domain hT.ims.steady (hs.ims c hc) _ reason
        message) hs.imsList s.registered false
  · rename_i c _ hc
    refine holds_dropEmpty (hs.setCs (Holds.some ?_))
    exact holds_csCallsData hT
      (holds_updateDisconnectedReason CSControl.domain hT.cs.steady (hs.cs c hc) _ reason [])
      hs.csList s.registered false
  · exact hs

/-! ## Requests and responses -/

theorem holds_dial (hs : s.Holds T) (callInfo : CellularCallInfo) (isEcc useIms : Bool)
    (csEnv : CsDialEnv) (imsEnv : ImsDialEnv) :
    (s.dial P callInfo isEcc useIms csEnv imsEnv).1.Holds T := by
  unfold dial
  split
  · exact hs
  · unfold dialNormalCall
    split
    · exact hs.setIms (Holds.some (IMSControl.holds_dial hT.ims.steady hs.getD_ims callInfo isEcc))
    · refine hs.setCs (Holds.some ?_)
      rw [CSControl.connectionMap_dial]
      exact hs.getD_cs

omit hT in
theorem holds_request (hs : s.Holds T) (callInfo : CellularCallInfo)
    {onCs : CSControl → RetCode × CSControl × List Output}
    {onIms : IMSControl → RetCode × IMSControl × List Output}
    (hcs : ∀ c, CallTable.Holds T.cs c.connectionMap →
      CallTable.Holds T.cs (onCs c).2.1.connectionMap)
    (hims : ∀ c, CallTable.Holds T.ims c.connectionMap →
      CallTable.Holds T.ims (onIms c).2.1.connectionMap) :
    (s.request callInfo onCs onIms).1.Holds T := by
  unfold request
  split
  · exact hs
  · split
    · split
      · exact hs
      · rename_i c hc
        exact hs.setCs (Holds.some (hcs c (hs.cs c hc)))
    · split
      · exact hs
      · rename_i c hc
        exact hs.setIms (Holds.some (hims c (hs.ims c hc)))
    · exact hs

theorem holds_swapCallResponse (hs : s.Holds T) (service : ImsService) (ok : Bool) :
    (s.swapCallResponse service ok).1.Holds T := by
  unfold swapCallResponse
  split
  · exact hs
  · rename_i c hc
    have hrecover := IMSControl.holds_recoverPendingHold hT.ims.steady (hs.ims c hc)
    dsimp only
    split
    · exact hs.setIms (Holds.some (IMSControl.holds_dialAfterHold hT.ims.steady hrecover))
    · exact hs.setIms (Holds.some hrecover)

omit hT in
theorem connectionMap_imsReportHangUpInfo (t : IMSControl) :
    (t.reportHangUpInfo P slotId).1.connectionMap = ∅ := by
  simp [IMSControl.reportHangUpInfo]

omit hT in
theorem connectionMap_skipWaitForRadioOn (t : IMSControl) :
    t.skipWaitForRadioOn.connectionMap = t.connectionMap := by
  unfold IMSControl.skipWaitForRadioOn
  split <;> rfl

theorem holds_radioStateChangeProcess (hs : s.Holds T) (radioOn : Bool) (env : ImsDialEnv) :
    (s.radioStateChangeProcess P slotId radioOn env).1.Holds T := by
  have hs' : ({ s with isRadioOn := radioOn } : Slot).Holds T :=
    ⟨hs.cs, hs.ims, hs.csList, hs.imsList⟩
  unfold radioStateChangeProcess
  dsimp only
  split
  · exact hs'
  · split
    · exact hs'
    · rename_i c hc
      have hskip : CallTable.Holds T.ims c.skipWaitForRadioOn.connectionMap := by
        rw [connectionMap_skipWaitForRadioOn]
        exact hs.ims c hc
      have hdial : CallTable.Holds T.ims (IMSControl.dial P env radioOn c.skipWaitForRadioOn
          c.skipWaitForRadioOn.pendingEmcDialCallInfo true).2.1.connectionMap :=
        IMSControl.holds_dial hT.ims.steady hskip _ true
      split
      · split
        · refine hs'.setIms (Holds.some ?_)
          rw [IMSControl.setPendingEmcFlag, connectionMap_imsReportHangUpInfo]
          exact .empty
        · exact hs'.setIms (Holds.some hdial)
      · exact hs'.setIms (Holds.some hskip)

omit hT in
theorem holds_radioWaitTimeout (hs : s.Holds T) (timer : Nat) :
    (s.radioWaitTimeout P timer).1.Holds T := by
  unfold radioWaitTimeout
  split
  · exact hs
  · split
    · refine hs.setIms (Holds.some ?_)
      simp only [IMSControl.waitForRadioOnTimeout, IMSControl.setPendingEmcFlag,
        connectionMap_imsReportHangUpInfo]
      exact .empty
    · exact hs

omit hT in
theorem holds_clearAllCalls (hs : s.Holds T) (service : ImsService)
    (infos : List CellularCallInfo) : (s.clearAllCalls P slotId service infos).1.Holds T := by
  unfold clearAllCalls
  split
  · exact hs
  · dsimp only
    refine (hs.setCs (fun c hc => ?_)).setIms fun c hc => ?_
    · split at hc
      · cases hc
      · rw [Option.some.injEq] at hc
        exact hc ▸ .empty
    · split at hc
      · cases hc
      · rw [Option.some.injEq] at hc
        exact hc ▸ .empty

/-! ## The step -/

/-- Every event keeps the tables as specified, if the list it brings is fine. -/
theorem holds_step (hs : s.Holds T) {e : Event} (he : T.Admits e) :
    ((slotMachine P slotId).step s e).1.Holds T := by
  cases e with
  | csCallsData L => exact holds_reportCsCallsData hT hs he
  | imsCallsData L => exact holds_reportImsCallsData hT hs he
  | callFailReason asker reason message =>
    exact holds_handleCallDisconnectReason hT hs reason message
  | dial callInfo isEcc useIms csEnv imsEnv =>
    exact holds_dial hT hs callInfo isEcc useIms csEnv imsEnv
  | hangUp service callInfo type =>
    exact holds_request hs callInfo
      (fun _ hc => CSControl.holds_hangUp hT.cs.steady hc callInfo type)
      fun _ hc => IMSControl.holds_hangUp hT.ims.steady hc callInfo type
  | answer service callInfo =>
    refine holds_request hs callInfo (fun c hc => ?_)
      fun _ hc => IMSControl.holds_answer hT.ims.steady hc callInfo
    have hsame := CSControl.answer_frame c callInfo
    exact hsame.symm ▸ hc
  | reject service callInfo =>
    exact holds_request hs callInfo
      (fun _ hc => CSControl.holds_reject hT.cs.steady hc callInfo)
      fun _ hc => IMSControl.holds_reject hT.ims.steady hc callInfo
  | switchCall service =>
    simp only [slotMachine, switchCall]
    split
    · exact hs
    · split <;> exact hs
  | swapCallResponse request ok service => exact holds_swapCallResponse hT hs service ok
  | radioStateChange radioOn env => exact holds_radioStateChangeProcess hT hs radioOn env
  | radioWaitTimeout timer => exact holds_radioWaitTimeout hs timer
  | rilAdapterHostDied => exact (hs.setCs Holds.none).setIms Holds.none
  | clearAllCalls service infos => exact holds_clearAllCalls hs service infos
  | registerCallBack registered => exact ⟨hs.cs, hs.ims, hs.csList, hs.imsList⟩
  | srvccState status =>
    simp only [slotMachine, updateSrvccStateReport]
    split
    · exact ⟨hs.cs, hs.ims, hs.csList, hs.imsList⟩
    · refine ⟨fun c hc => ?_, Holds.none, hs.csList, hs.imsList⟩
      simp only [srvccStateCompleted] at hc
      split at hc
      · cases hc
      · rw [Option.some.injEq] at hc
        exact hc ▸ .empty
  | rsrvccState => exact ⟨Holds.none, hs.ims, hs.csList, hs.imsList⟩

end Slot

/-! ## The tracked calls -/

namespace Slot

/-- The CS control, or the one that would be created. -/
def csOrFresh (s : Slot) : CSControl := s.csControl.getD CallTable.fresh

/-- The IMS control, or the one that would be created. -/
def imsOrFresh (s : Slot) : IMSControl := s.imsControl.getD .fresh

def csKeys (s : Slot) : List Int := s.csOrFresh.connectionMap.keys

def imsKeys (s : Slot) : List Int := s.imsOrFresh.connectionMap.keys

variable {s : Slot}

theorem csOrFresh_of_some {t : CSControl} (ht : s.csControl = some t) : s.csOrFresh = t := by
  rw [csOrFresh, ht]
  rfl

theorem imsOrFresh_of_some {t : IMSControl} (ht : s.imsControl = some t) : s.imsOrFresh = t := by
  rw [imsOrFresh, ht]
  rfl

theorem csKeys_of_some {t : CSControl} (ht : s.csControl = some t) :
    s.csKeys = t.connectionMap.keys := by
  rw [csKeys, csOrFresh_of_some ht]

theorem imsKeys_of_some {t : IMSControl} (ht : s.imsControl = some t) :
    s.imsKeys = t.connectionMap.keys := by
  rw [imsKeys, imsOrFresh_of_some ht]

/-- The control a list reaches is the one there is, as far as its members go. -/
theorem csOrFresh_of_csControlFor {L : CallInfoList} {t : CSControl}
    (ht : s.csControlFor L = some t) :
    s.csOrFresh = t := by
  rcases csControlFor_eq_some ht with ht | ⟨hnone, rfl⟩
  · exact csOrFresh_of_some ht
  · rw [csOrFresh, hnone]
    rfl

theorem imsOrFresh_of_imsControlFor {L : ImsCurrentCallList} {t : IMSControl}
    (ht : s.imsControlFor L = some t) : s.imsOrFresh = t := by
  rcases imsControlFor_eq_some ht with ht | ⟨hnone, rfl⟩
  · exact imsOrFresh_of_some ht
  · rw [imsOrFresh, hnone]
    rfl

/-- A list that finds no control comes to a slot without one. -/
theorem csControl_of_csControlFor {L : CallInfoList} (hfor : s.csControlFor L = none) :
    s.csControl = none := by
  unfold csControlFor at hfor
  split at hfor
  · cases hfor
  · rename_i hnone
    exact hnone

theorem imsControl_of_imsControlFor {L : ImsCurrentCallList} (hfor : s.imsControlFor L = none) :
    s.imsControl = none := by
  unfold imsControlFor at hfor
  split at hfor
  · cases hfor
  · rename_i hnone
    exact hnone

/-- `ClearAllCalls` empties the tables of both controls, and nothing else of
them. -/
theorem csOrFresh_clearAllCalls (P : Platform) (slotId : Int) (service : ImsService)
    {infos : List CellularCallInfo} (hinfos : infos ≠ []) :
    (s.clearAllCalls P slotId service infos).1.csOrFresh =
      { s.csOrFresh with connectionMap := ∅ } := by
  unfold csOrFresh clearAllCalls
  rw [if_neg hinfos]
  dsimp only
  cases s.csControl with
  | some t => rfl
  | none =>
    rw [Option.none_or]
    by_cases hnamed :
        (infos.any fun info => info.callType == .cs && info.slotId == slotId) = true
    · rw [if_pos hnamed]
      rfl
    · rw [if_neg hnamed]
      rfl

theorem imsOrFresh_clearAllCalls (P : Platform) (slotId : Int) (service : ImsService)
    {infos : List CellularCallInfo} (hinfos : infos ≠ []) :
    (s.clearAllCalls P slotId service infos).1.imsOrFresh =
      { s.imsOrFresh with connectionMap := ∅ } := by
  unfold imsOrFresh clearAllCalls
  rw [if_neg hinfos]
  dsimp only
  cases s.imsControl with
  | some t => rfl
  | none =>
    rw [Option.none_or]
    by_cases hnamed :
        (infos.any fun info => info.callType == .ims && info.slotId == slotId) = true
    · rw [if_pos hnamed]
      rfl
    · rw [if_neg hnamed]
      rfl

theorem currentLists_clearAllCalls (P : Platform) (slotId : Int) (service : ImsService)
    (infos : List CellularCallInfo) :
    (s.clearAllCalls P slotId service infos).1.currentCsCallInfoList = s.currentCsCallInfoList ∧
      (s.clearAllCalls P slotId service infos).1.currentCallList = s.currentCallList := by
  unfold clearAllCalls
  split <;> exact ⟨rfl, rfl⟩

/-- Marking a silent redial changes no call. -/
theorem imsOrFresh_markSilent {L : CallInfoList} (s' : Slot)
    (h' : s'.imsControl = s.markSilent L) :
    s'.imsOrFresh.toCallTable = s.imsOrFresh.toCallTable := by
  unfold imsOrFresh
  rw [h', markSilent]
  split
  · cases s.imsControl <;> rfl
  · rfl

/-- A CS list leaves the calls of the IMS control. -/
theorem imsOrFresh_reportCsCallsData (P : Platform) (slotId : Int) (s : Slot) (L : CallInfoList) :
    (s.reportCsCallsData P slotId L).1.imsOrFresh.toCallTable = s.imsOrFresh.toCallTable := by
  have hstep := csListStep P slotId s L
  generalize s.reportCsCallsData P slotId L = result at hstep
  cases hstep with
  | idle => rfl
  | asked => rfl
  | hungUp => rfl
  | processed => exact imsOrFresh_markSilent _ rfl

/-- An IMS list leaves the CS control. -/
theorem csOrFresh_reportImsCallsData (P : Platform) (slotId : Int) (s : Slot)
    (L : ImsCurrentCallList) :
    (s.reportImsCallsData P slotId L).1.csOrFresh = s.csOrFresh := by
  have hstep := imsListStep P slotId s L
  generalize s.reportImsCallsData P slotId L = result at hstep
  cases hstep <;> rfl

/-- A control whose last list is empty is as good as new after a disconnect
reason. -/
theorem csOrFresh_dropEmpty (s : Slot) :
    (handleCallDisconnectReason.dropEmpty s).csOrFresh =
      if s.currentCsCallInfoList.callSize = 0 then CallTable.fresh else s.csOrFresh := by
  unfold csOrFresh
  rw [csControl_dropEmpty]
  split <;> rfl

theorem imsOrFresh_dropEmpty (s : Slot) :
    (handleCallDisconnectReason.dropEmpty s).imsOrFresh =
      if s.currentCallList.callSize = 0 then .fresh else s.imsOrFresh := by
  unfold imsOrFresh
  rw [imsControl_dropEmpty]
  split <;> rfl

end Slot

/-! ## The pending emergency call -/

/-- The events that may touch the pending emergency call and its timers. -/
def Event.movesEmc : Event → Bool
  | .dial _ _ useIms _ _ => useIms
  | .radioStateChange _ _ => true
  | .radioWaitTimeout _ => true
  | _ => false

namespace Slot

variable {P : Platform} {slotId : Int} {s : Slot}

private theorem emc_request {callInfo : CellularCallInfo}
    {onCs : CSControl → RetCode × CSControl × List Output}
    {onIms : IMSControl → RetCode × IMSControl × List Output}
    (hims : ∀ c, (onIms c).2.1.emc = c.emc) :
    ∀ t, (s.request callInfo onCs onIms).1.imsControl = some t →
      t.emc = (s.imsControl.getD .fresh).emc := by
  have hself : ∀ t, s.imsControl = some t → t.emc = (s.imsControl.getD .fresh).emc := by
    intro t ht
    simp [ht]
  unfold request
  split
  · exact hself
  · split
    · split <;> exact hself
    · split
      · exact hself
      · rename_i c hc
        intro t ht
        rw [Option.some.injEq] at ht
        rw [← ht, hims, hc]
        rfl
    · exact hself

/-- All other events leave the pending emergency call as it is, also when they
create the control. -/
theorem emc_step {e : Event} (he : e.movesEmc = false) :
    ∀ t, ((slotMachine P slotId).step s e).1.imsControl = some t →
      t.emc = (s.imsControl.getD .fresh).emc := by
  have hself : ∀ t, s.imsControl = some t → t.emc = (s.imsControl.getD .fresh).emc := by
    intro t ht
    simp [ht]
  cases e with
  | csCallsData L =>
    have hstep := csListStep P slotId s L
    simp only [slotMachine]
    generalize s.reportCsCallsData P slotId L = result at hstep ⊢
    cases hstep with
    | idle => exact hself
    | asked => exact hself
    | hungUp => exact hself
    | processed =>
      intro t ht
      obtain ⟨t', ht', -, hemc⟩ := table_markSilent ht
      exact hemc.trans (hself t' ht')
  | imsCallsData L =>
    have hstep := imsListStep P slotId s L
    simp only [slotMachine]
    generalize s.reportImsCallsData P slotId L = result at hstep ⊢
    cases hstep with
    | idle => exact hself
    | asked => exact hself
    | hungUp =>
      intro t ht
      cases ht
    | processed c _ hc =>
      intro t ht
      simp only [Option.some.injEq] at ht
      rw [← ht, IMSControl.emc_reportImsCallsData]
      rcases imsControlFor_eq_some hc with hc | ⟨hnone, rfl⟩
      · exact hself c hc
      · rw [hnone]
        rfl
  | callFailReason asker reason message =>
    have hdrop : ∀ s' : Slot, ∀ t, (handleCallDisconnectReason.dropEmpty s').imsControl = some t →
        s'.imsControl = some t := by
      intro s' t ht
      unfold handleCallDisconnectReason.dropEmpty at ht
      dsimp only at ht
      split at ht <;> split at ht <;> first | cases ht | exact ht
    intro t ht
    simp only [slotMachine, handleCallDisconnectReason] at ht
    split at ht
    · rename_i c hc
      have ht' := hdrop _ t ht
      simp only [Option.some.injEq] at ht'
      rw [← ht', IMSControl.emc_reportImsCallsData, hc]
      rfl
    · have ht' := hdrop _ t ht
      exact hself t ht'
    · exact hself t ht
  | dial callInfo isEcc useIms csEnv imsEnv =>
    simp only [Event.movesEmc] at he
    subst he
    simp only [slotMachine, dial, dialNormalCall, Bool.false_eq_true, if_false]
    split <;> exact hself
  | hangUp service callInfo type => exact emc_request fun c => IMSControl.emc_hangUp _ c _ _
  | answer service callInfo => exact emc_request fun c => IMSControl.emc_answer _ c _
  | reject service callInfo => exact emc_request fun c => IMSControl.emc_reject _ c _
  | switchCall service =>
    simp only [slotMachine, switchCall]
    split
    · exact hself
    · split <;> exact hself
  | swapCallResponse request ok service =>
    intro t ht
    simp only [slotMachine, swapCallResponse] at ht
    split at ht
    · exact hself t ht
    · rename_i c hc
      rw [hc]
      split at ht
      · simp only [Option.some.injEq] at ht
        rw [← ht, IMSControl.emc_dialAfterHold]
        rfl
      · simp only [Option.some.injEq] at ht
        rw [← ht]
        rfl
  | radioStateChange radioOn env => cases he
  | radioWaitTimeout timer => cases he
  | rilAdapterHostDied =>
    intro t ht
    cases ht
  | clearAllCalls service infos =>
    intro t ht
    simp only [slotMachine, clearAllCalls] at ht
    split at ht
    · exact hself t ht
    · dsimp only at ht
      split at ht
      · cases ht
      · rename_i c hc
        simp only [Option.some.injEq] at ht
        rw [← ht]
        rcases Option.or_eq_some_iff.mp hc with hc | ⟨hnone, hc⟩
        · rw [hc]
          rfl
        · split at hc
          · rw [Option.some.injEq] at hc
            rw [hnone, ← hc]
            rfl
          · cases hc
  | registerCallBack registered => exact hself
  | srvccState status =>
    simp only [slotMachine, updateSrvccStateReport]
    split
    · exact hself
    · intro t ht
      cases ht
  | rsrvccState => exact hself

end Slot

end CellularCall
