import CellularCall.PhantomEnd

/-!
# No call is lost

The call manager keeps a call until it is told that the call has ended.  `losses`
keeps the calls it has been told of and not of their end, beside the controls that
wait for a disconnect reason.  `NoCallLost` says that a control is not dropped while
such calls are its own, and that once no reason is waited for all of them are on the
last list.

One loss is intended: the hang-up report of an IMS control is kept back while its
call is silently redialled over CS.  `noCallLost_of_run` shows that, this one call
apart, none is lost as long as a disconnect reason that goes to the IMS control finds
no CS call waiting for one, and an IMS control that keeps its report back has no other
call to report.
-/

namespace CellularCall

open Lib CallTable

/-! ## Open calls -/

/-- The open calls after an entry, which opens a call or ends it. -/
def openEntry (opened : List Int) (r : CallReportInfo) : List Int :=
  if r.state = .disconnected then opened.filter fun i => i != r.index else r.index :: opened

/-- The open calls after the entries of a report, in their order. -/
def openAfter (entries : List CallReportInfo) (opened : List Int) : List Int :=
  entries.foldl openEntry opened

theorem mem_openEntry {opened : List Int} {r : CallReportInfo} {i : Int}
    (hi : i ∈ openEntry opened r) :
    r.index = i ∧ r.state ≠ .disconnected ∨
      i ∈ opened ∧ (r.index = i → r.state ≠ .disconnected) := by
  unfold openEntry at hi
  split at hi
  · obtain ⟨hold, hother⟩ := List.mem_filter.mp hi
    refine .inr ⟨hold, ?_⟩
    intro hindex
    rw [hindex, bne_self_eq_false] at hother
    cases hother
  · rename_i hstate
    obtain rfl | hold := List.mem_cons.mp hi
    · exact .inl ⟨rfl, hstate⟩
    · exact .inr ⟨hold, fun _ => hstate⟩

/-- Without an entry, the open calls are as before. -/
theorem mem_of_openAfter {entries : List CallReportInfo} {opened : List Int}
    (hnone : entries = []) : ∀ i ∈ openAfter entries opened, i ∈ opened := by
  subst hnone
  exact fun _ hi => hi

/-- A call that is open after a report is listed there, or was open and is not
reported ended. -/
theorem mem_openAfter {entries : List CallReportInfo} {opened : List Int} {i : Int}
    (hi : i ∈ openAfter entries opened) :
    (∃ r ∈ entries, r.index = i ∧ r.state ≠ .disconnected) ∨
      i ∈ opened ∧ ∀ r ∈ entries, r.index = i → r.state ≠ .disconnected := by
  induction entries generalizing opened with
  | nil => exact .inr ⟨hi, fun r hr => absurd hr List.not_mem_nil⟩
  | cons r entries ih =>
    obtain ⟨r', hr', hlisted⟩ | ⟨hopen, hrest⟩ := ih hi
    · exact .inl ⟨r', List.mem_cons_of_mem _ hr', hlisted⟩
    · obtain ⟨hindex, hstate⟩ | ⟨hold, hkept⟩ := mem_openEntry hopen
      · exact .inl ⟨r, List.mem_cons_self, hindex, hstate⟩
      · exact .inr ⟨hold, List.forall_mem_cons.mpr ⟨hkept, hrest⟩⟩

/-! ## One table -/

section
variable {κ δ : Type} {D : CallDomain κ δ} {P : Platform} {slotId : Int} {ok : κ → Prop}
  {t : CallTable δ} {L : CallList κ} {opened : List Int}

/-- What is sent of a call that has ended keeps its state. -/
def KeepsState (D : CallDomain κ δ) : Prop := ∀ own info, (D.ended own info).state = info.state

/-- The entries of one report. -/
theorem Output.entries_of_reports {sender : CallType} {outputs : List Output}
    {info : CallsReportInfo} (hreports : Output.reports outputs = [(sender, info)]) :
    Output.entries sender outputs = info.callVec := by
  unfold Output.entries
  rw [hreports, List.filter_cons, if_pos (beq_self_eq_true sender)]
  exact List.flatMap_singleton _ _

/-- A call that is named has an entry. -/
theorem exists_entry_of_namesCalls {callType : CallType} {indices : List Int}
    {info : CallsReportInfo} (hnames : NamesCalls callType slotId indices info) {i : Int}
    (hi : i ∈ indices) : ∃ r ∈ info.callVec, r.index = i := by
  have hmem : (callType, slotId, i) ∈ info.callVec.map CallReportInfo.identity := by
    rw [hnames]
    exact List.mem_map_of_mem hi
  obtain ⟨r, hr, hidentity⟩ := List.mem_map.mp hmem
  simp only [CallReportInfo.identity, Prod.mk.injEq] at hidentity
  exact ⟨r, hr, hidentity.2.2⟩

/-- Hanging up ends whatever it reports. -/
theorem state_hangUpInfo (hstate : KeepsState D) {m : ConnectionMap δ} :
    ∀ r ∈ (hangUpInfo D P slotId m).callVec, r.state = .disconnected := by
  have hended : ∀ r ∈ m.values.map fun c =>
      D.ended c.own { c.callReportInfo with state := .disconnected, accountId := slotId },
      r.state = .disconnected := by
    intro r hr
    obtain ⟨c, -, rfl⟩ := List.mem_map.mp hr
    exact hstate c.own _
  intro r hr
  unfold hangUpInfo at hr
  dsimp only at hr
  split at hr
  · obtain hr | hr := List.mem_append.mp hr
    · exact hended r hr
    · rw [List.mem_singleton.mp hr]
      rfl
  · exact hended r hr

/-- A hang-up that is reported leaves no call open. -/
theorem Describes.open_reportHangUpInfo (hD : Describes D P slotId ok) (hstate : KeepsState D)
    (ht : CallTable.Holds (NamesItself D.callType slotId) t.connectionMap)
    (hignored : t.isIgnoredIncomingCall = false)
    (hopened : ∀ i ∈ opened, i ∈ t.connectionMap.keys) :
    openAfter (Output.entries D.callType (reportHangUpInfo D P slotId false t).2) opened = [] := by
  have hreports := reports_reportHangUpInfo D P slotId false t
  rw [hignored, Bool.or_false, if_neg Bool.false_ne_true] at hreports
  rw [Output.entries_of_reports hreports]
  refine List.eq_nil_iff_forall_not_mem.mpr ?_
  intro i hi
  obtain ⟨r, hr, -, hlisted⟩ | ⟨hold, hkept⟩ := mem_openAfter hi
  · exact hlisted (state_hangUpInfo hstate r hr)
  · have hempty : t.connectionMap.isEmpty = false := by
      rw [← Bool.not_eq_true, OrdMap.isEmpty_iff]
      exact List.ne_nil_of_mem (hopened i hold)
    obtain ⟨r, hr, hindex⟩ :=
      exists_entry_of_namesCalls (hD.names_hangUp ht hempty) (hopened i hold)
    exact hkept r hr hindex (state_hangUpInfo hstate r hr)

/-- After a first list, the open calls are listed. -/
theorem Describes.open_reportIncomingInfo (hD : Describes D P slotId ok)
    (hL : ∀ call ∈ L.calls, ok call) (hempty : t.connectionMap.isEmpty = true)
    (hopened : ∀ i ∈ opened, i ∈ t.connectionMap.keys) :
    ∀ i ∈ openAfter (Output.entries D.callType
      (reportIncomingInfo D P true slotId t L).2) opened, i ∈ L.calls.map D.index := by
  have hreports := reports_reportIncomingInfo D P slotId true t L
  have hloud : ignoresIncoming D P true slotId L = false := rfl
  rw [hloud, if_neg Bool.false_ne_true] at hreports
  rw [Output.entries_of_reports hreports]
  intro i hi
  obtain ⟨r, hr, hindex, -⟩ | ⟨hold, -⟩ := mem_openAfter hi
  · obtain ⟨call, hcall, rfl⟩ := List.mem_map.mp hr
    have hidentity := hD.listed call (hL call hcall)
    simp only [CallReportInfo.identity, Prod.mk.injEq] at hidentity
    rw [← hindex, hidentity.2.2]
    exact List.mem_map_of_mem hcall
  · have hkey := hopened i hold
    rw [OrdMap.isEmpty_iff.mp hempty] at hkey
    cases hkey

/-- After an update, the open calls are listed: the others have been reported
ended. -/
theorem Describes.open_reportUpdateInfo (hD : Describes D P slotId ok) (hstate : KeepsState D)
    (ht : CallTable.Holds (NamesItself D.callType slotId) t.connectionMap)
    (hL : ∀ call ∈ L.calls, ok call) (hignored : t.isIgnoredIncomingCall = false)
    (hopened : ∀ i ∈ opened, i ∈ t.connectionMap.keys) :
    ∀ i ∈ openAfter (Output.entries D.callType (reportUpdateInfo D P slotId t L).2) opened,
      i ∈ L.calls.map D.index := by
  have hreports := reports_reportUpdateInfo D P slotId t L
  rw [hignored, if_neg Bool.false_ne_true, callVec_updateInfo D P slotId ht.toSettled L]
    at hreports
  rw [Output.entries_of_reports hreports]
  intro i hi
  obtain ⟨r, hr, hindex, hlisted⟩ | ⟨hold, hkept⟩ := mem_openAfter hi
  · obtain hr | hr := List.mem_append.mp hr
    · obtain ⟨call, hcall, rfl⟩ := List.mem_map.mp hr
      have hidentity := (identity_listedReport L.calls.length call).trans
        (hD.listed call (hL call hcall))
      simp only [CallReportInfo.identity, Prod.mk.injEq] at hidentity
      rw [← hindex, hidentity.2.2]
      exact List.mem_map_of_mem hcall
    · obtain ⟨c, -, rfl⟩ := List.mem_map.mp hr
      exact absurd (hstate c.own _) hlisted
  · by_contra hgone
    have hkey : i ∈ (unlisted D L.calls t.connectionMap).keys := by
      rw [keys_unlisted D ht.keyed]
      exact List.mem_filter.mpr ⟨hopened i hold, decide_eq_true hgone⟩
    obtain ⟨c, hget⟩ := OrdMap.mem_keys_iff.mp hkey
    have hentry : endedReport D c ∈
        L.calls.map (listedReport D P slotId L.calls.length) ++
          (unlisted D L.calls t.connectionMap).values.map (endedReport D) :=
      List.mem_append_right _ (List.mem_map_of_mem (OrdMap.mem_values_iff.mpr ⟨i, hget⟩))
    rw [unlisted, OrdMap.get?_filter, Option.filter_eq_some_iff] at hget
    have hidentity : (endedReport D c).identity = (D.callType, slotId, i) :=
      (hD.ended c.own _).trans (ht.each i c hget.1)
    simp only [CallReportInfo.identity, Prod.mk.injEq] at hidentity
    exact hkept _ hentry hidentity.2.2 (hstate c.own _)

/-- A table beside the calls that are open: it has them all, none of its reports is
kept back for an ignored call, and its calls are listed unless a reason is waited
for. -/
structure Tracked (t : CallTable δ) (opened listed : List Int) (waits : Prop) : Prop where
  loud : t.isIgnoredIncomingCall = false
  opened : ∀ i ∈ opened, i ∈ t.connectionMap.keys
  listed : (∀ i ∈ t.connectionMap.keys, i ∈ listed) ∨ waits

/-- An empty table has no open calls. -/
theorem Tracked.of_empty {listed : List Int} {waits : Prop}
    (hloud : t.isIgnoredIncomingCall = false) (hempty : t.connectionMap = ∅) :
    Tracked t [] listed waits where
  loud := hloud
  opened := fun _ hi => absurd hi List.not_mem_nil
  listed := by
    refine .inl ?_
    intro i hi
    rw [hempty] at hi
    cases hi

theorem Tracked.opened_eq_nil {listed : List Int} {waits : Prop}
    (ht : Tracked t opened listed waits) (hempty : t.connectionMap = ∅) : opened = [] := by
  refine List.eq_nil_iff_forall_not_mem.mpr ?_
  intro i hi
  have hkey := ht.opened i hi
  rw [hempty] at hkey
  cases hkey

/-- With fewer open calls and more that wait, the table is tracked still. -/
theorem Tracked.mono {opened' listed : List Int} {waits waits' : Prop}
    (ht : Tracked t opened listed waits) (hopened : ∀ i ∈ opened', i ∈ opened)
    (hwaits : waits → waits') : Tracked t opened' listed waits' :=
  ⟨ht.loud, fun i hi => ht.opened i (hopened i hi), ht.listed.imp_right hwaits⟩

/-- Once nothing is waited for, the open calls are listed. -/
theorem Tracked.settled {listed : List Int} {waits : Prop}
    (ht : Tracked t opened listed waits) (hwaits : ¬waits) : ∀ i ∈ opened, i ∈ listed :=
  fun i hi => ht.listed.resolve_right hwaits i (ht.opened i hi)

/-- With a callback, a list makes no call an ignored one. -/
theorem isIgnoredIncomingCall_reportCallsData (hignored : t.isIgnoredIncomingCall = false)
    (silent ask : Bool) :
    (reportCallsData D P true slotId silent t L ask).1.isIgnoredIncomingCall = false := by
  have hstep := listStep D P slotId true silent t L ask
  generalize reportCallsData D P true slotId silent t L ask = result at hstep
  cases hstep with
  | asked => exact hignored
  | hungUp => exact isIgnored_reportHangUpInfo D P slotId silent t
  | incoming => exact hignored
  | updated =>
    have hsame : (updateInfo D P slotId t L).1.isIgnoredIncomingCall = false := hignored
    unfold reportUpdateInfo
    dsimp only
    rw [hsame]
    exact hsame

/-- A control that processes a list, and does not keep its hang-up back, follows
the calls it reports. -/
theorem Describes.tracked_reportCallsData (hD : Describes D P slotId ok)
    (hstate : KeepsState D) (ht : CallTable.Holds (NamesItself D.callType slotId) t.connectionMap)
    (hL : ∀ call ∈ L.calls, ok call) (hignored : t.isIgnoredIncomingCall = false)
    (hopened : ∀ i ∈ opened, i ∈ t.connectionMap.keys) {silent ask : Bool}
    (hsilent : L.callSize ≤ 0 → ask = false → silent = false) :
    Tracked (reportCallsData D P true slotId silent t L ask).1
      (openAfter (Output.entries D.callType
        (reportCallsData D P true slotId silent t L ask).2) opened)
      (L.calls.map D.index)
      (Output.queries (reportCallsData D P true slotId silent t L ask).2 ≠ []) := by
  have hloud : (reportCallsData D P true slotId silent t L ask).1.isIgnoredIncomingCall = false :=
    isIgnoredIncomingCall_reportCallsData hignored silent ask
  have hstep := listStep D P slotId true silent t L ask
  generalize reportCallsData D P true slotId silent t L ask = result at hstep hloud
  cases hstep with
  | asked => exact ⟨hloud, hopened, .inr (List.cons_ne_nil _ _)⟩
  | hungUp hask hsize =>
    obtain rfl := hsilent hsize hask
    rw [hD.open_reportHangUpInfo hstate ht hignored hopened]
    exact .of_empty hloud (connectionMap_reportHangUpInfo D P slotId false t)
  | incoming _ hempty =>
    have hkeys := mem_keys_reportIncomingInfo D P slotId true hempty L
    have hopen := hD.open_reportIncomingInfo hL hempty hopened
    exact ⟨hloud, fun i hi => (hkeys i).mpr (hopen i hi), .inl fun i hi => (hkeys i).mp hi⟩
  | updated =>
    have hkeys := mem_keys_updateInfo D P slotId ht.toSettled L
    rw [← connectionMap_reportUpdateInfo] at hkeys
    have hopen := hD.open_reportUpdateInfo hstate ht hL hignored hopened
    exact ⟨hloud, fun i hi => (hkeys i).mpr (hopen i hi), .inl fun i hi => (hkeys i).mp hi⟩

end

/-! ## Remembering the calls -/

/-- The controls that wait for a disconnect reason, the open calls of each domain,
and the last lists.  `redial` is the IMS call that was last seen in both domains, as
long as it is open, and `imsOwed` is `imsOpen` without those whose end was kept back
while they were the `redial`. -/
structure Losses where
  asked : List CallType
  csOpen : List Int
  imsOpen : List Int
  imsOwed : List Int
  redial : Option Int
  csList : List Int
  imsList : List Int
deriving DecidableEq

/-- The IMS calls whose end is owed.  A control that is dropped while it keeps its
report back does not owe that of the call which goes on over CS. -/
def owedAfter (s s' : Slot) (outputs : List Output) (redial : Option Int) (owed : List Int) :
    List Int :=
  let owed := openAfter (Output.entries .ims outputs) owed
  if s.imsOrFresh.isSilentCsRedial = true ∧ s'.imsControl = none then
    owed.filter fun i => decide (redial ≠ some i)
  else owed

/-- The call that the last lists of both domains show, where a CS list has marked the
IMS control for it.  One that is reported ended is none any more. -/
def redialAfter (s' : Slot) (e : Event) (imsOpen : List Int) (redial : Option Int) : Option Int :=
  let redial := redial.filter fun i => decide (i ∈ imsOpen)
  match e with
  | .csCallsData L =>
    if s'.isSilentCsRedial then (L.calls.map CallInfo.index).head? else redial
  | _ => redial

/-- Lists, and one answer to each request for a disconnect reason, with the callback
of the call manager registered. -/
def losses : Monitor Slot Event Output Losses where
  init := ⟨[], [], [], [], none, [], []⟩
  allowed h s e :=
    match e with
    | .csCallsData L => s.registered = true ∧ L.Announced
    | .imsCallsData L => s.registered = true ∧ L.Announced
    | .callFailReason asker _ _ => s.registered = true ∧ asker ∈ h.asked
    | .registerCallBack registered => registered = true
    | _ => False
  update h s e s' outputs :=
    { asked :=
        (match e with
          | .callFailReason asker _ _ => h.asked.erase asker
          | _ => h.asked) ++ Output.queries outputs
      csOpen := openAfter (Output.entries .cs outputs) h.csOpen
      imsOpen := openAfter (Output.entries .ims outputs) h.imsOpen
      imsOwed := owedAfter s s' outputs h.redial h.imsOwed
      redial := redialAfter s' e (openAfter (Output.entries .ims outputs) h.imsOpen) h.redial
      csList :=
        match e with
        | .csCallsData L => L.calls.map CallInfo.index
        | _ => h.csList
      imsList :=
        match e with
        | .imsCallsData L => L.calls.map ImsCurrentCall.index
        | _ => h.imsList }

instance (h : Losses) (s : Slot) (e : Event) : Decidable (losses.allowed h s e) :=
  match e with
  | .csCallsData L => inferInstanceAs (Decidable (_ ∧ L.Announced))
  | .imsCallsData L => inferInstanceAs (Decidable (_ ∧ L.Announced))
  | .callFailReason asker _ _ => inferInstanceAs (Decidable (_ ∧ asker ∈ h.asked))
  | .registerCallBack registered => inferInstanceAs (Decidable (registered = true))
  | .dial .. | .hangUp .. | .answer .. | .reject .. | .switchCall .. | .swapCallResponse ..
  | .radioStateChange .. | .radioWaitTimeout .. | .rilAdapterHostDied | .clearAllCalls ..
  | .srvccState .. | .rsrvccState => isFalse not_false

/-- No control is dropped while calls of its own are open, and once no reason is
waited for, all open calls are on the last list. -/
structure NoCallLost (s : Slot) (h : Losses) (imsOpen : List Int) : Prop where
  csDropped : s.csControl = none → h.csOpen = []
  imsDropped : s.imsControl = none → imsOpen = []
  csSettled : h.asked = [] → ∀ i ∈ h.csOpen, i ∈ h.csList
  imsSettled : h.asked = [] → ∀ i ∈ imsOpen, i ∈ h.imsList

/-- An IMS control that keeps its report back owes only that of the redialled call. -/
def OwesRedialOnly (h : Losses) (s : Slot) : Prop :=
  s.imsOrFresh.isSilentCsRedial = true → ∀ i ∈ h.imsOwed, h.redial = some i

instance (h : Losses) (s : Slot) : Decidable (OwesRedialOnly h s) :=
  inferInstanceAs (Decidable (_ → ∀ i ∈ h.imsOwed, _))

/-- The numbers of listed calls fit.  When a disconnect reason goes to the IMS control,
no CS call waits for it: the CS calls are all listed, or the CS control stays and there
is another reason to come.  And an IMS control that is hung up owes no more than the
redialled call if it keeps its report back. -/
def LeavesNoCall (P : Platform) : StepCond Slot Event Losses := fun h s e =>
  match e with
  | .csCallsData L => ∀ call ∈ L.calls, call.NumberFits P
  | .imsCallsData L => (∀ call ∈ L.calls, call.NumberFits P) ∧
      (L.callSize = 0 → s.imsOrFresh.hasEndCallWithoutReason L = false → OwesRedialOnly h s)
  | .callFailReason _ _ _ => s.imsControl.isSome = true →
      ((∀ k ∈ s.csKeys, k ∈ h.csList) ∨ h.csList ≠ [] ∧ 2 ≤ h.asked.length) ∧
        (s.currentCallList.callSize = 0 → OwesRedialOnly h s)
  | _ => True

instance (P : Platform) (h : Losses) (s : Slot) (e : Event) :
    Decidable (LeavesNoCall P h s e) :=
  match e with
  | .csCallsData L => inferInstanceAs (Decidable (∀ call ∈ L.calls, call.NumberFits P))
  | .imsCallsData L =>
    inferInstanceAs (Decidable ((∀ call ∈ L.calls, call.NumberFits P) ∧
      (_ → _ → OwesRedialOnly h s)))
  | .callFailReason _ _ _ =>
    inferInstanceAs (Decidable (_ → ((∀ k ∈ s.csKeys, _) ∨ _) ∧ (_ → OwesRedialOnly h s)))
  | .dial .. | .hangUp .. | .answer .. | .reject .. | .switchCall .. | .swapCallResponse ..
  | .radioStateChange .. | .radioWaitTimeout .. | .rilAdapterHostDied | .clearAllCalls ..
  | .registerCallBack .. | .srvccState .. | .rsrvccState => isTrue trivial

/-! ## One slot -/

theorem CSControl.keepsState : KeepsState CSControl.domain.toCallDomain := fun _ _ => rfl

theorem IMSControl.keepsState : KeepsState IMSControl.domain.toCallDomain := fun _ _ => rfl

section
variable {P : Platform} {slotId : Int} {registered : Bool} {s : Slot} {opened listed : List Int}
  {waits : Prop}

/-- A CS control follows the calls of a list it processes. -/
theorem CSControl.tracked_reportCsCallsData {t : CSControl} {L : CallInfoList}
    (hregistered : registered = true)
    (hholds : CallTable.Holds (NamesItself .cs slotId) t.connectionMap)
    (hL : ∀ call ∈ L.calls, call.NumberFits P) (ht : Tracked t opened listed waits)
    (isNeedQuery : Bool) :
    Tracked (t.reportCsCallsData P registered slotId L isNeedQuery).1
      (openAfter (Output.entries .cs (t.reportCsCallsData P registered slotId L isNeedQuery).2)
        opened)
      (L.calls.map CallInfo.index)
      (Output.queries (t.reportCsCallsData P registered slotId L isNeedQuery).2 ≠ []) := by
  subst hregistered
  rw [CSControl.reportCsCallsData_eq]
  exact (CSControl.describes P slotId).tracked_reportCallsData CSControl.keepsState hholds hL
    ht.loud ht.opened fun _ _ => rfl

/-- An IMS control does, unless it keeps the end of its calls back. -/
theorem IMSControl.tracked_reportImsCallsData {t : IMSControl} {L : ImsCurrentCallList}
    (hregistered : registered = true)
    (hholds : CallTable.Holds (NamesItself .ims slotId) t.connectionMap)
    (hL : ∀ call ∈ L.calls, call.NumberFits P) (ht : Tracked t.toCallTable opened listed waits)
    {isNeedQuery : Bool}
    (hsilent : L.callSize ≤ 0 → isNeedQuery = false → t.isSilentCsRedial = false) :
    Tracked (t.reportImsCallsData P registered slotId L isNeedQuery).1.toCallTable
      (openAfter (Output.entries .ims (t.reportImsCallsData P registered slotId L isNeedQuery).2)
        opened)
      (L.calls.map ImsCurrentCall.index)
      (Output.queries (t.reportImsCallsData P registered slotId L isNeedQuery).2 ≠ []) := by
  subst hregistered
  rw [IMSControl.reportImsCallsData_eq]
  exact (IMSControl.describes P slotId).tracked_reportCallsData IMSControl.keepsState hholds hL
    ht.loud ht.opened hsilent

/-- An IMS control that keeps its report back when it is hung up sends no entry. -/
theorem IMSControl.entries_reportHangUpInfo_of_silent (P : Platform) (slotId : Int)
    {t : IMSControl} (hsilent : t.isSilentCsRedial = true) :
    Output.entries .ims (t.reportHangUpInfo P slotId).2 = [] := by
  have hreports := reports_reportHangUpInfo IMSControl.domain.toCallDomain P slotId
    t.isSilentCsRedial t.toCallTable
  rw [hsilent, Bool.or_true, if_pos rfl] at hreports
  unfold IMSControl.reportHangUpInfo
  rw [hsilent]
  unfold Output.entries
  rw [hreports]
  rfl

/-- An IMS control that is hung up and dropped owes no call any more, if all that it
keeps back is the end of the redialled one. -/
theorem owedAfter_reportHangUpInfo {t : IMSControl} {s' : Slot} {redial : Option Int}
    (hsame : s.imsOrFresh.isSilentCsRedial = t.isSilentCsRedial)
    (hdropped : s'.imsControl = none)
    (hholds : CallTable.Holds (NamesItself .ims slotId) t.connectionMap)
    (ht : Tracked t.toCallTable opened listed waits)
    (hredial : s.imsOrFresh.isSilentCsRedial = true → ∀ i ∈ opened, redial = some i) :
    owedAfter s s' (t.reportHangUpInfo P slotId).2 redial opened = [] := by
  unfold owedAfter
  dsimp only
  split
  · rename_i hkept
    obtain ⟨hsilent, -⟩ := hkept
    -- nothing is reported, so what was open is the redialled call
    refine List.eq_nil_iff_forall_not_mem.mpr ?_
    intro i hi
    obtain ⟨hopen, hother⟩ := List.mem_filter.mp hi
    have hnone := IMSControl.entries_reportHangUpInfo_of_silent P slotId (hsame ▸ hsilent)
    exact of_decide_eq_true hother (hredial hsilent i (mem_of_openAfter hnone i hopen))
  · rename_i hloud
    have hsilent : t.isSilentCsRedial = false :=
      Bool.eq_false_iff.mpr fun htrue => hloud ⟨hsame.trans htrue, hdropped⟩
    unfold IMSControl.reportHangUpInfo
    rw [hsilent]
    exact (IMSControl.describes P slotId).open_reportHangUpInfo IMSControl.keepsState hholds
      ht.loud ht.opened

/-- While an IMS control stays, it owes the end of all its open calls. -/
theorem owedAfter_of_some {s' : Slot} {t : IMSControl} (hims : s'.imsControl = some t)
    (outputs : List Output) (redial : Option Int) (owed : List Int) :
    owedAfter s s' outputs redial owed = openAfter (Output.entries .ims outputs) owed := by
  unfold owedAfter
  rw [hims]
  refine if_neg ?_
  intro h
  obtain ⟨-, hnone⟩ := h
  cases hnone

/-- Without an entry of an IMS call, no more is owed. -/
theorem mem_owedAfter (s s' : Slot) {outputs : List Output} (redial : Option Int)
    {owed : List Int} (hnone : Output.entries .ims outputs = []) :
    ∀ i ∈ owedAfter s s' outputs redial owed, i ∈ owed := by
  intro i hi
  unfold owedAfter at hi
  dsimp only at hi
  split at hi
  · exact mem_of_openAfter hnone i (List.mem_filter.mp hi).1
  · exact mem_of_openAfter hnone i hi

end

namespace Slot

variable {P : Platform} {slotId : Int} {s : Slot} {opened owed listed : List Int} {waits : Prop}

/-- Where there is and was no control, no calls are open. -/
theorem tracked_csOrFresh_of_none {s' : Slot} (ht : Tracked s.csOrFresh opened listed waits)
    (hnone : s.csControl = none) (hnone' : s'.csControl = none) (listed' : List Int)
    (waits' : Prop) : Tracked s'.csOrFresh opened listed' waits' := by
  rw [csOrFresh, hnone, Option.getD_none] at ht
  rw [csOrFresh, hnone', Option.getD_none, ht.opened_eq_nil rfl]
  exact .of_empty rfl rfl

theorem tracked_imsOrFresh_of_none {s' : Slot}
    (ht : Tracked s.imsOrFresh.toCallTable owed listed waits) (hnone : s.imsControl = none)
    (hnone' : s'.imsControl = none) (listed' : List Int) (waits' : Prop) :
    Tracked s'.imsOrFresh.toCallTable owed listed' waits' := by
  rw [imsOrFresh, hnone, Option.getD_none] at ht
  rw [imsOrFresh, hnone', Option.getD_none, ht.opened_eq_nil rfl]
  exact .of_empty rfl rfl

/-- The CS control follows the calls of a CS list. -/
theorem tracked_reportCsCallsData (hs : s.Holds (identitySpec P slotId)) {L : CallInfoList}
    (hL : ∀ call ∈ L.calls, call.NumberFits P) (hregistered : s.registered = true)
    (hrsrvcc : s.isDuringRSRVCC = false) (ht : Tracked s.csOrFresh opened listed waits) :
    Tracked (s.reportCsCallsData P slotId L).1.csOrFresh
      (openAfter (Output.entries .cs (s.reportCsCallsData P slotId L).2) opened)
      (L.calls.map CallInfo.index)
      (Output.queries (s.reportCsCallsData P slotId L).2 ≠ []) := by
  by_cases hsize : L.callSize = 0
  · have hstep := csListStep P slotId s L
    generalize s.reportCsCallsData P slotId L = result at hstep
    cases hstep with
    | idle _ hcontrol =>
      have hnone := hcontrol hsize hrsrvcc
      exact tracked_csOrFresh_of_none ht hnone hnone _ _
    | asked t => exact ⟨ht.loud, ht.opened, .inr (List.cons_ne_nil _ _)⟩
    | hungUp t _ hcontrol =>
      rw [csOrFresh_of_some hcontrol] at ht
      have hopen : openAfter (Output.entries .cs (t.reportHangUpInfo P slotId).2) opened = [] :=
        (CSControl.describes P slotId).open_reportHangUpInfo CSControl.keepsState
          (hs.cs t hcontrol) ht.loud ht.opened
      dsimp only
      rw [hopen]
      exact .of_empty rfl rfl
    | processed t hne => exact absurd hsize hne
  · cases hfor : s.csControlFor L with
    | none =>
      have hnone := csControl_of_csControlFor hfor
      obtain ⟨duringRSRVCC, hidle⟩ := reportCsCallsData_of_no_control P slotId hfor
      rw [hidle]
      exact tracked_csOrFresh_of_none ht hnone hnone _ _
    | some t =>
      rw [csOrFresh_of_csControlFor hfor] at ht
      rw [reportCsCallsData_of_control P slotId hsize hrsrvcc hfor]
      exact CSControl.tracked_reportCsCallsData hregistered (holds_csControlFor hs L t hfor) hL ht
        true

/-- The IMS control follows the calls of an IMS list whose end is owed. -/
theorem tracked_reportImsCallsData (hs : s.Holds (identitySpec P slotId))
    {L : ImsCurrentCallList} (hL : ∀ call ∈ L.calls, call.NumberFits P) (hannounced : L.Announced)
    (hregistered : s.registered = true) (hsrvcc : s.srvccState ≠ .started)
    (ht : Tracked s.imsOrFresh.toCallTable owed listed waits) {redial : Option Int}
    (hredial : L.callSize = 0 → s.imsOrFresh.hasEndCallWithoutReason L = false →
      s.imsOrFresh.isSilentCsRedial = true → ∀ i ∈ owed, redial = some i) :
    Tracked (s.reportImsCallsData P slotId L).1.imsOrFresh.toCallTable
      (owedAfter s (s.reportImsCallsData P slotId L).1 (s.reportImsCallsData P slotId L).2
        redial owed)
      (L.calls.map ImsCurrentCall.index)
      (Output.queries (s.reportImsCallsData P slotId L).2 ≠ []) := by
  by_cases hsize : L.callSize = 0
  · have hstep := imsListStep P slotId s L
    generalize s.reportImsCallsData P slotId L = result at hstep
    cases hstep with
    | idle hcontrol =>
      have hnone := hcontrol hsize
      exact (tracked_imsOrFresh_of_none ht hnone hnone _ _).mono (mem_owedAfter _ _ _ rfl) id
    | asked t =>
      exact ⟨ht.loud, fun i hi => ht.opened i (mem_owedAfter _ _ _ rfl i hi),
        .inr (List.cons_ne_nil _ _)⟩
    | hungUp t _ hcontrol hask =>
      have hsame := imsOrFresh_of_some hcontrol
      have hredial' := hredial hsize (hsame ▸ hask)
      rw [hsame] at ht
      dsimp only
      rw [owedAfter_reportHangUpInfo (congrArg _ hsame) rfl (hs.ims t hcontrol) ht hredial']
      exact .of_empty rfl rfl
    | processed t hne => exact absurd hsize hne
  · cases hfor : s.imsControlFor L with
    | none =>
      have hnone := imsControl_of_imsControlFor hfor
      rw [reportImsCallsData_of_no_control P slotId hfor]
      exact (tracked_imsOrFresh_of_none ht hnone hnone _ _).mono (mem_owedAfter _ _ _ rfl) id
    | some t =>
      rw [imsOrFresh_of_imsControlFor hfor] at ht
      rw [reportImsCallsData_of_control P slotId hsize hsrvcc hfor]
      rw [owedAfter_of_some rfl]
      have hpos : 0 < L.callSize := by
        unfold CallList.Announced at hannounced
        omega
      exact IMSControl.tracked_reportImsCallsData hregistered (holds_imsControlFor hs L t hfor) hL
        ht fun hle => by omega

/-! ### Outside a hand-over -/

/-- The slot is outside a hand-over. -/
structure NoHandover (s : Slot) : Prop where
  duringRSRVCC : s.isDuringRSRVCC = false
  srvccState : s.srvccState ≠ .started

theorem NoHandover.reportCsCallsData (hs : s.NoHandover) (L : CallInfoList) :
    (s.reportCsCallsData P slotId L).1.NoHandover := by
  have hrsrvcc : ¬s.isDuringRSRVCC = true := Bool.eq_false_iff.mp hs.duringRSRVCC
  unfold Slot.reportCsCallsData reportNoCsCallsData
  dsimp only
  rw [if_neg hrsrvcc, if_neg hrsrvcc]
  split
  · split
    · exact ⟨hs.duringRSRVCC, hs.srvccState⟩
    · split <;> exact ⟨hs.duringRSRVCC, hs.srvccState⟩
  · split
    · exact ⟨hs.duringRSRVCC, hs.srvccState⟩
    · split <;> exact ⟨hs.duringRSRVCC, hs.srvccState⟩

theorem NoHandover.reportImsCallsData (hs : s.NoHandover) (L : ImsCurrentCallList) :
    (s.reportImsCallsData P slotId L).1.NoHandover := by
  have hstep := imsListStep P slotId s L
  generalize s.reportImsCallsData P slotId L = result at hstep
  cases hstep <;> exact ⟨hs.duringRSRVCC, hs.srvccState⟩

theorem NoHandover.dropEmpty (hs : s.NoHandover) :
    (handleCallDisconnectReason.dropEmpty s).NoHandover := by
  unfold handleCallDisconnectReason.dropEmpty
  dsimp only
  split <;> split <;> exact ⟨hs.duringRSRVCC, hs.srvccState⟩

theorem NoHandover.handleCallDisconnectReason (P : Platform) (slotId : Int) (hs : s.NoHandover)
    (reason : RilDisconnectedReason) (message : Str) :
    (s.handleCallDisconnectReason P slotId reason message).1.NoHandover := by
  unfold Slot.handleCallDisconnectReason
  split
  · exact NoHandover.dropEmpty ⟨hs.duringRSRVCC, hs.srvccState⟩
  · exact NoHandover.dropEmpty ⟨hs.duringRSRVCC, hs.srvccState⟩
  · exact hs

/-! ### A disconnect reason -/

/-- Setting reasons changes nothing that a table is tracked by. -/
theorem tracked_updateDisconnectedReason {κ δ : Type} (R : ReasonDomain κ δ) {t : CallTable δ}
    (ht : Tracked t opened listed waits) (L : CallList κ) (reason : RilDisconnectedReason)
    (message : Str) :
    Tracked { t with
      connectionMap := CallTable.updateDisconnectedReason R t.connectionMap L reason message }
      opened listed waits := by
  have hkeys := keys_updateDisconnectedReason R t.connectionMap L reason message
  exact ⟨ht.loud, fun i hi => hkeys ▸ ht.opened i hi,
    ht.listed.imp_left fun hlisted i hi => hlisted i (hkeys ▸ hi)⟩

/-- A control that goes when the slot is tidied up leaves no call open, if none is
open after an empty list. -/
theorem tracked_csOrFresh_dropEmpty (ht : Tracked s.csOrFresh opened listed waits)
    (hempty : s.currentCsCallInfoList.callSize = 0 → opened = []) :
    Tracked (handleCallDisconnectReason.dropEmpty s).csOrFresh opened listed waits := by
  rw [csOrFresh_dropEmpty]
  split
  · rename_i hsize
    rw [hempty hsize]
    exact .of_empty rfl rfl
  · exact ht

/-- A disconnect reason that goes to the IMS control makes it follow the last IMS
list. -/
theorem tracked_reason_ims (hs : s.Holds (identitySpec P slotId))
    (hannounced : s.currentCallList.Announced) (hregistered : s.registered = true)
    {t : IMSControl} (hims : s.imsControl = some t)
    (ht : Tracked t.toCallTable owed listed waits) {redial : Option Int}
    (hredial : s.currentCallList.callSize = 0 → s.imsOrFresh.isSilentCsRedial = true →
      ∀ i ∈ owed, redial = some i)
    (reason : RilDisconnectedReason) (message : Str) :
    Tracked (s.handleCallDisconnectReason P slotId reason message).1.imsOrFresh.toCallTable
      (owedAfter s (s.handleCallDisconnectReason P slotId reason message).1
        (s.handleCallDisconnectReason P slotId reason message).2 redial owed)
      (s.currentCallList.calls.map ImsCurrentCall.index)
      (Output.queries (s.handleCallDisconnectReason P slotId reason message).2 ≠ []) := by
  have hholds : CallTable.Holds (NamesItself .ims slotId)
      (t.updateDisconnectedReason s.currentCallList reason message).connectionMap :=
    holds_updateDisconnectedReason _ (identitySpec_sound P slotId).ims.steady (hs.ims t hims) _
      reason message
  have ht' : Tracked (t.updateDisconnectedReason s.currentCallList reason message).toCallTable
      owed listed waits :=
    tracked_updateDisconnectedReason IMSControl.domain ht _ reason message
  have hsame : s.imsOrFresh.isSilentCsRedial =
      (t.updateDisconnectedReason s.currentCallList reason message).isSilentCsRedial := by
    rw [imsOrFresh_of_some hims]
    rfl
  unfold handleCallDisconnectReason
  rw [hims]
  dsimp only
  generalize t.updateDisconnectedReason s.currentCallList reason message = t' at hholds ht' hsame
  by_cases hsize : s.currentCallList.callSize = 0
  · have hhang : t'.reportImsCallsData P s.registered slotId s.currentCallList false =
        t'.reportHangUpInfo P slotId := by
      unfold IMSControl.reportImsCallsData
      rw [if_pos (by omega)]
      rfl
    have hgone : (handleCallDisconnectReason.dropEmpty { s with
        imsControl := some (t'.reportHangUpInfo P slotId).1 }).imsControl = none := by
      rw [imsControl_dropEmpty]
      exact if_pos hsize
    rw [hhang, owedAfter_reportHangUpInfo hsame hgone hholds ht' (hredial hsize), imsOrFresh,
      hgone]
    exact .of_empty rfl rfl
  · have hkept : (handleCallDisconnectReason.dropEmpty { s with
        imsControl := some (t'.reportImsCallsData P s.registered slotId s.currentCallList false).1
        }).imsControl =
          some (t'.reportImsCallsData P s.registered slotId s.currentCallList false).1 := by
      rw [imsControl_dropEmpty]
      exact if_neg hsize
    have hpos : 0 < s.currentCallList.callSize := by
      unfold CallList.Announced at hannounced
      omega
    rw [owedAfter_of_some hkept, imsOrFresh_of_some hkept]
    exact IMSControl.tracked_reportImsCallsData hregistered hholds hs.imsList ht'
      fun hle => by omega

/-- The CS control keeps the calls it tracks meanwhile. -/
theorem tracked_csOrFresh_reason_ims (P : Platform) (slotId : Int) {t : IMSControl}
    (hims : s.imsControl = some t) (ht : Tracked s.csOrFresh opened listed waits)
    (hempty : s.currentCsCallInfoList.callSize = 0 → opened = [])
    (reason : RilDisconnectedReason) (message : Str) :
    Tracked (s.handleCallDisconnectReason P slotId reason message).1.csOrFresh opened listed
        waits ∧
      Output.entries .cs (s.handleCallDisconnectReason P slotId reason message).2 = [] := by
  unfold handleCallDisconnectReason
  rw [hims]
  exact ⟨tracked_csOrFresh_dropEmpty ht hempty, IMSControl.entries_cs _ _ _⟩

/-- Without an IMS control, a disconnect reason makes the CS control follow the last
CS list. -/
theorem tracked_reason_cs (hs : s.Holds (identitySpec P slotId)) (hregistered : s.registered = true)
    (hims : s.imsControl = none) {t : CSControl} (hcs : s.csControl = some t)
    (ht : Tracked t opened listed waits) (reason : RilDisconnectedReason) (message : Str) :
    Tracked (s.handleCallDisconnectReason P slotId reason message).1.csOrFresh
      (openAfter
        (Output.entries .cs (s.handleCallDisconnectReason P slotId reason message).2) opened)
      (s.currentCsCallInfoList.calls.map CallInfo.index)
      (Output.queries (s.handleCallDisconnectReason P slotId reason message).2 ≠ []) := by
  have hholds : CallTable.Holds (NamesItself .cs slotId)
      (t.updateDisconnectedReason s.currentCsCallInfoList reason).connectionMap :=
    holds_updateDisconnectedReason _ (identitySpec_sound P slotId).cs.steady (hs.cs t hcs) _
      reason []
  have ht' : Tracked (t.updateDisconnectedReason s.currentCsCallInfoList reason) opened listed
      waits :=
    tracked_updateDisconnectedReason CSControl.domain ht _ reason []
  have hlist := CSControl.tracked_reportCsCallsData hregistered hholds hs.csList ht' false
  unfold handleCallDisconnectReason
  rw [hims, hcs]
  refine tracked_csOrFresh_dropEmpty hlist ?_
  intro hsize
  refine hlist.opened_eq_nil ?_
  unfold CSControl.reportCsCallsData
  rw [if_pos (le_of_eq hsize)]
  exact connectionMap_reportHangUpInfo _ P slotId false _

/-- There is no IMS control afterwards either. -/
theorem imsControl_reason_cs (P : Platform) (slotId : Int) (hims : s.imsControl = none)
    (reason : RilDisconnectedReason) (message : Str) :
    (s.handleCallDisconnectReason P slotId reason message).1.imsControl = none ∧
      Output.entries .ims (s.handleCallDisconnectReason P slotId reason message).2 = [] := by
  unfold handleCallDisconnectReason
  rw [hims]
  cases hcs : s.csControl with
  | none => exact ⟨hims, rfl⟩
  | some t =>
    refine ⟨?_, CSControl.entries_ims _ _ _⟩
    rw [imsControl_dropEmpty]
    exact ite_self _

/-- Without a control, it is lost on the slot. -/
theorem csControl_reason_none (P : Platform) (slotId : Int) (hims : s.imsControl = none)
    (hcs : s.csControl = none) (reason : RilDisconnectedReason) (message : Str) :
    (s.handleCallDisconnectReason P slotId reason message).1.csControl = none ∧
      Output.entries .cs (s.handleCallDisconnectReason P slotId reason message).2 = [] := by
  unfold handleCallDisconnectReason
  rw [hims, hcs]
  exact ⟨hcs, rfl⟩

end Slot

/-! ## The invariant -/

/-- The control of each domain, or a new one, follows its calls. -/
structure LossInvariant (P : Platform) (slotId : Int) (s : Slot) (h : Losses) : Prop where
  holds : s.Holds (identitySpec P slotId)
  cs : Tracked s.csOrFresh h.csOpen h.csList (h.asked ≠ [])
  ims : Tracked s.imsOrFresh.toCallTable h.imsOwed h.imsList (h.asked ≠ [])
  lists : LastLists s h.csList h.imsList
  outside : s.NoHandover

namespace LossInvariant

variable {P : Platform} {slotId : Int} {s : Slot} {h : Losses}

theorem init : LossInvariant P slotId Slot.init losses.init where
  holds := .init
  cs := .of_empty rfl rfl
  ims := .of_empty rfl rfl
  lists := ⟨rfl, rfl, rfl, rfl⟩
  outside := ⟨rfl, SrvccState.noConfusion⟩

theorem step_csCallsData (hinv : LossInvariant P slotId s h) {L : CallInfoList}
    (hallowed : losses.allowed h s (.csCallsData L))
    (hcond : LeavesNoCall P h s (.csCallsData L)) :
    LossInvariant P slotId ((slotMachine P slotId).step s (.csCallsData L)).1
      (losses.next (slotMachine P slotId) h s (.csCallsData L)) where
  holds := Slot.holds_reportCsCallsData (identitySpec_sound P slotId) hinv.holds hcond
  cs := (Slot.tracked_reportCsCallsData hinv.holds hcond hallowed.1 hinv.outside.duringRSRVCC
    hinv.cs).mono (fun _ => id) (List.append_ne_nil_of_right_ne_nil _)
  ims := by
    have hims := hinv.ims
    rw [← Slot.imsOrFresh_reportCsCallsData P slotId s L] at hims
    exact hims.mono
      (mem_owedAfter _ _ _ (Slot.entries_ims_reportCsCallsData P slotId hinv.holds L))
      fun hne => List.append_ne_nil_of_left_ne_nil hne _
  lists := hinv.lists.reportCsCallsData hallowed.2
  outside := hinv.outside.reportCsCallsData L

theorem step_imsCallsData (hinv : LossInvariant P slotId s h) {L : ImsCurrentCallList}
    (hallowed : losses.allowed h s (.imsCallsData L))
    (hcond : LeavesNoCall P h s (.imsCallsData L)) :
    LossInvariant P slotId ((slotMachine P slotId).step s (.imsCallsData L)).1
      (losses.next (slotMachine P slotId) h s (.imsCallsData L)) where
  holds := Slot.holds_reportImsCallsData (identitySpec_sound P slotId) hinv.holds hcond.1
  cs := by
    have hcs := hinv.cs
    rw [← Slot.csOrFresh_reportImsCallsData P slotId s L] at hcs
    exact hcs.mono (mem_of_openAfter (Slot.entries_cs_reportImsCallsData P slotId hinv.holds L))
      fun hne => List.append_ne_nil_of_left_ne_nil hne _
  ims := (Slot.tracked_reportImsCallsData hinv.holds hcond.1 hallowed.2 hallowed.1
    hinv.outside.srvccState hinv.ims hcond.2).mono (fun _ => id)
      (List.append_ne_nil_of_right_ne_nil _)
  lists := hinv.lists.reportImsCallsData hallowed.2
  outside := hinv.outside.reportImsCallsData L

/-- Before a reason goes to the IMS control, the CS calls wait for another one or are
listed, and none is open after an empty list. -/
theorem cs_of_leavesNoCall (hinv : LossInvariant P slotId s h) (asker : CallType)
    (hcond : (∀ k ∈ s.csKeys, k ∈ h.csList) ∨ h.csList ≠ [] ∧ 2 ≤ h.asked.length) :
    Tracked s.csOrFresh h.csOpen h.csList (h.asked.erase asker ≠ []) ∧
      (s.currentCsCallInfoList.callSize = 0 → h.csOpen = []) := by
  obtain hlisted | ⟨hne, htwo⟩ := hcond
  · refine ⟨⟨hinv.cs.loud, hinv.cs.opened, .inl hlisted⟩, fun hsize => ?_⟩
    refine List.eq_nil_iff_forall_not_mem.mpr ?_
    intro i hi
    have hmem := hlisted i (hinv.cs.opened i hi)
    rw [hinv.lists.csList_eq_nil hsize] at hmem
    cases hmem
  · refine ⟨⟨hinv.cs.loud, hinv.cs.opened, .inr fun hnil => ?_⟩, fun hsize => ?_⟩
    · have hle := List.le_length_erase (l := h.asked) (a := asker)
      rw [hnil, List.length_nil] at hle
      omega
    · exact absurd (hinv.lists.csList_eq_nil hsize) hne

theorem step_callFailReason (hinv : LossInvariant P slotId s h) {asker : CallType}
    {reason : RilDisconnectedReason} {message : Str}
    (hallowed : losses.allowed h s (.callFailReason asker reason message))
    (hcond : LeavesNoCall P h s (.callFailReason asker reason message)) :
    LossInvariant P slotId
      ((slotMachine P slotId).step s (.callFailReason asker reason message)).1
      (losses.next (slotMachine P slotId) h s (.callFailReason asker reason message)) := by
  have hholds := Slot.holds_handleCallDisconnectReason (identitySpec_sound P slotId) hinv.holds
    reason message
  have hlists := hinv.lists.handleCallDisconnectReason P slotId reason message
  have houtside := hinv.outside.handleCallDisconnectReason P slotId reason message
  cases hims : s.imsControl with
  | some t =>
    have htracked := hinv.ims
    rw [Slot.imsOrFresh_of_some hims] at htracked
    obtain ⟨hleaves, hredial⟩ := hcond (Option.isSome_of_mem hims)
    have hlist := Slot.tracked_reason_ims hinv.holds hinv.lists.imsAnnounced hallowed.1 hims
      htracked hredial reason message
    rw [← hinv.lists.ims] at hlist
    obtain ⟨hwaiting, hempty⟩ := hinv.cs_of_leavesNoCall asker hleaves
    obtain ⟨hcs, hnone⟩ := Slot.tracked_csOrFresh_reason_ims P slotId hims hwaiting hempty
      reason message
    exact ⟨hholds, hcs.mono (mem_of_openAfter hnone)
      fun hne => List.append_ne_nil_of_left_ne_nil hne _,
      hlist.mono (fun _ => id) (List.append_ne_nil_of_right_ne_nil _), hlists, houtside⟩
  | none =>
    obtain ⟨hgone, hnone⟩ := Slot.imsControl_reason_cs P slotId hims reason message
    have himsT := (Slot.tracked_imsOrFresh_of_none hinv.ims hims hgone h.imsList
      (h.asked.erase asker ++
        Output.queries (s.handleCallDisconnectReason P slotId reason message).2 ≠ [])).mono
      (mem_owedAfter s (s.handleCallDisconnectReason P slotId reason message).1 h.redial hnone) id
    cases hcs : s.csControl with
    | some t =>
      have htracked := hinv.cs
      rw [Slot.csOrFresh_of_some hcs] at htracked
      have hlist := Slot.tracked_reason_cs hinv.holds hallowed.1 hims hcs htracked reason message
      rw [← hinv.lists.cs] at hlist
      exact ⟨hholds, hlist.mono (fun _ => id) (List.append_ne_nil_of_right_ne_nil _), himsT,
        hlists, houtside⟩
    | none =>
      obtain ⟨hgoneCs, hnoneCs⟩ := Slot.csControl_reason_none P slotId hims hcs reason message
      have hcsT := (Slot.tracked_csOrFresh_of_none hinv.cs hcs hgoneCs h.csList
        (h.asked.erase asker ++
          Output.queries (s.handleCallDisconnectReason P slotId reason message).2 ≠ [])).mono
        (mem_of_openAfter hnoneCs) id
      exact ⟨hholds, hcsT, himsT, hlists, houtside⟩

/-- Registering the callback again changes nothing. -/
theorem step_registerCallBack (hinv : LossInvariant P slotId s h) (registered : Bool) :
    LossInvariant P slotId ((slotMachine P slotId).step s (.registerCallBack registered)).1
      (losses.next (slotMachine P slotId) h s (.registerCallBack registered)) where
  holds := ⟨hinv.holds.cs, hinv.holds.ims, hinv.holds.csList, hinv.holds.imsList⟩
  cs := hinv.cs.mono (fun _ => id) fun hne => List.append_ne_nil_of_left_ne_nil hne _
  ims := hinv.ims.mono (mem_owedAfter _ _ _ rfl)
    fun hne => List.append_ne_nil_of_left_ne_nil hne _
  lists := hinv.lists.of_same rfl rfl
  outside := ⟨hinv.outside.duringRSRVCC, hinv.outside.srvccState⟩

/-- A control that is gone owes nothing, and once no reason is waited for, what is
open is listed. -/
theorem noCallLost (hinv : LossInvariant P slotId s h) : NoCallLost s h h.imsOwed where
  csDropped := by
    intro hnone
    have hcs := hinv.cs
    rw [Slot.csOrFresh, hnone, Option.getD_none] at hcs
    exact hcs.opened_eq_nil rfl
  imsDropped := by
    intro hnone
    have hims := hinv.ims
    rw [Slot.imsOrFresh, hnone, Option.getD_none] at hims
    exact hims.opened_eq_nil rfl
  csSettled := fun hasked => hinv.cs.settled (not_not_intro hasked)
  imsSettled := fun hasked => hinv.ims.settled (not_not_intro hasked)

end LossInvariant

theorem lossInvariant_step {P : Platform} {slotId : Int} {s : Slot} {h : Losses} {e : Event}
    (hinv : LossInvariant P slotId s h) (hallowed : losses.allowed h s e)
    (hcond : LeavesNoCall P h s e) :
    LossInvariant P slotId ((slotMachine P slotId).step s e).1
      (losses.next (slotMachine P slotId) h s e) := by
  cases e with
  | csCallsData L => exact hinv.step_csCallsData hallowed hcond
  | imsCallsData L => exact hinv.step_imsCallsData hallowed hcond
  | callFailReason asker reason message => exact hinv.step_callFailReason hallowed hcond
  | registerCallBack registered => exact hinv.step_registerCallBack registered
  | dial | hangUp | answer | reject | switchCall | swapCallResponse | radioStateChange
  | radioWaitTimeout | rilAdapterHostDied | clearAllCalls | srvccState | rsrvccState =>
    cases hallowed

/-! ## The runs -/

/-- In every run in which a disconnect reason that goes to the IMS control leaves no CS
call behind, and an IMS control that keeps its report back has no other call to report,
no call is lost, apart from the IMS call that is redialled over CS. -/
theorem noCallLost_of_run {P : Platform} {slotId : Int} {s : Slot} {h : Losses}
    (hrun : Run (slotMachine P slotId) losses (LeavesNoCall P) s h) :
    NoCallLost s h h.imsOwed := by
  have hinv : LossInvariant P slotId s h :=
    Run.invariant LossInvariant.init (fun _ _ _ => lossInvariant_step) hrun
  exact hinv.noCallLost

/-- A call that is dialled over IMS, redialled over CS, and ended over IMS. -/
theorem noCallLost_redial :
    let events : List Event :=
      [.registerCallBack true, .imsCallsData (.of [.plain 1 .dialing]),
        .csCallsData (.of [.plain 1 .dialing]), .imsCallsData (.of []),
        .callFailReason .ims .normal []]
    NoCallLost (exec (slotMachine .plain 0) losses .init losses.init events).1
      (exec (slotMachine .plain 0) losses .init losses.init events).2
      (exec (slotMachine .plain 0) losses .init losses.init events).2.imsOwed :=
  noCallLost_of_run (Run.of_admits (M := slotMachine .plain 0) (H := losses) _
    (by decide +kernel))

/-- The IMS call of a silent redial is not reported ended. -/
theorem not_noCallLost_of_run :
    ¬∀ (P : Platform) (slotId : Int) (s : Slot) (h : Losses),
      Run (slotMachine P slotId) losses unconditional s h → NoCallLost s h h.imsOpen := by
  intro hclaim
  have hrun := Run.of_admits (M := slotMachine .plain 0) (H := losses) (C := unconditional)
    [.registerCallBack true, .imsCallsData (.of [.plain 1 .dialing]),
      .csCallsData (.of [.plain 1 .dialing]), .imsCallsData (.of []),
      .callFailReason .ims .normal []] (by decide +kernel)
  have hnone := (hclaim _ _ _ _ hrun).imsDropped (by decide +kernel)
  revert hnone
  decide +kernel

end CellularCall
