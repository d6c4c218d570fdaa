import CellularCall.SlotInvariant

/-!
# Who gets a disconnect reason

`UpdateDisconnectedReason` gives the reason the modem answered with to the calls
that have ended for a reason not yet known.  `HasEndCallWithoutReason` asks for
reasons as long as there are such calls, and `ReportUpdateInfo` and
`ReportHangUpInfo` report what was given.

`Attributed` is what the reason does to a table, and `Delivers` what is reported of
it.  `reasons_attributed` proves the first of every table and the second wherever a
run is, for the CS and the IMS domain.
-/

namespace CellularCall

open Lib CallTable

variable {κ δ : Type}

/-- The reason that is set is the one that is read, and the one that is
reported. -/
structure ReasonDomain.Lawful (R : ReasonDomain κ δ) : Prop where
  disconnectReason_set : ∀ reason message own,
    R.disconnectReason (R.setDisconnectReason reason message own) = reason
  reason_ended : ∀ own info, (R.ended own info).reason = R.disconnectReason own
  index_ended : ∀ own info, (R.ended own info).index = info.index
  state_ended : ∀ own info, (R.ended own info).state = info.state

theorem CSControl.domain_lawful : CSControl.domain.Lawful :=
  ⟨fun _ _ _ => rfl, fun _ _ => rfl, fun _ _ => rfl, fun _ _ => rfl⟩

theorem IMSControl.domain_lawful : IMSControl.domain.Lawful :=
  ⟨fun _ _ _ => rfl, fun _ _ => rfl, fun _ _ => rfl, fun _ _ => rfl⟩

namespace CallTable

variable (R : ReasonDomain κ δ)

/-- The call of the connection is not on the list, and has no reason yet. -/
def EndedWithoutReason (L : CallList κ) (c : Connection δ) : Prop :=
  R.disconnectReason c.own = .invalid ∧ ∀ call ∈ L.calls, R.index call ≠ c.index

variable {R}

theorem endedWithoutReason_eq_true_iff {L : CallList κ} {c : Connection δ} :
    endedWithoutReason R L.calls c = true ↔ EndedWithoutReason R L c := by
  unfold endedWithoutReason EndedWithoutReason isListed
  simp only [Bool.and_eq_true, decide_eq_true_eq, Bool.not_eq_true', List.any_eq_false]

/-- The connection after the reason was given. -/
theorem get?_updateDisconnectedReason (m : ConnectionMap δ) (L : CallList κ)
    (reason : RilDisconnectedReason) (message : Str) (k : Int) :
    (updateDisconnectedReason R m L reason message).get? k =
      (m.get? k).map fun c =>
        if endedWithoutReason R L.calls c then setReason R reason message c else c :=
  OrdMap.get?_mapValues ..

/-- A call with a reason is not asked about. -/
theorem endedWithoutReason_setReason (hR : R.Lawful) {reason : RilDisconnectedReason}
    (hreason : reason ≠ .invalid) (message : Str) (calls : List κ) (c : Connection δ) :
    endedWithoutReason R calls (setReason R reason message c) = false := by
  have hset : R.disconnectReason (setReason R reason message c).own = reason :=
    hR.disconnectReason_set reason message c.own
  rw [endedWithoutReason, hset, decide_eq_false hreason, Bool.false_and]

/-- Where no call is without a reason, a reason is given to none. -/
theorem updateDisconnectedReason_of_none {m : ConnectionMap δ} {L : CallList κ}
    (h : hasEndCallWithoutReason R m L = false) (reason : RilDisconnectedReason) (message : Str) :
    updateDisconnectedReason R m L reason message = m := by
  refine OrdMap.ext_get? fun k => ?_
  rw [get?_updateDisconnectedReason]
  cases hc : m.get? k with
  | none => rfl
  | some c =>
    have hknown : endedWithoutReason R L.calls c = false := by
      rw [Bool.eq_false_iff]
      intro hended
      have hany := OrdMap.any_eq_true_iff.mpr ⟨k, c, hc, hended⟩
      rw [hasEndCallWithoutReason, hany] at h
      cases h
    rw [Option.map_some, hknown]
    rfl

/-! ## What a reason does to a table -/

/-- The reason goes to the calls that ended for none, and to no other; after that
nothing is left to be asked, and whatever answers follow change nothing. -/
structure Attributed (R : ReasonDomain κ δ) (m : ConnectionMap δ) (L : CallList κ)
    (reason : RilDisconnectedReason) (message : Str) : Prop where
  given : ∀ k c, m.get? k = some c → EndedWithoutReason R L c →
    (updateDisconnectedReason R m L reason message).get? k =
        some { c with own := R.setDisconnectReason reason message c.own } ∧
      R.disconnectReason (R.setDisconnectReason reason message c.own) = reason
  kept : ∀ k c, m.get? k = some c → ¬EndedWithoutReason R L c →
    (updateDisconnectedReason R m L reason message).get? k = some c
  keys : (updateDisconnectedReason R m L reason message).keys = m.keys
  answered : hasEndCallWithoutReason R (updateDisconnectedReason R m L reason message) L = false
  idempotent : updateDisconnectedReason R (updateDisconnectedReason R m L reason message) L reason
      message = updateDisconnectedReason R m L reason message
  first : ∀ later : List (RilDisconnectedReason × Str),
    later.foldl (fun m answer => updateDisconnectedReason R m L answer.1 answer.2)
        (updateDisconnectedReason R m L reason message) =
      updateDisconnectedReason R m L reason message

theorem hasEndCallWithoutReason_updateDisconnectedReason (hR : R.Lawful) (m : ConnectionMap δ)
    (L : CallList κ) {reason : RilDisconnectedReason} (hreason : reason ≠ .invalid)
    (message : Str) :
    hasEndCallWithoutReason R (updateDisconnectedReason R m L reason message) L = false := by
  rw [hasEndCallWithoutReason, Bool.eq_false_iff]
  intro hany
  obtain ⟨k, c', hc', hended⟩ := OrdMap.any_eq_true_iff.mp hany
  rw [get?_updateDisconnectedReason] at hc'
  obtain ⟨c, hc, rfl⟩ := Option.map_eq_some_iff.mp hc'
  split at hended
  · rw [endedWithoutReason_setReason hR hreason] at hended
    cases hended
  · rename_i hknown
    exact hknown hended

theorem attributed (hR : R.Lawful) (m : ConnectionMap δ) (L : CallList κ)
    {reason : RilDisconnectedReason} (hreason : reason ≠ .invalid) (message : Str) :
    Attributed R m L reason message := by
  have hanswered :=
    hasEndCallWithoutReason_updateDisconnectedReason hR m L hreason message
  refine ⟨fun k c hc hended => ⟨?_, hR.disconnectReason_set _ _ _⟩, fun k c hc hother => ?_,
    keys_updateDisconnectedReason R m L reason message, hanswered,
    updateDisconnectedReason_of_none hanswered _ _,
    List.foldl_fixed' fun _ => updateDisconnectedReason_of_none hanswered _ _⟩
  · rw [get?_updateDisconnectedReason, hc, Option.map_some,
      if_pos (endedWithoutReason_eq_true_iff.mpr hended)]
    rfl
  · rw [get?_updateDisconnectedReason, hc, Option.map_some,
      if_neg fun h => hother (endedWithoutReason_eq_true_iff.mp h)]

/-! ## What is reported -/

/-- The reason a connection ends for, where the modem answers with `reason`. -/
def finalReason (R : ReasonDomain κ δ) (reason : RilDisconnectedReason) (c : Connection δ) :
    RilDisconnectedReason :=
  if R.disconnectReason c.own = .invalid then reason else R.disconnectReason c.own

/-- One report is sent, and in it every call that is not on the list has ended, for
`reason` where no other was known. -/
def Delivers (R : ReasonDomain κ δ) (m : ConnectionMap δ) (L : CallList κ)
    (reason : RilDisconnectedReason) (reports : List (CallType × CallsReportInfo)) : Prop :=
  ∃ info, reports = [(R.callType, info)] ∧
    ∀ k c, m.get? k = some c → (∀ call ∈ L.calls, R.index call ≠ c.index) →
      ∃ entry ∈ info.callVec, entry.index = c.callReportInfo.index ∧
        entry.state = .disconnected ∧ entry.reason = finalReason R reason c

/-- The connection of a call that is not on the list, once the reason is there. -/
theorem get?_updateDisconnectedReason_of_unlisted (hR : R.Lawful) {m : ConnectionMap δ}
    {L : CallList κ} {k : Int} {c : Connection δ} (hc : m.get? k = some c)
    (hunlisted : ∀ call ∈ L.calls, R.index call ≠ c.index) (reason : RilDisconnectedReason)
    (message : Str) :
    ∃ own, (updateDisconnectedReason R m L reason message).get? k = some { c with own := own } ∧
      R.disconnectReason own = finalReason R reason c := by
  rw [get?_updateDisconnectedReason, hc, Option.map_some, finalReason]
  by_cases hinvalid : R.disconnectReason c.own = .invalid
  · rw [if_pos (endedWithoutReason_eq_true_iff.mpr ⟨hinvalid, hunlisted⟩), if_pos hinvalid]
    exact ⟨_, rfl, hR.disconnectReason_set reason message c.own⟩
  · rw [if_neg fun h => hinvalid (endedWithoutReason_eq_true_iff.mp h).1, if_neg hinvalid]
    exact ⟨c.own, rfl, rfl⟩

variable (P : Platform) (slotId : Int)

/-- An update reports the calls it ends with their reasons. -/
theorem delivers_reportUpdateInfo (hR : R.Lawful) {t : CallTable δ}
    (ht : Settled t.connectionMap) (hshown : t.isIgnoredIncomingCall = false) (L : CallList κ)
    (reason : RilDisconnectedReason) (message : Str) :
    Delivers R t.connectionMap L reason (Output.reports (reportUpdateInfo R.toCallDomain P slotId
      { t with
        connectionMap := updateDisconnectedReason R t.connectionMap L reason message } L).2) := by
  have hsettled := (holds_updateDisconnectedReason R Steady.trivial ht.holds L reason
    message).toSettled
  rw [reports_reportUpdateInfo]
  dsimp only
  rw [hshown, if_neg Bool.false_ne_true, callVec_updateInfo R.toCallDomain P slotId hsettled]
  refine ⟨_, rfl, fun k c hc hunlisted => ?_⟩
  obtain ⟨own, hget, hreason⟩ :=
    get?_updateDisconnectedReason_of_unlisted hR hc hunlisted reason message
  have hgone : isListed R.toCallDomain L.calls c.index = false := by
    rw [isListed, List.any_eq_false]
    intro call hcall
    rw [decide_eq_true_eq]
    exact hunlisted call hcall
  have hswept : { c with own := own } ∈ (unlisted R.toCallDomain L.calls
      (updateDisconnectedReason R t.connectionMap L reason message)).values := by
    refine OrdMap.mem_values_iff.mpr ⟨k, ?_⟩
    rw [unlisted, OrdMap.get?_filter, Option.filter_eq_some_iff]
    exact ⟨hget, by simp [hgone]⟩
  refine ⟨endedReport R.toCallDomain { c with own := own },
    List.mem_append_right _ (List.mem_map_of_mem hswept), hR.index_ended _ _,
    hR.state_ended _ _, (hR.reason_ended _ _).trans hreason⟩

/-- Hanging up reports every call of the table with its reason. -/
theorem delivers_reportHangUpInfo (hR : R.Lawful) {t : CallTable δ}
    (hshown : t.isIgnoredIncomingCall = false) (L : CallList κ)
    (reason : RilDisconnectedReason) (message : Str) :
    Delivers R t.connectionMap L reason (Output.reports
      (reportHangUpInfo R.toCallDomain P slotId false
        { t with
          connectionMap := updateDisconnectedReason R t.connectionMap L reason message }).2) := by
  rw [reports_reportHangUpInfo]
  dsimp only
  rw [hshown, Bool.or_false, if_neg Bool.false_ne_true]
  refine ⟨_, rfl, fun k c hc hunlisted => ?_⟩
  obtain ⟨own, hget, hreason⟩ :=
    get?_updateDisconnectedReason_of_unlisted hR hc hunlisted reason message
  have hended := List.mem_map_of_mem (f := fun c : Connection δ =>
    R.ended c.own { c.callReportInfo with state := .disconnected, accountId := slotId })
    (OrdMap.mem_values_iff.mpr ⟨k, hget⟩)
  refine ⟨R.ended own { c.callReportInfo with state := .disconnected, accountId := slotId }, ?_,
    hR.index_ended own _, hR.state_ended own _, (hR.reason_ended own _).trans hreason⟩
  unfold hangUpInfo
  dsimp only
  split
  · exact List.mem_append_left _ hended
  · exact hended

end CallTable

/-! ## The two domains -/

/-- The CS control after the modem's answers for a list. -/
def CSControl.answered (t : CSControl) (L : CallInfoList)
    (answers : List (RilDisconnectedReason × Str)) : CSControl :=
  answers.foldl (fun t answer => t.updateDisconnectedReason L answer.1) t

/-- The IMS control after the modem's answers for a list. -/
def IMSControl.answered (t : IMSControl) (L : ImsCurrentCallList)
    (answers : List (RilDisconnectedReason × Str)) : IMSControl :=
  answers.foldl (fun t answer => t.updateDisconnectedReason L answer.1 answer.2) t

/-- Once nothing is left to be asked, no answer changes the control. -/
theorem CSControl.answered_of_none {t : CSControl} {L : CallInfoList}
    (h : t.hasEndCallWithoutReason L = false) (later : List (RilDisconnectedReason × Str)) :
    t.answered L later = t := by
  unfold CSControl.answered
  apply List.foldl_fixed'
  intro answer
  rw [CSControl.updateDisconnectedReason, updateDisconnectedReason_of_none h]

theorem IMSControl.answered_of_none {t : IMSControl} {L : ImsCurrentCallList}
    (h : t.hasEndCallWithoutReason L = false) (later : List (RilDisconnectedReason × Str)) :
    t.answered L later = t := by
  unfold IMSControl.answered
  apply List.foldl_fixed'
  intro answer
  rw [IMSControl.updateDisconnectedReason, updateDisconnectedReason_of_none h]

/-- The first answer is the one that counts. -/
theorem CSControl.answered_cons (t : CSControl) (L : CallInfoList) {reason : RilDisconnectedReason}
    (hreason : reason ≠ .invalid) (message : Str) (later : List (RilDisconnectedReason × Str)) :
    t.answered L ((reason, message) :: later) = t.updateDisconnectedReason L reason :=
  CSControl.answered_of_none (t := t.updateDisconnectedReason L reason)
    (hasEndCallWithoutReason_updateDisconnectedReason CSControl.domain_lawful _ L hreason []) later

theorem IMSControl.answered_cons (t : IMSControl) (L : ImsCurrentCallList)
    {reason : RilDisconnectedReason} (hreason : reason ≠ .invalid) (message : Str)
    (later : List (RilDisconnectedReason × Str)) :
    t.answered L ((reason, message) :: later) = t.updateDisconnectedReason L reason message :=
  IMSControl.answered_of_none (t := t.updateDisconnectedReason L reason message)
    (hasEndCallWithoutReason_updateDisconnectedReason IMSControl.domain_lawful _ L hreason message)
    later

/-- The reports that follow the answers tell the reason of every call that ended. -/
structure ReasonReported (P : Platform) (slotId : Int) (s : Slot)
    (reason : RilDisconnectedReason) (message : Str)
    (later : List (RilDisconnectedReason × Str)) : Prop where
  csUpdate : ∀ t L, s.csControl = some t → t.isIgnoredIncomingCall = false →
    Delivers CSControl.domain t.connectionMap L reason (Output.reports
      (CSControl.reportUpdateInfo P slotId (t.answered L ((reason, message) :: later)) L).2)
  csHangUp : ∀ t L, s.csControl = some t → t.isIgnoredIncomingCall = false →
    Delivers CSControl.domain t.connectionMap L reason (Output.reports
      (CSControl.reportHangUpInfo P slotId (t.answered L ((reason, message) :: later))).2)
  imsUpdate : ∀ t L, s.imsControl = some t → t.isIgnoredIncomingCall = false →
    Delivers IMSControl.domain t.connectionMap L reason (Output.reports
      (IMSControl.reportUpdateInfo P slotId (t.answered L ((reason, message) :: later)) L).2)
  imsHangUp : ∀ t L, s.imsControl = some t → t.isIgnoredIncomingCall = false →
    t.isSilentCsRedial = false →
    Delivers IMSControl.domain t.connectionMap L reason (Output.reports
      (IMSControl.reportHangUpInfo P slotId (t.answered L ((reason, message) :: later))).2)

/-- A reason goes to the calls that ended for none, whatever the table and the
list, and the first one is reported, wherever a run is and unless the report is
dropped. -/
theorem reasons_attributed (P : Platform) (slotId : Int) {η : Type}
    (H : Monitor Slot Event Output η) (C : StepCond Slot Event η) (s : Slot) (h : η)
    (hrun : Run (slotMachine P slotId) H C s h) (reason : RilDisconnectedReason)
    (hreason : reason ≠ .invalid) (message : Str) (later : List (RilDisconnectedReason × Str)) :
    (∀ (t : CSControl) L, Attributed CSControl.domain t.connectionMap L reason message) ∧
      (∀ (t : IMSControl) L, Attributed IMSControl.domain t.connectionMap L reason message) ∧
      ReasonReported P slotId s reason message later := by
  have hs : s.Holds settledSpec :=
    hrun.invariant (I := fun s _ => s.Holds settledSpec) .init fun s _ e hs _ _ =>
      Slot.holds_step (settledSpec_sound P slotId) hs (settledSpec_admits e)
  refine ⟨fun t L => attributed CSControl.domain_lawful _ L hreason message,
    fun t L => attributed IMSControl.domain_lawful _ L hreason message, ?_, ?_, ?_, ?_⟩
  · intro t L ht hshown
    rw [CSControl.answered_cons t L hreason]
    exact delivers_reportUpdateInfo P slotId CSControl.domain_lawful (hs.cs t ht).toSettled hshown
      L reason []
  · intro t L ht hshown
    rw [CSControl.answered_cons t L hreason]
    exact delivers_reportHangUpInfo P slotId CSControl.domain_lawful hshown L reason []
  · intro t L ht hshown
    rw [IMSControl.answered_cons t L hreason]
    exact delivers_reportUpdateInfo P slotId IMSControl.domain_lawful (hs.ims t ht).toSettled
      hshown L reason message
  · intro t L ht hshown hloud
    rw [IMSControl.answered_cons t L hreason]
    have hdelivers := delivers_reportHangUpInfo P slotId IMSControl.domain_lawful
      (t := t.toCallTable) hshown L reason message
    rw [← hloud] at hdelivers
    exact hdelivers

/-- A remote party ends the one call of the CS table. -/
theorem reasons_attributed_remote_end :
    let M := slotMachine .plain 0
    let es : List Event := [.registerCallBack true, .csCallsData (.of [.plain 1 .active]),
      .csCallsData (.of [])]
    let s := (exec M (.free : Monitor Slot Event Output Unit) M.init () es).1
    (∀ (t : CSControl) L, Attributed CSControl.domain t.connectionMap L .normal []) ∧
      (∀ (t : IMSControl) L, Attributed IMSControl.domain t.connectionMap L .normal []) ∧
      ReasonReported .plain 0 s .normal [] [(.other 17, [])] :=
  reasons_attributed .plain 0 .free unconditional _ _ (Run.of_admits _ (by decide)) .normal
    (by decide) [] _

/-- An incoming call finds no callback and is ignored; it ends, the modem says why,
and nothing is reported. -/
theorem not_reasons_attributed :
    ¬∀ (s : Slot) (h : Unit), Run (slotMachine .plain 0) .free unconditional s h →
      ∀ (t : CSControl) (L : CallInfoList) (reason : RilDisconnectedReason),
        s.csControl = some t → reason ≠ .invalid →
        Delivers CSControl.domain t.connectionMap L reason (Output.reports
          (CSControl.reportHangUpInfo .plain 0 (t.updateDisconnectedReason L reason)).2) := by
  intro hclaim
  have hrun := Run.of_admits (M := slotMachine .plain 0) (H := .free) (C := unconditional)
    [.csCallsData (.of [.plain 1 .incoming]), .csCallsData (.of [])] (by decide)
  obtain ⟨info, hreports, -⟩ := hclaim _ _ hrun _ (.of []) .normal rfl (by decide)
  cases hreports

end CellularCall
