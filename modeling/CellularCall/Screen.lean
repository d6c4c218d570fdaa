import CellularCall.CallLoss
import CellularCall.Lib.Mirror
import CellularCall.Suppression

/-!
# Screens

The call manager sees no table.  It has the reports, and from them it keeps its
own calls: an entry shows a call, the entry of its end takes it away.  The calls
it shows of one type are a `Mirror` of the table, and a `Screen` says of it too
whether calls were there that it was never told of, when it registered late.

`Told` says that a screen is right about a table, and `Change` what a step of
the table has to tell.  `Told.hear` is the rule: a screen that was right hears a
change, and is right again.  The lists and the hang-up are changes, whatever the
domain, and no domain tells anything of another.

`Told` is about which calls are shown.  The last section is about their records:
a list that is reported makes those of the screen the table's.
-/

namespace CellularCall

open Lib CallTable

/-! ## Reports as entries -/

/-- `CellularCallService::EncapsulationCallReportInfo`: the end of a call whose
control is missing.  A number that does not fit leaves the record zeroed. -/
def controlExceptionReport (P : Platform) (callInfo : CellularCallInfo) : CallReportInfo :=
  if (cStr callInfo.phoneNum).length + 1 > P.kMaxNumberLen + 1 then .zeroed
  else
    { CallReportInfo.zeroed with
      accountNum := cStr callInfo.phoneNum
      index := callInfo.index
      accountId := callInfo.slotId
      state := .disconnected
      callType := callInfo.callType }

/-- A record as it is declared is of neither domain. -/
def Platform.Untyped (P : Platform) : Prop :=
  P.defaultCallReportInfo.callType ≠ .cs ∧ P.defaultCallReportInfo.callType ≠ .ims

instance (P : Platform) : Decidable P.Untyped := inferInstanceAs (Decidable (_ ∧ _))

/-- The records an output sends to the call manager. -/
def Output.records (P : Platform) : Output → List CallReportInfo
  | .reportCallsInfo _ info => info.callVec
  | .reportSingleCallInfo _ info => [info]
  | .reportControlException callInfo => [controlExceptionReport P callInfo]
  | _ => []

/-- The outputs that send none. -/
def Output.isQuiet : Output → Bool
  | .reportCallsInfo _ _ => false
  | .reportSingleCallInfo _ _ => false
  | .reportControlException _ => false
  | _ => true

theorem Output.records_of_isQuiet (P : Platform) {o : Output} (h : o.isQuiet = true) :
    o.records P = [] := by
  cases o <;> first | rfl | cases h

theorem Output.isReport_of_isQuiet {o : Output} (h : o.isQuiet = true) : o.isReport = false := by
  cases o <;> first | rfl | cases h

theorem Output.isQuiet_of_isPostDial {o : Output} (h : o.isPostDial = true) :
    o.isQuiet = true := by
  cases o <;> first | rfl | cases h

/-- A record shows its call, or takes it away. -/
def CallReportInfo.entry (r : CallReportInfo) : Int × Option CallReportInfo :=
  (r.index, if r.state = .disconnected then none else some r)

/-- What outputs say of the calls of one type in one slot. -/
def heard (P : Platform) (slotId : Int) (callType : CallType) (outputs : List Output) :
    List (Int × Option CallReportInfo) :=
  ((outputs.flatMap (Output.records P)).filter fun r =>
    r.callType == callType && r.accountId == slotId).map CallReportInfo.entry

section
variable {P : Platform} {slotId : Int} {callType : CallType} {outputs : List Output}

theorem heard_append (a b : List Output) :
    heard P slotId callType (a ++ b) = heard P slotId callType a ++ heard P slotId callType b := by
  simp only [heard, List.flatMap_append, List.filter_append, List.map_append]

theorem reportsBy_append (sender : CallType) (a b : List Output) :
    reportsBy sender (a ++ b) = (reportsBy sender a || reportsBy sender b) := by
  rw [reportsBy, Output.reports_append, List.any_append]
  rfl

/-- The entry of a record that is not the end of a call. -/
theorem CallReportInfo.entry_of_state {r : CallReportInfo} (hstate : r.state ≠ .disconnected) :
    r.entry = (r.index, some r) := by
  rw [CallReportInfo.entry, if_neg hstate]

theorem CallReportInfo.entry_of_disconnected {r : CallReportInfo}
    (hstate : r.state = .disconnected) : r.entry = (r.index, none) := by
  rw [CallReportInfo.entry, if_pos hstate]

/-- A report that names its calls is heard whole. -/
theorem heard_report {sender : CallType} {indices : List Int} {info : CallsReportInfo}
    (hnames : NamesCalls callType slotId indices info) :
    heard P slotId callType [.reportCallsInfo sender info] =
      info.callVec.map CallReportInfo.entry := by
  have hall : ∀ r ∈ info.callVec, (r.callType == callType && r.accountId == slotId) = true := by
    intro r hr
    have hmem : r.identity ∈ indices.map fun i => (callType, slotId, i) := by
      rw [← hnames]
      exact List.mem_map_of_mem hr
    obtain ⟨i, -, hi⟩ := List.mem_map.mp hmem
    simp only [CallReportInfo.identity, Prod.mk.injEq] at hi
    simp [hi.1, hi.2.1]
  simp only [heard, List.flatMap_singleton, Output.records]
  rw [List.filter_eq_self.mpr hall]

/-- The calls a report has entries for are the calls it names. -/
theorem keys_report {indices : List Int} {info : CallsReportInfo}
    (hnames : NamesCalls callType slotId indices info) :
    (info.callVec.map CallReportInfo.entry).map Prod.fst = indices := by
  have hindices := congrArg (List.map fun c : CallType × Int × Int => c.2.2) hnames
  rw [List.map_map, List.map_map] at hindices
  rw [List.map_map]
  exact hindices.trans (List.map_id indices)

/-! ## Nothing to hear -/

/-- The outputs neither show nor end a call of this type, and are no report of its
domain. -/
structure Unheard (P : Platform) (slotId : Int) (callType : CallType) (outputs : List Output) :
    Prop where
  heard : heard P slotId callType outputs = []
  reportsBy : reportsBy callType outputs = false

theorem Unheard.append {a b : List Output} (ha : Unheard P slotId callType a)
    (hb : Unheard P slotId callType b) : Unheard P slotId callType (a ++ b) where
  heard := by rw [heard_append, ha.heard, hb.heard, List.append_nil]
  reportsBy := by rw [reportsBy_append, ha.reportsBy, hb.reportsBy, Bool.or_false]

theorem Unheard.of_isQuiet (hquiet : ∀ o ∈ outputs, o.isQuiet = true) :
    Unheard P slotId callType outputs where
  heard := by
    have hnone : outputs.flatMap (Output.records P) = [] :=
      List.flatMap_eq_nil_iff.mpr fun o ho => Output.records_of_isQuiet P (hquiet o ho)
    simp only [CellularCall.heard, hnone, List.filter_nil, List.map_nil]
  reportsBy := by
    have hnone : Output.reports outputs = [] :=
      Output.reports_of_isReport fun o ho => Output.isReport_of_isQuiet (hquiet o ho)
    rw [CellularCall.reportsBy, hnone]
    rfl

theorem Unheard.nil : Unheard P slotId callType [] := .of_isQuiet (by simp)

/-- What another domain reports is not heard. -/
theorem Unheard.of_types (htypes : ∀ o ∈ outputs, ∀ r ∈ o.records P, r.callType ≠ callType)
    (hreports : CellularCall.reportsBy callType outputs = false) :
    Unheard P slotId callType outputs where
  heard := by
    rw [CellularCall.heard, List.map_eq_nil_iff, List.filter_eq_nil_iff]
    intro r hr
    obtain ⟨o, ho, hro⟩ := List.mem_flatMap.mp hr
    simp [htypes o ho r hro]
  reportsBy := hreports

end

/-! ## Screens -/

/-- What the call manager has of the calls of one type: the calls it shows, and
whether it registered while calls were there, and has had no report since. -/
structure Screen where
  shown : Mirror Int CallReportInfo
  late : Bool

/-- The screen of a call manager that registers. -/
def Screen.start (late : Bool) : Screen := ⟨.blank, late⟩

/-- A registered call manager hears what is sent. -/
def Screen.hear (P : Platform) (slotId : Int) (callType : CallType) (registered : Bool)
    (v : Screen) (outputs : List Output) : Screen :=
  if registered then
    ⟨v.shown.noteAll (heard P slotId callType outputs), v.late && !reportsBy callType outputs⟩
  else v

section
variable {P : Platform} {slotId : Int} {callType : CallType} {registered : Bool} {v : Screen}

theorem Screen.hear_unheard {outputs : List Output} (h : Unheard P slotId callType outputs) :
    v.hear P slotId callType registered outputs = v := by
  unfold Screen.hear
  rw [h.heard, h.reportsBy, Bool.not_false, Bool.and_true, Mirror.noteAll_nil]
  split <;> rfl

theorem Screen.hear_append (a b : List Output) :
    v.hear P slotId callType registered (a ++ b) =
      (v.hear P slotId callType registered a).hear P slotId callType registered b := by
  unfold Screen.hear
  cases registered with
  | false => rfl
  | true =>
    simp only [if_true, heard_append, reportsBy_append, Mirror.noteAll, List.foldl_append,
      Bool.not_or, Bool.and_assoc]

end

/-! ## A table and its screen -/

section
variable {κ δ : Type} {D : CallDomain κ δ} {P : Platform} {slotId : Int} {ok : κ → Prop}
  {registered : Bool} {t t' : CallTable δ} {v : Screen} {callType : CallType}
  {outputs : List Output}

/-- The screen is right about the table.  It shows tracked calls only, and all of
them unless the call manager registered late.  Reports are kept back only for
calls the call manager does not know of. -/
structure Told (registered : Bool) (t : CallTable δ) (v : Screen) : Prop where
  quiet : registered = false → v.shown = .blank
  tracked : ∀ i, v.shown i ≠ none → i ∈ t.connectionMap.keys
  shown : registered = true → v.late = false → ∀ i ∈ t.connectionMap.keys, v.shown i ≠ none
  ignored : t.isIgnoredIncomingCall = true →
    t.connectionMap.isEmpty = false ∧ v.shown = .blank ∧ (registered = true → v.late = true)

/-- A step of a table tells what it changes: the calls it shows are tracked and
those it ends are not, and there is an entry for every call that comes or goes
unless reports are kept back. -/
structure Change (P : Platform) (slotId : Int) (callType : CallType) (registered : Bool)
    (t t' : CallTable δ) (outputs : List Output) : Prop where
  set : ∀ entry ∈ heard P slotId callType outputs, entry.2 ≠ none →
    entry.1 ∈ t'.connectionMap.keys
  clear : ∀ entry ∈ heard P slotId callType outputs, entry.2 = none →
    entry.1 ∉ t'.connectionMap.keys
  gone : t.isIgnoredIncomingCall = false → ∀ i ∈ t.connectionMap.keys,
    i ∉ t'.connectionMap.keys → i ∈ (heard P slotId callType outputs).map Prod.fst
  new : registered = true → t.isIgnoredIncomingCall = false → ∀ i ∈ t'.connectionMap.keys,
    i ∉ t.connectionMap.keys → i ∈ (heard P slotId callType outputs).map Prod.fst
  all : reportsBy callType outputs = true → ∀ i ∈ t'.connectionMap.keys,
    i ∈ (heard P slotId callType outputs).map Prod.fst
  kept : t'.isIgnoredIncomingCall = true → t'.connectionMap.isEmpty = false ∧
    (registered = true → t.isIgnoredIncomingCall = true ∧ Unheard P slotId callType outputs)

/-- A screen that was right about a table hears a change, and is right again. -/
theorem Told.hear (h : Told registered t v)
    (hchange : Change P slotId callType registered t t' outputs) :
    Told registered t' (v.hear P slotId callType registered outputs) := by
  cases registered with
  | false =>
    have hsame : v.hear P slotId callType false outputs = v := rfl
    rw [hsame]
    have hblank := h.quiet rfl
    refine ⟨h.quiet, fun i hi => ?_, Bool.noConfusion, fun hflag => ?_⟩
    · exact absurd (congrFun hblank i) hi
    · exact ⟨(hchange.kept hflag).1, hblank, Bool.noConfusion⟩
  | true =>
    have hnext : v.hear P slotId callType true outputs =
        ⟨v.shown.noteAll (CellularCall.heard P slotId callType outputs),
          v.late && !reportsBy callType outputs⟩ := rfl
    rw [hnext]
    refine ⟨Bool.noConfusion, ?_, fun _ hlate => ?_, fun hflag => ?_⟩
    · -- while reports are kept back the screen is blank, so nothing on it can go
      intro i
      refine Mirror.noteAll_tracks hchange.set (fun i hi hgone => ?_) i
      cases hignored : t.isIgnoredIncomingCall with
      | true => exact absurd (congrFun (h.ignored hignored).2.1 i) hi
      | false => exact hchange.gone hignored i (h.tracked i hi) hgone
    · intro i
      refine Mirror.noteAll_covers hchange.clear (fun i hi hnot => ?_) i
      cases hreports : reportsBy callType outputs with
      | true => exact absurd (hchange.all hreports i hi) hnot
      | false =>
        have hold : v.late = false := by
          rw [hreports] at hlate
          simpa using hlate
        have hloud : t.isIgnoredIncomingCall = false := by
          by_contra hignored
          rw [Bool.not_eq_false] at hignored
          rw [(h.ignored hignored).2.2 rfl] at hold
          cases hold
        by_cases hbefore : i ∈ t.connectionMap.keys
        · exact h.shown rfl hold i hbefore
        · exact absurd (hchange.new rfl hloud i hi hbefore) hnot
    · obtain ⟨hkeys, hquiet⟩ := hchange.kept hflag
      obtain ⟨hignored, hunheard⟩ := hquiet rfl
      obtain ⟨-, hblank, hlate⟩ := h.ignored hignored
      rw [hunheard.heard, hunheard.reportsBy, hlate rfl]
      exact ⟨hkeys, hblank, fun _ => rfl⟩

/-- A step that tracks the same calls and tells nothing. -/
theorem Told.frame (h : Told registered t v)
    (hkeys : t'.connectionMap.keys = t.connectionMap.keys)
    (hflag : t'.isIgnoredIncomingCall = t.isIgnoredIncomingCall) : Told registered t' v where
  quiet := h.quiet
  tracked := by
    rw [hkeys]
    exact h.tracked
  shown := by
    rw [hkeys]
    exact h.shown
  ignored := by
    intro hignored
    rw [hflag] at hignored
    obtain ⟨hempty, hrest⟩ := h.ignored hignored
    refine ⟨?_, hrest⟩
    rw [← Bool.not_eq_true, OrdMap.isEmpty_iff, hkeys, ← OrdMap.isEmpty_iff, Bool.not_eq_true]
    exact hempty

/-- The same, whatever the other domain tells. -/
theorem Told.unheard (h : Told registered t v)
    (hkeys : t'.connectionMap.keys = t.connectionMap.keys)
    (hflag : t'.isIgnoredIncomingCall = t.isIgnoredIncomingCall)
    (houtputs : Unheard P slotId callType outputs) :
    Told registered t' (v.hear P slotId callType registered outputs) := by
  rw [Screen.hear_unheard houtputs]
  exact h.frame hkeys hflag

/-- An empty table is dropped, and a new one is as good. -/
theorem Told.fresh (h : Told registered t v) (hempty : t.connectionMap.keys = []) :
    Told registered (CallTable.fresh : CallTable δ) v := by
  refine h.frame hempty.symm ?_
  by_contra hflag
  have hignored : t.isIgnoredIncomingCall = true := by simpa [CallTable.fresh] using hflag
  have hnonempty := (h.ignored hignored).1
  rw [← Bool.not_eq_true, OrdMap.isEmpty_iff] at hnonempty
  exact hnonempty hempty

/-- A call manager registers anew: it knows of no call, and is late if there are
any. -/
theorem Told.register (h : Told registered t v) (registered' : Bool) :
    Told registered' t (.start !t.connectionMap.isEmpty) where
  quiet := fun _ => rfl
  tracked := fun i hi => absurd rfl hi
  shown := by
    intro _ hlate i hi
    have hempty : t.connectionMap.isEmpty = true := by simpa [Screen.start] using hlate
    rw [OrdMap.isEmpty_iff.mp hempty] at hi
    cases hi
  ignored := by
    intro hignored
    have hempty := (h.ignored hignored).1
    exact ⟨hempty, rfl, fun _ => by simp [Screen.start, hempty]⟩

/-! ### Changes -/

/-- The domain describes the calls that are `ok` as themselves, and as ongoing. -/
structure DescribesOpen (D : CallDomain κ δ) (P : Platform) (slotId : Int) (ok : κ → Prop) :
    Prop extends Describes D P slotId ok where
  going : ∀ call, ok call → (D.encapsulationCallReportInfo P slotId call).state ≠ .disconnected
  state : KeepsState D

theorem mem_heard {entry : Int × Option CallReportInfo} :
    entry ∈ heard P slotId callType outputs ↔ ∃ o ∈ outputs, ∃ r ∈ o.records P,
      (r.callType = callType ∧ r.accountId = slotId) ∧ r.entry = entry := by
  simp only [heard, List.mem_map, List.mem_filter, List.mem_flatMap, Bool.and_eq_true, beq_iff_eq]
  constructor
  · intro hmem
    obtain ⟨r, ⟨⟨o, ho, hr⟩, hcall⟩, hentry⟩ := hmem
    exact ⟨o, ho, r, hr, hcall, hentry⟩
  · intro hmem
    obtain ⟨o, ho, r, hr, hcall, hentry⟩ := hmem
    exact ⟨r, ⟨⟨o, ho, hr⟩, hcall⟩, hentry⟩

/-- Records of ends show no call. -/
theorem entry_eq_none (hends : ∀ o ∈ outputs, ∀ r ∈ o.records P, r.state = .disconnected) :
    ∀ entry ∈ heard P slotId callType outputs, entry.2 = none := by
  intro entry hentry
  obtain ⟨o, ho, r, hr, -, rfl⟩ := mem_heard.mp hentry
  rw [CallReportInfo.entry_of_disconnected (hends o ho r hr)]

/-- A table that is emptied has only to tell of the calls it had. -/
theorem Change.of_empty (hempty : t'.connectionMap.keys = [])
    (hflag : t'.isIgnoredIncomingCall = false)
    (hends : ∀ o ∈ outputs, ∀ r ∈ o.records P, r.state = .disconnected)
    (hgone : t.isIgnoredIncomingCall = false → ∀ i ∈ t.connectionMap.keys,
      i ∈ (heard P slotId callType outputs).map Prod.fst) :
    Change P slotId callType registered t t' outputs where
  set := fun entry hentry hsome => absurd (entry_eq_none hends entry hentry) hsome
  clear := by simp [hempty]
  gone := fun hloud i hi _ => hgone hloud i hi
  new := by simp [hempty]
  all := by simp [hempty]
  kept := by simp [hflag]

/-- An empty table has nothing to lose from records of ends. -/
theorem Told.hear_of_empty (h : Told registered t v) (hempty : t.connectionMap.keys = [])
    (hends : ∀ o ∈ outputs, ∀ r ∈ o.records P, r.state = .disconnected) :
    Told registered t (v.hear P slotId callType registered outputs) := by
  have hflag : t.isIgnoredIncomingCall = false := by
    by_contra hignored
    rw [Bool.not_eq_false] at hignored
    have hnonempty := (h.ignored hignored).1
    rw [OrdMap.isEmpty_iff.mpr hempty] at hnonempty
    cases hnonempty
  exact h.hear (.of_empty hempty hflag hends (by simp [hempty]))

/-- Hanging up tells of the calls of the table. -/
theorem DescribesOpen.change_reportHangUpInfo (hD : DescribesOpen D P slotId ok)
    (ht : CallTable.Holds (NamesItself D.callType slotId) t.connectionMap) (registered : Bool) :
    Change P slotId D.callType registered t (reportHangUpInfo D P slotId false t).1
      (reportHangUpInfo D P slotId false t).2 := by
  refine .of_empty (by rw [connectionMap_reportHangUpInfo, OrdMap.keys_empty])
    (isIgnored_reportHangUpInfo D P slotId false t) ?_ ?_
  · intro o ho r hr
    unfold reportHangUpInfo at ho
    split at ho
    · cases ho
    · rw [List.mem_singleton.mp ho] at hr
      exact state_hangUpInfo hD.state r hr
  · intro hloud i hi
    have hempty : t.connectionMap.isEmpty = false := by
      rw [← Bool.not_eq_true, OrdMap.isEmpty_iff]
      exact List.ne_nil_of_mem hi
    have hnames := hD.names_hangUp ht hempty
    have houtputs : (reportHangUpInfo D P slotId false t).2 =
        [.reportCallsInfo D.callType (hangUpInfo D P slotId t.connectionMap)] := by
      simp [reportHangUpInfo, hloud]
    rw [houtputs, heard_report hnames, keys_report hnames]
    exact hi

/-- A listed call is found on a screen under its own index. -/
theorem DescribesOpen.entry_of_ok (hD : DescribesOpen D P slotId ok) {call : κ} (hcall : ok call) :
    (D.encapsulationCallReportInfo P slotId call).entry =
      (D.index call, some (D.encapsulationCallReportInfo P slotId call)) := by
  have hidentity := hD.listed call hcall
  simp only [CallReportInfo.identity, Prod.mk.injEq] at hidentity
  rw [CallReportInfo.entry_of_state (hD.going call hcall), hidentity.2.2]

theorem DescribesOpen.entry_listedReport (hD : DescribesOpen D P slotId ok) {call : κ}
    (hcall : ok call) (size : Nat) :
    (listedReport D P slotId size call).entry =
      (D.index call, some (listedReport D P slotId size call)) := by
  have hidentity := (identity_listedReport size call).trans (hD.listed call hcall)
  simp only [CallReportInfo.identity, Prod.mk.injEq] at hidentity
  rw [CallReportInfo.entry_of_state fun hstate => hD.going call hcall (state_listedReport hstate),
    hidentity.2.2]

/-- A first list tells of the calls it lists. -/
theorem DescribesOpen.change_reportIncomingInfo (hD : DescribesOpen D P slotId ok)
    {L : CallList κ} (hL : ∀ call ∈ L.calls, ok call) (hempty : t.connectionMap.isEmpty = true)
    (hflag : t.isIgnoredIncomingCall = false) :
    Change P slotId D.callType registered t (reportIncomingInfo D P registered slotId t L).1
      (reportIncomingInfo D P registered slotId t L).2 := by
  have hkeys := mem_keys_reportIncomingInfo D P slotId registered hempty L
  have hold : ∀ i, i ∉ t.connectionMap.keys := by simp [OrdMap.isEmpty_iff.mp hempty]
  cases hignores : ignoresIncoming D P registered slotId L with
  | true =>
    -- without a callback nothing is told of an incoming call
    have hregistered : registered = false := by
      cases registered with
      | false => rfl
      | true => cases hignores
    have hcalls : L.calls ≠ [] := by
      intro hnil
      simp [ignoresIncoming, hnil] at hignores
    have houtputs : (reportIncomingInfo D P registered slotId t L).2 = [] := by
      simp [reportIncomingInfo, hignores]
    have hunheard : Unheard P slotId D.callType
        (reportIncomingInfo D P registered slotId t L).2 := houtputs ▸ Unheard.nil
    refine ⟨?_, ?_, fun _ i hi => absurd hi (hold i), ?_, ?_, fun _ => ⟨?_, ?_⟩⟩
    · simp [hunheard.heard]
    · simp [hunheard.heard]
    · simp [hregistered]
    · simp [hunheard.reportsBy]
    · obtain ⟨call, hcall⟩ := List.exists_mem_of_ne_nil _ hcalls
      rw [← Bool.not_eq_true, OrdMap.isEmpty_iff]
      exact List.ne_nil_of_mem ((hkeys _).mpr (List.mem_map_of_mem hcall))
    · simp [hregistered]
  | false =>
    have hnames := hD.names_incoming hL
    have houtputs : (reportIncomingInfo D P registered slotId t L).2 = [.reportCallsInfo D.callType
        ⟨slotId, L.calls.map (D.encapsulationCallReportInfo P slotId)⟩] := by
      simp [reportIncomingInfo, hignores]
    have hsome : ∀ entry ∈ heard P slotId D.callType
        (reportIncomingInfo D P registered slotId t L).2, entry.2 ≠ none := by
      intro entry hentry
      rw [houtputs, heard_report hnames, List.map_map] at hentry
      obtain ⟨call, hcall, rfl⟩ := List.mem_map.mp hentry
      simp [hD.entry_of_ok (hL call hcall)]
    have hfst : (heard P slotId D.callType
        (reportIncomingInfo D P registered slotId t L).2).map Prod.fst = L.calls.map D.index := by
      rw [houtputs, heard_report hnames, keys_report hnames]
    refine ⟨fun entry hentry _ => ?_, fun entry hentry hnone => absurd hnone (hsome entry hentry),
      fun _ i hi => absurd hi (hold i), fun _ _ i hi _ => ?_, fun _ i hi => ?_, fun hkept => ?_⟩
    · rw [hkeys, ← hfst]
      exact List.mem_map_of_mem hentry
    · rw [hfst]
      exact (hkeys i).mp hi
    · rw [hfst]
      exact (hkeys i).mp hi
    · have hsame : (reportIncomingInfo D P registered slotId t L).1.isIgnoredIncomingCall =
          t.isIgnoredIncomingCall := by simp [reportIncomingInfo, hignores]
      rw [hsame, hflag] at hkept
      cases hkept

/-- What an update reports is heard as its entries. -/
theorem DescribesOpen.heard_reportUpdateInfo (hD : DescribesOpen D P slotId ok)
    (ht : CallTable.Holds (NamesItself D.callType slotId) t.connectionMap) {L : CallList κ}
    (hL : ∀ call ∈ L.calls, ok call) (hsize : 0 < L.callSize)
    (hloud : t.isIgnoredIncomingCall = false) :
    heard P slotId D.callType (reportUpdateInfo D P slotId t L).2 =
      (updateInfo D P slotId t L).2.1.callVec.map CallReportInfo.entry := by
  have hpost : Unheard P slotId D.callType (updateInfo D P slotId t L).2.2 :=
    .of_isQuiet fun o ho => Output.isQuiet_of_isPostDial (isPostDial_updateInfo D P slotId t L o ho)
  have houtputs : (reportUpdateInfo D P slotId t L).2 = (updateInfo D P slotId t L).2.2 ++
      [.reportCallsInfo D.callType (updateInfo D P slotId t L).2.1] := by
    have hflag : (updateInfo D P slotId t L).1.isIgnoredIncomingCall = false := hloud
    unfold reportUpdateInfo
    dsimp only
    rw [hflag]
    rfl
  rw [houtputs, heard_append, hpost.heard, List.nil_append,
    heard_report (hD.names_update ht hL hsize)]

/-- A call that is not listed takes its own index away. -/
theorem DescribesOpen.entry_endedReport (hD : DescribesOpen D P slotId ok)
    (ht : CallTable.Holds (NamesItself D.callType slotId) t.connectionMap) {calls : List κ}
    {i : Int} {c : Connection δ} (hget : (unlisted D calls t.connectionMap).get? i = some c) :
    (endedReport D c).entry = (i, none) ∧ i ∉ calls.map D.index := by
  have hkey : i ∈ (unlisted D calls t.connectionMap).keys := OrdMap.mem_keys_iff.mpr ⟨c, hget⟩
  rw [keys_unlisted D ht.keyed, List.mem_filter, decide_eq_true_iff] at hkey
  rw [unlisted, OrdMap.get?_filter, Option.filter_eq_some_iff] at hget
  have hidentity : (endedReport D c).identity = (D.callType, slotId, i) :=
    (hD.ended c.own _).trans (ht.each i c hget.1)
  simp only [CallReportInfo.identity, Prod.mk.injEq] at hidentity
  rw [CallReportInfo.entry_of_disconnected (hD.state c.own _), hidentity.2.2]
  exact ⟨rfl, hkey.2⟩

/-- An update tells of the calls it lists and of those it no longer does. -/
theorem DescribesOpen.change_reportUpdateInfo (hD : DescribesOpen D P slotId ok)
    (ht : CallTable.Holds (NamesItself D.callType slotId) t.connectionMap) {L : CallList κ}
    (hL : ∀ call ∈ L.calls, ok call) (hsize : 0 < L.callSize) (hcalls : L.calls ≠ []) :
    Change P slotId D.callType registered t (reportUpdateInfo D P slotId t L).1
      (reportUpdateInfo D P slotId t L).2 := by
  have hkeys : ∀ i, i ∈ (reportUpdateInfo D P slotId t L).1.connectionMap.keys ↔
      i ∈ L.calls.map D.index := by
    rw [connectionMap_reportUpdateInfo]
    exact mem_keys_updateInfo D P slotId ht.toSettled L
  have hflag : (updateInfo D P slotId t L).1.isIgnoredIncomingCall = t.isIgnoredIncomingCall := rfl
  cases hignored : t.isIgnoredIncomingCall with
  | true =>
    have houtputs : (reportUpdateInfo D P slotId t L).2 = (updateInfo D P slotId t L).2.2 := by
      unfold reportUpdateInfo
      dsimp only
      rw [hflag, hignored]
      rfl
    have hunheard : Unheard P slotId D.callType (reportUpdateInfo D P slotId t L).2 := by
      rw [houtputs]
      exact .of_isQuiet fun o ho =>
        Output.isQuiet_of_isPostDial (isPostDial_updateInfo D P slotId t L o ho)
    refine ⟨?_, ?_, fun hloud => ?_, fun _ hloud => ?_, ?_, fun _ => ⟨?_, fun _ => ?_⟩⟩
    · simp [hunheard.heard]
    · simp [hunheard.heard]
    · rw [hignored] at hloud
      cases hloud
    · rw [hignored] at hloud
      cases hloud
    · simp [hunheard.reportsBy]
    · obtain ⟨call, hcall⟩ := List.exists_mem_of_ne_nil _ hcalls
      rw [← Bool.not_eq_true, OrdMap.isEmpty_iff]
      exact List.ne_nil_of_mem ((hkeys _).mpr (List.mem_map_of_mem hcall))
    · exact ⟨hignored, hunheard⟩
  | false =>
    have hheard := hD.heard_reportUpdateInfo ht hL hsize hignored
    have hfst : (heard P slotId D.callType (reportUpdateInfo D P slotId t L).2).map Prod.fst =
        toldCalls D L t.connectionMap.keys := by
      rw [hheard, keys_report (hD.names_update ht hL hsize)]
    -- an entry is that of a listed call or of one that has ended
    have hentries : ∀ entry ∈ heard P slotId D.callType (reportUpdateInfo D P slotId t L).2,
        (entry.2 ≠ none ∧ entry.1 ∈ L.calls.map D.index) ∨
          (entry.2 = none ∧ entry.1 ∉ L.calls.map D.index) := by
      intro entry hentry
      rw [hheard, callVec_updateInfo D P slotId ht.toSettled L, List.map_append] at hentry
      rcases List.mem_append.mp hentry with hentry | hentry
      · obtain ⟨r, hr, rfl⟩ := List.mem_map.mp hentry
        obtain ⟨call, hcall, rfl⟩ := List.mem_map.mp hr
        rw [hD.entry_listedReport (hL call hcall)]
        exact .inl ⟨Option.some_ne_none _, List.mem_map_of_mem hcall⟩
      · obtain ⟨r, hr, rfl⟩ := List.mem_map.mp hentry
        obtain ⟨c, hc, rfl⟩ := List.mem_map.mp hr
        obtain ⟨i, hget⟩ := OrdMap.mem_values_iff.mp hc
        obtain ⟨hended, hgone⟩ := hD.entry_endedReport ht hget
        rw [hended]
        exact .inr ⟨rfl, hgone⟩
    have htold : ∀ i, i ∈ L.calls.map D.index → i ∈ toldCalls D L t.connectionMap.keys := by
      intro i hi
      rw [toldCalls, if_pos hsize]
      exact List.mem_append_left _ hi
    refine ⟨fun entry hentry hsome => ?_, fun entry hentry hnone => ?_, fun _ i hi hnot => ?_,
      fun _ _ i hi _ => ?_, fun _ i hi => ?_, fun hkept => ?_⟩
    · rw [hkeys]
      rcases hentries entry hentry with hlisted | hended
      · exact hlisted.2
      · exact absurd hended.1 hsome
    · rw [hkeys]
      rcases hentries entry hentry with hlisted | hended
      · exact absurd hnone hlisted.1
      · exact hended.2
    · rw [hkeys] at hnot
      rw [hfst, toldCalls, if_pos hsize]
      exact List.mem_append_right _ (List.mem_filter.mpr ⟨hi, decide_eq_true hnot⟩)
    · rw [hfst]
      exact htold i ((hkeys i).mp hi)
    · rw [hfst]
      exact htold i ((hkeys i).mp hi)
    · unfold reportUpdateInfo at hkept
      dsimp only at hkept
      rw [hflag, hignored] at hkept
      rw [if_neg Bool.false_ne_true, hflag, hignored] at hkept
      cases hkept

/-- A list that is not kept back by a silent redial tells what it changes. -/
theorem DescribesOpen.told_reportCallsData (hD : DescribesOpen D P slotId ok)
    (h : Told registered t v)
    (ht : CallTable.Holds (NamesItself D.callType slotId) t.connectionMap) {L : CallList κ}
    (hL : ∀ call ∈ L.calls, ok call) (hannounced : L.Announced) (silent ask : Bool)
    (hsilent : L.callSize ≤ 0 → ask = false → silent = false) :
    Told registered (reportCallsData D P registered slotId silent t L ask).1
      (v.hear P slotId D.callType registered
        (reportCallsData D P registered slotId silent t L ask).2) := by
  have hcalls : 0 < L.callSize → L.calls ≠ [] := by
    intro hsize hnil
    rw [CallList.Announced, hnil] at hannounced
    simp only [List.length_nil] at hannounced
    omega
  have hstep := listStep D P slotId registered silent t L ask
  generalize reportCallsData D P registered slotId silent t L ask = result at hstep
  cases hstep with
  | asked => exact h.unheard rfl rfl (.of_isQuiet (by simp [Output.isQuiet]))
  | hungUp hask hle =>
    rw [hsilent hle hask]
    exact h.hear (hD.change_reportHangUpInfo ht registered)
  | incoming _ hempty =>
    have hflag : t.isIgnoredIncomingCall = false := by
      by_contra hignored
      rw [Bool.not_eq_false] at hignored
      rw [(h.ignored hignored).1] at hempty
      cases hempty
    exact h.hear (hD.change_reportIncomingInfo hL hempty hflag)
  | updated _ hsize =>
    exact h.hear (hD.change_reportUpdateInfo ht hL hsize (hcalls hsize))

/-- A list without calls that is processed leaves none. -/
theorem keys_reportCallsData_of_empty {L : CallList κ} (hle : L.callSize ≤ 0) {silent : Bool} :
    (reportCallsData D P registered slotId silent t L false).1.connectionMap.keys = [] := by
  simp only [reportCallsData, if_pos hle, Bool.false_eq_true, if_false]
  rw [connectionMap_reportHangUpInfo, OrdMap.keys_empty]

/-- A request that shows a tracked call in a new state. -/
theorem Told.single (h : Told registered t v) (hkeys : t'.connectionMap.keys = t.connectionMap.keys)
    (hflag : t'.isIgnoredIncomingCall = false) {r : CallReportInfo} {sender : CallType}
    (hindex : r.index ∈ t.connectionMap.keys) (hstate : r.state ≠ .disconnected)
    {rest : List Output} (hrest : ∀ o ∈ rest, o.isQuiet = true) :
    Told registered t' (v.hear P slotId callType registered
      (.reportSingleCallInfo sender r :: rest)) := by
  have hrest' : Unheard P slotId callType rest := .of_isQuiet hrest
  have hheard : ∀ entry ∈ heard P slotId callType (.reportSingleCallInfo sender r :: rest),
      entry = (r.index, some r) := by
    intro entry hentry
    rw [← List.singleton_append, heard_append, hrest'.heard, List.append_nil] at hentry
    obtain ⟨o, ho, r', hr', -, rfl⟩ := mem_heard.mp hentry
    rw [List.mem_singleton.mp ho] at hr'
    rw [List.mem_singleton.mp hr']
    exact CallReportInfo.entry_of_state hstate
  have hreports : reportsBy callType (.reportSingleCallInfo sender r :: rest) = false := by
    rw [← List.singleton_append, reportsBy_append, hrest'.reportsBy]
    rfl
  refine h.hear ⟨fun entry hentry _ => ?_, fun entry hentry hnone => ?_, fun _ i hi hnot => ?_,
    fun _ _ i hi hnot => ?_, ?_, ?_⟩
  · rw [hheard entry hentry, hkeys]
    exact hindex
  · rw [hheard entry hentry] at hnone
    cases hnone
  · rw [hkeys] at hnot
    exact absurd hi hnot
  · rw [hkeys] at hi
    exact absurd hi hnot
  · simp [hreports]
  · simp [hflag]

/-! ### The other domain -/

/-- A report that names its calls is of their type. -/
theorem callType_of_names {indices : List Int} {info : CallsReportInfo}
    (hnames : NamesCalls callType slotId indices info) :
    ∀ r ∈ info.callVec, r.callType = callType := by
  intro r hr
  have hmem : r.identity ∈ indices.map fun i => (callType, slotId, i) := by
    rw [← hnames]
    exact List.mem_map_of_mem hr
  obtain ⟨i, -, hi⟩ := List.mem_map.mp hmem
  simp only [CallReportInfo.identity, Prod.mk.injEq] at hi
  exact hi.1.symm

/-- Hanging up says nothing of the calls of another domain; a table without calls
sends an entry of no domain. -/
theorem DescribesOpen.unheard_reportHangUpInfo (hD : DescribesOpen D P slotId ok)
    (ht : CallTable.Holds (NamesItself D.callType slotId) t.connectionMap)
    (hne : D.callType ≠ callType) (hP : P.defaultCallReportInfo.callType ≠ callType)
    (silent : Bool) : Unheard P slotId callType (reportHangUpInfo D P slotId silent t).2 := by
  refine .of_types ?_ (SuppressionInvariant.reportsBy_hangUp hne)
  intro o ho r hr
  unfold reportHangUpInfo at ho
  split at ho
  · cases ho
  · rw [List.mem_singleton.mp ho] at hr
    cases hempty : t.connectionMap.isEmpty with
    | true =>
      have hvalues : t.connectionMap.values = [] := by
        rw [List.eq_nil_iff_forall_not_mem]
        intro c hc
        obtain ⟨k, hk⟩ := OrdMap.mem_values_iff.mp hc
        rw [OrdMap.isEmpty_iff_get?.mp hempty k] at hk
        cases hk
      simp only [Output.records, hangUpInfo, hempty, hvalues, if_true, List.map_nil,
        List.nil_append, List.mem_singleton] at hr
      rw [hr]
      exact hP
    | false =>
      rw [callType_of_names (hD.names_hangUp ht hempty) r hr]
      exact hne

/-- A list says nothing of the calls of another domain. -/
theorem DescribesOpen.unheard_reportCallsData (hD : DescribesOpen D P slotId ok)
    (ht : CallTable.Holds (NamesItself D.callType slotId) t.connectionMap) {L : CallList κ}
    (hL : ∀ call ∈ L.calls, ok call) (hne : D.callType ≠ callType)
    (hP : P.defaultCallReportInfo.callType ≠ callType) (registered silent ask : Bool) :
    Unheard P slotId callType (reportCallsData D P registered slotId silent t L ask).2 := by
  have hstep := listStep D P slotId registered silent t L ask
  have hsender := sender_reportCallsData D P slotId registered silent t L ask
  generalize reportCallsData D P registered slotId silent t L ask = result at hstep hsender
  have hreports := SuppressionInvariant.reportsBy_other hsender hne
  cases hstep with
  | asked => exact .of_isQuiet (by simp [Output.isQuiet])
  | hungUp => exact hD.unheard_reportHangUpInfo ht hne hP silent
  | incoming =>
    refine .of_types (fun o ho r hr => ?_) hreports
    unfold reportIncomingInfo at ho
    dsimp only at ho
    split at ho
    · cases ho
    · rw [List.mem_singleton.mp ho] at hr
      rw [callType_of_names (hD.names_incoming hL) r hr]
      exact hne
  | updated _ hsize =>
    refine .of_types (fun o ho r hr => ?_) hreports
    have hpost : o ∈ (updateInfo D P slotId t L).2.2 → False := by
      intro hmem
      rw [Output.records_of_isQuiet P
        (Output.isQuiet_of_isPostDial (isPostDial_updateInfo D P slotId t L o hmem))] at hr
      cases hr
    unfold reportUpdateInfo at ho
    dsimp only at ho
    split at ho
    · exact (hpost ho).elim
    · rcases List.mem_append.mp ho with ho | ho
      · exact (hpost ho).elim
      · rw [List.mem_singleton.mp ho] at hr
        rw [callType_of_names (hD.names_update ht hL hsize) r hr]
        exact hne

end

/-! ## Records -/

/-- The records a table has, as a mirror shows them. -/
def shownBy {δ : Type} (m : ConnectionMap δ) : Mirror Int CallReportInfo :=
  fun i => (view m i).map Prod.fst

section
variable {κ δ : Type} {D : CallDomain κ δ} {P : Platform} {slotId : Int} {ok : κ → Prop}
  {registered : Bool} {t : CallTable δ} {v : Screen}

/-- In a list without repetitions, a call is found under its index. -/
theorem firstCall_of_mem {calls : List κ} (hnodup : (calls.map D.index).Nodup) {call : κ}
    (hcall : call ∈ calls) : firstCall D calls (D.index call) = some call := by
  cases hfirst : firstCall D calls (D.index call) with
  | none => exact absurd (List.mem_map_of_mem hcall) ((firstCall_eq_none_iff D).mp hfirst)
  | some other =>
    obtain ⟨hmem, hindex⟩ := firstCall_spec D hfirst
    rw [List.inj_on_of_nodup_map hnodup hmem hcall hindex]

theorem lastCall_of_mem {calls : List κ} (hnodup : (calls.map D.index).Nodup) {call : κ}
    (hcall : call ∈ calls) : lastCall D calls (D.index call) = some call := by
  refine firstCall_of_mem ?_ (List.mem_reverse.mpr hcall)
  rw [List.map_reverse]
  exact List.nodup_reverse.mpr hnodup

/-- A screen shows no call that is not tracked. -/
theorem Told.shown_eq_none (h : Told registered t v) {i : Int} (hi : i ∉ t.connectionMap.keys) :
    v.shown i = none := by
  by_contra hshown
  exact hi (h.tracked i hshown)

theorem DescribesOpen.shown_reportHangUpInfo (hD : DescribesOpen D P slotId ok)
    (h : Told true t v) (ht : CallTable.Holds (NamesItself D.callType slotId) t.connectionMap)
    (hloud : t.isIgnoredIncomingCall = false) :
    v.shown.noteAll (heard P slotId D.callType (reportHangUpInfo D P slotId false t).2) =
      shownBy (reportHangUpInfo D P slotId false t).1.connectionMap := by
  have hchange := hD.change_reportHangUpInfo ht true
  rw [connectionMap_reportHangUpInfo]
  refine Mirror.noteAll_eq (fun entry hentry => ?_) fun i hi => ?_
  · by_contra hsome
    have hkey := hchange.set entry hentry hsome
    rw [connectionMap_reportHangUpInfo] at hkey
    cases hkey
  · refine h.shown_eq_none fun hkey => hi (hchange.gone hloud i hkey ?_)
    rw [connectionMap_reportHangUpInfo]
    exact List.not_mem_nil

theorem DescribesOpen.shown_reportIncomingInfo (hD : DescribesOpen D P slotId ok)
    (h : Told true t v) (hempty : t.connectionMap.isEmpty = true) {L : CallList κ}
    (hL : ∀ call ∈ L.calls, ok call) (hnodup : (L.calls.map D.index).Nodup) :
    v.shown.noteAll (heard P slotId D.callType (reportIncomingInfo D P true slotId t L).2) =
      shownBy (reportIncomingInfo D P true slotId t L).1.connectionMap := by
  have hnames := hD.names_incoming hL
  have houtputs : (reportIncomingInfo D P true slotId t L).2 = [.reportCallsInfo D.callType
      ⟨slotId, L.calls.map (D.encapsulationCallReportInfo P slotId)⟩] := by
    simp [reportIncomingInfo, ignoresIncoming]
  rw [houtputs, heard_report hnames]
  refine Mirror.noteAll_eq (fun entry hentry => ?_) fun i hi => ?_
  · rw [List.map_map] at hentry
    obtain ⟨call, hcall, rfl⟩ := List.mem_map.mp hentry
    rw [Function.comp_apply, hD.entry_of_ok (hL call hcall), shownBy,
      view_reportIncomingInfo D P slotId true hempty, firstCall_of_mem hnodup hcall]
    rfl
  · rw [keys_report hnames] at hi
    rw [shownBy, view_reportIncomingInfo D P slotId true hempty,
      (firstCall_eq_none_iff D).mpr hi]
    exact h.shown_eq_none (by simp [OrdMap.isEmpty_iff.mp hempty])

theorem DescribesOpen.shown_reportUpdateInfo (hD : DescribesOpen D P slotId ok)
    (h : Told true t v) (ht : CallTable.Holds (NamesItself D.callType slotId) t.connectionMap)
    (hloud : t.isIgnoredIncomingCall = false) {L : CallList κ} (hL : ∀ call ∈ L.calls, ok call)
    (hsize : 0 < L.callSize) (hnodup : (L.calls.map D.index).Nodup) :
    v.shown.noteAll (heard P slotId D.callType (reportUpdateInfo D P slotId t L).2) =
      shownBy (reportUpdateInfo D P slotId t L).1.connectionMap := by
  rw [hD.heard_reportUpdateInfo ht hL hsize hloud, connectionMap_reportUpdateInfo]
  refine Mirror.noteAll_eq (fun entry hentry => ?_) fun i hi => ?_
  · rw [callVec_updateInfo D P slotId ht.toSettled L, List.map_append] at hentry
    rcases List.mem_append.mp hentry with hentry | hentry
    · rw [List.map_map] at hentry
      obtain ⟨call, hcall, rfl⟩ := List.mem_map.mp hentry
      rw [Function.comp_apply, hD.entry_listedReport (hL call hcall), shownBy,
        view_updateInfo D P slotId ht.toSettled, lastCall_of_mem hnodup hcall]
      rfl
    · rw [List.map_map] at hentry
      obtain ⟨c, hc, rfl⟩ := List.mem_map.mp hentry
      obtain ⟨i, hget⟩ := OrdMap.mem_values_iff.mp hc
      obtain ⟨hentry, hgone⟩ := hD.entry_endedReport ht hget
      rw [Function.comp_apply, hentry, shownBy, view_updateInfo D P slotId ht.toSettled,
        (lastCall_eq_none_iff D).mpr hgone]
      rfl
  · rw [keys_report (hD.names_update ht hL hsize), toldCalls, if_pos hsize, List.mem_append,
      not_or] at hi
    rw [shownBy, view_updateInfo D P slotId ht.toSettled, (lastCall_eq_none_iff D).mpr hi.1]
    refine h.shown_eq_none fun hkey => hi.2 ?_
    exact List.mem_filter.mpr ⟨hkey, decide_eq_true hi.1⟩

/-- A list that is reported makes the records on the screen those of the table,
whatever was shown before. -/
theorem DescribesOpen.shown_reportCallsData (hD : DescribesOpen D P slotId ok)
    (h : Told true t v)
    (ht : CallTable.Holds (NamesItself D.callType slotId) t.connectionMap) {L : CallList κ}
    (hL : ∀ call ∈ L.calls, ok call) (hnodup : (L.calls.map D.index).Nodup) {silent ask : Bool}
    (hreported : reportsBy D.callType (reportCallsData D P true slotId silent t L ask).2 = true) :
    (v.hear P slotId D.callType true (reportCallsData D P true slotId silent t L ask).2).shown =
      shownBy (reportCallsData D P true slotId silent t L ask).1.connectionMap := by
  have hstep := listStep D P slotId true silent t L ask
  generalize reportCallsData D P true slotId silent t L ask = result at hstep hreported
  cases hstep with
  | asked => cases hreported
  | hungUp =>
    have hloud : (t.isIgnoredIncomingCall || silent) = false := by
      by_contra hkept
      rw [Bool.not_eq_false] at hkept
      rw [reportsBy, reports_reportHangUpInfo, if_pos hkept] at hreported
      cases hreported
    rw [Bool.or_eq_false_iff] at hloud
    rw [hloud.2]
    exact hD.shown_reportHangUpInfo h ht hloud.1
  | incoming _ hempty => exact hD.shown_reportIncomingInfo h hempty hL hnodup
  | updated _ hsize =>
    have hloud : t.isIgnoredIncomingCall = false := by
      by_contra hkept
      rw [Bool.not_eq_false] at hkept
      rw [reportsBy, reports_reportUpdateInfo, if_pos hkept] at hreported
      cases hreported
    exact hD.shown_reportUpdateInfo h ht hloud hL hsize hnodup

end

theorem CSControl.describesOpen (P : Platform) (slotId : Int) :
    DescribesOpen CSControl.domain.toCallDomain P slotId (CallInfo.Ongoing P) where
  toDescribes := CSControl.describes_ongoing P slotId
  going := fun _ hcall => CSControl.state_of_ongoing hcall
  state := CSControl.keepsState

theorem IMSControl.describesOpen (P : Platform) (slotId : Int) :
    DescribesOpen IMSControl.domain.toCallDomain P slotId (ImsCurrentCall.Ongoing P) where
  toDescribes := IMSControl.describes_ongoing P slotId
  going := fun _ hcall => IMSControl.state_of_ongoing hcall
  state := IMSControl.keepsState

/-- The hang-up of the IMS control, where no silent redial keeps it back. -/
theorem IMSControl.told_reportHangUpInfo {P : Platform} {slotId : Int} {registered : Bool}
    {t : IMSControl} {v : Screen} (h : Told registered t.toCallTable v)
    (ht : CallTable.Holds (NamesItself .ims slotId) t.connectionMap)
    (hsilent : t.isSilentCsRedial = false) :
    Told registered (t.reportHangUpInfo P slotId).1.toCallTable
      (v.hear P slotId .ims registered (t.reportHangUpInfo P slotId).2) := by
  have hnext := h.hear ((IMSControl.describesOpen P slotId).change_reportHangUpInfo ht registered)
  rw [← hsilent] at hnext
  exact hnext

theorem IMSControl.unheard_reportHangUpInfo {P : Platform} {slotId : Int} {t : IMSControl}
    (hP : P.Untyped) (ht : CallTable.Holds (NamesItself .ims slotId) t.connectionMap) :
    Unheard P slotId .cs (t.reportHangUpInfo P slotId).2 :=
  (IMSControl.describesOpen P slotId).unheard_reportHangUpInfo ht (by decide) hP.1 _

end CellularCall
