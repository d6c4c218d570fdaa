import CellularCall.Control.IMS
import CellularCall.Control.Satellite
import CellularCall.Lib.Machine

/-!
# The table follows the lists

A call list is the whole truth about a domain: after it, exactly the listed
indices are tracked, and the call manager has been told of every listed call
and of every call that is gone.  `Reconciled` and `ReportsChanges` say so
without mentioning marks or loops.

The controls get there by a mark and sweep that relies on what earlier lists
left behind, so the results range over the runs of a control: lists of any
length with any indices, in between dials, hang-ups and disconnect reasons.
`settled_of_run` carries the invariant, and `reconciles_of_settled` does the
rest, once for the three classes.
-/

namespace CellularCall

open Lib CallTable

section
variable {κ δ : Type} (D : CallDomain κ δ) (P : Platform) (slotId : Int)

/-- The table holds exactly the listed indices, each connection under its own
index and unmarked. -/
structure Reconciled (L : CallList κ) (m : ConnectionMap δ) : Prop where
  keys : ∀ i, i ∈ m.keys ↔ i ∈ L.calls.map D.index
  index : ∀ k c, m.get? k = some c → c.index = k
  flag : ∀ k c, m.get? k = some c → c.flag = false

/-- The report has an entry for each listed call in order, then one for each
tracked index that is not listed, by increasing index, and nothing else.  `E`
relates a connection to the report of its end. -/
def ReportsChanges (E : Connection δ → CallReportInfo → Prop) (before : ConnectionMap δ)
    (L : CallList κ) (info : CallsReportInfo) : Prop :=
  ∃ ended, info.callVec = L.calls.map (listedReport D P slotId L.calls.length) ++ ended ∧
    List.Forall₂ (fun k r => ∃ c, before.get? k = some c ∧ E c r)
      (before.keys.filter fun k => decide (k ∉ L.calls.map D.index)) ended

/-- What a control makes of a list: `incoming` and `update` are the tables its
two entry paths leave. -/
structure Reconciles (E : Connection δ → CallReportInfo → Prop) (t : CallTable δ) (L : CallList κ)
    (incoming : Bool → ConnectionMap δ) (update : ConnectionMap δ) : Prop where
  incoming : t.connectionMap.isEmpty = true → ∀ registered, Reconciled D L (incoming registered)
  update : t.connectionMap.isEmpty = false → Reconciled D L update
  report : t.connectionMap.isEmpty = false →
    ReportsChanges D P slotId E t.connectionMap L (updateInfo D P slotId t L).2.1

/-- The report of an ended call in the terms of its domain. -/
theorem reportsChanges_updateInfo {t : CallTable δ} (ht : Settled t.connectionMap)
    (L : CallList κ) :
    ReportsChanges D P slotId (fun c r => r = endedReport D c) t.connectionMap L
      (updateInfo D P slotId t L).2.1 := by
  rw [callVec_updateInfo D P slotId ht L]
  refine ⟨_, rfl, ?_⟩
  have hentries : ∀ e ∈ t.connectionMap.entries,
      (!isListed D L.calls e.2.index) = decide (e.1 ∉ L.calls.map D.index) := by
    intro e he
    rw [ht.keyed e.1 e.2 (OrdMap.mem_entries_iff.mp he)]
    by_cases hmem : e.1 ∈ L.calls.map D.index
    · simp [(isListed_iff D).mpr hmem, hmem]
    · have hlisted : isListed D L.calls e.1 = false := by
        rw [← Bool.not_eq_true, isListed_iff]
        exact hmem
      simp [hlisted, hmem]
  have hvalues : (unlisted D L.calls t.connectionMap).values =
      (t.connectionMap.entries.filter fun e => decide (e.1 ∉ L.calls.map D.index)).map
        Prod.snd := congrArg (List.map Prod.snd) (List.filter_congr hentries)
  rw [hvalues, OrdMap.keys, List.filter_map, List.map_map, List.forall₂_map_left_iff,
    List.forall₂_map_right_iff]
  refine List.forall₂_same.mpr ?_
  intro e he
  exact ⟨e.2, OrdMap.mem_entries_iff.mp (List.mem_filter.mp he).1, rfl⟩

/-- A settled table is reconciled by every list, on both entry paths. -/
theorem reconciles_of_settled {t : CallTable δ} (ht : Settled t.connectionMap) (L : CallList κ) :
    Reconciles D P slotId (fun c r => r = endedReport D c) t L
      (fun registered => (reportIncomingInfo D P registered slotId t L).1.connectionMap)
      (updateInfo D P slotId t L).1.connectionMap where
  incoming := by
    intro hempty registered
    have hsettled := settled_reportIncomingInfo D P slotId registered hempty L
    exact ⟨mem_keys_reportIncomingInfo D P slotId registered hempty L, hsettled.keyed,
      hsettled.unmarked⟩
  update := by
    intro _
    have hsettled := settled_updateInfo D P slotId ht L
    exact ⟨mem_keys_updateInfo D P slotId ht L, hsettled.keyed, hsettled.unmarked⟩
  report := fun _ => reportsChanges_updateInfo D P slotId ht L

end

/-! ## The runs of each control -/

/-- What happens to a `CSControl` on its own. -/
inductive CSEvent where
  | list (registered : Bool) (L : CallInfoList)
  | updateDisconnectedReason (L : CallInfoList) (reason : RilDisconnectedReason)
  | dial (env : CsDialEnv) (isRadioOn : Bool) (callInfo : CellularCallInfo) (isEcc : Bool)
  | hangUp (callInfo : CellularCallInfo) (type : CallSupplementType)
  | reject (callInfo : CellularCallInfo)

/-- A list goes to `ReportIncomingInfo` or `ReportUpdateInfo`, as the table is
empty or not. -/
def csTable (P : Platform) (slotId : Int) : Machine CSControl CSEvent Output where
  init := CallTable.fresh
  step t
    | .list registered L =>
      if t.connectionMap.isEmpty then CSControl.reportIncomingInfo P registered slotId t L
      else CSControl.reportUpdateInfo P slotId t L
    | .updateDisconnectedReason L reason => (CSControl.updateDisconnectedReason t L reason, [])
    | .dial env isRadioOn callInfo isEcc => (CSControl.dial env isRadioOn t callInfo isEcc).2
    | .hangUp callInfo type => (CSControl.hangUp t callInfo type).2
    | .reject callInfo => (CSControl.reject t callInfo).2

/-- What happens to an `IMSControl` on its own. -/
inductive IMSEvent where
  | list (registered : Bool) (L : ImsCurrentCallList)
  | updateDisconnectedReason (L : ImsCurrentCallList) (reason : RilDisconnectedReason)
      (message : Str)
  | dial (env : ImsDialEnv) (isRadioOn : Bool) (callInfo : CellularCallInfo) (isEcc : Bool)
  | hangUp (service : ImsService) (callInfo : CellularCallInfo) (type : CallSupplementType)
  | reject (service : ImsService) (callInfo : CellularCallInfo)
  | answer (service : ImsService) (callInfo : CellularCallInfo)
  | dialAfterHold (service : ImsService)
  | recoverPendingHold

def imsTable (P : Platform) (slotId : Int) : Machine IMSControl IMSEvent Output where
  init := IMSControl.fresh
  step t
    | .list registered L =>
      if t.connectionMap.isEmpty then IMSControl.reportIncomingInfo P registered slotId t L
      else IMSControl.reportUpdateInfo P slotId t L
    | .updateDisconnectedReason L reason message =>
      (IMSControl.updateDisconnectedReason t L reason message, [])
    | .dial env isRadioOn callInfo isEcc => (IMSControl.dial P env isRadioOn t callInfo isEcc).2
    | .hangUp service callInfo type => (IMSControl.hangUp service t callInfo type).2
    | .reject service callInfo => (IMSControl.reject service t callInfo).2
    | .answer service callInfo => (IMSControl.answer service t callInfo).2
    | .dialAfterHold service => IMSControl.dialAfterHold service t
    | .recoverPendingHold => (IMSControl.recoverPendingHold t, [])

def satelliteTable (P : Platform) (slotId : Int) :
    Machine SatelliteControl (Bool × SatelliteCurrentCallList) Output where
  init := CallTable.fresh
  step t e :=
    if t.connectionMap.isEmpty then SatelliteControl.reportIncomingInfo P e.1 slotId t e.2
    else SatelliteControl.reportUpdateInfo P slotId t e.2

section
variable {P : Platform} {slotId : Int}

theorem settled_of_csRun {t : CSControl} {h : Unit}
    (hrun : Run (csTable P slotId) Monitor.free unconditional t h) : Settled t.connectionMap := by
  refine Holds.toSettled (J := fun _ _ => True) ?_
  refine Run.invariant (I := fun t _ => Holds (fun _ _ => True) t.connectionMap) .empty ?_ hrun
  intro t _ e ht _ _
  cases e with
  | list registered L =>
    simp only [csTable]
    split
    · rename_i hempty
      exact (settled_reportIncomingInfo _ P slotId _ hempty L).holds
    · exact (CallRule.trivial _ _ _).holds_reportUpdateInfo ht.toSettled fun _ _ => trivial
  | updateDisconnectedReason L reason =>
    exact holds_updateDisconnectedReason _ Steady.trivial ht L reason []
  | dial env isRadioOn callInfo isEcc =>
    simp only [csTable, CSControl.connectionMap_dial]
    exact ht
  | hangUp callInfo type => exact CSControl.holds_hangUp Steady.trivial ht callInfo type
  | reject callInfo => exact CSControl.holds_reject Steady.trivial ht callInfo

theorem settled_of_imsRun {t : IMSControl} {h : Unit}
    (hrun : Run (imsTable P slotId) Monitor.free unconditional t h) : Settled t.connectionMap := by
  refine Holds.toSettled (J := fun _ _ => True) ?_
  refine Run.invariant (I := fun t _ => Holds (fun _ _ => True) t.connectionMap) .empty ?_ hrun
  intro t _ e ht _ _
  cases e with
  | list registered L =>
    simp only [imsTable]
    split
    · rename_i hempty
      exact (settled_reportIncomingInfo _ P slotId _ hempty L).holds
    · exact (CallRule.trivial _ _ _).holds_reportUpdateInfo ht.toSettled fun _ _ => trivial
  | updateDisconnectedReason L reason message =>
    exact holds_updateDisconnectedReason _ Steady.trivial ht L reason message
  | dial env isRadioOn callInfo isEcc =>
    exact IMSControl.holds_dial Steady.trivial ht callInfo isEcc
  | hangUp service callInfo type => exact IMSControl.holds_hangUp Steady.trivial ht callInfo type
  | reject service callInfo => exact IMSControl.holds_reject Steady.trivial ht callInfo
  | answer service callInfo => exact IMSControl.holds_answer Steady.trivial ht callInfo
  | dialAfterHold service => exact IMSControl.holds_dialAfterHold Steady.trivial ht
  | recoverPendingHold => exact IMSControl.holds_recoverPendingHold Steady.trivial ht

theorem settled_of_satelliteRun {t : SatelliteControl} {h : Unit}
    (hrun : Run (satelliteTable P slotId) Monitor.free unconditional t h) :
    Settled t.connectionMap := by
  refine Holds.toSettled (J := fun _ _ => True) ?_
  refine Run.invariant (I := fun t _ => Holds (fun _ _ => True) t.connectionMap) .empty ?_ hrun
  intro t _ e ht _ _
  simp only [satelliteTable]
  split
  · rename_i hempty
    exact (settled_reportIncomingInfo _ P slotId _ hempty e.2).holds
  · exact (CallRule.trivial _ _ _).holds_reportUpdateInfo ht.toSettled fun _ _ => trivial

end

/-- The report of the end of a CS call carries its disconnect reason. -/
def CSEnded (c : CellularCallConnectionCS) (r : CallReportInfo) : Prop :=
  r = { c.callReportInfo with state := .disconnected, reason := c.own.disconnectReason }

/-- The report of the end of an IMS call carries its reason and message. -/
def IMSEnded (c : CellularCallConnectionIMS) (r : CallReportInfo) : Prop :=
  r = { c.callReportInfo with
    state := .disconnected
    reason := c.own.disconnectReason
    message := c.own.disconnectMessage }

/-- The report of the end of a satellite call. -/
def SatelliteEnded (c : CellularCallConnectionSatellite) (r : CallReportInfo) : Prop :=
  r = { c.callReportInfo with state := .disconnected }

/-- Wherever a run has taken a control, and whatever list comes next, the table
is reconciled with the list and the report built tells exactly the changes. -/
theorem reconciles_of_run (P : Platform) (slotId : Int) :
    (∀ t h, Run (csTable P slotId) Monitor.free unconditional t h → ∀ L : CallInfoList,
      Reconciles CSControl.domain.toCallDomain P slotId CSEnded t L
        (fun registered =>
          (CSControl.reportIncomingInfo P registered slotId t L).1.connectionMap)
        (CSControl.reportUpdateInfo P slotId t L).1.connectionMap) ∧
    (∀ t h, Run (imsTable P slotId) Monitor.free unconditional t h → ∀ L : ImsCurrentCallList,
      Reconciles IMSControl.domain.toCallDomain P slotId IMSEnded t.toCallTable L
        (fun registered =>
          (IMSControl.reportIncomingInfo P registered slotId t L).1.connectionMap)
        (IMSControl.reportUpdateInfo P slotId t L).1.connectionMap) ∧
    (∀ t h, Run (satelliteTable P slotId) Monitor.free unconditional t h →
      ∀ L : SatelliteCurrentCallList,
      Reconciles SatelliteControl.domain P slotId SatelliteEnded t L
        (fun registered =>
          (SatelliteControl.reportIncomingInfo P registered slotId t L).1.connectionMap)
        (SatelliteControl.reportUpdateInfo P slotId t L).1.connectionMap) := by
  refine ⟨?_, ?_, ?_⟩
  · intro t h hrun L
    rw [CSControl.reportUpdateInfo, connectionMap_reportUpdateInfo]
    exact reconciles_of_settled CSControl.domain.toCallDomain P slotId (settled_of_csRun hrun) L
  · intro t h hrun L
    simp only [IMSControl.reportUpdateInfo, connectionMap_reportUpdateInfo]
    exact reconciles_of_settled IMSControl.domain.toCallDomain P slotId (settled_of_imsRun hrun) L
  · intro t h hrun L
    rw [SatelliteControl.reportUpdateInfo, connectionMap_reportUpdateInfo]
    exact reconciles_of_settled SatelliteControl.domain P slotId (settled_of_satelliteRun hrun) L

/-- Two calls are tracked and one of them, listed twice, is still there. -/
theorem reconciles_after_two_calls :
    Reconciles CSControl.domain.toCallDomain .plain 0 CSEnded
      (exec (csTable .plain 0) Monitor.free CallTable.fresh ()
        [.list true (.of [.plain 1 .active, .plain 2 .holding])]).1
      (.of [.plain 2 .active, .plain 2 .holding])
      (fun registered =>
        (CSControl.reportIncomingInfo .plain registered 0
          (exec (csTable .plain 0) Monitor.free CallTable.fresh ()
            [.list true (.of [.plain 1 .active, .plain 2 .holding])]).1
          (.of [.plain 2 .active, .plain 2 .holding])).1.connectionMap)
      (CSControl.reportUpdateInfo .plain 0
        (exec (csTable .plain 0) Monitor.free CallTable.fresh ()
          [.list true (.of [.plain 1 .active, .plain 2 .holding])]).1
        (.of [.plain 2 .active, .plain 2 .holding])).1.connectionMap :=
  (reconciles_of_run .plain 0).1 _ _
    (Run.of_admits (M := csTable .plain 0) (C := unconditional) _ (by decide)) _

end CellularCall
