import CellularCall.SlotInvariant

/-!
# Reports name the right call

The call manager tells calls apart by the type, the slot and the index of a
report.  A connection keeps the report it was last described with, and every
later report of the call is made from that record.  So a record that does not
name its own call spoils all of them.

There is one way to get such a record: a number too long for it makes
`EncapsulationCallReportInfo` give back a zeroed one.  `identified_of_run` shows
that there is no other: as long as every listed number fits, the tables and all
that is sent from them name the right call.
-/

namespace CellularCall

open Lib CallTable

/-- The call a report is about. -/
def CallReportInfo.identity (r : CallReportInfo) : CallType × Int × Int :=
  (r.callType, r.accountId, r.index)

/-- The report has one entry for each of these calls, in this order. -/
def NamesCalls (callType : CallType) (slotId : Int) (indices : List Int)
    (info : CallsReportInfo) : Prop :=
  info.callVec.map CallReportInfo.identity = indices.map fun i => (callType, slotId, i)

/-- The report stored with a connection is about the connection's own call. -/
def NamesItself {δ : Type} (callType : CallType) (slotId k : Int) (c : Connection δ) : Prop :=
  c.callReportInfo.identity = (callType, slotId, k)

/-- What an output says about calls: a report of a domain is about the calls
`told`, a single report about the call `single`.  Where there is no call to be
told of, the report is about none. -/
def Output.Names (slotId : Int) (told : CallType → List Int)
    (single : Option (CallType × Int)) : Output → Prop
  | .reportCallsInfo sender info =>
    told sender = [] ∨ NamesCalls sender slotId (told sender) info
  | .reportSingleCallInfo sender r =>
    ∃ i, single = some (sender, i) ∧ r.identity = (sender, slotId, i)
  | _ => True

theorem Output.names_of_isReport {slotId : Int} {told : CallType → List Int}
    {single : Option (CallType × Int)} {o : Output} (h : o.isReport = false) :
    o.Names slotId told single := by
  cases o with
  | reportCallsInfo sender info => cases h
  | reportSingleCallInfo sender info => cases h
  | _ => trivial

/-! ## One table -/

section
variable {κ δ : Type} (D : CallDomain κ δ)

/-- The calls a list tells of: the listed ones and those that have ended. -/
def toldCalls (L : CallList κ) (keys : List Int) : List Int :=
  if 0 < L.callSize then
    L.calls.map D.index ++ keys.filter fun i => decide (i ∉ L.calls.map D.index)
  else keys

/-- The domain describes the calls that are `ok` as themselves, also when they
end. -/
structure Describes (P : Platform) (slotId : Int) (ok : κ → Prop) : Prop where
  listed : ∀ call, ok call →
    (D.encapsulationCallReportInfo P slotId call).identity = (D.callType, slotId, D.index call)
  ended : ∀ own info, (D.ended own info).identity = info.identity

variable {D} {P : Platform} {slotId : Int} {ok : κ → Prop}

theorem identity_listedReport (size : Nat) (call : κ) :
    (listedReport D P slotId size call).identity =
      (D.encapsulationCallReportInfo P slotId call).identity := by
  unfold listedReport
  dsimp only
  split <;> rfl

theorem Describes.rule (hD : Describes D P slotId ok) :
    CallRule D P slotId ok (NamesItself D.callType slotId) where
  steady := by
    intro k c c' hsame hc
    rw [NamesItself, CallReportInfo.identity, hsame.callType, hsame.accountId, hsame.reportIndex]
    exact hc
  listed := by
    intro call hok c _ hreport
    rw [NamesItself]
    rcases hreport with hreport | ⟨size, hreport⟩
    · rw [hreport]
      exact hD.listed call hok
    · rw [hreport, identity_listedReport]
      exact hD.listed call hok

theorem Describes.names_incoming (hD : Describes D P slotId ok) {L : CallList κ}
    (hL : ∀ call ∈ L.calls, ok call) :
    NamesCalls D.callType slotId (L.calls.map D.index)
      ⟨slotId, L.calls.map (D.encapsulationCallReportInfo P slotId)⟩ := by
  simp only [NamesCalls, List.map_map]
  exact List.map_congr_left fun call hcall => hD.listed call (hL call hcall)

theorem Describes.names_update (hD : Describes D P slotId ok) {t : CallTable δ}
    (ht : CallTable.Holds (NamesItself D.callType slotId) t.connectionMap) {L : CallList κ}
    (hL : ∀ call ∈ L.calls, ok call) (hsize : 0 < L.callSize) :
    NamesCalls D.callType slotId (toldCalls D L t.connectionMap.keys)
      (updateInfo D P slotId t L).2.1 := by
  have hended : (unlisted D L.calls t.connectionMap).values.map
      (CallReportInfo.identity ∘ endedReport D) =
      (unlisted D L.calls t.connectionMap).keys.map fun i => (D.callType, slotId, i) := by
    refine OrdMap.map_values_eq fun k c hc => ?_
    rw [unlisted, OrdMap.get?_filter, Option.filter_eq_some_iff] at hc
    exact (hD.ended c.own _).trans (ht.each k c hc.1)
  rw [callVec_updateInfo D P slotId ht.toSettled L, NamesCalls, toldCalls, if_pos hsize]
  simp only [List.map_append, List.map_map]
  rw [hended, keys_unlisted D ht.keyed]
  refine congrArg (· ++ _) (List.map_congr_left fun call hcall => ?_)
  exact (identity_listedReport _ call).trans (hD.listed call (hL call hcall))

theorem Describes.names_hangUp (hD : Describes D P slotId ok) {m : ConnectionMap δ}
    (hm : CallTable.Holds (NamesItself D.callType slotId) m) (hempty : m.isEmpty = false) :
    NamesCalls D.callType slotId m.keys (hangUpInfo D P slotId m) := by
  rw [NamesCalls, hangUpInfo]
  simp only [hempty, Bool.false_eq_true, if_false, List.map_map]
  refine OrdMap.map_values_eq fun k c hc => (hD.ended c.own _).trans ?_
  have hself : c.callReportInfo.identity = (D.callType, slotId, k) := hm.each k c hc
  simp only [CallReportInfo.identity, Prod.mk.injEq] at hself ⊢
  exact ⟨hself.1, trivial, hself.2.2⟩

variable {told : CallType → List Int} {single : Option (CallType × Int)}

/-- Hanging up tells of the calls of the table. -/
theorem Describes.names_reportHangUpInfo (hD : Describes D P slotId ok) {t : CallTable δ}
    (ht : CallTable.Holds (NamesItself D.callType slotId) t.connectionMap)
    (htold : told D.callType = t.connectionMap.keys) (silent : Bool) :
    ∀ o ∈ (reportHangUpInfo D P slotId silent t).2, o.Names slotId told single := by
  intro o ho
  unfold reportHangUpInfo at ho
  split at ho
  · cases ho
  · rw [List.mem_singleton] at ho
    rw [ho, Output.Names, htold]
    cases hempty : t.connectionMap.isEmpty with
    | true => exact Or.inl (OrdMap.isEmpty_iff.mp hempty)
    | false => exact Or.inr (hD.names_hangUp ht hempty)

/-- Processing a list tells of the listed and the ended calls. -/
theorem Describes.names_reportCallsData (hD : Describes D P slotId ok) {t : CallTable δ}
    (ht : CallTable.Holds (NamesItself D.callType slotId) t.connectionMap) {L : CallList κ}
    (hL : ∀ call ∈ L.calls, ok call)
    (htold : told D.callType = toldCalls D L t.connectionMap.keys)
    (registered silent ask : Bool) :
    ∀ o ∈ (reportCallsData D P registered slotId silent t L ask).2,
      o.Names slotId told single := by
  have hstep := listStep D P slotId registered silent t L ask
  generalize reportCallsData D P registered slotId silent t L ask = result at hstep
  cases hstep with
  | asked =>
    intro o ho
    rw [List.mem_singleton.mp ho]
    trivial
  | hungUp _ hsize =>
    refine hD.names_reportHangUpInfo ht ?_ silent
    rw [htold, toldCalls, if_neg (by omega)]
  | incoming hsize hempty =>
    intro o ho
    unfold reportIncomingInfo at ho
    dsimp only at ho
    split at ho
    · cases ho
    · rw [List.mem_singleton] at ho
      rw [ho, Output.Names, htold, toldCalls, if_pos hsize, OrdMap.isEmpty_iff.mp hempty]
      right
      rw [List.filter_nil, List.append_nil]
      exact hD.names_incoming hL
  | updated _ hsize _ =>
    have hpost : ∀ o ∈ (updateInfo D P slotId t L).2.2, o.Names slotId told single :=
      fun o ho => Output.names_of_isReport
        (Output.isReport_of_isPostDial (isPostDial_updateInfo D P slotId t L o ho))
    intro o ho
    unfold reportUpdateInfo at ho
    dsimp only at ho
    split at ho
    · exact hpost o ho
    · rcases List.mem_append.mp ho with ho | ho
      · exact hpost o ho
      · rw [List.mem_singleton.mp ho, Output.Names, htold]
        exact Or.inr (hD.names_update ht hL hsize)

end

/-! ## Numbers that fit -/

/-- The number fits into a report. -/
def Fits (P : Platform) (number : Str) : Prop := (cStr number).length ≤ P.kMaxNumberLen

instance (P : Platform) (number : Str) : Decidable (Fits P number) :=
  inferInstanceAs (Decidable (_ ≤ _))

def CallInfo.NumberFits (P : Platform) (call : CallInfo) : Prop :=
  Fits P (formatNumberAndToa call.number call.type)

def ImsCurrentCall.NumberFits (P : Platform) (call : ImsCurrentCall) : Prop :=
  Fits P (formatNumberAndToa call.number call.toa)

instance (P : Platform) (call : CallInfo) : Decidable (call.NumberFits P) :=
  inferInstanceAs (Decidable (Fits P _))

instance (P : Platform) (call : ImsCurrentCall) : Decidable (call.NumberFits P) :=
  inferInstanceAs (Decidable (Fits P _))

theorem CSControl.describes (P : Platform) (slotId : Int) :
    Describes CSControl.domain.toCallDomain P slotId (CallInfo.NumberFits P) where
  listed := by
    intro call hfits
    simp only [CallInfo.NumberFits, Fits] at hfits
    have hlen : ¬(cStr (formatNumberAndToa call.number call.type)).length + 1 >
        P.kMaxNumberLen + 1 := by omega
    simp only [CSControl.domain, CSControl.encapsulationCallReportInfo, if_neg hlen]
    rfl
  ended := fun _ _ => rfl

theorem IMSControl.describes (P : Platform) (slotId : Int) :
    Describes IMSControl.domain.toCallDomain P slotId (ImsCurrentCall.NumberFits P) where
  listed := by
    intro call hfits
    simp only [ImsCurrentCall.NumberFits, Fits] at hfits
    have hlen : ¬(cStr (formatNumberAndToa call.number call.toa)).length + 1 >
        P.kMaxNumberLen + 1 := by omega
    simp only [IMSControl.domain, IMSControl.encapsulationCallReportInfo, if_neg hlen]
    rfl
  ended := fun _ _ => rfl

/-- Tables whose connections name themselves. -/
def identitySpec (P : Platform) (slotId : Int) : TableSpec where
  okCs := CallInfo.NumberFits P
  okIms := ImsCurrentCall.NumberFits P
  cs := NamesItself .cs slotId
  ims := NamesItself .ims slotId

theorem identitySpec_sound (P : Platform) (slotId : Int) :
    (identitySpec P slotId).Sound P slotId :=
  ⟨(CSControl.describes P slotId).rule, (IMSControl.describes P slotId).rule⟩

instance (P : Platform) (slotId : Int) (e : Event) :
    Decidable ((identitySpec P slotId).Admits e) :=
  match e with
  | .csCallsData L =>
    inferInstanceAs (Decidable (∀ call ∈ L.calls, CallInfo.NumberFits P call))
  | .imsCallsData L =>
    inferInstanceAs (Decidable (∀ call ∈ L.calls, ImsCurrentCall.NumberFits P call))
  | .callFailReason .. | .dial .. | .hangUp .. | .answer .. | .reject .. | .switchCall ..
  | .swapCallResponse .. | .radioStateChange .. | .radioWaitTimeout .. | .rilAdapterHostDied
  | .clearAllCalls .. | .registerCallBack .. | .srvccState .. | .rsrvccState =>
    isTrue trivial

/-! ## The slot -/

/-- A dial reaches the slot it names. -/
def addressed (slotId : Int) : Monitor Slot Event Output Unit where
  init := ()
  allowed _ _ e :=
    match e with
    | .dial callInfo _ _ _ _ => callInfo.slotId = slotId
    | _ => True
  update _ _ _ _ _ := ()

instance (slotId : Int) (h : Unit) (s : Slot) (e : Event) :
    Decidable ((addressed slotId).allowed h s e) :=
  match e with
  | .dial callInfo .. => inferInstanceAs (Decidable (callInfo.slotId = slotId))
  | .csCallsData .. | .imsCallsData .. | .callFailReason .. | .hangUp .. | .answer .. | .reject ..
  | .switchCall .. | .swapCallResponse .. | .radioStateChange .. | .radioWaitTimeout ..
  | .rilAdapterHostDied | .clearAllCalls .. | .registerCallBack .. | .srvccState ..
  | .rsrvccState => isTrue trivial

namespace Slot

/-- The calls an event gives each domain to report: those of the list it
processes, those the call manager names, or all that are tracked. -/
def told (slotId : Int) (s : Slot) (e : Event) : CallType → List Int
  | .cs =>
    match e with
    | .csCallsData L => toldCalls CSControl.domain.toCallDomain L s.csKeys
    | .callFailReason .. =>
      toldCalls CSControl.domain.toCallDomain s.currentCsCallInfoList s.csKeys
    | .clearAllCalls _ infos =>
      (infos.filter fun info => info.callType == .cs && info.slotId == slotId).map (·.index)
    | _ => s.csKeys
  | .ims =>
    match e with
    | .imsCallsData L => toldCalls IMSControl.domain.toCallDomain L s.imsKeys
    | .callFailReason .. => toldCalls IMSControl.domain.toCallDomain s.currentCallList s.imsKeys
    | .clearAllCalls _ infos =>
      (infos.filter fun info => info.callType == .ims && info.slotId == slotId).map (·.index)
    | _ => s.imsKeys
  | _ => []

end Slot

/-- The call a request is about. -/
def Event.requested : Event → Option (CallType × Int)
  | .hangUp _ callInfo _ => some (callInfo.callType, callInfo.index)
  | .reject _ callInfo => some (callInfo.callType, callInfo.index)
  | _ => none

/-- The stored reports name their own calls, and so does everything sent on an
event that `C` admits. -/
structure Identified (P : Platform) (slotId : Int) (C : Event → Prop) (s : Slot) : Prop where
  cs : ∀ t, s.csControl = some t → ∀ k c, t.connectionMap.get? k = some c →
    c.callReportInfo.identity = (.cs, slotId, k)
  ims : ∀ t, s.imsControl = some t → ∀ k c, t.connectionMap.get? k = some c →
    c.callReportInfo.identity = (.ims, slotId, k)
  sent : ∀ e, C e → ∀ o ∈ ((slotMachine P slotId).step s e).2,
    o.Names slotId (s.told slotId e) e.requested

/-! ### What the controls send -/

section
variable {P : Platform} {slotId : Int} {told : CallType → List Int}
  {single : Option (CallType × Int)}

/-- A request names the call it was made for. -/
theorem CSControl.names_hangUp {t : CSControl}
    (ht : CallTable.Holds (NamesItself .cs slotId) t.connectionMap) (callInfo : CellularCallInfo)
    (type : CallSupplementType) (hsingle : single = some (.cs, callInfo.index)) :
    ∀ o ∈ (t.hangUp callInfo type).2.2, o.Names slotId told single := by
  unfold CSControl.hangUp
  split
  · rw [findConnectionByIndex_eq ht.keyed]
    cases hget : t.connectionMap.get? callInfo.index with
    | none => simp
    | some c =>
      have hself : c.callReportInfo.identity = (.cs, slotId, callInfo.index) := ht.each _ c hget
      intro o ho
      simp only [Option.map_some, List.mem_cons, List.not_mem_nil, or_false] at ho
      rcases ho with rfl | rfl
      · exact ⟨callInfo.index, hsingle, hself⟩
      · trivial
  all_goals simp [Output.Names]

theorem CSControl.names_reject {t : CSControl}
    (ht : CallTable.Holds (NamesItself .cs slotId) t.connectionMap) (callInfo : CellularCallInfo)
    (hsingle : single = some (.cs, callInfo.index)) :
    ∀ o ∈ (t.reject callInfo).2.2, o.Names slotId told single := by
  unfold CSControl.reject
  rw [findConnectionByIndex_eq ht.keyed]
  cases hget : t.connectionMap.get? callInfo.index with
  | none => simp
  | some c =>
    have hself : c.callReportInfo.identity = (.cs, slotId, callInfo.index) := ht.each _ c hget
    simp only [Option.map_some]
    split
    · simp
    · intro o ho
      simp only [List.mem_cons, List.not_mem_nil, or_false] at ho
      rcases ho with rfl | rfl
      · exact ⟨callInfo.index, hsingle, hself⟩
      · trivial

theorem IMSControl.names_hangUp {service : ImsService} {t : IMSControl}
    (ht : CallTable.Holds (NamesItself .ims slotId) t.connectionMap) (callInfo : CellularCallInfo)
    (type : CallSupplementType) (hsingle : single = some (.ims, callInfo.index)) :
    ∀ o ∈ (IMSControl.hangUp service t callInfo type).2.2, o.Names slotId told single := by
  have hrequest (phoneNum : Str) (ret : RetCode) {request : Output}
      (h : request.isReport = false) :
      ∀ o ∈ (IMSControl.numberedRequest service phoneNum ret request).2,
        o.Names slotId told single := fun o ho =>
    Output.names_of_isReport (IMSControl.isReport_numberedRequest service phoneNum ret h o ho)
  unfold IMSControl.hangUp
  split
  · rw [findConnectionByIndex_eq ht.keyed]
    cases hget : t.connectionMap.get? callInfo.index with
    | none => simp
    | some c =>
      have hself : c.callReportInfo.identity = (.ims, slotId, callInfo.index) := ht.each _ c hget
      intro o ho
      rcases List.mem_cons.mp ho with rfl | ho
      · exact ⟨callInfo.index, hsingle, hself⟩
      · exact hrequest _ _ rfl o ho
  · simp [Output.Names]
  · simp [Output.Names]
  · exact hrequest _ _ rfl
  · simp

theorem IMSControl.names_reject {service : ImsService} {t : IMSControl}
    (ht : CallTable.Holds (NamesItself .ims slotId) t.connectionMap) (callInfo : CellularCallInfo)
    (hsingle : single = some (.ims, callInfo.index)) :
    ∀ o ∈ (IMSControl.reject service t callInfo).2.2, o.Names slotId told single := by
  unfold IMSControl.reject
  rw [findConnectionByIndex_eq ht.keyed]
  cases hget : t.connectionMap.get? callInfo.index with
  | none => simp
  | some c =>
    have hself : c.callReportInfo.identity = (.ims, slotId, callInfo.index) := ht.each _ c hget
    simp only [Option.map_some]
    split
    · simp
    · intro o ho
      rcases List.mem_cons.mp ho with rfl | ho
      · exact ⟨callInfo.index, hsingle, hself⟩
      · exact Output.names_of_isReport (IMSControl.isReport_numberedRequest _ _ _ rfl o ho)

theorem IMSControl.names_reportHangUpInfo {t : IMSControl}
    (ht : CallTable.Holds (NamesItself .ims slotId) t.connectionMap)
    (htold : told .ims = t.connectionMap.keys) :
    ∀ o ∈ (t.reportHangUpInfo P slotId).2, o.Names slotId told single :=
  (IMSControl.describes P slotId).names_reportHangUpInfo ht htold t.isSilentCsRedial

theorem IMSControl.names_reportImsCallsData {t : IMSControl}
    (ht : CallTable.Holds (NamesItself .ims slotId) t.connectionMap) {L : ImsCurrentCallList}
    (hL : ∀ call ∈ L.calls, call.NumberFits P)
    (htold : told .ims = toldCalls IMSControl.domain.toCallDomain L t.connectionMap.keys)
    (registered isNeedQuery : Bool) :
    ∀ o ∈ (t.reportImsCallsData P registered slotId L isNeedQuery).2,
      o.Names slotId told single := by
  rw [IMSControl.reportImsCallsData_eq]
  exact (IMSControl.describes P slotId).names_reportCallsData ht hL htold registered _ _

theorem CSControl.names_reportCsCallsData {t : CSControl}
    (ht : CallTable.Holds (NamesItself .cs slotId) t.connectionMap) {L : CallInfoList}
    (hL : ∀ call ∈ L.calls, call.NumberFits P)
    (htold : told .cs = toldCalls CSControl.domain.toCallDomain L t.connectionMap.keys)
    (registered isNeedQuery : Bool) :
    ∀ o ∈ (t.reportCsCallsData P registered slotId L isNeedQuery).2,
      o.Names slotId told single := by
  rw [CSControl.reportCsCallsData_eq]
  exact (CSControl.describes P slotId).names_reportCallsData ht hL htold registered _ _

end

/-! ### The timers of a control -/

/-- An armed timer belongs to a call of this slot. -/
def PendingHere (slotId : Int) (t : IMSControl) : Prop :=
  t.timers ≠ [] → t.pendingEmcDialCallInfo.slotId = slotId

section
variable {P : Platform} {slotId : Int}

theorem pendingHere_fresh : PendingHere slotId IMSControl.fresh := fun h => absurd rfl h

theorem PendingHere.of_emc {t t' : IMSControl} (ht : PendingHere slotId t)
    (h : t'.emc = t.emc) : PendingHere slotId t' := by
  simp only [IMSControl.emc, Prod.mk.injEq] at h
  rw [PendingHere, h.1, h.2.2.2.1]
  exact ht

/-- Dropping timers keeps the rest at home. -/
theorem PendingHere.of_timers {t t' : IMSControl} (ht : PendingHere slotId t)
    (hcall : t'.pendingEmcDialCallInfo = t.pendingEmcDialCallInfo)
    (htimers : ∀ id ∈ t'.timers, id ∈ t.timers) : PendingHere slotId t' := by
  intro hne
  obtain ⟨id, hid⟩ := List.exists_mem_of_ne_nil _ hne
  rw [hcall]
  exact ht (List.ne_nil_of_mem (htimers id hid))

theorem PendingHere.skipWaitForRadioOn {t : IMSControl} (ht : PendingHere slotId t) :
    PendingHere slotId t.skipWaitForRadioOn := by
  unfold IMSControl.skipWaitForRadioOn
  split
  · exact ht.of_timers rfl fun id hid => List.mem_of_mem_filter hid
  · exact ht

theorem PendingHere.dial {t : IMSControl} (ht : PendingHere slotId t) (env : ImsDialEnv)
    (isRadioOn : Bool) {callInfo : CellularCallInfo} (isEcc : Bool)
    (hslot : callInfo.slotId = slotId ∨ isRadioOn = true) :
    PendingHere slotId (IMSControl.dial P env isRadioOn t callInfo isEcc).2.1 := by
  have hstep := IMSControl.dialStep P env isRadioOn t callInfo isEcc
  generalize IMSControl.dial P env isRadioOn t callInfo isEcc = result at hstep
  cases hstep with
  | saved hradio =>
    intro _
    rcases hslot with hslot | hslot
    · exact hslot
    · rw [hradio] at hslot
      cases hslot
  | refused => exact ht
  | sent => exact ht.of_emc rfl
  | held => exact ht.of_emc rfl

variable {s : Slot}

/-- The control a step leaves, if it leaves one, has its timers at home. -/
theorem pendingHere_step (hs : ∀ t, s.imsControl = some t → PendingHere slotId t) {e : Event}
    (he : (addressed slotId).allowed () s e) :
    ∀ t, ((slotMachine P slotId).step s e).1.imsControl = some t → PendingHere slotId t := by
  have hgetD : PendingHere slotId (s.imsControl.getD .fresh) := by
    cases h : s.imsControl with
    | none => exact pendingHere_fresh
    | some t => exact hs t h
  intro t ht
  cases hmoves : e.movesEmc with
  | false => exact hgetD.of_emc (Slot.emc_step hmoves t ht)
  | true =>
    cases e with
    | dial callInfo isEcc useIms csEnv imsEnv =>
      simp only [slotMachine, Slot.dial, Slot.dialNormalCall] at ht
      split at ht
      · exact hs t ht
      · split at ht
        · simp only [Option.some.injEq] at ht
          rw [← ht]
          exact hgetD.dial imsEnv s.isRadioOn isEcc (Or.inl he)
        · exact hs t ht
    | radioStateChange radioOn env =>
      simp only [slotMachine, Slot.radioStateChangeProcess] at ht
      split at ht
      · exact hs t ht
      · rename_i hradio
        split at ht
        · exact hs t ht
        · rename_i c hc
          have hskip := (hs c hc).skipWaitForRadioOn
          have hdial : PendingHere slotId (IMSControl.dial P env radioOn c.skipWaitForRadioOn
              c.skipWaitForRadioOn.pendingEmcDialCallInfo true).2.1 :=
            hskip.dial env radioOn true (Or.inr (by simpa using hradio))
          split at ht
          · split at ht
            · simp only [Option.some.injEq] at ht
              rw [← ht]
              exact hdial.of_timers rfl fun id hid => hid
            · simp only [Option.some.injEq] at ht
              rw [← ht]
              exact hdial.of_timers rfl fun id hid => hid
          · simp only [Option.some.injEq] at ht
            rw [← ht]
            exact hskip
    | radioWaitTimeout timer =>
      simp only [slotMachine, Slot.radioWaitTimeout] at ht
      split at ht
      · exact hs t ht
      · rename_i c hc
        split at ht
        · simp only [Option.some.injEq] at ht
          rw [← ht]
          exact (hs c hc).of_timers rfl fun id hid => List.mem_of_mem_filter hid
        · exact hs t ht
    | _ => cases hmoves

end

/-! ### What the slot sends -/

namespace Slot

variable {P : Platform} {slotId : Int} {s : Slot}

/-- The identity of everything tracked, and the timers at home. -/
structure Named (P : Platform) (slotId : Int) (s : Slot) : Prop where
  tables : s.Holds (identitySpec P slotId)
  timers : ∀ t, s.imsControl = some t → PendingHere slotId t

variable {single : Option (CallType × Int)}

theorem names_reportCsCallsData (hs : s.Holds (identitySpec P slotId)) {L : CallInfoList}
    (hL : ∀ call ∈ L.calls, call.NumberFits P) :
    ∀ o ∈ (s.reportCsCallsData P slotId L).2,
      o.Names slotId (s.told slotId (.csCallsData L)) single := by
  have hstep := csListStep P slotId s L
  generalize s.reportCsCallsData P slotId L = result at hstep
  cases hstep with
  | idle => simp
  | asked => simp [Output.Names]
  | hungUp t hsize ht =>
    refine (CSControl.describes P slotId).names_reportHangUpInfo (hs.cs t ht) ?_ false
    show s.told slotId (.csCallsData L) .cs = t.connectionMap.keys
    rw [told, toldCalls, if_neg (by omega), csKeys_of_some ht]
  | processed t _ ht =>
    refine CSControl.names_reportCsCallsData (holds_csControlFor hs L t ht) hL ?_ _ _
    rw [← csOrFresh_of_csControlFor ht]
    rfl

theorem names_reportImsCallsData (hs : s.Holds (identitySpec P slotId)) {L : ImsCurrentCallList}
    (hL : ∀ call ∈ L.calls, call.NumberFits P) :
    ∀ o ∈ (s.reportImsCallsData P slotId L).2,
      o.Names slotId (s.told slotId (.imsCallsData L)) single := by
  have hstep := imsListStep P slotId s L
  generalize s.reportImsCallsData P slotId L = result at hstep
  cases hstep with
  | idle => simp
  | asked => simp [Output.Names]
  | hungUp t hsize ht =>
    refine IMSControl.names_reportHangUpInfo (hs.ims t ht) ?_
    rw [told, toldCalls, if_neg (by omega), imsKeys_of_some ht]
  | processed t _ ht =>
    refine IMSControl.names_reportImsCallsData (holds_imsControlFor hs L t ht) hL ?_ _ _
    rw [← imsOrFresh_of_imsControlFor ht]
    rfl

theorem names_handleCallDisconnectReason (hs : s.Holds (identitySpec P slotId))
    (asker : CallType) (reason : RilDisconnectedReason) (message : Str) :
    ∀ o ∈ (s.handleCallDisconnectReason P slotId reason message).2,
      o.Names slotId (s.told slotId (.callFailReason asker reason message)) single := by
  unfold handleCallDisconnectReason
  split
  · rename_i t ht
    refine IMSControl.names_reportImsCallsData ?_ hs.imsList ?_ _ _
    · exact holds_updateDisconnectedReason IMSControl.domain
        (identitySpec_sound P slotId).ims.steady (hs.ims t ht) _ reason message
    · simp only [told, imsKeys_of_some ht, IMSControl.updateDisconnectedReason,
        keys_updateDisconnectedReason]
  · rename_i t _ ht
    refine CSControl.names_reportCsCallsData ?_ hs.csList ?_ _ _
    · exact holds_updateDisconnectedReason CSControl.domain
        (identitySpec_sound P slotId).cs.steady (hs.cs t ht) _ reason []
    · simp only [told, csKeys_of_some ht, CSControl.updateDisconnectedReason,
        keys_updateDisconnectedReason]
  · simp

/-- A request sends what the control it goes to sends. -/
theorem names_request {told : CallType → List Int} {callInfo : CellularCallInfo}
    {onCs : CSControl → RetCode × CSControl × List Output}
    {onIms : IMSControl → RetCode × IMSControl × List Output}
    (hcs : ∀ t, s.csControl = some t → callInfo.callType = .cs →
      ∀ o ∈ (onCs t).2.2, o.Names slotId told single)
    (hims : ∀ t, s.imsControl = some t → callInfo.callType = .ims →
      ∀ o ∈ (onIms t).2.2, o.Names slotId told single) :
    ∀ o ∈ (s.request callInfo onCs onIms).2, o.Names slotId told single := by
  unfold request
  split
  · simp [Output.Names]
  · split
    · split
      · simp [Output.Names]
      · rename_i htype _ t ht
        intro o ho
        rcases List.mem_append.mp ho with ho | ho
        · exact hcs t ht htype o ho
        · rw [List.mem_singleton.mp ho]
          trivial
    · split
      · simp [Output.Names]
      · rename_i htype _ t ht
        intro o ho
        rcases List.mem_append.mp ho with ho | ho
        · exact hims t ht htype o ho
        · rw [List.mem_singleton.mp ho]
          trivial
    · simp [Output.Names]

theorem isReport_dial (callInfo : CellularCallInfo) (isEcc useIms : Bool) (csEnv : CsDialEnv)
    (imsEnv : ImsDialEnv) :
    ∀ o ∈ (s.dial P callInfo isEcc useIms csEnv imsEnv).2, o.isReport = false := by
  unfold dial dialNormalCall
  split
  · simp [Output.isReport]
  · split
    · intro o ho
      rcases List.mem_append.mp ho with ho | ho
      · exact IMSControl.isReport_dial _ _ _ _ _ _ o ho
      · rw [List.mem_singleton.mp ho]
        rfl
    · intro o ho
      rcases List.mem_append.mp ho with ho | ho
      · exact CSControl.isReport_dial _ _ _ _ _ o ho
      · rw [List.mem_singleton.mp ho]
        rfl

theorem names_radioStateChangeProcess (hs : s.Holds (identitySpec P slotId)) (radioOn : Bool)
    (env : ImsDialEnv) :
    ∀ o ∈ (s.radioStateChangeProcess P slotId radioOn env).2,
      o.Names slotId (s.told slotId (.radioStateChange radioOn env)) single := by
  unfold radioStateChangeProcess
  dsimp only
  split
  · simp
  · split
    · simp
    · rename_i t ht
      have hskip : CallTable.Holds (NamesItself .ims slotId)
          t.skipWaitForRadioOn.connectionMap := by
        rw [connectionMap_skipWaitForRadioOn]
        exact hs.ims t ht
      have hdial : ∀ o ∈ .imsControlDial t.skipWaitForRadioOn.pendingEmcDialCallInfo ::
          (IMSControl.dial P env radioOn t.skipWaitForRadioOn
            t.skipWaitForRadioOn.pendingEmcDialCallInfo true).2.2,
          o.Names slotId (s.told slotId (.radioStateChange radioOn env)) single :=
        List.forall_mem_cons.mpr ⟨Output.names_of_isReport rfl, fun o ho =>
          Output.names_of_isReport (IMSControl.isReport_dial _ _ _ _ _ _ o ho)⟩
      split
      · split
        · intro o ho
          rcases List.mem_append.mp ho with ho | ho
          · exact hdial o ho
          · refine IMSControl.names_reportHangUpInfo ?_ ?_ o ho
            · exact IMSControl.holds_dial (identitySpec_sound P slotId).ims.steady hskip _ _
            · rw [IMSControl.keys_dial, connectionMap_skipWaitForRadioOn]
              exact imsKeys_of_some ht
        · exact hdial
      · simp

theorem names_radioWaitTimeout (hs : s.Named P slotId) (timer : Nat) :
    ∀ o ∈ (s.radioWaitTimeout P timer).2,
      o.Names slotId (s.told slotId (.radioWaitTimeout timer)) single := by
  unfold radioWaitTimeout
  split
  · simp
  · rename_i t ht
    split
    · rename_i htimer
      have hhere := hs.timers t ht (List.ne_nil_of_mem htimer)
      have hkeys : s.imsKeys = t.connectionMap.keys := imsKeys_of_some ht
      simp only [IMSControl.waitForRadioOnTimeout, hhere]
      exact IMSControl.names_reportHangUpInfo (hs.tables.ims t ht) hkeys
    · simp

theorem names_onRilAdapterHostDied (hs : s.Holds (identitySpec P slotId)) :
    ∀ o ∈ (s.onRilAdapterHostDied P slotId).2,
      o.Names slotId (s.told slotId .rilAdapterHostDied) single := by
  intro o ho
  rcases List.mem_append.mp ho with ho | ho
  · split at ho
    · cases ho
    · rename_i t ht
      exact (CSControl.describes P slotId).names_reportHangUpInfo (hs.cs t ht)
        (csKeys_of_some ht) false o ho
  · split at ho
    · cases ho
    · rename_i t ht
      exact IMSControl.names_reportHangUpInfo (hs.ims t ht) (imsKeys_of_some ht) o ho

/-- The entries `ReportHangUp` makes name the calls the call manager named. -/
private theorem names_hangUpEntries {callType : CallType} {entry : CellularCallInfo → CallReportInfo}
    (hentry : ∀ info, (entry info).identity = (callType, info.slotId, info.index))
    (infos : List CellularCallInfo) :
    NamesCalls callType slotId
      ((infos.filter fun info => info.callType == callType && info.slotId == slotId).map (·.index))
      ⟨slotId, (infos.filter fun info =>
        info.callType == callType && info.slotId == slotId).map entry⟩ := by
  simp only [NamesCalls, List.map_map]
  refine List.map_congr_left fun info hinfo => ?_
  have hslot : info.slotId = slotId := by
    have hnamed := (List.mem_filter.mp hinfo).2
    simp only [Bool.and_eq_true, beq_iff_eq] at hnamed
    exact hnamed.2
  simp only [Function.comp, hentry, hslot]

theorem names_clearAllCalls (service : ImsService) (infos : List CellularCallInfo) :
    ∀ o ∈ (s.clearAllCalls P slotId service infos).2,
      o.Names slotId (s.told slotId (.clearAllCalls service infos)) single := by
  unfold clearAllCalls
  split
  · simp [Output.Names]
  · dsimp only
    intro o ho
    rcases List.mem_append.mp ho with ho | ho
    · rcases List.mem_append.mp ho with ho | ho
      · split at ho
        · cases ho
        · rcases List.mem_append.mp ho with ho | ho
          · rw [List.mem_singleton.mp ho]
            exact Or.inr (names_hangUpEntries (fun _ => rfl) infos)
          · rw [List.mem_singleton.mp ho]
            trivial
      · split at ho
        · cases ho
        · rcases List.mem_append.mp ho with ho | ho
          · rw [List.mem_singleton.mp ho]
            exact Or.inr (names_hangUpEntries (fun _ => rfl) infos)
          · exact Output.names_of_isReport (IMSControl.isReport_hangUpAllConnection _ _ o ho)
    · rw [List.mem_singleton.mp ho]
      trivial

/-- Everything sent on an event whose list fits names the right call. -/
theorem names_step (hs : s.Named P slotId) {e : Event} (he : (identitySpec P slotId).Admits e) :
    ∀ o ∈ ((slotMachine P slotId).step s e).2,
      o.Names slotId (s.told slotId e) e.requested := by
  have hquiet : ∀ {outputs : List Output}, (∀ o ∈ outputs, o.isReport = false) →
      ∀ o ∈ outputs, o.Names slotId (s.told slotId e) e.requested :=
    fun h o ho => Output.names_of_isReport (h o ho)
  cases e with
  | csCallsData L => exact names_reportCsCallsData hs.tables he
  | imsCallsData L => exact names_reportImsCallsData hs.tables he
  | callFailReason asker reason message =>
    exact names_handleCallDisconnectReason hs.tables asker reason message
  | dial callInfo isEcc useIms csEnv imsEnv =>
    exact hquiet (isReport_dial callInfo isEcc useIms csEnv imsEnv)
  | hangUp service callInfo type =>
    refine names_request (fun t ht htype => ?_) fun t ht htype => ?_
    · exact CSControl.names_hangUp (hs.tables.cs t ht) _ _ (by rw [Event.requested, htype])
    · exact IMSControl.names_hangUp (hs.tables.ims t ht) _ _ (by rw [Event.requested, htype])
  | answer service callInfo =>
    refine names_request (fun t ht htype => ?_) fun t ht htype => ?_
    · exact hquiet (CSControl.isReport_answer t callInfo)
    · exact hquiet (IMSControl.isReport_answer service t callInfo)
  | reject service callInfo =>
    refine names_request (fun t ht htype => ?_) fun t ht htype => ?_
    · exact CSControl.names_reject (hs.tables.cs t ht) _ (by rw [Event.requested, htype])
    · exact IMSControl.names_reject (hs.tables.ims t ht) _ (by rw [Event.requested, htype])
  | switchCall service =>
    refine hquiet ?_
    simp only [slotMachine, switchCall]
    split
    · simp [Output.isReport]
    · split
      · simp [Output.isReport]
      · intro o ho
        rcases List.mem_append.mp ho with ho | ho
        · exact IMSControl.isReport_switchCall _ _ _ o ho
        · rw [List.mem_singleton.mp ho]
          rfl
  | swapCallResponse request ok service =>
    refine hquiet ?_
    simp only [slotMachine, swapCallResponse]
    split
    · simp
    · split
      · exact IMSControl.isReport_dialAfterHold service _
      · simp [Output.isReport]
  | radioStateChange radioOn env => exact names_radioStateChangeProcess hs.tables radioOn env
  | radioWaitTimeout timer => exact names_radioWaitTimeout hs timer
  | rilAdapterHostDied => exact names_onRilAdapterHostDied hs.tables
  | clearAllCalls service infos => exact names_clearAllCalls service infos
  | registerCallBack registered => simp [slotMachine]
  | srvccState status =>
    simp only [slotMachine, updateSrvccStateReport]
    split <;> simp
  | rsrvccState => simp [slotMachine, updateRsrvccStateReport]

end Slot

/-- In every run whose lists carry numbers that fit, the stored reports name
their own calls, and so does everything sent on the next such event. -/
theorem identified_of_run (P : Platform) (slotId : Int) (s : Slot) (h : Unit)
    (hrun : Run (slotMachine P slotId) (addressed slotId)
      (fun _ _ e => (identitySpec P slotId).Admits e) s h) :
    Identified P slotId (identitySpec P slotId).Admits s := by
  have hnamed : s.Named P slotId := by
    refine Run.invariant (I := fun s _ => s.Named P slotId) ?_ ?_ hrun
    · exact ⟨.init, fun t ht => by cases ht⟩
    · intro s _ e hs hallowed hadmits
      exact ⟨Slot.holds_step (identitySpec_sound P slotId) hs.tables hadmits,
        pendingHere_step hs.timers hallowed⟩
  exact ⟨fun t ht => (hnamed.tables.cs t ht).each, fun t ht => (hnamed.tables.ims t ht).each,
    fun e he => Slot.names_step hnamed he⟩

/-- A call with a number of 256 digits. -/
def CallInfo.overlong : CallInfo :=
  { CallInfo.plain 1 .incoming with number := List.replicate 256 '1' }

/-- The slot after an incoming call with a number of 256 digits. -/
def Slot.afterOverlong : Slot :=
  (exec (slotMachine .plain 0) (addressed 0) Slot.init () [.csCallsData (.of [.overlong])]).1

/-- An incoming call with a number of 256 digits is stored as call 0. -/
theorem not_identified_of_run :
    ¬∀ s h, Run (slotMachine .plain 0) (addressed 0) unconditional s h →
      Identified .plain 0 (fun _ => True) s := by
  intro hclaim
  have hrun : Run (slotMachine .plain 0) (addressed 0) unconditional Slot.afterOverlong () :=
    Run.of_admits _ (by decide)
  have hstored : (Slot.afterOverlong.csControl.bind fun t => t.connectionMap.get? 1).map
      (fun c => c.callReportInfo.identity) = some (.cs, 0, 0) := by decide +kernel
  obtain ⟨c, hc, hzero⟩ := Option.map_eq_some_iff.mp hstored
  obtain ⟨t, ht, hget⟩ := Option.bind_eq_some_iff.mp hc
  have hself := (hclaim _ _ hrun).cs t ht 1 c hget
  rw [hzero] at hself
  exact absurd hself (by decide)

/-- A run with numbers that fit: an incoming call that is answered. -/
theorem identified_after_answer :
    Identified .plain 0 (identitySpec .plain 0).Admits
      (exec (slotMachine .plain 0) (addressed 0) Slot.init ()
        [.csCallsData (.of [.plain 1 .incoming]), .csCallsData (.of [.plain 1 .active])]).1 :=
  identified_of_run .plain 0 _ _ (Run.of_admits _ (by decide))

end CellularCall
