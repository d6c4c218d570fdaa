import CellularCall.Lib.Requests
import CellularCall.SlotInvariant

/-!
# The IMS calls from one event to the next

Putting a call on hold involves three members of its connection: the report,
with the state of the call and the mark of a pending hold, and the dial that is
made once the call is on hold.  `switching` is the table reduced to these.

`imsTableStep` says once what every event does to them: most leave them alone
or release every call; a list makes the table anew; a dial or an answer asks
for a switch; and the response to a switch takes marks back and makes a dial.
-/

namespace CellularCall

open Lib CallTable

namespace IMSControl

open CellularCallConnectionIMS

/-! ## What switching depends on -/

/-- The dial a connection is to make when it is on hold. -/
def heldDial (c : CellularCallConnectionIMS) : Option ImsDialInfoStruct :=
  if c.own.isNeedToDial then some c.own.holdToDialInfo else none

/-- The report of a connection and the dial it is to make. -/
def switchingOf (c : CellularCallConnectionIMS) : CallReportInfo × Option ImsDialInfoStruct :=
  (c.callReportInfo, heldDial c)

/-- The report and the dial under `k`. -/
def switching (m : ConnectionMap ImsPart) (k : Int) :
    Option (CallReportInfo × Option ImsDialInfoStruct) :=
  (m.get? k).map switchingOf

/-- The connection whose dial is made next. -/
def firstHeld (m : ConnectionMap ImsPart) : Option Int :=
  (m.first? isNeedToDial).map Prod.fst

/-- The first connection that is pending hold. -/
def firstPending (m : ConnectionMap ImsPart) : Option Int :=
  (m.first? isPendingHold).map Prod.fst

/-- The report and the dial once a switch is asked for, with a dial or without,
and accepted or refused. -/
def askedSwitch (dial : Option ImsDialInfoStruct) (accepted : Bool)
    (r : CallReportInfo × Option ImsDialInfoStruct) : CallReportInfo × Option ImsDialInfoStruct :=
  ({ r.1 with isPendingHold := accepted || r.1.isPendingHold }, dial.or r.2)

/-- The report and the dial once a response takes a mark back or makes a dial. -/
def answeredSwitch (recovered dialled : Bool)
    (r : CallReportInfo × Option ImsDialInfoStruct) : CallReportInfo × Option ImsDialInfoStruct :=
  ({ r.1 with isPendingHold := !recovered && r.1.isPendingHold }, if dialled then none else r.2)

variable {m : ConnectionMap ImsPart}

theorem switching_eq_none_iff {k : Int} : switching m k = none ↔ k ∉ m.keys := by
  rw [switching, Option.map_eq_none_iff, OrdMap.get?_eq_none_iff]

theorem switching_modify_at (key k : Int)
    (f : CellularCallConnectionIMS → CellularCallConnectionIMS)
    {g : CallReportInfo × Option ImsDialInfoStruct → CallReportInfo × Option ImsDialInfoStruct}
    (hf : ∀ c, switchingOf (f c) = g (switchingOf c)) :
    switching (m.modify key f) k =
      if k = key then (switching m k).map g else switching m k := by
  rw [switching, switching, OrdMap.get?_modify]
  split
  · cases m.get? k with
    | none => rfl
    | some c => exact congrArg some (hf c)
  · rfl

theorem switching_modify {key : Int} {f : CellularCallConnectionIMS → CellularCallConnectionIMS}
    (hf : ∀ c, switchingOf (f c) = switchingOf c) : switching (m.modify key f) = switching m := by
  funext k
  rw [switching_modify_at key k f (g := id) hf]
  split
  · exact Option.map_id'
  · rfl

theorem switching_modifyFirst {p : CellularCallConnectionIMS → Bool}
    {f : CellularCallConnectionIMS → CellularCallConnectionIMS}
    (hf : ∀ c, switchingOf (f c) = switchingOf c) :
    switching (m.modifyFirst p f) = switching m := by
  unfold OrdMap.modifyFirst
  split
  · exact switching_modify hf
  · rfl

theorem switching_mapValues {f : CellularCallConnectionIMS → CellularCallConnectionIMS}
    (hf : ∀ c, switchingOf (f c) = switchingOf c) : switching (m.mapValues f) = switching m := by
  funext k
  rw [switching, switching, OrdMap.get?_mapValues]
  cases m.get? k with
  | none => rfl
  | some c => exact congrArg some (hf c)

theorem switching_hangUp (service : ImsService) (t : IMSControl) (callInfo : CellularCallInfo)
    (type : CallSupplementType) :
    switching (hangUp service t callInfo type).2.1.connectionMap = switching t.connectionMap := by
  unfold hangUp
  split
  · split
    · rfl
    · exact switching_modify fun _ => rfl
  · exact switching_modifyFirst fun _ => rfl
  · exact switching_modifyFirst fun _ => rfl
  · exact switching_mapValues fun _ => rfl
  · rfl

theorem switching_reject (service : ImsService) (t : IMSControl) (callInfo : CellularCallInfo) :
    switching (reject service t callInfo).2.1.connectionMap = switching t.connectionMap := by
  unfold reject
  split
  · rfl
  · split
    · rfl
    · exact switching_modify fun _ => rfl

theorem switching_updateDisconnectedReason (t : IMSControl) (L : ImsCurrentCallList)
    (reason : RilDisconnectedReason) (message : Str) :
    switching (t.updateDisconnectedReason L reason message).connectionMap =
      switching t.connectionMap := by
  refine switching_mapValues fun c => ?_
  split <;> rfl

/-- A list describes the calls anew, and leaves them their dials. -/
theorem switching_of_relisted {P : Platform} {slotId : Int} {before after : ConnectionMap ImsPart}
    {L : ImsCurrentCallList} (h : Relisted domain.toCallDomain P slotId before L after) {k : Int}
    {r : CallReportInfo} {dial : Option ImsDialInfoStruct}
    (hk : switching after k = some (r, dial)) :
    (∃ call ∈ L.calls, call.index = k ∧
      (r = encapsulationCallReportInfo P slotId call ∨
        r = listedReport domain.toCallDomain P slotId L.calls.length call)) ∧
    dial = (switching before k).bind Prod.snd := by
  obtain ⟨c, hc, heq⟩ := Option.map_eq_some_iff.mp hk
  obtain ⟨-, call, hcall, hindex, hreport, hown⟩ := h.listed k c hc
  obtain ⟨rfl, rfl⟩ := Prod.mk.inj heq
  refine ⟨⟨call, hcall, hindex, hreport⟩, ?_⟩
  rw [heldDial, hown, ownOf, switching]
  cases before.get? k <;> rfl

/-- The list has the call `k`. -/
def Keeps (L : ImsCurrentCallList) (k : Int) : Prop :=
  0 < L.callSize ∧ k ∈ L.calls.map ImsCurrentCall.index

instance (L : ImsCurrentCallList) (k : Int) : Decidable (Keeps L k) :=
  inferInstanceAs (Decidable (_ ∧ _))

theorem switching_of_keeps {P : Platform} {slotId : Int} {before after : ConnectionMap ImsPart}
    {L : ImsCurrentCallList} (h : Relisted domain.toCallDomain P slotId before L after) {k : Int}
    (hk : Keeps L k) :
    ∃ r, switching after k = some (r, (switching before k).bind Prod.snd) := by
  obtain ⟨c, hc⟩ := OrdMap.mem_keys_iff.mp (h.kept hk.1 k hk.2)
  have hafter : switching after k = some (switchingOf c) := by rw [switching, hc, Option.map_some]
  exact ⟨c.callReportInfo, hafter.trans (congrArg some
    (Prod.ext rfl (switching_of_relisted h hafter).2))⟩

/-! ### Asking for a switch -/

theorem switching_switchCallRequest (service : ImsService) (key videoState k : Int) :
    switching (switchCallRequest service m key videoState).2.1 k =
      if k = key then (switching m k).map (askedSwitch none service.acceptsSwitch)
      else switching m k := by
  have hkept : switching m k =
      if k = key then (switching m k).map (askedSwitch none false) else switching m k := by
    split
    · exact Option.map_id'.symm
    · rfl
  unfold switchCallRequest ImsService.acceptsSwitch
  cases service.needCallImsService with
  | false => exact hkept
  | true =>
    simp only [if_true, Bool.true_and]
    by_cases hret : service.switchCall = .success
    · rw [if_pos hret, decide_eq_true hret]
      exact switching_modify_at key k _ fun _ => rfl
    · rw [if_neg hret, decide_eq_false hret]
      exact hkept

theorem acceptsSwitch_switchCallRequest (service : ImsService) (key videoState : Int) :
    Output.acceptsSwitch (switchCallRequest service m key videoState).2.2 =
      service.acceptsSwitch := by
  unfold switchCallRequest ImsService.acceptsSwitch
  cases service.needCallImsService <;> simp [Output.acceptsSwitch]

theorem acceptsSwitch_switchCall (service : ImsService) (slotId : Int) (t : IMSControl) :
    Output.acceptsSwitch (switchCall service slotId t).2 = service.acceptsSwitch := by
  unfold switchCall ImsService.acceptsSwitch
  cases service.needCallImsService <;> simp [Output.acceptsSwitch]

/-- A dial that is put into a connection replaces the one that was there. -/
theorem switching_holdDial (service : ImsService) (key videoState k : Int)
    (info : ImsDialInfoStruct) :
    switching (switchCallRequest service (m.modify key (holdDial info)) key videoState).2.1 k =
      if k = key then (switching m k).map (askedSwitch (some info) service.acceptsSwitch)
      else switching m k := by
  rw [switching_switchCallRequest, switching_modify_at key k (holdDial info)
    (g := fun r => (r.1, some info)) fun _ => rfl]
  split
  · rw [Option.map_map]
    rfl
  · rfl

/-- The connection a dial is put into is there, and it is active. -/
theorem holdPath_spec {env : ImsDialEnv} {isRadioOn : Bool} {t : IMSControl}
    {callInfo : CellularCallInfo} {isEcc : Bool} {key : Int} {info : ImsDialInfoStruct}
    (h : holdPath env isRadioOn t callInfo isEcc = some (key, info)) :
    ∃ c, t.connectionMap.get? key = some c ∧ c.getStatus = .active := by
  unfold holdPath at h
  split at h
  · cases h
  · split at h
    · obtain ⟨⟨key', c⟩, htarget, heq⟩ := Option.map_eq_some_iff.mp h
      rw [Prod.mk.injEq] at heq
      obtain ⟨hc, hp⟩ := OrdMap.get?_of_first?_eq_some htarget
      simp only [Bool.and_eq_true, decide_eq_true_eq] at hp
      exact ⟨c, heq.1 ▸ hc, hp.1⟩
    · cases h

/-- The connection an answer switches to hold is the first that is active, and
it was not pending hold. -/
theorem answerPath_spec {service : ImsService} {t : IMSControl} {callInfo : CellularCallInfo}
    {key : Int} (h : answerPath service t callInfo = some key) :
    ∃ c, findConnectionByState t.connectionMap .active = some (key, c) ∧
      isPendingHold c = false ∧
      (findConnectionByIndex t.connectionMap callInfo.index).any
        (fun found => decide (found.2.getStatus = .waiting)) = true := by
  unfold answerPath at h
  split at h
  · cases h
  · rename_i index connection hfind
    split at h
    · cases h
    · obtain ⟨⟨key', c⟩, htarget, rfl⟩ := Option.map_eq_some_iff.mp h
      unfold answerTarget at htarget
      split at htarget
      · rename_i key'' con hactive
        split at htarget
        · rename_i hcase
          rw [Option.some.injEq, Prod.mk.injEq] at htarget
          obtain ⟨rfl, rfl⟩ := htarget
          exact ⟨con, hactive, hcase.1, by simp [hfind, hcase.2]⟩
        · cases htarget
      · cases htarget

/-! ### The response -/

theorem switching_recoverPendingHold (t : IMSControl) (k : Int) :
    switching (recoverPendingHold t).connectionMap k =
      (switching t.connectionMap k).map
        (answeredSwitch (decide (firstPending t.connectionMap = some k)) false) := by
  have hkept (recovered : Bool) (h : recovered = false) :
      switching t.connectionMap k =
        (switching t.connectionMap k).map (answeredSwitch recovered false) := by
    subst h
    exact Option.map_id'.symm
  unfold recoverPendingHold OrdMap.modifyFirst firstPending
  dsimp only
  cases hfirst : t.connectionMap.first? isPendingHold with
  | none => exact hkept _ (by simp)
  | some found =>
    simp only [Option.map_some, Option.some.injEq]
    rw [switching_modify_at found.1 k _ (g := answeredSwitch true false) fun _ => rfl]
    split
    · rename_i hk
      rw [hk, decide_eq_true rfl]
    · rename_i hk
      exact hkept _ (decide_eq_false fun h => hk h.symm)

theorem firstHeld_recoverPendingHold (t : IMSControl) :
    firstHeld (recoverPendingHold t).connectionMap = firstHeld t.connectionMap := by
  unfold recoverPendingHold OrdMap.modifyFirst
  dsimp only
  split
  · exact OrdMap.first?_modify fun _ => rfl
  · rfl

theorem switching_dialAfterHold (service : ImsService) (t : IMSControl) (k : Int) :
    switching (dialAfterHold service t).1.connectionMap k =
      (switching t.connectionMap k).map
        (answeredSwitch false (decide (firstHeld t.connectionMap = some k))) := by
  have hkept (dialled : Bool) (h : dialled = false) :
      switching t.connectionMap k =
        (switching t.connectionMap k).map (answeredSwitch false dialled) := by
    subst h
    exact Option.map_id'.symm
  unfold dialAfterHold firstHeld
  cases hfirst : t.connectionMap.first? isNeedToDial with
  | none => exact hkept _ (by simp)
  | some found =>
    simp only [Option.map_some, Option.some.injEq]
    rw [switching_modify_at found.1 k _ (g := answeredSwitch false true) fun _ => rfl]
    split
    · rename_i hk
      rw [hk, decide_eq_true rfl]
    · rename_i hk
      exact hkept _ (decide_eq_false fun h => hk h.symm)

/-- `DialAfterHold` makes the first dial there is. -/
theorem imsDials_dialAfterHold (service : ImsService) (t : IMSControl) :
    Output.imsDials (dialAfterHold service t).2 =
      ((firstHeld t.connectionMap).bind fun key =>
        (switching t.connectionMap key).bind Prod.snd).toList := by
  unfold dialAfterHold firstHeld
  cases hfirst : t.connectionMap.first? isNeedToDial with
  | none => rfl
  | some found =>
    obtain ⟨hc, hneed⟩ := OrdMap.get?_of_first?_eq_some hfirst
    have hheld : heldDial found.2 = some found.2.own.holdToDialInfo := if_pos hneed
    simp [switching, hc, switchingOf, hheld, dialRequest, Output.imsDials]

end IMSControl

open IMSControl

namespace Slot

variable {s : Slot}

/-! ## The table -/

/-- The IMS connections. -/
abbrev imsTable (s : Slot) : ConnectionMap ImsPart := s.imsOrFresh.connectionMap

theorem imsTable_of_none (hnone : s.imsControl = none) : s.imsTable = ∅ := by
  rw [imsTable, imsOrFresh, hnone]
  rfl

theorem imsTable_reportCsCallsData (P : Platform) (slotId : Int) (L : CallInfoList) :
    (s.reportCsCallsData P slotId L).1.imsTable = s.imsTable := by
  have hstep := csListStep P slotId s L
  generalize s.reportCsCallsData P slotId L = result at hstep
  cases hstep with
  | idle => rfl
  | asked => rfl
  | hungUp => rfl
  | processed => exact congrArg CallTable.connectionMap (imsOrFresh_markSilent (L := L) _ rfl)

/-- The radio changes nothing in the table while no emergency call waits for
it. -/
theorem imsTable_radioStateChangeProcess (P : Platform) (slotId : Int) (radioOn : Bool)
    (env : ImsDialEnv) (hpending : s.imsOrFresh.isPendingEmc = false) :
    (s.radioStateChangeProcess P slotId radioOn env).1.imsTable = s.imsTable := by
  unfold radioStateChangeProcess
  dsimp only
  split
  · rfl
  · split
    · rfl
    · rename_i t ht
      rw [imsOrFresh_of_some ht] at hpending
      have hskip : t.skipWaitForRadioOn.isPendingEmc = false := by
        unfold IMSControl.skipWaitForRadioOn
        split <;> exact hpending
      simp only [hskip, Bool.false_eq_true, if_false]
      rw [imsTable, imsTable, imsOrFresh_of_some ht]
      exact connectionMap_skipWaitForRadioOn t

/-- A timer that expires empties the table. -/
theorem imsTable_radioWaitTimeout (P : Platform) (timer : Nat) :
    (s.radioWaitTimeout P timer).1.imsTable =
      if timer ∈ s.imsOrFresh.timers then ∅ else s.imsTable := by
  unfold radioWaitTimeout
  split
  · rename_i hnone
    rw [imsOrFresh, hnone]
    rfl
  · rename_i t ht
    rw [imsOrFresh_of_some ht]
    split
    · simp [imsTable, imsOrFresh, IMSControl.waitForRadioOnTimeout, IMSControl.setPendingEmcFlag,
        connectionMap_imsReportHangUpInfo]
    · rfl

/-- An IMS list leaves the table alone, or makes it anew if it ends no call for
an unknown reason. -/
theorem imsTable_reportImsCallsData (P : Platform) (slotId : Int) (hs : Settled s.imsTable)
    (L : ImsCurrentCallList) :
    (s.reportImsCallsData P slotId L).1.imsTable = s.imsTable ∨
      s.imsOrFresh.hasEndCallWithoutReason L = false ∧
        Relisted IMSControl.domain.toCallDomain P slotId s.imsTable L
          (s.reportImsCallsData P slotId L).1.imsTable := by
  have hstep := imsListStep P slotId s L
  generalize s.reportImsCallsData P slotId L = result at hstep
  cases hstep with
  | idle => exact Or.inl rfl
  | asked => exact Or.inl rfl
  | hungUp t hsize ht hend =>
    refine Or.inr ⟨by rw [imsOrFresh_of_some ht, hend], fun k c hc => ?_, fun hpos => ?_⟩
    · cases hc
    · omega
  | processed t hsize ht =>
    have ht' := imsOrFresh_of_imsControlFor ht
    have hafter (s' : Slot) (t' : IMSControl) (h' : s'.imsControl = some t') :
        s'.imsTable = t'.connectionMap := by rw [imsTable, imsOrFresh_of_some h']
    have hsettled : Settled t.connectionMap := by
      rw [← ht']
      exact hs
    rw [hafter _ _ rfl, imsTable, ht', IMSControl.reportImsCallsData_eq]
    cases hend : t.hasEndCallWithoutReason L with
    | false => exact Or.inr ⟨rfl, relisted_reportCallsData _ P slotId s.registered hsettled _ L⟩
    | true =>
      have hsame := reportCallsData_of_ask IMSControl.domain.toCallDomain P slotId s.registered
        t.isSilentCsRedial L (isEmpty_of_hasEndCallWithoutReason hend)
      exact Or.inl (congrArg CallTable.connectionMap hsame)

/-- A disconnect reason has the last list processed, with the reason filled in
first. -/
theorem imsTable_handleCallDisconnectReason (P : Platform) (slotId : Int) (hs : Settled s.imsTable)
    (reason : RilDisconnectedReason) (message : Str) :
    (s.imsTable = ∅ ∧
      (s.handleCallDisconnectReason P slotId reason message).1.imsTable = ∅) ∨
    Relisted IMSControl.domain.toCallDomain P slotId
      (s.imsOrFresh.updateDisconnectedReason s.currentCallList reason message).connectionMap
      s.currentCallList (s.handleCallDisconnectReason P slotId reason message).1.imsTable := by
  cases ht : s.imsControl with
  | none =>
    left
    refine ⟨imsTable_of_none ht, imsTable_of_none ?_⟩
    unfold handleCallDisconnectReason
    rw [ht]
    cases hcs : s.csControl with
    | none => exact ht
    | some t =>
      dsimp only
      rw [imsControl_dropEmpty]
      split <;> rfl
  | some t =>
    right
    have hupdated := (holds_updateDisconnectedReason IMSControl.domain Steady.trivial
      (Settled.holds (by rw [imsTable, imsOrFresh_of_some ht] at hs; exact hs))
      s.currentCallList reason message).toSettled
    have hrelisted := relisted_reportCallsData IMSControl.domain.toCallDomain P slotId s.registered
      (t := (t.updateDisconnectedReason s.currentCallList reason message).toCallTable) hupdated
      t.isSilentCsRedial s.currentCallList
    rw [imsOrFresh_of_some ht]
    simp only [handleCallDisconnectReason, ht, imsTable, imsOrFresh, imsControl_dropEmpty]
    split
    · rename_i hsize
      refine ⟨fun k c hc => ?_, fun hpos => ?_⟩
      · cases hc
      · omega
    · rw [IMSControl.reportImsCallsData_eq]
      exact hrelisted

/-! ## What an event asks and releases -/

/-- The connection an event asks to switch to hold, and the dial that waits for
it, if it is a dial that asks. -/
def switchPath (s : Slot) : Event → Option (Int × Option ImsDialInfoStruct)
  | .dial callInfo isEcc useIms _ env =>
    if s.serviceSrvccState = .started ∨ useIms = false then none
    else (IMSControl.holdPath env s.isRadioOn s.imsOrFresh callInfo isEcc).map fun held =>
      (held.1, some held.2)
  | .answer service callInfo =>
    if s.serviceSrvccState = .started ∨ callInfo.callType ≠ .ims then none
    else (IMSControl.answerPath service s.imsOrFresh callInfo).map fun key => (key, none)
  | _ => none

/-- The list the IMS control processes on an event.  A list is put off while it
ends a call for an unknown reason, and ignored during a hand-over. -/
def processedList (s : Slot) : Event → Option ImsCurrentCallList
  | .imsCallsData L =>
    if s.imsOrFresh.hasEndCallWithoutReason L = true ∨
        (L.callSize ≠ 0 ∧ s.srvccState = .started) then none
    else some L
  | .callFailReason _ _ _ => some s.currentCallList
  | _ => none

/-- The event releases every IMS call. -/
def releasesAll (s : Slot) : Event → Bool
  | .radioWaitTimeout timer => decide (timer ∈ s.imsOrFresh.timers)
  | .rilAdapterHostDied => true
  | .clearAllCalls _ infos => decide (infos ≠ [])
  | .srvccState status => decide (status = .completed)
  | _ => false

end Slot

/-- The event is not about a switch: neither a dial or an answer that asks for
one, nor the user's own, nor a response. -/
def Event.isPlain (s : Slot) : Event → Bool
  | .switchCall _ => false
  | .swapCallResponse _ _ _ => false
  | e => (s.switchPath e).isNone

theorem Event.switchPath_of_isPlain {s : Slot} {e : Event} (hplain : e.isPlain s = true) :
    s.switchPath e = none := by
  cases e with
  | switchCall service => rfl
  | swapCallResponse q ok service => rfl
  | _ => exact Option.isNone_iff_eq_none.mp hplain

/-- The answer of the IMS service to the switch an event asks for. -/
def Event.acceptsSwitch : Event → Bool
  | .dial _ _ _ _ env => env.service.acceptsSwitch
  | .answer service _ => service.acceptsSwitch
  | .switchCall service => service.acceptsSwitch
  | _ => false

/-- A dial or an answer. -/
def Event.asksHold : Event → Bool
  | .dial .. => true
  | .answer .. => true
  | _ => false

/-- The events that can come after the requests so far: a response answers one of
them, and the radio does not change while an emergency call waits for it. -/
def Event.Follows (r : Requests) (s : Slot) : Event → Prop
  | .swapCallResponse q _ _ => q ∈ r.unanswered
  | .radioStateChange _ _ => s.imsOrFresh.isPendingEmc = false
  | _ => True

instance (r : Requests) (s : Slot) (e : Event) : Decidable (e.Follows r s) :=
  match e with
  | .swapCallResponse q .. => inferInstanceAs (Decidable (q ∈ r.unanswered))
  | .radioStateChange .. => inferInstanceAs (Decidable (s.imsOrFresh.isPendingEmc = false))
  | .csCallsData .. | .imsCallsData .. | .callFailReason .. | .dial .. | .hangUp .. | .answer ..
  | .reject .. | .switchCall .. | .radioWaitTimeout .. | .rilAdapterHostDied | .clearAllCalls ..
  | .registerCallBack .. | .srvccState .. | .rsrvccState => isTrue trivial

/-- What an event does to the IMS calls, as far as switching goes.  The number
of outputs it says something about is small: a dial or an answer that asks for
no switch sends none. -/
inductive ImsTableStep (P : Platform) (slotId : Int) (s : Slot) (e : Event) :
    Slot × List Output → Prop
  | kept (s' : Slot) (outputs : List Output) : e.isPlain s = true →
      (e.asksHold = true → ∀ o ∈ outputs, o.isImsSwitch = false) →
      switching s'.imsTable = switching s.imsTable → ImsTableStep P slotId s e (s', outputs)
  | released (s' : Slot) (outputs : List Output) : e.isPlain s = true → e.asksHold = false →
      s.releasesAll e = true → s'.imsTable = ∅ → ImsTableStep P slotId s e (s', outputs)
  | listed (L : ImsCurrentCallList) (before : ConnectionMap ImsPart) (s' : Slot)
      (outputs : List Output) : e.isPlain s = true → e.asksHold = false →
      s.processedList e = some L → switching before = switching s.imsTable →
      Relisted IMSControl.domain.toCallDomain P slotId before L s'.imsTable →
      ImsTableStep P slotId s e (s', outputs)
  | asked (key : Int) (dial : Option ImsDialInfoStruct) (c : CellularCallConnectionIMS)
      (s' : Slot) (outputs : List Output) : s.switchPath e = some (key, dial) →
      s.imsTable.get? key = some c → c.getStatus = .active →
      Output.acceptsSwitch outputs = e.acceptsSwitch →
      (∀ k, switching s'.imsTable k =
        if k = key then (switching s.imsTable k).map (askedSwitch dial e.acceptsSwitch)
        else switching s.imsTable k) →
      ImsTableStep P slotId s e (s', outputs)
  | userSwitch (service : ImsService) (outputs : List Output) : e = .switchCall service →
      (Output.acceptsSwitch outputs = true → e.acceptsSwitch = true) →
      ImsTableStep P slotId s e (s, outputs)
  | answered (q : Nat) (ok : Bool) (service : ImsService) (s' : Slot) (outputs : List Output) :
      e = .swapCallResponse q ok service →
      Output.imsDials outputs = ((if ok then firstHeld s.imsTable else none).bind fun key =>
        (switching s.imsTable key).bind Prod.snd).toList →
      (∀ k, switching s'.imsTable k = (switching s.imsTable k).map
        (answeredSwitch (decide (firstPending s.imsTable = some k))
          (ok && decide (firstHeld s.imsTable = some k)))) →
      ImsTableStep P slotId s e (s', outputs)

namespace ImsTableStep

variable {P : Platform} {slotId : Int} {s : Slot}

/-- What a response sends is the dial of the connection that is first to dial, and the
switch succeeded. -/
theorem of_imsDials {q : Nat} {ok : Bool} {service : ImsService} {result : Slot × List Output}
    (h : ImsTableStep P slotId s (.swapCallResponse q ok service) result)
    {info : ImsDialInfoStruct} (hinfo : info ∈ Output.imsDials result.2) :
    ok = true ∧ ∃ key, firstHeld s.imsTable = some key ∧
      (switching s.imsTable key).bind Prod.snd = some info := by
  cases h with
  | kept _ _ hplain => cases hplain
  | released _ _ hplain => cases hplain
  | listed _ _ _ _ hplain => cases hplain
  | asked _ _ _ _ _ hpath => cases hpath
  | userSwitch _ _ he => cases he
  | answered q ok service s' outputs he hdials _ =>
    cases he
    rw [hdials, Option.mem_toList] at hinfo
    obtain ⟨key, hkey, hheld⟩ := Option.bind_eq_some_iff.mp hinfo
    cases ok with
    | false => cases hkey
    | true => exact ⟨rfl, key, hkey, hheld⟩

/-- A request of the service leaves the calls alone if the control does. -/
theorem switching_request {callInfo : CellularCallInfo}
    {onCs : CSControl → RetCode × CSControl × List Output}
    {onIms : IMSControl → RetCode × IMSControl × List Output}
    (hims : ∀ t, switching (onIms t).2.1.connectionMap = switching t.connectionMap) :
    switching (s.request callInfo onCs onIms).1.imsTable = switching s.imsTable := by
  unfold Slot.request
  split
  · rfl
  · split
    · split <;> rfl
    · split
      · rfl
      · rename_i t ht
        rw [Slot.imsTable, Slot.imsTable, Slot.imsOrFresh_of_some ht]
        exact hims t
    · rfl

theorem of_dial (callInfo : CellularCallInfo) (isEcc useIms : Bool) (csEnv : CsDialEnv)
    (env : ImsDialEnv) :
    ImsTableStep P slotId s (.dial callInfo isEcc useIms csEnv env)
      (s.dial P callInfo isEcc useIms csEnv env) := by
  unfold Slot.dial Slot.dialNormalCall
  split
  · rename_i hsrvcc
    refine .kept _ _ (by simp [Event.isPlain, Slot.switchPath, hsrvcc]) (fun _ o ho => ?_) rfl
    rw [List.mem_singleton.mp ho]
    rfl
  · rename_i hsrvcc
    cases useIms with
    | false =>
      refine .kept _ _ (by simp [Event.isPlain, Slot.switchPath]) (fun _ o ho => ?_) rfl
      rcases List.mem_append.mp ho with ho | ho
      · exact CSControl.isImsSwitch_dial csEnv _ _ callInfo isEcc o ho
      · rw [List.mem_singleton.mp ho]
        rfl
    | true =>
      have hplain (hpath : IMSControl.holdPath env s.isRadioOn s.imsOrFresh callInfo isEcc = none) :
          Event.isPlain s (.dial callInfo isEcc true csEnv env) = true := by
        simp [Event.isPlain, Slot.switchPath, hpath]
      simp only [if_true]
      have hstep := dialStep P env s.isRadioOn (s.imsControl.getD .fresh) callInfo isEcc
      generalize IMSControl.dial P env s.isRadioOn _ callInfo isEcc = result at hstep
      cases hstep with
      | saved _ _ hpath =>
        refine .kept _ _ (hplain hpath) (fun _ o ho => ?_) rfl
        simp only [savePendingEmcCallInfo, List.cons_append, List.nil_append, List.mem_cons,
          List.not_mem_nil, or_false] at ho
        rcases ho with rfl | rfl <;> rfl
      | refused ret _ hpath =>
        refine .kept _ _ (hplain hpath) (fun _ o ho => ?_) rfl
        rw [List.mem_singleton.mp ho]
        rfl
      | sent ret pending request hpath =>
        refine .kept _ _ (hplain hpath) (fun _ o ho => ?_) rfl
        simp only [List.cons_append, List.nil_append, List.mem_cons, List.not_mem_nil,
          or_false] at ho
        rcases ho with rfl | rfl <;> rfl
      | held key info pending hpath =>
        obtain ⟨c, hc, hactive⟩ := holdPath_spec hpath
        refine .asked key (some info) c _ _ ?_ hc hactive ?_ fun k => ?_
        · simp [Slot.switchPath, hsrvcc, Slot.imsOrFresh, hpath]
        · rw [Output.acceptsSwitch_append, acceptsSwitch_switchCallRequest]
          exact Bool.or_false _
        · exact switching_holdDial env.service key callInfo.videoState k info

theorem of_answer (service : ImsService) (callInfo : CellularCallInfo) :
    ImsTableStep P slotId s (.answer service callInfo) (s.answer service callInfo) := by
  have hreturned (ret : RetCode) : ∀ o ∈ [Output.returned ret], o.isImsSwitch = false := by
    intro o ho
    rw [List.mem_singleton.mp ho]
    rfl
  unfold Slot.answer Slot.request
  split
  · rename_i hsrvcc
    exact .kept _ _ (by simp [Event.isPlain, Slot.switchPath, hsrvcc]) (fun _ => hreturned _) rfl
  · rename_i hsrvcc
    have hother (htype : callInfo.callType ≠ .ims) :
        Event.isPlain s (.answer service callInfo) = true := by
      simp [Event.isPlain, Slot.switchPath, htype]
    split
    · rename_i htype
      have hplain := hother (by simp [htype])
      split
      · refine .kept _ _ hplain (fun _ => ?_) rfl
        exact List.forall_mem_cons.mpr ⟨rfl, hreturned _⟩
      · refine .kept _ _ hplain (fun _ o ho => ?_) rfl
        rcases List.mem_append.mp ho with ho | ho
        · rcases CSControl.mem_answer ho with rfl | rfl | ⟨index, rfl⟩ <;> rfl
        · exact hreturned _ o ho
    · rename_i htype
      split
      · rename_i hnone
        refine .kept _ _ ?_ (fun _ => List.forall_mem_cons.mpr ⟨rfl, hreturned _⟩) rfl
        have hpath : answerPath service s.imsOrFresh callInfo = none := by
          rw [Slot.imsOrFresh, hnone]
          rfl
        simp [Event.isPlain, Slot.switchPath, hpath]
      · rename_i t ht
        have htable : s.imsTable = t.connectionMap := by
          rw [Slot.imsTable, Slot.imsOrFresh_of_some ht]
        have hstep := answerStep service t callInfo
        dsimp only
        generalize IMSControl.answer service t callInfo = result at hstep
        cases hstep with
        | held key hungUp hpath hhung =>
          obtain ⟨c, hactive, -, -⟩ := answerPath_spec hpath
          obtain ⟨hc, hstate⟩ := OrdMap.get?_of_first?_eq_some hactive
          refine .asked key none c _ _ ?_ (by rw [htable]; exact hc) (by simpa using hstate) ?_
            fun k => ?_
          · simp [Slot.switchPath, hsrvcc, htype, Slot.imsOrFresh_of_some ht, hpath]
          · rw [Output.acceptsSwitch_append, Output.acceptsSwitch_append,
              Output.acceptsSwitch_of_isImsSwitch fun o ho => (hhung o ho).1,
              acceptsSwitch_switchCallRequest]
            exact (Bool.or_false _).trans (Bool.false_or _)
          · rw [htable]
            exact switching_switchCallRequest service key callInfo.videoState k
        | unheld ret outputs hpath houtputs =>
          refine .kept _ _ ?_ (fun _ o ho => ?_) (by rw [htable]; rfl)
          · simp [Event.isPlain, Slot.switchPath, Slot.imsOrFresh_of_some ht, hpath]
          · rcases List.mem_append.mp ho with ho | ho
            · exact (houtputs o ho).1
            · exact hreturned _ o ho
    · rename_i htype
      exact .kept _ _ (hother htype) (fun _ => hreturned _) rfl

theorem of_switchCall (service : ImsService) :
    ImsTableStep P slotId s (.switchCall service) (s.switchCall slotId service) := by
  unfold Slot.switchCall
  split
  · exact .userSwitch service _ rfl fun hsent => by cases hsent
  · split
    · exact .userSwitch service _ rfl fun hsent => by cases hsent
    · rename_i t ht
      have haccepts := acceptsSwitch_switchCall service slotId t
      generalize t.switchCall service slotId = result at haccepts
      refine .userSwitch service _ rfl fun hsent => ?_
      rw [Output.acceptsSwitch_append, haccepts] at hsent
      exact (Bool.or_false _).symm.trans hsent

theorem of_swapCallResponse (q : Nat) (ok : Bool) (service : ImsService) :
    ImsTableStep P slotId s (.swapCallResponse q ok service) (s.swapCallResponse service ok) := by
  unfold Slot.swapCallResponse
  split
  · rename_i hnone
    have htable := Slot.imsTable_of_none hnone
    refine .answered q ok service _ _ rfl ?_ fun k => ?_
    · rw [htable]
      cases ok <;> rfl
    · rw [htable]
      rfl
  · rename_i t ht
    have htable : s.imsTable = t.connectionMap := by
      rw [Slot.imsTable, Slot.imsOrFresh_of_some ht]
    cases ok with
    | false =>
      refine .answered q false service _ _ rfl rfl fun k => ?_
      rw [htable]
      exact switching_recoverPendingHold t k
    | true =>
      simp only [if_true]
      refine .answered q true service _ _ rfl ?_ fun k => ?_
      · rw [imsDials_dialAfterHold, firstHeld_recoverPendingHold, htable]
        cases firstHeld t.connectionMap with
        | none => rfl
        | some key =>
          simp only [Option.bind_some, if_true, switching_recoverPendingHold]
          cases switching t.connectionMap key <;> rfl
      · rw [htable]
        have hafter := switching_dialAfterHold service t.recoverPendingHold k
        rw [switching_recoverPendingHold, firstHeld_recoverPendingHold, Option.map_map] at hafter
        refine hafter.trans (congrArg (Option.map · _) (funext fun r => ?_))
        rfl

end ImsTableStep

/-- Every event does one of six things to the IMS calls. -/
theorem imsTableStep (P : Platform) (slotId : Int) {s : Slot} (hs : Settled s.imsTable)
    {r : Requests} {e : Event} (hfollows : e.Follows r s) :
    ImsTableStep P slotId s e ((slotMachine P slotId).step s e) := by
  cases e with
  | csCallsData L =>
    exact .kept _ _ rfl (fun h => by cases h)
      (congrArg switching (Slot.imsTable_reportCsCallsData P slotId L))
  | imsCallsData L =>
    by_cases hignored : L.callSize ≠ 0 ∧ s.srvccState = .started
    · have hidle : (slotMachine P slotId).step s (.imsCallsData L) =
          ({ s with currentCallList := L }, []) := by
        simp only [slotMachine, Slot.reportImsCallsData, if_neg hignored.1, if_pos hignored.2]
      rw [hidle]
      exact .kept _ _ rfl (fun h => by cases h) rfl
    · rcases Slot.imsTable_reportImsCallsData P slotId hs L with hsame | ⟨hend, hrelisted⟩
      · exact .kept _ _ rfl (fun h => by cases h) (congrArg switching hsame)
      · refine .listed L s.imsTable _ _ rfl rfl ?_ rfl hrelisted
        simp only [Slot.processedList, hend, Bool.false_eq_true, false_or, if_neg hignored]
  | callFailReason asker reason message =>
    rcases Slot.imsTable_handleCallDisconnectReason P slotId hs reason message with
      ⟨hempty, hempty'⟩ | hrelisted
    · exact .kept _ _ rfl (fun h => by cases h) (congrArg switching (hempty'.trans hempty.symm))
    · exact .listed s.currentCallList _ _ _ rfl rfl rfl
        (switching_updateDisconnectedReason _ _ _ _) hrelisted
  | dial callInfo isEcc useIms csEnv env => exact .of_dial callInfo isEcc useIms csEnv env
  | hangUp service callInfo type =>
    exact .kept _ _ rfl (fun h => by cases h)
      (ImsTableStep.switching_request fun t => switching_hangUp service t callInfo type)
  | answer service callInfo => exact .of_answer service callInfo
  | reject service callInfo =>
    exact .kept _ _ rfl (fun h => by cases h)
      (ImsTableStep.switching_request fun t => switching_reject service t callInfo)
  | switchCall service => exact .of_switchCall service
  | swapCallResponse q ok service => exact .of_swapCallResponse q ok service
  | radioStateChange radioOn env =>
    exact .kept _ _ rfl (fun h => by cases h) (congrArg switching
      (Slot.imsTable_radioStateChangeProcess P slotId radioOn env hfollows))
  | radioWaitTimeout timer =>
    have htable := Slot.imsTable_radioWaitTimeout (s := s) P timer
    by_cases htimer : timer ∈ s.imsOrFresh.timers
    · rw [if_pos htimer] at htable
      exact .released _ _ rfl rfl (decide_eq_true htimer) htable
    · rw [if_neg htimer] at htable
      exact .kept _ _ rfl (fun h => by cases h) (congrArg switching htable)
  | rilAdapterHostDied => exact .released _ _ rfl rfl rfl rfl
  | clearAllCalls service infos =>
    by_cases hinfos : infos = []
    · subst hinfos
      exact .kept _ _ rfl (fun h => by cases h) rfl
    · refine .released _ _ rfl rfl (decide_eq_true hinfos) ?_
      exact congrArg (fun t : IMSControl => t.connectionMap)
        (Slot.imsOrFresh_clearAllCalls P slotId service hinfos)
  | registerCallBack registered => exact .kept _ _ rfl (fun h => by cases h) rfl
  | srvccState status =>
    by_cases hstatus : status = .completed
    · subst hstatus
      exact .released _ _ rfl rfl rfl rfl
    · have hnoted : (slotMachine P slotId).step s (.srvccState status) =
          ({ s with srvccState := status, serviceSrvccState := status }, []) := by
        simp only [slotMachine, Slot.updateSrvccStateReport, ne_eq, hstatus, not_false_eq_true,
          if_true]
      rw [hnoted]
      exact .kept _ _ rfl (fun h => by cases h) rfl
  | rsrvccState => exact .kept _ _ rfl (fun h => by cases h) rfl

end CellularCall
