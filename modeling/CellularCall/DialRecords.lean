import CellularCall.ImsTable

/-!
# The record of a dial that waits

Without an active call `EncapsulateDial` passes the record of a dial to
`DialRequest`.  With one, `SetHoldToDialInfo` writes the parts of the record into
the connection of that call, and `DialAfterHold` passes on what stands there when
the call is on hold.

`heldDials` notes which dial was put into which connection last, and
`RecordsTracked` says what stands there.  `record_eq_direct_iff` compares the two
records, for every dial of every run.
-/

namespace CellularCall

open Lib CallTable IMSControl

/-! ## Dials -/

/-- A dial of `IMSControl`, with the answers it meets. -/
structure ImsDial where
  env : ImsDialEnv
  isRadioOn : Bool
  callInfo : CellularCallInfo
  isEcc : Bool
deriving DecidableEq, Repr

namespace ImsDial

variable (d : ImsDial)

/-- The dial is made. -/
def run (P : Platform) (t : IMSControl) : RetCode × IMSControl × List Output :=
  IMSControl.dial P d.env d.isRadioOn t d.callInfo d.isEcc

/-- The connection the dial is put into, and what stands there then. -/
def held (t : IMSControl) : Option (Int × ImsDialInfoStruct) :=
  holdPath d.env d.isRadioOn t d.callInfo d.isEcc

/-- The record is what the dial passes to `DialRequest` beside calls none of which
is active. -/
def Direct (P : Platform) (record : ImsDialInfoStruct) : Prop :=
  ∀ t : IMSControl, canCall t.connectionMap = true → dialTarget t.connectionMap = none →
    Output.imsDials (d.run P t).2.2 = [record]

variable {d} {P : Platform}

/-- A dial that is judged passes its parts. -/
theorem direct_of_judged {phoneNum : Str} {clirMode : CLIRMode}
    (hjudged : judged d.env d.isRadioOn d.callInfo d.isEcc = some (phoneNum, clirMode)) :
    d.Direct P
      ⟨⟨phoneNum, clirMode⟩, d.callInfo.videoState, d.env.isEmergency, d.callInfo.isRTT⟩ := by
  intro t hroom htarget
  unfold judged at hjudged
  split_ifs at hjudged with hpre hservice
  rw [ne_eq, not_not] at hpre
  have hsaved : ¬(RetCode.success = .getRadioStateFailed ∧ d.isEcc = true) := fun h => by
    cases h.1
  have hroom' : ¬canCall t.connectionMap = false := by
    rw [hroom]
    exact Bool.noConfusion
  simp only [run, IMSControl.dial, hpre, if_neg hsaved, ne_eq, not_true_eq_false, if_false,
    if_neg hservice, hjudged, dialJudgment, if_neg hroom', htarget]
  rfl

/-- What stands in the connection has the parts of the dial but for the RTT flag,
which was there before. -/
theorem held_eq_some {t : IMSControl} {key : Int} {info : ImsDialInfoStruct}
    (h : d.held t = some (key, info)) :
    ∃ c direct, t.connectionMap.get? key = some c ∧ d.Direct P direct ∧
      direct.isRTT = d.callInfo.isRTT ∧
      info = { direct with isRTT := c.own.holdToDialInfo.isRTT } := by
  unfold held holdPath at h
  cases hjudged : judged d.env d.isRadioOn d.callInfo d.isEcc with
  | none =>
    rw [hjudged] at h
    cases h
  | some dialled =>
    obtain ⟨phoneNum, clirMode⟩ := dialled
    rw [hjudged] at h
    dsimp only at h
    split_ifs at h with hroom
    obtain ⟨⟨key', c⟩, htarget, heq⟩ := Option.map_eq_some_iff.mp h
    obtain ⟨rfl, rfl⟩ := Prod.mk.inj heq
    have hc := (OrdMap.get?_of_first?_eq_some htarget).1
    exact ⟨c, _, hc, direct_of_judged hjudged, rfl, rfl⟩

end ImsDial

/-- The dial of an event, if it makes one: the user's, or that of the emergency
call that waited for the radio. -/
def Slot.imsDial (s : Slot) : Event → Option ImsDial
  | .dial callInfo isEcc useIms _ env =>
    if s.serviceSrvccState = .started ∨ useIms = false then none
    else some ⟨env, s.isRadioOn, callInfo, isEcc⟩
  | .radioStateChange radioOn env =>
    if radioOn = true ∧ s.imsOrFresh.isPendingEmc = true then
      some ⟨env, radioOn, s.imsOrFresh.pendingEmcDialCallInfo, true⟩
    else none
  | _ => none

/-- The dial of an event that is put into a connection, with the connection and
what stands there then. -/
def Slot.heldDial (s : Slot) (e : Event) : Option (ImsDial × Int × ImsDialInfoStruct) :=
  (s.imsDial e).bind fun d => (d.held s.imsOrFresh).map fun held => (d, held)

/-- The dial that was last put into each connection. -/
def heldDials : Monitor Slot Event Output (Int → Option ImsDial) where
  init := fun _ => none
  allowed := fun _ _ _ => True
  update h s e _ _ :=
    match s.heldDial e with
    | some (d, key, _) => Function.update h key (some d)
    | none => h

instance (h : Int → Option ImsDial) (s : Slot) (e : Event) :
    Decidable (heldDials.allowed h s e) :=
  isTrue trivial

/-! ## What stands in the connections -/

/-- The members of the connection under `k`, or those of a new one. -/
abbrev ownAt (m : ConnectionMap ImsPart) (k : Int) : ImsPart := ownOf domain.toCallDomain m k

/-- No dial was ever put into the connection. -/
def NeverHeld (own : ImsPart) : Prop := own.holdToDialInfo = .zeroed ∧ own.isNeedToDial = false

/-- Every connection has the record it had, and waits only if it did; or no dial
was ever put into it. -/
def RecordsKept (m m' : ConnectionMap ImsPart) : Prop :=
  ∀ k, NeverHeld (ownAt m' k) ∨
    (ownAt m' k).holdToDialInfo = (ownAt m k).holdToDialInfo ∧
      ((ownAt m' k).isNeedToDial = true → (ownAt m k).isNeedToDial = true)

/-- A connection keeps its record, and waits only if it did. -/
def KeepsRecord (f : CellularCallConnectionIMS → CellularCallConnectionIMS) : Prop :=
  ∀ c, (f c).own.holdToDialInfo = c.own.holdToDialInfo ∧
    ((f c).own.isNeedToDial = true → c.own.isNeedToDial = true)

theorem neverHeld_fresh : NeverHeld .fresh := ⟨rfl, rfl⟩

theorem ownAt_of_none {m : ConnectionMap ImsPart} {k : Int} (h : m.get? k = none) :
    ownAt m k = .fresh := by
  rw [ownAt, ownOf, h]
  rfl

theorem ownAt_of_some {m : ConnectionMap ImsPart} {k : Int} {c : CellularCallConnectionIMS}
    (h : m.get? k = some c) : ownAt m k = c.own := by
  rw [ownAt, ownOf, h]
  rfl

/-- A dial that is put into a connection stands there. -/
theorem ownAt_holdDial {m : ConnectionMap ImsPart} {key : Int} {c : CellularCallConnectionIMS}
    (hc : m.get? key = some c) (info : ImsDialInfoStruct) (k : Int) :
    (ownAt (m.modify key (holdDial info)) k).holdToDialInfo =
        (if k = key then info else (ownAt m k).holdToDialInfo) ∧
      (k ≠ key → (ownAt (m.modify key (holdDial info)) k).isNeedToDial =
        (ownAt m k).isNeedToDial) := by
  by_cases hk : k = key
  · subst hk
    have hafter : (m.modify k (holdDial info)).get? k = some (holdDial info c) := by
      rw [OrdMap.get?_modify, if_pos rfl, hc]
      rfl
    rw [if_pos rfl, ownAt_of_some hafter]
    exact ⟨rfl, fun h => absurd rfl h⟩
  · have hsame : (m.modify key (holdDial info)).get? k = m.get? k := by
      rw [OrdMap.get?_modify, if_neg hk]
    have hown : ownAt (m.modify key (holdDial info)) k = ownAt m k := by
      rw [ownAt, ownAt, ownOf, ownOf, hsame]
    rw [if_neg hk, hown]
    exact ⟨rfl, fun _ => rfl⟩

namespace RecordsKept

variable {m m' m'' : ConnectionMap ImsPart}

theorem refl (m : ConnectionMap ImsPart) : RecordsKept m m := fun _ => Or.inr ⟨rfl, id⟩

theorem of_eq (h : m' = m) : RecordsKept m m' := h ▸ refl m

theorem of_empty (h : m' = ∅) : RecordsKept m m' := by
  intro k
  rw [h]
  exact Or.inl neverHeld_fresh

theorem trans (h : RecordsKept m m') (h' : RecordsKept m' m'') : RecordsKept m m'' := by
  intro k
  rcases h' k with hnever | ⟨hrecord', hneed'⟩
  · exact Or.inl hnever
  rcases h k with ⟨hzeroed, hidle⟩ | ⟨hrecord, hneed⟩
  · refine Or.inl ⟨hrecord'.trans hzeroed, ?_⟩
    rw [Bool.eq_false_iff]
    intro hneed
    rw [hneed' hneed] at hidle
    cases hidle
  · exact Or.inr ⟨hrecord'.trans hrecord, fun h => hneed (hneed' h)⟩

theorem of_get? {f : Int → CellularCallConnectionIMS → CellularCallConnectionIMS}
    (hf : ∀ k, KeepsRecord (f k)) (h : ∀ k, m'.get? k = (m.get? k).map (f k)) :
    RecordsKept m m' := by
  intro k
  cases hc : m.get? k with
  | none =>
    have hnone : m'.get? k = none := by
      rw [h, hc]
      rfl
    rw [ownAt_of_none hnone]
    exact Or.inl neverHeld_fresh
  | some c =>
    have hsome : m'.get? k = some (f k c) := by
      rw [h, hc]
      rfl
    rw [ownAt_of_some hc, ownAt_of_some hsome]
    exact Or.inr (hf k c)

theorem modify {f : CellularCallConnectionIMS → CellularCallConnectionIMS} (hf : KeepsRecord f)
    (key : Int) : RecordsKept m (m.modify key f) := by
  refine of_get? (f := fun k => if k = key then f else id) (fun k => ?_) fun k => ?_
  · split
    · exact hf
    · exact fun c => ⟨rfl, id⟩
  · rw [OrdMap.get?_modify]
    split
    · rfl
    · exact Option.map_id'.symm

theorem modifyFirst {f : CellularCallConnectionIMS → CellularCallConnectionIMS}
    (hf : KeepsRecord f) (p : CellularCallConnectionIMS → Bool) :
    RecordsKept m (m.modifyFirst p f) := by
  unfold OrdMap.modifyFirst
  split
  · exact modify hf _
  · exact refl m

theorem mapValues {f : CellularCallConnectionIMS → CellularCallConnectionIMS}
    (hf : KeepsRecord f) : RecordsKept m (m.mapValues f) :=
  of_get? (f := fun _ => f) (fun _ => hf) fun k => OrdMap.get?_mapValues m f k

/-- A list leaves the calls their records. -/
theorem of_relisted {P : Platform} {slotId : Int} {L : ImsCurrentCallList}
    (h : Relisted domain.toCallDomain P slotId m L m') : RecordsKept m m' := by
  intro k
  cases hc : m'.get? k with
  | none =>
    rw [ownAt_of_none hc]
    exact Or.inl neverHeld_fresh
  | some c =>
    obtain ⟨-, call, -, -, -, hown⟩ := h.listed k c hc
    rw [ownAt_of_some hc, hown]
    exact Or.inr ⟨rfl, id⟩

/-! ### The operations of the control -/

theorem of_switchCallRequest (service : ImsService) (key videoState : Int) :
    RecordsKept m (switchCallRequest service m key videoState).2.1 := by
  unfold switchCallRequest
  split
  · dsimp only
    split
    · refine modify (fun c => ?_) key
      exact ⟨rfl, id⟩
    · exact refl m
  · exact refl m

theorem of_hangUp (service : ImsService) (t : IMSControl) (callInfo : CellularCallInfo)
    (type : CallSupplementType) :
    RecordsKept t.connectionMap (hangUp service t callInfo type).2.1.connectionMap := by
  unfold hangUp
  split
  · split
    · exact refl _
    · refine modify (fun c => ?_) _
      exact ⟨rfl, id⟩
  · refine modifyFirst (fun c => ?_) _
    exact ⟨rfl, id⟩
  · refine modifyFirst (fun c => ?_) _
    exact ⟨rfl, id⟩
  · refine mapValues fun c => ?_
    exact ⟨rfl, id⟩
  · exact refl _

theorem of_reject (service : ImsService) (t : IMSControl) (callInfo : CellularCallInfo) :
    RecordsKept t.connectionMap (reject service t callInfo).2.1.connectionMap := by
  unfold reject
  split
  · exact refl _
  · split
    · exact refl _
    · refine modify (fun c => ?_) _
      exact ⟨rfl, id⟩

theorem of_answer (service : ImsService) (t : IMSControl) (callInfo : CellularCallInfo) :
    RecordsKept t.connectionMap (answer service t callInfo).2.1.connectionMap := by
  have hstep := answerStep service t callInfo
  generalize IMSControl.answer service t callInfo = result at hstep
  cases hstep with
  | held key hungUp hpath hhung => exact of_switchCallRequest service key callInfo.videoState
  | unheld ret outputs hpath houtputs => exact refl _

theorem of_updateDisconnectedReason (t : IMSControl) (L : ImsCurrentCallList)
    (reason : RilDisconnectedReason) (message : Str) :
    RecordsKept t.connectionMap
      (t.updateDisconnectedReason L reason message).connectionMap := by
  refine mapValues fun c => ?_
  split
  · exact ⟨rfl, id⟩
  · exact ⟨rfl, id⟩

theorem of_recoverPendingHold (t : IMSControl) :
    RecordsKept t.connectionMap t.recoverPendingHold.connectionMap := by
  refine modifyFirst (fun c => ?_) _
  exact ⟨rfl, id⟩

theorem of_dialAfterHold (service : ImsService) (t : IMSControl) :
    RecordsKept t.connectionMap (dialAfterHold service t).1.connectionMap := by
  unfold dialAfterHold
  split
  · refine modify (fun c => ?_) _
    exact ⟨rfl, fun h => by cases h⟩
  · exact refl _

/-- A request of the service keeps the records if the control does. -/
theorem of_request {s : Slot} {callInfo : CellularCallInfo}
    {onCs : CSControl → RetCode × CSControl × List Output}
    {onIms : IMSControl → RetCode × IMSControl × List Output}
    (hims : ∀ t, RecordsKept t.connectionMap (onIms t).2.1.connectionMap) :
    RecordsKept s.imsTable (s.request callInfo onCs onIms).1.imsTable := by
  unfold Slot.request
  split
  · exact refl _
  · split
    · split <;> exact refl _
    · split
      · exact refl _
      · rename_i t ht
        rw [Slot.imsTable, Slot.imsTable, Slot.imsOrFresh_of_some ht]
        exact hims t
    · exact refl _

theorem of_swapCallResponse {s : Slot} (service : ImsService) (ok : Bool) :
    RecordsKept s.imsTable (s.swapCallResponse service ok).1.imsTable := by
  unfold Slot.swapCallResponse
  split
  · exact refl _
  · rename_i t ht
    rw [Slot.imsTable, Slot.imsOrFresh_of_some ht]
    cases ok with
    | false => exact of_recoverPendingHold t
    | true => exact (of_recoverPendingHold t).trans (of_dialAfterHold service _)

end RecordsKept

/-- What an event does to the records in the connections: they stay, but for the
one that a dial is put into. -/
inductive RecordStep (s : Slot) (e : Event) (m' : ConnectionMap ImsPart) : Prop
  | kept (hheld : s.heldDial e = none) (hkept : RecordsKept s.imsTable m') : RecordStep s e m'
  | held (d : ImsDial) (key : Int) (info : ImsDialInfoStruct)
      (hheld : s.heldDial e = some (d, key, info))
      (hkept : RecordsKept (s.imsTable.modify key (holdDial info)) m') : RecordStep s e m'

/-- A dial keeps the records, but for the one it is put into. -/
theorem recordsKept_run (P : Platform) (d : ImsDial) (t : IMSControl) :
    match d.held t with
    | none => RecordsKept t.connectionMap (d.run P t).2.1.connectionMap
    | some (key, info) =>
      RecordsKept (t.connectionMap.modify key (holdDial info)) (d.run P t).2.1.connectionMap := by
  have hstep := dialStep P d.env d.isRadioOn t d.callInfo d.isEcc
  unfold ImsDial.run ImsDial.held
  generalize IMSControl.dial P d.env d.isRadioOn t d.callInfo d.isEcc = result at hstep
  cases hstep with
  | saved _ _ hpath =>
    rw [hpath]
    exact .refl _
  | refused ret _ hpath =>
    rw [hpath]
    exact .refl _
  | sent ret pending request hpath =>
    rw [hpath]
    exact .refl _
  | held key info pending hpath =>
    rw [hpath]
    exact .of_switchCallRequest d.env.service key d.callInfo.videoState

namespace RecordStep

variable {P : Platform} {slotId : Int} {s : Slot} {e : Event} {m' : ConnectionMap ImsPart}

/-- An event that makes the dial `d`, on a control with the table of the slot. -/
theorem of_run {d : ImsDial} {t : IMSControl} (hdial : s.imsDial e = some d)
    (htable : t.connectionMap = s.imsTable)
    (h : RecordsKept (d.run P t).2.1.connectionMap m') : RecordStep s e m' := by
  have hrun := recordsKept_run P d t
  have hsame : d.held t = d.held s.imsOrFresh := by
    unfold ImsDial.held holdPath
    rw [htable]
  rw [hsame, htable] at hrun
  cases hheld : d.held s.imsOrFresh with
  | none =>
    rw [hheld] at hrun
    refine .kept ?_ (RecordsKept.trans hrun h)
    rw [Slot.heldDial, hdial, Option.bind_some, hheld]
    rfl
  | some held =>
    obtain ⟨key, info⟩ := held
    rw [hheld] at hrun
    refine .held d key info ?_ (RecordsKept.trans hrun h)
    rw [Slot.heldDial, hdial, Option.bind_some, hheld]
    rfl

theorem of_none (hdial : s.imsDial e = none) (h : RecordsKept s.imsTable m') :
    RecordStep s e m' := by
  refine .kept ?_ h
  rw [Slot.heldDial, hdial]
  rfl

theorem of_dial (callInfo : CellularCallInfo) (isEcc useIms : Bool) (csEnv : CsDialEnv)
    (env : ImsDialEnv) :
    RecordStep s (.dial callInfo isEcc useIms csEnv env)
      (s.dial P callInfo isEcc useIms csEnv env).1.imsTable := by
  unfold Slot.dial Slot.dialNormalCall
  by_cases hsrvcc : s.serviceSrvccState = .started
  · rw [if_pos hsrvcc]
    exact of_none (if_pos (Or.inl hsrvcc)) (.refl _)
  rw [if_neg hsrvcc]
  cases useIms with
  | false => exact of_none (if_pos (Or.inr rfl)) (.refl _)
  | true =>
    have hdial : s.imsDial (.dial callInfo isEcc true csEnv env) =
        some ⟨env, s.isRadioOn, callInfo, isEcc⟩ := by
      refine if_neg ?_
      intro h
      rcases h with h | h
      · exact hsrvcc h
      · cases h
    exact of_run hdial rfl (.refl _)

theorem skipWaitForRadioOn_eq (t : IMSControl) :
    t.skipWaitForRadioOn.connectionMap = t.connectionMap ∧
      t.skipWaitForRadioOn.isPendingEmc = t.isPendingEmc ∧
      t.skipWaitForRadioOn.pendingEmcDialCallInfo = t.pendingEmcDialCallInfo := by
  unfold IMSControl.skipWaitForRadioOn
  split <;> exact ⟨rfl, rfl, rfl⟩

theorem of_radioStateChange (radioOn : Bool) (env : ImsDialEnv) :
    RecordStep s (.radioStateChange radioOn env)
      (s.radioStateChangeProcess P slotId radioOn env).1.imsTable := by
  have hidle (h : ¬(radioOn = true ∧ s.imsOrFresh.isPendingEmc = true)) :
      s.imsDial (.radioStateChange radioOn env) = none := if_neg h
  unfold Slot.radioStateChangeProcess
  by_cases hradio : radioOn = false
  · refine of_none (hidle fun h => ?_) ?_
    · rw [hradio] at h
      cases h.1
    · simp only [if_pos hradio]
      exact .refl _
  simp only [if_neg hradio]
  split
  · rename_i hnone
    refine of_none (hidle fun h => ?_) (.refl _)
    rw [Slot.imsOrFresh, hnone] at h
    cases h.2
  · rename_i t ht
    obtain ⟨htable, hpending, hcall⟩ := skipWaitForRadioOn_eq t
    have hims := Slot.imsOrFresh_of_some ht
    by_cases hemc : t.isPendingEmc = true
    · have hdial : s.imsDial (.radioStateChange radioOn env) =
          some ⟨env, radioOn, t.skipWaitForRadioOn.pendingEmcDialCallInfo, true⟩ := by
        rw [hcall, ← hims]
        refine if_pos ⟨Bool.eq_true_of_not_eq_false hradio, ?_⟩
        rw [hims]
        exact hemc
      refine of_run (P := P) (t := t.skipWaitForRadioOn) hdial ?_ ?_
      · rw [htable, Slot.imsTable, hims]
      · rw [hpending, if_pos hemc]
        split
        · exact .of_empty (Slot.connectionMap_imsReportHangUpInfo _)
        · exact .refl _
    · refine of_none (hidle fun h => ?_) ?_
      · rw [hims] at h
        exact hemc h.2
      · rw [hpending, if_neg hemc]
        refine .of_eq ?_
        rw [Slot.imsTable, Slot.imsTable, hims]
        exact htable

/-- What every event does to the records. -/
theorem of_step (P : Platform) (slotId : Int) {s : Slot} (hs : Settled s.imsTable) (e : Event) :
    RecordStep s e ((slotMachine P slotId).step s e).1.imsTable := by
  cases e with
  | csCallsData L => exact of_none rfl (.of_eq (Slot.imsTable_reportCsCallsData P slotId L))
  | imsCallsData L =>
    refine of_none rfl ?_
    rcases Slot.imsTable_reportImsCallsData P slotId hs L with hsame | ⟨-, hrelisted⟩
    · exact .of_eq hsame
    · exact .of_relisted hrelisted
  | callFailReason asker reason message =>
    refine of_none rfl ?_
    rcases Slot.imsTable_handleCallDisconnectReason P slotId hs reason message with
      ⟨-, hempty⟩ | hrelisted
    · exact .of_empty hempty
    · exact (RecordsKept.of_updateDisconnectedReason _ _ _ _).trans (.of_relisted hrelisted)
  | dial callInfo isEcc useIms csEnv env => exact of_dial callInfo isEcc useIms csEnv env
  | hangUp service callInfo type =>
    exact of_none rfl (.of_request fun t => .of_hangUp service t callInfo type)
  | answer service callInfo =>
    exact of_none rfl (.of_request fun t => .of_answer service t callInfo)
  | reject service callInfo =>
    exact of_none rfl (.of_request fun t => .of_reject service t callInfo)
  | switchCall service =>
    refine of_none rfl (.of_eq ?_)
    simp only [slotMachine, Slot.switchCall]
    split
    · rfl
    · split <;> rfl
  | swapCallResponse q ok service => exact of_none rfl (.of_swapCallResponse service ok)
  | radioStateChange radioOn env => exact of_radioStateChange radioOn env
  | radioWaitTimeout timer =>
    refine of_none rfl ?_
    have htable := Slot.imsTable_radioWaitTimeout (s := s) P timer
    split at htable
    · exact .of_empty htable
    · exact .of_eq htable
  | rilAdapterHostDied => exact of_none rfl (.of_empty rfl)
  | clearAllCalls service infos =>
    refine of_none rfl ?_
    by_cases hinfos : infos = []
    · subst hinfos
      exact .refl _
    · exact .of_empty (congrArg (fun t : IMSControl => t.connectionMap)
        (Slot.imsOrFresh_clearAllCalls P slotId service hinfos))
  | registerCallBack registered => exact of_none rfl (.refl _)
  | srvccState status =>
    refine of_none rfl ?_
    simp only [slotMachine, Slot.updateSrvccStateReport]
    split
    · exact .refl _
    · exact .of_empty rfl
  | rsrvccState => exact of_none rfl (.refl _)

end RecordStep

/-! ## The two records -/

/-- What stands in a connection, beside the dial noted for it: the RTT flag was
never set, and a dial that waits has all else that it passes without an active
call. -/
structure DialTracked (P : Platform) (noted : Option ImsDial) (own : ImsPart) : Prop where
  isRTT : own.holdToDialInfo.isRTT = false
  waits : own.isNeedToDial = true → ∃ d direct, noted = some d ∧ d.Direct P direct ∧
    direct.isRTT = d.callInfo.isRTT ∧ own.holdToDialInfo = { direct with isRTT := false }

/-- Every connection is tracked. -/
structure RecordsTracked (P : Platform) (s : Slot) (h : Int → Option ImsDial) : Prop where
  tables : s.Holds settledSpec
  tracked : ∀ k, DialTracked P (h k) (ownAt s.imsTable k)

variable {P : Platform} {slotId : Int}

theorem DialTracked.of_neverHeld {noted : Option ImsDial} {own : ImsPart} (h : NeverHeld own) :
    DialTracked P noted own := by
  refine ⟨?_, fun hneed => ?_⟩
  · rw [h.1]
    rfl
  · rw [h.2] at hneed
    cases hneed

theorem DialTracked.of_kept {h : Int → Option ImsDial} {m m' : ConnectionMap ImsPart}
    (htracked : ∀ k, DialTracked P (h k) (ownAt m k)) (hkept : RecordsKept m m') (k : Int) :
    DialTracked P (h k) (ownAt m' k) := by
  rcases hkept k with hnever | ⟨hrecord, hneed⟩
  · exact .of_neverHeld hnever
  · refine ⟨?_, fun hwaits => ?_⟩
    · rw [hrecord]
      exact (htracked k).isRTT
    · rw [hrecord]
      exact (htracked k).waits (hneed hwaits)

/-- The dial that is put into a connection is the one that is noted. -/
theorem DialTracked.of_held {h : Int → Option ImsDial} {t : IMSControl} {d : ImsDial} {key : Int}
    {info : ImsDialInfoStruct} (htracked : ∀ k, DialTracked P (h k) (ownAt t.connectionMap k))
    (hheld : d.held t = some (key, info)) (k : Int) :
    DialTracked P (Function.update h key (some d) k)
      (ownAt (t.connectionMap.modify key (holdDial info)) k) := by
  obtain ⟨c, direct, hc, hdirect, hrtt, hinfo⟩ := ImsDial.held_eq_some (P := P) hheld
  obtain ⟨hrecord, hneed⟩ := ownAt_holdDial hc info k
  by_cases hk : k = key
  · subst hk
    have hfalse : c.own.holdToDialInfo.isRTT = false := by
      rw [← ownAt_of_some hc]
      exact (htracked k).isRTT
    rw [hfalse] at hinfo
    subst hinfo
    rw [if_pos rfl] at hrecord
    rw [Function.update_self]
    refine ⟨?_, fun _ => ⟨d, direct, rfl, hdirect, hrtt, hrecord⟩⟩
    rw [hrecord]
  · rw [if_neg hk] at hrecord
    rw [Function.update_of_ne hk]
    refine ⟨?_, fun hwaits => ?_⟩
    · rw [hrecord]
      exact (htracked k).isRTT
    · rw [hrecord]
      exact (htracked k).waits ((hneed hk).symm.trans hwaits)

namespace RecordsTracked

variable {s : Slot} {h : Int → Option ImsDial}

theorem init : RecordsTracked P Slot.init heldDials.init where
  tables := .init
  tracked := fun _ => .of_neverHeld neverHeld_fresh

theorem step (hinv : RecordsTracked P s h) (e : Event) :
    RecordsTracked P ((slotMachine P slotId).step s e).1
      (heldDials.next (slotMachine P slotId) h s e) := by
  refine ⟨Slot.holds_step (settledSpec_sound P slotId) hinv.tables (settledSpec_admits e), ?_⟩
  cases RecordStep.of_step P slotId hinv.tables.getD_ims.toSettled e with
  | kept hheld hkept =>
    simp only [Monitor.next, heldDials, hheld]
    exact DialTracked.of_kept hinv.tracked hkept
  | held d key info hheld hkept =>
    simp only [Monitor.next, heldDials, hheld]
    obtain ⟨d', -, hput⟩ := Option.bind_eq_some_iff.mp hheld
    obtain ⟨held, hput, heq⟩ := Option.map_eq_some_iff.mp hput
    obtain ⟨rfl, rfl⟩ := Prod.mk.inj heq
    exact DialTracked.of_kept (DialTracked.of_held hinv.tracked hput) hkept

end RecordsTracked

/-- What a response sends stands in the connection whose dial is made next. -/
theorem ownAt_of_imsDials {s : Slot} {q : Nat} {ok : Bool} {service : ImsService}
    {info : ImsDialInfoStruct}
    (hinfo : info ∈ Output.imsDials
      ((slotMachine P slotId).step s (.swapCallResponse q ok service)).2) :
    ∃ key, firstHeld s.imsTable = some key ∧ (ownAt s.imsTable key).isNeedToDial = true ∧
      (ownAt s.imsTable key).holdToDialInfo = info := by
  have hstep : ImsTableStep P slotId s (.swapCallResponse q ok service)
      ((slotMachine P slotId).step s (.swapCallResponse q ok service)) :=
    .of_swapCallResponse q ok service
  obtain ⟨-, key, hkey, hheld⟩ := hstep.of_imsDials hinfo
  obtain ⟨⟨report, dial⟩, hswitching, hdial⟩ := Option.bind_eq_some_iff.mp hheld
  obtain ⟨c, hc, heq⟩ := Option.map_eq_some_iff.mp hswitching
  have hown := ownAt_of_some hc
  have hsome : IMSControl.heldDial c = some info := (Prod.mk.inj heq).2.trans hdial
  unfold IMSControl.heldDial at hsome
  split_ifs at hsome with hneed
  refine ⟨key, hkey, ?_, ?_⟩
  · rw [hown]
    exact hneed
  · rw [hown]
    exact Option.some.inj hsome

/-- In every run, what a response sends is the record of the dial that was put
into the connection last, and it is the one that dial passes without an active
call exactly when the call asks for no RTT. -/
theorem record_eq_direct_iff (P : Platform) (slotId : Int) (s : Slot) (h : Int → Option ImsDial)
    (hrun : Run (slotMachine P slotId) heldDials unconditional s h) (q : Nat) (ok : Bool)
    (service : ImsService) :
    ∀ record ∈ Output.imsDials
        ((slotMachine P slotId).step s (.swapCallResponse q ok service)).2,
      ∃ key d direct, firstHeld s.imsTable = some key ∧ h key = some d ∧ d.Direct P direct ∧
        (record = direct ↔ d.callInfo.isRTT = false) := by
  have hinv : RecordsTracked P s h :=
    hrun.invariant RecordsTracked.init fun _ _ e hinv _ _ => hinv.step e
  intro record hrecord
  obtain ⟨key, hfirst, hneed, hown⟩ := ownAt_of_imsDials hrecord
  obtain ⟨d, direct, hnoted, hdirect, hrtt, hkept⟩ := (hinv.tracked key).waits hneed
  refine ⟨key, d, direct, hfirst, hnoted, hdirect, ?_⟩
  rw [← hown, hkept, ← hrtt]
  constructor
  · intro heq
    rw [← heq]
  · intro hfalse
    rw [← hfalse]

/-- A call that asks for RTT, dialled beside an active one. -/
theorem not_record_eq_direct :
    ¬∀ (P : Platform) (slotId : Int) (s : Slot) (h : Int → Option ImsDial),
      Run (slotMachine P slotId) heldDials unconditional s h →
      ∀ (q : Nat) (ok : Bool) (service : ImsService), ∀ record ∈ Output.imsDials
        ((slotMachine P slotId).step s (.swapCallResponse q ok service)).2,
      ∃ key d direct, firstHeld s.imsTable = some key ∧ h key = some d ∧ d.Direct P direct ∧
        record = direct := by
  intro hclaim
  obtain ⟨key, d, direct, hfirst, hnoted, hdirect, hsame⟩ := hclaim .plain 0 _ _
    (Run.of_admits (M := slotMachine .plain 0) (H := heldDials)
      [.radioStateChange true (.plain .plain), .imsCallsData (.of [.plain 1 .active]),
        .dial { CellularCallInfo.plain .ims 0 with isRTT := true } false true
          ⟨true, .gsm, .plain⟩ (.plain .plain)] (by decide)) 0 true .plain _
    (List.mem_singleton.mpr rfl)
  have hkey : key = 1 := (Option.some.inj hfirst).symm
  subst hkey
  have hd : d = ⟨.plain .plain, true, { CellularCallInfo.plain .ims 0 with isRTT := true },
      false⟩ := (Option.some.inj hnoted).symm
  subst hd
  have hpassed := hdirect .fresh rfl rfl
  rw [← hsame] at hpassed
  exact absurd hpassed (by decide)

/-- A call without RTT, dialled beside an active one. -/
theorem record_eq_direct_plain :
    let M := slotMachine .plain 0
    let es : List Event := [.radioStateChange true (.plain .plain),
      .imsCallsData (.of [.plain 1 .active]),
      .dial (.plain .ims 0) false true ⟨true, .gsm, .plain⟩ (.plain .plain)]
    ∀ record ∈ Output.imsDials
        (M.step (exec M heldDials M.init heldDials.init es).1
          (.swapCallResponse 0 true .plain)).2,
      ∃ key d direct,
        firstHeld (exec M heldDials M.init heldDials.init es).1.imsTable = some key ∧
        (exec M heldDials M.init heldDials.init es).2 key = some d ∧ d.Direct .plain direct ∧
        (record = direct ↔ d.callInfo.isRTT = false) :=
  record_eq_direct_iff .plain 0 _ _ (Run.of_admits _ (by decide)) 0 true .plain

end CellularCall
