import CellularCall.CallbackHandlers
import CellularCall.HangUpAll

/-!
# The handlers of the service

`CellularCallService` makes a handler for each slot when it starts.  The handler is put
into three places: the service's own map, from which every request takes it and which the
notifications of the core service go by, and the map of `ImsCallClient`, by which the
callbacks of the IMS service go.  Both maps keep the first handler of a slot.

`OnStop` empties the map of the client and leaves that of the service alone.  It means to
take the notifications back too, but resets its copy of each handler first, and so takes
back those of no handler.  `handlers_of_run` says what follows on every run of starts,
stops and messages: the core service notifies one handler for each slot, the one requests
name, for ever; and the IMS callbacks of the slot go to the same handler if and only if the
service has not been stopped since it was made, and no callback came before it.

The core service is not part of this repository: `CoreService` is what the service asks of
it, and `CoreService.Documented` what it is taken to do.
-/

namespace CellularCall

open Lib

/-- A `CellularCallHandler`: its slot, and how many were made before it. -/
structure Handler where
  slotId : Int
  serial : Nat
  deriving DecidableEq, Repr

/-- The notifications of the core service that a handler registers for. -/
inductive CoreNotify
  | radioAvail
  | radioNotAvail
  | simStateChange
  | simRecordsLoaded
  | simAccountLoaded
  | callStatusInfo
  | callUssdNotice
  | callSsNotice
  | callEmergencyNumberReport
  | callRingbackVoice
  | callSrvccStatus
  | callRsrvccStatus
  | residentNetworkChange
  | rilAdapterHostDied
  | factoryReset
  | nvRefreshFinished
  | radioStateChanged
  deriving DecidableEq, Repr

/-- Those of `RegisterCoreServiceHandler`. -/
def registeredNotifies : List CoreNotify :=
  [.radioAvail, .radioNotAvail, .simStateChange, .simRecordsLoaded, .simAccountLoaded,
    .callStatusInfo, .callUssdNotice, .callSsNotice, .callEmergencyNumberReport,
    .callRingbackVoice, .callSrvccStatus, .callRsrvccStatus, .residentNetworkChange,
    .rilAdapterHostDied, .factoryReset, .nvRefreshFinished, .radioStateChanged]

/-- Those of `HandlerResetUnRegister`. -/
def unRegisteredNotifies : List CoreNotify :=
  [.radioAvail, .radioNotAvail, .simRecordsLoaded, .simAccountLoaded, .callStatusInfo,
    .callUssdNotice, .callSsNotice, .callRingbackVoice, .callEmergencyNumberReport,
    .callSrvccStatus, .callRsrvccStatus, .residentNetworkChange, .rilAdapterHostDied,
    .factoryReset, .radioStateChanged]

/-- A handler that is registered for a notification of a slot. -/
structure CoreRegistration where
  slotId : Int
  handler : Handler
  event : CoreNotify
  deriving DecidableEq, Repr

/-- What the service asks for: a call of `RegisterHandler` later on, the notifications of
the core service, the radio state, or that the controls of a slot forget their calls. -/
inductive HandlerOutput
  | registerHandlerLater (handler : Handler)
  | registerCoreNotify (registration : CoreRegistration)
  | unRegisterCoreNotify (slotId : Int) (handler : Option Handler) (event : CoreNotify)
  | getRadioState (slotId : Int) (handler : Handler)
  | releaseAllConnection (slotId : Int)
  deriving DecidableEq, Repr

/-- The core service: the registrations it has at first, what becomes of them by a
request, and which they are. -/
structure CoreService (C : Type) where
  init : C
  after : C → HandlerOutput → C
  has : C → CoreRegistration → Prop

namespace CoreService

variable {C : Type}

/-- What is documented of the core service: nobody is registered at first,
`RegisterCoreNotify` registers a handler beside those there are, `UnRegisterCoreNotify`
takes back the registration of the handler it names, and other requests none. -/
structure Documented (M : CoreService C) : Prop where
  init : ∀ x, ¬M.has M.init x
  register : ∀ core x y, M.has (M.after core (.registerCoreNotify x)) y ↔ M.has core y ∨ y = x
  unRegister : ∀ core slotId handler event x,
    M.has (M.after core (.unRegisterCoreNotify slotId handler event)) x ↔
      M.has core x ∧ ¬(x.slotId = slotId ∧ some x.handler = handler ∧ x.event = event)
  later : ∀ core handler, M.after core (.registerHandlerLater handler) = core
  radio : ∀ core slotId handler, M.after core (.getRadioState slotId handler) = core
  release : ∀ core slotId, M.after core (.releaseAllConnection slotId) = core

/-- The core service after some requests. -/
def afterAll (M : CoreService C) (requests : List HandlerOutput) : C :=
  requests.foldl M.after M.init

/-- A core service that keeps a list. -/
def list : CoreService (List CoreRegistration) where
  init := []
  after core
    | .registerCoreNotify registration => registration :: core
    | .unRegisterCoreNotify slotId handler event => core.filter fun x =>
      !(x.slotId == slotId && some x.handler == handler && x.event == event)
    | _ => core
  has core x := x ∈ core

theorem list_documented : list.Documented where
  init := fun x => List.not_mem_nil
  register := fun core x y => List.mem_cons.trans or_comm
  unRegister := by
    intro core slotId handler event x
    show x ∈ core.filter _ ↔ x ∈ core ∧ _
    rw [List.mem_filter]
    simp only [Bool.not_eq_true', Bool.and_eq_false_iff, beq_eq_false_iff_ne]
    tauto
  later := fun _ _ => rfl
  radio := fun _ _ _ => rfl
  release := fun _ _ => rfl

end CoreService

/-- The service, and the handlers of `ImsCallClient`. -/
structure ServiceHandlers where
  running : Bool
  created : Nat
  handlerMap : HandlerMap Handler
  imsHandlers : HandlerMap Handler
  isRadioOn : OrdMap Int Bool

namespace ServiceHandlers

/-- `DEFAULT_SIM_SLOT_ID`. -/
def defaultSimSlotId : Int := 0

def init : ServiceHandlers := ⟨false, 0, ∅, ∅, ∅⟩

/-! ## Starting -/

/-- One round of `SubscribeToEvents`: the handler of a slot is made, and registers for the
callbacks of the IMS service before the service has it. -/
def subscribeSlot (s : ServiceHandlers) (slotId : Int) : ServiceHandlers :=
  let handler : Handler := ⟨slotId, s.created⟩
  { s with
    created := s.created + 1
    imsHandlers := s.imsHandlers.registerCallbackHandler slotId (some handler)
    handlerMap := s.handlerMap.insertNew slotId (some handler) }

/-- `SubscribeToEvents`, which returns after the first slot if there is no ability
manager. -/
def subscribeToEvents (hasSamgr : Bool) : ServiceHandlers → List Int → ServiceHandlers
  | s, [] => s
  | s, slotId :: later =>
    if hasSamgr then subscribeToEvents hasSamgr (s.subscribeSlot slotId) later
    else s.subscribeSlot slotId

/-- `CreateHandler`.  With `BASE_POWER_IMPROVEMENT_FEATURE` there is a second subscriber
for each slot. -/
def createHandler (basePower : Bool) (slotCount : Int) (hasSamgr : Bool) (s : ServiceHandlers) :
    ServiceHandlers :=
  let s := subscribeToEvents hasSamgr s (getSlotInfo slotCount)
  if basePower then subscribeToEvents hasSamgr s (getSlotInfo slotCount) else s

/-- `SendEventRegisterHandler`. -/
def sendEventRegisterHandler (s : ServiceHandlers) : ServiceHandlers × List HandlerOutput :=
  let (handlerMap, handler) := s.handlerMap.getHandler defaultSimSlotId
  ({ s with handlerMap := handlerMap }, (handler.map HandlerOutput.registerHandlerLater).toList)

/-- The radio flags of `Init`: a slot that has one keeps it. -/
def initRadioOn (slotCount : Int) (s : ServiceHandlers) : ServiceHandlers :=
  { s with
    isRadioOn := (List.range slotCount.toNat).foldl
      (fun m (i : Nat) => m.insertNew (defaultSimSlotId + i) false) s.isRadioOn }

/-- `OnStart` with `Init`. -/
def onStart (basePower : Bool) (slotCount : Int) (hasSamgr : Bool) (s : ServiceHandlers) :
    ServiceHandlers × List HandlerOutput :=
  if s.running then (s, [])
  else
    let (s, outputs) := (createHandler basePower slotCount hasSamgr s).sendEventRegisterHandler
    ({ initRadioOn slotCount s with running := true }, outputs)

/-! ## The core service -/

/-- `RegisterCoreServiceHandler`, for one entry of the map. -/
def registerEntry (it : Int × Option Handler) : List HandlerOutput :=
  match it.2 with
  | none => []
  | some handler =>
    registeredNotifies.map (fun event => .registerCoreNotify ⟨it.1, handler, event⟩) ++
      [.getRadioState it.1 handler]

/-- `HandlerResetUnRegister`, for one entry of the map: the copy of the handler is reset
before it is named. -/
def unRegisterEntry (it : Int × Option Handler) : List HandlerOutput :=
  unRegisteredNotifies.map (fun event => .unRegisterCoreNotify it.1 none event) ++
    [.releaseAllConnection it.1]

/-- `RegisterHandler`, which gives up if the core service is not there in time. -/
def registerHandler (initFinished : Bool) (s : ServiceHandlers) : List HandlerOutput :=
  if initFinished then s.handlerMap.entries.flatMap registerEntry else []

/-- `OnStop`. -/
def onStop (s : ServiceHandlers) : ServiceHandlers × List HandlerOutput :=
  ({ s with imsHandlers := ∅, running := false }, s.handlerMap.entries.flatMap unRegisterEntry)

/-! ## Runs -/

/-- What happens.

* `registerHandler` is the event that `SendEventRegisterHandler` sends.
* `getHandler` is a request that looks for its handler, `imsCallback` a callback of the IMS
  service that does.
* `radioStateChanged` is a notification, `radioState` the answer to the question of
  `RegisterCoreServiceHandler`. -/
inductive Event
  | onStart (hasSamgr : Bool)
  | onStop
  | registerHandler (initFinished : Bool)
  | getHandler (slotId : Int)
  | imsCallback (slotId : Int)
  | radioStateChanged (slotId : Int) (powerOn : Bool)
  | radioState (slotId : Int) (powerOn : Bool)
  deriving DecidableEq, Repr

/-- `setRadioOnFlag`. -/
def setRadioOnFlag (s : ServiceHandlers) (flag : Bool) (slotId : Int) : ServiceHandlers :=
  { s with isRadioOn := (s.isRadioOn.erase slotId).insertNew slotId flag }

/-- `isRadioOnFlag`. -/
def isRadioOnFlag (s : ServiceHandlers) (slotId : Int) : Bool :=
  (s.isRadioOn.get? slotId).getD false

def machine (basePower : Bool) (slotCount : Int) :
    Machine ServiceHandlers Event HandlerOutput where
  init := init
  step s
    | .onStart hasSamgr => s.onStart basePower slotCount hasSamgr
    | .onStop => s.onStop
    | .registerHandler initFinished => (s, s.registerHandler initFinished)
    | .getHandler slotId => ({ s with handlerMap := (s.handlerMap.getHandler slotId).1 }, [])
    | .imsCallback slotId => ({ s with imsHandlers := (s.imsHandlers.getHandler slotId).1 }, [])
    | .radioStateChanged slotId powerOn => (s.setRadioOnFlag powerOn slotId, [])
    | .radioState _ _ => (s, [])

/-- What is remembered of a run: how many handlers there were at the last stop, what was
asked of the core service, and the last change of each slot's radio. -/
structure Past where
  since : Nat
  requests : List HandlerOutput
  radio : Int → Bool

def past : Monitor ServiceHandlers Event HandlerOutput Past where
  init := ⟨0, [], fun _ => false⟩
  allowed _ _ _ := True
  update r s e _ outputs :=
    { since :=
        match e with
        | .onStop => s.created
        | _ => r.since
      requests := r.requests ++ outputs
      radio :=
        match e with
        | .radioStateChanged slotId powerOn => Function.update r.radio slotId powerOn
        | _ => r.radio }

instance (r : Past) (s : ServiceHandlers) (e : Event) : Decidable (past.allowed r s e) :=
  isTrue trivial

/-! ## The two maps -/

/-- The handler a request gets. -/
def handler (s : ServiceHandlers) (slotId : Int) : Option Handler :=
  (s.handlerMap.getHandler slotId).2

/-- The handler a callback of the IMS service is sent to. -/
def imsHandler (s : ServiceHandlers) (slotId : Int) : Option Handler :=
  (s.imsHandlers.getHandler slotId).2

theorem handler_eq_some_iff {s : ServiceHandlers} {slotId : Int} {h : Handler} :
    s.handler slotId = some h ↔ s.handlerMap.get? slotId = some (some h) :=
  Option.join_eq_some_iff

theorem imsHandler_eq_some_iff {s : ServiceHandlers} {slotId : Int} {h : Handler} :
    s.imsHandler slotId = some h ↔ s.imsHandlers.get? slotId = some (some h) :=
  Option.join_eq_some_iff

/-- The maps, where `since` handlers were made before the last stop.  A handler of the
client was made after it, and the service has one for the slot as well; a handler of the
service that was made after it is the client's too, unless a callback came first. -/
structure Placed (s : ServiceHandlers) (since : Nat) : Prop where
  since_le : since ≤ s.created
  own : ∀ slotId h, s.handlerMap.get? slotId = some (some h) → h.serial < s.created
  fresh : ∀ slotId h, s.imsHandlers.get? slotId = some (some h) → since ≤ h.serial
  known : ∀ slotId h, s.imsHandlers.get? slotId = some (some h) → s.handlerMap.get? slotId ≠ none
  same : ∀ slotId h, s.handlerMap.get? slotId = some (some h) → since ≤ h.serial →
    s.imsHandlers.get? slotId = some none ∨ s.imsHandlers.get? slotId = some (some h)

section
variable {s s' : ServiceHandlers} {since : Nat}

/-- Nothing happens to the maps. -/
theorem Placed.frame (h : Placed s since) (hcreated : s'.created = s.created)
    (hmap : s'.handlerMap = s.handlerMap) (hims : s'.imsHandlers = s.imsHandlers) :
    Placed s' since where
  since_le := by
    rw [hcreated]
    exact h.since_le
  own := by
    rw [hcreated, hmap]
    exact h.own
  fresh := by
    rw [hims]
    exact h.fresh
  known := by
    rw [hims, hmap]
    exact h.known
  same := by
    rw [hims, hmap]
    exact h.same

theorem Placed.subscribeSlot (h : Placed s since) (slotId : Int) :
    Placed (s.subscribeSlot slotId) since where
  since_le := Nat.le_succ_of_le h.since_le
  own := by
    intro i c hc
    obtain hold | ⟨-, -, heq⟩ := OrdMap.get?_insertNew_eq_some.mp hc
    · exact Nat.lt_succ_of_lt (h.own i c hold)
    · cases heq
      exact Nat.lt_succ_self _
  fresh := by
    intro i c hc
    obtain hold | ⟨-, -, heq⟩ := OrdMap.get?_insertNew_eq_some.mp hc
    · exact h.fresh i c hold
    · cases heq
      exact h.since_le
  known := by
    intro i c hc hnone
    obtain ⟨hgone, hother⟩ := Option.or_eq_none_iff.mp
      ((OrdMap.get?_insertNew_or s.handlerMap slotId i _).symm.trans hnone)
    obtain hold | ⟨-, heq, -⟩ := OrdMap.get?_insertNew_eq_some.mp hc
    · exact h.known i c hold hgone
    · rw [if_pos heq] at hother
      cases hother
  same := by
    intro i c hc hsince
    obtain hold | ⟨hnone, heq, hnew⟩ := OrdMap.get?_insertNew_eq_some.mp hc
    · exact (h.same i c hold hsince).imp (fun hnull => OrdMap.get?_insertNew_of_some hnull _ _)
        fun hown => OrdMap.get?_insertNew_of_some hown _ _
    · -- the client cannot have another handler, as the service has none
      cases hclient : s.imsHandlers.get? i with
      | none => exact .inr (OrdMap.get?_insertNew_eq_some.mpr (.inr ⟨hclient, heq, hnew⟩))
      | some entry =>
        cases entry with
        | none => exact .inl (OrdMap.get?_insertNew_of_some hclient _ _)
        | some other => exact absurd hnone (h.known i other hclient)

theorem Placed.subscribeToEvents (h : Placed s since) (hasSamgr : Bool) (slots : List Int) :
    Placed (s.subscribeToEvents hasSamgr slots) since := by
  induction slots generalizing s with
  | nil => exact h
  | cons slotId later ih =>
    unfold ServiceHandlers.subscribeToEvents
    split
    · exact ih (h.subscribeSlot slotId)
    · exact h.subscribeSlot slotId

/-- A request that finds no entry leaves a null handler behind, and so changes no
handler. -/
theorem get?_getHandler_eq_some {m : HandlerMap Handler} {slotId i : Int} {c : Handler} :
    (m.getHandler slotId).1.get? i = some (some c) ↔ m.get? i = some (some c) := by
  unfold HandlerMap.getHandler
  rw [OrdMap.get?_insertNew_eq_some]
  simp

theorem Placed.getHandler (h : Placed s since) (slotId : Int) :
    Placed { s with handlerMap := (s.handlerMap.getHandler slotId).1 } since where
  since_le := h.since_le
  own := fun i c hc => h.own i c (get?_getHandler_eq_some.mp hc)
  fresh := h.fresh
  known := by
    intro i c hc hnone
    have hgone := Option.or_eq_none_iff.mp
      ((OrdMap.get?_insertNew_or s.handlerMap slotId i none).symm.trans hnone)
    exact h.known i c hc hgone.1
  same := fun i c hc => h.same i c (get?_getHandler_eq_some.mp hc)

theorem Placed.imsCallback (h : Placed s since) (slotId : Int) :
    Placed { s with imsHandlers := (s.imsHandlers.getHandler slotId).1 } since where
  since_le := h.since_le
  own := h.own
  fresh := fun i c hc => h.fresh i c (get?_getHandler_eq_some.mp hc)
  known := fun i c hc => h.known i c (get?_getHandler_eq_some.mp hc)
  same := fun i c hc hsince => (h.same i c hc hsince).imp
    (fun hnull => OrdMap.get?_insertNew_of_some hnull _ _) get?_getHandler_eq_some.mpr

theorem Placed.onStart (h : Placed s since) (basePower : Bool) (slotCount : Int)
    (hasSamgr : Bool) : Placed (s.onStart basePower slotCount hasSamgr).1 since := by
  unfold ServiceHandlers.onStart
  split
  · exact h
  · have hcreated : Placed (createHandler basePower slotCount hasSamgr s) since := by
      unfold createHandler
      dsimp only
      split
      · exact (h.subscribeToEvents _ _).subscribeToEvents _ _
      · exact h.subscribeToEvents _ _
    exact (hcreated.getHandler defaultSimSlotId).frame rfl rfl rfl

/-- The client forgets its handlers, and so nothing it had was made since. -/
theorem Placed.onStop (h : Placed s since) : Placed s.onStop.1 s.created := by
  refine ⟨Nat.le_refl _, h.own, nofun, nofun, fun i c hc hsince => ?_⟩
  have hlt := h.own i c hc
  omega

end

/-! ## The core service -/

/-- Where no handler is taken back, the core service has what was asked for. -/
theorem has_afterAll_iff {C : Type} {M : CoreService C}
    (hM : M.Documented) {requests : List HandlerOutput}
    (hnull : ∀ slotId h event, .unRegisterCoreNotify slotId (some h) event ∉ requests)
    (x : CoreRegistration) :
    M.has (M.afterAll requests) x ↔ .registerCoreNotify x ∈ requests := by
  induction requests using List.reverseRecOn with
  | nil => exact iff_of_false (hM.init x) List.not_mem_nil
  | append_singleton requests o ih =>
    have hbefore := ih fun slotId h event hmem =>
      hnull slotId h event (List.mem_append_left _ hmem)
    have hstep : M.afterAll (requests ++ [o]) = M.after (M.afterAll requests) o := by
      rw [CoreService.afterAll, List.foldl_append]
      rfl
    rw [hstep, List.mem_append, List.mem_singleton, ← hbefore]
    cases o with
    | registerCoreNotify y =>
      rw [hM.register, HandlerOutput.registerCoreNotify.injEq]
    | unRegisterCoreNotify slotId handler event =>
      have hnone : handler = none := by
        cases handler with
        | none => rfl
        | some h =>
          exact absurd (List.mem_append_right _ List.mem_cons_self) (hnull slotId h event)
      rw [hM.unRegister, hnone]
      simp
    | registerHandlerLater handler => simp [hM.later]
    | getRadioState slotId handler => simp [hM.radio]
    | releaseAllConnection slotId => simp [hM.release]

theorem mem_registerEntries_iff {s : ServiceHandlers} {x : CoreRegistration} :
    .registerCoreNotify x ∈ s.handlerMap.entries.flatMap registerEntry ↔
      s.handler x.slotId = some x.handler ∧ x.event ∈ registeredNotifies := by
  rw [List.mem_flatMap, handler_eq_some_iff, ← OrdMap.mem_entries_iff]
  constructor
  · intro hmem
    obtain ⟨⟨slotId, entry⟩, hit, hx⟩ := hmem
    cases entry with
    | none => cases hx
    | some h =>
      simp only [registerEntry, List.mem_append, List.mem_map, List.mem_singleton, reduceCtorEq,
        or_false, HandlerOutput.registerCoreNotify.injEq] at hx
      obtain ⟨event, hevent, rfl⟩ := hx
      exact ⟨hit, hevent⟩
  · intro hx
    refine ⟨(x.slotId, some x.handler), hx.1, List.mem_append_left _ ?_⟩
    exact List.mem_map.mpr ⟨x.event, hx.2, rfl⟩

/-- What was asked of the core service: registrations of the handlers that requests name,
and to take back those of no handler. -/
structure Requested (s : ServiceHandlers) (requests : List HandlerOutput) : Prop where
  named : ∀ x, .registerCoreNotify x ∈ requests → s.handler x.slotId = some x.handler
  null : ∀ slotId h event, .unRegisterCoreNotify slotId (some h) event ∉ requests

section
variable {s s' : ServiceHandlers} {requests : List HandlerOutput}

/-- What is asked for fits the handlers, and no handler is replaced. -/
theorem Requested.append (h : Requested s requests) {outputs : List HandlerOutput}
    (houtputs : Requested s' outputs)
    (hkept : ∀ slotId c, s.handler slotId = some c → s'.handler slotId = some c) :
    Requested s' (requests ++ outputs) where
  named := by
    intro x hx
    obtain hold | hnew := List.mem_append.mp hx
    · exact hkept _ _ (h.named x hold)
    · exact houtputs.named x hnew
  null := by
    intro slotId c event hmem
    obtain hold | hnew := List.mem_append.mp hmem
    · exact h.null slotId c event hold
    · exact houtputs.null slotId c event hnew

theorem Requested.nil : Requested s [] := ⟨nofun, nofun⟩

theorem handler_subscribeSlot {slotId i : Int} {c : Handler} (hc : s.handler i = some c) :
    (s.subscribeSlot slotId).handler i = some c := by
  rw [handler_eq_some_iff] at hc ⊢
  exact OrdMap.get?_insertNew_of_some hc _ _

theorem handler_subscribeToEvents {hasSamgr : Bool} {slots : List Int} {i : Int} {c : Handler}
    (hc : s.handler i = some c) : (s.subscribeToEvents hasSamgr slots).handler i = some c := by
  induction slots generalizing s with
  | nil => exact hc
  | cons slotId later ih =>
    unfold subscribeToEvents
    split
    · exact ih (handler_subscribeSlot hc)
    · exact handler_subscribeSlot hc

theorem handler_getHandler {slotId i : Int} {c : Handler} (hc : s.handler i = some c) :
    ({ s with handlerMap := (s.handlerMap.getHandler slotId).1 } : ServiceHandlers).handler i =
      some c := by
  rw [handler_eq_some_iff] at hc ⊢
  exact get?_getHandler_eq_some.mpr hc

/-- A start keeps the handlers there are. -/
theorem handler_onStart {basePower hasSamgr : Bool} {slotCount i : Int} {c : Handler}
    (hc : s.handler i = some c) :
    (s.onStart basePower slotCount hasSamgr).1.handler i = some c := by
  unfold ServiceHandlers.onStart
  split
  · exact hc
  · refine handler_getHandler (s := createHandler basePower slotCount hasSamgr s) ?_
    unfold createHandler
    dsimp only
    split
    · exact handler_subscribeToEvents (handler_subscribeToEvents hc)
    · exact handler_subscribeToEvents hc

/-- A start asks the core service for nothing. -/
theorem requested_onStart (basePower : Bool) (slotCount : Int) (hasSamgr : Bool)
    (s s' : ServiceHandlers) : Requested s' (s.onStart basePower slotCount hasSamgr).2 := by
  have hlater : ∀ c : Option Handler,
      Requested s' (c.map HandlerOutput.registerHandlerLater).toList := by
    intro c
    cases c <;> exact ⟨by simp, by simp⟩
  unfold onStart
  split
  · exact .nil
  · exact hlater _

theorem requested_registerHandler (initFinished : Bool) (s : ServiceHandlers) :
    Requested s (s.registerHandler initFinished) := by
  unfold ServiceHandlers.registerHandler
  split
  · refine ⟨fun x hx => (mem_registerEntries_iff.mp hx).1, fun slotId c event hmem => ?_⟩
    obtain ⟨⟨i, entry⟩, -, hx⟩ := List.mem_flatMap.mp hmem
    cases entry <;> simp [registerEntry] at hx
  · exact .nil

/-- A stop names no handler. -/
theorem requested_onStop (s : ServiceHandlers) : Requested s.onStop.1 s.onStop.2 := by
  refine ⟨fun x hmem => ?_, fun slotId c event hmem => ?_⟩
  · obtain ⟨it, -, hx⟩ := List.mem_flatMap.mp hmem
    simp [unRegisterEntry] at hx
  · obtain ⟨it, -, hx⟩ := List.mem_flatMap.mp hmem
    simp [unRegisterEntry] at hx

end

/-! ## Runs -/

theorem isRadioOnFlag_initRadioOn (slotCount : Int) (s : ServiceHandlers) (slotId : Int) :
    (initRadioOn slotCount s).isRadioOnFlag slotId = s.isRadioOnFlag slotId := by
  show (OrdMap.get? (List.foldl _ s.isRadioOn _) slotId).getD false = _
  rw [OrdMap.get?_foldl_insertNew (fun i : Nat => defaultSimSlotId + i) fun _ => false]
  unfold isRadioOnFlag
  cases s.isRadioOn.get? slotId with
  | some flag => rfl
  | none =>
    generalize List.find? _ (List.range slotCount.toNat) = found
    cases found <;> rfl

theorem isRadioOn_subscribeToEvents (hasSamgr : Bool) (s : ServiceHandlers) (slots : List Int) :
    (s.subscribeToEvents hasSamgr slots).isRadioOn = s.isRadioOn := by
  induction slots generalizing s with
  | nil => rfl
  | cons slotId later ih =>
    unfold subscribeToEvents
    split
    · exact ih _
    · rfl

theorem isRadioOnFlag_onStart (basePower : Bool) (slotCount : Int) (hasSamgr : Bool)
    (s : ServiceHandlers) (slotId : Int) :
    (s.onStart basePower slotCount hasSamgr).1.isRadioOnFlag slotId = s.isRadioOnFlag slotId := by
  unfold onStart
  split
  · rfl
  · refine (isRadioOnFlag_initRadioOn slotCount _ slotId).trans ?_
    unfold isRadioOnFlag
    show ((createHandler basePower slotCount hasSamgr s).isRadioOn.get? slotId).getD false = _
    unfold createHandler
    dsimp only
    split
    · rw [isRadioOn_subscribeToEvents, isRadioOn_subscribeToEvents]
    · rw [isRadioOn_subscribeToEvents]

theorem isRadioOnFlag_setRadioOnFlag (s : ServiceHandlers) (flag : Bool) (slotId i : Int) :
    (s.setRadioOnFlag flag slotId).isRadioOnFlag i =
      Function.update s.isRadioOnFlag slotId flag i := by
  unfold isRadioOnFlag setRadioOnFlag
  rw [OrdMap.get?_insertNew, Function.update_apply]
  split
  · rw [OrdMap.get?_erase, if_pos rfl]
    rfl
  · next hne => rw [OrdMap.get?_erase, if_neg hne]

/-- Where the messages of a slot go, and what the service takes the radio for. -/
structure Routed {C : Type} (M : CoreService C) (s : ServiceHandlers) (r : Past) : Prop where
  core : ∀ x, M.has (M.afterAll r.requests) x → s.handler x.slotId = some x.handler
  asked : ∀ x, .registerCoreNotify x ∈ r.requests → M.has (M.afterAll r.requests) x
  ims : ∀ slotId h, s.handler slotId = some h →
    (s.imsHandler slotId = some h ↔
      r.since ≤ h.serial ∧ s.imsHandlers.get? slotId ≠ some none)
  radio : ∀ slotId, s.isRadioOnFlag slotId = r.radio slotId

/-- On every run, over every core service that does what is documented: it notifies the
handler that requests name and no other, and a registration once asked for stays; the
callbacks of the IMS service go to the same handler exactly if it was made since the last
stop and no callback has left a null handler; and the service takes a radio to be on
exactly if the last change of its state said so, whatever the answer to its question. -/
theorem handlers_of_run {C : Type} {M : CoreService C} (hM : M.Documented) (basePower : Bool)
    (slotCount : Int) {s : ServiceHandlers} {r : Past}
    (hrun : Run (machine basePower slotCount) past unconditional s r) : Routed M s r := by
  have hkept : Placed s r.since ∧ Requested s r.requests ∧ s.isRadioOnFlag = r.radio := by
    refine hrun.invariant (I := fun s r => Placed s r.since ∧ Requested s r.requests ∧
      s.isRadioOnFlag = r.radio) ?_ ?_
    · exact ⟨⟨Nat.le_refl _, nofun, nofun, nofun, nofun⟩, .nil, rfl⟩
    · intro s r e h _ _
      obtain ⟨hplaced, hrequested, hradio⟩ := h
      cases e with
      | onStart hasSamgr =>
        refine ⟨hplaced.onStart basePower slotCount hasSamgr, ?_, ?_⟩
        · exact hrequested.append (requested_onStart basePower slotCount hasSamgr s _)
            fun _ _ hc => handler_onStart hc
        · funext slotId
          exact (isRadioOnFlag_onStart ..).trans (congrFun hradio slotId)
      | onStop =>
        exact ⟨hplaced.onStop, hrequested.append (requested_onStop s) fun _ _ hc => hc, hradio⟩
      | registerHandler initFinished =>
        exact ⟨hplaced,
          hrequested.append (requested_registerHandler initFinished s) fun _ _ hc => hc, hradio⟩
      | getHandler slotId =>
        exact ⟨hplaced.getHandler slotId,
          hrequested.append .nil fun _ _ hc => handler_getHandler hc, hradio⟩
      | imsCallback slotId =>
        exact ⟨hplaced.imsCallback slotId, hrequested.append .nil fun _ _ hc => hc, hradio⟩
      | radioStateChanged slotId powerOn =>
        refine ⟨hplaced.frame rfl rfl rfl, hrequested.append .nil fun _ _ hc => hc, ?_⟩
        funext i
        refine (isRadioOnFlag_setRadioOnFlag s powerOn slotId i).trans ?_
        rw [hradio]
        rfl
      | radioState slotId powerOn =>
        exact ⟨hplaced, hrequested.append .nil fun _ _ hc => hc, hradio⟩
  obtain ⟨hplaced, hrequested, hradio⟩ := hkept
  have hhas := has_afterAll_iff hM hrequested.null
  refine ⟨fun x hx => hrequested.named x ((hhas x).mp hx), fun x hx => (hhas x).mpr hx,
    fun slotId h hh => ?_, congrFun hradio⟩
  rw [handler_eq_some_iff] at hh
  rw [imsHandler_eq_some_iff]
  constructor
  · intro hims
    refine ⟨hplaced.fresh slotId h hims, ?_⟩
    rw [hims]
    simp
  · intro hsince
    exact (hplaced.same slotId h hh hsince.1).resolve_left hsince.2

/-- After a restart the requests of a slot still name its first handler, and the callbacks
of the IMS service go to another. -/
theorem handlers_after_restart :
    let s := exec (machine false 1) past init past.init
      [.onStart true, .registerHandler true, .onStop, .onStart true, .registerHandler true]
    Routed CoreService.list s.1 s.2 ∧ s.1.handler 0 = some ⟨0, 0⟩ ∧
      s.1.imsHandler 0 = some ⟨0, 1⟩ :=
  ⟨handlers_of_run CoreService.list_documented false 1
    (Run.of_admits (M := machine false 1) (H := past) _ (by decide)), by decide, by decide⟩

end ServiceHandlers

end CellularCall
