import CellularCall.ConfigIsolation

/-!
# Changes of the network

`HandleNetworkStateChange` has two things to do when a slot's network changes.
The first time a slot is in service after its SIM was changed or loaded, it asks
for the IMS switch.  And where the state of the network is not the one it
remembers, it has the emergency numbers updated.

`watchMachine` has the changes of the network and of the SIM as events.  An
update of the emergency numbers is an output: it touches neither memory.

`requests_of_run` says at which events of a run the two are done, in terms of the
events before.
-/

namespace CellularCall

open Lib

/-- The changes of the network and of the SIM, with what the core service says
then. -/
inductive WatchEvent where
  | handleSimStateChanged (slotId : Int) (simState : SimState)
  | handleSimRecordsLoaded (slotId : Int) (simState : SimState)
  | handleNetworkStateChange (slotId : Int) (networkState : Option NetworkState)
    (simState : SimState)
deriving DecidableEq, Repr

/-- What is done at a change. -/
inductive WatchOutput where
  | getImsSwitchStatusRequest (slotId : Int)
  | updateEccNumberList (slotId : Int)
deriving DecidableEq, Repr

namespace ConfigState

variable (K : OperatorConstants)

/-- `CheckAndUpdateSimState`: whether the SIM came or went. -/
def checkAndUpdateSimState (s : ConfigState) (slotId : Int) (simState : SimState) :
    ConfigState × Bool :=
  let (config, changed) := s.ecc.config.checkAndUpdateSimState slotId simState
  ({ s with ecc := { s.ecc with config := config } }, changed)

/-- `HandleSimStateChanged`. -/
def handleSimStateChanged (s : ConfigState) (slotId : Int) (simState : SimState) :
    ConfigState × List WatchOutput :=
  if CellularCallConfig.isValidSlotId K.toConfigConstants slotId = false then (s, [])
  else
    let (s, changed) := s.checkAndUpdateSimState slotId simState
    (s.noteSimChange K slotId, if changed then [.updateEccNumberList slotId] else [])

/-- `HandleSimRecordsLoaded`. -/
def handleSimRecordsLoaded (s : ConfigState) (slotId : Int) (simState : SimState) :
    ConfigState × List WatchOutput :=
  if CellularCallConfig.isValidSlotId K.toConfigConstants slotId = false then (s, [])
  else
    let (s, _) := s.checkAndUpdateSimState slotId simState
    (s.noteSimChange K slotId, [.updateEccNumberList slotId])

/-- `HandleNetworkStateChange`, with what follows its locked section where the
state has changed. -/
def watchNetworkState (s : ConfigState) (slotId : Int) (networkState : Option NetworkState)
    (simState : SimState) : ConfigState × List WatchOutput :=
  if CellularCallConfig.isValidSlotId K.toConfigConstants slotId = false then (s, [])
  else
    match networkState with
    | none => (s, [])
    | some state =>
      let asked : List WatchOutput :=
        if state.inService && s.shouldCheckImsAfterNvUpdate slotId then
          [.getImsSwitchStatusRequest slotId]
        else []
      let locked := s.handleNetworkStateChange K slotId networkState
      if s.networkServiceState slotId = state then (locked, asked)
      else
        ((locked.checkAndUpdateSimState slotId simState).1, asked ++ [.updateEccNumberList slotId])

end ConfigState

/-- The configuration under changes of the network and of the SIM. -/
def watchMachine (K : OperatorConstants) (db : EccDatabase)
    (vonrState imsSwitchState : Int → Option Int) : Machine ConfigState WatchEvent WatchOutput where
  init := .init K db vonrState imsSwitchState
  step s
    | .handleSimStateChanged slotId simState => s.handleSimStateChanged K slotId simState
    | .handleSimRecordsLoaded slotId simState => s.handleSimRecordsLoaded K slotId simState
    | .handleNetworkStateChange slotId networkState simState =>
      s.watchNetworkState K slotId networkState simState

/-! ## The events before -/

namespace WatchEvent

/-- A change of the slot's SIM. -/
def isSimEvent (slotId : Int) : WatchEvent → Bool
  | handleSimStateChanged slot _ | handleSimRecordsLoaded slot _ => decide (slot = slotId)
  | handleNetworkStateChange _ _ _ => false

/-- The state of the slot's network, where the event has one. -/
def stateOf (slotId : Int) : WatchEvent → Option NetworkState
  | handleNetworkStateChange slot networkState _ =>
    if slot = slotId then networkState else none
  | _ => none

/-- The slot is in service. -/
def isInService (slotId : Int) (e : WatchEvent) : Bool :=
  (e.stateOf slotId).any NetworkState.inService

end WatchEvent

/-- Remembers the events, the last one first. -/
def pastMonitor : Monitor ConfigState WatchEvent WatchOutput (List WatchEvent) where
  init := []
  allowed _ _ _ := True
  update past _ e _ _ := e :: past

/-- The slot was not in service since the last change of its SIM, or since the
start. -/
def notInServiceSince (slotId : Int) (past : List WatchEvent) : Bool :=
  (past.takeWhile fun e => !e.isSimEvent slotId).all fun e => !e.isInService slotId

/-- The last state of the slot's network; at the start it is not in service, and
does not roam. -/
def lastNetworkState (slotId : Int) (past : List WatchEvent) : NetworkState :=
  (past.findSome? (WatchEvent.stateOf slotId)).getD ⟨false, false⟩

/-- The two memories say what the events before were. -/
structure Watches (K : OperatorConstants) (s : ConfigState) (past : List WatchEvent) : Prop where
  asks : ∀ slotId, CellularCallConfig.isValidSlotId K.toConfigConstants slotId = true →
    s.shouldCheckImsAfterNvUpdate slotId = notInServiceSince slotId past
  remembers : ∀ slotId, CellularCallConfig.isValidSlotId K.toConfigConstants slotId = true →
    s.networkServiceState slotId = lastNetworkState slotId past

section
variable {K : OperatorConstants} {db : EccDatabase} {vonrState imsSwitchState : Int → Option Int}
  {s : ConfigState} {past : List WatchEvent}

theorem watches_init : Watches K (.init K db vonrState imsSwitchState) [] :=
  ⟨fun _ hvalid => hvalid, fun _ _ => rfl⟩

theorem notInServiceSince_cons (slotId : Int) (e : WatchEvent) (past : List WatchEvent) :
    notInServiceSince slotId (e :: past) =
      (e.isSimEvent slotId || (!e.isInService slotId && notInServiceSince slotId past)) := by
  cases hsim : e.isSimEvent slotId <;> simp [notInServiceSince, hsim]

theorem lastNetworkState_cons (slotId : Int) (e : WatchEvent) (past : List WatchEvent) :
    lastNetworkState slotId (e :: past) =
      (e.stateOf slotId).getD (lastNetworkState slotId past) := by
  cases hstate : e.stateOf slotId <;> simp [lastNetworkState, hstate]

/-- A change of the SIM of slot `b`: the next time it is in service is the first. -/
theorem Watches.noteSimChange {e : WatchEvent} {s' : ConfigState} {b : Int} (h : Watches K s past)
    (hsim : ∀ a, e.isSimEvent a = decide (b = a)) (hstate : ∀ a, e.stateOf a = none)
    (hvalid : CellularCallConfig.isValidSlotId K.toConfigConstants b = true)
    (hasks : s'.shouldCheckImsAfterNvUpdate = s.shouldCheckImsAfterNvUpdate)
    (hremembers : s'.networkServiceState = s.networkServiceState) :
    Watches K (s'.noteSimChange K b) (e :: past) := by
  have hnote : s'.noteSimChange K b = { s' with
      shouldCheckImsAfterNvUpdate := Function.update s'.shouldCheckImsAfterNvUpdate b true } := by
    rw [ConfigState.noteSimChange, if_neg (by rw [hvalid]; decide)]
  rw [hnote]
  constructor
  · intro a ha
    rw [notInServiceSince_cons, hsim, WatchEvent.isInService, hstate]
    by_cases hab : b = a
    · subst hab
      simp
    · simp only [hab, decide_false, Bool.false_or, Option.any_none, Bool.not_false, Bool.true_and,
        Function.update_of_ne (Ne.symm hab), hasks]
      exact h.asks a ha
  · intro a ha
    rw [lastNetworkState_cons, hstate, Option.getD_none, hremembers]
    exact h.remembers a ha

/-- An event that says nothing of a slot there is. -/
theorem Watches.of_silent {e : WatchEvent} (h : Watches K s past)
    (hsilent : ∀ a, CellularCallConfig.isValidSlotId K.toConfigConstants a = true →
      e.isSimEvent a = false ∧ e.stateOf a = none) :
    Watches K s (e :: past) := by
  constructor
  · intro a ha
    obtain ⟨hsim, hstate⟩ := hsilent a ha
    rw [notInServiceSince_cons, hsim, WatchEvent.isInService, hstate]
    exact h.asks a ha
  · intro a ha
    rw [lastNetworkState_cons, (hsilent a ha).2]
    exact h.remembers a ha

/-- A slot there is none of is not the one an event is for. -/
theorem ne_of_valid {a b : Int}
    (hinvalid : CellularCallConfig.isValidSlotId K.toConfigConstants b = false)
    (hvalid : CellularCallConfig.isValidSlotId K.toConfigConstants a = true) : b ≠ a := by
  intro heq
  rw [heq, hvalid] at hinvalid
  cases hinvalid

/-- What a state of the network leaves in the two memories. -/
theorem watchNetworkState_memories {b : Int} (s : ConfigState) (state : NetworkState)
    (simState : SimState)
    (hvalid : ¬CellularCallConfig.isValidSlotId K.toConfigConstants b = false) :
    let s' := (s.watchNetworkState K b (some state) simState).1
    s'.shouldCheckImsAfterNvUpdate = Function.update s.shouldCheckImsAfterNvUpdate b
        (s.shouldCheckImsAfterNvUpdate b && !state.inService) ∧
      s'.networkServiceState = Function.update s.networkServiceState b state := by
  simp only [ConfigState.watchNetworkState, if_neg hvalid, ConfigState.handleNetworkStateChange]
  split <;> exact ⟨rfl, rfl⟩

theorem Watches.step (h : Watches K s past) (e : WatchEvent) :
    Watches K ((watchMachine K db vonrState imsSwitchState).step s e).1 (e :: past) := by
  cases e with
  | handleSimStateChanged b simState =>
    by_cases hvalid : CellularCallConfig.isValidSlotId K.toConfigConstants b = false
    · simp only [watchMachine, ConfigState.handleSimStateChanged, if_pos hvalid]
      exact h.of_silent fun a ha => ⟨decide_eq_false (ne_of_valid hvalid ha), rfl⟩
    · simp only [watchMachine, ConfigState.handleSimStateChanged, if_neg hvalid]
      exact h.noteSimChange (fun _ => rfl) (fun _ => rfl) (by simpa using hvalid) rfl rfl
  | handleSimRecordsLoaded b simState =>
    by_cases hvalid : CellularCallConfig.isValidSlotId K.toConfigConstants b = false
    · simp only [watchMachine, ConfigState.handleSimRecordsLoaded, if_pos hvalid]
      exact h.of_silent fun a ha => ⟨decide_eq_false (ne_of_valid hvalid ha), rfl⟩
    · simp only [watchMachine, ConfigState.handleSimRecordsLoaded, if_neg hvalid]
      exact h.noteSimChange (fun _ => rfl) (fun _ => rfl) (by simpa using hvalid) rfl rfl
  | handleNetworkStateChange b networkState simState =>
    by_cases hvalid : CellularCallConfig.isValidSlotId K.toConfigConstants b = false
    · simp only [watchMachine, ConfigState.watchNetworkState, if_pos hvalid]
      exact h.of_silent fun a ha => ⟨rfl, if_neg (ne_of_valid hvalid ha)⟩
    · cases networkState with
      | none =>
        simp only [watchMachine, ConfigState.watchNetworkState, if_neg hvalid]
        exact h.of_silent fun a _ => ⟨rfl, ite_self none⟩
      | some state =>
        obtain ⟨hasks, hremembers⟩ := watchNetworkState_memories s state simState hvalid
        constructor
        · intro a ha
          rw [notInServiceSince_cons, ← h.asks a ha]
          show ((s.watchNetworkState K b (some state) simState).1).shouldCheckImsAfterNvUpdate a = _
          rw [hasks]
          by_cases hab : b = a
          · subst hab
            simp [WatchEvent.isSimEvent, WatchEvent.isInService, WatchEvent.stateOf, Bool.and_comm]
          · simp [WatchEvent.isSimEvent, WatchEvent.isInService, WatchEvent.stateOf, hab,
              Function.update_of_ne (Ne.symm hab)]
        · intro a ha
          rw [lastNetworkState_cons, ← h.remembers a ha]
          show ((s.watchNetworkState K b (some state) simState).1).networkServiceState a = _
          rw [hremembers]
          by_cases hab : b = a
          · subst hab
            simp [WatchEvent.stateOf]
          · simp [WatchEvent.stateOf, hab, Function.update_of_ne (Ne.symm hab)]

/-- At an event of a run the slot's IMS switch is asked for if and only if it is
the first that finds the slot in service since its SIM changed, or since the
start; the emergency numbers are updated if and only if the state of the slot's
network is not that of the last event that had one. -/
theorem requests_of_run (K : OperatorConstants) (db : EccDatabase)
    (vonrState imsSwitchState : Int → Option Int) {s : ConfigState} {past : List WatchEvent}
    (hrun : Run (watchMachine K db vonrState imsSwitchState) pastMonitor unconditional s past)
    (slotId : Int) (networkState : Option NetworkState) (simState : SimState) :
    ((watchMachine K db vonrState imsSwitchState).step s
      (.handleNetworkStateChange slotId networkState simState)).2 =
      match networkState with
      | none => []
      | some state =>
        if CellularCallConfig.isValidSlotId K.toConfigConstants slotId = false then []
        else
          (if state.inService ∧ notInServiceSince slotId past then
            [.getImsSwitchStatusRequest slotId] else []) ++
          (if state ≠ lastNetworkState slotId past then [.updateEccNumberList slotId] else []) := by
  have hwatches : Watches K s past :=
    hrun.invariant watches_init fun _ _ e h _ _ => h.step e
  by_cases hvalid : CellularCallConfig.isValidSlotId K.toConfigConstants slotId = false
  · cases networkState <;> simp [watchMachine, ConfigState.watchNetworkState, hvalid]
  · have hslot : CellularCallConfig.isValidSlotId K.toConfigConstants slotId = true := by
      simpa using hvalid
    cases networkState with
    | none => simp [watchMachine, ConfigState.watchNetworkState]
    | some state =>
      simp only [watchMachine, ConfigState.watchNetworkState, if_neg hvalid,
        hwatches.asks slotId hslot, hwatches.remembers slotId hslot, Bool.and_eq_true]
      by_cases hstate : lastNetworkState slotId past = state
      · simp [hstate]
      · simp [hstate, Ne.symm hstate]

end

/-- In service, then a change of the SIM. -/
def simChange : List WatchEvent :=
  [.handleNetworkStateChange 0 (some ⟨true, false⟩) .ready, .handleSimStateChanged 0 .loaded]

/-- The next time in service the switch is asked for again, though the state of
the network is the same. -/
theorem requests_of_run_after_simChange :
    let M := watchMachine .twoSlots twoFakes (fun _ => none) (fun _ => none)
    (M.step (exec M pastMonitor M.init pastMonitor.init simChange).1
      (.handleNetworkStateChange 0 (some ⟨true, false⟩) .loaded)).2 =
        [.getImsSwitchStatusRequest 0] := by
  intro M
  have hrun : Run M pastMonitor unconditional _ _ :=
    Run.of_admits simChange ⟨trivial, trivial, trivial, trivial, trivial⟩
  rw [requests_of_run .twoSlots twoFakes (fun _ => none) (fun _ => none) hrun 0
    (some ⟨true, false⟩) .loaded]
  decide

end CellularCall
