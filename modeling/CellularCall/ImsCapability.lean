import CellularCall.ImsSwitch
import CellularCall.Ipc.ImsRequest
import CellularCall.Lib.Threads

/-!
# What the IMS service is told

The configuration of a slot decides which IMS capabilities the slot has and whether IMS
is on; `UpdateImsCapabilities` sends both to the IMS service, which may not be there.
The service is asked for its switch at times, and an answer that differs from
`IsVolteSupport` makes the handler read and send the configuration again.

`told_of_run` says that nothing of the configuration is left unsent but what is sent
while the SIM is not ready, what is lost on the way, and what comes with a restart or
another SIM.  `resends_askedRounds` says when the questions come to rest: IMS is switched
on by `IsNeedTurnOnIms`, which counts VoNR, and compared with `IsVolteSupport`, which
does not.
-/

namespace CellularCall

open Lib

/-! ## Capabilities -/

/-- `CAPABILITY_TYPE_VOICE`. -/
def capabilityTypeVoice : Int := 0

/-- `CAPABILITY_TYPE_VIDEO`. -/
def capabilityTypeVideo : Int := 1

/-- `CAPABILITY_TYPE_UT`. -/
def capabilityTypeUt : Int := 2

/-- `NrMode`. -/
inductive NrMode
  | unknown
  | nsaOnly
  | saOnly
  | nsaAndSa
  deriving DecidableEq, Repr

/-- What the headers outside this repository fix besides: the preferred network modes
that include NR, and the radio technologies. -/
structure CapabilityConstants extends OperatorConstants where
  nrModeMin : Int
  nrModeMax : Int
  imsRegTechLte : Int
  imsRegTechNr : Int

/-- The requests of `ConfigRequest` to the IMS service. -/
inductive ConfigRequest
  | notifyOperatorConfigChanged (slotId state : Int)
  | updateImsCapabilities (slotId : Int) (imsCapabilityList : List ImsCapability)
  | setImsSwitchStatus (slotId : Int) (active : Bool)
  | setVideoCallWaiting (slotId : Int) (activate : Bool)
  | setCarrierVtConfig (slotId : Int) (active : Bool)
  | getImsSwitchStatus (slotId : Int)
  deriving DecidableEq, Repr

/-- What is answered during one operation: the EF IST of the SIM as bytes, the preferred
network mode, the NR mode if it can be read, whether the modem says UT is enabled,
whether the SIM is loaded or ready, whether IMS is registered, and which requests reach
the IMS service. -/
structure CapabilityEnv extends SwitchEnv where
  simIst : List UInt8
  networkMode : Int
  nrOptionMode : Option NrMode
  utFeatureEnabled : Bool
  simReady : Bool
  imsRegistered : Bool
  delivered : ConfigRequest → Bool

/-- `IMS_GBA_BIT`. -/
def imsGbaBit : UInt8 := 0x02

/-- `INVALID_OPERATOR_CONFIG_STATE`. -/
def invalidOperatorConfigState : Int := -1

/-- `IsVonrSupportedForImsSwitch`. -/
def isVonrSupportedForImsSwitch (isGbaValid : Bool) (env : CapabilityEnv) : Bool :=
  match env.nrOptionMode with
  | none => isGbaValid
  | some nrMode => decide (nrMode = .nsaAndSa ∨ nrMode = .saOnly)

/-- `IsNeedTurnOnIms`. -/
def isNeedTurnOnIms (imsCapabilityList : List ImsCapability) : Bool :=
  imsCapabilityList.any fun c =>
    decide (c.imsCapabilityType = capabilityTypeVoice ∨
      c.imsCapabilityType = capabilityTypeVideo) && c.enable

namespace SwitchState

variable (K : CapabilityConstants)

/-- `IsGbaValid`. -/
def isGbaValid (s : SwitchState) (slotId : Int) (env : CapabilityEnv) : Bool :=
  if s.config.operator.imsGbaRequired slotId then
    match env.simIst with
    | _ :: b :: _ => imsGbaBit &&& b != 0
    | _ => true
  else true

/-- `IsVolteSupport`. -/
def isVolteSupport (s : SwitchState) (slotId : Int) (env : CapabilityEnv) : Bool :=
  if CellularCallConfig.isValidSlotId K.toConfigConstants slotId = false then false
  else
    s.config.operator.volteSupported slotId && s.isGbaValid slotId env &&
      s.getImsSwitchStatus slotId env.queries &&
      s.config.isVolteProvisioned slotId (s.seen slotId env.toSwitchEnv)

/-- `IsUtProvisioned`. -/
def isUtProvisioned (s : SwitchState) (slotId : Int) (env : CapabilityEnv) : Bool :=
  if s.config.operator.utProvisioningSupported slotId then env.utFeatureEnabled else true

/-- `UpdateImsVoiceCapabilities`. -/
def updateImsVoiceCapabilities (s : SwitchState) (slotId : Int) (env : CapabilityEnv) :
    List ImsCapability :=
  (if K.nrModeMin ≤ env.networkMode ∧ env.networkMode ≤ K.nrModeMax then
    [⟨capabilityTypeVoice, K.imsRegTechNr,
      isVonrSupportedForImsSwitch (s.isGbaValid slotId env) env⟩]
  else []) ++ [⟨capabilityTypeVoice, K.imsRegTechLte, s.isVolteSupport K slotId env⟩]

/-- `UpdateImsUtCapabilities`. -/
def updateImsUtCapabilities (s : SwitchState) (slotId : Int) (env : CapabilityEnv) :
    List ImsCapability :=
  [⟨capabilityTypeUt, K.imsRegTechLte, s.config.operator.ssOverUtSupported slotId &&
    s.isGbaValid slotId env && s.isUtProvisioned slotId env⟩]

/-- The capabilities of a slot, with those of UT or without. -/
def imsCapabilities (s : SwitchState) (slotId : Int) (env : CapabilityEnv)
    (needUpdateUtCapability : Bool) : List ImsCapability :=
  s.updateImsVoiceCapabilities K slotId env ++
    if needUpdateUtCapability then s.updateImsUtCapabilities K slotId env else []

/-- `UpdateImsCapabilities`. -/
def updateImsCapabilities (s : SwitchState) (slotId : Int)
    (needUpdateUtCapability isOperatorConfigChanged : Bool) (state : Int) (env : CapabilityEnv) :
    List ConfigRequest :=
  let imsCapabilityList := s.imsCapabilities K slotId env needUpdateUtCapability
  (if isOperatorConfigChanged then [.notifyOperatorConfigChanged slotId state] else []) ++
    [.updateImsCapabilities slotId imsCapabilityList,
      .setImsSwitchStatus slotId (isNeedTurnOnIms imsCapabilityList)]

end SwitchState

/-! ## Operations -/

/-- The IMS service: its switch and its capabilities for each slot, the questions it has
been asked, and its answers on their way; an answer is an error or the switch. -/
structure ImsSide where
  active : Int → Int
  capabilities : Int → List ImsCapability
  queries : List Int
  answers : List (Int × Option Int)

namespace ImsSide

/-- A request, if it reaches the service. -/
def receive (delivered : ConfigRequest → Bool) (v : ImsSide) (r : ConfigRequest) : ImsSide :=
  if delivered r = false then v
  else
    match r with
    | .updateImsCapabilities slotId imsCapabilityList =>
      { v with capabilities := Function.update v.capabilities slotId imsCapabilityList }
    | .setImsSwitchStatus slotId active =>
      { v with active := Function.update v.active slotId (booleanToImsSwitchValue active) }
    | .getImsSwitchStatus slotId => { v with queries := v.queries ++ [slotId] }
    | .notifyOperatorConfigChanged _ _ | .setVideoCallWaiting _ _ | .setCarrierVtConfig _ _ => v

/-- The service answers a question of the slot, or fails to. -/
def answer (v : ImsSide) (slotId : Int) (fails : Bool) : ImsSide :=
  if slotId ∈ v.queries then
    { v with
      queries := v.queries.erase slotId
      answers := v.answers ++ [(slotId, if fails then none else some (v.active slotId))] }
  else v

end ImsSide

/-- The configuration and the IMS service. -/
abbrev ImsWorld := SwitchState × ImsSide

/-- What happens to both.  `updateImsCapabilities` is one round of the loop of
`NvCfgFinishedIndication`; `getImsSwitchStatusResponse` handles the first answer.
`drift` is the service that changes its switch by itself, as when it starts. -/
inductive ImsEvent
  | setImsSwitchStatus (slotId : Int) (active : Bool) (env : CapabilityEnv)
  | updateImsConfiguration (slotId : Int) (operatorConfig : Option OperatorConfig)
    (configState : Int) (isOpcChanged : Bool) (env : CapabilityEnv)
  | handleFactoryReset (slotId : Int) (env : CapabilityEnv)
  | updateImsCapabilities (slotId : Int) (env : CapabilityEnv)
  | handleSetVoNRSwitchResult (slotId : Int) (error : Option Int) (env : CapabilityEnv)
  | noteSimChange (slotId : Int)
  | handleNetworkStateChange (slotId : Int) (networkState : Option NetworkState)
    (env : CapabilityEnv)
  | getImsSwitchStatusRequest (slotId : Int) (env : CapabilityEnv)
  | getImsSwitchStatusResponse (operatorConfig : Option OperatorConfig) (env : CapabilityEnv)
  | changeSim (slotId value : Int)
  | restart
  | answer (slotId : Int) (fails : Bool)
  | drift (slotId active : Int)

namespace ImsWorld

variable (K : CapabilityConstants)

/-- `SetImsSwitchStatus`. -/
def setImsSwitchStatus (s : SwitchState) (slotId : Int) (active : Bool) (env : CapabilityEnv) :
    SwitchState × List ConfigRequest :=
  match s.checkImsSwitch K.toOperatorConstants slotId active env.toSwitchEnv with
  | .success =>
    match s.saveImsSwitch slotId (booleanToImsSwitchValue active) env.toSwitchEnv with
    | (s, .successChanged) =>
      (s, if env.simReady then
        s.updateImsCapabilities K slotId (!active) false invalidOperatorConfigState env else [])
    | (s, _) => (s, [])
  | _ => (s, [])

/-- `CellularCallConfig::UpdateImsConfiguration`. -/
def updateImsConfiguration (s : SwitchState) (slotId : Int)
    (operatorConfig : Option OperatorConfig) (configState : Int) (isOpcChanged : Bool)
    (env : CapabilityEnv) : SwitchState × List ConfigRequest :=
  if CellularCallConfig.isValidSlotId K.toConfigConstants slotId = false then (s, [])
  else
    match operatorConfig with
    | none => (s, [])
    | some poc =>
      let s := (s.updateImsConfiguration K.toOperatorConstants slotId (some poc)
        env.toSwitchEnv).1
      (s, s.updateImsCapabilities K slotId true isOpcChanged configState env ++
        [.setVideoCallWaiting slotId (s.config.operator.videoCallWaiting slotId),
          .setCarrierVtConfig slotId (s.config.operator.carrierVtAvailable slotId)])

/-- `HandleFactoryReset`. -/
def handleFactoryReset (s : SwitchState) (slotId : Int) (env : CapabilityEnv) :
    SwitchState × List ConfigRequest :=
  if CellularCallConfig.isValidSlotId K.toConfigConstants slotId = false then (s, [])
  else if env.hasSimCard = false then (s, [])
  else
    let s := s.handleFactoryReset K.toOperatorConstants slotId env.toSwitchEnv
    (s, s.updateImsCapabilities K slotId true false invalidOperatorConfigState env)

/-- `HandleSetVoNRSwitchResult`. -/
def handleSetVoNRSwitchResult (s : SwitchState) (slotId : Int) (error : Option Int)
    (env : CapabilityEnv) : SwitchState × List ConfigRequest :=
  match error with
  | some _ => (s, [])
  | none =>
    let s := { s with config := { s.config with
      settings := (s.config.settings.handleSetVoNRSwitchResult slotId none).1 } }
    (s, [.updateImsCapabilities slotId (s.updateImsVoiceCapabilities K slotId env)])

/-- `HandleNetworkStateChange`, to the end of its locked section. -/
def handleNetworkStateChange (s : SwitchState) (slotId : Int)
    (networkState : Option NetworkState) : SwitchState × List ConfigRequest :=
  let config := s.config.handleNetworkStateChange K.toOperatorConstants slotId networkState
  ({ s with config := config },
    match networkState with
    | none => []
    | some state =>
      if CellularCallConfig.isValidSlotId K.toConfigConstants slotId && state.inService &&
        s.config.shouldCheckImsAfterNvUpdate slotId then [.getImsSwitchStatus slotId] else [])

/-- `CellularCallHandler::UpdateImsConfiguration`. -/
def handlerUpdateImsConfiguration (s : SwitchState) (slotId : Int)
    (operatorConfig : Option OperatorConfig) (env : CapabilityEnv) :
    SwitchState × List ConfigRequest :=
  if env.hasSimCard = false then (s, [])
  else updateImsConfiguration K s slotId operatorConfig invalidOperatorConfigState false env

/-- `CellularCallHandler::GetImsSwitchStatusRequest`. -/
def getImsSwitchStatusRequest (s : SwitchState) (slotId : Int) (env : CapabilityEnv) :
    List ConfigRequest :=
  if env.hasSimCard = false then []
  else if s.isVolteSupport K slotId env ∨
      (env.imsRegistered ∧ s.isVolteSupport K slotId env = false) then
    [.getImsSwitchStatus slotId]
  else []

/-- `CellularCallHandler::GetImsSwitchStatusResponse`. -/
def getImsSwitchStatusResponse (s : SwitchState) (slotId : Int) (active : Option Int)
    (operatorConfig : Option OperatorConfig) (env : CapabilityEnv) :
    SwitchState × List ConfigRequest :=
  match active with
  | none => handlerUpdateImsConfiguration K s slotId operatorConfig env
  | some active =>
    if active ≠ booleanToImsSwitchValue (s.isVolteSupport K slotId env) then
      handlerUpdateImsConfiguration K s slotId operatorConfig env
    else (s, [])

/-- What an operation sends is sent to the service. -/
def send (v : ImsSide) (env : CapabilityEnv) (result : SwitchState × List ConfigRequest) :
    ImsWorld × List ConfigRequest :=
  ((result.1, result.2.foldl (ImsSide.receive env.delivered) v), result.2)

/-- One step. -/
def step (db : EccDatabase) (w : ImsWorld) : ImsEvent → ImsWorld × List ConfigRequest
  | .setImsSwitchStatus slotId active env =>
    send w.2 env (setImsSwitchStatus K w.1 slotId active env)
  | .updateImsConfiguration slotId operatorConfig configState isOpcChanged env =>
    send w.2 env
      (updateImsConfiguration K w.1 slotId operatorConfig configState isOpcChanged env)
  | .handleFactoryReset slotId env => send w.2 env (handleFactoryReset K w.1 slotId env)
  | .updateImsCapabilities slotId env =>
    send w.2 env
      (w.1, w.1.updateImsCapabilities K slotId true false invalidOperatorConfigState env)
  | .handleSetVoNRSwitchResult slotId error env =>
    send w.2 env (handleSetVoNRSwitchResult K w.1 slotId error env)
  | .noteSimChange slotId =>
    (({ w.1 with config := w.1.config.noteSimChange K.toOperatorConstants slotId }, w.2), [])
  | .handleNetworkStateChange slotId networkState env =>
    send w.2 env (handleNetworkStateChange K w.1 slotId networkState)
  | .getImsSwitchStatusRequest slotId env =>
    send w.2 env (w.1, getImsSwitchStatusRequest K w.1 slotId env)
  | .getImsSwitchStatusResponse operatorConfig env =>
    match w.2.answers with
    | [] => (w, [])
    | (slotId, active) :: answers =>
      send { w.2 with answers := answers } env
        (getImsSwitchStatusResponse K w.1 slotId active operatorConfig env)
  | .changeSim slotId value => ((w.1.saveToDatabase slotId value, w.2), [])
  | .restart => ((w.1.restart K.toOperatorConstants db, w.2), [])
  | .answer slotId fails => ((w.1, w.2.answer slotId fails), [])
  | .drift slotId active =>
    ((w.1, { w.2 with active := Function.update w.2.active slotId active }), [])

end ImsWorld

/-- The configuration and the IMS service, from what is stored and from what the service
has. -/
def imsMachine (K : CapabilityConstants) (db : EccDatabase)
    (vonrState imsSwitchState : Int → Option Int) (database : Int → Int) (service : ImsSide) :
    Machine ImsWorld ImsEvent ConfigRequest where
  init :=
    ((switchMachine K.toOperatorConstants db vonrState imsSwitchState database).init, service)
  step := ImsWorld.step K db

/-! ## What a slot calls for -/

namespace SwitchState

/-- The slot calls for IMS: by VoNR, where the network mode includes it, or by VoLTE. -/
def callsForIms (K : CapabilityConstants) (s : SwitchState) (slotId : Int) (env : CapabilityEnv) :
    Bool :=
  (decide (K.nrModeMin ≤ env.networkMode ∧ env.networkMode ≤ K.nrModeMax) &&
    isVonrSupportedForImsSwitch (s.isGbaValid slotId env) env) || s.isVolteSupport K slotId env

/-- The two states have the same switch and the same operator's configuration for the
slot. -/
structure SameSwitch (s s' : SwitchState) (slotId : Int) : Prop where
  operator : s'.config.operator.view slotId = s.config.operator.view slotId
  imsSwitchState : s'.config.imsSwitchState slotId = s.config.imsSwitchState slotId
  database : s'.database slotId = s.database slotId

theorem SameSwitch.refl (s : SwitchState) (slotId : Int) : s.SameSwitch s slotId :=
  ⟨rfl, rfl, rfl⟩

theorem SameSwitch.trans {s s' s'' : SwitchState} {slotId : Int} (h : s.SameSwitch s' slotId)
    (h' : s'.SameSwitch s'' slotId) : s.SameSwitch s'' slotId :=
  ⟨h'.operator.trans h.operator, h'.imsSwitchState.trans h.imsSwitchState,
    h'.database.trans h.database⟩

section
variable {K : CapabilityConstants} {s s' : SwitchState} {slotId : Int} {env : CapabilityEnv}

theorem SameSwitch.isGbaValid (h : s.SameSwitch s' slotId) :
    s'.isGbaValid slotId env = s.isGbaValid slotId env := by
  have hview := h.operator
  simp only [OperatorMaps.view, OperatorView.mk.injEq, List.cons.injEq] at hview
  simp only [SwitchState.isGbaValid, hview]

theorem SameSwitch.isVolteSupport (h : s.SameSwitch s' slotId) :
    s'.isVolteSupport K slotId env = s.isVolteSupport K slotId env := by
  have hgba : s'.isGbaValid slotId env = s.isGbaValid slotId env := h.isGbaValid
  have hview := h.operator
  simp only [OperatorMaps.view, OperatorView.mk.injEq, List.cons.injEq] at hview
  have hstatus : s'.getSwitchStatus slotId env.queries = s.getSwitchStatus slotId env.queries := by
    simp only [getSwitchStatus, h.imsSwitchState, h.database, hview]
  simp only [SwitchState.isVolteSupport, hgba, getImsSwitchStatus, hstatus,
    ConfigState.isVolteProvisioned, seen, hview]

theorem SameSwitch.callsForIms (h : s.SameSwitch s' slotId) :
    s'.callsForIms K slotId env = s.callsForIms K slotId env := by
  unfold SwitchState.callsForIms
  rw [h.isVolteSupport, h.isGbaValid]

theorem SameSwitch.imsCapabilities (h : s.SameSwitch s' slotId) (ut : Bool) :
    s'.imsCapabilities K slotId env ut = s.imsCapabilities K slotId env ut := by
  have hgba : s'.isGbaValid slotId env = s.isGbaValid slotId env := h.isGbaValid
  have hvolte : s'.isVolteSupport K slotId env = s.isVolteSupport K slotId env :=
    h.isVolteSupport
  have hview := h.operator
  simp only [OperatorMaps.view, OperatorView.mk.injEq, List.cons.injEq] at hview
  simp only [SwitchState.imsCapabilities, updateImsVoiceCapabilities, updateImsUtCapabilities,
    isUtProvisioned, hgba, hvolte, hview]

theorem isNeedTurnOnIms_imsCapabilities (ut : Bool) :
    isNeedTurnOnIms (s.imsCapabilities K slotId env ut) = s.callsForIms K slotId env := by
  by_cases hmode : K.nrModeMin ≤ env.networkMode ∧ env.networkMode ≤ K.nrModeMax
  · cases ut <;>
      simp [isNeedTurnOnIms, imsCapabilities, updateImsVoiceCapabilities, updateImsUtCapabilities,
        callsForIms, hmode, capabilityTypeVoice, capabilityTypeVideo, capabilityTypeUt]
  · cases ut <;>
      simp [isNeedTurnOnIms, imsCapabilities, updateImsVoiceCapabilities, updateImsUtCapabilities,
        callsForIms, hmode, capabilityTypeVoice, capabilityTypeVideo, capabilityTypeUt]

end

end SwitchState

/-- What a request sets in the service. -/
inductive ImsSetting
  | capabilities
  | switch
  deriving DecidableEq, Repr

def ConfigRequest.sets? : ConfigRequest → Option (Int × ImsSetting)
  | .updateImsCapabilities slotId _ => some (slotId, .capabilities)
  | .setImsSwitchStatus slotId _ => some (slotId, .switch)
  | _ => none

/-- The request for a setting of a slot, from the answers and from whether UT is told. -/
def SwitchState.request (K : CapabilityConstants) (s : SwitchState) (key : Int × ImsSetting)
    (told : CapabilityEnv × Bool) : ConfigRequest :=
  match key with
  | (slotId, .capabilities) =>
    .updateImsCapabilities slotId (s.imsCapabilities K slotId told.1 told.2)
  | (slotId, .switch) => .setImsSwitchStatus slotId (s.callsForIms K slotId told.1)

/-- The service has what the request sets. -/
def ImsSide.Holds (v : ImsSide) : ConfigRequest → Prop
  | .updateImsCapabilities slotId imsCapabilityList => v.capabilities slotId = imsCapabilityList
  | .setImsSwitchStatus slotId active => v.active slotId = booleanToImsSwitchValue active
  | _ => True

/-- For each setting, the answers at the last time the service was told, and whether UT
was among the capabilities. -/
abbrev LastTold := Int × ImsSetting → Option (CapabilityEnv × Bool)

/-- The service is told of a setting, or the request is lost. -/
def LastTold.hear (env : CapabilityEnv) (ut : Bool) (told : LastTold) (r : ConfigRequest) : LastTold :=
  match r.sets? with
  | some key => Function.update told key (if env.delivered r then some (env, ut) else none)
  | none => told

/-- What the service was told of a setting is what the configuration says now. -/
def LastTold.Agrees (K : CapabilityConstants) (s : SwitchState) (v : ImsSide) (told : LastTold)
    (key : Int × ImsSetting) : Prop :=
  ∀ x, told key = some x → v.Holds (s.request K key x)

section
variable {K : CapabilityConstants} {s s' : SwitchState} {v : ImsSide} {told : LastTold}
  {key : Int × ImsSetting} {env : CapabilityEnv} {ut : Bool} {r : ConfigRequest}

theorem sets?_request (x : CapabilityEnv × Bool) : (s.request K key x).sets? = some key := by
  obtain ⟨slotId, setting⟩ := key
  cases setting <;> rfl

theorem request_of_same (h : s.SameSwitch s' key.1) (x : CapabilityEnv × Bool) :
    s'.request K key x = s.request K key x := by
  obtain ⟨slotId, setting⟩ := key
  cases setting with
  | capabilities =>
    exact congrArg (ConfigRequest.updateImsCapabilities slotId) (h.imsCapabilities _)
  | switch => exact congrArg (ConfigRequest.setImsSwitchStatus slotId) h.callsForIms

theorem LastTold.Agrees.of_same (h : told.Agrees K s v key) (hsame : s.SameSwitch s' key.1) :
    told.Agrees K s' v key := by
  intro x hx
  rw [request_of_same hsame]
  exact h x hx

/-- A request that sets something is held when it arrives. -/
theorem ImsSide.holds_receive (hdelivered : env.delivered r = true)
    (hsets : r.sets? = some key) : (v.receive env.delivered r).Holds r := by
  unfold ImsSide.receive
  rw [if_neg (by simp [hdelivered])]
  cases r with
  | updateImsCapabilities slotId imsCapabilityList => exact Function.update_self ..
  | setImsSwitchStatus slotId active => exact Function.update_self ..
  | _ => cases hsets

/-- What is held stays when a request sets something else. -/
theorem ImsSide.Holds.receive {held : ConfigRequest} (h : v.Holds held)
    (hheld : held.sets? = some key) (hsets : r.sets? ≠ some key) :
    (v.receive env.delivered r).Holds held := by
  unfold ImsSide.receive
  split
  · exact h
  · cases r with
    | updateImsCapabilities slotId imsCapabilityList =>
      cases held with
      | updateImsCapabilities a list =>
        cases hheld
        have hne : a ≠ slotId := fun heq => hsets (by rw [heq]; rfl)
        show Function.update v.capabilities slotId imsCapabilityList a = list
        rw [Function.update_of_ne hne]
        exact h
      | setImsSwitchStatus a active => exact h
      | _ => cases hheld
    | setImsSwitchStatus slotId active =>
      cases held with
      | updateImsCapabilities a list => exact h
      | setImsSwitchStatus a active' =>
        cases hheld
        have hne : a ≠ slotId := fun heq => hsets (by rw [heq]; rfl)
        show Function.update v.active slotId (booleanToImsSwitchValue active) a = _
        rw [Function.update_of_ne hne]
        exact h
      | _ => cases hheld
    | _ => cases held <;> exact h

/-- A request that says what the configuration says keeps the agreement, and brings it
about for what it sets. -/
theorem LastTold.Agrees.receive (hhonest : ∀ key, r.sets? = some key → r = s.request K key (env, ut))
    (h : told.Agrees K s v key ∨ r.sets? = some key) :
    (told.hear env ut r).Agrees K s (v.receive env.delivered r) key := by
  intro x hx
  unfold LastTold.hear at hx
  by_cases hkey : r.sets? = some key
  · rw [hkey] at hx
    simp only [Function.update_self] at hx
    by_cases hdelivered : env.delivered r = true
    · rw [if_pos hdelivered] at hx
      cases hx
      rw [← hhonest key hkey]
      exact ImsSide.holds_receive hdelivered hkey
    · rw [if_neg hdelivered] at hx
      cases hx
  · have hbefore : told key = some x := by
      cases hsets : r.sets? with
      | none =>
        rw [hsets] at hx
        exact hx
      | some other =>
        rw [hsets] at hx
        have hne : key ≠ other := fun heq => hkey (by rw [hsets, heq])
        simpa only [Function.update_of_ne hne] using hx
    exact (h.resolve_right hkey x hbefore).receive (sets?_request x) hkey

theorem LastTold.Agrees.foldl {rs : List ConfigRequest}
    (hhonest : ∀ r ∈ rs, ∀ key, r.sets? = some key → r = s.request K key (env, ut))
    (h : told.Agrees K s v key ∨ ∃ r ∈ rs, r.sets? = some key) :
    (rs.foldl (LastTold.hear env ut) told).Agrees K s (rs.foldl (ImsSide.receive env.delivered) v)
      key := by
  induction rs generalizing v told with
  | nil => exact h.resolve_right (by simp)
  | cons r rs ih =>
    have hr := hhonest r List.mem_cons_self
    apply ih (fun r' hr' => hhonest r' (List.mem_cons_of_mem _ hr'))
    by_cases hkey : r.sets? = some key
    · exact .inl (LastTold.Agrees.receive hr (.inr hkey))
    · rcases h with h | ⟨r', hmem, hr'⟩
      · exact .inl (LastTold.Agrees.receive hr (.inl h))
      · rcases List.mem_cons.mp hmem with heq | hmem
        · exact absurd (heq ▸ hr') hkey
        · exact .inr ⟨r', hmem, hr'⟩

end

/-! ## Nothing is left unsent -/

/-- Nothing is kept of a slot. -/
def LastTold.forget (told : LastTold) (slotId : Int) : LastTold :=
  fun key => if key.1 = slotId then none else told key

/-- The slot of the first answer, if it agrees with `IsVolteSupport` and is still true of
the service, and VoNR calls for nothing besides. -/
def ImsWorld.confirmed? (K : CapabilityConstants) (w : ImsWorld) (env : CapabilityEnv) :
    Option Int :=
  match w.2.answers with
  | (slotId, some active) :: _ =>
    if active = w.2.active slotId ∧
        active = booleanToImsSwitchValue (w.1.isVolteSupport K slotId env) ∧
        w.1.callsForIms K slotId env = w.1.isVolteSupport K slotId env then some slotId
    else none
  | _ => none

/-- Remembers with which answers the service was last told of each setting.  Nothing is
remembered of a request that was lost, of a switch that was set while the SIM was not
ready, across another SIM or a restart, and of a switch that the service changed. -/
def toldMonitor (K : CapabilityConstants) : Monitor ImsWorld ImsEvent ConfigRequest LastTold where
  init := fun _ => none
  allowed _ _ _ := True
  update told w e w' out :=
    match e with
    | .setImsSwitchStatus slotId active env =>
      if env.simReady = false ∧ w'.1.database slotId ≠ w.1.database slotId then told.forget slotId
      else out.foldl (LastTold.hear env (!active)) told
    | .updateImsConfiguration _ _ _ _ env | .handleFactoryReset _ env
    | .updateImsCapabilities _ env | .handleNetworkStateChange _ _ env
    | .getImsSwitchStatusRequest _ env => out.foldl (LastTold.hear env true) told
    | .handleSetVoNRSwitchResult _ _ env => out.foldl (LastTold.hear env false) told
    | .getImsSwitchStatusResponse _ env =>
      match w.confirmed? K env with
      | some slotId => Function.update told (slotId, .switch) (some (env, true))
      | none => out.foldl (LastTold.hear env true) told
    | .changeSim slotId _ => told.forget slotId
    | .restart => fun _ => none
    | .drift slotId _ => Function.update told (slotId, .switch) none
    | .noteSimChange _ | .answer _ _ => told

/-- What an operation for a slot does: it leaves the other slots alone, says what its
result says, and tells everything of the slot if it changes it. -/
structure Said (K : CapabilityConstants) (s : SwitchState) (slotId : Int) (env : CapabilityEnv)
    (ut : Bool) (result : SwitchState × List ConfigRequest) : Prop where
  others : ∀ b, b ≠ slotId → s.SameSwitch result.1 b
  honest : ∀ r ∈ result.2, ∀ key, r.sets? = some key → r = result.1.request K key (env, ut)
  all : s.SameSwitch result.1 slotId ∨
    ∀ setting, ∃ r ∈ result.2, r.sets? = some (slotId, setting)

section
variable {K : CapabilityConstants} {db : EccDatabase} {s s' : SwitchState} {v v' : ImsSide}
  {told : LastTold} {slotId : Int} {env : CapabilityEnv} {ut : Bool}

theorem Said.agrees {result : SwitchState × List ConfigRequest}
    (hsaid : Said K s slotId env ut result) (h : ∀ key, told.Agrees K s v key)
    (key : Int × ImsSetting) :
    (result.2.foldl (LastTold.hear env ut) told).Agrees K result.1
      (result.2.foldl (ImsSide.receive env.delivered) v) key := by
  apply LastTold.Agrees.foldl hsaid.honest
  obtain ⟨b, setting⟩ := key
  by_cases hb : b = slotId
  · rw [hb]
    rcases hsaid.all with hsame | hall
    · exact .inl ((h (slotId, setting)).of_same hsame)
    · exact .inr (hall setting)
  · exact .inl ((h (b, setting)).of_same (hsaid.others b hb))

/-- An operation that changes no switch and sets nothing. -/
theorem Said.of_same {rs : List ConfigRequest} (hsame : ∀ b, s.SameSwitch s' b)
    (hrs : ∀ r ∈ rs, r.sets? = none) : Said K s slotId env ut (s', rs) where
  others b _ := hsame b
  honest r hr key hkey := by
    rw [hrs r hr] at hkey
    cases hkey
  all := .inl (hsame slotId)

theorem Said.refl : Said K s slotId env ut (s, []) :=
  Said.of_same (fun b => SwitchState.SameSwitch.refl s b) (by simp)

/-- An operation that sends the capabilities of what it leaves. -/
theorem Said.of_update {opc : Bool} {state : Int} {rest : List ConfigRequest}
    (hothers : ∀ b, b ≠ slotId → s.SameSwitch s' b) (hrest : ∀ r ∈ rest, r.sets? = none) :
    Said K s slotId env ut (s', s'.updateImsCapabilities K slotId ut opc state env ++ rest) where
  others := hothers
  honest r hr key hkey := by
    have hidle : r.sets? = none → r = s'.request K key (env, ut) := by
      intro hnone
      rw [hnone] at hkey
      cases hkey
    rcases List.mem_append.mp hr with hr | hr
    · rcases List.mem_append.mp hr with hr | hr
      · apply hidle
        cases opc with
        | true =>
          rw [List.mem_singleton.mp hr]
          rfl
        | false => cases hr
      · rcases List.mem_cons.mp hr with heq | hr
        · subst heq
          cases hkey
          rfl
        · rw [List.mem_singleton.mp hr] at hkey ⊢
          cases hkey
          exact congrArg (ConfigRequest.setImsSwitchStatus slotId)
            (SwitchState.isNeedTurnOnIms_imsCapabilities ut)
    · exact hidle (hrest r hr)
  all := by
    refine .inr fun setting => ?_
    cases setting with
    | capabilities =>
      exact ⟨.updateImsCapabilities slotId (s'.imsCapabilities K slotId env ut),
        by simp [SwitchState.updateImsCapabilities], rfl⟩
    | switch =>
      exact ⟨.setImsSwitchStatus slotId (isNeedTurnOnIms (s'.imsCapabilities K slotId env ut)),
        by simp [SwitchState.updateImsCapabilities], rfl⟩

theorem Said.of_send {opc : Bool} {state : Int}
    (hothers : ∀ b, b ≠ slotId → s.SameSwitch s' b) :
    Said K s slotId env ut (s', s'.updateImsCapabilities K slotId ut opc state env) := by
  have hsaid : Said K s slotId env ut
      (s', s'.updateImsCapabilities K slotId ut opc state env ++ []) :=
    Said.of_update hothers (by simp)
  simpa using hsaid

theorem said_updateImsConfiguration (s : SwitchState) (slotId : Int)
    (operatorConfig : Option OperatorConfig) (configState : Int) (isOpcChanged : Bool)
    (env : CapabilityEnv) :
    Said K s slotId env true
      (ImsWorld.updateImsConfiguration K s slotId operatorConfig configState isOpcChanged env) := by
  unfold ImsWorld.updateImsConfiguration
  by_cases hvalid : CellularCallConfig.isValidSlotId K.toConfigConstants slotId = true
  · rw [if_neg (by simp [hvalid])]
    cases operatorConfig with
    | none => exact Said.refl
    | some poc =>
      refine Said.of_update (fun b hb => ?_) (by simp [ConfigRequest.sets?])
      have hview : (s.config.updateImsConfiguration K.toOperatorConstants slotId (some poc)
          (s.seen slotId env.toSwitchEnv)).view b = s.config.view b :=
        ConfigState.view_updateImsConfiguration hb
      rw [← SwitchState.config_updateImsConfiguration] at hview
      refine ⟨congrArg SlotView.operator hview, congrArg SlotView.imsSwitchState hview, ?_⟩
      obtain ⟨_, _, hreset, hkeep⟩ :=
        SwitchState.updateImsConfiguration_spec (s := s) env.toSwitchEnv poc hvalid
      by_cases hcan : s.CanReset slotId poc env.toSwitchEnv ∧
          isSimChanged (s.lastIccid slotId) env.iccId = true
      · rw [(hreset hcan).2.1, Function.update_of_ne hb]
      · rw [(hkeep hcan).2.1]
  · rw [if_pos (by simpa using hvalid)]
    exact Said.refl

theorem said_handlerUpdateImsConfiguration (s : SwitchState) (slotId : Int)
    (operatorConfig : Option OperatorConfig) (env : CapabilityEnv) :
    Said K s slotId env true
      (ImsWorld.handlerUpdateImsConfiguration K s slotId operatorConfig env) := by
  unfold ImsWorld.handlerUpdateImsConfiguration
  split
  · exact Said.refl
  · exact said_updateImsConfiguration ..

theorem sameSwitch_saveImsSwitch (value : Int) {b : Int} (hb : b ≠ slotId) :
    s.SameSwitch (s.saveImsSwitch slotId value env.toSwitchEnv).1 b := by
  obtain ⟨hlocal, hoperator, hdatabase⟩ := s.saveImsSwitch_frame slotId value env.toSwitchEnv hb
  exact ⟨by rw [hoperator], hlocal, hdatabase⟩

theorem said_handleFactoryReset (s : SwitchState) (slotId : Int) (env : CapabilityEnv) :
    Said K s slotId env true (ImsWorld.handleFactoryReset K s slotId env) := by
  unfold ImsWorld.handleFactoryReset
  split
  · exact Said.refl
  · next hvalid =>
    split
    · exact Said.refl
    · next hsim =>
      have hothers : ∀ b, b ≠ slotId → s.SameSwitch
          (s.handleFactoryReset K.toOperatorConstants slotId env.toSwitchEnv) b := by
        intro b hb
        unfold SwitchState.handleFactoryReset
        rw [if_neg hvalid, if_neg hsim]
        exact sameSwitch_saveImsSwitch _ hb
      exact Said.of_send hothers

theorem said_handleSetVoNRSwitchResult (s : SwitchState) (slotId : Int) (error : Option Int)
    (env : CapabilityEnv) :
    Said K s slotId env false (ImsWorld.handleSetVoNRSwitchResult K s slotId error env) := by
  cases error with
  | some _ => exact Said.refl
  | none =>
    refine ⟨fun b _ => ⟨rfl, rfl, rfl⟩, fun r hr key hkey => ?_, .inl ⟨rfl, rfl, rfl⟩⟩
    rw [List.mem_singleton.mp hr] at hkey ⊢
    cases hkey
    show ConfigRequest.updateImsCapabilities _ _ = .updateImsCapabilities _ (_ ++ [])
    rw [List.append_nil]
    rfl

theorem said_handleNetworkStateChange (s : SwitchState) (slotId : Int)
    (networkState : Option NetworkState) (env : CapabilityEnv) :
    Said K s slotId env true (ImsWorld.handleNetworkStateChange K s slotId networkState) := by
  refine Said.of_same (fun b => ?_) fun r hr => ?_
  · unfold ConfigState.handleNetworkStateChange
    split
    · exact SwitchState.SameSwitch.refl s b
    · cases networkState <;> exact ⟨rfl, rfl, rfl⟩
  · cases networkState with
    | none => cases hr
    | some state =>
      simp only [List.mem_ite_nil_right, List.mem_singleton] at hr
      rw [hr.2]
      rfl

theorem said_getImsSwitchStatusRequest (s : SwitchState) (slotId : Int) (env : CapabilityEnv) :
    Said K s slotId env true (s, ImsWorld.getImsSwitchStatusRequest K s slotId env) := by
  refine Said.of_same (fun b => SwitchState.SameSwitch.refl s b) fun r hr => ?_
  unfold ImsWorld.getImsSwitchStatusRequest at hr
  split_ifs at hr
  · cases hr
  · rw [List.mem_singleton.mp hr]
    rfl
  · cases hr

theorem said_getImsSwitchStatusResponse (s : SwitchState) (slotId : Int) (active : Option Int)
    (operatorConfig : Option OperatorConfig) (env : CapabilityEnv) :
    Said K s slotId env true
      (ImsWorld.getImsSwitchStatusResponse K s slotId active operatorConfig env) := by
  cases active with
  | none => exact said_handlerUpdateImsConfiguration ..
  | some active =>
    unfold ImsWorld.getImsSwitchStatusResponse
    simp only
    split
    · exact said_handlerUpdateImsConfiguration ..
    · exact Said.refl

/-- A value is saved only where the database has another. -/
theorem saveImsSwitch_cases (s : SwitchState) (slotId value : Int) (env : SwitchEnv) :
    (∃ result, result ≠ .successChanged ∧ s.saveImsSwitch slotId value env = (s, result)) ∨
    ∃ s', s.saveImsSwitch slotId value env = (s', .successChanged) ∧
      s'.database slotId ≠ s.database slotId := by
  by_cases hqueries : env.queries = true
  · by_cases hsame : value = s.database slotId
    · exact .inl ⟨.successNotChanged, by decide, by
        simp [SwitchState.saveImsSwitch, ConfigState.saveImsSwitch, SwitchState.seen, hqueries,
          hsame]⟩
    · by_cases hsaves : env.saves = true
      · have hresult : (s.saveImsSwitch slotId value env).2 = .successChanged := by
          simp [SwitchState.saveImsSwitch, ConfigState.saveImsSwitch, SwitchState.seen, hqueries,
            hsame, hsaves]
        have hdatabase : (s.saveImsSwitch slotId value env).1.database slotId = value := by
          simp [SwitchState.saveImsSwitch, ConfigState.saveImsSwitch, SwitchState.seen, hqueries,
            hsame, hsaves, SwitchState.saveToDatabase]
        exact .inr ⟨_, Prod.ext rfl hresult, by rw [hdatabase]; exact hsame⟩
      · exact .inl ⟨.failed, by decide, by
          simp [SwitchState.saveImsSwitch, ConfigState.saveImsSwitch, SwitchState.seen, hqueries,
            hsame, hsaves]⟩
  · exact .inl ⟨.failed, by decide, by
      simp [SwitchState.saveImsSwitch, ConfigState.saveImsSwitch, SwitchState.seen, hqueries]⟩

/-- A set whose change is sent, or that changes nothing. -/
theorem said_setImsSwitchStatus (s : SwitchState) (slotId : Int) (active : Bool)
    (env : CapabilityEnv) :
    let result := ImsWorld.setImsSwitchStatus K s slotId active env
    (∀ b, b ≠ slotId → s.SameSwitch result.1 b) ∧
      (env.simReady = false → result.2 = []) ∧
      (¬(env.simReady = false ∧ result.1.database slotId ≠ s.database slotId) →
        Said K s slotId env (!active) result) := by
  unfold ImsWorld.setImsSwitchStatus
  cases s.checkImsSwitch K.toOperatorConstants slotId active env.toSwitchEnv with
  | success =>
    rcases saveImsSwitch_cases s slotId (booleanToImsSwitchValue active) env.toSwitchEnv with
      ⟨result, hresult, hsave⟩ | ⟨s', hsave, hdatabase⟩
    · rw [hsave]
      cases result with
      | successChanged => exact absurd rfl hresult
      | _ => exact ⟨fun b _ => SwitchState.SameSwitch.refl s b, fun _ => rfl, fun _ => Said.refl⟩
    · have hothers : ∀ b, b ≠ slotId → s.SameSwitch s' b := by
        intro b hb
        have hframe : s.SameSwitch (s.saveImsSwitch slotId (booleanToImsSwitchValue active)
            env.toSwitchEnv).1 b := sameSwitch_saveImsSwitch _ hb
        rw [hsave] at hframe
        exact hframe
      rw [hsave]
      refine ⟨hothers, fun hready => if_neg (by simp [hready]), fun hsent => ?_⟩
      have hready : env.simReady = true := by
        by_contra hready
        exact hsent ⟨by simpa using hready, hdatabase⟩
      simpa [hready] using Said.of_send hothers
  | _ => exact ⟨fun b _ => SwitchState.SameSwitch.refl s b, fun _ => rfl, fun _ => Said.refl⟩

theorem ImsSide.Holds.of_same {held : ConfigRequest} (h : v.Holds held)
    (hactive : v'.active = v.active) (hcapabilities : v'.capabilities = v.capabilities) :
    v'.Holds held := by
  cases held with
  | updateImsCapabilities a list =>
    show v'.capabilities a = list
    rw [hcapabilities]
    exact h
  | setImsSwitchStatus a active =>
    show v'.active a = booleanToImsSwitchValue active
    rw [hactive]
    exact h
  | _ => trivial

theorem LastTold.Agrees.of_forget (h : ∀ key, told.Agrees K s v key)
    (hothers : ∀ b, b ≠ slotId → s.SameSwitch s' b)
    (hheld : ∀ held, v.Holds held → v'.Holds held) (key : Int × ImsSetting) :
    (told.forget slotId).Agrees K s' v' key := by
  intro x hx
  unfold LastTold.forget at hx
  split at hx
  · cases hx
  · next hne => exact hheld _ ((h key).of_same (hothers key.1 hne) x hx)

/-- A confirmed answer is what the configuration calls for. -/
theorem holds_of_confirmed {w : ImsWorld} (h : w.confirmed? K env = some slotId) :
    (∃ active answers, w.2.answers = (slotId, some active) :: answers ∧
      active = booleanToImsSwitchValue (w.1.isVolteSupport K slotId env)) ∧
      w.2.Holds (w.1.request K (slotId, .switch) (env, true)) := by
  unfold ImsWorld.confirmed? at h
  cases hanswers : w.2.answers with
  | nil =>
    rw [hanswers] at h
    cases h
  | cons answer answers =>
    obtain ⟨a, active⟩ := answer
    rw [hanswers] at h
    cases active with
    | none => cases h
    | some active =>
      simp only [Option.ite_none_right_eq_some, Option.some.injEq] at h
      obtain ⟨⟨hnow, hvolte, hcalls⟩, rfl⟩ := h
      refine ⟨⟨active, answers, rfl, hvolte⟩, ?_⟩
      show w.2.active a = booleanToImsSwitchValue (w.1.callsForIms K a env)
      rw [hcalls, ← hvolte, hnow]

/-- The handler takes the first answer. -/
theorem agrees_response {w : ImsWorld} {operatorConfig : Option OperatorConfig}
    (h : ∀ key, told.Agrees K w.1 w.2 key) (key : Int × ImsSetting) :
    let e := ImsEvent.getImsSwitchStatusResponse operatorConfig env
    let result := ImsWorld.step K db w e
    ((toldMonitor K).update told w e result.1 result.2).Agrees K result.1.1 result.1.2 key := by
  obtain ⟨s, active, capabilities, queries, answers⟩ := w
  cases answers with
  | nil => exact h key
  | cons answer answers =>
    obtain ⟨slotId, answered⟩ := answer
    have hpopped : ∀ key, told.Agrees K s ⟨active, capabilities, queries, answers⟩ key :=
      fun key x hx => (h key x hx).of_same rfl rfl
    have hresponse := (said_getImsSwitchStatusResponse (K := K) s slotId answered operatorConfig
      env).agrees hpopped
    cases hconfirmed : ImsWorld.confirmed? K
        (s, ⟨active, capabilities, queries, (slotId, answered) :: answers⟩) env with
    | none =>
      simp only [toldMonitor, hconfirmed]
      exact hresponse key
    | some confirmed =>
      obtain ⟨⟨answer, rest, hcons, hvolte⟩, hholds⟩ := holds_of_confirmed hconfirmed
      obtain ⟨⟨rfl, rfl⟩, rfl⟩ := List.cons.inj hcons |>.imp_left Prod.mk.inj
      have hnothing : ImsWorld.getImsSwitchStatusResponse K s slotId (some answer) operatorConfig
          env = (s, []) := if_neg (not_not_intro hvolte)
      simp only [toldMonitor, hconfirmed, ImsWorld.step, hnothing]
      intro x hx
      by_cases heq : key = (slotId, .switch)
      · rw [heq, Function.update_self] at hx
        cases hx
        rw [heq]
        exact hholds.of_same rfl rfl
      · rw [Function.update_of_ne heq] at hx
        exact hpopped key x hx

theorem agrees_step {w : ImsWorld} (e : ImsEvent)
    (h : ∀ key, told.Agrees K w.1 w.2 key) (key : Int × ImsSetting) :
    let result := ImsWorld.step K db w e
    ((toldMonitor K).update told w e result.1 result.2).Agrees K result.1.1 result.1.2 key := by
  cases e with
  | setImsSwitchStatus slotId active env =>
    obtain ⟨hothers, hnone, hsaid⟩ := said_setImsSwitchStatus (K := K) w.1 slotId active env
    show (if _ then _ else _ : LastTold).Agrees _ _ _ _
    split
    · next hunsent =>
      refine LastTold.Agrees.of_forget h hothers (fun held hheld => ?_) key
      show ((ImsWorld.setImsSwitchStatus K w.1 slotId active env).2.foldl _ w.2).Holds held
      rw [hnone hunsent.1]
      exact hheld
    · next hsent => exact (hsaid hsent).agrees h key
  | updateImsConfiguration slotId operatorConfig configState isOpcChanged env =>
    exact (said_updateImsConfiguration ..).agrees h key
  | handleFactoryReset slotId env => exact (said_handleFactoryReset ..).agrees h key
  | updateImsCapabilities slotId env =>
    have hsaid : Said K w.1 slotId env true
        (w.1, w.1.updateImsCapabilities K slotId true false invalidOperatorConfigState env) :=
      Said.of_send fun b _ => SwitchState.SameSwitch.refl w.1 b
    exact hsaid.agrees h key
  | handleSetVoNRSwitchResult slotId error env =>
    exact (said_handleSetVoNRSwitchResult ..).agrees h key
  | noteSimChange slotId =>
    refine (h key).of_same ?_
    show w.1.SameSwitch { w.1 with config := _ } key.1
    unfold ConfigState.noteSimChange
    split <;> exact ⟨rfl, rfl, rfl⟩
  | handleNetworkStateChange slotId networkState env =>
    exact (said_handleNetworkStateChange ..).agrees h key
  | getImsSwitchStatusRequest slotId env =>
    exact (said_getImsSwitchStatusRequest ..).agrees h key
  | getImsSwitchStatusResponse operatorConfig env => exact agrees_response h key
  | changeSim slotId value =>
    have hothers : ∀ b, b ≠ slotId → w.1.SameSwitch (w.1.saveToDatabase slotId value) b := by
      intro b hb
      exact ⟨rfl, rfl, by simp [SwitchState.saveToDatabase, Function.update_of_ne hb]⟩
    exact LastTold.Agrees.of_forget h hothers (fun _ hheld => hheld) key
  | restart =>
    intro _ x hx
    change none = some x at hx
    cases hx
  | answer slotId fails =>
    intro _ x hx
    refine (h key x hx).of_same ?_ ?_
    · show (w.2.answer slotId fails).active = w.2.active
      unfold ImsSide.answer
      split <;> rfl
    · show (w.2.answer slotId fails).capabilities = w.2.capabilities
      unfold ImsSide.answer
      split <;> rfl
  | drift slotId active =>
    intro _ x hx
    obtain ⟨a, setting⟩ := key
    change Function.update told (slotId, .switch) none (a, setting) = some x at hx
    by_cases heq : (a, setting) = (slotId, ImsSetting.switch)
    · rw [heq, Function.update_self] at hx
      cases hx
    · rw [Function.update_of_ne heq] at hx
      have hheld := h (a, setting) x hx
      cases setting with
      | capabilities => exact hheld
      | switch =>
        have hne : a ≠ slotId := fun ha => heq (by rw [ha])
        show Function.update w.2.active slotId active a = _
        rw [Function.update_of_ne hne]
        exact hheld

end

/-- In every run, what the service was last told of a slot is what the configuration says
now, with the answers of that time: its switch is on exactly where VoNR or VoLTE calls
for IMS, and its capabilities are those of the slot. -/
theorem told_of_run (K : CapabilityConstants) (db : EccDatabase)
    (vonrState imsSwitchState : Int → Option Int) (database : Int → Int) (service : ImsSide)
    {w : ImsWorld} {told : LastTold}
    (hrun : Run (imsMachine K db vonrState imsSwitchState database service) (toldMonitor K)
      unconditional w told) (slotId : Int) :
    (∀ env ut, told (slotId, .switch) = some (env, ut) →
      w.2.active slotId = booleanToImsSwitchValue (w.1.callsForIms K slotId env)) ∧
    ∀ env ut, told (slotId, .capabilities) = some (env, ut) →
      w.2.capabilities slotId = w.1.imsCapabilities K slotId env ut := by
  have hagrees : ∀ key, told.Agrees K w.1 w.2 key := by
    refine hrun.invariant (I := fun w told => ∀ key, LastTold.Agrees K w.1 w.2 told key) ?_ ?_
    · exact fun key x hx => nomatch hx
    · exact fun w told e h _ _ key => agrees_step e h key
  exact ⟨fun env ut htold => hagrees (slotId, .switch) (env, ut) htold,
    fun env ut htold => hagrees (slotId, .capabilities) (env, ut) htold⟩

/-- Everything answers, and nothing is lost; the phone is on NR, and its SIM on a network
with SA. -/
def CapabilityEnv.plain : CapabilityEnv where
  toSwitchEnv := .plain
  simIst := []
  networkMode := 31
  nrOptionMode := some .nsaAndSa
  utFeatureEnabled := true
  simReady := true
  imsRegistered := true
  delivered := fun _ => true

/-- Two slots; the network modes from 31 to 33 include NR. -/
def CapabilityConstants.twoSlots : CapabilityConstants :=
  { OperatorConstants.twoSlots with
    nrModeMin := 31
    nrModeMax := 33
    imsRegTechLte := 1
    imsRegTechNr := 3 }

/-- A service that starts with everything off. -/
def ImsSide.off : ImsSide := ⟨fun _ => 0, fun _ => [], [], []⟩

/-- A device on which nothing is stored. -/
def freshIms : Machine ImsWorld ImsEvent ConfigRequest :=
  imsMachine .twoSlots twoFakes (fun _ => none) (fun _ => none)
    (fun _ => imsSwitchStatusUnknown) .off

/-- The configuration is read, and the user switches IMS off. -/
def switchedOff : List ImsEvent :=
  [.updateImsConfiguration 0 (some (.ofSwitch .imsSwitchOnByDefault true)) 0 true .plain,
    .setImsSwitchStatus 0 false .plain]

/-- VoNR leaves IMS on. -/
theorem told_of_run_switched_off :
    (exec freshIms (toldMonitor .twoSlots) freshIms.init (toldMonitor .twoSlots).init
      switchedOff).1.2.active 0 = 1 := by
  have hrun := Run.of_admits (M := freshIms) (H := toldMonitor .twoSlots) (C := unconditional)
    switchedOff ⟨trivial, trivial, trivial, trivial, trivial⟩
  have htold := (told_of_run .twoSlots twoFakes (fun _ => none) (fun _ => none)
    (fun _ => imsSwitchStatusUnknown) .off hrun 0).1 .plain true rfl
  rw [htold]
  decide

/-! ## When the questions come to rest -/

def ConfigRequest.isSwitch : ConfigRequest → Bool
  | .setImsSwitchStatus _ _ => true
  | _ => false

/-- The handler asks for the switch of a slot, and the service answers. -/
def askedRound (slotId : Int) (poc : OperatorConfig) (env : CapabilityEnv) : List ImsEvent :=
  [.getImsSwitchStatusRequest slotId env, .answer slotId false,
    .getImsSwitchStatusResponse (some poc) env]

/-- A number of such rounds. -/
def askedRounds (slotId : Int) (poc : OperatorConfig) (env : CapabilityEnv) :
    Nat → List ImsEvent
  | 0 => []
  | n + 1 => askedRound slotId poc env ++ askedRounds slotId poc env n

namespace SwitchState

variable {K : CapabilityConstants} {s : SwitchState} {slotId : Int} {poc : OperatorConfig}
  {env : CapabilityEnv}

/-- The switch after the configuration is read. -/
def updated (K : CapabilityConstants) (s : SwitchState) (slotId : Int) (poc : OperatorConfig)
    (env : CapabilityEnv) : SwitchState :=
  (s.updateImsConfiguration K.toOperatorConstants slotId (some poc) env.toSwitchEnv).1

/-- A question is asked where VoLTE is supported or IMS is registered. -/
def asks (K : CapabilityConstants) (s : SwitchState) (slotId : Int) (env : CapabilityEnv) : Bool :=
  s.isVolteSupport K slotId env || env.imsRegistered

/-- Reading a bool again changes nothing. -/
theorem parseBoolOperatorConfigs_idem (config : Int → Bool) (key : OperatorKey) :
    parseBoolOperatorConfigs slotId (parseBoolOperatorConfigs slotId config poc key) poc key =
      parseBoolOperatorConfigs slotId config poc key := by
  funext a
  rw [parseBoolOperatorConfigs_apply, parseBoolOperatorConfigs_apply,
    parseBoolOperatorConfigs_apply]
  split
  · cases poc.boolValue key with
    | none => simp
    | some value => rfl
  · rfl

theorem parseOperatorConfig_idem {α : Type} (config : Int → α) (entry : Option α) :
    parseOperatorConfig slotId (parseOperatorConfig slotId config entry) entry =
      parseOperatorConfig slotId config entry := by
  cases entry with
  | none => rfl
  | some value => exact Function.update_idem ..

theorem parseAndCacheOperatorConfigs_idem (m : OperatorMaps) :
    (m.parseAndCacheOperatorConfigs slotId poc).parseAndCacheOperatorConfigs slotId poc =
      m.parseAndCacheOperatorConfigs slotId poc := by
  simp only [OperatorMaps.parseAndCacheOperatorConfigs, parseBoolOperatorConfigs_idem,
    parseOperatorConfig_idem]

theorem operator_updated
    (hvalid : CellularCallConfig.isValidSlotId K.toConfigConstants slotId = true) :
    (s.updated K slotId poc env).config.operator =
      s.config.operator.parseAndCacheOperatorConfigs slotId poc :=
  (updateImsConfiguration_spec env.toSwitchEnv poc hvalid).1

theorem parsedDefault_updated
    (hvalid : CellularCallConfig.isValidSlotId K.toConfigConstants slotId = true) :
    (s.updated K slotId poc env).parsedDefault slotId poc = s.parsedDefault slotId poc := by
  have hparsed : (s.updated K slotId poc env).config.operator.imsSwitchOnByDefault slotId =
      s.parsedDefault slotId poc := by
    rw [operator_updated hvalid]
    exact (parseBoolOperatorConfigs_apply _ _ _ _ _).trans (if_pos rfl)
  unfold parsedDefault at hparsed ⊢
  rw [hparsed]
  cases poc.boolValue .imsSwitchOnByDefault <;> rfl

theorem canReset_updated_iff
    (hvalid : CellularCallConfig.isValidSlotId K.toConfigConstants slotId = true) :
    (s.updated K slotId poc env).CanReset slotId poc env.toSwitchEnv ↔
      s.CanReset slotId poc env.toSwitchEnv := by
  have hparsed : (s.updated K slotId poc env).config.operator.forceVolteSwitchOn slotId =
      s.parsedForce slotId poc := by
    rw [operator_updated hvalid]
    exact (parseBoolOperatorConfigs_apply _ _ _ _ _).trans (if_pos rfl)
  have hforce : (s.updated K slotId poc env).parsedForce slotId poc = s.parsedForce slotId poc := by
    unfold parsedForce at hparsed ⊢
    rw [hparsed]
    cases poc.boolValue .forceVolteSwitchOn <;> rfl
  unfold CanReset
  rw [hforce]

/-- Where the switch is not reset, it is not reset when the configuration is read
again. -/
theorem not_reset_updated
    (hvalid : CellularCallConfig.isValidSlotId K.toConfigConstants slotId = true)
    (hkeep : ¬(s.CanReset slotId poc env.toSwitchEnv ∧
      isSimChanged (s.lastIccid slotId) env.iccId = true)) :
    ¬((s.updated K slotId poc env).CanReset slotId poc env.toSwitchEnv ∧
      isSimChanged ((s.updated K slotId poc env).lastIccid slotId) env.iccId = true) := by
  rw [canReset_updated_iff hvalid]
  intro hreset
  have hunchanged : isSimChanged (s.lastIccid slotId) env.iccId = false := by
    by_contra hchanged
    exact hkeep ⟨hreset.1, by simpa using hchanged⟩
  have hlast : (s.updated K slotId poc env).lastIccid slotId = s.lastIccid slotId := by
    have hspec := (updateImsConfiguration_spec (s := s) env.toSwitchEnv poc hvalid).2.1
    rw [if_pos hreset.1.1] at hspec
    show (s.updateImsConfiguration K.toOperatorConstants slotId (some poc)
      env.toSwitchEnv).1.lastIccid slotId = _
    rw [hspec, Function.update_self, noteIccid, hunchanged, if_neg Bool.false_ne_true]
  rw [hlast, hunchanged] at hreset
  exact absurd hreset.2 Bool.false_ne_true

/-- Reading the configuration again, with the same answers, does not change the switch. -/
theorem sameSwitch_updated_updated
    (hvalid : CellularCallConfig.isValidSlotId K.toConfigConstants slotId = true) :
    (s.updated K slotId poc env).SameSwitch
      ((s.updated K slotId poc env).updated K slotId poc env) slotId := by
  have hdefault : (s.updated K slotId poc env).parsedDefault slotId poc =
      s.parsedDefault slotId poc := parsedDefault_updated hvalid
  have hoperator : ((s.updated K slotId poc env).updated K slotId poc env).config.operator =
      (s.updated K slotId poc env).config.operator := by
    rw [operator_updated hvalid, operator_updated hvalid, parseAndCacheOperatorConfigs_idem]
  obtain ⟨_, _, hreset, hkeep⟩ := updateImsConfiguration_spec (s := s) env.toSwitchEnv poc hvalid
  obtain ⟨_, _, hreset', hkeep'⟩ :=
    updateImsConfiguration_spec (s := s.updated K slotId poc env) env.toSwitchEnv poc hvalid
  rw [hdefault] at hreset' hkeep'
  by_cases hagain : (s.updated K slotId poc env).CanReset slotId poc env.toSwitchEnv ∧
      isSimChanged ((s.updated K slotId poc env).lastIccid slotId) env.iccId = true
  · have hfirst : s.CanReset slotId poc env.toSwitchEnv ∧
        isSimChanged (s.lastIccid slotId) env.iccId = true :=
      not_not.mp fun hnot => not_reset_updated hvalid hnot hagain
    obtain ⟨hlocal, hdatabase, _⟩ := hreset hfirst
    obtain ⟨hlocal', hdatabase', _⟩ := hreset' hagain
    refine ⟨by rw [hoperator], ?_, ?_⟩
    · calc _ = some (booleanToImsSwitchValue (s.parsedDefault slotId poc)) := by
            rw [updated, hlocal', Function.update_self]
        _ = _ := by rw [updated, hlocal, Function.update_self]
    · calc _ = booleanToImsSwitchValue (s.parsedDefault slotId poc) := by
            rw [updated, hdatabase', Function.update_self]
        _ = _ := by rw [updated, hdatabase, Function.update_self]
  · obtain ⟨hlocal', hdatabase', _⟩ := hkeep' hagain
    refine ⟨by rw [hoperator], ?_, congrFun hdatabase' slotId⟩
    rw [updated, hlocal', Function.update_self]
    by_cases hfirst : s.CanReset slotId poc env.toSwitchEnv ∧
        isSimChanged (s.lastIccid slotId) env.iccId = true
    · -- the database has the default, and so has the parameter
      obtain ⟨hlocal, hdatabase, _⟩ := hreset hfirst
      rw [updated, hdatabase, Function.update_self, ite_self, hlocal, Function.update_self]
    · obtain ⟨hlocal, hdatabase, _⟩ := hkeep hfirst
      rw [updated, hdatabase, hlocal, Function.update_self]

end SwitchState

section
variable {K : CapabilityConstants} {db : EccDatabase} {M : Machine ImsWorld ImsEvent ConfigRequest}
  {s : SwitchState} {w : ImsWorld} {slotId : Int} {poc : OperatorConfig} {env : CapabilityEnv}

theorem getImsSwitchStatusRequest_eq (hsim : env.hasSimCard = true) :
    ImsWorld.getImsSwitchStatusRequest K s slotId env =
      if s.asks K slotId env then [.getImsSwitchStatus slotId] else [] := by
  unfold ImsWorld.getImsSwitchStatusRequest SwitchState.asks
  rw [if_neg (by simp [hsim])]
  cases s.isVolteSupport K slotId env <;> cases env.imsRegistered <;> simp

theorem handlerUpdateImsConfiguration_eq
    (hvalid : CellularCallConfig.isValidSlotId K.toConfigConstants slotId = true)
    (hsim : env.hasSimCard = true) :
    ImsWorld.handlerUpdateImsConfiguration K s slotId (some poc) env =
      (s.updated K slotId poc env,
        (s.updated K slotId poc env).updateImsCapabilities K slotId true false
          invalidOperatorConfigState env ++
        [.setVideoCallWaiting slotId
            ((s.updated K slotId poc env).config.operator.videoCallWaiting slotId),
          .setCarrierVtConfig slotId
            ((s.updated K slotId poc env).config.operator.carrierVtAvailable slotId)]) := by
  unfold ImsWorld.handlerUpdateImsConfiguration ImsWorld.updateImsConfiguration
  rw [if_neg (by simp [hsim]), if_neg (by simp [hvalid])]
  rfl

/-- A round in which nothing is asked, or the answer agrees, changes nothing. -/
theorem askedRound_quiet (hM : M.step = ImsWorld.step K db) (poc : OperatorConfig)
    (hsim : env.hasSimCard = true) (hdelivered : ∀ r, env.delivered r = true)
    (hqueries : w.2.queries = []) (hanswers : w.2.answers = [])
    (hquiet : w.1.asks K slotId env = false ∨
      w.2.active slotId = booleanToImsSwitchValue (w.1.isVolteSupport K slotId env)) :
    (exec M Monitor.free w () (askedRound slotId poc env)).1 = w ∧
      (M.outputs w (askedRound slotId poc env)).countP ConfigRequest.isSwitch = 0 := by
  obtain ⟨s, active, capabilities, queries, answers⟩ := w
  cases hqueries
  cases hanswers
  cases hasks : s.asks K slotId env with
  | false =>
    constructor
    · simp [exec, askedRound, hM, ImsWorld.step, ImsWorld.send,
        getImsSwitchStatusRequest_eq hsim, hasks, ImsSide.answer]
    · simp [Machine.outputs, askedRound, hM, ImsWorld.step, ImsWorld.send,
        getImsSwitchStatusRequest_eq hsim, hasks, ImsSide.answer]
  | true =>
    have hagrees : active slotId = booleanToImsSwitchValue (s.isVolteSupport K slotId env) :=
      hquiet.resolve_left (by simp [hasks])
    have hresponse : ImsWorld.getImsSwitchStatusResponse K s slotId (some (active slotId))
        (some poc) env = (s, []) := if_neg (not_not_intro hagrees)
    constructor
    · simp [exec, askedRound, hM, ImsWorld.step, ImsWorld.send,
        getImsSwitchStatusRequest_eq hsim, hasks, ImsSide.answer, ImsSide.receive, hdelivered,
        hresponse]
    · simp [Machine.outputs, askedRound, hM, ImsWorld.step, ImsWorld.send,
        getImsSwitchStatusRequest_eq hsim, hasks, ImsSide.answer, ImsSide.receive, hdelivered,
        hresponse, ConfigRequest.isSwitch]

/-- A round whose answer differs reads the configuration, and the service is told. -/
theorem askedRound_updates (hM : M.step = ImsWorld.step K db) (poc : OperatorConfig)
    (hvalid : CellularCallConfig.isValidSlotId K.toConfigConstants slotId = true)
    (hsim : env.hasSimCard = true) (hdelivered : ∀ r, env.delivered r = true)
    (hqueries : w.2.queries = []) (hanswers : w.2.answers = [])
    (hasks : w.1.asks K slotId env = true)
    (hdiffers : w.2.active slotId ≠ booleanToImsSwitchValue (w.1.isVolteSupport K slotId env)) :
    let w' := (exec M Monitor.free w () (askedRound slotId poc env)).1
    (w'.1 = w.1.updated K slotId poc env ∧ w'.2.queries = [] ∧ w'.2.answers = [] ∧
      w'.2.active slotId = booleanToImsSwitchValue (w'.1.callsForIms K slotId env)) ∧
      (M.outputs w (askedRound slotId poc env)).countP ConfigRequest.isSwitch = 1 := by
  obtain ⟨s, active, capabilities, queries, answers⟩ := w
  cases hqueries
  cases hanswers
  have hresponse : ImsWorld.getImsSwitchStatusResponse K s slotId (some (active slotId))
      (some poc) env = ImsWorld.handlerUpdateImsConfiguration K s slotId (some poc) env :=
    if_pos hdiffers
  have hasks : s.asks K slotId env = true := hasks
  constructor
  · simp [exec, askedRound, hM, ImsWorld.step, ImsWorld.send,
      getImsSwitchStatusRequest_eq hsim, hasks, ImsSide.answer, ImsSide.receive, hdelivered,
      hresponse, handlerUpdateImsConfiguration_eq hvalid hsim, SwitchState.updateImsCapabilities,
      SwitchState.isNeedTurnOnIms_imsCapabilities]
  · simp [Machine.outputs, askedRound, hM, ImsWorld.step, ImsWorld.send,
      getImsSwitchStatusRequest_eq hsim, hasks, ImsSide.answer, ImsSide.receive, hdelivered,
      hresponse, handlerUpdateImsConfiguration_eq hvalid hsim, SwitchState.updateImsCapabilities,
      ConfigRequest.isSwitch, List.countP_cons]

/-- The number of times the configuration is sent in some rounds, by the first round. -/
theorem resends_succ (n : Nat) :
    (M.outputs w (askedRounds slotId poc env (n + 1))).countP ConfigRequest.isSwitch =
      (M.outputs w (askedRound slotId poc env)).countP ConfigRequest.isSwitch +
        (M.outputs (exec M Monitor.free w () (askedRound slotId poc env)).1
          (askedRounds slotId poc env n)).countP ConfigRequest.isSwitch := by
  rw [askedRounds, Machine.outputs_append, List.countP_append]

/-- Where a round is quiet, all are. -/
theorem resends_of_quiet (hM : M.step = ImsWorld.step K db) (hsim : env.hasSimCard = true)
    (hdelivered : ∀ r, env.delivered r = true) (hqueries : w.2.queries = [])
    (hanswers : w.2.answers = [])
    (hquiet : w.1.asks K slotId env = false ∨
      w.2.active slotId = booleanToImsSwitchValue (w.1.isVolteSupport K slotId env)) (n : Nat) :
    (M.outputs w (askedRounds slotId poc env n)).countP ConfigRequest.isSwitch = 0 := by
  induction n with
  | zero => rfl
  | succ n ih =>
    obtain ⟨hstate, hcount⟩ :=
      askedRound_quiet hM poc hsim hdelivered hqueries hanswers hquiet
    rw [resends_succ, hcount, hstate, ih]

/-- Where the configuration was read and only VoNR calls for IMS, every round reads it
again. -/
theorem resends_of_vonr (hM : M.step = ImsWorld.step K db)
    (hvalid : CellularCallConfig.isValidSlotId K.toConfigConstants slotId = true)
    (hsim : env.hasSimCard = true) (hdelivered : ∀ r, env.delivered r = true)
    (hregistered : env.imsRegistered = true) (hqueries : w.2.queries = [])
    (hanswers : w.2.answers = []) (hs : w.1 = s.updated K slotId poc env)
    (hcalls : w.1.callsForIms K slotId env = true)
    (hvolte : w.1.isVolteSupport K slotId env = false) (hactive : w.2.active slotId = 1) (n : Nat) :
    (M.outputs w (askedRounds slotId poc env n)).countP ConfigRequest.isSwitch = n := by
  induction n generalizing w s with
  | zero => rfl
  | succ n ih =>
    obtain ⟨⟨hstate, hqueries', hanswers', hactive'⟩, hcount⟩ :=
      askedRound_updates hM poc hvalid hsim hdelivered hqueries hanswers
        (by simp [SwitchState.asks, hregistered])
        (by simp [hactive, hvolte, booleanToImsSwitchValue])
    have hsame : w.1.SameSwitch (w.1.updated K slotId poc env) slotId := by
      rw [hs]
      exact SwitchState.sameSwitch_updated_updated hvalid
    rw [← hstate] at hsame
    rw [resends_succ, hcount, ih hqueries' hanswers' hstate (hsame.callsForIms.trans hcalls)
      (hsame.isVolteSupport.trans hvolte)
      (by rw [hactive', hsame.callsForIms, hcalls]; rfl), Nat.add_comm]

end

/-- How often the configuration is read and sent in a number of undisturbed questions,
from every state: never, where nothing is asked or the first answer is
`IsVolteSupport`; each time, where after the first reading only VoNR calls for IMS and
IMS is registered; and otherwise once. -/
theorem resends_askedRounds (K : CapabilityConstants) (db : EccDatabase)
    (vonrState imsSwitchState : Int → Option Int) (database : Int → Int) (service : ImsSide)
    (w : ImsWorld) (slotId : Int) (poc : OperatorConfig) (env : CapabilityEnv)
    (hvalid : CellularCallConfig.isValidSlotId K.toConfigConstants slotId = true)
    (hsim : env.hasSimCard = true) (hdelivered : ∀ r, env.delivered r = true)
    (hqueries : w.2.queries = []) (hanswers : w.2.answers = []) (n : Nat) :
    let after := w.1.updated K slotId poc env
    ((imsMachine K db vonrState imsSwitchState database service).outputs w
      (askedRounds slotId poc env n)).countP ConfigRequest.isSwitch =
        if w.1.asks K slotId env = false ∨
            w.2.active slotId = booleanToImsSwitchValue (w.1.isVolteSupport K slotId env) then 0
        else if after.callsForIms K slotId env = true ∧ after.isVolteSupport K slotId env = false ∧
            env.imsRegistered = true then n
        else min n 1 := by
  intro after
  split
  · next hquiet => exact resends_of_quiet rfl hsim hdelivered hqueries hanswers hquiet n
  · next hnoisy =>
    obtain ⟨hasks, hdiffers⟩ := not_or.mp hnoisy
    cases n with
    | zero => simp [askedRounds, Machine.outputs]
    | succ n =>
      have hM : (imsMachine K db vonrState imsSwitchState database service).step =
          ImsWorld.step K db := rfl
      obtain ⟨⟨hstate, hqueries', hanswers', hactive⟩, hcount⟩ :=
        askedRound_updates hM poc hvalid hsim hdelivered hqueries hanswers
          (by simpa using hasks) hdiffers
      rw [resends_succ, hcount]
      split
      · next hvonr =>
        obtain ⟨hcalls, hvolte, hregistered⟩ := hvonr
        rw [resends_of_vonr hM hvalid hsim hdelivered hregistered hqueries' hanswers' hstate
          (by rw [hstate]; exact hcalls) (by rw [hstate]; exact hvolte)
          (by rw [hactive, hstate]; exact congrArg booleanToImsSwitchValue hcalls), Nat.add_comm]
      · next hsettled =>
        have hquiet : after.asks K slotId env = false ∨
            booleanToImsSwitchValue (after.callsForIms K slotId env) =
              booleanToImsSwitchValue (after.isVolteSupport K slotId env) := by
          cases hvolte : after.isVolteSupport K slotId env with
          | true => exact .inr (by simp [SwitchState.callsForIms, hvolte])
          | false =>
            cases hregistered : env.imsRegistered with
            | false => exact .inl (by simp [SwitchState.asks, hvolte, hregistered])
            | true =>
              refine .inr (congrArg booleanToImsSwitchValue ?_)
              by_contra hcalls
              exact hsettled ⟨by simpa using hcalls, hvolte, hregistered⟩
        rw [resends_of_quiet hM hsim hdelivered hqueries' hanswers'
          (by rw [hactive, hstate]; exact hquiet)]
        omega

/-- IMS is on by VoNR alone, and two questions make the configuration be sent twice. -/
theorem resends_askedRounds_vonr :
    (freshIms.outputs (exec freshIms (toldMonitor .twoSlots) freshIms.init
      (toldMonitor .twoSlots).init switchedOff).1
      (askedRounds 0 (.ofSwitch .volteSupported true) .plain 2)).countP
        ConfigRequest.isSwitch = 2 :=
  resends_askedRounds .twoSlots twoFakes (fun _ => none) (fun _ => none)
    (fun _ => imsSwitchStatusUnknown) .off _ 0 (.ofSwitch .volteSupported true) .plain (by decide)
    (by decide) (fun _ => rfl) (by decide) (by decide) 2

end CellularCall
