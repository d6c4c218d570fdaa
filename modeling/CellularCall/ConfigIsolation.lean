import CellularCall.FakeEcc

/-!
# The configuration of a slot

`CellularCallConfig` keeps everything in static maps and vectors indexed by the
slot.  This module puts the parts together: the emergency numbers, the settings
the modem accepts, and the operator's configuration with the IMS switch.  What is
sent to the modem on the way is left out here.

A handler of several locked sections is a sequence of events: a change of the SIM
for instance is `checkAndUpdateSimState`, the sections of `UpdateEccNumberList`
and `noteSimChange`.

`isolated_iff` says which operations for one slot show in another one.
-/

namespace CellularCall

open Lib

/-- What the headers outside this repository fix besides: the defaults of the
operator's configuration. -/
structure OperatorConstants extends EccConstants where
  carrierNrAvailabilityNsa : Int
  defaultCallWaitingServiceClass : Int
  imsCallDisconnectReasoninfoMapping : List Str
deriving DecidableEq, Repr

/-- The keys of the operator's switches. -/
inductive OperatorKey where
  | imsSwitchOnByDefault
  | hideImsSwitch
  | volteSupported
  | volteProvisioningSupported
  | carrierVtAvailable
  | ssOverUtSupported
  | imsGbaRequired
  | utProvisioningSupported
  | imsPreferForEmergency
  | forceVolteSwitchOn
  | videoCallWaiting
  | imsSipCauseEnable
deriving DecidableEq, Repr

/-- `OperatorConfig`, as far as it is cached. -/
structure OperatorConfig where
  boolValue : OperatorKey → Option Bool
  nrModeSupportedList : Option (List Int)
  callWaitingServiceClass : Option Int
  imsCallDisconnectReasoninfoMapping : Option (List Str)

/-- The maps of the operator's configuration. -/
structure OperatorMaps where
  imsSwitchOnByDefault : Int → Bool
  hideImsSwitch : Int → Bool
  volteSupported : Int → Bool
  carrierVtAvailable : Int → Bool
  nrModeSupportedList : Int → List Int
  volteProvisioningSupported : Int → Bool
  ssOverUtSupported : Int → Bool
  imsGbaRequired : Int → Bool
  utProvisioningSupported : Int → Bool
  imsPreferForEmergency : Int → Bool
  callWaitingServiceClass : Int → Int
  imsCallDisconnectReasoninfoMapping : Int → List Str
  forceVolteSwitchOn : Int → Bool
  videoCallWaiting : Int → Bool
  imsSipCauseEnable : Int → Bool

/-- The members of `CellularCallConfig`.  `imsSwitchState` is the system parameter
`IMSSWITCH_STATE` of each slot. -/
structure ConfigState where
  ecc : EccState
  settings : CellularCallConfig
  operator : OperatorMaps
  imsSwitchState : Int → Option Int
  networkServiceState : Int → NetworkState
  readyToCall : Int → Bool
  shouldCheckImsAfterNvUpdate : Int → Bool

/-- What the changes of the IMS switch look at: whether the modem says VoLTE is
enabled, the SIM, and the core service's database, which may fail to answer or to
save. -/
structure ImsSwitchEnv where
  volteFeatureEnabled : Bool
  simId : Int
  hasSimCard : Bool
  simChanged : Bool
  queryImsSwitch : Option Int
  saves : Bool
deriving DecidableEq, Repr

/-- What `SaveImsSwitch` returns. -/
inductive SaveImsSwitchResult where
  | failed
  | successChanged
  | successNotChanged
deriving DecidableEq, Repr

/-- What `SetImsSwitchStatus` returns. -/
inductive ImsSwitchRet where
  | success
  | invalidSlotId
  | volteNotSupport
  | volteProvisioningDisabled
  | slotIdInvalid
  | databaseWriteFail
deriving DecidableEq, Repr

/-- `IMS_SWITCH_STATUS_UNKNOWN`. -/
def imsSwitchStatusUnknown : Int := -1

/-- `BooleanToImsSwitchValue`. -/
def booleanToImsSwitchValue (value : Bool) : Int := if value then 1 else 0

/-- `ParseBoolOperatorConfigs`. -/
def parseBoolOperatorConfigs (slotId : Int) (config : Int → Bool) (poc : OperatorConfig)
    (configName : OperatorKey) : Int → Bool :=
  match poc.boolValue configName with
  | some value => Function.update config slotId value
  | none => config

/-- An entry that the operator may have. -/
def parseOperatorConfig {α : Type} (slotId : Int) (config : Int → α) (entry : Option α) : Int → α :=
  match entry with
  | some value => Function.update config slotId value
  | none => config

/-- `ParseAndCacheOperatorConfigs`, of a slot there is. -/
def OperatorMaps.parseAndCacheOperatorConfigs (m : OperatorMaps) (slotId : Int)
    (poc : OperatorConfig) : OperatorMaps where
  imsSwitchOnByDefault :=
    parseBoolOperatorConfigs slotId m.imsSwitchOnByDefault poc .imsSwitchOnByDefault
  hideImsSwitch := parseBoolOperatorConfigs slotId m.hideImsSwitch poc .hideImsSwitch
  volteSupported := parseBoolOperatorConfigs slotId m.volteSupported poc .volteSupported
  volteProvisioningSupported :=
    parseBoolOperatorConfigs slotId m.volteProvisioningSupported poc .volteProvisioningSupported
  carrierVtAvailable := parseBoolOperatorConfigs slotId m.carrierVtAvailable poc .carrierVtAvailable
  ssOverUtSupported := parseBoolOperatorConfigs slotId m.ssOverUtSupported poc .ssOverUtSupported
  imsGbaRequired := parseBoolOperatorConfigs slotId m.imsGbaRequired poc .imsGbaRequired
  utProvisioningSupported :=
    parseBoolOperatorConfigs slotId m.utProvisioningSupported poc .utProvisioningSupported
  imsPreferForEmergency :=
    parseBoolOperatorConfigs slotId m.imsPreferForEmergency poc .imsPreferForEmergency
  forceVolteSwitchOn := parseBoolOperatorConfigs slotId m.forceVolteSwitchOn poc .forceVolteSwitchOn
  videoCallWaiting := parseBoolOperatorConfigs slotId m.videoCallWaiting poc .videoCallWaiting
  imsSipCauseEnable := parseBoolOperatorConfigs slotId m.imsSipCauseEnable poc .imsSipCauseEnable
  nrModeSupportedList := parseOperatorConfig slotId m.nrModeSupportedList poc.nrModeSupportedList
  callWaitingServiceClass :=
    parseOperatorConfig slotId m.callWaitingServiceClass poc.callWaitingServiceClass
  imsCallDisconnectReasoninfoMapping :=
    parseOperatorConfig slotId m.imsCallDisconnectReasoninfoMapping
      poc.imsCallDisconnectReasoninfoMapping

namespace ConfigState

variable (K : OperatorConstants)

/-- The configuration after `InitDefaultOperatorConfig`. -/
def init (db : EccDatabase) (vonrState imsSwitchState : Int → Option Int) : ConfigState :=
  let valid := CellularCallConfig.isValidSlotId K.toConfigConstants
  { ecc := (eccMachine K.toEccConstants db).init
    settings := .init K.toConfigConstants vonrState
    operator :=
      { imsSwitchOnByDefault := fun _ => false
        hideImsSwitch := fun _ => false
        volteSupported := valid
        carrierVtAvailable := valid
        nrModeSupportedList := fun slotId =>
          if valid slotId then [K.carrierNrAvailabilityNsa, K.carrierNrAvailabilitySa] else []
        volteProvisioningSupported := fun _ => false
        ssOverUtSupported := fun _ => false
        imsGbaRequired := fun _ => false
        utProvisioningSupported := fun _ => false
        imsPreferForEmergency := valid
        callWaitingServiceClass := fun slotId =>
          if valid slotId then K.defaultCallWaitingServiceClass else 0
        imsCallDisconnectReasoninfoMapping := fun slotId =>
          if valid slotId then K.imsCallDisconnectReasoninfoMapping else []
        forceVolteSwitchOn := fun _ => false
        videoCallWaiting := valid
        imsSipCauseEnable := fun _ => false }
    imsSwitchState := imsSwitchState
    networkServiceState := fun _ => ⟨false, false⟩
    readyToCall := valid
    shouldCheckImsAfterNvUpdate := valid }

/-- `InitModeActive`. -/
def initModeActive (s : ConfigState) : ConfigState :=
  { s with
    ecc := { s.ecc with config := s.ecc.config.initModeActive K.toEccConstants }
    settings := s.settings.initModeActive K.toConfigConstants }

/-- `IsVolteProvisioned`. -/
def isVolteProvisioned (s : ConfigState) (slotId : Int) (env : ImsSwitchEnv) : Bool :=
  if s.operator.volteProvisioningSupported slotId then env.volteFeatureEnabled else true

/-- `saveImsSwitchStatusToLocal`. -/
def saveImsSwitchStatusToLocal (s : ConfigState) (slotId imsSwitchStatus : Int) : ConfigState :=
  { s with imsSwitchState := Function.update s.imsSwitchState slotId (some imsSwitchStatus) }

/-- `SaveImsSwitch`. -/
def saveImsSwitch (s : ConfigState) (slotId imsSwitchValue : Int) (env : ImsSwitchEnv) :
    ConfigState × SaveImsSwitchResult :=
  match env.queryImsSwitch with
  | none => (s, .failed)
  | some lastImsSwitchValue =>
    if imsSwitchValue = lastImsSwitchValue then (s, .successNotChanged)
    else if env.saves = false then (s, .failed)
    else
      let s := s.saveImsSwitchStatusToLocal slotId imsSwitchValue
      ({ s with settings := s.settings.saveVoNRState slotId imsSwitchValue }, .successChanged)

/-- `SetImsSwitchStatus` of the service and of the configuration. -/
def setImsSwitchStatus (s : ConfigState) (slotId : Int) (active : Bool) (env : ImsSwitchEnv) :
    ConfigState × ImsSwitchRet :=
  if CellularCall.isValidSlotId K.simSlotCount slotId = false then (s, .invalidSlotId)
  else if s.operator.volteSupported slotId = false then (s, .volteNotSupport)
  else if active && !s.isVolteProvisioned slotId env then (s, .volteProvisioningDisabled)
  else if env.simId ≤ 0 then (s, .slotIdInvalid)
  else
    match s.saveImsSwitch slotId (booleanToImsSwitchValue active) env with
    | (s, .failed) => (s, .databaseWriteFail)
    | (s, _) => (s, .success)

/-- `HandleFactoryReset`. -/
def handleFactoryReset (s : ConfigState) (slotId : Int) (env : ImsSwitchEnv) : ConfigState :=
  if CellularCallConfig.isValidSlotId K.toConfigConstants slotId = false then s
  else if env.hasSimCard = false then s
  else (s.saveImsSwitch slotId
    (booleanToImsSwitchValue (s.operator.imsSwitchOnByDefault slotId)) env).1

/-- `saveImsSwitchStatusToLocalForPowerOn`, of a slot there is. -/
def saveImsSwitchStatusToLocalForPowerOn (s : ConfigState) (slotId : Int) (env : ImsSwitchEnv) :
    ConfigState :=
  let imsSwitchStatus := env.queryImsSwitch.getD imsSwitchStatusUnknown
  s.saveImsSwitchStatusToLocal slotId
    (if imsSwitchStatus = imsSwitchStatusUnknown then
      booleanToImsSwitchValue (s.operator.imsSwitchOnByDefault slotId)
    else imsSwitchStatus)

/-- `ResetImsSwitch`. -/
def resetImsSwitch (s : ConfigState) (slotId : Int) (env : ImsSwitchEnv) : ConfigState :=
  if env.hasSimCard && env.simChanged && s.operator.forceVolteSwitchOn slotId && env.saves then
    s.saveImsSwitchStatusToLocal slotId
      (booleanToImsSwitchValue (s.operator.imsSwitchOnByDefault slotId))
  else s

/-- `UpdateImsConfiguration`; the operator's configuration may be missing. -/
def updateImsConfiguration (s : ConfigState) (slotId : Int) (operatorConfig : Option OperatorConfig)
    (env : ImsSwitchEnv) : ConfigState :=
  if CellularCallConfig.isValidSlotId K.toConfigConstants slotId = false then s
  else
    match operatorConfig with
    | none => s
    | some operatorConfig =>
      let s := { s with
        operator := s.operator.parseAndCacheOperatorConfigs slotId operatorConfig }
      (s.saveImsSwitchStatusToLocalForPowerOn slotId env).resetImsSwitch slotId env

/-- The end of `HandleSimStateChanged` and `HandleSimRecordsLoaded`. -/
def noteSimChange (s : ConfigState) (slotId : Int) : ConfigState :=
  if CellularCallConfig.isValidSlotId K.toConfigConstants slotId = false then s
  else { s with
    shouldCheckImsAfterNvUpdate := Function.update s.shouldCheckImsAfterNvUpdate slotId true }

/-- The locked section of `HandleNetworkStateChange`. -/
def handleNetworkStateChange (s : ConfigState) (slotId : Int)
    (networkState : Option NetworkState) : ConfigState :=
  if CellularCallConfig.isValidSlotId K.toConfigConstants slotId = false then s
  else
    match networkState with
    | none => s
    | some networkState =>
      let shouldCheck := s.shouldCheckImsAfterNvUpdate slotId && !networkState.inService
      { s with
        shouldCheckImsAfterNvUpdate :=
          Function.update s.shouldCheckImsAfterNvUpdate slotId shouldCheck
        networkServiceState := Function.update s.networkServiceState slotId networkState }

/-- `SetReadyToCall`. -/
def setReadyToCall (s : ConfigState) (slotId : Int) (isReadyToCall : Bool) : ConfigState :=
  if CellularCallConfig.isValidSlotId K.toConfigConstants slotId = false then s
  else { s with readyToCall := Function.update s.readyToCall slotId isReadyToCall }

end ConfigState

/-! ## Operations -/

/-- The sections of the operations of `CellularCallConfig`. -/
inductive SlotEvent where
  | registerCoreServiceHandler (slotId : Int)
  | ecc (e : EccEvent)
  | setting (e : ConfigEvent)
  | setImsSwitchStatus (slotId : Int) (active : Bool) (env : ImsSwitchEnv)
  | handleFactoryReset (slotId : Int) (env : ImsSwitchEnv)
  | updateImsConfiguration (slotId : Int) (operatorConfig : Option OperatorConfig)
    (env : ImsSwitchEnv)
  | noteSimChange (slotId : Int)
  | handleNetworkStateChange (slotId : Int) (networkState : Option NetworkState)
  | setReadyToCall (slotId : Int) (isReadyToCall : Bool)

def slotConfigMachine (K : OperatorConstants) (db : EccDatabase)
    (vonrState imsSwitchState : Int → Option Int) : Machine ConfigState SlotEvent Unit where
  init := .init K db vonrState imsSwitchState
  step s
    | .registerCoreServiceHandler _ => (s.initModeActive K, [])
    | .ecc e => ({ s with ecc := ((eccMachine K.toEccConstants db).step s.ecc e).1 }, [])
    | .setting e =>
      ({ s with settings := ((configMachine K.toConfigConstants vonrState).step s.settings e).1 },
        [])
    | .setImsSwitchStatus slotId active env => ((s.setImsSwitchStatus K slotId active env).1, [])
    | .handleFactoryReset slotId env => (s.handleFactoryReset K slotId env, [])
    | .updateImsConfiguration slotId operatorConfig env =>
      (s.updateImsConfiguration K slotId operatorConfig env, [])
    | .noteSimChange slotId => (s.noteSimChange K slotId, [])
    | .handleNetworkStateChange slotId networkState =>
      (s.handleNetworkStateChange K slotId networkState, [])
    | .setReadyToCall slotId isReadyToCall => (s.setReadyToCall K slotId isReadyToCall, [])

/-- The slot a thread is at work for. -/
def EccPhase.slot? : EccPhase → Option Int
  | .idle => none
  | .home slotId _ => some slotId
  | .current slotId => some slotId
  | .asking slotId _ _ => some slotId
  | .storing slotId _ _ => some slotId

/-- The slot an event of the emergency numbers is for.  `InitModeActive` by itself
is for none. -/
def EccEvent.slot? (threads : Nat → EccPhase) : EccEvent → Option Int
  | .initModeActive => none
  | .updateEmergencyCallFromRadio slotId _ _ _ => some slotId
  | .checkAndUpdateSimState slotId _ => some slotId
  | .handleResidentNetworkChange slotId _ => some slotId
  | .enterEccNumberList _ slotId _ => some slotId
  | .processEccList thread _ _ => (threads thread).slot?
  | .queryEccList thread _ => (threads thread).slot?
  | .storeEccList thread => (threads thread).slot?
  | .clearCachedEcclist slotId _ => some slotId

/-- The slot an event of the settings is for. -/
def ConfigEvent.slot? : ConfigEvent → Option Int
  | .setDomainPreferenceMode _ slotId _ => some slotId
  | .setDomainPreferenceModeRequest _ slotId _ _ => some slotId
  | .setVoNRSwitchStatus _ slotId _ _ => some slotId
  | .noteVoNRSwitchStatus _ slotId _ => some slotId
  | .setDomainPreferenceModeResponse slotId _ => some slotId
  | .setVoNRSwitchStatusResponse slotId _ => some slotId
  | .getDomainPreferenceModeResponse slotId _ => some slotId
  | .initModeActive => none
  | .saveImsSwitch slotId _ => some slotId

/-- The slot an operation is invoked for. -/
def SlotEvent.slot? (s : ConfigState) : SlotEvent → Option Int
  | .registerCoreServiceHandler slotId => some slotId
  | .ecc e => e.slot? s.ecc.threads
  | .setting e => e.slot?
  | .setImsSwitchStatus slotId _ _ => some slotId
  | .handleFactoryReset slotId _ => some slotId
  | .updateImsConfiguration slotId _ _ => some slotId
  | .noteSimChange slotId => some slotId
  | .handleNetworkStateChange slotId _ => some slotId
  | .setReadyToCall slotId _ => some slotId

/-! ## What a slot has -/

/-- The emergency numbers of a slot. -/
structure EccView where
  allEccList : List EmergencyCall
  eccListRadioMap : List EmergencyCall
  simPresent : Bool
  curPlmn : Str
  hplmnEccList : EccList
  currentPlmnEccList : EccList
  hplmnFakeEccList : EccList
deriving DecidableEq, Repr

def EccConfig.view (c : EccConfig) (slotId : Int) : EccView where
  allEccList := c.allEccList slotId
  eccListRadioMap := c.eccListRadioMap slotId
  simPresent := c.simPresent slotId
  curPlmn := c.curPlmn slotId
  hplmnEccList := c.hplmnEccList slotId
  currentPlmnEccList := c.currentPlmnEccList slotId
  hplmnFakeEccList := c.hplmnFakeEccList slotId

/-- The settings of a slot. -/
structure SettingView where
  modeTemp : Int
  mode : Int
  vonrSwithStatus : Int
  vonrState : Option Int
deriving DecidableEq, Repr

def CellularCallConfig.view (c : CellularCallConfig) (slotId : Int) : SettingView where
  modeTemp := c.modeTempMap slotId
  mode := c.modeMap slotId
  vonrSwithStatus := c.vonrSwithStatus slotId
  vonrState := c.vonrState slotId

/-- The operator's configuration of a slot. -/
structure OperatorView where
  switches : List Bool
  nrModeSupportedList : List Int
  callWaitingServiceClass : Int
  imsCallDisconnectReasoninfoMapping : List Str
deriving DecidableEq, Repr

def OperatorMaps.view (m : OperatorMaps) (slotId : Int) : OperatorView where
  switches :=
    [m.imsSwitchOnByDefault slotId, m.hideImsSwitch slotId, m.volteSupported slotId,
      m.carrierVtAvailable slotId, m.volteProvisioningSupported slotId,
      m.ssOverUtSupported slotId, m.imsGbaRequired slotId, m.utProvisioningSupported slotId,
      m.imsPreferForEmergency slotId, m.forceVolteSwitchOn slotId, m.videoCallWaiting slotId,
      m.imsSipCauseEnable slotId]
  nrModeSupportedList := m.nrModeSupportedList slotId
  callWaitingServiceClass := m.callWaitingServiceClass slotId
  imsCallDisconnectReasoninfoMapping := m.imsCallDisconnectReasoninfoMapping slotId

/-- The configuration of a slot. -/
structure SlotView where
  ecc : EccView
  settings : SettingView
  operator : OperatorView
  imsSwitchState : Option Int
  networkServiceState : NetworkState
  readyToCall : Bool
  shouldCheckImsAfterNvUpdate : Bool
deriving DecidableEq, Repr

def ConfigState.view (s : ConfigState) (slotId : Int) : SlotView where
  ecc := s.ecc.config.view slotId
  settings := s.settings.view slotId
  operator := s.operator.view slotId
  imsSwitchState := s.imsSwitchState slotId
  networkServiceState := s.networkServiceState slotId
  readyToCall := s.readyToCall slotId
  shouldCheckImsAfterNvUpdate := s.shouldCheckImsAfterNvUpdate slotId

/-! ## Other slots -/

section
variable {K : OperatorConstants} {db : EccDatabase} {a b : Int}

theorem EccConfig.view_updateEmergencyCallFromRadio {c : EccConfig} {env : SimEnv}
    {calls : List EmergencyInfo} (hne : b ≠ a) :
    (c.updateEmergencyCallFromRadio K.toEccConstants a env db calls).view b = c.view b := by
  simp only [EccConfig.updateEmergencyCallFromRadio, EccConfig.mergeEccCallList,
    EccConfig.updateHplmnFakeEccList, EccConfig.uniqueEccCallList]
  split_ifs <;> simp [EccConfig.view, Function.update_of_ne hne]

theorem EccConfig.view_processCurrentPlmnEccList {c : EccConfig} {rplmn : Str} (hne : b ≠ a) :
    (c.processCurrentPlmnEccList a rplmn).1.view b = c.view b := by
  simp only [EccConfig.processCurrentPlmnEccList]
  split_ifs <;> simp [EccConfig.view, Function.update_of_ne hne]

theorem EccConfig.view_storeEccList {c : EccConfig} {hplmn : Option Str}
    {eccInfoList : List EmergencyCall} (hne : b ≠ a) :
    (c.storeEccList a hplmn eccInfoList).1.view b = c.view b := by
  cases hplmn <;> simp [EccConfig.storeEccList, EccConfig.view, Function.update_of_ne hne]

/-- An event of the emergency numbers of one slot. -/
theorem EccEvent.view_step {s : EccState} {e : EccEvent} (hslot : e.slot? s.threads = some a)
    (hne : b ≠ a) :
    ((eccMachine K.toEccConstants db).step s e).1.config.view b = s.config.view b := by
  cases e with
  | initModeActive => cases hslot
  | updateEmergencyCallFromRadio slotId env succeeds calls =>
    cases hslot
    exact EccConfig.view_updateEmergencyCallFromRadio hne
  | checkAndUpdateSimState slotId simState =>
    cases hslot
    simp [eccMachine, EccConfig.checkAndUpdateSimState, EccConfig.view, Function.update_of_ne hne]
  | handleResidentNetworkChange slotId plmn =>
    cases hslot
    simp only [eccMachine, EccConfig.handleResidentNetworkChange]
    split_ifs <;> simp [EccConfig.view, Function.update_of_ne hne]
  | enterEccNumberList thread slotId env =>
    simp only [eccMachine]
    split_ifs <;> rfl
  | processEccList thread callListWithCard rplmn =>
    simp only [eccMachine, EccState.processEccList]
    cases hphase : s.threads thread with
    | current slotId =>
      simp only [EccEvent.slot?, hphase, EccPhase.slot?, Option.some.injEq] at hslot
      subst hslot
      exact EccConfig.view_processCurrentPlmnEccList hne
    | _ => rfl
  | queryEccList thread succeeds =>
    simp only [eccMachine, EccState.queryEccList]
    split <;> rfl
  | storeEccList thread =>
    simp only [eccMachine, EccState.storeEccList]
    cases hphase : s.threads thread with
    | storing slotId hplmn eccInfoList =>
      simp only [EccEvent.slot?, hphase, EccPhase.slot?, Option.some.injEq] at hslot
      subst hslot
      exact EccConfig.view_storeEccList hne
    | _ => rfl
  | clearCachedEcclist slotId db' =>
    cases hslot
    simp [eccMachine, EccConfig.clearCachedEcclist, EccConfig.view, Function.update_of_ne hne]

theorem CellularCallConfig.view_saveVoNRState {c : CellularCallConfig} {state : Int}
    (hne : b ≠ a) : (c.saveVoNRState a state).view b = c.view b := by
  simp [CellularCallConfig.saveVoNRState, CellularCallConfig.view, Function.update_of_ne hne]

/-- An event of the settings of one slot. -/
theorem ConfigEvent.view_step {K : ConfigConstants} {persisted : Int → Option Int}
    {c : CellularCallConfig} {e : ConfigEvent} (hslot : e.slot? = some a) (hne : b ≠ a) :
    ((configMachine K persisted).step c e).1.view b = c.view b := by
  cases e with
  | initModeActive => cases hslot
  | setDomainPreferenceMode thread slotId mode =>
    cases hslot
    simp only [configMachine, CellularCallConfig.setDomainPreferenceMode]
    split_ifs <;> simp [CellularCallConfig.view, Function.update_of_ne hne]
  | setDomainPreferenceModeRequest thread slotId mode route => rfl
  | setVoNRSwitchStatus thread slotId state env => rfl
  | noteVoNRSwitchStatus thread slotId state =>
    cases hslot
    simp [configMachine, CellularCallConfig.noteVoNRSwitchStatus, CellularCallConfig.view,
      Function.update_of_ne hne]
  | setDomainPreferenceModeResponse slotId error =>
    cases hslot
    cases error with
    | some error => rfl
    | none =>
      simp only [configMachine, CellularCallConfig.setDomainPreferenceModeResponse,
        CellularCallConfig.setTempMode]
      split_ifs <;> simp [CellularCallConfig.view, Function.update_of_ne hne]
  | setVoNRSwitchStatusResponse slotId error =>
    cases hslot
    cases error with
    | some error => rfl
    | none => exact CellularCallConfig.view_saveVoNRState hne
  | getDomainPreferenceModeResponse slotId mode =>
    cases hslot
    simp only [configMachine, CellularCallConfig.getDomainPreferenceModeResponse]
    split_ifs <;> simp [CellularCallConfig.view, Function.update_of_ne hne]
  | saveImsSwitch slotId imsSwitchValue =>
    cases hslot
    exact CellularCallConfig.view_saveVoNRState hne

theorem parseBoolOperatorConfigs_of_ne {config : Int → Bool} {poc : OperatorConfig}
    {configName : OperatorKey} (hne : b ≠ a) :
    parseBoolOperatorConfigs a config poc configName b = config b := by
  unfold parseBoolOperatorConfigs
  cases poc.boolValue configName with
  | none => rfl
  | some value => exact Function.update_of_ne hne _ _

theorem parseOperatorConfig_of_ne {α : Type} {config : Int → α} {entry : Option α} (hne : b ≠ a) :
    parseOperatorConfig a config entry b = config b := by
  cases entry with
  | none => rfl
  | some value => exact Function.update_of_ne hne _ _

theorem OperatorMaps.view_parseAndCacheOperatorConfigs {m : OperatorMaps} {poc : OperatorConfig}
    (hne : b ≠ a) : (m.parseAndCacheOperatorConfigs a poc).view b = m.view b := by
  simp only [OperatorMaps.view, OperatorMaps.parseAndCacheOperatorConfigs,
    parseBoolOperatorConfigs_of_ne hne, parseOperatorConfig_of_ne hne]

namespace ConfigState

variable {s : ConfigState} {env : ImsSwitchEnv}

theorem view_saveImsSwitchStatusToLocal {imsSwitchStatus : Int} (hne : b ≠ a) :
    (s.saveImsSwitchStatusToLocal a imsSwitchStatus).view b = s.view b := by
  simp [saveImsSwitchStatusToLocal, view, Function.update_of_ne hne]

theorem view_saveImsSwitch {imsSwitchValue : Int} (hne : b ≠ a) :
    (s.saveImsSwitch a imsSwitchValue env).1.view b = s.view b := by
  unfold saveImsSwitch
  split
  · rfl
  · split_ifs
    · rfl
    · rfl
    · simp only [view, CellularCallConfig.view_saveVoNRState hne, saveImsSwitchStatusToLocal,
        Function.update_of_ne hne]

theorem view_setImsSwitchStatus {active : Bool} (hne : b ≠ a) :
    (s.setImsSwitchStatus K a active env).1.view b = s.view b := by
  have hsave : (s.saveImsSwitch a (booleanToImsSwitchValue active) env).1.view b = s.view b :=
    view_saveImsSwitch hne
  unfold setImsSwitchStatus
  split_ifs
  · rfl
  · rfl
  · rfl
  · rfl
  · split
    · rename_i heq
      rw [heq] at hsave
      exact hsave
    · rename_i heq
      rw [heq] at hsave
      exact hsave

theorem view_handleFactoryReset (hne : b ≠ a) :
    (s.handleFactoryReset K a env).view b = s.view b := by
  unfold handleFactoryReset
  split_ifs
  · rfl
  · rfl
  · exact view_saveImsSwitch hne

theorem view_resetImsSwitch (hne : b ≠ a) : (s.resetImsSwitch a env).view b = s.view b := by
  unfold resetImsSwitch
  split_ifs
  · exact view_saveImsSwitchStatusToLocal hne
  · rfl

theorem view_updateImsConfiguration {operatorConfig : Option OperatorConfig} (hne : b ≠ a) :
    (s.updateImsConfiguration K a operatorConfig env).view b = s.view b := by
  unfold updateImsConfiguration
  split_ifs
  · rfl
  · cases operatorConfig with
    | none => rfl
    | some operatorConfig =>
      calc _ = ({ s with
              operator := s.operator.parseAndCacheOperatorConfigs a operatorConfig }
              |>.saveImsSwitchStatusToLocalForPowerOn a env).view b := view_resetImsSwitch hne
        _ = ({ s with
              operator := s.operator.parseAndCacheOperatorConfigs a operatorConfig }).view b :=
          view_saveImsSwitchStatusToLocal hne
        _ = s.view b := by
          simp only [view, OperatorMaps.view_parseAndCacheOperatorConfigs hne]

theorem view_noteSimChange (hne : b ≠ a) : (s.noteSimChange K a).view b = s.view b := by
  unfold noteSimChange
  split_ifs
  · rfl
  · simp [view, Function.update_of_ne hne]

theorem view_handleNetworkStateChange {networkState : Option NetworkState} (hne : b ≠ a) :
    (s.handleNetworkStateChange K a networkState).view b = s.view b := by
  unfold handleNetworkStateChange
  split_ifs
  · rfl
  · cases networkState with
    | none => rfl
    | some networkState => simp [view, Function.update_of_ne hne]

theorem view_setReadyToCall {isReadyToCall : Bool} (hne : b ≠ a) :
    (s.setReadyToCall K a isReadyToCall).view b = s.view b := by
  unfold setReadyToCall
  split_ifs
  · rfl
  · simp [view, Function.update_of_ne hne]

/-- The slot has nothing that `InitModeActive` clears or sets. -/
def Unwritten (K : ConfigConstants) (s : ConfigState) (slotId : Int) : Prop :=
  s.ecc.config.allEccList slotId = [] ∧ s.ecc.config.eccListRadioMap slotId = [] ∧
    (slotId = 0 → s.settings.modeMap 0 = K.imsPsVoicePreferred)

/-- `InitModeActive` clears the lists of all slots, and sets the mode of the first
one. -/
theorem view_initModeActive_iff :
    (s.initModeActive K).view b = s.view b ↔ s.Unwritten K.toConfigConstants b := by
  have hlists : (s.initModeActive K).view b = s.view b ↔
      ([] = s.ecc.config.allEccList b ∧ [] = s.ecc.config.eccListRadioMap b) ∧
        Function.update s.settings.modeMap 0 K.imsPsVoicePreferred b = s.settings.modeMap b := by
    simp [view, initModeActive, EccConfig.view, EccConfig.initModeActive, CellularCallConfig.view,
      CellularCallConfig.initModeActive]
  have hmode : Function.update s.settings.modeMap 0 K.imsPsVoicePreferred b =
      s.settings.modeMap b ↔ (b = 0 → s.settings.modeMap 0 = K.imsPsVoicePreferred) := by
    by_cases hzero : b = 0
    · subst hzero
      simp [eq_comm]
    · simp [hzero]
  rw [hlists, hmode, Unwritten, and_assoc, eq_comm, eq_comm (b := s.ecc.config.eccListRadioMap b)]

end ConfigState

end

/-- A handler is registered for the slot. -/
def SlotEvent.isRegistration : SlotEvent → Bool
  | .registerCoreServiceHandler _ => true
  | _ => false

/-- In every state, an operation for one slot leaves another one as it is, unless
it registers a handler and the other slot has something of what `InitModeActive`
writes. -/
theorem isolated_iff (K : OperatorConstants) (db : EccDatabase)
    (vonrState imsSwitchState : Int → Option Int) (s : ConfigState) (e : SlotEvent) {a b : Int}
    (hslot : e.slot? s = some a) (hne : b ≠ a) :
    ((slotConfigMachine K db vonrState imsSwitchState).step s e).1.view b = s.view b ↔
      (e.isRegistration = true → s.Unwritten K.toConfigConstants b) := by
  by_cases hregistration : e.isRegistration = true
  · cases e with
    | registerCoreServiceHandler slotId =>
      rw [← ConfigState.view_initModeActive_iff]
      exact ⟨fun hview _ => hview, fun hview => hview rfl⟩
    | _ => cases hregistration
  · refine iff_of_true ?_ fun hyes => absurd hyes hregistration
    cases e with
    | registerCoreServiceHandler slotId => exact absurd rfl hregistration
    | ecc e =>
      have hview : ((eccMachine K.toEccConstants db).step s.ecc e).1.config.view b =
          s.ecc.config.view b := EccEvent.view_step hslot hne
      simp only [slotConfigMachine, ConfigState.view, hview]
    | setting e =>
      have hview : ((configMachine K.toConfigConstants vonrState).step s.settings e).1.view b =
          s.settings.view b := ConfigEvent.view_step hslot hne
      simp only [slotConfigMachine, ConfigState.view, hview]
    | setImsSwitchStatus slotId active env =>
      cases hslot
      exact ConfigState.view_setImsSwitchStatus hne
    | handleFactoryReset slotId env =>
      cases hslot
      exact ConfigState.view_handleFactoryReset hne
    | updateImsConfiguration slotId operatorConfig env =>
      cases hslot
      exact ConfigState.view_updateImsConfiguration hne
    | noteSimChange slotId =>
      cases hslot
      exact ConfigState.view_noteSimChange hne
    | handleNetworkStateChange slotId networkState =>
      cases hslot
      exact ConfigState.view_handleNetworkStateChange hne
    | setReadyToCall slotId isReadyToCall =>
      cases hslot
      exact ConfigState.view_setReadyToCall hne

/-- A build with two slots. -/
def OperatorConstants.twoSlots : OperatorConstants := ⟨.twoSlots, 1, 1, []⟩

/-- The first slot has been registered and has the modem's list when the second one
is registered: the list is gone. -/
theorem not_isolated :
    ¬∀ K db vonrState imsSwitchState s h,
      Run (slotConfigMachine K db vonrState imsSwitchState) Monitor.free unconditional s h →
        ∀ e a b, e.slot? s = some a → b ≠ a →
          ((slotConfigMachine K db vonrState imsSwitchState).step s e).1.view b = s.view b := by
  intro hclaim
  have hisolated := hclaim .twoSlots twoFakes (fun _ => none) (fun _ => none) _ _
    (Run.of_admits
      [.registerCoreServiceHandler 0,
        .ecc (.updateEmergencyCallFromRadio 0 (.registered plmnA) true
          [⟨['1', '1', '0'], 0, 1, [], 0⟩])]
      (by decide)) (.registerCoreServiceHandler 1) 1 0 rfl (by decide)
  exact absurd (congrArg (fun view => view.ecc.eccListRadioMap) hisolated) (by decide)

/-- The second slot's list leaves the first slot alone. -/
theorem isolated_update :
    ((slotConfigMachine .twoSlots twoFakes (fun _ => none) (fun _ => none)).step
      (.init .twoSlots twoFakes (fun _ => none) (fun _ => none))
      (.ecc (.updateEmergencyCallFromRadio 1 (.registered plmnA) true []))).1.view 0 =
        (ConfigState.init .twoSlots twoFakes (fun _ => none) (fun _ => none)).view 0 :=
  (isolated_iff .twoSlots twoFakes (fun _ => none) (fun _ => none) _
    (.ecc (.updateEmergencyCallFromRadio 1 (.registered plmnA) true [])) rfl (by decide)).mpr nofun

end CellularCall
