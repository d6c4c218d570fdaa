import CellularCall.ConfigIsolation

/-!
# The IMS switch in its two stores

The user's IMS switch is kept in the core service's database and in a system
parameter.  `SetImsSwitchStatus` writes both, unless the database has the value
already; `GetImsSwitchStatus` reads the parameter; and `UpdateImsConfiguration`
copies the database to the parameter, or the operator's default where the
database does not answer.  `ResetImsSwitch`, at the end of the latter, sets both to
the default if the SIM was changed and the operator forces the switch.  It knows
the last SIM by a further parameter, which `IsSimChanged` reads into a buffer of
two bytes.

`getImsSwitchStatus_of_run` says in which runs a value that was set is read until
it is reset.  `resets_iff_of_run` says at which runs of `UpdateImsConfiguration`
the switch is reset for the SIM of the run before.

The operations were modelled before, in `ConfigIsolation`, with the answers of the
stores given from outside.  `config_setImsSwitchStatus` and `config_handleFactoryReset`
say that they are the same ones, with the answers that the stores here give.
-/

namespace CellularCall

open Lib

/-- The configuration, the values of the switch in the database, and the
parameters `LAST_ICCID_KEY`. -/
structure SwitchState where
  config : ConfigState
  database : Int → Int
  lastIccid : Int → Str

/-- What the core service answers. -/
structure SwitchEnv where
  volteFeatureEnabled : Bool
  simId : Int
  hasSimCard : Bool
  iccId : Str
  queries : Bool
  saves : Bool
deriving DecidableEq, Repr

/-- What comes out of an operation: what a set returns, and a reset. -/
inductive SwitchOutput where
  | returned (slotId : Int) (ret : ImsSwitchRet)
  | resetImsSwitch (slotId : Int)
deriving DecidableEq, Repr

/-- `SYSTEM_PARAMETER_LENGTH`. -/
def systemParameterLength : Nat := 2

/-- `GetParameter` into a buffer of zeroes, with the default `""`: a value that
does not fit is not read. -/
def getParameter (value : Str) (length : Nat) : Str :=
  if value.length + 1 ≤ length then value else []

/-- What `IsSimChanged` returns. -/
def isSimChanged (lastIccid iccid : Str) : Bool :=
  iccid != getParameter lastIccid systemParameterLength

/-- What `IsSimChanged` leaves in the parameter. -/
def noteIccid (lastIccid iccid : Str) : Str :=
  if isSimChanged lastIccid iccid then cStr iccid else lastIccid

namespace SwitchState

variable (K : OperatorConstants)

/-- What the configuration sees of the answers. -/
def seen (s : SwitchState) (slotId : Int) (env : SwitchEnv) : ImsSwitchEnv where
  volteFeatureEnabled := env.volteFeatureEnabled
  simId := env.simId
  hasSimCard := env.hasSimCard
  simChanged := isSimChanged (s.lastIccid slotId) env.iccId
  queryImsSwitch := if env.queries then some (s.database slotId) else none
  saves := env.saves

/-- A value is saved to the database. -/
def saveToDatabase (s : SwitchState) (slotId value : Int) : SwitchState :=
  { s with database := Function.update s.database slotId value }

/-- `SaveImsSwitch`. -/
def saveImsSwitch (s : SwitchState) (slotId imsSwitchValue : Int) (env : SwitchEnv) :
    SwitchState × SaveImsSwitchResult :=
  match s.config.saveImsSwitch slotId imsSwitchValue (s.seen slotId env) with
  | (config, .successChanged) =>
    ({ s with config := config }.saveToDatabase slotId imsSwitchValue, .successChanged)
  | (config, result) => ({ s with config := config }, result)

/-- The checks of `SetImsSwitchStatus` before the value is saved. -/
def checkImsSwitch (s : SwitchState) (slotId : Int) (active : Bool) (env : SwitchEnv) :
    ImsSwitchRet :=
  if CellularCall.isValidSlotId K.simSlotCount slotId = false then .invalidSlotId
  else if s.config.operator.volteSupported slotId = false then .volteNotSupport
  else if active && !s.config.isVolteProvisioned slotId (s.seen slotId env) then
    .volteProvisioningDisabled
  else if env.simId ≤ 0 then .slotIdInvalid
  else .success

/-- `SetImsSwitchStatus`. -/
def setImsSwitchStatus (s : SwitchState) (slotId : Int) (active : Bool) (env : SwitchEnv) :
    SwitchState × List SwitchOutput :=
  match s.checkImsSwitch K slotId active env with
  | .success =>
    match s.saveImsSwitch slotId (booleanToImsSwitchValue active) env with
    | (s, .failed) => (s, [.returned slotId .databaseWriteFail])
    | (s, _) => (s, [.returned slotId .success])
  | ret => (s, [.returned slotId ret])

/-- `GetSwitchStatus`; the database may not answer. -/
def getSwitchStatus (s : SwitchState) (slotId : Int) (queries : Bool) : Int :=
  let imsSwitchStatus := (s.config.imsSwitchState slotId).getD imsSwitchStatusUnknown
  if imsSwitchStatus = imsSwitchStatusUnknown then
    if queries = false ∨ s.database slotId = imsSwitchStatusUnknown then
      booleanToImsSwitchValue (s.config.operator.imsSwitchOnByDefault slotId)
    else s.database slotId
  else imsSwitchStatus

/-- `GetImsSwitchStatus`, of a slot there is. -/
def getImsSwitchStatus (s : SwitchState) (slotId : Int) (queries : Bool) : Bool :=
  if s.config.operator.hideImsSwitch slotId then true
  else decide (s.getSwitchStatus slotId queries ≠ 0)

/-- `HandleFactoryReset`. -/
def handleFactoryReset (s : SwitchState) (slotId : Int) (env : SwitchEnv) : SwitchState :=
  if CellularCallConfig.isValidSlotId K.toConfigConstants slotId = false then s
  else if env.hasSimCard = false then s
  else (s.saveImsSwitch slotId
    (booleanToImsSwitchValue (s.config.operator.imsSwitchOnByDefault slotId)) env).1

/-- `ResetImsSwitch`. -/
def resetImsSwitch (s : SwitchState) (slotId : Int) (env : SwitchEnv) :
    SwitchState × List SwitchOutput :=
  if env.hasSimCard = false then (s, [])
  else
    let simChanged := isSimChanged (s.lastIccid slotId) env.iccId
    let s := { s with
      lastIccid := Function.update s.lastIccid slotId (noteIccid (s.lastIccid slotId) env.iccId) }
    let value := booleanToImsSwitchValue (s.config.operator.imsSwitchOnByDefault slotId)
    if simChanged && s.config.operator.forceVolteSwitchOn slotId then
      if env.saves then
        ({ s with config := s.config.saveImsSwitchStatusToLocal slotId value }.saveToDatabase
          slotId value, [.resetImsSwitch slotId])
      else (s, [])
    else (s, [])

/-- `UpdateImsConfiguration`; the operator's configuration may be missing. -/
def updateImsConfiguration (s : SwitchState) (slotId : Int)
    (operatorConfig : Option OperatorConfig) (env : SwitchEnv) :
    SwitchState × List SwitchOutput :=
  if CellularCallConfig.isValidSlotId K.toConfigConstants slotId = false then (s, [])
  else
    match operatorConfig with
    | none => (s, [])
    | some operatorConfig =>
      let config := { s.config with
        operator := s.config.operator.parseAndCacheOperatorConfigs slotId operatorConfig }
      let s := { s with
        config := config.saveImsSwitchStatusToLocalForPowerOn slotId (s.seen slotId env) }
      s.resetImsSwitch slotId env

/-- The service starts again: the parameters and the database stay. -/
def restart (db : EccDatabase) (s : SwitchState) : SwitchState :=
  { s with
    config := .init K db s.config.settings.vonrState s.config.imsSwitchState }

end SwitchState

/-- The operations on the switch.  With another SIM the database has another
value. -/
inductive SwitchEvent where
  | setImsSwitchStatus (slotId : Int) (active : Bool) (env : SwitchEnv)
  | updateImsConfiguration (slotId : Int) (operatorConfig : Option OperatorConfig)
    (env : SwitchEnv)
  | handleFactoryReset (slotId : Int) (env : SwitchEnv)
  | changeSim (slotId value : Int)
  | restart

/-- The switch, from what is in the parameters and in the database. -/
def switchMachine (K : OperatorConstants) (db : EccDatabase)
    (vonrState imsSwitchState : Int → Option Int) (database : Int → Int) :
    Machine SwitchState SwitchEvent SwitchOutput where
  init := ⟨.init K db vonrState imsSwitchState, database, fun _ => []⟩
  step s
    | .setImsSwitchStatus slotId active env => s.setImsSwitchStatus K slotId active env
    | .updateImsConfiguration slotId operatorConfig env =>
      s.updateImsConfiguration K slotId operatorConfig env
    | .handleFactoryReset slotId env => (s.handleFactoryReset K slotId env, [])
    | .changeSim slotId value => (s.saveToDatabase slotId value, [])
    | .restart => (s.restart K db, [])

/-! ## The configuration -/

theorem parseBoolOperatorConfigs_apply (slotId a : Int) (config : Int → Bool)
    (poc : OperatorConfig) (key : OperatorKey) :
    parseBoolOperatorConfigs slotId config poc key a =
      if a = slotId then (poc.boolValue key).getD (config slotId) else config a := by
  unfold parseBoolOperatorConfigs
  cases hvalue : poc.boolValue key with
  | none =>
    split
    · rename_i heq
      rw [heq]; rfl
    · rfl
  | some value => exact Function.update_apply _ _ _ _

namespace SwitchState

section
variable {K : OperatorConstants} {s : SwitchState} {slotId : Int} {active : Bool} {env : SwitchEnv}

/-- The operator's default after an update. -/
def parsedDefault (s : SwitchState) (slotId : Int) (poc : OperatorConfig) : Bool :=
  (poc.boolValue .imsSwitchOnByDefault).getD (s.config.operator.imsSwitchOnByDefault slotId)

/-- Whether the operator forces the switch after an update. -/
def parsedForce (s : SwitchState) (slotId : Int) (poc : OperatorConfig) : Bool :=
  (poc.boolValue .forceVolteSwitchOn).getD (s.config.operator.forceVolteSwitchOn slotId)

/-- An update can reset the switch. -/
def CanReset (s : SwitchState) (slotId : Int) (poc : OperatorConfig) (env : SwitchEnv) : Prop :=
  env.hasSimCard = true ∧ s.parsedForce slotId poc = true ∧ env.saves = true

/-- What a set does. -/
theorem setImsSwitchStatus_cases (K : OperatorConstants) (s : SwitchState) (slotId : Int)
    (active : Bool) (env : SwitchEnv) :
    (∃ ret, ret ≠ .success ∧
      s.setImsSwitchStatus K slotId active env = (s, [.returned slotId ret])) ∨
    (s.checkImsSwitch K slotId active env = .success ∧ env.queries = true ∧
      s.database slotId = booleanToImsSwitchValue active ∧
      s.setImsSwitchStatus K slotId active env = (s, [.returned slotId .success])) ∨
    (s.checkImsSwitch K slotId active env = .success ∧ ∃ settings,
      s.setImsSwitchStatus K slotId active env =
        ({ s with
            config := { s.config with
              imsSwitchState := Function.update s.config.imsSwitchState slotId
                (some (booleanToImsSwitchValue active))
              settings := settings }
            database := Function.update s.database slotId (booleanToImsSwitchValue active) },
          [.returned slotId .success])) := by
  unfold setImsSwitchStatus
  cases hcheck : s.checkImsSwitch K slotId active env with
  | success =>
    by_cases hqueries : env.queries = true
    · by_cases hsame : booleanToImsSwitchValue active = s.database slotId
      · exact .inr (.inl ⟨rfl, hqueries, hsame.symm, by
          simp [saveImsSwitch, ConfigState.saveImsSwitch, seen, hqueries, hsame]⟩)
      · by_cases hsaves : env.saves = true
        · exact .inr (.inr ⟨rfl, s.config.settings.saveVoNRState slotId
            (booleanToImsSwitchValue active), by
              simp [saveImsSwitch, ConfigState.saveImsSwitch, seen, hqueries, hsame, hsaves,
                ConfigState.saveImsSwitchStatusToLocal, saveToDatabase]⟩)
        · exact .inl ⟨.databaseWriteFail, by decide, by
            simp [saveImsSwitch, ConfigState.saveImsSwitch, seen, hqueries, hsame, hsaves]⟩
    · exact .inl ⟨.databaseWriteFail, by decide, by
        simp [saveImsSwitch, ConfigState.saveImsSwitch, seen, hqueries]⟩
  | invalidSlotId | volteNotSupport | volteProvisioningDisabled | slotIdInvalid
  | databaseWriteFail => exact .inl ⟨_, by decide, rfl⟩

theorem updateImsConfiguration_of_none (s : SwitchState) (slotId : Int) (env : SwitchEnv) :
    s.updateImsConfiguration K slotId none env = (s, []) := by
  unfold updateImsConfiguration
  exact ite_self _

theorem updateImsConfiguration_of_invalid (s : SwitchState) (env : SwitchEnv)
    (operatorConfig : Option OperatorConfig)
    (hvalid : ¬CellularCallConfig.isValidSlotId K.toConfigConstants slotId = true) :
    s.updateImsConfiguration K slotId operatorConfig env = (s, []) := by
  unfold updateImsConfiguration
  rw [if_pos (by simpa using hvalid)]

/-- What an update does, of a slot there is. -/
theorem updateImsConfiguration_spec (env : SwitchEnv) (poc : OperatorConfig)
    (hvalid : CellularCallConfig.isValidSlotId K.toConfigConstants slotId = true) :
    let default := booleanToImsSwitchValue (s.parsedDefault slotId poc)
    let simChanged := isSimChanged (s.lastIccid slotId) env.iccId
    let result := s.updateImsConfiguration K slotId (some poc) env
    result.1.config.operator = s.config.operator.parseAndCacheOperatorConfigs slotId poc ∧
    (result.1.lastIccid = if env.hasSimCard then
      Function.update s.lastIccid slotId (noteIccid (s.lastIccid slotId) env.iccId)
      else s.lastIccid) ∧
    (s.CanReset slotId poc env ∧ simChanged = true →
      result.1.config.imsSwitchState =
        Function.update s.config.imsSwitchState slotId (some default) ∧
      result.1.database = Function.update s.database slotId default ∧
      result.2 = [.resetImsSwitch slotId]) ∧
    (¬(s.CanReset slotId poc env ∧ simChanged = true) →
      result.1.config.imsSwitchState =
        Function.update s.config.imsSwitchState slotId
          (some (if env.queries = false ∨ s.database slotId = imsSwitchStatusUnknown then default
            else s.database slotId)) ∧
      result.1.database = s.database ∧ result.2 = []) := by
  have hdefault : (s.config.operator.parseAndCacheOperatorConfigs slotId poc).imsSwitchOnByDefault
      slotId = s.parsedDefault slotId poc :=
    (parseBoolOperatorConfigs_apply _ _ _ _ _).trans (if_pos rfl)
  have hforce : (s.config.operator.parseAndCacheOperatorConfigs slotId poc).forceVolteSwitchOn
      slotId = s.parsedForce slotId poc :=
    (parseBoolOperatorConfigs_apply _ _ _ _ _).trans (if_pos rfl)
  have hslot : ¬CellularCallConfig.isValidSlotId K.toConfigConstants slotId = false := by
    rw [hvalid]; decide
  have hlocal : (if (if env.queries then some (s.database slotId) else none).getD
        imsSwitchStatusUnknown = imsSwitchStatusUnknown then
        booleanToImsSwitchValue (s.parsedDefault slotId poc)
      else (if env.queries then some (s.database slotId) else none).getD imsSwitchStatusUnknown) =
      if env.queries = false ∨ s.database slotId = imsSwitchStatusUnknown then
        booleanToImsSwitchValue (s.parsedDefault slotId poc)
      else s.database slotId := by
    cases env.queries <;> simp
  simp only [updateImsConfiguration, if_neg hslot, resetImsSwitch,
    ConfigState.saveImsSwitchStatusToLocalForPowerOn, ConfigState.saveImsSwitchStatusToLocal, seen,
    hdefault, hforce, hlocal, CanReset, saveToDatabase]
  cases env.hasSimCard <;> cases isSimChanged (s.lastIccid slotId) env.iccId <;>
    cases s.parsedForce slotId poc <;> cases env.saves <;> simp [Function.update_idem]

/-- Nothing else changes where the switch is saved. -/
theorem saveImsSwitch_frame (s : SwitchState) (slotId value : Int) (env : SwitchEnv) {a : Int}
    (hne : a ≠ slotId) :
    let s' := (s.saveImsSwitch slotId value env).1
    s'.config.imsSwitchState a = s.config.imsSwitchState a ∧
      s'.config.operator = s.config.operator ∧ s'.database a = s.database a := by
  simp only [saveImsSwitch, ConfigState.saveImsSwitch]
  cases (s.seen slotId env).queryImsSwitch with
  | none => exact ⟨rfl, rfl, rfl⟩
  | some lastImsSwitchValue =>
    by_cases hsame : value = lastImsSwitchValue
    · simp [hsame]
    · cases hsaves : (s.seen slotId env).saves <;>
        simp [hsame, ConfigState.saveImsSwitchStatusToLocal, saveToDatabase,
          Function.update_of_ne hne]

/-- The parameter reads as the value; or it has none, and the default is the
value. -/
def LocalShows (s : SwitchState) (slotId : Int) (value : Bool) : Prop :=
  let imsSwitchStatus := (s.config.imsSwitchState slotId).getD imsSwitchStatusUnknown
  if imsSwitchStatus = imsSwitchStatusUnknown then
    s.config.operator.imsSwitchOnByDefault slotId = value
  else decide (imsSwitchStatus ≠ 0) = value

theorem LocalShows.congr {s' : SwitchState} {value : Bool} (h : s.LocalShows slotId value)
    (hlocal : s'.config.imsSwitchState slotId = s.config.imsSwitchState slotId)
    (hdefault : s'.config.operator.imsSwitchOnByDefault slotId =
      s.config.operator.imsSwitchOnByDefault slotId) : s'.LocalShows slotId value := by
  unfold LocalShows at h ⊢
  rw [hlocal, hdefault]
  exact h

theorem value_ne_unknown (value : Bool) :
    booleanToImsSwitchValue value ≠ imsSwitchStatusUnknown := by
  cases value <;> decide

theorem value_ne_zero (value : Bool) : decide (booleanToImsSwitchValue value ≠ 0) = value := by
  cases value <;> rfl

/-- A parameter with the value shows it. -/
theorem localShows_of_local {value : Bool}
    (h : s.config.imsSwitchState slotId = some (booleanToImsSwitchValue value)) :
    s.LocalShows slotId value := by
  unfold LocalShows
  rw [h, Option.getD_some]
  simp only [if_neg (value_ne_unknown value)]
  exact value_ne_zero value

/-- Where the database has the value, it is read, whether the database answers or
not, if and only if the parameter shows it. -/
theorem getImsSwitchStatus_iff {value : Bool}
    (hdatabase : s.database slotId = booleanToImsSwitchValue value)
    (hshown : s.config.operator.hideImsSwitch slotId = false) :
    (∀ queries, s.getImsSwitchStatus slotId queries = value) ↔ s.LocalShows slotId value := by
  unfold getImsSwitchStatus getSwitchStatus LocalShows
  simp only [hshown, Bool.false_eq_true, if_false, hdatabase, value_ne_unknown, or_false]
  split
  · constructor
    · intro h
      have hdefault := h false
      rw [if_pos rfl, value_ne_zero] at hdefault
      exact hdefault
    · intro hdefault queries
      split
      · rw [value_ne_zero, hdefault]
      · exact value_ne_zero value
  · exact ⟨fun h => h true, fun h _ => h⟩

end

end SwitchState

/-! ## The stores and the configuration

What the operations do to the configuration is what they do there by themselves,
with the answers the stores give. -/

namespace SwitchState

variable (K : OperatorConstants) (s : SwitchState) (slotId : Int) (env : SwitchEnv)

theorem config_setImsSwitchStatus (active : Bool) :
    (s.setImsSwitchStatus K slotId active env).1.config =
        (s.config.setImsSwitchStatus K slotId active (s.seen slotId env)).1 ∧
      (s.setImsSwitchStatus K slotId active env).2 =
        [.returned slotId (s.config.setImsSwitchStatus K slotId active (s.seen slotId env)).2] := by
  have hsimId : (s.seen slotId env).simId = env.simId := rfl
  unfold setImsSwitchStatus checkImsSwitch ConfigState.setImsSwitchStatus saveImsSwitch
  rw [hsimId]
  split_ifs
  · exact ⟨rfl, rfl⟩
  · exact ⟨rfl, rfl⟩
  · exact ⟨rfl, rfl⟩
  · exact ⟨rfl, rfl⟩
  · simp only []
    cases hsave : s.config.saveImsSwitch slotId (booleanToImsSwitchValue active)
        (s.seen slotId env) with
    | mk config result => cases result <;> exact ⟨rfl, rfl⟩

theorem config_handleFactoryReset :
    (s.handleFactoryReset K slotId env).config =
      s.config.handleFactoryReset K slotId (s.seen slotId env) := by
  have hsim : (s.seen slotId env).hasSimCard = env.hasSimCard := rfl
  unfold handleFactoryReset ConfigState.handleFactoryReset saveImsSwitch
  rw [hsim]
  split_ifs
  · rfl
  · rfl
  · cases hsave : s.config.saveImsSwitch slotId
        (booleanToImsSwitchValue (s.config.operator.imsSwitchOnByDefault slotId))
        (s.seen slotId env) with
    | mk config result => cases result <;> rfl

theorem config_resetImsSwitch :
    (s.resetImsSwitch slotId env).1.config =
      s.config.resetImsSwitch slotId (s.seen slotId env) := by
  unfold resetImsSwitch ConfigState.resetImsSwitch
  simp only [seen, saveToDatabase]
  by_cases hsim : env.hasSimCard = true
  · by_cases hchanged : (isSimChanged (s.lastIccid slotId) env.iccId &&
        s.config.operator.forceVolteSwitchOn slotId) = true
    · by_cases hsaves : env.saves = true <;> simp [hsim, hchanged, hsaves]
    · simp [hsim, hchanged]
  · simp [hsim]

theorem config_updateImsConfiguration (operatorConfig : Option OperatorConfig) :
    (s.updateImsConfiguration K slotId operatorConfig env).1.config =
      s.config.updateImsConfiguration K slotId operatorConfig (s.seen slotId env) := by
  unfold updateImsConfiguration ConfigState.updateImsConfiguration
  split
  · rfl
  · cases operatorConfig with
    | none => rfl
    | some poc => exact config_resetImsSwitch _ slotId env

end SwitchState

/-! ## Reading what was set -/

/-- Remembers the value of each slot that the last set in sight of the user left,
until the next factory reset or change of the SIM. -/
def setMonitor : Monitor SwitchState SwitchEvent SwitchOutput (Int → Option Bool) where
  init := fun _ => none
  allowed _ _ _ := True
  update pending s e _ out :=
    match e with
    | .setImsSwitchStatus slotId active _ =>
      if .returned slotId .success ∈ out then
        Function.update pending slotId
          (if s.config.operator.hideImsSwitch slotId then none else some active)
      else pending
    | .handleFactoryReset slotId _ => Function.update pending slotId none
    | .changeSim slotId _ => Function.update pending slotId none
    | .updateImsConfiguration _ _ _ | .restart => pending

/-- The steps after which a value that was set is still read.

* A set that finds its value in the database finds it in the parameter too.
* At an update the database answers, and the switch is not reset; or the operator's
  default is the value.
* At a restart the parameter has a value, or the switch was set to off. -/
def KeepsSwitch (K : OperatorConstants) : StepCond SwitchState SwitchEvent (Int → Option Bool) :=
  fun pending s e =>
    match e with
    | .setImsSwitchStatus slotId active env =>
      s.checkImsSwitch K slotId active env = .success →
        s.config.operator.hideImsSwitch slotId = false → env.queries = true →
          s.database slotId = booleanToImsSwitchValue active → s.LocalShows slotId active
    | .updateImsConfiguration slotId (some poc) env =>
      ∀ value, pending slotId = some value →
        (env.queries = true ∧
            ¬(s.CanReset slotId poc env ∧
              isSimChanged (s.lastIccid slotId) env.iccId = true)) ∨
          s.parsedDefault slotId poc = value
    | .restart =>
      ∀ slotId value, pending slotId = some value →
        (s.config.imsSwitchState slotId).getD imsSwitchStatusUnknown ≠ imsSwitchStatusUnknown ∨
          value = false
    | _ => True

/-- A value that was set is in the database, and the parameter shows it. -/
def SwitchKept (s : SwitchState) (pending : Int → Option Bool) : Prop :=
  ∀ slotId value, pending slotId = some value →
    s.database slotId = booleanToImsSwitchValue value ∧ s.LocalShows slotId value

section
variable {K : OperatorConstants} {db : EccDatabase} {vonrState imsSwitchState : Int → Option Int}
  {database : Int → Int} {s s' : SwitchState} {pending : Int → Option Bool}

/-- What happens to one slot leaves the others as they are. -/
theorem SwitchKept.of_slot {pending' : Int → Option Bool} (h : SwitchKept s pending) (slotId : Int)
    (hothers : ∀ a, a ≠ slotId → pending' a = pending a ∧ s'.database a = s.database a ∧
      s'.config.imsSwitchState a = s.config.imsSwitchState a ∧
      s'.config.operator.imsSwitchOnByDefault a = s.config.operator.imsSwitchOnByDefault a)
    (hslot : ∀ value, pending' slotId = some value →
      s'.database slotId = booleanToImsSwitchValue value ∧ s'.LocalShows slotId value) :
    SwitchKept s' pending' := by
  intro a value ha
  by_cases heq : a = slotId
  · rw [heq] at ha ⊢
    exact hslot value ha
  · obtain ⟨hpending, hdatabase, hlocal, hdefault⟩ := hothers a heq
    rw [hpending] at ha
    obtain ⟨hvalue, hshows⟩ := h a value ha
    exact ⟨hdatabase.trans hvalue, hshows.congr hlocal hdefault⟩

/-- Where nothing is remembered of a slot any more, only the others count. -/
theorem SwitchKept.of_cleared {slotId : Int} (h : SwitchKept s pending)
    (hothers : ∀ a, a ≠ slotId → s'.database a = s.database a ∧
      s'.config.imsSwitchState a = s.config.imsSwitchState a ∧
      s'.config.operator = s.config.operator) :
    SwitchKept s' (Function.update pending slotId none) := by
  refine h.of_slot slotId (fun a ha => ?_) fun value hvalue => ?_
  · obtain ⟨hdatabase, hlocal, hoperator⟩ := hothers a ha
    exact ⟨Function.update_of_ne ha _ _, hdatabase, hlocal, by rw [hoperator]⟩
  · rw [Function.update_self] at hvalue
    cases hvalue

/-- What is remembered at a set that succeeds. -/
theorem setMonitor_success {slotId : Int} {active : Bool} {env : SwitchEnv} :
    setMonitor.update pending s (.setImsSwitchStatus slotId active env) s'
        [.returned slotId .success] =
      Function.update pending slotId
        (if s.config.operator.hideImsSwitch slotId then none else some active) :=
  if_pos List.mem_cons_self

theorem SwitchKept.set {slotId : Int} {active : Bool} {env : SwitchEnv} (h : SwitchKept s pending)
    (hcond : KeepsSwitch K pending s (.setImsSwitchStatus slotId active env)) :
    SwitchKept (s.setImsSwitchStatus K slotId active env).1
      (setMonitor.update pending s (.setImsSwitchStatus slotId active env)
        (s.setImsSwitchStatus K slotId active env).1
        (s.setImsSwitchStatus K slotId active env).2) := by
  rcases s.setImsSwitchStatus_cases K slotId active env with hcase | hcase | hcase
  · -- refused
    obtain ⟨ret, hret, hset⟩ := hcase
    have hnot : SwitchOutput.returned slotId .success ∉ [SwitchOutput.returned slotId ret] := by
      intro hmem
      rw [List.mem_singleton, SwitchOutput.returned.injEq] at hmem
      exact hret hmem.2.symm
    rw [hset]
    simp only [setMonitor, if_neg hnot]
    exact h
  · -- the database has the value
    obtain ⟨hcheck, hqueries, hdatabase, hset⟩ := hcase
    rw [hset, setMonitor_success]
    refine h.of_slot slotId (fun a ha => ⟨Function.update_of_ne ha _ _, rfl, rfl, rfl⟩) ?_
    intro value hvalue
    rw [Function.update_self] at hvalue
    cases hhidden : s.config.operator.hideImsSwitch slotId with
    | true => rw [hhidden] at hvalue; cases hvalue
    | false =>
      rw [hhidden] at hvalue
      obtain rfl := Option.some.inj hvalue
      exact ⟨hdatabase, hcond hcheck hhidden hqueries hdatabase⟩
  · -- the value is saved to both
    obtain ⟨-, settings, hset⟩ := hcase
    rw [hset, setMonitor_success]
    refine h.of_slot slotId (fun a ha => ⟨Function.update_of_ne ha _ _,
      Function.update_of_ne ha _ _, Function.update_of_ne ha _ _, rfl⟩) ?_
    intro value hvalue
    have hactive : active = value := by
      rw [Function.update_self] at hvalue
      split at hvalue
      · cases hvalue
      · exact Option.some.inj hvalue
    subst hactive
    exact ⟨Function.update_self _ _ _,
      SwitchState.localShows_of_local (Function.update_self _ _ _)⟩

/-- An update copies the value from the database, or takes the default. -/
theorem SwitchKept.updateImsConfiguration {slotId : Int} {operatorConfig : Option OperatorConfig}
    {env : SwitchEnv} (h : SwitchKept s pending)
    (hcond : KeepsSwitch K pending s (.updateImsConfiguration slotId operatorConfig env)) :
    SwitchKept (s.updateImsConfiguration K slotId operatorConfig env).1 pending := by
  by_cases hvalid : CellularCallConfig.isValidSlotId K.toConfigConstants slotId = true
  · cases operatorConfig with
    | none =>
      rw [SwitchState.updateImsConfiguration_of_none]
      exact h
    | some poc =>
      obtain ⟨hoperator, -, hreset, hcopied⟩ :=
        SwitchState.updateImsConfiguration_spec (s := s) env poc hvalid
      have hdefault : ∀ a, a ≠ slotId →
          (s.updateImsConfiguration K slotId (some poc) env).1.config.operator.imsSwitchOnByDefault
            a = s.config.operator.imsSwitchOnByDefault a := by
        intro a ha
        rw [hoperator]
        exact (parseBoolOperatorConfigs_apply _ _ _ _ _).trans (if_neg ha)
      by_cases hresets : s.CanReset slotId poc env ∧
          isSimChanged (s.lastIccid slotId) env.iccId = true
      · obtain ⟨hlocal, hdatabase, -⟩ := hreset hresets
        refine h.of_slot slotId (fun a ha => ⟨rfl, ?_, ?_, hdefault a ha⟩) ?_
        · rw [hdatabase, Function.update_of_ne ha]
        · rw [hlocal, Function.update_of_ne ha]
        · intro value hvalue
          have hsame : s.parsedDefault slotId poc = value :=
            (hcond value hvalue).elim (fun hno => absurd hresets hno.2) id
          rw [hdatabase, Function.update_self, hsame]
          refine ⟨rfl, SwitchState.localShows_of_local ?_⟩
          rw [hlocal, Function.update_self, hsame]
      · obtain ⟨hlocal, hdatabase, -⟩ := hcopied hresets
        refine h.of_slot slotId (fun a ha => ⟨rfl, ?_, ?_, hdefault a ha⟩) ?_
        · rw [hdatabase]
        · rw [hlocal, Function.update_of_ne ha]
        · intro value hvalue
          have hstored := (h slotId value hvalue).1
          rw [hdatabase]
          refine ⟨hstored, SwitchState.localShows_of_local ?_⟩
          rw [hlocal, Function.update_self, hstored]
          congr 1
          rcases hcond value hvalue with ⟨hqueries, -⟩ | hsame
          · rw [if_neg]
            rw [hqueries]
            simp [SwitchState.value_ne_unknown]
          · rw [hsame, ite_self]
  · rw [SwitchState.updateImsConfiguration_of_invalid s env operatorConfig hvalid]
    exact h

/-- A step after which the value is still read keeps it. -/
theorem SwitchKept.step {e : SwitchEvent} (h : SwitchKept s pending)
    (hcond : KeepsSwitch K pending s e) :
    SwitchKept ((switchMachine K db vonrState imsSwitchState database).step s e).1
      (setMonitor.next (switchMachine K db vonrState imsSwitchState database) pending s e) := by
  cases e with
  | setImsSwitchStatus slotId active env => exact h.set hcond
  | updateImsConfiguration slotId operatorConfig env => exact h.updateImsConfiguration hcond
  | handleFactoryReset slotId env =>
    refine h.of_cleared fun a ha => ?_
    show _ = _ ∧ _ = _ ∧ _ = _
    simp only [switchMachine, SwitchState.handleFactoryReset]
    split
    · exact ⟨rfl, rfl, rfl⟩
    · split
      · exact ⟨rfl, rfl, rfl⟩
      · obtain ⟨hlocal, hoperator, hdatabase⟩ := s.saveImsSwitch_frame slotId
          (booleanToImsSwitchValue (s.config.operator.imsSwitchOnByDefault slotId)) env ha
        exact ⟨hdatabase, hlocal, hoperator⟩
  | changeSim slotId value =>
    exact h.of_cleared fun a ha => ⟨Function.update_of_ne ha _ _, rfl, rfl⟩
  | restart =>
    intro slotId value hvalue
    obtain ⟨hdatabase, hshows⟩ := h slotId value hvalue
    refine ⟨hdatabase, ?_⟩
    show if (s.config.imsSwitchState slotId).getD imsSwitchStatusUnknown = imsSwitchStatusUnknown
      then false = value else _ = value
    unfold SwitchState.LocalShows at hshows
    split
    · rename_i hunknown
      exact ((hcond slotId value hvalue).resolve_left (not_not_intro hunknown)).symm
    · rename_i hknown
      simp only [if_neg hknown] at hshows
      exact hshows

end

/-- In a run of such steps a value that was set is read, whether the database
answers or not, until the next set, factory reset or change of the SIM; unless the
operator hides the switch. -/
theorem getImsSwitchStatus_of_run (K : OperatorConstants) (db : EccDatabase)
    (vonrState imsSwitchState : Int → Option Int) (database : Int → Int) {s : SwitchState}
    {pending : Int → Option Bool}
    (hrun : Run (switchMachine K db vonrState imsSwitchState database) setMonitor (KeepsSwitch K)
      s pending) (slotId : Int) (value : Bool) (hset : pending slotId = some value)
    (hshown : s.config.operator.hideImsSwitch slotId = false) (queries : Bool) :
    s.getImsSwitchStatus slotId queries = value := by
  have hkept : SwitchKept s pending := by
    refine hrun.invariant (I := SwitchKept) ?_ ?_
    · intro a value hvalue
      cases hvalue
    · intro s h e hkept _ hcond
      exact hkept.step hcond
  obtain ⟨hdatabase, hshows⟩ := hkept slotId value hset
  exact (SwitchState.getImsSwitchStatus_iff hdatabase hshown).mpr hshows queries

/-! ### Runs -/

/-- The core service answers, and saves. -/
def SwitchEnv.plain : SwitchEnv := ⟨true, 1, true, ['8', '9', '8', '6'], true, true⟩

/-- An operator's configuration of one switch. -/
def OperatorConfig.ofSwitch (configName : OperatorKey) (value : Bool) : OperatorConfig where
  boolValue key := if key = configName then some value else none
  nrModeSupportedList := none
  callWaitingServiceClass := none
  imsCallDisconnectReasoninfoMapping := none

/-- The switch of a device on which nothing is stored. -/
def freshSwitch : Machine SwitchState SwitchEvent SwitchOutput :=
  switchMachine .twoSlots twoFakes (fun _ => none) (fun _ => none) (fun _ => imsSwitchStatusUnknown)

/-- The switch is set to on, and the operator's configuration is read again. -/
def setAndUpdate : List SwitchEvent :=
  [.setImsSwitchStatus 0 true .plain,
    .updateImsConfiguration 0 (some (.ofSwitch .volteSupported true)) .plain]

theorem getImsSwitchStatus_of_run_after_update :
    (exec freshSwitch setMonitor freshSwitch.init setMonitor.init setAndUpdate).1.getImsSwitchStatus
      0 false = true := by
  have hadmits : Admits freshSwitch setMonitor (KeepsSwitch .twoSlots) freshSwitch.init
      setMonitor.init setAndUpdate := by
    refine ⟨trivial, ?_, trivial, ?_, trivial⟩
    · intro _ _ _ hdatabase
      exact absurd hdatabase (by decide)
    · intro value _
      exact .inl ⟨rfl, fun hreset => absurd hreset.1.2.1 (by decide)⟩
  exact getImsSwitchStatus_of_run .twoSlots twoFakes (fun _ => none) (fun _ => none)
    (fun _ => imsSwitchStatusUnknown) (Run.of_admits setAndUpdate hadmits) 0 true (by decide)
    (by decide) false

/-- By default on, and reset: the database has on.  When the configuration is read
again with another default, the database does not answer, and the parameter has
off.  Then the switch is set to on. -/
def setAgain : List SwitchEvent :=
  [.updateImsConfiguration 0 (some (.ofSwitch .imsSwitchOnByDefault true)) .plain,
    .handleFactoryReset 0 .plain,
    .updateImsConfiguration 0 (some (.ofSwitch .imsSwitchOnByDefault false))
      { SwitchEnv.plain with queries := false },
    .setImsSwitchStatus 0 true .plain]

/-- The set succeeds, and the switch is read as off. -/
theorem not_getImsSwitchStatus_of_set :
    ¬∀ (K : OperatorConstants) (db : EccDatabase) (vonrState imsSwitchState : Int → Option Int)
      (database : Int → Int) (s : SwitchState) (pending : Int → Option Bool),
      Run (switchMachine K db vonrState imsSwitchState database) setMonitor unconditional s
        pending →
      ∀ slotId value, pending slotId = some value →
        s.config.operator.hideImsSwitch slotId = false →
        ∀ queries, s.getImsSwitchStatus slotId queries = value := by
  intro hall
  have hrun : Run freshSwitch setMonitor unconditional _ _ := Run.of_admits setAgain
    ⟨trivial, trivial, trivial, trivial, trivial, trivial, trivial, trivial, trivial⟩
  have hread := hall .twoSlots twoFakes (fun _ => none) (fun _ => none)
    (fun _ => imsSwitchStatusUnknown) _ _ hrun 0 true (by decide) (by decide) true
  exact absurd hread (by decide)

/-! ## Another SIM -/

/-- The ICCID is read back as it was stored: it fits into the buffer with its
terminator. -/
def FitsBuffer (iccid : Str) : Prop :=
  iccid.length + 1 ≤ systemParameterLength ∧ '\x00' ∉ iccid

/-- Remembers the ICCID of each slot's last run of `UpdateImsConfiguration` that
had one. -/
def iccidMonitor (K : OperatorConstants) :
    Monitor SwitchState SwitchEvent SwitchOutput (Int → Option Str) where
  init := fun _ => none
  allowed _ _ _ := True
  update last _ e _ _ :=
    match e with
    | .updateImsConfiguration slotId (some _) env =>
      if CellularCallConfig.isValidSlotId K.toConfigConstants slotId = true ∧
          env.hasSimCard = true then
        Function.update last slotId (some env.iccId)
      else last
    | _ => last

/-- The parameter has no NUL, and an ICCID that fits is read from it. -/
def IccidKept (s : SwitchState) (last : Int → Option Str) : Prop :=
  ∀ slotId, '\x00' ∉ s.lastIccid slotId ∧
    ∀ iccid, last slotId = some iccid → FitsBuffer iccid →
      getParameter (s.lastIccid slotId) systemParameterLength = iccid

/-- What is read from the parameter fits. -/
theorem fitsBuffer_getParameter {value : Str} (hnul : '\x00' ∉ value) :
    FitsBuffer (getParameter value systemParameterLength) := by
  unfold getParameter
  split
  · rename_i hfits
    exact ⟨hfits, hnul⟩
  · exact ⟨by decide, List.not_mem_nil⟩

theorem getParameter_of_fits {iccid : Str} (h : FitsBuffer iccid) :
    getParameter (cStr iccid) systemParameterLength = iccid := by
  rw [cStr_eq_self h.2, getParameter, if_pos h.1]

theorem isSimChanged_eq_false_iff {lastIccid iccid : Str} :
    isSimChanged lastIccid iccid = false ↔
      getParameter lastIccid systemParameterLength = iccid := by
  rw [isSimChanged, bne_eq_false_iff_eq, eq_comm]

section
variable {K : OperatorConstants} {db : EccDatabase} {vonrState imsSwitchState : Int → Option Int}
  {database : Int → Int} {s : SwitchState} {last : Int → Option Str}

/-- What `IsSimChanged` leaves has no NUL, and an ICCID that fits is read from it. -/
theorem noteIccid_kept {lastIccid : Str} (hnul : '\x00' ∉ lastIccid) (iccid : Str) :
    '\x00' ∉ noteIccid lastIccid iccid ∧
      (FitsBuffer iccid →
        getParameter (noteIccid lastIccid iccid) systemParameterLength = iccid) := by
  unfold noteIccid
  cases hchanged : isSimChanged lastIccid iccid with
  | true => exact ⟨nul_not_mem_cStr iccid, getParameter_of_fits⟩
  | false => exact ⟨hnul, fun _ => isSimChanged_eq_false_iff.mp hchanged⟩

/-- The second of two equal ICCIDs in a row is that of a changed SIM unless it
fits. -/
theorem isSimChanged_noteIccid {lastIccid : Str} (hnul : '\x00' ∉ lastIccid) (iccid : Str) :
    isSimChanged (noteIccid lastIccid iccid) iccid = false ↔ FitsBuffer iccid := by
  obtain ⟨hnoted, hfits⟩ := noteIccid_kept hnul iccid
  rw [isSimChanged_eq_false_iff]
  constructor
  · intro hread
    rw [← hread]
    exact fitsBuffer_getParameter hnoted
  · exact hfits

theorem IccidKept.isSimChanged_iff (h : IccidKept s last) {slotId : Int} {iccid : Str}
    (hlast : last slotId = some iccid) :
    isSimChanged (s.lastIccid slotId) iccid = false ↔ FitsBuffer iccid := by
  obtain ⟨hnul, hread⟩ := h slotId
  rw [isSimChanged_eq_false_iff]
  constructor
  · intro heq
    rw [← heq]
    exact fitsBuffer_getParameter hnul
  · exact hread iccid hlast

/-- An event that leaves the parameters alone. -/
theorem IccidKept.of_same {s' : SwitchState} (h : IccidKept s last)
    (hsame : s'.lastIccid = s.lastIccid) : IccidKept s' last := by
  intro slotId
  rw [hsame]
  exact h slotId

theorem lastIccid_saveImsSwitch (slotId value : Int) (env : SwitchEnv) :
    (s.saveImsSwitch slotId value env).1.lastIccid = s.lastIccid := by
  unfold SwitchState.saveImsSwitch
  split <;> rfl

theorem IccidKept.updateImsConfiguration (h : IccidKept s last) (slotId : Int)
    (operatorConfig : Option OperatorConfig) (env : SwitchEnv) :
    IccidKept (s.updateImsConfiguration K slotId operatorConfig env).1
      ((iccidMonitor K).next (switchMachine K db vonrState imsSwitchState database) last s
        (.updateImsConfiguration slotId operatorConfig env)) := by
  cases operatorConfig with
  | none => exact h.of_same (by rw [SwitchState.updateImsConfiguration_of_none])
  | some poc =>
    by_cases hvalid : CellularCallConfig.isValidSlotId K.toConfigConstants slotId = true
    · obtain ⟨-, hlastIccid, -⟩ :=
        SwitchState.updateImsConfiguration_spec (s := s) env poc hvalid
      by_cases hsim : env.hasSimCard = true
      · intro a
        simp only [Monitor.next, iccidMonitor, hvalid, hsim, and_self, if_true]
        rw [hlastIccid, if_pos hsim]
        by_cases ha : a = slotId
        · subst ha
          rw [Function.update_self, Function.update_self]
          obtain ⟨hnul, hfits⟩ := noteIccid_kept (h a).1 env.iccId
          exact ⟨hnul, fun iccid heq => Option.some.inj heq ▸ hfits⟩
        · rw [Function.update_of_ne ha, Function.update_of_ne ha]
          exact h a
      · simp only [Monitor.next, iccidMonitor, hvalid, hsim]
        exact h.of_same (by rw [hlastIccid, if_neg hsim])
    · simp only [Monitor.next, iccidMonitor, hvalid]
      exact h.of_same (by rw [SwitchState.updateImsConfiguration_of_invalid s env _ hvalid])

theorem IccidKept.step (h : IccidKept s last) (e : SwitchEvent) :
    IccidKept ((switchMachine K db vonrState imsSwitchState database).step s e).1
      ((iccidMonitor K).next (switchMachine K db vonrState imsSwitchState database) last s e) := by
  cases e with
  | setImsSwitchStatus slotId active env =>
    refine h.of_same ?_
    rcases s.setImsSwitchStatus_cases K slotId active env with hcase | hcase | hcase
    · obtain ⟨_, -, hset⟩ := hcase
      exact congrArg (fun result => result.1.lastIccid) hset
    · exact congrArg (fun result => result.1.lastIccid) hcase.2.2.2
    · obtain ⟨-, _, hset⟩ := hcase
      exact congrArg (fun result => result.1.lastIccid) hset
  | updateImsConfiguration slotId operatorConfig env =>
    exact h.updateImsConfiguration slotId operatorConfig env
  | handleFactoryReset slotId env =>
    refine h.of_same ?_
    simp only [switchMachine, SwitchState.handleFactoryReset]
    split
    · rfl
    · split
      · rfl
      · exact lastIccid_saveImsSwitch slotId _ env
  | changeSim slotId value => exact h.of_same rfl
  | restart => exact h.of_same rfl

/-- A reset needs a slot, a configuration that can reset, and a changed SIM. -/
theorem mem_updateImsConfiguration_iff {slotId : Int} {operatorConfig : Option OperatorConfig}
    {env : SwitchEnv} :
    .resetImsSwitch slotId ∈ (s.updateImsConfiguration K slotId operatorConfig env).2 ↔
      (CellularCallConfig.isValidSlotId K.toConfigConstants slotId = true ∧
        ∃ poc, operatorConfig = some poc ∧ s.CanReset slotId poc env) ∧
          isSimChanged (s.lastIccid slotId) env.iccId = true := by
  by_cases hvalid : CellularCallConfig.isValidSlotId K.toConfigConstants slotId = true
  · cases operatorConfig with
    | none => simp [SwitchState.updateImsConfiguration_of_none]
    | some poc =>
      obtain ⟨-, -, hreset, hcopied⟩ :=
        SwitchState.updateImsConfiguration_spec (s := s) env poc hvalid
      by_cases hresets : s.CanReset slotId poc env ∧
          isSimChanged (s.lastIccid slotId) env.iccId = true
      · rw [(hreset hresets).2.2]
        simp [hvalid, hresets]
      · rw [(hcopied hresets).2.2]
        simpa [hvalid] using hresets
  · simp [SwitchState.updateImsConfiguration_of_invalid s env operatorConfig hvalid, hvalid]

end

/-- In every run: a run of `UpdateImsConfiguration` resets the switch only for
another SIM than the one before if and only if it has another one, or its ICCID
fits into the buffer, or it cannot reset.  An ICCID is that of the same SIM right
after itself if and only if it fits. -/
theorem resets_iff_of_run (K : OperatorConstants) (db : EccDatabase)
    (vonrState imsSwitchState : Int → Option Int) (database : Int → Int) {s : SwitchState}
    {last : Int → Option Str}
    (hrun : Run (switchMachine K db vonrState imsSwitchState database) (iccidMonitor K)
      unconditional s last) (slotId : Int) (operatorConfig : Option OperatorConfig)
    (env : SwitchEnv) (iccid : Str) :
    ((.resetImsSwitch slotId ∈ (s.updateImsConfiguration K slotId operatorConfig env).2 →
        last slotId ≠ some env.iccId) ↔
      last slotId ≠ some env.iccId ∨ FitsBuffer env.iccId ∨
        ¬(CellularCallConfig.isValidSlotId K.toConfigConstants slotId = true ∧
          ∃ poc, operatorConfig = some poc ∧ s.CanReset slotId poc env)) ∧
    (isSimChanged (noteIccid (s.lastIccid slotId) iccid) iccid = false ↔ FitsBuffer iccid) := by
  have hkept : IccidKept s last := by
    refine hrun.invariant (I := IccidKept) ?_ ?_
    · intro a
      exact ⟨List.not_mem_nil, fun iccid hlast => by cases hlast⟩
    · intro s h e hkept _ _
      exact hkept.step e
  refine ⟨?_, isSimChanged_noteIccid (hkept slotId).1 iccid⟩
  rw [mem_updateImsConfiguration_iff]
  by_cases hlast : last slotId = some env.iccId
  · rw [← hkept.isSimChanged_iff hlast]
    cases isSimChanged (s.lastIccid slotId) env.iccId <;> simp [hlast]
  · simp [hlast]

/-- The operator forces the switch. -/
def forceSwitch : Option OperatorConfig := some (.ofSwitch .forceVolteSwitchOn true)

/-- An update with an ICCID of four characters. -/
def updateOnce : List SwitchEvent := [.updateImsConfiguration 0 forceSwitch .plain]

theorem run_updateOnce : Run freshSwitch (iccidMonitor .twoSlots) unconditional
    (exec freshSwitch (iccidMonitor .twoSlots) freshSwitch.init (iccidMonitor .twoSlots).init
      updateOnce).1
    (exec freshSwitch (iccidMonitor .twoSlots) freshSwitch.init (iccidMonitor .twoSlots).init
      updateOnce).2 :=
  Run.of_admits updateOnce ⟨trivial, trivial, trivial⟩

/-- With another SIM the next update may reset the switch. -/
theorem resets_iff_of_run_for_other_sim :
    let s := (exec freshSwitch (iccidMonitor .twoSlots) freshSwitch.init
      (iccidMonitor .twoSlots).init updateOnce).1
    .resetImsSwitch 0 ∈ (s.updateImsConfiguration .twoSlots 0 forceSwitch
      { SwitchEnv.plain with iccId := ['8', '9', '0', '1'] }).2 →
    some ['8', '9', '8', '6'] ≠ some ['8', '9', '0', '1'] :=
  (resets_iff_of_run .twoSlots twoFakes (fun _ => none) (fun _ => none)
    (fun _ => imsSwitchStatusUnknown) run_updateOnce 0 forceSwitch
    { SwitchEnv.plain with iccId := ['8', '9', '0', '1'] } []).1.mpr (.inl (by decide))

/-- The second update of two with the same ICCID resets the switch. -/
theorem not_resets_only_for_other_sim :
    ¬∀ (K : OperatorConstants) (db : EccDatabase) (vonrState imsSwitchState : Int → Option Int)
      (database : Int → Int) (s : SwitchState) (last : Int → Option Str),
      Run (switchMachine K db vonrState imsSwitchState database) (iccidMonitor K) unconditional
        s last →
      ∀ slotId operatorConfig env,
        .resetImsSwitch slotId ∈ (s.updateImsConfiguration K slotId operatorConfig env).2 →
          last slotId ≠ some env.iccId := by
  intro hall
  exact hall .twoSlots twoFakes (fun _ => none) (fun _ => none) (fun _ => imsSwitchStatusUnknown)
    _ _ run_updateOnce 0 forceSwitch .plain (by decide) (by decide)

end CellularCall
