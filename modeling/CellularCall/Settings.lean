import CellularCall.Service
import Mathlib.Data.List.Basic
import Mathlib.Logic.Function.Basic

/-!
# Settings the modem has to accept

Two settings take effect only once the modem has accepted them: the domain
preference mode and the VoNR switch.  A setter leaves the value it asks for in a
scratch variable of the slot, `modeTempMap_` or `vonrSwithStatus_`, and the
success response copies the scratch variable to where the setting is stored,
`modeMap_` or the system parameter.

A setter runs in two halves between which other threads and responses may come:
`SetDomainPreferenceMode` writes the scratch variable and then sends, and
`SetVoNRSwitchStatus` sends and then writes.  The monitor `settingRequests`
remembers the requests the modem has not answered and those whose value reached
the scratch variable; the modem answers the requests of a slot in their order.

`acknowledges_iff_of_run` says when what is stored is what was acknowledged.
-/

namespace CellularCall

open Lib

/-! ## The configuration -/

/-- What the headers outside this repository fix: the number of slots, the ends
of `DomainPreferenceMode` and its default, and the code of standalone NR. -/
structure ConfigConstants where
  simSlotCount : Int
  csVoiceOnly : Int
  imsPsVoicePreferred : Int
  imsPsVoiceOnly : Int
  carrierNrAvailabilitySa : Int
deriving DecidableEq, Repr

/-- `SimState`, as far as a setter looks at it. -/
inductive SimState where
  | loaded
  | ready
  | other
deriving DecidableEq, Repr

/-- What the setters return. -/
inductive ConfigRet where
  | success
  | invalidSlotId
  | parameterOutOfRange
  | resourceUnavailable
  | ipcConnectStubFail
  | errFail
  | errNoSimCard
deriving DecidableEq, Repr

/-- What a setter or a response sends. -/
inductive ConfigOutput where
  | setCallPreferenceMode (slotId mode : Int)
  | imsSetDomainPreferenceMode (slotId mode : Int)
  | setVoNRSwitch (slotId state : Int)
  | updateImsCapabilities (slotId : Int)
  | reportEventResultInfo (succeeded : Bool)
  | returned (ret : ConfigRet)
deriving DecidableEq, Repr

/-- `VONR_SWITCH_STATUS_UNKNOWN`. -/
def vonrSwitchStatusUnknown : Int := -1

/-- The members of `CellularCallConfig` behind the two settings.  Its maps are
read with `[]`, which gives 0 for a slot without an entry.  `vonrState` is the
system parameter `VONR_STATE` of each slot. -/
structure CellularCallConfig where
  modeTempMap : Int → Int
  modeMap : Int → Int
  vonrSwithStatus : Int → Int
  vonrState : Int → Option Int

/-- Where `SetDomainPreferenceModeRequest` goes: to the IMS service, which is
reached or not, or to the modem of a slot with a handler or without. -/
inductive ModeRoute where
  | ims (connected : Bool)
  | modem (handler : Bool)
deriving DecidableEq, Repr

/-- What `SetVoNRSwitchStatus` looks at: the carrier's configuration, the SIM,
and whether the slot has a handler. -/
structure VoNREnv where
  nrModeSupportedList : List Int
  imsGbaRequired : Bool
  simIst : Str
  simState : SimState
  handler : Bool
deriving DecidableEq, Repr

namespace CellularCallConfig

variable (K : ConfigConstants)

/-- `CellularCallConfig::IsValidSlotId`. -/
def isValidSlotId (slotId : Int) : Bool := decide (0 ≤ slotId ∧ slotId < K.simSlotCount)

/-- The configuration after `InitDefaultOperatorConfig`, with the parameters
`persisted` from before. -/
def init (persisted : Int → Option Int) : CellularCallConfig where
  modeTempMap := fun _ => 0
  modeMap := fun _ => 0
  vonrSwithStatus := fun slotId => if isValidSlotId K slotId then vonrSwitchStatusUnknown else 0
  vonrState := persisted

/-- `IsGbaValid`: the GBA bit of the second byte of EF IST, when the carrier
requires it and the SIM has it. -/
def isGbaValid (env : VoNREnv) : Bool :=
  if env.imsGbaRequired then
    match env.simIst with
    | _ :: byte :: _ => decide (byte.toNat &&& 2 ≠ 0)
    | _ => true
  else true

/-- `IsVonrSupported`. -/
def isVonrSupported (env : VoNREnv) (gbaValid : Bool) : Bool :=
  if K.carrierNrAvailabilitySa ∈ env.nrModeSupportedList then gbaValid else false

/-- `SetDomainPreferenceMode` of the service and of the configuration, up to
the request. -/
def setDomainPreferenceMode (c : CellularCallConfig) (slotId mode : Int) :
    CellularCallConfig × List ConfigOutput :=
  if CellularCall.isValidSlotId K.simSlotCount slotId = false then (c, [.returned .invalidSlotId])
  else if mode < K.csVoiceOnly ∨ mode > K.imsPsVoiceOnly then (c, [.returned .parameterOutOfRange])
  else ({ c with modeTempMap := Function.update c.modeTempMap slotId mode }, [])

/-- `SetDomainPreferenceModeRequest`. -/
def setDomainPreferenceModeRequest (slotId mode : Int) : ModeRoute → List ConfigOutput
  | .ims true => [.imsSetDomainPreferenceMode slotId mode, .returned .success]
  | .ims false => [.returned .ipcConnectStubFail]
  | .modem true => [.setCallPreferenceMode slotId mode, .returned .success]
  | .modem false => [.returned .resourceUnavailable]

/-- `SetVoNRState` of the service and `SetVoNRSwitchStatus`, up to the write of
the scratch variable.  The result of `SetVoNRSwitchStatusRequest` is not looked
at, so the setter goes on even if nothing was sent. -/
def setVoNRSwitchStatus (slotId state : Int) (env : VoNREnv) : List ConfigOutput :=
  if CellularCall.isValidSlotId K.simSlotCount slotId = false then [.returned .invalidSlotId]
  else if isVonrSupported K env (isGbaValid env) = false then [.returned .errFail]
  else if env.simState = .loaded ∨ env.simState = .ready then
    if env.handler then [.setVoNRSwitch slotId state] else []
  else [.returned .errNoSimCard]

/-- The rest of `SetVoNRSwitchStatus`. -/
def noteVoNRSwitchStatus (c : CellularCallConfig) (slotId state : Int) :
    CellularCallConfig × List ConfigOutput :=
  ({ c with vonrSwithStatus := Function.update c.vonrSwithStatus slotId state },
    [.returned .success])

/-- `SaveVoNRState`. -/
def saveVoNRState (c : CellularCallConfig) (slotId state : Int) : CellularCallConfig :=
  { c with vonrState := Function.update c.vonrState slotId (some state) }

/-- `SetTempMode`. -/
def setTempMode (c : CellularCallConfig) (slotId : Int) : CellularCallConfig :=
  if isValidSlotId K slotId = false then c
  else { c with modeMap := Function.update c.modeMap slotId (c.modeTempMap slotId) }

/-- `SetDomainPreferenceModeResponse`; `none` is `ErrType::NONE`. -/
def setDomainPreferenceModeResponse (c : CellularCallConfig) (slotId : Int) :
    Option Int → CellularCallConfig × List ConfigOutput
  | some _ => (c, [.reportEventResultInfo false])
  | none => (c.setTempMode K slotId, [.reportEventResultInfo true])

/-- `SetVoNRSwitchStatusResponse` and `HandleSetVoNRSwitchResult`. -/
def handleSetVoNRSwitchResult (c : CellularCallConfig) (slotId : Int) :
    Option Int → CellularCallConfig × List ConfigOutput
  | some _ => (c, [])
  | none =>
    (c.saveVoNRState slotId (c.vonrSwithStatus slotId), [.updateImsCapabilities slotId])

/-- `GetDomainPreferenceModeResponse`. -/
def getDomainPreferenceModeResponse (c : CellularCallConfig) (slotId mode : Int) :
    CellularCallConfig :=
  if isValidSlotId K slotId = false then c
  else { c with modeMap := Function.update c.modeMap slotId mode }

/-- `InitModeActive`. -/
def initModeActive (c : CellularCallConfig) : CellularCallConfig :=
  { c with modeMap := Function.update c.modeMap 0 K.imsPsVoicePreferred }

end CellularCallConfig

/-- What happens to the settings.  `thread` tells the setters that run at the
same time apart; `saveImsSwitch` is a change of the IMS switch, which is saved as
the VoNR switch too. -/
inductive ConfigEvent where
  | setDomainPreferenceMode (thread : Nat) (slotId mode : Int)
  | setDomainPreferenceModeRequest (thread : Nat) (slotId mode : Int) (route : ModeRoute)
  | setVoNRSwitchStatus (thread : Nat) (slotId state : Int) (env : VoNREnv)
  | noteVoNRSwitchStatus (thread : Nat) (slotId state : Int)
  | setDomainPreferenceModeResponse (slotId : Int) (error : Option Int)
  | setVoNRSwitchStatusResponse (slotId : Int) (error : Option Int)
  | getDomainPreferenceModeResponse (slotId mode : Int)
  | initModeActive
  | saveImsSwitch (slotId imsSwitchValue : Int)
deriving DecidableEq, Repr

def configMachine (K : ConfigConstants) (persisted : Int → Option Int) :
    Machine CellularCallConfig ConfigEvent ConfigOutput where
  init := .init K persisted
  step c
    | .setDomainPreferenceMode _ slotId mode => c.setDomainPreferenceMode K slotId mode
    | .setDomainPreferenceModeRequest _ slotId mode route =>
      (c, CellularCallConfig.setDomainPreferenceModeRequest slotId mode route)
    | .setVoNRSwitchStatus _ slotId state env =>
      (c, CellularCallConfig.setVoNRSwitchStatus K slotId state env)
    | .noteVoNRSwitchStatus _ slotId state => c.noteVoNRSwitchStatus slotId state
    | .setDomainPreferenceModeResponse slotId error =>
      c.setDomainPreferenceModeResponse K slotId error
    | .setVoNRSwitchStatusResponse slotId error => c.handleSetVoNRSwitchResult slotId error
    | .getDomainPreferenceModeResponse slotId mode =>
      (c.getDomainPreferenceModeResponse K slotId mode, [])
    | .initModeActive => (c.initModeActive K, [])
    | .saveImsSwitch slotId imsSwitchValue => (c.saveVoNRState slotId imsSwitchValue, [])

/-! ## Requests and responses -/

inductive Setting where
  | domainPreferenceMode
  | voNRSwitch
deriving DecidableEq, Repr

namespace CellularCallConfig

/-- The scratch variable of a setting. -/
def scratch (c : CellularCallConfig) : Setting → Int → Int
  | .domainPreferenceMode => c.modeTempMap
  | .voNRSwitch => c.vonrSwithStatus

/-- Where a setting is stored. -/
def stored (c : CellularCallConfig) : Setting → Int → Option Int
  | .domainPreferenceMode => fun slotId => some (c.modeMap slotId)
  | .voNRSwitch => c.vonrState

end CellularCallConfig

/-- The value of a scratch variable no request has reached. -/
def Setting.unset : Setting → Int
  | .domainPreferenceMode => 0
  | .voNRSwitch => vonrSwitchStatusUnknown

/-- A value asked for. -/
structure SettingRequest where
  setting : Setting
  slotId : Int
  value : Int
deriving DecidableEq, Repr

/-- The request is for this setting of this slot. -/
def SettingRequest.isFor (r : SettingRequest) (setting : Setting) (slotId : Int) : Bool :=
  decide (r.setting = setting ∧ r.slotId = slotId)

/-- The requests made so far: the second half each thread still has to do, the
requests without an answer, oldest first, and those whose value reached the
scratch variable, latest first. -/
structure SettingRequests where
  halfway : Nat → Option SettingRequest
  unanswered : List SettingRequest
  noted : List SettingRequest

namespace SettingRequests

def init : SettingRequests := ⟨fun _ => none, [], []⟩

/-- The value the next response for a setting is about. -/
def oldest (h : SettingRequests) (setting : Setting) (slotId : Int) : Option Int :=
  (h.unanswered.find? (·.isFor setting slotId)).map SettingRequest.value

/-- The value the last request for a setting asked for. -/
def latest (h : SettingRequests) (setting : Setting) (slotId : Int) : Int :=
  ((h.noted.find? (·.isFor setting slotId)).map SettingRequest.value).getD setting.unset

/-- The oldest request for a setting is answered. -/
def answer (h : SettingRequests) (setting : Setting) (slotId : Int) : SettingRequests :=
  { h with unanswered := h.unanswered.eraseP (·.isFor setting slotId) }

/-- Whether a thread's setter goes on. -/
def enter (h : SettingRequests) (thread : Nat) (r : Option SettingRequest) : SettingRequests :=
  { h with halfway := Function.update h.halfway thread r }

/-- A request goes to the modem. -/
def send (h : SettingRequests) (sent : Bool) (r : SettingRequest) : SettingRequests :=
  if sent then { h with unanswered := h.unanswered ++ [r] } else h

/-- `SetVoNRSwitchStatus` has sent `outputs`: it goes on if it has not returned. -/
def enterVoNRSwitch (h : SettingRequests) (thread : Nat) (slotId state : Int)
    (outputs : List ConfigOutput) : SettingRequests :=
  (h.enter thread (if outputs.any (· matches .returned _) then none
    else some ⟨.voNRSwitch, slotId, state⟩)).send
      (outputs.contains (.setVoNRSwitch slotId state)) ⟨.voNRSwitch, slotId, state⟩

/-- A request's value reaches the scratch variable. -/
def note (h : SettingRequests) (r : SettingRequest) : SettingRequests :=
  { h with noted := r :: h.noted }

end SettingRequests

/-- A thread does the halves of its setters in turn, and the modem answers what
it has been sent, oldest first. -/
def settingRequests : Monitor CellularCallConfig ConfigEvent ConfigOutput SettingRequests where
  init := .init
  allowed h _ e :=
    match e with
    | .setDomainPreferenceMode thread _ _ => h.halfway thread = none
    | .setVoNRSwitchStatus thread _ _ _ => h.halfway thread = none
    | .setDomainPreferenceModeRequest thread slotId mode _ =>
      h.halfway thread = some ⟨.domainPreferenceMode, slotId, mode⟩
    | .noteVoNRSwitchStatus thread slotId state =>
      h.halfway thread = some ⟨.voNRSwitch, slotId, state⟩
    | .setDomainPreferenceModeResponse slotId _ =>
      (h.oldest .domainPreferenceMode slotId).isSome = true
    | .setVoNRSwitchStatusResponse slotId _ => (h.oldest .voNRSwitch slotId).isSome = true
    | _ => True
  update h _ e _ outputs :=
    match e with
    | .setDomainPreferenceMode thread slotId mode =>
      if outputs = [] then
        (h.enter thread (some ⟨.domainPreferenceMode, slotId, mode⟩)).note
          ⟨.domainPreferenceMode, slotId, mode⟩
      else h
    | .setDomainPreferenceModeRequest thread slotId mode _ =>
      (h.enter thread none).send (outputs.contains (.setCallPreferenceMode slotId mode))
        ⟨.domainPreferenceMode, slotId, mode⟩
    | .setVoNRSwitchStatus thread slotId state _ =>
      h.enterVoNRSwitch thread slotId state outputs
    | .noteVoNRSwitchStatus thread slotId state =>
      (h.enter thread none).note ⟨.voNRSwitch, slotId, state⟩
    | .setDomainPreferenceModeResponse slotId _ => h.answer .domainPreferenceMode slotId
    | .setVoNRSwitchStatusResponse slotId _ => h.answer .voNRSwitch slotId
    | _ => h

instance settingRequests.decidableAllowed (h : SettingRequests) (c : CellularCallConfig)
    (e : ConfigEvent) : Decidable (settingRequests.allowed h c e) :=
  match e with
  | .setDomainPreferenceMode thread _ _ | .setVoNRSwitchStatus thread _ _ _ =>
    inferInstanceAs (Decidable (h.halfway thread = none))
  | .setDomainPreferenceModeRequest thread slotId mode _ =>
    inferInstanceAs (Decidable (h.halfway thread = some ⟨.domainPreferenceMode, slotId, mode⟩))
  | .noteVoNRSwitchStatus thread slotId state =>
    inferInstanceAs (Decidable (h.halfway thread = some ⟨.voNRSwitch, slotId, state⟩))
  | .setDomainPreferenceModeResponse slotId _ =>
    inferInstanceAs (Decidable ((h.oldest .domainPreferenceMode slotId).isSome = true))
  | .setVoNRSwitchStatusResponse slotId _ =>
    inferInstanceAs (Decidable ((h.oldest .voNRSwitch slotId).isSome = true))
  | .getDomainPreferenceModeResponse _ _ | .initModeActive | .saveImsSwitch _ _ => isTrue trivial

/-- The setting and slot a success response is for. -/
def ConfigEvent.acknowledges : ConfigEvent → Option (Setting × Int)
  | .setDomainPreferenceModeResponse slotId none => some (.domainPreferenceMode, slotId)
  | .setVoNRSwitchStatusResponse slotId none => some (.voNRSwitch, slotId)
  | _ => none

/-- The event is a setter's or a response to one, and not a change of the stored
values from elsewhere. -/
def ConfigEvent.isOfSetter : ConfigEvent → Bool
  | .getDomainPreferenceModeResponse _ _ | .initModeActive | .saveImsSwitch _ _ => false
  | _ => true

/-- Whatever happens next to the requests, a success response stores the value
it acknowledges, and nothing else changes what is stored. -/
def Acknowledges (K : ConfigConstants) (persisted : Int → Option Int) (c : CellularCallConfig)
    (h : SettingRequests) : Prop :=
  ∀ e, settingRequests.allowed h c e → e.isOfSetter = true → ∀ setting slotId,
    ((configMachine K persisted).step c e).1.stored setting slotId =
      if e.acknowledges = some (setting, slotId) then h.oldest setting slotId
      else c.stored setting slotId

/-- The request the next response is about asks for what the last one did. -/
def LatestIsOldest (h : SettingRequests) : Prop :=
  ∀ setting slotId value, h.oldest setting slotId = some value → h.latest setting slotId = value

/-! ## The scratch variables -/

/-- The scratch variable of a slot holds what the last request for it asked for,
and requests are for slots that exist. -/
structure SettingInvariant (K : ConfigConstants) (c : CellularCallConfig) (h : SettingRequests) :
    Prop where
  scratch : ∀ setting slotId, CellularCallConfig.isValidSlotId K slotId = true →
    c.scratch setting slotId = h.latest setting slotId
  halfway : ∀ thread, ∀ r ∈ h.halfway thread, CellularCallConfig.isValidSlotId K r.slotId = true
  unanswered : ∀ r ∈ h.unanswered, CellularCallConfig.isValidSlotId K r.slotId = true

/-- A slot that is valid for the service is one for the configuration. -/
theorem isValidSlotId_of_service {K : ConfigConstants} {slotId : Int}
    (hvalid : isValidSlotId K.simSlotCount slotId = true) :
    CellularCallConfig.isValidSlotId K slotId = true := by
  simp only [isValidSlotId] at hvalid
  simp only [CellularCallConfig.isValidSlotId, decide_eq_true_eq]
  split at hvalid
  · rw [beq_iff_eq] at hvalid
    omega
  · split at hvalid
    · simp only [Bool.or_eq_true, beq_iff_eq] at hvalid
      omega
    · cases hvalid

namespace SettingRequests

/-- A request reaches its own scratch variable and no other. -/
theorem latest_note (h : SettingRequests) (r : SettingRequest) (setting : Setting) (slotId : Int) :
    (h.note r).latest setting slotId =
      if r.isFor setting slotId then r.value else h.latest setting slotId := by
  simp only [latest, note, List.find?_cons]
  cases r.isFor setting slotId with
  | true => simp
  | false => simp

/-- The request the next response is about is one that was sent. -/
theorem mem_of_oldest {h : SettingRequests} {setting : Setting} {slotId value : Int}
    (holdest : h.oldest setting slotId = some value) :
    ∃ r ∈ h.unanswered, r.slotId = slotId ∧ r.value = value := by
  obtain ⟨r, hr, hvalue⟩ := Option.map_eq_some_iff.mp holdest
  have hfor := List.find?_some hr
  simp only [SettingRequest.isFor, decide_eq_true_eq] at hfor
  exact ⟨r, List.mem_of_find?_eq_some hr, hfor.2, hvalue⟩

theorem mem_unanswered_send {h : SettingRequests} {sent : Bool} {r r' : SettingRequest}
    (hmem : r' ∈ (h.send sent r).unanswered) : r' ∈ h.unanswered ∨ (r' = r ∧ sent = true) := by
  simp only [send] at hmem
  split at hmem
  · rename_i hsent
    rcases List.mem_append.mp hmem with hmem | hmem
    · exact .inl hmem
    · exact .inr ⟨List.mem_singleton.mp hmem, hsent⟩
  · exact .inl hmem

@[simp] theorem latest_send (h : SettingRequests) (sent : Bool) (r : SettingRequest)
    (setting : Setting) (slotId : Int) :
    (h.send sent r).latest setting slotId = h.latest setting slotId := by
  unfold send
  split <;> rfl

@[simp] theorem halfway_send (h : SettingRequests) (sent : Bool) (r : SettingRequest) :
    (h.send sent r).halfway = h.halfway := by
  unfold send
  split <;> rfl

end SettingRequests

namespace SettingInvariant

variable {K : ConfigConstants} {c c' : CellularCallConfig} {h : SettingRequests}

theorem init (persisted : Int → Option Int) :
    SettingInvariant K (CellularCallConfig.init K persisted) SettingRequests.init where
  scratch := by
    intro setting slotId hvalid
    cases setting with
    | domainPreferenceMode => rfl
    | voNRSwitch => exact if_pos hvalid
  halfway := fun _ _ hr => by cases hr
  unanswered := fun _ hr => by cases hr

/-- A step that leaves the scratch variables alone. -/
theorem of_scratch (hinv : SettingInvariant K c h) (hscratch : c'.scratch = c.scratch) :
    SettingInvariant K c' h where
  scratch := fun setting slotId hvalid => by
    rw [hscratch]
    exact hinv.scratch setting slotId hvalid
  halfway := hinv.halfway
  unanswered := hinv.unanswered

/-- A setter enters its second half, or is done. -/
theorem enter (hinv : SettingInvariant K c h) (thread : Nat) {r : Option SettingRequest}
    (hr : ∀ r' ∈ r, CellularCallConfig.isValidSlotId K r'.slotId = true) :
    SettingInvariant K c (h.enter thread r) where
  scratch := hinv.scratch
  halfway := by
    intro thread' r' hr'
    by_cases hthread : thread' = thread
    · subst hthread
      simp only [SettingRequests.enter, Function.update_self] at hr'
      exact hr r' hr'
    · simp only [SettingRequests.enter, Function.update_of_ne hthread] at hr'
      exact hinv.halfway thread' r' hr'
  unanswered := hinv.unanswered

theorem send (hinv : SettingInvariant K c h) {sent : Bool} {r : SettingRequest}
    (hr : sent = true → CellularCallConfig.isValidSlotId K r.slotId = true) :
    SettingInvariant K c (h.send sent r) where
  scratch := fun setting slotId hvalid => by
    rw [SettingRequests.latest_send]
    exact hinv.scratch setting slotId hvalid
  halfway := by
    rw [SettingRequests.halfway_send]
    exact hinv.halfway
  unanswered := by
    intro r' hr'
    rcases SettingRequests.mem_unanswered_send hr' with hr' | ⟨rfl, hsent⟩
    · exact hinv.unanswered r' hr'
    · exact hr hsent

theorem enterVoNRSwitch (hinv : SettingInvariant K c h) (thread : Nat) {slotId state : Int}
    {outputs : List ConfigOutput}
    (houtputs : CellularCallConfig.isValidSlotId K slotId = true ∨
      ∃ ret, outputs = [.returned ret]) :
    SettingInvariant K c (h.enterVoNRSwitch thread slotId state outputs) := by
  rcases houtputs with hvalid | ⟨ret, rfl⟩
  · apply (hinv.enter thread ?_).send
    · exact fun _ => hvalid
    · intro r hr
      split at hr
      · cases hr
      · rw [← Option.some.inj hr]
        exact hvalid
  · exact (hinv.enter thread (fun r hr => by cases hr)).send (fun hsent => by cases hsent)

/-- A value reaches the scratch variable as the request is noted. -/
theorem note (hinv : SettingInvariant K c h) (r : SettingRequest)
    (hscratch : ∀ setting slotId, c'.scratch setting slotId =
      if r.isFor setting slotId then r.value else c.scratch setting slotId) :
    SettingInvariant K c' (h.note r) where
  scratch := by
    intro setting slotId hvalid
    rw [hscratch, SettingRequests.latest_note, hinv.scratch setting slotId hvalid]
  halfway := hinv.halfway
  unanswered := hinv.unanswered

theorem answer (hinv : SettingInvariant K c h) (setting : Setting) (slotId : Int) :
    SettingInvariant K c (h.answer setting slotId) where
  scratch := hinv.scratch
  halfway := hinv.halfway
  unanswered := fun r hr => hinv.unanswered r (List.mem_of_mem_eraseP hr)

end SettingInvariant

/-! ## The setters -/

namespace CellularCallConfig

variable {K : ConfigConstants}

/-- A setter that goes on has a valid slot and has written the scratch
variable. -/
theorem setDomainPreferenceMode_of_nil {c : CellularCallConfig} {slotId mode : Int}
    (hgoes : (c.setDomainPreferenceMode K slotId mode).2 = []) :
    isValidSlotId K slotId = true ∧ c.setDomainPreferenceMode K slotId mode =
      ({ c with modeTempMap := Function.update c.modeTempMap slotId mode }, []) := by
  unfold setDomainPreferenceMode at hgoes ⊢
  split at hgoes
  · cases hgoes
  · rename_i hslot
    split at hgoes
    · cases hgoes
    · rename_i hrange
      rw [Bool.not_eq_false] at hslot
      rw [if_neg (by rw [hslot]; decide), if_neg hrange]
      exact ⟨isValidSlotId_of_service hslot, rfl⟩

/-- One that does not go on has changed nothing. -/
theorem setDomainPreferenceMode_of_ne_nil {c : CellularCallConfig} {slotId mode : Int}
    (hstops : (c.setDomainPreferenceMode K slotId mode).2 ≠ []) :
    (c.setDomainPreferenceMode K slotId mode).1 = c := by
  unfold setDomainPreferenceMode at hstops ⊢
  split
  · rfl
  · rename_i hslot
    rw [if_neg hslot] at hstops
    split
    · rfl
    · rename_i hrange
      rw [if_neg hrange] at hstops
      exact absurd rfl hstops

/-- No half of a setter changes what is stored. -/
theorem stored_setDomainPreferenceMode (c : CellularCallConfig) (slotId mode : Int) :
    (c.setDomainPreferenceMode K slotId mode).1.stored = c.stored := by
  unfold setDomainPreferenceMode
  split
  · rfl
  · split <;> rfl

/-- `SetVoNRSwitchStatus` goes on for a valid slot only, and if it stops it
returns. -/
theorem setVoNRSwitchStatus_cases (slotId state : Int) (env : VoNREnv) :
    isValidSlotId K slotId = true ∨
      ∃ ret, setVoNRSwitchStatus K slotId state env = [.returned ret] := by
  unfold setVoNRSwitchStatus
  split
  · exact .inr ⟨_, rfl⟩
  · rename_i hslot
    rw [Bool.not_eq_false] at hslot
    exact .inl (isValidSlotId_of_service hslot)

/-- The domain preference mode reaches its own scratch variable. -/
theorem scratch_update_modeTempMap (c : CellularCallConfig) (slotId mode : Int)
    (setting : Setting) (slotId' : Int) :
    ({ c with modeTempMap := Function.update c.modeTempMap slotId mode } :
      CellularCallConfig).scratch setting slotId' =
      if (SettingRequest.mk .domainPreferenceMode slotId mode).isFor setting slotId' then mode
      else c.scratch setting slotId' := by
  cases setting with
  | domainPreferenceMode =>
    simp only [scratch, Function.update_apply, SettingRequest.isFor, true_and, decide_eq_true_eq]
    simp only [eq_comm]
  | voNRSwitch => rfl

/-- The VoNR switch reaches its own scratch variable. -/
theorem scratch_noteVoNRSwitchStatus (c : CellularCallConfig) (slotId state : Int)
    (setting : Setting) (slotId' : Int) :
    (c.noteVoNRSwitchStatus slotId state).1.scratch setting slotId' =
      if (SettingRequest.mk .voNRSwitch slotId state).isFor setting slotId' then state
      else c.scratch setting slotId' := by
  cases setting with
  | domainPreferenceMode => rfl
  | voNRSwitch =>
    simp only [scratch, noteVoNRSwitchStatus, Function.update_apply, SettingRequest.isFor,
      true_and, decide_eq_true_eq]
    simp only [eq_comm]

/-- The responses do not touch the scratch variables. -/
theorem scratch_setDomainPreferenceModeResponse (c : CellularCallConfig) (slotId : Int)
    (error : Option Int) :
    (c.setDomainPreferenceModeResponse K slotId error).1.scratch = c.scratch := by
  cases error with
  | some _ => rfl
  | none =>
    simp only [setDomainPreferenceModeResponse, setTempMode]
    split <;> rfl

theorem scratch_handleSetVoNRSwitchResult (c : CellularCallConfig) (slotId : Int)
    (error : Option Int) : (c.handleSetVoNRSwitchResult slotId error).1.scratch = c.scratch := by
  cases error <;> rfl

theorem scratch_getDomainPreferenceModeResponse (c : CellularCallConfig) (slotId mode : Int) :
    (c.getDomainPreferenceModeResponse K slotId mode).scratch = c.scratch := by
  unfold getDomainPreferenceModeResponse
  split <;> rfl

/-- A success response for a valid slot stores the scratch variable. -/
theorem stored_setTempMode {c : CellularCallConfig} {slotId : Int}
    (hvalid : isValidSlotId K slotId = true) (setting : Setting) (slotId' : Int) :
    (c.setTempMode K slotId).stored setting slotId' =
      if (Setting.domainPreferenceMode, slotId) = (setting, slotId') then
        some (c.scratch setting slotId')
      else c.stored setting slotId' := by
  rw [setTempMode, if_neg (by rw [hvalid]; decide)]
  cases setting with
  | domainPreferenceMode =>
    simp only [stored, scratch, Function.update_apply, Prod.mk.injEq, true_and, eq_comm]
    split
    · rename_i heq
      rw [heq]
    · rfl
  | voNRSwitch => rfl

theorem stored_saveVoNRState (c : CellularCallConfig) (slotId : Int) (setting : Setting)
    (slotId' : Int) :
    (c.saveVoNRState slotId (c.vonrSwithStatus slotId)).stored setting slotId' =
      if (Setting.voNRSwitch, slotId) = (setting, slotId') then some (c.scratch setting slotId')
      else c.stored setting slotId' := by
  cases setting with
  | domainPreferenceMode => rfl
  | voNRSwitch =>
    simp only [stored, scratch, saveVoNRState, Function.update_apply, Prod.mk.injEq, true_and,
      eq_comm]
    split
    · rename_i heq
      rw [heq]
    · rfl

end CellularCallConfig

/-! ## Runs -/

theorem settingInvariant_step {K : ConfigConstants} {persisted : Int → Option Int}
    {c : CellularCallConfig} {h : SettingRequests} {e : ConfigEvent}
    (hinv : SettingInvariant K c h) (hallowed : settingRequests.allowed h c e) :
    SettingInvariant K ((configMachine K persisted).step c e).1
      (settingRequests.next (configMachine K persisted) h c e) := by
  simp only [Monitor.next, settingRequests, configMachine]
  cases e with
  | setDomainPreferenceMode thread slotId mode =>
    dsimp only
    split
    · rename_i hgoes
      obtain ⟨hvalid, hstep⟩ := CellularCallConfig.setDomainPreferenceMode_of_nil hgoes
      rw [hstep]
      apply (hinv.enter thread ?_).note
      · exact CellularCallConfig.scratch_update_modeTempMap c slotId mode
      · intro r hr
        rw [← Option.some.inj hr]
        exact hvalid
    · rename_i hstops
      rw [CellularCallConfig.setDomainPreferenceMode_of_ne_nil hstops]
      exact hinv
  | setDomainPreferenceModeRequest thread slotId mode route =>
    exact (hinv.enter thread (fun r hr => by cases hr)).send
      (fun _ => hinv.halfway thread _ hallowed)
  | setVoNRSwitchStatus thread slotId state env =>
    exact hinv.enterVoNRSwitch thread
      (CellularCallConfig.setVoNRSwitchStatus_cases slotId state env)
  | noteVoNRSwitchStatus thread slotId state =>
    apply (hinv.enter thread (fun r hr => by cases hr)).note
    exact CellularCallConfig.scratch_noteVoNRSwitchStatus c slotId state
  | setDomainPreferenceModeResponse slotId error =>
    exact (hinv.answer _ slotId).of_scratch
      (CellularCallConfig.scratch_setDomainPreferenceModeResponse c slotId error)
  | setVoNRSwitchStatusResponse slotId error =>
    exact (hinv.answer _ slotId).of_scratch
      (CellularCallConfig.scratch_handleSetVoNRSwitchResult c slotId error)
  | getDomainPreferenceModeResponse slotId mode =>
    exact hinv.of_scratch (CellularCallConfig.scratch_getDomainPreferenceModeResponse c slotId mode)
  | initModeActive => exact hinv.of_scratch rfl
  | saveImsSwitch slotId value => exact hinv.of_scratch rfl

/-- What a step of the setters and their responses leaves stored. -/
theorem stored_step {K : ConfigConstants} {persisted : Int → Option Int}
    {c : CellularCallConfig} {h : SettingRequests} {e : ConfigEvent}
    (hinv : SettingInvariant K c h) (hallowed : settingRequests.allowed h c e)
    (hsetter : e.isOfSetter = true) (setting : Setting) (slotId : Int) :
    ((configMachine K persisted).step c e).1.stored setting slotId =
      if e.acknowledges = some (setting, slotId) then some (h.latest setting slotId)
      else c.stored setting slotId := by
  have hvalid : ∀ setting' slotId', (h.oldest setting' slotId').isSome = true →
      CellularCallConfig.isValidSlotId K slotId' = true := by
    intro setting' slotId' hsome
    obtain ⟨value, holdest⟩ := Option.isSome_iff_exists.mp hsome
    obtain ⟨r, hr, rfl, -⟩ := SettingRequests.mem_of_oldest holdest
    exact hinv.unanswered r hr
  have hscratch : ∀ slotId', CellularCallConfig.isValidSlotId K slotId' = true →
      ∀ setting', some (setting', slotId') = some (setting, slotId) →
        some (c.scratch setting slotId) = some (h.latest setting slotId) := by
    intro slotId' hslot setting' heq
    cases heq
    rw [hinv.scratch setting slotId hslot]
  cases e with
  | setDomainPreferenceMode thread slotId' mode =>
    exact congrFun (congrFun (CellularCallConfig.stored_setDomainPreferenceMode c slotId' mode)
      setting) slotId
  | setDomainPreferenceModeRequest thread slotId' mode route => rfl
  | setVoNRSwitchStatus thread slotId' state env => rfl
  | noteVoNRSwitchStatus thread slotId' state => cases setting <;> rfl
  | setDomainPreferenceModeResponse slotId' error =>
    cases error with
    | some _ => rfl
    | none =>
      have hslot := hvalid _ slotId' hallowed
      simp only [ConfigEvent.acknowledges]
      refine (CellularCallConfig.stored_setTempMode hslot setting slotId).trans ?_
      simp only [Option.some.injEq]
      split
      · rename_i heq
        exact hscratch slotId' hslot _ (congrArg some heq)
      · rfl
  | setVoNRSwitchStatusResponse slotId' error =>
    cases error with
    | some _ => rfl
    | none =>
      have hslot := hvalid _ slotId' hallowed
      simp only [ConfigEvent.acknowledges]
      refine (CellularCallConfig.stored_saveVoNRState c slotId' setting slotId).trans ?_
      simp only [Option.some.injEq]
      split
      · rename_i heq
        exact hscratch slotId' hslot _ (congrArg some heq)
      · rfl
  | getDomainPreferenceModeResponse slotId' mode => cases hsetter
  | initModeActive => cases hsetter
  | saveImsSwitch slotId' value => cases hsetter

/-- The success response of a request that awaits its answer. -/
theorem exists_acknowledges {c : CellularCallConfig} {h : SettingRequests} {setting : Setting}
    {slotId : Int} (hawaits : (h.oldest setting slotId).isSome = true) :
    ∃ e, settingRequests.allowed h c e ∧ ConfigEvent.isOfSetter e = true ∧
      e.acknowledges = some (setting, slotId) := by
  cases setting with
  | domainPreferenceMode =>
    exact ⟨.setDomainPreferenceModeResponse slotId none, hawaits, rfl, rfl⟩
  | voNRSwitch => exact ⟨.setVoNRSwitchStatusResponse slotId none, hawaits, rfl, rfl⟩

/-- In every state that is reached, what will be stored is what will be
acknowledged exactly if no request of another value came after the oldest one
that awaits its answer. -/
theorem acknowledges_iff_of_run (K : ConfigConstants) (persisted : Int → Option Int)
    (c : CellularCallConfig) (h : SettingRequests)
    (hrun : Run (configMachine K persisted) settingRequests unconditional c h) :
    Acknowledges K persisted c h ↔ LatestIsOldest h := by
  have hinv : SettingInvariant K c h :=
    Run.invariant (SettingInvariant.init persisted)
      (fun _ _ _ hinv hallowed _ => settingInvariant_step hinv hallowed) hrun
  constructor
  · intro hack setting slotId value holdest
    obtain ⟨e, hallowed, hsetter, he⟩ :=
      exists_acknowledges (c := c) (Option.isSome_iff_exists.mpr ⟨value, holdest⟩)
    have hstored := hack e hallowed hsetter setting slotId
    rw [stored_step hinv hallowed hsetter, if_pos he, if_pos he, holdest] at hstored
    exact Option.some.inj hstored
  · intro hlatest e hallowed hsetter setting slotId
    rw [stored_step hinv hallowed hsetter]
    split
    · rename_i he
      have hawaits : (h.oldest setting slotId).isSome = true := by
        cases e with
        | setDomainPreferenceModeResponse slotId' error =>
          cases error with
          | some _ => cases he
          | none =>
            cases he
            exact hallowed
        | setVoNRSwitchStatusResponse slotId' error =>
          cases error with
          | some _ => cases he
          | none =>
            cases he
            exact hallowed
        | _ => cases he
      obtain ⟨value, holdest⟩ := Option.isSome_iff_exists.mp hawaits
      rw [holdest, hlatest setting slotId value holdest]
    · rfl

/-- A build with two slots. -/
def twoSlots : ConfigConstants := ⟨2, 1, 3, 4, 2⟩

/-- A carrier with standalone NR and a SIM that is ready. -/
def standaloneReady : VoNREnv := ⟨[2], false, [], .ready, true⟩

/-- The VoNR switch is turned on and, before the modem has answered, off again:
the response to the first request stores what the second one asks for. -/
theorem not_acknowledges_of_run :
    ¬∀ K persisted c h, Run (configMachine K persisted) settingRequests unconditional c h →
      Acknowledges K persisted c h := by
  intro hclaim
  have hack := hclaim twoSlots (fun _ => none) _ _
    (Run.of_admits
      [.setVoNRSwitchStatus 0 0 1 standaloneReady, .noteVoNRSwitchStatus 0 0 1,
        .setVoNRSwitchStatus 0 0 0 standaloneReady, .noteVoNRSwitchStatus 0 0 0] (by decide))
  exact absurd (hack (.setVoNRSwitchStatusResponse 0 none) (by decide) rfl .voNRSwitch 0)
    (by decide)

/-- Turned on in one slot and off in the other, each answer stores its own. -/
theorem acknowledges_two_slots :
    Acknowledges twoSlots (fun _ => none)
      (exec (configMachine twoSlots fun _ => none) settingRequests
        (CellularCallConfig.init twoSlots fun _ => none) SettingRequests.init
        [.setVoNRSwitchStatus 0 0 1 standaloneReady, .noteVoNRSwitchStatus 0 0 1,
          .setVoNRSwitchStatus 0 1 0 standaloneReady, .noteVoNRSwitchStatus 0 1 0]).1
      (exec (configMachine twoSlots fun _ => none) settingRequests
        (CellularCallConfig.init twoSlots fun _ => none) SettingRequests.init
        [.setVoNRSwitchStatus 0 0 1 standaloneReady, .noteVoNRSwitchStatus 0 0 1,
          .setVoNRSwitchStatus 0 1 0 standaloneReady, .noteVoNRSwitchStatus 0 1 0]).2 := by
  refine (acknowledges_iff_of_run twoSlots (fun _ => none) _ _
    (Run.of_admits _ (by decide))).mpr ?_
  intro setting slotId value holdest
  have hhistory : ∀ h : SettingRequests, h.noted = h.unanswered.reverse → h.unanswered =
      [⟨.voNRSwitch, 0, 1⟩, ⟨.voNRSwitch, 1, 0⟩] → h.oldest setting slotId = some value →
      h.latest setting slotId = value := by
    intro h hnoted hunanswered hvalue
    simp only [SettingRequests.oldest, SettingRequests.latest, hnoted, hunanswered,
      List.reverse_cons, List.reverse_nil, List.nil_append, List.cons_append, List.find?_cons,
      SettingRequest.isFor] at hvalue ⊢
    cases setting with
    | domainPreferenceMode => cases hvalue
    | voNRSwitch =>
      by_cases h0 : slotId = 0
      · subst h0
        simpa using hvalue
      · by_cases h1 : slotId = 1
        · subst h1
          simpa using hvalue
        · simp [Ne.symm h0, Ne.symm h1] at hvalue
  exact hhistory _ rfl rfl holdest

end CellularCall
