import CellularCall.Settings

/-!
# The preferred domain and the modem

`IsNeedIms` sends a dial to the IMS control unless the mode of its slot is
`CS_VOICE_ONLY`.  The mode is the modem's own; what `modeMap_` has is a copy.  The copy
follows the modem when it is asked or told, and `RegisterCoreServiceHandler` starts it
with `IMS_PS_VOICE_PREFERRED`, in the default slot, before it asks for the mode of each
slot in turn.

`PreferenceWorld` has both sides and what is under way between them.  The modem serves its
requests in any order, refuses or loses them, and changes by itself; a setter writes and
sends in two halves.  `settled` is the mode a slot has once the answers under way are
taken.  `preferenceAgrees_of_run` says that this is the modem's mode, on every run that sets a slot
anew only when nothing is left of the last set, wherever the modem has told of its mode
since it last changed by itself.  Only the default slot may forget: the round of a later
slot puts it back to where it started, also when its own answer has come.
-/

namespace CellularCall

open Lib

/-- What the modem is asked for. -/
inductive PreferenceRequest where
  | set (mode : Int)
  | get
deriving DecidableEq, Repr

/-- What the modem answers.  A refused question is answered with nothing that
`GetDomainPreferenceModeResponse` could read. -/
inductive PreferenceAnswer where
  | set (error : Option Int)
  | got (mode : Int)
  | nothing
deriving DecidableEq, Repr

/-- What the configuration sends. -/
inductive PreferenceOutput where
  | config (output : ConfigOutput)
  | getCallPreferenceMode (slotId : Int)
  | imsGetDomainPreferenceMode (slotId : Int)
deriving DecidableEq, Repr

/-- What a dial looks at besides the mode. -/
structure DomainEnv where
  imsRegState : Bool
  needCallImsService : Bool
  imsPreferForEmergency : Bool
deriving DecidableEq, Repr

namespace CellularCallConfig

variable (K : ConfigConstants)

/-- `GetDomainPreferenceModeRequest`. -/
def getDomainPreferenceModeRequest (slotId : Int) : ModeRoute → List PreferenceOutput
  | .ims true => [.imsGetDomainPreferenceMode slotId, .config (.returned .success)]
  | .ims false => [.config (.returned .ipcConnectStubFail)]
  | .modem true => [.getCallPreferenceMode slotId, .config (.returned .success)]
  | .modem false => [.config (.returned .resourceUnavailable)]

/-- `GetDomainPreferenceMode` of the service; that of the configuration is the request. -/
def getDomainPreferenceMode (slotId : Int) (route : ModeRoute) : List PreferenceOutput :=
  if CellularCall.isValidSlotId K.simSlotCount slotId = false then
    [.config (.returned .invalidSlotId)]
  else getDomainPreferenceModeRequest slotId route

/-- The handler of an answer. -/
def preferenceResponse (c : CellularCallConfig) (slotId : Int) :
    PreferenceAnswer → CellularCallConfig × List ConfigOutput
  | .set error => c.setDomainPreferenceModeResponse K slotId error
  | .got mode => (c.getDomainPreferenceModeResponse K slotId mode, [])
  | .nothing => (c, [])

/-- `IsNeedIms`. -/
def isNeedIms (c : CellularCallConfig) (slotId : Int) (env : DomainEnv) : Bool :=
  env.imsRegState && decide (c.modeMap slotId ≠ K.csVoiceOnly) && env.needCallImsService

/-- `UseImsForEmergency`. -/
def useImsForEmergency (isEcc : Bool) (env : DomainEnv) : Bool :=
  isEcc && env.needCallImsService && env.imsPreferForEmergency

/-- Whether `DialNormalCall` takes the IMS control. -/
def dialsIms (c : CellularCallConfig) (slotId : Int) (isEcc : Bool) (env : DomainEnv) : Bool :=
  c.isNeedIms K slotId env || useImsForEmergency isEcc env

end CellularCallConfig

/-- The configuration, the setters that have written and not yet sent, and of each slot
the modem's mode, the requests it has not served, and the answers no handler has taken,
oldest first. -/
structure PreferenceWorld where
  config : CellularCallConfig
  halfway : List (Int × Int)
  modem : Int → Int
  asked : Int → List PreferenceRequest
  answers : Int → List PreferenceAnswer

namespace PreferenceWorld

variable (K : ConfigConstants)

def init (persisted : Int → Option Int) (modem : Int → Int) : PreferenceWorld :=
  ⟨.init K persisted, [], modem, fun _ => [], fun _ => []⟩

/-- The request to the modem that an output is. -/
def request? : PreferenceOutput → Option (Int × PreferenceRequest)
  | .config (.setCallPreferenceMode slotId mode) => some (slotId, .set mode)
  | .getCallPreferenceMode slotId => some (slotId, .get)
  | _ => none

/-- The modem is sent what is for it. -/
def sends (w : PreferenceWorld) (outputs : List PreferenceOutput) :
    PreferenceWorld × List PreferenceOutput :=
  ({ w with
    asked := fun slotId => w.asked slotId ++ (outputs.filterMap request?).filterMap fun r =>
      if r.1 = slotId then some r.2 else none }, outputs)

/-- The first half of `SetDomainPreferenceMode`. -/
def setDomainPreferenceMode (w : PreferenceWorld) (slotId mode : Int) :
    PreferenceWorld × List PreferenceOutput :=
  let (config, outputs) := w.config.setDomainPreferenceMode K slotId mode
  ({ w with
    config := config
    halfway := if outputs = [] then w.halfway ++ [(slotId, mode)] else w.halfway },
    outputs.map .config)

/-- The second half, of the setter at place `k`. -/
def setDomainPreferenceModeRequest (w : PreferenceWorld) (k : Nat) (route : ModeRoute) :
    PreferenceWorld × List PreferenceOutput :=
  match w.halfway[k]? with
  | none => (w, [])
  | some (slotId, mode) =>
    { w with halfway := w.halfway.eraseIdx k }.sends
      ((CellularCallConfig.setDomainPreferenceModeRequest slotId mode route).map .config)

/-- What the modem makes of a request: its mode from then on, and the answer. -/
def served (mode : Int) : PreferenceRequest → Option Int → Int × PreferenceAnswer
  | .set mode, none => (mode, .set none)
  | .set _, some error => (mode, .set (some error))
  | .get, none => (mode, .got mode)
  | .get, some _ => (mode, .nothing)

/-- The modem serves the request at place `k`. -/
def serve (w : PreferenceWorld) (slotId : Int) (k : Nat) (error : Option Int) : PreferenceWorld :=
  match (w.asked slotId)[k]? with
  | none => w
  | some request =>
    let (mode, answer) := served (w.modem slotId) request error
    { w with
      modem := Function.update w.modem slotId mode
      asked := Function.update w.asked slotId ((w.asked slotId).eraseIdx k)
      answers := Function.update w.answers slotId (w.answers slotId ++ [answer]) }

/-- The handler of the slot takes the oldest answer. -/
def deliver (w : PreferenceWorld) (slotId : Int) : PreferenceWorld × List PreferenceOutput :=
  match w.answers slotId with
  | [] => (w, [])
  | answer :: rest =>
    let (config, outputs) := w.config.preferenceResponse K slotId answer
    ({ w with config := config, answers := Function.update w.answers slotId rest },
      outputs.map .config)

end PreferenceWorld

/-- What happens.  A round of `RegisterCoreServiceHandler` is `initModeActive` and then
`getDomainPreferenceModeRequest`, with anything between them. -/
inductive PreferenceEvent where
  | setDomainPreferenceMode (slotId mode : Int)
  | setDomainPreferenceModeRequest (k : Nat) (route : ModeRoute)
  | getDomainPreferenceMode (slotId : Int) (route : ModeRoute)
  | getDomainPreferenceModeRequest (slotId : Int) (route : ModeRoute)
  | initModeActive
  | serve (slotId : Int) (k : Nat) (error : Option Int)
  | lose (slotId : Int) (k : Nat)
  | deliver (slotId : Int)
  | modemChanges (slotId mode : Int)
deriving DecidableEq, Repr

/-- The configuration and the modem as a machine. -/
def preferenceMachine (K : ConfigConstants) (persisted : Int → Option Int) (modem : Int → Int) :
    Machine PreferenceWorld PreferenceEvent PreferenceOutput where
  init := .init K persisted modem
  step w
    | .setDomainPreferenceMode slotId mode => w.setDomainPreferenceMode K slotId mode
    | .setDomainPreferenceModeRequest k route => w.setDomainPreferenceModeRequest k route
    | .getDomainPreferenceMode slotId route =>
      w.sends (CellularCallConfig.getDomainPreferenceMode K slotId route)
    | .getDomainPreferenceModeRequest slotId route =>
      w.sends (CellularCallConfig.getDomainPreferenceModeRequest slotId route)
    | .initModeActive => ({ w with config := w.config.initModeActive K }, [])
    | .serve slotId k error => (w.serve slotId k error, [])
    | .lose slotId k =>
      ({ w with asked := Function.update w.asked slotId ((w.asked slotId).eraseIdx k) }, [])
    | .deliver slotId => w.deliver K slotId
    | .modemChanges slotId mode => ({ w with modem := Function.update w.modem slotId mode }, [])

/-! ## Agreement -/

/-- The mode after an answer, where the scratch variable has `temp`. -/
def PreferenceAnswer.mode (temp kept : Int) : PreferenceAnswer → Int
  | .set none => temp
  | .set (some _) => kept
  | .got mode => mode
  | .nothing => kept

/-- The answer tells of a mode. -/
def PreferenceAnswer.tells : PreferenceAnswer → Bool
  | .set none => true
  | .got _ => true
  | _ => false

namespace PreferenceWorld

/-- The mode a slot has once the answers under way are taken. -/
def settled (w : PreferenceWorld) (slotId : Int) : Int :=
  (w.answers slotId).foldl (PreferenceAnswer.mode (w.config.modeTempMap slotId))
    (w.config.modeMap slotId)

/-- Something is left of a set that may still succeed: its setter has not sent, the modem
has not served it, or no handler has taken its success. -/
def setInFlight (w : PreferenceWorld) (slotId : Int) : Bool :=
  w.halfway.any (·.1 == slotId) || (w.asked slotId).any (· != .get) ||
    (w.answers slotId).contains (.set none)

end PreferenceWorld

/-- What is remembered of a run: the slots whose mode the modem has told of since it last
changed by itself, and whether the default slot has taken no mode since it was last put on
its first one. -/
structure PreferencePast where
  current : Int → Bool
  started : Bool

def preferencePast : Monitor PreferenceWorld PreferenceEvent PreferenceOutput PreferencePast where
  init := ⟨fun _ => false, false⟩
  allowed _ _ _ := True
  update h w e _ _ :=
    match e with
    | .serve slotId k error =>
      { h with
        current := Function.update h.current slotId
          (h.current slotId || error.isNone && ((w.asked slotId)[k]?).isSome) }
    | .modemChanges slotId _ => { h with current := Function.update h.current slotId false }
    | .initModeActive =>
      -- an answer under way is taken later, and tells again
      ⟨Function.update h.current 0 (h.current 0 && (w.answers 0).any (·.tells)), true⟩
    | .deliver slotId =>
      { h with started := h.started && !(slotId == 0 && (w.answers 0).head?.any (·.tells)) }
    | _ => h

instance (h : PreferencePast) (w : PreferenceWorld) (e : PreferenceEvent) :
    Decidable (preferencePast.allowed h w e) := isTrue trivial

/-- A slot is set to a new mode only when nothing is left of the last set. -/
def LoneSetter (K : ConfigConstants) : StepCond PreferenceWorld PreferenceEvent PreferencePast :=
  fun _ w e =>
    match e with
    | .setDomainPreferenceMode slotId mode =>
      w.setInFlight slotId = true → mode = w.config.modeTempMap slotId ∨
        (w.config.setDomainPreferenceMode K slotId mode).2 ≠ []
    | _ => True

instance (K : ConfigConstants) (h : PreferencePast) (w : PreferenceWorld) (e : PreferenceEvent) :
    Decidable (LoneSetter K h w e) :=
  match e with
  | .setDomainPreferenceMode slotId mode =>
    inferInstanceAs (Decidable (w.setInFlight slotId = true → mode = w.config.modeTempMap slotId ∨
      (w.config.setDomainPreferenceMode K slotId mode).2 ≠ []))
  | .setDomainPreferenceModeRequest .. | .getDomainPreferenceMode ..
  | .getDomainPreferenceModeRequest .. | .initModeActive | .serve .. | .lose .. | .deliver ..
  | .modemChanges .. => isTrue trivial

namespace PreferenceWorld

variable {K : ConfigConstants} {w w' : PreferenceWorld} {slotId : Int} {current : Bool}

/-! ### Answers under way -/

/-- Where the success of a set is not under way, the scratch variable does not matter. -/
theorem foldl_mode_of_not_mem {answers : List PreferenceAnswer}
    (hset : .set none ∉ answers) (temp temp' kept : Int) :
    answers.foldl (PreferenceAnswer.mode temp) kept =
      answers.foldl (PreferenceAnswer.mode temp') kept := by
  induction answers generalizing kept with
  | nil => rfl
  | cons answer rest ih =>
    rw [List.mem_cons, not_or] at hset
    have hanswer : answer.mode temp kept = answer.mode temp' kept := by
      match answer with
      | .set none => exact absurd rfl hset.1
      | .set (some _) => rfl
      | .got _ => rfl
      | .nothing => rfl
    rw [List.foldl_cons, List.foldl_cons, hanswer]
    exact ih hset.2 _

/-- Where an answer under way tells of a mode, the mode kept until then does not matter. -/
theorem foldl_mode_of_tells {answers : List PreferenceAnswer}
    (htells : answers.any (·.tells) = true) (temp kept kept' : Int) :
    answers.foldl (PreferenceAnswer.mode temp) kept =
      answers.foldl (PreferenceAnswer.mode temp) kept' := by
  induction answers generalizing kept kept' with
  | nil => cases htells
  | cons answer rest ih =>
    rw [List.foldl_cons, List.foldl_cons]
    match answer with
    | .set none => rfl
    | .got _ => rfl
    | .set (some _) => exact ih htells kept kept'
    | .nothing => exact ih htells kept kept'

/-! ### What each step keeps -/

/-- What is under way for a slot asks for the mode in its scratch variable, and if the modem
has told of its mode, it will be the slot's. -/
structure SlotAgrees (w : PreferenceWorld) (current : Bool) (slotId : Int) : Prop where
  halfway : ∀ mode, (slotId, mode) ∈ w.halfway → mode = w.config.modeTempMap slotId
  asked : ∀ mode, .set mode ∈ w.asked slotId → mode = w.config.modeTempMap slotId
  settled : current = true → w.settled slotId = w.modem slotId

/-- A step that leaves a slot alone, or only drops requests for it. -/
theorem SlotAgrees.frame (h : w.SlotAgrees current slotId)
    (hmode : w'.config.modeMap slotId = w.config.modeMap slotId)
    (htemp : w'.config.modeTempMap slotId = w.config.modeTempMap slotId)
    (hhalfway : ∀ mode, (slotId, mode) ∈ w'.halfway → (slotId, mode) ∈ w.halfway)
    (hasked : ∀ mode, .set mode ∈ w'.asked slotId → .set mode ∈ w.asked slotId)
    (hmodem : w'.modem slotId = w.modem slotId) (hanswers : w'.answers slotId = w.answers slotId) :
    w'.SlotAgrees current slotId where
  halfway := by
    intro mode hmem
    rw [htemp]
    exact h.halfway mode (hhalfway mode hmem)
  asked := by
    intro mode hmem
    rw [htemp]
    exact h.asked mode (hasked mode hmem)
  settled := by
    intro hcurrent
    rw [PreferenceWorld.settled, hmode, htemp, hanswers, hmodem]
    exact h.settled hcurrent

/-- Agreement is claimed of fewer slots. -/
theorem SlotAgrees.weaken (h : w.SlotAgrees current slotId) {current' : Bool}
    (hless : current' = true → current = true) : w.SlotAgrees current' slotId :=
  ⟨h.halfway, h.asked, fun hcurrent => h.settled (hless hcurrent)⟩

/-- Requests that are sent: a set among them asks for the mode in the scratch variable. -/
theorem SlotAgrees.sends (h : w.SlotAgrees current slotId) {outputs : List PreferenceOutput}
    (houtputs : ∀ mode, .config (.setCallPreferenceMode slotId mode) ∈ outputs →
      mode = w.config.modeTempMap slotId) : (w.sends outputs).1.SlotAgrees current slotId where
  halfway := h.halfway
  settled := h.settled
  asked := by
    intro mode hmem
    rcases List.mem_append.mp hmem with hmem | hmem
    · exact h.asked mode hmem
    · refine houtputs mode ?_
      obtain ⟨r, hr, hmode⟩ := List.mem_filterMap.mp hmem
      obtain ⟨o, ho, hrequest⟩ := List.mem_filterMap.mp hr
      split at hmode
      · rename_i hslot
        match o with
        | .config (.setCallPreferenceMode slotId' mode') =>
          simp only [request?, Option.some.injEq] at hrequest
          subst hrequest
          simp only [Option.some.injEq, PreferenceRequest.set.injEq] at hmode
          subst hmode hslot
          exact ho
        | .getCallPreferenceMode slotId' =>
          simp only [request?, Option.some.injEq] at hrequest
          subst hrequest
          cases hmode
      · cases hmode

/-- The first half refuses the mode, or writes it. -/
theorem setDomainPreferenceMode_cases (K : ConfigConstants) (w : PreferenceWorld)
    (slotId mode : Int) :
    ((w.setDomainPreferenceMode K slotId mode).1 = w ∧
      (w.config.setDomainPreferenceMode K slotId mode).2 ≠ []) ∨
    ((w.setDomainPreferenceMode K slotId mode).1 =
        { w with
          config := { w.config with
            modeTempMap := Function.update w.config.modeTempMap slotId mode }
          halfway := w.halfway ++ [(slotId, mode)] } ∧
      (w.config.setDomainPreferenceMode K slotId mode).2 = []) := by
  simp only [setDomainPreferenceMode]
  by_cases hgoes : (w.config.setDomainPreferenceMode K slotId mode).2 = []
  · have hwrites := (CellularCallConfig.setDomainPreferenceMode_of_nil hgoes).2
    rw [if_pos hgoes, hwrites]
    exact .inr ⟨rfl, rfl⟩
  · rw [if_neg hgoes, CellularCallConfig.setDomainPreferenceMode_of_ne_nil hgoes]
    exact .inl ⟨rfl, hgoes⟩

/-- Nothing asks for a mode of the slot. -/
theorem not_mem_of_not_setInFlight (hidle : w.setInFlight slotId = false) :
    (∀ mode, (slotId, mode) ∉ w.halfway) ∧ (∀ mode, .set mode ∉ w.asked slotId) ∧
      .set none ∉ w.answers slotId := by
  simp only [setInFlight, Bool.or_eq_false_iff, List.any_eq_false, List.contains_eq_mem,
    decide_eq_false_iff_not] at hidle
  obtain ⟨⟨hhalfway, hasked⟩, hanswers⟩ := hidle
  refine ⟨fun mode hmem => ?_, fun mode hmem => ?_, hanswers⟩
  · exact hhalfway _ hmem (by simp)
  · exact hasked _ hmem (by simp)

theorem SlotAgrees.setDomainPreferenceMode (h : w.SlotAgrees current slotId) {slotId' mode : Int}
    (hone : w.setInFlight slotId' = true → mode = w.config.modeTempMap slotId' ∨
      (w.config.setDomainPreferenceMode K slotId' mode).2 ≠ []) :
    (w.setDomainPreferenceMode K slotId' mode).1.SlotAgrees current slotId := by
  rcases setDomainPreferenceMode_cases K w slotId' mode with ⟨hsame, -⟩ | ⟨hnext, haccepted⟩
  · rw [hsame]
    exact h
  · rw [hnext]
    by_cases hslot : slotId = slotId'
    · subst hslot
      have hwritten : Function.update w.config.modeTempMap slotId mode slotId = mode :=
        Function.update_self _ _ _
      by_cases hmode : mode = w.config.modeTempMap slotId
      · refine ⟨fun mode' hmem => ?_, fun mode' hmem => ?_, fun hcurrent => ?_⟩
        · show mode' = Function.update w.config.modeTempMap slotId mode slotId
          rw [hwritten]
          rcases List.mem_append.mp hmem with hmem | hmem
          · rw [hmode]
            exact h.halfway mode' hmem
          · rw [List.mem_singleton, Prod.mk.injEq] at hmem
            exact hmem.2
        · show mode' = Function.update w.config.modeTempMap slotId mode slotId
          rw [hwritten, hmode]
          exact h.asked mode' hmem
        · show (w.answers slotId).foldl
            (PreferenceAnswer.mode (Function.update w.config.modeTempMap slotId mode slotId))
            (w.config.modeMap slotId) = w.modem slotId
          rw [hwritten, hmode]
          exact h.settled hcurrent
      · have hidle : w.setInFlight slotId = false := by
          by_contra hflight
          rw [Bool.not_eq_false] at hflight
          rcases hone hflight with hsame | hrefused
          · exact hmode hsame
          · exact hrefused haccepted
        obtain ⟨hhalfway, hasked, hanswers⟩ := not_mem_of_not_setInFlight hidle
        refine ⟨fun mode' hmem => ?_, fun mode' hmem => absurd hmem (hasked mode'),
          fun hcurrent => ?_⟩
        · show mode' = Function.update w.config.modeTempMap slotId mode slotId
          rw [hwritten]
          rcases List.mem_append.mp hmem with hmem | hmem
          · exact absurd hmem (hhalfway mode')
          · rw [List.mem_singleton, Prod.mk.injEq] at hmem
            exact hmem.2
        · rw [← h.settled hcurrent]
          exact foldl_mode_of_not_mem hanswers _ _ _
    · refine h.frame rfl (Function.update_of_ne hslot _ _) (fun mode' hmem => ?_)
        (fun _ hmem => hmem) rfl rfl
      rcases List.mem_append.mp hmem with hmem | hmem
      · exact hmem
      · rw [List.mem_singleton, Prod.mk.injEq] at hmem
        exact absurd hmem.1 hslot

theorem SlotAgrees.setDomainPreferenceModeRequest (h : w.SlotAgrees current slotId) (k : Nat)
    (route : ModeRoute) :
    (w.setDomainPreferenceModeRequest k route).1.SlotAgrees current slotId := by
  unfold PreferenceWorld.setDomainPreferenceModeRequest
  cases hk : w.halfway[k]? with
  | none => exact h
  | some setter =>
    obtain ⟨slotId', mode⟩ := setter
    have hmem : (slotId', mode) ∈ w.halfway := List.mem_of_getElem? hk
    have hleft : ({ w with halfway := w.halfway.eraseIdx k } : PreferenceWorld).SlotAgrees
        current slotId :=
      h.frame rfl rfl (fun _ hmem => List.mem_of_mem_eraseIdx hmem) (fun _ hmem => hmem) rfl rfl
    refine hleft.sends fun mode' hsent => ?_
    obtain ⟨o, ho, hoeq⟩ := List.mem_map.mp hsent
    obtain rfl := PreferenceOutput.config.inj hoeq
    have hnamed : slotId = slotId' ∧ mode' = mode := by
      unfold CellularCallConfig.setDomainPreferenceModeRequest at ho
      split at ho <;> simp at ho
      exact ho
    rw [hnamed.2]
    exact h.halfway mode (hnamed.1 ▸ hmem)

theorem SlotAgrees.getDomainPreferenceModeRequest (h : w.SlotAgrees current slotId)
    (slotId' : Int) (route : ModeRoute) :
    (w.sends (CellularCallConfig.getDomainPreferenceModeRequest slotId' route)).1.SlotAgrees
      current slotId := by
  refine h.sends fun mode hsent => ?_
  unfold CellularCallConfig.getDomainPreferenceModeRequest at hsent
  split at hsent <;> simp at hsent

theorem SlotAgrees.getDomainPreferenceMode (h : w.SlotAgrees current slotId) (slotId' : Int)
    (route : ModeRoute) :
    (w.sends (CellularCallConfig.getDomainPreferenceMode K slotId' route)).1.SlotAgrees
      current slotId := by
  unfold CellularCallConfig.getDomainPreferenceMode
  split
  · exact h.sends (by simp)
  · exact h.getDomainPreferenceModeRequest slotId' route

/-- The first mode of the default slot is forgotten again if an answer that tells of a mode
is under way. -/
theorem SlotAgrees.initModeActive (h : w.SlotAgrees current slotId)
    (htells : slotId = 0 → current = true → (w.answers 0).any (·.tells) = true) :
    ({ w with config := w.config.initModeActive K } : PreferenceWorld).SlotAgrees
      current slotId where
  halfway := h.halfway
  asked := h.asked
  settled := by
    intro hcurrent
    rw [← h.settled hcurrent]
    by_cases hslot : slotId = 0
    · subst hslot
      exact foldl_mode_of_tells (htells rfl hcurrent) _ _ _
    · have hmode : (w.config.initModeActive K).modeMap slotId = w.config.modeMap slotId :=
        Function.update_of_ne hslot _ _
      rw [PreferenceWorld.settled, PreferenceWorld.settled, hmode]
      rfl

/-- A request that is served makes the mode of the slot the modem's. -/
theorem SlotAgrees.serve_self (h : w.SlotAgrees current slotId) {k : Nat}
    {request : PreferenceRequest} (hk : (w.asked slotId)[k]? = some request)
    (error : Option Int) :
    (w.serve slotId k error).SlotAgrees (current || error.isNone) slotId := by
  have hmem : request ∈ w.asked slotId := List.mem_of_getElem? hk
  simp only [serve, hk]
  refine ⟨h.halfway, fun mode hasked => ?_, fun hcurrent => ?_⟩
  · have hold : .set mode ∈ (w.asked slotId).eraseIdx k := by
      simpa only [Function.update_self] using hasked
    exact h.asked mode (List.mem_of_mem_eraseIdx hold)
  · simp only [PreferenceWorld.settled, Function.update_self, List.foldl_append,
      List.foldl_cons, List.foldl_nil]
    cases error with
    | none =>
      cases request with
      | set mode => exact (h.asked mode hmem).symm
      | get => rfl
    | some code =>
      have hsame := h.settled (by simpa using hcurrent)
      cases request with
      | set mode => exact hsame
      | get => exact hsame

theorem SlotAgrees.serve_other (h : w.SlotAgrees current slotId) {slotId' : Int}
    (hslot : slotId ≠ slotId') (k : Nat) (error : Option Int) :
    (w.serve slotId' k error).SlotAgrees current slotId := by
  unfold PreferenceWorld.serve
  cases hk : (w.asked slotId')[k]? with
  | none => exact h
  | some request =>
    refine h.frame rfl rfl (fun _ hmem => hmem) (fun mode hmem => ?_)
      (Function.update_of_ne hslot _ _) (Function.update_of_ne hslot _ _)
    simpa only [Function.update_of_ne hslot] using hmem

theorem SlotAgrees.lose (h : w.SlotAgrees current slotId) (slotId' : Int) (k : Nat) :
    ({ w with asked := Function.update w.asked slotId' ((w.asked slotId').eraseIdx k) } :
      PreferenceWorld).SlotAgrees current slotId := by
  refine h.frame rfl rfl (fun _ hmem => hmem) (fun mode hmem => ?_) rfl rfl
  by_cases hslot : slotId = slotId'
  · subst hslot
    have hold : .set mode ∈ (w.asked slotId).eraseIdx k := by
      simpa only [Function.update_self] using hmem
    exact List.mem_of_mem_eraseIdx hold
  · simpa only [Function.update_of_ne hslot] using hmem

/-- What a handler makes of an answer for a slot there is. -/
theorem preferenceResponse_eq (hvalid : CellularCallConfig.isValidSlotId K slotId = true)
    (c : CellularCallConfig) (answer : PreferenceAnswer) :
    (c.preferenceResponse K slotId answer).1 =
      { c with
        modeMap := Function.update c.modeMap slotId
          (answer.mode (c.modeTempMap slotId) (c.modeMap slotId)) } := by
  have hnot : ¬CellularCallConfig.isValidSlotId K slotId = false := by simp [hvalid]
  match answer with
  | .set none =>
    simp only [CellularCallConfig.preferenceResponse, PreferenceAnswer.mode,
      CellularCallConfig.setDomainPreferenceModeResponse, CellularCallConfig.setTempMode,
      if_neg hnot]
  | .set (some _) =>
    simp only [CellularCallConfig.preferenceResponse, PreferenceAnswer.mode,
      CellularCallConfig.setDomainPreferenceModeResponse, Function.update_eq_self]
  | .got mode =>
    simp only [CellularCallConfig.preferenceResponse, PreferenceAnswer.mode,
      CellularCallConfig.getDomainPreferenceModeResponse, if_neg hnot]
  | .nothing =>
    simp only [CellularCallConfig.preferenceResponse, PreferenceAnswer.mode,
      Function.update_eq_self]

/-- An answer for a slot there is not is dropped. -/
theorem preferenceResponse_of_invalid
    (hvalid : CellularCallConfig.isValidSlotId K slotId = false) (c : CellularCallConfig)
    (answer : PreferenceAnswer) : (c.preferenceResponse K slotId answer).1 = c := by
  match answer with
  | .set none =>
    simp only [CellularCallConfig.preferenceResponse,
      CellularCallConfig.setDomainPreferenceModeResponse, CellularCallConfig.setTempMode,
      if_pos hvalid]
  | .set (some _) => rfl
  | .got _ =>
    simp only [CellularCallConfig.preferenceResponse,
      CellularCallConfig.getDomainPreferenceModeResponse, if_pos hvalid]
  | .nothing => rfl

theorem mode_of_not_tells {answer : PreferenceAnswer} (htells : answer.tells = false)
    (temp kept : Int) : answer.mode temp kept = kept := by
  match answer with
  | .set none => cases htells
  | .set (some _) => rfl
  | .got _ => cases htells
  | .nothing => rfl

theorem SlotAgrees.deliver (h : w.SlotAgrees current slotId)
    (hvalid : CellularCallConfig.isValidSlotId K slotId = true) (slotId' : Int) :
    (w.deliver K slotId').1.SlotAgrees current slotId := by
  unfold PreferenceWorld.deliver
  cases hanswers : w.answers slotId' with
  | nil => exact h
  | cons answer rest =>
    dsimp only
    by_cases hslot : slotId = slotId'
    · subst hslot
      rw [preferenceResponse_eq hvalid]
      refine ⟨h.halfway, h.asked, fun hcurrent => ?_⟩
      rw [← h.settled hcurrent]
      simp only [PreferenceWorld.settled, Function.update_self, hanswers, List.foldl_cons]
    · have hother : w.answers slotId = Function.update w.answers slotId' rest slotId :=
        (Function.update_of_ne hslot _ _).symm
      cases hvalid' : CellularCallConfig.isValidSlotId K slotId' with
      | false =>
        rw [preferenceResponse_of_invalid hvalid']
        exact h.frame rfl rfl (fun _ hmem => hmem) (fun _ hmem => hmem) rfl hother.symm
      | true =>
        rw [preferenceResponse_eq hvalid']
        exact h.frame (Function.update_of_ne hslot _ _) rfl (fun _ hmem => hmem)
          (fun _ hmem => hmem) rfl hother.symm

/-- What the run keeps: every slot's agreement, and the first mode of the default slot while
it has taken no other. -/
structure Kept (K : ConfigConstants) (w : PreferenceWorld) (h : PreferencePast) : Prop where
  slots : ∀ slotId, CellularCallConfig.isValidSlotId K slotId = true →
    w.SlotAgrees (h.current slotId) slotId
  started : h.started = true → w.config.modeMap 0 = K.imsPsVoicePreferred

variable {h : PreferencePast}

theorem modeMap_setDomainPreferenceMode (w : PreferenceWorld) (slotId mode : Int) :
    (w.setDomainPreferenceMode K slotId mode).1.config.modeMap = w.config.modeMap := by
  rcases setDomainPreferenceMode_cases K w slotId mode with ⟨hsame, -⟩ | ⟨hnext, -⟩
  · rw [hsame]
  · rw [hnext]

theorem config_setDomainPreferenceModeRequest (w : PreferenceWorld) (k : Nat)
    (route : ModeRoute) : (w.setDomainPreferenceModeRequest k route).1.config = w.config := by
  unfold setDomainPreferenceModeRequest
  split <;> rfl

theorem config_serve (w : PreferenceWorld) (slotId : Int) (k : Nat) (error : Option Int) :
    (w.serve slotId k error).config = w.config := by
  unfold serve
  split <;> rfl

/-- An answer changes the mode of its own slot, and only if it tells of one. -/
theorem modeMap_deliver (w : PreferenceWorld) {slotId i : Int}
    (hkept : i = slotId → (w.answers slotId).head?.any (·.tells) = false) :
    (w.deliver K slotId).1.config.modeMap i = w.config.modeMap i := by
  unfold deliver
  cases hanswers : w.answers slotId with
  | nil => rfl
  | cons answer rest =>
    dsimp only
    cases hvalid : CellularCallConfig.isValidSlotId K slotId with
    | false => rw [preferenceResponse_of_invalid hvalid]
    | true =>
      rw [preferenceResponse_eq hvalid]
      by_cases hslot : i = slotId
      · subst hslot
        have htells : answer.tells = false := by simpa [hanswers] using hkept rfl
        show Function.update w.config.modeMap i _ i = w.config.modeMap i
        rw [Function.update_self, mode_of_not_tells htells]
      · exact Function.update_of_ne hslot _ _

theorem Kept.step (hk : w.Kept K h) {persisted : Int → Option Int} {modem : Int → Int}
    {e : PreferenceEvent} (hone : LoneSetter K h w e) :
    ((preferenceMachine K persisted modem).step w e).1.Kept K
      (preferencePast.next (preferenceMachine K persisted modem) h w e) := by
  cases e with
  | setDomainPreferenceMode slotId mode =>
    refine ⟨fun i hi => (hk.slots i hi).setDomainPreferenceMode hone, fun hstarted => ?_⟩
    show (w.setDomainPreferenceMode K slotId mode).1.config.modeMap 0 = _
    rw [modeMap_setDomainPreferenceMode]
    exact hk.started hstarted
  | setDomainPreferenceModeRequest k route =>
    refine ⟨fun i hi => (hk.slots i hi).setDomainPreferenceModeRequest k route,
      fun hstarted => ?_⟩
    show (w.setDomainPreferenceModeRequest k route).1.config.modeMap 0 = _
    rw [config_setDomainPreferenceModeRequest]
    exact hk.started hstarted
  | getDomainPreferenceMode slotId route =>
    exact ⟨fun i hi => (hk.slots i hi).getDomainPreferenceMode slotId route, hk.started⟩
  | getDomainPreferenceModeRequest slotId route =>
    exact ⟨fun i hi => (hk.slots i hi).getDomainPreferenceModeRequest slotId route, hk.started⟩
  | initModeActive =>
    refine ⟨fun i hi => ?_, fun _ => Function.update_self (0 : Int) _ w.config.modeMap⟩
    by_cases hslot : i = 0
    · subst hslot
      show SlotAgrees _ (Function.update h.current 0
        (h.current 0 && (w.answers 0).any (·.tells)) 0) 0
      rw [Function.update_self]
      have hbefore : w.SlotAgrees (h.current 0 && (w.answers 0).any (·.tells)) 0 :=
        (hk.slots 0 hi).weaken fun hcurrent => (Bool.and_eq_true_iff.mp hcurrent).1
      exact hbefore.initModeActive fun _ hcurrent => (Bool.and_eq_true_iff.mp hcurrent).2
    · show SlotAgrees _ (Function.update h.current 0
        (h.current 0 && (w.answers 0).any (·.tells)) i) i
      rw [Function.update_of_ne hslot]
      exact (hk.slots i hi).initModeActive fun hzero => absurd hzero hslot
  | serve slotId k error =>
    refine ⟨fun i hi => ?_, fun hstarted => ?_⟩
    · by_cases hslot : i = slotId
      · subst hslot
        show SlotAgrees _ (Function.update h.current i
          (h.current i || error.isNone && ((w.asked i)[k]?).isSome) i) i
        rw [Function.update_self]
        cases hrequest : (w.asked i)[k]? with
        | none =>
          have hidle : w.serve i k error = w := by simp only [serve, hrequest]
          rw [Option.isSome_none, Bool.and_false, Bool.or_false]
          show (w.serve i k error).SlotAgrees (h.current i) i
          rw [hidle]
          exact hk.slots i hi
        | some request =>
          rw [Option.isSome_some, Bool.and_true]
          exact (hk.slots i hi).serve_self hrequest error
      · show SlotAgrees _ (Function.update h.current slotId
          (h.current slotId || error.isNone && ((w.asked slotId)[k]?).isSome) i) i
        rw [Function.update_of_ne hslot]
        exact (hk.slots i hi).serve_other hslot k error
    · show (w.serve slotId k error).config.modeMap 0 = _
      rw [config_serve]
      exact hk.started hstarted
  | lose slotId k => exact ⟨fun i hi => (hk.slots i hi).lose slotId k, hk.started⟩
  | deliver slotId =>
    refine ⟨fun i hi => (hk.slots i hi).deliver hi slotId, fun hstarted => ?_⟩
    show (w.deliver K slotId).1.config.modeMap 0 = _
    have hboth : (h.started && !(slotId == 0 && (w.answers 0).head?.any (·.tells))) = true :=
      hstarted
    rw [Bool.and_eq_true, Bool.not_eq_true'] at hboth
    rw [modeMap_deliver w fun hslot => ?_]
    · exact hk.started hboth.1
    · subst hslot
      simpa using hboth.2
  | modemChanges slotId mode =>
    refine ⟨fun i hi => ?_, hk.started⟩
    by_cases hslot : i = slotId
    · subst hslot
      show SlotAgrees _ (Function.update h.current i false i) i
      rw [Function.update_self]
      exact ⟨(hk.slots i hi).halfway, (hk.slots i hi).asked, Bool.noConfusion⟩
    · show SlotAgrees _ (Function.update h.current slotId false i) i
      rw [Function.update_of_ne hslot]
      exact (hk.slots i hi).frame rfl rfl (fun _ hmem => hmem) (fun _ hmem => hmem)
        (Function.update_of_ne hslot _ _) rfl

theorem Kept.init (K : ConfigConstants) (persisted : Int → Option Int) (modem : Int → Int) :
    (init K persisted modem).Kept K preferencePast.init where
  slots := fun _ _ => ⟨fun _ hmem => absurd hmem List.not_mem_nil,
    fun _ hmem => absurd hmem List.not_mem_nil, Bool.noConfusion⟩
  started := Bool.noConfusion

end PreferenceWorld

/-- The mode kept for a slot is the modem's.

* It will be once the answers under way are taken, wherever the modem has told of it.
* With none under way, a dial goes by it: to the IMS control if IMS is registered and the
  modem does not have `CS_VOICE_ONLY`, or for an emergency that prefers IMS, and in both
  cases only to a service that is connected.
* The default slot is on its first mode, whatever the modem has, until it takes an answer. -/
structure PreferenceAgrees (K : ConfigConstants) (w : PreferenceWorld) (h : PreferencePast) :
    Prop where
  settled : ∀ slotId, CellularCallConfig.isValidSlotId K slotId = true →
    h.current slotId = true → w.settled slotId = w.modem slotId
  dials : ∀ slotId, CellularCallConfig.isValidSlotId K slotId = true →
    h.current slotId = true → w.answers slotId = [] → ∀ isEcc env,
      w.config.dialsIms K slotId isEcc env =
        (env.needCallImsService && (env.imsRegState && decide (w.modem slotId ≠ K.csVoiceOnly) ||
          isEcc && env.imsPreferForEmergency))
  started : h.started = true → w.config.modeMap 0 = K.imsPsVoicePreferred

/-- On every run that sets a slot anew only when nothing is left of the last set, the mode of
a slot is the modem's, and dials go by it. -/
theorem preferenceAgrees_of_run {K : ConfigConstants} {persisted : Int → Option Int}
    {modem : Int → Int} {w : PreferenceWorld} {h : PreferencePast}
    (hrun : Run (preferenceMachine K persisted modem) preferencePast (LoneSetter K) w h) :
    PreferenceAgrees K w h := by
  have hkept : w.Kept K h := hrun.invariant (I := fun w h => w.Kept K h)
    (.init K persisted modem) fun _ _ _ hk _ hone => hk.step hone
  have hsettled : ∀ slotId, CellularCallConfig.isValidSlotId K slotId = true →
      h.current slotId = true → w.settled slotId = w.modem slotId :=
    fun slotId hvalid => (hkept.slots slotId hvalid).settled
  refine ⟨hsettled, fun slotId hvalid hcurrent hnone isEcc env => ?_, hkept.started⟩
  have hmode : w.config.modeMap slotId = w.modem slotId := by
    have hlast := hsettled slotId hvalid hcurrent
    rwa [PreferenceWorld.settled, hnone, List.foldl_nil] at hlast
  simp only [CellularCallConfig.dialsIms, CellularCallConfig.isNeedIms,
    CellularCallConfig.useImsForEmergency, hmode]
  cases env.needCallImsService <;> simp

/-- Two slots, and the modes as they are numbered. -/
def ConfigConstants.dual : ConfigConstants := ⟨2, 1, 3, 4, 0⟩

/-- The rounds of two slots, each answered at once. -/
def answeredRounds : List PreferenceEvent :=
  [.initModeActive, .getDomainPreferenceModeRequest 0 (.modem true), .serve 0 0 none, .deliver 0,
    .initModeActive, .getDomainPreferenceModeRequest 1 (.modem true), .serve 1 0 none, .deliver 1]

/-- Where the modem has `CS_VOICE_ONLY` in both slots, the second keeps it and the first is
put back. -/
theorem preferenceAgrees_after_rounds :
    PreferenceAgrees .dual
      (exec (preferenceMachine .dual (fun _ => none) fun _ => 1) preferencePast
        (.init .dual (fun _ => none) fun _ => 1) preferencePast.init answeredRounds).1
      (exec (preferenceMachine .dual (fun _ => none) fun _ => 1) preferencePast
        (.init .dual (fun _ => none) fun _ => 1) preferencePast.init answeredRounds).2 :=
  preferenceAgrees_of_run (Run.of_admits _ (by decide))

example : ((exec (preferenceMachine .dual (fun _ => none) fun _ => 1) preferencePast
    (.init .dual (fun _ => none) fun _ => 1) preferencePast.init answeredRounds).1.config.modeMap 0,
    (exec (preferenceMachine .dual (fun _ => none) fun _ => 1) preferencePast
      (.init .dual (fun _ => none) fun _ => 1) preferencePast.init
      answeredRounds).1.config.modeMap 1) = (3, 1) := by decide

end CellularCall
