import CellularCall.ImsTable
import CellularCall.MmiCode
import Mathlib.Data.List.Infix

/-!
# The two dial paths understand a string alike

`CSControl::DialGsm` takes the separators out of a dialled string before it looks
for an MMI code, `IMSControl::Dial` looks for one in the string as it was typed.
A dial path executes a code, or hands a CLIR mode and a network address down.

`understandAlike_iff` says for which strings the two paths come to the same.
-/

namespace CellularCall

open Lib CallTable

/-- The two controls of a slot, and what a dial on them finds. -/
structure DialScene where
  context : DialContext
  csControl : CSControl
  imsControl : IMSControl
  csInService : Bool
  psInService : Bool
  isRadioOn : Bool
  service : ImsService

/-- What a dial path makes of a string. -/
inductive Understanding where
  | executes (mmiData : ParsedMMIData)
  | dials (clirMode : CLIRMode) (networkAddress : Str)
deriving DecidableEq, Repr

/-- The network address of a number. -/
def networkAddress (phoneNum : Str) : Str := (extractAddressAndPostDial phoneNum).1

namespace DialScene

/-- What the CS path classifies as an MMI code. -/
def csNumber (callInfo : CellularCallInfo) : Str :=
  removeSeparatorsPhoneNumber (cStr callInfo.phoneNum)

/-- `CSControl::Dial` on a GSM network, with its check for a code. -/
def csDial (d : DialScene) (callInfo : CellularCallInfo) (isEcc : Bool) :
    RetCode × CSControl × List Output :=
  CSControl.dial ⟨d.csInService, .gsm, (d.context.isNeedExecuteMMI (csNumber callInfo)).1⟩
    d.isRadioOn d.csControl callInfo isEcc

/-- What the IMS path classifies as an MMI code. -/
def imsNumber (callInfo : CellularCallInfo) : Str :=
  IMSControl.standardizedNumber (cStr callInfo.phoneNum)

/-- `EncapsulateDial` and `DialJudgment` classify the number the check leaves. -/
def isEmergencyDial (d : DialScene) (mmi : MmiOutcome) (phoneNum : Str) : Bool :=
  match mmi.apply phoneNum with
  | some (newPhoneNum, _) => d.context.isEmergencyCall newPhoneNum
  | none => false

/-- What an IMS dial finds, its check for a code included. -/
def imsEnv (d : DialScene) (callInfo : CellularCallInfo) : ImsDialEnv :=
  let mmi := (d.context.isNeedExecuteMMI (imsNumber callInfo)).1
  ⟨d.psInService, mmi, d.isEmergencyDial mmi (imsNumber callInfo), d.service⟩

/-- `IMSControl::Dial`, with its check for a code. -/
def imsDial (P : Platform) (d : DialScene) (callInfo : CellularCallInfo) (isEcc : Bool) :
    RetCode × IMSControl × List Output :=
  IMSControl.dial P (d.imsEnv callInfo) d.isRadioOn d.imsControl callInfo isEcc

/-- The request a CS dial sends. -/
def csRequest (d : DialScene) (callInfo : CellularCallInfo) (isEcc : Bool) :
    Option DialRequestStruct :=
  (d.csDial callInfo isEcc).2.2.findSome? fun
    | .dialRequest request => some request
    | _ => none

/-- The request an IMS dial makes: it is kept in the connection that is switched
to hold first, or else sent. -/
def imsRequest (P : Platform) (d : DialScene) (callInfo : CellularCallInfo) (isEcc : Bool) :
    Option ImsDialInfoStruct :=
  let (_, imsControl, outputs) := d.imsDial P callInfo isEcc
  match IMSControl.holdPath (d.imsEnv callInfo) d.isRadioOn d.imsControl callInfo isEcc with
  | some (key, _) => (imsControl.connectionMap.get? key).bind IMSControl.heldDial
  | none =>
    outputs.findSome? fun
      | .imsDialRequest request _ => some request
      | _ => none

/-- What an IMS request hands down: a number that does not fit is not sent. -/
def imsHandsDown (request : ImsDialInfoStruct) : Option Understanding :=
  let address := networkAddress request.phoneNum
  if (cStr address).length + 1 > kMaxNumberLength then none
  else some (.dials request.clirMode (cStr address))

/-- What the CS path makes of a string. -/
def csUnderstanding (d : DialScene) (callInfo : CellularCallInfo) (isEcc : Bool) :
    Option Understanding :=
  match (d.context.isNeedExecuteMMI (csNumber callInfo)).2 with
  | some mmiData =>
    if (d.csDial callInfo isEcc).1 = .typeMmi then some (.executes mmiData) else none
  | none =>
    (d.csRequest callInfo isEcc).map fun request => .dials request.clirMode request.phoneNum

/-- What the IMS path makes of a string. -/
def imsUnderstanding (P : Platform) (d : DialScene) (callInfo : CellularCallInfo)
    (isEcc : Bool) : Option Understanding :=
  match (d.context.isNeedExecuteMMI (imsNumber callInfo)).2 with
  | some mmiData =>
    if (d.imsDial P callInfo isEcc).1 = .typeMmi then some (.executes mmiData) else none
  | none => (d.imsRequest P callInfo isEcc).bind imsHandsDown

/-- Both paths come to the same. -/
def UnderstandAlike (P : Platform) (d : DialScene) (callInfo : CellularCallInfo)
    (isEcc : Bool) : Prop :=
  ∃ u, d.csUnderstanding callInfo isEcc = some u ∧ d.imsUnderstanding P callInfo isEcc = some u

/-- Both controls let a call through. -/
structure LetsThrough (d : DialScene) (callInfo : CellularCallInfo) (isEcc : Bool) : Prop where
  number : cStr callInfo.phoneNum ≠ []
  radio : d.isRadioOn = true
  cs : d.csInService = true ∨ isEcc = true
  ps : d.psInService = true ∨ isEcc = true
  csRoom : canCall d.csControl.connectionMap = true
  imsRoom : canCall d.imsControl.connectionMap = true

end DialScene

/-- A `sip` URI. -/
def IsUri (s : Str) : Prop := '@' ∈ s ∨ ['%', '4', '0'] <:+: s

namespace Understanding

/-- The address is short enough for the IMS service. -/
def Fits : Understanding → Prop
  | .executes _ => True
  | .dials _ address => address.length + 1 ≤ kMaxNumberLength

instance (u : Understanding) : Decidable u.Fits :=
  match u with
  | .executes _ => isTrue trivial
  | .dials _ address => inferInstanceAs (Decidable (address.length + 1 ≤ kMaxNumberLength))

end Understanding

namespace DialContext

/-- What a string stands for. -/
inductive Understands (x : DialContext) (s : Str) : Understanding → Prop
  | executes (mmiData : ParsedMMIData)
      (hmmi : isNeedExecuteMmi x.hasCellularCallExist s = some mmiData) (h : ¬x.LeftAlone s)
      (hnumber : ∀ m number, ¬x.Prefixed s m number) : Understands x s (.executes mmiData)
  | alone (h : x.LeftAlone s) : Understands x s (.dials .default (networkAddress s))
  | prefixed (m : MmiProcedure) (number : Str) (h : x.Prefixed s m number) :
      Understands x s (.dials m.clirMode (networkAddress number))

/-- The address that is dialled is short enough for the IMS service. -/
structure Fits (x : DialContext) (s : Str) : Prop where
  alone : x.LeftAlone s → (networkAddress s).length + 1 ≤ kMaxNumberLength
  prefixed : ∀ m number, x.Prefixed s m number →
    (networkAddress number).length + 1 ≤ kMaxNumberLength

/-- A procedure before a number makes no difference: the mode stays, and the
address is the one the other string has. -/
def SameAddress (x : DialContext) (s other : Str) : Prop :=
  x.LeftAlone s ∧ ∃ m number, x.Prefixed other m number ∧ m.serviceCode ≠ ['3', '1'] ∧
    networkAddress number = networkAddress s

/-- The string, as it was typed, has no separator, or with its separators and
without them it is dialled as it is, or has a procedure before a number. -/
def ReadsAlike (x : DialContext) (raw : Str) : Prop :=
  let clean := removeSeparatorsPhoneNumber raw
  x.Fits raw ∧
    (raw = clean ∨ (x.LeftAlone raw ∧ x.LeftAlone clean) ∨
      ((∃ m number, x.Prefixed raw m number) ∧ ∃ m number, x.Prefixed clean m number) ∨
      x.SameAddress raw clean ∨ x.SameAddress clean raw)

end DialContext

/-! ## Addresses -/

theorem networkAddress_removeSeparators (s : Str) :
    networkAddress (removeSeparatorsPhoneNumber s) = networkAddress s := by
  have hdialable : ∀ c, isDialable c = (isAddressChar c || isPostDialStart c) :=
    fun c => Bool.or_assoc _ _ _
  have hkeep : ∀ c, isAddressChar c = true → isDialable c = true := by
    intro c hc
    rw [hdialable, hc, Bool.true_or]
  have hstart : ∀ c, isPostDialStart c = true → isDialable c = true := by
    intro c hc
    rw [hdialable, hc, Bool.or_true]
  simp only [networkAddress, extractAddressAndPostDial, removeSeparatorsPhoneNumber]
  induction s with
  | nil => rfl
  | cons c s ih =>
    by_cases hpost : isPostDialStart c = true
    · simp [hstart c hpost, hpost]
    · by_cases hdial : isDialable c = true
      · simp only [List.filter_cons, hdial, if_true, List.takeWhile_cons, hpost, Bool.not_false,
          ih]
      · have haddress : ¬isAddressChar c = true := fun h => hdial (hkeep c h)
        simp only [List.filter_cons, hdial, List.takeWhile_cons, hpost, Bool.not_false, if_true,
          haddress, if_false, ih, Bool.false_eq_true]

theorem cStr_networkAddress (s : Str) : cStr (networkAddress s) = networkAddress s := by
  apply cStr_eq_self
  intro hnul
  exact absurd (List.of_mem_filter hnul) (by decide)

theorem DialScene.imsHandsDown_eq (request : ImsDialInfoStruct) :
    imsHandsDown request =
      if (Understanding.dials request.clirMode (networkAddress request.phoneNum)).Fits then
        some (.dials request.clirMode (networkAddress request.phoneNum))
      else none := by
  rw [imsHandsDown, cStr_networkAddress]
  by_cases hlong : (networkAddress request.phoneNum).length + 1 > kMaxNumberLength
  · have hfits : ¬(Understanding.dials request.clirMode
        (networkAddress request.phoneNum)).Fits := Nat.not_le.mpr hlong
    rw [if_pos hlong, if_neg hfits]
  · have hfits : (Understanding.dials request.clirMode (networkAddress request.phoneNum)).Fits :=
      Nat.not_lt.mp hlong
    rw [if_neg hlong, if_pos hfits]

theorem standardizedNumber_of_not_isUri {s : Str} (hs : ¬IsUri s) :
    IMSControl.standardizedNumber s = s := by
  have hat : s.contains '@' = false := by
    rw [List.contains_eq_mem, decide_eq_false_iff_not]
    exact fun h => hs (Or.inl h)
  have hcode : s.tails.any (['%', '4', '0'].isPrefixOf ·) = false := by
    rw [List.any_eq_false]
    intro t ht hprefix
    have hinfix := (List.isPrefixOf_iff_prefix.mp hprefix).isInfix.trans
      ((List.mem_tails t s).mp ht).isInfix
    exact hs (Or.inr hinfix)
  rw [IMSControl.standardizedNumber, hat, hcode, Bool.or_false, if_neg Bool.false_ne_true]

/-! ## With and without separators -/

/-- A procedure without its separators. -/
def MmiProcedure.clean (m : MmiProcedure) : MmiProcedure where
  action := m.action
  serviceCode := m.serviceCode
  infos := m.infos.map removeSeparatorsPhoneNumber
  action_mem := m.action_mem
  serviceCode_digits := m.serviceCode_digits
  serviceCode_length := m.serviceCode_length
  infos_length := by
    rw [List.length_map]
    exact m.infos_length
  infos_chars := by
    intro info hinfo x hx
    obtain ⟨typed, htyped, rfl⟩ := List.mem_map.mp hinfo
    exact m.infos_chars typed htyped x (List.mem_of_mem_filter hx)

theorem infosText_clean (infos : List Str) :
    infosText (infos.map removeSeparatorsPhoneNumber) =
      removeSeparatorsPhoneNumber (infosText infos) := by
  induction infos with
  | nil => rfl
  | cons info infos ih =>
    rw [List.map_cons, infosText_cons, infosText_cons, ih, removeSeparatorsPhoneNumber,
      removeSeparatorsPhoneNumber, removeSeparatorsPhoneNumber, List.filter_cons,
      List.filter_append]
    rfl

theorem MmiProcedure.text_clean (m : MmiProcedure) :
    m.clean.text = removeSeparatorsPhoneNumber m.text := by
  have haction : removeSeparatorsPhoneNumber m.action = m.action := by
    have hall : ∀ action ∈ mmiActions, removeSeparatorsPhoneNumber action = action := by decide
    exact hall m.action m.action_mem
  have hcode : removeSeparatorsPhoneNumber m.serviceCode = m.serviceCode := by
    refine List.filter_eq_self.mpr fun c hc => ?_
    simp only [isDialable, m.serviceCode_digits c hc, Bool.true_or]
  have hinfos := infosText_clean m.infos
  simp only [text, clean, hinfos]
  simp only [removeSeparatorsPhoneNumber] at haction hcode ⊢
  simp only [List.filter_append, haction, hcode]
  rfl

namespace DialContext

variable {x : DialContext} {s : Str} {u v : Understanding}

theorem Understands.eq_of_leftAlone (hu : x.Understands s u) (h : x.LeftAlone s) :
    u = .dials .default (networkAddress s) := by
  cases hu with
  | executes mmiData hmmi hcode hnumber => exact absurd h hcode
  | alone _ => rfl
  | prefixed m number hprefixed => exact absurd h hprefixed.not_leftAlone

theorem Understands.eq_of_prefixed {m : MmiProcedure} {number : Str} (hu : x.Understands s u)
    (h : x.Prefixed s m number) : u = .dials m.clirMode (networkAddress number) := by
  cases hu with
  | executes mmiData hmmi hcode hnumber => exact absurd h (hnumber m number)
  | alone halone => exact absurd halone h.not_leftAlone
  | prefixed m' number' h' =>
    obtain ⟨rfl, rfl⟩ := h.unique h'
    rfl

/-- A string stands for one thing. -/
theorem Understands.unique (hu : x.Understands s u) (hv : x.Understands s v) : u = v := by
  cases hv with
  | alone h => exact hu.eq_of_leftAlone h
  | prefixed m number h => exact hu.eq_of_prefixed h
  | executes mmiData hmmi hcode hnumber =>
    cases hu with
    | alone h => exact absurd h hcode
    | prefixed m number h => exact absurd h (hnumber m number)
    | executes mmiData' hmmi' _ _ => rw [Option.some.inj (hmmi'.symm.trans hmmi)]

theorem Understands.fits_iff (hu : x.Understands s u) : u.Fits ↔ x.Fits s := by
  cases hu with
  | executes mmiData hmmi hcode hnumber =>
    exact iff_of_true trivial ⟨fun h => absurd h hcode, fun m n h => absurd h (hnumber m n)⟩
  | alone halone =>
    exact ⟨fun h => ⟨fun _ => h, fun m n hm => absurd halone hm.not_leftAlone⟩,
      fun h => h.alone halone⟩
  | prefixed m number hprefixed =>
    refine ⟨fun h => ⟨fun ha => absurd ha hprefixed.not_leftAlone, fun m' n' h' => ?_⟩,
      fun h => h.prefixed m number hprefixed⟩
    obtain ⟨rfl, rfl⟩ := hprefixed.unique h'
    exact h

/-- A number after a procedure is the same with and without separators. -/
theorem Prefixed.clean {raw : Str} {m m' : MmiProcedure} {number number' : Str}
    (h : x.Prefixed raw m number)
    (h' : x.Prefixed (removeSeparatorsPhoneNumber raw) m' number') :
    m' = m.clean ∧ number' = removeSeparatorsPhoneNumber number := by
  refine MmiProcedure.text_append_inj ?_
  rw [← h'.text, h.text, m.text_clean]
  exact List.filter_append ..

theorem clirMode_eq_default_iff {m : MmiProcedure} :
    m.clirMode = .default ↔ m.serviceCode ≠ ['3', '1'] := by
  simp only [MmiProcedure.clirMode, clirModeOf]
  split_ifs with hcode haction <;> simp [hcode]

/-- A string is understood alike with and without separators exactly when it
reads alike. -/
theorem readsAlike_iff {raw : Str} (hu : x.Understands raw u)
    (hv : x.Understands (removeSeparatorsPhoneNumber raw) v) :
    v = u ∧ u.Fits ↔ x.ReadsAlike raw := by
  constructor
  · intro h
    obtain ⟨heq, hfits⟩ := h
    refine ⟨hu.fits_iff.mp hfits, ?_⟩
    cases hu with
    | executes mmiData hmmi hcode hnumber =>
      cases hv with
      | executes mmiData' hmmi' _ _ =>
        obtain rfl := Understanding.executes.inj heq
        exact Or.inl ((source_of_isNeedExecuteMmi hmmi).symm.trans
          (source_of_isNeedExecuteMmi hmmi'))
      | alone h => cases heq
      | prefixed m number h => cases heq
    | alone ha =>
      cases hv with
      | executes mmiData' hmmi' _ _ => cases heq
      | alone hb => exact Or.inr (Or.inl ⟨ha, hb⟩)
      | prefixed m number h =>
        obtain ⟨hmode, haddress⟩ := Understanding.dials.inj heq
        exact Or.inr (Or.inr (Or.inr (Or.inl
          ⟨ha, m, number, h, clirMode_eq_default_iff.mp hmode, haddress⟩)))
    | prefixed m number h =>
      cases hv with
      | executes mmiData' hmmi' _ _ => cases heq
      | alone hb =>
        obtain ⟨hmode, haddress⟩ := Understanding.dials.inj heq
        exact Or.inr (Or.inr (Or.inr (Or.inr
          ⟨hb, m, number, h, clirMode_eq_default_iff.mp hmode.symm, haddress.symm⟩)))
      | prefixed m' number' h' => exact Or.inr (Or.inr (Or.inl ⟨⟨m, number, h⟩, m', number', h'⟩))
  · intro h
    obtain ⟨hfits, hcases⟩ := h
    refine ⟨?_, hu.fits_iff.mpr hfits⟩
    rcases hcases with heq | ⟨ha, hb⟩ | ⟨⟨m, number, h⟩, m', number', h'⟩ |
      ⟨ha, m, number, h, hmode, haddress⟩ | ⟨hb, m, number, h, hmode, haddress⟩
    · rw [← heq] at hv
      exact hv.unique hu
    · rw [hv.eq_of_leftAlone hb, hu.eq_of_leftAlone ha, networkAddress_removeSeparators]
    · obtain ⟨rfl, rfl⟩ := h.clean h'
      rw [hv.eq_of_prefixed h', hu.eq_of_prefixed h, networkAddress_removeSeparators]
      rfl
    · rw [hv.eq_of_prefixed h, hu.eq_of_leftAlone ha, clirMode_eq_default_iff.mpr hmode,
        haddress]
    · rw [hv.eq_of_leftAlone hb, hu.eq_of_prefixed h, clirMode_eq_default_iff.mpr hmode,
        haddress]

end DialContext

/-! ## What the paths hand down -/

namespace DialScene

variable {P : Platform} {d : DialScene} {callInfo : CellularCallInfo} {isEcc : Bool}

theorem LetsThrough.preJudgment (h : d.LetsThrough callInfo isEcc) :
    dialPreJudgment d.isRadioOn callInfo = .success := by
  rw [dialPreJudgment, if_neg h.number, h.radio]
  rfl

/-- A CS dial that is let through and not executed sends its request. -/
theorem csRequest_of_apply (h : d.LetsThrough callInfo isEcc) {phoneNum : Str}
    {clirMode : CLIRMode}
    (hmmi : (d.context.isNeedExecuteMMI (csNumber callInfo)).1.apply (csNumber callInfo) =
      some (phoneNum, clirMode)) :
    d.csRequest callInfo isEcc = some ⟨networkAddress phoneNum, clirMode⟩ := by
  have hservice : (!(d.csInService || isEcc)) = false := by
    rcases h.cs with hs | hs <;> simp [hs]
  rw [csNumber] at hmmi
  simp only [csRequest, csDial, csNumber, CSControl.dial, h.preJudgment, ne_eq,
    not_true_eq_false, if_false, hservice, Bool.false_eq_true, CSControl.dialGsm, hmmi, h.csRoom,
    Bool.true_eq_false, CSControl.encapsulateDialCommon]
  split <;> rfl

/-- An IMS dial that is judged makes its request, now or after the hold. -/
theorem imsRequest_of_judged {phoneNum : Str} {clirMode : CLIRMode}
    (hjudged : IMSControl.judged (d.imsEnv callInfo) d.isRadioOn callInfo isEcc =
      some (phoneNum, clirMode)) (hroom : canCall d.imsControl.connectionMap = true) :
    ∃ request, d.imsRequest P callInfo isEcc = some request ∧ request.phoneNum = phoneNum ∧
      request.clirMode = clirMode ∧
      request.bEmergencyCall = (d.imsEnv callInfo).isEmergency := by
  have hdial : d.imsDial P callInfo isEcc = IMSControl.dialJudgment (d.imsEnv callInfo)
      d.imsControl phoneNum clirMode callInfo.videoState callInfo.isRTT := by
    have hparts := hjudged
    unfold IMSControl.judged at hparts
    split_ifs at hparts with hpre hservice
    rw [ne_eq, not_not] at hpre
    simp only [imsDial, IMSControl.dial, hpre, hservice, hparts, reduceCtorEq, false_and, if_false,
      ne_eq, not_true_eq_false]
  simp only [imsRequest, hdial, IMSControl.dialJudgment, IMSControl.holdPath, hjudged, hroom,
    Bool.true_eq_false, if_false, if_true]
  cases htarget : IMSControl.dialTarget d.imsControl.connectionMap with
  | none => exact ⟨_, rfl, rfl, rfl, rfl⟩
  | some target =>
    obtain ⟨key, c⟩ := target
    have hc := (OrdMap.get?_of_first?_eq_some htarget).1
    simp only [IMSControl.switchCallRequest, Option.map_some]
    split_ifs <;>
      simp [OrdMap.get?_modify, hc, IMSControl.heldDial, CellularCallConnectionIMS.setDialFlag,
        CellularCallConnectionIMS.setHoldToDialInfo, Connection.updatePendingHoldFlag]

/-- An IMS dial that is not judged, or finds no room, makes no request. -/
theorem imsRequest_eq_none
    (h : IMSControl.judged (d.imsEnv callInfo) d.isRadioOn callInfo isEcc = none ∨
      canCall d.imsControl.connectionMap = false) :
    d.imsRequest P callInfo isEcc = none := by
  have hpath : IMSControl.holdPath (d.imsEnv callInfo) d.isRadioOn d.imsControl callInfo isEcc =
      none := by
    unfold IMSControl.holdPath
    rcases h with hjudged | hroom
    · rw [hjudged]
    · split
      · rfl
      · rw [hroom, if_neg Bool.false_ne_true]
  simp only [imsRequest, hpath, imsDial, IMSControl.dial]
  split_ifs with hsaved hrefused hservice
  · rfl
  · rfl
  · rfl
  · cases hmmi : (d.imsEnv callInfo).mmi.apply
        (IMSControl.standardizedNumber (cStr callInfo.phoneNum)) with
    | none => rfl
    | some dialled =>
      have hroom : canCall d.imsControl.connectionMap = false := by
        refine h.resolve_left fun hjudged => ?_
        rw [IMSControl.judged, if_neg hrefused, if_neg hservice, hmmi] at hjudged
        cases hjudged
      simp only [IMSControl.dialJudgment, hroom, if_true]
      rfl

theorem LetsThrough.judged (h : d.LetsThrough callInfo isEcc) :
    IMSControl.judged (d.imsEnv callInfo) d.isRadioOn callInfo isEcc =
      (d.imsEnv callInfo).mmi.apply (imsNumber callInfo) := by
  have hservice : (!((d.imsEnv callInfo).inService || isEcc)) = false := by
    rcases h.ps with hs | hs <;> simp [imsEnv, hs]
  rw [IMSControl.judged, if_neg (not_not.mpr h.preJudgment), hservice,
    if_neg Bool.false_ne_true]
  rfl

/-- An executed code is all there is. -/
theorem csDial_of_executed (h : d.LetsThrough callInfo isEcc)
    (hmmi : (d.context.isNeedExecuteMMI (csNumber callInfo)).1 = .executed) :
    (d.csDial callInfo isEcc).1 = .typeMmi := by
  have hservice : (!(d.csInService || isEcc)) = false := by
    rcases h.cs with hs | hs <;> simp [hs]
  simp [csDial, CSControl.dial, h.preJudgment, hservice, CSControl.dialGsm, hmmi,
    MmiOutcome.apply]

theorem imsDial_of_executed (h : d.LetsThrough callInfo isEcc)
    (hmmi : (d.context.isNeedExecuteMMI (imsNumber callInfo)).1 = .executed) :
    (d.imsDial P callInfo isEcc).1 = .typeMmi := by
  have hservice : (!(d.psInService || isEcc)) = false := by
    rcases h.ps with hs | hs <;> simp [hs]
  simp [imsDial, imsEnv, IMSControl.dial, h.preJudgment, hservice, hmmi, MmiOutcome.apply]

/-- The CS path understands the string without its separators. -/
theorem csUnderstanding_spec (h : d.LetsThrough callInfo isEcc) :
    ∃ u, d.csUnderstanding callInfo isEcc = some u ∧
      d.context.Understands (csNumber callInfo) u := by
  have hreads := d.context.reads (csNumber callInfo)
  cases hreading : d.context.isNeedExecuteMMI (csNumber callInfo) with
  | mk mmi code =>
    rw [hreading] at hreads
    simp only [csUnderstanding, hreading]
    cases hreads with
    | alone halone =>
      rw [csRequest_of_apply h (by rw [hreading]; rfl)]
      exact ⟨_, rfl, .alone halone⟩
    | prefixed m number hprefixed =>
      rw [csRequest_of_apply h (by rw [hreading]; rfl)]
      exact ⟨_, rfl, .prefixed m number hprefixed⟩
    | executed mmiData hmmi hcode hnumber =>
      refine ⟨_, if_pos (csDial_of_executed h ?_), .executes mmiData hmmi hcode hnumber⟩
      rw [hreading]

/-- The IMS path understands the string as it was typed, unless the address is
too long. -/
theorem imsUnderstanding_spec (h : d.LetsThrough callInfo isEcc) :
    ∃ u, d.context.Understands (imsNumber callInfo) u ∧
      d.imsUnderstanding P callInfo isEcc = if u.Fits then some u else none := by
  have hreads := d.context.reads (imsNumber callInfo)
  cases hreading : d.context.isNeedExecuteMMI (imsNumber callInfo) with
  | mk mmi code =>
    have hjudged := h.judged
    have hmmi : (d.imsEnv callInfo).mmi = mmi := congrArg Prod.fst hreading
    rw [hmmi] at hjudged
    rw [hreading] at hreads
    simp only [imsUnderstanding, hreading]
    cases hreads with
    | alone halone =>
      refine ⟨_, .alone halone, ?_⟩
      obtain ⟨request, hrequest, hnumber, hmode, -⟩ :=
        imsRequest_of_judged (P := P) hjudged h.imsRoom
      rw [hrequest, Option.bind_some, imsHandsDown_eq, hnumber, hmode]
    | prefixed m number hprefixed =>
      refine ⟨_, .prefixed m number hprefixed, ?_⟩
      obtain ⟨request, hrequest, hnumber, hmode, -⟩ :=
        imsRequest_of_judged (P := P) hjudged h.imsRoom
      rw [hrequest, Option.bind_some, imsHandsDown_eq, hnumber, hmode]
    | executed mmiData hparsed hcode hnumber =>
      refine ⟨_, .executes mmiData hparsed hcode hnumber, ?_⟩
      exact (if_pos (imsDial_of_executed h (by rw [hreading]))).trans (if_pos trivial).symm

/-- The two paths come to the same on a string that is no URI exactly when it
reads alike with and without its separators. -/
theorem understandAlike_iff (P : Platform) (d : DialScene) (callInfo : CellularCallInfo)
    (isEcc : Bool) (hthrough : d.LetsThrough callInfo isEcc)
    (huri : ¬IsUri (cStr callInfo.phoneNum)) :
    d.UnderstandAlike P callInfo isEcc ↔ d.context.ReadsAlike (cStr callInfo.phoneNum) := by
  obtain ⟨v, hcs, hv⟩ := csUnderstanding_spec hthrough
  obtain ⟨u, hu, hims⟩ := imsUnderstanding_spec (P := P) hthrough
  rw [imsNumber, standardizedNumber_of_not_isUri huri] at hu
  rw [← DialContext.readsAlike_iff hu hv, UnderstandAlike, hcs, hims]
  constructor
  · intro h
    obtain ⟨w, hw, hw'⟩ := h
    split_ifs at hw' with hfits
    exact ⟨(Option.some.inj hw).trans (Option.some.inj hw').symm, hfits⟩
  · intro h
    obtain ⟨rfl, hfits⟩ := h
    exact ⟨v, rfl, if_pos hfits⟩

/-! ### Plain strings -/

/-- A slot with new controls, and no list of emergency numbers. -/
def plain : DialScene where
  context :=
    { slotId := 0
      config := .init
      sim := .registered plmnA
      phone := .plain
      slots := [⟨some .fresh, some CallTable.fresh, none⟩]
      isMmiCode := none
      hasHandler := true }
  csControl := CallTable.fresh
  imsControl := .fresh
  csInService := true
  psInService := true
  isRadioOn := true
  service := .plain

/-- A call to a number. -/
def callTo (phoneNum : Str) : CellularCallInfo :=
  { CellularCallInfo.zeroed with phoneNum := phoneNum }

theorem live_plain : plain.context.Live := ⟨rfl, rfl⟩

theorem letsThrough_plain {phoneNum : Str} (h : cStr phoneNum ≠ []) :
    plain.LetsThrough (callTo phoneNum) false :=
  ⟨h, rfl, Or.inl rfl, Or.inl rfl, rfl, rfl⟩

/-- 5-5: the IMS path dials 55, the CS path takes it for a short code. -/
theorem not_understandAlike :
    ¬∀ (P : Platform) (d : DialScene) (callInfo : CellularCallInfo) (isEcc : Bool),
      d.context.Live → d.LetsThrough callInfo isEcc → ¬IsUri (cStr callInfo.phoneNum) →
        d.UnderstandAlike P callInfo isEcc := by
  intro hclaim
  obtain ⟨u, hcs, hims⟩ := hclaim .plain plain (callTo ['5', '-', '5']) false live_plain
    (letsThrough_plain (by decide)) (by unfold IsUri; decide)
  have hexecuted : plain.csUnderstanding (callTo ['5', '-', '5']) false =
      some (.executes (.ofFullString ['5', '5'])) := by decide
  have hdialled : plain.imsUnderstanding .plain (callTo ['5', '-', '5']) false =
      some (.dials .default ['5', '5']) := by decide
  rw [hexecuted] at hcs
  rw [hdialled, ← hcs] at hims
  cases hims

/-- A number with a hyphen reads alike. -/
theorem understandAlike_number :
    plain.UnderstandAlike .plain (callTo ['5', '-', '5', '5']) false := by
  have halone : ∀ s, isNeedExecuteMmi false s = none → plain.context.LeftAlone s := by
    intro s hs hlooks hcode
    obtain ⟨mmiData, hsome⟩ := isMmi_iff.mp hcode
    have hnone : isNeedExecuteMmi plain.context.hasCellularCallExist s = none := hs
    rw [hnone] at hsome
    cases hsome
  have hraw := halone ['5', '-', '5', '5'] (by decide)
  have hclean := halone ['5', '5', '5'] (by decide)
  refine (understandAlike_iff .plain plain (callTo ['5', '-', '5', '5']) false
    (letsThrough_plain (by decide)) (by unfold IsUri; decide)).mpr ⟨⟨fun _ => by decide, ?_⟩, ?_⟩
  · exact fun m number hm => absurd hraw hm.not_leftAlone
  · exact Or.inr (Or.inl ⟨hraw, hclean⟩)

end DialScene

end CellularCall
