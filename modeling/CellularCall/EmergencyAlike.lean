import CellularCall.DialAlike

/-!
# A dial is classified alike

An IMS dial is asked three times whether it is an emergency call.  The service
asks for the string as it was dialled, `IsNeedExecuteMMI` for the string it looks
for a code in, and `EncapsulateDial` for the number the check leaves.  What goes
to the network is the address of that number.

`classifiedAlike_iff` says when the three answers are that for the address.
-/

namespace CellularCall

open Lib CallTable

/-! ## `sip` URIs -/

theorem standardizedNumber_of_isUri {s : Str} (hs : IsUri s) :
    IMSControl.standardizedNumber s = removeSeparatorsPhoneNumber s := by
  have hfound : (s.contains '@' || s.tails.any (['%', '4', '0'].isPrefixOf ·)) = true := by
    rw [Bool.or_eq_true]
    rcases hs with hat | hinfix
    · exact Or.inl (List.contains_iff_mem.mpr hat)
    · obtain ⟨before, after, rfl⟩ := hinfix
      refine Or.inr (List.any_eq_true.mpr ⟨['%', '4', '0'] ++ after, ?_, ?_⟩)
      · rw [List.mem_tails, List.append_assoc]
        exact List.suffix_append ..
      · exact List.isPrefixOf_iff_prefix.mpr (List.prefix_append ..)
  rw [IMSControl.standardizedNumber, if_pos hfound]

theorem DialContext.isEmergencyCall_of_isUri (x : DialContext) {s : Str} (hs : IsUri s) :
    x.isEmergencyCall s = false := by
  unfold isEmergencyCall EccConfig.isEmergencyCall
  split_ifs <;> first | rfl | exact absurd hs ‹_›

namespace DialScene

variable {P : Platform} {d : DialScene} {callInfo : CellularCallInfo}

/-! ## The three questions -/

/-- `isEcc` of `CellularCallService::Dial`. -/
def isEcc (d : DialScene) (callInfo : CellularCallInfo) : Bool :=
  d.context.isEmergencyCall (cStr callInfo.phoneNum)

/-- The IMS dial gets as far as its check for a code. -/
def ReachesCheck (d : DialScene) (callInfo : CellularCallInfo) : Prop :=
  dialPreJudgment d.isRadioOn callInfo = .success ∧
    (d.psInService || d.isEcc callInfo) = true

/-- The test of `IsNeedExecuteMMI` and `bEmergencyCall` answer as the service
did, and so does the emergency list for the address of the number. -/
structure ClassifiedAlike (P : Platform) (d : DialScene) (callInfo : CellularCallInfo) : Prop where
  test : d.ReachesCheck callInfo →
    d.context.isEmergencyCall (imsNumber callInfo) = d.isEcc callInfo
  bEmergencyCall : ∀ request, d.imsRequest P callInfo (d.isEcc callInfo) = some request →
    request.bEmergencyCall = d.isEcc callInfo
  address : ∀ request, d.imsRequest P callInfo (d.isEcc callInfo) = some request →
    d.context.isEmergencyCall (networkAddress request.phoneNum) = d.isEcc callInfo

/-- A number that is dialled as it is, but for what is cut off, counts as what
is left of it does, and a number after a procedure is no emergency number. -/
structure AddressAlike (x : DialContext) (s : Str) : Prop where
  alone : x.LeftAlone s → networkAddress s ≠ s →
    x.isEmergencyCall (networkAddress s) = x.isEmergencyCall s
  prefixed : ∀ m number, x.Prefixed s m number →
    x.isEmergencyCall number = false ∧ x.isEmergencyCall (networkAddress number) = false

/-- A URI without its separators is no emergency number, and the number that is
dialled counts as its address does. -/
def SpelledAlike (d : DialScene) (callInfo : CellularCallInfo) : Prop :=
  d.ReachesCheck callInfo →
    (IsUri (cStr callInfo.phoneNum) →
      d.context.isEmergencyCall (removeSeparatorsPhoneNumber (cStr callInfo.phoneNum)) = false) ∧
    (canCall d.imsControl.connectionMap = true → AddressAlike d.context (imsNumber callInfo))

theorem test_eq_isEcc_iff :
    d.context.isEmergencyCall (imsNumber callInfo) = d.isEcc callInfo ↔
      (IsUri (cStr callInfo.phoneNum) →
        d.context.isEmergencyCall (removeSeparatorsPhoneNumber (cStr callInfo.phoneNum)) =
          false) := by
  by_cases huri : IsUri (cStr callInfo.phoneNum)
  · have hno : d.isEcc callInfo = false := d.context.isEmergencyCall_of_isUri huri
    rw [hno, imsNumber, standardizedNumber_of_isUri huri]
    exact ⟨fun h _ => h, fun h => h huri⟩
  · rw [imsNumber, standardizedNumber_of_not_isUri huri]
    exact iff_of_true rfl fun h => absurd h huri

/-! ## The request -/

theorem judged_of_reachesCheck (h : d.ReachesCheck callInfo) :
    IMSControl.judged (d.imsEnv callInfo) d.isRadioOn callInfo (d.isEcc callInfo) =
      (d.imsEnv callInfo).mmi.apply (imsNumber callInfo) := by
  have hservice : (!((d.imsEnv callInfo).inService || d.isEcc callInfo)) = false := by
    rw [Bool.not_eq_false']
    exact h.2
  rw [IMSControl.judged, if_neg (not_not.mpr h.1), hservice, if_neg Bool.false_ne_true]
  rfl

theorem reachesCheck_of_judged {dialled : Str × CLIRMode}
    (h : IMSControl.judged (d.imsEnv callInfo) d.isRadioOn callInfo (d.isEcc callInfo) =
      some dialled) : d.ReachesCheck callInfo := by
  unfold IMSControl.judged at h
  split_ifs at h with hpre hservice
  rw [ne_eq, not_not] at hpre
  rw [Bool.not_eq_true', Bool.not_eq_false] at hservice
  exact ⟨hpre, hservice⟩

/-- The number a dial leaves to be dialled. -/
inductive Leaves (x : DialContext) (s : Str) : Str → Prop
  | alone (h : x.LeftAlone s) : Leaves x s s
  | prefixed (m : MmiProcedure) (number : Str) (h : x.Prefixed s m number) : Leaves x s number

/-- The outcome of the check, and the number it leaves. -/
theorem leaves_iff_apply {number : Str} :
    Leaves d.context (imsNumber callInfo) number ↔
      ∃ clirMode, (d.imsEnv callInfo).mmi.apply (imsNumber callInfo) = some (number, clirMode) := by
  have hreads := d.context.reads (imsNumber callInfo)
  cases hreading : d.context.isNeedExecuteMMI (imsNumber callInfo) with
  | mk mmi code =>
    have hmmi : (d.imsEnv callInfo).mmi = mmi := congrArg Prod.fst hreading
    rw [hreading] at hreads
    rw [hmmi]
    cases hreads with
    | alone halone =>
      constructor
      · intro hleaves
        cases hleaves with
        | alone _ => exact ⟨_, rfl⟩
        | prefixed m number hprefixed => exact absurd halone hprefixed.not_leftAlone
      · intro h
        obtain ⟨clirMode, happly⟩ := h
        rw [← (Prod.mk.inj (Option.some.inj happly)).1]
        exact .alone halone
    | prefixed m number' hprefixed =>
      constructor
      · intro hleaves
        cases hleaves with
        | alone halone => exact absurd halone hprefixed.not_leftAlone
        | prefixed m' number h =>
          obtain ⟨rfl, rfl⟩ := h.unique hprefixed
          exact ⟨_, rfl⟩
      · intro h
        obtain ⟨clirMode, happly⟩ := h
        rw [← (Prod.mk.inj (Option.some.inj happly)).1]
        exact .prefixed m number' hprefixed
    | executed mmiData hparsed hcode hnumber =>
      constructor
      · intro hleaves
        cases hleaves with
        | alone halone => exact absurd halone hcode
        | prefixed m number h => exact absurd h (hnumber m number)
      · intro h
        obtain ⟨clirMode, happly⟩ := h
        cases happly

theorem isEmergency_imsEnv {number : Str} {clirMode : CLIRMode}
    (h : (d.imsEnv callInfo).mmi.apply (imsNumber callInfo) = some (number, clirMode)) :
    (d.imsEnv callInfo).isEmergency = d.context.isEmergencyCall number := by
  have hdial : (d.imsEnv callInfo).isEmergency =
      d.isEmergencyDial (d.imsEnv callInfo).mmi (imsNumber callInfo) := rfl
  rw [hdial, isEmergencyDial, h]

/-- The number that is left is dialled, as it is classified. -/
theorem imsRequest_of_leaves (hreaches : d.ReachesCheck callInfo)
    (hroom : canCall d.imsControl.connectionMap = true) {number : Str}
    (hleaves : Leaves d.context (imsNumber callInfo) number) :
    ∃ request, d.imsRequest P callInfo (d.isEcc callInfo) = some request ∧
      request.phoneNum = number ∧
      request.bEmergencyCall = d.context.isEmergencyCall number := by
  obtain ⟨clirMode, happly⟩ := leaves_iff_apply.mp hleaves
  obtain ⟨request, hrequest, hnumber, -, hemergency⟩ :=
    imsRequest_of_judged (P := P) ((judged_of_reachesCheck hreaches).trans happly) hroom
  exact ⟨request, hrequest, hnumber, hemergency.trans (isEmergency_imsEnv happly)⟩

/-- A request is made for the number that is left. -/
theorem leaves_of_imsRequest {request : ImsDialInfoStruct}
    (hrequest : d.imsRequest P callInfo (d.isEcc callInfo) = some request) :
    d.ReachesCheck callInfo ∧ canCall d.imsControl.connectionMap = true ∧
      Leaves d.context (imsNumber callInfo) request.phoneNum ∧
      request.bEmergencyCall = d.context.isEmergencyCall request.phoneNum := by
  cases hjudged : IMSControl.judged (d.imsEnv callInfo) d.isRadioOn callInfo (d.isEcc callInfo) with
  | none =>
    rw [imsRequest_eq_none (Or.inl hjudged)] at hrequest
    cases hrequest
  | some dialled =>
    obtain ⟨number, clirMode⟩ := dialled
    have hreaches := reachesCheck_of_judged hjudged
    have happly := (judged_of_reachesCheck hreaches).symm.trans hjudged
    cases hroom : canCall d.imsControl.connectionMap with
    | false =>
      rw [imsRequest_eq_none (Or.inr hroom)] at hrequest
      cases hrequest
    | true =>
      obtain ⟨request', hrequest', hnumber, -, hemergency⟩ :=
        imsRequest_of_judged (P := P) hjudged hroom
      obtain rfl := Option.some.inj (hrequest.symm.trans hrequest')
      rw [hnumber, hemergency]
      exact ⟨hreaches, rfl, leaves_iff_apply.mpr ⟨clirMode, happly⟩, isEmergency_imsEnv happly⟩

/-- A request for a number that counts as its address does is classified
alike. -/
theorem AddressAlike.of_leaves {x : DialContext} {s number : Str} (h : AddressAlike x s)
    (hleaves : Leaves x s number) :
    x.isEmergencyCall number = x.isEmergencyCall s ∧
      x.isEmergencyCall (networkAddress number) = x.isEmergencyCall s := by
  cases hleaves with
  | alone halone =>
    refine ⟨rfl, ?_⟩
    by_cases hwhole : networkAddress s = s
    · rw [hwhole]
    · exact h.alone halone hwhole
  | prefixed m number hprefixed =>
    rw [hprefixed.looks.1]
    exact h.prefixed m number hprefixed

/-- The three answers are that for the address exactly when the string is
spelled so. -/
theorem classifiedAlike_iff (P : Platform) (d : DialScene) (callInfo : CellularCallInfo) :
    d.ClassifiedAlike P callInfo ↔ d.SpelledAlike callInfo := by
  constructor
  · intro h hreaches
    have htest := h.test hreaches
    refine ⟨test_eq_isEcc_iff.mp htest, fun hroom => ?_⟩
    -- whatever number is left, a request is made for it
    have hleft : ∀ number, Leaves d.context (imsNumber callInfo) number →
        d.context.isEmergencyCall number = d.isEcc callInfo ∧
          d.context.isEmergencyCall (networkAddress number) = d.isEcc callInfo := by
      intro number hleaves
      obtain ⟨request, hrequest, rfl, hemergency⟩ :=
        imsRequest_of_leaves (P := P) hreaches hroom hleaves
      exact ⟨hemergency.symm.trans (h.bEmergencyCall request hrequest),
        h.address request hrequest⟩
    constructor
    · intro halone _
      rw [(hleft _ (.alone halone)).2, htest]
    · intro m number hprefixed
      rw [(hleft _ (.prefixed m number hprefixed)).1, (hleft _ (.prefixed m number hprefixed)).2,
        ← htest]
      exact ⟨hprefixed.looks.1, hprefixed.looks.1⟩
  · intro h
    have hrequests : ∀ request, d.imsRequest P callInfo (d.isEcc callInfo) = some request →
        request.bEmergencyCall = d.isEcc callInfo ∧
          d.context.isEmergencyCall (networkAddress request.phoneNum) = d.isEcc callInfo := by
      intro request hrequest
      obtain ⟨hreaches, hroom, hleaves, hemergency⟩ := leaves_of_imsRequest hrequest
      obtain ⟨huri, haddress⟩ := h hreaches
      obtain ⟨hnumber, hsent⟩ := (haddress hroom).of_leaves hleaves
      rw [hemergency, hnumber, hsent, test_eq_isEcc_iff.mpr huri]
      exact ⟨rfl, rfl⟩
    exact ⟨fun hreaches => test_eq_isEcc_iff.mpr (h hreaches).1,
      fun request hrequest => (hrequests request hrequest).1,
      fun request hrequest => (hrequests request hrequest).2⟩

/-- 112 with a post-dial part is no emergency call, but 112 is what is called. -/
theorem not_classifiedAlike :
    ¬∀ (P : Platform) (d : DialScene) (callInfo : CellularCallInfo),
      d.ClassifiedAlike P callInfo := by
  intro hclaim
  have hrequest : plain.imsRequest .plain (callTo ['1', '1', '2', ',', '5'])
      (plain.isEcc (callTo ['1', '1', '2', ',', '5'])) =
        some ⟨⟨['1', '1', '2', ',', '5'], .default⟩, 0, false, false⟩ := by decide
  have haddress := (hclaim .plain plain (callTo ['1', '1', '2', ',', '5'])).address _ hrequest
  exact absurd haddress (by decide)

end DialScene

end CellularCall
