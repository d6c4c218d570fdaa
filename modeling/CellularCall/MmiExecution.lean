import CellularCall.DialAlike
import CellularCall.SsReports

/-!
# Execution of MMI codes

`MMICodeUtils::ExecuteMmiCode` looks the service code up in a table of handlers,
and sends what has none as USSD.  A handler asks for a supplementary service, or
for a new PIN; what the layers below refuse is reported as a failure.

`accounted_executeMmiCode_iff` says which codes come to one request or one report, and
`executesWhole_iff` which strings between `*` or `#` and `#` are executed as
they are.  `isMmiCode_agrees_iff` compares the check of a dial with the query
`CellularCallService::IsMmiCode`.
-/

namespace CellularCall

/-! ## Requests and reports -/

/-- What `ExecuteMmiCode` asks of the layers below. -/
inductive MmiRequest where
  | supplementary (request : SsSent)
  | alterPin (slotId : Int) (newPin oldPin : Str)
  | unlockPuk (slotId : Int) (newPin puk : Str)
  | alterPin2 (slotId : Int) (newPin2 oldPin2 : Str)
  | unlockPuk2 (slotId : Int) (newPin2 puk2 : Str)
  | setUssd (slotId : Int) (msg : Str)
deriving DecidableEq, Repr

/-- What a code comes to: a request that the layer below takes, or a result for
the call manager. -/
inductive MmiEffect where
  | requested (request : MmiRequest)
  | reported (info : MmiCodeInfo)
deriving DecidableEq, Repr

/-- What the execution of a code meets on its slot: the network, which requests
the layers below take, and whether the slot has a handler that takes events. -/
structure MmiSurroundings where
  platform : SsPlatform
  network : SsNetwork
  slotId : Int
  accepts : MmiRequest → Bool
  hasHandler : Bool

/-! Numbers and texts of the handlers. -/

def mmiCodeFailed : Int := 1

def pinPukMin : Nat := 4

def pinPukMax : Nat := 8

def misMatchPinPuk : Str := "PIN or PUK don't match".toList

def invaildPinPuk : Str := "Invaild PIN or PUK numbers".toList

/-- The texts that say a code failed. -/
def failureTexts : List Str := [invalidMmiCode, genericFailure, misMatchPinPuk, invaildPinPuk]

/-- The message of an `MmiCodeInfo` has room for them. -/
def SsPlatform.HoldsFailures (P : SsPlatform) : Prop :=
  ∀ text ∈ failureTexts, (strcpyS P.mmiMessageSize text).isSome = true

/-- `IsVaildPinOrPuk`: what is wrong with the new PIN. -/
def CellularCallSupplement.isVaildPinOrPuk (newPinOrPuk newPinOrPukCheck : Str) : Option Str :=
  if newPinOrPuk ≠ newPinOrPukCheck then some misMatchPinPuk
  else if newPinOrPuk.length < pinPukMin ∨ newPinOrPuk.length > pinPukMax then some invaildPinPuk
  else none

namespace MmiSurroundings

variable (e : MmiSurroundings)

/-- `ReportMmiCodeMessage` of a failure.  A text that does not fit is not
reported. -/
def reportMmiCodeMessage (failedMsg : Str) : List MmiEffect :=
  match strcpyS e.platform.mmiMessageSize failedMsg with
  | none => []
  | some message =>
    [.reported { e.platform.defaultMmiCodeInfo with result := mmiCodeFailed, message := message }]

/-- What comes of what a handler of supplementary services issues.  Errors are for
the settings. -/
def issued : SsIssue → List MmiEffect
  | .mmiFailed message => e.reportMmiCodeMessage message
  | .dropped => []
  | .error _ => []
  | .sent request _ =>
    if e.accepts (.supplementary request) then [.requested (.supplementary request)]
    else e.reportMmiCodeMessage genericFailure

/-- A handler of supplementary services: it looks at the action, then for the
handler of the slot. -/
def supplementary (mmiData : ParsedMMIData) (issue : SsIssue) : List MmiEffect :=
  if mmiData.actionString = [] then e.reportMmiCodeMessage invalidMmiCode
  else if e.hasHandler = false then e.reportMmiCodeMessage genericFailure
  else e.issued issue

/-- A handler of PINs: the SIM is asked, and its answer is handed to the handler
of the slot. -/
def newPin (mmiData : ParsedMMIData) (request : MmiRequest) : List MmiEffect :=
  if mmiData.actionString = [] then []
  else
    match CellularCallSupplement.isVaildPinOrPuk mmiData.serviceInfoB mmiData.serviceInfoC with
    | some failedMsg => e.reportMmiCodeMessage failedMsg
    | none =>
      if e.accepts request then
        if e.hasHandler then [.requested request]
        else .requested request :: e.reportMmiCodeMessage genericFailure
      else e.reportMmiCodeMessage genericFailure

/-- `AlterPinPassword`. -/
def alterPinPassword (mmiData : ParsedMMIData) : List MmiEffect :=
  e.newPin mmiData (.alterPin e.slotId mmiData.serviceInfoB mmiData.serviceInfoA)

/-- `UnlockPuk`. -/
def unlockPuk (mmiData : ParsedMMIData) : List MmiEffect :=
  e.newPin mmiData (.unlockPuk e.slotId mmiData.serviceInfoB mmiData.serviceInfoA)

/-- `AlterPin2Password`. -/
def alterPin2Password (mmiData : ParsedMMIData) : List MmiEffect :=
  e.newPin mmiData (.alterPin2 e.slotId mmiData.serviceInfoB mmiData.serviceInfoA)

/-- `UnlockPuk2`. -/
def unlockPuk2 (mmiData : ParsedMMIData) : List MmiEffect :=
  e.newPin mmiData (.unlockPuk2 e.slotId mmiData.serviceInfoB mmiData.serviceInfoA)

/-- `SendUssd`. -/
def sendUssd (msg : Str) : List MmiEffect :=
  if e.accepts (.setUssd e.slotId msg) then [.requested (.setUssd e.slotId msg)]
  else
    [.reported
      { e.platform.defaultMmiCodeInfo with
        result := ussdFailed
        mmiCodeType := scUssd
        message := strcpyOrEmpty e.platform.mmiMessageSize genericFailure }]

end MmiSurroundings

/-! ## `ExecuteMmiCode` -/

/-- The functions of `mmiCodeFunc`. -/
inductive MmiCodeFunc where
  | handleCallTransfer
  | handleCallRestriction
  | handleClip
  | handleClir
  | alterPinPassword
  | unlockPuk
  | alterPin2Password
  | unlockPuk2
  | handleCallWaiting
  | handleColp
  | handleColr
deriving DecidableEq, Repr

/-- `InitCallTransferMmiCodeFunc`. -/
def initCallTransferMmiCodeFunc : List (Str × MmiCodeFunc) :=
  [("21".toList, .handleCallTransfer), ("61".toList, .handleCallTransfer),
    ("62".toList, .handleCallTransfer), ("67".toList, .handleCallTransfer),
    ("002".toList, .handleCallTransfer), ("004".toList, .handleCallTransfer)]

/-- `InitCallRestrictionCodeFunc`. -/
def initCallRestrictionCodeFunc : List (Str × MmiCodeFunc) :=
  [("33".toList, .handleCallRestriction), ("330".toList, .handleCallRestriction),
    ("331".toList, .handleCallRestriction), ("332".toList, .handleCallRestriction),
    ("333".toList, .handleCallRestriction), ("35".toList, .handleCallRestriction),
    ("351".toList, .handleCallRestriction), ("353".toList, .handleCallRestriction)]

/-- `InitAdditionalMmiCodeFunc`. -/
def initAdditionalMmiCodeFunc : List (Str × MmiCodeFunc) :=
  [("30".toList, .handleClip), ("31".toList, .handleClir), ("04".toList, .alterPinPassword),
    ("05".toList, .unlockPuk), ("042".toList, .alterPin2Password), ("052".toList, .unlockPuk2),
    ("43".toList, .handleCallWaiting)]

/-- `InitImsMmiCodeFunc`. -/
def initImsMmiCodeFunc : List (Str × MmiCodeFunc) :=
  [("76".toList, .handleColp), ("77".toList, .handleColr)]

/-- The function of a service code. -/
def mmiCodeFunc (isNeedUseIms : Bool) (serviceCode : Str) : Option MmiCodeFunc :=
  (initCallTransferMmiCodeFunc ++ initCallRestrictionCodeFunc ++ initAdditionalMmiCodeFunc ++
    if isNeedUseIms then initImsMmiCodeFunc else []).lookup serviceCode

/-- The service code of the network password. -/
def networkPasswordCode : Str := "03".toList

namespace MmiSurroundings

variable (e : MmiSurroundings)

/-- What a function does. -/
def run (mmiData : ParsedMMIData) : MmiCodeFunc → List MmiEffect
  | .handleCallTransfer =>
    e.supplementary mmiData
      (CellularCallSupplement.handleCallTransfer e.platform e.network e.slotId mmiData.toMMIData)
  | .handleCallRestriction =>
    e.supplementary mmiData
      (CellularCallSupplement.handleCallRestriction e.platform e.network e.slotId
        mmiData.toMMIData)
  | .handleClip =>
    e.supplementary mmiData
      (CellularCallSupplement.handleClip e.network e.slotId mmiData.toMMIData)
  | .handleClir =>
    e.supplementary mmiData
      (CellularCallSupplement.handleClir e.network e.slotId mmiData.toMMIData)
  | .alterPinPassword => e.alterPinPassword mmiData
  | .unlockPuk => e.unlockPuk mmiData
  | .alterPin2Password => e.alterPin2Password mmiData
  | .unlockPuk2 => e.unlockPuk2 mmiData
  | .handleCallWaiting =>
    e.supplementary mmiData
      (CellularCallSupplement.handleCallWaiting e.network e.slotId mmiData.toMMIData)
  | .handleColp =>
    e.supplementary mmiData
      (CellularCallSupplement.handleColp e.network e.slotId mmiData.toMMIData)
  | .handleColr =>
    e.supplementary mmiData
      (CellularCallSupplement.handleColr e.network e.slotId mmiData.toMMIData)

/-- `ExecuteMmiCode`: whether the code was executed, and what it came to.  No
function is kept for the empty service code. -/
def executeMmiCode (isNeedUseIms : Bool) (mmiData : ParsedMMIData) : Bool × List MmiEffect :=
  if mmiData.serviceCode = networkPasswordCode then (true, [])
  else
    match mmiCodeFunc isNeedUseIms mmiData.serviceCode with
    | some func => (true, e.run mmiData func)
    | none =>
      if mmiData.fullString ≠ [] then (true, e.sendUssd mmiData.fullString) else (false, [])

end MmiSurroundings

/-! ## What a code comes to -/

/-- One request, or one result that says the code failed. -/
def Accounted (effects : List MmiEffect) : Prop :=
  (∃ request, effects = [.requested request]) ∨
    ∃ info, effects = [.reported info] ∧
      (info.result = mmiCodeFailed ∨ info.result = ussdFailed)

theorem not_accounted_nil : ¬Accounted [] := by
  rintro (⟨request, h⟩ | ⟨info, h, -⟩) <;> cases h

theorem not_accounted_cons_cons (effect effect' : MmiEffect) (effects : List MmiEffect) :
    ¬Accounted (effect :: effect' :: effects) := by
  rintro (⟨request, h⟩ | ⟨info, h, -⟩) <;> cases h

/-- What a handler issues for a code is a failure or a request. -/
inductive SsIssue.Answered : SsIssue → Prop
  | mmiFailed (message : Str) (h : message ∈ failureTexts) : Answered (.mmiFailed message)
  | sent (request : SsSent) (utCommand : SsRequestCommand) : Answered (.sent request utCommand)

namespace CellularCallSupplement

theorem answered_genericFailure : (SsIssue.mmiFailed genericFailure).Answered :=
  .mmiFailed _ (by simp [failureTexts])

theorem answered_invalidMmiCode : (SsIssue.mmiFailed invalidMmiCode).Answered :=
  .mmiFailed _ (by simp [failureTexts])

theorem answered_fromMmi (request : Option SsSent) (utCommand : SsRequestCommand) :
    (fromMmi request utCommand).Answered := by
  cases request with
  | none => exact answered_genericFailure
  | some request => exact .sent request utCommand

/-- The outcome of an action, where the actions that change something may fail to
be answered. -/
theorem answered_byAction {mmiData : MMIData} {activate deactivate interrogate : SsIssue}
    (hactivate : mmiData.actionString = ['*'] → activate.Answered)
    (hdeactivate : mmiData.actionString = ['#'] → deactivate.Answered)
    (hinterrogate : interrogate.Answered) :
    (byAction mmiData activate deactivate interrogate).Answered := by
  unfold byAction
  split_ifs with hnone hstar hhash hquery
  · exact answered_invalidMmiCode
  · exact hactivate hstar
  · exact hdeactivate hhash
  · exact hinterrogate
  · exact answered_genericFailure

variable (P : SsPlatform) (net : SsNetwork) (slotId : Int) (mmiData : MMIData)

theorem answered_handleClip : (handleClip net slotId mmiData).Answered :=
  answered_byAction (fun _ => .sent _ _) (fun _ => .sent _ _) (answered_fromMmi _ _)

theorem answered_handleClir : (handleClir net slotId mmiData).Answered :=
  answered_byAction (fun _ => answered_fromMmi _ _) (fun _ => answered_fromMmi _ _)
    (answered_fromMmi _ _)

theorem answered_handleColr : (handleColr net slotId mmiData).Answered :=
  answered_byAction (fun _ => answered_fromMmi _ _) (fun _ => answered_fromMmi _ _)
    (answered_fromMmi _ _)

theorem answered_handleColp : (handleColp net slotId mmiData).Answered :=
  answered_byAction (fun _ => answered_fromMmi _ _) (fun _ => answered_fromMmi _ _)
    (answered_fromMmi _ _)

theorem answered_handleCallWaiting : (handleCallWaiting net slotId mmiData).Answered :=
  answered_byAction (fun _ => answered_fromMmi _ _) (fun _ => answered_fromMmi _ _)
    (answered_fromMmi _ _)

theorem answered_handleSetCallTransfer (serviceCode cause : Int) (phoneNumber : Str)
    (callTransferAction : Int) :
    (handleSetCallTransfer P net slotId serviceCode cause phoneNumber
      callTransferAction).Answered := by
  simp only [handleSetCallTransfer]
  split_ifs
  · exact answered_genericFailure
  · exact .sent _ _
  · exact .sent _ _

theorem answered_handleCallTransfer : (handleCallTransfer P net slotId mmiData).Answered := by
  simp only [handleCallTransfer]
  split_ifs with hquery hnone
  · exact answered_fromMmi _ _
  · exact answered_invalidMmiCode
  · cases obtainCallTrasferAction mmiData.actionString mmiData.serviceInfoA with
    | none => exact answered_genericFailure
    | some action => exact answered_handleSetCallTransfer P net slotId _ _ _ action

/-- The password of a barring code that activates or deactivates does not fit its
buffer. -/
def PasswordTooLong : Prop :=
  (mmiData.actionString = ['*'] ∨ mmiData.actionString = ['#']) ∧
    strcpyS (P.kMaxNumberLen + 1) mmiData.serviceInfoA = none

theorem setFacility_eq_dropped {facType infoA : Str} {enable : Bool}
    (h : strcpyS (P.kMaxNumberLen + 1) infoA = none) :
    setFacility P net slotId facType enable infoA = .dropped := by
  rw [setFacility, h]

theorem answered_setFacility {facType infoA : Str} {enable : Bool}
    (h : strcpyS (P.kMaxNumberLen + 1) infoA ≠ none) :
    (setFacility P net slotId facType enable infoA).Answered := by
  obtain ⟨password, hcopy⟩ := Option.ne_none_iff_exists'.mp h
  rw [setFacility, hcopy]
  exact answered_fromMmi _ _

theorem handleCallRestriction_eq_dropped (h : PasswordTooLong P mmiData) :
    handleCallRestriction P net slotId mmiData = .dropped := by
  obtain ⟨haction, hcopy⟩ := h
  rcases haction with haction | haction
  · simp only [handleCallRestriction, byAction, haction, setFacility_eq_dropped P net slotId hcopy]
    rfl
  · simp only [handleCallRestriction, byAction, haction, setFacility_eq_dropped P net slotId hcopy]
    rfl

theorem answered_handleCallRestriction (h : ¬PasswordTooLong P mmiData) :
    (handleCallRestriction P net slotId mmiData).Answered :=
  answered_byAction
    (fun haction => answered_setFacility P net slotId fun hcopy => h ⟨Or.inl haction, hcopy⟩)
    (fun haction => answered_setFacility P net slotId fun hcopy => h ⟨Or.inr haction, hcopy⟩)
    (answered_fromMmi _ _)

end CellularCallSupplement

namespace MmiSurroundings

variable {e : MmiSurroundings}

theorem accounted_reportMmiCodeMessage (hfits : e.platform.HoldsFailures) {failedMsg : Str}
    (h : failedMsg ∈ failureTexts) : Accounted (e.reportMmiCodeMessage failedMsg) := by
  obtain ⟨message, hcopy⟩ := Option.isSome_iff_exists.mp (hfits failedMsg h)
  rw [reportMmiCodeMessage, hcopy]
  exact Or.inr ⟨_, rfl, Or.inl rfl⟩

theorem reportMmiCodeMessage_ne_nil (hfits : e.platform.HoldsFailures) {failedMsg : Str}
    (h : failedMsg ∈ failureTexts) : e.reportMmiCodeMessage failedMsg ≠ [] := by
  intro hnil
  have haccounted := accounted_reportMmiCodeMessage hfits h
  rw [hnil] at haccounted
  exact not_accounted_nil haccounted

theorem genericFailure_mem : genericFailure ∈ failureTexts := by simp [failureTexts]

theorem accounted_issued (hfits : e.platform.HoldsFailures) {issue : SsIssue}
    (h : issue.Answered) : Accounted (e.issued issue) := by
  cases h with
  | mmiFailed message hmem => exact accounted_reportMmiCodeMessage hfits hmem
  | sent request utCommand =>
    rw [issued]
    split_ifs
    · exact Or.inl ⟨_, rfl⟩
    · exact accounted_reportMmiCodeMessage hfits genericFailure_mem

theorem accounted_supplementary (hfits : e.platform.HoldsFailures) {mmiData : ParsedMMIData}
    {issue : SsIssue} (h : e.hasHandler = true → issue.Answered) :
    Accounted (e.supplementary mmiData issue) := by
  unfold supplementary
  split_ifs with hnone hhandler
  · exact accounted_reportMmiCodeMessage hfits (by simp [failureTexts])
  · exact accounted_reportMmiCodeMessage hfits genericFailure_mem
  · exact accounted_issued hfits (h (Bool.eq_true_of_not_eq_false hhandler))

/-- A new PIN that the SIM takes, with nobody to hand its answer to. -/
def PinUnclaimed (e : MmiSurroundings) (mmiData : ParsedMMIData) (request : MmiRequest) : Prop :=
  e.hasHandler = false ∧
    CellularCallSupplement.isVaildPinOrPuk mmiData.serviceInfoB mmiData.serviceInfoC = none ∧
    e.accepts request = true

theorem mem_failureTexts_of_isVaildPinOrPuk {newPinOrPuk newPinOrPukCheck failedMsg : Str}
    (h : CellularCallSupplement.isVaildPinOrPuk newPinOrPuk newPinOrPukCheck = some failedMsg) :
    failedMsg ∈ failureTexts := by
  unfold CellularCallSupplement.isVaildPinOrPuk at h
  split_ifs at h <;> obtain rfl := Option.some.inj h <;> simp [failureTexts]

theorem accounted_newPin (hfits : e.platform.HoldsFailures) {mmiData : ParsedMMIData}
    (haction : mmiData.actionString ≠ []) (request : MmiRequest) :
    Accounted (e.newPin mmiData request) ↔ ¬e.PinUnclaimed mmiData request := by
  rw [newPin, if_neg haction, PinUnclaimed]
  cases hvalid : CellularCallSupplement.isVaildPinOrPuk mmiData.serviceInfoB
      mmiData.serviceInfoC with
  | some failedMsg =>
    have hreport := accounted_reportMmiCodeMessage hfits
      (mem_failureTexts_of_isVaildPinOrPuk hvalid)
    exact iff_of_true hreport fun h => Option.some_ne_none _ h.2.1
  | none =>
    dsimp only
    cases haccepts : e.accepts request with
    | false =>
      have hreport := accounted_reportMmiCodeMessage hfits genericFailure_mem
      exact iff_of_true hreport fun h => Bool.false_ne_true h.2.2
    | true =>
      cases hhandler : e.hasHandler with
      | true => exact iff_of_true (Or.inl ⟨_, rfl⟩) fun h => Bool.false_ne_true h.1.symm
      | false =>
        -- the request has been made, and the report comes on top of it
        refine iff_of_false ?_ fun h => h ⟨rfl, rfl, rfl⟩
        obtain ⟨effect, effects, hreport⟩ :=
          List.exists_cons_of_ne_nil (reportMmiCodeMessage_ne_nil hfits genericFailure_mem)
        rw [if_pos rfl, if_neg Bool.false_ne_true, hreport]
        exact not_accounted_cons_cons _ _ _

theorem accounted_sendUssd (e : MmiSurroundings) (msg : Str) : Accounted (e.sendUssd msg) := by
  unfold sendUssd
  split_ifs
  · exact Or.inl ⟨_, rfl⟩
  · exact Or.inr ⟨_, rfl, Or.inr rfl⟩

/-- The request of a function that changes a PIN. -/
def pinRequest (e : MmiSurroundings) (mmiData : ParsedMMIData) : MmiCodeFunc → Option MmiRequest
  | .alterPinPassword => some (.alterPin e.slotId mmiData.serviceInfoB mmiData.serviceInfoA)
  | .unlockPuk => some (.unlockPuk e.slotId mmiData.serviceInfoB mmiData.serviceInfoA)
  | .alterPin2Password => some (.alterPin2 e.slotId mmiData.serviceInfoB mmiData.serviceInfoA)
  | .unlockPuk2 => some (.unlockPuk2 e.slotId mmiData.serviceInfoB mmiData.serviceInfoA)
  | .handleCallTransfer | .handleCallRestriction | .handleClip | .handleClir
  | .handleCallWaiting | .handleColp | .handleColr => none

/-- The function does not lose the code: the password of a barring code fits, and
the SIM's answer to a new PIN has a handler to go to. -/
structure Answers (e : MmiSurroundings) (mmiData : ParsedMMIData) (func : MmiCodeFunc) : Prop where
  password : func = .handleCallRestriction → e.hasHandler = true →
    ¬CellularCallSupplement.PasswordTooLong e.platform mmiData.toMMIData
  pin : ∀ request ∈ e.pinRequest mmiData func, ¬e.PinUnclaimed mmiData request

theorem accounted_run (hfits : e.platform.HoldsFailures) {mmiData : ParsedMMIData}
    (haction : mmiData.actionString ≠ []) (func : MmiCodeFunc) :
    Accounted (e.run mmiData func) ↔ e.Answers mmiData func := by
  have hservice : ∀ {issue : SsIssue}, issue.Answered →
      func ≠ .handleCallRestriction → e.pinRequest mmiData func = none →
      (Accounted (e.supplementary mmiData issue) ↔ e.Answers mmiData func) := by
    intro issue hanswered hfunc hpin
    refine iff_of_true (accounted_supplementary hfits fun _ => hanswered) ⟨?_, ?_⟩
    · exact fun h => absurd h hfunc
    · intro request hmem
      rw [hpin] at hmem
      cases hmem
  have hpin : ∀ {request : MmiRequest}, func ≠ .handleCallRestriction →
      e.pinRequest mmiData func = some request →
      (Accounted (e.newPin mmiData request) ↔ e.Answers mmiData func) := by
    intro request hfunc hrequest
    rw [accounted_newPin hfits haction]
    constructor
    · intro hclaimed
      refine ⟨fun h => absurd h hfunc, fun request' hmem => ?_⟩
      rw [hrequest] at hmem
      obtain rfl := Option.some.inj hmem
      exact hclaimed
    · exact fun h => h.pin request hrequest
  cases func with
  | handleCallRestriction =>
    constructor
    · intro haccounted
      refine ⟨fun _ hhandler hlong => ?_, fun request hmem => by cases hmem⟩
      have hdropped := CellularCallSupplement.handleCallRestriction_eq_dropped e.platform e.network
        e.slotId mmiData.toMMIData hlong
      have hthere : ¬e.hasHandler = false := by
        rw [hhandler]
        exact Bool.noConfusion
      rw [run, supplementary, if_neg haction, if_neg hthere, hdropped] at haccounted
      exact not_accounted_nil haccounted
    · intro h
      exact accounted_supplementary hfits fun hhandler =>
        CellularCallSupplement.answered_handleCallRestriction _ _ _ _ (h.password rfl hhandler)
  | handleCallTransfer =>
    exact hservice (CellularCallSupplement.answered_handleCallTransfer _ _ _ _) nofun rfl
  | handleClip => exact hservice (CellularCallSupplement.answered_handleClip _ _ _) nofun rfl
  | handleClir => exact hservice (CellularCallSupplement.answered_handleClir _ _ _) nofun rfl
  | handleCallWaiting =>
    exact hservice (CellularCallSupplement.answered_handleCallWaiting _ _ _) nofun rfl
  | handleColp => exact hservice (CellularCallSupplement.answered_handleColp _ _ _) nofun rfl
  | handleColr => exact hservice (CellularCallSupplement.answered_handleColr _ _ _) nofun rfl
  | alterPinPassword => exact hpin nofun rfl
  | unlockPuk => exact hpin nofun rfl
  | alterPin2Password => exact hpin nofun rfl
  | unlockPuk2 => exact hpin nofun rfl

end MmiSurroundings

/-! ### No code is lost -/

/-- An MMI code that is parsed has the action of its procedure. -/
theorem actionString_ne_nil_of_isNeedExecuteMmi {hasCellularCallExist : Bool} {s : Str}
    {mmiData : ParsedMMIData} (h : isNeedExecuteMmi hasCellularCallExist s = some mmiData)
    (hservice : mmiData.serviceCode ≠ []) : mmiData.actionString ≠ [] := by
  obtain ⟨m, v, -, -, rfl⟩ := procedure_of_isNeedExecuteMmi h hservice
  have hall : (mmiActions.all fun action => action != []) = true := by decide
  exact bne_iff_ne.mp (List.all_eq_true.mp hall m.action m.action_mem)

/-- A code has a service code or a full string. -/
theorem fullString_ne_nil_of_isNeedExecuteMmi {hasCellularCallExist : Bool} {s : Str}
    {mmiData : ParsedMMIData} (h : isNeedExecuteMmi hasCellularCallExist s = some mmiData) :
    mmiData.fullString ≠ [] := by
  rcases isNeedExecuteMmi_eq_some h with rfl | hregex
  · intro hnil
    subst hnil
    cases h
  · obtain ⟨m, v, -, rfl, rfl⟩ := regexMatchMmi_eq_some_iff.mp hregex
    have htext : m.text ≠ [] := by
      intro hnil
      have hlength := m.length_text
      rw [hnil] at hlength
      cases hlength
    simp only [MmiProcedure.data]
    split_ifs
    · exact List.append_ne_nil_of_left_ne_nil htext v
    · exact htext

theorem serviceCode_ne_nil_of_mmiCodeFunc {isNeedUseIms : Bool} {serviceCode : Str}
    {func : MmiCodeFunc} (h : mmiCodeFunc isNeedUseIms serviceCode = some func) :
    serviceCode ≠ [] := by
  intro hnil
  subst hnil
  cases isNeedUseIms <;> cases h

namespace MmiSurroundings

/-- The code is not lost: it is not for the network password, and its function, if
it has one, does not lose it. -/
structure Keeps (e : MmiSurroundings) (isNeedUseIms : Bool) (mmiData : ParsedMMIData) : Prop where
  networkPassword : mmiData.serviceCode ≠ networkPasswordCode
  func : ∀ func ∈ mmiCodeFunc isNeedUseIms mmiData.serviceCode, e.Answers mmiData func

/-- What is parsed comes to one request or one report exactly when it is not
lost. -/
theorem accounted_executeMmiCode_iff (e : MmiSurroundings) (hfits : e.platform.HoldsFailures)
    (isNeedUseIms hasCellularCallExist : Bool) (s : Str) (mmiData : ParsedMMIData)
    (h : isNeedExecuteMmi hasCellularCallExist s = some mmiData) :
    Accounted (e.executeMmiCode isNeedUseIms mmiData).2 ↔ e.Keeps isNeedUseIms mmiData := by
  unfold executeMmiCode
  by_cases hpassword : mmiData.serviceCode = networkPasswordCode
  · rw [if_pos hpassword]
    exact iff_of_false not_accounted_nil fun hkeeps => hkeeps.networkPassword hpassword
  rw [if_neg hpassword]
  cases hfunc : mmiCodeFunc isNeedUseIms mmiData.serviceCode with
  | none =>
    have hussd : Accounted (e.sendUssd mmiData.fullString) := accounted_sendUssd e _
    rw [if_pos (fullString_ne_nil_of_isNeedExecuteMmi h)]
    refine iff_of_true hussd ⟨hpassword, fun func hmem => ?_⟩
    rw [hfunc] at hmem
    cases hmem
  | some func =>
    have haction := actionString_ne_nil_of_isNeedExecuteMmi h
      (serviceCode_ne_nil_of_mmiCodeFunc hfunc)
    have hrun : Accounted (e.run mmiData func) ↔ e.Answers mmiData func :=
      accounted_run hfits haction func
    refine hrun.trans ⟨fun hanswers => ⟨hpassword, fun func' hmem => ?_⟩, fun hkeeps => ?_⟩
    · rw [hfunc] at hmem
      obtain rfl := Option.some.inj hmem
      exact hanswers
    · exact hkeeps.func func hfunc

/-- A slot without IMS, where every request is taken. -/
def plain : MmiSurroundings where
  platform := .plain
  network := ⟨false, true, 0⟩
  slotId := 0
  accepts := fun _ => true
  hasHandler := true

theorem holdsFailures_plain : plain.platform.HoldsFailures := by
  have hall : (failureTexts.all fun text =>
    (strcpyS plain.platform.mmiMessageSize text).isSome) = true := by decide
  exact List.all_eq_true.mp hall

/-- The code that changes the network password: nothing is sent, nothing is
reported. -/
theorem not_accounted_networkPassword :
    ¬∀ (e : MmiSurroundings) (isNeedUseIms hasCellularCallExist : Bool) (s : Str)
        (mmiData : ParsedMMIData), e.platform.HoldsFailures →
      isNeedExecuteMmi hasCellularCallExist s = some mmiData →
        Accounted (e.executeMmiCode isNeedUseIms mmiData).2 := by
  intro hclaim
  have hsilent : Accounted [] := hclaim plain false false "**03**1111*2222*2222#".toList
    ⟨⟨"**".toList, "03".toList, [], "1111".toList⟩, "**03**1111*2222*2222#".toList,
      "2222".toList, "2222".toList, []⟩ holdsFailures_plain (by decide)
  exact not_accounted_nil hsilent

/-- A code that asks for the state of call waiting comes to one request. -/
theorem accounted_callWaiting :
    Accounted (plain.executeMmiCode false
      ⟨⟨"*#".toList, "43".toList, [], []⟩, "*#43#".toList, [], [], []⟩).2 := by
  refine (accounted_executeMmiCode_iff plain holdsFailures_plain false false "*#43#".toList _
    (by decide)).mpr ⟨by decide, fun func hfunc => ?_⟩
  have hwaiting : some MmiCodeFunc.handleCallWaiting = some func := hfunc
  obtain rfl := Option.some.inj hwaiting
  exact ⟨nofun, nofun⟩

end MmiSurroundings

/-! ## Strings that are executed as they are -/

/-- What `IsNeedExecuteMMI` returns, and what it leaves in the string and in the
CLIR mode it is given. -/
def MmiOutcome.returned (phoneString : Str) (clirMode : CLIRMode) :
    MmiOutcome → Bool × Str × CLIRMode
  | .executed => (true, phoneString, clirMode)
  | .plain => (false, phoneString, clirMode)
  | .clir dialString mode => (false, dialString, if mode = .default then clirMode else mode)

/-- The string has no number after a procedure that opens with a single `*` or
`#`. -/
def NoNumberAfter (s : Str) : Prop :=
  ∀ (m : MmiProcedure) (number : Str), m.Spells number s →
    number = [] ∨ (m.action ≠ ['*'] ∧ m.action ≠ ['#'])

namespace DialContext

/-- The string is executed, and is not changed: the function of a service code is
run, or the string itself is sent as USSD. -/
def ExecutesWhole (x : DialContext) (e : MmiSurroundings) (isNeedUseIms : Bool) (s : Str) : Prop :=
  ∃ mmiData : ParsedMMIData, (x.isNeedExecuteMMI s).2 = some mmiData ∧
    (∀ clirMode, (x.isNeedExecuteMMI s).1.returned s clirMode = (true, s, clirMode)) ∧
    ((∃ func ∈ mmiCodeFunc isNeedUseIms mmiData.serviceCode,
        e.executeMmiCode isNeedUseIms mmiData = (true, e.run mmiData func)) ∨
      e.executeMmiCode isNeedUseIms mmiData = (true, e.sendUssd s))

variable {x : DialContext} {e : MmiSurroundings} {isNeedUseIms : Bool} {s : Str}

theorem ne_nil_of_isBracketed (h : isBracketed s = true) : s ≠ [] := by
  intro hnil
  subst hnil
  cases h

/-- The whole string is sent where it is not parsed. -/
theorem executeMmiCode_ofFullString (e : MmiSurroundings) (isNeedUseIms : Bool)
    (h : s ≠ []) :
    e.executeMmiCode isNeedUseIms (.ofFullString s) = (true, e.sendUssd s) := by
  have hcode : (ParsedMMIData.ofFullString s).serviceCode = [] := rfl
  have hpassword : ([] : Str) ≠ networkPasswordCode := by decide
  have hfunc : mmiCodeFunc isNeedUseIms [] = none := by cases isNeedUseIms <;> rfl
  rw [MmiSurroundings.executeMmiCode, hcode, if_neg hpassword, hfunc]
  exact if_pos h

/-- A bracketed string that is a procedure with a line after it is its full
string. -/
theorem fullString_of_isBracketed {m : MmiProcedure} {v : Str} (hspells : m.Spells v s)
    (hbracketed : isBracketed s = true) : (m.data v).fullString = s := by
  have hlast : s.getLast? = some '#' := by
    rw [isBracketed, Bool.and_eq_true] at hbracketed
    exact beq_iff_eq.mp hbracketed.2
  have hfull := m.fullString_data v
  rw [← hspells.text] at hfull
  by_cases hnil : v = []
  · rw [if_neg fun h => h.2 hnil] at hfull
    have hdial : (m.data v).dialString = [] := hnil
    rw [hdial, List.append_nil] at hfull
    exact hfull
  · rw [if_pos ⟨hlast, hnil⟩] at hfull
    exact hfull

/-- A procedure is executed unless it is for the network password. -/
theorem executeMmiCode_data_iff {m : MmiProcedure} {v : Str} (hspells : m.Spells v s)
    (hbracketed : isBracketed s = true) :
    ((∃ func ∈ mmiCodeFunc isNeedUseIms (m.data v).serviceCode,
        e.executeMmiCode isNeedUseIms (m.data v) = (true, e.run (m.data v) func)) ∨
      e.executeMmiCode isNeedUseIms (m.data v) = (true, e.sendUssd s)) ↔
      m.serviceCode ≠ networkPasswordCode := by
  have hcode : (m.data v).serviceCode = m.serviceCode := rfl
  have hfull := fullString_of_isBracketed hspells hbracketed
  by_cases hpassword : m.serviceCode = networkPasswordCode
  · refine iff_of_false ?_ (not_not.mpr hpassword)
    rw [MmiSurroundings.executeMmiCode, hcode, if_pos hpassword, hpassword]
    intro h
    rcases h with ⟨func, hfunc, -⟩ | hussd
    · cases isNeedUseIms <;> cases hfunc
    · have hsilent : Accounted (e.sendUssd s) := MmiSurroundings.accounted_sendUssd e s
      rw [← (Prod.mk.inj hussd).2] at hsilent
      exact not_accounted_nil hsilent
  · refine iff_of_true ?_ hpassword
    rw [MmiSurroundings.executeMmiCode, hcode, if_neg hpassword]
    cases hfunc : mmiCodeFunc isNeedUseIms m.serviceCode with
    | some func => exact Or.inl ⟨func, rfl, rfl⟩
    | none =>
      refine Or.inr ?_
      rw [hfull]
      exact if_pos (ne_nil_of_isBracketed hbracketed)

/-- What is not parsed as a procedure is taken whole. -/
theorem eq_ofFullString {hasCellularCallExist : Bool} {mmiData : ParsedMMIData}
    (hparsed : isNeedExecuteMmi hasCellularCallExist s = some mmiData)
    (hno : ¬∃ (m : MmiProcedure) (v : Str), m.Spells v s) : mmiData = .ofFullString s := by
  rcases isNeedExecuteMmi_eq_some hparsed with hwhole | hregex
  · exact hwhole
  · obtain ⟨m, v, hline, hs, -⟩ := regexMatchMmi_eq_some_iff.mp hregex
    exact absurd ⟨m, v, hline, hs⟩ hno

/-- What is parsed is executed unless it is a procedure for the network password. -/
theorem executeMmiCode_parsed_iff {hasCellularCallExist : Bool} {mmiData : ParsedMMIData}
    (hparsed : isNeedExecuteMmi hasCellularCallExist s = some mmiData)
    (hbracketed : isBracketed s = true) :
    ((∃ func ∈ mmiCodeFunc isNeedUseIms mmiData.serviceCode,
        e.executeMmiCode isNeedUseIms mmiData = (true, e.run mmiData func)) ∨
      e.executeMmiCode isNeedUseIms mmiData = (true, e.sendUssd s)) ↔
      ∀ (m : MmiProcedure) (v : Str), m.Spells v s → m.serviceCode ≠ networkPasswordCode := by
  by_cases hprocedure : ∃ (m : MmiProcedure) (v : Str), m.Spells v s
  · obtain ⟨m, v, hspells⟩ := hprocedure
    rw [hspells.isNeedExecuteMmi_eq] at hparsed
    obtain rfl := Option.some.inj hparsed
    rw [executeMmiCode_data_iff hspells hbracketed]
    constructor
    · intro hcode m' v' hspells'
      obtain ⟨rfl, -⟩ := MmiProcedure.text_append_inj (hspells'.text.symm.trans hspells.text)
      exact hcode
    · intro hcode
      exact hcode m v hspells
  · rw [eq_ofFullString hparsed hprocedure]
    refine iff_of_true (Or.inr ?_) (fun m v hspells => absurd ⟨m, v, hspells⟩ hprocedure)
    exact executeMmiCode_ofFullString e isNeedUseIms (ne_nil_of_isBracketed hbracketed)

theorem Prefixed.not_noNumberAfter {m : MmiProcedure} {number : Str}
    (h : x.Prefixed s m number) : ¬NoNumberAfter s := by
  intro hnumber
  rcases hnumber m number ⟨h.line, h.text⟩ with hnil | ⟨hstar, hhash⟩
  · exact h.number hnil
  · exact h.single.elim hstar hhash

theorem noNumberAfter_of_not_prefixed (hlooks : x.LooksForCode s)
    (hprefixed : ∀ m number, ¬x.Prefixed s m number) : NoNumberAfter s := by
  intro m number hspells
  by_contra hnot
  rw [not_or, not_and_or, not_not, not_not] at hnot
  exact hprefixed m number ⟨hlooks, hspells.text, hspells.line, hnot.1, hnot.2⟩

/-- A string between `*` or `#` and `#` that is looked at as a code is executed as
it is exactly when it has no number after a procedure, and is not for the network
password. -/
theorem executesWhole_iff (x : DialContext) (e : MmiSurroundings) (isNeedUseIms : Bool) (s : Str)
    (hbracketed : isBracketed s = true) (hlooks : x.LooksForCode s)
    (hhandler : x.hasHandler = true) :
    x.ExecutesWhole e isNeedUseIms s ↔
      NoNumberAfter s ∧ ∀ (m : MmiProcedure) (v : Str), m.Spells v s →
        m.serviceCode ≠ networkPasswordCode := by
  have hmmi : IsMmi x.hasCellularCallExist s :=
    ⟨ne_nil_of_isBracketed hbracketed, Or.inr (Or.inr hbracketed)⟩
  unfold ExecutesWhole
  cases hread : x.isNeedExecuteMMI s with
  | mk outcome code =>
    have hreads := x.reads s
    rw [hread] at hreads
    cases hreads with
    | alone halone =>
      have hnone := (halone hlooks hmmi).1
      rw [hhandler] at hnone
      cases hnone
    | prefixed m number h =>
      refine iff_of_false ?_ (fun hall => h.not_noNumberAfter hall.1)
      intro hwhole
      obtain ⟨mmiData, hcode, -⟩ := hwhole
      cases hcode
    | executed mmiData hparsed _ hprefixed =>
      constructor
      · intro hwhole
        obtain ⟨mmiData', hcode, -, hexecuted⟩ := hwhole
        obtain rfl := Option.some.inj hcode
        exact ⟨noNumberAfter_of_not_prefixed hlooks hprefixed,
          (executeMmiCode_parsed_iff hparsed hbracketed).mp hexecuted⟩
      · intro hall
        exact ⟨mmiData, rfl, fun _ => rfl,
          (executeMmiCode_parsed_iff hparsed hbracketed).mpr hall.2⟩

/-- A procedure before 456#: the number is dialled. -/
theorem not_executesWhole :
    ¬∀ (x : DialContext) (e : MmiSurroundings) (isNeedUseIms : Bool) (s : Str),
      isBracketed s = true → x.LooksForCode s → x.hasHandler = true →
        x.ExecutesWhole e isNeedUseIms s := by
  intro hclaim
  obtain ⟨mmiData, hcode, -⟩ := hclaim DialScene.plain.context .plain false "*21*123#456#".toList
    (by decide) ⟨by decide, nofun⟩ rfl
  have hdialled : (DialScene.plain.context.isNeedExecuteMMI "*21*123#456#".toList).2 = none := by
    decide
  rw [hdialled] at hcode
  cases hcode

/-- The code that asks for the IMEI is sent as USSD. -/
theorem executesWhole_imei :
    DialScene.plain.context.ExecutesWhole .plain false "*#06#".toList := by
  have himei : ∀ (m : MmiProcedure) (v : Str), m.Spells v "*#06#".toList →
      m.action = "*#".toList ∧ m.serviceCode = "06".toList := by
    intro m v hspells
    have hparsed := hspells.isNeedExecuteMmi_eq false
    have hdata : isNeedExecuteMmi false "*#06#".toList =
        some ⟨⟨"*#".toList, "06".toList, [], []⟩, "*#06#".toList, [], [], []⟩ := by decide
    have heq := Option.some.inj (hparsed.symm.trans hdata)
    exact ⟨congrArg (·.actionString) heq, congrArg (·.serviceCode) heq⟩
  refine (executesWhole_iff DialScene.plain.context .plain false "*#06#".toList (by decide)
    ⟨by decide, nofun⟩ rfl).mpr ⟨fun m number hspells => Or.inr ?_, fun m v hspells => ?_⟩
  · rw [(himei m number hspells).1]
    decide
  · rw [(himei m v hspells).2]
    decide

end DialContext

/-! ## The query -/

/-- `CellularCallService::IsMmiCode`. -/
def CellularCallService.isMmiCode (x : DialContext) (number : Str) : Bool :=
  if isValidSlotId x.slots.length x.slotId = false then false
  else if x.isMmiCode.any (fun isMmiCode => !isMmiCode number) then false
  else
    match isNeedExecuteMmi x.hasCellularCallExist number with
    | none => false
    | some mmiData =>
      if mmiData.serviceCode ≠ [] ∧ mmiData.dialString ≠ [] ∧
          (mmiData.actionString = ['*'] ∨ mmiData.actionString = ['#']) then false
      else true

namespace DialContext

variable {x : DialContext} {s : Str}

/-- The vendor does not object, and the string is a code with no number after
it. -/
structure CodeAlone (x : DialContext) (s : Str) : Prop where
  isMmiCode : ∀ isMmiCode ∈ x.isMmiCode, isMmiCode s = true
  isMmi : IsMmi x.hasCellularCallExist s
  alone : NoNumberAfter s

/-- The parsed data tell whether there is a number after a procedure. -/
theorem noNumberAfter_iff {hasCellularCallExist : Bool} {mmiData : ParsedMMIData}
    (hparsed : isNeedExecuteMmi hasCellularCallExist s = some mmiData) :
    NoNumberAfter s ↔
      ¬(mmiData.serviceCode ≠ [] ∧ mmiData.dialString ≠ [] ∧
        (mmiData.actionString = ['*'] ∨ mmiData.actionString = ['#'])) := by
  constructor
  · intro hnumber h
    obtain ⟨hservice, hdial, hsingle⟩ := h
    obtain ⟨m, v, hline, hs, rfl⟩ := procedure_of_isNeedExecuteMmi hparsed hservice
    rcases hnumber m v ⟨hline, hs⟩ with hnil | ⟨hstar, hhash⟩
    · exact hdial hnil
    · exact hsingle.elim hstar hhash
  · intro hno m number hspells
    obtain rfl := Option.some.inj ((hspells.isNeedExecuteMmi_eq _).symm.trans hparsed)
    by_contra hnot
    rw [not_or, not_and_or, not_not, not_not] at hnot
    exact hno ⟨m.serviceCode_ne_nil, hnot.1, hnot.2⟩

/-- The query finds the codes with no number after them. -/
theorem isMmiCode_eq_true_iff (hvalid : isValidSlotId x.slots.length x.slotId = true) :
    CellularCallService.isMmiCode x s = true ↔ x.CodeAlone s := by
  unfold CellularCallService.isMmiCode
  have hslot : ¬isValidSlotId x.slots.length x.slotId = false := by
    rw [hvalid]
    exact Bool.noConfusion
  rw [if_neg hslot]
  by_cases hvendor : x.isMmiCode.any (fun isMmiCode => !isMmiCode s) = true
  · rw [if_pos hvendor]
    refine iff_of_false Bool.false_ne_true fun h => ?_
    obtain ⟨isMmiCode, hmem, hno⟩ := (Option.any_eq_true ..).mp hvendor
    rw [h.isMmiCode isMmiCode hmem] at hno
    cases hno
  rw [if_neg hvendor]
  have hlets : ∀ isMmiCode ∈ x.isMmiCode, isMmiCode s = true := by
    intro isMmiCode hmem
    rw [Option.mem_def.mp hmem, Option.any_some, Bool.not_eq_true', Bool.not_eq_false] at hvendor
    exact hvendor
  cases hparsed : isNeedExecuteMmi x.hasCellularCallExist s with
  | none =>
    refine iff_of_false Bool.false_ne_true fun h => ?_
    obtain ⟨mmiData, hsome⟩ := isMmi_iff.mp h.isMmi
    rw [hparsed] at hsome
    cases hsome
  | some mmiData =>
    have hnumber := noNumberAfter_iff hparsed
    dsimp only
    by_cases hprefixed : mmiData.serviceCode ≠ [] ∧ mmiData.dialString ≠ [] ∧
        (mmiData.actionString = ['*'] ∨ mmiData.actionString = ['#'])
    · rw [if_pos hprefixed]
      exact iff_of_false Bool.false_ne_true fun h => hnumber.mp h.alone hprefixed
    · rw [if_neg hprefixed]
      exact iff_of_true rfl ⟨hlets, isMmi_iff.mpr ⟨mmiData, hparsed⟩, hnumber.mpr hprefixed⟩

/-- The check of a dial executes them unless they are emergency numbers. -/
theorem executed_iff (hhandler : x.hasHandler = true) :
    (∃ mmiData, x.isNeedExecuteMMI s = (.executed, some mmiData)) ↔
      x.isEmergencyCall s = false ∧ x.CodeAlone s := by
  cases hread : x.isNeedExecuteMMI s with
  | mk outcome code =>
    have hreads := x.reads s
    rw [hread] at hreads
    cases hreads with
    | alone halone =>
      refine iff_of_false (fun ⟨mmiData, h⟩ => nomatch h) ?_
      intro h
      obtain ⟨hemergency, hcode⟩ := h
      have hnone := (halone ⟨hemergency, hcode.isMmiCode⟩ hcode.isMmi).1
      rw [hhandler] at hnone
      cases hnone
    | prefixed m number h =>
      exact iff_of_false (fun ⟨mmiData, h⟩ => nomatch h) fun hboth =>
        h.not_noNumberAfter hboth.2.alone
    | executed mmiData hparsed hcode hprefixed =>
      have hboth : x.LooksForCode s := by
        by_contra hlooks
        exact hcode fun h => absurd h hlooks
      exact iff_of_true ⟨mmiData, rfl⟩
        ⟨hboth.1, hboth.2, isMmi_iff.mpr ⟨mmiData, hparsed⟩,
          noNumberAfter_of_not_prefixed hboth hprefixed⟩

/-- The query and the check of a dial agree exactly where the string is no
emergency number, or no code that stands alone. -/
theorem isMmiCode_agrees_iff (x : DialContext) (s : Str)
    (hvalid : isValidSlotId x.slots.length x.slotId = true) (hhandler : x.hasHandler = true) :
    (CellularCallService.isMmiCode x s = true ↔
        ∃ mmiData, x.isNeedExecuteMMI s = (.executed, some mmiData)) ↔
      x.isEmergencyCall s = false ∨ ¬x.CodeAlone s := by
  rw [isMmiCode_eq_true_iff hvalid, executed_iff hhandler, iff_and_self]
  exact ⟨fun h => or_not_of_imp h, fun h hcode => h.resolve_right (not_not.mpr hcode)⟩

/-- A slot without a SIM, with the emergency numbers that hold then. -/
def noSim : DialContext :=
  { DialScene.plain.context with
    config := (EccConfig.init.initModeActive .twoSlots).mergeEccCallList .twoSlots 0
      ⟨.other, [], none⟩ fun _ => []
    sim := ⟨.other, [], none⟩ }

/-- 08 is dialled as an emergency number, and the query takes it for a short
code. -/
theorem not_isMmiCode_agrees :
    ¬∀ (x : DialContext) (s : Str), isValidSlotId x.slots.length x.slotId = true →
      x.hasHandler = true → (CellularCallService.isMmiCode x s = true ↔
        ∃ mmiData, x.isNeedExecuteMMI s = (.executed, some mmiData)) := by
  intro hclaim
  obtain ⟨mmiData, hexecuted⟩ := (hclaim noSim ['0', '8'] (by decide) rfl).mp (by decide)
  have hdialled : noSim.isNeedExecuteMMI ['0', '8'] = (.plain, none) := by decide
  rw [hdialled] at hexecuted
  cases hexecuted

/-- 55 is a short code for both. -/
theorem isMmiCode_agrees_shortCode :
    CellularCallService.isMmiCode DialScene.plain.context ['5', '5'] = true ↔
      ∃ mmiData, DialScene.plain.context.isNeedExecuteMMI ['5', '5'] = (.executed, some mmiData) :=
  (isMmiCode_agrees_iff DialScene.plain.context ['5', '5'] (by decide) rfl).mpr
    (Or.inl (by decide))

end DialContext

end CellularCall
