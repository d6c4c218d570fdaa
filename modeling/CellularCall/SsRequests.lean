import CellularCall.SsCommandTable
import CellularCall.SsResults

/-!
# Supplementary-service requests

`CellularCallSupplement` issues a supplementary service from a code of the dialer
or from the settings: over IMS, or over CS by way of `SupplementRequestCs` and the
core service.  Once the request is sent, its `SsRequestCommand` is saved, so that
the response can be attributed.

`SsCommand` is a command from either origin, and `SsCommand.issue` what becomes
of it.
-/

namespace CellularCall

/-! ## Parameters -/

/-- `SS_FROM_SETTING_MENU`, the flag of a command from the settings. -/
def ssFromSettingMenu : Int := 1

/-- `MMIData`, the parts of a code from the dialer. -/
structure MMIData where
  actionString : Str
  serviceCode : Str
  serviceInfoA : Str
  serviceInfoB : Str
deriving DecidableEq, Repr

/-- `CallTransferInfo`. -/
structure CallTransferInfo where
  transferNum : Str
  settingType : Int
  type : Int
  startHour : Int
  startMinute : Int
  endHour : Int
  endMinute : Int
deriving DecidableEq, Repr

/-- `CallTransferParam`. -/
structure CallTransferParam where
  mode : Int
  reason : Int
  number : Str
  classx : Int
deriving DecidableEq, Repr

/-- `CallRestrictionParam`. -/
structure CallRestrictionParam where
  fac : Str
  mode : Int
  password : Str
deriving DecidableEq, Repr

/-- `CallRestrictionType`. -/
inductive CallRestrictionType where
  | allIncoming
  | allOutgoing
  | international
  | internationalExcludingHome
  | roamingIncoming
  | allCalls
  | outgoingServices
  | incomingServices
  | other (value : Int)
deriving DecidableEq, Repr

/-- `CallRestrictionInfo`. -/
structure CallRestrictionInfo where
  fac : CallRestrictionType
  mode : Int
  password : Str
deriving DecidableEq, Repr

/-! `CallTransferSettingType`. -/

def callTransferDisable : Int := 0

def callTransferEnable : Int := 1

def callTransferRegistration : Int := 3

def callTransferErasure : Int := 4

/-! `CallTransferType`. -/

def transferTypeUnconditional : Int := 0

def transferTypeBusy : Int := 1

def transferTypeNoReply : Int := 2

def transferTypeNotReachable : Int := 3

def transferTypeAll : Int := 4

def transferTypeConditional : Int := 5

/-! `CallRestrictionMode`. -/

def restrictionModeDeactivation : Int := 0

def restrictionModeActivation : Int := 1

/-! `ServiceClassType`. -/

def serviceClassNone : Int := 0

def serviceClassVoice : Int := 1

def serviceClassFax : Int := 4

def serviceClassShortMessage : Int := 8

def serviceClassDataCircuitSync : Int := 16

def serviceClassDataCircuitAsync : Int := 32

def serviceClassDedicatedPacketAccess : Int := 64

def serviceClassDedicatedPadAccess : Int := 128

/-! Texts and actions of the dialer codes. -/

def invalidMmiCode : Str := "Invalid MMI code".toList

def genericFailure : Str := "Generic fail, please retry".toList

def activateAction : Int := 1

def deactivateAction : Int := 2

def numPresentationAllowed : Int := 0

def numPresentationRestricted : Int := 1

def subTypeQuery : Int := 0

def subTypeActive : Int := 1

def subTypeDeactive : Int := 2

/-- The number of a C++ `bool`. -/
def boolInt (b : Bool) : Int := if b then 1 else 0

/-! ## Requests -/

/-- What `SupplementRequestCs` asks the core service. -/
inductive CoreRequest where
  | getClip (slotId : Int)
  | setClir (slotId action : Int)
  | getClir (slotId : Int)
  | getCallTransferInfo (slotId reason : Int)
  | setCallTransferInfo (slotId : Int) (param : CallTransferParam)
  | getCallRestriction (slotId : Int) (fac : Str)
  | setCallRestriction (slotId : Int) (param : CallRestrictionParam)
  | setBarringPassword (slotId : Int) (oldPassword newPassword restrictionType : Str)
  | setCallWaiting (slotId : Int) (activate : Bool)
  | getCallWaiting (slotId : Int)
deriving DecidableEq, Repr

/-- What `SupplementRequestIms` asks the IMS service. -/
inductive ImsSsRequest where
  | setClip (slotId action : Int)
  | getClip (slotId : Int)
  | setClir (slotId action : Int)
  | getClir (slotId : Int)
  | setCallTransfer (slotId : Int) (cfInfo : CallTransferInfo) (classType : Int)
  | getCallTransfer (slotId reason : Int)
  | setCallRestriction (slotId : Int) (fac : Str) (mode : Int) (pw : Str)
  | getCallRestriction (slotId : Int) (fac : Str)
  | setCallWaiting (slotId : Int) (activate : Bool) (classType : Int)
  | getCallWaiting (slotId : Int)
  | setColr (slotId presentation : Int)
  | getColr (slotId : Int)
  | setColp (slotId action : Int)
  | getColp (slotId : Int)
deriving DecidableEq, Repr

namespace SupplementRequestCs

/-- `SetCallRestrictionRequest`: a password that does not fit is an error. -/
def setCallRestrictionRequest (P : SsPlatform) (slotId : Int) (fac : Str) (mode : Int)
    (pw : Str) : Option CoreRequest :=
  (strcpyS P.restrictionPasswordSize pw).map fun password =>
    .setCallRestriction slotId ⟨fac, mode, password⟩

/-- `SetCallWaitingRequest`: the class is not passed on. -/
def setCallWaitingRequest (slotId : Int) (activate : Bool) (_classType : Int) : CoreRequest :=
  .setCallWaiting slotId activate

end SupplementRequestCs

/-- The way a request is sent. -/
inductive SsSent where
  | ims (request : ImsSsRequest)
  | cs (request : CoreRequest)
deriving DecidableEq, Repr

/-- The kind of response a request gets. -/
def SsSent.operation : SsSent → SsOperation
  | .ims (.setClip _ _) => .setClip
  | .ims (.getClip _) | .cs (.getClip _) => .getClip
  | .ims (.setClir _ _) | .cs (.setClir _ _) => .setClir
  | .ims (.getClir _) | .cs (.getClir _) => .getClir
  | .ims (.setCallTransfer _ _ _) | .cs (.setCallTransferInfo _ _) => .setCallTransfer
  | .ims (.getCallTransfer _ _) | .cs (.getCallTransferInfo _ _) => .getCallTransfer
  | .ims (.setCallRestriction _ _ _ _) | .cs (.setCallRestriction _ _) => .setCallRestriction
  | .ims (.getCallRestriction _ _) | .cs (.getCallRestriction _ _) => .getCallRestriction
  | .cs (.setBarringPassword _ _ _ _) => .setBarringPassword
  | .ims (.setCallWaiting _ _ _) | .cs (.setCallWaiting _ _) => .setCallWaiting
  | .ims (.getCallWaiting _) | .cs (.getCallWaiting _) => .getCallWaiting
  | .ims (.setColr _ _) => .setColr
  | .ims (.getColr _) => .getColr
  | .ims (.setColp _ _) => .setColp
  | .ims (.getColp _) => .getColp

/-- Why the settings are refused. -/
inductive SsError where
  | argumentInvalid
  | parameterOutOfRange
  | unsupportedNetworkType
  | strcpyFail
deriving DecidableEq, Repr

/-- What becomes of a command: a result for the dialer that says it failed,
nothing at all, an error for the settings, or a request.  The command of a request
is saved if the request is accepted. -/
inductive SsIssue where
  | mmiFailed (message : Str)
  | dropped
  | error (e : SsError)
  | sent (request : SsSent) (utCommand : SsRequestCommand)
deriving DecidableEq, Repr

/-- What `NeedUseImsToHandle` and `PhoneTypeGsmOrNot` say, and the class
`GetCallWaitingServiceClassConfig` gives. -/
structure SsNetwork where
  useIms : Bool
  gsm : Bool
  callWaitingClass : Int
deriving DecidableEq, Repr

/-! ## Codes -/

namespace CellularCallSupplement

/-- `ObtainServiceCode`. -/
def obtainServiceCode (serviceInfoB : Str) : Int :=
  if serviceInfoB = [] then serviceClassNone
  else
    match atoi serviceInfoB with
    | 10 => serviceClassShortMessage + serviceClassFax + serviceClassVoice
    | 11 => serviceClassVoice
    | 12 => serviceClassShortMessage + serviceClassFax
    | 13 => serviceClassFax
    | 16 => serviceClassShortMessage
    | 19 => serviceClassFax + serviceClassVoice
    | 20 => serviceClassDataCircuitAsync + serviceClassDataCircuitSync
    | 21 => serviceClassDedicatedPadAccess + serviceClassDataCircuitAsync
    | 22 => serviceClassDedicatedPacketAccess + serviceClassDataCircuitSync
    | 24 => serviceClassDataCircuitSync
    | 25 => serviceClassDataCircuitAsync
    | 99 => serviceClassDedicatedPacketAccess
    | _ => serviceClassNone

/-- `ObtainCallTrasferAction`. -/
def obtainCallTrasferAction (actionString phoneNumber : Str) : Option Int :=
  if actionString = ['*'] then
    some (if phoneNumber = [] then callTransferEnable else callTransferRegistration)
  else if actionString = ['#'] then some callTransferDisable
  else if actionString = ['*', '*'] then some callTransferRegistration
  else if actionString = ['#', '#'] then some callTransferErasure
  else none

/-- `ObtainCause`. -/
def obtainCause (P : SsPlatform) (actionStr : Str) : Int :=
  if actionStr = "21".toList then transferTypeUnconditional
  else if actionStr = "67".toList then transferTypeBusy
  else if actionStr = "61".toList then transferTypeNoReply
  else if actionStr = "62".toList then transferTypeNotReachable
  else if actionStr = "002".toList then transferTypeAll
  else if actionStr = "004".toList then transferTypeConditional
  else P.telephonyError

/-- `ObtainBarringInstallation`. -/
def obtainBarringInstallation (serviceInfoC : Str) : Str :=
  if serviceInfoC = "33".toList then "AO".toList
  else if serviceInfoC = "331".toList then "OI".toList
  else if serviceInfoC = "332".toList then "OX".toList
  else if serviceInfoC = "351".toList then "IR".toList
  else if serviceInfoC = "35".toList then "AI".toList
  else if serviceInfoC = "330".toList then "AB".toList
  else if serviceInfoC = "333".toList then "AG".toList
  else if serviceInfoC = "353".toList then "AC".toList
  else []

/-- `CheckCallRestrictionType`. -/
def checkCallRestrictionType : CallRestrictionType → Option Str
  | .allOutgoing => some "AO".toList
  | .international => some "OI".toList
  | .internationalExcludingHome => some "OX".toList
  | .allIncoming => some "AI".toList
  | .roamingIncoming => some "IR".toList
  | .allCalls => some "AB".toList
  | .outgoingServices => some "AG".toList
  | .incomingServices => some "AC".toList
  | .other _ => none

/-! ## Commands from the dialer -/

variable (P : SsPlatform) (net : SsNetwork) (slotId : Int)

/-- A request that goes over IMS or over CS.  Where the copy of the password
fails on the CS path, the request fails. -/
def route (ims : ImsSsRequest) (cs : Option CoreRequest) : Option SsSent :=
  if net.useIms then some (.ims ims) else cs.map .cs

/-- What the handlers of dialer codes do last: a command whose request is not sent
has failed. -/
def fromMmi (request : Option SsSent) (utCommand : SsRequestCommand) : SsIssue :=
  match request with
  | some request => .sent request utCommand
  | none => .mmiFailed genericFailure

/-- What the handlers of dialer codes do with the action of a code. -/
def byAction (mmiData : MMIData) (activate deactivate interrogate : SsIssue) : SsIssue :=
  if mmiData.actionString = [] then .mmiFailed invalidMmiCode
  else if mmiData.actionString = ['*'] then activate
  else if mmiData.actionString = ['#'] then deactivate
  else if mmiData.actionString = ['*', '#'] then interrogate
  else .mmiFailed genericFailure

/-- A set of `HandleClip`, over IMS in any case. -/
def setClip (action : Int) : SsIssue :=
  .sent (.ims (.setClip slotId action)) { SsRequestCommand.default with action := action }

/-- `HandleClip`. -/
def handleClip (mmiData : MMIData) : SsIssue :=
  byAction mmiData (setClip slotId activateAction) (setClip slotId deactivateAction)
    (fromMmi (route net (.getClip slotId) (some (.getClip slotId))) .default)

/-- A set of `HandleClir`. -/
def setClir (action : Int) : SsIssue :=
  fromMmi (route net (.setClir slotId action) (some (.setClir slotId action)))
    { SsRequestCommand.default with action := action }

/-- `HandleClir`. -/
def handleClir (mmiData : MMIData) : SsIssue :=
  byAction mmiData (setClir net slotId activateAction) (setClir net slotId deactivateAction)
    (fromMmi (route net (.getClir slotId) (some (.getClir slotId))) .default)

/-- A set of `HandleColr`. -/
def setColr (action presentation : Int) : SsIssue :=
  fromMmi (route net (.setColr slotId presentation) none)
    { SsRequestCommand.default with action := action }

/-- `HandleColr`, over IMS only. -/
def handleColr (mmiData : MMIData) : SsIssue :=
  byAction mmiData (setColr net slotId activateAction numPresentationAllowed)
    (setColr net slotId deactivateAction numPresentationRestricted)
    (fromMmi (route net (.getColr slotId) none) .default)

/-- A set of `HandleColp`. -/
def setColp (action : Int) : SsIssue :=
  fromMmi (route net (.setColp slotId action) none)
    { SsRequestCommand.default with action := action }

/-- `HandleColp`, over IMS only. -/
def handleColp (mmiData : MMIData) : SsIssue :=
  byAction mmiData (setColp net slotId activateAction) (setColp net slotId deactivateAction)
    (fromMmi (route net (.getColp slotId) none) .default)

/-- `HandleGetCallTransfer`. -/
def handleGetCallTransfer (cause : Int) : SsIssue :=
  fromMmi (route net (.getCallTransfer slotId cause) (some (.getCallTransferInfo slotId cause)))
    { SsRequestCommand.default with cfReason := cause }

/-- `HandleSetCallTransfer`.  Over IMS, a number longer than the buffer is a
failure. -/
def handleSetCallTransfer (serviceCode cause : Int) (phoneNumber : Str)
    (callTransferAction : Int) : SsIssue :=
  let utCommand : SsRequestCommand :=
    { SsRequestCommand.default with
      cfReason := cause
      cfAction := callTransferAction
      action := callTransferAction
      number := phoneNumber }
  if net.useIms then
    if phoneNumber.length > P.kMaxNumberLen then .mmiFailed genericFailure
    else
      .sent (.ims (.setCallTransfer slotId
        ⟨phoneNumber, callTransferAction, cause, P.minHour, P.minMinute, P.minHour, P.minMinute⟩
        serviceCode)) utCommand
  else
    .sent (.cs (.setCallTransferInfo slotId
      ⟨callTransferAction, cause, phoneNumber, serviceCode⟩)) utCommand

/-- `HandleCallTransfer`. -/
def handleCallTransfer (mmiData : MMIData) : SsIssue :=
  let serviceCode := obtainServiceCode mmiData.serviceInfoB
  let cause := obtainCause P mmiData.serviceCode
  if mmiData.actionString = ['*', '#'] then handleGetCallTransfer net slotId cause
  else if mmiData.actionString = [] then .mmiFailed invalidMmiCode
  else
    match obtainCallTrasferAction mmiData.actionString mmiData.serviceInfoA with
    | none => .mmiFailed genericFailure
    | some callTransferAction =>
      handleSetCallTransfer P net slotId serviceCode cause mmiData.serviceInfoA
        callTransferAction

/-- A set of `HandleCallRestriction`.  A password that does not fit ends it without
a result. -/
def setFacility (facType : Str) (enable : Bool) (infoA : Str) : SsIssue :=
  match strcpyS (P.kMaxNumberLen + 1) infoA with
  | none => .dropped
  | some password =>
    fromMmi
      (route net (.setCallRestriction slotId facType (boolInt enable) infoA)
        (SupplementRequestCs.setCallRestrictionRequest P slotId facType (boolInt enable) infoA))
      { SsRequestCommand.default with
        facility := facType
        enable := enable
        action := if enable then subTypeActive else subTypeDeactive
        password := password }

/-- `HandleCallRestriction`. -/
def handleCallRestriction (mmiData : MMIData) : SsIssue :=
  let facType := obtainBarringInstallation mmiData.serviceCode
  byAction mmiData (setFacility P net slotId facType true mmiData.serviceInfoA)
    (setFacility P net slotId facType false mmiData.serviceInfoA)
    (fromMmi
      (route net (.getCallRestriction slotId facType) (some (.getCallRestriction slotId facType)))
      { SsRequestCommand.default with facility := facType, action := 0 })

/-- A set of `HandleCallWaiting`. -/
def setWaiting (activate : Bool) (classType : Int) : SsIssue :=
  fromMmi
    (route net (.setCallWaiting slotId activate classType)
      (some (SupplementRequestCs.setCallWaitingRequest slotId activate classType)))
    { SsRequestCommand.default with
      classType := classType, enable := activate, action := boolInt activate }

/-- `HandleCallWaiting`. -/
def handleCallWaiting (mmiData : MMIData) : SsIssue :=
  let classType := obtainServiceCode mmiData.serviceInfoA
  byAction mmiData (setWaiting net slotId true classType) (setWaiting net slotId false classType)
    (fromMmi (route net (.getCallWaiting slotId) (some (.getCallWaiting slotId)))
      { SsRequestCommand.default with classType := classType })

/-- The actions for which a code is sent. -/
theorem byAction_eq_sent {mmiData : MMIData} {activate deactivate interrogate : SsIssue}
    {sent : SsSent} {saved : SsRequestCommand}
    (hissue : byAction mmiData activate deactivate interrogate = .sent sent saved) :
    (mmiData.actionString = ['*'] ∧ activate = .sent sent saved) ∨
      (mmiData.actionString = ['#'] ∧ deactivate = .sent sent saved) ∨
      (mmiData.actionString = ['*', '#'] ∧ interrogate = .sent sent saved) := by
  unfold byAction at hissue
  split at hissue
  · cases hissue
  split at hissue
  · rename_i haction
    exact .inl ⟨haction, hissue⟩
  split at hissue
  · rename_i haction
    exact .inr (.inl ⟨haction, hissue⟩)
  split at hissue
  · rename_i haction
    exact .inr (.inr ⟨haction, hissue⟩)
  · cases hissue

/-- Two runs of a handler with the same code take the same branch. -/
theorem byAction_eq_sent_pair {mmiData : MMIData}
    {activate deactivate interrogate activate' deactivate' interrogate' : SsIssue}
    {sent sent' : SsSent} {saved saved' : SsRequestCommand}
    (hissue : byAction mmiData activate deactivate interrogate = .sent sent saved)
    (hissue' : byAction mmiData activate' deactivate' interrogate' = .sent sent' saved') :
    (mmiData.actionString = ['*'] ∧ activate = .sent sent saved ∧
        activate' = .sent sent' saved') ∨
      (mmiData.actionString = ['#'] ∧ deactivate = .sent sent saved ∧
        deactivate' = .sent sent' saved') ∨
      (mmiData.actionString = ['*', '#'] ∧ interrogate = .sent sent saved ∧
        interrogate' = .sent sent' saved') := by
  obtain ⟨ha, hsent⟩ | ⟨ha, hsent⟩ | ⟨ha, hsent⟩ := byAction_eq_sent hissue
  all_goals
    unfold byAction at hissue'
    rw [ha] at hissue'
  · exact .inl ⟨ha, hsent, hissue'⟩
  · exact .inr (.inl ⟨ha, hsent, hissue'⟩)
  · exact .inr (.inr ⟨ha, hsent, hissue'⟩)

theorem route_eq_ims {ims : ImsSsRequest} {cs : Option CoreRequest} {request : ImsSsRequest}
    (hroute : route net ims cs = some (.ims request)) : ims = request := by
  unfold route at hroute
  split at hroute
  · exact SsSent.ims.inj (Option.some.inj hroute)
  · obtain ⟨q, -, hq⟩ := Option.map_eq_some_iff.mp hroute
    cases hq

theorem route_eq_cs {ims : ImsSsRequest} {cs : Option CoreRequest} {request : CoreRequest}
    (hroute : route net ims cs = some (.cs request)) : cs = some request := by
  unfold route at hroute
  split at hroute
  · cases hroute
  · obtain ⟨q, hcs, hq⟩ := Option.map_eq_some_iff.mp hroute
    rw [hcs, SsSent.cs.inj hq]

theorem fromMmi_eq_sent {request : Option SsSent} {command : SsRequestCommand} {sent : SsSent}
    {saved : SsRequestCommand} (hissue : fromMmi request command = .sent sent saved) :
    request = some sent ∧ command = saved := by
  cases request with
  | none => cases hissue
  | some request =>
    cases hissue
    exact ⟨rfl, rfl⟩

/-! ## Commands from the settings -/

/-- What the functions of the settings do last: the CS path is for GSM only. -/
def fromSetting (ims : ImsSsRequest) (cs : Option CoreRequest) (utCommand : SsRequestCommand) :
    SsIssue :=
  if net.useIms then .sent (.ims ims) utCommand
  else if net.gsm = false then .error .unsupportedNetworkType
  else
    match cs with
    | some cs => .sent (.cs cs) utCommand
    | none => .error .strcpyFail

theorem fromSetting_eq_ims {ims : ImsSsRequest} {cs : Option CoreRequest}
    {command : SsRequestCommand} {request : ImsSsRequest} {saved : SsRequestCommand}
    (hissue : fromSetting net ims cs command = .sent (.ims request) saved) :
    ims = request ∧ command = saved := by
  unfold fromSetting at hissue
  split at hissue
  · cases hissue
    exact ⟨rfl, rfl⟩
  · split at hissue
    · cases hissue
    · cases cs with
      | none => cases hissue
      | some q => cases hissue

theorem fromSetting_eq_cs {ims : ImsSsRequest} {cs : Option CoreRequest}
    {command : SsRequestCommand} {request : CoreRequest} {saved : SsRequestCommand}
    (hissue : fromSetting net ims cs command = .sent (.cs request) saved) :
    cs = some request ∧ command = saved := by
  unfold fromSetting at hissue
  split at hissue
  · cases hissue
  · split at hissue
    · cases hissue
    · cases cs with
      | none => cases hissue
      | some q =>
        cases hissue
        exact ⟨rfl, rfl⟩

/-- `CheckSetCallTransferInfo`. -/
def checkSetCallTransferInfo (cfInfo : CallTransferInfo) : Option SsError :=
  if cStr cfInfo.transferNum = [] then some .argumentInvalid
  else if cfInfo.type > transferTypeNotReachable ∨ cfInfo.type < transferTypeUnconditional ∨
      cfInfo.settingType > callTransferErasure ∨ cfInfo.settingType < callTransferDisable then
    some .parameterOutOfRange
  else none

/-- `SetCallTransferInfo`. -/
def setCallTransferInfo (cfInfo : CallTransferInfo) : SsIssue :=
  match checkSetCallTransferInfo cfInfo with
  | some e => .error e
  | none =>
    let dialString := cStr cfInfo.transferNum
    fromSetting net (.setCallTransfer slotId cfInfo serviceClassVoice)
      (some (.setCallTransferInfo slotId
        ⟨cfInfo.settingType, cfInfo.type, dialString, serviceClassVoice⟩))
      { SsRequestCommand.default with
        flag := ssFromSettingMenu
        number := dialString
        cfAction := cfInfo.settingType
        cfReason := cfInfo.type
        classType := serviceClassVoice }

/-- `GetCallTransferInfo`. -/
def getCallTransferInfo (type : Int) (isIncludeCallForwardingNumber : Bool) : SsIssue :=
  fromSetting net (.getCallTransfer slotId type) (some (.getCallTransferInfo slotId type))
    { SsRequestCommand.default with
      flag := ssFromSettingMenu
      cfReason := type
      isIncludeCallForwardingNumber := isIncludeCallForwardingNumber }

/-- `SetCallWaiting`. -/
def setCallWaiting (activate : Bool) : SsIssue :=
  fromSetting net (.setCallWaiting slotId activate net.callWaitingClass)
    (some (SupplementRequestCs.setCallWaitingRequest slotId activate net.callWaitingClass))
    { SsRequestCommand.default with
      flag := ssFromSettingMenu
      classType := net.callWaitingClass
      enable := activate
      action := boolInt activate }

/-- `GetCallWaiting`. -/
def getCallWaiting : SsIssue :=
  fromSetting net (.getCallWaiting slotId) (some (.getCallWaiting slotId))
    { SsRequestCommand.default with flag := ssFromSettingMenu }

/-- `SetCallRestriction`. -/
def setCallRestriction (cRInfo : CallRestrictionInfo) : SsIssue :=
  match checkCallRestrictionType cRInfo.fac with
  | none => .error .parameterOutOfRange
  | some fac =>
    if cRInfo.mode < restrictionModeDeactivation ∨ cRInfo.mode > restrictionModeActivation then
      .error .parameterOutOfRange
    else
      let info := cStr cRInfo.password
      match strcpyS (P.kMaxNumberLen + 1) info with
      | none => .error .strcpyFail
      | some password =>
        fromSetting net (.setCallRestriction slotId fac cRInfo.mode info)
          (SupplementRequestCs.setCallRestrictionRequest P slotId fac cRInfo.mode info)
          { SsRequestCommand.default with
            flag := ssFromSettingMenu
            facility := fac
            enable := decide (cRInfo.mode ≠ 0)
            action := cRInfo.mode
            password := password }

/-- `GetCallRestriction`. -/
def getCallRestriction (facType : CallRestrictionType) : SsIssue :=
  match checkCallRestrictionType facType with
  | none => .error .parameterOutOfRange
  | some fac =>
    fromSetting net (.getCallRestriction slotId fac) (some (.getCallRestriction slotId fac))
      { SsRequestCommand.default with flag := ssFromSettingMenu, facility := fac }

/-- `SetBarringPassword`, over CS only. -/
def setBarringPassword (facType : CallRestrictionType) (oldPassword newPassword : Str) :
    SsIssue :=
  match checkCallRestrictionType facType with
  | none => .error .parameterOutOfRange
  | some fac =>
    if net.gsm = false then .error .unsupportedNetworkType
    else
      .sent (.cs (.setBarringPassword slotId oldPassword newPassword fac))
        { SsRequestCommand.default with flag := ssFromSettingMenu, facility := fac }

end CellularCallSupplement

/-- A supplementary-service command: a code from the dialer, named by its handler,
or a function of the settings. -/
inductive SsCommand where
  | handleClip (mmiData : MMIData)
  | handleClir (mmiData : MMIData)
  | handleColr (mmiData : MMIData)
  | handleColp (mmiData : MMIData)
  | handleCallTransfer (mmiData : MMIData)
  | handleCallRestriction (mmiData : MMIData)
  | handleCallWaiting (mmiData : MMIData)
  | setCallTransferInfo (cfInfo : CallTransferInfo)
  | getCallTransferInfo (type : Int) (isIncludeCallForwardingNumber : Bool)
  | setCallWaiting (activate : Bool)
  | getCallWaiting
  | setCallRestriction (cRInfo : CallRestrictionInfo)
  | getCallRestriction (facType : CallRestrictionType)
  | setBarringPassword (facType : CallRestrictionType) (oldPassword newPassword : Str)
deriving DecidableEq, Repr

/-- What becomes of a command. -/
def SsCommand.issue (P : SsPlatform) (net : SsNetwork) (slotId : Int) : SsCommand → SsIssue
  | .handleClip mmiData => CellularCallSupplement.handleClip net slotId mmiData
  | .handleClir mmiData => CellularCallSupplement.handleClir net slotId mmiData
  | .handleColr mmiData => CellularCallSupplement.handleColr net slotId mmiData
  | .handleColp mmiData => CellularCallSupplement.handleColp net slotId mmiData
  | .handleCallTransfer mmiData => CellularCallSupplement.handleCallTransfer P net slotId mmiData
  | .handleCallRestriction mmiData =>
    CellularCallSupplement.handleCallRestriction P net slotId mmiData
  | .handleCallWaiting mmiData => CellularCallSupplement.handleCallWaiting net slotId mmiData
  | .setCallTransferInfo cfInfo => CellularCallSupplement.setCallTransferInfo net slotId cfInfo
  | .getCallTransferInfo type isIncludeCallForwardingNumber =>
    CellularCallSupplement.getCallTransferInfo net slotId type isIncludeCallForwardingNumber
  | .setCallWaiting activate => CellularCallSupplement.setCallWaiting net slotId activate
  | .getCallWaiting => CellularCallSupplement.getCallWaiting net slotId
  | .setCallRestriction cRInfo => CellularCallSupplement.setCallRestriction P net slotId cRInfo
  | .getCallRestriction facType => CellularCallSupplement.getCallRestriction net slotId facType
  | .setBarringPassword facType oldPassword newPassword =>
    CellularCallSupplement.setBarringPassword net slotId facType oldPassword newPassword

end CellularCall
