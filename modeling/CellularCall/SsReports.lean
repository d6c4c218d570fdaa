import CellularCall.SsRequests

/-!
# The answers to supplementary-service requests

The handler finds the command of a response in its table, and
`CellularCallSupplement` reports the result: as an MMI code for a command from the
dialer, through the callback of the operation for one from the settings.

`reported_iff` says which responses to a saved command are reported, and which
USSD notifications.
-/

namespace CellularCall

open Lib

/-! ## Constants -/

def scWait : Int := 43

def scCfu : Int := 21

def scBaoc : Int := 33

def scClip : Int := 30

def scClir : Int := 31

def scColp : Int := 76

def scColr : Int := 77

def scUssd : Int := 10001

def getClipSuccess : Str := "Get clip success".toList

def getClirSuccess : Str := "Get clir success".toList

def getColrSuccess : Str := "Get colr success".toList

def getColpSuccess : Str := "Get colp success".toList

def ussdModeNotify : Int := 0

def ussdModeRequest : Int := 1

def ussdModeNwRelease : Int := 2

def ussdSuccess : Int := 0

def ussdFailed : Int := 2

/-! ## What is reported -/

/-- `CallForwardingInfo`. -/
structure CallForwardingInfo where
  slotId : Int
  enable : Bool
  number : Str
deriving DecidableEq, Repr

/-- What is told to the call manager, and `setVoiceCallForwarding` to the core
service. -/
inductive SsReport where
  | mmiCode (info : MmiCodeInfo)
  | getClip (response : ClipResponse)
  | getClir (response : ClirResponse)
  | setClir (result : Int)
  | getWaiting (response : CallWaitResponse)
  | setWaiting (result : Int)
  | getRestriction (response : CallRestrictionResponse)
  | setRestriction (result : Int)
  | setBarringPassword (result : Int)
  | getTransfer (response : CallTransferResponse)
  | setTransfer (result : Int)
  | callTransferStatus (slotId : Int) (enabled : Bool)
  | setVoiceCallForwarding (slotId : Int) (enable : Bool) (number : Str)
deriving DecidableEq, Repr

/-- The operation whose result a callback gives to the settings. -/
def SsReport.callback : SsReport → Option SsOperation
  | .getClip _ => some .getClip
  | .getClir _ => some .getClir
  | .setClir _ => some .setClir
  | .getWaiting _ => some .getCallWaiting
  | .setWaiting _ => some .setCallWaiting
  | .getRestriction _ => some .getCallRestriction
  | .setRestriction _ => some .setCallRestriction
  | .setBarringPassword _ => some .setBarringPassword
  | .getTransfer _ => some .getCallTransfer
  | .setTransfer _ => some .setCallTransfer
  | .mmiCode _ | .callTransferStatus _ _ | .setVoiceCallForwarding _ _ _ => none

/-- The report is a result of the command of an operation: an MMI code for the
dialer, the callback of the operation for the settings. -/
def SsReport.Answers (flag : Int) (operation : SsOperation) : SsReport → Prop
  | .mmiCode _ => flag = ssFromMmiCode
  | report => flag ≠ ssFromMmiCode ∧ report.callback = some operation

namespace CellularCallSupplement

variable (P : SsPlatform)

/-- What is reported for the two origins of a command. -/
def byFlag (flag : Int) (mmi setting : List SsReport) : List SsReport :=
  if flag = ssFromMmiCode then mmi else setting

/-- What every result for the dialer is made of.  A message that does not fit is
left out. -/
def mmiCodeInfo (result : Int) (message : Str) (mmiCodeType action : Int) : MmiCodeInfo :=
  { P.defaultMmiCodeInfo with
    result := result
    message := strcpyOrEmpty P.mmiMessageSize message
    mmiCodeType := mmiCodeType
    action := action }

/-- The result a query is reported with. -/
def utResult (result : Int) : Int :=
  if result = P.imsErrorUtNoConnection then P.callErrUtNoConnection else result

/-- `EventGetCallWaiting`. -/
def eventGetCallWaiting (waitingInfo : CallWaitResult) (message : Str) (flag : Int) :
    List SsReport :=
  let result := utResult P waitingInfo.result.result
  byFlag flag
    [.mmiCode
      { mmiCodeInfo P result message scWait subTypeQuery with
        status := waitingInfo.status
        classCw := waitingInfo.classCw }]
    [.getWaiting ⟨result, waitingInfo.status, waitingInfo.classCw⟩]

/-- `EventSetCallWaiting`. -/
def eventSetCallWaiting (result : Int) (message : Str) (flag action : Int) : List SsReport :=
  byFlag flag
    [.mmiCode (mmiCodeInfo P result message scWait
      (if action ≠ 0 then subTypeActive else subTypeDeactive))]
    [.setWaiting result]

/-- `BuildCallForwardQueryInfo`. -/
def buildCallForwardQueryInfo (queryResult : CallForwardQueryResult) (message : Str) (flag : Int)
    (isIncludeCallForwardingNumber : Bool) : List SsReport :=
  match strcpyS P.transferNumberSize
      (if isIncludeCallForwardingNumber then queryResult.number else []) with
  | none => []
  | some number =>
    byFlag flag
      [.mmiCode
        { mmiCodeInfo P queryResult.result message scCfu subTypeQuery with
          classCw := queryResult.classx
          reason := queryResult.reason
          status := queryResult.status
          number := strcpyOrEmpty P.mmiNumberSize queryResult.number
          time := queryResult.time }]
      [.getTransfer
        { result := queryResult.result
          status := queryResult.status
          classx := queryResult.classx
          number := number
          type := queryResult.type
          reason := queryResult.reason
          time := queryResult.time
          startHour := queryResult.startHour
          startMinute := queryResult.startMinute
          endHour := queryResult.endHour
          endMinute := queryResult.endMinute }]

/-- The class is positive and holds the bit of `VOICE`. -/
def IsVoiceClass (classx : Int) : Prop := classx > 0 ∧ classx % 2 ≠ 0

instance (classx : Int) : Decidable (IsVoiceClass classx) :=
  inferInstanceAs (Decidable (_ ∧ _))

/-- `EventGetCallTransferInfo`. -/
def eventGetCallTransferInfo (cFQueryList : CallForwardQueryInfoList) (message : Str)
    (flag : Int) (isIncludeCallForwardingNumber : Bool) : List SsReport :=
  let failed :=
    if cFQueryList.result.result ≠ telephonySuccess ∧ cFQueryList.callSize = 0 then
      let failResult :=
        { P.defaultCallForwardQueryResult with
          result := cFQueryList.result.result
          reason := cFQueryList.result.reason }
      buildCallForwardQueryInfo P failResult message flag isIncludeCallForwardingNumber
    else []
  failed ++ cFQueryList.calls.flatMap fun queryResult =>
    if IsVoiceClass queryResult.classx then
      buildCallForwardQueryInfo P queryResult message flag isIncludeCallForwardingNumber
    else []

/-- `EventSetCallTransferInfo`. -/
def eventSetCallTransferInfo (result : Int) (message : Str) (flag action : Int)
    (targetNumber : Str) : List SsReport :=
  byFlag flag
    [.mmiCode
      { mmiCodeInfo P result message scCfu
          (if action ≠ 0 then subTypeActive else subTypeDeactive) with
        number := strcpyOrEmpty P.mmiNumberSize targetNumber }]
    [.setTransfer result]

/-- `EventGetCallRestriction`. -/
def eventGetCallRestriction (result : CallRestrictionResult) (message : Str) (flag : Int) :
    List SsReport :=
  let response : CallRestrictionResponse :=
    ⟨utResult P result.result.result, result.status, result.classCw⟩
  byFlag flag
    [.mmiCode
      { mmiCodeInfo P response.result message scBaoc subTypeQuery with
        status := response.status }]
    [.getRestriction response]

/-- `EventSetCallRestriction`. -/
def eventSetCallRestriction (result : Int) (message : Str) (flag action : Int) :
    List SsReport :=
  byFlag flag [.mmiCode (mmiCodeInfo P result message scBaoc action)] [.setRestriction result]

/-- `EventSetBarringPassword`. -/
def eventSetBarringPassword (result : Int) (message : Str) (flag : Int) : List SsReport :=
  byFlag flag [.mmiCode (mmiCodeInfo P result message scBaoc subTypeActive)]
    [.setBarringPassword result]

/-- `EventGetClip`. -/
def eventGetClip (getClipResult : GetClipResult) (_message : Str) (flag : Int) :
    List SsReport :=
  let clipResponse : ClipResponse :=
    ⟨utResult P getClipResult.result.result, getClipResult.action, getClipResult.clipStat⟩
  byFlag flag
    [.mmiCode
      { mmiCodeInfo P clipResponse.result getClipSuccess scClip subTypeQuery with
        status := clipResponse.clipStat }]
    [.getClip clipResponse]

/-- `EventGetClir`. -/
def eventGetClir (result : GetClirResult) (_message : Str) (flag : Int) : List SsReport :=
  let response : ClirResponse :=
    ⟨utResult P result.result.result, result.action, result.clirStat⟩
  byFlag flag
    [.mmiCode
      { mmiCodeInfo P response.result getClirSuccess scClir subTypeQuery with
        status := response.clirStat
        classCw := response.action }]
    [.getClir response]

/-- `EventGetColr`: there is no callback for the settings. -/
def eventGetColr (result : GetColrResult) (_message : Str) (flag : Int) : List SsReport :=
  byFlag flag
    [.mmiCode
      { mmiCodeInfo P (utResult P result.result.result) getColrSuccess scColr subTypeQuery with
        status := result.colrStat }]
    []

/-- `EventGetColp`: there is no callback for the settings. -/
def eventGetColp (result : GetColpResult) (_message : Str) (flag : Int) : List SsReport :=
  byFlag flag
    [.mmiCode
      { mmiCodeInfo P (utResult P result.result.result) getColpSuccess scColp subTypeQuery with
        status := result.colpStat }]
    []

/-- The result of a set whose action is activation or not. -/
def eventSet (mmiCodeType : Int) (setting : List SsReport) (result : Int) (message : Str)
    (flag action : Int) : List SsReport :=
  byFlag flag
    [.mmiCode (mmiCodeInfo P result message mmiCodeType
      (if action = activateAction then subTypeActive else subTypeDeactive))]
    setting

/-- `EventSetClip`: there is no callback for the settings. -/
def eventSetClip (result : Int) (message : Str) (flag action : Int) : List SsReport :=
  eventSet P scClip [] result message flag action

/-- `EventSetClir`. -/
def eventSetClir (result : Int) (message : Str) (flag action : Int) : List SsReport :=
  eventSet P scClir [.setClir result] result message flag action

/-- `EventSetColr`: there is no callback for the settings. -/
def eventSetColr (result : Int) (message : Str) (flag action : Int) : List SsReport :=
  eventSet P scColr [] result message flag action

/-- `EventSetColp`: there is no callback for the settings. -/
def eventSetColp (result : Int) (message : Str) (flag action : Int) : List SsReport :=
  eventSet P scColp [] result message flag action

end CellularCallSupplement

/-! ## The handler -/

namespace CellularCallHandler

variable (P : SsPlatform) (slotId : Int) (t : SsTable)

/-- A response is reported with the flag of its command, if there is one. -/
def withFlag (index : Int) (report : Int → List SsReport) : SsTable × List SsReport :=
  match t.confirmAndRemoveSsRequestCommand index with
  | (t, none) => (t, [])
  | (t, some flag) => (t, report flag)

/-- A response is reported with the flag and the action of its command. -/
def withAction (index : Int) (report : Int → Int → List SsReport) : SsTable × List SsReport :=
  match t.confirmAndRemoveSsRequestCommandWithAction index with
  | (t, none) => (t, [])
  | (t, some (flag, action)) => (t, report flag action)

/-- A failure is reported as `TELEPHONY_ERR_RIL_CMD_FAIL`. -/
def cmdResult (result : Int) : Int :=
  if result ≠ telephonySuccess then P.telephonyErrRilCmdFail else result

/-- `GetClipResponse`. -/
def getClipResponse (r : GetClipResult) : SsTable × List SsReport :=
  withFlag t r.result.index (CellularCallSupplement.eventGetClip P r r.result.message)

/-- `SetClipResponse`. -/
def setClipResponse (r : SsBaseResult) : SsTable × List SsReport :=
  withAction t r.index (CellularCallSupplement.eventSetClip P r.result r.message)

/-- `GetClirResponse`. -/
def getClirResponse (r : GetClirResult) : SsTable × List SsReport :=
  withFlag t r.result.index (CellularCallSupplement.eventGetClir P r r.result.message)

/-- `SetClirResponse`. -/
def setClirResponse (r : SsBaseResult) : SsTable × List SsReport :=
  withAction t r.index (CellularCallSupplement.eventSetClir P r.result r.message)

/-- `GetColrResponse`. -/
def getColrResponse (r : GetColrResult) : SsTable × List SsReport :=
  withFlag t r.result.index (CellularCallSupplement.eventGetColr P r r.result.message)

/-- `SetColrResponse`. -/
def setColrResponse (r : SsBaseResult) : SsTable × List SsReport :=
  withAction t r.index (CellularCallSupplement.eventSetColr P r.result r.message)

/-- `GetColpResponse`. -/
def getColpResponse (r : GetColpResult) : SsTable × List SsReport :=
  withFlag t r.result.index (CellularCallSupplement.eventGetColp P r r.result.message)

/-- `SetColpResponse`. -/
def setColpResponse (r : SsBaseResult) : SsTable × List SsReport :=
  withAction t r.index (CellularCallSupplement.eventSetColp P r.result r.message)

/-- `HandleCallTransferQueryResult`. -/
def handleCallTransferQueryResult (cFQueryList : CallForwardQueryInfoList) : List SsReport :=
  if cFQueryList.result.result ≠ telephonySuccess ∧ cFQueryList.callSize = 0 then []
  else [.callTransferStatus slotId (cFQueryList.calls.any fun call => decide (call.status = 1))]

/-- The reasons for which the status of call forwarding is reported. -/
def IsStatusReason (reason : Int) : Prop :=
  reason = transferTypeUnconditional ∨ reason = transferTypeAll

instance (reason : Int) : Decidable (IsStatusReason reason) :=
  inferInstanceAs (Decidable (_ ∨ _))

/-- `GetCallTransferResponse`: the reason is taken from the saved command. -/
def getCallTransferResponse (cFQueryList : CallForwardQueryInfoList) : SsTable × List SsReport :=
  let index := cFQueryList.result.index
  let ss := t.getSsRequestCommand index .default
  let reason := (ss.map SsRequestCommand.cfReason).getD cFQueryList.result.reason
  let isIncludeCallForwardingNumber :=
    (ss.map SsRequestCommand.isIncludeCallForwardingNumber).getD true
  let cFQueryList := { cFQueryList with result := { cFQueryList.result with reason := reason } }
  withFlag t index fun flag =>
    CellularCallSupplement.eventGetCallTransferInfo P cFQueryList cFQueryList.result.message flag
      isIncludeCallForwardingNumber ++
    if IsStatusReason cFQueryList.result.reason then
      handleCallTransferQueryResult slotId cFQueryList
    else []

/-- `SetCallTransferInfoResponse`, where `info` is what `GetCallForwardingInfo`
gives. -/
def setCallTransferInfoResponse (info : CallForwardingInfo) (r : SsBaseResult) :
    SsTable × List SsReport :=
  let ss := t.getSsRequestCommand r.index .default
  withAction t r.index fun flag action =>
    (if r.result = telephonySuccess then
      .setVoiceCallForwarding info.slotId info.enable info.number ::
        if ∃ command ∈ ss, IsStatusReason command.cfReason then
          [.callTransferStatus info.slotId info.enable]
        else []
    else []) ++
    CellularCallSupplement.eventSetCallTransferInfo P (cmdResult P r.result) r.message flag action
      info.number

/-- `GetCallRestrictionResponse`. -/
def getCallRestrictionResponse (r : CallRestrictionResult) : SsTable × List SsReport :=
  withFlag t r.result.index (CellularCallSupplement.eventGetCallRestriction P r r.result.message)

/-- `SetCallRestrictionResponse`. -/
def setCallRestrictionResponse (r : SsBaseResult) : SsTable × List SsReport :=
  withAction t r.index
    (CellularCallSupplement.eventSetCallRestriction P (cmdResult P r.result) r.message)

/-- `SetBarringPasswordResponse`. -/
def setBarringPasswordResponse (r : SsBaseResult) : SsTable × List SsReport :=
  withFlag t r.index
    (CellularCallSupplement.eventSetBarringPassword P (cmdResult P r.result) r.message)

/-- `GetCallWaitingResponse`. -/
def getCallWaitingResponse (r : CallWaitResult) : SsTable × List SsReport :=
  withFlag t r.result.index (CellularCallSupplement.eventGetCallWaiting P r r.result.message)

/-- `SetCallWaitingResponse`. -/
def setCallWaitingResponse (r : SsBaseResult) : SsTable × List SsReport :=
  withAction t r.index
    (CellularCallSupplement.eventSetCallWaiting P (cmdResult P r.result) r.message)

/-- What the handler does with a response. -/
def respond (info : CallForwardingInfo) : SsResponse → SsTable × List SsReport
  | .getClip r => getClipResponse P t r
  | .setClip r => setClipResponse P t r
  | .getClir r => getClirResponse P t r
  | .setClir r => setClirResponse P t r
  | .getColr r => getColrResponse P t r
  | .setColr r => setColrResponse P t r
  | .getColp r => getColpResponse P t r
  | .setColp r => setColpResponse P t r
  | .getCallTransfer r => getCallTransferResponse P slotId t r
  | .setCallTransfer r => setCallTransferInfoResponse P t info r
  | .getCallRestriction r => getCallRestrictionResponse P t r
  | .setCallRestriction r => setCallRestrictionResponse P t r
  | .setBarringPassword r => setBarringPasswordResponse P t r
  | .getCallWaiting r => getCallWaitingResponse P t r
  | .setCallWaiting r => setCallWaitingResponse P t r

end CellularCallHandler

/-! ## USSD -/

/-- `UssdNoticeInfo`. -/
structure UssdNoticeInfo where
  m : Int
  str : Str
deriving DecidableEq, Repr

/-- The functions of `TelephonyExtWrapper` that may be there, the parameter that
asks for errors to be shown, and `TrimStr`. -/
structure UssdExtension where
  isEmptyMmiResultFiltered : Option (Int → Bool)
  unescapeHtmlCode : Option (Int → Str → Str)
  isUssdReleaseMsgFiltered : Option (Int → Bool)
  showMmiError : Bool
  trimStr : Str → Str

namespace UssdExtension

variable (ext : UssdExtension) (slotId : Int)

/-- The filter drops a notification. -/
def Drops (notice : UssdNoticeInfo) : Prop :=
  notice.str = [] ∧ ext.isEmptyMmiResultFiltered.any (fun filtered => filtered slotId) = true

instance (notice : UssdNoticeInfo) : Decidable (ext.Drops slotId notice) :=
  inferInstanceAs (Decidable (_ ∧ _))

/-- The text after `unescapeHtmlCode`. -/
def unescaped (notice : UssdNoticeInfo) : Str :=
  match ext.unescapeHtmlCode with
  | none => notice.str
  | some unescape => unescape slotId notice.str

/-- `isUssdError`. -/
def IsError (m : Int) : Prop :=
  (m ≠ ussdModeNotify ∧ m ≠ ussdModeRequest) ∧
    (ext.isUssdReleaseMsgFiltered.any (fun filtered => filtered slotId) = true →
      m ≠ ussdModeNwRelease)

instance (m : Int) : Decidable (ext.IsError slotId m) := inferInstanceAs (Decidable (_ ∧ _))

end UssdExtension

namespace CellularCallSupplement

variable (P : SsPlatform) (ext : UssdExtension) (slotId : Int) (notice : UssdNoticeInfo)

/-- What `EventUssdNotify` does last: a text that does not fit is not reported. -/
def reportUssd (result : Int) (text : Str) : List SsReport :=
  match strcpyS P.mmiMessageSize text with
  | none => []
  | some message =>
    [.mmiCode
      { P.defaultMmiCodeInfo with
        mmiCodeType := scUssd
        action := slotId
        result := result
        message := message }]

/-- `EventUssdNotify`. -/
def eventUssdNotify : List SsReport :=
  if ext.Drops slotId notice then []
  else
    let str := ext.unescaped slotId notice
    if ¬ext.IsError slotId notice.m ∧ str ≠ [] then reportUssd P slotId notice.m str
    else if ext.IsError slotId notice.m ∧ notice.m ≠ ussdModeNwRelease then
      reportUssd P slotId ussdFailed invalidMmiCode
    else
      reportUssd P slotId
        (if ext.trimStr str = [] ∧ ext.showMmiError = true then ussdFailed else ussdSuccess) str

end CellularCallSupplement

/-! ## The origin of a command -/

/-- The operations whose results have a callback for the settings. -/
def SsOperation.HasCallback : SsOperation → Prop
  | .setClip | .getColr | .setColr | .getColp | .setColp => False
  | _ => True

namespace CellularCallSupplement

variable {P : SsPlatform} {net : SsNetwork} {slotId : Int} {sent : SsSent}
  {saved : SsRequestCommand}

/-- A handler of dialer codes saves a command with the flag of the dialer, if each
of its branches does. -/
theorem flag_of_byAction {mmiData : MMIData} {activate deactivate interrogate : SsIssue}
    (hissue : byAction mmiData activate deactivate interrogate = .sent sent saved)
    (hactivate : activate = .sent sent saved → saved.flag = ssFromMmiCode)
    (hdeactivate : deactivate = .sent sent saved → saved.flag = ssFromMmiCode)
    (hinterrogate : interrogate = .sent sent saved → saved.flag = ssFromMmiCode) :
    saved.flag = ssFromMmiCode := by
  obtain ⟨-, hsent⟩ | ⟨-, hsent⟩ | ⟨-, hsent⟩ := byAction_eq_sent hissue
  · exact hactivate hsent
  · exact hdeactivate hsent
  · exact hinterrogate hsent

theorem flag_of_fromMmi {request : Option SsSent} {command : SsRequestCommand}
    (hissue : fromMmi request command = .sent sent saved)
    (hflag : command.flag = ssFromMmiCode) : saved.flag = ssFromMmiCode := by
  obtain ⟨-, hsaved⟩ := fromMmi_eq_sent hissue
  rw [← hsaved, hflag]

theorem flag_of_handleCallTransfer {mmiData : MMIData}
    (hissue : handleCallTransfer P net slotId mmiData = .sent sent saved) :
    saved.flag = ssFromMmiCode := by
  unfold handleCallTransfer at hissue
  dsimp only at hissue
  split at hissue
  · exact flag_of_fromMmi hissue rfl
  · split at hissue
    · cases hissue
    · split at hissue
      · cases hissue
      · unfold handleSetCallTransfer at hissue
        dsimp only at hissue
        split at hissue
        · split at hissue
          · cases hissue
          · cases hissue
            rfl
        · cases hissue
          rfl

theorem flag_of_setFacility {facType infoA : Str} {enable : Bool}
    (hissue : setFacility P net slotId facType enable infoA = .sent sent saved) :
    saved.flag = ssFromMmiCode := by
  unfold setFacility at hissue
  split at hissue
  · cases hissue
  · exact flag_of_fromMmi hissue rfl

/-- The settings ask for operations that have a callback. -/
theorem hasCallback_of_fromSetting {ims : ImsSsRequest} {cs : Option CoreRequest}
    {command : SsRequestCommand} (hissue : fromSetting net ims cs command = .sent sent saved)
    (hims : (SsSent.ims ims).operation.HasCallback)
    (hcs : ∀ request ∈ cs, (SsSent.cs request).operation.HasCallback) :
    sent.operation.HasCallback := by
  cases sent with
  | ims request =>
    obtain ⟨hrequest, -⟩ := fromSetting_eq_ims net hissue
    rw [← hrequest]
    exact hims
  | cs request =>
    obtain ⟨hrequest, -⟩ := fromSetting_eq_cs net hissue
    exact hcs request hrequest

theorem hasCallback_of_setCallRestriction {cRInfo : CallRestrictionInfo}
    (hissue : setCallRestriction P net slotId cRInfo = .sent sent saved) :
    sent.operation.HasCallback := by
  unfold setCallRestriction at hissue
  split at hissue
  · cases hissue
  · split at hissue
    · cases hissue
    · dsimp only at hissue
      split at hissue
      · cases hissue
      · refine hasCallback_of_fromSetting hissue trivial ?_
        intro request hrequest
        obtain ⟨_, -, hmade⟩ := Option.map_eq_some_iff.mp hrequest
        rw [← hmade]
        trivial

end CellularCallSupplement

/-- A command is from the dialer, or its operation has a callback. -/
theorem SsCommand.flag_or_hasCallback {P : SsPlatform} {net : SsNetwork} {slotId : Int}
    {cmd : SsCommand} {sent : SsSent} {saved : SsRequestCommand}
    (hissue : cmd.issue P net slotId = .sent sent saved) :
    saved.flag = ssFromMmiCode ∨ sent.operation.HasCallback := by
  open CellularCallSupplement in
  cases cmd with
  | handleClip mmiData =>
    refine .inl (flag_of_byAction hissue ?_ ?_ (flag_of_fromMmi · rfl))
    · intro hset
      cases hset
      rfl
    · intro hset
      cases hset
      rfl
  | handleClir mmiData | handleColr mmiData | handleColp mmiData | handleCallWaiting mmiData =>
    exact .inl (flag_of_byAction hissue (flag_of_fromMmi · rfl) (flag_of_fromMmi · rfl)
      (flag_of_fromMmi · rfl))
  | handleCallTransfer mmiData => exact .inl (flag_of_handleCallTransfer hissue)
  | handleCallRestriction mmiData =>
    exact .inl (flag_of_byAction hissue flag_of_setFacility flag_of_setFacility
      (flag_of_fromMmi · rfl))
  | setCallTransferInfo cfInfo =>
    unfold issue CellularCallSupplement.setCallTransferInfo at hissue
    dsimp only at hissue
    split at hissue
    · cases hissue
    · refine .inr (hasCallback_of_fromSetting hissue trivial ?_)
      intro request hrequest
      cases hrequest
      trivial
  | getCallTransferInfo type isInclude =>
    unfold issue CellularCallSupplement.getCallTransferInfo at hissue
    refine .inr (hasCallback_of_fromSetting hissue trivial ?_)
    intro request hrequest
    cases hrequest
    trivial
  | setCallWaiting activate =>
    unfold issue CellularCallSupplement.setCallWaiting at hissue
    refine .inr (hasCallback_of_fromSetting hissue trivial ?_)
    intro request hrequest
    cases hrequest
    trivial
  | getCallWaiting =>
    unfold issue CellularCallSupplement.getCallWaiting at hissue
    refine .inr (hasCallback_of_fromSetting hissue trivial ?_)
    intro request hrequest
    cases hrequest
    trivial
  | setCallRestriction cRInfo => exact .inr (hasCallback_of_setCallRestriction hissue)
  | getCallRestriction facType =>
    unfold issue CellularCallSupplement.getCallRestriction at hissue
    dsimp only at hissue
    split at hissue
    · cases hissue
    · refine .inr (hasCallback_of_fromSetting hissue trivial ?_)
      intro request hrequest
      cases hrequest
      trivial
  | setBarringPassword facType oldPassword newPassword =>
    unfold issue CellularCallSupplement.setBarringPassword at hissue
    dsimp only at hissue
    split at hissue
    · cases hissue
    · split at hissue
      · cases hissue
      · cases hissue
        exact .inr trivial

/-! ## What answers a command -/

/-- The responses that hold a result to report: a call-forwarding query does so if
it failed and has no entries, or has an entry for voice. -/
def SsResponse.Reportable : SsResponse → Prop
  | .getCallTransfer cFQueryList =>
    (cFQueryList.result.result ≠ telephonySuccess ∧ cFQueryList.callSize = 0) ∨
      ∃ call ∈ cFQueryList.calls, CellularCallSupplement.IsVoiceClass call.classx
  | _ => True

/-- The callback of an operation answers its command from the settings. -/
theorem SsReport.Answers.of_callback {flag : Int} {operation : SsOperation} {report : SsReport}
    (hflag : flag ≠ ssFromMmiCode) (hcallback : report.callback = some operation) :
    report.Answers flag operation := by
  cases report with
  | mmiCode info => cases hcallback
  | _ => exact ⟨hflag, hcallback⟩

namespace CellularCallSupplement

variable {P : SsPlatform} {flag : Int} {operation : SsOperation}

/-- An MMI code for the dialer and a callback for the settings answer a command. -/
theorem answered_byFlag (flag : Int) {info : MmiCodeInfo} (report : SsReport)
    (hcallback : report.callback = some operation) :
    ∃ r ∈ byFlag flag [.mmiCode info] [report], r.Answers flag operation := by
  unfold byFlag
  split
  · rename_i hflag
    exact ⟨_, List.mem_singleton_self _, hflag⟩
  · rename_i hflag
    exact ⟨_, List.mem_singleton_self _, .of_callback hflag hcallback⟩

/-- Where there is no callback, a command from the dialer is answered. -/
theorem answered_byFlag_of_flag {info : MmiCodeInfo} {setting : List SsReport}
    (hflag : flag = ssFromMmiCode) :
    ∃ r ∈ byFlag flag [.mmiCode info] setting, r.Answers flag operation := by
  unfold byFlag
  rw [if_pos hflag]
  exact ⟨_, List.mem_singleton_self _, hflag⟩

/-- Without the number there is nothing in an entry that does not fit. -/
theorem answered_buildCallForwardQueryInfo (queryResult : CallForwardQueryResult)
    (message : Str) :
    ∃ r ∈ buildCallForwardQueryInfo P queryResult message flag false,
      r.Answers flag .getCallTransfer := by
  have hcopy : strcpyS P.transferNumberSize [] = some [] := if_pos P.transferNumberSize_pos
  unfold buildCallForwardQueryInfo
  simp only [Bool.false_eq_true, if_false, hcopy]
  exact answered_byFlag _ _ rfl

theorem answered_eventGetCallTransferInfo (cFQueryList : CallForwardQueryInfoList)
    (message : Str) :
    (∃ r ∈ eventGetCallTransferInfo P cFQueryList message flag false,
        r.Answers flag .getCallTransfer) ↔
      (SsResponse.getCallTransfer cFQueryList).Reportable := by
  unfold eventGetCallTransferInfo
  dsimp only
  constructor
  · intro h
    obtain ⟨report, hreport, -⟩ := h
    obtain hfailed | hcalls := List.mem_append.mp hreport
    · split at hfailed
      · rename_i hfail
        exact .inl hfail
      · cases hfailed
    · obtain ⟨call, hcall, hbuilt⟩ := List.mem_flatMap.mp hcalls
      split at hbuilt
      · rename_i hvoice
        exact .inr ⟨call, hcall, hvoice⟩
      · cases hbuilt
  · intro h
    rcases h with hfail | ⟨call, hcall, hvoice⟩
    · rw [if_pos hfail]
      obtain ⟨report, hreport, hanswers⟩ := answered_buildCallForwardQueryInfo _ message
      exact ⟨report, List.mem_append_left _ hreport, hanswers⟩
    · obtain ⟨report, hreport, hanswers⟩ := answered_buildCallForwardQueryInfo call message
      refine ⟨report, List.mem_append_right _ (List.mem_flatMap.mpr ⟨call, hcall, ?_⟩), hanswers⟩
      rw [if_pos hvoice]
      exact hreport

end CellularCallSupplement

namespace CellularCallHandler

variable {P : SsPlatform} {slotId : Int} {t : SsTable} {index : Int}
  {command : SsRequestCommand}

/-- A response to a saved command is reported with its flag. -/
theorem withFlag_of_get? (hindex : 0 ≤ index) (hget : t.utCommandMap.get? index = some command)
    (report : Int → List SsReport) :
    withFlag t index report =
      ({ t with utCommandMap := t.utCommandMap.erase index }, report command.flag) := by
  unfold withFlag SsTable.confirmAndRemoveSsRequestCommand
  rw [SsTable.confirmAndRemove_of_get? hindex hget]
  rfl

/-- A response to a saved command is reported with its flag and action. -/
theorem withAction_of_get? (hindex : 0 ≤ index) (hget : t.utCommandMap.get? index = some command)
    (report : Int → Int → List SsReport) :
    withAction t index report =
      ({ t with utCommandMap := t.utCommandMap.erase index },
        report command.flag command.action) := by
  unfold withAction SsTable.confirmAndRemoveSsRequestCommandWithAction
  rw [SsTable.confirmAndRemove_of_get? hindex hget]
  rfl

theorem answered_withFlag (hindex : 0 ≤ index) (hget : t.utCommandMap.get? index = some command)
    {report : Int → List SsReport} {operation : SsOperation}
    (hanswered : ∃ r ∈ report command.flag, r.Answers command.flag operation) :
    ∃ r ∈ (withFlag t index report).2, r.Answers command.flag operation := by
  rw [withFlag_of_get? hindex hget]
  exact hanswered

theorem answered_withAction (hindex : 0 ≤ index)
    (hget : t.utCommandMap.get? index = some command)
    {report : Int → Int → List SsReport} {operation : SsOperation}
    (hanswered : ∃ r ∈ report command.flag command.action, r.Answers command.flag operation) :
    ∃ r ∈ (withAction t index report).2, r.Answers command.flag operation := by
  rw [withAction_of_get? hindex hget]
  exact hanswered

/-- The status of call forwarding does not answer a command. -/
theorem not_answers_handleCallTransferQueryResult {cFQueryList : CallForwardQueryInfoList}
    {flag : Int} {operation : SsOperation} {report : SsReport}
    (hreport : report ∈ handleCallTransferQueryResult slotId cFQueryList) :
    ¬report.Answers flag operation := by
  unfold handleCallTransferQueryResult at hreport
  split at hreport
  · cases hreport
  · rw [List.mem_singleton.mp hreport]
    intro h
    obtain ⟨-, hcallback⟩ := h
    cases hcallback

theorem answered_getCallTransferResponse {cFQueryList : CallForwardQueryInfoList}
    (hindex : 0 ≤ cFQueryList.result.index)
    (hget : t.utCommandMap.get? cFQueryList.result.index = some command) :
    (∃ r ∈ (getCallTransferResponse P slotId t cFQueryList).2,
        r.Answers command.flag .getCallTransfer) ↔
      (SsResponse.getCallTransfer cFQueryList).Reportable := by
  unfold getCallTransferResponse
  dsimp only
  rw [SsTable.getSsRequestCommand_of_get? hget, withFlag_of_get? hindex hget]
  simp only [Option.map_some, Option.getD_some, List.mem_append, or_and_right, exists_or]
  rw [CellularCallSupplement.answered_eventGetCallTransferInfo, or_iff_left]
  · rfl
  · intro h
    obtain ⟨report, hreport, hanswers⟩ := h
    split at hreport
    · exact not_answers_handleCallTransferQueryResult hreport hanswers
    · cases hreport

theorem answered_setCallTransferInfoResponse {info : CallForwardingInfo} {r : SsBaseResult}
    (hindex : 0 ≤ r.index) (hget : t.utCommandMap.get? r.index = some command) :
    ∃ report ∈ (setCallTransferInfoResponse P t info r).2,
      report.Answers command.flag .setCallTransfer := by
  unfold setCallTransferInfoResponse
  dsimp only
  refine answered_withAction hindex hget ?_
  obtain ⟨report, hreport, hanswers⟩ := CellularCallSupplement.answered_byFlag command.flag
    (.setTransfer (cmdResult P r.result)) rfl
  exact ⟨report, List.mem_append_right _ hreport, hanswers⟩

/-- A response to a saved command is answered exactly if it holds a result to
report. -/
theorem answered_iff_reportable {info : CallForwardingInfo} {r : SsResponse}
    (hindex : 0 ≤ r.base.index) (hget : t.utCommandMap.get? r.base.index = some command)
    (horigin : command.flag = ssFromMmiCode ∨ r.operation.HasCallback) :
    (∃ report ∈ (respond P slotId t info r).2, report.Answers command.flag r.operation) ↔
      r.Reportable := by
  open CellularCallSupplement in
  cases r with
  | getCallTransfer r => exact answered_getCallTransferResponse hindex hget
  | setCallTransfer r =>
    exact iff_of_true (answered_setCallTransferInfoResponse hindex hget) trivial
  | setClip r | setColr r | setColp r =>
    have hflag : command.flag = ssFromMmiCode := horigin.resolve_right id
    exact iff_of_true (answered_withAction hindex hget (answered_byFlag_of_flag hflag)) trivial
  | getColr r | getColp r =>
    have hflag : command.flag = ssFromMmiCode := horigin.resolve_right id
    exact iff_of_true (answered_withFlag hindex hget (answered_byFlag_of_flag hflag)) trivial
  | getClip r | getClir r | getCallRestriction r | setBarringPassword r | getCallWaiting r =>
    exact iff_of_true (answered_withFlag hindex hget (answered_byFlag _ _ rfl)) trivial
  | setClir r | setCallRestriction r | setCallWaiting r =>
    exact iff_of_true (answered_withAction hindex hget (answered_byFlag _ _ rfl)) trivial

end CellularCallHandler

/-! ## What is reported of a notification -/

/-- The text a notification is reported with, its own or that of an invalid code,
fits into the message. -/
def UssdNoticeInfo.Fits (P : SsPlatform) (ext : UssdExtension) (slotId : Int)
    (notice : UssdNoticeInfo) : Prop :=
  let own := notice.m = ussdModeNotify ∨ notice.m = ussdModeRequest ∨ notice.m = ussdModeNwRelease
  (cStr (if own then ext.unescaped slotId notice else invalidMmiCode)).length < P.mmiMessageSize

namespace CellularCallSupplement

variable {P : SsPlatform} {ext : UssdExtension} {slotId : Int} {notice : UssdNoticeInfo}

/-- A text is reported, and once, if it fits. -/
theorem reportUssd_eq_mmiCode_iff {result : Int} {text : Str} :
    (∃ info, reportUssd P slotId result text = [.mmiCode info]) ↔
      (cStr text).length < P.mmiMessageSize := by
  unfold reportUssd strcpyS
  by_cases hfits : (cStr text).length < P.mmiMessageSize
  · rw [if_pos hfits]
    exact iff_of_true ⟨_, rfl⟩ hfits
  · rw [if_neg hfits]
    refine iff_of_false ?_ hfits
    intro h
    obtain ⟨info, hinfo⟩ := h
    cases hinfo

/-- A notification that is not dropped is reported, and once, if its text fits. -/
theorem eventUssdNotify_eq_mmiCode_iff (hkept : ¬ext.Drops slotId notice) :
    (∃ info, eventUssdNotify P ext slotId notice = [.mmiCode info]) ↔
      notice.Fits P ext slotId := by
  unfold eventUssdNotify UssdNoticeInfo.Fits
  rw [if_neg hkept]
  dsimp only
  by_cases hown : notice.m = ussdModeNotify ∨ notice.m = ussdModeRequest ∨
      notice.m = ussdModeNwRelease
  · rw [if_pos hown]
    have hvalid : ¬(ext.IsError slotId notice.m ∧ notice.m ≠ ussdModeNwRelease) := by
      intro h
      obtain ⟨⟨⟨hnotify, hrequest⟩, -⟩, hrelease⟩ := h
      obtain h | h | h := hown
      · exact hnotify h
      · exact hrequest h
      · exact hrelease h
    by_cases hshown : ¬ext.IsError slotId notice.m ∧ ext.unescaped slotId notice ≠ []
    · rw [if_pos hshown]
      exact reportUssd_eq_mmiCode_iff
    · rw [if_neg hshown, if_neg hvalid]
      exact reportUssd_eq_mmiCode_iff
  · rw [if_neg hown]
    obtain ⟨hnotify, hrequest, hrelease⟩ := not_or.mp hown |>.imp_right not_or.mp
    have herror : ext.IsError slotId notice.m := ⟨⟨hnotify, hrequest⟩, fun _ => hrelease⟩
    rw [if_neg (fun hown => hown.1 herror), if_pos ⟨herror, hrelease⟩]
    exact reportUssd_eq_mmiCode_iff

end CellularCallSupplement

/-! ## Answers -/

/-- A response to a command that is saved under its index is answered exactly if
it holds a result to report; a USSD notification that is not dropped is reported
once exactly if its text fits. -/
theorem reported_iff (P : SsPlatform) (slotId : Int) :
    (∀ (net : SsNetwork) (cmd : SsCommand) (sent : SsSent) (saved : SsRequestCommand)
      (t : SsTable) (h : SsHistory) (info : CallForwardingInfo) (r : SsResponse),
      cmd.issue P net slotId = .sent sent saved →
      Run ssMachine ssRequests unconditional t h →
      t.utCommandMap.get? r.base.index = some saved → r.operation = sent.operation →
      ((∃ report ∈ (CellularCallHandler.respond P slotId t info r).2,
        report.Answers saved.flag r.operation) ↔ r.Reportable)) ∧
    ∀ (ext : UssdExtension) (notice : UssdNoticeInfo), ¬ext.Drops slotId notice →
      ((∃ info, CellularCallSupplement.eventUssdNotify P ext slotId notice = [.mmiCode info]) ↔
        notice.Fits P ext slotId) := by
  constructor
  · intro net cmd sent saved t h info r hissue hrun hget hoperation
    have hindex : 0 ≤ r.base.index := (SsTable.nonneg_of_run hrun).saved _ _ hget
    refine CellularCallHandler.answered_iff_reportable hindex hget ?_
    rw [hoperation]
    exact cmd.flag_or_hasCallback hissue
  · intro ext notice hkept
    exact CellularCallSupplement.eventUssdNotify_eq_mmiCode_iff hkept

/-- A query of the settings for call waiting is answered, and so is a notification
with a text. -/
theorem reported_getCallWaiting :
    (∃ report ∈ (CellularCallHandler.respond .plain 0
        (exec ssMachine ssRequests SsTable.init SsHistory.init
          [.requestIndex, .send 0 { SsRequestCommand.default with flag := ssFromSettingMenu },
            .save 0 { SsRequestCommand.default with flag := ssFromSettingMenu } 1]).1
        ⟨0, false, []⟩ (.getCallWaiting ⟨⟨1, 0, 0, []⟩, 1, 1⟩)).2,
        report.Answers ssFromSettingMenu .getCallWaiting) ∧
      ∃ info, CellularCallSupplement.eventUssdNotify .plain ⟨none, none, none, true, id⟩ 0
        ⟨ussdModeNotify, ['1']⟩ = [.mmiCode info] := by
  have hissue : SsCommand.getCallWaiting.issue .plain ⟨true, true, 1⟩ 0 =
    .sent (.ims (.getCallWaiting 0))
      { SsRequestCommand.default with flag := ssFromSettingMenu } := rfl
  constructor
  · exact ((reported_iff .plain 0).1 _ _ _ _ _ _ ⟨0, false, []⟩
      (.getCallWaiting ⟨⟨1, 0, 0, []⟩, 1, 1⟩) hissue (Run.of_admits _ (by decide)) (by decide)
      rfl).mpr trivial
  · exact ((reported_iff .plain 0).2 ⟨none, none, none, true, id⟩ ⟨ussdModeNotify, ['1']⟩
      (by decide)).mpr (by unfold UssdNoticeInfo.Fits; decide)

/-- A call-forwarding query that succeeds without entries is not answered. -/
theorem not_reported :
    ¬((∀ (P : SsPlatform) (net : SsNetwork) (slotId : Int) (cmd : SsCommand) (sent : SsSent)
        (saved : SsRequestCommand) (t : SsTable) (h : SsHistory) (info : CallForwardingInfo)
        (r : SsResponse), cmd.issue P net slotId = .sent sent saved →
        Run ssMachine ssRequests unconditional t h →
        t.utCommandMap.get? r.base.index = some saved → r.operation = sent.operation →
        ∃ report ∈ (CellularCallHandler.respond P slotId t info r).2,
          report.Answers saved.flag r.operation) ∧
      ∀ (P : SsPlatform) (ext : UssdExtension) (slotId : Int) (notice : UssdNoticeInfo),
        ¬ext.Drops slotId notice →
        ∃ info, CellularCallSupplement.eventUssdNotify P ext slotId notice =
          [.mmiCode info]) := by
  intro h
  obtain ⟨hclaim, -⟩ := h
  have hissue : (SsCommand.getCallTransferInfo 1 false).issue .plain ⟨true, true, 1⟩ 0 =
    .sent (.ims (.getCallTransfer 0 1))
      { SsRequestCommand.default with flag := ssFromSettingMenu, cfReason := 1 } := rfl
  obtain ⟨report, hreport, -⟩ := hclaim .plain _ 0 _ _ _ _ _ ⟨0, false, []⟩
    (.getCallTransfer ⟨⟨1, 0, 0, []⟩, 0, 0, []⟩) hissue
    (Run.of_admits (M := ssMachine) (H := ssRequests)
      [.requestIndex,
        .send 0 { SsRequestCommand.default with flag := ssFromSettingMenu, cfReason := 1 },
        .save 0 { SsRequestCommand.default with flag := ssFromSettingMenu, cfReason := 1 } 1]
      (by decide)) (by decide) rfl
  cases hreport

end CellularCall
