import CellularCall.SsRequests

/-!
# The way back to CS

When the IMS service answers a supplementary service with
`IMS_ERROR_UT_CS_FALLBACK`, `ImsCallCallbackStub` sends the request again over CS,
with the parameters it finds in the saved command.

`retried_iff` says when this is the request that would have been sent over CS at
once.
-/

namespace CellularCall

/-! ## The stub -/

/-- What the stub makes of a response: an event for the handler, a request over
CS under the same index, or an error. -/
inductive SsReceived where
  | event (response : SsResponse)
  | csRequest (index : Int) (request : CoreRequest)
  | error
deriving DecidableEq, Repr

namespace ImsCallCallbackStub

variable (P : SsPlatform) (t : SsTable) (slotId : Int)

/-- A request over CS, made of the saved command. -/
def retryWith (index : Int) (request : SsRequestCommand → Option CoreRequest) : SsReceived :=
  match t.getSsRequestCommand index .default with
  | none => .error
  | some ss =>
    match request ss with
    | none => .error
    | some request => .csRequest index request

/-- `SetClipResponse`. -/
def setClipResponse (resultInfo : SsBaseResult) : SsReceived := .event (.setClip resultInfo)

/-- `GetClipResponse`. -/
def getClipResponse (result : GetClipResult) : SsReceived :=
  if result.result.result = P.imsErrorUtCsFallback then
    .csRequest result.result.index (.getClip slotId)
  else .event (.getClip result)

/-- `GetClirResponse`. -/
def getClirResponse (result : GetClirResult) : SsReceived :=
  if result.result.result = P.imsErrorUtCsFallback then
    .csRequest result.result.index (.getClir slotId)
  else .event (.getClir result)

/-- `SetClirResponse`. -/
def setClirResponse (resultInfo : SsBaseResult) : SsReceived :=
  if resultInfo.result = P.imsErrorUtCsFallback then
    retryWith t resultInfo.index fun ss => some (.setClir slotId ss.clirAction)
  else .event (.setClir resultInfo)

/-- `GetCallTransferResponse`.  The flag is not copied into the event. -/
def getCallTransferResponse (cFQueryList : CallForwardQueryInfoList) : SsReceived :=
  if cFQueryList.result.result = P.imsErrorUtCsFallback then
    retryWith t cFQueryList.result.index fun ss => some (.getCallTransferInfo slotId ss.cfReason)
  else .event (.getCallTransfer { cFQueryList with flag := 0 })

/-- `SetCallTransferResponse`. -/
def setCallTransferResponse (resultInfo : SsBaseResult) : SsReceived :=
  if resultInfo.result = P.imsErrorUtCsFallback then
    retryWith t resultInfo.index fun ss =>
      some (.setCallTransferInfo slotId ⟨ss.cfAction, ss.cfReason, ss.number, ss.classType⟩)
  else .event (.setCallTransfer resultInfo)

/-- `GetCallRestrictionResponse`. -/
def getCallRestrictionResponse (result : CallRestrictionResult) : SsReceived :=
  if result.result.result = P.imsErrorUtCsFallback then
    retryWith t result.result.index fun ss => some (.getCallRestriction slotId ss.facility)
  else .event (.getCallRestriction result)

/-- `SetCallRestrictionResponse`. -/
def setCallRestrictionResponse (resultInfo : SsBaseResult) : SsReceived :=
  if resultInfo.result = P.imsErrorUtCsFallback then
    retryWith t resultInfo.index fun ss =>
      SupplementRequestCs.setCallRestrictionRequest P slotId ss.facility (boolInt ss.enable)
        ss.password
  else .event (.setCallRestriction resultInfo)

/-- `GetCallWaitingResponse`. -/
def getCallWaitingResponse (result : CallWaitResult) : SsReceived :=
  if result.result.result = P.imsErrorUtCsFallback then
    .csRequest result.result.index (.getCallWaiting slotId)
  else .event (.getCallWaiting result)

/-- `SetCallWaitingResponse`. -/
def setCallWaitingResponse (resultInfo : SsBaseResult) : SsReceived :=
  if resultInfo.result = P.imsErrorUtCsFallback then
    retryWith t resultInfo.index fun ss =>
      some (SupplementRequestCs.setCallWaitingRequest slotId ss.enable ss.classType)
  else .event (.setCallWaiting resultInfo)

/-- The functions of the stub for the results of supplementary services.  A
result of the barring password comes from the modem only. -/
def receive : SsResponse → SsReceived
  | .setClip r => setClipResponse r
  | .getClip r => getClipResponse P slotId r
  | .getClir r => getClirResponse P slotId r
  | .setClir r => setClirResponse P t slotId r
  | .getCallTransfer r => getCallTransferResponse P t slotId r
  | .setCallTransfer r => setCallTransferResponse P t slotId r
  | .getCallRestriction r => getCallRestrictionResponse P t slotId r
  | .setCallRestriction r => setCallRestrictionResponse P t slotId r
  | .getCallWaiting r => getCallWaitingResponse P slotId r
  | .setCallWaiting r => setCallWaitingResponse P t slotId r
  | .setColr r => .event (.setColr r)
  | .getColr r => .event (.getColr r)
  | .setColp r => .event (.setColp r)
  | .getColp r => .event (.getColp r)
  | .setBarringPassword r => .event (.setBarringPassword r)

end ImsCallCallbackStub

/-! ## The same request again -/

/-- The request over CS that the stub makes of a command, by its kind.  The other
kinds are not retried. -/
def retryRequest (P : SsPlatform) (slotId : Int) (operation : SsOperation)
    (ss : SsRequestCommand) : Option CoreRequest :=
  match operation with
  | .getClip => some (.getClip slotId)
  | .getClir => some (.getClir slotId)
  | .setClir => some (.setClir slotId ss.clirAction)
  | .getCallTransfer => some (.getCallTransferInfo slotId ss.cfReason)
  | .setCallTransfer =>
    some (.setCallTransferInfo slotId ⟨ss.cfAction, ss.cfReason, ss.number, ss.classType⟩)
  | .getCallRestriction => some (.getCallRestriction slotId ss.facility)
  | .setCallRestriction =>
    SupplementRequestCs.setCallRestrictionRequest P slotId ss.facility (boolInt ss.enable)
      ss.password
  | .getCallWaiting => some (.getCallWaiting slotId)
  | .setCallWaiting =>
    some (SupplementRequestCs.setCallWaitingRequest slotId ss.enable ss.classType)
  | _ => none

/-- A request made of a saved command, where it does not depend on the field that
is not copied. -/
theorem retryWith_eq_iff {t : SsTable} {index : Int} {command : SsRequestCommand}
    (hsaved : t.utCommandMap.get? index = some command)
    {make : SsRequestCommand → Option CoreRequest}
    (hmake : make { command with isIncludeCallForwardingNumber := false } = make command)
    {request : CoreRequest} :
    ImsCallCallbackStub.retryWith t index make = .csRequest index request ↔
      make command = some request := by
  unfold ImsCallCallbackStub.retryWith
  rw [SsTable.getSsRequestCommand_of_get? hsaved]
  dsimp only
  rw [hmake]
  cases make command with
  | none =>
    constructor
    · intro hsame
      cases hsame
    · intro hsame
      cases hsame
  | some made =>
    constructor
    · intro hsame
      cases hsame
      rfl
    · intro hsame
      cases hsame
      rfl

/-- What the stub makes of a command that is answered with the error. -/
theorem receive_eq_iff {P : SsPlatform} {t : SsTable} {slotId : Int} {r : SsResponse}
    {command : SsRequestCommand} (hsaved : t.utCommandMap.get? r.base.index = some command)
    (hresult : r.base.result = P.imsErrorUtCsFallback) (request : CoreRequest) :
    ImsCallCallbackStub.receive P t slotId r = .csRequest r.base.index request ↔
      retryRequest P slotId r.operation command = some request := by
  cases r with
  | setClip r | setColr r | getColr r | setColp r | getColp r | setBarringPassword r =>
    constructor
    · intro hsame
      cases hsame
    · intro hsame
      cases hsame
  | getClip r | getClir r | getCallWaiting r =>
    refine (iff_of_eq (congrArg (· = _) (if_pos hresult))).trans ?_
    constructor
    · intro hsame
      cases hsame
      rfl
    · intro hsame
      cases hsame
      rfl
  | setClir r | getCallTransfer r | setCallTransfer r | getCallRestriction r
  | setCallRestriction r | setCallWaiting r =>
    exact (iff_of_eq (congrArg (· = _) (if_pos hresult))).trans (retryWith_eq_iff hsaved rfl)

/-- The network as it is when a command goes over CS at once. -/
def SsNetwork.overCs (net : SsNetwork) : SsNetwork := { net with useIms := false, gsm := true }

/-- The commands whose saved form holds all that is sent over CS: not a CLIR set,
whose action is saved where it is not looked for, nor a call-forwarding set from
the dialer with a service class, which is not saved. -/
def SsCommand.Agreed : SsCommand → Prop
  | .handleClir mmiData => mmiData.actionString = ['*', '#']
  | .handleCallTransfer mmiData => mmiData.actionString = ['*', '#'] ∨
      CellularCallSupplement.obtainServiceCode mmiData.serviceInfoB = serviceClassNone
  | _ => True

namespace CellularCallSupplement

variable {P : SsPlatform} {net : SsNetwork} {slotId : Int} {mmiData : MMIData}
  {ims : ImsSsRequest} {cs : CoreRequest} {saved saved' : SsRequestCommand}

/-- A request the handlers of dialer codes route is made again of what is saved,
if the saved command holds its parameters. -/
theorem retryRequest_fromMmi {imsRequest : ImsSsRequest} {csRequest : Option CoreRequest}
    {command command' : SsRequestCommand}
    (hims : fromMmi (route net imsRequest csRequest) command = .sent (.ims ims) saved)
    (hcs : fromMmi (route net.overCs imsRequest csRequest) command' = .sent (.cs cs) saved')
    (hretry : retryRequest P slotId (SsSent.ims imsRequest).operation command = csRequest) :
    retryRequest P slotId (SsSent.ims ims).operation saved = some cs := by
  obtain ⟨hroute, hsaved⟩ := fromMmi_eq_sent hims
  obtain ⟨hroute', -⟩ := fromMmi_eq_sent hcs
  rw [← route_eq_ims net hroute, ← hsaved, hretry]
  exact route_eq_cs net.overCs hroute'

/-- The same for the settings. -/
theorem retryRequest_fromSetting {imsRequest : ImsSsRequest} {csRequest : Option CoreRequest}
    {command command' : SsRequestCommand}
    (hims : fromSetting net imsRequest csRequest command = .sent (.ims ims) saved)
    (hcs : fromSetting net.overCs imsRequest csRequest command' = .sent (.cs cs) saved')
    (hretry : retryRequest P slotId (SsSent.ims imsRequest).operation command = csRequest) :
    retryRequest P slotId (SsSent.ims ims).operation saved = some cs := by
  obtain ⟨hrequest, hsaved⟩ := fromSetting_eq_ims net hims
  obtain ⟨hrequest', -⟩ := fromSetting_eq_cs net.overCs hcs
  rw [← hrequest, ← hsaved, hretry]
  exact hrequest'

theorem retryRequest_handleClip (hims : handleClip net slotId mmiData = .sent (.ims ims) saved)
    (hcs : handleClip net.overCs slotId mmiData = .sent (.cs cs) saved') :
    retryRequest P slotId (SsSent.ims ims).operation saved = some cs := by
  obtain ⟨-, -, hset⟩ | ⟨-, -, hset⟩ | ⟨-, hims, hcs⟩ := byAction_eq_sent_pair hims hcs
  · cases hset
  · cases hset
  · exact retryRequest_fromMmi hims hcs rfl

/-- The action of a CLIR set is lost. -/
theorem retryRequest_setClir {action : Int} (haction : action ≠ 0)
    (hims : setClir net slotId action = .sent (.ims ims) saved)
    (hcs : setClir net.overCs slotId action = .sent (.cs cs) saved') :
    retryRequest P slotId (SsSent.ims ims).operation saved ≠ some cs := by
  obtain ⟨hroute, hsaved⟩ := fromMmi_eq_sent hims
  obtain ⟨hroute', -⟩ := fromMmi_eq_sent hcs
  have hdirect := route_eq_cs net.overCs hroute'
  rw [← route_eq_ims net hroute, ← hsaved, ← hdirect]
  intro hsame
  exact haction (CoreRequest.setClir.inj (Option.some.inj hsame)).2.symm

theorem retryRequest_handleClir (hims : handleClir net slotId mmiData = .sent (.ims ims) saved)
    (hcs : handleClir net.overCs slotId mmiData = .sent (.cs cs) saved') :
    retryRequest P slotId (SsSent.ims ims).operation saved = some cs ↔
      mmiData.actionString = ['*', '#'] := by
  obtain ⟨ha, hims, hcs⟩ | ⟨ha, hims, hcs⟩ | ⟨ha, hims, hcs⟩ := byAction_eq_sent_pair hims hcs
  all_goals rw [ha]
  · exact iff_of_false (retryRequest_setClir (by decide) hims hcs) (by decide)
  · exact iff_of_false (retryRequest_setClir (by decide) hims hcs) (by decide)
  · exact iff_of_true (retryRequest_fromMmi hims hcs rfl) rfl

/-- The service class of a call-forwarding set is lost. -/
theorem retryRequest_handleSetCallTransfer {serviceCode cause action : Int} {phoneNumber : Str}
    (hims : handleSetCallTransfer P net slotId serviceCode cause phoneNumber action =
      .sent (.ims ims) saved)
    (hcs : handleSetCallTransfer P net.overCs slotId serviceCode cause phoneNumber action =
      .sent (.cs cs) saved') :
    retryRequest P slotId (SsSent.ims ims).operation saved = some cs ↔
      serviceCode = serviceClassNone := by
  unfold handleSetCallTransfer at hims
  split at hims
  · split at hims
    · cases hims
    · cases hims
      cases hcs
      constructor
      · intro hsame
        have hparam := (CoreRequest.setCallTransferInfo.inj (Option.some.inj hsame)).2
        exact (congrArg CallTransferParam.classx hparam).symm
      · intro hnone
        rw [hnone]
        rfl
  · cases hims

theorem retryRequest_handleCallTransfer
    (hims : handleCallTransfer P net slotId mmiData = .sent (.ims ims) saved)
    (hcs : handleCallTransfer P net.overCs slotId mmiData = .sent (.cs cs) saved') :
    retryRequest P slotId (SsSent.ims ims).operation saved = some cs ↔
      mmiData.actionString = ['*', '#'] ∨
        obtainServiceCode mmiData.serviceInfoB = serviceClassNone := by
  unfold handleCallTransfer at hims hcs
  dsimp only at hims hcs
  split at hims
  · rename_i hinterrogate
    rw [if_pos hinterrogate] at hcs
    exact iff_of_true (retryRequest_fromMmi hims hcs rfl) (.inl hinterrogate)
  · rename_i hinterrogate
    rw [if_neg hinterrogate] at hcs
    split at hims
    · cases hims
    · rename_i hempty
      rw [if_neg hempty] at hcs
      cases haction : obtainCallTrasferAction mmiData.actionString mmiData.serviceInfoA with
      | none =>
        rw [haction] at hims
        cases hims
      | some action =>
        rw [haction] at hims hcs
        rw [retryRequest_handleSetCallTransfer hims hcs, or_iff_right hinterrogate]

theorem retryRequest_setFacility {facType infoA : Str} {enable : Bool}
    (hims : setFacility P net slotId facType enable infoA = .sent (.ims ims) saved)
    (hcs : setFacility P net.overCs slotId facType enable infoA = .sent (.cs cs) saved') :
    retryRequest P slotId (SsSent.ims ims).operation saved = some cs := by
  unfold setFacility at hims hcs
  cases hcopy : strcpyS (P.kMaxNumberLen + 1) infoA with
  | none =>
    rw [hcopy] at hims
    cases hims
  | some password =>
    rw [hcopy] at hims hcs
    refine retryRequest_fromMmi hims hcs ?_
    have hpassword := eq_cStr_of_strcpyS hcopy
    show SupplementRequestCs.setCallRestrictionRequest P slotId facType (boolInt enable)
      password = _
    unfold SupplementRequestCs.setCallRestrictionRequest
    rw [hpassword, strcpyS_cStr]

theorem retryRequest_handleCallRestriction
    (hims : handleCallRestriction P net slotId mmiData = .sent (.ims ims) saved)
    (hcs : handleCallRestriction P net.overCs slotId mmiData = .sent (.cs cs) saved') :
    retryRequest P slotId (SsSent.ims ims).operation saved = some cs := by
  obtain ⟨-, hims, hcs⟩ | ⟨-, hims, hcs⟩ | ⟨-, hims, hcs⟩ := byAction_eq_sent_pair hims hcs
  · exact retryRequest_setFacility hims hcs
  · exact retryRequest_setFacility hims hcs
  · exact retryRequest_fromMmi hims hcs rfl

theorem retryRequest_handleCallWaiting
    (hims : handleCallWaiting net slotId mmiData = .sent (.ims ims) saved)
    (hcs : handleCallWaiting net.overCs slotId mmiData = .sent (.cs cs) saved') :
    retryRequest P slotId (SsSent.ims ims).operation saved = some cs := by
  obtain ⟨-, hims, hcs⟩ | ⟨-, hims, hcs⟩ | ⟨-, hims, hcs⟩ := byAction_eq_sent_pair hims hcs
  · exact retryRequest_fromMmi hims hcs rfl
  · exact retryRequest_fromMmi hims hcs rfl
  · exact retryRequest_fromMmi hims hcs rfl

theorem retryRequest_setCallTransferInfo {cfInfo : CallTransferInfo}
    (hims : setCallTransferInfo net slotId cfInfo = .sent (.ims ims) saved)
    (hcs : setCallTransferInfo net.overCs slotId cfInfo = .sent (.cs cs) saved') :
    retryRequest P slotId (SsSent.ims ims).operation saved = some cs := by
  unfold setCallTransferInfo at hims hcs
  cases hcheck : checkSetCallTransferInfo cfInfo with
  | some e =>
    rw [hcheck] at hims
    cases hims
  | none =>
    rw [hcheck] at hims hcs
    exact retryRequest_fromSetting hims hcs rfl

theorem retryRequest_setCallRestriction {cRInfo : CallRestrictionInfo}
    (hims : setCallRestriction P net slotId cRInfo = .sent (.ims ims) saved)
    (hcs : setCallRestriction P net.overCs slotId cRInfo = .sent (.cs cs) saved') :
    retryRequest P slotId (SsSent.ims ims).operation saved = some cs := by
  unfold setCallRestriction at hims hcs
  cases hfac : checkCallRestrictionType cRInfo.fac with
  | none =>
    rw [hfac] at hims
    cases hims
  | some fac =>
    rw [hfac] at hims hcs
    dsimp only at hims hcs
    split at hims
    · cases hims
    · rename_i hmode
      rw [if_neg hmode] at hcs
      cases hcopy : strcpyS (P.kMaxNumberLen + 1) (cStr cRInfo.password) with
      | none =>
        rw [hcopy] at hims
        cases hims
      | some password =>
        rw [hcopy] at hims hcs
        refine retryRequest_fromSetting hims hcs ?_
        have hpassword := eq_cStr_of_strcpyS hcopy
        -- A mode in range is 0 or 1, and survives as a flag.
        have hflag : boolInt (decide (cRInfo.mode ≠ 0)) = cRInfo.mode := by
          unfold restrictionModeDeactivation restrictionModeActivation at hmode
          unfold boolInt
          split
          · rename_i hne
            have hne' := of_decide_eq_true hne
            omega
          · rename_i hne
            by_contra hne'
            exact hne (decide_eq_true (fun h => hne' h.symm))
        show SupplementRequestCs.setCallRestrictionRequest P slotId fac
          (boolInt (decide (cRInfo.mode ≠ 0))) password = _
        unfold SupplementRequestCs.setCallRestrictionRequest
        rw [hflag, hpassword, strcpyS_cStr]

theorem retryRequest_getCallRestriction {facType : CallRestrictionType}
    (hims : getCallRestriction net slotId facType = .sent (.ims ims) saved)
    (hcs : getCallRestriction net.overCs slotId facType = .sent (.cs cs) saved') :
    retryRequest P slotId (SsSent.ims ims).operation saved = some cs := by
  unfold getCallRestriction at hims hcs
  cases hfac : checkCallRestrictionType facType with
  | none =>
    rw [hfac] at hims
    cases hims
  | some fac =>
    rw [hfac] at hims hcs
    exact retryRequest_fromSetting hims hcs rfl

end CellularCallSupplement

/-- The commands that go over IMS and over CS, but for those of which a parameter is
lost, are sent over CS as they would have been at once. -/
theorem SsCommand.retryRequest_iff {P : SsPlatform} {net : SsNetwork} {slotId : Int}
    {cmd : SsCommand} {ims : ImsSsRequest} {cs : CoreRequest} {saved saved' : SsRequestCommand}
    (hims : cmd.issue P net slotId = .sent (.ims ims) saved)
    (hcs : cmd.issue P net.overCs slotId = .sent (.cs cs) saved') :
    retryRequest P slotId (SsSent.ims ims).operation saved = some cs ↔ cmd.Agreed := by
  cases cmd with
  | handleClip mmiData =>
    exact iff_of_true (CellularCallSupplement.retryRequest_handleClip hims hcs) trivial
  | handleClir mmiData => exact CellularCallSupplement.retryRequest_handleClir hims hcs
  | handleColr mmiData =>
    obtain ⟨-, hset⟩ | ⟨-, hset⟩ | ⟨-, hset⟩ := CellularCallSupplement.byAction_eq_sent hcs
    · cases hset
    · cases hset
    · cases hset
  | handleColp mmiData =>
    obtain ⟨-, hset⟩ | ⟨-, hset⟩ | ⟨-, hset⟩ := CellularCallSupplement.byAction_eq_sent hcs
    · cases hset
    · cases hset
    · cases hset
  | handleCallTransfer mmiData =>
    exact CellularCallSupplement.retryRequest_handleCallTransfer hims hcs
  | handleCallRestriction mmiData =>
    exact iff_of_true (CellularCallSupplement.retryRequest_handleCallRestriction hims hcs) trivial
  | handleCallWaiting mmiData =>
    exact iff_of_true (CellularCallSupplement.retryRequest_handleCallWaiting hims hcs) trivial
  | setCallTransferInfo cfInfo =>
    exact iff_of_true (CellularCallSupplement.retryRequest_setCallTransferInfo hims hcs) trivial
  | getCallTransferInfo type isInclude =>
    dsimp only [issue, CellularCallSupplement.getCallTransferInfo] at hims hcs
    exact iff_of_true (CellularCallSupplement.retryRequest_fromSetting hims hcs rfl) trivial
  | setCallWaiting activate =>
    dsimp only [issue, CellularCallSupplement.setCallWaiting] at hims hcs
    exact iff_of_true (CellularCallSupplement.retryRequest_fromSetting hims hcs rfl) trivial
  | getCallWaiting =>
    dsimp only [issue, CellularCallSupplement.getCallWaiting] at hims hcs
    exact iff_of_true (CellularCallSupplement.retryRequest_fromSetting hims hcs rfl) trivial
  | setCallRestriction cRInfo =>
    exact iff_of_true (CellularCallSupplement.retryRequest_setCallRestriction hims hcs) trivial
  | getCallRestriction facType =>
    exact iff_of_true (CellularCallSupplement.retryRequest_getCallRestriction hims hcs) trivial
  | setBarringPassword facType oldPassword newPassword =>
    dsimp only [issue, CellularCallSupplement.setBarringPassword] at hims
    split at hims
    · cases hims
    · split at hims
      · cases hims
      · cases hims

/-- A command that was sent over IMS and saved, and is answered with the error, is
sent over CS as it would have been at once exactly if the saved command holds its
parameters. -/
theorem retried_iff {P : SsPlatform} {net : SsNetwork} {slotId : Int} {cmd : SsCommand}
    {ims : ImsSsRequest} {cs : CoreRequest} {saved saved' : SsRequestCommand} {t : SsTable}
    {r : SsResponse} (hims : cmd.issue P net slotId = .sent (.ims ims) saved)
    (hcs : cmd.issue P net.overCs slotId = .sent (.cs cs) saved')
    (hsaved : t.utCommandMap.get? r.base.index = some saved)
    (hoperation : r.operation = (SsSent.ims ims).operation)
    (hresult : r.base.result = P.imsErrorUtCsFallback) :
    ImsCallCallbackStub.receive P t slotId r = .csRequest r.base.index cs ↔ cmd.Agreed := by
  rw [receive_eq_iff hsaved hresult cs, hoperation]
  exact SsCommand.retryRequest_iff hims hcs

/-- Call waiting, switched on in the settings, is switched on over CS. -/
theorem retried_setCallWaiting :
    ImsCallCallbackStub.receive .plain
        (SsTable.init.saveSsRequestCommand
          { SsRequestCommand.default with
            flag := ssFromSettingMenu, classType := 1, enable := true, action := 1 } 0) 0
        (.setCallWaiting ⟨0, 101, 0, []⟩) =
      .csRequest 0 (.setCallWaiting 0 true) := by
  have hims : (SsCommand.setCallWaiting true).issue .plain ⟨true, true, 1⟩ 0 =
    .sent (.ims (.setCallWaiting 0 true 1))
      { SsRequestCommand.default with
        flag := ssFromSettingMenu, classType := 1, enable := true, action := 1 } := rfl
  exact (retried_iff hims rfl rfl rfl rfl).mpr trivial

/-- A CLIR that is switched on from the dialer is set to 0 over CS. -/
theorem not_retried :
    ¬∀ (P : SsPlatform) (net : SsNetwork) (slotId : Int) (cmd : SsCommand) (ims : ImsSsRequest)
      (cs : CoreRequest) (saved saved' : SsRequestCommand) (t : SsTable) (r : SsResponse),
      cmd.issue P net slotId = .sent (.ims ims) saved →
      cmd.issue P net.overCs slotId = .sent (.cs cs) saved' →
      t.utCommandMap.get? r.base.index = some saved →
      r.operation = (SsSent.ims ims).operation → r.base.result = P.imsErrorUtCsFallback →
      ImsCallCallbackStub.receive P t slotId r = .csRequest r.base.index cs := by
  intro hclaim
  have hsame := hclaim .plain ⟨true, true, 1⟩ 0 (.handleClir ⟨['*'], "31".toList, [], []⟩)
    (.setClir 0 1) (.setClir 0 1) { SsRequestCommand.default with action := 1 }
    { SsRequestCommand.default with action := 1 }
    (SsTable.init.saveSsRequestCommand { SsRequestCommand.default with action := 1 } 0)
    (.setClir ⟨0, 101, 0, []⟩) rfl rfl rfl rfl rfl
  revert hsame
  decide

end CellularCall
