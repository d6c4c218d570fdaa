import CellularCall.Types

/-!
# Connections

A connection is what a control remembers about one call: the record it last
reported, the index the modem knows the call by, a mark used while a call list
is processed, and the part of a dialled number that is sent as tones once the
call is up.

`BaseConnection` is common to the domains.  `Connection δ` adds the members of
the domain's own class: `CsPart` and `ImsPart`; a satellite connection has none.

What a service call sends out is an `Output`.  A report carries its `sender`,
the control whose function sends it.
-/

namespace CellularCall

/-- What the modelled code sends: reports to the call manager, requests to the
modem or the IMS service with the code they return, timers it arms, and the code
a service call returns to its caller.  `imsControlDial` notes that the handler
itself calls `IMSControl::Dial`. -/
inductive Output where
  | reportCallsInfo (sender : CallType) (info : CallsReportInfo)
  | reportSingleCallInfo (sender : CallType) (info : CallReportInfo)
  | reportEventResultInfo
  | reportPostDialChar (c : Char)
  | reportPostDialDelay (left : Str)
  | getCallFailReason (asker : CallType)
  | dialRequest (request : DialRequestStruct)
  | imsDialRequest (request : ImsDialInfoStruct) (ret : RetCode)
  | switchCall
  | imsSwitchCall (videoState : Int) (ret : RetCode)
  | hangUpRequest (index : Int)
  | imsHangUpRequest (phoneNum : Str) (index : Int)
  | answerRequest
  | imsAnswerRequest (phoneNum : Str) (videoState : Int) (index : Int) (isRTT : Bool)
  | rejectRequest
  | imsRejectRequest (phoneNum : Str) (index : Int)
  | callSupplement (type : CallSupplementType)
  | sendDtmf (domain : CallType) (c : Char) (index : Int)
  | executePostDialLater (domain : CallType) (index : Int)
  | waitForRadioOn (timer : Nat)
  | imsControlDial (callInfo : CellularCallInfo)
  | reportControlException (callInfo : CellularCallInfo)
  | returned (ret : RetCode)
deriving DecidableEq, Repr

/-- The outputs of sending a post-dial string. -/
def Output.isPostDial : Output → Bool
  | .reportPostDialChar _ => true
  | .reportPostDialDelay _ => true
  | .sendDtmf _ _ _ => true
  | .executePostDialLater _ _ => true
  | _ => false

/-- The reports of calls among the outputs, each with its sender. -/
def Output.reports (outputs : List Output) : List (CallType × CallsReportInfo) :=
  outputs.filterMap fun
    | .reportCallsInfo sender info => some (sender, info)
    | _ => none

@[simp] theorem Output.reports_nil : Output.reports [] = [] := rfl

@[simp] theorem Output.reports_append (a b : List Output) :
    Output.reports (a ++ b) = Output.reports a ++ Output.reports b :=
  List.filterMap_append

@[simp] theorem Output.reports_singleton (sender : CallType) (info : CallsReportInfo) :
    Output.reports [.reportCallsInfo sender info] = [(sender, info)] := rfl

/-- The controls that ask for a disconnect reason in the outputs. -/
def Output.queries (outputs : List Output) : List CallType :=
  outputs.filterMap fun
    | .getCallFailReason asker => some asker
    | _ => none

@[simp] theorem Output.queries_nil : Output.queries [] = [] := rfl

@[simp] theorem Output.queries_append (a b : List Output) :
    Output.queries (a ++ b) = Output.queries a ++ Output.queries b :=
  List.filterMap_append

@[simp] theorem Output.queries_report (sender : CallType) (info : CallsReportInfo) :
    Output.queries [.reportCallsInfo sender info] = [] := rfl

@[simp] theorem Output.queries_singleton (asker : CallType) :
    Output.queries [.getCallFailReason asker] = [asker] := rfl

@[simp] theorem Output.reports_query (asker : CallType) :
    Output.reports [.getCallFailReason asker] = [] := rfl

/-- The outputs that report on calls. -/
def Output.isReport : Output → Bool
  | .reportCallsInfo _ _ => true
  | .reportSingleCallInfo _ _ => true
  | _ => false

/-- The requests to switch calls in the IMS service. -/
def Output.isImsSwitch : Output → Bool
  | .imsSwitchCall _ _ => true
  | _ => false

/-- The service accepts a request to switch calls. -/
def Output.acceptsSwitch (outputs : List Output) : Bool :=
  outputs.any fun
    | .imsSwitchCall _ ret => decide (ret = .success)
    | _ => false

@[simp] theorem Output.acceptsSwitch_append (a b : List Output) :
    Output.acceptsSwitch (a ++ b) = (Output.acceptsSwitch a || Output.acceptsSwitch b) :=
  List.any_append

theorem Output.acceptsSwitch_of_isImsSwitch {outputs : List Output}
    (h : ∀ o ∈ outputs, o.isImsSwitch = false) : Output.acceptsSwitch outputs = false := by
  rw [Output.acceptsSwitch, List.any_eq_false]
  intro o ho
  cases o with
  | imsSwitchCall videoState ret => exact absurd (h _ ho) (by simp [Output.isImsSwitch])
  | _ => simp

/-- The dials sent to the IMS service. -/
def Output.imsDials (outputs : List Output) : List ImsDialInfoStruct :=
  outputs.filterMap fun
    | .imsDialRequest request _ => some request
    | _ => none

/-- The calls for which the handler calls `IMSControl::Dial`. -/
def Output.controlDials (outputs : List Output) : List CellularCallInfo :=
  outputs.filterMap fun
    | .imsControlDial callInfo => some callInfo
    | _ => none

@[simp] theorem Output.controlDials_nil : Output.controlDials [] = [] := rfl

@[simp] theorem Output.controlDials_append (a b : List Output) :
    Output.controlDials (a ++ b) = Output.controlDials a ++ Output.controlDials b :=
  List.filterMap_append

theorem Output.isReport_of_isPostDial {o : Output} (h : o.isPostDial = true) :
    o.isReport = false := by
  cases o <;> simp_all [Output.isPostDial, Output.isReport]

/-- Outputs that report on no call. -/
theorem Output.reports_of_isReport {outputs : List Output}
    (hquiet : ∀ o ∈ outputs, o.isReport = false) : Output.reports outputs = [] := by
  rw [Output.reports, List.filterMap_eq_nil_iff]
  intro o ho
  cases o with
  | reportCallsInfo sender info => exact absurd (hquiet _ ho) Bool.noConfusion
  | _ => rfl

/-- Post-dial outputs contain no report of calls. -/
theorem Output.reports_of_isPostDial {outputs : List Output}
    (h : ∀ o ∈ outputs, o.isPostDial = true) : Output.reports outputs = [] :=
  Output.reports_of_isReport fun o ho => Output.isReport_of_isPostDial (h o ho)

/-- `BaseConnection`. -/
structure BaseConnection where
  phoneNumber : Str
  flag : Bool
  index : Int
  number : Str
  callReportInfo : CallReportInfo
  postDialCallState : PostDialCallState
  nextPostDialCallCode : Nat
  postDialCallString : Str
deriving DecidableEq, Repr

/-- The constructor zeroes the report; the other members have their
initialisers. -/
def BaseConnection.fresh : BaseConnection where
  phoneNumber := []
  flag := false
  index := 1
  number := []
  callReportInfo := .zeroed
  postDialCallState := .notStarted
  nextPostDialCallCode := 0
  postDialCallString := []

/-- A connection class: the base and the class's own members. -/
structure Connection (δ : Type) extends BaseConnection where
  own : δ
deriving DecidableEq, Repr

/-- The own members of `CellularCallConnectionCS`. -/
structure CsPart where
  disconnectReason : RilDisconnectedReason
deriving DecidableEq, Repr

def CsPart.fresh : CsPart := ⟨.invalid⟩

/-- The own members of `CellularCallConnectionIMS`. -/
structure ImsPart where
  isNeedToDial : Bool
  holdToDialInfo : ImsDialInfoStruct
  isPendingHangup : Bool
  disconnectReason : RilDisconnectedReason
  disconnectMessage : Str
deriving DecidableEq, Repr

def ImsPart.fresh : ImsPart := ⟨false, .zeroed, false, .invalid, []⟩

abbrev CellularCallConnectionCS := Connection CsPart
abbrev CellularCallConnectionIMS := Connection ImsPart
abbrev CellularCallConnectionSatellite := Connection Unit

namespace Connection

variable {δ : Type}

/-- A default-constructed connection. -/
def fresh (own : δ) : Connection δ := { BaseConnection.fresh with own := own }

def setOrUpdateCallReportInfo (c : Connection δ) (info : CallReportInfo) : Connection δ :=
  { c with callReportInfo := info }

def setStatus (c : Connection δ) (state : TelCallState) : Connection δ :=
  { c with callReportInfo := { c.callReportInfo with state := state } }

def getStatus (c : Connection δ) : TelCallState := c.callReportInfo.state

def setFlag (c : Connection δ) (flag : Bool) : Connection δ := { c with flag := flag }

def setIndex (c : Connection δ) (index : Int) : Connection δ := { c with index := index }

def setNumber (c : Connection δ) (number : Str) : Connection δ := { c with number := number }

def setPostDialCallState (c : Connection δ) (s : PostDialCallState) : Connection δ :=
  { c with postDialCallState := s }

def updatePendingHoldFlag (c : Connection δ) (isPendingHold : Bool) : Connection δ :=
  { c with callReportInfo := { c.callReportInfo with isPendingHold := isPendingHold } }

/-- `IsRingingState`. -/
def isRingingState (c : Connection δ) : Bool :=
  c.getStatus == .incoming || c.getStatus == .waiting || c.getStatus == .alerting

/-- `UpdateCallNumber`: both strings are appended to, never reset. -/
def updateCallNumber (c : Connection δ) (phoneNum : Str) : Connection δ :=
  let (address, postDial) := extractAddressAndPostDial phoneNum
  { c with
    phoneNumber := c.phoneNumber ++ address
    postDialCallString := c.postDialCallString ++ postDial }

/-- `GetLeftPostDialCallString`. -/
def getLeftPostDialCallString (c : Connection δ) : Str :=
  c.postDialCallString.drop c.nextPostDialCallCode

/-- `ProcessPostDialCallChar` of the connections: a tone is asked for, a pause is
resumed by a delayed event, a wait is reported.  Whether `SendDtmfRequest` is
refused, or there is no handler for the event, is not looked at. -/
def processPostDialCallChar (domain : CallType) (c : Connection δ) (char : Char) :
    Connection δ × List Output :=
  if isDtmfKey char then (c, [.sendDtmf domain char c.index])
  else if isPauseKey char then
    (c.setPostDialCallState .pause, [.executePostDialLater domain c.index])
  else if isWaitKey char then (c.setPostDialCallState .delay, [])
  else (c, [])

/-- `ProcessNextChar`: the connection, the character taken and what is sent. -/
def processNextChar (domain : CallType) (c : Connection δ) :
    Connection δ × Option Char × List Output :=
  if c.postDialCallState = .canceled then (c, none, [])
  else
    match c.postDialCallString[c.nextPostDialCallCode]? with
    | none => (c.setPostDialCallState .complete, none, [])
    | some char =>
      let c := c.setPostDialCallState .started
      let c := { c with nextPostDialCallCode := c.nextPostDialCallCode + 1 }
      let (c, outputs) := processPostDialCallChar domain c char
      (c, some char, outputs)

/-- The body of `ExecutePostDial` once the connection is found. -/
def executePostDial (domain : CallType) (c : Connection δ) : Connection δ × List Output :=
  let (c, char, outputs) := processNextChar domain c
  match c.postDialCallState, char with
  | .started, some char => (c, outputs ++ [.reportPostDialChar char])
  | .delay, _ => (c, outputs ++ [.reportPostDialDelay c.getLeftPostDialCallString])
  | _, _ => (c, outputs)

/-! ## What sending a post-dial string leaves alone -/

/-- The members that identify and describe the call. -/
structure SameCall (c c' : Connection δ) : Prop where
  flag : c'.flag = c.flag
  index : c'.index = c.index
  number : c'.number = c.number
  callReportInfo : c'.callReportInfo = c.callReportInfo
  own : c'.own = c.own

theorem SameCall.refl (c : Connection δ) : SameCall c c := ⟨rfl, rfl, rfl, rfl, rfl⟩

theorem SameCall.trans {c c' c'' : Connection δ} (h : SameCall c c') (h' : SameCall c' c'') :
    SameCall c c'' :=
  ⟨h'.flag.trans h.flag, h'.index.trans h.index, h'.number.trans h.number,
    h'.callReportInfo.trans h.callReportInfo, h'.own.trans h.own⟩

theorem sameCall_updateCallNumber (c : Connection δ) (phoneNum : Str) :
    SameCall c (c.updateCallNumber phoneNum) := ⟨rfl, rfl, rfl, rfl, rfl⟩

theorem sameCall_processPostDialCallChar (domain : CallType) (c : Connection δ) (char : Char) :
    SameCall c (c.processPostDialCallChar domain char).1 := by
  unfold processPostDialCallChar
  split
  · exact SameCall.refl c
  · split
    · exact ⟨rfl, rfl, rfl, rfl, rfl⟩
    · split
      · exact ⟨rfl, rfl, rfl, rfl, rfl⟩
      · exact SameCall.refl c

theorem sameCall_processNextChar (domain : CallType) (c : Connection δ) :
    SameCall c (c.processNextChar domain).1 := by
  unfold processNextChar
  split
  · exact SameCall.refl c
  · split
    · exact ⟨rfl, rfl, rfl, rfl, rfl⟩
    · refine SameCall.trans ?_ (sameCall_processPostDialCallChar domain _ _)
      exact ⟨rfl, rfl, rfl, rfl, rfl⟩

theorem sameCall_executePostDial (domain : CallType) (c : Connection δ) :
    SameCall c (c.executePostDial domain).1 := by
  have hnext := sameCall_processNextChar domain c
  unfold executePostDial
  split
  split <;> simp_all

theorem isPostDial_processPostDialCallChar (domain : CallType) (c : Connection δ) (char : Char) :
    ∀ o ∈ (c.processPostDialCallChar domain char).2, o.isPostDial = true := by
  unfold processPostDialCallChar
  split
  · simp [Output.isPostDial]
  · split
    · simp [Output.isPostDial]
    · split <;> simp

theorem isPostDial_processNextChar (domain : CallType) (c : Connection δ) :
    ∀ o ∈ (c.processNextChar domain).2.2, o.isPostDial = true := by
  unfold processNextChar
  split
  · simp
  · split
    · simp
    · exact isPostDial_processPostDialCallChar domain _ _

/-- Sending a post-dial string reports nothing about the call itself. -/
theorem isPostDial_executePostDial (domain : CallType) (c : Connection δ) :
    ∀ o ∈ (c.executePostDial domain).2, o.isPostDial = true := by
  have hnext := isPostDial_processNextChar domain c
  unfold executePostDial
  split
  rename_i c' char outputs heq
  have hout : ∀ o ∈ outputs, o.isPostDial = true := by
    intro o ho
    exact hnext o (by rw [heq]; exact ho)
  intro o ho
  split at ho
  · rcases List.mem_append.mp ho with ho | ho
    · exact hout o ho
    · rw [List.mem_singleton.mp ho]
      rfl
  · rcases List.mem_append.mp ho with ho | ho
    · exact hout o ho
    · rw [List.mem_singleton.mp ho]
      rfl
  · exact hout o ho

end Connection

end CellularCall
