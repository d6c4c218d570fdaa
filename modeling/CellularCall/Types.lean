import Mathlib.Data.List.Basic
import Mathlib.Data.List.TakeWhile

/-!
# The data the call services exchange

Call lists come from the modem or the IMS service, call reports go to the call
manager, and dial requests go down.  The records keep the fields the modelled
code reads or writes.

An `int32_t` is an `Int`, a `std::string` a list of characters.  Where the code
treats a string as a C string it stops at the first NUL, which is `cStr`.

The enumerations are declared outside this repository.  Their enumerators are
the ones the code names; `other` stands for the remaining codes.  A record
filled with zeroes holds the enumerators of code 0: an active call, of type CS,
in voice mode.
-/

namespace CellularCall

/-- A `std::string`. -/
abbrev Str := List Char

/-- The C string at the start of a buffer: everything before the first NUL. -/
def cStr (s : Str) : Str := s.takeWhile (fun c => c != '\x00')

theorem nul_not_mem_cStr (s : Str) : '\x00' ∉ cStr s := by
  intro hmem
  exact absurd (List.mem_takeWhile_imp hmem) (by decide)

theorem cStr_eq_self {s : Str} (h : '\x00' ∉ s) : cStr s = s := by
  rw [cStr, List.takeWhile_eq_self_iff]
  intro c hc
  rw [bne_iff_ne]
  intro heq
  exact h (heq ▸ hc)

/-! ## Enumerations -/

/-- `TelCallState`, the state of a call. -/
inductive TelCallState where
  | active
  | holding
  | dialing
  | alerting
  | incoming
  | waiting
  | disconnected
  | disconnecting
  | other (code : Int)
deriving DecidableEq, Repr

/-- `CallType`, the domain that carries a call. -/
inductive CallType where
  | cs
  | ims
  | satellite
  | other (code : Int)
deriving DecidableEq, Repr

/-- `VideoStateType`, the mode of a call. -/
inductive VideoStateType where
  | voice
  | sendOnly
  | receiveOnly
  | video
deriving DecidableEq, Repr

/-- `ImsCallType`, the media of an IMS call. -/
inductive ImsCallType where
  | voice
  | vtTx
  | vtRx
  | vt
  | other (code : Int)
deriving DecidableEq, Repr

/-- `CLIRMode`, the presentation of the caller's number. -/
inductive CLIRMode where
  | default
  | transfer
  | inhibition
deriving DecidableEq, Repr

/-- `RilDisconnectedReason`, which is also reported as `DisconnectedReason`. -/
inductive RilDisconnectedReason where
  | invalid
  | normal
  | userTerminated
  | userDecline
  | other (code : Int)
deriving DecidableEq, Repr

/-- `CallSupplementType`, the ways to hang up. -/
inductive CallSupplementType where
  | default
  | hangUpHoldWait
  | hangUpActive
  | hangUpAll
  | other (code : Int)
deriving DecidableEq, Repr

/-- `PostDialCallState`, how far the post-dial string has been sent. -/
inductive PostDialCallState where
  | notStarted
  | started
  | delay
  | wild
  | complete
  | canceled
  | pause
deriving DecidableEq, Repr

/-- `SrvccState`, the progress of a hand-over from IMS to CS. -/
inductive SrvccState where
  | none
  | started
  | completed
  | other (code : Int)
deriving DecidableEq, Repr

/-- The return codes the modelled functions produce; `other` is a code some
service outside hands back. -/
inductive RetCode where
  | success
  | error
  | errFail
  | errLocalPtrNull
  | errArgumentInvalid
  | errStrcpyFail
  | errNetworkNotInService
  | phoneNumberEmpty
  | getRadioStateFailed
  | callCountsExceedLimit
  | callConnectionNotExist
  | callState
  | unsupportedNetworkType
  | typeMmi
  | other (code : Int)
deriving DecidableEq, Repr

/-- `TELEPHONY_SUCCESS`. -/
def telephonySuccess : Int := 0

/-! ## Call lists -/

/-- `CallInfo`, a call in a CS list. -/
structure CallInfo where
  index : Int
  dir : Int
  state : TelCallState
  mpty : Int
  voiceDomain : Int
  number : Str
  type : Int
  name : Str
  namePresentation : Int
deriving DecidableEq, Repr

/-- `ImsCurrentCall`, a call in an IMS list. -/
structure ImsCurrentCall where
  index : Int
  dir : Int
  state : TelCallState
  mpty : Int
  voiceDomain : Int
  callType : ImsCallType
  number : Str
  toa : Int
  name : Str
  namePresentation : Int
  toneType : Int
  callInitialType : Int
  newCallUseBox : Int
  rttState : Int
  rttChannelId : Int
  imsDomain : Int
deriving DecidableEq, Repr

/-- `SatelliteCurrentCall`, a call in a satellite list. -/
structure SatelliteCurrentCall where
  index : Int
  state : TelCallState
  mpty : Int
  voiceDomain : Int
  number : Str
deriving DecidableEq, Repr

/-- A list of current calls.  The announced size is a field of its own, and the
code branches on it rather than on the length of `calls`. -/
structure CallList (κ : Type) where
  callSize : Int
  calls : List κ
deriving DecidableEq, Repr

abbrev CallInfoList := CallList CallInfo
abbrev ImsCurrentCallList := CallList ImsCurrentCall
abbrev SatelliteCurrentCallList := CallList SatelliteCurrentCall

namespace CallList

variable {κ : Type}

/-- The list of no calls, as it is before any response. -/
def none : CallList κ := ⟨0, []⟩

/-- The announced size is the number of calls. -/
def Announced (L : CallList κ) : Prop := L.callSize = L.calls.length

instance (L : CallList κ) : Decidable L.Announced :=
  inferInstanceAs (Decidable (_ = _))

end CallList

/-! ## Reports -/

/-- `CallReportInfo`, what the call manager is told about one call. -/
structure CallReportInfo where
  accountNum : Str
  index : Int
  accountId : Int
  callType : CallType
  callMode : VideoStateType
  state : TelCallState
  voiceDomain : Int
  mpty : Int
  name : Str
  namePresentation : Int
  crsType : Int
  originalCallType : Int
  newCallUseBox : Int
  rttState : Int
  rttChannelId : Int
  imsDomain : Int
  reason : RilDisconnectedReason
  message : Str
  isPendingHold : Bool
deriving DecidableEq, Repr

/-- The record `memset_s` leaves: every field is zero. -/
def CallReportInfo.zeroed : CallReportInfo where
  accountNum := []
  index := 0
  accountId := 0
  callType := .cs
  callMode := .voice
  state := .active
  voiceDomain := 0
  mpty := 0
  name := []
  namePresentation := 0
  crsType := 0
  originalCallType := 0
  newCallUseBox := 0
  rttState := 0
  rttChannelId := 0
  imsDomain := 0
  reason := .other 0
  message := []
  isPendingHold := false

/-- `CallsReportInfo`, one report of several calls. -/
structure CallsReportInfo where
  slotId : Int
  callVec : List CallReportInfo
deriving DecidableEq, Repr

/-- What the headers outside this repository fix: the longest number a report
can hold, and the values a `CallReportInfo` is declared with. -/
structure Platform where
  kMaxNumberLen : Nat
  defaultCallReportInfo : CallReportInfo
deriving DecidableEq, Repr

/-! ## Requests -/

/-- `CellularCallInfo`, the call a service request is about. -/
structure CellularCallInfo where
  callId : Int
  slotId : Int
  accountId : Int
  callType : CallType
  videoState : Int
  index : Int
  phoneNum : Str
  isRTT : Bool
deriving DecidableEq, Repr

/-- A default `CellularCallInfo`. -/
def CellularCallInfo.zeroed : CellularCallInfo :=
  ⟨0, 0, 0, .cs, 0, 0, [], false⟩

/-- `DialRequestStruct`, a CS or satellite dial. -/
structure DialRequestStruct where
  phoneNum : Str
  clirMode : CLIRMode
deriving DecidableEq, Repr

/-- `ImsDialInfoStruct`, an IMS dial. -/
structure ImsDialInfoStruct extends DialRequestStruct where
  videoState : Int
  bEmergencyCall : Bool
  isRTT : Bool
deriving DecidableEq, Repr

/-- A default `ImsDialInfoStruct`. -/
def ImsDialInfoStruct.zeroed : ImsDialInfoStruct :=
  ⟨⟨[], .default⟩, 0, false, false⟩

/-! ## Numbers -/

/-- `kMaxNumberLength`, the size of an IMS request's number buffer. -/
def kMaxNumberLength : Nat := 255

/-- `FormatNumberAndToa`: prefix `+` to an international number that lacks it.
145 is the type of address of an international number. -/
def formatNumberAndToa (phoneNumber : Str) (callToa : Int) : Str :=
  if callToa = 145 ∧ phoneNumber ≠ [] ∧ phoneNumber.head? ≠ some '+' then
    '+' :: phoneNumber
  else phoneNumber

/-- A character `RemoveSeparatorsPhoneNumber` keeps. -/
def isDialable (c : Char) : Bool :=
  c.isDigit || c == '*' || c == '#' || c == '+' || c == 'N' || c == ',' || c == ';'

/-- `RemoveSeparatorsPhoneNumber`. -/
def removeSeparatorsPhoneNumber (phoneString : Str) : Str :=
  phoneString.filter isDialable

/-- A character of a network address. -/
def isAddressChar (c : Char) : Bool :=
  c.isDigit || c == '*' || c == '#' || c == '+' || c == 'N'

/-- A character that starts the post-dial part of a number. -/
def isPostDialStart (c : Char) : Bool := c == ',' || c == ';'

/-- `ExtractAddressAndPostDial`: what the loop appends to the network address
and to the post-dial string. -/
def extractAddressAndPostDial (phoneString : Str) : Str × Str :=
  ((phoneString.takeWhile (fun c => !isPostDialStart c)).filter isAddressChar,
    phoneString.dropWhile (fun c => !isPostDialStart c))

/-- `StandardizeUtils::IsDtmfKey`. -/
def isDtmfKey (c : Char) : Bool :=
  c.isDigit || (decide ('A' ≤ c) && decide (c ≤ 'D')) || c == '*' || c == '#'

/-- `StandardizeUtils::IsPauseKey`. -/
def isPauseKey (c : Char) : Bool := c == ','

/-- `StandardizeUtils::IsWaitKey`. -/
def isWaitKey (c : Char) : Bool := c == ';'

/-- The characters `atoi` skips. -/
def isSpace (c : Char) : Bool := c == ' ' || (decide ('\t' ≤ c) && decide (c ≤ '\r'))

/-- The number the digits at the start of a string stand for. -/
def leadingNat (s : Str) : Int :=
  (s.takeWhile Char.isDigit).foldl (fun n c => n * 10 + ((c.toNat : Int) - 48)) 0

/-- `atoi`. -/
def atoi (s : Str) : Int :=
  match s.dropWhile isSpace with
  | '-' :: digits => -leadingNat digits
  | '+' :: digits => leadingNat digits
  | digits => leadingNat digits

/-- `IsConnectedOut`: an outgoing call that is no longer being set up. -/
def isConnectedOut (preState curState : TelCallState) : Bool :=
  (preState == .dialing || preState == .alerting) &&
    !(curState == .dialing || curState == .alerting)

/-! ## Plain values

Inputs for concrete runs. -/

/-- Numbers of up to 255 characters; a fresh report is idle and has no type. -/
def Platform.plain : Platform where
  kMaxNumberLen := 255
  defaultCallReportInfo :=
    { CallReportInfo.zeroed with callType := .other 3, state := .other 8, reason := .invalid }

/-- A CS call with a number. -/
def CallInfo.plain (index : Int) (state : TelCallState) : CallInfo where
  index := index
  dir := 0
  state := state
  mpty := 0
  voiceDomain := 0
  number := ['1', '0']
  type := 129
  name := []
  namePresentation := 0

/-- An IMS voice call with a number. -/
def ImsCurrentCall.plain (index : Int) (state : TelCallState) : ImsCurrentCall where
  index := index
  dir := 0
  state := state
  mpty := 0
  voiceDomain := 0
  callType := .voice
  number := ['1', '0']
  toa := 129
  name := []
  namePresentation := 0
  toneType := 0
  callInitialType := 0
  newCallUseBox := 0
  rttState := 0
  rttChannelId := 0
  imsDomain := 0

/-- A satellite call. -/
def SatelliteCurrentCall.plain (index : Int) (state : TelCallState) : SatelliteCurrentCall :=
  ⟨index, state, 0, 0, ['1', '0']⟩

/-- The list that announces the calls it has. -/
def CallList.of {κ : Type} (calls : List κ) : CallList κ := ⟨calls.length, calls⟩

/-- A request of slot 0 about a call. -/
def CellularCallInfo.plain (callType : CallType) (index : Int) : CellularCallInfo :=
  { CellularCallInfo.zeroed with callType := callType, index := index, phoneNum := ['1', '0'] }

end CellularCall
