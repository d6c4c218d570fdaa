import CellularCall.Types
import Mathlib.Data.List.TakeWhile

/-!
# Results of supplementary services

What the modem and the IMS service answer to a supplementary-service request, and
what the call manager is told of it.  Each result begins with an `SsBaseResult`,
whose `index` names the request.
-/

namespace CellularCall

/-- `SsBaseResult`. -/
structure SsBaseResult where
  index : Int
  result : Int
  reason : Int
  message : Str
deriving DecidableEq, Repr

/-- `GetClipResult`. -/
structure GetClipResult where
  result : SsBaseResult
  action : Int
  clipStat : Int
deriving DecidableEq, Repr

/-- `GetClirResult`. -/
structure GetClirResult where
  result : SsBaseResult
  action : Int
  clirStat : Int
deriving DecidableEq, Repr

/-- `GetColrResult`. -/
structure GetColrResult where
  result : SsBaseResult
  action : Int
  colrStat : Int
deriving DecidableEq, Repr

/-- `GetColpResult`. -/
structure GetColpResult where
  result : SsBaseResult
  action : Int
  colpStat : Int
deriving DecidableEq, Repr

/-- `CallWaitResult`. -/
structure CallWaitResult where
  result : SsBaseResult
  status : Int
  classCw : Int
deriving DecidableEq, Repr

/-- `CallRestrictionResult`. -/
structure CallRestrictionResult where
  result : SsBaseResult
  status : Int
  classCw : Int
deriving DecidableEq, Repr

/-- `CallForwardQueryResult`. -/
structure CallForwardQueryResult where
  serial : Int
  result : Int
  status : Int
  classx : Int
  number : Str
  type : Int
  reason : Int
  time : Int
  startHour : Int
  startMinute : Int
  endHour : Int
  endMinute : Int
deriving DecidableEq, Repr

/-- `CallForwardQueryInfoList`. -/
structure CallForwardQueryInfoList where
  result : SsBaseResult
  callSize : Int
  flag : Int
  calls : List CallForwardQueryResult
deriving DecidableEq, Repr

/-! ## Responses -/

/-- The kinds of requests that are answered with an index. -/
inductive SsOperation where
  | getClip
  | setClip
  | getClir
  | setClir
  | getColr
  | setColr
  | getColp
  | setColp
  | getCallTransfer
  | setCallTransfer
  | getCallRestriction
  | setCallRestriction
  | setBarringPassword
  | getCallWaiting
  | setCallWaiting
deriving DecidableEq, Repr

/-- The response to a request of each kind. -/
inductive SsResponse where
  | getClip (result : GetClipResult)
  | setClip (result : SsBaseResult)
  | getClir (result : GetClirResult)
  | setClir (result : SsBaseResult)
  | getColr (result : GetColrResult)
  | setColr (result : SsBaseResult)
  | getColp (result : GetColpResult)
  | setColp (result : SsBaseResult)
  | getCallTransfer (cFQueryList : CallForwardQueryInfoList)
  | setCallTransfer (result : SsBaseResult)
  | getCallRestriction (result : CallRestrictionResult)
  | setCallRestriction (result : SsBaseResult)
  | setBarringPassword (result : SsBaseResult)
  | getCallWaiting (result : CallWaitResult)
  | setCallWaiting (result : SsBaseResult)
deriving DecidableEq, Repr

namespace SsResponse

/-- What a response begins with. -/
def base : SsResponse → SsBaseResult
  | .getClip r => r.result
  | .getClir r => r.result
  | .getColr r => r.result
  | .getColp r => r.result
  | .getCallTransfer r => r.result
  | .getCallRestriction r => r.result
  | .getCallWaiting r => r.result
  | .setClip r | .setClir r | .setColr r | .setColp r | .setCallTransfer r
  | .setCallRestriction r | .setBarringPassword r | .setCallWaiting r => r

def operation : SsResponse → SsOperation
  | .getClip _ => .getClip
  | .setClip _ => .setClip
  | .getClir _ => .getClir
  | .setClir _ => .setClir
  | .getColr _ => .getColr
  | .setColr _ => .setColr
  | .getColp _ => .getColp
  | .setColp _ => .setColp
  | .getCallTransfer _ => .getCallTransfer
  | .setCallTransfer _ => .setCallTransfer
  | .getCallRestriction _ => .getCallRestriction
  | .setCallRestriction _ => .setCallRestriction
  | .setBarringPassword _ => .setBarringPassword
  | .getCallWaiting _ => .getCallWaiting
  | .setCallWaiting _ => .setCallWaiting

end SsResponse

/-! ## Reports -/

/-- `MmiCodeInfo`, the result of a code from the dialer. -/
structure MmiCodeInfo where
  result : Int
  message : Str
  mmiCodeType : Int
  action : Int
  status : Int
  classCw : Int
  reason : Int
  time : Int
  number : Str
deriving DecidableEq, Repr

/-- `ClipResponse`. -/
structure ClipResponse where
  result : Int
  action : Int
  clipStat : Int
deriving DecidableEq, Repr

/-- `ClirResponse`. -/
structure ClirResponse where
  result : Int
  action : Int
  clirStat : Int
deriving DecidableEq, Repr

/-- `CallWaitResponse`. -/
structure CallWaitResponse where
  result : Int
  status : Int
  classCw : Int
deriving DecidableEq, Repr

/-- `CallRestrictionResponse`. -/
structure CallRestrictionResponse where
  result : Int
  status : Int
  classCw : Int
deriving DecidableEq, Repr

/-- `CallTransferResponse`. -/
structure CallTransferResponse where
  result : Int
  status : Int
  classx : Int
  number : Str
  type : Int
  reason : Int
  time : Int
  startHour : Int
  startMinute : Int
  endHour : Int
  endMinute : Int
deriving DecidableEq, Repr

/-! ## Buffers -/

/-- `strcpy_s` into a buffer of the given size. -/
def strcpyS (size : Nat) (src : Str) : Option Str :=
  if (cStr src).length < size then some (cStr src) else none

/-- What a buffer holds after a `strcpy_s` whose failure is only logged: the copy
that fails leaves the empty string. -/
def strcpyOrEmpty (size : Nat) (src : Str) : Str := (strcpyS size src).getD []

@[simp] theorem cStr_cStr (s : Str) : cStr (cStr s) = cStr s := List.takeWhile_idem

/-- A copy can be copied as the string itself. -/
theorem strcpyS_cStr (size : Nat) (s : Str) : strcpyS size (cStr s) = strcpyS size s := by
  unfold strcpyS
  rw [cStr_cStr]

theorem eq_cStr_of_strcpyS {size : Nat} {s copy : Str} (hcopy : strcpyS size s = some copy) :
    copy = cStr s := by
  unfold strcpyS at hcopy
  split at hcopy
  · exact (Option.some.inj hcopy).symm
  · cases hcopy

/-- What the headers outside this repository fix: the sizes of buffers, some
numbers, and the values an `MmiCodeInfo` and a `CallForwardQueryResult` are
declared with. -/
structure SsPlatform where
  kMaxNumberLen : Nat
  restrictionPasswordSize : Nat
  mmiMessageSize : Nat
  mmiNumberSize : Nat
  transferNumberSize : Nat
  transferNumberSize_pos : 0 < transferNumberSize
  telephonyError : Int
  telephonyErrRilCmdFail : Int
  callErrUtNoConnection : Int
  imsErrOffset : Int
  minHour : Int
  minMinute : Int
  defaultMmiCodeInfo : MmiCodeInfo
  defaultCallForwardQueryResult : CallForwardQueryResult
deriving DecidableEq, Repr

/-- Buffers as they are in the call manager. -/
def SsPlatform.plain : SsPlatform where
  kMaxNumberLen := 255
  restrictionPasswordSize := 256
  mmiMessageSize := 256
  mmiNumberSize := 256
  transferNumberSize := 256
  transferNumberSize_pos := by decide
  telephonyError := -1
  telephonyErrRilCmdFail := 8
  callErrUtNoConnection := 9
  imsErrOffset := 100
  minHour := 0
  minMinute := 0
  defaultMmiCodeInfo := ⟨0, [], 0, 0, 0, 0, 0, 0, []⟩
  defaultCallForwardQueryResult := ⟨0, 0, 0, 0, [], 0, 0, 0, 0, 0, 0, 0⟩

/-- `IMS_ERROR_UT_NO_CONNECTION`. -/
def SsPlatform.imsErrorUtNoConnection (P : SsPlatform) : Int := P.imsErrOffset

/-- `IMS_ERROR_UT_CS_FALLBACK`. -/
def SsPlatform.imsErrorUtCsFallback (P : SsPlatform) : Int := P.imsErrOffset + 1

end CellularCall
