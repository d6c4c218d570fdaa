import CellularCall.Ipc.Common

/-!
# Callbacks of the satellite service

The satellite service answers requests and reports changes through
`SatelliteCallCallbackProxy`; `SatelliteCallCallbackStub` receives them.  A
message is a `SatelliteCallback`, named after the proxy's function.

`arrives_iff` says which messages arrive as they were sent.
-/

namespace CellularCall

open Lib

/-! ## Messages -/

namespace Ipc

/-- `SatelliteCurrentCall` as it travels, with the fields of
`CellularCall.SatelliteCurrentCall` and those only passed on. -/
structure SatelliteCurrentCall where
  index : Int
  dir : Int
  state : Int
  mode : Int
  mpty : Int
  voiceDomain : Int
  callType : Int
  number : Str
  type : Int
  alpha : Str
  toa : Int
deriving DecidableEq, Repr

/-- `SatelliteCurrentCallList`. -/
structure SatelliteCurrentCallList where
  callSize : Int
  flag : Int
  calls : List SatelliteCurrentCall
deriving DecidableEq, Repr

end Ipc

/-- `SatelliteCallCallbackInterfaceCode`. -/
inductive SatelliteCallCallbackInterfaceCode where
  | satelliteDial
  | satelliteHangUp
  | satelliteReject
  | satelliteAnswer
  | satelliteGetCallsData
  | satelliteCallStateChange
deriving DecidableEq, Repr

/-- The functions of `SatelliteCallCallbackInterface`.
`getSatelliteCallsDataResponse` comes in two overloads. -/
inductive SatelliteCallback (Z : RawSizes) where
  | dialSatelliteResponse (slotId : Int) (info : Block Z.radioResponseInfo)
  | hangUpSatelliteResponse (slotId : Int) (info : Block Z.radioResponseInfo)
  | rejectSatelliteResponse (slotId : Int) (info : Block Z.radioResponseInfo)
  | answerSatelliteResponse (slotId : Int) (info : Block Z.radioResponseInfo)
  | callStateChangeReport (slotId : Int)
  | getSatelliteCallsDataResponse (slotId : Int) (info : Block Z.radioResponseInfo)
  | getSatelliteCallsDataResponseList (slotId : Int) (callList : Ipc.SatelliteCurrentCallList)
deriving DecidableEq

/-! ## The proxy -/

namespace SatelliteCallCallbackProxy

/-- `SatelliteCallCallbackInterface::GetDescriptor`. -/
def descriptor : Str := "OHOS.Telephony.SatelliteCallCallback".toList

/-- `WriteCommonInfo`. -/
def writeCommonInfo (slotId : Int) : Parcel := [.token descriptor, .int32 slotId]

/-- `WriteCommonInfo` for a `RadioResponseInfo`. -/
def writeCommonInfoBlock {size : Nat} (slotId : Int) (info : Block size) : Parcel :=
  writeCommonInfo slotId ++ [info.item]

/-- An entry of a call list. -/
def writeCall (call : Ipc.SatelliteCurrentCall) : Parcel :=
  [.int32 call.index, .int32 call.dir, .int32 call.state, .int32 call.mode, .int32 call.mpty,
    .int32 call.voiceDomain, .int32 call.callType, .string call.number, .int32 call.type,
    .string call.alpha, .int32 call.toa]

/-- `GetSatelliteCallsDataResponse` for a list: the slot is written once by
`WriteCommonInfo` and once more after it. -/
def getSatelliteCallsDataResponseList (slotId : Int) (callList : Ipc.SatelliteCurrentCallList) :
    Parcel :=
  writeCommonInfo slotId ++ [.int32 slotId, .int32 callList.callSize, .int32 callList.flag,
    .int32 (int32Size callList.calls.length)] ++ callList.calls.flatMap writeCall

open SatelliteCallCallbackInterfaceCode in
/-- Each function of the proxy: the code it sends under, and what it writes. -/
def send {Z : RawSizes} : SatelliteCallback Z → SatelliteCallCallbackInterfaceCode × Parcel
  | .dialSatelliteResponse slotId info => (satelliteDial, writeCommonInfoBlock slotId info)
  | .hangUpSatelliteResponse slotId info => (satelliteHangUp, writeCommonInfoBlock slotId info)
  | .rejectSatelliteResponse slotId info => (satelliteReject, writeCommonInfoBlock slotId info)
  | .answerSatelliteResponse slotId info => (satelliteAnswer, writeCommonInfoBlock slotId info)
  | .callStateChangeReport slotId => (satelliteCallStateChange, writeCommonInfo slotId)
  | .getSatelliteCallsDataResponse slotId info =>
    (satelliteGetCallsData, writeCommonInfoBlock slotId info)
  | .getSatelliteCallsDataResponseList slotId callList =>
    (satelliteGetCallsData, getSatelliteCallsDataResponseList slotId callList)

end SatelliteCallCallbackProxy

/-! ## The stub -/

namespace SatelliteCallCallbackStub

def readSatelliteCurrentCall : Reader Ipc.SatelliteCurrentCall := do
  let index ← Reader.int32
  let dir ← Reader.int32
  let state ← Reader.int32
  let mode ← Reader.int32
  let mpty ← Reader.int32
  let voiceDomain ← Reader.int32
  let callType ← Reader.int32
  let number ← Reader.string
  let type ← Reader.int32
  let alpha ← Reader.string
  let toa ← Reader.int32
  pure ⟨index, dir, state, mode, mpty, voiceDomain, callType, number, type, alpha, toa⟩

variable {Z : RawSizes} (service : SatelliteCallback Z → Int)

def onCallStateChangeReportInner : Reader (Served (SatelliteCallback Z)) := do
  let slotId ← Reader.int32
  pure (.call service (.callStateChangeReport slotId))

/-- `OnGetSatelliteCallsDataResponseInner`: without raw data, the list is
read. -/
def onGetSatelliteCallsDataResponseInner : Reader (Served (SatelliteCallback Z)) := do
  let slotId ← Reader.int32
  match ← Reader.block Z.radioResponseInfo with
  | none => do
    let callSize ← Reader.int32
    let flag ← Reader.int32
    listInner readSatelliteCurrentCall fun calls =>
      .call service (.getSatelliteCallsDataResponseList slotId ⟨callSize, flag, calls⟩)
  | some info => pure (.call service (.getSatelliteCallsDataResponse slotId info))

/-- `requestFuncMap_`. -/
def requestFuncMap :
    SatelliteCallCallbackInterfaceCode → Option (Reader (Served (SatelliteCallback Z)))
  | .satelliteDial => some (blockInner _ service .dialSatelliteResponse)
  | .satelliteHangUp => some (blockInner _ service .hangUpSatelliteResponse)
  | .satelliteReject => some (blockInner _ service .rejectSatelliteResponse)
  | .satelliteAnswer => some (blockInner _ service .answerSatelliteResponse)
  | .satelliteCallStateChange => some (onCallStateChangeReportInner service)
  | .satelliteGetCallsData => some (onGetSatelliteCallsDataResponseInner service)

end SatelliteCallCallbackStub

/-- What the stub makes of a message of the proxy. -/
def SatelliteCallback.deliver {Z : RawSizes} (service : SatelliteCallback Z → Int)
    (m : SatelliteCallback Z) : Option (Served (SatelliteCallback Z)) :=
  serve SatelliteCallCallbackProxy.descriptor (SatelliteCallCallbackStub.requestFuncMap service)
    (SatelliteCallCallbackProxy.send m)

/-! ## Delivery -/

namespace SatelliteCallCallbackStub

variable {Z : RawSizes} (service : SatelliteCallback Z → Int)

/-- Raw data is taken for a `RadioResponseInfo`. -/
theorem onGetSatelliteCallsDataResponseInner_yields (slotId : Int)
    (info : Block Z.radioResponseInfo) :
    Yields (onGetSatelliteCallsDataResponseInner service) [.int32 slotId, info.item]
      (.call service (.getSatelliteCallsDataResponse slotId info)) :=
  (Yields.int32 slotId).bind ((Yields.block info).bind (Yields.pure _))

/-- Three numbers after each other are taken for the slot, the call size and the
flag. -/
theorem onGetSatelliteCallsDataResponseInner_list (slotId callSize flag : Int) (p : Parcel) :
    onGetSatelliteCallsDataResponseInner service
        (.int32 slotId :: .int32 callSize :: .int32 flag :: p) =
      listInner readSatelliteCurrentCall (fun calls =>
        .call service (.getSatelliteCallsDataResponseList slotId ⟨callSize, flag, calls⟩)) p :=
  rfl

/-- An entry that is read one number early is read astray: its call type is
where its number should be. -/
theorem readSatelliteCurrentCall_shifted (first : Int) (calls : List Ipc.SatelliteCurrentCall) :
    readSatelliteCurrentCall
      (.int32 first :: calls.flatMap SatelliteCallCallbackProxy.writeCall) = none := by
  cases calls with
  | nil => rfl
  | cons call calls => rfl

/-- What a list leaves that is read one number early: it is refused by its flag,
taken for empty by its flag, or read astray. -/
theorem listInner_shifted {μ : Type} (done : List Ipc.SatelliteCurrentCall → Served μ)
    (flag first : Int) (calls : List Ipc.SatelliteCurrentCall) :
    (listInner readSatelliteCurrentCall done
        (.int32 flag :: .int32 first :: calls.flatMap SatelliteCallCallbackProxy.writeCall)).map
          Prod.fst =
      if flag < 0 ∨ flag > maxSize then some (.refused .errFail)
      else if flag = 0 then some (done [])
      else none := by
  have hlen := (Yields.int32 flag).run_bind (fun len =>
    if len < 0 ∨ len > maxSize then (pure (.refused .errFail) : Reader (Served μ))
    else do
      let calls ← Reader.times len.toNat readSatelliteCurrentCall
      pure (done calls)) (.int32 first :: calls.flatMap SatelliteCallCallbackProxy.writeCall)
  have hlist : listInner readSatelliteCurrentCall done
      (.int32 flag :: .int32 first :: calls.flatMap SatelliteCallCallbackProxy.writeCall) = _ :=
    hlen
  rw [hlist]
  split
  · rfl
  · rename_i hcheck
    split
    · rename_i hzero
      rw [hzero]
      rfl
    · rename_i hzero
      obtain ⟨n, hn⟩ : ∃ n, flag.toNat = n + 1 := ⟨flag.toNat - 1, by omega⟩
      rw [hn]
      have hentry := Reader.bind_of_none (readSatelliteCurrentCall_shifted first calls)
        (fun call => do
          let calls ← Reader.times n readSatelliteCurrentCall
          pure (call :: calls))
      have htimes : Reader.times (n + 1) readSatelliteCurrentCall
          (.int32 first :: calls.flatMap SatelliteCallCallbackProxy.writeCall) = none := hentry
      rw [Reader.bind_of_none htimes]
      rfl

end SatelliteCallCallbackStub

namespace SatelliteCallback

open SatelliteCallCallbackStub

variable {Z : RawSizes} (service : SatelliteCallback Z → Int)

/-- The messages whose reader follows their writer: all but the call list.  A
list arrives only where the extra number changes nothing, because every number
before the calls is zero and there is no call. -/
def Agreed : SatelliteCallback Z → Prop
  | .getSatelliteCallsDataResponseList slotId callList => slotId = 0 ∧ callList = ⟨0, 0, []⟩
  | _ => True

/-- What becomes of a list of calls: its slot is taken for its size, its size for
its flag, and its flag for the number of its calls. -/
theorem deliver_callsData (slotId : Int) (L : Ipc.SatelliteCurrentCallList) :
    deliver service (.getSatelliteCallsDataResponseList slotId L) =
      if L.flag < 0 ∨ L.flag > maxSize then some (.refused .errFail)
      else if L.flag = 0 then
        some (.call service (.getSatelliteCallsDataResponseList slotId ⟨slotId, L.callSize, []⟩))
      else none := by
  have hfunc : requestFuncMap service .satelliteGetCallsData =
    some (onGetSatelliteCallsDataResponseInner service) := rfl
  have hserve := serve_cons SatelliteCallCallbackProxy.descriptor (requestFuncMap service) hfunc
    (.int32 slotId :: .int32 slotId :: .int32 L.callSize :: .int32 L.flag ::
      .int32 (int32Size L.calls.length) ::
        L.calls.flatMap SatelliteCallCallbackProxy.writeCall)
  rw [onGetSatelliteCallsDataResponseInner_list, listInner_shifted] at hserve
  exact hserve

/-- A list of calls arrives only if there is nothing in it. -/
theorem deliver_callsData_iff (slotId : Int) (L : Ipc.SatelliteCurrentCallList) :
    deliver service (.getSatelliteCallsDataResponseList slotId L) =
        some (.call service (.getSatelliteCallsDataResponseList slotId L)) ↔
      slotId = 0 ∧ L = ⟨0, 0, []⟩ := by
  rw [deliver_callsData]
  constructor
  · intro hsame
    split at hsame
    · cases congrArg Served.ret (Option.some.inj hsame)
    · split at hsame
      · rename_i hflag
        have hcalls := congrArg Served.calls (Option.some.inj hsame)
        simp only [Served.call, List.cons.injEq, getSatelliteCallsDataResponseList.injEq,
          true_and, and_true] at hcalls
        have hsize : slotId = L.callSize := congrArg Ipc.SatelliteCurrentCallList.callSize hcalls
        have hzero : L.callSize = L.flag := congrArg Ipc.SatelliteCurrentCallList.flag hcalls
        have hslot : slotId = 0 := by omega
        refine ⟨hslot, ?_⟩
        rw [← hcalls, hslot, hzero, hflag]
      · cases hsame
  · intro h
    obtain ⟨hslot, hlist⟩ := h
    rw [hlist, hslot]
    rfl

/-- A message arrives exactly if reader and writer agree. -/
theorem arrives_iff (m : SatelliteCallback Z) :
    deliver service m = some (.call service m) ↔ m.Agreed := by
  cases m with
  | getSatelliteCallsDataResponseList slotId L => exact deliver_callsData_iff service slotId L
  | dialSatelliteResponse slotId info | hangUpSatelliteResponse slotId info
  | rejectSatelliteResponse slotId info | answerSatelliteResponse slotId info =>
    exact iff_of_true (serve_of_yields rfl rfl (blockInner_yields service _ slotId info)) trivial
  | getSatelliteCallsDataResponse slotId info =>
    exact iff_of_true
      (serve_of_yields rfl rfl (onGetSatelliteCallsDataResponseInner_yields service slotId info))
      trivial
  | callStateChangeReport slotId =>
    exact iff_of_true (serve_of_yields rfl rfl (fun _ => rfl)) trivial

/-- A list with one call arrives as an empty list. -/
theorem not_arrives :
    ¬∀ (Z : RawSizes) (service : SatelliteCallback Z → Int) (m : SatelliteCallback Z),
      deliver service m = some (.call service m) := by
  intro hclaim
  have hsame := hclaim ⟨16, 8, 8, 12, 8, 12, 16, 12, 272, 304⟩ (fun _ => 0)
    (.getSatelliteCallsDataResponseList 0
      ⟨1, 0, [⟨1, 0, 0, 0, 0, 0, 0, "10086".toList, 129, [], 129⟩]⟩)
  rw [deliver_callsData_iff] at hsame
  cases hsame.2

end SatelliteCallback

end CellularCall
