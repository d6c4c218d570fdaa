import CellularCall.Types
import CellularCall.Lib.Parcel

/-!
# Requests between processes

A proxy writes the arguments of a call into a parcel and sends it under the code
of the call; the stub on the other side finds the handler of the code in its
table, which reads the arguments back and makes the call.

`Served` is what a stub leaves: what `OnRemoteRequest` returns, the reply, and
the calls it made.
-/

namespace CellularCall

open Lib

/-- The sizes of the structs that are sent as raw data. -/
structure RawSizes where
  radioResponseInfo : Nat
  ringbackVoice : Nat
  muteControlResponse : Nat
  imsCallModeReceiveInfo : Nat
  imsCallSessionEventInfo : Nat
  imsCallPeerDimensionsInfo : Nat
  imsCallDataUsageInfo : Nat
  cameraCapabilitiesInfo : Nat
  imsCallInfo : Nat
  callTransferInfo : Nat
deriving DecidableEq, Repr

/-- What `OnRemoteRequest` returns. -/
inductive IpcRet where
  | success
  | errArgumentInvalid
  | errFail
  | errDescriptorMismatch
  | errLocalPtrNull
  | errSlotIdInvalid
  | functionNotFound
deriving DecidableEq, Repr

/-- `MAX_SIZE`, the longest list a callback stub reads. -/
def maxSize : Int := 10

/-- What a stub leaves of a request. -/
structure Served (μ : Type) where
  ret : IpcRet
  reply : Parcel
  calls : List μ
deriving DecidableEq, Repr

variable {μ κ : Type}

/-- A call that is made, with its result as the reply. -/
def Served.call (service : μ → Int) (m : μ) : Served μ := ⟨.success, [.int32 (service m)], [m]⟩

/-- A request that is refused without a call or a reply. -/
def Served.refused (ret : IpcRet) : Served μ := ⟨ret, [], []⟩

/-- `OnRemoteRequest` of a stub with the descriptor and the table given. -/
def onRemoteRequest (descriptor : Str) (funcMap : κ → Option (Reader (Served μ))) (code : κ) :
    Reader (Served μ) := do
  let remoteDescriptor ← Reader.token
  if remoteDescriptor = descriptor then
    match funcMap code with
    | some func => func
    | none => pure (.refused .functionNotFound)
  else pure (.refused .errDescriptorMismatch)

/-- What a stub leaves of a parcel.  There is no answer when the parcel is read
astray. -/
def serve (descriptor : Str) (funcMap : κ → Option (Reader (Served μ))) (message : κ × Parcel) :
    Option (Served μ) :=
  (onRemoteRequest descriptor funcMap message.1 message.2).map Prod.fst

/-- What most handlers do with a struct sent as raw data. -/
def blockInner (size : Nat) (service : μ → Int) (call : Int → Block size → μ) :
    Reader (Served μ) := do
  let slotId ← Reader.int32
  match ← Reader.block size with
  | none => pure (.refused .errArgumentInvalid)
  | some info => pure (.call service (call slotId info))

/-- The end of a handler that reads a list: its length, which must not be over
`MAX_SIZE`, and its entries. -/
def listInner {α : Type} (entry : Reader α) (done : List α → Served μ) : Reader (Served μ) := do
  let len ← Reader.int32
  if len < 0 ∨ len > maxSize then pure (.refused .errFail)
  else do
    let calls ← Reader.times len.toNat entry
    pure (done calls)

/-- A parcel with the right descriptor is left to the handler of its code. -/
theorem serve_cons (descriptor : Str) (funcMap : κ → Option (Reader (Served μ))) {code : κ}
    {func : Reader (Served μ)} (hfunc : funcMap code = some func) (p : Parcel) :
    serve descriptor funcMap (code, .token descriptor :: p) = (func p).map Prod.fst := by
  have hread : onRemoteRequest descriptor funcMap code (.token descriptor :: p) = func p := by
    show (if descriptor = descriptor then
        match funcMap code with
        | some func => func
        | none => pure (.refused .functionNotFound)
      else pure (.refused .errDescriptorMismatch) : Reader (Served μ)) p = func p
    rw [if_pos rfl, hfunc]
  rw [serve, hread]

/-- A message whose handler reads back what follows the descriptor leaves what the
handler returns. -/
theorem serve_of_yields {descriptor : Str} {funcMap : κ → Option (Reader (Served μ))}
    {message : κ × Parcel} {code : κ} {func : Reader (Served μ)} {p : Parcel} {served : Served μ}
    (hfunc : funcMap code = some func) (hmessage : message = (code, .token descriptor :: p))
    (hyields : Yields func p served) : serve descriptor funcMap message = some served := by
  have hread := hyields []
  rw [List.append_nil] at hread
  rw [hmessage, serve_cons descriptor funcMap hfunc, hread]
  rfl

/-- A struct sent as raw data arrives as it was sent. -/
theorem blockInner_yields {size : Nat} (service : μ → Int) (call : Int → Block size → μ)
    (slotId : Int) (info : Block size) :
    Yields (blockInner size service call) [.int32 slotId, info.item]
      (.call service (call slotId info)) :=
  (Yields.int32 slotId).bind ((Yields.block info).bind (Yields.pure _))

/-- The length of a list, as it is sent, passes the check of the stub. -/
def Readable (n : Nat) : Prop := 0 ≤ int32Size n ∧ int32Size n ≤ maxSize

instance (n : Nat) : Decidable (Readable n) := inferInstanceAs (Decidable (_ ∧ _))

theorem readable_of_le {n : Nat} (hn : (n : Int) ≤ maxSize) : Readable n := by
  have hlt : n < 2 ^ 31 := by
    unfold maxSize at hn
    omega
  unfold Readable
  rw [int32Size_of_lt hlt]
  omega

/-- What becomes of a list: a length that passes the check lets as many entries
in, any other refuses the whole list. -/
theorem listInner_written {α : Type} {entry : Reader α} {write : α → Parcel}
    (hentry : ∀ a, Yields entry (write a) a) (done : List α → Served μ) (as : List α) :
    (listInner entry done (.int32 (int32Size as.length) :: as.flatMap write)).map Prod.fst =
      some (if Readable as.length then done (as.take (int32Size as.length).toNat)
        else .refused .errFail) := by
  have hlen : listInner entry done (.int32 (int32Size as.length) :: as.flatMap write) =
      (if int32Size as.length < 0 ∨ int32Size as.length > maxSize then
        (pure (.refused .errFail) : Reader (Served μ))
      else do
        let calls ← Reader.times (int32Size as.length).toNat entry
        pure (done calls)) (as.flatMap write) :=
    (Yields.int32 (int32Size as.length)).run_bind _ (as.flatMap write)
  rw [hlen]
  by_cases hread : Readable as.length
  · have hcheck : ¬(int32Size as.length < 0 ∨ int32Size as.length > maxSize) := by
      unfold Readable at hread
      omega
    have htake := Yields.times_take hentry (int32Size_toNat_le as.length) []
    rw [List.append_nil, List.append_nil] at htake
    rw [if_neg hcheck, if_pos hread, Reader.bind_of_eq htake]
    rfl
  · have hcheck : int32Size as.length < 0 ∨ int32Size as.length > maxSize := by
      unfold Readable at hread
      omega
    rw [if_pos hcheck, if_neg hread]
    rfl

/-- All entries are let in exactly if there are at most `MAX_SIZE` of them. -/
theorem take_int32Size_eq_iff {α : Type} {as : List α} (hread : Readable as.length) :
    as.take (int32Size as.length).toNat = as ↔ (as.length : Int) ≤ maxSize := by
  constructor
  · intro htake
    have hlength := congrArg List.length htake
    rw [List.length_take] at hlength
    unfold Readable at hread
    omega
  · intro hle
    have hlt : as.length < 2 ^ 31 := by
      unfold maxSize at hle
      omega
    rw [int32Size_of_lt hlt, Int.toNat_natCast]
    exact List.take_length

end CellularCall
