import CellularCall.DisconnectReasons

/-!
# Ends the user asks for

`HangUp` and `Reject` mark the connection they end with the user's reason, before
the request is made.  The requests can fail: one to the modem without a handler for
the slot, one to the IMS service in its own ways.

`EndsOnly` says that the call that was named carries the mark and no other does, and
that a refused request leaves the table alone.  `endsOnly_iff` says when each
operation meets it.

The models of the control classes take a request to the modem for one that is made.
`hangUpVia_of_handler` and `rejectVia_of_handler` say that the operations here are
those, where the slot has a handler.
-/

namespace CellularCall

open Lib CallTable

/-- The modem's side of a request: the slots that have a handler, and
`CALL_ERR_RESOURCE_UNAVAILABLE`, which a request without one returns. -/
structure Modem where
  hasHandler : Int → Bool
  resourceUnavailable : Int

/-- A request through the handler of a slot. -/
def Modem.request (modem : Modem) (slotId : Int) (request : Output) : RetCode × List Output :=
  if modem.hasHandler slotId then (.success, [request])
  else (.other modem.resourceUnavailable, [])

theorem Modem.request_of_handler {modem : Modem} {slotId : Int}
    (h : modem.hasHandler slotId = true) (request : Output) :
    modem.request slotId request = (.success, [request]) := by
  rw [Modem.request, if_pos h]

theorem Modem.request_eq_success_iff {modem : Modem} {slotId : Int} {request : Output} :
    (modem.request slotId request).1 = .success ↔ modem.hasHandler slotId = true := by
  unfold Modem.request
  split <;> simp_all

/-- The IMS service takes a request that carries this number, and answers `ret`. -/
def ImsService.accepts (service : ImsService) (phoneNum : Str) (ret : RetCode) : Bool :=
  service.needCallImsService && decide (phoneNum.length + 1 ≤ kMaxNumberLength) &&
    decide (ret = .success)

theorem IMSControl.numberedRequest_eq_success_iff {service : ImsService} {phoneNum : Str}
    {ret : RetCode} {request : Output} :
    (numberedRequest service phoneNum ret request).1 = .success ↔
      service.accepts phoneNum ret = true := by
  unfold numberedRequest ImsService.accepts
  cases service.needCallImsService with
  | false => simp
  | true =>
    by_cases hlong : phoneNum.length + 1 > kMaxNumberLength
    · rw [if_pos hlong, decide_eq_false (Nat.not_le.mpr hlong)]
      exact iff_of_false (by decide) (by simp)
    · rw [if_neg hlong, decide_eq_true (Nat.not_lt.mp hlong)]
      simp

/-! ## The operations -/

namespace CSControl

/-- `HangUp`, where a request can fail. -/
def hangUpVia (modem : Modem) (t : CSControl) (callInfo : CellularCallInfo)
    (type : CallSupplementType) : RetCode × CSControl × List Output :=
  match type with
  | .default =>
    match findConnectionByIndex t.connectionMap callInfo.index with
    | none => (.callConnectionNotExist, t, [])
    | some (key, connection) =>
      let m := t.connectionMap.modify key (setReason domain .userTerminated [])
      let (ret, outputs) := modem.request callInfo.slotId (.hangUpRequest connection.index)
      (ret, { t with connectionMap := m },
        .reportSingleCallInfo .cs { connection.callReportInfo with state := .disconnecting } ::
          outputs)
  | .hangUpHoldWait | .hangUpActive =>
    let m := updateCallDisconnectReason domain t.connectionMap callInfo.callId .userTerminated []
    let (ret, outputs) := modem.request callInfo.slotId (.callSupplement type)
    (ret, { t with connectionMap := m }, outputs)
  | .hangUpAll =>
    let m := t.connectionMap.mapValues (setReason domain .userTerminated [])
    let (ret, outputs) := modem.request callInfo.slotId .rejectRequest
    (ret, { t with connectionMap := m }, outputs)
  | .other _ => (.errArgumentInvalid, t, [])

/-- `Reject`, where the request can fail. -/
def rejectVia (modem : Modem) (t : CSControl) (callInfo : CellularCallInfo) :
    RetCode × CSControl × List Output :=
  match findConnectionByIndex t.connectionMap callInfo.index with
  | none => (.callConnectionNotExist, t, [])
  | some (key, connection) =>
    if connection.isRingingState = false then (.callState, t, [])
    else
      let m := t.connectionMap.modify key (setReason domain .userDecline [])
      let (ret, outputs) := modem.request callInfo.slotId .rejectRequest
      (ret, { t with connectionMap := m },
        .reportSingleCallInfo .cs { connection.callReportInfo with state := .disconnecting } ::
          outputs)

/-- With a handler, `hangUp` is what happens. -/
theorem hangUpVia_of_handler {modem : Modem} {callInfo : CellularCallInfo}
    (h : modem.hasHandler callInfo.slotId = true) (t : CSControl) (type : CallSupplementType) :
    hangUpVia modem t callInfo type = hangUp t callInfo type := by
  cases type with
  | default =>
    unfold hangUpVia hangUp
    cases findConnectionByIndex t.connectionMap callInfo.index with
    | none => rfl
    | some named => simp only [Modem.request_of_handler h]
  | hangUpHoldWait => simp only [hangUpVia, hangUp, Modem.request_of_handler h]
  | hangUpActive => simp only [hangUpVia, hangUp, Modem.request_of_handler h]
  | hangUpAll => simp only [hangUpVia, hangUp, Modem.request_of_handler h]
  | other code => rfl

theorem rejectVia_of_handler {modem : Modem} {callInfo : CellularCallInfo}
    (h : modem.hasHandler callInfo.slotId = true) (t : CSControl) :
    rejectVia modem t callInfo = reject t callInfo := by
  unfold rejectVia reject
  cases findConnectionByIndex t.connectionMap callInfo.index with
  | none => rfl
  | some named => simp only [Modem.request_of_handler h]

end CSControl

namespace IMSControl

open CellularCallConnectionIMS

/-- `HangUp`, where the request to the modem can fail too. -/
def hangUpVia (modem : Modem) (service : ImsService) (t : IMSControl)
    (callInfo : CellularCallInfo) (type : CallSupplementType) :
    RetCode × IMSControl × List Output :=
  match type with
  | .hangUpHoldWait | .hangUpActive =>
    let m := updateCallDisconnectReason domain t.connectionMap callInfo.callId .userTerminated []
    let (ret, outputs) := modem.request callInfo.slotId (.callSupplement type)
    (ret, { t with connectionMap := m }, outputs)
  | .default | .hangUpAll | .other _ => hangUp service t callInfo type

theorem hangUpVia_of_handler {modem : Modem} {callInfo : CellularCallInfo}
    (h : modem.hasHandler callInfo.slotId = true) (service : ImsService) (t : IMSControl)
    (type : CallSupplementType) :
    hangUpVia modem service t callInfo type = hangUp service t callInfo type := by
  unfold hangUpVia
  simp only [Modem.request_of_handler h]
  cases type <;> rfl

end IMSControl

/-! ## Which calls are marked -/

namespace CallTable

variable {κ δ : Type} (R : ReasonDomain κ δ)

/-- The reason of the connection under a key. -/
def reasonAt (m : ConnectionMap δ) (k : Int) : Option RilDisconnectedReason :=
  (m.get? k).map fun c => R.disconnectReason c.own

/-- The key of the connection with this index. -/
def keyOf (m : ConnectionMap δ) (index : Int) : Option Int :=
  (findConnectionByIndex m index).map Prod.fst

/-- A request of the user's, accepted, marks the connection with the index and no
other; refused, it leaves the table as it was. -/
structure EndsOnly (m m' : ConnectionMap δ) (index : Int) (reason : RilDisconnectedReason)
    (ret : RetCode) : Prop where
  accepted : ret = .success → ∀ k, reasonAt R m' k =
    if keyOf m index = some k then some reason else reasonAt R m k
  refused : ret ≠ .success → m' = m

/-- The connection with the index, if there is one, has the reason already. -/
def HasReason (m : ConnectionMap δ) (index : Int) (reason : RilDisconnectedReason) : Prop :=
  ∀ k c, findConnectionByIndex m index = some (k, c) → R.disconnectReason c.own = reason

/-- Marking one index is as good as marking the other. -/
def SameEnd (m : ConnectionMap δ) (i j : Int) (reason : RilDisconnectedReason) : Prop :=
  i = j ∨ HasReason R m i reason ∧ HasReason R m j reason

/-- The connection with the index, if there is one, is as `f` makes it. -/
def MarkedAlready (m : ConnectionMap δ) (index : Int) (f : Connection δ → Connection δ) : Prop :=
  ∀ k c, findConnectionByIndex m index = some (k, c) → f c = c

/-- The table with the connection of an index marked by `f`. -/
def markIndex (m : ConnectionMap δ) (index : Int) (f : Connection δ → Connection δ) :
    ConnectionMap δ :=
  m.modifyFirst (fun c => decide (c.index = index)) f

variable {R} {m : ConnectionMap δ} {f : Connection δ → Connection δ} {i j : Int}
variable {reason : RilDisconnectedReason} {ret : RetCode}

theorem markIndex_of_none (hnone : findConnectionByIndex m i = none) : markIndex m i f = m := by
  unfold findConnectionByIndex at hnone
  rw [markIndex, OrdMap.modifyFirst, hnone]

theorem markIndex_of_some {k : Int} {c : Connection δ}
    (hsome : findConnectionByIndex m i = some (k, c)) : markIndex m i f = m.modify k f := by
  unfold findConnectionByIndex at hsome
  rw [markIndex, OrdMap.modifyFirst, hsome]

/-- The connection that is found is in the table, and has the index. -/
theorem of_findConnectionByIndex {k : Int} {c : Connection δ}
    (hsome : findConnectionByIndex m i = some (k, c)) : m.get? k = some c ∧ c.index = i := by
  obtain ⟨hget, hindex⟩ := OrdMap.get?_of_first?_eq_some hsome
  exact ⟨hget, of_decide_eq_true hindex⟩

theorem keyOf_eq_some_iff {k : Int} :
    keyOf m i = some k ↔ ∃ c, findConnectionByIndex m i = some (k, c) := by
  rw [keyOf, Option.map_eq_some_iff]
  constructor
  · intro h
    obtain ⟨⟨k', c⟩, hfind, rfl⟩ := h
    exact ⟨c, hfind⟩
  · intro h
    obtain ⟨c, hfind⟩ := h
    exact ⟨(k, c), hfind, rfl⟩

/-- Two indices do not share a connection. -/
theorem eq_of_keyOf {k : Int} (hi : keyOf m i = some k) (hj : keyOf m j = some k) : i = j := by
  obtain ⟨c, hc⟩ := keyOf_eq_some_iff.mp hi
  obtain ⟨c', hc'⟩ := keyOf_eq_some_iff.mp hj
  obtain ⟨hget, hindex⟩ := of_findConnectionByIndex hc
  obtain ⟨hget', hindex'⟩ := of_findConnectionByIndex hc'
  rw [hget, Option.some.injEq] at hget'
  rw [← hindex, ← hindex', hget']

theorem hasReason_iff :
    HasReason R m i reason ↔ ∀ k, keyOf m i = some k → reasonAt R m k = some reason := by
  constructor
  · intro h k hk
    obtain ⟨c, hc⟩ := keyOf_eq_some_iff.mp hk
    rw [reasonAt, (of_findConnectionByIndex hc).1, Option.map_some, h k c hc]
  · intro h k c hc
    have hk := h k (keyOf_eq_some_iff.mpr ⟨c, hc⟩)
    rw [reasonAt, (of_findConnectionByIndex hc).1, Option.map_some, Option.some.injEq] at hk
    exact hk

/-- The reasons after a connection is marked with one. -/
theorem reasonAt_markIndex (hf : ∀ c, R.disconnectReason (f c).own = reason) (k : Int) :
    reasonAt R (markIndex m i f) k =
      if keyOf m i = some k then some reason else reasonAt R m k := by
  cases hfind : findConnectionByIndex m i with
  | none =>
    have hkey : keyOf m i = none := by rw [keyOf, hfind]; rfl
    rw [markIndex_of_none hfind, hkey, if_neg (by simp)]
  | some found =>
    obtain ⟨key, c⟩ := found
    have hkey : keyOf m i = some key := by rw [keyOf, hfind]; rfl
    rw [markIndex_of_some hfind, hkey, reasonAt, OrdMap.get?_modify]
    by_cases hk : k = key
    · rw [hk, if_pos rfl, if_pos rfl, (of_findConnectionByIndex hfind).1, Option.map_some,
        Option.map_some, hf]
    · rw [if_neg hk, if_neg fun h => hk (Option.some.inj h).symm, reasonAt]

theorem markIndex_eq_self_iff : markIndex m i f = m ↔ MarkedAlready m i f := by
  constructor
  · intro h k c hc
    have hget := (of_findConnectionByIndex hc).1
    rw [markIndex_of_some hc] at h
    have hmodified := OrdMap.get?_modify m k k f
    rw [h, if_pos rfl, hget, Option.map_some, Option.some.injEq] at hmodified
    exact hmodified.symm
  · intro h
    cases hfind : findConnectionByIndex m i with
    | none => exact markIndex_of_none hfind
    | some found =>
      obtain ⟨key, c⟩ := found
      rw [markIndex_of_some hfind]
      refine OrdMap.ext_get? fun k => ?_
      rw [OrdMap.get?_modify]
      by_cases hk : k = key
      · rw [if_pos hk, hk, (of_findConnectionByIndex hfind).1, Option.map_some, h key c hfind]
      · rw [if_neg hk]

/-- A refused request that marks nothing. -/
theorem EndsOnly.of_refused (hret : ret ≠ .success) : EndsOnly R m m i reason ret :=
  ⟨fun h => absurd h hret, fun _ => rfl⟩

/-- A refused request: the mark has to be there already. -/
theorem endsOnly_refused_iff (hret : ret ≠ .success) :
    EndsOnly R m (markIndex m i f) j reason ret ↔ MarkedAlready m i f := by
  rw [← markIndex_eq_self_iff]
  constructor
  · intro h
    exact h.refused hret
  · intro h
    exact ⟨fun hsuccess => absurd hsuccess hret, fun _ => h⟩

/-- An accepted request: the mark has to go where the index is. -/
theorem endsOnly_accepted_iff (hf : ∀ c, R.disconnectReason (f c).own = reason) :
    EndsOnly R m (markIndex m i f) j reason .success ↔ SameEnd R m i j reason := by
  rw [SameEnd, hasReason_iff, hasReason_iff]
  constructor
  · intro h
    have heach := h.accepted rfl
    by_cases hij : i = j
    · exact Or.inl hij
    · refine Or.inr ⟨fun k hi => ?_, fun k hj => ?_⟩
      · have hj : keyOf m j ≠ some k := fun hj => hij (eq_of_keyOf hi hj)
        have hk := heach k
        rw [reasonAt_markIndex hf, if_pos hi, if_neg hj] at hk
        exact hk.symm
      · have hi : keyOf m i ≠ some k := fun hi => hij (eq_of_keyOf hi hj)
        have hk := heach k
        rw [reasonAt_markIndex hf, if_neg hi, if_pos hj] at hk
        exact hk
  · intro h
    refine ⟨fun _ k => ?_, fun hne => absurd rfl hne⟩
    rw [reasonAt_markIndex hf]
    rcases h with rfl | ⟨hi, hj⟩
    · rfl
    · split
      · rename_i hk
        rw [hi k hk, ite_self]
      · split
        · rename_i hk
          exact hj k hk
        · rfl

/-- A request about the connection with the index: it is accepted where `ok` holds. -/
theorem endsOnly_named_iff (hf : ∀ c, R.disconnectReason (f c).own = reason) {ok : Prop}
    (hok : ret = .success ↔ ok) :
    EndsOnly R m (markIndex m i f) i reason ret ↔ ok ∨ MarkedAlready m i f := by
  by_cases hret : ret = .success
  · rw [hret, endsOnly_accepted_iff hf]
    exact ⟨fun _ => Or.inl (hok.mp hret), fun _ => Or.inl rfl⟩
  · rw [endsOnly_refused_iff hret, or_iff_right (fun h => hret (hok.mpr h))]

end CallTable

/-! ## When the ends are truthful -/

/-- When a CS hang-up marks the call it names. -/
def CSControl.HangsUpNamed (modem : Modem) (t : CSControl) (callInfo : CellularCallInfo) :
    CallSupplementType → Prop
  | .default => modem.hasHandler callInfo.slotId = true ∨
      MarkedAlready t.connectionMap callInfo.index (setReason domain .userTerminated [])
  | .hangUpHoldWait | .hangUpActive =>
    if modem.hasHandler callInfo.slotId = true then
      SameEnd domain t.connectionMap callInfo.callId callInfo.index .userTerminated
    else MarkedAlready t.connectionMap callInfo.callId (setReason domain .userTerminated [])
  | .hangUpAll | .other _ => True

/-- When a CS reject marks the call it names. -/
def CSControl.RejectsNamed (modem : Modem) (t : CSControl) (callInfo : CellularCallInfo) : Prop :=
  modem.hasHandler callInfo.slotId = true ∨
    ∀ k c, findConnectionByIndex t.connectionMap callInfo.index = some (k, c) →
      c.isRingingState = true → setReason domain .userDecline [] c = c

namespace IMSControl

open CellularCallConnectionIMS

/-- What a hang-up makes of the connection it is for. -/
def markHangUp (c : CellularCallConnectionIMS) : CellularCallConnectionIMS :=
  setReason domain .userTerminated [] (setHangupFlag c true)

/-- What a reject makes of the connection it is for. -/
def markReject (c : CellularCallConnectionIMS) : CellularCallConnectionIMS :=
  { c with own := { c.own with disconnectReason := .userDecline } }

/-- When an IMS hang-up marks the call it names. -/
def HangsUpNamed (modem : Modem) (service : ImsService) (t : IMSControl)
    (callInfo : CellularCallInfo) : CallSupplementType → Prop
  | .default => service.accepts (cStr callInfo.phoneNum) service.hangUp = true ∨
      MarkedAlready t.connectionMap callInfo.index markHangUp
  | .hangUpHoldWait | .hangUpActive =>
    if modem.hasHandler callInfo.slotId = true then
      SameEnd domain t.connectionMap callInfo.callId callInfo.index .userTerminated
    else MarkedAlready t.connectionMap callInfo.callId (setReason domain .userTerminated [])
  | .hangUpAll | .other _ => True

/-- When an IMS reject marks the call it names. -/
def RejectsNamed (service : ImsService) (t : IMSControl) (callInfo : CellularCallInfo) : Prop :=
  service.accepts (cStr callInfo.phoneNum) service.reject = true ∨
    ∀ k c, findConnectionByIndex t.connectionMap callInfo.index = some (k, c) →
      c.isRingingState = true → markReject c = c

end IMSControl

/-- A request about all calls of a kind: it marks the call with the index `i`. -/
theorem endsOnly_supplement_iff {κ δ : Type} {R : ReasonDomain κ δ} (hR : R.Lawful)
    {modem : Modem} {slotId : Int} {request : Output} {m : ConnectionMap δ} {i j : Int}
    {reason : RilDisconnectedReason} :
    EndsOnly R m (updateCallDisconnectReason R m i reason []) j reason
        (modem.request slotId request).1 ↔
      if modem.hasHandler slotId = true then SameEnd R m i j reason
      else MarkedAlready m i (setReason R reason []) := by
  have hmark : updateCallDisconnectReason R m i reason [] =
      markIndex m i (setReason R reason []) := rfl
  rw [hmark]
  split
  · rename_i hhandler
    rw [Modem.request_eq_success_iff.mpr hhandler]
    exact endsOnly_accepted_iff fun c => hR.disconnectReason_set reason [] c.own
  · rename_i hhandler
    exact endsOnly_refused_iff fun h => hhandler (Modem.request_eq_success_iff.mp h)

/-- A request about one call, in either domain, accepted where `ok` holds: it is made
if the call is `due`. -/
theorem endsOnly_due_iff {κ δ : Type} {R : ReasonDomain κ δ} {m : ConnectionMap δ} {i key : Int}
    {c : Connection δ} (hfind : findConnectionByIndex m i = some (key, c))
    {f : Connection δ → Connection δ} {reason : RilDisconnectedReason}
    (hf : ∀ c, R.disconnectReason (f c).own = reason) {ret : RetCode} {ok : Prop}
    (hok : ret = .success ↔ ok) (due : Connection δ → Bool) (hdue : due c = true) :
    EndsOnly R m (m.modify key f) i reason ret ↔
      ok ∨ ∀ k c, findConnectionByIndex m i = some (k, c) → due c = true → f c = c := by
  rw [← markIndex_of_some hfind, endsOnly_named_iff hf hok]
  refine or_congr_right ⟨fun h k c hc _ => h k c hc, fun h k c' hc' => ?_⟩
  have hfound := hc'
  rw [hfind, Option.some.injEq, Prod.mk.injEq] at hfound
  rw [hfound.2] at hdue
  exact h k c' hc' hdue

/-- The connection that is found is not due, so nothing is asked. -/
theorem forall_found_of_not_due {δ : Type} {m : ConnectionMap δ} {i key : Int} {c : Connection δ}
    (hfind : findConnectionByIndex m i = some (key, c)) {p : Connection δ → Prop}
    {due : Connection δ → Bool} (hdue : due c = false) :
    ∀ k c, findConnectionByIndex m i = some (k, c) → due c = true → p c := by
  intro k c' hc' hdue'
  rw [hfind, Option.some.injEq, Prod.mk.injEq] at hc'
  rw [← hc'.2, hdue] at hdue'
  cases hdue'

/-- There is no such connection, so nothing is asked. -/
theorem forall_found_of_none {δ : Type} {m : ConnectionMap δ} {i : Int}
    (hfind : findConnectionByIndex m i = none) {p : Int → Connection δ → Prop} :
    ∀ k c, findConnectionByIndex m i = some (k, c) → p k c := by
  intro k c hc
  rw [hfind] at hc
  cases hc

namespace CSControl

theorem endsOnly_hangUpVia_iff (modem : Modem) (t : CSControl) (callInfo : CellularCallInfo)
    {type : CallSupplementType} (htype : type ≠ .hangUpAll) :
    EndsOnly domain t.connectionMap (hangUpVia modem t callInfo type).2.1.connectionMap
        callInfo.index .userTerminated (hangUpVia modem t callInfo type).1 ↔
      HangsUpNamed modem t callInfo type := by
  cases type with
  | default =>
    unfold hangUpVia HangsUpNamed
    cases hfind : findConnectionByIndex t.connectionMap callInfo.index with
    | none => exact iff_of_true (.of_refused (by simp)) (Or.inr (forall_found_of_none hfind))
    | some found =>
      obtain ⟨key, c⟩ := found
      dsimp only
      rw [← markIndex_of_some hfind]
      refine endsOnly_named_iff ?_ Modem.request_eq_success_iff
      exact fun _ => rfl
  | hangUpHoldWait => exact endsOnly_supplement_iff domain_lawful
  | hangUpActive => exact endsOnly_supplement_iff domain_lawful
  | hangUpAll => exact absurd rfl htype
  | other code => exact iff_of_true (.of_refused (by simp [hangUpVia])) trivial

theorem endsOnly_rejectVia_iff (modem : Modem) (t : CSControl) (callInfo : CellularCallInfo) :
    EndsOnly domain t.connectionMap (rejectVia modem t callInfo).2.1.connectionMap
        callInfo.index .userDecline (rejectVia modem t callInfo).1 ↔
      RejectsNamed modem t callInfo := by
  unfold rejectVia RejectsNamed
  cases hfind : findConnectionByIndex t.connectionMap callInfo.index with
  | none => exact iff_of_true (.of_refused (by simp)) (Or.inr (by simp))
  | some found =>
    obtain ⟨key, c⟩ := found
    dsimp only
    rw [← hfind]
    cases hringing : c.isRingingState with
    | false =>
      rw [if_pos rfl]
      exact iff_of_true (.of_refused (by simp)) (Or.inr (forall_found_of_not_due hfind hringing))
    | true =>
      rw [if_neg Bool.noConfusion]
      refine endsOnly_due_iff hfind ?_ Modem.request_eq_success_iff _ hringing
      exact fun _ => rfl

end CSControl

namespace IMSControl

theorem endsOnly_hangUpVia_iff (modem : Modem) (service : ImsService) (t : IMSControl)
    (callInfo : CellularCallInfo) {type : CallSupplementType} (htype : type ≠ .hangUpAll) :
    EndsOnly domain t.connectionMap (hangUpVia modem service t callInfo type).2.1.connectionMap
        callInfo.index .userTerminated (hangUpVia modem service t callInfo type).1 ↔
      HangsUpNamed modem service t callInfo type := by
  cases type with
  | default =>
    unfold hangUpVia hangUp HangsUpNamed
    cases hfind : findConnectionByIndex t.connectionMap callInfo.index with
    | none => exact iff_of_true (.of_refused (by simp)) (Or.inr (forall_found_of_none hfind))
    | some found =>
      obtain ⟨key, c⟩ := found
      dsimp only
      rw [← markIndex_of_some hfind]
      refine endsOnly_named_iff (f := markHangUp) ?_ numberedRequest_eq_success_iff
      exact fun _ => rfl
  | hangUpHoldWait => exact endsOnly_supplement_iff domain_lawful
  | hangUpActive => exact endsOnly_supplement_iff domain_lawful
  | hangUpAll => exact absurd rfl htype
  | other code => exact iff_of_true (.of_refused (by simp [hangUpVia, hangUp])) trivial

theorem endsOnly_reject_iff (service : ImsService) (t : IMSControl)
    (callInfo : CellularCallInfo) :
    EndsOnly domain t.connectionMap (reject service t callInfo).2.1.connectionMap
        callInfo.index .userDecline (reject service t callInfo).1 ↔
      RejectsNamed service t callInfo := by
  unfold reject RejectsNamed
  cases hfind : findConnectionByIndex t.connectionMap callInfo.index with
  | none => exact iff_of_true (.of_refused (by simp)) (Or.inr (by simp))
  | some found =>
    obtain ⟨key, c⟩ := found
    dsimp only
    rw [← hfind]
    cases hringing : c.isRingingState with
    | false =>
      rw [if_pos rfl]
      exact iff_of_true (.of_refused (by simp)) (Or.inr (forall_found_of_not_due hfind hringing))
    | true =>
      rw [if_neg Bool.noConfusion]
      refine endsOnly_due_iff hfind (f := markReject) ?_ numberedRequest_eq_success_iff _ hringing
      exact fun _ => rfl

end IMSControl

/-- A hang-up or a reject ends the call it names in the user's name, and no other,
exactly where its request is accepted, or the mark was there before, and where a
hang-up of all held or active calls names one call by both of its numbers. -/
theorem endsOnly_iff (modem : Modem) (service : ImsService) (cs : CSControl) (ims : IMSControl)
    (callInfo : CellularCallInfo) :
    (∀ type : CallSupplementType, type ≠ .hangUpAll →
      (EndsOnly CSControl.domain cs.connectionMap
          (CSControl.hangUpVia modem cs callInfo type).2.1.connectionMap callInfo.index
          .userTerminated (CSControl.hangUpVia modem cs callInfo type).1 ↔
        CSControl.HangsUpNamed modem cs callInfo type)) ∧
    (EndsOnly CSControl.domain cs.connectionMap
        (CSControl.rejectVia modem cs callInfo).2.1.connectionMap callInfo.index
        .userDecline (CSControl.rejectVia modem cs callInfo).1 ↔
      CSControl.RejectsNamed modem cs callInfo) ∧
    (∀ type : CallSupplementType, type ≠ .hangUpAll →
      (EndsOnly IMSControl.domain ims.connectionMap
          (IMSControl.hangUpVia modem service ims callInfo type).2.1.connectionMap callInfo.index
          .userTerminated (IMSControl.hangUpVia modem service ims callInfo type).1 ↔
        IMSControl.HangsUpNamed modem service ims callInfo type)) ∧
    (EndsOnly IMSControl.domain ims.connectionMap
        (IMSControl.reject service ims callInfo).2.1.connectionMap callInfo.index
        .userDecline (IMSControl.reject service ims callInfo).1 ↔
      IMSControl.RejectsNamed service ims callInfo) := by
  refine ⟨?_, ?_, ?_, ?_⟩
  · intro type htype
    exact CSControl.endsOnly_hangUpVia_iff modem cs callInfo htype
  · exact CSControl.endsOnly_rejectVia_iff modem cs callInfo
  · intro type htype
    exact IMSControl.endsOnly_hangUpVia_iff modem service ims callInfo htype
  · exact IMSControl.endsOnly_reject_iff service ims callInfo

/-- A CS table with one active call, of index 1. -/
def CSControl.oneActive : CSControl :=
  (CSControl.reportIncomingInfo .plain true 0 CallTable.fresh (.of [.plain 1 .active])).1

/-- An IMS table with one active call, of index 1. -/
def IMSControl.oneActive : IMSControl :=
  (IMSControl.reportIncomingInfo .plain true 0 .fresh (.of [.plain 1 .active])).1

/-- The call manager names its call 7 by the index 1, and hangs up the active call. -/
theorem endsOnly_default :
    EndsOnly CSControl.domain CSControl.oneActive.connectionMap
      (CSControl.hangUpVia ⟨fun _ => true, 1⟩ .oneActive
        { CellularCallInfo.plain .cs 1 with callId := 7 } .default).2.1.connectionMap
      1 .userTerminated
      (CSControl.hangUpVia ⟨fun _ => true, 1⟩ .oneActive
        { CellularCallInfo.plain .cs 1 with callId := 7 } .default).1 :=
  ((endsOnly_iff _ .plain .oneActive .oneActive _).1 .default (by decide)).mpr (Or.inl rfl)

/-- The same with `TYPE_HANG_UP_ACTIVE` marks no call, and a hang-up without an IMS
service leaves its mark. -/
theorem not_endsOnly :
    (¬EndsOnly CSControl.domain CSControl.oneActive.connectionMap
      (CSControl.hangUpVia ⟨fun _ => true, 1⟩ .oneActive
        { CellularCallInfo.plain .cs 1 with callId := 7 } .hangUpActive).2.1.connectionMap
      1 .userTerminated
      (CSControl.hangUpVia ⟨fun _ => true, 1⟩ .oneActive
        { CellularCallInfo.plain .cs 1 with callId := 7 } .hangUpActive).1) ∧
    ¬EndsOnly IMSControl.domain IMSControl.oneActive.connectionMap
      (IMSControl.hangUpVia ⟨fun _ => true, 1⟩ { ImsService.plain with needCallImsService := false }
        .oneActive (.plain .ims 1) .default).2.1.connectionMap
      1 .userTerminated
      (IMSControl.hangUpVia ⟨fun _ => true, 1⟩ { ImsService.plain with needCallImsService := false }
        .oneActive (.plain .ims 1) .default).1 := by
  constructor
  · intro h
    exact absurd (h.accepted rfl 1) (by decide)
  · intro h
    exact absurd (h.refused (by decide)) (by decide)

end CellularCall
