import CellularCall.Connection
import CellularCall.Lib.OrdMap

/-!
# The call table

`CSControl`, `IMSControl` and `SatelliteControl` each keep a table of
connections and bring it in step with the call lists of their domain.  The
three classes repeat the same code with their own types, so the table is
modelled once, over a `CallDomain` that says where the classes differ.  The
definitions under the classes' own names are in `Control.CS`, `Control.IMS`
and `Control.Satellite`.

An update is a mark and sweep.  Each listed call is found by its stored index
or inserted under its index, and marked (`trackCall`); then the unmarked
connections are reported ended and erased, and the marks are taken back
(`deleteConnection`).

`Settled` is the invariant between two lists: every connection is stored under
its own index, unmarked.  The results say what a list does to a settled table:

* `get?_reportIncomingInfo` and `get?_updateInfo`: the connection under each key
  afterwards,
* `callVec_updateInfo`: the calls that are reported, the ended ones last and in the
  order of their indices.
-/

namespace CellularCall

open Lib

/-- Where the three control classes differ in processing a call list.

* `index`, `number` and `state` read an element of the list.
* `encapsulationCallReportInfo` builds the report of an element.
* `incomingWhenAlone`: a lone waiting call is reported as incoming.
* `connectedOut`: the post-dial string of an outgoing call starts when it is
  connected.
* `updateClearsIgnored`: an update that is not reported for an ignored incoming
  call is the last one that is not.
* `ended` is what is copied from a connection into the report of its end. -/
structure CallDomain (κ δ : Type) where
  callType : CallType
  fresh : δ
  index : κ → Int
  number : κ → Str
  state : κ → TelCallState
  encapsulationCallReportInfo : Platform → Int → κ → CallReportInfo
  incomingWhenAlone : Bool
  connectedOut : Bool
  updateClearsIgnored : Bool
  ended : δ → CallReportInfo → CallReportInfo

/-- A domain whose connections remember why their call ended. -/
structure ReasonDomain (κ δ : Type) extends CallDomain κ δ where
  disconnectReason : δ → RilDisconnectedReason
  setDisconnectReason : RilDisconnectedReason → Str → δ → δ

/-- `connectionMap_`. -/
abbrev ConnectionMap (δ : Type) := OrdMap Int (Connection δ)

/-- The members the control classes share. -/
structure CallTable (δ : Type) where
  connectionMap : ConnectionMap δ
  pendingPhoneNumber : Str
  isIgnoredIncomingCall : Bool
deriving DecidableEq

namespace CallTable

variable {κ δ : Type}

/-- The members of a new control. -/
def fresh : CallTable δ := ⟨∅, [], false⟩

/-! ## Searching -/

/-- `FindConnectionByIndex`: the connections are searched, in key order, for a
stored index. -/
def findConnectionByIndex (m : ConnectionMap δ) (index : Int) : Option (Int × Connection δ) :=
  m.first? (fun c => decide (c.index = index))

/-- `FindConnectionByState`. -/
def findConnectionByState (m : ConnectionMap δ) (state : TelCallState) :
    Option (Int × Connection δ) :=
  m.first? (fun c => decide (c.getStatus = state))

/-- `IsInState`. -/
def isInState (m : ConnectionMap δ) (state : TelCallState) : Bool :=
  m.any (fun c => decide (c.getStatus = state))

/-- `CanCall`. -/
def canCall (m : ConnectionMap δ) : Bool := decide (m.size ≤ 6)

/-- `ExecutePostDial`. -/
def executePostDial (domain : CallType) (m : ConnectionMap δ) (callId : Int) :
    ConnectionMap δ × List Output :=
  match findConnectionByIndex m callId with
  | none => (m, [])
  | some (key, connection) =>
    let (connection, outputs) := connection.executePostDial domain
    (m.modify key (fun _ => connection), outputs)

/-! ## Processing a list -/

/-- The report of a listed call; `size` is the number of calls in the list. -/
def listedReport (D : CallDomain κ δ) (P : Platform) (slotId : Int) (size : Nat) (call : κ) :
    CallReportInfo :=
  let reportInfo := D.encapsulationCallReportInfo P slotId call
  if D.incomingWhenAlone = true ∧ size = 1 ∧ reportInfo.state = .waiting then
    { reportInfo with state := .incoming }
  else reportInfo

/-- The loop body of `ReportIncomingInfo`. -/
def trackIncoming (D : CallDomain κ δ) (P : Platform) (slotId : Int) (m : ConnectionMap δ)
    (call : κ) : ConnectionMap δ :=
  let connection := (Connection.fresh D.fresh).setStatus (D.state call)
  let connection := connection.setIndex (D.index call)
  let connection := connection.setOrUpdateCallReportInfo
    (D.encapsulationCallReportInfo P slotId call)
  m.insertNew (D.index call) (connection.setNumber (D.number call))

/-- Whether a first list is not reported: it starts with an incoming call, and
there is no callback to tell. -/
def ignoresIncoming (D : CallDomain κ δ) (P : Platform) (registered : Bool) (slotId : Int)
    (L : CallList κ) : Bool :=
  !registered &&
    L.calls.head?.any fun call =>
      (D.encapsulationCallReportInfo P slotId call).state == .incoming

/-- `ReportIncomingInfo`: the calls become the table, and are reported unless an
incoming call finds no callback to tell. -/
def reportIncomingInfo (D : CallDomain κ δ) (P : Platform) (registered : Bool) (slotId : Int)
    (t : CallTable δ) (L : CallList κ) : CallTable δ × List Output :=
  let t := { t with connectionMap := L.calls.foldl (trackIncoming D P slotId) t.connectionMap }
  let callVec := L.calls.map (D.encapsulationCallReportInfo P slotId)
  if ignoresIncoming D P registered slotId L then ({ t with isIgnoredIncomingCall := true }, [])
  else (t, [.reportCallsInfo D.callType ⟨slotId, callVec⟩])

/-- What the loop of `ReportUpdateInfo` carries along. -/
structure Tracking (δ : Type) where
  connectionMap : ConnectionMap δ
  pendingPhoneNumber : Str
  outputs : List Output

/-- What a listed call makes of its connection. -/
def touch (D : CallDomain κ δ) (reportInfo : CallReportInfo) (call : κ) (c : Connection δ) :
    Connection δ :=
  (((c.setFlag true).setIndex (D.index call)).setOrUpdateCallReportInfo reportInfo).setNumber
    (D.number call)

/-- The loop body of `ReportUpdateInfo`. -/
def trackCall (D : CallDomain κ δ) (P : Platform) (slotId : Int) (size : Nat) (s : Tracking δ)
    (call : κ) : Tracking δ :=
  let reportInfo := listedReport D P slotId size call
  match findConnectionByIndex s.connectionMap (D.index call) with
  | none =>
    { s with
      connectionMap := s.connectionMap.insertNew (D.index call)
        (touch D reportInfo call (Connection.fresh D.fresh)) }
  | some (key, connection) =>
    let m := s.connectionMap.modify key (touch D reportInfo call)
    if D.connectedOut && isConnectedOut connection.getStatus reportInfo.state then
      let m := m.modify key (fun c => c.updateCallNumber s.pendingPhoneNumber)
      let (m, outputs) := executePostDial D.callType m (D.index call)
      ⟨m, [], s.outputs ++ outputs⟩
    else { s with connectionMap := m }

/-- The loop of `ReportUpdateInfo`. -/
def trackCalls (D : CallDomain κ δ) (P : Platform) (slotId : Int) (size : Nat) (s : Tracking δ)
    (calls : List κ) : Tracking δ :=
  calls.foldl (trackCall D P slotId size) s

/-- The report of a connection that is no longer listed. -/
def endedReport (D : CallDomain κ δ) (c : Connection δ) : CallReportInfo :=
  D.ended c.own { c.callReportInfo with state := .disconnected }

/-- `DeleteConnection`: the table that is left, and the reports of the ended
calls. -/
def deleteConnection (D : CallDomain κ δ) (m : ConnectionMap δ) :
    ConnectionMap δ × List CallReportInfo :=
  ((m.filter (fun c => c.flag)).mapValues (fun c => c.setFlag false),
    (m.filter (fun c => !c.flag)).values.map (endedReport D))

/-- `ReportUpdateInfo` up to its report: the new table, the report built, and
what the post-dial strings sent. -/
def updateInfo (D : CallDomain κ δ) (P : Platform) (slotId : Int) (t : CallTable δ)
    (L : CallList κ) : CallTable δ × CallsReportInfo × List Output :=
  let s := trackCalls D P slotId L.calls.length ⟨t.connectionMap, t.pendingPhoneNumber, []⟩ L.calls
  let (m, ended) := deleteConnection D s.connectionMap
  ({ t with connectionMap := m, pendingPhoneNumber := s.pendingPhoneNumber },
    ⟨slotId, L.calls.map (listedReport D P slotId L.calls.length) ++ ended⟩, s.outputs)

/-- `ReportUpdateInfo`: nothing is reported while an incoming call is ignored. -/
def reportUpdateInfo (D : CallDomain κ δ) (P : Platform) (slotId : Int) (t : CallTable δ)
    (L : CallList κ) : CallTable δ × List Output :=
  let (t, callsReportInfo, outputs) := updateInfo D P slotId t L
  if t.isIgnoredIncomingCall then
    ({ t with isIgnoredIncomingCall := !D.updateClearsIgnored }, outputs)
  else (t, outputs ++ [.reportCallsInfo D.callType callsReportInfo])

/-- The entry `ReportHangUpInfo` sends for an empty table. -/
def defaultHangUpEntry (P : Platform) (slotId : Int) : CallReportInfo :=
  { P.defaultCallReportInfo with state := .disconnected, accountId := slotId }

/-- The report `ReportHangUpInfo` builds. -/
def hangUpInfo (D : CallDomain κ δ) (P : Platform) (slotId : Int) (m : ConnectionMap δ) :
    CallsReportInfo :=
  let ended := m.values.map fun c =>
    D.ended c.own { c.callReportInfo with state := .disconnected, accountId := slotId }
  ⟨slotId, if m.isEmpty then ended ++ [defaultHangUpEntry P slotId] else ended⟩

/-- `ReleaseAllConnection`. -/
def releaseAllConnection (t : CallTable δ) : CallTable δ := { t with connectionMap := ∅ }

/-- `ReportHangUpInfo`: every call is reported ended and released.  The report is
dropped, once, for an ignored incoming call, and where `silent` says so. -/
def reportHangUpInfo (D : CallDomain κ δ) (P : Platform) (slotId : Int) (silent : Bool)
    (t : CallTable δ) : CallTable δ × List Output :=
  if t.isIgnoredIncomingCall || silent then
    (releaseAllConnection { t with isIgnoredIncomingCall := false }, [])
  else
    (releaseAllConnection t,
      [.reportCallsInfo D.callType (hangUpInfo D P slotId t.connectionMap)])

/-- The common shape of `ReportCsCallsData` and `ReportImsCallsData`: `ask` is
whether to ask for a disconnect reason before processing the list. -/
def reportCallsData (D : CallDomain κ δ) (P : Platform) (registered : Bool) (slotId : Int)
    (silent : Bool) (t : CallTable δ) (L : CallList κ) (ask : Bool) :
    CallTable δ × List Output :=
  if L.callSize ≤ 0 then
    if ask then (t, [.getCallFailReason D.callType])
    else reportHangUpInfo D P slotId silent t
  else if t.connectionMap.isEmpty then reportIncomingInfo D P registered slotId t L
  else if ask then (t, [.getCallFailReason D.callType])
  else reportUpdateInfo D P slotId t L

/-! ## Disconnect reasons -/

/-- Whether a call of the list has this index (`isFind` in the source). -/
def isListed (D : CallDomain κ δ) (calls : List κ) (index : Int) : Bool :=
  calls.any (fun call => decide (D.index call = index))

/-- The connection has ended, for a reason not yet known. -/
def endedWithoutReason (R : ReasonDomain κ δ) (calls : List κ) (c : Connection δ) : Bool :=
  decide (R.disconnectReason c.own = .invalid) && !isListed R.toCallDomain calls c.index

/-- `HasEndCallWithoutReason`. -/
def hasEndCallWithoutReason (R : ReasonDomain κ δ) (m : ConnectionMap δ) (L : CallList κ) : Bool :=
  m.any (endedWithoutReason R L.calls)

/-- The connection with its disconnect reason set. -/
def setReason (R : ReasonDomain κ δ) (reason : RilDisconnectedReason) (message : Str)
    (c : Connection δ) : Connection δ :=
  { c with own := R.setDisconnectReason reason message c.own }

/-- `UpdateDisconnectedReason`: the reason goes to the ended calls that have
none. -/
def updateDisconnectedReason (R : ReasonDomain κ δ) (m : ConnectionMap δ) (L : CallList κ)
    (reason : RilDisconnectedReason) (message : Str) : ConnectionMap δ :=
  m.mapValues fun c => if endedWithoutReason R L.calls c then setReason R reason message c else c

/-- `UpdateCallDisconnectReason`. -/
def updateCallDisconnectReason (R : ReasonDomain κ δ) (m : ConnectionMap δ) (callId : Int)
    (reason : RilDisconnectedReason) (message : Str) : ConnectionMap δ :=
  m.modifyFirst (fun c => decide (c.index = callId)) (setReason R reason message)

/-! ## Settled tables -/

/-- Every connection is stored under its own index. -/
def Keyed (m : ConnectionMap δ) : Prop := ∀ k c, m.get? k = some c → c.index = k

/-- The table between two lists: stored under their own indices, unmarked. -/
structure Settled (m : ConnectionMap δ) : Prop where
  keyed : Keyed m
  unmarked : ∀ k c, m.get? k = some c → c.flag = false

/-- The connections are one call to the lists and the reports: a request may
change what it asks for, but not what identifies the call. -/
structure SameIdentity (c c' : Connection δ) : Prop where
  index : c'.index = c.index
  flag : c'.flag = c.flag
  reportIndex : c'.callReportInfo.index = c.callReportInfo.index
  accountId : c'.callReportInfo.accountId = c.callReportInfo.accountId
  callType : c'.callReportInfo.callType = c.callReportInfo.callType

/-- `J` does not depend on what requests change. -/
def Steady (J : Int → Connection δ → Prop) : Prop :=
  ∀ ⦃k c c'⦄, SameIdentity c c' → J k c → J k c'

theorem Steady.trivial : Steady fun (_ : Int) (_ : Connection δ) => True :=
  fun _ _ _ _ _ => True.intro

/-- A settled table with `J` for each connection and its key. -/
structure Holds (J : Int → Connection δ → Prop) (m : ConnectionMap δ) : Prop extends Settled m where
  each : ∀ k c, m.get? k = some c → J k c

variable {J : Int → Connection δ → Prop} {m : ConnectionMap δ}

theorem Settled.holds (hm : Settled m) : Holds (fun _ _ => True) m :=
  ⟨hm, fun _ _ _ => trivial⟩

theorem Holds.empty : Holds J (∅ : ConnectionMap δ) where
  keyed := by simp [Keyed]
  unmarked := by simp
  each := by simp

/-- A table made of connections with the identity they had still holds `J`. -/
theorem Holds.of_sameIdentity (hJ : Steady J) (hm : Holds J m) {m' : ConnectionMap δ}
    (h : ∀ k c', m'.get? k = some c' → ∃ c, m.get? k = some c ∧ SameIdentity c c') :
    Holds J m' where
  keyed := by
    intro k c' hc'
    obtain ⟨c, hc, hsame⟩ := h k c' hc'
    exact hsame.index.trans (hm.keyed k c hc)
  unmarked := by
    intro k c' hc'
    obtain ⟨c, hc, hsame⟩ := h k c' hc'
    exact hsame.flag.trans (hm.unmarked k c hc)
  each := by
    intro k c' hc'
    obtain ⟨c, hc, hsame⟩ := h k c' hc'
    exact hJ hsame (hm.each k c hc)

theorem SameIdentity.refl (c : Connection δ) : SameIdentity c c := ⟨rfl, rfl, rfl, rfl, rfl⟩

theorem Holds.modify (hJ : Steady J) (hm : Holds J m) (k : Int)
    {f : Connection δ → Connection δ} (hf : ∀ c, SameIdentity c (f c)) :
    Holds J (m.modify k f) := by
  refine hm.of_sameIdentity hJ ?_
  intro i c' hc'
  rw [OrdMap.get?_modify] at hc'
  split at hc'
  · obtain ⟨c, hc, rfl⟩ := Option.map_eq_some_iff.mp hc'
    exact ⟨c, hc, hf c⟩
  · exact ⟨c', hc', SameIdentity.refl c'⟩

theorem Holds.modifyFirst (hJ : Steady J) (hm : Holds J m) (p : Connection δ → Bool)
    {f : Connection δ → Connection δ} (hf : ∀ c, SameIdentity c (f c)) :
    Holds J (m.modifyFirst p f) := by
  unfold OrdMap.modifyFirst
  split
  · exact hm.modify hJ _ hf
  · exact hm

theorem Holds.mapValues (hJ : Steady J) (hm : Holds J m)
    {f : Connection δ → Connection δ} (hf : ∀ c, SameIdentity c (f c)) :
    Holds J (m.mapValues f) := by
  refine hm.of_sameIdentity hJ ?_
  intro i c' hc'
  rw [OrdMap.get?_mapValues] at hc'
  obtain ⟨c, hc, rfl⟩ := Option.map_eq_some_iff.mp hc'
  exact ⟨c, hc, hf c⟩

/-- In a keyed table the search by stored index is the lookup by key. -/
theorem findConnectionByIndex_eq {m : ConnectionMap δ} (hm : Keyed m) (i : Int) :
    findConnectionByIndex m i = (m.get? i).map (fun c => (i, c)) :=
  OrdMap.first?_eq_get? hm i

/-- `ExecutePostDial` works on the connection with the given index. -/
theorem executePostDial_eq (domain : CallType) {m : ConnectionMap δ} (hm : Keyed m) (i : Int) :
    (executePostDial domain m i).1 = m.modify i (fun c => (c.executePostDial domain).1) := by
  unfold executePostDial
  rw [findConnectionByIndex_eq hm]
  cases hget : m.get? i with
  | none =>
    refine OrdMap.ext_get? fun k => ?_
    rw [OrdMap.get?_modify]
    by_cases hk : k = i
    · simp [hk, hget]
    · simp [hk]
  | some c =>
    refine OrdMap.ext_get? fun k => ?_
    simp only [Option.map_some, OrdMap.get?_modify]
    by_cases hk : k = i
    · simp [hk, hget]
    · simp [hk]

theorem isPostDial_executePostDial (domain : CallType) (m : ConnectionMap δ) (i : Int) :
    ∀ o ∈ (executePostDial domain m i).2, o.isPostDial = true := by
  unfold executePostDial
  split
  · simp
  · exact Connection.isPostDial_executePostDial domain _

/-! ## Marking -/

variable (D : CallDomain κ δ) (P : Platform) (slotId : Int)

/-- The members a connection under `i` keeps when it is listed again. -/
def ownOf (m : ConnectionMap δ) (i : Int) : δ := ((m.get? i).map Connection.own).getD D.fresh

/-- A connection a list has just marked. -/
structure Marked (i : Int) (reportInfo : CallReportInfo) (own : δ) (c : Connection δ) : Prop where
  index : c.index = i
  flag : c.flag = true
  callReportInfo : c.callReportInfo = reportInfo
  own : c.own = own

/-- The first call with index `i`: the one that decides in `ReportIncomingInfo`. -/
def firstCall (calls : List κ) (i : Int) : Option κ :=
  calls.find? (fun call => decide (D.index call = i))

/-- The last call with index `i`: the one that decides in `ReportUpdateInfo`. -/
def lastCall (calls : List κ) (i : Int) : Option κ := firstCall D calls.reverse i

theorem firstCall_eq_none_iff {calls : List κ} {i : Int} :
    firstCall D calls i = none ↔ i ∉ calls.map D.index := by
  simp [firstCall, List.find?_eq_none]

theorem lastCall_eq_none_iff {calls : List κ} {i : Int} :
    lastCall D calls i = none ↔ i ∉ calls.map D.index := by
  simp [lastCall, firstCall_eq_none_iff]

theorem firstCall_spec {calls : List κ} {i : Int} {call : κ}
    (h : firstCall D calls i = some call) : call ∈ calls ∧ D.index call = i :=
  ⟨List.mem_of_find?_eq_some h, by simpa using List.find?_some h⟩

theorem lastCall_spec {calls : List κ} {i : Int} {call : κ}
    (h : lastCall D calls i = some call) : call ∈ calls ∧ D.index call = i := by
  obtain ⟨hmem, hindex⟩ := firstCall_spec D h
  exact ⟨List.mem_reverse.mp hmem, hindex⟩

theorem lastCall_cons (call : κ) (calls : List κ) (i : Int) :
    lastCall D (call :: calls) i =
      (lastCall D calls i).or (if D.index call = i then some call else none) := by
  simp only [lastCall, firstCall, List.reverse_cons, List.find?_append]
  by_cases h : D.index call = i <;> simp [h]

/-- A listed call that comes up: its connection is told the pending number and the
post-dial string starts. -/
theorem get?_trackCall_of_connectedOut {n : Nat} {s : Tracking δ} (hs : Keyed s.connectionMap)
    {call : κ} {old : Connection δ} (hget : s.connectionMap.get? (D.index call) = some old)
    (hconnected : (D.connectedOut && isConnectedOut old.getStatus
      (listedReport D P slotId n call).state) = true) :
    (trackCall D P slotId n s call).connectionMap.get? (D.index call) =
      some (((touch D (listedReport D P slotId n call) call old).updateCallNumber
        s.pendingPhoneNumber).executePostDial D.callType).1 := by
  unfold trackCall
  rw [findConnectionByIndex_eq hs]
  simp only [hget, Option.map_some, if_pos hconnected]
  have hkeyed : Keyed ((s.connectionMap.modify (D.index call)
      (touch D (listedReport D P slotId n call) call)).modify (D.index call)
      (fun c => c.updateCallNumber s.pendingPhoneNumber)) := by
    intro k c hc
    rw [OrdMap.get?_modify, OrdMap.get?_modify] at hc
    by_cases hk : k = D.index call
    · simp only [hk, if_true, hget, Option.map_some, Option.some.injEq] at hc
      rw [← hc, hk]
      rfl
    · simp only [hk, if_false] at hc
      exact hs k c hc
  rw [executePostDial_eq D.callType hkeyed]
  simp only [OrdMap.get?_modify, if_true, hget, Option.map_some]

/-- A listed call marks the connection under its index, and fills it in. -/
theorem get?_trackCall_self {n : Nat} {s : Tracking δ} (hs : Keyed s.connectionMap) (call : κ) :
    ∃ c, (trackCall D P slotId n s call).connectionMap.get? (D.index call) = some c ∧
      Marked (D.index call) (listedReport D P slotId n call)
        (ownOf D s.connectionMap (D.index call)) c := by
  cases hget : s.connectionMap.get? (D.index call) with
  | none =>
    unfold trackCall
    rw [findConnectionByIndex_eq hs]
    simp only [hget, Option.map_none, OrdMap.get?_insertNew, if_true, Option.getD_none]
    refine ⟨_, rfl, rfl, rfl, rfl, ?_⟩
    simp [ownOf, hget, touch, Connection.fresh, Connection.setFlag, Connection.setIndex,
      Connection.setOrUpdateCallReportInfo, Connection.setNumber]
  | some old =>
    have hown : ownOf D s.connectionMap (D.index call) = old.own := by simp [ownOf, hget]
    have hmarked : Marked (D.index call) (listedReport D P slotId n call) old.own
        (touch D (listedReport D P slotId n call) call old) := ⟨rfl, rfl, rfl, rfl⟩
    rw [hown]
    by_cases hconnected : (D.connectedOut && isConnectedOut old.getStatus
        (listedReport D P slotId n call).state) = true
    · refine ⟨_, get?_trackCall_of_connectedOut D P slotId hs hget hconnected, ?_⟩
      have hsame := (Connection.sameCall_updateCallNumber
        (touch D (listedReport D P slotId n call) call old) s.pendingPhoneNumber).trans
        (Connection.sameCall_executePostDial D.callType _)
      exact ⟨hsame.index.trans hmarked.index, hsame.flag.trans hmarked.flag,
        hsame.callReportInfo.trans hmarked.callReportInfo, hsame.own.trans hmarked.own⟩
    · unfold trackCall
      rw [findConnectionByIndex_eq hs]
      simp only [hget, Option.map_some, if_neg hconnected, OrdMap.get?_modify, if_true]
      exact ⟨_, rfl, hmarked⟩

/-- A listed call changes no connection under another index. -/
theorem get?_trackCall_of_ne {n : Nat} {s : Tracking δ} (hs : Keyed s.connectionMap)
    {call : κ} {i : Int} (hi : i ≠ D.index call) :
    (trackCall D P slotId n s call).connectionMap.get? i = s.connectionMap.get? i := by
  unfold trackCall
  rw [findConnectionByIndex_eq hs]
  cases hget : s.connectionMap.get? (D.index call) with
  | none => simp [OrdMap.get?_insertNew, hi]
  | some old =>
    simp only [Option.map_some]
    split
    · unfold executePostDial
      split
      · simp [OrdMap.get?_modify, hi]
      · rename_i key c hfind
        have hkey : key = D.index call := by
          obtain ⟨hkey, hp⟩ := OrdMap.get?_of_first?_eq_some hfind
          have hindex : c.index = D.index call := by simpa using hp
          by_contra hne
          simp only [OrdMap.get?_modify, if_neg hne] at hkey
          exact hne ((hs key c hkey).symm.trans hindex)
        simp [OrdMap.get?_modify, hkey, hi]
    · simp [OrdMap.get?_modify, hi]

theorem keyed_trackCall {n : Nat} {s : Tracking δ} (hs : Keyed s.connectionMap) (call : κ) :
    Keyed (trackCall D P slotId n s call).connectionMap := by
  intro k c hc
  by_cases hk : k = D.index call
  · obtain ⟨c', hc', hmarked⟩ := get?_trackCall_self D P slotId hs (n := n) call
    rw [hk, hc', Option.some.injEq] at hc
    rw [← hc, hk]
    exact hmarked.index
  · rw [get?_trackCall_of_ne D P slotId hs hk] at hc
    exact hs k c hc

theorem isPostDial_trackCall {n : Nat} {s : Tracking δ} (call : κ)
    (hs : ∀ o ∈ s.outputs, o.isPostDial = true) :
    ∀ o ∈ (trackCall D P slotId n s call).outputs, o.isPostDial = true := by
  unfold trackCall
  split
  · exact hs
  · dsimp only
    split
    · intro o ho
      rcases List.mem_append.mp ho with ho | ho
      · exact hs o ho
      · exact isPostDial_executePostDial D.callType _ _ o ho
    · exact hs

/-- The loop of `ReportUpdateInfo`: an unlisted index keeps its connection, and
a listed one is marked with the report of the last call that carries it. -/
theorem get?_trackCalls {n : Nat} (calls : List κ) :
    ∀ {s : Tracking δ}, Keyed s.connectionMap → ∀ i,
      match lastCall D calls i with
      | none => (trackCalls D P slotId n s calls).connectionMap.get? i = s.connectionMap.get? i
      | some call => ∃ c, (trackCalls D P slotId n s calls).connectionMap.get? i = some c ∧
          Marked i (listedReport D P slotId n call) (ownOf D s.connectionMap i) c := by
  induction calls with
  | nil => intro s _ i; rfl
  | cons call calls ih =>
    intro s hs i
    have hstep := keyed_trackCall D P slotId hs (n := n) call
    have hrest := ih hstep i
    rw [lastCall_cons]
    cases hlast : lastCall D calls i with
    | some last =>
      rw [hlast] at hrest
      obtain ⟨c, hc, hmarked⟩ := hrest
      refine ⟨c, hc, hmarked.index, hmarked.flag, hmarked.callReportInfo, ?_⟩
      rw [hmarked.own]
      by_cases hi : i = D.index call
      · obtain ⟨c', hc', hmarked'⟩ := get?_trackCall_self D P slotId hs (n := n) call
        rw [hi]
        simp [ownOf, hc', hmarked'.own]
      · simp [ownOf, get?_trackCall_of_ne D P slotId hs hi]
    | none =>
      rw [hlast] at hrest
      have hrest' : (trackCalls D P slotId n s (call :: calls)).connectionMap.get? i =
          (trackCall D P slotId n s call).connectionMap.get? i := hrest
      by_cases hi : D.index call = i
      · simp only [hi, if_true, Option.none_or]
        rw [hrest', ← hi]
        exact get?_trackCall_self D P slotId hs call
      · simp only [hi, if_false, Option.none_or]
        rw [hrest', get?_trackCall_of_ne D P slotId hs (Ne.symm hi)]

theorem isPostDial_trackCalls {n : Nat} {s : Tracking δ} (calls : List κ)
    (hs : ∀ o ∈ s.outputs, o.isPostDial = true) :
    ∀ o ∈ (trackCalls D P slotId n s calls).outputs, o.isPostDial = true := by
  induction calls generalizing s with
  | nil => exact hs
  | cons call calls ih => exact ih (isPostDial_trackCall D P slotId call hs)

/-! ## What a list does to a settled table -/

theorem isListed_iff {calls : List κ} {i : Int} :
    isListed D calls i = true ↔ i ∈ calls.map D.index := by
  simp [isListed]

/-- The call the table describes under an index: its last report, and the own
members of its connection. -/
def view (m : ConnectionMap δ) (i : Int) : Option (CallReportInfo × δ) :=
  (m.get? i).map (fun c => (c.callReportInfo, c.own))

theorem view_eq_none_iff {m : ConnectionMap δ} {i : Int} : view m i = none ↔ i ∉ m.keys := by
  rw [view, Option.map_eq_none_iff, OrdMap.get?_eq_none_iff]

/-- The connections a list does not mention. -/
def unlisted (calls : List κ) (m : ConnectionMap δ) : ConnectionMap δ :=
  m.filter (fun c => !isListed D calls c.index)

/-- The unlisted connections by their keys. -/
theorem keys_unlisted {m : ConnectionMap δ} (hm : Keyed m) (calls : List κ) :
    (unlisted D calls m).keys = m.keys.filter fun i => decide (i ∉ calls.map D.index) := by
  refine OrdMap.keys_filter fun k c hc => ?_
  rw [hm k c hc]
  by_cases hmem : k ∈ calls.map D.index
  · simp [(isListed_iff D).mpr hmem, hmem]
  · have hlisted : isListed D calls k = false := by
      rw [← Bool.not_eq_true, isListed_iff]
      exact hmem
    simp [hlisted, hmem]

/-- Before the sweep, the unmarked connections are those the list does not
mention. -/
private theorem filter_unmarked {n : Nat} {s : Tracking δ} (hs : Settled s.connectionMap)
    (calls : List κ) :
    (trackCalls D P slotId n s calls).connectionMap.filter (fun c => !c.flag) =
      unlisted D calls s.connectionMap := by
  refine OrdMap.ext_get? fun i => ?_
  rw [unlisted, OrdMap.get?_filter, OrdMap.get?_filter]
  have hget := get?_trackCalls D P slotId calls hs.keyed (n := n) i
  cases hlast : lastCall D calls i with
  | some call =>
    rw [hlast] at hget
    obtain ⟨c, hc, hmarked⟩ := hget
    obtain ⟨hmem, hindex⟩ := lastCall_spec D hlast
    rw [hc, Option.filter_some, hmarked.flag]
    cases hold : s.connectionMap.get? i with
    | none => rfl
    | some old =>
      have hlisted : isListed D calls old.index = true := by
        rw [isListed_iff, hs.keyed i old hold]
        exact List.mem_map.mpr ⟨call, hmem, hindex⟩
      simp [Option.filter_some, hlisted]
  | none =>
    rw [hlast] at hget
    have hget' : (trackCalls D P slotId n s calls).connectionMap.get? i =
        s.connectionMap.get? i := hget
    rw [hget']
    cases hold : s.connectionMap.get? i with
    | none => rfl
    | some old =>
      have hlisted : isListed D calls old.index = false := by
        rw [← Bool.not_eq_true, isListed_iff, hs.keyed i old hold]
        exact (lastCall_eq_none_iff D).mp hlast
      simp [Option.filter_some, hlisted, hs.unmarked i old hold]

/-- The ended calls are the connections the list does not mention, in the order
of their indices. -/
theorem callVec_updateInfo {t : CallTable δ} (ht : Settled t.connectionMap) (L : CallList κ) :
    (updateInfo D P slotId t L).2.1 =
      ⟨slotId, L.calls.map (listedReport D P slotId L.calls.length) ++
        (unlisted D L.calls t.connectionMap).values.map (endedReport D)⟩ := by
  simp only [updateInfo, deleteConnection]
  rw [filter_unmarked D P slotId ht L.calls]

/-- After the sweep, exactly the listed indices are tracked, each with the
report of the last call that carries it. -/
theorem get?_updateInfo {t : CallTable δ} (ht : Settled t.connectionMap) (L : CallList κ)
    (i : Int) :
    match lastCall D L.calls i with
    | none => (updateInfo D P slotId t L).1.connectionMap.get? i = none
    | some call => ∃ c, (updateInfo D P slotId t L).1.connectionMap.get? i = some c ∧
        c.index = i ∧ c.flag = false ∧
        c.callReportInfo = listedReport D P slotId L.calls.length call ∧
        c.own = ownOf D t.connectionMap i := by
  have hget := get?_trackCalls D P slotId L.calls (n := L.calls.length)
    (s := ⟨t.connectionMap, t.pendingPhoneNumber, []⟩) ht.keyed i
  simp only [updateInfo, deleteConnection, OrdMap.get?_mapValues, OrdMap.get?_filter]
  cases hlast : lastCall D L.calls i with
  | none =>
    rw [hlast] at hget
    simp only at hget ⊢
    rw [hget]
    cases hold : t.connectionMap.get? i with
    | none => rfl
    | some old => simp [Option.filter_some, ht.unmarked i old hold]
  | some call =>
    rw [hlast] at hget
    obtain ⟨c, hc, hmarked⟩ := hget
    refine ⟨c.setFlag false, ?_, hmarked.index, rfl, hmarked.callReportInfo, hmarked.own⟩
    rw [hc, Option.filter_some, hmarked.flag]
    rfl

/-- A connection that is left after an update is that of a listed call. -/
theorem of_get?_updateInfo {t : CallTable δ} (ht : Settled t.connectionMap) {L : CallList κ}
    {i : Int} {c : Connection δ}
    (hc : (updateInfo D P slotId t L).1.connectionMap.get? i = some c) :
    ∃ call ∈ L.calls, D.index call = i ∧ c.index = i ∧ c.flag = false ∧
      c.callReportInfo = listedReport D P slotId L.calls.length call ∧
      c.own = ownOf D t.connectionMap i := by
  have hget := get?_updateInfo D P slotId ht L i
  cases hlast : lastCall D L.calls i with
  | none =>
    rw [hlast] at hget
    simp only at hget
    rw [hget] at hc
    cases hc
  | some call =>
    rw [hlast] at hget
    obtain ⟨c', hc', hconnection⟩ := hget
    obtain ⟨hmem, hindex⟩ := lastCall_spec D hlast
    rw [hc', Option.some.injEq] at hc
    exact ⟨call, hmem, hindex, hc ▸ hconnection⟩

theorem view_updateInfo {t : CallTable δ} (ht : Settled t.connectionMap) (L : CallList κ)
    (i : Int) :
    view (updateInfo D P slotId t L).1.connectionMap i =
      (lastCall D L.calls i).map fun call =>
        (listedReport D P slotId L.calls.length call, ownOf D t.connectionMap i) := by
  have hget := get?_updateInfo D P slotId ht L i
  rw [view]
  cases hlast : lastCall D L.calls i with
  | none =>
    rw [hlast] at hget
    simp only at hget
    rw [hget]
    rfl
  | some call =>
    rw [hlast] at hget
    obtain ⟨c, hc, -, -, hreport, hown⟩ := hget
    rw [hc]
    simp [hreport, hown]

theorem settled_updateInfo {t : CallTable δ} (ht : Settled t.connectionMap) (L : CallList κ) :
    Settled (updateInfo D P slotId t L).1.connectionMap where
  keyed := by
    intro i c hc
    obtain ⟨call, -, -, hindex, -⟩ := of_get?_updateInfo D P slotId ht hc
    exact hindex
  unmarked := by
    intro i c hc
    obtain ⟨call, -, -, -, hflag, -⟩ := of_get?_updateInfo D P slotId ht hc
    exact hflag

theorem mem_keys_updateInfo {t : CallTable δ} (ht : Settled t.connectionMap) (L : CallList κ)
    (i : Int) :
    i ∈ (updateInfo D P slotId t L).1.connectionMap.keys ↔ i ∈ L.calls.map D.index := by
  have hview := view_updateInfo D P slotId ht L i
  constructor
  · intro hmem
    by_contra hnot
    rw [(lastCall_eq_none_iff D).mpr hnot] at hview
    exact view_eq_none_iff.mp hview hmem
  · intro hmem
    by_contra hnot
    rw [view_eq_none_iff.mpr hnot] at hview
    exact (lastCall_eq_none_iff D).mp (Option.map_eq_none_iff.mp hview.symm) hmem

theorem isPostDial_updateInfo (t : CallTable δ) (L : CallList κ) :
    ∀ o ∈ (updateInfo D P slotId t L).2.2, o.isPostDial = true :=
  isPostDial_trackCalls D P slotId L.calls (by simp)

/-! ### The first list -/

/-- The loop of `ReportIncomingInfo`: of the calls with one index the first is
kept, unless the index was tracked already. -/
theorem get?_trackIncoming (calls : List κ) :
    ∀ (m : ConnectionMap δ) (i : Int),
      (calls.foldl (trackIncoming D P slotId) m).get? i =
        (m.get? i).or ((firstCall D calls i).map fun call =>
          { Connection.fresh D.fresh with
            index := i
            callReportInfo := D.encapsulationCallReportInfo P slotId call
            number := D.number call }) := by
  induction calls with
  | nil => intro m i; simp [firstCall]
  | cons call calls ih =>
    intro m i
    rw [List.foldl_cons, ih]
    simp only [trackIncoming, OrdMap.get?_insertNew]
    by_cases hi : D.index call = i
    · cases hget : m.get? i with
      | some c => simp [hi, hget]
      | none =>
        simp [hi, hget, firstCall, Connection.setIndex, Connection.setNumber,
          Connection.setOrUpdateCallReportInfo, Connection.setStatus]
    · simp [firstCall, hi, Ne.symm hi]

variable (registered : Bool)

theorem get?_reportIncomingInfo {t : CallTable δ} (ht : t.connectionMap.isEmpty = true)
    (L : CallList κ) (i : Int) :
    (reportIncomingInfo D P registered slotId t L).1.connectionMap.get? i =
      (firstCall D L.calls i).map fun call =>
        { Connection.fresh D.fresh with
          index := i
          callReportInfo := D.encapsulationCallReportInfo P slotId call
          number := D.number call } := by
  have hnone : t.connectionMap.get? i = none := OrdMap.isEmpty_iff_get?.mp ht i
  have hmap : (reportIncomingInfo D P registered slotId t L).1.connectionMap =
      L.calls.foldl (trackIncoming D P slotId) t.connectionMap := by
    unfold reportIncomingInfo
    dsimp only
    split <;> rfl
  rw [hmap, get?_trackIncoming, hnone, Option.none_or]

theorem view_reportIncomingInfo {t : CallTable δ} (ht : t.connectionMap.isEmpty = true)
    (L : CallList κ) (i : Int) :
    view (reportIncomingInfo D P registered slotId t L).1.connectionMap i =
      (firstCall D L.calls i).map fun call =>
        (D.encapsulationCallReportInfo P slotId call, D.fresh) := by
  rw [view, get?_reportIncomingInfo D P slotId registered ht]
  cases firstCall D L.calls i <;> rfl

theorem settled_reportIncomingInfo {t : CallTable δ} (ht : t.connectionMap.isEmpty = true)
    (L : CallList κ) : Settled (reportIncomingInfo D P registered slotId t L).1.connectionMap := by
  constructor
  all_goals
    intro i c hc
    rw [get?_reportIncomingInfo D P slotId registered ht] at hc
    obtain ⟨call, -, rfl⟩ := Option.map_eq_some_iff.mp hc
    rfl

theorem mem_keys_reportIncomingInfo {t : CallTable δ} (ht : t.connectionMap.isEmpty = true)
    (L : CallList κ) (i : Int) :
    i ∈ (reportIncomingInfo D P registered slotId t L).1.connectionMap.keys ↔
      i ∈ L.calls.map D.index := by
  have hview := view_reportIncomingInfo D P slotId registered ht L i
  constructor
  · intro hmem
    by_contra hnot
    rw [(firstCall_eq_none_iff D).mpr hnot] at hview
    exact view_eq_none_iff.mp hview hmem
  · intro hmem
    by_contra hnot
    rw [view_eq_none_iff.mpr hnot] at hview
    exact (firstCall_eq_none_iff D).mp (Option.map_eq_none_iff.mp hview.symm) hmem

/-! ### The three ways to process a list -/

/-- `ReportUpdateInfo` leaves the connections `updateInfo` computes. -/
@[simp] theorem connectionMap_reportUpdateInfo (t : CallTable δ) (L : CallList κ) :
    (reportUpdateInfo D P slotId t L).1.connectionMap =
      (updateInfo D P slotId t L).1.connectionMap := by
  unfold reportUpdateInfo
  dsimp only
  split <;> rfl

/-- `ReportHangUpInfo` empties the table. -/
@[simp] theorem connectionMap_reportHangUpInfo (silent : Bool) (t : CallTable δ) :
    (reportHangUpInfo D P slotId silent t).1.connectionMap = ∅ := by
  unfold reportHangUpInfo
  split <;> rfl

/-- After a hang-up no incoming call is ignored. -/
theorem isIgnored_reportHangUpInfo (silent : Bool) (t : CallTable δ) :
    (reportHangUpInfo D P slotId silent t).1.isIgnoredIncomingCall = false := by
  unfold reportHangUpInfo
  split
  · rfl
  · rename_i hloud
    exact (Bool.or_eq_false_iff.mp (Bool.eq_false_iff.mpr hloud)).1

/-- The ways `reportCallsData` can go: it asks for a reason and does nothing
else, or it processes the list in one of three ways. -/
inductive ListStep (silent : Bool) (t : CallTable δ) (L : CallList κ) (ask : Bool) :
    CallTable δ × List Output → Prop
  | asked : ask = true → (L.callSize ≤ 0 ∨ t.connectionMap.isEmpty = false) →
      ListStep silent t L ask (t, [.getCallFailReason D.callType])
  | hungUp : ask = false → L.callSize ≤ 0 →
      ListStep silent t L ask (reportHangUpInfo D P slotId silent t)
  | incoming : 0 < L.callSize → t.connectionMap.isEmpty = true →
      ListStep silent t L ask (reportIncomingInfo D P registered slotId t L)
  | updated : ask = false → 0 < L.callSize → t.connectionMap.isEmpty = false →
      ListStep silent t L ask (reportUpdateInfo D P slotId t L)

theorem listStep (silent : Bool) (t : CallTable δ) (L : CallList κ) (ask : Bool) :
    ListStep D P slotId registered silent t L ask
      (reportCallsData D P registered slotId silent t L ask) := by
  unfold reportCallsData
  by_cases hsize : L.callSize ≤ 0
  · rw [if_pos hsize]
    cases hask : ask
    · exact .hungUp rfl hsize
    · exact .asked rfl (Or.inl hsize)
  · rw [if_neg hsize]
    have hpos : 0 < L.callSize := by omega
    cases hempty : t.connectionMap.isEmpty
    · cases hask : ask
      · exact .updated rfl hpos hempty
      · exact .asked rfl (Or.inr hempty)
    · exact .incoming hpos hempty

/-- A list of calls, processed or not, leaves calls in the table. -/
theorem isEmpty_reportCallsData {t : CallTable δ} (hsettled : Settled t.connectionMap)
    {L : CallList κ} (silent ask : Bool) (hsize : 0 < L.callSize) (hcalls : L.calls ≠ []) :
    (reportCallsData D P registered slotId silent t L ask).1.connectionMap.isEmpty = false := by
  obtain ⟨call, hcall⟩ := List.exists_mem_of_ne_nil _ hcalls
  have hlisted : D.index call ∈ L.calls.map D.index := List.mem_map_of_mem hcall
  have hstep := listStep D P slotId registered silent t L ask
  generalize reportCallsData D P registered slotId silent t L ask = result at hstep
  cases hstep with
  | asked _ hcase =>
    rcases hcase with hle | hempty
    · omega
    · exact hempty
  | hungUp _ hle => omega
  | incoming _ hempty =>
    have hmem := (mem_keys_reportIncomingInfo D P slotId registered hempty L _).mpr hlisted
    rw [← Bool.not_eq_true, OrdMap.isEmpty_iff]
    exact List.ne_nil_of_mem hmem
  | updated =>
    have hmem := (mem_keys_updateInfo D P slotId hsettled L _).mpr hlisted
    rw [← Bool.not_eq_true, connectionMap_reportUpdateInfo, OrdMap.isEmpty_iff]
    exact List.ne_nil_of_mem hmem

/-- A table made from a list: every connection is that of a listed call, with
the members it had, and a list of calls leaves all it lists. -/
structure Relisted (before : ConnectionMap δ) (L : CallList κ) (after : ConnectionMap δ) :
    Prop where
  listed : ∀ k c, after.get? k = some c → 0 < L.callSize ∧ ∃ call ∈ L.calls, D.index call = k ∧
    (c.callReportInfo = D.encapsulationCallReportInfo P slotId call ∨
      c.callReportInfo = listedReport D P slotId L.calls.length call) ∧
    c.own = ownOf D before k
  kept : 0 < L.callSize → ∀ k ∈ L.calls.map D.index, k ∈ after.keys

/-- A list that is processed makes the table anew. -/
theorem relisted_reportCallsData {t : CallTable δ} (ht : Settled t.connectionMap)
    (silent : Bool) (L : CallList κ) :
    Relisted D P slotId t.connectionMap L
      (reportCallsData D P registered slotId silent t L false).1.connectionMap := by
  have hstep := listStep D P slotId registered silent t L false
  generalize reportCallsData D P registered slotId silent t L false = result at hstep
  cases hstep with
  | asked hask => cases hask
  | hungUp _ hle =>
    rw [connectionMap_reportHangUpInfo]
    refine ⟨fun k c hc => ?_, fun hsize => ?_⟩
    · rw [OrdMap.get?_empty] at hc
      cases hc
    · omega
  | incoming hsize hempty =>
    refine ⟨fun k c hc => ⟨hsize, ?_⟩, fun _ k hk => ?_⟩
    · rw [get?_reportIncomingInfo D P slotId registered hempty] at hc
      obtain ⟨call, hcall, rfl⟩ := Option.map_eq_some_iff.mp hc
      obtain ⟨hmem, hindex⟩ := firstCall_spec D hcall
      refine ⟨call, hmem, hindex, Or.inl rfl, ?_⟩
      simp [ownOf, OrdMap.isEmpty_iff_get?.mp hempty k, Connection.fresh]
    · exact (mem_keys_reportIncomingInfo D P slotId registered hempty L k).mpr hk
  | updated _ hsize _ =>
    rw [connectionMap_reportUpdateInfo]
    refine ⟨fun k c hc => ⟨hsize, ?_⟩, fun _ k hk => ?_⟩
    · obtain ⟨call, hmem, hindex, -, -, hreport, hown⟩ := of_get?_updateInfo D P slotId ht hc
      exact ⟨call, hmem, hindex, Or.inr hreport, hown⟩
    · exact (mem_keys_updateInfo D P slotId ht L k).mpr hk

/-- A list that is asked about leaves the calls of a table alone, and makes the
first ones of an empty table. -/
theorem reportCallsData_of_ask {t : CallTable δ} (silent : Bool) (L : CallList κ)
    (hempty : t.connectionMap.isEmpty = false) :
    (reportCallsData D P registered slotId silent t L true).1 = t := by
  unfold reportCallsData
  split
  · rfl
  · rw [if_neg (by simp [hempty])]
    rfl

/-! ### What is reported -/

/-- The report of the first list, dropped when an incoming call is ignored. -/
theorem reports_reportIncomingInfo (t : CallTable δ) (L : CallList κ) :
    Output.reports (reportIncomingInfo D P registered slotId t L).2 =
      if ignoresIncoming D P registered slotId L then []
      else [(D.callType, ⟨slotId, L.calls.map (D.encapsulationCallReportInfo P slotId)⟩)] := by
  unfold reportIncomingInfo
  dsimp only
  split <;> rfl

/-- The report of an update, dropped while an incoming call is ignored. -/
theorem reports_reportUpdateInfo (t : CallTable δ) (L : CallList κ) :
    Output.reports (reportUpdateInfo D P slotId t L).2 =
      if t.isIgnoredIncomingCall then []
      else [(D.callType, (updateInfo D P slotId t L).2.1)] := by
  have hpost := Output.reports_of_isPostDial (isPostDial_updateInfo D P slotId t L)
  unfold reportUpdateInfo
  have hflag : (updateInfo D P slotId t L).1.isIgnoredIncomingCall = t.isIgnoredIncomingCall := rfl
  dsimp only
  rw [hflag]
  split
  · exact hpost
  · rw [Output.reports_append, hpost]
    rfl

/-- The report of a hang-up, dropped when an incoming call is ignored and where
`silent` says so. -/
theorem reports_reportHangUpInfo (silent : Bool) (t : CallTable δ) :
    Output.reports (reportHangUpInfo D P slotId silent t).2 =
      if t.isIgnoredIncomingCall || silent then []
      else [(D.callType, hangUpInfo D P slotId t.connectionMap)] := by
  unfold reportHangUpInfo
  split <;> rfl

/-- A control reports under its own type only. -/
theorem sender_reportCallsData (silent : Bool) (t : CallTable δ) (L : CallList κ) (ask : Bool) :
    ∀ r ∈ Output.reports (reportCallsData D P registered slotId silent t L ask).2,
      r.1 = D.callType := by
  have hstep := listStep D P slotId registered silent t L ask
  generalize reportCallsData D P registered slotId silent t L ask = result at hstep
  cases hstep with
  | asked => simp
  | hungUp =>
    rw [reports_reportHangUpInfo]
    split <;> simp
  | incoming =>
    rw [reports_reportIncomingInfo]
    split <;> simp
  | updated =>
    rw [reports_reportUpdateInfo]
    split <;> simp

/-! ### Setting reasons -/

variable (R : ReasonDomain κ δ)

variable {R} in
/-- An empty table has no ended calls. -/
theorem isEmpty_of_hasEndCallWithoutReason {L : CallList κ}
    (hend : hasEndCallWithoutReason R m L = true) : m.isEmpty = false := by
  by_contra hempty
  rw [Bool.not_eq_false, OrdMap.isEmpty_iff_get?] at hempty
  obtain ⟨k, c, hc, -⟩ := OrdMap.any_eq_true_iff.mp hend
  rw [hempty k] at hc
  cases hc

/-- Setting reasons neither tracks nor drops a call. -/
@[simp] theorem keys_updateDisconnectedReason (m : ConnectionMap δ) (L : CallList κ)
    (reason : RilDisconnectedReason) (message : Str) :
    (updateDisconnectedReason R m L reason message).keys = m.keys := OrdMap.keys_mapValues m _

theorem holds_updateDisconnectedReason (hJ : Steady J) (hm : Holds J m) (L : CallList κ)
    (reason : RilDisconnectedReason) (message : Str) :
    Holds J (updateDisconnectedReason R m L reason message) := by
  refine hm.mapValues hJ fun c => ?_
  split
  · exact ⟨rfl, rfl, rfl, rfl, rfl⟩
  · exact SameIdentity.refl c

theorem holds_updateCallDisconnectReason (hJ : Steady J) (hm : Holds J m) (callId : Int)
    (reason : RilDisconnectedReason) (message : Str) :
    Holds J (updateCallDisconnectReason R m callId reason message) :=
  hm.modifyFirst hJ _ fun _ => ⟨rfl, rfl, rfl, rfl, rfl⟩

/-! ### What a list makes of every connection -/

/-- What a property of connections has to meet to survive: requests do not
change it, and a listed call that is `ok` brings it about. -/
structure CallRule (ok : κ → Prop) (J : Int → Connection δ → Prop) : Prop where
  steady : Steady J
  listed : ∀ call, ok call → ∀ c : Connection δ, c.index = D.index call →
    (c.callReportInfo = D.encapsulationCallReportInfo P slotId call ∨
      ∃ size, c.callReportInfo = listedReport D P slotId size call) → J (D.index call) c

/-- With nothing to keep, every call is fine. -/
theorem CallRule.trivial : CallRule D P slotId (fun _ => True) (fun _ _ => True) :=
  ⟨Steady.trivial, fun _ _ _ _ _ => True.intro⟩

variable {D P slotId} {ok : κ → Prop} (hrule : CallRule D P slotId ok J)
include hrule

theorem CallRule.holds_reportIncomingInfo {t : CallTable δ}
    (ht : t.connectionMap.isEmpty = true) {L : CallList κ} (hL : ∀ call ∈ L.calls, ok call) :
    Holds J (reportIncomingInfo D P registered slotId t L).1.connectionMap where
  toSettled := settled_reportIncomingInfo D P slotId registered ht L
  each := by
    intro k c hc
    rw [get?_reportIncomingInfo D P slotId registered ht] at hc
    obtain ⟨call, hcall, rfl⟩ := Option.map_eq_some_iff.mp hc
    obtain ⟨hmem, rfl⟩ := firstCall_spec D hcall
    exact hrule.listed call (hL call hmem) _ rfl (Or.inl rfl)

theorem CallRule.holds_updateInfo {t : CallTable δ} (ht : Settled t.connectionMap)
    {L : CallList κ} (hL : ∀ call ∈ L.calls, ok call) :
    Holds J (updateInfo D P slotId t L).1.connectionMap where
  toSettled := settled_updateInfo D P slotId ht L
  each := by
    intro k c hc
    obtain ⟨call, hmem, rfl, hindex, -, hreport, -⟩ := of_get?_updateInfo D P slotId ht hc
    exact hrule.listed call (hL call hmem) _ hindex (Or.inr ⟨_, hreport⟩)

theorem CallRule.holds_reportUpdateInfo {t : CallTable δ} (ht : Settled t.connectionMap)
    {L : CallList κ} (hL : ∀ call ∈ L.calls, ok call) :
    Holds J (reportUpdateInfo D P slotId t L).1.connectionMap := by
  rw [connectionMap_reportUpdateInfo]
  exact hrule.holds_updateInfo ht hL

theorem CallRule.holds_reportCallsData {silent : Bool} {t : CallTable δ}
    (ht : Holds J t.connectionMap) {L : CallList κ} (hL : ∀ call ∈ L.calls, ok call)
    (ask : Bool) :
    Holds J (reportCallsData D P registered slotId silent t L ask).1.connectionMap := by
  have hstep := listStep D P slotId registered silent t L ask
  generalize reportCallsData D P registered slotId silent t L ask = result at hstep
  cases hstep with
  | asked => exact ht
  | hungUp =>
    rw [connectionMap_reportHangUpInfo]
    exact .empty
  | incoming _ hempty => exact hrule.holds_reportIncomingInfo registered hempty hL
  | updated => exact hrule.holds_reportUpdateInfo ht.toSettled hL

end CallTable

end CellularCall
