import CellularCall.Control.Satellite
import CellularCall.Lib.Asking
import CellularCall.UserEnds

/-!
# Answering beside a held call

An answer may have to make room first: with a call on hold beside the active one,
`CSControl` and `IMSControl` hang up what is on hold, and the active call is put on
hold or, in the satellite domain, hung up.  All this comes before the look at the
call that is answered.

`CallRequest` is a request with all it carries, and `Replies` is what becomes of it.
`answersFairly_iff` says when an answer asks for what it should.
-/

namespace CellularCall

open Lib CallTable

/-- A request of an answer. -/
inductive CallRequest where
  | hangUp (slotId index : Int)
  | imsHangUp (slotId : Int) (phoneNum : Str) (index : Int)
  | switchCall (slotId : Int)
  | imsSwitchCall (slotId videoState : Int)
  | answer (slotId : Int)
  | imsAnswer (slotId : Int) (phoneNum : Str) (videoState index : Int) (isRTT : Bool)
deriving DecidableEq, Repr

/-- What a request returns, after the requests made before it. -/
abbrev Replies := List CallRequest → CallRequest → RetCode

/-- The connections on hold, in the order of the loop of
`CheckAndHangupHoldingCall`. -/
def CallTable.heldCalls {δ : Type} (m : ConnectionMap δ) : List (Connection δ) :=
  m.values.filter fun c => c.getStatus == .holding

/-- The first step of `Answer`: with a call on hold beside the active one, the
requests of `hangUps` are made. -/
def CallTable.makeRoomVia {δ : Type} (replies : Replies) (m : ConnectionMap δ)
    (hangUps : List CallRequest) : RetCode × List CallRequest :=
  if isInState m .holding && isInState m .active then askAll replies .success [] hangUps
  else (.success, [])

/-! ## The operations -/

namespace CSControl

/-- The request `CheckAndHangupHoldingCall` makes for a connection. -/
def heldHangUp (c : CellularCallConnectionCS) : CallRequest :=
  .hangUp c.callReportInfo.accountId c.index

/-- What `CheckAndHangupHoldingCall` asks for. -/
def heldHangUps (m : ConnectionMap CsPart) : List CallRequest := (heldCalls m).map heldHangUp

/-- `Answer`, with its requests.  What `SwitchCallRequest` returns is not looked
at. -/
def answerVia (replies : Replies) (t : CSControl) (callInfo : CellularCallInfo) :
    RetCode × CSControl × List CallRequest :=
  match findConnectionByIndex t.connectionMap callInfo.index with
  | none => (.callConnectionNotExist, t, [])
  | some (_, connection) =>
    let (ret, asked) := makeRoomVia replies t.connectionMap (heldHangUps t.connectionMap)
    if ret ≠ .success then (ret, t, asked)
    else
      let asked :=
        if (findConnectionByState t.connectionMap .active).isSome then
          asked ++ [.switchCall callInfo.slotId]
        else asked
      if connection.isRingingState then
        (replies asked (.answer callInfo.slotId), t, asked ++ [.answer callInfo.slotId])
      else (.callState, t, asked)

end CSControl

namespace IMSControl

open CellularCallConnectionIMS

/-- The request `CheckAndHangupHoldingCall` makes for a connection. -/
def heldHangUp (c : CellularCallConnectionIMS) : CallRequest :=
  .imsHangUp c.callReportInfo.accountId c.callReportInfo.accountNum c.callReportInfo.index

/-- What `CheckAndHangupHoldingCall` asks for. -/
def heldHangUps (m : ConnectionMap ImsPart) : List CallRequest := (heldCalls m).map heldHangUp

/-- `Answer`, with its requests. -/
def answerVia (replies : Replies) (t : IMSControl) (callInfo : CellularCallInfo) :
    RetCode × IMSControl × List CallRequest :=
  match findConnectionByIndex t.connectionMap callInfo.index with
  | none => (.callConnectionNotExist, t, [])
  | some (_, connection) =>
    let (ret, asked) := makeRoomVia replies t.connectionMap (heldHangUps t.connectionMap)
    if ret ≠ .success then (ret, t, asked)
    else
      match answerTarget t.connectionMap connection with
      | some (key, _) =>
        let request := .imsSwitchCall callInfo.slotId callInfo.videoState
        let ret := replies asked request
        let m :=
          if ret = .success then
            t.connectionMap.modify key (fun c => c.updatePendingHoldFlag true)
          else t.connectionMap
        (ret, { t with connectionMap := m }, asked ++ [request])
      | none =>
        if connection.isRingingState then
          let request := .imsAnswer callInfo.slotId (cStr callInfo.phoneNum) callInfo.videoState
            callInfo.index callInfo.isRTT
          (replies asked request, t, asked ++ [request])
        else (.callState, t, asked)

end IMSControl

/-- `SatelliteControl::Answer`, with its requests: the active call is hung up for the
one that is answered, and what that returns is not looked at. -/
def SatelliteControl.answer (replies : Replies) (t : SatelliteControl)
    (callInfo : CellularCallInfo) : RetCode × SatelliteControl × List CallRequest :=
  match findConnectionByIndex t.connectionMap callInfo.index with
  | none => (.callConnectionNotExist, t, [])
  | some (_, connection) =>
    let asked : List CallRequest :=
      match findConnectionByState t.connectionMap .active with
      | some (_, con) => [.hangUp callInfo.slotId con.index]
      | none => []
    if connection.isRingingState then
      (replies asked (.answer callInfo.slotId), t, asked ++ [.answer callInfo.slotId])
    else (.callState, t, asked)

/-! ## The requests of the slot's machine -/

/-- What the requests through the handlers return. -/
def Modem.replies (modem : Modem) : Replies := fun _ request =>
  match request with
  | .hangUp slotId index => (modem.request slotId (.hangUpRequest index)).1
  | .switchCall slotId => (modem.request slotId .switchCall).1
  | .answer slotId => (modem.request slotId .answerRequest).1
  | _ => .error

/-- What a CS request sends. -/
def CallRequest.csOutput : CallRequest → Option Output
  | .hangUp _ index => some (.hangUpRequest index)
  | .switchCall _ => some .switchCall
  | .answer _ => some .answerRequest
  | _ => none

/-- What the IMS service makes of a request. -/
def ImsService.takes (service : ImsService) : CallRequest → RetCode × List Output
  | .imsHangUp _ phoneNum index => IMSControl.hangUpRequest service phoneNum index
  | .imsSwitchCall _ videoState =>
    if service.needCallImsService then
      (service.switchCall, [.imsSwitchCall videoState service.switchCall])
    else (.error, [])
  | .imsAnswer _ phoneNum videoState index isRTT =>
    IMSControl.answerRequest service phoneNum videoState index isRTT
  | _ => (.error, [])

def ImsService.replies (service : ImsService) : Replies := fun _ request =>
  (service.takes request).1

/-- What the requests send. -/
def ImsService.sends (service : ImsService) (requests : List CallRequest) : List Output :=
  requests.flatMap fun request => (service.takes request).2

theorem ImsService.sends_append_singleton (service : ImsService) (requests : List CallRequest)
    (request : CallRequest) :
    service.sends (requests ++ [request]) =
      service.sends requests ++ (service.takes request).2 := by
  rw [sends, List.flatMap_append, List.flatMap_singleton]
  rfl

/-- Requests through the handlers of their slots are accepted. -/
theorem CSControl.accepted_heldHangUp {modem : Modem} (h : ∀ slotId, modem.hasHandler slotId = true)
    (before : List CallRequest) (cs : List CellularCallConnectionCS) :
    Accepted modem.replies .success before (cs.map heldHangUp) := by
  induction cs generalizing before with
  | nil => trivial
  | cons c cs ih =>
    refine ⟨?_, ih _⟩
    rw [heldHangUp, Modem.replies, Modem.request_of_handler (h _)]

/-- Where every slot has a handler, this is `CSControl.answer`. -/
theorem CSControl.answer_eq_answerVia {modem : Modem}
    (h : ∀ slotId, modem.hasHandler slotId = true) (t : CSControl) (callInfo : CellularCallInfo) :
    answer t callInfo =
      ((answerVia modem.replies t callInfo).1, (answerVia modem.replies t callInfo).2.1,
        (answerVia modem.replies t callInfo).2.2.filterMap CallRequest.csOutput) := by
  have hasked : askAll modem.replies .success [] (heldHangUps t.connectionMap) =
      (.success, heldHangUps t.connectionMap) :=
    askAll_of_accepted (accepted_heldHangUp h [] (heldCalls t.connectionMap))
  have hsent : (heldHangUps t.connectionMap).filterMap CallRequest.csOutput =
      checkAndHangupHoldingCall t := by
    rw [heldHangUps, List.filterMap_map]
    exact congrFun (List.filterMap_eq_map (f := fun c : CellularCallConnectionCS =>
      Output.hangUpRequest c.index)) (heldCalls t.connectionMap)
  have hanswer : ∀ before, modem.replies before (.answer callInfo.slotId) = .success := by
    intro before
    rw [Modem.replies, Modem.request_of_handler (h _)]
  unfold answer answerVia
  cases findConnectionByIndex t.connectionMap callInfo.index with
  | none => rfl
  | some found =>
    obtain ⟨key, c⟩ := found
    dsimp only [makeRoomVia]
    rw [hasked]
    cases isInState t.connectionMap .holding && isInState t.connectionMap .active <;>
      cases (findConnectionByState t.connectionMap .active).isSome <;>
      cases c.isRingingState <;> simp [hanswer, hsent, CallRequest.csOutput]

/-- The loop over the calls on hold, with its requests and with what they send. -/
theorem IMSControl.askAll_heldHangUp (service : ImsService) (before : List CallRequest)
    (cs : List CellularCallConnectionIMS) :
    (askAll service.replies .success before (cs.map heldHangUp)).1 = (hangUpEach service cs).1 ∧
      service.sends (askAll service.replies .success before (cs.map heldHangUp)).2 =
        service.sends before ++ (hangUpEach service cs).2 := by
  induction cs generalizing before with
  | nil => exact ⟨rfl, (List.append_nil _).symm⟩
  | cons c cs ih =>
    have hreply : service.replies before (heldHangUp c) = (hangUpRequest service
      c.callReportInfo.accountNum c.callReportInfo.index).1 := rfl
    have hsends : service.sends (before ++ [heldHangUp c]) = service.sends before ++
        (hangUpRequest service c.callReportInfo.accountNum c.callReportInfo.index).2 :=
      service.sends_append_singleton before (heldHangUp c)
    obtain ⟨hret, hrest⟩ := ih (before ++ [heldHangUp c])
    rw [List.map_cons, askAll, hangUpEach, hreply]
    dsimp only
    by_cases haccepted :
        (hangUpRequest service c.callReportInfo.accountNum c.callReportInfo.index).1 = .success
    · rw [if_pos haccepted, if_neg (not_not.mpr haccepted)]
      refine ⟨hret, ?_⟩
      rw [hrest, hsends, List.append_assoc]
    · rw [if_neg haccepted, if_pos haccepted]
      exact ⟨rfl, hsends⟩

/-- Making room, with its requests and with what they send. -/
theorem IMSControl.makeRoomVia_eq (service : ImsService) (m : ConnectionMap ImsPart) :
    (makeRoomVia service.replies m (heldHangUps m)).1 = (makeRoom service m).1 ∧
      service.sends (makeRoomVia service.replies m (heldHangUps m)).2 = (makeRoom service m).2 := by
  unfold makeRoomVia makeRoom
  split
  · exact askAll_heldHangUp service [] (heldCalls m)
  · exact ⟨rfl, rfl⟩

/-- With one IMS service, this is `IMSControl.answer`. -/
theorem IMSControl.answer_eq_answerVia (service : ImsService) (t : IMSControl)
    (callInfo : CellularCallInfo) :
    answer service t callInfo =
      ((answerVia service.replies t callInfo).1, (answerVia service.replies t callInfo).2.1,
        service.sends (answerVia service.replies t callInfo).2.2) := by
  obtain ⟨hret, hsent⟩ := makeRoomVia_eq service t.connectionMap
  unfold answer answerVia
  cases findConnectionByIndex t.connectionMap callInfo.index with
  | none => rfl
  | some found =>
    obtain ⟨key, c⟩ := found
    dsimp only
    rw [hret]
    by_cases hroom : (makeRoom service t.connectionMap).1 = .success
    · rw [if_neg (not_not.mpr hroom), if_neg (not_not.mpr hroom)]
      cases answerTarget t.connectionMap c with
      | some target =>
        dsimp only
        rw [ImsService.sends_append_singleton, hsent, ImsService.replies, ImsService.takes,
          switchCallRequest]
        cases service.needCallImsService <;> simp
      | none =>
        dsimp only
        split
        · rw [ImsService.sends_append_singleton, hsent]
          rfl
        · rw [hsent]
    · rw [if_pos hroom, if_pos hroom, hsent]

/-! ## What an answer should ask for -/

/-- Every call on hold is asked to be hung up.  Only if all these requests are
accepted, what `next` says follows; the first that is refused is the last request, and
its answer is returned. -/
structure MakesRoom (replies : Replies) (hangUps : List CallRequest)
    (next : List CallRequest → RetCode → Prop) (ret : RetCode) (asked : List CallRequest) :
    Prop where
  accepted : Accepted replies .success [] hangUps → ∃ rest, asked = hangUps ++ rest ∧ next rest ret
  refused : ¬Accepted replies .success [] hangUps →
    ∃ sent request, RefusedAt replies .success [] hangUps sent request ∧
      asked = sent ++ [request] ∧ ret = replies sent request

/-- An answer of a call that does not ring is refused, and asks for nothing. -/
def LeavesAlone {δ : Type} (m : ConnectionMap δ) (index : Int) (ret : RetCode)
    (asked : List CallRequest) : Prop :=
  ∀ key c, findConnectionByIndex m index = some (key, c) → c.isRingingState = false →
    ret = .callState ∧ asked = []

/-- An answer of a ringing call beside one on hold and an active one makes room first,
and goes on with `next`. -/
def RoomFor {δ : Type} (replies : Replies) (m : ConnectionMap δ) (index : Int)
    (hangUps : List CallRequest) (next : List CallRequest → RetCode → Prop) (ret : RetCode)
    (asked : List CallRequest) : Prop :=
  ∀ key c, findConnectionByIndex m index = some (key, c) → c.isRingingState = true →
    isInState m .holding = true → isInState m .active = true →
    MakesRoom replies hangUps next ret asked

/-- A CS answer: the active call is put on hold, and the call is answered. -/
structure CSControl.AnswersFairly (replies : Replies) (t : CSControl)
    (callInfo : CellularCallInfo) : Prop where
  room : RoomFor replies t.connectionMap callInfo.index (heldHangUps t.connectionMap)
    (fun rest ret => rest = [.switchCall callInfo.slotId, .answer callInfo.slotId] ∧
      ret = replies (heldHangUps t.connectionMap ++ [.switchCall callInfo.slotId])
        (.answer callInfo.slotId))
    (answerVia replies t callInfo).1 (answerVia replies t callInfo).2.2
  alone : LeavesAlone t.connectionMap callInfo.index (answerVia replies t callInfo).1
    (answerVia replies t callInfo).2.2

/-- An IMS answer: either the calls are switched, or the call is answered. -/
structure IMSControl.AnswersFairly (replies : Replies) (t : IMSControl)
    (callInfo : CellularCallInfo) : Prop where
  room : RoomFor replies t.connectionMap callInfo.index (heldHangUps t.connectionMap)
    (fun rest ret => ∃ request, rest = [request] ∧
      (request = .imsSwitchCall callInfo.slotId callInfo.videoState ∨
        request = .imsAnswer callInfo.slotId (cStr callInfo.phoneNum) callInfo.videoState
          callInfo.index callInfo.isRTT) ∧
      ret = replies (heldHangUps t.connectionMap) request)
    (answerVia replies t callInfo).1 (answerVia replies t callInfo).2.2
  alone : LeavesAlone t.connectionMap callInfo.index (answerVia replies t callInfo).1
    (answerVia replies t callInfo).2.2

/-- A satellite answer. -/
def SatelliteControl.AnswersFairly (replies : Replies) (t : SatelliteControl)
    (callInfo : CellularCallInfo) : Prop :=
  LeavesAlone t.connectionMap callInfo.index (answer replies t callInfo).1
    (answer replies t callInfo).2.2

/-- The call that is answered does not ring. -/
def NotRinging {δ : Type} (m : ConnectionMap δ) (index : Int) : Prop :=
  ∃ key c, findConnectionByIndex m index = some (key, c) ∧ c.isRingingState = false

/-! ## Making room -/

section
variable {δ : Type} {replies : Replies} {m : ConnectionMap δ} {hangUps : List CallRequest}

theorem makeRoomVia_of_both (hheld : isInState m .holding = true)
    (hactive : isInState m .active = true) :
    makeRoomVia replies m hangUps = askAll replies .success [] hangUps := by
  rw [makeRoomVia, hheld, hactive]
  rfl

theorem makeRoomVia_of_not (h : ¬(isInState m .holding = true ∧ isInState m .active = true)) :
    makeRoomVia replies m hangUps = (.success, []) := by
  rw [makeRoomVia, if_neg]
  rw [Bool.and_eq_true]
  exact h

/-- A refusal ends the answer, and it is what `MakesRoom` says it is. -/
theorem MakesRoom.of_askAll {next : List CallRequest → RetCode → Prop} {ret : RetCode}
    {asked : List CallRequest}
    (hrefused : (askAll replies .success [] hangUps).1 ≠ .success →
      ret = (askAll replies .success [] hangUps).1 ∧ asked = (askAll replies .success [] hangUps).2)
    (haccepted : askAll replies .success [] hangUps = (.success, hangUps) →
      ∃ rest, asked = hangUps ++ rest ∧ next rest ret) :
    MakesRoom replies hangUps next ret asked := by
  constructor
  · intro h
    exact haccepted (askAll_of_accepted h)
  · intro h
    obtain ⟨hret, hasked⟩ := hrefused fun hret => h (askAll_fst_eq_iff.mp hret)
    obtain ⟨sent, request, hat, hall⟩ := askAll_of_refused h
    rw [hall] at hret hasked
    exact ⟨sent, request, hat, hasked, hret⟩

/-- Some connection is in the state, so the loop has something to ask for. -/
theorem heldCalls_ne_nil (hheld : isInState m .holding = true) : heldCalls m ≠ [] := by
  obtain ⟨k, c, hget, hstate⟩ := OrdMap.any_eq_true_iff.mp hheld
  refine List.ne_nil_of_mem (a := c) (List.mem_filter.mpr ⟨OrdMap.mem_values_iff.mpr ⟨k, hget⟩, ?_⟩)
  rw [beq_iff_eq]
  exact of_decide_eq_true hstate

/-- A connection in a state is found. -/
theorem findConnectionByState_isSome {state : TelCallState} :
    (findConnectionByState m state).isSome = isInState m state := by
  rw [Bool.eq_iff_iff, Option.isSome_iff_exists]
  constructor
  · intro h
    obtain ⟨⟨k, c⟩, hfound⟩ := h
    obtain ⟨hget, hstate⟩ := OrdMap.get?_of_first?_eq_some hfound
    exact OrdMap.any_eq_true_iff.mpr ⟨k, c, hget, hstate⟩
  · intro h
    obtain ⟨k, c, hget, hstate⟩ := OrdMap.any_eq_true_iff.mp h
    exact OrdMap.first?_isSome_of_get? hget hstate

end

/-! ## The three domains -/

namespace CSControl

theorem room_answerVia (replies : Replies) (t : CSControl) (callInfo : CellularCallInfo) :
    RoomFor replies t.connectionMap callInfo.index (heldHangUps t.connectionMap)
      (fun rest ret => rest = [.switchCall callInfo.slotId, .answer callInfo.slotId] ∧
        ret = replies (heldHangUps t.connectionMap ++ [.switchCall callInfo.slotId])
          (.answer callInfo.slotId))
      (answerVia replies t callInfo).1 (answerVia replies t callInfo).2.2 := by
  intro key c hfind hringing hheld hactive
  have hsome : (findConnectionByState t.connectionMap .active).isSome = true := by
    rw [findConnectionByState_isSome, hactive]
  unfold answerVia
  rw [hfind]
  dsimp only
  rw [makeRoomVia_of_both hheld hactive]
  refine MakesRoom.of_askAll (fun hret => ?_) fun hall => ?_
  · rw [if_pos hret]
    exact ⟨rfl, rfl⟩
  · rw [hall, if_neg (not_not.mpr rfl), if_pos hsome, if_pos hringing]
    exact ⟨_, List.append_assoc .., rfl, rfl⟩

/-- A call that does not ring is left alone where no call is active. -/
theorem leavesAlone_answerVia_iff (replies : Replies) (t : CSControl)
    (callInfo : CellularCallInfo) :
    LeavesAlone t.connectionMap callInfo.index (answerVia replies t callInfo).1
        (answerVia replies t callInfo).2.2 ↔
      (NotRinging t.connectionMap callInfo.index → isInState t.connectionMap .active = false) := by
  constructor
  · intro halone hring
    obtain ⟨key, c, hfind, hsilent⟩ := hring
    obtain ⟨-, hasked⟩ := halone key c hfind hsilent
    by_contra hactive
    rw [Bool.not_eq_false] at hactive
    have hsome : (findConnectionByState t.connectionMap .active).isSome = true := by
      rw [findConnectionByState_isSome, hactive]
    unfold answerVia at hasked
    rw [hfind] at hasked
    dsimp only at hasked
    by_cases hret :
        (makeRoomVia replies t.connectionMap (heldHangUps t.connectionMap)).1 = .success
    · rw [if_neg (not_not.mpr hret), if_pos hsome, hsilent] at hasked
      exact List.append_ne_nil_of_right_ne_nil _ (List.cons_ne_nil _ _) hasked
    · rw [if_pos hret] at hasked
      by_cases hheld : isInState t.connectionMap .holding = true
      · rw [makeRoomVia_of_both hheld hactive] at hasked
        exact askAll_snd_ne_nil (fun h => heldCalls_ne_nil hheld (List.map_eq_nil_iff.mp h)) hasked
      · rw [makeRoomVia_of_not fun h => hheld h.1] at hret
        exact hret rfl
  · intro h key c hfind hsilent
    have hactive := h ⟨key, c, hfind, hsilent⟩
    have hnone : (findConnectionByState t.connectionMap .active).isSome = false := by
      rw [findConnectionByState_isSome, hactive]
    unfold answerVia
    rw [hfind]
    dsimp only
    rw [makeRoomVia_of_not fun h => by simp [hactive] at h, if_neg (not_not.mpr rfl), hsilent,
      hnone]
    exact ⟨rfl, rfl⟩

end CSControl

namespace IMSControl

/-- A call that does not ring is not waiting, so no other is put on hold for it. -/
theorem answerTarget_of_not_ringing {m : ConnectionMap ImsPart} {c : CellularCallConnectionIMS}
    (hsilent : c.isRingingState = false) : answerTarget m c = none := by
  have hstatus : c.getStatus ≠ .waiting := by
    intro hwaiting
    simp [Connection.isRingingState, hwaiting] at hsilent
  unfold answerTarget
  split
  · rw [if_neg fun h => hstatus h.2]
  · rfl

theorem room_answerVia (replies : Replies) (t : IMSControl) (callInfo : CellularCallInfo) :
    RoomFor replies t.connectionMap callInfo.index (heldHangUps t.connectionMap)
      (fun rest ret => ∃ request, rest = [request] ∧
        (request = .imsSwitchCall callInfo.slotId callInfo.videoState ∨
          request = .imsAnswer callInfo.slotId (cStr callInfo.phoneNum) callInfo.videoState
            callInfo.index callInfo.isRTT) ∧
        ret = replies (heldHangUps t.connectionMap) request)
      (answerVia replies t callInfo).1 (answerVia replies t callInfo).2.2 := by
  intro key c hfind hringing hheld hactive
  unfold answerVia
  rw [hfind]
  dsimp only
  rw [makeRoomVia_of_both hheld hactive]
  refine MakesRoom.of_askAll (fun hret => ?_) fun hall => ?_
  · rw [if_pos hret]
    exact ⟨rfl, rfl⟩
  · rw [hall, if_neg (not_not.mpr rfl)]
    cases answerTarget t.connectionMap c with
    | some target => exact ⟨_, rfl, _, rfl, Or.inl rfl, rfl⟩
    | none =>
      dsimp only
      rw [if_pos hringing]
      exact ⟨_, rfl, _, rfl, Or.inr rfl, rfl⟩

/-- A call that does not ring is left alone where no calls on hold and active are
beside each other. -/
theorem leavesAlone_answerVia_iff (replies : Replies) (t : IMSControl)
    (callInfo : CellularCallInfo) :
    LeavesAlone t.connectionMap callInfo.index (answerVia replies t callInfo).1
        (answerVia replies t callInfo).2.2 ↔
      (NotRinging t.connectionMap callInfo.index →
        ¬(isInState t.connectionMap .holding = true ∧
          isInState t.connectionMap .active = true)) := by
  constructor
  · intro halone hring hboth
    obtain ⟨key, c, hfind, hsilent⟩ := hring
    obtain ⟨-, hasked⟩ := halone key c hfind hsilent
    have hsome : (askAll replies .success [] (heldHangUps t.connectionMap)).2 ≠ [] :=
      askAll_snd_ne_nil fun h => heldCalls_ne_nil hboth.1 (List.map_eq_nil_iff.mp h)
    unfold answerVia at hasked
    rw [hfind] at hasked
    dsimp only at hasked
    rw [makeRoomVia_of_both hboth.1 hboth.2, answerTarget_of_not_ringing hsilent, hsilent] at hasked
    split at hasked
    · exact hsome hasked
    · exact hsome hasked
  · intro h key c hfind hsilent
    unfold answerVia
    rw [hfind]
    dsimp only
    rw [makeRoomVia_of_not (h ⟨key, c, hfind, hsilent⟩), if_neg (not_not.mpr rfl),
      answerTarget_of_not_ringing hsilent, hsilent]
    exact ⟨rfl, rfl⟩

end IMSControl

/-- A call that does not ring is left alone where no call is active. -/
theorem SatelliteControl.answersFairly_iff_not_active (replies : Replies) (t : SatelliteControl)
    (callInfo : CellularCallInfo) :
    AnswersFairly replies t callInfo ↔
      (NotRinging t.connectionMap callInfo.index → isInState t.connectionMap .active = false) := by
  constructor
  · intro halone hring
    obtain ⟨key, c, hfind, hsilent⟩ := hring
    obtain ⟨-, hasked⟩ := halone key c hfind hsilent
    rw [← findConnectionByState_isSome]
    unfold answer at hasked
    rw [hfind] at hasked
    dsimp only at hasked
    rw [hsilent] at hasked
    cases hactive : findConnectionByState t.connectionMap .active with
    | none => rfl
    | some found =>
      rw [hactive] at hasked
      cases hasked
  · intro h key c hfind hsilent
    have hactive := h ⟨key, c, hfind, hsilent⟩
    rw [← findConnectionByState_isSome, Option.isSome_eq_false_iff, Option.isNone_iff_eq_none]
      at hactive
    unfold answer
    rw [hfind, hactive]
    dsimp only
    rw [hsilent]
    exact ⟨rfl, rfl⟩

/-- An answer asks for what it should, in each domain, exactly where the call that is
answered rings or there is no other call to be moved for it: no active one, and in the
IMS domain none beside one on hold. -/
theorem answersFairly_iff (replies : Replies) (cs : CSControl) (ims : IMSControl)
    (satellite : SatelliteControl) (callInfo : CellularCallInfo) :
    (CSControl.AnswersFairly replies cs callInfo ↔
      (NotRinging cs.connectionMap callInfo.index →
        isInState cs.connectionMap .active = false)) ∧
    (IMSControl.AnswersFairly replies ims callInfo ↔
      (NotRinging ims.connectionMap callInfo.index →
        ¬(isInState ims.connectionMap .holding = true ∧
          isInState ims.connectionMap .active = true))) ∧
    (SatelliteControl.AnswersFairly replies satellite callInfo ↔
      (NotRinging satellite.connectionMap callInfo.index →
        isInState satellite.connectionMap .active = false)) := by
  refine ⟨?_, ?_, SatelliteControl.answersFairly_iff_not_active replies satellite callInfo⟩
  · rw [← CSControl.leavesAlone_answerVia_iff replies]
    exact ⟨fun h => h.alone, fun h => ⟨CSControl.room_answerVia replies cs callInfo, h⟩⟩
  · rw [← IMSControl.leavesAlone_answerVia_iff replies]
    exact ⟨fun h => h.alone, fun h => ⟨IMSControl.room_answerVia replies ims callInfo, h⟩⟩

/-- A satellite table with one active call, of index 1. -/
def SatelliteControl.oneActive : SatelliteControl :=
  (SatelliteControl.reportIncomingInfo .plain true 0 CallTable.fresh
    (.of [⟨1, .active, 0, 0, ['1', '0']⟩])).1

/-- An active call is answered: in the CS domain the calls are switched, in the IMS
domain the call on hold beside it is hung up, in the satellite domain it is hung up
itself. -/
theorem not_answersFairly :
    (¬CSControl.AnswersFairly (fun _ _ => .success) .oneActive (.plain .cs 1)) ∧
    (¬IMSControl.AnswersFairly (fun _ _ => .success)
      (IMSControl.reportIncomingInfo .plain true 0 .fresh
        (.of [.plain 1 .holding, .plain 2 .active])).1 (.plain .ims 2)) ∧
    ¬SatelliteControl.AnswersFairly (fun _ _ => .success) .oneActive (.plain .satellite 1) := by
  refine ⟨fun h => ?_, fun h => ?_, fun h => ?_⟩
  · cases (h.alone _ _ rfl rfl).2
  · cases (h.alone _ _ rfl rfl).2
  · cases (h _ _ rfl rfl).2

end CellularCall
