import CellularCall.Service
import CellularCall.SsReports

/-!
# The result of a call-forwarding command

A call-forwarding set saves its command under its index, but what is stored and
reported when it succeeds is `CallForwardingInfo`, one record for all slots, which
the service fills for the commands of the settings on a valid slot before it sends
them.

The monitor `forwardings` keeps the commands that await a response.
`attributed_iff` says when a success is stored and reported for the command it
answers.
-/

namespace CellularCall

open Lib

/-! ## The record -/

/-- `maxNumberLen`. -/
def maxNumberLen : Nat := 100

namespace CellularCallHiSysEvent

/-- `SetCallForwardingInfo`. -/
def setCallForwardingInfo (slotId : Int) (enable : Bool) (number : Str) : CallForwardingInfo :=
  ⟨slotId, enable, number⟩

/-- `GetCallForwardingInfo`: a number that is too long is left out. -/
def getCallForwardingInfo (record : CallForwardingInfo) : CallForwardingInfo :=
  { record with
    number := if record.number.length > maxNumberLen then [] else cStr record.number }

end CellularCallHiSysEvent

/-! ## Commands and responses -/

/-- The tables of the slots, and the record they share. -/
structure ForwardingState where
  tables : Int → SsTable
  record : CallForwardingInfo

/-- What happens: a code of the dialer, a command of the settings, which is
accepted or not, an index drawn by a request that is not sent, and a response. -/
inductive ForwardingEvent where
  | dialer (slotId : Int) (net : SsNetwork) (mmiData : MMIData)
  | settings (slotId : Int) (net : SsNetwork) (cTInfo : CallTransferInfo) (accepted : Bool)
  | draw (slotId : Int)
  | response (slotId : Int) (r : SsBaseResult)
deriving DecidableEq, Repr

/-- What comes of it: the index a command is sent with, or reports. -/
inductive ForwardingOutput where
  | sent (index : Int)
  | report (report : SsReport)
deriving DecidableEq, Repr

namespace ForwardingState

variable (P : SsPlatform) (s : ForwardingState)

def setTable (slotId : Int) (t : SsTable) : ForwardingState :=
  { s with tables := Function.update s.tables slotId t }

/-- A command is sent with a new index, and saved. -/
def send (slotId : Int) (issue : SsIssue) : ForwardingState × List ForwardingOutput :=
  match issue with
  | .sent _ utCommand =>
    let (t, index) := (s.tables slotId).requestSsRequestCommandIndex
    (s.setTable slotId (t.saveSsRequestCommand utCommand index), [.sent index])
  | _ => (s, [])

/-- What `CellularCallService::SetCallTransferInfo` does on a valid slot first: it
fills the record, but not for an erasure. -/
def fill (slotId : Int) (cTInfo : CallTransferInfo) : ForwardingState :=
  if cTInfo.settingType = callTransferDisable then
    { s with
      record := CellularCallHiSysEvent.setCallForwardingInfo slotId false
        (cStr cTInfo.transferNum) }
  else if cTInfo.settingType = callTransferEnable ∨
      cTInfo.settingType = callTransferRegistration then
    { s with
      record := CellularCallHiSysEvent.setCallForwardingInfo slotId true
        (cStr cTInfo.transferNum) }
  else s

/-- `CellularCallService::SetCallTransferInfo`.  A command of an invalid slot is
refused before the record is filled. -/
def setCallTransferInfo (simSlotCount slotId : Int) (net : SsNetwork)
    (cTInfo : CallTransferInfo) (accepted : Bool) : ForwardingState × List ForwardingOutput :=
  if isValidSlotId simSlotCount slotId = false then (s, [])
  else
    let s := s.fill slotId cTInfo
    if accepted then s.send slotId (CellularCallSupplement.setCallTransferInfo net slotId cTInfo)
    else (s, [])

/-- `SetCallTransferInfoResponse` on a slot. -/
def respond (slotId : Int) (r : SsBaseResult) : ForwardingState × List SsReport :=
  let (t, reports) := CellularCallHandler.setCallTransferInfoResponse P (s.tables slotId)
    (CellularCallHiSysEvent.getCallForwardingInfo s.record) r
  (s.setTable slotId t, reports)

end ForwardingState

/-- The slots of call forwarding.  `record` is what the record holds at first; its
slot is not initialised. -/
def forwardingMachine (P : SsPlatform) (simSlotCount : Int) (record : CallForwardingInfo) :
    Machine ForwardingState ForwardingEvent ForwardingOutput where
  init := ⟨fun _ => .init, record⟩
  step s
    | .dialer slotId net mmiData =>
      s.send slotId (CellularCallSupplement.handleCallTransfer P net slotId mmiData)
    | .settings slotId net cTInfo accepted =>
      s.setCallTransferInfo simSlotCount slotId net cTInfo accepted
    | .draw slotId =>
      (s.setTable slotId (s.tables slotId).requestSsRequestCommandIndex.1, [])
    | .response slotId r =>
      let (s, reports) := s.respond P slotId r
      (s, reports.map .report)

/-! ## Commands that await a response -/

/-- What a command asks for, and where it comes from. -/
structure ForwardingCommand where
  slotId : Int
  on : Bool
  number : Str
  reason : Int
  dialer : Bool
  erase : Bool
deriving DecidableEq, Repr

/-- Whether an action switches call forwarding on or off: on to activate and to
register, off to deactivate and to erase. -/
def switchOf (cfAction : Int) : Option Bool :=
  if cfAction = callTransferEnable ∨ cfAction = callTransferRegistration then some true
  else if cfAction = callTransferDisable ∨ cfAction = callTransferErasure then some false
  else none

namespace ForwardingCommand

variable (P : SsPlatform) (slotId : Int)

/-- The command of a code from the dialer: `*` and `**` switch on, `#` and `##`
off. -/
def ofDialer (mmiData : MMIData) : Option ForwardingCommand :=
  let make (on erase : Bool) : ForwardingCommand :=
    ⟨slotId, on, cStr mmiData.serviceInfoA,
      CellularCallSupplement.obtainCause P mmiData.serviceCode, true, erase⟩
  if mmiData.actionString = ['*'] ∨ mmiData.actionString = ['*', '*'] then some (make true false)
  else if mmiData.actionString = ['#'] then some (make false false)
  else if mmiData.actionString = ['#', '#'] then some (make false true)
  else none

/-- The command of the settings. -/
def ofSettings (cTInfo : CallTransferInfo) : Option ForwardingCommand :=
  (switchOf cTInfo.settingType).map fun on =>
    ⟨slotId, on, cStr cTInfo.transferNum, cTInfo.type, false,
      decide (cTInfo.settingType = callTransferErasure)⟩

end ForwardingCommand

/-- A command and the index it was sent with. -/
structure ForwardingRequest where
  index : Int
  command : ForwardingCommand
deriving DecidableEq, Repr

/-- The commands that await a response, and what the settings last asked for, on
any valid slot, other than to erase. -/
structure Forwardings where
  outstanding : List ForwardingRequest
  asked : CallForwardingInfo
deriving DecidableEq, Repr

namespace Forwardings

variable (h : Forwardings)

/-- A request with an index on a slot awaits its response. -/
def Awaits (slotId index : Int) : Prop :=
  ∃ q ∈ h.outstanding, q.command.slotId = slotId ∧ q.index = index

instance (slotId index : Int) : Decidable (h.Awaits slotId index) :=
  inferInstanceAs (Decidable (∃ q ∈ h.outstanding, _))

/-- A command is sent with the index the machine gives. -/
def sent (command : Option ForwardingCommand) (outputs : List ForwardingOutput) : Forwardings :=
  match command, outputs with
  | some command, [.sent index] => { h with outstanding := ⟨index, command⟩ :: h.outstanding }
  | _, _ => h

/-- What the settings ask for, if it is not to erase. -/
def ask (command : Option ForwardingCommand) : Forwardings :=
  match command with
  | some command =>
    if command.erase = true then h
    else { h with asked := ⟨command.slotId, command.on, command.number⟩ }
  | none => h

/-- The request that is answered. -/
def answer (slotId index : Int) : Forwardings :=
  { h with
    outstanding := h.outstanding.filter fun q =>
      decide (¬(q.command.slotId = slotId ∧ q.index = index)) }

end Forwardings

/-- Commands at any time, and responses to those that were sent. -/
def forwardings (P : SsPlatform) (simSlotCount : Int) (record : CallForwardingInfo) :
    Monitor ForwardingState ForwardingEvent ForwardingOutput Forwardings where
  init := ⟨[], record⟩
  allowed h _ e :=
    match e with
    | .dialer slotId _ mmiData => (ForwardingCommand.ofDialer P slotId mmiData).isSome = true
    | .settings slotId _ cTInfo _ => (ForwardingCommand.ofSettings slotId cTInfo).isSome = true
    | .draw _ => True
    | .response slotId r => h.Awaits slotId r.index
  update h _ e _ outputs :=
    match e with
    | .dialer slotId _ mmiData => h.sent (ForwardingCommand.ofDialer P slotId mmiData) outputs
    | .settings slotId _ cTInfo _ =>
      if isValidSlotId simSlotCount slotId = false then h
      else
        (h.ask (ForwardingCommand.ofSettings slotId cTInfo)).sent
          (ForwardingCommand.ofSettings slotId cTInfo) outputs
    | .draw _ => h
    | .response slotId r => h.answer slotId r.index

instance (P : SsPlatform) (simSlotCount : Int) (record : CallForwardingInfo) (h : Forwardings)
    (s : ForwardingState) (e : ForwardingEvent) :
    Decidable ((forwardings P simSlotCount record).allowed h s e) :=
  match e with
  | .dialer _ _ _ | .settings _ _ _ _ => inferInstanceAs (Decidable (_ = true))
  | .draw _ => isTrue trivial
  | .response slotId r => inferInstanceAs (Decidable (h.Awaits slotId r.index))

/-- The next index of a slot is not in use there. -/
def ForwardingState.NextIsFresh (s : ForwardingState) (slotId : Int) : Prop :=
  (s.tables slotId).utCommandMap.get?
    (s.tables slotId).requestSsRequestCommandIndex.1.indexCommand = none

instance (s : ForwardingState) (slotId : Int) : Decidable (s.NextIsFresh slotId) :=
  inferInstanceAs (Decidable (_ = none))

/-- The index a command draws is not in use on its slot. -/
def FreshIndex : StepCond ForwardingState ForwardingEvent Forwardings := fun _ s e =>
  match e with
  | .dialer slotId _ _ => s.NextIsFresh slotId
  | .settings slotId _ _ accepted => accepted = true → s.NextIsFresh slotId
  | .draw _ | .response _ _ => True

instance (h : Forwardings) (s : ForwardingState) (e : ForwardingEvent) :
    Decidable (FreshIndex h s e) :=
  match e with
  | .dialer slotId _ _ => inferInstanceAs (Decidable (s.NextIsFresh slotId))
  | .settings slotId _ _ _ => inferInstanceAs (Decidable (_ → s.NextIsFresh slotId))
  | .draw _ | .response _ _ => isTrue trivial

/-! ## Attribution -/

/-- What a report tells is true of a command. -/
def SsReport.Tells (command : ForwardingCommand) : SsReport → Prop
  | .setVoiceCallForwarding slotId enable number =>
    slotId = command.slotId ∧ enable = command.on ∧ number = command.number
  | .callTransferStatus slotId enabled => slotId = command.slotId ∧ enabled = command.on
  | .mmiCode info =>
    info.action = (if command.on then subTypeActive else subTypeDeactive) ∧
      info.number = command.number
  | _ => True

/-- A success is stored and reported for a command, with its status if its reason
asks for that, and all that is told is true of it. -/
structure Attributed (command : ForwardingCommand) (reports : List SsReport) : Prop where
  stored : .setVoiceCallForwarding command.slotId command.on command.number ∈ reports
  status : CellularCallHandler.IsStatusReason command.reason →
    .callTransferStatus command.slotId command.on ∈ reports
  answered : ∃ report ∈ reports, report.Answers
    (if command.dialer then ssFromMmiCode else ssFromSettingMenu) .setCallTransfer
  tells : ∀ report ∈ reports, report.Tells command

/-- When a success is attributed: the settings last asked for the same, in a number
that is not too long, and a command from the dialer is not to erase and has a number
that can be reported. -/
def ForwardingCommand.Recorded (P : SsPlatform) (asked : CallForwardingInfo)
    (command : ForwardingCommand) : Prop :=
  (asked.slotId = command.slotId ∧ asked.enable = command.on ∧
      (if asked.number.length > maxNumberLen then [] else cStr asked.number) = command.number) ∧
    (command.dialer = true →
      command.erase = false ∧ strcpyOrEmpty P.mmiNumberSize command.number = command.number)

/-! ## What is saved -/

/-- The saved form of a command holds its origin and its reason, and for the dialer
an action that is 0 only for `#`. -/
structure ForwardingCommand.SavedAs (command : ForwardingCommand) (saved : SsRequestCommand) :
    Prop where
  flag : saved.flag = if command.dialer then ssFromMmiCode else ssFromSettingMenu
  reason : saved.cfReason = command.reason
  action : command.dialer = true → (saved.action ≠ 0 ↔ command.on = true ∨ command.erase = true)
  erase : command.erase = true → command.on = false

/-- The four actions of the dialer. -/
theorem obtainCallTrasferAction_spec {P : SsPlatform} {slotId : Int} {mmiData : MMIData}
    {command : ForwardingCommand} {action : Int}
    (hcommand : ForwardingCommand.ofDialer P slotId mmiData = some command)
    (haction : CellularCallSupplement.obtainCallTrasferAction mmiData.actionString
      mmiData.serviceInfoA = some action) :
    (action ≠ 0 ↔ command.on = true ∨ command.erase = true) ∧
      (command.erase = true → command.on = false) := by
  unfold ForwardingCommand.ofDialer at hcommand
  unfold CellularCallSupplement.obtainCallTrasferAction at haction
  dsimp only at hcommand
  split at hcommand
  · rename_i hon
    cases hcommand
    refine ⟨iff_of_true ?_ (.inl rfl), Bool.noConfusion⟩
    obtain hstar | hstars := hon
    · rw [if_pos hstar] at haction
      rw [← Option.some.inj haction]
      split <;> decide
    · rw [if_neg (by rw [hstars]; decide), if_neg (by rw [hstars]; decide),
        if_pos hstars] at haction
      rw [← Option.some.inj haction]
      decide
  split at hcommand
  · rename_i hon hhash
    cases hcommand
    rw [if_neg (by rw [hhash]; decide), if_pos hhash] at haction
    rw [← Option.some.inj haction]
    show (callTransferDisable ≠ 0 ↔ false = true ∨ false = true) ∧ (false = true → _)
    exact ⟨by decide, Bool.noConfusion⟩
  split at hcommand
  · rename_i hon hhash hhashes
    cases hcommand
    rw [if_neg (by rw [hhashes]; decide), if_neg hhash, if_neg (by rw [hhashes]; decide),
      if_pos hhashes] at haction
    rw [← Option.some.inj haction]
    show (callTransferErasure ≠ 0 ↔ false = true ∨ true = true) ∧ (true = true → false = false)
    decide
  · cases hcommand

/-- A command from the dialer, as it is made of its code. -/
theorem ofDialer_eq_some {P : SsPlatform} {slotId : Int} {mmiData : MMIData}
    {command : ForwardingCommand}
    (hcommand : ForwardingCommand.ofDialer P slotId mmiData = some command) :
    mmiData.actionString ≠ ['*', '#'] ∧ command.slotId = slotId ∧ command.dialer = true ∧
      command.reason = CellularCallSupplement.obtainCause P mmiData.serviceCode := by
  unfold ForwardingCommand.ofDialer at hcommand
  dsimp only at hcommand
  split at hcommand
  · rename_i hon
    cases hcommand
    refine ⟨?_, rfl, rfl, rfl⟩
    intro hquery
    rw [hquery] at hon
    revert hon
    decide
  split at hcommand
  · rename_i hhash
    cases hcommand
    refine ⟨?_, rfl, rfl, rfl⟩
    rw [hhash]
    decide
  split at hcommand
  · rename_i hhashes
    cases hcommand
    refine ⟨?_, rfl, rfl, rfl⟩
    rw [hhashes]
    decide
  · cases hcommand

/-- What a call-forwarding set from the dialer saves. -/
theorem saved_of_handleSetCallTransfer {P : SsPlatform} {net : SsNetwork}
    {slotId serviceCode cause action : Int} {phoneNumber : Str} {request : SsSent}
    {saved : SsRequestCommand}
    (hissue : CellularCallSupplement.handleSetCallTransfer P net slotId serviceCode cause
      phoneNumber action = .sent request saved) :
    saved.flag = ssFromMmiCode ∧ saved.cfReason = cause ∧ saved.action = action := by
  unfold CellularCallSupplement.handleSetCallTransfer at hissue
  dsimp only at hissue
  split at hissue
  · split at hissue
    · cases hissue
    · cases hissue
      exact ⟨rfl, rfl, rfl⟩
  · cases hissue
    exact ⟨rfl, rfl, rfl⟩

/-- What is saved of a code from the dialer. -/
theorem savedAs_of_handleCallTransfer {P : SsPlatform} {net : SsNetwork} {slotId : Int}
    {mmiData : MMIData} {command : ForwardingCommand} {request : SsSent}
    {saved : SsRequestCommand}
    (hcommand : ForwardingCommand.ofDialer P slotId mmiData = some command)
    (hissue : CellularCallSupplement.handleCallTransfer P net slotId mmiData =
      .sent request saved) : command.SavedAs saved := by
  obtain ⟨hset, -, hdialer, hreason⟩ := ofDialer_eq_some hcommand
  unfold CellularCallSupplement.handleCallTransfer at hissue
  dsimp only at hissue
  rw [if_neg hset] at hissue
  split at hissue
  · cases hissue
  · split at hissue
    · cases hissue
    · rename_i action haction
      obtain ⟨hflag, hcause, hsaved⟩ := saved_of_handleSetCallTransfer hissue
      obtain ⟨hswitch, herase⟩ := obtainCallTrasferAction_spec hcommand haction
      exact
        { flag := by rw [hflag, hdialer]; rfl
          reason := hcause.trans hreason.symm
          action := fun _ => by rw [hsaved]; exact hswitch
          erase := herase }

/-- A command of the settings, as it is made. -/
theorem ofSettings_eq_some {slotId : Int} {cTInfo : CallTransferInfo}
    {command : ForwardingCommand}
    (hcommand : ForwardingCommand.ofSettings slotId cTInfo = some command) :
    ∃ on, switchOf cTInfo.settingType = some on ∧
      command = ⟨slotId, on, cStr cTInfo.transferNum, cTInfo.type, false,
        decide (cTInfo.settingType = callTransferErasure)⟩ := by
  obtain ⟨on, hswitch, hmade⟩ := Option.map_eq_some_iff.mp hcommand
  exact ⟨on, hswitch, hmade.symm⟩

theorem switchOf_erasure : switchOf callTransferErasure = some false := rfl

/-- What is saved of a command of the settings. -/
theorem savedAs_of_setCallTransferInfo {net : SsNetwork} {slotId : Int}
    {cTInfo : CallTransferInfo} {command : ForwardingCommand} {request : SsSent}
    {saved : SsRequestCommand}
    (hcommand : ForwardingCommand.ofSettings slotId cTInfo = some command)
    (hissue : CellularCallSupplement.setCallTransferInfo net slotId cTInfo =
      .sent request saved) : command.SavedAs saved := by
  obtain ⟨on, hswitch, rfl⟩ := ofSettings_eq_some hcommand
  have hsaved : saved.flag = ssFromSettingMenu ∧ saved.cfReason = cTInfo.type := by
    unfold CellularCallSupplement.setCallTransferInfo at hissue
    split at hissue
    · cases hissue
    · dsimp only at hissue
      cases request with
      | ims request =>
        obtain ⟨-, hsaved⟩ := CellularCallSupplement.fromSetting_eq_ims net hissue
        rw [← hsaved]
        exact ⟨rfl, rfl⟩
      | cs request =>
        obtain ⟨-, hsaved⟩ := CellularCallSupplement.fromSetting_eq_cs net hissue
        rw [← hsaved]
        exact ⟨rfl, rfl⟩
  refine ⟨hsaved.1, hsaved.2, Bool.noConfusion, ?_⟩
  intro herase
  rw [of_decide_eq_true herase, switchOf_erasure] at hswitch
  exact (Option.some.inj hswitch).symm

namespace ForwardingState

variable {P : SsPlatform} {s : ForwardingState} {slotId : Int}

@[simp] theorem tables_setTable (t : SsTable) :
    (s.setTable slotId t).tables = Function.update s.tables slotId t := rfl

@[simp] theorem tables_fill (cTInfo : CallTransferInfo) :
    (s.fill slotId cTInfo).tables = s.tables := by
  unfold fill
  split
  · rfl
  · split <;> rfl

/-- The record is filled with what the settings ask for. -/
theorem record_fill {h : Forwardings} {cTInfo : CallTransferInfo} {command : ForwardingCommand}
    (hcommand : ForwardingCommand.ofSettings slotId cTInfo = some command)
    (hrecord : s.record = h.asked) :
    (s.fill slotId cTInfo).record = (h.ask (some command)).asked := by
  obtain ⟨on, hswitch, rfl⟩ := ofSettings_eq_some hcommand
  unfold switchOf at hswitch
  unfold fill Forwardings.ask
  dsimp only
  by_cases hdisable : cTInfo.settingType = callTransferDisable
  · rw [if_pos hdisable]
    rw [hdisable] at hswitch ⊢
    cases hswitch
    rfl
  · rw [if_neg hdisable]
    split
    · rename_i hon
      rw [if_pos hon] at hswitch
      cases hswitch
      have herase : ¬decide (cTInfo.settingType = callTransferErasure) = true := by
        intro herase
        rw [of_decide_eq_true herase] at hon
        revert hon
        decide
      rw [if_neg herase]
      rfl
    · rename_i hon
      rw [if_neg hon] at hswitch
      split at hswitch
      · rename_i hoff
        rw [if_pos (decide_eq_true (hoff.resolve_left hdisable))]
        exact hrecord
      · cases hswitch

end ForwardingState

/-! ## The invariant -/

/-- The record holds what the settings last asked for, and every outstanding
request is saved under its index. -/
structure ForwardingInvariant (s : ForwardingState) (h : Forwardings) : Prop where
  nonneg : ∀ slotId, (s.tables slotId).Nonneg
  record : s.record = h.asked
  saved : ∀ q ∈ h.outstanding, ∃ saved,
    (s.tables q.command.slotId).utCommandMap.get? q.index = some saved ∧ q.command.SavedAs saved

namespace ForwardingInvariant

variable {P : SsPlatform} {s : ForwardingState} {h : Forwardings} {slotId : Int}

/-- A slot may get a table that holds its outstanding requests. -/
theorem setTable (hinv : ForwardingInvariant s h) {t : SsTable} (ht : t.Nonneg)
    {outstanding : List ForwardingRequest}
    (hhere : ∀ q ∈ outstanding, q.command.slotId = slotId → ∃ saved,
      t.utCommandMap.get? q.index = some saved ∧ q.command.SavedAs saved)
    (hthere : ∀ q ∈ outstanding, q.command.slotId ≠ slotId → q ∈ h.outstanding) :
    ForwardingInvariant (s.setTable slotId t) { h with outstanding := outstanding } where
  nonneg := by
    intro slot
    rw [ForwardingState.tables_setTable]
    by_cases hslot : slot = slotId
    · rw [hslot, Function.update_self]
      exact ht
    · rw [Function.update_of_ne hslot]
      exact hinv.nonneg slot
  record := hinv.record
  saved := by
    intro q hq
    rw [ForwardingState.tables_setTable]
    by_cases hslot : q.command.slotId = slotId
    · rw [hslot, Function.update_self]
      exact hhere q hq hslot
    · rw [Function.update_of_ne hslot]
      exact hinv.saved q (hthere q hq hslot)

/-- A command that is sent with an index not in use is saved under it. -/
theorem send (hinv : ForwardingInvariant s h) {command : ForwardingCommand} {issue : SsIssue}
    (hslot : command.slotId = slotId)
    (hissue : ∀ request saved, issue = .sent request saved → command.SavedAs saved)
    (hfresh : s.NextIsFresh slotId) :
    ForwardingInvariant (s.send slotId issue).1 (h.sent (some command) (s.send slotId issue).2) := by
  cases issue with
  | mmiFailed message => exact hinv
  | dropped => exact hinv
  | error e => exact hinv
  | sent request utCommand =>
    have hmap := SsTable.utCommandMap_requestSsRequestCommandIndex (s.tables slotId)
    refine hinv.setTable
      ((hinv.nonneg slotId).requestSsRequestCommandIndex.saveSsRequestCommand utCommand _) ?_ ?_
    · intro q hq hhere
      simp only [SsTable.saveSsRequestCommand, OrdMap.get?_insertNew, hmap]
      obtain rfl | hold := List.mem_cons.mp hq
      · refine ⟨utCommand, (if_pos rfl).trans ?_, hissue request utCommand rfl⟩
        rw [show _ = none from hfresh]
        rfl
      · obtain ⟨saved, hget, hsaved⟩ := hinv.saved q hold
        rw [hhere] at hget
        refine ⟨saved, ?_, hsaved⟩
        rw [if_neg, hget]
        intro hsame
        rw [hsame, show _ = none from hfresh] at hget
        cases hget
    · intro q hq hthere
      obtain rfl | hold := List.mem_cons.mp hq
      · exact absurd hslot hthere
      · exact hold

/-- An index that is drawn and not used changes nothing. -/
theorem draw (hinv : ForwardingInvariant s h) :
    ForwardingInvariant (s.setTable slotId (s.tables slotId).requestSsRequestCommandIndex.1) h := by
  refine hinv.setTable (hinv.nonneg slotId).requestSsRequestCommandIndex ?_ (fun q hq _ => hq)
  intro q hq hhere
  rw [SsTable.utCommandMap_requestSsRequestCommandIndex, ← hhere]
  exact hinv.saved q hq

/-- What the settings ask for is in the record. -/
theorem fill (hinv : ForwardingInvariant s h) {cTInfo : CallTransferInfo}
    {command : ForwardingCommand}
    (hcommand : ForwardingCommand.ofSettings slotId cTInfo = some command) :
    ForwardingInvariant (s.fill slotId cTInfo) (h.ask (some command)) where
  nonneg := by
    rw [ForwardingState.tables_fill]
    exact hinv.nonneg
  record := ForwardingState.record_fill hcommand hinv.record
  saved := by
    rw [ForwardingState.tables_fill]
    have houtstanding : (h.ask (some command)).outstanding = h.outstanding := by
      unfold Forwardings.ask
      dsimp only
      split <;> rfl
    rw [houtstanding]
    exact hinv.saved

/-- A response takes the command of its index, and no other. -/
theorem respond (hinv : ForwardingInvariant s h) {r : SsBaseResult} :
    ForwardingInvariant (s.respond P slotId r).1 (h.answer slotId r.index) := by
  have htable : (CellularCallHandler.setCallTransferInfoResponse P (s.tables slotId)
      (CellularCallHiSysEvent.getCallForwardingInfo s.record) r).1 =
        ((s.tables slotId).confirmAndRemove r.index).1 := by
    unfold CellularCallHandler.setCallTransferInfoResponse CellularCallHandler.withAction
      SsTable.confirmAndRemoveSsRequestCommandWithAction
    dsimp only
    cases ((s.tables slotId).confirmAndRemove r.index).2 <;> rfl
  unfold ForwardingState.respond Forwardings.answer
  dsimp only
  rw [htable]
  refine hinv.setTable ((hinv.nonneg slotId).confirmAndRemove r.index) ?_ ?_
  · intro q hq hhere
    obtain ⟨hold, hother⟩ := List.mem_filter.mp hq
    have hindex : q.index ≠ r.index := fun hsame => of_decide_eq_true hother ⟨hhere, hsame⟩
    obtain ⟨saved, hget, hsaved⟩ := hinv.saved q hold
    refine ⟨saved, ?_, hsaved⟩
    rw [hhere] at hget
    unfold SsTable.confirmAndRemove
    split
    · exact hget
    · split
      · exact hget
      · rw [OrdMap.get?_erase, if_neg hindex]
        exact hget
  · intro q hq _
    exact (List.mem_filter.mp hq).1

end ForwardingInvariant

theorem forwardingInvariant_step {P : SsPlatform} {simSlotCount : Int}
    {record : CallForwardingInfo} {s : ForwardingState} {h : Forwardings} {e : ForwardingEvent}
    (hinv : ForwardingInvariant s h)
    (hallowed : (forwardings P simSlotCount record).allowed h s e) (hfresh : FreshIndex h s e) :
    ForwardingInvariant ((forwardingMachine P simSlotCount record).step s e).1
      ((forwardings P simSlotCount record).next (forwardingMachine P simSlotCount record)
        h s e) := by
  cases e with
  | dialer slotId net mmiData =>
    obtain ⟨command, hcommand⟩ := Option.isSome_iff_exists.mp hallowed
    simp only [Monitor.next, forwardings, forwardingMachine, hcommand]
    exact hinv.send (ofDialer_eq_some hcommand).2.1
      (fun _ _ => savedAs_of_handleCallTransfer hcommand) hfresh
  | settings slotId net cTInfo accepted =>
    obtain ⟨command, hcommand⟩ := Option.isSome_iff_exists.mp hallowed
    simp only [Monitor.next, forwardings, forwardingMachine, hcommand,
      ForwardingState.setCallTransferInfo]
    by_cases hvalid : isValidSlotId simSlotCount slotId = false
    · rw [if_pos hvalid, if_pos hvalid]
      exact hinv
    rw [if_neg hvalid, if_neg hvalid]
    have hfill := hinv.fill hcommand
    have hslot : command.slotId = slotId := by
      obtain ⟨on, -, rfl⟩ := ofSettings_eq_some hcommand
      rfl
    cases accepted with
    | false => exact hfill
    | true =>
      refine hfill.send hslot (fun _ _ => savedAs_of_setCallTransferInfo hcommand) ?_
      rw [ForwardingState.NextIsFresh, ForwardingState.tables_fill]
      exact hfresh rfl
  | draw slotId => exact hinv.draw
  | response slotId r => exact hinv.respond

theorem forwardingInvariant_of_run {P : SsPlatform} {simSlotCount : Int}
    {record : CallForwardingInfo} {s : ForwardingState} {h : Forwardings}
    (hrun : Run (forwardingMachine P simSlotCount record) (forwardings P simSlotCount record)
      FreshIndex s h) :
    ForwardingInvariant s h := by
  refine Run.invariant ?_ (fun _ _ _ => forwardingInvariant_step) hrun
  exact ⟨fun _ => .init, rfl, fun _ hq => by cases hq⟩

/-! ## When a success is attributed -/

/-- What is reported of a success. -/
theorem setCallTransferInfoResponse_success {P : SsPlatform} {t : SsTable}
    {info : CallForwardingInfo} {r : SsBaseResult} {saved : SsRequestCommand}
    (hindex : 0 ≤ r.index) (hget : t.utCommandMap.get? r.index = some saved)
    (hsuccess : r.result = telephonySuccess) :
    (CellularCallHandler.setCallTransferInfoResponse P t info r).2 =
      .setVoiceCallForwarding info.slotId info.enable info.number ::
        ((if CellularCallHandler.IsStatusReason saved.cfReason then
          [.callTransferStatus info.slotId info.enable] else []) ++
        CellularCallSupplement.eventSetCallTransferInfo P telephonySuccess r.message saved.flag
          saved.action info.number) := by
  unfold CellularCallHandler.setCallTransferInfoResponse
  dsimp only
  rw [CellularCallHandler.withAction_of_get? hindex hget,
    SsTable.getSsRequestCommand_of_get? hget]
  simp only [hsuccess, if_true, Option.mem_def, Option.some.injEq, exists_eq_left',
    List.cons_append, CellularCallHandler.cmdResult, ne_eq, not_true_eq_false, if_false]

section
variable {P : SsPlatform} {command : ForwardingCommand} {saved : SsRequestCommand}

/-- The flag tells the commands of the dialer from those of the settings. -/
theorem ForwardingCommand.SavedAs.flag_iff (hsaved : command.SavedAs saved) :
    saved.flag = ssFromMmiCode ↔ command.dialer = true := by
  rw [hsaved.flag]
  cases command.dialer with
  | true => exact iff_of_true rfl rfl
  | false => exact iff_of_false (by decide) Bool.false_ne_true

/-- The action of a command of the dialer says whether forwarding is on, unless it is
to be erased. -/
theorem ForwardingCommand.SavedAs.subType_iff (hsaved : command.SavedAs saved)
    (hdialer : command.dialer = true) :
    (if saved.action ≠ 0 then subTypeActive else subTypeDeactive) =
        (if command.on then subTypeActive else subTypeDeactive) ↔ command.erase = false := by
  have haction := hsaved.action hdialer
  cases herase : command.erase with
  | true =>
    rw [hsaved.erase herase, if_pos (haction.mpr (.inr herase)), if_neg Bool.false_ne_true]
    exact iff_of_false (by decide) Bool.noConfusion
  | false =>
    rw [herase, or_iff_left Bool.false_ne_true] at haction
    exact iff_of_true (if_congr haction rfl rfl) rfl

/-- What the result tells is true of the command it is reported for, if that is from
the settings or can be told from its action and number. -/
theorem tells_eventSetCallTransferInfo (hsaved : command.SavedAs saved) (message : Str) :
    (∀ report ∈ CellularCallSupplement.eventSetCallTransferInfo P telephonySuccess message
        saved.flag saved.action command.number, report.Tells command) ↔
      (command.dialer = true → command.erase = false ∧
        strcpyOrEmpty P.mmiNumberSize command.number = command.number) := by
  unfold CellularCallSupplement.eventSetCallTransferInfo CellularCallSupplement.byFlag
  by_cases hdialer : command.dialer = true
  · rw [if_pos (hsaved.flag_iff.mpr hdialer), List.forall_mem_singleton,
      ← hsaved.subType_iff hdialer]
    exact ⟨fun htells _ => htells, fun htells => htells hdialer⟩
  · rw [if_neg (mt hsaved.flag_iff.mp hdialer), List.forall_mem_singleton]
    exact iff_of_true trivial fun h => absurd h hdialer

/-- What the reports of a success tell is true of a command if the record is, and
for the dialer if the action is told apart from an erasure. -/
theorem attributed_iff_recorded {asked : CallForwardingInfo} {message : Str}
    (hsaved : command.SavedAs saved) {info : CallForwardingInfo}
    (hinfo : info = CellularCallHiSysEvent.getCallForwardingInfo asked) :
    Attributed command (.setVoiceCallForwarding info.slotId info.enable info.number ::
        ((if CellularCallHandler.IsStatusReason saved.cfReason then
          [.callTransferStatus info.slotId info.enable] else []) ++
        CellularCallSupplement.eventSetCallTransferInfo P telephonySuccess message saved.flag
          saved.action info.number)) ↔ command.Recorded P asked := by
  have hrecorded : command.Recorded P asked ↔
      (info.slotId = command.slotId ∧ info.enable = command.on ∧ info.number = command.number) ∧
        (command.dialer = true → command.erase = false ∧
          strcpyOrEmpty P.mmiNumberSize command.number = command.number) := by
    rw [hinfo]
    rfl
  rw [hrecorded]
  constructor
  · intro hattributed
    have hstored := hattributed.tells _ List.mem_cons_self
    refine ⟨hstored, ?_⟩
    rw [← tells_eventSetCallTransferInfo hsaved message]
    intro report hreport
    rw [← hstored.2.2] at hreport
    exact hattributed.tells report (List.mem_cons_of_mem _ (List.mem_append_right _ hreport))
  · intro h
    obtain ⟨⟨hslot, hon, hnumber⟩, hdialer⟩ := h
    rw [hslot, hon, hnumber]
    refine ⟨List.mem_cons_self, ?_, ?_, ?_⟩
    · intro hreason
      rw [← hsaved.reason] at hreason
      rw [if_pos hreason]
      exact List.mem_cons_of_mem _ (List.mem_append_left _ (List.mem_singleton_self _))
    · rw [← hsaved.flag]
      obtain ⟨report, hreport, hanswers⟩ := CellularCallSupplement.answered_byFlag saved.flag
        (.setTransfer telephonySuccess) rfl
      exact ⟨report, List.mem_cons_of_mem _ (List.mem_append_right _ hreport), hanswers⟩
    · intro report hreport
      obtain rfl | hreport := List.mem_cons.mp hreport
      · exact ⟨rfl, rfl, rfl⟩
      obtain hstatus | hresult := List.mem_append.mp hreport
      · split at hstatus
        · rw [List.mem_singleton.mp hstatus]
          exact ⟨rfl, rfl⟩
        · cases hstatus
      · exact (tells_eventSetCallTransferInfo hsaved message).mpr hdialer report hresult

end

/-- In every run of commands that draw an index not in use, a success is attributed
to the command it answers exactly if the settings last asked for the same on a valid
slot, and a command from the dialer can be told. -/
theorem attributed_iff {P : SsPlatform} {simSlotCount : Int} {record : CallForwardingInfo}
    {s : ForwardingState} {h : Forwardings}
    (hrun : Run (forwardingMachine P simSlotCount record) (forwardings P simSlotCount record)
      FreshIndex s h)
    {q : ForwardingRequest} (hq : q ∈ h.outstanding) {r : SsBaseResult}
    (hindex : r.index = q.index) (hsuccess : r.result = telephonySuccess) :
    Attributed q.command (s.respond P q.command.slotId r).2 ↔ q.command.Recorded P h.asked := by
  have hinv := forwardingInvariant_of_run hrun
  obtain ⟨saved, hget, hsaved⟩ := hinv.saved q hq
  rw [← hindex] at hget
  unfold ForwardingState.respond
  dsimp only
  rw [setCallTransferInfoResponse_success ((hinv.nonneg _).saved _ _ hget) hget hsuccess,
    hinv.record]
  exact attributed_iff_recorded hsaved rfl

/-- A number registered in the settings, and answered before the settings ask for
anything else. -/
theorem attributed_registration :
    Attributed ⟨1, true, ['5'], 0, false, false⟩
      (ForwardingState.respond .plain
        (exec (forwardingMachine .plain 2 ⟨0, false, []⟩) (forwardings .plain 2 ⟨0, false, []⟩)
          (forwardingMachine .plain 2 ⟨0, false, []⟩).init
          (forwardings .plain 2 ⟨0, false, []⟩).init
          [.settings 1 ⟨true, true, 1⟩ ⟨['5'], callTransferRegistration, 0, 0, 0, 0, 0⟩ true]).1
        1 ⟨1, 0, 0, []⟩).2 := by
  have hrun := Run.of_admits (M := forwardingMachine .plain 2 ⟨0, false, []⟩)
    (H := forwardings .plain 2 ⟨0, false, []⟩) (C := FreshIndex)
    [.settings 1 ⟨true, true, 1⟩ ⟨['5'], callTransferRegistration, 0, 0, 0, 0, 0⟩ true]
    (by decide)
  exact (attributed_iff hrun
    (show (⟨1, ⟨1, true, ['5'], 0, false, false⟩⟩ : ForwardingRequest) ∈ _ by decide)
    rfl rfl).mpr (by unfold ForwardingCommand.Recorded; decide)

/-- A number registered from the dialer, when the settings have asked for nothing:
what is stored is that the slot the record starts with is off. -/
theorem not_attributed :
    ¬∀ (P : SsPlatform) (simSlotCount : Int) (record : CallForwardingInfo) (s : ForwardingState)
        (h : Forwardings),
      Run (forwardingMachine P simSlotCount record) (forwardings P simSlotCount record)
        unconditional s h →
      ∀ q ∈ h.outstanding, ∀ r : SsBaseResult, r.index = q.index → r.result = telephonySuccess →
        Attributed q.command (s.respond P q.command.slotId r).2 := by
  intro hclaim
  have hrun := Run.of_admits (M := forwardingMachine .plain 2 ⟨0, false, []⟩)
    (H := forwardings .plain 2 ⟨0, false, []⟩) (C := unconditional)
    [.dialer 1 ⟨true, true, 1⟩ ⟨['*', '*'], "21".toList, ['5'], []⟩] (by decide)
  have hattributed := hclaim _ _ _ _ _ hrun ⟨1, ⟨1, true, ['5'], 0, true, false⟩⟩ (by decide)
    ⟨1, 0, 0, []⟩ rfl rfl
  exact absurd hattributed.stored (by decide)

end CellularCall
