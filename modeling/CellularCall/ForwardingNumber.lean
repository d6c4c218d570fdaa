import CellularCall.SsReports
import Mathlib.Data.List.Infix

/-!
# The number of a call-forwarding query

A query of the settings says whether it wants the numbers calls are forwarded to.
The wish is saved with the command, `GetSsRequestCommand` copies the command when the
response comes, and `BuildCallForwardQueryInfo` puts the numbers in or leaves them
out.

`numbersAsAsked_iff` says when the wish is met.
-/

namespace CellularCall

open Lib

/-- The numbers of the results that an application gets of its query. -/
def SsReport.transferNumbers (reports : List SsReport) : List Str :=
  reports.filterMap fun
    | .getTransfer response => some response.number
    | _ => none

/-- The entries of a response that are reported, those of the voice class. -/
def CallForwardQueryInfoList.voiceCalls (cFQueryList : CallForwardQueryInfoList) :
    List CallForwardQueryResult :=
  cFQueryList.calls.filter fun call =>
    decide (CellularCallSupplement.IsVoiceClass call.classx)

/-- The number the result of an entry should have. -/
def CallForwardQueryResult.numberFor (call : CallForwardQueryResult)
    (isIncludeCallForwardingNumber : Bool) : Str :=
  if isIncludeCallForwardingNumber then cStr call.number else []

/-- The results of the entries, which come last, have the numbers they should. -/
def NumbersAsAsked (isIncludeCallForwardingNumber : Bool)
    (cFQueryList : CallForwardQueryInfoList) (reports : List SsReport) : Prop :=
  cFQueryList.voiceCalls.map (·.numberFor isIncludeCallForwardingNumber) <:+
    SsReport.transferNumbers reports

/-! ## The copy of a command -/

/-- A copy is the command that was saved exactly if that has the default in the field
that is not copied. -/
theorem SsTable.getSsRequestCommand_eq_iff {t : SsTable} {index : Int}
    {command : SsRequestCommand} (hget : t.utCommandMap.get? index = some command) :
    t.getSsRequestCommand index .default = some command ↔
      command.isIncludeCallForwardingNumber = false := by
  rw [SsTable.getSsRequestCommand_of_get? hget, Option.some.injEq]
  constructor
  · intro heq
    rw [← heq]
  · intro hfalse
    rw [← hfalse]

/-! ## What is built of a response -/

@[simp] theorem SsReport.transferNumbers_append (a b : List SsReport) :
    transferNumbers (a ++ b) = transferNumbers a ++ transferNumbers b :=
  List.filterMap_append

namespace CellularCallSupplement

variable {P : SsPlatform} {flag : Int}

/-- Without its number, an entry is always reported. -/
theorem transferNumbers_buildCallForwardQueryInfo (hflag : flag ≠ ssFromMmiCode)
    (queryResult : CallForwardQueryResult) (message : Str) :
    SsReport.transferNumbers (buildCallForwardQueryInfo P queryResult message flag false) =
      [[]] := by
  have hcopy : strcpyS P.transferNumberSize [] = some [] := if_pos P.transferNumberSize_pos
  unfold buildCallForwardQueryInfo
  rw [if_neg Bool.false_ne_true, hcopy]
  dsimp only
  rw [byFlag, if_neg hflag]
  rfl

/-- Without their numbers, the entries of the voice class are reported. -/
theorem transferNumbers_voiceCalls (hflag : flag ≠ ssFromMmiCode) (message : Str)
    (calls : List CallForwardQueryResult) :
    SsReport.transferNumbers (calls.flatMap fun queryResult =>
        if IsVoiceClass queryResult.classx then
          buildCallForwardQueryInfo P queryResult message flag false
        else []) =
      (calls.filter fun call => decide (IsVoiceClass call.classx)).map fun _ => [] := by
  induction calls with
  | nil => rfl
  | cons call calls ih =>
    rw [List.flatMap_cons, SsReport.transferNumbers_append, ih]
    by_cases hvoice : IsVoiceClass call.classx
    · rw [if_pos hvoice, transferNumbers_buildCallForwardQueryInfo hflag, List.filter_cons,
        if_pos (decide_eq_true hvoice)]
      rfl
    · rw [if_neg hvoice, List.filter_cons, if_neg (mt of_decide_eq_true hvoice)]
      rfl

/-- Without the numbers, the results end with those of the entries. -/
theorem transferNumbers_eventGetCallTransferInfo (hflag : flag ≠ ssFromMmiCode)
    (cFQueryList : CallForwardQueryInfoList) (message : Str) :
    ∃ failed, SsReport.transferNumbers
        (eventGetCallTransferInfo P cFQueryList message flag false) =
      failed ++ cFQueryList.voiceCalls.map fun _ => [] := by
  unfold eventGetCallTransferInfo
  dsimp only
  rw [SsReport.transferNumbers_append, transferNumbers_voiceCalls hflag]
  exact ⟨_, rfl⟩

end CellularCallSupplement

namespace CellularCallHandler

variable {P : SsPlatform} {slotId : Int} {t : SsTable} {command : SsRequestCommand}

/-- The status of call forwarding is no result of a query. -/
theorem transferNumbers_handleCallTransferQueryResult (cFQueryList : CallForwardQueryInfoList) :
    SsReport.transferNumbers (handleCallTransferQueryResult slotId cFQueryList) = [] := by
  unfold handleCallTransferQueryResult
  split <;> rfl

/-- A response to a command that is saved is reported without numbers. -/
theorem transferNumbers_getCallTransferResponse {cFQueryList : CallForwardQueryInfoList}
    (hindex : 0 ≤ cFQueryList.result.index)
    (hget : t.utCommandMap.get? cFQueryList.result.index = some command)
    (hflag : command.flag ≠ ssFromMmiCode) :
    ∃ failed, SsReport.transferNumbers (getCallTransferResponse P slotId t cFQueryList).2 =
      failed ++ cFQueryList.voiceCalls.map fun _ => [] := by
  unfold getCallTransferResponse
  dsimp only
  rw [SsTable.getSsRequestCommand_of_get? hget, withFlag_of_get? hindex hget]
  simp only [Option.map_some, Option.getD_some, SsReport.transferNumbers_append]
  obtain ⟨failed, hfailed⟩ :=
    CellularCallSupplement.transferNumbers_eventGetCallTransferInfo (P := P) hflag
      { cFQueryList with result := { cFQueryList.result with reason := command.cfReason } }
      cFQueryList.result.message
  have hstatus : SsReport.transferNumbers (if IsStatusReason command.cfReason then
      handleCallTransferQueryResult slotId
        { cFQueryList with result := { cFQueryList.result with reason := command.cfReason } }
      else []) = [] := by
    split
    · exact transferNumbers_handleCallTransferQueryResult _
    · rfl
  refine ⟨failed, ?_⟩
  rw [hfailed, hstatus, List.append_nil]
  rfl

end CellularCallHandler

/-! ## When the wish is met -/

/-- Lists of one length that end the same list are equal. -/
theorem map_suffix_append_map_iff {α β : Type} {f g : α → β} {xs : List α} {ys : List β} :
    xs.map f <:+ ys ++ xs.map g ↔ ∀ x ∈ xs, f x = g x := by
  constructor
  · intro h
    obtain ⟨before, heq⟩ := h
    have hsame := (List.append_inj' heq (by rw [List.length_map, List.length_map])).2
    exact List.map_inj_left.mp hsame
  · intro h
    exact ⟨ys, by rw [List.map_inj_left.mpr h]⟩

/-- A query of the settings is saved as one of theirs. -/
theorem flag_of_getCallTransferInfo {P : SsPlatform} {net : SsNetwork} {slotId type : Int}
    {b : Bool} {sent : SsSent} {saved : SsRequestCommand}
    (hissue : (SsCommand.getCallTransferInfo type b).issue P net slotId = .sent sent saved) :
    saved.flag = ssFromSettingMenu := by
  unfold SsCommand.issue CellularCallSupplement.getCallTransferInfo at hissue
  cases sent with
  | ims request =>
    obtain ⟨-, rfl⟩ := CellularCallSupplement.fromSetting_eq_ims net hissue
    rfl
  | cs request =>
    obtain ⟨-, rfl⟩ := CellularCallSupplement.fromSetting_eq_cs net hissue
    rfl

/-- A command is copied as it was saved exactly if it does not ask for numbers, and the
results of a query of the settings have the numbers it asked for exactly if it asked
for none or there are none. -/
theorem numbersAsAsked_iff (P : SsPlatform) (net : SsNetwork) (t : SsTable) :
    (∀ (index : Int) (command : SsRequestCommand), t.utCommandMap.get? index = some command →
      (t.getSsRequestCommand index .default = some command ↔
        command.isIncludeCallForwardingNumber = false)) ∧
    ∀ (slotId type : Int) (b : Bool) (sent : SsSent) (saved : SsRequestCommand) (h : SsHistory)
      (cFQueryList : CallForwardQueryInfoList),
      (SsCommand.getCallTransferInfo type b).issue P net slotId = .sent sent saved →
      Run ssMachine ssRequests unconditional t h →
      t.utCommandMap.get? cFQueryList.result.index = some saved →
      (NumbersAsAsked b cFQueryList
          (CellularCallHandler.getCallTransferResponse P slotId t cFQueryList).2 ↔
        b = false ∨ ∀ call ∈ cFQueryList.calls,
          CellularCallSupplement.IsVoiceClass call.classx → cStr call.number = []) := by
  refine ⟨fun index command hget => SsTable.getSsRequestCommand_eq_iff hget, ?_⟩
  intro slotId type b sent saved h cFQueryList hissue hrun hget
  have hflag : saved.flag ≠ ssFromMmiCode := by
    rw [flag_of_getCallTransferInfo hissue]
    decide
  have hindex : 0 ≤ cFQueryList.result.index := (SsTable.nonneg_of_run hrun).saved _ _ hget
  obtain ⟨failed, hnumbers⟩ :=
    CellularCallHandler.transferNumbers_getCallTransferResponse (P := P) hindex
      hget hflag
  rw [NumbersAsAsked, hnumbers, map_suffix_append_map_iff]
  simp only [CallForwardQueryInfoList.voiceCalls, List.mem_filter, decide_eq_true_eq, and_imp,
    CallForwardQueryResult.numberFor]
  cases b with
  | false => simp
  | true => simp

/-- A query without numbers, answered with an entry that has one. -/
theorem numbersAsAsked_without :
    NumbersAsAsked false ⟨⟨1, 0, 0, []⟩, 1, 0, [⟨0, 0, 1, 1, ['1', '0'], 129, 0, 0, 0, 0, 0, 0⟩]⟩
      (CellularCallHandler.getCallTransferResponse .plain 0
        (exec ssMachine ssRequests SsTable.init SsHistory.init
          [.requestIndex, .send 0 { SsRequestCommand.default with flag := ssFromSettingMenu },
            .save 0 { SsRequestCommand.default with flag := ssFromSettingMenu } 1]).1
        ⟨⟨1, 0, 0, []⟩, 1, 0, [⟨0, 0, 1, 1, ['1', '0'], 129, 0, 0, 0, 0, 0, 0⟩]⟩).2 := by
  have hissue : (SsCommand.getCallTransferInfo 0 false).issue .plain ⟨true, true, 1⟩ 0 =
    .sent (.ims (.getCallTransfer 0 0))
      { SsRequestCommand.default with flag := ssFromSettingMenu } := rfl
  exact ((numbersAsAsked_iff .plain _ _).2 0 0 false _ _ _
    ⟨⟨1, 0, 0, []⟩, 1, 0, [⟨0, 0, 1, 1, ['1', '0'], 129, 0, 0, 0, 0, 0, 0⟩]⟩ hissue
    (Run.of_admits _ (by decide)) (by decide)).mpr (Or.inl rfl)

/-- A query with numbers is answered with an entry that has one, and the result has
none. -/
theorem not_numbersAsAsked :
    ¬∀ (P : SsPlatform) (net : SsNetwork) (slotId type : Int) (b : Bool) (sent : SsSent)
      (saved : SsRequestCommand) (t : SsTable) (h : SsHistory)
      (cFQueryList : CallForwardQueryInfoList),
      (SsCommand.getCallTransferInfo type b).issue P net slotId = .sent sent saved →
      Run ssMachine ssRequests unconditional t h →
      t.utCommandMap.get? cFQueryList.result.index = some saved →
      NumbersAsAsked b cFQueryList
        (CellularCallHandler.getCallTransferResponse P slotId t cFQueryList).2 := by
  intro hclaim
  have hissue : (SsCommand.getCallTransferInfo 0 true).issue .plain ⟨true, true, 1⟩ 0 =
    .sent (.ims (.getCallTransfer 0 0))
      { SsRequestCommand.default with
        flag := ssFromSettingMenu
        isIncludeCallForwardingNumber := true } := rfl
  have hasked := hclaim .plain _ 0 0 true _ _ _ _
    ⟨⟨1, 0, 0, []⟩, 1, 0, [⟨0, 0, 1, 1, ['1', '0'], 129, 0, 0, 0, 0, 0, 0⟩]⟩ hissue
    (Run.of_admits (M := ssMachine) (H := ssRequests)
      [.requestIndex,
        .send 0 { SsRequestCommand.default with
          flag := ssFromSettingMenu
          isIncludeCallForwardingNumber := true },
        .save 0 { SsRequestCommand.default with
          flag := ssFromSettingMenu
          isIncludeCallForwardingNumber := true } 1] (by decide)) (by decide)
  revert hasked
  unfold NumbersAsAsked
  decide

end CellularCall
