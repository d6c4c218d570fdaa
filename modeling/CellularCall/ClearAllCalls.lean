import CellularCall.HangUpAll
import CellularCall.ReportIdentity

/-!
# Clearing all calls

After a restart the call manager may still know calls of before, and
`ClearAllCalls` ends those it lists: for each slot both controls report their
listed calls disconnected, and the IMS control takes up a connection for each of
them and rejects all it has.  `clearAllCalls_slot` says that a slot sees of this
its own event, the one of `slotMachine`.

`cleared_iff_of_run` says when everything listed has ended.  What is in the way
is the mode of the reported calls: the IMS control reads it off the call type,
so that it is video for every call.
-/

namespace CellularCall

open Lib CallTable

/-! ## One slot -/

namespace Slot

/-- `SetControl`: a control for the domain of a call. -/
def setControl (s : Slot) (callType : CallType) : Slot :=
  match callType with
  | .cs => { s with csControl := s.csControl.or (some CallTable.fresh) }
  | .ims => { s with imsControl := s.imsControl.or (some IMSControl.fresh) }
  | _ => s

/-- What `HangUpWithCellularCallRestart` does in one slot. -/
def hangUpWithCellularCallRestart (P : Platform) (slotId : Int) (s : Slot) (service : ImsService)
    (infos : List CellularCallInfo) : Slot × List Output :=
  let (csControl, csOutputs) :=
    match s.csControl with
    | none => (none, [])
    | some c =>
      let (c, outputs) := c.reportHangUp P slotId infos
      (some c, outputs ++ CSControl.hangUpAllConnection)
  let (imsControl, imsOutputs) :=
    match s.imsControl with
    | none => (none, [])
    | some c =>
      let outputs := IMSControl.reportHangUp P slotId infos
      let c := c.restoreConnection slotId infos
      let outputs := outputs ++ c.hangUpAllConnection service
      (some { c with toCallTable := CallTable.releaseAllConnection c.toCallTable }, outputs)
  ({ s with csControl := csControl, imsControl := imsControl }, csOutputs ++ imsOutputs)

end Slot

/-! ## The service -/

namespace Service

def setSlot (sv : Service) (slotId : Int) (s : Slot) : Service :=
  { sv with slots := Function.update sv.slots slotId s }

/-- `CellularCallService::SetControl`. -/
def setControl (slotCount : Int) (sv : Service) (info : CellularCallInfo) : Service :=
  if isValidSlotId slotCount info.slotId then
    sv.setSlot info.slotId ((sv.slots info.slotId).setControl info.callType)
  else sv

/-- The loop of `HangUpWithCellularCallRestart`. -/
def hangUpWithCellularCallRestart (P : Platform) (service : ImsService)
    (infos : List CellularCallInfo) : List Int → Service → Service × List (Int × Output)
  | [], sv => (sv, [])
  | slotId :: later, sv =>
    let (s, outputs) := (sv.slots slotId).hangUpWithCellularCallRestart P slotId service infos
    let (sv, sent) := hangUpWithCellularCallRestart P service infos later (sv.setSlot slotId s)
    (sv, outputs.map (Prod.mk slotId) ++ sent)

/-- `CellularCallService::ClearAllCalls`. -/
def clearAllCalls (P : Platform) (slotCount : Int) (sv : Service) (service : ImsService)
    (infos : List CellularCallInfo) : RetCode × Service × List (Int × Output) :=
  if infos = [] then (.errArgumentInvalid, sv, [])
  else
    let sv := infos.foldl (setControl slotCount) sv
    let (sv, sent) := hangUpWithCellularCallRestart P service infos (getSlotInfo slotCount) sv
    (.success, sv, sent)

end Service

/-! ## A slot in the service -/

namespace Slot

/-- The controls of a slot once `SetControl` has seen the list. -/
theorem foldl_setControl (slotId : Int) (infos : List CellularCallInfo) (s : Slot) :
    infos.foldl (fun s info => if info.slotId = slotId then s.setControl info.callType else s) s =
      { s with
        csControl := s.csControl.or
          (if infos.any (fun info => info.callType == .cs && info.slotId == slotId)
            then some CallTable.fresh else none)
        imsControl := s.imsControl.or
          (if infos.any (fun info => info.callType == .ims && info.slotId == slotId)
            then some IMSControl.fresh else none) } := by
  induction infos generalizing s with
  | nil => simp
  | cons info infos ih =>
    rw [List.foldl_cons, ih, List.any_cons, List.any_cons]
    by_cases hslot : info.slotId = slotId
    · rw [if_pos hslot]
      cases hs : s.csControl <;> cases hi : s.imsControl <;> cases ht : info.callType <;>
        simp [setControl, hslot, hs, hi]
    · rw [if_neg hslot]
      simp [hslot]

theorem clearAllCalls_eq (P : Platform) (slotId : Int) (s : Slot) (service : ImsService)
    {infos : List CellularCallInfo} (hinfos : infos ≠ []) :
    s.clearAllCalls P slotId service infos =
      let s := infos.foldl (fun s info =>
        if info.slotId = slotId then s.setControl info.callType else s) s
      let result := s.hangUpWithCellularCallRestart P slotId service infos
      (result.1, result.2 ++ [.returned .success]) := by
  rw [clearAllCalls, if_neg hinfos, foldl_setControl]
  rfl

end Slot

namespace Service

theorem slots_setSlot_self (sv : Service) (slotId : Int) (s : Slot) :
    (sv.setSlot slotId s).slots slotId = s := Function.update_self _ _ _

theorem slots_setSlot_of_ne (sv : Service) {slotId a : Int} (ha : a ≠ slotId) (s : Slot) :
    (sv.setSlot slotId s).slots a = sv.slots a := Function.update_of_ne ha _ _

theorem slots_setControl {slotCount slotId : Int} (hvalid : isValidSlotId slotCount slotId = true)
    (sv : Service) (info : CellularCallInfo) :
    (sv.setControl slotCount info).slots slotId =
      if info.slotId = slotId then (sv.slots slotId).setControl info.callType
      else sv.slots slotId := by
  unfold setControl
  by_cases hslot : info.slotId = slotId
  · rw [if_pos hslot, hslot, if_pos hvalid, slots_setSlot_self]
  · rw [if_neg hslot]
    split
    · exact slots_setSlot_of_ne sv (Ne.symm hslot) _
    · rfl

theorem slots_foldl_setControl {slotCount slotId : Int}
    (hvalid : isValidSlotId slotCount slotId = true) (infos : List CellularCallInfo)
    (sv : Service) :
    (infos.foldl (setControl slotCount) sv).slots slotId =
      infos.foldl (fun s info => if info.slotId = slotId then s.setControl info.callType else s)
        (sv.slots slotId) := by
  induction infos generalizing sv with
  | nil => rfl
  | cons info infos ih => rw [List.foldl_cons, List.foldl_cons, ih, slots_setControl hvalid]

/-- A round of the loop for one slot leaves the other slots alone, so each slot
has its round from the state before the loop. -/
theorem hangUpWithCellularCallRestart_spec (P : Platform) (service : ImsService)
    (infos : List CellularCallInfo) {slots : List Int} (hslots : slots.Nodup) (sv : Service) :
    let result := hangUpWithCellularCallRestart P service infos slots sv
    let round := fun slotId =>
      (sv.slots slotId).hangUpWithCellularCallRestart P slotId service infos
    (∀ slotId ∈ slots, result.1.slots slotId = (round slotId).1) ∧
      (∀ slotId ∉ slots, result.1.slots slotId = sv.slots slotId) ∧
      result.2 = slots.flatMap fun slotId => (round slotId).2.map (Prod.mk slotId) := by
  induction slots generalizing sv with
  | nil => exact ⟨fun _ hslot => (nomatch hslot), fun _ _ => rfl, rfl⟩
  | cons slotId later ih =>
    obtain ⟨hslotId, hlater⟩ := List.nodup_cons.mp hslots
    obtain ⟨hin, hout, hsent⟩ := ih hlater
      (sv.setSlot slotId ((sv.slots slotId).hangUpWithCellularCallRestart P slotId service infos).1)
    have hne : ∀ a ∈ later, a ≠ slotId := fun a ha heq => hslotId (heq ▸ ha)
    refine ⟨fun a ha => ?_, fun a ha => ?_, ?_⟩
    · rcases List.mem_cons.mp ha with rfl | ha
      · exact (hout a hslotId).trans (slots_setSlot_self _ _ _)
      · have hround := hin a ha
        dsimp only at hround
        rw [slots_setSlot_of_ne sv (hne a ha)] at hround
        exact hround
    · obtain ⟨hself, hlater⟩ := not_or.mp (mt List.mem_cons.mpr ha)
      exact (hout a hlater).trans (slots_setSlot_of_ne sv hself _)
    · rw [List.flatMap_cons]
      refine congrArg (_ ++ ·) (hsent.trans (List.flatMap_congr fun a ha => ?_))
      dsimp only
      rw [slots_setSlot_of_ne sv (hne a ha)]

/-- A slot sees its own event. -/
theorem clearAllCalls_slot (P : Platform) {slotCount slotId : Int}
    (hslot : slotId ∈ getSlotInfo slotCount) (sv : Service) (service : ImsService)
    {infos : List CellularCallInfo} (hinfos : infos ≠ []) :
    let result := sv.clearAllCalls P slotCount service infos
    let event := (sv.slots slotId).clearAllCalls P slotId service infos
    result.2.1.slots slotId = event.1 ∧
      sentTo slotId result.2.2 ++ [.returned .success] = event.2 := by
  obtain ⟨hin, -, hsent⟩ := hangUpWithCellularCallRestart_spec P service infos
    (nodup_getSlotInfo slotCount) (infos.foldl (setControl slotCount) sv)
  have hround := slots_foldl_setControl (mem_getSlotInfo_iff.mp hslot) infos sv
  rw [Slot.clearAllCalls_eq P slotId _ service hinfos, ← hround, clearAllCalls, if_neg hinfos]
  refine ⟨hin slotId hslot, ?_⟩
  dsimp only
  rw [hsent, sentTo_flatMap slotId id (fun a p hp => ?_) (nodup_getSlotInfo slotCount)]
  · rw [id, if_pos hslot, sentTo_map_mk, if_pos rfl]
  · obtain ⟨_, -, rfl⟩ := List.mem_map.mp hp
    rfl

end Service

/-! ## What clearing is for -/

/-- The calls of a domain that the list has for a slot. -/
def listed (callType : CallType) (slotId : Int) (infos : List CellularCallInfo) :
    List CellularCallInfo :=
  infos.filter fun info => info.callType == callType && info.slotId == slotId

/-- The mode that `videoState` stands for. -/
def videoMode (videoState : Int) : VideoStateType := if videoState = 0 then .voice else .video

/-- What the call manager is to be told of a listed call. -/
def endedEntry (P : Platform) (info : CellularCallInfo) : CallReportInfo :=
  { P.defaultCallReportInfo with
    accountNum := cStr info.phoneNum
    index := info.index
    accountId := info.slotId
    callType := info.callType
    callMode := videoMode info.videoState
    state := .disconnected }

/-- The entries of all reports. -/
def reportedEntries (outputs : List Output) : List CallReportInfo :=
  (Output.reports outputs).flatMap fun r => r.2.callVec

/-- The slot is cleared of its listed calls: each has been reported
disconnected, each IMS call rejected at the IMS service, and nothing is
tracked. -/
structure Cleared (P : Platform) (slotId : Int) (infos : List CellularCallInfo) (s : Slot)
    (outputs : List Output) : Prop where
  reports : (reportedEntries outputs).Perm
    ((listed .cs slotId infos ++ listed .ims slotId infos).map (endedEntry P))
  rejects : ∀ info ∈ listed .ims slotId infos,
    outputs.count (.imsRejectRequest (cStr info.phoneNum) info.index) = 1
  cs : s.csOrFresh.connectionMap = ∅
  ims : s.imsOrFresh.connectionMap = ∅

/-- The connection a listed IMS call is rejected through has its number: the one
tracked under its index, or else the one taken up for the first listed call with
that index. -/
structure KnownAs (s : Slot) (slotId : Int) (infos : List CellularCallInfo)
    (info : CellularCallInfo) : Prop where
  tracked : ∀ c, s.imsOrFresh.connectionMap.get? info.index = some c → c.number = cStr info.phoneNum
  listed : ∀ other ∈ listed .ims slotId infos, other.index = info.index →
    cStr other.phoneNum = cStr info.phoneNum

/-- The listed calls are CS voice calls and IMS video calls with numbers that
fit, the IMS service takes the rejects, and a slot for which nothing is asked has
nothing to clear. -/
structure Clearable (P : Platform) (service : ImsService) (slotId : Int)
    (infos : List CellularCallInfo) (s : Slot) : Prop where
  cs : ∀ info ∈ listed .cs slotId infos, info.videoState = 0 ∧ Fits P info.phoneNum
  ims : ∀ info ∈ listed .ims slotId infos, info.videoState ≠ 0 ∧ Fits P info.phoneNum
  rejects : ∀ info ∈ listed .ims slotId infos,
    service.Accepts (cStr info.phoneNum) ∧ KnownAs s slotId infos info
  nonempty : infos = [] → s.csOrFresh.connectionMap = ∅ ∧ s.imsOrFresh.connectionMap = ∅

/-! ## The rejects -/

/-- The index of the call that a request rejects. -/
def Output.rejectedIndex : Output → Option Int
  | .imsRejectRequest _ index => some index
  | _ => none

namespace IMSControl

/-- The connection `RestoreConnection` takes up for a call. -/
def restored (info : CellularCallInfo) : CellularCallConnectionIMS :=
  ((Connection.fresh ImsPart.fresh).setIndex info.index).setNumber (cStr info.phoneNum)

/-- A connection that is tracked stays; else the first listed call with the
index gets one. -/
theorem get?_restoreConnection (slotId : Int) (t : IMSControl) (infos : List CellularCallInfo)
    (i : Int) :
    (t.restoreConnection slotId infos).connectionMap.get? i =
      (t.connectionMap.get? i).or
        (((listed .ims slotId infos).find? fun info => decide (info.index = i)).map restored) :=
  OrdMap.get?_foldl_insertNew CellularCallInfo.index restored (listed .ims slotId infos)
    t.connectionMap i

theorem keyed_restoreConnection {slotId : Int} {t : IMSControl} (ht : Keyed t.connectionMap)
    (infos : List CellularCallInfo) :
    Keyed (t.restoreConnection slotId infos).connectionMap := by
  intro i c hc
  rw [get?_restoreConnection, Option.or_eq_some_iff] at hc
  rcases hc with hc | ⟨-, hc⟩
  · exact ht i c hc
  · obtain ⟨info, hfind, rfl⟩ := Option.map_eq_some_iff.mp hc
    have hindex := List.find?_some hfind
    exact of_decide_eq_true hindex

/-- A table in which each connection has its own index sends no reject twice. -/
theorem nodup_hangUpAllConnection (service : ImsService) {t : IMSControl}
    (ht : Keyed t.connectionMap) : (t.hangUpAllConnection service).Nodup := by
  rw [hangUpAllConnection_eq]
  refine List.Nodup.of_map Output.rejectedIndex ?_
  have hindex : t.connectionMap.values.map (Output.rejectedIndex ∘ ownReject) =
      t.connectionMap.keys.map some :=
    OrdMap.map_values_eq fun k c hc => congrArg some (ht k c hc)
  have hkeys : (t.connectionMap.keys.map some).Nodup :=
    t.connectionMap.nodup_keys.map (Option.some_injective _)
  rw [List.map_map]
  exact (hindex ▸ hkeys).sublist (List.filter_sublist.map _)

/-- The call with a number and an index is rejected once if the connection with
that index has the number and the reject is accepted. -/
theorem count_hangUpAllConnection_iff (service : ImsService) {t : IMSControl}
    (ht : Keyed t.connectionMap) (number : Str) (index : Int) :
    (t.hangUpAllConnection service).count (.imsRejectRequest number index) = 1 ↔
      service.Accepts number ∧
        ∃ c, t.connectionMap.get? index = some c ∧ c.number = number := by
  have hmem : .imsRejectRequest number index ∈ t.hangUpAllConnection service ↔
      service.Accepts number ∧
        ∃ c, t.connectionMap.get? index = some c ∧ c.number = number := by
    rw [hangUpAllConnection_eq, List.mem_map]
    refine ⟨fun ⟨c, hc, hreject⟩ => ?_, fun ⟨haccepts, c, hc, hnumber⟩ => ⟨c, ?_, ?_⟩⟩
    · obtain ⟨hvalues, haccepts⟩ := List.mem_filter.mp hc
      obtain ⟨k, hk⟩ := OrdMap.mem_values_iff.mp hvalues
      obtain ⟨rfl, rfl⟩ := Output.imsRejectRequest.inj hreject
      exact ⟨of_decide_eq_true haccepts, c, ht k c hk ▸ hk, rfl⟩
    · exact List.mem_filter.mpr ⟨OrdMap.mem_values_iff.mpr ⟨index, hc⟩,
        decide_eq_true (hnumber ▸ haccepts)⟩
    · rw [ownReject, hnumber, ht index c hc]
  rw [← hmem]
  refine ⟨fun hcount => List.count_pos_iff.mp (by omega), fun hin => ?_⟩
  exact List.count_eq_one_of_mem (nodup_hangUpAllConnection service ht) hin

end IMSControl

/-! ## The reports -/

theorem cStr_take {s : Str} {n : Nat} (h : (cStr s).length ≤ n) : cStr (s.take n) = cStr s := by
  rw [cStr, ← List.take_takeWhile]
  exact List.take_of_length_le h

theorem length_cStr_take_le (s : Str) (n : Nat) : (cStr (s.take n)).length ≤ n :=
  (List.takeWhile_sublist _).length_le.trans (List.length_take_le n s)

/-- The entry of a control that reports every call of its domain with one
mode. -/
def entryAs (P : Platform) (callType : CallType) (callMode : VideoStateType)
    (info : CellularCallInfo) : CallReportInfo :=
  { P.defaultCallReportInfo with
    accountNum := cStr (info.phoneNum.take P.kMaxNumberLen)
    index := info.index
    accountId := info.slotId
    callType := callType
    callMode := callMode
    state := .disconnected }

section
variable {P : Platform} {callType : CallType} {callMode : VideoStateType} {slotId : Int}
  {infos : List CellularCallInfo} {info other : CellularCallInfo}

theorem entryAs_eq_endedEntry (hdomain : info.callType = callType)
    (hmode : videoMode info.videoState = callMode) (hfits : Fits P info.phoneNum) :
    entryAs P callType callMode info = endedEntry P info := by
  rw [entryAs, endedEntry, cStr_take hfits, hdomain, hmode]

theorem of_endedEntry_eq (h : endedEntry P info = entryAs P callType callMode other) :
    info.callType = callType ∧ videoMode info.videoState = callMode ∧ Fits P info.phoneNum := by
  refine ⟨congrArg CallReportInfo.callType h, congrArg CallReportInfo.callMode h, ?_⟩
  have hnumber : cStr info.phoneNum = cStr (other.phoneNum.take P.kMaxNumberLen) :=
    congrArg CallReportInfo.accountNum h
  rw [Fits, hnumber]
  exact length_cStr_take_le _ _

theorem callType_of_mem_listed (h : info ∈ listed callType slotId infos) :
    info.callType = callType := by
  have hkept := (List.mem_filter.mp h).2
  rw [Bool.and_eq_true, beq_iff_eq] at hkept
  exact hkept.1

theorem videoMode_eq_voice_iff {videoState : Int} :
    videoMode videoState = .voice ↔ videoState = 0 := by
  unfold videoMode
  split_ifs with h <;> simp [h]

theorem videoMode_eq_video_iff {videoState : Int} :
    videoMode videoState = .video ↔ videoState ≠ 0 := by
  unfold videoMode
  split_ifs with h <;> simp [h]

/-- The controls report the listed calls as they should if and only if the CS
calls are voice and the IMS calls video, and the numbers fit. -/
theorem perm_endedEntries_iff :
    ((listed .cs slotId infos).map (CSControl.hangUpEntry P) ++
        (listed .ims slotId infos).map (IMSControl.hangUpEntry P)).Perm
          ((listed .cs slotId infos ++ listed .ims slotId infos).map (endedEntry P)) ↔
      (∀ info ∈ listed .cs slotId infos, info.videoState = 0 ∧ Fits P info.phoneNum) ∧
        ∀ info ∈ listed .ims slotId infos, info.videoState ≠ 0 ∧ Fits P info.phoneNum := by
  constructor
  · intro hperm
    -- the domain of an entry tells which control has sent it
    have hsent : ∀ info ∈ listed .cs slotId infos ++ listed .ims slotId infos,
        (∃ other, endedEntry P info = entryAs P .cs .voice other) ∨
          ∃ other, endedEntry P info = entryAs P .ims .video other := by
      intro info hinfo
      rcases List.mem_append.mp (hperm.mem_iff.mpr (List.mem_map_of_mem hinfo)) with h | h
      · obtain ⟨other, -, hother⟩ := List.mem_map.mp h
        exact .inl ⟨other, hother.symm⟩
      · obtain ⟨other, -, hother⟩ := List.mem_map.mp h
        exact .inr ⟨other, hother.symm⟩
    refine ⟨fun info hinfo => ?_, fun info hinfo => ?_⟩
    · have hcs := callType_of_mem_listed hinfo
      rcases hsent info (List.mem_append_left _ hinfo) with ⟨other, h⟩ | ⟨other, h⟩
      · obtain ⟨-, hmode, hfits⟩ := of_endedEntry_eq h
        exact ⟨videoMode_eq_voice_iff.mp hmode, hfits⟩
      · exact absurd (hcs.symm.trans (of_endedEntry_eq h).1) (by decide)
    · have hims := callType_of_mem_listed hinfo
      rcases hsent info (List.mem_append_right _ hinfo) with ⟨other, h⟩ | ⟨other, h⟩
      · exact absurd (hims.symm.trans (of_endedEntry_eq h).1) (by decide)
      · obtain ⟨-, hmode, hfits⟩ := of_endedEntry_eq h
        exact ⟨videoMode_eq_video_iff.mp hmode, hfits⟩
  · intro ⟨hcs, hims⟩
    rw [List.map_append]
    refine .of_eq (congrArg₂ _ (List.map_congr_left fun info hinfo => ?_)
      (List.map_congr_left fun info hinfo => ?_))
    · obtain ⟨hvoice, hfits⟩ := hcs info hinfo
      exact entryAs_eq_endedEntry (callType_of_mem_listed hinfo)
        (videoMode_eq_voice_iff.mpr hvoice) hfits
    · obtain ⟨hvideo, hfits⟩ := hims info hinfo
      exact entryAs_eq_endedEntry (callType_of_mem_listed hinfo)
        (videoMode_eq_video_iff.mpr hvideo) hfits

end

/-! ## The slot -/

namespace Slot

variable {P : Platform} {slotId : Int} {service : ImsService} {infos : List CellularCallInfo}
  {s : Slot}

theorem Holds.keyed_imsOrFresh {T : TableSpec} (hs : s.Holds T) :
    Keyed s.imsOrFresh.connectionMap := by
  unfold imsOrFresh
  cases ht : s.imsControl with
  | none => exact (CallTable.Holds.empty (J := T.ims)).keyed
  | some t => exact (hs.ims t ht).keyed

/-- `SetControl` has made a control for the domain of a listed call. -/
theorem any_of_mem_listed {callType : CallType} {info : CellularCallInfo}
    (hinfo : info ∈ listed callType slotId infos) :
    (infos.any fun info => info.callType == callType && info.slotId == slotId) = true := by
  obtain ⟨hmem, hkept⟩ := List.mem_filter.mp hinfo
  exact List.any_eq_true.mpr ⟨info, hmem, hkept⟩

/-- A domain without a control has no listed call. -/
theorem listed_of_or_eq_none {γ : Type} {control : Option γ} {fresh : γ} {callType : CallType}
    (h : control.or (if infos.any fun info => info.callType == callType && info.slotId == slotId
      then some fresh else none) = none) : listed callType slotId infos = [] := by
  obtain ⟨-, hnone⟩ := Option.or_eq_none_iff.mp h
  by_contra hlisted
  obtain ⟨info, hinfo⟩ := List.exists_mem_of_ne_nil _ hlisted
  rw [if_pos (any_of_mem_listed hinfo)] at hnone
  cases hnone

theorem reportedEntries_append (a b : List Output) :
    reportedEntries (a ++ b) = reportedEntries a ++ reportedEntries b := by
  simp [reportedEntries]

theorem reportedEntries_csReportHangUp (c : CSControl) :
    reportedEntries (c.reportHangUp P slotId infos).2 =
      (listed .cs slotId infos).map (CSControl.hangUpEntry P) :=
  List.append_nil _

theorem reportedEntries_imsReportHangUp :
    reportedEntries (IMSControl.reportHangUp P slotId infos) =
      (listed .ims slotId infos).map (IMSControl.hangUpEntry P) :=
  List.append_nil _

theorem reportedEntries_hangUpAllConnection (t : IMSControl) :
    reportedEntries (t.hangUpAllConnection service) = [] := by
  rw [reportedEntries,
    Output.reports_of_isReport (IMSControl.isReport_hangUpAllConnection service t)]
  rfl

theorem reportedEntries_clearAllCalls (hinfos : infos ≠ []) :
    reportedEntries (s.clearAllCalls P slotId service infos).2 =
      (listed .cs slotId infos).map (CSControl.hangUpEntry P) ++
        (listed .ims slotId infos).map (IMSControl.hangUpEntry P) := by
  have hcs : reportedEntries CSControl.hangUpAllConnection = [] := rfl
  have hreturned : reportedEntries [.returned .success] = [] := rfl
  rw [clearAllCalls, if_neg hinfos]
  dsimp only
  generalize hcsControl : s.csControl.or _ = csControl
  generalize himsControl : s.imsControl.or _ = imsControl
  rw [reportedEntries_append, reportedEntries_append, hreturned, List.append_nil]
  refine congrArg₂ _ ?_ ?_
  · cases csControl with
    | none => rw [listed_of_or_eq_none hcsControl]; rfl
    | some c =>
      dsimp only
      rw [reportedEntries_append, reportedEntries_csReportHangUp, hcs, List.append_nil]
  · cases imsControl with
    | none => rw [listed_of_or_eq_none himsControl]; rfl
    | some t =>
      dsimp only
      rw [reportedEntries_append, reportedEntries_imsReportHangUp,
        reportedEntries_hangUpAllConnection, List.append_nil]

/-- The rejects are those of the IMS control with its restored connections. -/
theorem count_clearAllCalls {info : CellularCallInfo} (hinfo : info ∈ listed .ims slotId infos)
    (number : Str) (index : Int) :
    (s.clearAllCalls P slotId service infos).2.count (.imsRejectRequest number index) =
      ((s.imsOrFresh.restoreConnection slotId infos).hangUpAllConnection service).count
        (.imsRejectRequest number index) := by
  have hinfos : infos ≠ [] := List.ne_nil_of_mem (List.mem_filter.mp hinfo).1
  have himsControl : s.imsControl.or (some .fresh) = some s.imsOrFresh := by
    unfold imsOrFresh
    cases s.imsControl <;> rfl
  rw [clearAllCalls, if_neg hinfos]
  dsimp only
  rw [if_pos (any_of_mem_listed hinfo), himsControl]
  cases s.csControl.or _ <;>
    simp [CSControl.reportHangUp, CSControl.hangUpAllConnection, IMSControl.reportHangUp]

/-- What is listed under one index can be rejected if and only if it is known by
one number. -/
theorem rejects_iff (hs : Keyed s.imsOrFresh.connectionMap) :
    (∀ info ∈ listed .ims slotId infos, (s.clearAllCalls P slotId service infos).2.count
      (.imsRejectRequest (cStr info.phoneNum) info.index) = 1) ↔
      ∀ info ∈ listed .ims slotId infos,
        service.Accepts (cStr info.phoneNum) ∧ KnownAs s slotId infos info := by
  have hkeyed : Keyed (s.imsOrFresh.restoreConnection slotId infos).connectionMap :=
    IMSControl.keyed_restoreConnection hs infos
  have hcount : ∀ info ∈ listed .ims slotId infos, ((s.clearAllCalls P slotId service infos).2.count
      (.imsRejectRequest (cStr info.phoneNum) info.index) = 1 ↔
      service.Accepts (cStr info.phoneNum) ∧
        ∃ c, (s.imsOrFresh.restoreConnection slotId infos).connectionMap.get? info.index = some c ∧
          c.number = cStr info.phoneNum) := fun info hinfo => by
    rw [count_clearAllCalls hinfo, IMSControl.count_hangUpAllConnection_iff service hkeyed]
  refine ⟨fun h info hinfo => ?_, fun h info hinfo => ?_⟩
  · obtain ⟨haccepts, c, hc, hnumber⟩ := (hcount info hinfo).mp (h info hinfo)
    refine ⟨haccepts, fun c' hc' => ?_, fun other hother hindex => ?_⟩
    · rw [IMSControl.get?_restoreConnection, hc', Option.some_or, Option.some.injEq] at hc
      rw [hc, hnumber]
    · obtain ⟨-, c', hc', hnumber'⟩ := (hcount other hother).mp (h other hother)
      rw [hindex, hc, Option.some.injEq] at hc'
      rw [← hnumber', ← hc', hnumber]
  · obtain ⟨haccepts, hknown⟩ := h info hinfo
    refine (hcount info hinfo).mpr ⟨haccepts, ?_⟩
    rw [IMSControl.get?_restoreConnection]
    cases htracked : s.imsOrFresh.connectionMap.get? info.index with
    | some c => exact ⟨c, rfl, hknown.tracked c htracked⟩
    | none =>
      -- the first listed call with the index, maybe another one
      cases hfind : (listed .ims slotId infos).find? fun other =>
          decide (other.index = info.index) with
      | none =>
        have hnot := List.find?_eq_none.mp hfind info hinfo
        simp at hnot
      | some first =>
        have hfirst := List.find?_some hfind
        exact ⟨_, rfl, hknown.listed first (List.mem_of_find?_eq_some hfind)
          (of_decide_eq_true hfirst)⟩

/-- A slot whose connections have their own indices is cleared by its event if
and only if what is listed can be. -/
theorem cleared_iff (hs : Keyed s.imsOrFresh.connectionMap) (hinfos : infos ≠ []) :
    Cleared P slotId infos (s.clearAllCalls P slotId service infos).1
        (s.clearAllCalls P slotId service infos).2 ↔
      Clearable P service slotId infos s := by
  have hreports := @reportedEntries_clearAllCalls P slotId service infos s hinfos
  constructor
  · intro h
    obtain ⟨hcs, hims⟩ := perm_endedEntries_iff.mp (hreports ▸ h.reports)
    exact ⟨hcs, hims, (rejects_iff hs).mp h.rejects, fun hempty => absurd hempty hinfos⟩
  · intro h
    refine ⟨?_, (rejects_iff hs).mpr h.rejects, ?_, ?_⟩
    · rw [hreports]
      exact perm_endedEntries_iff.mpr ⟨h.cs, h.ims⟩
    · rw [csOrFresh_clearAllCalls P slotId service hinfos]
    · rw [imsOrFresh_clearAllCalls P slotId service hinfos]

end Slot

/-- What the event returns is no part of the clearing. -/
theorem cleared_append_returned {P : Platform} {slotId : Int} {infos : List CellularCallInfo}
    {s : Slot} {outputs : List Output} {ret : RetCode} :
    Cleared P slotId infos s (outputs ++ [.returned ret]) ↔ Cleared P slotId infos s outputs := by
  have hentries : reportedEntries (outputs ++ [.returned ret]) = reportedEntries outputs :=
    (Slot.reportedEntries_append _ _).trans (List.append_nil _)
  have hcount : ∀ number index, (outputs ++ [Output.returned ret]).count
      (Output.imsRejectRequest number index) =
        outputs.count (Output.imsRejectRequest number index) := by
    intro number index
    rw [List.count_append]
    rfl
  refine ⟨fun h => ⟨hentries ▸ h.reports, fun info hinfo => ?_, h.cs, h.ims⟩,
    fun h => ⟨hentries ▸ h.reports, fun info hinfo => ?_, h.cs, h.ims⟩⟩
  · rw [← hcount]
    exact h.rejects info hinfo
  · rw [hcount]
    exact h.rejects info hinfo

/-! ## Every run -/

/-- The tables of all slots of a service are settled. -/
theorem settled_of_run {P : Platform} {sv : Service}
    (hrun : Run (serviceMachine P) .free unconditional sv ()) (slotId : Int) :
    (sv.slots slotId).Holds settledSpec := by
  refine hrun.invariant (I := fun sv _ => ∀ slotId, (sv.slots slotId).Holds settledSpec)
    (fun _ => Slot.Holds.init) (fun sv _ e hsv _ _ => ?_) slotId
  intro a
  show (if a = e.1 then _ else sv.slots a).Holds settledSpec
  split
  · have hslot : (sv.slot e.1).Holds settledSpec :=
      ⟨(hsv e.1).cs, (hsv e.1).ims, (hsv e.1).csList, (hsv e.1).imsList⟩
    exact Slot.holds_step (settledSpec_sound P e.1) hslot (settledSpec_admits e.2)
  · exact hsv a

/-- Whatever the service tracks, clearing the listed calls clears every slot if
and only if they are CS voice calls and IMS video calls with numbers that fit,
the IMS service takes the rejects, no index stands for two numbers, and an empty
list finds nothing to clear. -/
theorem cleared_iff_of_run (P : Platform) (slotCount : Int) (sv : Service)
    (hrun : Run (serviceMachine P) .free unconditional sv ()) (service : ImsService)
    (infos : List CellularCallInfo) :
    let result := sv.clearAllCalls P slotCount service infos
    (∀ slotId ∈ getSlotInfo slotCount,
      Cleared P slotId infos (result.2.1.slots slotId) (sentTo slotId result.2.2)) ↔
      ∀ slotId ∈ getSlotInfo slotCount,
        Clearable P service slotId infos (sv.slots slotId) := by
  refine forall₂_congr fun slotId hslot => ?_
  by_cases hinfos : infos = []
  · subst hinfos
    refine ⟨fun h => ⟨?_, ?_, ?_, fun _ => ⟨h.cs, h.ims⟩⟩,
      fun h => ⟨.refl _, ?_, (h.nonempty rfl).1, (h.nonempty rfl).2⟩⟩
    all_goals exact fun _ hinfo => (nomatch hinfo)
  · obtain ⟨hslots, hsent⟩ := Service.clearAllCalls_slot P hslot sv service hinfos
    have hkeyed := (settled_of_run hrun slotId).keyed_imsOrFresh
    rw [← Slot.cleared_iff hkeyed hinfos, ← hslots, ← hsent, cleared_append_returned]

/-- An IMS voice call is reported as a video call. -/
theorem not_cleared_of_voice :
    ¬∀ (P : Platform) (slotCount : Int) (sv : Service),
      Run (serviceMachine P) .free unconditional sv () →
      ∀ (service : ImsService) (infos : List CellularCallInfo),
        let result := sv.clearAllCalls P slotCount service infos
        ∀ slotId ∈ getSlotInfo slotCount,
          Cleared P slotId infos (result.2.1.slots slotId) (sentTo slotId result.2.2) := by
  intro hclaim
  have hcleared := hclaim .plain 1 _ Run.start .plain [.plain .ims 1] 0 (by decide)
  exact absurd hcleared.reports (by decide)

/-- A CS call and an IMS video call are cleared while another IMS call is
tracked. -/
theorem cleared_iff_after_list :
    let M := serviceMachine .plain
    let es : List (Int × Event) := [(0, .imsCallsData (.of [.plain 2 .active]))]
    let sv := (exec M .free M.init () es).1
    let infos : List CellularCallInfo :=
      [.plain .cs 1, { CellularCallInfo.plain .ims 1 with videoState := 3 }]
    let result := sv.clearAllCalls .plain 2 .plain infos
    (∀ slotId ∈ getSlotInfo 2,
      Cleared .plain slotId infos (result.2.1.slots slotId) (sentTo slotId result.2.2)) ↔
      ∀ slotId ∈ getSlotInfo 2, Clearable .plain .plain slotId infos (sv.slots slotId) :=
  cleared_iff_of_run .plain 2 _ (Run.of_admits _ (by decide)) .plain _

end CellularCall
