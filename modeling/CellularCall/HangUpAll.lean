import CellularCall.Control.Satellite
import CellularCall.Lib.Addressed
import CellularCall.Service

/-!
# Hanging up everything

Three functions of the service end all calls: `HangUpAllConnection()`, which a
handler calls, `HandleCallManagerException()`, for a call manager that has died,
and `HangUpAllConnection(slotId)` for one slot.  Each has its own loop over the
slots and their controls.  A CS or satellite control ends its calls with one
request; the IMS control rejects its connections one by one.

An emergency call that waits for the radio is not hung up: `isPendingEmcFlag`
spares the IMS calls of its slot.  `HangUpAllConnection()` returns there, so that
it leaves the slots that follow as well, and only the function for one slot
reaches the satellite control.  `covers_iff` says when each of the three covers
every call once.
-/

namespace CellularCall

open Lib

/-- `ModuleServiceUtils::GetSlotInfo`, where `slotCount` is `SIM_SLOT_COUNT`. -/
def getSlotInfo (slotCount : Int) : List Int :=
  if slotCount = 1 then [0]
  else if slotCount = 2 then [0, 1]
  else []

theorem nodup_getSlotInfo (slotCount : Int) : (getSlotInfo slotCount).Nodup := by
  unfold getSlotInfo
  split_ifs <;> simp

/-- The loops go through the slots there are. -/
theorem mem_getSlotInfo_iff {slotCount slotId : Int} :
    slotId ∈ getSlotInfo slotCount ↔ isValidSlotId slotCount slotId = true := by
  unfold getSlotInfo isValidSlotId
  split_ifs <;> simp

/-! ## The rejects of a table -/

/-- A reject of the number gets to the IMS service. -/
def ImsService.Accepts (service : ImsService) (number : Str) : Prop :=
  service.needCallImsService = true ∧ number.length + 1 ≤ kMaxNumberLength

instance (service : ImsService) (number : Str) : Decidable (service.Accepts number) :=
  inferInstanceAs (Decidable (_ ∧ _))

namespace IMSControl

/-- The reject a connection needs. -/
def ownReject (c : CellularCallConnectionIMS) : Output := .imsRejectRequest c.number c.index

theorem snd_rejectRequest (service : ImsService) (number : Str) (index : Int) :
    (rejectRequest service number index).2 =
      if service.Accepts number then [.imsRejectRequest number index] else [] := by
  unfold rejectRequest numberedRequest
  by_cases haccepts : service.Accepts number
  · rw [if_pos haccepts, if_neg (by simp [haccepts.1]), if_neg (Nat.not_lt.mpr haccepts.2)]
  · rw [if_neg haccepts]
    split_ifs with hservice hlength
    · rfl
    · rfl
    · exact absurd ⟨by simpa using hservice, Nat.not_lt.mp hlength⟩ haccepts

/-- The rejects of a table are those of its accepted connections. -/
theorem hangUpAllConnection_eq (service : ImsService) (t : IMSControl) :
    t.hangUpAllConnection service =
      (t.connectionMap.values.filter fun conn => decide (service.Accepts conn.number)).map
        ownReject := by
  unfold hangUpAllConnection
  induction t.connectionMap.values with
  | nil => rfl
  | cons conn conns ih =>
    rw [List.flatMap_cons, ih, snd_rejectRequest, List.filter_cons]
    by_cases haccepts : service.Accepts conn.number
    · simp [haccepts, ownReject]
    · simp [haccepts]

end IMSControl

/-! ## The controls -/

/-- The control maps of the service. -/
structure Controls where
  csControlMap : Int → Option CSControl
  imsControlMap : Int → Option IMSControl
  satelliteControlMap : Int → Option SatelliteControl

namespace Controls

def getCsControl (slotCount : Int) (c : Controls) (slotId : Int) : Option CSControl :=
  if isValidSlotId slotCount slotId then c.csControlMap slotId else none

def getImsControl (slotCount : Int) (c : Controls) (slotId : Int) : Option IMSControl :=
  if isValidSlotId slotCount slotId then c.imsControlMap slotId else none

/-- `GetSatelliteControl` does not check the slot. -/
def getSatelliteControl (c : Controls) (slotId : Int) : Option SatelliteControl :=
  c.satelliteControlMap slotId

/-! ## The three functions

A request goes to a slot and a domain. -/

/-- What a slot's CS control sends, if there is one. -/
def csEnds (slotCount : Int) (c : Controls) (slotId : Int) : List ((Int × CallType) × Output) :=
  ((c.getCsControl slotCount slotId).elim [] fun _ => CSControl.hangUpAllConnection).map
    (Prod.mk (slotId, .cs))

/-- What a slot's IMS control sends, if there is one. -/
def imsEnds (slotCount : Int) (service : ImsService) (c : Controls) (slotId : Int) :
    List ((Int × CallType) × Output) :=
  ((c.getImsControl slotCount slotId).elim [] (IMSControl.hangUpAllConnection service)).map
    (Prod.mk (slotId, .ims))

/-- What a slot's satellite control sends, if there is one. -/
def satelliteEnds (c : Controls) (slotId : Int) : List ((Int × CallType) × Output) :=
  ((c.getSatelliteControl slotId).elim [] fun _ => SatelliteControl.hangUpAllConnection).map
    (Prod.mk (slotId, .satellite))

/-- `isPendingEmcFlag` of a slot's IMS control, if there is one. -/
def isPendingEmcFlag (slotCount : Int) (c : Controls) (slotId : Int) : Bool :=
  (c.getImsControl slotCount slotId).any IMSControl.isPendingEmc

/-- The loop of `HangUpAllConnection()`, which returns at the first flag. -/
def hangUpSlots (slotCount : Int) (service : ImsService) (c : Controls) :
    List Int → List ((Int × CallType) × Output)
  | [] => []
  | slotId :: later =>
    c.csEnds slotCount slotId ++
      if c.isPendingEmcFlag slotCount slotId then []
      else c.imsEnds slotCount service slotId ++ hangUpSlots slotCount service c later

/-- `CellularCallService::HangUpAllConnection()`. -/
def hangUpAllConnection (slotCount : Int) (service : ImsService) (c : Controls) :
    RetCode × List ((Int × CallType) × Output) :=
  (.success, c.hangUpSlots slotCount service (getSlotInfo slotCount))

/-- `CellularCallService::HandleCallManagerException`. -/
def handleCallManagerException (slotCount : Int) (service : ImsService) (c : Controls) :
    List ((Int × CallType) × Output) :=
  (getSlotInfo slotCount).flatMap fun slotId =>
    c.csEnds slotCount slotId ++ c.imsEnds slotCount service slotId

/-- `CellularCallService::HangUpAllConnection(slotId)`. -/
def hangUpAllConnectionOf (slotCount : Int) (service : ImsService) (c : Controls) (slotId : Int) :
    RetCode × List ((Int × CallType) × Output) :=
  (.success, c.csEnds slotCount slotId ++ c.imsEnds slotCount service slotId ++
    c.satelliteEnds slotId)

/-! ## What they are for -/

/-- One reject for each connection of the slot's IMS control. -/
def ownRejects (slotCount : Int) (c : Controls) (slotId : Int) : List Output :=
  (c.getImsControl slotCount slotId).elim [] fun t => t.connectionMap.values.map IMSControl.ownReject

/-- The requests cover the calls of the slot, each once: a control of the CS or
the satellite domain gets one reject, each IMS connection its own.  The pending
emergency flag may spare the IMS calls. -/
structure Covered (slotCount : Int) (c : Controls) (slotId : Int)
    (sent : List ((Int × CallType) × Output)) : Prop where
  cs : sentTo (slotId, .cs) sent =
    if (c.getCsControl slotCount slotId).isSome then [.rejectRequest] else []
  satellite : sentTo (slotId, .satellite) sent =
    if (c.getSatelliteControl slotId).isSome then [.rejectRequest] else []
  ims : (sentTo (slotId, .ims) sent).Perm (c.ownRejects slotCount slotId) ∨
    c.isPendingEmcFlag slotCount slotId = true ∧ sentTo (slotId, .ims) sent = []

/-- The rejects of the slot's connections all get to the IMS service. -/
def AllAccepted (slotCount : Int) (service : ImsService) (c : Controls) (slotId : Int) : Prop :=
  ∀ t, c.getImsControl slotCount slotId = some t →
    ∀ conn ∈ t.connectionMap.values, service.Accepts conn.number

/-- No reject of the slot's connections gets to the IMS service. -/
def NoneAccepted (slotCount : Int) (service : ImsService) (c : Controls) (slotId : Int) : Prop :=
  ∀ t, c.getImsControl slotCount slotId = some t →
    ∀ conn ∈ t.connectionMap.values, ¬service.Accepts conn.number

/-- The slot's rejects are accepted, or they may all be missing. -/
def ImsCovers (slotCount : Int) (service : ImsService) (c : Controls) (slotId : Int) : Prop :=
  c.AllAccepted slotCount service slotId ∨
    c.isPendingEmcFlag slotCount slotId = true ∧ c.NoneAccepted slotCount service slotId

/-- The slot has nothing to end: no CS control, and no connection that its own
flag does not spare. -/
def Idle (slotCount : Int) (c : Controls) (slotId : Int) : Prop :=
  c.getCsControl slotCount slotId = none ∧
    (c.isPendingEmcFlag slotCount slotId = false →
      ∀ t, c.getImsControl slotCount slotId = some t → t.connectionMap.isEmpty = true)

/-! ## One slot

What a round of each function sends, read off by domain. -/

section
variable (slotCount : Int) (service : ImsService) (c : Controls) (slotId : Int)

theorem fst_csEnds : ∀ p ∈ c.csEnds slotCount slotId, p.1.1 = slotId := by
  intro p hp
  obtain ⟨_, -, rfl⟩ := List.mem_map.mp hp
  rfl

theorem fst_imsEnds : ∀ p ∈ c.imsEnds slotCount service slotId, p.1.1 = slotId := by
  intro p hp
  obtain ⟨_, -, rfl⟩ := List.mem_map.mp hp
  rfl

theorem sentTo_csEnds (domain : CallType) :
    sentTo (slotId, domain) (c.csEnds slotCount slotId) =
      if domain = .cs ∧ (c.getCsControl slotCount slotId).isSome then [.rejectRequest] else [] := by
  rw [csEnds, sentTo_map_mk]
  cases c.getCsControl slotCount slotId <;> cases domain <;> simp [CSControl.hangUpAllConnection]

theorem sentTo_imsEnds (domain : CallType) :
    sentTo (slotId, domain) (c.imsEnds slotCount service slotId) =
      if domain = .ims then
        (c.getImsControl slotCount slotId).elim [] (IMSControl.hangUpAllConnection service)
      else [] := by
  rw [imsEnds, sentTo_map_mk]
  cases domain <;> simp

theorem sentTo_satelliteEnds (domain : CallType) :
    sentTo (slotId, domain) (c.satelliteEnds slotId) =
      if domain = .satellite ∧ (c.getSatelliteControl slotId).isSome then [.rejectRequest]
      else [] := by
  rw [satelliteEnds, sentTo_map_mk]
  cases c.getSatelliteControl slotId <;> cases domain <;>
    simp [SatelliteControl.hangUpAllConnection]

end

section
variable {slotCount : Int} {service : ImsService} {c : Controls} {slotId : Int}

/-- The connections of a slot each get their reject if and only if all these
rejects are accepted. -/
theorem perm_ownRejects_iff :
    ((c.getImsControl slotCount slotId).elim [] (IMSControl.hangUpAllConnection service)).Perm
        (c.ownRejects slotCount slotId) ↔
      c.AllAccepted slotCount service slotId := by
  unfold ownRejects AllAccepted
  cases c.getImsControl slotCount slotId with
  | none => simp
  | some t =>
    simp only [Option.elim_some, Option.some.injEq, forall_eq', IMSControl.hangUpAllConnection_eq]
    refine ⟨fun hperm conn hconn => ?_, fun hall => ?_⟩
    · have hlength := hperm.length_eq
      rw [List.length_map, List.length_map, List.length_filter_eq_length_iff] at hlength
      simpa using hlength conn hconn
    · rw [List.filter_eq_self.mpr (by simpa using hall)]

theorem hangUpAllConnection_eq_nil_iff :
    (c.getImsControl slotCount slotId).elim [] (IMSControl.hangUpAllConnection service) = [] ↔
      c.NoneAccepted slotCount service slotId := by
  unfold NoneAccepted
  cases c.getImsControl slotCount slotId with
  | none => simp
  | some t => simp [IMSControl.hangUpAllConnection_eq]

end

/-! ## The three loops -/

section
variable {slotCount : Int} {service : ImsService} {c : Controls}

/-- The loop goes up to the first slot with the flag, and leaves out that slot's
IMS calls. -/
theorem hangUpSlots_eq (slots : List Int) :
    c.hangUpSlots slotCount service slots =
      (upTo (c.isPendingEmcFlag slotCount) slots).flatMap fun slotId =>
        c.csEnds slotCount slotId ++
          if c.isPendingEmcFlag slotCount slotId then []
          else c.imsEnds slotCount service slotId := by
  induction slots with
  | nil => rfl
  | cons slotId later ih =>
    rw [hangUpSlots, upTo]
    by_cases hflag : c.isPendingEmcFlag slotCount slotId = true
    · simp [hflag]
    · simp [hflag, ih]

/-- What a slot is sent by `HangUpAllConnection()`: nothing after the first flag. -/
theorem sentTo_hangUpAllConnection (slotId : Int) (domain : CallType) :
    sentTo (slotId, domain) (c.hangUpAllConnection slotCount service).2 =
      if slotId ∈ upTo (c.isPendingEmcFlag slotCount) (getSlotInfo slotCount) then
        sentTo (slotId, domain) (c.csEnds slotCount slotId) ++
          if c.isPendingEmcFlag slotCount slotId then []
          else sentTo (slotId, domain) (c.imsEnds slotCount service slotId)
      else [] := by
  have howner : ∀ a, ∀ p ∈ c.csEnds slotCount a ++
      (if c.isPendingEmcFlag slotCount a then [] else c.imsEnds slotCount service a),
      p.1.1 = a := by
    intro a p hp
    rcases List.mem_append.mp hp with hp | hp
    · exact fst_csEnds _ _ _ p hp
    · split at hp
      · cases hp
      · exact fst_imsEnds _ _ _ _ p hp
  rw [hangUpAllConnection, hangUpSlots_eq, sentTo_flatMap (slotId, domain) Prod.fst howner
    ((nodup_getSlotInfo slotCount).sublist (upTo_sublist _ _)), sentTo_append, apply_ite (sentTo _),
    sentTo_nil]

/-- `HandleCallManagerException` serves every slot. -/
theorem sentTo_handleCallManagerException {slotId : Int} (hslot : slotId ∈ getSlotInfo slotCount)
    (domain : CallType) :
    sentTo (slotId, domain) (c.handleCallManagerException slotCount service) =
      sentTo (slotId, domain) (c.csEnds slotCount slotId) ++
        sentTo (slotId, domain) (c.imsEnds slotCount service slotId) := by
  have howner : ∀ a, ∀ p ∈ c.csEnds slotCount a ++ c.imsEnds slotCount service a, p.1.1 = a := by
    intro a p hp
    rcases List.mem_append.mp hp with hp | hp
    · exact fst_csEnds _ _ _ p hp
    · exact fst_imsEnds _ _ _ _ p hp
  rw [handleCallManagerException, sentTo_flatMap (slotId, domain) Prod.fst howner
    (nodup_getSlotInfo slotCount), if_pos hslot, sentTo_append]

/-- No request is right for a domain without a control only. -/
theorem nil_eq_reject_iff {α : Type} {control : Option α} :
    ([] = if control.isSome then [Output.rejectRequest] else []) ↔ control = none := by
  cases control <;> simp

theorem ownRejects_eq_nil_iff {slotId : Int} :
    c.ownRejects slotCount slotId = [] ↔
      ∀ t, c.getImsControl slotCount slotId = some t → t.connectionMap.isEmpty = true := by
  unfold ownRejects
  cases c.getImsControl slotCount slotId with
  | none => simp
  | some t => simp [OrdMap.values, OrdMap.isEmpty]

/-- A slot whose turn never comes is covered when there is nothing to end. -/
theorem covered_iff_idle {slotId : Int} {sent : List ((Int × CallType) × Output)}
    (hsent : ∀ domain, sentTo (slotId, domain) sent = []) :
    c.Covered slotCount slotId sent ↔
      c.getSatelliteControl slotId = none ∧ c.Idle slotCount slotId := by
  refine ⟨fun h => ?_, fun ⟨hsatellite, hcs, hims⟩ => ⟨?_, ?_, ?_⟩⟩
  · refine ⟨nil_eq_reject_iff.mp ((hsent _).symm.trans h.satellite),
      nil_eq_reject_iff.mp ((hsent _).symm.trans h.cs), fun hflag => ?_⟩
    rcases h.ims with hperm | ⟨hflag', -⟩
    · rw [hsent] at hperm
      exact ownRejects_eq_nil_iff.mp hperm.nil_eq.symm
    · rw [hflag] at hflag'
      cases hflag'
  · rw [hsent, nil_eq_reject_iff]
    exact hcs
  · rw [hsent, nil_eq_reject_iff]
    exact hsatellite
  · rw [hsent]
    cases hflag : c.isPendingEmcFlag slotCount slotId with
    | true => exact .inr ⟨rfl, rfl⟩
    | false => exact .inl (ownRejects_eq_nil_iff.mpr (hims hflag) ▸ .refl _)

/-- A slot whose turn comes has its CS calls ended. -/
theorem covered_iff_of_cs {slotId : Int} {sent : List ((Int × CallType) × Output)}
    (hcs : sentTo (slotId, .cs) sent =
      if (c.getCsControl slotCount slotId).isSome then [.rejectRequest] else []) :
    c.Covered slotCount slotId sent ↔
      sentTo (slotId, .satellite) sent =
          (if (c.getSatelliteControl slotId).isSome then [.rejectRequest] else []) ∧
        ((sentTo (slotId, .ims) sent).Perm (c.ownRejects slotCount slotId) ∨
          c.isPendingEmcFlag slotCount slotId = true ∧ sentTo (slotId, .ims) sent = []) :=
  ⟨fun h => ⟨h.satellite, h.ims⟩, fun h => ⟨hcs, h.1, h.2⟩⟩

theorem covered_hangUpAllConnectionOf_iff (slotId : Int) :
    c.Covered slotCount slotId (c.hangUpAllConnectionOf slotCount service slotId).2 ↔
      c.ImsCovers slotCount service slotId := by
  have hsent : ∀ domain,
      sentTo (slotId, domain) (c.hangUpAllConnectionOf slotCount service slotId).2 =
        sentTo (slotId, domain) (c.csEnds slotCount slotId) ++
          sentTo (slotId, domain) (c.imsEnds slotCount service slotId) ++
          sentTo (slotId, domain) (c.satelliteEnds slotId) := fun domain => by
    rw [hangUpAllConnectionOf, sentTo_append, sentTo_append]
  simp only [sentTo_csEnds, sentTo_imsEnds, sentTo_satelliteEnds] at hsent
  rw [covered_iff_of_cs (by simp [hsent]), hsent, hsent, ImsCovers, ← perm_ownRejects_iff,
    ← hangUpAllConnection_eq_nil_iff]
  simp

theorem covered_handleCallManagerException_iff {slotId : Int}
    (hslot : slotId ∈ getSlotInfo slotCount) :
    c.Covered slotCount slotId (c.handleCallManagerException slotCount service) ↔
      c.getSatelliteControl slotId = none ∧ c.ImsCovers slotCount service slotId := by
  have hsent := @sentTo_handleCallManagerException slotCount service c slotId hslot
  simp only [sentTo_csEnds, sentTo_imsEnds] at hsent
  rw [covered_iff_of_cs (by simp [hsent]), hsent, hsent, ImsCovers, ← perm_ownRejects_iff,
    ← hangUpAllConnection_eq_nil_iff, ← nil_eq_reject_iff]
  simp

/-- A slot is covered by `HangUpAllConnection()` when its turn comes, but for a
satellite control and refused rejects. -/
theorem covered_hangUpAllConnection_iff (slotId : Int) :
    c.Covered slotCount slotId (c.hangUpAllConnection slotCount service).2 ↔
      (c.getSatelliteControl slotId = none ∧
        (c.isPendingEmcFlag slotCount slotId = false → c.AllAccepted slotCount service slotId)) ∧
      (slotId ∉ upTo (c.isPendingEmcFlag slotCount) (getSlotInfo slotCount) →
        c.Idle slotCount slotId) := by
  have hsent := @sentTo_hangUpAllConnection slotCount service c slotId
  simp only [sentTo_csEnds, sentTo_imsEnds] at hsent
  by_cases hcomes : slotId ∈ upTo (c.isPendingEmcFlag slotCount) (getSlotInfo slotCount)
  · simp only [if_pos hcomes] at hsent
    rw [covered_iff_of_cs (by simp [hsent]), hsent, hsent, ← perm_ownRejects_iff,
      ← nil_eq_reject_iff]
    cases c.isPendingEmcFlag slotCount slotId <;> simp [hcomes]
  · simp only [if_neg hcomes] at hsent
    rw [covered_iff_idle hsent]
    refine ⟨fun ⟨hsatellite, hidle⟩ => ⟨⟨hsatellite, fun hflag t ht conn hconn => ?_⟩,
      fun _ => hidle⟩, fun ⟨⟨hsatellite, _⟩, hidle⟩ => ⟨hsatellite, hidle hcomes⟩⟩
    -- an empty table has no reject to refuse
    have hempty := OrdMap.isEmpty_iff_get?.mp (hidle.2 hflag t ht)
    obtain ⟨k, hk⟩ := OrdMap.mem_values_iff.mp hconn
    rw [hempty k] at hk
    cases hk

end

/-- `HangUpAllConnection(slotId)` covers the slot if the rejects of its
connections are accepted.  `HandleCallManagerException()` covers all slots if
there is no satellite control besides, and `HangUpAllConnection()` if moreover
the slots after a pending emergency call have nothing to end. -/
theorem covers_iff (slotCount : Int) (service : ImsService) (c : Controls) :
    ((∀ slotId ∈ getSlotInfo slotCount,
        c.Covered slotCount slotId (c.hangUpAllConnection slotCount service).2) ↔
      (∀ slotId ∈ getSlotInfo slotCount, c.getSatelliteControl slotId = none ∧
        (c.isPendingEmcFlag slotCount slotId = false → c.AllAccepted slotCount service slotId)) ∧
      (getSlotInfo slotCount).Pairwise fun slotId later =>
        c.isPendingEmcFlag slotCount slotId = true → c.Idle slotCount later) ∧
    ((∀ slotId ∈ getSlotInfo slotCount,
        c.Covered slotCount slotId (c.handleCallManagerException slotCount service)) ↔
      ∀ slotId ∈ getSlotInfo slotCount, c.getSatelliteControl slotId = none ∧
        c.ImsCovers slotCount service slotId) ∧
    ∀ slotId, c.Covered slotCount slotId (c.hangUpAllConnectionOf slotCount service slotId).2 ↔
      c.ImsCovers slotCount service slotId := by
  refine ⟨?_, forall₂_congr fun slotId hslot => covered_handleCallManagerException_iff hslot,
    covered_hangUpAllConnectionOf_iff⟩
  rw [← forall_not_mem_upTo_iff (nodup_getSlotInfo slotCount), ← forall₂_and]
  exact forall₂_congr fun slotId _ => covered_hangUpAllConnection_iff slotId

/-- An emergency call waits on slot 0, and slot 1 has a CS call. -/
def emergencyAndCall : Controls where
  csControlMap := fun slotId =>
    if slotId = 1 then
      some { (CallTable.fresh : CSControl) with
        connectionMap := (∅ : ConnectionMap CsPart).insertNew 1 (.fresh CsPart.fresh) }
    else none
  imsControlMap := fun slotId =>
    if slotId = 0 then some (IMSControl.fresh.setPendingEmcFlag true) else none
  satelliteControlMap := fun _ => none

/-- The CS call of slot 1 is not hung up. -/
theorem not_covered_after_emergency :
    ¬∀ (slotCount : Int) (service : ImsService) (c : Controls),
      (∀ slotId ∈ getSlotInfo slotCount,
        c.Covered slotCount slotId (c.hangUpAllConnection slotCount service).2) ∧
      (∀ slotId ∈ getSlotInfo slotCount,
        c.Covered slotCount slotId (c.handleCallManagerException slotCount service)) ∧
      ∀ slotId,
        c.Covered slotCount slotId (c.hangUpAllConnectionOf slotCount service slotId).2 := by
  intro hclaim
  have hcovered := (hclaim 2 .plain emergencyAndCall).1 1 (by decide)
  exact absurd hcovered.cs (by decide)

end Controls

end CellularCall
