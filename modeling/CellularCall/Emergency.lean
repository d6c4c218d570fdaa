import CellularCall.FakeEcc
import Mathlib.Data.List.Infix

/-!
# Emergency numbers are recognised

`EmergencyUtils::IsEmergencyCall` looks a number up in the slot's merged list.
Each entry of the list has the country of the time of merging, which is compared
with that of the time of the call.  Where the list is empty, ten numbers and the
country's own count.

`recognised_iff_of_run` says when 112 and 911 are recognised, in terms of the
slot's last merge.
-/

namespace CellularCall

open Lib

/-- What a classification reads besides the configuration.
`isEmergencyNumber` is that of `ShortNumberInfo`. -/
structure PhoneEnv where
  countryIsoCode : Str
  dynamicPoweroffModem : Bool
  isEmergencyNumber : Str → Str → Bool

/-- The numbers that count where there is no list. -/
def defaultEccList : List Str :=
  [['1', '1', '0'], ['1', '2', '0'], ['1', '1', '9'], ['1', '2', '2'], ['1', '1', '2'],
    ['0', '0', '0'], ['9', '1', '1'], ['0', '8'], ['1', '1', '8'], ['9', '9', '9']]

namespace EccConfig

/-- `IsEmergencyCallProcessing`. -/
def isEmergencyCallProcessing (c : EccConfig) (slotId : Int) (env : SimEnv) (phone : PhoneEnv)
    (formatString : Str) : Bool :=
  let eccCallList := c.allEccList slotId
  if eccCallList = [] then
    if formatString ∈ defaultEccList then true
    else if phone.countryIsoCode ≠ [] then
      phone.isEmergencyNumber formatString (phone.countryIsoCode.map Char.toUpper)
    else false
  else
    eccCallList.any fun call =>
      (decide (call.mcc = getMcc env.operatorNumeric) || phone.dynamicPoweroffModem) &&
        decide (call.eccNum = formatString)

/-- `IsEmergencyCall`: `enabled` is left as it is where it returns an error. -/
def isEmergencyCall (c : EccConfig) (slotId : Int) (env : SimEnv) (phone : PhoneEnv)
    (phoneNum : Str) (enabled : Bool) : RetCode × Bool :=
  if phoneNum = [] then (.errArgumentInvalid, enabled)
  else if '@' ∈ phoneNum ∨ ['%', '4', '0'] <:+: phoneNum then (.errArgumentInvalid, enabled)
  else if phoneNum.head? = some '+' then (.errArgumentInvalid, enabled)
  else (.success, c.isEmergencyCallProcessing slotId env phone phoneNum)

/-- The number is classified as an emergency number. -/
def Recognised (c : EccConfig) (slotId : Int) (env : SimEnv) (phone : PhoneEnv) (phoneNum : Str) :
    Prop :=
  ∀ enabled, c.isEmergencyCall slotId env phone phoneNum enabled = (.success, true)

end EccConfig

/-- The 3GPP numbers, with a SIM and without one. -/
def threeGppNumbers : List Str := [['1', '1', '2'], ['9', '1', '1']]

theorem recognised_iff {c : EccConfig} {slotId : Int} {env : SimEnv} {phone : PhoneEnv} {n : Str}
    (hn : n ∈ threeGppNumbers) :
    c.Recognised slotId env phone n ↔
      c.allEccList slotId = [] ∨ ∃ call ∈ c.allEccList slotId,
        (call.mcc = getMcc env.operatorNumeric ∨ phone.dynamicPoweroffModem = true) ∧
          call.eccNum = n := by
  have hanswer : ∀ enabled, c.isEmergencyCall slotId env phone n enabled =
      (.success, c.isEmergencyCallProcessing slotId env phone n) := by
    intro enabled
    simp only [threeGppNumbers, List.mem_cons, List.not_mem_nil, or_false] at hn
    rcases hn with rfl | rfl <;> rfl
  have hdefault : n ∈ defaultEccList := by
    simp only [threeGppNumbers, List.mem_cons, List.not_mem_nil, or_false] at hn
    rcases hn with rfl | rfl <;> decide
  simp only [EccConfig.Recognised, hanswer, EccConfig.isEmergencyCallProcessing, if_pos hdefault,
    Prod.mk.injEq, true_and, forall_const]
  by_cases hempty : c.allEccList slotId = []
  · simp [hempty]
  · simp [hempty]

/-! ## The last merge -/

/-- What a merge was made from: the SIM of the time, the modem's list, the cache,
and the database's rows for the home network. -/
structure Merge where
  env : SimEnv
  calls : List EmergencyInfo
  cached : EccList
  rows : List EccNum
deriving DecidableEq, Repr

/-- Whether `InitModeActive` has run, and each slot's last merge since. -/
structure Merges where
  active : Bool
  merged : Int → Option Merge

/-- Remembers the merges. -/
def mergeMonitor (K : EccConstants) : Monitor EccState EccEvent EccOutput Merges where
  init := ⟨false, fun _ => none⟩
  allowed _ _ _ := True
  update h s e _ _ :=
    match e with
    | .initModeActive => ⟨true, fun _ => none⟩
    | .updateEmergencyCallFromRadio slotId env succeeds calls =>
      if CellularCallConfig.isValidSlotId K.toConfigConstants slotId = true then
        let merge : Merge := ⟨env, calls, s.config.hplmnFakeEccList slotId,
          s.answers succeeds env.operatorNumeric⟩
        { h with merged := Function.update h.merged slotId (some merge) }
      else h
    | _ => h

namespace Merge

variable (K : EccConstants)

/-- The standard numbers of a merge. -/
def standard (m : Merge) : List EmergencyCall :=
  if m.env.hasSim then
    if getMcc m.env.operatorNumeric = [] then [] else eccList3gppHasSim K
  else eccList3gppNoSim K

/-- A number of the modem or a standard one, as merged. -/
def HasOwn (m : Merge) (call : EmergencyCall) : Prop :=
  ∃ own, (own ∈ m.calls.map buildEmergencyCall ∨ own ∈ m.standard K) ∧
    call = own.withMcc (getMcc m.env.operatorNumeric)

/-- A fake number, as merged. -/
def HasFake (m : Merge) (call : EmergencyCall) : Prop :=
  m.env.atHome = true ∧
    if m.cached.plmn = m.env.operatorNumeric then call ∈ m.cached.eccInfoList
    else call ∈ fakeCallsOf K (getMcc m.env.operatorNumeric) m.rows

variable {K}

/-- There is a SIM whose network is not known, and the modem has no numbers. -/
def Blank (m : Merge) : Prop :=
  m.env.hasSim = true ∧ m.env.operatorNumeric = [] ∧ m.calls = []

/-- The network of the SIM is known if there is one, or the modem has the number. -/
def Lists (m : Merge) (n : Str) : Prop :=
  (m.env.hasSim = true → m.env.operatorNumeric ≠ []) ∨ ∃ info ∈ m.calls, info.eccNum = n

/-- A number of another country was still in the cache. -/
def Leftover (m : Merge) (mcc : Str) (n : Str) : Prop :=
  m.env.atHome = true ∧ m.cached.plmn = m.env.operatorNumeric ∧
    ∃ call ∈ m.cached.eccInfoList, call.mcc = mcc ∧ call.eccNum = n

end Merge

/-- The lists of the configuration are those of the last merges. -/
structure MergeInv (K : EccConstants) (s : EccState) (h : Merges) : Prop where
  hasSim : h.active = true → s.config.eccList3gppHasSim = eccList3gppHasSim K
  noSim : h.active = true → s.config.eccList3gppNoSim = eccList3gppNoSim K
  unmerged : h.active = true → ∀ slotId, h.merged slotId = none → s.config.allEccList slotId = []
  merged : h.active = true → ∀ slotId m, h.merged slotId = some m →
    ∀ call, call ∈ s.config.allEccList slotId ↔ m.HasOwn K call ∨ m.HasFake K call

section
variable {K : EccConstants} {db : EccDatabase} {s : EccState} {h : Merges}

/-- A merge writes the lists of its slot, from what it reads. -/
theorem mem_allEccList_updateEmergencyCallFromRadio {c : EccConfig} {slotId : Int} {env : SimEnv}
    {db : EccDatabase} {calls : List EmergencyInfo} {call : EmergencyCall}
    (hvalid : CellularCallConfig.isValidSlotId K.toConfigConstants slotId = true)
    (hhasSim : c.eccList3gppHasSim = eccList3gppHasSim K)
    (hnoSim : c.eccList3gppNoSim = eccList3gppNoSim K) :
    call ∈ (c.updateEmergencyCallFromRadio K slotId env db calls).allEccList slotId ↔
      Merge.HasOwn K ⟨env, calls, c.hplmnFakeEccList slotId, db env.operatorNumeric⟩ call ∨
        Merge.HasFake K ⟨env, calls, c.hplmnFakeEccList slotId, db env.operatorNumeric⟩ call := by
  simp only [EccConfig.updateEmergencyCallFromRadio, hvalid, Bool.true_eq_false, if_false,
    EccConfig.mem_allEccList_mergeEccCallList]
  refine or_congr ?_ Iff.rfl
  simp only [EccConfig.ownEccList, Function.update_self, hhasSim, hnoSim, Merge.HasOwn,
    Merge.standard, List.mem_map, List.mem_append]
  refine exists_congr fun own => and_congr_right fun _ => ?_
  rw [eq_comm]

/-- A merge leaves the standard lists and the other slots alone. -/
theorem frame_updateEmergencyCallFromRadio (K : EccConstants) (c : EccConfig) (slotId : Int)
    (env : SimEnv) (db : EccDatabase) (calls : List EmergencyInfo) :
    (c.updateEmergencyCallFromRadio K slotId env db calls).eccList3gppHasSim =
        c.eccList3gppHasSim ∧
      (c.updateEmergencyCallFromRadio K slotId env db calls).eccList3gppNoSim =
        c.eccList3gppNoSim ∧
      ∀ slotId', slotId' ≠ slotId →
        (c.updateEmergencyCallFromRadio K slotId env db calls).allEccList slotId' =
          c.allEccList slotId' := by
  simp only [EccConfig.updateEmergencyCallFromRadio, EccConfig.mergeEccCallList,
    EccConfig.updateHplmnFakeEccList, EccConfig.uniqueEccCallList]
  split_ifs <;>
    exact ⟨by trivial, by trivial, fun slotId' hne => by simp [Function.update_of_ne hne]⟩

theorem MergeInv.updateEmergencyCallFromRadio (hinv : MergeInv K s h) (slotId : Int)
    (env : SimEnv) (succeeds : Bool) (calls : List EmergencyInfo) :
    MergeInv K
      ((eccMachine K db).step s (.updateEmergencyCallFromRadio slotId env succeeds calls)).1
      ((mergeMonitor K).next (eccMachine K db) h s
        (.updateEmergencyCallFromRadio slotId env succeeds calls)) := by
  have hframe := frame_updateEmergencyCallFromRadio K s.config slotId env
    (s.answers succeeds) calls
  by_cases hvalid : CellularCallConfig.isValidSlotId K.toConfigConstants slotId = true
  · simp only [eccMachine, Monitor.next, mergeMonitor, if_pos hvalid]
    refine ⟨fun hactive => hframe.1.trans (hinv.hasSim hactive),
      fun hactive => hframe.2.1.trans (hinv.noSim hactive), ?_, ?_⟩
    · intro hactive slotId' hnone
      dsimp only at hactive hnone ⊢
      by_cases heq : slotId' = slotId
      · rw [heq, Function.update_self] at hnone
        cases hnone
      · rw [Function.update_of_ne heq] at hnone
        rw [hframe.2.2 slotId' heq]
        exact hinv.unmerged hactive slotId' hnone
    · intro hactive slotId' m hsome call
      dsimp only at hactive hsome ⊢
      by_cases heq : slotId' = slotId
      · rw [heq, Function.update_self, Option.some.injEq] at hsome
        rw [heq, ← hsome]
        exact mem_allEccList_updateEmergencyCallFromRadio hvalid (hinv.hasSim hactive)
          (hinv.noSim hactive)
      · rw [Function.update_of_ne heq] at hsome
        rw [hframe.2.2 slotId' heq]
        exact hinv.merged hactive slotId' m hsome call
  · have hsame : s.config.updateEmergencyCallFromRadio K slotId env
        (s.answers succeeds) calls = s.config := by
      simp [EccConfig.updateEmergencyCallFromRadio, hvalid]
    simp only [eccMachine, Monitor.next, mergeMonitor, if_neg hvalid, hsame]
    exact hinv

theorem MergeInv.step (hinv : MergeInv K s h) (e : EccEvent) :
    MergeInv K ((eccMachine K db).step s e).1
      ((mergeMonitor K).next (eccMachine K db) h s e) := by
  by_cases he : e.isNumberList = true
  · have hnext : (mergeMonitor K).next (eccMachine K db) h s e = h := by
      cases e <;> first | rfl | cases he
    obtain ⟨hsame, -⟩ := sameLists_step K db s he
    rw [hnext]
    refine ⟨?_, ?_, ?_, ?_⟩
    · rw [hsame.eccList3gppHasSim]
      exact hinv.hasSim
    · rw [hsame.eccList3gppNoSim]
      exact hinv.noSim
    · rw [hsame.allEccList]
      exact hinv.unmerged
    · rw [hsame.allEccList]
      exact hinv.merged
  · cases e with
    | initModeActive =>
      exact ⟨fun _ => rfl, fun _ => rfl, fun _ _ _ => rfl, fun _ _ _ hnone => nomatch hnone⟩
    | updateEmergencyCallFromRadio slotId env succeeds calls =>
      exact hinv.updateEmergencyCallFromRadio slotId env succeeds calls
    | clearCachedEcclist slotId db' =>
      exact ⟨hinv.hasSim, hinv.noSim, hinv.unmerged, hinv.merged⟩
    | _ => exact absurd rfl he

theorem mergeInv_of_run (hrun : Run (eccMachine K db) (mergeMonitor K) unconditional s h) :
    MergeInv K s h :=
  hrun.invariant ⟨nofun, nofun, nofun, nofun⟩ fun _ _ e hinv _ _ => hinv.step e

end

/-! ## Which numbers a merge leaves -/

section
variable {K : EccConstants} {m : Merge} {n : Str}

/-- Both standard lists have the 3GPP numbers. -/
theorem exists_mem_eccList3gpp (hn : n ∈ threeGppNumbers) :
    (∃ call ∈ eccList3gppHasSim K, call.eccNum = n) ∧
      ∃ call ∈ eccList3gppNoSim K, call.eccNum = n := by
  simp only [threeGppNumbers, List.mem_cons, List.not_mem_nil, or_false] at hn
  rcases hn with rfl | rfl
  · exact ⟨⟨_, List.mem_cons_self, rfl⟩, ⟨_, List.mem_cons_self, rfl⟩⟩
  · exact ⟨⟨_, List.mem_cons_of_mem _ List.mem_cons_self, rfl⟩,
      ⟨_, List.mem_cons_of_mem _ List.mem_cons_self, rfl⟩⟩

/-- The standard numbers are left out where the network of a SIM is not known. -/
theorem exists_standard_iff (hn : n ∈ threeGppNumbers) :
    (∃ call ∈ m.standard K, call.eccNum = n) ↔
      (m.env.hasSim = true → m.env.operatorNumeric ≠ []) := by
  have hlists := exists_mem_eccList3gpp (K := K) hn
  unfold Merge.standard
  by_cases hsim : m.env.hasSim = true
  · by_cases hnumeric : m.env.operatorNumeric = []
    · simp [hsim, hnumeric, getMcc]
    · simp only [hsim, if_true, if_neg (EccConfig.getMcc_ne_nil hnumeric), forall_const]
      exact iff_of_true hlists.1 hnumeric
  · simp only [hsim, if_false, false_implies, iff_true, Bool.false_eq_true]
    exact hlists.2

/-- Among its own numbers a merge leaves one that it lists. -/
theorem exists_hasOwn_iff (hn : n ∈ threeGppNumbers) :
    (∃ call, m.HasOwn K call ∧ call.eccNum = n) ↔ m.Lists n := by
  rw [Merge.Lists, ← exists_standard_iff (K := K) hn]
  constructor
  · intro h
    obtain ⟨_, ⟨own, hown | hown, rfl⟩, hnum⟩ := h
    · obtain ⟨info, hinfo, rfl⟩ := List.mem_map.mp hown
      exact .inr ⟨info, hinfo, hnum⟩
    · exact .inl ⟨own, hown, hnum⟩
  · intro h
    rcases h with ⟨own, hown, hnum⟩ | ⟨info, hinfo, hnum⟩
    · exact ⟨_, ⟨own, .inr hown, rfl⟩, hnum⟩
    · exact ⟨_, ⟨buildEmergencyCall info, .inl (List.mem_map_of_mem hinfo), rfl⟩, hnum⟩

theorem mcc_of_hasOwn {call : EmergencyCall} (hown : m.HasOwn K call) :
    call.mcc = getMcc m.env.operatorNumeric := by
  obtain ⟨own, -, rfl⟩ := hown
  rfl

theorem mcc_of_mem_fakeCallsOf {mcc : Str} {rows : List EccNum} {call : EmergencyCall}
    (hcall : call ∈ fakeCallsOf K mcc rows) : call.mcc = mcc := by
  cases rows with
  | nil => cases hcall
  | cons row rows =>
    obtain ⟨it, -, rfl⟩ := List.mem_map.mp hcall
    rfl

/-- A merge leaves nothing if it is blank. -/
theorem blank_iff : (∀ call, ¬(m.HasOwn K call ∨ m.HasFake K call)) ↔ m.Blank := by
  constructor
  · intro hnone
    have hstandard : ¬(m.env.hasSim = true → m.env.operatorNumeric ≠ []) := by
      intro hknown
      obtain ⟨own, hown, -⟩ :=
        (exists_standard_iff (K := K) (n := ['1', '1', '2']) (by decide)).mpr hknown
      exact hnone _ (.inl ⟨own, .inr hown, rfl⟩)
    have hcalls : m.calls = [] := by
      apply List.eq_nil_iff_forall_not_mem.mpr
      intro info hinfo
      exact hnone _ (.inl ⟨buildEmergencyCall info, .inl (List.mem_map_of_mem hinfo), rfl⟩)
    have hsim : m.env.hasSim = true := by
      by_contra hno
      exact hstandard fun hyes => absurd hyes hno
    have hnumeric : m.env.operatorNumeric = [] := by
      by_contra hne
      exact hstandard fun _ => hne
    exact ⟨hsim, hnumeric, hcalls⟩
  · rintro ⟨hsim, hnumeric, hcalls⟩ call (⟨own, hown, -⟩ | ⟨hhome, -⟩)
    · simp [hcalls, Merge.standard, hsim, hnumeric, getMcc] at hown
    · exact EccConfig.operatorNumeric_ne_nil hhome hnumeric

/-- A fake number of the database holds where the slot's own do; one of the cache
may be left over. -/
theorem lists_or_leftover {call : EmergencyCall} {dynamic : Bool} {mcc : Str}
    (hfake : m.HasFake K call) (hmcc : call.mcc = mcc ∨ dynamic = true) :
    ((getMcc m.env.operatorNumeric = mcc ∨ dynamic = true) ∧ m.Lists call.eccNum) ∨
      m.Leftover mcc call.eccNum := by
  obtain ⟨hhome, hcall⟩ := hfake
  have hlists : m.Lists call.eccNum := .inl fun _ => EccConfig.operatorNumeric_ne_nil hhome
  by_cases hkey : m.cached.plmn = m.env.operatorNumeric
  · rw [if_pos hkey] at hcall
    rcases hmcc with hmcc | hdynamic
    · exact .inr ⟨hhome, hkey, call, hcall, hmcc, rfl⟩
    · exact .inl ⟨.inr hdynamic, hlists⟩
  · rw [if_neg hkey] at hcall
    rw [mcc_of_mem_fakeCallsOf hcall] at hmcc
    exact .inl ⟨hmcc, hlists⟩

end

/-- A number the modem lists or the standard has is recognised in the country of
the merge, and anywhere by a modem that is powered off dynamically. -/
def Merge.Recognises (m : Merge) (dynamic : Bool) (mcc : Str) (n : Str) : Prop :=
  m.Blank ∨ ((getMcc m.env.operatorNumeric = mcc ∨ dynamic = true) ∧ m.Lists n) ∨
    m.Leftover mcc n

/-- In every state reached after `InitModeActive`, 112 and 911 are recognised on a
slot if nothing has been merged there, and otherwise as its last merge has it. -/
theorem recognised_iff_of_run (K : EccConstants) (db : EccDatabase) {s : EccState} {h : Merges}
    (hrun : Run (eccMachine K db) (mergeMonitor K) unconditional s h) (hactive : h.active = true)
    (slotId : Int) (env : SimEnv) (phone : PhoneEnv) {n : Str} (hn : n ∈ threeGppNumbers) :
    s.config.Recognised slotId env phone n ↔
      ∀ m, h.merged slotId = some m →
        m.Recognises phone.dynamicPoweroffModem (getMcc env.operatorNumeric) n := by
  have hinv := mergeInv_of_run hrun
  rw [recognised_iff hn]
  cases hmerged : h.merged slotId with
  | none => exact iff_of_true (.inl (hinv.unmerged hactive slotId hmerged)) nofun
  | some m =>
    have hlist := hinv.merged hactive slotId m hmerged
    simp only [Option.some.injEq, forall_eq', Merge.Recognises]
    rw [List.eq_nil_iff_forall_not_mem, ← blank_iff (K := K)]
    simp only [hlist]
    refine or_congr Iff.rfl ?_
    constructor
    · intro h
      obtain ⟨call, hown | hfake, hmcc, hnum⟩ := h
      · rw [mcc_of_hasOwn hown] at hmcc
        exact .inl ⟨hmcc, (exists_hasOwn_iff hn).mp ⟨call, hown, hnum⟩⟩
      · exact hnum ▸ lists_or_leftover hfake hmcc
    · intro h
      rcases h with ⟨hmcc, hlists⟩ | ⟨hhome, hkey, call, hcall, hmcc, hnum⟩
      · obtain ⟨call, hown, hnum⟩ := (exists_hasOwn_iff (K := K) hn).mpr hlists
        exact ⟨call, .inl hown, by rwa [mcc_of_hasOwn hown], hnum⟩
      · exact ⟨call, .inr ⟨hhome, by rwa [if_pos hkey]⟩, .inl hmcc, hnum⟩

/-- A phone in no country, with a modem that stays on. -/
def PhoneEnv.plain : PhoneEnv := ⟨[], false, fun _ _ => false⟩

/-- The SIM is ready and its network not yet known when the modem's list of one
number comes: 112 is no emergency number. -/
theorem not_recognised :
    ¬∀ K db s h, Run (eccMachine K db) (mergeMonitor K) unconditional s h → h.active = true →
      ∀ slotId env phone, ∀ n ∈ threeGppNumbers, s.config.Recognised slotId env phone n := by
  intro hclaim
  have hrecognised := hclaim .twoSlots twoFakes _ _
    (Run.of_admits
      [.initModeActive,
        .updateEmergencyCallFromRadio 0 ⟨.ready, [], none⟩ true [⟨['1', '1', '9'], 0, 1, [], 0⟩]]
      (by exact ⟨trivial, trivial, trivial, trivial, trivial⟩)) rfl 0 ⟨.ready, [], none⟩ .plain
    ['1', '1', '2'] (by decide)
  exact absurd (hrecognised true) (by decide)

/-- At home 112 is recognised. -/
theorem recognised_at_home :
    (exec (eccMachine .twoSlots twoFakes) (mergeMonitor .twoSlots)
      (eccMachine .twoSlots twoFakes).init (mergeMonitor .twoSlots).init
      [.initModeActive,
        .updateEmergencyCallFromRadio 0 (.registered plmnA) true []]).1.config.Recognised 0
      (.registered plmnA) .plain ['1', '1', '2'] := by
  refine (recognised_iff_of_run .twoSlots twoFakes
    (Run.of_admits
      [.initModeActive, .updateEmergencyCallFromRadio 0 (.registered plmnA) true []]
      (by exact ⟨trivial, trivial, trivial, trivial, trivial⟩)) rfl 0 (.registered plmnA) .plain
    (n := ['1', '1', '2']) (by decide)).mpr ?_
  intro m hmerged
  have hmerge : m = ⟨.registered plmnA, [], .none, twoFakes plmnA⟩ :=
    (Option.some.inj hmerged).symm
  subst hmerge
  exact .inr (.inl ⟨.inl rfl, .inl fun _ => by decide⟩)

end CellularCall
