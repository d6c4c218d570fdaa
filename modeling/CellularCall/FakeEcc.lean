import CellularCall.EccConfig

/-!
# The cache of fake emergency numbers

For the home network of its SIM a slot has fake emergency numbers, which
`MergeEccCallList` adds to the others.  `hplmnFakeEccList_` keeps them, so that
the database need not be asked again.

The numbers of a network are put besides those that are there already, under the
new network as the key.  `fakeEccTransparent_iff` says when a list merged from
the cache is nevertheless the list merged from the database.
-/

namespace CellularCall

open Lib

namespace EccConfig

/-- The cache of a slot, emptied. -/
def emptyFakeEccList (c : EccConfig) (slotId : Int) : EccConfig :=
  { c with hplmnFakeEccList := Function.update c.hplmnFakeEccList slotId .none }

variable (K : EccConstants)

/-- A list from the modem is merged to the same set with the cache as it is and
with the cache emptied before. -/
def FakeEccTransparent (c : EccConfig) (slotId : Int) (env : SimEnv) (db : EccDatabase)
    (calls : List EmergencyInfo) : Prop :=
  ∀ call, call ∈ (c.updateEmergencyCallFromRadio K slotId env db calls).allEccList slotId ↔
    call ∈ ((c.emptyFakeEccList slotId).updateEmergencyCallFromRadio K slotId env db
      calls).allEccList slotId

/-! ## What a merge does -/

variable {K} {c : EccConfig} {slotId : Int} {env : SimEnv} {db : EccDatabase}
  {calls : List EmergencyInfo}

@[simp] theorem allEccList_uniqueEccCallList {eccList : List EmergencyCall} :
    (c.uniqueEccCallList slotId eccList).allEccList slotId = pushAllNew [] eccList := by
  simp [uniqueEccCallList]

@[simp] theorem hplmnFakeEccList_uniqueEccCallList {eccList : List EmergencyCall} :
    (c.uniqueEccCallList slotId eccList).hplmnFakeEccList = c.hplmnFakeEccList := rfl

/-- The numbers of the database are asked for, and there are some. -/
def Learns (K : EccConstants) (slotId : Int) (env : SimEnv) (db : EccDatabase) (key : Str) : Prop :=
  CellularCallConfig.isValidSlotId K.toConfigConstants slotId = true ∧ env.atHome = true ∧
    key ≠ env.operatorNumeric ∧
      fakeCallsOf K (getMcc env.operatorNumeric) (db env.operatorNumeric) ≠ []

instance {key : Str} : Decidable (Learns K slotId env db key) :=
  inferInstanceAs (Decidable (_ ∧ _ ∧ _ ∧ _))

/-- Beyond the slot's own numbers a merge finds those of the cache if it has the
right key, and those of the database otherwise. -/
theorem mem_allEccList_mergeEccCallList {call : EmergencyCall} :
    call ∈ (c.mergeEccCallList K slotId env db).allEccList slotId ↔
      call ∈ c.ownEccList slotId env ∨ (env.atHome = true ∧
        if (c.hplmnFakeEccList slotId).plmn = env.operatorNumeric then
          call ∈ (c.hplmnFakeEccList slotId).eccInfoList
        else call ∈ fakeCallsOf K (getMcc env.operatorNumeric) (db env.operatorNumeric)) := by
  unfold mergeEccCallList
  by_cases hhome : env.atHome = true
  · by_cases hkey : (c.hplmnFakeEccList slotId).plmn = env.operatorNumeric
    · simp [hhome, hkey, updateEccListByFakeEccList]
    · by_cases hcalls : fakeCallsOf K (getMcc env.operatorNumeric) (db env.operatorNumeric) = []
      · simp [hhome, hkey, hcalls, updateHplmnFakeEccList]
      · simp [hhome, hkey, hcalls, updateHplmnFakeEccList]
  · simp [hhome]

/-- The cache after a merge. -/
theorem hplmnFakeEccList_updateEmergencyCallFromRadio :
    (c.updateEmergencyCallFromRadio K slotId env db calls).hplmnFakeEccList =
      if Learns K slotId env db (c.hplmnFakeEccList slotId).plmn then
        Function.update c.hplmnFakeEccList slotId
          ⟨env.operatorNumeric, pushAllNew (c.hplmnFakeEccList slotId).eccInfoList
            (fakeCallsOf K (getMcc env.operatorNumeric) (db env.operatorNumeric))⟩
      else c.hplmnFakeEccList := by
  unfold updateEmergencyCallFromRadio mergeEccCallList Learns
  by_cases hvalid : CellularCallConfig.isValidSlotId K.toConfigConstants slotId = true
  · by_cases hhome : env.atHome = true
    · by_cases hkey : (c.hplmnFakeEccList slotId).plmn = env.operatorNumeric
      · simp [hvalid, hhome, hkey]
      · by_cases hcalls : fakeCallsOf K (getMcc env.operatorNumeric) (db env.operatorNumeric) = []
        · simp [hvalid, hhome, hkey, hcalls, updateHplmnFakeEccList]
        · simp [hvalid, hhome, hkey, hcalls, updateHplmnFakeEccList]
    · simp [hvalid, hhome]
  · simp [hvalid]

/-- At home the network of the SIM is known. -/
theorem operatorNumeric_ne_nil (hhome : env.atHome = true) : env.operatorNumeric ≠ [] := by
  intro hnumeric
  simp [SimEnv.atHome, hnumeric] at hhome

/-- The modem's numbers and the standard ones for a slot with a SIM, as they hold
in a country. -/
def holdingIn (c : EccConfig) (mcc : Str) (calls : List EmergencyInfo) : List EmergencyCall :=
  (calls.map buildEmergencyCall ++ c.eccList3gppHasSim).map (EmergencyCall.withMcc mcc)

theorem getMcc_ne_nil {operatorNumeric : Str} (hne : operatorNumeric ≠ []) :
    getMcc operatorNumeric ≠ [] := by
  cases operatorNumeric with
  | nil => exact absurd rfl hne
  | cons d ds => simp [getMcc]

/-- At home the own numbers of a slot are the modem's and the standard ones for a
slot with a SIM. -/
theorem ownEccList_of_atHome (hhome : env.atHome = true) :
    ({ c with
      eccListRadioMap :=
        Function.update c.eccListRadioMap slotId (calls.map buildEmergencyCall) }).ownEccList
      slotId env = c.holdingIn (getMcc env.operatorNumeric) calls := by
  obtain ⟨⟨hsim, -⟩, hnumeric⟩ : (env.hasSim = true ∧ env.getRoamingState = false) ∧
      env.operatorNumeric ≠ [] := by simpa [SimEnv.atHome] using hhome
  simp [ownEccList, holdingIn, hsim, getMcc_ne_nil hnumeric]

/-- What the cache adds at home, and what the database would add. -/
theorem fakeEccTransparent_iff_of_atHome
    (hvalid : CellularCallConfig.isValidSlotId K.toConfigConstants slotId = true)
    (hhome : env.atHome = true) (hkey : (c.hplmnFakeEccList slotId).plmn = env.operatorNumeric) :
    c.FakeEccTransparent K slotId env db calls ↔
      ∀ call, call ∈ c.holdingIn (getMcc env.operatorNumeric) calls ∨
          call ∈ (c.hplmnFakeEccList slotId).eccInfoList ↔
        call ∈ c.holdingIn (getMcc env.operatorNumeric) calls ∨
          call ∈ fakeCallsOf K (getMcc env.operatorNumeric) (db env.operatorNumeric) := by
  have hnumeric : [] ≠ env.operatorNumeric := (operatorNumeric_ne_nil hhome).symm
  have hempty : (c.emptyFakeEccList slotId).holdingIn = c.holdingIn := rfl
  simp only [FakeEccTransparent, updateEmergencyCallFromRadio, hvalid, Bool.true_eq_false, if_false,
    mem_allEccList_mergeEccCallList, ownEccList_of_atHome hhome, hempty]
  simp [hhome, hkey, emptyFakeEccList, EccList.none, hnumeric]

/-- Away from home the cache is not looked at, and with another key it is not
used. -/
theorem fakeEccTransparent_of_not
    (hmiss : ¬(CellularCallConfig.isValidSlotId K.toConfigConstants slotId = true ∧
      env.atHome = true ∧ (c.hplmnFakeEccList slotId).plmn = env.operatorNumeric)) :
    c.FakeEccTransparent K slotId env db calls := by
  intro call
  by_cases hvalid : CellularCallConfig.isValidSlotId K.toConfigConstants slotId = true
  · simp only [updateEmergencyCallFromRadio, hvalid, Bool.true_eq_false, if_false,
      mem_allEccList_mergeEccCallList]
    by_cases hhome : env.atHome = true
    · have hnumeric : [] ≠ env.operatorNumeric := (operatorNumeric_ne_nil hhome).symm
      have hkey : (c.hplmnFakeEccList slotId).plmn ≠ env.operatorNumeric :=
        fun heq => hmiss ⟨hvalid, hhome, heq⟩
      simp [hhome, hkey, emptyFakeEccList, EccList.none, hnumeric, ownEccList]
    · simp [hhome, emptyFakeEccList, ownEccList]
  · simp [updateEmergencyCallFromRadio, hvalid, emptyFakeEccList]

end EccConfig

/-! ## The networks behind the cache -/

/-- The networks whose fake numbers each slot has put into its cache since it was
cleared, the last one first. -/
abbrev Learned := Int → List Str

/-- The history of the cache, over a database that stays as it is. -/
def fakeEccMonitor (K : EccConstants) (db : EccDatabase) :
    Monitor EccState EccEvent EccOutput Learned where
  init := fun _ => []
  allowed _ _
    | .clearCachedEcclist _ db' => db' = db
    | _ => True
  update h _ e _ _ :=
    match e with
    | .updateEmergencyCallFromRadio slotId env succeeds _ =>
      if succeeds ∧ EccConfig.Learns K slotId env db ((h slotId).headD []) then
        Function.update h slotId (env.operatorNumeric :: h slotId)
      else h
    | .clearCachedEcclist slotId _ => Function.update h slotId []
    | _ => h

/-- The cache of a slot has the numbers of the networks it learned, under the key
of the last one. -/
structure FakeEccCached (K : EccConstants) (db : EccDatabase) (cached : EccList)
    (learned : List Str) : Prop where
  plmn : cached.plmn = learned.headD []
  eccInfoList : ∀ call, call ∈ cached.eccInfoList ↔
    ∃ plmn ∈ learned, call ∈ fakeCallsOf K (getMcc plmn) (db plmn)

theorem FakeEccCached.none (K : EccConstants) (db : EccDatabase) :
    FakeEccCached K db .none [] := ⟨rfl, by simp [EccList.none]⟩

theorem FakeEccCached.cons {K : EccConstants} {db : EccDatabase} {cached : EccList}
    {learned : List Str} (hcached : FakeEccCached K db cached learned) (hplmn : Str) :
    FakeEccCached K db ⟨hplmn, pushAllNew cached.eccInfoList
      (fakeCallsOf K (getMcc hplmn) (db hplmn))⟩ (hplmn :: learned) := by
  refine ⟨rfl, fun call => ?_⟩
  simp only [mem_pushAllNew, hcached.eccInfoList, List.mem_cons, exists_eq_or_imp]
  rw [or_comm]

/-- The lists that calls are compared with, and what they are merged from, are the
same. -/
structure EccConfig.SameLists (c c' : EccConfig) : Prop where
  eccListRadioMap : c'.eccListRadioMap = c.eccListRadioMap
  eccList3gppHasSim : c'.eccList3gppHasSim = c.eccList3gppHasSim
  eccList3gppNoSim : c'.eccList3gppNoSim = c.eccList3gppNoSim
  allEccList : c'.allEccList = c.allEccList
  hplmnFakeEccList : c'.hplmnFakeEccList = c.hplmnFakeEccList

/-- The events of `UpdateEccNumberList`, and those that lead to it. -/
def EccEvent.isNumberList : EccEvent → Bool
  | .initModeActive => false
  | .updateEmergencyCallFromRadio .. => false
  | .clearCachedEcclist .. => false
  | _ => true

/-- `UpdateEccNumberList` leaves the lists that calls are compared with alone. -/
theorem sameLists_step (K : EccConstants) (db : EccDatabase) (s : EccState) {e : EccEvent}
    (he : e.isNumberList = true) :
    s.config.SameLists ((eccMachine K db).step s e).1.config ∧
      ((eccMachine K db).step s e).1.database = s.database := by
  cases e with
  | initModeActive => cases he
  | updateEmergencyCallFromRadio slotId env succeeds calls => cases he
  | clearCachedEcclist slotId db' => cases he
  | checkAndUpdateSimState slotId simState => exact ⟨⟨rfl, rfl, rfl, rfl, rfl⟩, rfl⟩
  | handleResidentNetworkChange slotId plmn =>
    simp only [eccMachine, EccConfig.handleResidentNetworkChange]
    split <;> exact ⟨⟨rfl, rfl, rfl, rfl, rfl⟩, by trivial⟩
  | enterEccNumberList thread slotId env =>
    simp only [eccMachine]
    split <;> exact ⟨⟨rfl, rfl, rfl, rfl, rfl⟩, by trivial⟩
  | processEccList thread callListWithCard rplmn =>
    simp only [eccMachine, EccState.processEccList]
    split
    · exact ⟨⟨rfl, rfl, rfl, rfl, rfl⟩, rfl⟩
    · simp only [EccState.enter, EccConfig.processCurrentPlmnEccList]
      split_ifs <;> exact ⟨⟨rfl, rfl, rfl, rfl, rfl⟩, by trivial⟩
    · exact ⟨⟨rfl, rfl, rfl, rfl, rfl⟩, rfl⟩
  | queryEccList thread succeeds =>
    simp only [eccMachine, EccState.queryEccList]
    split <;> exact ⟨⟨rfl, rfl, rfl, rfl, rfl⟩, by trivial⟩
  | storeEccList thread =>
    simp only [eccMachine, EccState.storeEccList, EccConfig.storeEccList]
    split
    · simp only [EccState.enter]
      split <;> exact ⟨⟨rfl, rfl, rfl, rfl, rfl⟩, by trivial⟩
    · exact ⟨⟨rfl, rfl, rfl, rfl, rfl⟩, rfl⟩

/-- Every cache is that of its history, over the database of the run. -/
structure FakeEccInv (K : EccConstants) (db : EccDatabase) (s : EccState) (h : Learned) : Prop where
  database : s.database = db
  cached : ∀ slotId, FakeEccCached K db (s.config.hplmnFakeEccList slotId) (h slotId)

section
variable {K : EccConstants} {db : EccDatabase} {s : EccState} {h : Learned}

/-- Beside the slot that an event is about, caches and histories stay as they
are. -/
theorem FakeEccInv.update {cached : EccList} {learned : List Str} (hinv : FakeEccInv K db s h)
    (slotId : Int) (hcached : FakeEccCached K db cached learned) (slotId' : Int) :
    FakeEccCached K db (Function.update s.config.hplmnFakeEccList slotId cached slotId')
      (Function.update h slotId learned slotId') := by
  by_cases heq : slotId' = slotId
  · subst heq
    rw [Function.update_self, Function.update_self]
    exact hcached
  · rw [Function.update_of_ne heq, Function.update_of_ne heq]
    exact hinv.cached slotId'

theorem FakeEccInv.updateEmergencyCallFromRadio (hinv : FakeEccInv K db s h) (slotId : Int)
    (env : SimEnv) (succeeds : Bool) (calls : List EmergencyInfo) :
    FakeEccInv K db
      ((eccMachine K db).step s (.updateEmergencyCallFromRadio slotId env succeeds calls)).1
      ((fakeEccMonitor K db).next (eccMachine K db) h s
        (.updateEmergencyCallFromRadio slotId env succeeds calls)) := by
  refine ⟨hinv.database, ?_⟩
  have hkey := (hinv.cached slotId).plmn
  simp only [Monitor.next, eccMachine, fakeEccMonitor, EccState.answers, hinv.database,
    EccConfig.hplmnFakeEccList_updateEmergencyCallFromRadio, hkey]
  cases succeeds with
  | false =>
    have hlearns : ¬EccConfig.Learns K slotId env (fun _ => []) ((h slotId).headD []) :=
      fun hlearns => hlearns.2.2.2 rfl
    simp only [Bool.false_eq_true, if_false, false_and, if_neg hlearns]
    exact hinv.cached
  | true =>
    simp only [if_true, true_and]
    by_cases hlearns : EccConfig.Learns K slotId env db ((h slotId).headD [])
    · simp only [if_pos hlearns]
      exact hinv.update slotId ((hinv.cached slotId).cons env.operatorNumeric)
    · simp only [if_neg hlearns]
      exact hinv.cached

theorem FakeEccInv.clearCachedEcclist (hinv : FakeEccInv K db s h) (slotId : Int) :
    FakeEccInv K db ((eccMachine K db).step s (.clearCachedEcclist slotId db)).1
      ((fakeEccMonitor K db).next (eccMachine K db) h s (.clearCachedEcclist slotId db)) := by
  exact ⟨rfl, hinv.update slotId (.none K db)⟩

theorem FakeEccInv.step (hinv : FakeEccInv K db s h) (e : EccEvent)
    (hallowed : (fakeEccMonitor K db).allowed h s e) :
    FakeEccInv K db ((eccMachine K db).step s e).1
      ((fakeEccMonitor K db).next (eccMachine K db) h s e) := by
  by_cases he : e.isNumberList = true
  · have hnext : (fakeEccMonitor K db).next (eccMachine K db) h s e = h := by
      cases e <;> first | rfl | cases he
    obtain ⟨hsame, hdatabase⟩ := sameLists_step K db s he
    rw [hnext]
    exact ⟨hdatabase.trans hinv.database, hsame.hplmnFakeEccList ▸ hinv.cached⟩
  · cases e with
    | initModeActive => exact ⟨hinv.database, hinv.cached⟩
    | updateEmergencyCallFromRadio slotId env succeeds calls =>
      exact hinv.updateEmergencyCallFromRadio slotId env succeeds calls
    | clearCachedEcclist slotId db' =>
      have hdb : db' = db := hallowed
      rw [hdb]
      exact hinv.clearCachedEcclist slotId
    | _ => exact absurd rfl he

theorem fakeEccInv_of_run
    (hrun : Run (eccMachine K db) (fakeEccMonitor K db) unconditional s h) :
    FakeEccInv K db s h :=
  hrun.invariant ⟨rfl, fun _ => .none K db⟩ fun _ _ e hinv hallowed _ => hinv.step e hallowed

end

/-- Every fake number of the networks learned holds at home: the modem has it, or
it is a standard one, or one of the home network itself. -/
def LearnedHold (K : EccConstants) (db : EccDatabase) (c : EccConfig) (learned : List Str)
    (hplmn : Str) (calls : List EmergencyInfo) : Prop :=
  ∀ plmn ∈ learned, ∀ call ∈ fakeCallsOf K (getMcc plmn) (db plmn),
    call ∈ c.holdingIn (getMcc hplmn) calls ∨ call ∈ fakeCallsOf K (getMcc hplmn) (db hplmn)

/-- In every state reached, the cache is transparent unless a slot is at home in
the network it learned last, and has learned another one with a fake number that
does not hold there. -/
theorem fakeEccTransparent_iff (K : EccConstants) (db : EccDatabase) {s : EccState} {h : Learned}
    (hrun : Run (eccMachine K db) (fakeEccMonitor K db) unconditional s h) (slotId : Int)
    (env : SimEnv) (calls : List EmergencyInfo) :
    s.config.FakeEccTransparent K slotId env db calls ↔
      (CellularCallConfig.isValidSlotId K.toConfigConstants slotId = true → env.atHome = true →
        (h slotId).head? = some env.operatorNumeric →
          LearnedHold K db s.config (h slotId) env.operatorNumeric calls) := by
  have hcached := (fakeEccInv_of_run hrun).cached slotId
  have hhead (hhome : env.atHome = true) :
      (h slotId).head? = some env.operatorNumeric ↔
        (s.config.hplmnFakeEccList slotId).plmn = env.operatorNumeric := by
    have hnumeric : [] ≠ env.operatorNumeric :=
      (EccConfig.operatorNumeric_ne_nil hhome).symm
    rw [hcached.plmn]
    cases h slotId with
    | nil => simp [hnumeric]
    | cons plmn learned => simp
  by_cases hvalid : CellularCallConfig.isValidSlotId K.toConfigConstants slotId = true
  · by_cases hhome : env.atHome = true
    · by_cases hkey : (s.config.hplmnFakeEccList slotId).plmn = env.operatorNumeric
      · rw [EccConfig.fakeEccTransparent_iff_of_atHome hvalid hhome hkey]
        simp only [hvalid, hhome, (hhead hhome).mpr hkey, forall_const, hcached.eccInfoList]
        have hmem : env.operatorNumeric ∈ h slotId :=
          List.mem_of_mem_head? ((hhead hhome).mpr hkey)
        constructor
        · intro hsame plmn hplmn call hcall
          exact (hsame call).mp (.inr ⟨plmn, hplmn, hcall⟩)
        · intro hholds call
          constructor
          · intro h
            rcases h with hown | ⟨plmn, hplmn, hcall⟩
            · exact .inl hown
            · exact hholds plmn hplmn call hcall
          · intro h
            rcases h with hown | hcall
            · exact .inl hown
            · exact .inr ⟨_, hmem, hcall⟩
      · refine iff_of_true (EccConfig.fakeEccTransparent_of_not fun hhit => hkey hhit.2.2) ?_
        intro _ _ hlast
        exact absurd ((hhead hhome).mp hlast) hkey
    · exact iff_of_true (EccConfig.fakeEccTransparent_of_not fun hhit => hhome hhit.2.1)
        fun _ hhome' => absurd hhome' hhome
  · exact iff_of_true (EccConfig.fakeEccTransparent_of_not fun hhit => hvalid hhit.1)
      fun hvalid' => absurd hvalid' hvalid

/-- A build with two slots. -/
def EccConstants.twoSlots : EccConstants := ⟨CellularCall.twoSlots, 0, 0, 1, 0⟩

/-- A slot with a SIM of a network, registered at home. -/
def SimEnv.registered (operatorNumeric : Str) : SimEnv :=
  ⟨.loaded, operatorNumeric, some ⟨true, false⟩⟩

/-- Two networks of a country. -/
def plmnA : Str := ['4', '6', '0', '0', '0']

def plmnB : Str := ['4', '6', '0', '0', '1']

/-- The one has 999 for a fake number, the other 118. -/
def twoFakes : EccDatabase := fun plmn =>
  if plmn = plmnA then [{ EccNum.plain with numeric := plmnA, eccFake := ['9', '9', '9'] }]
  else if plmn = plmnB then [{ EccNum.plain with numeric := plmnB, eccFake := ['1', '1', '8'] }]
  else []

/-- The SIM is changed for one of another network: its second merge takes 999 from
the cache. -/
theorem not_fakeEccTransparent :
    ¬∀ K db s h, Run (eccMachine K db) (fakeEccMonitor K db) unconditional s h →
      ∀ slotId env calls, s.config.FakeEccTransparent K slotId env db calls := by
  intro hclaim
  have htransparent := hclaim .twoSlots twoFakes _ _
    (Run.of_admits
      [.initModeActive, .updateEmergencyCallFromRadio 0 (.registered plmnA) true [],
        .updateEmergencyCallFromRadio 0 (.registered plmnB) true []]
      (by exact ⟨trivial, trivial, trivial, trivial, trivial, trivial, trivial⟩))
  exact absurd (htransparent 0 (.registered plmnB) [] ⟨['9', '9', '9'], 0, 1, ['4', '6', '0'], 0⟩)
    (by decide)

/-- With the one SIM the cache is transparent. -/
theorem fakeEccTransparent_one_network :
    (exec (eccMachine .twoSlots twoFakes) (fakeEccMonitor .twoSlots twoFakes)
      (eccMachine .twoSlots twoFakes).init (fakeEccMonitor .twoSlots twoFakes).init
      [.initModeActive,
        .updateEmergencyCallFromRadio 0 (.registered plmnA) true []]).1.config.FakeEccTransparent
      .twoSlots 0 (.registered plmnA) twoFakes [] := by
  refine (fakeEccTransparent_iff .twoSlots twoFakes
    (Run.of_admits
      [.initModeActive, .updateEmergencyCallFromRadio 0 (.registered plmnA) true []]
      (by exact ⟨trivial, trivial, trivial, trivial, trivial⟩)) 0 (.registered plmnA) []).mpr ?_
  intro _ _ _ plmn hplmn call hcall
  have hlearned : plmn ∈ [plmnA] := hplmn
  rw [List.mem_singleton] at hlearned
  exact .inr (hlearned ▸ hcall)

end CellularCall
