import CellularCall.FakeEcc

/-!
# The caches of a network's emergency numbers

What the modem has to be told about a network is cached under the network's
number.  `UpdateEccNumberList` holds the lock while it looks a network up and
while it stores an answer, and not while it asks the database.  The answer for a
visited network is stored under the number `curPlmn_` has by then, which
`HandleResidentNetworkChange` writes under another lock.

All slots ask one database.  When it has changed, `HandleEccListChange` clears the
caches of one slot after the other, and sends the first slot's numbers in between.

`plmnEccCoherent_of_run` says what is left: the caches are right as long as each
answer is stored under the network it was asked for, and still holds, and the rows of
a network stay as they are while a slot has it cached.
-/

namespace CellularCall

open Lib

/-! ## Coherence -/

/-- The cached numbers are those the database has for the cached network. -/
def EccList.Coherent (K : EccConstants) (db : EccDatabase) (cached : EccList) : Prop :=
  cached.plmn ≠ [] → cached.eccInfoList = eccInfoListOf K (db cached.plmn)

theorem EccList.coherent_none (K : EccConstants) (db : EccDatabase) :
    EccList.none.Coherent K db := fun hne => absurd rfl hne

namespace EccState

/-- Both caches of each slot are coherent. -/
structure PlmnEccCoherent (K : EccConstants) (s : EccState) : Prop where
  hplmnEccList : ∀ slotId, (s.config.hplmnEccList slotId).Coherent K s.database
  currentPlmnEccList : ∀ slotId, (s.config.currentPlmnEccList slotId).Coherent K s.database

/-- What a thread takes from a cache and sends is what the database has. -/
def FastPathAgrees (K : EccConstants) (s : EccState) : Prop :=
  ∀ thread callListWithCard rplmn,
    ∀ o ∈ (s.processEccList K thread callListWithCard rplmn).2,
      match s.threads thread with
      | .home slotId hplmn => callListWithCard = [] →
        o = .setEmergencyCallList slotId (eccInfoListOf K (s.database hplmn))
      | .current slotId =>
        let plmn := if s.config.curPlmn slotId = [] then rplmn else s.config.curPlmn slotId
        o = .setEmergencyCallList slotId (eccInfoListOf K (s.database plmn))
      | _ => True

end EccState

/-! ## What was asked for -/

/-- The network each thread has asked for last, and what the database answered. -/
abbrev Asked := Nat → Option (Str × List EccNum)

/-- Remembers what the threads ask for. -/
def askedMonitor : Monitor EccState EccEvent EccOutput Asked where
  init := fun _ => none
  allowed _ _ _ := True
  update h s e _ _ :=
    match e with
    | .queryEccList thread true =>
      match s.threads thread with
      | .asking _ _ plmn => Function.update h thread (some (plmn, s.database plmn))
      | _ => h
    | _ => h

/-- The network an answer is stored under. -/
def EccConfig.storedUnder (c : EccConfig) (slotId : Int) (hplmn : Option Str) : Str :=
  hplmn.getD (c.curPlmn slotId)

/-- The database that comes has the same rows for the cached network. -/
def EccList.SameRows (db db' : EccDatabase) (cached : EccList) : Prop :=
  cached.plmn ≠ [] → db' cached.plmn = db cached.plmn

/-- An answer is stored under no network, or under the one that was asked for
while the database still has it.  And when the caches of a slot are cleared, the
database has not changed for a network that another slot has cached. -/
def keepsCachesCurrent : StepCond EccState EccEvent Asked := fun h s e =>
  match e with
  | .storeEccList thread =>
    match s.threads thread with
    | .storing slotId hplmn _ =>
      let plmn := s.config.storedUnder slotId hplmn
      plmn = [] ∨ h thread = some (plmn, s.database plmn)
    | _ => True
  | .clearCachedEcclist slotId db => ∀ slotId', slotId' ≠ slotId →
      (s.config.hplmnEccList slotId').SameRows s.database db ∧
        (s.config.currentPlmnEccList slotId').SameRows s.database db
  | _ => True

/-- A thread that is to store an answer has it from its last query, and a home
network is one. -/
def EccPhase.Fits (K : EccConstants) (asked : Option (Str × List EccNum)) : EccPhase → Prop
  | .home _ hplmn => hplmn ≠ []
  | .storing _ _ eccInfoList => ∃ plmn rows, asked = some (plmn, rows) ∧
      eccInfoList = eccInfoListOf K rows
  | _ => True

/-- The caches are coherent, and the threads have what they asked for. -/
structure PlmnEccInv (K : EccConstants) (s : EccState) (h : Asked) : Prop
    extends s.PlmnEccCoherent K where
  threads : ∀ thread, (s.threads thread).Fits K (h thread)

section
variable {K : EccConstants} {db : EccDatabase} {s : EccState} {h : Asked}

/-- A thread goes on: only its own phase has to be looked at. -/
theorem fits_enter (hthreads : ∀ thread, (s.threads thread).Fits K (h thread)) (thread : Nat)
    {phase : EccPhase} {asked : Option (Str × List EccNum)} (hphase : phase.Fits K asked)
    (thread' : Nat) :
    ((s.enter thread phase).threads thread').Fits K (Function.update h thread asked thread') := by
  by_cases heq : thread' = thread
  · subst heq
    simpa [EccState.enter] using hphase
  · simpa [EccState.enter, heq] using hthreads thread'

theorem fits_enter_same (hthreads : ∀ thread, (s.threads thread).Fits K (h thread)) {thread : Nat}
    {phase : EccPhase} (hphase : phase.Fits K (h thread)) (thread' : Nat) :
    ((s.enter thread phase).threads thread').Fits K (h thread') := by
  have hfits := fits_enter hthreads thread hphase thread'
  rwa [Function.update_eq_self] at hfits

theorem fits_enterEccNumberList {c : EccConfig} {slotId : Int} {env : SimEnv}
    {asked : Option (Str × List EccNum)} :
    (c.enterEccNumberList K slotId env).Fits K asked := by
  unfold EccConfig.enterEccNumberList
  split
  · trivial
  · split
    · trivial
    · split
      · rename_i hhome
        exact hhome.1
      · trivial

/-- A merge does not touch the networks' numbers. -/
theorem caches_updateEmergencyCallFromRadio (K : EccConstants) (c : EccConfig) (slotId : Int)
    (env : SimEnv) (db : EccDatabase) (calls : List EmergencyInfo) :
    (c.updateEmergencyCallFromRadio K slotId env db calls).hplmnEccList = c.hplmnEccList ∧
      (c.updateEmergencyCallFromRadio K slotId env db calls).currentPlmnEccList =
        c.currentPlmnEccList := by
  simp only [EccConfig.updateEmergencyCallFromRadio, EccConfig.mergeEccCallList,
    EccConfig.updateHplmnFakeEccList]
  split_ifs <;> exact ⟨rfl, rfl⟩

theorem processHplmnEccList_fits {c : EccConfig} {slotId : Int} {hplmn : Str}
    {callListWithCard : List Str} {asked : Option (Str × List EccNum)} :
    (c.processHplmnEccList K slotId hplmn callListWithCard).1.Fits K asked := by
  simp only [EccConfig.processHplmnEccList]
  split_ifs <;> trivial

theorem processCurrentPlmnEccList_spec (c : EccConfig) (slotId : Int) (rplmn : Str)
    (asked : Option (Str × List EccNum)) :
    (c.processCurrentPlmnEccList slotId rplmn).1.hplmnEccList = c.hplmnEccList ∧
      (c.processCurrentPlmnEccList slotId rplmn).1.currentPlmnEccList = c.currentPlmnEccList ∧
        (c.processCurrentPlmnEccList slotId rplmn).2.1.Fits K asked := by
  simp only [EccConfig.processCurrentPlmnEccList]
  split_ifs <;> exact ⟨rfl, rfl, trivial⟩

/-- With the same rows, a cache is as good over the database that comes. -/
theorem EccList.Coherent.of_sameRows {db' : EccDatabase} {cached : EccList}
    (hcached : cached.Coherent K db) (hsame : cached.SameRows db db') :
    cached.Coherent K db' := by
  intro hne
  rw [hcached hne, hsame hne]

/-- A cache is written for one slot. -/
theorem coherent_update {caches : Int → EccList} {slotId : Int}
    (hothers : ∀ slotId', slotId' ≠ slotId → (caches slotId').Coherent K db)
    {cached : EccList} (hcached : cached.Coherent K db) (slotId' : Int) :
    (Function.update caches slotId cached slotId').Coherent K db := by
  by_cases heq : slotId' = slotId
  · subst heq
    rw [Function.update_self]
    exact hcached
  · rw [Function.update_of_ne heq]
    exact hothers slotId' heq

/-- An answer that is still the network's is stored. -/
theorem coherent_storeEccList {c : EccConfig} {slotId : Int} {hplmn : Option Str}
    {eccInfoList : List EmergencyCall}
    (hhome : ∀ slotId, (c.hplmnEccList slotId).Coherent K db)
    (hcurrent : ∀ slotId, (c.currentPlmnEccList slotId).Coherent K db)
    (hanswer : c.storedUnder slotId hplmn ≠ [] →
      eccInfoList = eccInfoListOf K (db (c.storedUnder slotId hplmn))) :
    (∀ slotId', ((c.storeEccList slotId hplmn eccInfoList).1.hplmnEccList slotId').Coherent K
        db) ∧
      ∀ slotId', ((c.storeEccList slotId hplmn eccInfoList).1.currentPlmnEccList slotId').Coherent K
        db := by
  cases hplmn with
  | none => exact ⟨hhome, coherent_update (fun slotId' _ => hcurrent slotId') hanswer⟩
  | some hplmn => exact ⟨coherent_update (fun slotId' _ => hhome slotId') hanswer, hcurrent⟩

theorem PlmnEccInv.queryEccList (hinv : PlmnEccInv K s h) (thread : Nat) (succeeds : Bool) :
    PlmnEccInv K (s.queryEccList K thread succeeds)
      (askedMonitor.next (eccMachine K db) h s (.queryEccList thread succeeds)) := by
  cases hphase : s.threads thread with
  | asking slotId hplmn plmn =>
    cases succeeds with
    | true =>
      have hnext : askedMonitor.next (eccMachine K db) h s (.queryEccList thread true) =
          Function.update h thread (some (plmn, s.database plmn)) := by
        simp only [Monitor.next, askedMonitor, hphase]
      have hstep : s.queryEccList K thread true = s.enter thread
          (.storing slotId hplmn (eccInfoListOf K (s.database plmn))) := by
        simp only [EccState.queryEccList, hphase, if_true]
      rw [hnext, hstep]
      exact ⟨⟨hinv.hplmnEccList, hinv.currentPlmnEccList⟩,
        fits_enter hinv.threads thread ⟨plmn, s.database plmn, rfl, rfl⟩⟩
    | false =>
      have hstep : s.queryEccList K thread false = s.enter thread .idle := by
        simp [EccState.queryEccList, hphase]
      rw [hstep]
      exact ⟨⟨hinv.hplmnEccList, hinv.currentPlmnEccList⟩, fits_enter_same hinv.threads trivial⟩
  | _ =>
    have hstep : s.queryEccList K thread succeeds = s := by
      simp only [EccState.queryEccList, hphase]
    have hnext : askedMonitor.next (eccMachine K db) h s (.queryEccList thread succeeds) = h := by
      cases succeeds <;> simp only [Monitor.next, askedMonitor, hphase]
    rw [hstep, hnext]
    exact hinv

theorem PlmnEccInv.storeEccList (hinv : PlmnEccInv K s h) (thread : Nat)
    (hstores : keepsCachesCurrent h s (.storeEccList thread)) :
    PlmnEccInv K (s.storeEccList thread).1 h := by
  cases hphase : s.threads thread with
  | storing slotId hplmn eccInfoList =>
    simp only [keepsCachesCurrent, hphase] at hstores
    obtain ⟨plmn, rows, hasked, hinfo⟩ : ∃ plmn rows, h thread = some (plmn, rows) ∧
        eccInfoList = eccInfoListOf K rows := by
      have hfits := hinv.threads thread
      rwa [hphase] at hfits
    have hanswer : s.config.storedUnder slotId hplmn ≠ [] → eccInfoList =
        eccInfoListOf K (s.database (s.config.storedUnder slotId hplmn)) := by
      intro hne
      have hsame := hstores.resolve_left hne
      rw [hasked, Option.some.injEq, Prod.mk.injEq] at hsame
      rw [hinfo, hsame.2]
    have hcoherent := coherent_storeEccList hinv.hplmnEccList hinv.currentPlmnEccList hanswer
    have hstep : (s.storeEccList thread).1 = { s with
        config := (s.config.storeEccList slotId hplmn eccInfoList).1 }.enter thread .idle := by
      simp only [EccState.storeEccList, hphase]
    rw [hstep]
    exact ⟨⟨hcoherent.1, hcoherent.2⟩,
      fits_enter_same (s := { s with
        config := (s.config.storeEccList slotId hplmn eccInfoList).1 }) hinv.threads trivial⟩
  | _ =>
    have hstep : (s.storeEccList thread).1 = s := by simp only [EccState.storeEccList, hphase]
    rw [hstep]
    exact hinv

theorem PlmnEccInv.processEccList (hinv : PlmnEccInv K s h) (thread : Nat)
    (callListWithCard : List Str) (rplmn : Str) :
    PlmnEccInv K (s.processEccList K thread callListWithCard rplmn).1 h := by
  cases hphase : s.threads thread with
  | home slotId hplmn =>
    have hstep : (s.processEccList K thread callListWithCard rplmn).1 = s.enter thread
        (s.config.processHplmnEccList K slotId hplmn callListWithCard).1 := by
      simp only [EccState.processEccList, hphase]
    rw [hstep]
    exact ⟨⟨hinv.hplmnEccList, hinv.currentPlmnEccList⟩,
      fits_enter_same hinv.threads processHplmnEccList_fits⟩
  | current slotId =>
    have hstep : (s.processEccList K thread callListWithCard rplmn).1 = { s with
        config := (s.config.processCurrentPlmnEccList slotId rplmn).1 }.enter thread
          (s.config.processCurrentPlmnEccList slotId rplmn).2.1 := by
      simp only [EccState.processEccList, hphase]
    have hspec := processCurrentPlmnEccList_spec (K := K) s.config slotId rplmn (h thread)
    rw [hstep]
    refine ⟨⟨?_, ?_⟩, fits_enter_same (s := { s with
      config := (s.config.processCurrentPlmnEccList slotId rplmn).1 }) hinv.threads hspec.2.2⟩
    · intro slotId'
      rw [EccState.enter, hspec.1]
      exact hinv.hplmnEccList slotId'
    · intro slotId'
      rw [EccState.enter, hspec.2.1]
      exact hinv.currentPlmnEccList slotId'
  | _ =>
    have hstep : (s.processEccList K thread callListWithCard rplmn).1 = s := by
      simp only [EccState.processEccList, hphase]
    rw [hstep]
    exact hinv

/-- The caches of one slot are cleared, and the other slots' are as good over the
database that comes. -/
theorem PlmnEccInv.clearCachedEcclist (hinv : PlmnEccInv K s h) (slotId : Int) (db' : EccDatabase)
    (hsame : keepsCachesCurrent h s (.clearCachedEcclist slotId db')) :
    PlmnEccInv K ((eccMachine K db).step s (.clearCachedEcclist slotId db')).1 h := by
  have hhome := coherent_update
    (fun slotId' hne => (hinv.hplmnEccList slotId').of_sameRows (hsame slotId' hne).1)
    (EccList.coherent_none K db')
  have hcurrent := coherent_update
    (fun slotId' hne => (hinv.currentPlmnEccList slotId').of_sameRows (hsame slotId' hne).2)
    (EccList.coherent_none K db')
  exact ⟨⟨hhome, hcurrent⟩, hinv.threads⟩

theorem PlmnEccInv.step (hinv : PlmnEccInv K s h) (e : EccEvent)
    (hcurrent : keepsCachesCurrent h s e) :
    PlmnEccInv K ((eccMachine K db).step s e).1 (askedMonitor.next (eccMachine K db) h s e) := by
  cases e with
  | initModeActive => exact ⟨⟨hinv.hplmnEccList, hinv.currentPlmnEccList⟩, hinv.threads⟩
  | updateEmergencyCallFromRadio slotId env succeeds calls =>
    have hcaches := caches_updateEmergencyCallFromRadio K s.config slotId env
      (s.answers succeeds) calls
    refine ⟨⟨fun slotId' => ?_, fun slotId' => ?_⟩, hinv.threads⟩
    · simp only [eccMachine, hcaches.1]
      exact hinv.hplmnEccList slotId'
    · simp only [eccMachine, hcaches.2]
      exact hinv.currentPlmnEccList slotId'
  | checkAndUpdateSimState slotId simState =>
    exact ⟨⟨hinv.hplmnEccList, hinv.currentPlmnEccList⟩, hinv.threads⟩
  | handleResidentNetworkChange slotId plmn =>
    refine ⟨⟨fun slotId' => ?_, fun slotId' => ?_⟩, hinv.threads⟩
    · simp only [eccMachine, EccConfig.handleResidentNetworkChange]
      split <;> exact hinv.hplmnEccList slotId'
    · simp only [eccMachine, EccConfig.handleResidentNetworkChange]
      split <;> exact hinv.currentPlmnEccList slotId'
  | enterEccNumberList thread slotId env =>
    simp only [eccMachine]
    split
    · exact ⟨⟨hinv.hplmnEccList, hinv.currentPlmnEccList⟩,
        fits_enter_same hinv.threads fits_enterEccNumberList⟩
    · exact hinv
  | processEccList thread callListWithCard rplmn =>
    exact hinv.processEccList thread callListWithCard rplmn
  | queryEccList thread succeeds => exact hinv.queryEccList thread succeeds
  | storeEccList thread => exact hinv.storeEccList thread hcurrent
  | clearCachedEcclist slotId db' =>
    exact hinv.clearCachedEcclist slotId db' hcurrent

theorem PlmnEccInv.init : PlmnEccInv K (eccMachine K db).init askedMonitor.init :=
  ⟨⟨fun _ => EccList.coherent_none K db, fun _ => EccList.coherent_none K db⟩, fun _ => trivial⟩

/-- Coherent caches are as good as the database. -/
theorem PlmnEccInv.fastPathAgrees (hinv : PlmnEccInv K s h) : s.FastPathAgrees K := by
  intro thread callListWithCard rplmn o ho
  cases hphase : s.threads thread with
  | home slotId hplmn =>
    intro hcarrier
    have hne : hplmn ≠ [] := by
      have hfits := hinv.threads thread
      rwa [hphase] at hfits
    simp only [EccState.processEccList, hphase, EccConfig.processHplmnEccList, hcarrier,
      if_true] at ho
    by_cases hkey : (s.config.hplmnEccList slotId).plmn = hplmn
    · have hcoherent := hinv.hplmnEccList slotId (hkey ▸ hne)
      rw [if_pos hkey, List.mem_singleton] at ho
      rw [ho, hcoherent, hkey]
    · rw [if_neg hkey] at ho
      cases ho
  | current slotId =>
    simp only [EccState.processEccList, hphase, EccConfig.processCurrentPlmnEccList] at ho
    by_cases hcur : s.config.curPlmn slotId = []
    · by_cases hrplmn : rplmn = []
      · simp [hcur, hrplmn] at ho
      · by_cases hkey : (s.config.currentPlmnEccList slotId).plmn = rplmn
        · have hcoherent := hinv.currentPlmnEccList slotId (hkey ▸ hrplmn)
          simp only [hcur, hrplmn, hkey, and_false, if_true, if_false, Function.update_self,
            List.mem_singleton] at ho
          simp only [ho, hcur, hcoherent, hkey, if_true]
        · simp [hcur, hrplmn, hkey] at ho
    · by_cases hkey : (s.config.currentPlmnEccList slotId).plmn = s.config.curPlmn slotId
      · have hcoherent := hinv.currentPlmnEccList slotId (hkey ▸ hcur)
        simp only [hcur, hkey, false_and, if_true, if_false, List.mem_singleton] at ho
        simp only [ho, hcur, hcoherent, hkey, if_false]
      · simp [hcur, hkey] at ho
  | _ => trivial

end
/-- In every run that stores each answer under the network it was asked for, while
the database still has it, and where the database does not change for a network that
a slot has cached, the caches are coherent, and what is sent from them is what the
database has. -/
theorem plmnEccCoherent_of_run (K : EccConstants) (db : EccDatabase) {s : EccState} {h : Asked}
    (hrun : Run (eccMachine K db) askedMonitor keepsCachesCurrent s h) :
    s.PlmnEccCoherent K ∧ s.FastPathAgrees K := by
  have hinv : PlmnEccInv K s h :=
    hrun.invariant PlmnEccInv.init fun _ _ e hinv _ hcurrent => hinv.step e hcurrent
  exact ⟨hinv.toPlmnEccCoherent, hinv.fastPathAgrees⟩

/-- A slot without a SIM, registered in a network. -/
def SimEnv.visiting : SimEnv := ⟨.other, [], some ⟨true, true⟩⟩

/-- The one network has 112 for its number, the other 110. -/
def twoCards : EccDatabase := fun plmn =>
  if plmn = plmnA then [{ EccNum.plain with numeric := plmnA, eccWithcard := ['1', '1', '2'] }]
  else if plmn = plmnB then [{ EccNum.plain with numeric := plmnB, eccWithcard := ['1', '1', '0'] }]
  else []

/-- The slot comes into the second network while a thread is between the query for
the first one and storing its answer. -/
theorem not_plmnEccCoherent :
    ¬∀ K db s h, Run (eccMachine K db) askedMonitor unconditional s h →
      s.PlmnEccCoherent K ∧ s.FastPathAgrees K := by
  intro hclaim
  have hcoherent := hclaim .twoSlots twoCards _ _
    (Run.of_admits
      [.handleResidentNetworkChange 0 plmnA, .enterEccNumberList 0 0 .visiting,
        .processEccList 0 [] [], .queryEccList 0 true, .handleResidentNetworkChange 0 plmnB,
        .storeEccList 0]
      (by exact ⟨trivial, trivial, trivial, trivial, trivial, trivial, trivial, trivial, trivial,
        trivial, trivial, trivial, trivial⟩))
  exact absurd (hcoherent.1.currentPlmnEccList 0 (by decide)) (by decide)

/-- The slot stays in the first network: its numbers are cached. -/
theorem plmnEccCoherent_one_network :
    EccState.PlmnEccCoherent .twoSlots
      (exec (eccMachine .twoSlots twoCards) askedMonitor (eccMachine .twoSlots twoCards).init
        askedMonitor.init
        [.handleResidentNetworkChange 0 plmnA, .enterEccNumberList 0 0 .visiting,
          .processEccList 0 [] [], .queryEccList 0 true, .storeEccList 0]).1 :=
  (plmnEccCoherent_of_run .twoSlots twoCards
    (Run.of_admits _ (by
      refine ⟨trivial, trivial, trivial, trivial, trivial, trivial, trivial, trivial, trivial,
        .inr ?_, trivial⟩
      rfl))).1

end CellularCall
