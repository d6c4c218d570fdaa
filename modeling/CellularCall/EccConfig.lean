import CellularCall.EccDatabase
import CellularCall.Settings

/-!
# Emergency numbers

`CellularCallConfig` keeps two kinds of emergency numbers for each slot.

`allEccList_` is what calls are compared with.  `MergeEccCallList` makes it from
the list the modem reported, from one of two standard lists, and from the fake
numbers the database has for the home network; the latter are cached in
`hplmnFakeEccList_`.

`UpdateEccNumberList` sends the modem the numbers of the network the slot is on.
It caches what the database answered for the home network in `hplmnEccList_` and
for a visited one in `currentPlmnEccList_`.  It takes a lock to look into its
caches, lets it go to ask the database, and takes it again to store the answer:
`EccPhase` is how far a thread has come.

`eccMachine` is the whole as a machine over these sections.
-/

namespace CellularCall

open Lib

/-- What the headers outside this repository fix: the codes of an emergency
number's category, of the SIM it is for and of the service it is for. -/
structure EccConstants extends ConfigConstants where
  typeCategory : Int
  typeNoCard : Int
  typeHasCard : Int
  typeAll : Int
deriving DecidableEq, Repr

/-- `EmergencyCall`.  Two of them are equal if all fields are. -/
structure EmergencyCall where
  eccNum : Str
  eccType : Int
  simpresent : Int
  mcc : Str
  abnormalService : Int
deriving DecidableEq, Repr

/-- `EmergencyInfo`, an emergency number as the modem reports it. -/
structure EmergencyInfo where
  eccNum : Str
  category : Int
  simpresent : Int
  mcc : Str
  abnormalService : Int
deriving DecidableEq, Repr

/-- `EccList`, the numbers of one network. -/
structure EccList where
  plmn : Str
  eccInfoList : List EmergencyCall
deriving DecidableEq, Repr

/-- An `EccList` of no network. -/
def EccList.none : EccList := ⟨[], []⟩

/-- `NetworkState`: whether the slot is registered, and roams. -/
structure NetworkState where
  inService : Bool
  roaming : Bool
deriving DecidableEq, Repr

/-- What the core service says of a slot.  `operatorNumeric` is the home network
of its SIM (`GetSimOperatorNumeric`); a network state may be missing. -/
structure SimEnv where
  simState : SimState
  operatorNumeric : Str
  networkState : Option NetworkState
deriving DecidableEq, Repr

/-- What `QueryEccList` reads for a network. -/
abbrev EccDatabase := Str → List EccNum

/-! ## Strings -/

/-- `StandardizeUtils::Split` at a character: nothing follows a separator at the
end. -/
def split (str : Str) (flag : Char) : List Str :=
  let parts := str.splitOn flag
  if parts.getLast? = some [] then parts.dropLast else parts

/-- `GetMcc`: the first three digits of the home network. -/
def getMcc (operatorNumeric : Str) : Str := operatorNumeric.take 3

namespace SimEnv

/-- Whether `MergeEccCallList` counts the SIM as present. -/
def hasSim (env : SimEnv) : Bool :=
  decide (env.simState = .ready) || decide (env.simState = .loaded)

/-- `GetRoamingState`. -/
def getRoamingState (env : SimEnv) : Bool :=
  match env.networkState with
  | none => false
  | some networkState => networkState.roaming

/-- The SIM is present, its network known, and it does not roam. -/
def atHome (env : SimEnv) : Bool :=
  env.hasSim && !env.getRoamingState && decide (env.operatorNumeric ≠ [])

end SimEnv

/-! ## Lists of numbers -/

section
variable {α : Type} [DecidableEq α]

/-- An element goes to the end of a list that does not have it. -/
def pushNew (l : List α) (a : α) : List α := if a ∈ l then l else l ++ [a]

/-- Each element of `as` in turn. -/
def pushAllNew (l as : List α) : List α := as.foldl pushNew l

theorem mem_pushNew {l : List α} {a b : α} : b ∈ pushNew l a ↔ b ∈ l ∨ b = a := by
  unfold pushNew
  split
  · rename_i ha
    exact ⟨.inl, fun hb => hb.elim id fun heq => heq ▸ ha⟩
  · simp

@[simp] theorem mem_pushAllNew {l as : List α} {b : α} :
    b ∈ pushAllNew l as ↔ b ∈ l ∨ b ∈ as := by
  induction as generalizing l with
  | nil => simp [pushAllNew]
  | cons a as ih =>
    have hcons : pushAllNew l (a :: as) = pushAllNew (pushNew l a) as := rfl
    rw [hcons, ih, mem_pushNew, List.mem_cons, or_assoc]

end

namespace EmergencyCall

/-- The number with the country it holds in. -/
def withMcc (mcc : Str) (call : EmergencyCall) : EmergencyCall := { call with mcc := mcc }

end EmergencyCall

/-- `BuildEmergencyCall`. -/
def buildEmergencyCall (info : EmergencyInfo) : EmergencyCall where
  eccNum := info.eccNum
  eccType := info.category
  simpresent := info.simpresent
  mcc := info.mcc
  abnormalService := info.abnormalService

section
variable (K : EccConstants)

/-- `BuildDefaultEmergencyCall`: what stands before a `+` is the category. -/
def buildDefaultEmergencyCall (simType : Int) (number : Str) : EmergencyCall :=
  let emergencyCall : EmergencyCall := ⟨number, K.typeCategory, simType, [], K.typeAll⟩
  if '+' ∈ number then
    { emergencyCall with
      eccType := atoi (number.takeWhile (fun c => c != '+'))
      eccNum := number.dropWhile (fun c => c != '+') }
  else emergencyCall

/-- The numbers of `eccList3gppHasSim_`. -/
def eccList3gppHasSim : List EmergencyCall :=
  [['1', '1', '2'], ['9', '1', '1']].map (buildDefaultEmergencyCall K K.typeHasCard)

/-- The numbers of `eccList3gppNoSim_`. -/
def eccList3gppNoSim : List EmergencyCall :=
  [['1', '1', '2'], ['9', '1', '1'], ['0', '0', '0'], ['0', '8'], ['1', '1', '0'],
    ['1', '1', '8'], ['1', '1', '9'], ['9', '9', '9']].map
      (buildDefaultEmergencyCall K K.typeNoCard)

/-- `GetEccListFromResult` and the loops after it: the numbers of the first row. -/
def eccInfoListOf (eccVec : List EccNum) : List EmergencyCall :=
  match eccVec with
  | [] => []
  | row :: _ =>
    (split row.eccWithcard ',').map (buildDefaultEmergencyCall K K.typeHasCard) ++
      (split row.eccNocard ',').map (buildDefaultEmergencyCall K K.typeNoCard)

/-- The fake numbers of the first row, as `UpdateHplmnFakeEccList` makes them. -/
def fakeCallsOf (mcc : Str) (eccVec : List EccNum) : List EmergencyCall :=
  match eccVec with
  | [] => []
  | row :: _ =>
    (split row.eccFake ',').map fun it =>
      (buildDefaultEmergencyCall K K.typeHasCard it).withMcc mcc

end

/-! ## The configuration -/

/-- The members of `CellularCallConfig` behind the emergency numbers.  A map or
vector gives an empty entry for a slot it has none for. -/
structure EccConfig where
  eccListRadioMap : Int → List EmergencyCall
  eccList3gppHasSim : List EmergencyCall
  eccList3gppNoSim : List EmergencyCall
  allEccList : Int → List EmergencyCall
  simPresent : Int → Bool
  curPlmn : Int → Str
  hplmnEccList : Int → EccList
  currentPlmnEccList : Int → EccList
  hplmnFakeEccList : Int → EccList

/-- How far `UpdateEccNumberList` has come in a thread.

* `home` and `current` are before the caches are looked into.
* `asking` is before the database is asked for `plmn`; `hplmn` is set where the
  answer is for `hplmnEccList_`.
* `storing` is before the answer is stored. -/
inductive EccPhase where
  | idle
  | home (slotId : Int) (hplmn : Str)
  | current (slotId : Int)
  | asking (slotId : Int) (hplmn : Option Str) (plmn : Str)
  | storing (slotId : Int) (hplmn : Option Str) (eccInfoList : List EmergencyCall)
deriving DecidableEq, Repr

/-- The requests to the modem. -/
inductive EccOutput where
  | setEmergencyCallList (slotId : Int) (eccVec : List EmergencyCall)
deriving DecidableEq, Repr

namespace EccConfig

/-- The configuration before anything has happened. -/
def init : EccConfig where
  eccListRadioMap := fun _ => []
  eccList3gppHasSim := []
  eccList3gppNoSim := []
  allEccList := fun _ => []
  simPresent := fun _ => false
  curPlmn := fun _ => []
  hplmnEccList := fun _ => .none
  currentPlmnEccList := fun _ => .none
  hplmnFakeEccList := fun _ => .none

variable (K : EccConstants)

/-- `InitModeActive`, as far as it is about emergency numbers: the lists of every
slot are cleared. -/
def initModeActive (c : EccConfig) : EccConfig :=
  { c with
    eccListRadioMap := fun _ => []
    eccList3gppHasSim := CellularCall.eccList3gppHasSim K
    eccList3gppNoSim := CellularCall.eccList3gppNoSim K
    allEccList := fun _ => [] }

/-! ### Merging -/

/-- The numbers `MergeEccCallList` starts with: the modem's and the standard
ones. -/
def ownEccList (c : EccConfig) (slotId : Int) (env : SimEnv) : List EmergencyCall :=
  let mcc := getMcc env.operatorNumeric
  let standard :=
    if env.hasSim then (if mcc = [] then [] else c.eccList3gppHasSim) else c.eccList3gppNoSim
  (c.eccListRadioMap slotId ++ standard).map (EmergencyCall.withMcc mcc)

/-- `UniqueEccCallList`. -/
def uniqueEccCallList (c : EccConfig) (slotId : Int) (eccList : List EmergencyCall) : EccConfig :=
  { c with allEccList := Function.update c.allEccList slotId (pushAllNew [] eccList) }

/-- `UpdateEccListByFakeEccList`. -/
def updateEccListByFakeEccList (c : EccConfig) (slotId : Int) (eccList : List EmergencyCall) :
    List EmergencyCall :=
  pushAllNew eccList (c.hplmnFakeEccList slotId).eccInfoList

/-- `UpdateHplmnFakeEccList`: the cache gets the key of the new network, and the
new numbers besides those it has. -/
def updateHplmnFakeEccList (c : EccConfig) (calls : List EmergencyCall) (hplmn : Str)
    (slotId : Int) (eccList : List EmergencyCall) : EccConfig × List EmergencyCall :=
  if calls = [] then (c, eccList)
  else
    let cached : EccList := ⟨hplmn, pushAllNew (c.hplmnFakeEccList slotId).eccInfoList calls⟩
    ({ c with hplmnFakeEccList := Function.update c.hplmnFakeEccList slotId cached },
      eccList ++ calls)

/-- `MergeEccCallList`. -/
def mergeEccCallList (c : EccConfig) (slotId : Int) (env : SimEnv) (db : EccDatabase) :
    EccConfig :=
  let eccList := c.ownEccList slotId env
  let hplmn := env.operatorNumeric
  if env.atHome then
    if (c.hplmnFakeEccList slotId).plmn = hplmn then
      c.uniqueEccCallList slotId (c.updateEccListByFakeEccList slotId eccList)
    else
      let calls := fakeCallsOf K (getMcc hplmn) (db hplmn)
      let (c, eccList) := c.updateHplmnFakeEccList calls hplmn slotId eccList
      c.uniqueEccCallList slotId eccList
  else c.uniqueEccCallList slotId eccList

/-- `UpdateEmergencyCallFromRadio`. -/
def updateEmergencyCallFromRadio (c : EccConfig) (slotId : Int) (env : SimEnv) (db : EccDatabase)
    (calls : List EmergencyInfo) : EccConfig :=
  if CellularCallConfig.isValidSlotId K.toConfigConstants slotId = false then c
  else
    let c := { c with
      eccListRadioMap := Function.update c.eccListRadioMap slotId (calls.map buildEmergencyCall) }
    c.mergeEccCallList K slotId env db

/-! ### Asking for the numbers of a network -/

/-- `CheckAndUpdateSimState`, and whether it found a change. -/
def checkAndUpdateSimState (c : EccConfig) (slotId : Int) (simState : SimState) :
    EccConfig × Bool :=
  let simStateForEcc := decide (simState = .ready) || decide (simState = .loaded)
  ({ c with simPresent := Function.update c.simPresent slotId simStateForEcc },
    c.simPresent slotId != simStateForEcc)

/-- `HandleResidentNetworkChange` up to its `CheckAndUpdateSimState`. -/
def handleResidentNetworkChange (c : EccConfig) (slotId : Int) (plmn : Str) : EccConfig :=
  if CellularCallConfig.isValidSlotId K.toConfigConstants slotId = false then c
  else { c with curPlmn := Function.update c.curPlmn slotId plmn }

/-- `UpdateEccNumberList` with `CheckHomeAndPresentState`, up to the two
functions it chooses from. -/
def enterEccNumberList (c : EccConfig) (slotId : Int) (env : SimEnv) : EccPhase :=
  if CellularCallConfig.isValidSlotId K.toConfigConstants slotId = false then .idle
  else
    match env.networkState with
    | none => .idle
    | some networkState =>
      if env.operatorNumeric ≠ [] ∧
          (networkState.inService && !networkState.roaming && c.simPresent slotId) = true then
        .home slotId env.operatorNumeric
      else .current slotId

/-- `ProcessHplmnEccList` up to its query; `callListWithCard` is the carrier's
own list. -/
def processHplmnEccList (c : EccConfig) (slotId : Int) (hplmn : Str)
    (callListWithCard : List Str) : EccPhase × List EccOutput :=
  if callListWithCard = [] then
    if (c.hplmnEccList slotId).plmn = hplmn then
      (.idle, [.setEmergencyCallList slotId (c.hplmnEccList slotId).eccInfoList])
    else (.asking slotId (some hplmn) hplmn, [])
  else
    (.idle, [.setEmergencyCallList slotId
      (callListWithCard.map (buildDefaultEmergencyCall K K.typeHasCard))])

/-- `ProcessCurrentPlmnEccList` up to its query; `rplmn` is the network the slot
is registered in. -/
def processCurrentPlmnEccList (c : EccConfig) (slotId : Int) (rplmn : Str) :
    EccConfig × EccPhase × List EccOutput :=
  if c.curPlmn slotId = [] ∧ rplmn = [] then (c, .idle, [])
  else
    let c :=
      if c.curPlmn slotId = [] then { c with curPlmn := Function.update c.curPlmn slotId rplmn }
      else c
    if (c.currentPlmnEccList slotId).plmn = c.curPlmn slotId then
      (c, .idle, [.setEmergencyCallList slotId (c.currentPlmnEccList slotId).eccInfoList])
    else (c, .asking slotId none (c.curPlmn slotId), [])

/-- The answer is stored and sent.  The key of `currentPlmnEccList_` is read now. -/
def storeEccList (c : EccConfig) (slotId : Int) (hplmn : Option Str)
    (eccInfoList : List EmergencyCall) : EccConfig × List EccOutput :=
  (match hplmn with
    | some hplmn =>
      { c with hplmnEccList := Function.update c.hplmnEccList slotId ⟨hplmn, eccInfoList⟩ }
    | none =>
      { c with currentPlmnEccList :=
          Function.update c.currentPlmnEccList slotId ⟨c.curPlmn slotId, eccInfoList⟩ },
    [.setEmergencyCallList slotId eccInfoList])

/-- `ClearCachedEcclist`. -/
def clearCachedEcclist (c : EccConfig) (slotId : Int) : EccConfig :=
  { c with
    hplmnEccList := Function.update c.hplmnEccList slotId .none
    currentPlmnEccList := Function.update c.currentPlmnEccList slotId .none
    hplmnFakeEccList := Function.update c.hplmnFakeEccList slotId .none }

end EccConfig

/-! ## The machine -/

/-- The configuration, the threads that run `UpdateEccNumberList`, and the database
that all slots ask. -/
structure EccState where
  config : EccConfig
  threads : Nat → EccPhase
  database : EccDatabase

/-- What happens to the emergency numbers.  `HandleEccListChange` clears the caches of
one slot after the other, and runs `UpdateEccNumberList` in between: the database is
that of the event as soon as the first slot is cleared.  A query may fail. -/
inductive EccEvent where
  | initModeActive
  | updateEmergencyCallFromRadio (slotId : Int) (env : SimEnv) (succeeds : Bool)
    (calls : List EmergencyInfo)
  | checkAndUpdateSimState (slotId : Int) (simState : SimState)
  | handleResidentNetworkChange (slotId : Int) (plmn : Str)
  | enterEccNumberList (thread : Nat) (slotId : Int) (env : SimEnv)
  | processEccList (thread : Nat) (callListWithCard : List Str) (rplmn : Str)
  | queryEccList (thread : Nat) (succeeds : Bool)
  | storeEccList (thread : Nat)
  | clearCachedEcclist (slotId : Int) (db : EccDatabase)

namespace EccState

variable (K : EccConstants)

/-- What a merge reads: a query that fails leaves no rows. -/
def answers (s : EccState) (succeeds : Bool) : EccDatabase :=
  if succeeds then s.database else fun _ => []

/-- A thread goes on. -/
def enter (s : EccState) (thread : Nat) (phase : EccPhase) : EccState :=
  { s with threads := Function.update s.threads thread phase }

/-- The section of a thread that looks into the caches. -/
def processEccList (s : EccState) (thread : Nat) (callListWithCard : List Str) (rplmn : Str) :
    EccState × List EccOutput :=
  match s.threads thread with
  | .home slotId hplmn =>
    let (phase, outputs) := s.config.processHplmnEccList K slotId hplmn callListWithCard
    (s.enter thread phase, outputs)
  | .current slotId =>
    let (c, phase, outputs) := s.config.processCurrentPlmnEccList slotId rplmn
    ({ s with config := c }.enter thread phase, outputs)
  | _ => (s, [])

/-- The query of a thread. -/
def queryEccList (s : EccState) (thread : Nat) (succeeds : Bool) : EccState :=
  match s.threads thread with
  | .asking slotId hplmn plmn =>
    s.enter thread
      (if succeeds then .storing slotId hplmn (eccInfoListOf K (s.database plmn)) else .idle)
  | _ => s

/-- The section of a thread that stores an answer. -/
def storeEccList (s : EccState) (thread : Nat) : EccState × List EccOutput :=
  match s.threads thread with
  | .storing slotId hplmn eccInfoList =>
    let (c, outputs) := s.config.storeEccList slotId hplmn eccInfoList
    ({ s with config := c }.enter thread .idle, outputs)
  | _ => (s, [])

end EccState

def eccMachine (K : EccConstants) (db : EccDatabase) : Machine EccState EccEvent EccOutput where
  init := ⟨.init, fun _ => .idle, db⟩
  step s
    | .initModeActive => ({ s with config := s.config.initModeActive K }, [])
    | .updateEmergencyCallFromRadio slotId env succeeds calls =>
      ({ s with
          config :=
            s.config.updateEmergencyCallFromRadio K slotId env (s.answers succeeds) calls }, [])
    | .checkAndUpdateSimState slotId simState =>
      ({ s with config := (s.config.checkAndUpdateSimState slotId simState).1 }, [])
    | .handleResidentNetworkChange slotId plmn =>
      ({ s with config := s.config.handleResidentNetworkChange K slotId plmn }, [])
    | .enterEccNumberList thread slotId env =>
      if s.threads thread = .idle then
        (s.enter thread (s.config.enterEccNumberList K slotId env), [])
      else (s, [])
    | .processEccList thread callListWithCard rplmn =>
      s.processEccList K thread callListWithCard rplmn
    | .queryEccList thread succeeds => (s.queryEccList K thread succeeds, [])
    | .storeEccList thread => s.storeEccList thread
    | .clearCachedEcclist slotId db =>
      ({ s with config := s.config.clearCachedEcclist slotId, database := db }, [])

end CellularCall
