import CellularCall.Types
import CellularCall.Lib.OrdMap
import CellularCall.Lib.Machine
import Mathlib.Logic.Function.Basic

/-!
# The table of supplementary-service commands

A supplementary-service request draws an index, is sent with it, and is then
saved under it, so that the response, which echoes the index, finds the command
it answers.  `SsTable` is the part of `CellularCallHandler` that does this.

The three steps of a request are separate events: the requests of several
threads interleave, and a response may come at any time after its request was
sent, or never.  The monitor `ssRequests` numbers the requests and remembers
what each was sent with; the handler knows none of this.

The save ignores the index it is given and takes the counter instead, and an
insertion does not replace an entry.  `ssMatches_of_run` says what is left: a
request is matched if no other one drew an index before it was saved, and
nothing was left under its index.
-/

namespace CellularCall

open Lib

/-- `SsRequestCommand`. -/
structure SsRequestCommand where
  cfAction : Int
  cfReason : Int
  number : Str
  enable : Bool
  clirAction : Int
  facility : Str
  password : Str
  classType : Int
  action : Int
  flag : Int
  isIncludeCallForwardingNumber : Bool
deriving DecidableEq, Repr

/-- `SS_FROM_MMI_CODE`, the flag of a command from the dialer. -/
def ssFromMmiCode : Int := 0

/-- A default `SsRequestCommand`. -/
def SsRequestCommand.default : SsRequestCommand :=
  ⟨0, 0, [], false, 0, [], [], 0, 0, ssFromMmiCode, false⟩

/-- `MAX_REQUEST_COUNT`. -/
def maxRequestCount : Int := 50

/-- `INVALID_INDEX`. -/
def invalidIndex : Int := -1

/-- The members of the handler behind the commands. -/
structure SsTable where
  indexCommand : Int
  utCommandMap : OrdMap Int SsRequestCommand
deriving DecidableEq

namespace SsTable

def init : SsTable := ⟨0, ∅⟩

/-- `RequestSsRequestCommandIndex`: the counter goes from 0 to
`MAX_REQUEST_COUNT` and round again. -/
def requestSsRequestCommandIndex (t : SsTable) : SsTable × Int :=
  let t :=
    if t.indexCommand ≥ maxRequestCount then { t with indexCommand := 0 }
    else { t with indexCommand := t.indexCommand + 1 }
  (t, t.indexCommand)

/-- `SaveSsRequestCommand`: the index given is not used. -/
def saveSsRequestCommand (t : SsTable) (utCommand : SsRequestCommand) (_index : Int) : SsTable :=
  { t with utCommandMap := t.utCommandMap.insertNew t.indexCommand utCommand }

/-- What both `ConfirmAndRemoveSsRequestCommand` do: the command is found and
erased. -/
def confirmAndRemove (t : SsTable) (index : Int) : SsTable × Option SsRequestCommand :=
  if index = invalidIndex then (t, none)
  else
    match t.utCommandMap.get? index with
    | none => (t, none)
    | some command => ({ t with utCommandMap := t.utCommandMap.erase index }, some command)

/-- `ConfirmAndRemoveSsRequestCommand` for the flag. -/
def confirmAndRemoveSsRequestCommand (t : SsTable) (index : Int) : SsTable × Option Int :=
  let (t, command) := t.confirmAndRemove index
  (t, command.map SsRequestCommand.flag)

/-- `ConfirmAndRemoveSsRequestCommand` for the flag and the action. -/
def confirmAndRemoveSsRequestCommandWithAction (t : SsTable) (index : Int) :
    SsTable × Option (Int × Int) :=
  let (t, command) := t.confirmAndRemove index
  (t, command.map fun command => (command.flag, command.action))

/-- `GetSsRequestCommand`: the fields are copied into `ss` one by one, all but
`isIncludeCallForwardingNumber`. -/
def getSsRequestCommand (t : SsTable) (index : Int) (ss : SsRequestCommand) :
    Option SsRequestCommand :=
  (t.utCommandMap.get? index).map fun command =>
    { ss with
      cfAction := command.cfAction
      cfReason := command.cfReason
      number := command.number
      enable := command.enable
      clirAction := command.clirAction
      facility := command.facility
      password := command.password
      classType := command.classType
      action := command.action
      flag := command.flag }

end SsTable

/-! ## The handler and its requests -/

/-- What happens to the table.  `request` is the number of a request, which the
handler does not know; the index of a response is the one it echoes. -/
inductive SsEvent where
  | requestIndex
  | send (request : Nat) (utCommand : SsRequestCommand)
  | save (request : Nat) (utCommand : SsRequestCommand) (index : Int)
  | get (request : Nat) (index : Int)
  | confirm (request : Nat) (index : Int)
  | confirmWithAction (request : Nat) (index : Int)
deriving DecidableEq, Repr

/-- What the table answers. -/
inductive SsOutput where
  | index (index : Int)
  | got (command : Option SsRequestCommand)
  | confirmed (flag : Option Int)
  | confirmedWithAction (flagAndAction : Option (Int × Int))
deriving DecidableEq, Repr

def ssMachine : Machine SsTable SsEvent SsOutput where
  init := .init
  step t
    | .requestIndex =>
      let (t, index) := t.requestSsRequestCommandIndex
      (t, [.index index])
    | .send _ _ => (t, [])
    | .save _ utCommand index => (t.saveSsRequestCommand utCommand index, [])
    | .get _ index => (t, [.got (t.getSsRequestCommand index .default)])
    | .confirm _ index =>
      let (t, flag) := t.confirmAndRemoveSsRequestCommand index
      (t, [.confirmed flag])
    | .confirmWithAction _ index =>
      let (t, flagAndAction) := t.confirmAndRemoveSsRequestCommandWithAction index
      (t, [.confirmedWithAction flagAndAction])

/-- A request on its way: the index it drew, the command once it is sent, and
whether it has been saved. -/
structure SsRequest where
  index : Int
  command : Option SsRequestCommand
  saved : Bool
deriving DecidableEq, Repr

/-- The requests made so far; one that has been answered is over. -/
structure SsHistory where
  count : Nat
  request : Nat → Option SsRequest

namespace SsHistory

def init : SsHistory := ⟨0, fun _ => none⟩

/-- Request `n` has been sent with `index`, and is not answered yet. -/
def Awaits (h : SsHistory) (n : Nat) (index : Int) : Prop :=
  (h.request n).any (fun r => decide (r.index = index) && r.command.isSome) = true

/-- Request `n` has been saved. -/
def Saved (h : SsHistory) (n : Nat) : Prop := (h.request n).any SsRequest.saved = true

end SsHistory

/-- The requests in their order: drawn, sent, saved, and answered at any time
after they are sent. -/
def ssRequests : Monitor SsTable SsEvent SsOutput SsHistory where
  init := .init
  allowed h _ e :=
    match e with
    | .requestIndex => True
    | .send n _ => (h.request n).map SsRequest.command = some none
    | .save n utCommand index => h.request n = some ⟨index, some utCommand, false⟩
    | .get n index => h.Awaits n index
    | .confirm n index => h.Awaits n index
    | .confirmWithAction n index => h.Awaits n index
  update h _ e t' _ :=
    match e with
    | .requestIndex =>
      ⟨h.count + 1, Function.update h.request h.count (some ⟨t'.indexCommand, none, false⟩)⟩
    | .send n utCommand =>
      { h with
        request := Function.update h.request n
          ((h.request n).map fun r => { r with command := some utCommand }) }
    | .save n _ _ =>
      { h with
        request := Function.update h.request n
          ((h.request n).map fun r => { r with saved := true }) }
    | .get _ _ => h
    | .confirm n _ => { h with request := Function.update h.request n none }
    | .confirmWithAction n _ => { h with request := Function.update h.request n none }

instance (h : SsHistory) (t : SsTable) (e : SsEvent) : Decidable (ssRequests.allowed h t e) :=
  match e with
  | .requestIndex => isTrue trivial
  | .send n _ => inferInstanceAs (Decidable ((h.request n).map SsRequest.command = some none))
  | .save n utCommand index =>
    inferInstanceAs (Decidable (h.request n = some ⟨index, some utCommand, false⟩))
  | .get n _ | .confirm n _ | .confirmWithAction n _ =>
    inferInstanceAs (Decidable (Option.any _ (h.request n) = true))

/-- What a response must be told: the command that was sent with its index. -/
def expected (h : SsHistory) : SsEvent → Option SsOutput
  | .get n _ => some (.got ((h.request n).bind SsRequest.command))
  | .confirm n _ => some (.confirmed (((h.request n).bind SsRequest.command).map (·.flag)))
  | .confirmWithAction n _ =>
    some (.confirmedWithAction
      (((h.request n).bind SsRequest.command).map fun command => (command.flag, command.action)))
  | _ => none

/-- Every response that may come next, as far as `C` admits it, is matched with
the command it answers. -/
def SsMatches (C : StepCond SsTable SsEvent SsHistory) (t : SsTable) (h : SsHistory) : Prop :=
  ∀ e, ssRequests.allowed h t e → C h t e → ∀ o, expected h e = some o →
    (ssMachine.step t e).2 = [o]

/-- When a request is matched: no index has been drawn since its own when it is
saved, nothing is left under that index, and the response comes after the save.
`GetSsRequestCommand` does not pass on `isIncludeCallForwardingNumber`. -/
def SsUndisturbed : StepCond SsTable SsEvent SsHistory := fun h t e =>
  match e with
  | .save _ _ index => t.indexCommand = index ∧ t.utCommandMap.get? index = none
  | .get n _ => h.Saved n ∧ ∀ command ∈ (h.request n).bind SsRequest.command,
      command.isIncludeCallForwardingNumber = false
  | .confirm n _ => h.Saved n
  | .confirmWithAction n _ => h.Saved n
  | _ => True

instance (h : SsHistory) (t : SsTable) (e : SsEvent) : Decidable (SsUndisturbed h t e) :=
  match e with
  | .requestIndex | .send _ _ => isTrue trivial
  | .save _ _ index =>
    inferInstanceAs (Decidable (t.indexCommand = index ∧ t.utCommandMap.get? index = none))
  | .get n _ =>
    inferInstanceAs (Decidable (Option.any _ (h.request n) = true ∧
      ∀ command ∈ (h.request n).bind SsRequest.command,
        command.isIncludeCallForwardingNumber = false))
  | .confirm n _ | .confirmWithAction n _ =>
    inferInstanceAs (Decidable (Option.any _ (h.request n) = true))

/-! ## Outstanding indices -/

namespace SsTable

/-- The counter is an index, so none of the indices drawn is `INVALID_INDEX`. -/
theorem indexCommand_nonneg {t : SsTable} (ht : 0 ≤ t.indexCommand) :
    0 ≤ t.requestSsRequestCommandIndex.1.indexCommand := by
  simp only [requestSsRequestCommandIndex]
  split
  · exact le_refl 0
  · dsimp only
    omega

theorem utCommandMap_requestSsRequestCommandIndex (t : SsTable) :
    t.requestSsRequestCommandIndex.1.utCommandMap = t.utCommandMap := by
  simp only [requestSsRequestCommandIndex]
  split <;> rfl

/-- Confirming a saved index finds its command and erases it. -/
theorem confirmAndRemove_of_get? {t : SsTable} {index : Int} {command : SsRequestCommand}
    (hindex : 0 ≤ index) (hget : t.utCommandMap.get? index = some command) :
    t.confirmAndRemove index =
      ({ t with utCommandMap := t.utCommandMap.erase index }, some command) := by
  have hvalid : index ≠ invalidIndex := by
    unfold invalidIndex
    omega
  rw [confirmAndRemove, if_neg hvalid, hget]

/-- What is copied of a saved command. -/
theorem getSsRequestCommand_of_get? {t : SsTable} {index : Int} {command : SsRequestCommand}
    (hget : t.utCommandMap.get? index = some command) :
    t.getSsRequestCommand index .default =
      some { command with isIncludeCallForwardingNumber := false } := by
  unfold getSsRequestCommand
  rw [hget]
  rfl

end SsTable

/-- The counter and the indices of the saved commands are not `INVALID_INDEX`. -/
structure SsTable.Nonneg (t : SsTable) : Prop where
  counter : 0 ≤ t.indexCommand
  saved : ∀ index command, t.utCommandMap.get? index = some command → 0 ≤ index

namespace SsTable.Nonneg

variable {t : SsTable}

theorem init : SsTable.init.Nonneg where
  counter := le_refl 0
  saved := fun _ _ hget => by cases hget

theorem requestSsRequestCommandIndex (ht : t.Nonneg) : t.requestSsRequestCommandIndex.1.Nonneg where
  counter := SsTable.indexCommand_nonneg ht.counter
  saved := by
    rw [SsTable.utCommandMap_requestSsRequestCommandIndex]
    exact ht.saved

theorem saveSsRequestCommand (ht : t.Nonneg) (utCommand : SsRequestCommand) (index : Int) :
    (t.saveSsRequestCommand utCommand index).Nonneg where
  counter := ht.counter
  saved := by
    intro i command hget
    simp only [SsTable.saveSsRequestCommand, OrdMap.get?_insertNew] at hget
    split at hget
    · rename_i hi
      rw [hi]
      exact ht.counter
    · exact ht.saved i command hget

theorem confirmAndRemove (ht : t.Nonneg) (index : Int) : (t.confirmAndRemove index).1.Nonneg := by
  unfold SsTable.confirmAndRemove
  split
  · exact ht
  · split
    · exact ht
    · refine ⟨ht.counter, ?_⟩
      intro i command hget
      simp only [OrdMap.get?_erase] at hget
      split at hget
      · cases hget
      · exact ht.saved i command hget

end SsTable.Nonneg

/-- In every run, the indices are no `INVALID_INDEX`. -/
theorem SsTable.nonneg_of_run {t : SsTable} {h : SsHistory}
    (hrun : Run ssMachine ssRequests unconditional t h) : t.Nonneg := by
  refine Run.invariant (I := fun t _ => t.Nonneg) SsTable.Nonneg.init ?_ hrun
  intro t h e ht _ _
  cases e with
  | requestIndex => exact ht.requestSsRequestCommandIndex
  | send n utCommand => exact ht
  | save n utCommand index => exact ht.saveSsRequestCommand utCommand index
  | get n index => exact ht
  | confirm n index => exact ht.confirmAndRemove index
  | confirmWithAction n index => exact ht.confirmAndRemove index

/-- The saved requests are in the table under indices of their own. -/
structure SsInvariant (t : SsTable) (h : SsHistory) : Prop where
  counter : 0 ≤ t.indexCommand
  fresh : ∀ n, h.count ≤ n → h.request n = none
  index : ∀ n r, h.request n = some r → 0 ≤ r.index
  saved : ∀ n r, h.request n = some r → r.saved = true →
    ∃ command, r.command = some command ∧ t.utCommandMap.get? r.index = some command
  distinct : ∀ n m r r', h.request n = some r → h.request m = some r' → r.saved = true →
    r'.saved = true → r.index = r'.index → n = m

namespace SsInvariant

variable {t : SsTable} {h : SsHistory}

theorem init : SsInvariant SsTable.init SsHistory.init where
  counter := le_refl 0
  fresh := fun _ _ => rfl
  index := fun _ _ hr => by cases hr
  saved := fun _ _ hr => by cases hr
  distinct := fun _ _ _ _ hr => by cases hr

/-- A request after one of them has changed is that one, or as it was. -/
theorem of_update {requests : Nat → Option SsRequest} {n m : Nat} {changed : Option SsRequest}
    {r : SsRequest} (hr : Function.update requests n changed m = some r) :
    m = n ∧ changed = some r ∨ m ≠ n ∧ requests m = some r := by
  by_cases hm : m = n
  · subst hm
    rw [Function.update_self] at hr
    exact .inl ⟨rfl, hr⟩
  · rw [Function.update_of_ne hm] at hr
    exact .inr ⟨hm, hr⟩

/-- A request that is not saved may come and change. -/
theorem update (hinv : SsInvariant t h) {t' : SsTable} {n : Nat} {r : SsRequest} {count : Nat}
    (hcounter : 0 ≤ t'.indexCommand) (hmap : t'.utCommandMap = t.utCommandMap)
    (hcount : h.count ≤ count) (hn : n < count) (hr : r.saved = false) (hindex : 0 ≤ r.index) :
    SsInvariant t' ⟨count, Function.update h.request n (some r)⟩ := by
  have hsaid : ∀ {m : Nat} {r' : SsRequest},
      Function.update h.request n (some r) m = some r' → r'.saved = true →
      h.request m = some r' := by
    intro m r' hr' hsaved
    obtain ⟨-, hnew⟩ | ⟨-, hold⟩ := of_update hr'
    · rw [← Option.some.inj hnew, hr] at hsaved
      cases hsaved
    · exact hold
  constructor
  · exact hcounter
  · intro m hm
    dsimp only at hm
    have hne : m ≠ n := by omega
    exact (Function.update_of_ne hne _ _).trans (hinv.fresh m (by omega))
  · intro m r' hr'
    obtain ⟨-, hnew⟩ | ⟨-, hold⟩ := of_update hr'
    · exact Option.some.inj hnew ▸ hindex
    · exact hinv.index m r' hold
  · intro m r' hr' hsaved
    rw [hmap]
    exact hinv.saved m r' (hsaid hr' hsaved) hsaved
  · intro m m' r₁ r₂ h₁ h₂ hsaved₁ hsaved₂
    exact hinv.distinct m m' r₁ r₂ (hsaid h₁ hsaved₁) (hsaid h₂ hsaved₂) hsaved₁ hsaved₂

theorem lt_count (hinv : SsInvariant t h) {n : Nat} {r : SsRequest}
    (hr : h.request n = some r) : n < h.count := by
  by_contra hge
  rw [hinv.fresh n (by omega)] at hr
  cases hr

/-- A request saved undisturbed has its index to itself. -/
theorem save (hinv : SsInvariant t h) {n : Nat} {index : Int} {command : SsRequestCommand}
    (hr : h.request n = some ⟨index, some command, false⟩) (hcounter : t.indexCommand = index)
    (hfree : t.utCommandMap.get? index = none) :
    SsInvariant (t.saveSsRequestCommand command index)
      ⟨h.count, Function.update h.request n (some ⟨index, some command, true⟩)⟩ := by
  have hother : ∀ {m : Nat} {r' : SsRequest}, h.request m = some r' → r'.saved = true →
      r'.index ≠ index := by
    intro m r' hr' hsaved heq
    obtain ⟨_, _, hget'⟩ := hinv.saved m r' hr' hsaved
    rw [heq, hfree] at hget'
    cases hget'
  constructor
  · exact hinv.counter
  · intro m hm
    have hlt := hinv.lt_count hr
    dsimp only at hm
    have hne : m ≠ n := by omega
    exact (Function.update_of_ne hne _ _).trans (hinv.fresh m hm)
  · intro m r' hr'
    obtain ⟨-, hnew⟩ | ⟨-, hold⟩ := of_update hr'
    · have hindex := hinv.index n _ hr
      exact Option.some.inj hnew ▸ hindex
    · exact hinv.index m r' hold
  · intro m r' hr' hsaved
    simp only [SsTable.saveSsRequestCommand, hcounter, OrdMap.get?_insertNew]
    obtain ⟨-, hnew⟩ | ⟨-, hold⟩ := of_update hr'
    · exact ⟨command, by rw [← Option.some.inj hnew], by simp [← Option.some.inj hnew, hfree]⟩
    · obtain ⟨command', hcommand', hget'⟩ := hinv.saved m r' hold hsaved
      exact ⟨command', hcommand', by simp [hother hold hsaved, hget']⟩
  · intro m m' r₁ r₂ h₁ h₂ hsaved₁ hsaved₂ hsame
    obtain ⟨hm, hnew₁⟩ | ⟨-, hold₁⟩ := of_update h₁
    · obtain ⟨hm', -⟩ | ⟨-, hold₂⟩ := of_update h₂
      · exact hm.trans hm'.symm
      · rw [← Option.some.inj hnew₁] at hsame
        exact absurd hsame.symm (hother hold₂ hsaved₂)
    · obtain ⟨-, hnew₂⟩ | ⟨-, hold₂⟩ := of_update h₂
      · rw [← Option.some.inj hnew₂] at hsame
        exact absurd hsame (hother hold₁ hsaved₁)
      · exact hinv.distinct m m' r₁ r₂ hold₁ hold₂ hsaved₁ hsaved₂ hsame

/-- An answered request leaves the table, and takes no other with it. -/
theorem confirm (hinv : SsInvariant t h) {n : Nat} {r : SsRequest}
    (hr : h.request n = some r) (hsaved : r.saved = true) :
    SsInvariant (t.confirmAndRemove r.index).1 { h with
      request := Function.update h.request n none } := by
  obtain ⟨command, -, hget⟩ := hinv.saved n r hr hsaved
  rw [SsTable.confirmAndRemove_of_get? (hinv.index n r hr) hget]
  have hstill : ∀ m r', Function.update h.request n none m = some r' →
      m ≠ n ∧ h.request m = some r' := by
    intro m r' hr'
    obtain ⟨-, hnew⟩ | hold := of_update hr'
    · cases hnew
    · exact hold
  refine ⟨hinv.counter, ?_, ?_, ?_, ?_⟩
  · intro m hm
    by_cases hne : m = n
    · rw [hne]
      exact Function.update_self n none h.request
    · exact (Function.update_of_ne hne none h.request).trans (hinv.fresh m hm)
  · intro m r' hr'
    exact hinv.index m r' (hstill m r' hr').2
  · intro m r' hr' hsaved'
    obtain ⟨hne, hm⟩ := hstill m r' hr'
    obtain ⟨command', hcommand', hget'⟩ := hinv.saved m r' hm hsaved'
    refine ⟨command', hcommand', ?_⟩
    have hindex : r'.index ≠ r.index :=
      fun heq => hne (hinv.distinct m n r' r hm hr hsaved' hsaved heq)
    rw [OrdMap.get?_erase, if_neg hindex]
    exact hget'
  · intro m m' r₁ r₂ h₁ h₂
    exact hinv.distinct m m' r₁ r₂ (hstill m r₁ h₁).2 (hstill m' r₂ h₂).2

end SsInvariant

/-! ## Matching -/

/-- A request that awaits its answer. -/
theorem SsHistory.Awaits.request {h : SsHistory} {n : Nat} {index : Int}
    (hawaits : h.Awaits n index) :
    ∃ r command, h.request n = some r ∧ r.index = index ∧ r.command = some command := by
  unfold SsHistory.Awaits at hawaits
  cases hr : h.request n with
  | none =>
    rw [hr] at hawaits
    cases hawaits
  | some r =>
    rw [hr, Option.any_some, Bool.and_eq_true, decide_eq_true_eq] at hawaits
    obtain ⟨command, hcommand⟩ := Option.isSome_iff_exists.mp hawaits.2
    exact ⟨r, command, rfl, hawaits.1, hcommand⟩

theorem SsHistory.Saved.of_request {h : SsHistory} {n : Nat} (hsaved : h.Saved n) {r : SsRequest}
    (hr : h.request n = some r) : r.saved = true := by
  unfold SsHistory.Saved at hsaved
  rw [hr, Option.any_some] at hsaved
  exact hsaved

/-- The command of a request that awaits its answer is still saved. -/
theorem SsInvariant.awaited {t : SsTable} {h : SsHistory} (hinv : SsInvariant t h) {n : Nat}
    {index : Int} (hawaits : h.Awaits n index) (hsaved : h.Saved n) :
    ∃ r command, h.request n = some r ∧ r.index = index ∧ r.command = some command ∧
      t.utCommandMap.get? index = some command := by
  obtain ⟨r, command, hr, rfl, hcommand⟩ := hawaits.request
  obtain ⟨command', hcommand', hget⟩ := hinv.saved n r hr (hsaved.of_request hr)
  rw [hcommand, Option.some.injEq] at hcommand'
  subst hcommand'
  exact ⟨r, command, hr, rfl, hcommand, hget⟩

theorem ssInvariant_step {t : SsTable} {h : SsHistory} {e : SsEvent} (hinv : SsInvariant t h)
    (hallowed : ssRequests.allowed h t e) (hcond : SsUndisturbed h t e) :
    SsInvariant (ssMachine.step t e).1 (ssRequests.next ssMachine h t e) := by
  cases e with
  | requestIndex =>
    exact hinv.update (SsTable.indexCommand_nonneg hinv.counter)
      (SsTable.utCommandMap_requestSsRequestCommandIndex t) (Nat.le_succ _) (Nat.lt_succ_self _) rfl
      (SsTable.indexCommand_nonneg hinv.counter)
  | send n command =>
    obtain ⟨r, hr, hnone⟩ := Option.map_eq_some_iff.mp hallowed
    have hunsaved : r.saved = false := by
      cases hsaved : r.saved with
      | false => rfl
      | true =>
        obtain ⟨command', hcommand', -⟩ := hinv.saved n r hr hsaved
        rw [hnone] at hcommand'
        cases hcommand'
    have hnext := hinv.update (r := { r with command := some command }) hinv.counter rfl
      (le_refl h.count) (hinv.lt_count hr) hunsaved (hinv.index n r hr)
    simp only [Monitor.next, ssRequests, hr, Option.map_some]
    exact hnext
  | save n command index =>
    have hr : h.request n = some ⟨index, some command, false⟩ := hallowed
    have hnext := hinv.save hr hcond.1 hcond.2
    simp only [Monitor.next, ssRequests, hr, Option.map_some]
    exact hnext
  | get n index => exact hinv
  | confirm n index =>
    obtain ⟨r, command, hr, rfl, -⟩ := SsHistory.Awaits.request hallowed
    exact hinv.confirm hr (SsHistory.Saved.of_request hcond hr)
  | confirmWithAction n index =>
    obtain ⟨r, command, hr, rfl, -⟩ := SsHistory.Awaits.request hallowed
    exact hinv.confirm hr (SsHistory.Saved.of_request hcond hr)

/-- In every run of undisturbed requests, every response is matched with the
command that was sent with its index. -/
theorem ssMatches_of_run (t : SsTable) (h : SsHistory)
    (hrun : Run ssMachine ssRequests SsUndisturbed t h) : SsMatches SsUndisturbed t h := by
  have hinv : SsInvariant t h :=
    Run.invariant SsInvariant.init (fun _ _ _ hinv ha hc => ssInvariant_step hinv ha hc) hrun
  intro e hallowed hcond o ho
  cases e with
  | get n index =>
    obtain ⟨r, command, hr, rfl, hcommand, hget⟩ := hinv.awaited hallowed hcond.1
    have hflag : command.isIncludeCallForwardingNumber = false :=
      hcond.2 command (by simp [hr, hcommand])
    simp only [expected, hr, Option.bind_some, hcommand, Option.some.injEq] at ho
    rw [← ho]
    simp only [ssMachine, SsTable.getSsRequestCommand, hget, Option.map_some,
      SsRequestCommand.default, ← hflag]
  | confirm n index =>
    obtain ⟨r, command, hr, rfl, hcommand, hget⟩ := hinv.awaited hallowed hcond
    simp only [expected, hr, Option.bind_some, hcommand, Option.some.injEq] at ho
    rw [← ho]
    simp only [ssMachine, SsTable.confirmAndRemoveSsRequestCommand,
      SsTable.confirmAndRemove_of_get? (hinv.index n r hr) hget]
  | confirmWithAction n index =>
    obtain ⟨r, command, hr, rfl, hcommand, hget⟩ := hinv.awaited hallowed hcond
    simp only [expected, hr, Option.bind_some, hcommand, Option.some.injEq] at ho
    rw [← ho]
    simp only [ssMachine, SsTable.confirmAndRemoveSsRequestCommandWithAction,
      SsTable.confirmAndRemove_of_get? (hinv.index n r hr) hget]
  | _ => cases ho

/-- Two threads draw 1 and 2; then the first one's command is saved under 2, and
its response, which echoes 1, finds nothing. -/
theorem not_ssMatches_of_run :
    ¬∀ t h, Run ssMachine ssRequests unconditional t h → SsMatches unconditional t h := by
  intro hclaim
  have hmatch := hclaim _ _ (Run.of_admits (M := ssMachine) (H := ssRequests)
    [.requestIndex, .requestIndex, .send 0 { SsRequestCommand.default with cfReason := 1 },
      .send 1 .default, .save 0 { SsRequestCommand.default with cfReason := 1 } 1] (by decide))
  exact absurd (hmatch (.confirm 0 1) (by decide) trivial _ rfl) (by decide)

/-- A request that is saved before the next one draws its index. -/
theorem ssMatches_after_save :
    SsMatches SsUndisturbed
      (exec ssMachine ssRequests SsTable.init SsHistory.init
        [.requestIndex, .send 0 .default, .save 0 .default 1, .requestIndex]).1
      (exec ssMachine ssRequests SsTable.init SsHistory.init
        [.requestIndex, .send 0 .default, .save 0 .default 1, .requestIndex]).2 :=
  ssMatches_of_run _ _ (Run.of_admits _ (by decide))

end CellularCall
