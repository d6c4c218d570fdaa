import CellularCall.ImsTable

/-!
# One switch at a time

A switch that is asked for twice swaps the calls back.  `isPendingHold` is there
to prevent that: it marks the connection whose switch is not answered yet.  It
is a member of the report of the connection, which every list replaces.

`guarding` watches which requests are out for a connection that has been active
ever since.  `oneSwitchAtATime_of_run` shows when the mark is on exactly the
connections of these requests, and that no dial and no answer asks again then.
-/

namespace CellularCall

open Lib CallTable IMSControl

namespace IMSControl

/-- The call `k` is active. -/
def isActiveIn (m : ConnectionMap ImsPart) (k : Int) : Bool :=
  (switching m k).any fun r => decide (r.1.state = .active)

/-- The call `k` is pending hold. -/
def isPendingIn (m : ConnectionMap ImsPart) (k : Int) : Bool :=
  (switching m k).any fun r => r.1.isPendingHold

/-- The first active call. -/
def firstActive (m : ConnectionMap ImsPart) : Option Int :=
  (findConnectionByState m .active).map Prod.fst

variable {m : ConnectionMap ImsPart}

theorem mem_keys_of_isPendingIn {k : Int} (hk : isPendingIn m k = true) : k ∈ m.keys := by
  by_contra hnot
  rw [isPendingIn, switching_eq_none_iff.mpr hnot] at hk
  cases hk

theorem isPendingIn_of_get? {k : Int} {c : CellularCallConnectionIMS} (hc : m.get? k = some c) :
    isPendingIn m k = c.isPendingHold := by
  rw [isPendingIn, switching, hc]
  rfl

/-- A pending call is found by the search for one, or an earlier one is. -/
theorem isPendingIn_firstPending {k : Int} (hk : isPendingIn m k = true) :
    ∃ first, firstPending m = some first ∧ isPendingIn m first = true := by
  obtain ⟨c, hc⟩ := OrdMap.mem_keys_iff.mp (mem_keys_of_isPendingIn hk)
  rw [isPendingIn_of_get? hc] at hk
  obtain ⟨⟨first, c'⟩, hfirst⟩ := OrdMap.first?_isSome_of_get? hc hk
  obtain ⟨hc', hpending⟩ := OrdMap.get?_of_first?_eq_some hfirst
  refine ⟨first, by rw [firstPending, hfirst]; rfl, ?_⟩
  rw [isPendingIn_of_get? hc']
  exact hpending

/-- A listed call is not pending hold. -/
theorem isPendingHold_listed {P : Platform} {slotId : Int} {size : Nat} {call : ImsCurrentCall}
    {r : CallReportInfo} (hr : r = encapsulationCallReportInfo P slotId call ∨
      r = listedReport domain.toCallDomain P slotId size call) : r.isPendingHold = false := by
  have hzero : (encapsulationCallReportInfo P slotId call).isPendingHold = false := by
    unfold encapsulationCallReportInfo
    dsimp only
    split <;> rfl
  rcases hr with rfl | rfl
  · exact hzero
  · unfold listedReport
    dsimp only
    split <;> exact hzero

/-- A listed call is active only if it is listed so. -/
theorem state_listed {P : Platform} {slotId : Int} {size : Nat} {call : ImsCurrentCall}
    {r : CallReportInfo} (hr : r = encapsulationCallReportInfo P slotId call ∨
      r = listedReport domain.toCallDomain P slotId size call) (hactive : r.state = .active) :
    (encapsulationCallReportInfo P slotId call).state = .active := by
  rcases hr with rfl | rfl
  · exact hactive
  · unfold listedReport at hactive
    dsimp only at hactive
    split at hactive
    · cases hactive
    · exact hactive

end IMSControl

/-! ## The requests that guard a call -/

/-- The switch requests, and those that are out for a connection that has been
active since. -/
structure GuardHistory where
  requests : Requests
  guarding : List (Nat × Int)
deriving DecidableEq, Repr

namespace GuardHistory

/-- A dial or an answer asks for a switch. -/
def ask (h : GuardHistory) (path : Option (Int × Option ImsDialInfoStruct)) (sent : Bool) :
    GuardHistory :=
  match path, sent with
  | some (key, _), true => ⟨h.requests.send true, (h.requests.next, key) :: h.guarding⟩
  | _, _ => h

/-- The request `q` is answered. -/
def respond (h : GuardHistory) (q : Nat) : GuardHistory :=
  ⟨h.requests.answer q, h.guarding.filter fun g => decide (g.1 ≠ q)⟩

/-- A call that is no longer active is no longer guarded. -/
def prune (h : GuardHistory) (m : ConnectionMap ImsPart) : GuardHistory :=
  { h with guarding := h.guarding.filter fun g => isActiveIn m g.2 }

end GuardHistory

def guarding : Monitor Slot Event Output GuardHistory where
  init := ⟨.none, []⟩
  allowed h s e := e.Follows h.requests s
  update h s e s' outputs :=
    let h := match e with
      | .switchCall _ => { h with requests := h.requests.send (Output.acceptsSwitch outputs) }
      | .swapCallResponse q _ _ => h.respond q
      | e => h.ask (s.switchPath e) (Output.acceptsSwitch outputs)
    h.prune s'.imsTable

instance (h : GuardHistory) (s : Slot) (e : Event) : Decidable (guarding.allowed h s e) :=
  inferInstanceAs (Decidable (e.Follows h.requests s))

/-- A call is pending hold exactly while a request guards it, and while one does,
no dial and no answer that `C` admits asks for another switch. -/
structure OneSwitchAtATime (P : Platform) (slotId : Int) (C : Event → Prop) (s : Slot)
    (h : GuardHistory) : Prop where
  guarded : ∀ k, isPendingIn s.imsTable k = true ↔ ∃ q, (q, k) ∈ h.guarding
  single : h.guarding ≠ [] → ∀ e, C e → e.asksHold = true →
    ∀ o ∈ ((slotMachine P slotId).step s e).2, o.isImsSwitch = false

/-- While a call is pending hold: no list shows it still active; no dial finds a
call to hold; an answer to a waiting call finds it as the first active one; and
the response is that of its request. -/
def GuardsHold (P : Platform) (slotId : Int) : StepCond Slot Event GuardHistory := fun h s e =>
  (∀ L ∈ s.processedList e, ∀ call ∈ L.calls, isPendingIn s.imsTable call.index = true →
    (encapsulationCallReportInfo P slotId call).state ≠ .active) ∧
  ∀ k ∈ s.imsTable.keys, isPendingIn s.imsTable k = true →
    match e with
    | .dial .. => s.switchPath e = none
    | .answer _ callInfo =>
      (findConnectionByIndex s.imsTable callInfo.index).any
        (fun found => decide (found.2.getStatus = .waiting)) = true →
      firstActive s.imsTable = some k
    | .swapCallResponse q _ _ => (q, k) ∈ h.guarding
    | _ => True

instance (P : Platform) (slotId : Int) (h : GuardHistory) (s : Slot) (e : Event) :
    Decidable (GuardsHold P slotId h s e) :=
  haveI (k : Int) : Decidable (match e with
      | .dial .. => s.switchPath e = none
      | .answer _ callInfo =>
        (findConnectionByIndex s.imsTable callInfo.index).any
          (fun found => decide (found.2.getStatus = .waiting)) = true →
        firstActive s.imsTable = some k
      | .swapCallResponse q _ _ => (q, k) ∈ h.guarding
      | _ => True) := by
    split <;> infer_instance
  inferInstanceAs (Decidable ((∀ L ∈ s.processedList e, ∀ call ∈ L.calls, _ → _) ∧
    ∀ k ∈ s.imsTable.keys, _ → _))

/-! ## The mark follows the requests -/

/-- At most one call is guarded, it is active, and it is the one that is pending
hold. -/
structure GuardInvariant (s : Slot) (h : GuardHistory) : Prop where
  tables : s.Holds settledSpec
  sole : ∀ g ∈ h.guarding, ∀ g' ∈ h.guarding, g = g'
  active : ∀ g ∈ h.guarding, isActiveIn s.imsTable g.2 = true
  guarded : ∀ k, isPendingIn s.imsTable k = true ↔ ∃ q, (q, k) ∈ h.guarding

namespace GuardInvariant

variable {P : Platform} {slotId : Int} {s s' : Slot} {e : Event} {h h' : GuardHistory}

theorem init : GuardInvariant Slot.init guarding.init where
  tables := .init
  sole := by simp [guarding]
  active := by simp [guarding]
  guarded := by
    intro k
    simp [guarding, Slot.init, Slot.imsTable, Slot.imsOrFresh, IMSControl.fresh, isPendingIn,
      switching]

theorem settled (hinv : GuardInvariant s h) : Settled s.imsTable := hinv.tables.getD_ims.toSettled

/-- Nothing is guarded and nothing is pending. -/
theorem of_none (htables : s'.Holds settledSpec) (hguarding : h'.guarding = [])
    (hpending : ∀ k, isPendingIn s'.imsTable k = false) : GuardInvariant s' h' where
  tables := htables
  sole := by simp [hguarding]
  active := by simp [hguarding]
  guarded := by
    intro k
    simp [hguarding, hpending k]

/-- With the same calls in the same states, the same is guarded. -/
theorem of_same (hinv : GuardInvariant s h) (htables : s'.Holds settledSpec)
    (hguarding : h'.guarding = h.guarding.filter fun g => isActiveIn s'.imsTable g.2)
    (hsame : switching s'.imsTable = switching s.imsTable) : GuardInvariant s' h' := by
  have hactive : isActiveIn s'.imsTable = isActiveIn s.imsTable := by
    funext k
    rw [isActiveIn, isActiveIn, hsame]
  have hall : h'.guarding = h.guarding := by
    rw [hguarding, hactive]
    exact List.filter_eq_self.mpr hinv.active
  refine ⟨htables, ?_, ?_, fun k => ?_⟩
  · rw [hall]
    exact hinv.sole
  · rw [hall, hactive]
    exact hinv.active
  · rw [hall, isPendingIn, hsame]
    exact hinv.guarded k

theorem pending_of_mem (hinv : GuardInvariant s h) {g : Nat × Int} (hg : g ∈ h.guarding) :
    isPendingIn s.imsTable g.2 = true ∧ g.2 ∈ s.imsTable.keys := by
  have hpending := (hinv.guarded g.2).mpr ⟨g.1, hg⟩
  exact ⟨hpending, mem_keys_of_isPendingIn hpending⟩

theorem update_of_isPlain (hplain : e.isPlain s = true) (outputs : List Output) :
    guarding.update h s e s' outputs = h.prune s'.imsTable := by
  have hpath := Event.switchPath_of_isPlain hplain
  have hask : (h.ask (s.switchPath e) (Output.acceptsSwitch outputs)).prune s'.imsTable =
      h.prune s'.imsTable := by rw [hpath]; rfl
  cases e with
  | switchCall service => cases hplain
  | swapCallResponse q ok service => cases hplain
  | _ => exact hask

theorem update_of_switchPath {path : Int × Option ImsDialInfoStruct}
    (hpath : s.switchPath e = some path) (outputs : List Output) :
    guarding.update h s e s' outputs =
      (h.ask (some path) (Output.acceptsSwitch outputs)).prune s'.imsTable := by
  have hask : (h.ask (s.switchPath e) (Output.acceptsSwitch outputs)).prune s'.imsTable =
      (h.ask (some path) (Output.acceptsSwitch outputs)).prune s'.imsTable := by rw [hpath]
  cases e with
  | switchCall service => cases hpath
  | swapCallResponse q ok service => cases hpath
  | _ => exact hask

/-- Whoever finds a call to switch finds nothing guarded. -/
theorem guarding_eq_nil (hinv : GuardInvariant s h) (hcond : GuardsHold P slotId h s e)
    {key : Int} {dial : Option ImsDialInfoStruct} (hpath : s.switchPath e = some (key, dial)) :
    h.guarding = [] := by
  refine List.eq_nil_iff_forall_not_mem.mpr fun g hg => ?_
  obtain ⟨hpending, hmem⟩ := hinv.pending_of_mem hg
  have hcase := hcond.2 g.2 hmem hpending
  cases e with
  | dial callInfo isEcc useIms csEnv env =>
    simp only at hcase
    rw [hcase] at hpath
    cases hpath
  | answer service callInfo =>
    simp only [Slot.switchPath] at hpath hcase
    split at hpath
    · cases hpath
    · obtain ⟨key', hanswer, -⟩ := Option.map_eq_some_iff.mp hpath
      obtain ⟨c, hactive, hfree, hwaiting⟩ := answerPath_spec hanswer
      have hfirst := hcase hwaiting
      rw [firstActive, hactive, Option.map_some, Option.some.injEq] at hfirst
      have hc := (OrdMap.get?_of_first?_eq_some hactive).1
      simp only at hc hfirst
      rw [← hfirst, isPendingIn_of_get? hc, hfree] at hpending
      cases hpending
  | _ => cases hpath

theorem step_asked (hinv : GuardInvariant s h) (htables : s'.Holds settledSpec) {key : Int}
    {dial : Option ImsDialInfoStruct} {accepted : Bool} {c : CellularCallConnectionIMS}
    (hnone : h.guarding = []) (hc : s.imsTable.get? key = some c) (hactive : c.getStatus = .active)
    (hafter : ∀ k, switching s'.imsTable k =
      if k = key then (switching s.imsTable k).map (askedSwitch dial accepted)
      else switching s.imsTable k) :
    GuardInvariant s' ((h.ask (some (key, dial)) accepted).prune s'.imsTable) := by
  have hfree (k : Int) : isPendingIn s.imsTable k = false := by
    rw [← Bool.not_eq_true, hinv.guarded, hnone]
    simp
  have hkey : switching s.imsTable key = some (switchingOf c) := by
    rw [switching, hc]
    rfl
  have hpending (k : Int) : isPendingIn s'.imsTable k = (decide (k = key) && accepted) := by
    have hbefore := hfree k
    rw [isPendingIn] at hbefore ⊢
    rw [hafter]
    by_cases hk : k = key
    · subst hk
      rw [hkey, Option.any_some] at hbefore
      simp [hkey, askedSwitch, hbefore]
    · rw [if_neg hk, hbefore, decide_eq_false hk, Bool.false_and]
  cases accepted with
  | false =>
    have hguarding : ((h.ask (some (key, dial)) false).prune s'.imsTable).guarding = [] := by
      simp [GuardHistory.prune, GuardHistory.ask, hnone]
    exact of_none htables hguarding fun k => by rw [hpending, Bool.and_false]
  | true =>
    have hactive' : isActiveIn s'.imsTable key = true := by
      rw [isActiveIn, hafter, if_pos rfl, hkey]
      exact decide_eq_true hactive
    have hguarding : ((h.ask (some (key, dial)) true).prune s'.imsTable).guarding =
        [(h.requests.next, key)] := by
      simp [GuardHistory.prune, GuardHistory.ask, hnone, hactive']
    refine ⟨htables, ?_, ?_, fun k => ?_⟩
    · simp [hguarding]
    · simp [hguarding, hactive']
    · simp [hguarding, hpending, eq_comm]

/-- A list that is processed ends every guard. -/
theorem step_listed (hinv : GuardInvariant s h) (htables : s'.Holds settledSpec)
    (hcond : GuardsHold P slotId h s e) {L : ImsCurrentCallList}
    (hlist : s.processedList e = some L)
    {before : ConnectionMap ImsPart}
    (hrelisted : Relisted IMSControl.domain.toCallDomain P slotId before L s'.imsTable) :
    GuardInvariant s' (h.prune s'.imsTable) := by
  refine of_none htables (List.filter_eq_nil_iff.mpr fun g hg hactive => ?_) fun k => ?_
  · obtain ⟨r, hr, hstate⟩ := (Option.any_eq_true _ _).mp hactive
    obtain ⟨⟨call, hcall, hindex, hreport⟩, -⟩ := switching_of_relisted hrelisted hr
    have hpending := (hinv.pending_of_mem hg).1
    rw [← hindex] at hpending
    exact hcond.1 L hlist call hcall hpending (state_listed hreport (of_decide_eq_true hstate))
  · rw [← Bool.not_eq_true]
    intro hpending
    obtain ⟨r, hr, hpending⟩ := (Option.any_eq_true _ _).mp hpending
    obtain ⟨⟨call, -, -, hreport⟩, -⟩ := switching_of_relisted hrelisted hr
    rw [isPendingHold_listed hreport] at hpending
    cases hpending

/-- The response to the request that guards a call ends the guard. -/
theorem step_answered (hinv : GuardInvariant s h) (htables : s'.Holds settledSpec) {q : Nat}
    (hown : ∀ k ∈ s.imsTable.keys, isPendingIn s.imsTable k = true → (q, k) ∈ h.guarding)
    {dialled : Int → Bool}
    (hafter : ∀ k, switching s'.imsTable k = (switching s.imsTable k).map
      (answeredSwitch (decide (firstPending s.imsTable = some k)) (dialled k))) :
    GuardInvariant s' ((h.respond q).prune s'.imsTable) := by
  refine of_none htables (List.filter_eq_nil_iff.mpr fun g hg => ?_) fun k => ?_
  · obtain ⟨hg, hne⟩ := List.mem_filter.mp hg
    obtain ⟨hpending, hmem⟩ := hinv.pending_of_mem hg
    have hsame := hinv.sole g hg (q, g.2) (hown g.2 hmem hpending)
    exact absurd (congrArg Prod.fst hsame) (of_decide_eq_true hne)
  · rw [← Bool.not_eq_true]
    intro hpending
    rw [isPendingIn, hafter, Option.any_map] at hpending
    obtain ⟨r, hr, hmark⟩ := (Option.any_eq_true _ _).mp hpending
    simp only [answeredSwitch, Bool.and_eq_true, Bool.not_eq_true', decide_eq_false_iff_not]
      at hmark
    have hbefore : isPendingIn s.imsTable k = true := by
      rw [isPendingIn, hr]
      exact hmark.2
    obtain ⟨first, hfirst, hpending'⟩ := isPendingIn_firstPending hbefore
    obtain ⟨q₁, hq₁⟩ := (hinv.guarded k).mp hbefore
    obtain ⟨q₂, hq₂⟩ := (hinv.guarded first).mp hpending'
    have hsame := congrArg Prod.snd (hinv.sole _ hq₁ _ hq₂)
    simp only at hsame
    rw [hfirst, hsame] at hmark
    exact hmark.1 rfl

theorem step (hinv : GuardInvariant s h) (hallowed : guarding.allowed h s e)
    (hcond : GuardsHold P slotId h s e) :
    GuardInvariant ((slotMachine P slotId).step s e).1
      (guarding.next (slotMachine P slotId) h s e) := by
  have htables := Slot.holds_step (settledSpec_sound P slotId) hinv.tables (settledSpec_admits e)
  have hstep := imsTableStep P slotId hinv.settled hallowed
  rw [Monitor.next]
  generalize (slotMachine P slotId).step s e = result at hstep htables ⊢
  cases hstep with
  | kept s' outputs hplain _ hsame =>
    rw [update_of_isPlain hplain]
    exact hinv.of_same htables rfl hsame
  | released s' outputs hplain _ _ hempty =>
    rw [update_of_isPlain hplain]
    refine of_none htables (List.filter_eq_nil_iff.mpr fun g _ => ?_) fun k => ?_
    · rw [hempty]
      exact Bool.false_ne_true
    · rw [hempty]
      rfl
  | listed L before s' outputs hplain _ hlist _ hrelisted =>
    rw [update_of_isPlain hplain]
    exact hinv.step_listed htables hcond hlist hrelisted
  | asked key dial c s' outputs hpath hc hactive haccepts hafter =>
    rw [update_of_switchPath hpath, haccepts]
    exact hinv.step_asked htables (hinv.guarding_eq_nil hcond hpath) hc hactive hafter
  | userSwitch service outputs he _ =>
    subst he
    exact hinv.of_same htables rfl rfl
  | answered q ok service s' outputs he _ hafter =>
    subst he
    exact hinv.step_answered htables hcond.2 hafter

end GuardInvariant

/-- In every run whose steps let the guards hold, a call is pending hold exactly
while its switch is unanswered, and no dial and no answer asks again. -/
theorem oneSwitchAtATime_of_run (P : Platform) (slotId : Int) (s : Slot) (h : GuardHistory)
    (hrun : Run (slotMachine P slotId) guarding (GuardsHold P slotId) s h) :
    OneSwitchAtATime P slotId (fun e => guarding.allowed h s e ∧ GuardsHold P slotId h s e) s
      h := by
  have hinv : GuardInvariant s h :=
    Run.invariant GuardInvariant.init (fun _ _ _ hinv hallowed hcond => hinv.step hallowed hcond)
      hrun
  refine ⟨hinv.guarded, fun hguarding e he hask o ho => ?_⟩
  have hstep := imsTableStep P slotId hinv.settled he.1
  generalize (slotMachine P slotId).step s e = result at hstep ho
  cases hstep with
  | kept s' outputs _ hsilent _ => exact hsilent hask o ho
  | released s' outputs _ hother => simp [hask] at hother
  | listed L before s' outputs _ hother => simp [hask] at hother
  | asked key dial c s' outputs hpath =>
    exact absurd (hinv.guarding_eq_nil he.2 hpath) hguarding
  | userSwitch service outputs he' => simp [he', Event.asksHold] at hask
  | answered q ok service s' outputs he' => simp [he', Event.asksHold] at hask

/-- A dial does not look at the mark: the second one switches the calls back. -/
theorem not_oneSwitchAtATime_of_run :
    ¬∀ s h, Run (slotMachine .plain 0) guarding unconditional s h →
      OneSwitchAtATime .plain 0 (fun e => guarding.allowed h s e) s h := by
  intro hclaim
  let again : Event := .dial (.plain .ims 0) false true ⟨true, .gsm, .plain⟩ (.plain .plain)
  have hfound := hclaim _ _ (Run.of_admits (M := slotMachine .plain 0) (H := guarding)
    [.radioStateChange true (.plain .plain), .imsCallsData (.of [.plain 1 .active]), again]
    (by decide))
  have hsilent := hfound.single (by decide) again trivial rfl (.imsSwitchCall 0 .success)
    (by decide)
  cases hsilent

/-- An answer to a waiting call, the response, and the lists around them. -/
theorem oneSwitchAtATime_after_answer :
    let M := slotMachine .plain 0
    let es : List Event := [.imsCallsData (.of [.plain 1 .active, .plain 2 .waiting]),
      .answer .plain (.plain .ims 2), .imsCallsData (.of [.plain 1 .holding, .plain 2 .active]),
      .swapCallResponse 0 true .plain]
    OneSwitchAtATime .plain 0
      (fun e => guarding.allowed (exec M guarding M.init guarding.init es).2
          (exec M guarding M.init guarding.init es).1 e ∧
        GuardsHold .plain 0 (exec M guarding M.init guarding.init es).2
          (exec M guarding M.init guarding.init es).1 e)
      (exec M guarding M.init guarding.init es).1 (exec M guarding M.init guarding.init es).2 :=
  oneSwitchAtATime_of_run .plain 0 _ _ (Run.of_admits _ (by decide))

end CellularCall
