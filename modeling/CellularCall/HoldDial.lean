import CellularCall.ImsTable

/-!
# Dials that wait for a hold

A dial that finds an active call is put into the connection of that call, and a
request is sent to switch the call to hold.  The response to any such request
makes the first connection with a dial make it.  Nothing but the connection
remembers the dial, and nothing says which response is for which request.

`holding` keeps the ledger the code does not keep: which dials were put where,
what became of their requests, and how often each was sent.  `HoldStep` says
what every event does to the dials in the table, in the terms of the ledger, and
`HoldLedger` that the ledger is right.  From there:

* `dialsOnOwnSwitch_of_run`: a dial is sent only on the success of its own
  request,
* `dialsAccounted_of_run`: no dial is lost,

each under the condition that the code needs for it.
-/

namespace CellularCall

open Lib CallTable IMSControl

/-! ## The dials in a table -/

namespace IMSControl

/-- The dial in the connection under `k`. -/
def heldIn (m : ConnectionMap ImsPart) (k : Int) : Option ImsDialInfoStruct :=
  (switching m k).bind Prod.snd

variable {m : ConnectionMap ImsPart}

theorem mem_keys_of_heldIn {k : Int} {info : ImsDialInfoStruct} (h : heldIn m k = some info) :
    k ∈ m.keys := by
  by_contra hk
  rw [heldIn, switching_eq_none_iff.mpr hk] at h
  cases h

/-- The connection whose dial is made next has one. -/
theorem heldIn_firstHeld {key : Int} (hfirst : firstHeld m = some key) :
    ∃ info, heldIn m key = some info := by
  obtain ⟨⟨key', c⟩, hfind, rfl⟩ := Option.map_eq_some_iff.mp hfirst
  obtain ⟨hc, hneed⟩ := OrdMap.get?_of_first?_eq_some hfind
  refine ⟨c.own.holdToDialInfo, ?_⟩
  rw [heldIn, switching, hc]
  exact if_pos hneed

end IMSControl

/-- The call `k` is still tracked after the event: a list that is processed has
it, and nothing releases the whole table. -/
def Slot.Spares (s : Slot) (e : Event) (k : Int) : Prop :=
  s.releasesAll e = false ∧ ∀ L ∈ s.processedList e, Keeps L k

instance (s : Slot) (e : Event) (k : Int) : Decidable (s.Spares e k) :=
  inferInstanceAs (Decidable (_ ∧ ∀ L ∈ s.processedList e, Keeps L k))

/-! ## The ledger -/

/-- A dial that was put into the connection `key`.

* `request` is the number of its switch request, if that was not refused,
* `answer` tells whether the request succeeded, once it is answered,
* `failed` tells that a failure of the request was reported,
* `issued` counts how often the dial was sent,
* `current` tells that no later dial was put into the same connection. -/
structure HeldDial where
  key : Int
  info : ImsDialInfoStruct
  request : Option Nat
  answer : Option Bool
  failed : Bool
  issued : Nat
  current : Bool
deriving DecidableEq, Repr

namespace HeldDial

/-- Another dial is put into the connection `key`. -/
def supersede (key : Int) (d : HeldDial) : HeldDial :=
  { d with current := d.current && decide (d.key ≠ key) }

/-- The request `q` is answered, and the dial in the connection `key` is sent. -/
def responded (q : Nat) (ok reported : Bool) (key : Option Int) (d : HeldDial) : HeldDial :=
  { d with
    answer := if d.request = some q then some ok else d.answer
    failed := d.failed || (decide (d.request = some q) && reported)
    issued := if d.current = true ∧ key = some d.key then d.issued + 1 else d.issued }

end HeldDial

/-- The switch requests, and the dials that were put into a connection. -/
structure HoldHistory where
  requests : Requests
  dials : List HeldDial
deriving DecidableEq, Repr

namespace HoldHistory

/-- A dial is put into the connection `key`, and its request is made. -/
def hold (h : HoldHistory) (key : Int) (info : ImsDialInfoStruct) (sent : Bool) : HoldHistory where
  requests := h.requests.send sent
  dials := ⟨key, info, h.requests.number sent, none, false, 0, true⟩ ::
    h.dials.map (HeldDial.supersede key)

/-- A request is made that no dial waits for. -/
def switch (h : HoldHistory) (sent : Bool) : HoldHistory :=
  { h with requests := h.requests.send sent }

/-- A switch is asked for, by a dial or by an answer. -/
def asked (h : HoldHistory) (path : Option (Int × Option ImsDialInfoStruct)) (sent : Bool) :
    HoldHistory :=
  match path with
  | some (key, some info) => h.hold key info sent
  | some (_, none) => h.switch sent
  | none => h

/-- The request `q` is answered, and the dial in `key` is sent. -/
def respond (h : HoldHistory) (q : Nat) (ok reported : Bool) (key : Option Int) :
    HoldHistory where
  requests := h.requests.answer q
  dials := h.dials.map (HeldDial.responded q ok reported key)

end HoldHistory

/-- The ledger of the dials. -/
def holding : Monitor Slot Event Output HoldHistory where
  init := ⟨.none, []⟩
  allowed h s e := e.Follows h.requests s
  update h s e _ outputs :=
    match e with
    | .switchCall _ => h.switch (Output.acceptsSwitch outputs)
    | .swapCallResponse q ok _ =>
      h.respond q ok (decide (.reportEventResultInfo ∈ outputs))
        (if Output.imsDials outputs = [] then none else firstHeld s.imsTable)
    | e => h.asked (s.switchPath e) (Output.acceptsSwitch outputs)

instance (h : HoldHistory) (s : Slot) (e : Event) : Decidable (holding.allowed h s e) :=
  inferInstanceAs (Decidable (e.Follows h.requests s))

/-- The connection a dial is put into, and the dial. -/
def Slot.heldPath (s : Slot) (e : Event) : Option (Int × ImsDialInfoStruct) :=
  (s.switchPath e).bind fun asked => asked.2.map fun info => (asked.1, info)

/-- The service accepts a switch that no dial waits for: one for an answer, or
the user's own. -/
def Slot.switchesOnly (s : Slot) : Event → Bool
  | .switchCall service => service.acceptsSwitch
  | e => (s.switchPath e).any (fun asked => asked.2.isNone) && e.acceptsSwitch

/-- What an event does to the dials in the table and to the ledger. -/
inductive HoldStep (s : Slot) (e : Event) (h : HoldHistory) (s' : Slot) : HoldHistory → Prop
  | kept (sent : Bool) : s.heldPath e = none → (sent = true → s.switchesOnly e = true) →
      (∀ k info, heldIn s'.imsTable k = some info → heldIn s.imsTable k = some info) →
      (∀ k info, s.Spares e k → heldIn s.imsTable k = some info →
        heldIn s'.imsTable k = some info) →
      HoldStep s e h s' (h.switch sent)
  | held (key : Int) (info : ImsDialInfoStruct) (sent : Bool) : s.heldPath e = some (key, info) →
      (∀ k, heldIn s'.imsTable k = if k = key then some info else heldIn s.imsTable k) →
      HoldStep s e h s' (h.hold key info sent)
  | unsent (q : Nat) (ok reported : Bool) (service : ImsService) :
      e = .swapCallResponse q ok service → heldIn s'.imsTable = heldIn s.imsTable →
      HoldStep s e h s' (h.respond q ok reported none)
  | sent (q : Nat) (reported : Bool) (service : ImsService) (key : Int)
      (info : ImsDialInfoStruct) :
      e = .swapCallResponse q true service → heldIn s.imsTable key = some info →
      (∀ k, heldIn s'.imsTable k = if k = key then none else heldIn s.imsTable k) →
      HoldStep s e h s' (h.respond q true reported (some key))

namespace HoldStep

variable {s s' : Slot} {e : Event} {h : HoldHistory}

theorem of_same (sent : Bool) (hpath : s.heldPath e = none)
    (hsent : sent = true → s.switchesOnly e = true)
    (hsame : heldIn s'.imsTable = heldIn s.imsTable) : HoldStep s e h s' (h.switch sent) := by
  refine .kept sent hpath hsent (fun k info hk => ?_) fun k info _ hk => ?_
  · rw [← hsame]
    exact hk
  · rw [hsame]
    exact hk

theorem heldPath_of_isPlain (hplain : e.isPlain s = true) : s.heldPath e = none := by
  rw [Slot.heldPath, Event.switchPath_of_isPlain hplain]
  rfl

/-- A plain event is not in the ledger. -/
theorem update_of_isPlain (hplain : e.isPlain s = true) (outputs : List Output) :
    holding.update h s e s' outputs = h := by
  have hpath := Event.switchPath_of_isPlain hplain
  cases e with
  | switchCall service => cases hplain
  | swapCallResponse q ok service => cases hplain
  | _ => exact congrArg (fun path => h.asked path (Output.acceptsSwitch outputs)) hpath

theorem update_of_switchPath {path : Int × Option ImsDialInfoStruct}
    (hpath : s.switchPath e = some path) (outputs : List Output) :
    holding.update h s e s' outputs = h.asked (some path) (Output.acceptsSwitch outputs) := by
  cases e with
  | switchCall service => cases hpath
  | swapCallResponse q ok service => cases hpath
  | _ => exact congrArg (fun path => h.asked path (Output.acceptsSwitch outputs)) hpath

end HoldStep

/-- Every event does one of four things to the dials. -/
theorem holdStep (P : Platform) (slotId : Int) {s : Slot} (hs : Settled s.imsTable)
    {h : HoldHistory} {e : Event} (hallowed : holding.allowed h s e) :
    HoldStep s e h ((slotMachine P slotId).step s e).1
      (holding.next (slotMachine P slotId) h s e) := by
  have hstep := imsTableStep P slotId hs hallowed
  rw [Monitor.next]
  generalize (slotMachine P slotId).step s e = result at hstep ⊢
  cases hstep with
  | kept s' outputs hplain _ hsame =>
    rw [HoldStep.update_of_isPlain hplain]
    refine .of_same false (HoldStep.heldPath_of_isPlain hplain) (fun hsent => by cases hsent) ?_
    funext k
    rw [heldIn, heldIn, hsame]
  | released s' outputs hplain _ hreleases hempty =>
    rw [HoldStep.update_of_isPlain hplain]
    refine .kept false (HoldStep.heldPath_of_isPlain hplain) (fun hsent => by cases hsent)
      (fun k info hk => ?_) fun k info hspares _ => ?_
    · rw [hempty] at hk
      cases hk
    · rw [hspares.1] at hreleases
      cases hreleases
  | listed L before s' outputs hplain _ hlist hbefore hrelisted =>
    rw [HoldStep.update_of_isPlain hplain]
    refine .kept false (HoldStep.heldPath_of_isPlain hplain) (fun hsent => by cases hsent)
      (fun k info hk => ?_) fun k info hspares hk => ?_
    · obtain ⟨⟨r, dial⟩, hr, rfl⟩ := Option.bind_eq_some_iff.mp hk
      rw [heldIn, ← hbefore]
      exact (switching_of_relisted hrelisted hr).2.symm
    · obtain ⟨r, hr⟩ := switching_of_keeps hrelisted (hspares.2 L hlist)
      rw [heldIn, hr, hbefore]
      exact hk
  | asked key dial c s' outputs hpath hc _ haccepts hafter =>
    rw [HoldStep.update_of_switchPath hpath]
    have hheld (k : Int) : heldIn s'.imsTable k =
        if k = key then dial.or (heldIn s.imsTable k) else heldIn s.imsTable k := by
      rw [heldIn, heldIn, hafter]
      split
      · rename_i hk
        rw [hk, switching, hc]
        rfl
      · rfl
    cases dial with
    | some info => exact .held key info _ (by simp [Slot.heldPath, hpath]) hheld
    | none =>
      refine .of_same _ (by simp [Slot.heldPath, hpath]) (fun hsent => ?_) ?_
      · rw [haccepts] at hsent
        cases e with
        | answer service callInfo => simp [Slot.switchesOnly, hpath, hsent]
        | dial callInfo isEcc useIms csEnv env => simp [Slot.switchesOnly, hpath, hsent]
        | _ => cases hpath
      · funext k
        rw [hheld, Option.none_or, ite_self]
  | userSwitch service outputs he haccepts =>
    subst he
    exact .of_same _ rfl haccepts rfl
  | answered q ok service s' outputs he hdials hafter =>
    subst he
    have hheld (k : Int) : heldIn s'.imsTable k =
        if ok = true ∧ firstHeld s.imsTable = some k then none else heldIn s.imsTable k := by
      rw [heldIn, heldIn, hafter]
      cases switching s.imsTable k with
      | none => simp
      | some r =>
        by_cases hsent : ok = true ∧ firstHeld s.imsTable = some k
        · simp [answeredSwitch, hsent]
        · rw [if_neg hsent]
          have hsent' : (ok && decide (firstHeld s.imsTable = some k)) = false := by
            simpa using hsent
          simp [answeredSwitch, hsent']
    have hunsent (h' : (if ok then firstHeld s.imsTable else none) = none) :
        HoldStep s (.swapCallResponse q ok service) h s'
          (holding.update h s (.swapCallResponse q ok service) s' outputs) := by
      rw [h'] at hdials
      simp only [holding, hdials, Option.bind_none, Option.toList_none, if_true]
      refine .unsent q ok _ service rfl (funext fun k => ?_)
      rw [hheld, if_neg]
      intro h
      obtain ⟨rfl, hfirst⟩ := h
      rw [if_pos rfl, hfirst] at h'
      cases h'
    cases ok with
    | false => exact hunsent rfl
    | true =>
      cases hfirst : firstHeld s.imsTable with
      | none => exact hunsent hfirst
      | some key =>
        obtain ⟨info, hinfo⟩ := heldIn_firstHeld hfirst
        have hdials' : Output.imsDials outputs = [info] := by
          rw [hdials, if_pos rfl, hfirst, Option.bind_some]
          exact congrArg Option.toList hinfo
        simp only [holding, hdials', List.cons_ne_nil, if_false, hfirst]
        refine .sent q _ service key info rfl hinfo fun k => ?_
        rw [hheld, hfirst]
        simp [eq_comm]

/-! ## The ledger is right -/

/-- What the ledger says of the table: every dial there is recorded, the last
one put into its connection is the one that is there, and it has not been
sent. -/
structure HoldLedger (s : Slot) (h : HoldHistory) : Prop where
  tables : s.Holds settledSpec
  fresh : h.requests.Fresh
  known : ∀ d ∈ h.dials, ∀ q, d.request = some q → q < h.requests.next
  waiting : ∀ d ∈ h.dials, ∀ q ∈ h.requests.unanswered, d.request = some q →
    d.answer = none ∧ d.failed = false
  recorded : ∀ k info, heldIn s.imsTable k = some info →
    ∃ d ∈ h.dials, d.current = true ∧ d.key = k
  current : ∀ d ∈ h.dials, d.current = true → ∀ info, heldIn s.imsTable d.key = some info →
    d.info = info ∧ d.issued = 0
  once : ∀ d ∈ h.dials, d.issued ≤ 1

namespace HoldLedger

variable {P : Platform} {slotId : Int} {s s' : Slot} {e : Event} {h h' : HoldHistory}

theorem init : HoldLedger Slot.init holding.init where
  tables := .init
  fresh := Requests.fresh_none
  known := by simp [holding]
  waiting := by simp [holding]
  recorded := by
    intro k info hk
    cases hk
  current := by simp [holding]
  once := by simp [holding]

theorem settled (hinv : HoldLedger s h) : Settled s.imsTable := hinv.tables.getD_ims.toSettled

/-- An answer changes nothing about the requests that were answered before. -/
theorem waiting_respond (hinv : HoldLedger s h) (q : Nat) (ok reported : Bool)
    (key : Option Int) :
    ∀ d ∈ (h.respond q ok reported key).dials,
      ∀ p ∈ (h.respond q ok reported key).requests.unanswered, d.request = some p →
        d.answer = none ∧ d.failed = false := by
  refine List.forall_mem_map.mpr fun d hd p hp hrequest => ?_
  obtain ⟨hp, hne⟩ := Requests.mem_answer.mp hp
  have hother : d.request ≠ some q := by
    intro hq
    exact hne (Option.some.inj (hrequest.symm.trans hq))
  have hbefore := hinv.waiting d hd p hp hrequest
  simp [HeldDial.responded, hother, hbefore.1, hbefore.2]

/-- A new request is none of those recorded. -/
theorem waiting_send (hinv : HoldLedger s h) (sent : Bool) {d : HeldDial} (hd : d ∈ h.dials)
    {q : Nat} (hq : q ∈ (h.requests.send sent).unanswered) (hrequest : d.request = some q) :
    d.answer = none ∧ d.failed = false := by
  have hlt := hinv.known d hd q hrequest
  rcases Requests.mem_send.mp hq with hnumber | hq
  · cases sent with
    | false => cases hnumber
    | true =>
      have hnext : h.requests.next = q := Option.some.inj hnumber
      omega
  · exact hinv.waiting d hd q hq hrequest

theorem known_send (hinv : HoldLedger s h) (sent : Bool) {d : HeldDial} (hd : d ∈ h.dials)
    {q : Nat} (hq : d.request = some q) : q < (h.requests.send sent).next :=
  Nat.lt_of_lt_of_le (hinv.known d hd q hq) (Requests.next_le_send _ sent)

theorem step_held (hinv : HoldLedger s h) (htables : s'.Holds settledSpec) (key : Int)
    (info : ImsDialInfoStruct) (sent : Bool)
    (hheld : ∀ k, heldIn s'.imsTable k = if k = key then some info else heldIn s.imsTable k) :
    HoldLedger s' (h.hold key info sent) where
  tables := htables
  fresh := hinv.fresh.send sent
  known := List.forall_mem_cons.mpr ⟨fun _ hq => Requests.lt_next_of_number hq,
    List.forall_mem_map.mpr fun _ hd _ hq => hinv.known_send sent hd hq⟩
  waiting := List.forall_mem_cons.mpr ⟨fun _ _ _ => ⟨rfl, rfl⟩,
    List.forall_mem_map.mpr fun d hd _ hq hrequest =>
      hinv.waiting_send sent (d := d) hd hq hrequest⟩
  recorded := by
    intro k info' hk
    rw [hheld] at hk
    split at hk
    · rename_i hkey
      exact ⟨_, List.mem_cons_self, rfl, hkey.symm⟩
    · rename_i hkey
      obtain ⟨d, hd, hcurrent, rfl⟩ := hinv.recorded k info' hk
      exact ⟨d.supersede key, List.mem_cons_of_mem _ (List.mem_map_of_mem hd),
        by simp [HeldDial.supersede, hcurrent, hkey], rfl⟩
  current := by
    refine List.forall_mem_cons.mpr ⟨fun _ info' hk => ?_,
      List.forall_mem_map.mpr fun d hd hcurrent info' hk => ?_⟩
    · rw [hheld, if_pos rfl, Option.some.injEq] at hk
      exact ⟨hk, rfl⟩
    · simp only [HeldDial.supersede, Bool.and_eq_true, decide_eq_true_eq] at hcurrent hk
      rw [hheld, if_neg hcurrent.2] at hk
      exact hinv.current d hd hcurrent.1 info' hk
  once := List.forall_mem_cons.mpr
    ⟨Nat.zero_le _, List.forall_mem_map.mpr fun d hd => hinv.once d hd⟩

theorem step_sent (hinv : HoldLedger s h) (htables : s'.Holds settledSpec) (q : Nat)
    (reported : Bool) {key : Int} {info : ImsDialInfoStruct}
    (hheld : heldIn s.imsTable key = some info)
    (hafter : ∀ k, heldIn s'.imsTable k = if k = key then none else heldIn s.imsTable k) :
    HoldLedger s' (h.respond q true reported (some key)) where
  tables := htables
  fresh := hinv.fresh.answer q
  known := List.forall_mem_map.mpr fun d hd => hinv.known d hd
  waiting := hinv.waiting_respond q true reported (some key)
  recorded := by
    intro k info' hk
    rw [hafter] at hk
    split at hk
    · cases hk
    · obtain ⟨d, hd, hcurrent, hkey⟩ := hinv.recorded k info' hk
      exact ⟨_, List.mem_map_of_mem hd, hcurrent, hkey⟩
  current := by
    refine List.forall_mem_map.mpr fun d hd hcurrent info' hk => ?_
    simp only [HeldDial.responded] at hcurrent hk ⊢
    rw [hafter] at hk
    split at hk
    · cases hk
    · rename_i hkey
      have hother : ¬(d.current = true ∧ some key = some d.key) := by
        intro h
        obtain ⟨-, hkey'⟩ := h
        exact hkey (Option.some.inj hkey').symm
      rw [if_neg hother]
      exact hinv.current d hd hcurrent info' hk
  once := by
    refine List.forall_mem_map.mpr fun d hd => ?_
    have honce := hinv.once d hd
    simp only [HeldDial.responded]
    split
    · rename_i hsent
      have hkey : d.key = key := (Option.some.inj hsent.2).symm
      have hzero := (hinv.current d hd hsent.1 info (by rw [hkey]; exact hheld)).2
      omega
    · exact honce

theorem step (hinv : HoldLedger s h) (hstep : HoldStep s e h s' h')
    (htables : s'.Holds settledSpec) : HoldLedger s' h' := by
  cases hstep with
  | kept sent _ _ hsub _ =>
    exact ⟨htables, hinv.fresh.send sent, fun d hd q hq => hinv.known_send sent hd hq,
      fun d hd q hq hrequest => hinv.waiting_send sent hd hq hrequest,
      fun k info hk => hinv.recorded k info (hsub k info hk),
      fun d hd hcurrent info hk => hinv.current d hd hcurrent info (hsub d.key info hk), hinv.once⟩
  | held key info sent _ hheld => exact hinv.step_held htables key info sent hheld
  | unsent q ok reported _ _ hsame =>
    refine ⟨htables, hinv.fresh.answer q, List.forall_mem_map.mpr fun d hd => hinv.known d hd,
      hinv.waiting_respond q ok reported none, ?_, List.forall_mem_map.mpr ?_,
      List.forall_mem_map.mpr ?_⟩
    · intro k info hk
      rw [hsame] at hk
      obtain ⟨d, hd, hcurrent, hkey⟩ := hinv.recorded k info hk
      exact ⟨_, List.mem_map_of_mem hd, hcurrent, hkey⟩
    · intro d hd hcurrent info hk
      rw [hsame] at hk
      simpa [HeldDial.responded] using hinv.current d hd hcurrent info hk
    · intro d hd
      simpa [HeldDial.responded] using hinv.once d hd
  | sent q reported _ key info _ hheld hafter =>
    exact hinv.step_sent htables q reported hheld hafter

/-- Every step keeps the ledger right. -/
theorem next (hinv : HoldLedger s h) (hallowed : holding.allowed h s e) :
    HoldLedger ((slotMachine P slotId).step s e).1 (holding.next (slotMachine P slotId) h s e) :=
  hinv.step (holdStep P slotId hinv.settled hallowed)
    (Slot.holds_step (settledSpec_sound P slotId) hinv.tables (settledSpec_admits e))

end HoldLedger

/-! ## A dial is sent on its own switch -/

/-- Every dial that was sent was sent once, and its own request has succeeded;
and a response sends no dial but the one whose request it answers. -/
structure DialsOnOwnSwitch (P : Platform) (slotId : Int) (s : Slot) (h : HoldHistory) : Prop where
  issued : ∀ d ∈ h.dials, d.issued ≠ 0 →
    d.issued = 1 ∧ d.request.isSome = true ∧ d.answer = some true
  next : ∀ q ok service, q ∈ h.requests.unanswered →
    ∀ info ∈ Output.imsDials
      ((slotMachine P slotId).step s (.swapCallResponse q ok service)).2,
      ok = true ∧ ∃ d ∈ h.dials, d.request = some q ∧ d.info = info ∧ d.issued = 0

/-- One thing at a time: a dial is put into a connection only while no switch
request is unanswered and no other connection has a dial, and no other switch is
accepted while a connection has one. -/
def OneAtATime : StepCond Slot Event HoldHistory := fun h s e =>
  (∀ held ∈ s.heldPath e, h.requests.unanswered = [] ∧
    ∀ k ∈ s.imsTable.keys, k ≠ held.1 → heldIn s.imsTable k = none) ∧
  (s.switchesOnly e = true → ∀ k ∈ s.imsTable.keys, heldIn s.imsTable k = none)

instance (h : HoldHistory) (s : Slot) (e : Event) : Decidable (OneAtATime h s e) :=
  inferInstanceAs (Decidable ((∀ held ∈ s.heldPath e, _ ∧ _) ∧ (_ → _)))

/-- The unanswered request, if there is one beside a dial in the table, is the
request of that dial. -/
structure SoleDial (s : Slot) (h : HoldHistory) : Prop extends HoldLedger s h where
  sole : ∀ k info, heldIn s.imsTable k = some info → h.requests.unanswered = [] ∨
    ∃ q, h.requests.unanswered = [q] ∧
      ∀ d ∈ h.dials, d.current = true → d.key = k → d.request = some q
  issued : ∀ d ∈ h.dials, d.issued ≠ 0 →
    d.issued = 1 ∧ d.request.isSome = true ∧ d.answer = some true

namespace SoleDial

variable {P : Platform} {slotId : Int} {s s' : Slot} {e : Event} {h h' : HoldHistory}

theorem init : SoleDial Slot.init holding.init where
  toHoldLedger := .init
  sole := by
    intro k info hk
    cases hk
  issued := by simp [holding]

/-- While a connection has a dial, the response is that of its request. -/
theorem own_request (hinv : SoleDial s h) {k : Int} {info : ImsDialInfoStruct}
    (hk : heldIn s.imsTable k = some info) {q : Nat} (hq : q ∈ h.requests.unanswered) :
    h.requests.unanswered = [q] ∧
      ∀ d ∈ h.dials, d.current = true → d.key = k → d.request = some q := by
  rcases hinv.sole k info hk with hnone | ⟨q', hsole, hown⟩
  · rw [hnone] at hq
    cases hq
  · rw [hsole, List.mem_singleton] at hq
    exact hq ▸ ⟨hsole, hown⟩

/-- A response leaves no request unanswered. -/
theorem unanswered_respond (hinv : SoleDial s h) {k : Int} {info : ImsDialInfoStruct}
    (hk : heldIn s.imsTable k = some info) {q : Nat} (hq : q ∈ h.requests.unanswered) :
    (h.requests.answer q).unanswered = [] := by
  rw [Requests.answer, (hinv.own_request hk hq).1]
  simp

theorem issued_unsent (hinv : SoleDial s h) {q : Nat} (hq : q ∈ h.requests.unanswered)
    {d : HeldDial} (hd : d ∈ h.dials) (hissued : d.issued ≠ 0) (ok : Bool) :
    (if d.request = some q then some ok else d.answer) = some true := by
  obtain ⟨-, -, hanswer⟩ := hinv.issued d hd hissued
  split
  · rename_i hrequest
    have hnone := (hinv.waiting d hd q hq hrequest).1
    rw [hnone] at hanswer
    cases hanswer
  · exact hanswer

theorem step (hinv : SoleDial s h) (hstep : HoldStep s e h s' h') (hnext : HoldLedger s' h')
    (hallowed : holding.allowed h s e) (hcond : OneAtATime h s e) : SoleDial s' h' := by
  refine ⟨hnext, ?_, ?_⟩
  all_goals cases hstep with
  | kept sent hpath halone hsub hspares => ?_
  | held key info sent hpath hheld => ?_
  | unsent q ok reported service he hsame => ?_
  | sent q reported service key info he hheld hafter => ?_
  · intro k info hk
    have hk' := hsub k info hk
    cases sent with
    | false => exact hinv.sole k info hk'
    | true =>
      have hnone := hcond.2 (halone rfl) k (mem_keys_of_heldIn hk')
      rw [hnone] at hk'
      cases hk'
  · intro k info' hk
    obtain ⟨hunanswered, hothers⟩ := hcond.1 (key, info) hpath
    rw [hheld] at hk
    split at hk
    · rename_i hkey
      cases sent with
      | false => exact Or.inl hunanswered
      | true =>
        right
        refine ⟨h.requests.next, by simp [HoldHistory.hold, Requests.send, hunanswered],
          List.forall_mem_cons.mpr ⟨fun _ _ => rfl, List.forall_mem_map.mpr ?_⟩⟩
        intro d _ hcurrent hdkey
        simp only [HeldDial.supersede, Bool.and_eq_true, decide_eq_true_eq] at hcurrent hdkey
        exact absurd (hdkey.trans hkey) hcurrent.2
    · rename_i hkey
      rw [hothers k (mem_keys_of_heldIn hk) hkey] at hk
      cases hk
  · intro k info hk
    rw [hsame] at hk
    subst he
    exact Or.inl (hinv.unanswered_respond hk hallowed)
  · intro k info' hk
    subst he
    exact Or.inl (hinv.unanswered_respond hheld hallowed)
  · exact hinv.issued
  · exact List.forall_mem_cons.mpr ⟨fun hissued => absurd rfl hissued,
      List.forall_mem_map.mpr fun d hd => hinv.issued d hd⟩
  · subst he
    refine List.forall_mem_map.mpr fun d hd hissued => ?_
    have hissued' : d.issued ≠ 0 := by simpa [HeldDial.responded] using hissued
    obtain ⟨hone, hsome, -⟩ := hinv.issued d hd hissued'
    exact ⟨by simpa [HeldDial.responded] using hone, hsome,
      hinv.issued_unsent hallowed hd hissued' ok⟩
  · subst he
    refine List.forall_mem_map.mpr fun d hd hissued => ?_
    by_cases hsent : d.current = true ∧ some key = some d.key
    · have hkey : d.key = key := (Option.some.inj hsent.2).symm
      have hrequest := (hinv.own_request hheld hallowed).2 d hd hsent.1 hkey
      have hzero := (hinv.current d hd hsent.1 info (by rw [hkey]; exact hheld)).2
      simp [HeldDial.responded, hsent.1, hkey, hzero, hrequest]
    · simp only [HeldDial.responded, if_neg hsent] at hissued ⊢
      obtain ⟨hone, hsome, -⟩ := hinv.issued d hd hissued
      exact ⟨hone, hsome, hinv.issued_unsent hallowed hd hissued true⟩

/-- What a response sends is the dial in some connection. -/
theorem heldIn_of_imsDials (hs : Settled s.imsTable) {q : Nat} {ok : Bool} {service : ImsService}
    (hq : q ∈ h.requests.unanswered) {info : ImsDialInfoStruct}
    (hinfo : info ∈ Output.imsDials
      ((slotMachine P slotId).step s (.swapCallResponse q ok service)).2) :
    ok = true ∧ ∃ k, heldIn s.imsTable k = some info := by
  have hstep := imsTableStep P slotId hs (e := .swapCallResponse q ok service) hq
  obtain ⟨hok, key, -, hheld⟩ := hstep.of_imsDials hinfo
  exact ⟨hok, key, hheld⟩

end SoleDial

/-- In every run that does one thing at a time, a dial is sent once, on the
success of its own switch request. -/
theorem dialsOnOwnSwitch_of_run (P : Platform) (slotId : Int) (s : Slot) (h : HoldHistory)
    (hrun : Run (slotMachine P slotId) holding OneAtATime s h) :
    DialsOnOwnSwitch P slotId s h := by
  have hinv : SoleDial s h := by
    refine Run.invariant SoleDial.init (fun s h e hinv hallowed hcond => ?_) hrun
    exact hinv.step (holdStep P slotId hinv.settled hallowed) (hinv.next hallowed) hallowed hcond
  refine ⟨hinv.issued, fun q ok service hq info hinfo => ?_⟩
  obtain ⟨hok, k, hk⟩ := SoleDial.heldIn_of_imsDials hinv.settled hq hinfo
  obtain ⟨d, hd, hcurrent, rfl⟩ := hinv.recorded k info hk
  obtain ⟨hsame, hzero⟩ := hinv.current d hd hcurrent info hk
  exact ⟨hok, d, hd, (hinv.own_request hk hq).2 d hd hcurrent rfl, hsame, hzero⟩

/-- A dial is refused by the service, and its caller is told so; the user then
switches the calls, and the response dials after all. -/
theorem not_dialsOnOwnSwitch_of_run :
    ¬∀ s h, Run (slotMachine .plain 0) holding unconditional s h →
      DialsOnOwnSwitch .plain 0 s h := by
  intro hclaim
  have hfound := hclaim _ _ (Run.of_admits (M := slotMachine .plain 0) (H := holding)
    [.radioStateChange true (.plain .plain), .imsCallsData (.of [.plain 1 .active]),
      .dial (.plain .ims 0) false true ⟨true, .gsm, .plain⟩
        (.plain { ImsService.plain with switchCall := .error }),
      .switchCall .plain, .swapCallResponse 0 true .plain]
    (by decide))
  have hissued := hfound.issued _ (List.mem_singleton.mpr rfl) (by decide)
  exact absurd hissued.2.1 (by decide)

/-- A dial beside an active call, sent when that is on hold. -/
theorem dialsOnOwnSwitch_after_hold :
    let M := slotMachine .plain 0
    let es : List Event := [.radioStateChange true (.plain .plain),
      .imsCallsData (.of [.plain 1 .active]),
      .dial (.plain .ims 0) false true ⟨true, .gsm, .plain⟩ (.plain .plain),
      .swapCallResponse 0 true .plain]
    DialsOnOwnSwitch .plain 0 (exec M holding M.init holding.init es).1
      (exec M holding M.init holding.init es).2 :=
  dialsOnOwnSwitch_of_run .plain 0 _ _ (Run.of_admits _ (by decide))

/-! ## No dial is lost -/

/-- The dial is in its connection, waiting. -/
def HeldDial.Pending (s : Slot) (d : HeldDial) : Prop :=
  d.current = true ∧ d.issued = 0 ∧ heldIn s.imsTable d.key = some d.info

/-- Every dial whose request was accepted is waiting, or was sent once, or its
failure was reported. -/
def DialsAccounted (s : Slot) (h : HoldHistory) : Prop :=
  ∀ d ∈ h.dials, d.request.isSome = true → d.Pending s ∨ d.issued = 1 ∨ d.failed = true

/-- The dial was accepted, and nothing has become of it. -/
def HeldDial.Open (d : HeldDial) : Prop :=
  d.request.isSome = true ∧ d.issued = 0 ∧ d.failed = false

instance (d : HeldDial) : Decidable d.Open := inferInstanceAs (Decidable (_ ∧ _ ∧ _))

/-- No call with an open dial ends, and no other dial is put into its
connection. -/
def SparesDials : StepCond Slot Event HoldHistory := fun h s e =>
  ∀ d ∈ h.dials, d.Open → s.Spares e d.key ∧ ∀ held ∈ s.heldPath e, held.1 ≠ d.key

instance (h : HoldHistory) (s : Slot) (e : Event) : Decidable (SparesDials h s e) :=
  inferInstanceAs (Decidable (∀ d ∈ h.dials, d.Open → s.Spares e d.key ∧ ∀ held ∈ s.heldPath e, _))

/-- An open dial is in its connection. -/
structure OpenKept (s : Slot) (h : HoldHistory) : Prop extends HoldLedger s h where
  kept : ∀ d ∈ h.dials, d.Open → d.current = true ∧ heldIn s.imsTable d.key = some d.info

namespace OpenKept

variable {P : Platform} {slotId : Int} {s s' : Slot} {e : Event} {h h' : HoldHistory}

theorem init : OpenKept Slot.init holding.init where
  toHoldLedger := .init
  kept := by simp [holding]

theorem step (hinv : OpenKept s h) (hstep : HoldStep s e h s' h') (hnext : HoldLedger s' h')
    (hcond : SparesDials h s e) : OpenKept s' h' := by
  refine ⟨hnext, ?_⟩
  cases hstep with
  | kept sent hpath halone hsub hspares =>
    intro d hd hopen
    obtain ⟨hcurrent, hk⟩ := hinv.kept d hd hopen
    exact ⟨hcurrent, hspares d.key d.info (hcond d hd hopen).1 hk⟩
  | held key info sent hpath hheld =>
    refine List.forall_mem_cons.mpr ⟨fun _ => ⟨rfl, ?_⟩, List.forall_mem_map.mpr ?_⟩
    · rw [hheld, if_pos rfl]
    · intro d hd hopen
      obtain ⟨hcurrent, hk⟩ := hinv.kept d hd hopen
      have hkey : key ≠ d.key := (hcond d hd hopen).2 (key, info) hpath
      simp only [HeldDial.supersede, hcurrent, hheld]
      rw [if_neg hkey.symm]
      exact ⟨by simp [hkey.symm], hk⟩
  | unsent q ok reported service he hsame =>
    refine List.forall_mem_map.mpr fun d hd hopen => ?_
    obtain ⟨hsome, hzero, hfailed'⟩ := hopen
    simp only [HeldDial.responded, Bool.or_eq_false_iff] at hsome hzero hfailed'
    have hopen' : d.Open := ⟨hsome, by simpa using hzero, hfailed'.1⟩
    rw [hsame]
    exact hinv.kept d hd hopen'
  | sent q reported service key info he hheld hafter =>
    refine List.forall_mem_map.mpr fun d hd hopen => ?_
    obtain ⟨hsome, hzero, hfailed⟩ := hopen
    simp only [HeldDial.responded, Bool.or_eq_false_iff] at hsome hzero hfailed
    split at hzero
    · omega
    · rename_i hother
      obtain ⟨hcurrent, hk⟩ := hinv.kept d hd ⟨hsome, hzero, hfailed.1⟩
      have hkey : d.key ≠ key := by
        intro hkey
        exact hother ⟨hcurrent, by rw [hkey]⟩
      refine ⟨hcurrent, ?_⟩
      simp only [HeldDial.responded, hafter]
      rw [if_neg hkey]
      exact hk

end OpenKept

/-- In every run that spares the open dials, none is lost. -/
theorem dialsAccounted_of_run (P : Platform) (slotId : Int) (s : Slot) (h : HoldHistory)
    (hrun : Run (slotMachine P slotId) holding SparesDials s h) : DialsAccounted s h := by
  have hinv : OpenKept s h := by
    refine Run.invariant OpenKept.init (fun s h e hinv hallowed hcond => ?_) hrun
    exact hinv.step (holdStep P slotId hinv.settled hallowed) (hinv.next hallowed) hcond
  intro d hd hsome
  have honce := hinv.once d hd
  cases hfailed : d.failed with
  | true => exact Or.inr (Or.inr rfl)
  | false =>
    rcases Nat.eq_zero_or_pos d.issued with hzero | hpos
    · obtain ⟨hcurrent, hk⟩ := hinv.kept d hd ⟨hsome, hzero, hfailed⟩
      exact Or.inl ⟨hcurrent, hzero, hk⟩
    · exact Or.inr (Or.inl (by omega))

/-- The held call ends before the switch is answered, and its control goes with
it: nobody hears of the dial again. -/
theorem not_dialsAccounted_of_run :
    ¬∀ s h, Run (slotMachine .plain 0) holding unconditional s h → DialsAccounted s h := by
  intro hclaim
  have hfound := hclaim _ _ (Run.of_admits (M := slotMachine .plain 0) (H := holding)
    [.radioStateChange true (.plain .plain), .imsCallsData (.of [.plain 1 .active]),
      .dial (.plain .ims 0) false true ⟨true, .gsm, .plain⟩ (.plain .plain),
      .imsCallsData .none, .callFailReason .ims .normal []]
    (by decide))
  have hlost := hfound _ (List.mem_singleton.mpr rfl) (by decide)
  simp only [HeldDial.Pending] at hlost
  exact absurd hlost (by decide)

/-- The call is put on hold, and the dial that waited for it is sent. -/
theorem dialsAccounted_after_hold :
    let M := slotMachine .plain 0
    let es : List Event := [.radioStateChange true (.plain .plain),
      .imsCallsData (.of [.plain 1 .active]),
      .dial (.plain .ims 0) false true ⟨true, .gsm, .plain⟩ (.plain .plain),
      .imsCallsData (.of [.plain 1 .holding]), .swapCallResponse 0 true .plain]
    DialsAccounted (exec M holding M.init holding.init es).1
      (exec M holding M.init holding.init es).2 :=
  dialsAccounted_of_run .plain 0 _ _ (Run.of_admits _ (by decide))

end CellularCall
