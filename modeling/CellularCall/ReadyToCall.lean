import CellularCall.Lib.Locks
import CellularCall.Lib.Threads
import CellularCall.Service

/-!
# Ready to call

An emergency dial in airplane mode switches the radio on and then waits, on the condition
variable of its control, until its slot is ready to call.  The call manager says when it
is: `CellularCallService::SetReadyToCall` goes to the controls of the slot, the CS control
first, and each sets the slot ready and notifies if the slot is not ready yet.

Readiness is one flag for the slot, the condition variables are many, and a control is not
told of what another has done.  `waits_of_run` says what follows for every order of steps
of any number of dials and of calls of `SetReadyToCall`: a dial that waits for a slot that
is ready missed the notification, which went to another control, and only its time-out
ends the wait.  `notifies_of_setReadyToCall` says which control that is.
-/

namespace CellularCall

open Lib

/-- The three controls of a slot, in the order in which they are told. -/
inductive ControlKind
  | cs
  | ims
  | satellite
  deriving DecidableEq, Repr

/-- What the dials and `SetReadyToCall` share: which slots are ready, the controls of the
slots, each with a number of its own, and the mutex and the condition variable of each
control.  `tickets` counts the notifications: who waits is woken when the count passes the
one it found. -/
structure ReadyToCall where
  ready : Int → Bool
  control : ControlKind → Int → Option Nat
  created : Nat
  locked : Nat → Bool
  tickets : Nat → Nat

namespace ReadyToCall

/-- What a thread is called for. -/
inductive Request
  | dial (kind : ControlKind) (slotId : Int) (isEcc : Bool)
  | setReadyToCall (slotId : Int) (isReadyToCall : Bool)
  deriving DecidableEq, Repr

/-- What is answered in one step: the airplane mode, whether the SIM is active, whether
the radio and the SIMs could be switched on; and whether a thread that waits wakes up for
no reason, or its time is over. -/
structure Answers where
  isAirplaneModeOn : Bool
  isActivateSim : Bool
  radioUpdated : Bool
  simsActivated : Bool
  wakes : Bool
  timedOut : Bool
  deriving DecidableEq, Repr

/-- What `HandleEcc` returns. -/
inductive EccRet
  | airplaneModeOn
  | updateRadioFail
  | setActiveSimFail
  | dialFailed
  | success
  deriving DecidableEq, Repr

/-- Where a thread stands: in `DialNormalCall` and `HandleEcc`, up to `leave`, or in
`SetReadyToCall` of the service and of its controls. -/
inductive Place
  | idle
  | getControl (kind : ControlKind) (slotId : Int) (isEcc : Bool)
  | setControl (c : Nat) (kind : ControlKind) (slotId : Int) (isEcc : Bool)
  | handleEcc (c : Nat) (slotId : Int) (isEcc : Bool)
  | notReady (c : Nat) (slotId : Int) (isActivateSim : Bool)
  | updateRadioOn (c : Nat) (slotId : Int) (isActivateSim : Bool)
  | activateSim (c : Nat) (slotId : Int) (isActivateSim : Bool)
  | lock (c : Nat) (slotId : Int)
  | check (c : Nat) (slotId : Int)
  | block (c : Nat) (slotId : Int)
  | wait (c : Nat) (slotId : Int) (ticket : Nat)
  | relock (c : Nat) (slotId : Int) (timedOut : Bool)
  | leave (c : Nat) (ret : EccRet)
  | findControl (kinds : List ControlKind) (slotId : Int) (isReadyToCall : Bool)
  | callControl (kind : ControlKind) (kinds : List ControlKind) (slotId : Int)
    (isReadyToCall : Bool)
  | setLock (c : Nat) (kinds : List ControlKind) (slotId : Int) (isReadyToCall : Bool)
  | setCheck (c : Nat) (kinds : List ControlKind) (slotId : Int) (isReadyToCall : Bool)
  | setReady (c : Nat) (kinds : List ControlKind) (slotId : Int) (isReadyToCall : Bool)
  | setNotify (c : Nat) (kinds : List ControlKind) (slotId : Int) (isReadyToCall : Bool)
  | setUnlock (c : Nat) (kinds : List ControlKind) (slotId : Int) (isReadyToCall : Bool)
  deriving DecidableEq, Repr

/-- The control whose mutex a thread holds. -/
def Place.holds : Place → Option Nat
  | .check c _ | .block c _ | .leave c _ | .setCheck c _ _ _ | .setReady c _ _ _
  | .setNotify c _ _ _ | .setUnlock c _ _ _ => some c
  | _ => none

/-- What shows: a slot that is set ready under the mutex of a control, or not ready, a
notification, what is returned, and a call through a null control. -/
inductive Trace
  | readied (c : Nat) (slotId : Int)
  | reset (slotId : Int)
  | notified (c : Nat)
  | returned (ret : EccRet)
  | nullControl (kind : ControlKind)
  deriving DecidableEq, Repr

/-- A thread is called, or goes on. -/
inductive Next
  | begin (q : Request)
  | go (a : Answers)
  deriving DecidableEq, Repr

/-- `kinds`, in the order of `CellularCallService::SetReadyToCall`. -/
def allKinds : List ControlKind := [.cs, .ims, .satellite]

/-- An idle thread is called. -/
def beginPlace (slots : Int) : Request → Place
  | .dial kind slotId isEcc =>
    if isValidSlotId slots slotId then
      .getControl kind slotId (isEcc && decide (kind ≠ .satellite)) else .idle
  | .setReadyToCall slotId isReadyToCall =>
    if isValidSlotId slots slotId then .findControl allKinds slotId isReadyToCall else .idle

/-- `SetCsControl` and its like. -/
def putControl (w : ReadyToCall) (kind : ControlKind) (slotId : Int) (c : Option Nat) :
    ReadyToCall :=
  { w with control := Function.update w.control kind (Function.update (w.control kind) slotId c) }

/-- The next step of a thread. -/
def go (w : ReadyToCall) (a : Answers) : Place → ReadyToCall × Place × List Trace
  | .idle => (w, .idle, [])
  | .getControl kind slotId isEcc =>
    match w.control kind slotId with
    | some c => (w, .handleEcc c slotId isEcc, [])
    | none =>
      ({ w with created := w.created + 1 }, .setControl w.created kind slotId isEcc, [])
  | .setControl c kind slotId isEcc =>
    (w.putControl kind slotId (some c), .handleEcc c slotId isEcc, [])
  | .handleEcc c slotId isEcc =>
    if isEcc = false then (w, .idle, [.returned .airplaneModeOn])
    else if a.isAirplaneModeOn then (w, .notReady c slotId a.isActivateSim, [])
    else (w, .activateSim c slotId a.isActivateSim, [])
  | .notReady c slotId isActivateSim =>
    ({ w with ready := Function.update w.ready slotId false },
      .updateRadioOn c slotId isActivateSim, [.reset slotId])
  | .updateRadioOn c slotId isActivateSim =>
    if a.radioUpdated then (w, .activateSim c slotId isActivateSim, [])
    else (w, .idle, [.returned .updateRadioFail])
  | .activateSim c slotId isActivateSim =>
    if isActivateSim || a.simsActivated then (w, .lock c slotId, [])
    else (w, .idle, [.returned .setActiveSimFail])
  | .lock c slotId =>
    if w.locked c then (w, .lock c slotId, [])
    else ({ w with locked := Function.update w.locked c true }, .check c slotId, [])
  | .check c slotId =>
    if w.ready slotId then (w, .leave c .success, []) else (w, .block c slotId, [])
  | .block c slotId =>
    ({ w with locked := Function.update w.locked c false }, .wait c slotId (w.tickets c), [])
  | .wait c slotId ticket =>
    if a.timedOut then (w, .relock c slotId true, [])
    else if ticket < w.tickets c ∨ a.wakes then (w, .relock c slotId false, [])
    else (w, .wait c slotId ticket, [])
  | .relock c slotId timedOut =>
    if w.locked c then (w, .relock c slotId timedOut, [])
    else ({ w with locked := Function.update w.locked c true },
      if timedOut then .leave c .dialFailed else .check c slotId, [])
  | .leave c ret =>
    ({ w with locked := Function.update w.locked c false }, .idle, [.returned ret])
  | .findControl [] _ _ => (w, .idle, [])
  | .findControl (kind :: kinds) slotId isReadyToCall =>
    match w.control kind slotId with
    | some _ => (w, .callControl kind kinds slotId isReadyToCall, [])
    | none => (w, .findControl kinds slotId isReadyToCall, [])
  | .callControl kind kinds slotId isReadyToCall =>
    match w.control kind slotId with
    | some c => (w, .setLock c kinds slotId isReadyToCall, [])
    | none => (w, .idle, [.nullControl kind])
  | .setLock c kinds slotId isReadyToCall =>
    if w.locked c then (w, .setLock c kinds slotId isReadyToCall, [])
    else ({ w with locked := Function.update w.locked c true },
      .setCheck c kinds slotId isReadyToCall, [])
  | .setCheck c kinds slotId isReadyToCall =>
    if w.ready slotId = false ∧ isReadyToCall then
      (w, .setReady c kinds slotId isReadyToCall, [])
    else (w, .setUnlock c kinds slotId isReadyToCall, [])
  | .setReady c kinds slotId isReadyToCall =>
    ({ w with ready := Function.update w.ready slotId isReadyToCall },
      .setNotify c kinds slotId isReadyToCall, [.readied c slotId])
  | .setNotify c kinds slotId isReadyToCall =>
    ({ w with tickets := Function.update w.tickets c (w.tickets c + 1) },
      .setUnlock c kinds slotId isReadyToCall, [.notified c])
  | .setUnlock c kinds slotId isReadyToCall =>
    ({ w with locked := Function.update w.locked c false },
      .findControl kinds slotId isReadyToCall, [])

/-- One step of a thread. -/
def step (slots : Int) (w : ReadyToCall) (p : Place) : Next →
    ReadyToCall × Place × List Trace
  | .begin q => if p = .idle then (w, beginPlace slots q, []) else (w, p, [])
  | .go a => w.go a p

/-- What happens beside the threads: the handler gives a slot a new control, or takes its
control away. -/
inductive Around
  | setControl (kind : ControlKind) (slotId : Int) (present : Bool)
  deriving DecidableEq, Repr

def around (w : ReadyToCall) : Around → ReadyToCall × List Trace
  | .setControl kind slotId present =>
    if present then
      ({ w.putControl kind slotId (some w.created) with created := w.created + 1 }, [])
    else (w.putControl kind slotId none, [])

/-- The threads.  At the start every slot is ready, and there is no control. -/
def threads (slots : Int) : Threads ReadyToCall Place Next Around Trace where
  init := ⟨isValidSlotId slots, fun _ _ => none, 0, fun _ => false, fun _ => 0⟩
  idle := .idle
  step := step slots
  around := around

/-! ## What a step does -/

/-- The control under whose mutex a slot was last set ready, since it was last not
ready. -/
abbrev Readied := Int → Option Nat

def Readied.note (r : Readied) : Trace → Readied
  | .readied c slotId => Function.update r slotId (some c)
  | .reset slotId => Function.update r slotId none
  | _ => r

/-- The four kinds of steps: one that changes neither readiness nor notifications, and
the three that do. -/
inductive Goes (w : ReadyToCall) (p : Place) : ReadyToCall × Place × List Trace → Prop
  | quiet {w' : ReadyToCall} {p' : Place} {out : List Trace} (ready : w'.ready = w.ready)
    (tickets : w'.tickets = w.tickets) (lock : LockStep w.locked p.holds w'.locked p'.holds)
    (out_eq : ∀ r : Readied, out.foldl Readied.note r = r)
    (notify : ∀ c kinds slotId b, p ≠ .setNotify c kinds slotId b)
    (block : ∀ c slotId, p' = .block c slotId → w.ready slotId = false)
    (wait : ∀ c slotId g, p' = .wait c slotId g →
      p = .wait c slotId g ∨ p = .block c slotId ∧ g = w.tickets c) : Goes w p (w', p', out)
  | reset (c : Nat) (slotId : Int) (b : Bool) : p = .notReady c slotId b →
    Goes w p ({ w with ready := Function.update w.ready slotId false },
      .updateRadioOn c slotId b, [.reset slotId])
  | ready (c : Nat) (kinds : List ControlKind) (slotId : Int) (b : Bool) :
    p = .setReady c kinds slotId b →
    Goes w p ({ w with ready := Function.update w.ready slotId b },
      .setNotify c kinds slotId b, [.readied c slotId])
  | notify (c : Nat) (kinds : List ControlKind) (slotId : Int) (b : Bool) :
    p = .setNotify c kinds slotId b →
    Goes w p ({ w with tickets := Function.update w.tickets c (w.tickets c + 1) },
      .setUnlock c kinds slotId b, [.notified c])

section
variable {w : ReadyToCall} {p p' : Place} {out : List Trace}

/-- A thread is about to notify. -/
def Place.notifies : Place → Bool
  | .setNotify _ _ _ _ => true
  | _ => false

/-- A thread waits, or is about to. -/
def Place.waits : Place → Bool
  | .block _ _ | .wait _ _ _ => true
  | _ => false

/-- A step that keeps the locks, and comes to no wait. -/
theorem Goes.keep {w' : ReadyToCall} (hready : w'.ready = w.ready)
    (htickets : w'.tickets = w.tickets) (hlocked : w'.locked = w.locked)
    (hholds : p'.holds = p.holds) (hout : ∀ r : Readied, out.foldl Readied.note r = r)
    (hnotify : p.notifies = false) (hwait : p'.waits = false) : Goes w p (w', p', out) := by
  refine .quiet hready htickets (by rw [hlocked, hholds]; exact .keep) hout ?_ ?_ ?_
  · intro c kinds slotId b h
    rw [h] at hnotify
    cases hnotify
  · intro c slotId h
    rw [h] at hwait
    cases hwait
  · intro c slotId g h
    rw [h] at hwait
    cases hwait

/-- A step that takes the mutex of a control. -/
theorem Goes.acquire {c : Nat} (hfree : ¬w.locked c = true) (hnone : p.holds = none)
    (hholds : p'.holds = some c) (hwait : p'.waits = false) :
    Goes w p ({ w with locked := Function.update w.locked c true }, p', []) := by
  refine .quiet rfl rfl (by rw [hholds]; exact .acquire c (by simpa using hfree) hnone)
    (fun _ => rfl) ?_ ?_ ?_
  · intro c' kinds slotId b h
    rw [h] at hnone
    cases hnone
  · intro c' slotId h
    rw [h] at hwait
    cases hwait
  · intro c' slotId g h
    rw [h] at hwait
    cases hwait

/-- A step that gives it back, and comes to no wait. -/
theorem Goes.release {c : Nat} (hheld : p.holds = some c) (hholds : p'.holds = none)
    (hout : ∀ r : Readied, out.foldl Readied.note r = r) (hnotify : p.notifies = false)
    (hwait : p'.waits = false) :
    Goes w p ({ w with locked := Function.update w.locked c false }, p', out) := by
  refine .quiet rfl rfl (by rw [hholds]; exact .release c hheld) hout ?_ ?_ ?_
  · intro c' kinds slotId b h
    rw [h] at hnotify
    cases hnotify
  · intro c' slotId h
    rw [h] at hwait
    cases hwait
  · intro c' slotId g h
    rw [h] at hwait
    cases hwait

theorem goes_go (w : ReadyToCall) (a : Answers) (p : Place) : Goes w p (w.go a p) := by
  cases p with
  | getControl kind slotId isEcc =>
    simp only [go]
    cases w.control kind slotId <;> exact .keep rfl rfl rfl rfl (fun _ => rfl) rfl rfl
  | notReady c slotId isActivateSim => exact .reset c slotId isActivateSim rfl
  | lock c slotId =>
    simp only [go]
    split
    · exact .keep rfl rfl rfl rfl (fun _ => rfl) rfl rfl
    · next hfree => exact .acquire hfree rfl rfl rfl
  | check c slotId =>
    simp only [go]
    split
    · exact .keep rfl rfl rfl rfl (fun _ => rfl) rfl rfl
    · next hready =>
      refine .quiet rfl rfl .keep (fun _ => rfl) nofun (fun c' slotId' h => ?_) nofun
      cases h
      simpa using hready
  | block c slotId =>
    refine .quiet rfl rfl (.release c rfl) (fun _ => rfl) nofun nofun fun c' slotId' g h => ?_
    cases h
    exact .inr ⟨rfl, rfl⟩
  | wait c slotId ticket =>
    simp only [go]
    split_ifs
    · exact .keep rfl rfl rfl rfl (fun _ => rfl) rfl rfl
    · exact .keep rfl rfl rfl rfl (fun _ => rfl) rfl rfl
    · exact .quiet rfl rfl .keep (fun _ => rfl) nofun nofun fun c' slotId' g h => .inl h
  | relock c slotId timedOut =>
    simp only [go]
    split
    · exact .keep rfl rfl rfl rfl (fun _ => rfl) rfl rfl
    · next hfree => cases timedOut <;> exact .acquire hfree rfl rfl rfl
  | findControl kinds slotId isReadyToCall =>
    cases kinds with
    | nil => exact .keep rfl rfl rfl rfl (fun _ => rfl) rfl rfl
    | cons kind kinds =>
      simp only [go]
      cases w.control kind slotId <;> exact .keep rfl rfl rfl rfl (fun _ => rfl) rfl rfl
  | callControl kind kinds slotId isReadyToCall =>
    simp only [go]
    cases w.control kind slotId <;> exact .keep rfl rfl rfl rfl (fun _ => rfl) rfl rfl
  | setLock c kinds slotId isReadyToCall =>
    simp only [go]
    split
    · exact .keep rfl rfl rfl rfl (fun _ => rfl) rfl rfl
    · next hfree => exact .acquire hfree rfl rfl rfl
  | setReady c kinds slotId isReadyToCall => exact .ready c kinds slotId isReadyToCall rfl
  | setNotify c kinds slotId isReadyToCall => exact .notify c kinds slotId isReadyToCall rfl
  | leave c ret => exact .release rfl rfl (fun _ => rfl) rfl rfl
  | setUnlock c kinds slotId isReadyToCall => exact .release rfl rfl (fun _ => rfl) rfl rfl
  | idle => exact .keep rfl rfl rfl rfl (fun _ => rfl) rfl rfl
  | setControl c kind slotId isEcc => exact .keep rfl rfl rfl rfl (fun _ => rfl) rfl rfl
  | handleEcc c slotId isEcc =>
    simp only [go]
    split_ifs <;> exact .keep rfl rfl rfl rfl (fun _ => rfl) rfl rfl
  | updateRadioOn c slotId isActivateSim =>
    simp only [go]
    split <;> exact .keep rfl rfl rfl rfl (fun _ => rfl) rfl rfl
  | activateSim c slotId isActivateSim =>
    simp only [go]
    split <;> exact .keep rfl rfl rfl rfl (fun _ => rfl) rfl rfl
  | setCheck c kinds slotId isReadyToCall =>
    simp only [go]
    split <;> exact .keep rfl rfl rfl rfl (fun _ => rfl) rfl rfl

/-- A thread that is called while it is not idle goes on as before. -/
theorem goes_step (slots : Int) (w : ReadyToCall) (p : Place) (e : Next) :
    Goes w p (step slots w p e) ∨ step slots w p e = (w, p, []) := by
  cases e with
  | go a => exact .inl (goes_go w a p)
  | begin q =>
    simp only [step]
    split
    · next hidle =>
      subst hidle
      left
      cases q with
      | dial kind slotId isEcc =>
        simp only [beginPlace]
        split <;> exact .keep rfl rfl rfl rfl (fun _ => rfl) rfl rfl
      | setReadyToCall slotId isReadyToCall =>
        simp only [beginPlace]
        split <;> exact .keep rfl rfl rfl rfl (fun _ => rfl) rfl rfl
    · exact .inr rfl

end

/-! ## Waiting -/

/-- Remembers under whose mutex each slot was set ready. -/
def readying (ι : Type) [DecidableEq ι] :
    Monitor (ReadyToCall × (ι → Place)) (Move ι Next Around) Trace Readied where
  init := fun _ => none
  allowed _ _ _ := True
  update r _ _ _ out := out.foldl Readied.note r

instance {ι : Type} [DecidableEq ι] (r : Readied) (s : ReadyToCall × (ι → Place))
    (e : Move ι Next Around) : Decidable ((readying ι).allowed r s e) :=
  isTrue trivial

section
variable {ι : Type} {s : ReadyToCall × (ι → Place)} {r : Readied}

/-- The slot was set ready under a mutex other than that of `c`, or a thread is about to
notify on `c`. -/
def Missed (s : ReadyToCall × (ι → Place)) (r : Readied) (c : Nat) (slotId : Int) : Prop :=
  ∃ c', r slotId = some c' ∧
    (c' = c → ∃ j kinds b, s.2 j = .setNotify c kinds slotId b)

/-- What a thread that waits, or is about to, can rely on: if its slot is ready, and it
was not notified, it was not its control that was told. -/
def Place.Informed (s : ReadyToCall × (ι → Place)) (r : Readied) : Place → Prop
  | .block c slotId => s.1.ready slotId = true → ∃ c', r slotId = some c' ∧ c' ≠ c
  | .wait c slotId g => g ≤ s.1.tickets c ∧
    (g = s.1.tickets c → s.1.ready slotId = true → Missed s r c slotId)
  | _ => True

/-- The mutexes are held by one thread each, and who waits is informed. -/
structure Sound (s : ReadyToCall × (ι → Place)) (r : Readied) : Prop where
  exclusive : Exclusive s.1.locked fun i => (s.2 i).holds
  informed : ∀ i, (s.2 i).Informed s r

/-- What others do to a thread that waits. -/
theorem Sound.other [DecidableEq ι] (h : Sound s r) {i j : ι} (hj : j ≠ i)
    {result : ReadyToCall × Place × List Trace} (hgoes : Goes s.1 (s.2 i) result) :
    (s.2 j).Informed (result.1, Function.update s.2 i result.2.1)
      (result.2.2.foldl Readied.note r) := by
  have hinformed := h.informed j
  have hunique := h.exclusive.unique j i
  -- a thread about to notify is still there, unless it is the one that moves
  have hstays : ∀ {c slotId}, (∀ kinds b, s.2 i ≠ .setNotify c kinds slotId b) →
      (∃ k kinds b, s.2 k = .setNotify c kinds slotId b) →
      ∃ k kinds b, Function.update s.2 i result.2.1 k = .setNotify c kinds slotId b := by
    intro c slotId hnot hexists
    obtain ⟨k, kinds, b, hk⟩ := hexists
    have hki : k ≠ i := fun heq => hnot kinds b (heq ▸ hk)
    exact ⟨k, kinds, b, by rw [Function.update_of_ne hki]; exact hk⟩
  cases hp : s.2 j with
  | block c slotId =>
    rw [hp] at hinformed hunique
    cases hgoes with
    | quiet hready htickets _ hout _ _ _ =>
      intro hready'
      rw [hout]
      exact hinformed (by rw [← hready]; exact hready')
    | reset c' slotId' b hi =>
      intro hready
      by_cases heq : slotId = slotId'
      · simp [heq] at hready
      · simp only [Function.update_of_ne heq] at hready
        simpa [Readied.note, Function.update_of_ne heq] using hinformed hready
    | ready c' kinds slotId' b hi =>
      intro hready
      by_cases heq : slotId = slotId'
      · refine ⟨c', by simp [Readied.note, heq], fun hc => ?_⟩
        exact hj (hunique c rfl (by rw [hi, hc]; rfl))
      · simp only [Function.update_of_ne heq] at hready
        simpa [Readied.note, Function.update_of_ne heq] using hinformed hready
    | notify c' kinds slotId' b hi => exact hinformed
  | wait c slotId g =>
    rw [hp] at hinformed
    obtain ⟨hle, hmissed⟩ := hinformed
    cases hgoes with
    | quiet hready htickets _ hout hnotify _ _ =>
      refine ⟨by rw [htickets]; exact hle, fun hg hready' => ?_⟩
      obtain ⟨c', hc', hsame⟩ := hmissed (by rw [← htickets]; exact hg)
        (by rw [← hready]; exact hready')
      rw [hout]
      exact ⟨c', hc', fun heq => hstays (fun kinds b => hnotify c kinds slotId b) (hsame heq)⟩
    | reset c' slotId' b hi =>
      refine ⟨hle, fun hg hready => ?_⟩
      by_cases heq : slotId = slotId'
      · simp [heq] at hready
      · simp only [Function.update_of_ne heq] at hready
        obtain ⟨c', hc', hsame⟩ := hmissed hg hready
        refine ⟨c', by simpa [Readied.note, Function.update_of_ne heq] using hc', fun hcc => ?_⟩
        exact hstays (fun kinds b => by rw [hi]; exact nofun) (hsame hcc)
    | ready c' kinds slotId' b hi =>
      refine ⟨hle, fun hg hready => ?_⟩
      by_cases heq : slotId = slotId'
      · refine ⟨c', by simp [Readied.note, heq], fun hcc => ⟨i, kinds, b, ?_⟩⟩
        show Function.update s.2 i _ i = _
        rw [Function.update_self, hcc, heq]
      · simp only [Function.update_of_ne heq] at hready
        obtain ⟨c'', hc'', hsame⟩ := hmissed hg hready
        refine ⟨c'', by simpa [Readied.note, Function.update_of_ne heq] using hc'', fun hcc => ?_⟩
        exact hstays (fun kinds b => by rw [hi]; exact nofun) (hsame hcc)
    | notify c' kinds slotId' b hi =>
      by_cases heq : c = c'
      · refine ⟨?_, fun hg => ?_⟩
        · simp only [heq, Function.update_self]
          rw [heq] at hle
          omega
        · simp only [heq, Function.update_self] at hg
          rw [heq] at hle
          omega
      · refine ⟨by simpa only [Function.update_of_ne heq] using hle, fun hg hready => ?_⟩
        simp only [Function.update_of_ne heq] at hg
        obtain ⟨c'', hc'', hsame⟩ := hmissed hg hready
        refine ⟨c'', hc'', fun hcc => hstays (fun kinds b hplace => ?_) (hsame hcc)⟩
        rw [hi] at hplace
        cases hplace
        exact heq rfl
  | _ => trivial

/-- What a thread relies on after its own step. -/
theorem Sound.own [DecidableEq ι] (h : Sound s r) {i : ι}
    {result : ReadyToCall × Place × List Trace} (hgoes : Goes s.1 (s.2 i) result) :
    result.2.1.Informed (result.1, Function.update s.2 i result.2.1)
      (result.2.2.foldl Readied.note r) := by
  have hinformed := h.informed i
  cases hgoes with
  | @quiet w' p' out hready htickets _ hout hnotify hblock hwait =>
    show p'.Informed (w', Function.update s.2 i p') (out.foldl Readied.note r)
    rw [hout]
    cases hp : p' with
    | block c slotId =>
      intro hready'
      rw [show w'.ready slotId = false by rw [hready]; exact hblock c slotId hp] at hready'
      cases hready'
    | wait c slotId g =>
      rcases hwait c slotId g hp with hold | ⟨hold, hg⟩
      · rw [hold] at hinformed
        obtain ⟨hle, hmissed⟩ := hinformed
        refine ⟨by rw [htickets]; exact hle, fun hg hready' => ?_⟩
        obtain ⟨c', hc', hsame⟩ := hmissed (by rw [← htickets]; exact hg)
          (by rw [← hready]; exact hready')
        refine ⟨c', hc', fun heq => ?_⟩
        obtain ⟨k, kinds, b, hk⟩ := hsame heq
        have hki : k ≠ i := by
          intro heq
          rw [heq, hold] at hk
          cases hk
        exact ⟨k, kinds, b, (Function.update_of_ne hki _ _).trans hk⟩
      · rw [hold] at hinformed
        refine ⟨by rw [htickets, hg], fun _ hready' => ?_⟩
        obtain ⟨c', hc', hne⟩ := hinformed (by rw [← hready]; exact hready')
        exact ⟨c', hc', fun heq => absurd heq hne⟩
    | _ => trivial
  | reset c slotId b hi => trivial
  | ready c kinds slotId b hi => trivial
  | notify c kinds slotId b hi => trivial

/-- A step does to the locks what it may. -/
theorem Goes.lockStep {w : ReadyToCall} {p : Place}
    {result : ReadyToCall × Place × List Trace} (hgoes : Goes w p result) :
    LockStep w.locked p.holds result.1.locked result.2.1.holds := by
  cases hgoes with
  | quiet _ _ hlock _ _ _ _ => exact hlock
  | reset c slotId b hi =>
    rw [hi]
    exact .keep
  | ready c kinds slotId b hi =>
    rw [hi]
    exact .keep
  | notify c kinds slotId b hi =>
    rw [hi]
    exact .keep

theorem Sound.thread [DecidableEq ι] (h : Sound s r) (slots : Int) (i : ι) (e : Next) :
    let result := step slots s.1 (s.2 i) e
    Sound (result.1, Function.update s.2 i result.2.1) (result.2.2.foldl Readied.note r) := by
  rcases goes_step slots s.1 (s.2 i) e with hgoes | hsame
  · constructor
    · have hexclusive := h.exclusive.step hgoes.lockStep
      have hcomp : (fun j => (Function.update s.2 i (step slots s.1 (s.2 i) e).2.1 j).holds) =
          Function.update (fun j => (s.2 j).holds) i (step slots s.1 (s.2 i) e).2.1.holds :=
        Function.comp_update Place.holds s.2 i _
      show Exclusive _ fun j => (Function.update s.2 i _ j).holds
      rw [hcomp]
      exact hexclusive
    · intro j
      by_cases hj : j = i
      · rw [hj]
        simp only [Function.update_self]
        exact h.own hgoes
      · simp only [Function.update_of_ne hj]
        exact h.other hj hgoes
  · simp only [hsame, Function.update_eq_self]
    exact h

/-- A control comes or goes: nothing else changes. -/
theorem around_frame (w : ReadyToCall) (a : Around) :
    (w.around a).1.ready = w.ready ∧ (w.around a).1.tickets = w.tickets ∧
      (w.around a).1.locked = w.locked ∧ (w.around a).2 = [] := by
  obtain ⟨kind, slotId, present⟩ := a
  cases present <;> exact ⟨rfl, rfl, rfl, rfl⟩

theorem Place.Informed.of_same {p : Place} (h : p.Informed s r) {w : ReadyToCall}
    (hready : w.ready = s.1.ready) (htickets : w.tickets = s.1.tickets) :
    p.Informed (w, s.2) r := by
  cases p with
  | block c slotId =>
    intro hslot
    exact h (by rw [← hready]; exact hslot)
  | wait c slotId g =>
    refine ⟨by rw [htickets]; exact h.1, fun hg hslot => ?_⟩
    exact h.2 (by rw [← htickets]; exact hg) (by rw [← hready]; exact hslot)
  | _ => trivial

theorem Sound.around (h : Sound s r) (a : Around) :
    Sound ((s.1.around a).1, s.2) ((s.1.around a).2.foldl Readied.note r) := by
  obtain ⟨hready, htickets, hlocked, hout⟩ := around_frame s.1 a
  rw [hout]
  exact ⟨by rw [hlocked]; exact h.exclusive, fun i => (h.informed i).of_same hready htickets⟩

end

/-- On every interleaving, the mutex of a control is held by one thread, and a dial that
waits for a slot that is ready was notified, or was left out: the slot was set ready under
the mutex of another control, or a thread is about to notify. -/
theorem waits_of_run (slots : Int) {ι : Type} [DecidableEq ι] {s : ReadyToCall × (ι → Place)}
    {r : Readied}
    (hrun : Run ((threads slots).machine ι) (readying ι) unconditional s r) :
    (∀ i j c, (s.2 i).holds = some c → (s.2 j).holds = some c → i = j) ∧
    ∀ i c slotId ticket, s.2 i = .wait c slotId ticket → s.1.ready slotId = true →
      ticket < s.1.tickets c ∨ Missed s r c slotId := by
  have hsound : Sound s r := by
    have hstart : Sound ((threads slots).init, fun _ : ι => Place.idle) fun _ => none :=
      ⟨Exclusive.of_none, fun _ => trivial⟩
    refine hrun.invariant (I := Sound) hstart ?_
    intro s r e h _ _
    cases e with
    | thread i e => exact h.thread slots i e
    | around a => exact h.around a
  refine ⟨fun i j c hi hj => hsound.exclusive.unique i j c hi hj, ?_⟩
  intro i c slotId ticket hwait hready
  have hinformed := hsound.informed i
  rw [hwait] at hinformed
  obtain ⟨hle, hmissed⟩ := hinformed
  rcases Nat.lt_or_eq_of_le hle with hlt | heq
  · exact .inl hlt
  · exact .inr (hmissed heq hready)

/-! ## Who is told -/

/-- The first control of a slot, in the order of `SetReadyToCall`. -/
def firstControl (w : ReadyToCall) (slotId : Int) : Option Nat :=
  allKinds.findSome? fun kind => w.control kind slotId

section
variable {slots : Int} {w : ReadyToCall} {slotId : Int} {kind : ControlKind}
  {kinds : List ControlKind} {c : Nat} {b : Bool} {a : Answers}

theorem alone_begin_setReadyToCall (hvalid : isValidSlotId slots slotId = true)
    (es : List Next) :
    (threads slots).alone w .idle (.begin (.setReadyToCall slotId b) :: es) =
      (threads slots).alone w (.findControl allKinds slotId b) es := by
  simp [Threads.alone, threads, step, beginPlace, hvalid]

theorem alone_findControl_nil (n : Nat) :
    (threads slots).alone w (.findControl [] slotId b) (List.replicate n (.go a)) = [] := by
  have hidle : ∀ n, (threads slots).alone w .idle (List.replicate n (.go a)) = [] := by
    intro n
    induction n with
    | zero => rfl
    | succ n ih => exact ih
  cases n with
  | zero => rfl
  | succ n => exact hidle n

/-- There is no control of this kind. -/
theorem alone_findControl_none (hnone : w.control kind slotId = none) (n : Nat) :
    (threads slots).alone w (.findControl (kind :: kinds) slotId b)
        (List.replicate (n + 1) (.go a)) =
      (threads slots).alone w (.findControl kinds slotId b) (List.replicate n (.go a)) := by
  simp [List.replicate_succ, Threads.alone, threads, step, go, hnone]

/-- A control finds its slot ready. -/
theorem alone_findControl_ready (hsome : w.control kind slotId = some c)
    (hfree : w.locked c = false) (hready : w.ready slotId = true) (n : Nat) :
    (threads slots).alone w (.findControl (kind :: kinds) slotId b)
        (List.replicate (n + 5) (.go a)) =
      (threads slots).alone w (.findControl kinds slotId b) (List.replicate n (.go a)) := by
  have hlocked : Function.update w.locked c false = w.locked := by
    rw [← hfree, Function.update_eq_self]
  simp [List.replicate_succ, Threads.alone, threads, step, go, hsome, hfree, hready, hlocked]

/-- A control sets its slot ready, and notifies. -/
theorem alone_findControl_sets (hsome : w.control kind slotId = some c)
    (hfree : w.locked c = false) (hready : w.ready slotId = false) (n : Nat) :
    (threads slots).alone w (.findControl (kind :: kinds) slotId true)
        (List.replicate (n + 7) (.go a)) =
      [.readied c slotId, .notified c] ++
        (threads slots).alone
          { w with
            ready := Function.update w.ready slotId true
            tickets := Function.update w.tickets c (w.tickets c + 1) }
          (.findControl kinds slotId true) (List.replicate n (.go a)) := by
  have hlocked : Function.update w.locked c false = w.locked := by
    rw [← hfree, Function.update_eq_self]
  simp [List.replicate_succ, Threads.alone, threads, step, go, hsome, hfree, hready, hlocked]

end

/-- The rest of the controls of a slot that is ready tell nothing. -/
theorem alone_findControl_of_ready {slots : Int} {w : ReadyToCall} {slotId : Int} {b : Bool}
    {a : Answers} (kinds : List ControlKind)
    (hfree : ∀ kind c, w.control kind slotId = some c → w.locked c = false)
    (hready : w.ready slotId = true) (n : Nat) :
    (threads slots).alone w (.findControl kinds slotId b)
      (List.replicate (n + 5 * kinds.length) (.go a)) = [] := by
  induction kinds generalizing n with
  | nil => exact alone_findControl_nil n
  | cons kind kinds ih =>
    cases hcontrol : w.control kind slotId with
    | none =>
      rw [show n + 5 * (kind :: kinds).length = (n + 4 + 5 * kinds.length) + 1 by
        simp only [List.length_cons]; omega, alone_findControl_none hcontrol]
      exact ih (n + 4)
    | some c =>
      rw [show n + 5 * (kind :: kinds).length = (n + 5 * kinds.length) + 5 by
        simp only [List.length_cons]; omega,
        alone_findControl_ready hcontrol (hfree kind c hcontrol) hready]
      exact ih n

/-- The first control of a slot that is not ready sets it ready; the others find it so. -/
theorem alone_findControl_of_not_ready {slots : Int} {w : ReadyToCall} {slotId : Int}
    {a : Answers} (kinds : List ControlKind)
    (hfree : ∀ kind c, w.control kind slotId = some c → w.locked c = false)
    (hready : w.ready slotId = false) (n : Nat) :
    (threads slots).alone w (.findControl kinds slotId true)
        (List.replicate (n + 2 + 5 * kinds.length) (.go a)) =
      (kinds.findSome? fun kind => w.control kind slotId).elim []
        fun c => [.readied c slotId, .notified c] := by
  induction kinds generalizing n with
  | nil => exact alone_findControl_nil (n + 2)
  | cons kind kinds ih =>
    cases hcontrol : w.control kind slotId with
    | none =>
      rw [show n + 2 + 5 * (kind :: kinds).length = (n + 4 + 2 + 5 * kinds.length) + 1 by
        simp only [List.length_cons]; omega, alone_findControl_none hcontrol, ih (n + 4)]
      simp [hcontrol]
    | some c =>
      have hset : Function.update w.ready slotId true slotId = true := Function.update_self ..
      rw [show n + 2 + 5 * (kind :: kinds).length = (n + 5 * kinds.length) + 7 by
        simp only [List.length_cons]; omega,
        alone_findControl_sets hcontrol (hfree kind c hcontrol) hready,
        alone_findControl_of_ready kinds (w := { w with
          ready := Function.update w.ready slotId true
          tickets := Function.update w.tickets c (w.tickets c + 1) }) hfree hset]
      simp [hcontrol]

/-- A call of `SetReadyToCall` that is not disturbed, from every state: if the slot is not
ready, the first of its controls, in the order CS, IMS, satellite, sets it ready and
notifies who waits there, and no other control notifies; without a control the slot stays
as it is. -/
theorem notifies_of_setReadyToCall (slots : Int) {ι : Type} [DecidableEq ι]
    (s : ReadyToCall × (ι → Place)) (i : ι) (hidle : s.2 i = .idle) (slotId : Int)
    (hvalid : isValidSlotId slots slotId = true)
    (hfree : ∀ kind c, s.1.control kind slotId = some c → s.1.locked c = false) (a : Answers)
    (n : Nat) :
    ((threads slots).machine ι).outputs s
        ((.begin (.setReadyToCall slotId true) :: List.replicate (n + 17) (.go a)).map
          (.thread i)) =
      if s.1.ready slotId then []
      else (firstControl s.1 slotId).elim [] fun c => [.readied c slotId, .notified c] := by
  have hsteps : n + 17 = n + 2 + 5 * allKinds.length := by
    show n + 17 = n + 2 + 5 * 3
    omega
  rw [Threads.outputs_thread, hidle, alone_begin_setReadyToCall hvalid, hsteps]
  cases hready : s.1.ready slotId with
  | true => exact alone_findControl_of_ready allKinds hfree hready (n + 2)
  | false => exact alone_findControl_of_not_ready allKinds hfree hready n

/-! ### A dial that is left out -/

/-- The radio and the SIMs can be switched on, and nobody wakes up without a reason. -/
def Answers.plain : Answers := ⟨true, true, true, true, false, false⟩

/-- Thread `false` dials an emergency number on the IMS control, and waits. -/
def dialsAndWaits : List (Move Bool Next Around) :=
  [.around (.setControl .cs 0 true), .around (.setControl .ims 0 true),
    .thread false (.begin (.dial .ims 0 true))] ++ List.replicate 8 (.thread false (.go .plain))

/-- Thread `true` says that the slot is ready. -/
def saysReady : List (Move Bool Next Around) :=
  .thread true (.begin (.setReadyToCall 0 true)) :: List.replicate 17 (.thread true (.go .plain))

/-- The slot is ready, and the dial waits on: the CS control was told. -/
theorem waits_after_setReadyToCall :
    let s := exec ((threads 2).machine Bool) (readying Bool) ((threads 2).machine Bool).init
      (readying Bool).init (dialsAndWaits ++ saysReady)
    s.1.2 false = .wait 1 0 0 ∧ s.1.1.tickets 1 = 0 ∧ Missed s.1 s.2 1 0 := by
  have hrun := Run.of_admits (M := (threads 2).machine Bool) (H := readying Bool)
    (C := unconditional) (dialsAndWaits ++ saysReady) (by decide)
  have hwaits := (waits_of_run 2 hrun).2 false 1 0 0 (by decide) (by decide)
  exact ⟨by decide, by decide, hwaits.resolve_left (by decide)⟩

/-- The CS control notifies, and the IMS control does not. -/
theorem notifies_of_setReadyToCall_first :
    let s := (exec ((threads 2).machine Bool) (readying Bool) ((threads 2).machine Bool).init
      (readying Bool).init dialsAndWaits).1
    ((threads 2).machine Bool).outputs s saysReady = [.readied 0 0, .notified 0] := by
  intro s
  have hfree : ∀ kind c, s.1.control kind 0 = some c → s.1.locked c = false := by
    intro kind c hc
    cases kind with
    | cs =>
      cases hc
      decide
    | ims =>
      cases hc
      decide
    | satellite => cases hc
  exact notifies_of_setReadyToCall 2 s true (by decide) 0 (by decide) hfree .plain 0

end ReadyToCall

end CellularCall
