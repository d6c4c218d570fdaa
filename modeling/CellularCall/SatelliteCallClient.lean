import CellularCall.Lib.Threads
import Mathlib.Data.List.Basic

/-!
# The client of the satellite service

`SatelliteCallClient` differs from the client of the IMS service in two ways.  The whole
of `GetSatelliteCallProxy` runs under `mutexProxy_`, so that a lookup and the storing of
the proxies are one step; and the end of the service comes as the death of the object
the proxy was got from, not as a notice that names the service only.  A death takes the
proxy away where it is the one of that object.

`satelliteClient_of_run` says what follows for every order of steps: a proxy whose run is
over is one whose death is under way, a proxy of the service that runs is lost to nothing
but `UnInit`, a request that is not disturbed is served unless a death is under way, and
one that finds the null pointer lost its proxy after its check.

The calls are another matter: `ClearAllCallsInfo` follows every death, whether the
client has a new service by then or not.
-/

namespace CellularCall

open Lib

/-- The members of `SatelliteCallClient`.  A proxy is the number of the run of the
service it was got from. -/
structure SatelliteCallClient where
  satelliteServiceProxy : Option Nat
  satelliteCallProxy : Option Nat
  satelliteCallCallback : Bool
  deriving DecidableEq

namespace SatelliteCallClient

/-- `SatelliteCallClient::IsConnect`. -/
def isConnect (c : SatelliteCallClient) : Bool := c.satelliteCallProxy.isSome

/-- `SatelliteCallClient::Clean`.  The proxy of the service stays. -/
def clean (c : SatelliteCallClient) : SatelliteCallClient :=
  { c with satelliteCallProxy := none, satelliteCallCallback := false }

/-- How the platform answers in one step: whether the system ability manager is there,
whether the object takes the death recipient, and whether it hands out the call
object. -/
structure Answers where
  manager : Bool
  deathRecipient : Bool
  proxyObject : Bool
  deriving DecidableEq

/-- The platform answers. -/
def Answers.all : Answers := ⟨true, true, true⟩

/-- Where `ReConnectService` stands. -/
inductive ReConnect
  | check
  | getProxy
  | recheck
  deriving DecidableEq

/-- Where a thread stands, the request `ρ` it makes with it. -/
inductive Doing (ρ : Type)
  | idle
  | reConnect (r : ρ) (c : ReConnect)
  | call (r : ρ)
  | init
  | initProxy

inductive Program (ρ : Type)
  | request (r : ρ)
  | init

/-- A thread begins a program, or takes the next step of the one it runs. -/
inductive Next (ρ : Type)
  | begin (p : Program ρ)
  | go (a : Answers)

/-- What happens outside the threads.  `died` and `clear` are the two parts of
`OnRemoteDied`, and `unInit` comes when the system ability is removed. -/
inductive Around
  | start
  | stop
  | died (run : Nat)
  | clear
  | unInit
  deriving DecidableEq

/-- What a program comes to, and the clearing of all satellite calls. -/
inductive Result (ρ : Type)
  | sent (run : Nat) (r : ρ)
  | ipcConnectStubFail (r : ρ)
  | nullProxy (r : ρ)
  | clearAllCallsInfo
  deriving DecidableEq

/-- The client and the satellite service.  `recipients` lists the runs that were given a
death recipient, once for each; `deaths` are those `OnRemoteDied` is still to come for,
and `clearing` counts those that have dealt with the proxies and not yet with the
calls. -/
structure World where
  client : SatelliteCallClient
  service : Option Nat
  runs : Nat
  recipients : List Nat
  deaths : List Nat
  clearing : Nat

namespace World

def init : World := ⟨⟨none, none, false⟩, none, 0, [], [], 0⟩

/-- `SatelliteCallClient::GetSatelliteCallProxy`, under the lock. -/
def getSatelliteCallProxy (w : World) (a : Answers) : World :=
  if w.client.isConnect then w
  else
    match a.manager, w.service with
    | true, some run =>
      if a.deathRecipient then
        let w := { w with
          client.satelliteServiceProxy := some run, recipients := run :: w.recipients }
        if a.proxyObject then
          { w with client := ⟨some run, some run, true⟩ }
        else w
      else w
    | _, _ => w

/-- `SatelliteCallClient::RemoveDeathRecipient`: the proxies go where they are those of
the object that died. -/
def removeDeathRecipient (w : World) (run : Nat) : World :=
  if w.client.satelliteServiceProxy = some run then
    { w with client.satelliteServiceProxy := none, client.satelliteCallProxy := none }
  else w

/-- The service starts, where it does not run. -/
def start (w : World) : World :=
  match w.service with
  | none => { w with service := some w.runs, runs := w.runs + 1 }
  | some _ => w

/-- The service stops, and each of its death recipients is told. -/
def stop (w : World) : World :=
  match w.service with
  | none => w
  | some run =>
    { w with
      service := none
      recipients := w.recipients.filter (· ≠ run)
      deaths := w.deaths ++ w.recipients.filter (· = run) }

variable {ρ : Type}

/-- The moves outside the threads. -/
def around (w : World) : Around → World × List (Result ρ)
  | .start => (w.start, [])
  | .stop => (w.stop, [])
  | .died run =>
    if run ∈ w.deaths then
      ({ w with deaths := w.deaths.erase run, clearing := w.clearing + 1 }.removeDeathRecipient
        run, [])
    else (w, [])
  | .clear =>
    if w.clearing = 0 then (w, [])
    else ({ w with clearing := w.clearing - 1 }, [.clearAllCallsInfo])
  | .unInit => ({ w with client := w.client.clean }, [])

def begin : Program ρ → Doing ρ
  | .request r => .reConnect r .check
  | .init => .init

/-- One step of a thread.  `ReConnectService` reads the proxy without the lock before and
after it gets one. -/
def step (w : World) : Doing ρ → Next ρ → World × Doing ρ × List (Result ρ)
  | .idle, .begin p => (w, begin p, [])
  | .reConnect r .check, .go _ =>
    (w, if w.client.isConnect then .call r else .reConnect r .getProxy, [])
  | .reConnect r .getProxy, .go a => (w.getSatelliteCallProxy a, .reConnect r .recheck, [])
  | .reConnect r .recheck, .go _ =>
    (w, if w.client.isConnect then (.call r, []) else (.idle, [.ipcConnectStubFail r]))
  | .call r, .go _ =>
    (w, .idle, [w.client.satelliteCallProxy.elim (.nullProxy r) fun run => .sent run r])
  | .init, .go _ => (w, if w.client.isConnect then .idle else .initProxy, [])
  | .initProxy, .go a => (w.getSatelliteCallProxy a, .idle, [])
  | p, _ => (w, p, [])

end World

/-- The threads that use the client. -/
def threads (ρ : Type) : Threads World (Doing ρ) (Next ρ) Around (Result ρ) where
  init := .init
  idle := .idle
  step := World.step
  around := World.around

/-! ## The proxy and the deaths -/

/-- The call proxy goes with the proxy of the service, whose death the client is told
of: it is of the service that runs, or its death is under way. -/
structure World.Watched (w : World) : Prop where
  last : ∀ run, w.service = some run → run + 1 = w.runs
  ended : ∀ run ∈ w.deaths, run < w.runs ∧ w.service ≠ some run
  paired : ∀ run, w.client.satelliteCallProxy = some run →
    w.client.satelliteServiceProxy = some run
  alive : ∀ run, w.client.satelliteCallProxy = some run → w.service = some run →
    run ∈ w.recipients
  watched : ∀ run, w.client.satelliteCallProxy = some run →
    w.service = some run ∨ run ∈ w.deaths

namespace World

variable {w : World} {a : Answers} {ρ : Type}

/-- A proxy that is there stays. -/
theorem getSatelliteCallProxy_of_isConnect (h : w.client.isConnect = true) :
    w.getSatelliteCallProxy a = w := by
  unfold getSatelliteCallProxy
  rw [if_pos h]

/-- Where there is no proxy, the service that runs is connected, or at most its death
recipient is registered. -/
theorem getSatelliteCallProxy_cases (h : w.client.satelliteCallProxy = none) :
    w.getSatelliteCallProxy a = w ∨ ∃ run, w.service = some run ∧
      (w.getSatelliteCallProxy a = { w with
          client.satelliteServiceProxy := some run, recipients := run :: w.recipients } ∨
        w.getSatelliteCallProxy a = { w with
          client := ⟨some run, some run, true⟩, recipients := run :: w.recipients }) := by
  have hconnect : ¬ w.client.isConnect = true := by
    unfold isConnect
    rw [h]
    exact Bool.false_ne_true
  unfold getSatelliteCallProxy
  rw [if_neg hconnect]
  split
  · next run _ hservice =>
    split
    · right
      refine ⟨run, hservice, ?_⟩
      dsimp only
      split
      · exact .inr rfl
      · exact .inl rfl
    · exact .inl rfl
  · exact .inl rfl

theorem watched_getSatelliteCallProxy (hw : w.Watched) (a : Answers) :
    (w.getSatelliteCallProxy a).Watched := by
  cases hproxy : w.client.satelliteCallProxy with
  | some run =>
    rw [getSatelliteCallProxy_of_isConnect]
    · exact hw
    · unfold isConnect
      rw [hproxy]
      rfl
  | none =>
    rcases getSatelliteCallProxy_cases (a := a) hproxy with h | ⟨run, hservice, h | h⟩
    · rw [h]
      exact hw
    · rw [h]
      refine ⟨hw.last, hw.ended, ?_, ?_, ?_⟩ <;>
      · intro run' hrun'
        rw [show w.client.satelliteCallProxy = some run' from hrun'] at hproxy
        cases hproxy
    · rw [h]
      refine ⟨hw.last, hw.ended, fun run' hrun' => hrun', fun run' hrun' _ => ?_,
        fun run' hrun' => ?_⟩
      · cases hrun'
        exact List.mem_cons_self
      · cases hrun'
        exact .inl hservice

theorem step_world (w : World) (p : Doing ρ) (e : Next ρ) :
    (w.step p e).1 = w ∨ ∃ a, (w.step p e).1 = w.getSatelliteCallProxy a := by
  cases e with
  | begin q =>
    cases p with
    | reConnect r c => cases c <;> exact .inl rfl
    | _ => exact .inl rfl
  | go a =>
    cases p with
    | reConnect r c =>
      cases c with
      | check => exact .inl rfl
      | getProxy => exact .inr ⟨a, rfl⟩
      | recheck => exact .inl rfl
    | initProxy => exact .inr ⟨a, rfl⟩
    | _ => exact .inl rfl

theorem watched_step (hw : w.Watched) (p : Doing ρ) (e : Next ρ) : (w.step p e).1.Watched := by
  rcases w.step_world p e with h | ⟨a, h⟩
  · rw [h]
    exact hw
  · rw [h]
    exact watched_getSatelliteCallProxy hw a

theorem watched_start (hw : w.Watched) : w.start.Watched := by
  unfold start
  split
  · next hservice =>
    refine ⟨fun run hrun => ?_, fun run hrun => ?_, hw.paired, fun run hproxy hrun => ?_,
      fun run hproxy => ?_⟩
    · cases hrun
      rfl
    · have hlt := (hw.ended run hrun).1
      refine ⟨Nat.lt_succ_of_lt hlt, fun heq => ?_⟩
      have hrun' : w.runs = run := Option.some.inj heq
      omega
    · -- a proxy of no service is one whose death is under way, not of the new run
      rcases hw.watched run hproxy with h | h
      · rw [hservice] at h
        cases h
      · have hlt := (hw.ended run h).1
        have hrun' : w.runs = run := Option.some.inj hrun
        omega
    · rcases hw.watched run hproxy with h | h
      · rw [hservice] at h
        cases h
      · exact .inr h
  · exact hw

theorem watched_stop (hw : w.Watched) : w.stop.Watched := by
  unfold stop
  split
  · exact hw
  · next run hservice =>
    have hlast := hw.last run hservice
    refine ⟨nofun, fun run' hrun' => ⟨?_, nofun⟩, hw.paired, nofun, fun run' hproxy => ?_⟩
    · rcases List.mem_append.mp hrun' with h | h
      · exact (hw.ended run' h).1
      · have heq : run' = run := of_decide_eq_true (List.mem_filter.mp h).2
        show run' < w.runs
        omega
    · right
      rcases hw.watched run' hproxy with h | h
      · refine List.mem_append_right _ (List.mem_filter.mpr ⟨hw.alive run' hproxy h, ?_⟩)
        rw [hservice] at h
        cases h
        exact decide_eq_true rfl
      · exact List.mem_append_left _ h

theorem watched_died (hw : w.Watched) (run : Nat) :
    (w.around (ρ := ρ) (.died run)).1.Watched := by
  unfold around
  dsimp only
  split
  · next hmem =>
    unfold removeDeathRecipient
    dsimp only
    split
    · refine ⟨hw.last, fun run' hrun' => hw.ended run' (List.mem_of_mem_erase hrun'), nofun, nofun,
        nofun⟩
    · next hother =>
      refine ⟨hw.last, fun run' hrun' => hw.ended run' (List.mem_of_mem_erase hrun'), hw.paired,
        hw.alive, fun run' hproxy => ?_⟩
      rcases hw.watched run' hproxy with h | h
      · exact .inl h
      · have hne : run' ≠ run := fun heq => hother (heq ▸ hw.paired run' hproxy)
        exact .inr ((List.mem_erase_of_ne hne).mpr h)
  · exact hw

theorem watched_around (hw : w.Watched) (e : Around) : (w.around (ρ := ρ) e).1.Watched := by
  cases e with
  | start => exact watched_start hw
  | stop => exact watched_stop hw
  | died run => exact watched_died hw run
  | clear =>
    unfold around
    dsimp only
    split
    · exact hw
    · exact ⟨hw.last, hw.ended, hw.paired, hw.alive, hw.watched⟩
  | unInit => exact ⟨hw.last, hw.ended, nofun, nofun, nofun⟩

/-- A death takes no proxy of another object. -/
theorem kept_died (hw : w.Watched) {run run' : Nat}
    (hproxy : w.client.satelliteCallProxy = some run') (hne : run' ≠ run) :
    (w.around (ρ := ρ) (.died run)).1.client.satelliteCallProxy = some run' := by
  unfold around
  dsimp only
  split
  · unfold removeDeathRecipient
    dsimp only
    split
    · next hsame =>
      have hpaired := hw.paired run' hproxy
      rw [hsame] at hpaired
      exact absurd (Option.some.inj hpaired).symm hne
    · exact hproxy
  · exact hproxy

/-- The proxy of the service that runs is lost to `UnInit` only. -/
theorem kept_around (hw : w.Watched) {run : Nat}
    (hproxy : w.client.satelliteCallProxy = some run) (hservice : w.service = some run)
    {e : Around} (he : e ≠ .unInit) :
    (w.around (ρ := ρ) e).1.client.satelliteCallProxy = some run := by
  cases e with
  | start =>
    show w.start.client.satelliteCallProxy = some run
    unfold start
    rw [hservice]
    exact hproxy
  | stop =>
    show w.stop.client.satelliteCallProxy = some run
    unfold stop
    rw [hservice]
    exact hproxy
  | clear =>
    unfold around
    dsimp only
    split <;> exact hproxy
  | unInit => exact absurd rfl he
  | died run' =>
    by_cases heq : run = run'
    · -- what died is over, so the service is another
      unfold around
      dsimp only
      split
      · next hmem => exact absurd (heq ▸ hservice) (hw.ended run' hmem).2
      · exact hproxy
    · exact kept_died hw hproxy heq

theorem kept_step {run : Nat} (hproxy : w.client.satelliteCallProxy = some run) (p : Doing ρ)
    (e : Next ρ) : (w.step p e).1.client.satelliteCallProxy = some run := by
  rcases w.step_world p e with h | ⟨a, h⟩
  · rw [h]
    exact hproxy
  · rw [h, getSatelliteCallProxy_of_isConnect]
    · exact hproxy
    · unfold isConnect
      rw [hproxy]
      rfl

end World

/-! ## Requests -/

variable {ρ ι : Type} [DecidableEq ι]

/-- The next step calls the proxy. -/
def Doing.calls : Doing ρ → Bool
  | .call _ => true
  | _ => false

/-- The threads whose proxy was taken since they last passed the check of
`ReConnectService`: by the death of its object, or by `UnInit`. -/
def takings (ρ ι : Type) [DecidableEq ι] :
    Monitor (World × (ι → Doing ρ)) (Move ι (Next ρ) Around) (Result ρ) (ι → Bool) where
  init := fun _ => false
  allowed _ _ _ := True
  update h s e s' _ :=
    match e with
    | .around (.died run) =>
      if s.1.client.satelliteCallProxy = some run then fun _ => true else h
    | .around .unInit => fun _ => true
    | .around _ => h
    | .thread i (.go _) => if (s'.2 i).calls then Function.update h i false else h
    | .thread _ (.begin _) => h

instance (h : ι → Bool) (s : World × (ι → Doing ρ)) (e : Move ι (Next ρ) Around) :
    Decidable ((takings ρ ι).allowed h s e) := isTrue trivial

/-- A thread makes a request, and no other moves meanwhile. -/
def requestAlone (r : ρ) : List (Next ρ) := .begin (.request r) :: List.replicate 5 (.go .all)

/-- What a request comes to: it is sent to the service that runs, or fails for want of
one. -/
def World.answer (w : World) (r : ρ) : Result ρ :=
  w.service.elim (.ipcConnectStubFail r) fun run => .sent run r

/-- What holds of the client, whatever was done before. -/
structure Sound (s : World × (ι → Doing ρ)) (h : ι → Bool) : Prop where
  watched : ∀ run, s.1.client.satelliteCallProxy = some run →
    s.1.service = some run ∨ run ∈ s.1.deaths
  kept : ∀ e run, s.1.client.satelliteCallProxy = some run → s.1.service = some run →
    e ≠ .around .unInit →
    (((threads ρ).machine ι).step s e).1.1.client.satelliteCallProxy = some run
  requested : s.1.deaths = [] → ∀ i, s.2 i = .idle → ∀ r,
    ((threads ρ).machine ι).outputs s ((requestAlone r).map (.thread i)) = [s.1.answer r]
  called : ∀ i r a, Result.nullProxy r ∈ (((threads ρ).machine ι).step s (.thread i (.go a))).2 →
    s.2 i = .call r ∧ h i = true

theorem World.Watched.alone_request {w : World} (hw : w.Watched) (hdeaths : w.deaths = [])
    (r : ρ) : (threads ρ).alone w .idle (requestAlone r) = [w.answer r] := by
  obtain ⟨⟨serviceProxy, callProxy, callback⟩, service, runs, recipients, deaths, clearing⟩ := w
  cases callProxy with
  | some run =>
    rcases hw.watched run rfl with h | h
    · cases h
      rfl
    · cases hdeaths
      cases h
  | none => cases service <;> rfl

theorem World.call_of_nullProxy {w : World} {p : Doing ρ} {a : Answers} {r : ρ}
    (h : Result.nullProxy r ∈ (w.step p (.go a)).2.2) :
    p = .call r ∧ w.client.satelliteCallProxy = none := by
  cases p with
  | call r' =>
    change Result.nullProxy r ∈
      [w.client.satelliteCallProxy.elim (.nullProxy r') fun run => .sent run r'] at h
    rw [List.mem_singleton] at h
    cases hproxy : w.client.satelliteCallProxy with
    | some run =>
      rw [hproxy] at h
      cases h
    | none =>
      rw [hproxy] at h
      cases h
      exact ⟨rfl, rfl⟩
  | reConnect r' c =>
    cases c with
    | check => cases h
    | getProxy => cases h
    | recheck =>
      change Result.nullProxy r ∈ (if w.client.isConnect then (.call r', [])
        else (.idle, [.ipcConnectStubFail r']) : Doing ρ × List (Result ρ)).2 at h
      split at h
      · cases h
      · rw [List.mem_singleton] at h
        cases h
  | _ => cases h

theorem World.isConnect_of_calls {w : World} {p : Doing ρ} {a : Answers}
    (h : (w.step p (.go a)).2.1.calls = true) :
    (w.step p (.go a)).1.client.satelliteCallProxy ≠ none := by
  cases p with
  | reConnect r c =>
    cases c with
    | getProxy => cases h
    | check =>
      change (if w.client.isConnect then Doing.call r else .reConnect r .getProxy).calls = true at h
      show w.client.satelliteCallProxy ≠ none
      split at h
      · next hconnect => exact Option.isSome_iff_ne_none.mp hconnect
      · cases h
    | recheck =>
      change (if w.client.isConnect then (.call r, [])
        else (.idle, [.ipcConnectStubFail r]) : Doing ρ × List (Result ρ)).1.calls = true at h
      show w.client.satelliteCallProxy ≠ none
      split at h
      · next hconnect => exact Option.isSome_iff_ne_none.mp hconnect
      · cases h
  | init =>
    change (if w.client.isConnect then Doing.idle else .initProxy : Doing ρ).calls = true at h
    split at h <;> cases h
  | _ => cases h

/-- A thread never takes a proxy away. -/
theorem World.proxy_none_of_step {w : World} {p : Doing ρ} {e : Next ρ}
    (hnone : (w.step p e).1.client.satelliteCallProxy = none) :
    w.client.satelliteCallProxy = none := by
  cases hproxy : w.client.satelliteCallProxy with
  | none => rfl
  | some run =>
    rw [kept_step hproxy p e] at hnone
    cases hnone

theorem World.doing_begin {w : World} {p : Doing ρ} {q : Program ρ}
    (h : (w.step p (.begin q)).2.1.calls = true) : p.calls = true := by
  cases p with
  | idle => cases q <;> cases h
  | reConnect r c => cases c <;> exact h
  | _ => exact h

/-- Whatever the order of steps, the client of the satellite service is sound. -/
theorem satelliteClient_of_run {s : World × (ι → Doing ρ)} {h : ι → Bool}
    (hrun : Run ((threads ρ).machine ι) (takings ρ ι) unconditional s h) : Sound s h := by
  have hboth : s.1.Watched ∧ ∀ j, (s.2 j).calls = true →
      s.1.client.satelliteCallProxy = none → h j = true := by
    refine Threads.invariant (I := fun w _ => w.Watched)
      (J := fun w h i p => p.calls = true → w.client.satelliteCallProxy = none → h i = true)
      ⟨nofun, nofun, nofun, nofun, nofun⟩ nofun
      (fun s h i e hw hall _ _ => ⟨World.watched_step hw _ _, fun hcalls hnone => ?_⟩)
      (fun s h i e j hj _ hall _ _ hcalls hnone => ?_)
      (fun s h e hw hall _ _ => ⟨World.watched_around hw e, fun j hcalls hnone => ?_⟩) hrun
    · cases e with
      | go a => exact absurd hnone (World.isConnect_of_calls hcalls)
      | begin q => exact hall i (World.doing_begin hcalls) (World.proxy_none_of_step hnone)
    · have hj' := hall j hcalls (World.proxy_none_of_step hnone)
      cases e with
      | begin q => exact hj'
      | go a =>
        show (if _ then Function.update h i false else h : ι → Bool) j = true
        split
        · rw [Function.update_of_ne hj]
          exact hj'
        · exact hj'
    · cases e with
      | unInit => rfl
      | died run =>
        show (if s.1.client.satelliteCallProxy = some run then fun _ => true else h : ι → Bool) j =
          true
        split
        · rfl
        · next hother =>
          refine hall j hcalls ?_
          cases hproxy : s.1.client.satelliteCallProxy with
          | none => rfl
          | some run' =>
            have hne : run' ≠ run := fun heq => hother (heq ▸ hproxy)
            rw [show ((threads ρ).around s.1 (.died run)).1.client.satelliteCallProxy = some run'
              from World.kept_died hw hproxy hne] at hnone
            cases hnone
      | start =>
        refine hall j hcalls ?_
        change s.1.start.client.satelliteCallProxy = none at hnone
        unfold World.start at hnone
        split at hnone <;> exact hnone
      | stop =>
        refine hall j hcalls ?_
        change s.1.stop.client.satelliteCallProxy = none at hnone
        unfold World.stop at hnone
        split at hnone <;> exact hnone
      | clear =>
        refine hall j hcalls ?_
        change (World.around (ρ := ρ) s.1 .clear).1.client.satelliteCallProxy = none at hnone
        unfold World.around at hnone
        dsimp only at hnone
        split at hnone <;> exact hnone
  refine ⟨hboth.1.watched, fun e run hproxy hservice he => ?_, fun hdeaths i hi r => ?_,
    fun i r a hnull => ?_⟩
  · cases e with
    | thread i e => exact World.kept_step hproxy (s.2 i) e
    | around e => exact World.kept_around hboth.1 hproxy hservice fun h => he (by rw [h])
  · rw [Threads.outputs_thread, hi]
    exact hboth.1.alone_request hdeaths r
  · obtain ⟨hcall, hnone⟩ := World.call_of_nullProxy hnull
    refine ⟨hcall, hboth.2 i ?_ hnone⟩
    rw [hcall]
    rfl

/-- A client that has lost its proxy to a death connects to the next run, and the calls are
cleared after that. -/
example :
    let s := exec ((threads Nat).machine Unit) (takings Nat Unit)
      ((threads Nat).machine Unit).init (takings Nat Unit).init
      ([.around .start, .thread () (.begin .init), .thread () (.go .all), .thread () (.go .all),
        .around .stop, .around (.died 0), .around .start, .thread () (.begin .init),
        .thread () (.go .all), .thread () (.go .all)])
    s.1.1.client.satelliteCallProxy = some 1 ∧ s.1.1.clearing = 1 := by
  decide

/-- A request connects, the service restarts, and the death is dealt with while another
request is about to call. -/
def diedUnderway : List (Move Bool (Next Nat) Around) :=
  [.around .start, .thread false (.begin (.request 7)), .thread false (.go .all),
    .thread false (.go .all), .thread false (.go .all), .around .stop, .around .start,
    .around (.died 0)]

theorem satelliteClient_underway :
    let s := exec ((threads Nat).machine Bool) (takings Nat Bool)
      ((threads Nat).machine Bool).init (takings Nat Bool).init diedUnderway
    Sound s.1 s.2 :=
  satelliteClient_of_run (Run.of_admits _ (by decide))

end SatelliteCallClient

end CellularCall
