import CellularCall.Lib.Threads
import Mathlib.Data.List.Basic

/-!
# The client of the IMS service

`ImsCallClient` is one object for the whole process.  Its requests come from many
threads, and each connects first where there is no proxy; a listener is told when the
IMS service starts and stops, and connects or cleans up.  `clientLock_` makes single
reads and writes of the proxies atomic, and nothing more: `ReConnectService`, the
lookup of the service, the storing of the proxies and the call that follows are steps
of their own, and everything else can come between them.

The IMS service is named by its runs: the first is 0, the next 1, and so on.  A proxy
belongs to one run and is of no use in another.

`World.subscribe` and `World.notify` are what is assumed of the system ability manager,
which is not part of this repository: a subscribed listener is told of the service that
is there already, and then of every start and stop, once and in their order.

* `proxyWatched_of_run`: a proxy whose run is over is one the listener is told of.
* `cleaned_of_nullProxy`: a request finds the null pointer only where a cleaning came
  between its check and its call, and nothing but a cleaning takes the proxy away.
-/

namespace CellularCall

open Lib

/-- The members of `ImsCallClient` that its requests and its listener use.  A proxy is
the number of the run of the service it was got from. -/
structure ImsCallClient where
  imsCoreServiceProxy : Option Nat
  imsCallProxy : Option Nat
  imsCallCallback : Bool
  statusChangeListener : Bool
  deriving DecidableEq

namespace ImsCallClient

/-- `ImsCallClient::IsConnect`. -/
def isConnect (c : ImsCallClient) : Bool := c.imsCallProxy.isSome

/-- `ImsCallClient::Clean`. -/
def clean (c : ImsCallClient) : ImsCallClient :=
  { c with imsCoreServiceProxy := none, imsCallProxy := none, imsCallCallback := false }

/-! ## The programs -/

/-- What a listener is told of a run of the service. -/
inductive SaNotice
  | added (run : Nat)
  | removed (run : Nat)
  deriving DecidableEq

/-- How the platform answers in one step: whether the system ability manager is there,
whether it takes a subscription, whether the service hands out its call object, and
whether it takes the callback. -/
structure Answers where
  manager : Bool
  subscription : Bool
  proxyObject : Bool
  callback : Bool
  deriving DecidableEq

/-- The platform answers. -/
def Answers.all : Answers := ⟨true, true, true, true⟩

/-- Where `GetImsCallProxy` stands: before its check, before the lookup, or before the
proxies of the run it found are stored. -/
inductive GetProxy
  | check
  | lookUp
  | store (run : Nat)
  deriving DecidableEq

/-- Where `ReConnectService` stands. -/
inductive ReConnect
  | check
  | getProxy (p : GetProxy)
  | recheck
  deriving DecidableEq

/-- Where the listener stands.  It takes one notice after the other. -/
inductive Listening
  | idle
  | onAdd (run : Nat)
  | onAddClean (run : Nat)
  | onAddReConnect (run : Nat) (c : ReConnect)
  | onRemove (run : Nat)
  | onRemoveClean (run : Nat)
  deriving DecidableEq

/-- Where another thread stands, the request `ρ` it makes with it. -/
inductive Doing (ρ : Type)
  | idle
  | reConnect (r : ρ) (c : ReConnect)
  | call (r : ρ)
  | init
  | initProxy (p : GetProxy)
  | subscribe
  | getProxy (p : GetProxy)
  | unInit

/-- What a thread begins. -/
inductive Program (ρ : Type)
  | request (r : ρ)
  | init
  | getImsCallProxy
  | unInit

/-- A thread begins a program, or takes the next step of the one it runs. -/
inductive Next (ρ : Type)
  | begin (p : Program ρ)
  | go (a : Answers)

/-- What happens outside the threads: the listener takes a step, and the service starts
and stops. -/
inductive Around
  | listen (a : Answers)
  | start
  | stop

/-- What a program comes to: a request goes to a run of the service, fails with
`TELEPHONY_ERR_IPC_CONNECT_STUB_FAIL`, or is made through the null pointer. -/
inductive Result (ρ : Type)
  | sent (run : Nat) (r : ρ)
  | ipcConnectStubFail (r : ρ)
  | nullProxy (r : ρ)
  | proxy (p : Option Nat)
  deriving DecidableEq

/-- The client and the IMS service.  `runs` counts the runs of the service so far,
`callbacks` lists those that were given a callback, and `notices` are those the
listener has not taken yet. -/
structure World where
  client : ImsCallClient
  service : Option Nat
  runs : Nat
  callbacks : List Nat
  subscribed : Bool
  notices : List SaNotice
  listener : Listening

namespace World

def init : World := ⟨⟨none, none, false, false⟩, none, 0, [], false, [], .idle⟩

/-- `ImsCallClient::Clean`. -/
def clean (w : World) : World := { w with client := w.client.clean }

/-- The end of `ImsCallClient::GetImsCallProxy`, under the lock: the proxies of the run
that was looked up, and the callback (`RegisterImsCallCallback`, whose result is
ignored).  A run that is over hands out no call object. -/
def storeProxy (w : World) (run : Nat) (a : Answers) : World × Option Nat :=
  if w.service = some run ∧ a.proxyObject = true then
    ({ w with
        client := { w.client with
          imsCoreServiceProxy := some run
          imsCallProxy := some run
          imsCallCallback := true }
        callbacks := if a.callback then run :: w.callbacks else w.callbacks }, some run)
  else ({ w with client.imsCoreServiceProxy := some run }, none)

/-- `ImsCallClient::GetImsCallProxy`, one step: where it stands then, or what it
returns. -/
def getImsCallProxy (w : World) (a : Answers) : GetProxy → World × Sum GetProxy (Option Nat)
  | .check =>
    (w, match w.client.imsCallProxy with
      | some run => .inr (some run)
      | none => .inl .lookUp)
  | .lookUp =>
    (w, match a.manager, w.service with
      | true, some run => .inl (.store run)
      | _, _ => .inr none)
  | .store run => ((w.storeProxy run a).1, .inr (w.storeProxy run a).2)

/-- `ImsCallClient::ReConnectService`, one step: where it stands then, or whether it
returns `TELEPHONY_SUCCESS`. -/
def reConnectService (w : World) (a : Answers) : ReConnect → World × Sum ReConnect Bool
  | .check => (w, if w.client.isConnect then .inr true else .inl (.getProxy .check))
  | .getProxy p =>
    ((w.getImsCallProxy a p).1,
      match (w.getImsCallProxy a p).2 with
      | .inl p' => .inl (.getProxy p')
      | .inr _ => .inl .recheck)
  | .recheck => (w, .inr w.client.isConnect)

/-- The subscription of `ImsCallClient::Init`.  The listener is told of a service that
is there already. -/
def subscribe (w : World) (a : Answers) : World :=
  let w := { w with client.statusChangeListener := true }
  if a.manager && a.subscription then
    { w with
      subscribed := true
      notices := w.notices ++ (w.service.map SaNotice.added).toList }
  else w

/-- The listener is told, if it is one. -/
def notify (w : World) (n : SaNotice) : World :=
  if w.subscribed then { w with notices := w.notices ++ [n] } else w

/-- The listener takes a notice, or the next step of `OnAddSystemAbility` and
`OnRemoveSystemAbility`. -/
def listen (w : World) (a : Answers) : World :=
  match w.listener with
  | .idle =>
    match w.notices with
    | [] => w
    | .added run :: rest => { w with notices := rest, listener := .onAdd run }
    | .removed run :: rest => { w with notices := rest, listener := .onRemove run }
  | .onAdd run =>
    { w with listener := if w.client.isConnect then .idle else .onAddClean run }
  | .onAddClean run => { w.clean with listener := .onAddReConnect run .check }
  | .onAddReConnect run c =>
    { (w.reConnectService a c).1 with
      listener :=
        match (w.reConnectService a c).2 with
        | .inl c' => .onAddReConnect run c'
        | .inr _ => .idle }
  | .onRemove run =>
    { w with listener := if w.client.isConnect then .onRemoveClean run else .idle }
  | .onRemoveClean _ => { w.clean with listener := .idle }

/-- The service starts, where it does not run. -/
def start (w : World) : World :=
  match w.service with
  | none => { w with service := some w.runs, runs := w.runs + 1 }.notify (.added w.runs)
  | some _ => w

/-- The service stops. -/
def stop (w : World) : World :=
  match w.service with
  | none => w
  | some run => { w with service := none }.notify (.removed run)

/-- The moves outside the threads. -/
def around (w : World) : Around → World
  | .listen a => w.listen a
  | .start => w.start
  | .stop => w.stop

variable {ρ : Type}

/-- Where a thread stands at the start of a program. -/
def begin : Program ρ → Doing ρ
  | .request r => .reConnect r .check
  | .init => .init
  | .getImsCallProxy => .getProxy .check
  | .unInit => .unInit

/-- One step of a thread.  All requests of the client have one shape: they reconnect,
and call the proxy under the lock. -/
def step (w : World) : Doing ρ → Next ρ → World × Doing ρ × List (Result ρ)
  | .idle, .begin p => (w, begin p, [])
  | .reConnect r c, .go a =>
    ((w.reConnectService a c).1,
      match (w.reConnectService a c).2 with
      | .inl c' => (.reConnect r c', [])
      | .inr true => (.call r, [])
      | .inr false => (.idle, [.ipcConnectStubFail r]))
  | .call r, .go _ =>
    (w, .idle,
      match w.client.imsCallProxy with
      | some run => [.sent run r]
      | none => [.nullProxy r])
  -- a client that is connected already is left without a listener
  | .init, .go _ => (w, if w.client.isConnect then .idle else .initProxy .check, [])
  | .initProxy p, .go a =>
    ((w.getImsCallProxy a p).1,
      match (w.getImsCallProxy a p).2 with
      | .inl p' => (.initProxy p', [])
      | .inr _ => (.subscribe, []))
  | .subscribe, .go a => (w.subscribe a, .idle, [])
  | .getProxy p, .go a =>
    ((w.getImsCallProxy a p).1,
      match (w.getImsCallProxy a p).2 with
      | .inl p' => (.getProxy p', [])
      | .inr proxy => (.idle, [.proxy proxy]))
  | .unInit, .go _ => ({ w.clean with client.statusChangeListener := false }, .idle, [])
  | p, _ => (w, p, [])

end World

/-- The threads that use the client. -/
def threads (ρ : Type) : Threads World (Doing ρ) (Next ρ) Around (Result ρ) where
  init := .init
  idle := .idle
  step := World.step
  around w a := (w.around a, [])

namespace World

/-! ## What connecting does -/

/-- The world but for what is connected is the same, and a proxy that is new is that of
the service. -/
structure Connects (callback : Bool) (w w' : World) : Prop where
  service : w'.service = w.service
  runs : w'.runs = w.runs
  subscribed : w'.subscribed = w.subscribed
  notices : w'.notices = w.notices
  listener : w'.listener = w.listener
  callbacks : ∀ run ∈ w.callbacks, run ∈ w'.callbacks
  proxy : w'.client.imsCallProxy = w.client.imsCallProxy ∨
    ∃ run, w.service = some run ∧ w'.client.imsCallProxy = some run ∧
      (callback = true → run ∈ w'.callbacks)

theorem Connects.refl (callback : Bool) (w : World) : Connects callback w w :=
  ⟨rfl, rfl, rfl, rfl, rfl, fun _ h => h, .inl rfl⟩

theorem connects_storeProxy (w : World) (run : Nat) (a : Answers) :
    Connects a.callback w (w.storeProxy run a).1 := by
  unfold storeProxy
  split
  · next h =>
    refine ⟨rfl, rfl, rfl, rfl, rfl, fun run' hmem => ?_, .inr ⟨run, h.1, rfl, fun hc => ?_⟩⟩
    · show run' ∈ if a.callback then run :: w.callbacks else w.callbacks
      split
      · exact List.mem_cons_of_mem _ hmem
      · exact hmem
    · show run ∈ if a.callback then run :: w.callbacks else w.callbacks
      rw [if_pos hc]
      exact List.mem_cons_self
  · exact ⟨rfl, rfl, rfl, rfl, rfl, fun _ h => h, .inl rfl⟩

theorem connects_getImsCallProxy (w : World) (a : Answers) (p : GetProxy) :
    Connects a.callback w (w.getImsCallProxy a p).1 := by
  cases p with
  | check => exact .refl _ w
  | lookUp => exact .refl _ w
  | store run => exact w.connects_storeProxy run a

theorem connects_reConnectService (w : World) (a : Answers) (c : ReConnect) :
    Connects a.callback w (w.reConnectService a c).1 := by
  cases c with
  | check => exact .refl _ w
  | recheck => exact .refl _ w
  | getProxy p => exact w.connects_getImsCallProxy a p

theorem Connects.proxy_none {callback : Bool} {w w' : World} (h : Connects callback w w')
    (hnone : w'.client.imsCallProxy = none) : w.client.imsCallProxy = none := by
  rcases h.proxy with hsame | ⟨run, -, hnew, -⟩
  · exact hsame ▸ hnone
  · rw [hnew] at hnone
    cases hnone

/-- Where `GetImsCallProxy` goes on. -/
theorem getImsCallProxy_inl {w : World} {a : Answers} {p p' : GetProxy}
    (h : (w.getImsCallProxy a p).2 = .inl p') :
    (p = .check ∧ p' = .lookUp) ∨ p = .lookUp ∧ ∃ run, w.service = some run ∧ p' = .store run := by
  cases p with
  | check =>
    change (match w.client.imsCallProxy with
      | some run => Sum.inr (some run) | none => Sum.inl GetProxy.lookUp) = _ at h
    split at h
    · cases h
    · cases h
      exact .inl ⟨rfl, rfl⟩
  | lookUp =>
    change (match a.manager, w.service with
      | true, some run => Sum.inl (GetProxy.store run) | _, _ => Sum.inr none) = _ at h
    split at h
    · next hservice =>
      cases h
      exact .inr ⟨rfl, _, hservice, rfl⟩
    · cases h
  | store run => cases h

/-- Where `ReConnectService` goes on. -/
theorem reConnectService_inl {w : World} {a : Answers} {c c' : ReConnect}
    (h : (w.reConnectService a c).2 = .inl c') :
    (c = .check ∧ c' = .getProxy .check) ∨ ∃ p, c = .getProxy p ∧
      ((∃ p', (w.getImsCallProxy a p).2 = .inl p' ∧ c' = .getProxy p') ∨
        ∃ proxy, (w.getImsCallProxy a p).2 = .inr proxy ∧ c' = .recheck) := by
  cases c with
  | check =>
    change (if w.client.isConnect then Sum.inr true else .inl (ReConnect.getProxy .check)) = _ at h
    split at h
    · cases h
    · cases h
      exact .inl ⟨rfl, rfl⟩
  | recheck => cases h
  | getProxy p =>
    right
    refine ⟨p, rfl, ?_⟩
    change (match (w.getImsCallProxy a p).2 with
      | .inl p' => Sum.inl (ReConnect.getProxy p') | .inr _ => .inl .recheck) = _ at h
    split at h
    · next p' hp =>
      cases h
      exact .inl ⟨p', hp, rfl⟩
    · next proxy hp =>
      cases h
      exact .inr ⟨proxy, hp, rfl⟩

/-- Where `ReConnectService` returns it has looked at the proxy, and changes nothing. -/
theorem reConnectService_inr {w : World} {a : Answers} {c : ReConnect} {ok : Bool}
    (h : (w.reConnectService a c).2 = .inr ok) :
    (c = .recheck ∨ c = .check ∧ w.client.isConnect = true) ∧ ok = w.client.isConnect ∧
      (w.reConnectService a c).1 = w := by
  cases c with
  | check =>
    change (if w.client.isConnect then Sum.inr true else .inl (ReConnect.getProxy .check)) = _ at h
    split at h
    · next hconnect =>
      cases h
      exact ⟨.inr ⟨rfl, hconnect⟩, hconnect.symm, rfl⟩
    · cases h
  | recheck =>
    cases h
    exact ⟨.inl rfl, rfl, rfl⟩
  | getProxy p =>
    change (match (w.getImsCallProxy a p).2 with
      | .inl p' => Sum.inl (ReConnect.getProxy p') | .inr _ => .inl .recheck) = _ at h
    split at h <;> cases h

/-- Where `GetImsCallProxy` returns. -/
theorem getImsCallProxy_inr {w : World} {a : Answers} {p : GetProxy} {proxy : Option Nat}
    (h : (w.getImsCallProxy a p).2 = .inr proxy) :
    (p = .check ∧ ∃ run, w.client.imsCallProxy = some run) ∨
      (p = .lookUp ∧ (a.manager = true → w.service = none)) ∨ ∃ run, p = .store run := by
  cases p with
  | check =>
    change (match w.client.imsCallProxy with
      | some run => Sum.inr (some run) | none => Sum.inl GetProxy.lookUp) = _ at h
    split at h
    · next run hrun => exact .inl ⟨rfl, run, hrun⟩
    · cases h
  | lookUp =>
    right
    left
    refine ⟨rfl, fun hmanager => ?_⟩
    cases hservice : w.service with
    | none => rfl
    | some run =>
      change (match a.manager, w.service with
        | true, some run => Sum.inl (GetProxy.store run) | _, _ => Sum.inr none) = _ at h
      rw [hmanager, hservice] at h
      cases h
  | store run => exact .inr (.inr ⟨run, rfl⟩)

/-- The listener reconnects, and is done where `ReConnectService` returns. -/
theorem listener_onAddReConnect {w : World} {a : Answers} {run : Nat} {c : ReConnect}
    (hl : w.listener = .onAddReConnect run c) :
    (∃ c', (w.reConnectService a c).2 = .inl c' ∧
      (w.listen a).listener = .onAddReConnect run c') ∨ (w.listen a).listener = .idle := by
  unfold listen
  rw [hl]
  dsimp only
  cases hafter : (w.reConnectService a c).2 with
  | inl c' => exact .inl ⟨c', rfl, rfl⟩
  | inr ok => exact .inr rfl

/-- A thread connects, subscribes or cleans up, and a step that does not go on leaves
everything as it is. -/
theorem step_cases {ρ : Type} (w : World) (p : Doing ρ) (e : Next ρ) :
    (∃ a, e = .go a ∧ Connects a.callback w (w.step p e).1) ∨ (w.step p e).1 = w ∨
      (∃ a, e = .go a ∧ p = .subscribe ∧ (w.step p e).1 = w.subscribe a) ∨
      (p = .unInit ∧ (w.step p e).1 = { w.clean with client.statusChangeListener := false }) := by
  cases e with
  | begin program => cases p <;> exact .inr (.inl rfl)
  | go a =>
    cases p with
    | idle => exact .inr (.inl rfl)
    | call r => exact .inr (.inl rfl)
    | init => exact .inr (.inl rfl)
    | subscribe => exact .inr (.inr (.inl ⟨a, rfl, rfl, rfl⟩))
    | unInit => exact .inr (.inr (.inr ⟨rfl, rfl⟩))
    | reConnect r c => exact .inl ⟨a, rfl, w.connects_reConnectService a c⟩
    | initProxy p => exact .inl ⟨a, rfl, w.connects_getImsCallProxy a p⟩
    | getProxy p => exact .inl ⟨a, rfl, w.connects_getImsCallProxy a p⟩

/-! ## A proxy is watched -/

end World

/-- The notice the listener is busy with. -/
def Listening.handled : Listening → List SaNotice
  | .idle => []
  | .onAdd run => [.added run]
  | .onAddClean run => [.added run]
  | .onAddReConnect run _ => [.added run]
  | .onRemove run => [.removed run]
  | .onRemoveClean run => [.removed run]

namespace World

/-- The notices the listener is not done with, the oldest first. -/
def pending (w : World) : List SaNotice := w.listener.handled ++ w.notices

/-- A proxy is one of the service that runs, or the listener is yet to deal with the
end of its run. -/
def ProxyWatched (w : World) : Prop :=
  ∀ run, w.client.imsCallProxy = some run → w.service = some run ∨ .removed run ∈ w.pending

theorem Connects.pending {callback : Bool} {w w' : World} (h : Connects callback w w') :
    w'.pending = w.pending := by
  show w'.listener.handled ++ w'.notices = w.listener.handled ++ w.notices
  rw [h.listener, h.notices]

theorem Connects.proxyWatched {callback : Bool} {w w' : World} (h : Connects callback w w')
    (hw : w.ProxyWatched) : w'.ProxyWatched := by
  intro run hrun
  rw [h.service, h.pending]
  rcases h.proxy with hsame | ⟨run', hservice, hnew, -⟩
  · exact hw run (hsame ▸ hrun)
  · rw [hnew] at hrun
    exact .inl (hrun ▸ hservice)

theorem proxyWatched_of_none {w : World} (h : w.client.imsCallProxy = none) :
    w.ProxyWatched := by
  intro run hrun
  rw [h] at hrun
  cases hrun

theorem pending_subscribe (w : World) (a : Answers) :
    (w.subscribe a).pending = w.pending ++
      if a.manager && a.subscription then (w.service.map SaNotice.added).toList else [] := by
  unfold subscribe
  dsimp only
  split
  · exact (List.append_assoc _ _ _).symm
  · exact (List.append_nil _).symm

theorem proxyWatched_subscribe {w : World} (a : Answers) (hw : w.ProxyWatched) :
    (w.subscribe a).ProxyWatched := by
  have hproxy : (w.subscribe a).client.imsCallProxy = w.client.imsCallProxy := by
    unfold subscribe
    dsimp only
    split <;> rfl
  have hservice : (w.subscribe a).service = w.service := by
    unfold subscribe
    dsimp only
    split <;> rfl
  intro run hrun
  rw [pending_subscribe, hservice]
  rcases hw run (hproxy ▸ hrun) with h | h
  · exact .inl h
  · exact .inr (List.mem_append_left _ h)

theorem pending_notify (w : World) (n : SaNotice) :
    (w.notify n).pending = w.pending ++ if w.subscribed then [n] else [] := by
  unfold notify
  split
  · exact (List.append_assoc _ _ _).symm
  · exact (List.append_nil _).symm

@[simp] theorem client_notify (w : World) (n : SaNotice) :
    (w.notify n).client = w.client := by
  unfold notify
  split <;> rfl

@[simp] theorem service_notify (w : World) (n : SaNotice) :
    (w.notify n).service = w.service := by
  unfold notify
  split <;> rfl

@[simp] theorem runs_notify (w : World) (n : SaNotice) : (w.notify n).runs = w.runs := by
  unfold notify
  split <;> rfl

@[simp] theorem subscribed_notify (w : World) (n : SaNotice) :
    (w.notify n).subscribed = w.subscribed := by
  unfold notify
  split <;> rfl

@[simp] theorem callbacks_notify (w : World) (n : SaNotice) :
    (w.notify n).callbacks = w.callbacks := by
  unfold notify
  split <;> rfl

@[simp] theorem listener_notify (w : World) (n : SaNotice) :
    (w.notify n).listener = w.listener := by
  unfold notify
  split <;> rfl

/-- The listener connects like any thread, cleans up, or goes from one notice to the
next; it leaves a notice with the proxy gone, with a proxy for a service that was
added, or after it connected. -/
theorem proxyWatched_listen {w : World} (a : Answers) (hw : w.ProxyWatched) :
    (w.listen a).ProxyWatched := by
  obtain ⟨client, service, runs, callbacks, subscribed, notices, listener⟩ := w
  cases listener with
  | idle =>
    cases notices with
    | nil => exact hw
    | cons n rest => cases n <;> exact hw
  | onAdd n =>
    intro run hrun
    rcases hw run hrun with h | h
    · exact .inl h
    · right
      have hmem : SaNotice.removed run ∈ notices := by simpa [pending, Listening.handled] using h
      exact List.mem_append_right _ hmem
  | onAddClean n => exact proxyWatched_of_none rfl
  | onAddReConnect n c =>
    have h := (connects_reConnectService _ a c).proxyWatched hw
    intro run hrun
    rcases h run hrun with hservice | hmem
    · exact .inl hservice
    · right
      rw [(connects_reConnectService _ a c).pending] at hmem
      have hmem : SaNotice.removed run ∈ notices := by
        simpa [pending, Listening.handled] using hmem
      refine List.mem_append_right _ ?_
      show SaNotice.removed run ∈ (reConnectService _ a c).1.notices
      rw [(connects_reConnectService _ a c).notices]
      exact hmem
  | onRemove n =>
    intro run hrun
    rcases hw run hrun with h | h
    · exact .inl h
    · right
      have hconnect : client.isConnect = true := by
        show client.imsCallProxy.isSome = true
        rw [show client.imsCallProxy = some run from hrun]
        rfl
      show SaNotice.removed run ∈
        (if client.isConnect then Listening.onRemoveClean n else .idle).handled ++ notices
      rw [if_pos hconnect]
      exact h
  | onRemoveClean n => exact proxyWatched_of_none rfl

/-- The service stops only while the listener is there to be told, or nothing is
connected. -/
def StopsNoticed (w : World) : Around → Prop
  | .stop => w.subscribed = true ∨ w.client.imsCallProxy = none
  | _ => True

instance (w : World) : ∀ e, Decidable (w.StopsNoticed e)
  | .stop => inferInstanceAs (Decidable (_ ∨ _))
  | .listen _ => isTrue trivial
  | .start => isTrue trivial

theorem proxyWatched_start {w : World} (hw : w.ProxyWatched) : w.start.ProxyWatched := by
  unfold start
  split
  · next hservice =>
    intro run hrun
    rw [client_notify] at hrun
    rw [pending_notify]
    rcases hw run hrun with h | h
    · rw [hservice] at h
      cases h
    · exact .inr (List.mem_append_left _ h)
  · exact hw

theorem proxyWatched_stop {w : World}
    (hnoticed : w.subscribed = true ∨ w.client.imsCallProxy = none) (hw : w.ProxyWatched) :
    w.stop.ProxyWatched := by
  unfold stop
  split
  · exact hw
  · next run' hservice =>
    intro run hrun
    rw [client_notify] at hrun
    rw [pending_notify]
    right
    rcases hw run hrun with h | h
    · rcases hnoticed with hsubscribed | hnone
      · rw [hservice] at h
        cases h
        rw [if_pos hsubscribed]
        exact List.mem_append_right _ List.mem_cons_self
      · rw [show w.client.imsCallProxy = some run from hrun] at hnone
        cases hnone
    · exact List.mem_append_left _ h

theorem proxyWatched_around {w : World} {e : Around} (hnoticed : w.StopsNoticed e)
    (hw : w.ProxyWatched) : (w.around e).ProxyWatched := by
  cases e with
  | listen a => exact proxyWatched_listen a hw
  | start => exact proxyWatched_start hw
  | stop => exact proxyWatched_stop hnoticed hw

end World

/-! ## Runs -/

/-- What happened so far: the thread that began `Init`, and the proxy it found. -/
structure Past (ι : Type) where
  initBy : Option ι
  found : Option Nat

variable {ρ ι : Type} [DecidableEq ι]

/-- `Init` is begun once in the life of the process. -/
def once (ρ ι : Type) :
    Monitor (World × (ι → Doing ρ)) (Move ι (Next ρ) Around) (Result ρ) (Past ι) where
  init := ⟨none, none⟩
  allowed h _ e :=
    match e with
    | .thread _ (.begin .init) => h.initBy = none
    | _ => True
  update h s e _ _ :=
    match e with
    | .thread i (.begin .init) =>
      match s.2 i with
      | .idle => { h with initBy := some i }
      | _ => h
    | .thread i (.go _) =>
      match s.2 i with
      | .init => { h with found := s.1.client.imsCallProxy }
      | _ => h
    | _ => h

instance (h : Past ι) (s : World × (ι → Doing ρ)) (e : Move ι (Next ρ) Around) :
    Decidable ((once ρ ι).allowed h s e) :=
  match e with
  | .thread _ (.begin .init) => inferInstanceAs (Decidable (h.initBy = none))
  | .thread _ (.begin (.request _)) => isTrue trivial
  | .thread _ (.begin .getImsCallProxy) => isTrue trivial
  | .thread _ (.begin .unInit) => isTrue trivial
  | .thread _ (.go _) => isTrue trivial
  | .around _ => isTrue trivial

/-- The service stops where the listener hears of it. -/
def stopsNoticed (ρ ι : Type) :
    StepCond (World × (ι → Doing ρ)) (Move ι (Next ρ) Around) Unit := fun _ s e =>
  match e with
  | .around e => s.1.StopsNoticed e
  | _ => True

instance (h : Unit) (s : World × (ι → Doing ρ)) (e : Move ι (Next ρ) Around) :
    Decidable (stopsNoticed ρ ι h s e) :=
  match e with
  | .around e => inferInstanceAs (Decidable (s.1.StopsNoticed e))
  | .thread _ _ => isTrue trivial

/-- Whatever the order of steps, a proxy whose run is over is one whose end the
listener is told of, or busy with. -/
theorem proxyWatched_of_run {s : World × (ι → Doing ρ)} {h : Unit}
    (hrun : Run ((threads ρ).machine ι) .free (stopsNoticed ρ ι) s h) :
    s.1.ProxyWatched := by
  refine Threads.invariant_memory (I := fun w _ => w.ProxyWatched)
    (World.proxyWatched_of_none rfl) (fun s _ i e hw _ _ => ?_) (fun s _ e hw _ hcond => ?_) hrun
  · rcases s.1.step_cases (s.2 i) e with ⟨a, -, hc⟩ | hsame | ⟨a, -, -, heq⟩ | ⟨-, heq⟩
    · exact hc.proxyWatched hw
    · show (s.1.step (s.2 i) e).1.ProxyWatched
      rw [hsame]
      exact hw
    · show (s.1.step (s.2 i) e).1.ProxyWatched
      rw [heq]
      exact World.proxyWatched_subscribe a hw
    · show (s.1.step (s.2 i) e).1.ProxyWatched
      rw [heq]
      exact World.proxyWatched_of_none rfl
  · exact World.proxyWatched_around hcond hw

/-- The client is initialised while the service runs, and the service stops. -/
def stoppedAfterInit : List (Move Unit (Next Nat) Around) :=
  [.around .start, .thread () (.begin .init), .thread () (.go .all), .thread () (.go .all),
    .thread () (.go .all), .thread () (.go .all), .thread () (.go .all), .around .stop]

theorem proxyWatched_after_stop :
    (exec ((threads Nat).machine Unit) .free ((threads Nat).machine Unit).init ()
      stoppedAfterInit).1.1.ProxyWatched :=
  proxyWatched_of_run (Run.of_admits _ (by decide))

/-! ## Calls through the null pointer -/

@[simp] theorem World.world_begin (w : World) (p : Doing ρ) (q : Program ρ) :
    (w.step p (.begin q)).1 = w := by
  cases p <;> rfl

theorem World.doing_begin (w : World) (p : Doing ρ) (q : Program ρ) :
    (w.step p (.begin q)).2.1 = p ∨ p = .idle ∧ (w.step p (.begin q)).2.1 = World.begin q := by
  cases p with
  | idle => exact .inr ⟨rfl, rfl⟩
  | _ => exact .inl rfl

/-- The thread is in `Init`. -/
def Doing.InInit : Doing ρ → Prop
  | .init => True
  | .initProxy _ => True
  | .subscribe => True
  | _ => False

/-- `Init` goes on where it found no proxy. -/
theorem World.inInit_init {w : World} {a : Answers}
    (h : (w.step (.init : Doing ρ) (.go a)).2.1.InInit) : w.client.imsCallProxy = none := by
  change (if w.client.isConnect then Doing.idle else .initProxy .check : Doing ρ).InInit at h
  split at h
  · cases h
  · next hconnect =>
    rw [isConnect, Bool.not_eq_true, Option.isSome_eq_false_iff, Option.isNone_iff_eq_none]
      at hconnect
    exact hconnect

/-- A thread that goes on stays in `Init` or leaves it, and ends the client only if it
was about to. -/
theorem World.doing_go (w : World) (p : Doing ρ) (a : Answers) :
    ((w.step p (.go a)).2.1.InInit → p.InInit ∧ p ≠ .subscribe) ∧
      (p ≠ .unInit → (w.step p (.go a)).2.1 ≠ .unInit) := by
  cases p with
  | idle => exact ⟨nofun, nofun⟩
  | call r => exact ⟨nofun, nofun⟩
  | subscribe => exact ⟨nofun, nofun⟩
  | unInit => exact ⟨nofun, fun h => absurd rfl h⟩
  | init =>
    refine ⟨fun _ => ⟨trivial, nofun⟩, fun _ => ?_⟩
    show (if w.client.isConnect then Doing.idle else .initProxy .check) ≠ .unInit
    split <;> exact nofun
  | reConnect r c =>
    show ((match (w.reConnectService a c).2 with | .inl _ => _ | .inr true => _ | .inr false => _ :
      Doing ρ × List (Result ρ)).1.InInit → _) ∧ (_ → (match (w.reConnectService a c).2 with
        | .inl _ => _ | .inr true => _ | .inr false => _ : Doing ρ × List (Result ρ)).1 ≠ _)
    split <;> exact ⟨nofun, nofun⟩
  | initProxy p =>
    refine ⟨fun _ => ⟨trivial, nofun⟩, fun _ => ?_⟩
    show (match (w.getImsCallProxy a p).2 with | .inl _ => _ | .inr _ => _ :
      Doing ρ × List (Result ρ)).1 ≠ _
    split <;> exact nofun
  | getProxy p =>
    show ((match (w.getImsCallProxy a p).2 with | .inl _ => _ | .inr _ => _ :
      Doing ρ × List (Result ρ)).1.InInit → _) ∧ (_ → (match (w.getImsCallProxy a p).2 with
        | .inl _ => _ | .inr _ => _ : Doing ρ × List (Result ρ)).1 ≠ _)
    split <;> exact ⟨nofun, nofun⟩

/-- The next step is `Clean`. -/
def Listening.cleans : Listening → Bool
  | .onAddClean _ => true
  | .onRemoveClean _ => true
  | _ => false

def Doing.cleans : Doing ρ → Bool
  | .unInit => true
  | _ => false

/-- The next step calls the proxy. -/
def Doing.calls : Doing ρ → Bool
  | .call _ => true
  | _ => false

/-- The threads for which `Clean` ran since they last passed the check of
`ReConnectService`. -/
def cleanings (ρ ι : Type) [DecidableEq ι] :
    Monitor (World × (ι → Doing ρ)) (Move ι (Next ρ) Around) (Result ρ) (ι → Bool) where
  init := fun _ => false
  allowed _ _ _ := True
  update h s e s' _ :=
    match e with
    | .around (.listen _) => if s.1.listener.cleans then fun _ => true else h
    | .thread i (.go _) =>
      if (s.2 i).cleans then fun _ => true
      else if (s'.2 i).calls then Function.update h i false
      else h
    | _ => h

instance (h : ι → Bool) (s : World × (ι → Doing ρ)) (e : Move ι (Next ρ) Around) :
    Decidable ((cleanings ρ ι).allowed h s e) := isTrue trivial

/-- A thread that passes the check has seen a proxy. -/
theorem World.isConnect_of_calls {w : World} {p : Doing ρ} {a : Answers}
    (h : (w.step p (.go a)).2.1.calls = true) :
    (w.step p (.go a)).1.client.imsCallProxy ≠ none := by
  cases p with
  | reConnect r c =>
    change (match (w.reConnectService a c).2 with
      | .inl c' => (.reConnect r c', []) | .inr true => (.call r, [])
      | .inr false => (.idle, [.ipcConnectStubFail r]) : Doing ρ × List (Result ρ)).1.calls = true
      at h
    show (w.reConnectService a c).1.client.imsCallProxy ≠ none
    split at h
    · cases h
    · next hok =>
      obtain ⟨-, hconnect, hsame⟩ := reConnectService_inr hok
      rw [hsame]
      exact Option.isSome_iff_ne_none.mp hconnect.symm
    · cases h
  | init =>
    change (if w.client.isConnect then Doing.idle else .initProxy .check).calls = true at h
    split at h <;> cases h
  | initProxy p =>
    change (match (w.getImsCallProxy a p).2 with
      | .inl p' => (.initProxy p', []) | .inr _ => (.subscribe, []) :
      Doing ρ × List (Result ρ)).1.calls = true at h
    split at h <;> cases h
  | getProxy p =>
    change (match (w.getImsCallProxy a p).2 with
      | .inl p' => (.getProxy p', []) | .inr proxy => (.idle, [.proxy proxy]) :
      Doing ρ × List (Result ρ)).1.calls = true at h
    split at h <;> cases h
  | _ => cases h

/-- Only `Clean` takes a proxy away. -/
theorem World.proxy_none_of_step {w : World} {p : Doing ρ} {e : Next ρ}
    (hclean : p.cleans = false) (hnone : (w.step p e).1.client.imsCallProxy = none) :
    w.client.imsCallProxy = none := by
  rcases w.step_cases p e with ⟨a, -, hc⟩ | hsame | ⟨a, -, -, heq⟩ | ⟨hp, -⟩
  · exact hc.proxy_none hnone
  · exact hsame ▸ hnone
  · rw [heq] at hnone
    unfold World.subscribe at hnone
    dsimp only at hnone
    split at hnone <;> exact hnone
  · rw [hp] at hclean
    cases hclean

theorem World.proxy_none_of_around {w : World} {e : Around}
    (hclean : ∀ a, e = .listen a → w.listener.cleans = false)
    (hnone : (w.around e).client.imsCallProxy = none) : w.client.imsCallProxy = none := by
  cases e with
  | start =>
    change w.start.client.imsCallProxy = none at hnone
    unfold World.start at hnone
    split at hnone
    · rw [client_notify] at hnone
      exact hnone
    · exact hnone
  | stop =>
    change w.stop.client.imsCallProxy = none at hnone
    unfold World.stop at hnone
    split at hnone
    · exact hnone
    · rw [client_notify] at hnone
      exact hnone
  | listen a =>
    have hclean := hclean a rfl
    change (w.listen a).client.imsCallProxy = none at hnone
    unfold World.listen at hnone
    split at hnone
    · split at hnone <;> exact hnone
    · exact hnone
    · next run hl =>
      rw [hl] at hclean
      cases hclean
    · exact (w.connects_reConnectService a _).proxy_none hnone
    · exact hnone
    · next run hl =>
      rw [hl] at hclean
      cases hclean

theorem World.call_of_nullProxy {w : World} {p : Doing ρ} {a : Answers} {r : ρ}
    (h : Result.nullProxy r ∈ (w.step p (.go a)).2.2) :
    p = .call r ∧ w.client.imsCallProxy = none := by
  cases p with
  | call r' =>
    change Result.nullProxy r ∈ (match w.client.imsCallProxy with
      | some run => [Result.sent run r'] | none => [Result.nullProxy r']) at h
    split at h
    · rw [List.mem_singleton] at h
      cases h
    · next hnone =>
      rw [List.mem_singleton] at h
      cases h
      exact ⟨rfl, hnone⟩
  | reConnect r' c =>
    change Result.nullProxy r ∈ (match (w.reConnectService a c).2 with
      | .inl c' => (.reConnect r' c', []) | .inr true => (.call r', [])
      | .inr false => (.idle, [.ipcConnectStubFail r']) : Doing ρ × List (Result ρ)).2 at h
    split at h
    · cases h
    · cases h
    · rw [List.mem_singleton] at h
      cases h
  | initProxy p =>
    change Result.nullProxy r ∈ (match (w.getImsCallProxy a p).2 with
      | .inl p' => (.initProxy p', []) | .inr _ => (.subscribe, []) :
      Doing ρ × List (Result ρ)).2 at h
    split at h <;> cases h
  | getProxy p =>
    change Result.nullProxy r ∈ (match (w.getImsCallProxy a p).2 with
      | .inl p' => (.getProxy p', []) | .inr proxy => (.idle, [.proxy proxy]) :
      Doing ρ × List (Result ρ)).2 at h
    split at h
    · cases h
    · rw [List.mem_singleton] at h
      cases h
  | _ => cases h

/-- A thread that is about to call finds a proxy, or `Clean` ran. -/
theorem cleaned_of_run {s : World × (ι → Doing ρ)} {h : ι → Bool}
    (hrun : Run ((threads ρ).machine ι) (cleanings ρ ι) unconditional s h) (j : ι)
    (hcalls : (s.2 j).calls = true) (hnone : s.1.client.imsCallProxy = none) : h j = true := by
  have hboth : True ∧ ∀ j, (s.2 j).calls = true → s.1.client.imsCallProxy = none → h j = true := by
    refine Threads.invariant (I := fun _ _ => True)
      (J := fun w h i p => p.calls = true → w.client.imsCallProxy = none → h i = true) trivial
      (fun i h => by cases h) (fun s h i e _ hall _ _ => ⟨trivial, fun hcalls hnone => ?_⟩)
      (fun s h i e j hj _ hall _ _ hcalls hnone => ?_)
      (fun s h e _ hall _ _ => ⟨trivial, fun j hcalls hnone => ?_⟩) hrun
    · cases e with
      | go a => exact absurd hnone (World.isConnect_of_calls hcalls)
      | begin q =>
        change (s.1.step (s.2 i) (.begin q)).2.1.calls = true at hcalls
        change (s.1.step (s.2 i) (.begin q)).1.client.imsCallProxy = none at hnone
        rw [World.world_begin] at hnone
        show h i = true
        rcases s.1.doing_begin (s.2 i) q with heq | ⟨-, heq⟩
        · rw [heq] at hcalls
          exact hall i hcalls hnone
        · rw [heq] at hcalls
          cases q <;> cases hcalls
    · cases hclean : (s.2 i).cleans with
      | true =>
        cases e with
        | begin q =>
          change (s.1.step (s.2 i) (.begin q)).1.client.imsCallProxy = none at hnone
          rw [World.world_begin] at hnone
          exact hall j hcalls hnone
        | go a =>
          show (if (s.2 i).cleans then fun _ => true else _ : ι → Bool) j = true
          rw [hclean]
          rfl
      | false =>
        have hj' := hall j hcalls (World.proxy_none_of_step hclean hnone)
        cases e with
        | begin q => exact hj'
        | go a =>
          show (if (s.2 i).cleans then fun _ => true
            else if _ then Function.update h i false else h : ι → Bool) j = true
          rw [hclean, if_neg Bool.false_ne_true]
          split
          · rw [Function.update_of_ne hj]
            exact hj'
          · exact hj'
    · cases hclean : s.1.listener.cleans with
      | true =>
        cases e with
        | listen a =>
          show (if s.1.listener.cleans then fun _ => true else h : ι → Bool) j = true
          rw [hclean]
          rfl
        | start =>
          refine hall j hcalls (World.proxy_none_of_around (e := .start) (fun _ h => ?_) hnone)
          cases h
        | stop =>
          refine hall j hcalls (World.proxy_none_of_around (e := .stop) (fun _ h => ?_) hnone)
          cases h
      | false =>
        have hj' := hall j hcalls (World.proxy_none_of_around (fun _ _ => hclean) hnone)
        cases e with
        | listen a =>
          show (if s.1.listener.cleans then fun _ => true else h : ι → Bool) j = true
          rw [hclean]
          exact hj'
        | start => exact hj'
        | stop => exact hj'
  exact hboth.2 j hcalls hnone

/-- The step of a thread or of the listener is `Clean`. -/
def IsCleaning (s : World × (ι → Doing ρ)) : Move ι (Next ρ) Around → Prop
  | .thread i (.go _) => (s.2 i).cleans = true
  | .around (.listen _) => s.1.listener.cleans = true
  | _ => False

/-- Whatever a step is that takes the proxy away, it is `Clean`. -/
theorem isCleaning_of_proxy_none {s : World × (ι → Doing ρ)} {e : Move ι (Next ρ) Around}
    (hsome : s.1.client.imsCallProxy ≠ none)
    (hnone : (((threads ρ).machine ι).step s e).1.1.client.imsCallProxy = none) :
    IsCleaning s e := by
  cases e with
  | thread i e =>
    change (s.1.step (s.2 i) e).1.client.imsCallProxy = none at hnone
    cases e with
    | begin q =>
      rw [World.world_begin] at hnone
      exact absurd hnone hsome
    | go a =>
      by_contra hclean
      exact hsome (World.proxy_none_of_step (Bool.eq_false_iff.mpr hclean) hnone)
  | around e =>
    change (s.1.around e).client.imsCallProxy = none at hnone
    cases e with
    | listen a =>
      by_contra hclean
      exact hsome (World.proxy_none_of_around (fun _ _ => Bool.eq_false_iff.mpr hclean) hnone)
    | start =>
      refine absurd (World.proxy_none_of_around (fun _ h => ?_) hnone) hsome
      cases h
    | stop =>
      refine absurd (World.proxy_none_of_around (fun _ h => ?_) hnone) hsome
      cases h

/-- Whatever the order of steps, a request that is made through the null pointer had
passed its check, and `Clean` ran after that; no other step takes the proxy away. -/
theorem cleaned_of_nullProxy {s : World × (ι → Doing ρ)} {h : ι → Bool}
    (hrun : Run ((threads ρ).machine ι) (cleanings ρ ι) unconditional s h) :
    (∀ i r a, Result.nullProxy r ∈ (((threads ρ).machine ι).step s (.thread i (.go a))).2 →
      s.2 i = .call r ∧ h i = true) ∧
    ∀ e, s.1.client.imsCallProxy ≠ none →
      (((threads ρ).machine ι).step s e).1.1.client.imsCallProxy = none → IsCleaning s e := by
  refine ⟨fun i r a hnull => ?_, fun e => isCleaning_of_proxy_none⟩
  obtain ⟨hcall, hnone⟩ := World.call_of_nullProxy hnull
  refine ⟨hcall, cleaned_of_run hrun i ?_ hnone⟩
  rw [hcall]
  rfl

/-- The service starts while a request connects to it.  The listener finds no proxy, and
cleans up after the request has passed its check. -/
def cleanedUnderway : List (Move Bool (Next Nat) Around) :=
  [.thread false (.begin .init), .thread false (.go .all), .thread false (.go .all),
    .thread false (.go .all), .thread false (.go .all), .around .start, .around (.listen .all),
    .around (.listen .all), .thread true (.begin (.request 7)), .thread true (.go .all),
    .thread true (.go .all), .thread true (.go .all), .thread true (.go .all),
    .thread true (.go .all), .around (.listen .all)]

theorem cleaned_of_nullProxy_underway :
    let s := exec ((threads Nat).machine Bool) (cleanings Nat Bool)
      ((threads Nat).machine Bool).init (cleanings Nat Bool).init cleanedUnderway
    s.1.2 true = .call 7 ∧ s.2 true = true :=
  (cleaned_of_nullProxy (Run.of_admits _ (by decide))).1 true 7 .all (by decide)

end ImsCallClient

end CellularCall
