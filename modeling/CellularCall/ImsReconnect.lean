import CellularCall.ImsCallClient

/-!
# The IMS service comes back

When the IMS service stops and starts again, the listener of `ImsCallClient` drops the
old proxy and gets the new one, while requests connect on their own.  What the listener
is told comes in the order it happened, and that carries the argument: where the start
of a service is pending, nothing later is, and where an end is pending, so is the start
after it.

* `served_of_run`: once the listener is done, and it is after finitely many steps, the
  client is connected to the service as it is, and a request that is not disturbed
  reaches it.
* `deaf_of_run`: a client that is connected when it is initialised gets no listener; it
  keeps a proxy for good, and its requests go to the end of that proxy whether it is
  there or not.
-/

namespace CellularCall

open Lib

namespace ImsCallClient

variable {ρ ι : Type} [DecidableEq ι]

/-! ## The notices come in order -/

/-- When a notice is sent: the starts and stops of the service are counted. -/
def SaNotice.time : SaNotice → Nat
  | .added run => 2 * run
  | .removed run => 2 * run + 1

theorem SaNotice.eq_added_of_time {n : SaNotice} {run : Nat} (h : n.time = 2 * run) :
    n = .added run := by
  cases n with
  | added run' =>
    have hrun : run' = run := by
      change 2 * run' = 2 * run at h
      omega
    rw [hrun]
  | removed run' =>
    change 2 * run' + 1 = 2 * run at h
    omega

namespace World

/-- The time of the next start or stop. -/
def clock (w : World) : Nat :=
  match w.service with
  | none => 2 * w.runs
  | some run => 2 * run + 1

theorem clock_congr {w w' : World} (hservice : w'.service = w.service)
    (hruns : w'.runs = w.runs) : w'.clock = w.clock := by
  unfold clock
  rw [hservice, hruns]

theorem clock_of_service {w : World} {run : Nat} (hservice : w.service = some run) :
    w.clock = 2 * run + 1 := by
  unfold clock
  rw [hservice]

/-- The service is the last of its runs.  What is pending is all that happened since
some moment, in the order it happened. -/
structure Orderly (w : World) : Prop where
  last : ∀ run, w.service = some run → run + 1 = w.runs
  quiet : w.subscribed = false → w.pending = []
  inOrder : ∃ t, t + w.pending.length = w.clock ∧
    w.pending.map SaNotice.time = List.range' t w.pending.length

namespace Orderly

variable {w w' : World} {run : Nat} {n : SaNotice} {rest : List SaNotice}

theorem of_eq (hw : w.Orderly) (hservice : w'.service = w.service) (hruns : w'.runs = w.runs)
    (hsubscribed : w'.subscribed = w.subscribed) (hpending : w'.pending = w.pending) :
    w'.Orderly := by
  have hclock : w'.clock = w.clock := clock_congr hservice hruns
  refine ⟨?_, ?_, ?_⟩
  · rw [hservice, hruns]
    exact hw.last
  · rw [hsubscribed, hpending]
    exact hw.quiet
  · rw [hpending, hclock]
    exact hw.inOrder

theorem tail (hw : w.Orderly) (hpending : w.pending = n :: rest)
    (hservice : w'.service = w.service) (hruns : w'.runs = w.runs)
    (hsubscribed : w'.subscribed = w.subscribed) (hrest : w'.pending = rest) : w'.Orderly := by
  have hclock : w'.clock = w.clock := clock_congr hservice hruns
  refine ⟨?_, fun hfalse => ?_, ?_⟩
  · rw [hservice, hruns]
    exact hw.last
  · have hnil := hw.quiet (hsubscribed ▸ hfalse)
    rw [hpending] at hnil
    cases hnil
  · obtain ⟨t, hlength, htimes⟩ := hw.inOrder
    rw [hpending, List.length_cons] at hlength
    rw [hpending, List.map_cons, List.length_cons, List.range'_succ] at htimes
    refine ⟨t + 1, ?_, ?_⟩
    · rw [hrest, hclock]
      omega
    · rw [hrest]
      exact (List.cons.inj htimes).2

/-- A start or a stop of which the listener is told. -/
theorem notify (hw : w.Orderly) (hpending : w'.pending = w.pending)
    (hsubscribed : w'.subscribed = w.subscribed)
    (hlast : ∀ run, w'.service = some run → run + 1 = w'.runs) (htime : n.time = w.clock)
    (hclock : w'.clock = w.clock + 1) : (w'.notify n).Orderly := by
  have hp := pending_notify w' n
  rw [hpending, hsubscribed] at hp
  have hnow : (w'.notify n).clock = w.clock + 1 := by
    rw [← hclock]
    exact clock_congr (service_notify w' n) (runs_notify w' n)
  have hlast' : ∀ run, (w'.notify n).service = some run → run + 1 = (w'.notify n).runs := by
    rw [service_notify, runs_notify]
    exact hlast
  obtain ⟨t, hlength, htimes⟩ := hw.inOrder
  cases hs : w.subscribed with
  | false =>
    rw [hs, hw.quiet hs] at hp
    refine ⟨hlast', fun _ => hp, w.clock + 1, ?_, ?_⟩
    · rw [hp, hnow]
      rfl
    · rw [hp]
      rfl
  | true =>
    rw [hs, if_pos rfl] at hp
    refine ⟨hlast', fun hfalse => ?_, t, ?_, ?_⟩
    · rw [subscribed_notify, hsubscribed, hs] at hfalse
      cases hfalse
    · rw [hp, hnow, List.length_append]
      show t + (w.pending.length + 1) = w.clock + 1
      omega
    · rw [hp, List.map_append, htimes, List.length_append, List.range'_append_1.symm]
      show _ ++ [n.time] = _ ++ [t + w.pending.length]
      rw [htime, hlength]

theorem time_lt (hw : w.Orderly) (hmem : n ∈ w.pending) : n.time < w.clock := by
  obtain ⟨t, hlength, htimes⟩ := hw.inOrder
  have htime : n.time ∈ w.pending.map SaNotice.time := List.mem_map_of_mem hmem
  rw [htimes, List.mem_range'_1] at htime
  omega

/-- Where anything is pending and the service runs, its start is. -/
theorem added_mem (hw : w.Orderly) (hservice : w.service = some run) (hbusy : w.pending ≠ []) :
    SaNotice.added run ∈ w.pending := by
  obtain ⟨t, hlength, htimes⟩ := hw.inOrder
  have hpos : 0 < w.pending.length := List.length_pos_iff.mpr hbusy
  have hclock : w.clock = 2 * run + 1 := clock_of_service hservice
  have hmem : 2 * run ∈ w.pending.map SaNotice.time := by
    rw [htimes, List.mem_range'_1]
    omega
  obtain ⟨n, hn, htime⟩ := List.mem_map.mp hmem
  exact SaNotice.eq_added_of_time htime ▸ hn

theorem added_mem_rest (hw : w.Orderly) (hservice : w.service = some run)
    (hpending : w.pending = n :: rest) (hne : n ≠ .added run) : SaNotice.added run ∈ rest := by
  have hmem := hw.added_mem hservice (by rw [hpending]; exact List.cons_ne_nil _ _)
  rw [hpending, List.mem_cons] at hmem
  rcases hmem with h | h
  · exact absurd h.symm hne
  · exact h

/-- Nothing comes after the start of the service that runs. -/
theorem rest_nil (hw : w.Orderly) (hservice : w.service = some run)
    (hpending : w.pending = .added run :: rest) : rest = [] := by
  obtain ⟨t, hlength, htimes⟩ := hw.inOrder
  have hclock : w.clock = 2 * run + 1 := clock_of_service hservice
  rw [hpending, List.length_cons, hclock] at hlength
  rw [hpending, List.map_cons, List.length_cons, List.range'_succ] at htimes
  have htime : 2 * run = t := (List.cons.inj htimes).1
  apply List.eq_nil_of_length_eq_zero
  omega

end Orderly

/-! ## The listener restores the connection -/

/-- A proxy is watched, and a service the client is not connected to is one the
listener is yet to hear of.  While the listener reconnects, what it has looked up and
stored is what it was told of, if that still runs.  A connected service has the
client's callback. -/
structure Restoring (w : World) : Prop where
  orderly : w.Orderly
  watched : w.ProxyWatched
  owed : ∀ run, w.subscribed = true → w.service = some run →
    w.client.imsCallProxy = some run ∨ .added run ∈ w.pending
  stored : ∀ run found, w.listener = .onAddReConnect run (.getProxy (.store found)) →
    w.service = some run → found = run
  rechecked : ∀ run, w.listener = .onAddReConnect run .recheck → w.service = some run →
    w.client.imsCallProxy = some run
  callbacks : ∀ run, w.client.imsCallProxy = some run → run ∈ w.callbacks

namespace Restoring

variable {w w' : World} {run : Nat} {n : SaNotice}

/-- Where the listener is busy with the start of the service that runs, no other run is
connected. -/
theorem proxy_eq (hw : w.Restoring) {rest : List SaNotice}
    (hpending : w.pending = .added run :: rest) (hservice : w.service = some run) {found : Nat}
    (hproxy : w.client.imsCallProxy = some found) : found = run := by
  rcases hw.watched found hproxy with h | h
  · exact Option.some.inj (h.symm.trans hservice)
  · rw [hpending, hw.orderly.rest_nil hservice hpending, List.mem_singleton] at h
    cases h

theorem connects (hw : w.Restoring) (h : Connects true w w') : w'.Restoring where
  orderly := hw.orderly.of_eq h.service h.runs h.subscribed h.pending
  watched := h.proxyWatched hw.watched
  owed run hsubscribed hservice := by
    rw [h.subscribed] at hsubscribed
    rw [h.service] at hservice
    rw [h.pending]
    rcases h.proxy with hsame | ⟨found, hfound, hnew, -⟩
    · rw [hsame]
      exact hw.owed run hsubscribed hservice
    · rw [hnew]
      exact .inl (hfound.symm.trans hservice)
  stored run found := by
    rw [h.listener, h.service]
    exact hw.stored run found
  rechecked run hlistener hservice := by
    rw [h.listener] at hlistener
    rw [h.service] at hservice
    rcases h.proxy with hsame | ⟨found, hfound, hnew, -⟩
    · rw [hsame]
      exact hw.rechecked run hlistener hservice
    · rw [hnew]
      exact hfound.symm.trans hservice
  callbacks run hproxy := by
    rcases h.proxy with hsame | ⟨found, hfound, hnew, hcallback⟩
    · exact h.callbacks run (hw.callbacks run (hsame ▸ hproxy))
    · have hrun : found = run := Option.some.inj (hnew.symm.trans hproxy)
      exact hrun ▸ hcallback rfl

/-- The listener goes on with what it is busy with. -/
theorem move (hw : w.Restoring) {l : Listening} (hl : l.handled = w.listener.handled)
    (hstored : ∀ run found, l = .onAddReConnect run (.getProxy (.store found)) →
      w.service = some run → found = run)
    (hrechecked : ∀ run, l = .onAddReConnect run .recheck → w.service = some run →
      w.client.imsCallProxy = some run) :
    ({ w with listener := l } : World).Restoring := by
  have hpending : ({ w with listener := l } : World).pending = w.pending := by
    show l.handled ++ w.notices = w.listener.handled ++ w.notices
    rw [hl]
  refine ⟨hw.orderly.of_eq rfl rfl rfl hpending, ?_, ?_, hstored, hrechecked, hw.callbacks⟩
  · intro run hproxy
    rw [hpending]
    exact hw.watched run hproxy
  · intro run hsubscribed hservice
    rw [hpending]
    exact hw.owed run hsubscribed hservice

/-- The listener is done with a notice: it is connected to the service whose start it
was told of, and to nothing after an end. -/
theorem leave (hw : w.Restoring) (hn : w.listener.handled = [n])
    (hadded : ∀ run, n = .added run → w.service = some run → w.client.imsCallProxy = some run)
    (hremoved : ∀ run, n = .removed run → w.client.imsCallProxy = none) :
    ({ w with listener := .idle } : World).Restoring := by
  have hpending : w.pending = n :: w.notices := by
    show w.listener.handled ++ w.notices = _
    rw [hn]
    rfl
  refine ⟨hw.orderly.tail hpending rfl rfl rfl rfl, ?_, ?_, ?_, ?_, hw.callbacks⟩
  · intro run hproxy
    rcases hw.watched run hproxy with h | h
    · exact .inl h
    · right
      rw [hpending, List.mem_cons] at h
      rcases h with h | h
      · have hnone := hremoved run h.symm
        rw [show w.client.imsCallProxy = some run from hproxy] at hnone
        cases hnone
      · exact h
  · intro run _ hservice
    by_cases hrun : n = .added run
    · exact .inl (hadded run hrun hservice)
    · exact .inr (hw.orderly.added_mem_rest hservice hpending hrun)
  · intro run found h
    cases h
  · intro run h
    cases h

/-- The listener, busy with a notice, cleans up. -/
theorem clean (hw : w.Restoring) (hbusy : w.pending ≠ [])
    (hlistener : ∀ run c, w.listener ≠ .onAddReConnect run c) : w.clean.Restoring where
  orderly := hw.orderly.of_eq rfl rfl rfl rfl
  watched := proxyWatched_of_none rfl
  owed _ _ hservice := .inr (hw.orderly.added_mem hservice hbusy)
  stored run found h := absurd h (hlistener run _)
  rechecked run h := absurd h (hlistener run _)
  callbacks run hproxy := by cases hproxy

end Restoring

/-- `GetImsCallProxy` of a listener that was told of the service that runs returns with
its proxy in place. -/
theorem Restoring.proxy_of_getImsCallProxy {w : World} (hw : w.Restoring) {run : Nat}
    {p : GetProxy} (hlistener : w.listener = .onAddReConnect run (.getProxy p))
    (hservice : w.service = some run) {proxy : Option Nat}
    (h : (w.getImsCallProxy .all p).2 = .inr proxy) :
    (w.getImsCallProxy .all p).1.client.imsCallProxy = some run := by
  have hpending : w.pending = .added run :: w.notices := by
    show w.listener.handled ++ w.notices = _
    rw [hlistener]
    rfl
  rcases getImsCallProxy_inr h with ⟨hp, found, hproxy⟩ | ⟨-, hnone⟩ | ⟨found, hp⟩
  · rw [hp]
    show w.client.imsCallProxy = some run
    rw [hproxy, hw.proxy_eq hpending hservice hproxy]
  · rw [hnone rfl] at hservice
    cases hservice
  · rw [hp] at hlistener ⊢
    have hfound : found = run := hw.stored run found hlistener hservice
    show (w.storeProxy found .all).1.client.imsCallProxy = some run
    unfold storeProxy
    rw [if_pos ⟨hfound ▸ hservice, rfl⟩, hfound]

/-- The reconnection in `OnAddSystemAbility`, one step. -/
theorem restoring_onAddReConnect {w : World} (hw : w.Restoring) {run : Nat} {c : ReConnect}
    (hlistener : w.listener = .onAddReConnect run c) : (w.listen .all).Restoring := by
  have hconnects := w.connects_reConnectService .all c
  have hw' := hw.connects hconnects
  have hlistener' := hconnects.listener.trans hlistener
  have hpending : w.pending = .added run :: w.notices := by
    show w.listener.handled ++ w.notices = _
    rw [hlistener]
    rfl
  unfold listen
  rw [hlistener]
  dsimp only
  cases hafter : (w.reConnectService .all c).2 with
  | inl c' =>
    refine hw'.move (by rw [hlistener']; rfl) (fun run' found h hservice => ?_)
      fun run' h hservice => ?_
    · rw [hconnects.service] at hservice
      cases h
      rcases reConnectService_inl hafter with ⟨-, h⟩ | ⟨p, -, ⟨p', hp, h⟩ | ⟨proxy, -, h⟩⟩
      · cases h
      · cases h
        rcases getImsCallProxy_inl hp with ⟨-, h⟩ | ⟨-, run', hfound, h⟩
        · cases h
        · cases h
          exact Option.some.inj (hfound.symm.trans hservice)
      · cases h
    · rw [hconnects.service] at hservice
      cases h
      rcases reConnectService_inl hafter with ⟨-, h⟩ | ⟨p, hp, ⟨p', -, h⟩ | ⟨proxy, hproxy, -⟩⟩
      · cases h
      · cases h
      · rw [hp] at hlistener ⊢
        exact hw.proxy_of_getImsCallProxy hlistener hservice hproxy
  | inr ok =>
    obtain ⟨hat, -, hsame⟩ := reConnectService_inr hafter
    rw [hsame]
    refine hw.leave (n := .added run) (by rw [hlistener]; rfl) (fun run' hn hservice => ?_)
      fun run' hn => by cases hn
    cases hn
    rcases hat with hc | ⟨-, hconnect⟩
    · exact hw.rechecked run (hlistener.trans (by rw [hc])) hservice
    · obtain ⟨found, hproxy⟩ := Option.isSome_iff_exists.mp hconnect
      rw [hproxy, hw.proxy_eq hpending hservice hproxy]

/-- The listener takes the next notice. -/
theorem Restoring.take {w : World} (hw : w.Restoring) {l : Listening} {rest : List SaNotice}
    (hidle : w.listener = .idle) (hnotices : w.notices = l.handled ++ rest)
    (hl : ∀ run c, l ≠ .onAddReConnect run c) :
    ({ w with notices := rest, listener := l } : World).Restoring := by
  have hpending : ({ w with notices := rest, listener := l } : World).pending = w.pending := by
    show l.handled ++ rest = w.listener.handled ++ w.notices
    rw [hidle, hnotices]
    rfl
  refine ⟨hw.orderly.of_eq rfl rfl rfl hpending, ?_, ?_, fun run found h => absurd h (hl run _),
    fun run h => absurd h (hl run _), hw.callbacks⟩
  · intro run hproxy
    rw [hpending]
    exact hw.watched run hproxy
  · intro run hsubscribed hservice
    rw [hpending]
    exact hw.owed run hsubscribed hservice

theorem restoring_listen {w : World} (hw : w.Restoring) : (w.listen .all).Restoring := by
  cases hl : w.listener with
  | idle =>
    unfold listen
    rw [hl]
    dsimp only
    split
    · exact hw
    · next run rest hnotices => exact hw.take hl hnotices (fun _ _ h => by cases h)
    · next run rest hnotices => exact hw.take hl hnotices (fun _ _ h => by cases h)
  | onAdd run =>
    have hpending : w.pending = .added run :: w.notices := by
      show w.listener.handled ++ w.notices = _
      rw [hl]
      rfl
    unfold listen
    rw [hl]
    dsimp only
    cases hproxy : w.client.imsCallProxy with
    | none =>
      rw [if_neg (by rw [isConnect, hproxy]; exact Bool.false_ne_true)]
      exact hw.move (by rw [hl]; rfl) (fun _ _ h => by cases h) fun _ h => by cases h
    | some found =>
      rw [if_pos (by rw [isConnect, hproxy]; rfl)]
      refine hw.leave (n := .added run) (by rw [hl]; rfl) (fun run' hn hservice => ?_)
        fun _ hn => by cases hn
      cases hn
      rw [hproxy, hw.proxy_eq hpending hservice hproxy]
  | onAddClean run =>
    have hclean := hw.clean (by unfold pending; rw [hl]; exact List.cons_ne_nil _ _)
      (fun _ _ h => by rw [hl] at h; cases h)
    unfold listen
    rw [hl]
    exact hclean.move (by show _ = w.listener.handled; rw [hl]; rfl) (fun _ _ h => by cases h)
      fun _ h => by cases h
  | onAddReConnect run c => exact restoring_onAddReConnect hw hl
  | onRemove run =>
    unfold listen
    rw [hl]
    dsimp only
    split
    · exact hw.move (by rw [hl]; rfl) (fun _ _ h => by cases h) fun _ h => by cases h
    · next hconnect =>
      refine hw.leave (n := .removed run) (by rw [hl]; rfl) (fun _ hn => by cases hn)
        fun _ _ => ?_
      rw [isConnect, Bool.not_eq_true, Option.isSome_eq_false_iff, Option.isNone_iff_eq_none]
        at hconnect
      exact hconnect
  | onRemoveClean run =>
    have hclean := hw.clean (by unfold pending; rw [hl]; exact List.cons_ne_nil _ _)
      (fun _ _ h => by rw [hl] at h; cases h)
    unfold listen
    rw [hl]
    exact hclean.leave (n := .removed run) (by show w.listener.handled = _; rw [hl]; rfl)
      (fun _ hn => by cases hn) fun _ _ => rfl

theorem restoring_start {w : World} (hw : w.Restoring) : w.start.Restoring := by
  have hwatched := proxyWatched_start hw.watched
  unfold start at hwatched ⊢
  split at hwatched
  · next hservice =>
    have hclock : w.clock = 2 * w.runs := by
      unfold clock
      rw [hservice]
    -- what the listener is told of has started already
    have hnew : ∀ c, w.listener ≠ .onAddReConnect w.runs c := by
      intro c hl
      have hmem : SaNotice.added w.runs ∈ w.pending := by
        refine List.mem_append_left _ ?_
        rw [hl]
        exact List.mem_cons_self
      have hlt : 2 * w.runs < w.clock := hw.orderly.time_lt hmem
      omega
    refine ⟨hw.orderly.notify rfl rfl (fun run h => ?_) hclock.symm (by rw [hclock]; rfl),
      hwatched, fun run hsubscribed h => ?_, fun run found hl h => ?_, fun run hl h => ?_,
      fun run h => ?_⟩
    · cases h
      rfl
    · right
      rw [subscribed_notify] at hsubscribed
      rw [service_notify] at h
      rw [pending_notify, if_pos hsubscribed]
      cases h
      exact List.mem_append_right _ List.mem_cons_self
    · rw [listener_notify] at hl
      rw [service_notify] at h
      cases h
      exact absurd hl (hnew _)
    · rw [listener_notify] at hl
      rw [service_notify] at h
      cases h
      exact absurd hl (hnew _)
    · rw [client_notify] at h
      rw [callbacks_notify]
      exact hw.callbacks run h
  · exact hw

theorem restoring_stop {w : World}
    (hnoticed : w.subscribed = true ∨ w.client.imsCallProxy = none) (hw : w.Restoring) :
    w.stop.Restoring := by
  have hwatched := proxyWatched_stop hnoticed hw.watched
  unfold stop at hwatched ⊢
  split at hwatched
  · exact hw
  · next run hservice =>
    have hclock : w.clock = 2 * run + 1 := clock_of_service hservice
    have hruns : run + 1 = w.runs := hw.orderly.last run hservice
    refine ⟨hw.orderly.notify rfl rfl (fun run h => by cases h) hclock.symm ?_, hwatched,
      fun run _ h => ?_, fun run found _ h => ?_, fun run _ h => ?_, fun run h => ?_⟩
    · show 2 * w.runs = w.clock + 1
      omega
    · rw [service_notify] at h
      cases h
    · rw [service_notify] at h
      cases h
    · rw [service_notify] at h
      cases h
    · rw [client_notify] at h
      rw [callbacks_notify]
      exact hw.callbacks run h

theorem restoring_subscribe {w : World} (hw : w.Restoring) (hfirst : w.subscribed = false) :
    (w.subscribe .all).Restoring := by
  have hnil := hw.orderly.quiet hfirst
  have hidle : w.listener.handled = [] := (List.append_eq_nil_iff.mp hnil).1
  have hpending : (w.subscribe .all).pending = (w.service.map SaNotice.added).toList := by
    rw [pending_subscribe, hnil]
    rfl
  refine ⟨⟨hw.orderly.last, (fun h => by cases h), ?_⟩, proxyWatched_subscribe .all hw.watched,
    fun run _ hservice => ?_, fun run found hl => ?_, fun run hl => ?_, hw.callbacks⟩
  · rw [hpending]
    show ∃ t, t + (w.service.map SaNotice.added).toList.length = w.clock ∧ _
    cases hservice : w.service with
    | none => exact ⟨w.clock, rfl, rfl⟩
    | some run => exact ⟨2 * run, (clock_of_service hservice).symm, rfl⟩
  · right
    rw [hpending, show w.service = some run from hservice]
    exact List.mem_cons_self
  · rw [show w.listener = _ from hl] at hidle
    cases hidle
  · rw [show w.listener = _ from hl] at hidle
    cases hidle

theorem restoring_around {w : World} {e : Around} (hnoticed : w.StopsNoticed e)
    (hanswers : ∀ a, e = .listen a → a = .all) (hw : w.Restoring) : (w.around e).Restoring := by
  cases e with
  | listen a =>
    rw [hanswers a rfl]
    exact restoring_listen hw
  | start => exact restoring_start hw
  | stop => exact restoring_stop hnoticed hw

end World

/-! ## Requests that are not disturbed -/

/-- The platform answers, the service stops where the listener hears of it, and the
process goes on. -/
def served (ρ ι : Type) :
    StepCond (World × (ι → Doing ρ)) (Move ι (Next ρ) Around) (Past ι) := fun _ s e =>
  match e with
  | .around (.listen a) => a = .all
  | .around e => s.1.StopsNoticed e
  | .thread _ (.go a) => a = .all
  | .thread _ (.begin .unInit) => False
  | _ => True

instance (h : Past ι) (s : World × (ι → Doing ρ)) (e : Move ι (Next ρ) Around) :
    Decidable (served ρ ι h s e) :=
  match e with
  | .around (.listen a) => instDecidableEqAnswers a .all
  | .around .start => isTrue trivial
  | .around .stop => inferInstanceAs (Decidable (_ ∨ _))
  | .thread _ (.go a) => instDecidableEqAnswers a .all
  | .thread _ (.begin (.request _)) => isTrue trivial
  | .thread _ (.begin .init) => isTrue trivial
  | .thread _ (.begin .getImsCallProxy) => isTrue trivial
  | .thread _ (.begin .unInit) => isFalse id

section Once

omit [DecidableEq ι]

variable {s : World × (ι → Doing ρ)} {h : Past ι} {i : ι} {e : Next ρ}

theorem initBy_next (T : Machine (World × (ι → Doing ρ)) (Move ι (Next ρ) Around) (Result ρ)) :
    ((once ρ ι).next T h s (.thread i e)).initBy = h.initBy ∨
      e = .begin .init ∧ s.2 i = .idle ∧
        ((once ρ ι).next T h s (.thread i e)).initBy = some i := by
  unfold Monitor.next once
  dsimp only
  cases e with
  | go a =>
    left
    dsimp only
    split <;> rfl
  | begin p =>
    cases p with
    | init =>
      dsimp only
      split
      · next hidle => exact .inr ⟨rfl, hidle, rfl⟩
      · exact .inl rfl
    | request r => exact .inl rfl
    | getImsCallProxy => exact .inl rfl
    | unInit => exact .inl rfl

theorem initBy_begin (T : Machine (World × (ι → Doing ρ)) (Move ι (Next ρ) Around) (Result ρ))
    (hidle : s.2 i = .idle) :
    ((once ρ ι).next T h s (.thread i (.begin .init))).initBy = some i := by
  unfold Monitor.next once
  dsimp only
  rw [hidle]

theorem found_next (T : Machine (World × (ι → Doing ρ)) (Move ι (Next ρ) Around) (Result ρ)) :
    ((once ρ ι).next T h s (.thread i e)).found = h.found ∨
      s.2 i = .init ∧ ∃ a, e = .go a ∧
        ((once ρ ι).next T h s (.thread i e)).found = s.1.client.imsCallProxy := by
  unfold Monitor.next once
  dsimp only
  cases e with
  | go a =>
    dsimp only
    split
    · next hinit => exact .inr ⟨hinit, a, rfl, rfl⟩
    · exact .inl rfl
  | begin p =>
    left
    cases p with
    | init =>
      dsimp only
      split <;> rfl
    | request r => rfl
    | getImsCallProxy => rfl
    | unInit => rfl

end Once

/-- `Init` has neither found a proxy nor subscribed. -/
def Past.Undecided (w : World) (h : Past ι) : Prop :=
  w.subscribed = false ∧ h.found = none

/-- The thread does not end the client, and if it is in `Init` it is the one that
initialises it, and that is undecided. -/
def Doing.Initialises (w : World) (h : Past ι) (i : ι) (p : Doing ρ) : Prop :=
  p ≠ .unInit ∧ (p.InInit → h.Undecided w ∧ h.initBy = some i)

theorem World.subscribed_step {w : World} {p : Doing ρ} {e : Next ρ} (hp : p ≠ .subscribe) :
    (w.step p e).1.subscribed = w.subscribed := by
  rcases w.step_cases p e with ⟨a, -, hc⟩ | hsame | ⟨a, -, hsub, -⟩ | ⟨-, heq⟩
  · exact hc.subscribed
  · rw [hsame]
  · exact absurd hsub hp
  · rw [heq]
    rfl

theorem World.subscribed_around (w : World) (e : Around) :
    (w.around e).subscribed = w.subscribed := by
  cases e with
  | start =>
    show w.start.subscribed = _
    unfold World.start
    split
    · exact subscribed_notify _ _
    · rfl
  | stop =>
    show w.stop.subscribed = _
    unfold World.stop
    split
    · rfl
    · exact subscribed_notify _ _
  | listen a =>
    show (w.listen a).subscribed = _
    unfold World.listen
    split
    · split <;> rfl
    · rfl
    · rfl
    · exact (w.connects_reConnectService a _).subscribed
    · rfl
    · rfl

theorem restoring_init : World.init.Restoring := by
  refine ⟨⟨nofun, fun _ => rfl, 0, rfl, rfl⟩, World.proxyWatched_of_none rfl, nofun, nofun, nofun,
    nofun⟩

omit [DecidableEq ι] in
/-- A step of a thread, in a run that is served. -/
theorem restoring_step {w : World} {h : Past ι} {i : ι} {p : Doing ρ} {e : Next ρ}
    (hw : w.Restoring) (hp : p.Initialises w h i) (hanswers : ∀ a, e = .go a → a = .all) :
    (w.step p e).1.Restoring := by
  rcases w.step_cases p e with ⟨a, ha, hc⟩ | hsame | ⟨a, ha, hsub, heq⟩ | ⟨hend, -⟩
  · rw [hanswers a ha] at hc
    exact hw.connects hc
  · rw [hsame]
    exact hw
  · rw [heq, hanswers a ha]
    have hinit : p.InInit := by
      rw [hsub]
      trivial
    exact World.restoring_subscribe hw (hp.2 hinit).1.1
  · exact absurd hend hp.1

/-- The step of a thread leaves it, or another thread, the one that initialises the
client. -/
theorem initialises_step {s : World × (ι → Doing ρ)} {h : Past ι} {i : ι} {e : Next ρ}
    (hfirst : h.initBy = none → h.Undecided s.1)
    (hall : ∀ j, (s.2 j).Initialises s.1 h j)
    (hallowed : (once ρ ι).allowed h s (.thread i e)) (hend : e ≠ .begin .unInit) :
    ((s.1.step (s.2 i) e).2.1.Initialises (s.1.step (s.2 i) e).1
        ((once ρ ι).next ((threads ρ).machine ι) h s (.thread i e)) i) ∧
      ∀ j, j ≠ i → (s.2 j).Initialises (s.1.step (s.2 i) e).1
        ((once ρ ι).next ((threads ρ).machine ι) h s (.thread i e)) j := by
  obtain ⟨hp, hinit⟩ := hall i
  have hfound := found_next (s := s) (h := h) (i := i) (e := e) ((threads ρ).machine ι)
  have hby := initBy_next (s := s) (h := h) (i := i) (e := e) ((threads ρ).machine ι)
  constructor
  · cases e with
    | go a =>
      have hgo := s.1.doing_go (s.2 i) a
      refine ⟨hgo.2 hp, fun hin => ?_⟩
      obtain ⟨hbefore, hsub⟩ := hgo.1 hin
      obtain ⟨hundecided, hi⟩ := hinit hbefore
      refine ⟨⟨(World.subscribed_step hsub).trans hundecided.1, ?_⟩, ?_⟩
      · rcases hfound with heq | ⟨hat, -, -, heq⟩
        · exact heq.trans hundecided.2
        · rw [hat] at hin
          exact heq.trans (World.inInit_init hin)
      · rcases hby with heq | ⟨he, -⟩
        · exact heq.trans hi
        · cases he
    | begin q =>
      have hsame : ((once ρ ι).next ((threads ρ).machine ι) h s (.thread i (.begin q))).found =
          h.found := by
        rcases hfound with heq | ⟨-, a, he, -⟩
        · exact heq
        · cases he
      rcases s.1.doing_begin (s.2 i) q with heq | ⟨hidle, heq⟩
      · rw [heq, World.world_begin]
        refine ⟨hp, fun hin => ?_⟩
        rcases hby with hbefore | ⟨-, hidle, -⟩
        · rw [Past.Undecided, hsame, hbefore]
          exact hinit hin
        · rw [hidle] at hin
          cases hin
      · rw [heq, World.world_begin]
        cases q with
        | init =>
          refine ⟨nofun, fun _ => ⟨?_, initBy_begin _ hidle⟩⟩
          rw [Past.Undecided, hsame]
          exact hfirst hallowed
        | request r => exact ⟨nofun, nofun⟩
        | getImsCallProxy => exact ⟨nofun, nofun⟩
        | unInit => exact absurd rfl hend
  · intro j hj
    refine ⟨(hall j).1, fun hin => ?_⟩
    obtain ⟨hundecided, hjby⟩ := (hall j).2 hin
    -- `Init` is begun once, so the thread that steps is not in it
    have hnot : ¬ (s.2 i).InInit := fun hi =>
      hj (Option.some.inj (hjby.symm.trans (hinit hi).2))
    refine ⟨⟨?_, ?_⟩, ?_⟩
    · rw [World.subscribed_step fun hsub => hnot (by rw [hsub]; trivial)]
      exact hundecided.1
    · rcases hfound with heq | ⟨hat, -⟩
      · exact heq.trans hundecided.2
      · exact absurd (by rw [hat]; trivial) hnot
    · rcases hby with heq | ⟨he, -, -⟩
      · exact heq.trans hjby
      · rw [he] at hallowed
        rw [show h.initBy = none from hallowed] at hjby
        cases hjby

/-- Until `Init` is begun it is undecided. -/
theorem undecided_step {s : World × (ι → Doing ρ)} {h : Past ι} {i : ι} {e : Next ρ}
    (hfirst : h.initBy = none → h.Undecided s.1) (hall : ∀ j, (s.2 j).Initialises s.1 h j)
    (hnone : ((once ρ ι).next ((threads ρ).machine ι) h s (.thread i e)).initBy = none) :
    ((once ρ ι).next ((threads ρ).machine ι) h s (.thread i e)).Undecided
      (s.1.step (s.2 i) e).1 := by
  rcases initBy_next (i := i) (e := e) ((threads ρ).machine ι) with heq | ⟨-, -, heq⟩
  · rw [heq] at hnone
    have hnot : ¬ (s.2 i).InInit := by
      intro hin
      have hi := ((hall i).2 hin).2
      rw [hnone] at hi
      cases hi
    refine ⟨?_, ?_⟩
    · rw [World.subscribed_step fun hsub => hnot (by rw [hsub]; trivial)]
      exact (hfirst hnone).1
    · rcases found_next (i := i) (e := e) ((threads ρ).machine ι) with hsame | ⟨hat, -⟩
      · exact hsame.trans (hfirst hnone).2
      · exact absurd (by rw [hat]; trivial) hnot
  · rw [heq] at hnone
    cases hnone

omit [DecidableEq ι] in
/-- What happens outside the threads leaves the thread that initialises the client. -/
theorem initialises_around {w : World} {h : Past ι} {i : ι} {p : Doing ρ} (e : Around)
    (hp : p.Initialises w h i) : p.Initialises (w.around e) h i := by
  refine ⟨hp.1, fun hin => ?_⟩
  rw [Past.Undecided, World.subscribed_around]
  exact hp.2 hin

theorem restoring_of_run {s : World × (ι → Doing ρ)} {h : Past ι}
    (hrun : Run ((threads ρ).machine ι) (once ρ ι) (served ρ ι) s h) : s.1.Restoring := by
  have hboth : (s.1.Restoring ∧ (h.initBy = none → h.Undecided s.1)) ∧
      ∀ j, (s.2 j).Initialises s.1 h j := by
    have hend : ∀ {s : World × (ι → Doing ρ)} {h i e}, served ρ ι h s (.thread i e) →
        e ≠ .begin .unInit := fun hcond he => by
      rw [he] at hcond
      exact hcond
    refine Threads.invariant
      (I := fun w h => w.Restoring ∧ (h.initBy = none → h.Undecided w))
      (J := fun w h i p => p.Initialises w h i) ⟨restoring_init, fun _ => ⟨rfl, rfl⟩⟩
      (fun i => ⟨nofun, nofun⟩) (fun s h i e hI hJ hallowed hcond => ?_)
      (fun s h i e j hj hI hJ hallowed hcond =>
        (initialises_step hI.2 hJ hallowed (hend hcond)).2 j hj)
      (fun s h e hI hJ _ hcond => ?_) hrun
    · have hanswers : ∀ a, e = .go a → a = .all := fun a ha => by
        rw [ha] at hcond
        exact hcond
      exact ⟨⟨restoring_step hI.1 (hJ i) hanswers, undecided_step hI.2 hJ⟩,
        (initialises_step hI.2 hJ hallowed (hend hcond)).1⟩
    · refine ⟨⟨World.restoring_around ?_ (fun a ha => ?_) hI.1, fun hnone => ?_⟩,
        fun j => initialises_around e (hJ j)⟩
      · cases e with
        | listen a => trivial
        | start => trivial
        | stop => exact hcond
      · rw [ha] at hcond
        exact hcond
      · exact ⟨(World.subscribed_around s.1 e).trans (hI.2 hnone).1, (hI.2 hnone).2⟩
  exact hboth.1.1

/-- The listener is there and has nothing left to do. -/
def World.Settled (w : World) : Prop :=
  w.subscribed = true ∧ w.listener = .idle ∧ w.notices = []

instance (w : World) : Decidable w.Settled :=
  inferInstanceAs (Decidable (_ ∧ _ ∧ _))

/-- A client that is settled is connected to the service, if there is one, and can be
called back by it. -/
theorem World.Restoring.connected {w : World} (hw : w.Restoring) (hsettled : w.Settled) :
    w.client.imsCallProxy = w.service ∧ ∀ run, w.service = some run → run ∈ w.callbacks := by
  obtain ⟨hsubscribed, hidle, hnotices⟩ := hsettled
  have hpending : w.pending = [] := by
    unfold World.pending
    rw [hidle, hnotices]
    rfl
  have howed : ∀ run, w.service = some run → w.client.imsCallProxy = some run := by
    intro run hservice
    rcases hw.owed run hsubscribed hservice with h | h
    · exact h
    · rw [hpending] at h
      cases h
  refine ⟨?_, fun run hservice => hw.callbacks run (howed run hservice)⟩
  cases hservice : w.service with
  | some run => exact howed run hservice
  | none =>
    cases hproxy : w.client.imsCallProxy with
    | none => rfl
    | some run =>
      rcases hw.watched run hproxy with h | h
      · exact h.symm.trans hservice
      · rw [hpending] at h
        cases h

/-- A thread makes a request, and no other moves meanwhile. -/
def requestAlone (r : ρ) : List (Next ρ) := .begin (.request r) :: List.replicate 4 (.go .all)

/-- What a request comes to: it is sent to the service that runs, or fails for want of
one. -/
def World.answer (w : World) (r : ρ) : Result ρ :=
  match w.service with
  | some run => .sent run r
  | none => .ipcConnectStubFail r

theorem World.alone_request_of_proxy {w : World} {run : Nat}
    (hproxy : w.client.imsCallProxy = some run) (r : ρ) :
    (threads ρ).alone w .idle (requestAlone r) = [.sent run r] := by
  obtain ⟨⟨core, proxy, callback, status⟩, service, runs, callbacks, subscribed, notices,
    listener⟩ := w
  cases hproxy
  rfl

/-- A request of a client that is connected to the service as it is. -/
theorem World.alone_request {w : World} (hproxy : w.client.imsCallProxy = w.service) (r : ρ) :
    (threads ρ).alone w .idle (requestAlone r) = [w.answer r] := by
  obtain ⟨⟨core, proxy, callback, status⟩, service, runs, callbacks, subscribed, notices,
    listener⟩ := w
  cases service with
  | some run => exact alone_request_of_proxy hproxy r
  | none =>
    cases hproxy
    rfl

/-- What holds of a settled client. -/
structure Served (s : World × (ι → Doing ρ)) : Prop where
  connected : s.1.client.imsCallProxy = s.1.service
  calledBack : ∀ run, s.1.service = some run → run ∈ s.1.callbacks
  requested : ∀ i, s.2 i = .idle → ∀ r,
    ((threads ρ).machine ι).outputs s ((requestAlone r).map (.thread i)) = [s.1.answer r]

theorem World.Restoring.served {s : World × (ι → Doing ρ)} (hw : s.1.Restoring)
    (hsettled : s.1.Settled) : Served s := by
  obtain ⟨hproxy, hcallback⟩ := hw.connected hsettled
  refine ⟨hproxy, hcallback, fun i hi r => ?_⟩
  rw [Threads.outputs_thread, hi]
  exact World.alone_request hproxy r

/-! The listener gets through its notices. -/

/-- How many steps are left of `GetImsCallProxy`, at most. -/
def GetProxy.left : GetProxy → Nat
  | .check => 3
  | .lookUp => 2
  | .store _ => 1

/-- How many steps are left of `ReConnectService`, at most. -/
def ReConnect.left : ReConnect → Nat
  | .check => 5
  | .getProxy p => p.left + 1
  | .recheck => 1

/-- How many steps the listener needs for the notice it has, at most. -/
def Listening.left : Listening → Nat
  | .idle => 0
  | .onAdd _ => 7
  | .onAddClean _ => 6
  | .onAddReConnect _ c => c.left
  | .onRemove _ => 2
  | .onRemoveClean _ => 1

namespace World

/-- How many steps the listener needs for all its notices, at most. -/
def left (w : World) : Nat := w.listener.left + 8 * w.notices.length

theorem left_getImsCallProxy {w : World} {a : Answers} {p p' : GetProxy}
    (h : (w.getImsCallProxy a p).2 = .inl p') : p'.left < p.left := by
  rcases getImsCallProxy_inl h with ⟨hp, hp'⟩ | ⟨hp, run, -, hp'⟩
  · rw [hp, hp']
    show 2 < 3
    omega
  · rw [hp, hp']
    show 1 < 2
    omega

theorem left_reConnectService {w : World} {a : Answers} {c c' : ReConnect}
    (h : (w.reConnectService a c).2 = .inl c') : c'.left < c.left := by
  rcases reConnectService_inl h with ⟨hc, hc'⟩ | ⟨p, hc, ⟨p', hp, hc'⟩ | ⟨proxy, hp, hc'⟩⟩
  · rw [hc, hc']
    show 3 + 1 < 5
    omega
  · rw [hc, hc']
    have hlt := left_getImsCallProxy hp
    show p'.left + 1 < p.left + 1
    omega
  · rw [hc, hc']
    show 1 < p.left + 1
    cases p <;> simp [GetProxy.left]

theorem ReConnect_left_pos (c : ReConnect) : 0 < c.left := by
  cases c <;> simp [ReConnect.left]

theorem left_listen {w : World} (hleft : ¬ w.left = 0) : (w.listen .all).left < w.left := by
  obtain ⟨client, service, runs, callbacks, subscribed, notices, listener⟩ := w
  cases listener with
  | idle =>
    cases notices with
    | nil => exact absurd rfl hleft
    | cons n rest =>
      cases n with
      | added run =>
        show 7 + 8 * rest.length < 0 + 8 * (rest.length + 1)
        omega
      | removed run =>
        show 2 + 8 * rest.length < 0 + 8 * (rest.length + 1)
        omega
  | onAdd run =>
    show (if client.isConnect then Listening.idle else .onAddClean run).left + 8 * notices.length <
      7 + 8 * notices.length
    split
    · show 0 + _ < _
      omega
    · show 6 + _ < _
      omega
  | onAddClean run =>
    show 5 + 8 * notices.length < 6 + 8 * notices.length
    omega
  | onAddReConnect run c =>
    generalize hw : (⟨client, service, runs, callbacks, subscribed, notices,
      .onAddReConnect run c⟩ : World) = w
    have hl : w.listener = .onAddReConnect run c := by rw [← hw]
    have hnotices : (w.listen .all).notices = w.notices := by
      unfold listen
      rw [hl]
      exact (w.connects_reConnectService .all c).notices
    unfold left
    rw [hnotices, hl]
    rcases listener_onAddReConnect (a := .all) hl with ⟨c', hc, hl'⟩ | hl'
    · rw [hl']
      have hlt := left_reConnectService hc
      show c'.left + _ < c.left + _
      omega
    · rw [hl']
      have hpos := ReConnect_left_pos c
      show 0 + _ < c.left + _
      omega
  | onRemove run =>
    show (if client.isConnect then Listening.onRemoveClean run else .idle).left +
      8 * notices.length < 2 + 8 * notices.length
    split
    · show 1 + _ < _
      omega
    · show 0 + _ < _
      omega
  | onRemoveClean run =>
    show 0 + 8 * notices.length < 1 + 8 * notices.length
    omega

theorem settled_of_left {w : World} (hsubscribed : w.subscribed = true) (hleft : w.left = 0) :
    w.Settled := by
  unfold left at hleft
  refine ⟨hsubscribed, ?_, ?_⟩
  · cases hl : w.listener with
    | idle => rfl
    | onAddReConnect run c =>
      have hpos := ReConnect_left_pos c
      rw [hl] at hleft
      change c.left + _ = 0 at hleft
      omega
    | _ =>
      rw [hl] at hleft
      simp [Listening.left] at hleft
  · apply List.eq_nil_of_length_eq_zero
    omega

end World

/-- The listener takes as many steps as it needs. -/
theorem settles_of_restoring (s : World × (ι → Doing ρ)) (h : Past ι)
    (hw : s.1.Restoring) (hsubscribed : s.1.subscribed = true) :
    ∃ n, (exec ((threads ρ).machine ι) (once ρ ι) s h
      (List.replicate n (.around (.listen .all)))).1.1.Settled ∧
      (exec ((threads ρ).machine ι) (once ρ ι) s h
        (List.replicate n (.around (.listen .all)))).1.1.Restoring := by
  induction hk : s.1.left using Nat.strongRecOn generalizing s h with
  | ind k ih =>
    by_cases hleft : s.1.left = 0
    · exact ⟨0, World.settled_of_left hsubscribed hleft, hw⟩
    · obtain ⟨n, hn⟩ := ih (s.1.listen .all).left (hk ▸ World.left_listen hleft)
        (s.1.listen .all, s.2) _ (World.restoring_listen hw)
        ((World.subscribed_around s.1 (.listen .all)).trans hsubscribed) rfl
      exact ⟨n + 1, hn⟩

/-- Whatever the order of steps, a client with a listener is served once the listener
is done, and the listener is done after finitely many steps of its own: the client is
connected to the service as it is, and a request that is not disturbed is sent to it,
or fails if there is none. -/
theorem served_of_run {s : World × (ι → Doing ρ)} {h : Past ι}
    (hrun : Run ((threads ρ).machine ι) (once ρ ι) (served ρ ι) s h)
    (hsubscribed : s.1.subscribed = true) :
    (s.1.Settled → Served s) ∧ ∃ n, Served (exec ((threads ρ).machine ι) (once ρ ι) s h
      (List.replicate n (.around (.listen .all)))).1 := by
  have hw := restoring_of_run hrun
  obtain ⟨n, hsettled, hw'⟩ := settles_of_restoring s h hw hsubscribed
  exact ⟨hw.served, n, hw'.served hsettled⟩

/-- The client is initialised, and the service restarts while a request is between its
lookup and the storing of the proxy. -/
def restartDuringRequest : List (Move Bool (Next Nat) Around) :=
  [.around .start, .thread false (.begin .init), .thread false (.go .all),
    .thread false (.go .all), .thread true (.begin (.request 7)), .thread true (.go .all),
    .thread true (.go .all), .thread true (.go .all), .thread false (.go .all),
    .thread false (.go .all), .thread false (.go .all), .around .stop, .around .start,
    .around (.listen .all), .around (.listen .all), .around (.listen .all),
    .thread true (.go .all)]

theorem served_after_restart :
    let s := exec ((threads Nat).machine Bool) (once Nat Bool)
      ((threads Nat).machine Bool).init (once Nat Bool).init restartDuringRequest
    (s.1.1.Settled → Served s.1) ∧
      ∃ n, Served (exec ((threads Nat).machine Bool) (once Nat Bool) s.1 s.2
        (List.replicate n (.around (.listen .all)))).1 :=
  served_of_run (Run.of_admits _ (by decide)) (by decide)

/-! ## A client without a listener -/

/-- The client is not ended. -/
def goesOn (ρ ι : Type) :
    StepCond (World × (ι → Doing ρ)) (Move ι (Next ρ) Around) (Past ι) := fun _ _ e =>
  match e with
  | .thread _ (.begin .unInit) => False
  | _ => True

instance (h : Past ι) (s : World × (ι → Doing ρ)) (e : Move ι (Next ρ) Around) :
    Decidable (goesOn ρ ι h s e) :=
  match e with
  | .around _ => isTrue trivial
  | .thread _ (.go _) => isTrue trivial
  | .thread _ (.begin (.request _)) => isTrue trivial
  | .thread _ (.begin .init) => isTrue trivial
  | .thread _ (.begin .getImsCallProxy) => isTrue trivial
  | .thread _ (.begin .unInit) => isFalse id

/-- Nobody is told of the service, and there is a proxy. -/
structure World.Deaf (w : World) : Prop where
  unsubscribed : w.subscribed = false
  connected : w.client.imsCallProxy ≠ none

/-- What nobody subscribed to is not pending. -/
def World.Quiet (w : World) : Prop := w.subscribed = false → w.pending = []

namespace World

variable {w : World} {p : Doing ρ} {e : Next ρ}

theorem quiet_step (hw : w.Quiet) : (w.step p e).1.Quiet := by
  rcases w.step_cases p e with ⟨a, -, hc⟩ | hsame | ⟨a, -, -, heq⟩ | ⟨-, heq⟩
  · intro hfalse
    rw [hc.pending]
    exact hw (hc.subscribed ▸ hfalse)
  · rw [hsame]
    exact hw
  · rw [heq]
    intro hfalse
    rw [pending_subscribe]
    unfold subscribe at hfalse
    dsimp only at hfalse
    split at hfalse
    · cases hfalse
    · next hno =>
      rw [if_neg hno, List.append_nil]
      exact hw hfalse
  · rw [heq]
    exact hw

theorem pending_notify_of_unsubscribed (hfalse : w.subscribed = false) (n : SaNotice) :
    (w.notify n).pending = w.pending := by
  rw [pending_notify, hfalse]
  exact List.append_nil _

theorem listen_of_quiet (a : Answers) (hpending : w.pending = []) : w.listen a = w := by
  obtain ⟨hhandled, hnotices⟩ := List.append_eq_nil_iff.mp hpending
  cases hl : w.listener with
  | idle =>
    unfold listen
    rw [hl, hnotices]
  | _ =>
    rw [hl] at hhandled
    cases hhandled

theorem quiet_around (hw : w.Quiet) (e : Around) : (w.around e).Quiet := by
  intro hfalse
  rw [subscribed_around] at hfalse
  have hpending := hw hfalse
  cases e with
  | listen a =>
    show (w.listen a).pending = []
    rw [listen_of_quiet a hpending]
    exact hpending
  | start =>
    show w.start.pending = []
    unfold start
    split
    · rw [pending_notify_of_unsubscribed (by exact hfalse)]
      exact hpending
    · exact hpending
  | stop =>
    show w.stop.pending = []
    unfold stop
    split
    · exact hpending
    · rw [pending_notify_of_unsubscribed (by exact hfalse)]
      exact hpending

theorem deaf_around (hquiet : w.Quiet) (hw : w.Deaf) (e : Around) : (w.around e).Deaf := by
  refine ⟨(subscribed_around w e).trans hw.unsubscribed, fun hnone => hw.connected ?_⟩
  refine proxy_none_of_around (e := e) (fun a _ => ?_) hnone
  have hhandled := (List.append_eq_nil_iff.mp (hquiet hw.unsubscribed)).1
  cases hl : w.listener with
  | onAddClean run =>
    rw [hl] at hhandled
    cases hhandled
  | onRemoveClean run =>
    rw [hl] at hhandled
    cases hhandled
  | _ => rfl

end World

/-- Whatever the order of steps, a client that `Init` found connected is told nothing of
the service and keeps a proxy, whatever becomes of the service; a request that is not
disturbed goes to the run of that proxy. -/
theorem deaf_of_run {s : World × (ι → Doing ρ)} {h : Past ι}
    (hrun : Run ((threads ρ).machine ι) (once ρ ι) (goesOn ρ ι) s h)
    (hfound : h.found ≠ none) :
    s.1.Deaf ∧ ∃ run, ∀ i, s.2 i = .idle → ∀ r,
      ((threads ρ).machine ι).outputs s ((requestAlone r).map (.thread i)) = [.sent run r] := by
  have hboth : (((h.initBy = none → h.Undecided s.1) ∧ s.1.Quiet) ∧
      (h.found ≠ none → s.1.Deaf)) ∧ ∀ j, (s.2 j).Initialises s.1 h j := by
    have hend : ∀ {s : World × (ι → Doing ρ)} {h i e}, goesOn ρ ι h s (.thread i e) →
        e ≠ .begin .unInit := fun hcond he => by
      rw [he] at hcond
      exact hcond
    refine Threads.invariant
      (I := fun w h => ((h.initBy = none → h.Undecided w) ∧ w.Quiet) ∧
        (h.found ≠ none → w.Deaf))
      (J := fun w h i p => p.Initialises w h i)
      ⟨⟨fun _ => ⟨rfl, rfl⟩, fun _ => rfl⟩, fun h => absurd rfl h⟩
      (fun i => ⟨nofun, nofun⟩) (fun s h i e hI hJ hallowed hcond => ?_)
      (fun s h i e j hj hI hJ hallowed hcond =>
        (initialises_step hI.1.1 hJ hallowed (hend hcond)).2 j hj)
      (fun s h e hI hJ _ hcond => ?_) hrun
    · refine ⟨⟨⟨undecided_step hI.1.1 hJ, World.quiet_step hI.1.2⟩, fun hfound => ?_⟩,
        (initialises_step hI.1.1 hJ hallowed (hend hcond)).1⟩
      have hclean : (s.2 i).cleans = false := by
        have hne := (hJ i).1
        cases hp : s.2 i with
        | unInit => exact absurd hp hne
        | _ => rfl
      rcases found_next (i := i) (e := e) ((threads ρ).machine ι) with hsame | ⟨hat, a, ha, heq⟩
      · rw [hsame] at hfound
        have hdeaf := hI.2 hfound
        refine ⟨?_, fun hnone => hdeaf.connected (World.proxy_none_of_step hclean hnone)⟩
        have hsub : s.2 i ≠ .subscribe := fun hsub =>
          hfound ((hJ i).2 (by rw [hsub]; trivial)).1.2
        exact (World.subscribed_step hsub).trans hdeaf.unsubscribed
      · rw [heq] at hfound
        have hundecided := ((hJ i).2 (by rw [hat]; trivial)).1
        refine ⟨?_, fun hnone => hfound (World.proxy_none_of_step hclean hnone)⟩
        rw [ha, hat]
        exact hundecided.1
    · exact ⟨⟨⟨fun hnone => ⟨(World.subscribed_around s.1 e).trans (hI.1.1 hnone).1,
          (hI.1.1 hnone).2⟩, World.quiet_around hI.1.2 e⟩,
        fun hfound => World.deaf_around hI.1.2 (hI.2 hfound) e⟩,
        fun j => initialises_around e (hJ j)⟩
  have hdeaf := hboth.1.2 hfound
  refine ⟨hdeaf, ?_⟩
  obtain ⟨run, hrun⟩ := Option.ne_none_iff_exists'.mp hdeaf.connected
  refine ⟨run, fun i hi r => ?_⟩
  rw [Threads.outputs_thread, hi]
  exact World.alone_request_of_proxy hrun r

/-- A request connects before `Init`, and the service restarts. -/
def requestBeforeInit : List (Move Bool (Next Nat) Around) :=
  [.around .start, .thread true (.begin (.request 7)), .thread true (.go .all),
    .thread true (.go .all), .thread true (.go .all), .thread true (.go .all),
    .thread false (.begin .init), .thread false (.go .all), .around .stop, .around .start,
    .around (.listen .all)]

theorem deaf_after_request :
    let s := exec ((threads Nat).machine Bool) (once Nat Bool)
      ((threads Nat).machine Bool).init (once Nat Bool).init requestBeforeInit
    s.1.1.Deaf ∧ ∃ run, ∀ i, s.1.2 i = .idle → ∀ r,
      ((threads Nat).machine Bool).outputs s.1 ((requestAlone r).map (.thread i)) =
        [.sent run r] :=
  deaf_of_run (Run.of_admits _ (by decide)) (by decide)

end ImsCallClient

end CellularCall
