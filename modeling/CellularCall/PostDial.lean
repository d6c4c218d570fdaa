import CellularCall.CallTable
import CellularCall.Lib.Machine
import Mathlib.Data.List.Basic

/-!
# Sending a post-dial string

What follows the first `,` or `;` of a dialled number is sent as tones once the
call is up.  `ExecutePostDial` takes one character.  A tone is followed by the
next `ExecutePostDial` when the modem has answered it, a `,` by the one of its
timer, a `;` by the one of `PostDialProceed`.

The engine does not know which character an `ExecutePostDial` comes from, and the
response to a tone of the user brings one as well.  `playsInOrder_of_run` says
which runs nevertheless keep the waits and the pauses.

`UpdateCallNumber` adds to what is there already, and the engine's state and
position stay as they are.  And whether a tone is taken, or a pause has a handler
for its timer, is not looked at.  `playsOwn_iff` says when a call that comes up
plays its own number, all of it.
-/

namespace CellularCall

open Lib

/-! ## The machine -/

/-- Whose tone it is. -/
inductive ToneSource where
  | engine
  | user
deriving DecidableEq, Repr

/-- Where a scheduled `ExecutePostDial` comes from: the response to a tone, or the
timer of the `,` before a position. -/
inductive Trigger where
  | tone (source : ToneSource)
  | pause (position : Nat)
deriving DecidableEq, Repr

/-- A connection, the tones the modem has not answered, and the `ExecutePostDial`
events that wait in the handler's queue. -/
structure PostDialState (δ : Type) where
  connection : Connection δ
  requests : List ToneSource
  scheduled : List Trigger
deriving DecidableEq, Repr

/-- What happens to a connection's post-dial string.  `connected` is the change
from dialling or alerting, with the control's pending number. -/
inductive PostDialEvent where
  | connected (pendingPhoneNumber : Str)
  | sendDtmfResponse (source : ToneSource)
  | executePostDial (trigger : Trigger)
  | sendDtmf (c : Char)
  | startDtmf (c : Char)
  | postDialProceed (proceed : Bool)
deriving DecidableEq, Repr

/-- A tone among the outputs. -/
def Output.tone? : Output → Option Char
  | .sendDtmf _ c _ => some c
  | _ => none

/-- A pause among the outputs. -/
def Output.isPause : Output → Bool
  | .executePostDialLater _ _ => true
  | _ => false

/-- A wait among the outputs. -/
def Output.isWait : Output → Bool
  | .reportPostDialDelay _ => true
  | _ => false

variable {δ : Type}

namespace PostDialState

/-- The body of `ExecutePostDial`, with what it leaves outstanding. -/
def execute (domain : CallType) (s : PostDialState δ) : PostDialState δ × List Output :=
  let (connection, outputs) := s.connection.executePostDial domain
  ({ connection := connection
     requests := s.requests ++ (outputs.filterMap Output.tone?).map fun _ => .engine
     scheduled := s.scheduled ++
      (outputs.filter Output.isPause).map fun _ => .pause connection.nextPostDialCallCode },
    outputs)

end PostDialState

/-- A connection nothing has been dialled on. -/
def Connection.undialled (c : Connection δ) : Connection δ :=
  { c with
    postDialCallState := .notStarted
    nextPostDialCallCode := 0
    postDialCallString := [] }

def postDialMachine (domain : CallType) (c : Connection δ) :
    Machine (PostDialState δ) PostDialEvent Output where
  init := ⟨c.undialled, [], []⟩
  step s
    | .connected pendingPhoneNumber =>
      { s with connection := s.connection.updateCallNumber pendingPhoneNumber }.execute domain
    | .sendDtmfResponse source =>
      ({ s with
          requests := s.requests.erase source
          scheduled := s.scheduled ++ [.tone source] }, [.reportEventResultInfo])
    | .executePostDial trigger =>
      { s with scheduled := s.scheduled.erase trigger }.execute domain
    | .sendDtmf c =>
      ({ s with requests := s.requests ++ [.user] }, [.sendDtmf domain c s.connection.index])
    | .startDtmf _ => (s, [])
    | .postDialProceed true => s.execute domain
    | .postDialProceed false =>
      ({ s with connection := s.connection.setPostDialCallState .canceled }, [])

/-! ## The history -/

/-- What the next tone has to wait for. -/
inductive Hold where
  | wait
  | pause (position : Nat)
deriving DecidableEq, Repr

/-- What a run has seen: the number the call was dialled with, once it is up, the
engine's tones, the waits and pauses that are not over, whether the rest was
cancelled, and whether a tone came too early. -/
structure PostDialHistory where
  dialled : Option Str
  tones : Str
  holds : List Hold
  cancelled : Bool
  early : Bool
deriving DecidableEq, Repr

/-- The holds that an event does not end. -/
def PostDialEvent.leaves : PostDialEvent → List Hold → List Hold
  | .executePostDial (.pause position), holds => holds.filter fun hold => hold != .pause position
  | .postDialProceed true, holds => holds.filter fun hold => hold != .wait
  | _, holds => holds

/-- The history after an event that executes. -/
def PostDialHistory.executed (h : PostDialHistory) (s' : PostDialState δ) (outputs : List Output) :
    PostDialHistory :=
  let tones := outputs.filterMap Output.tone?
  { h with
    tones := h.tones ++ tones
    holds := h.holds ++
      ((outputs.filter Output.isPause).map fun _ => .pause s'.connection.nextPostDialCallCode) ++
        (outputs.filter Output.isWait).map fun _ => .wait
    early := h.early || (!tones.isEmpty && (h.cancelled || !h.holds.isEmpty)) }

/-- The history of a connection whose call comes up once.  The modem answers what
was sent, and the queue delivers what was scheduled. -/
def postDialMonitor : Monitor (PostDialState δ) PostDialEvent Output PostDialHistory where
  init := ⟨none, [], [], false, false⟩
  allowed h s
    | .connected _ => h.dialled = none
    | .sendDtmfResponse source => source ∈ s.requests
    | .executePostDial trigger => trigger ∈ s.scheduled
    | _ => True
  update h _ e s' outputs :=
    match e with
    | .connected pendingPhoneNumber =>
      { h with dialled := some pendingPhoneNumber }.executed s' outputs
    | .executePostDial _ =>
      { h with holds := e.leaves h.holds }.executed s' outputs
    | .postDialProceed true =>
      { h with holds := e.leaves h.holds }.executed s' outputs
    | .postDialProceed false => { h with cancelled := true }
    | _ => h

instance (h : PostDialHistory) (s : PostDialState δ) :
    (e : PostDialEvent) → Decidable (postDialMonitor.allowed h s e)
  | .connected _ => inferInstanceAs (Decidable (h.dialled = none))
  | .sendDtmfResponse source => inferInstanceAs (Decidable (source ∈ s.requests))
  | .executePostDial trigger => inferInstanceAs (Decidable (trigger ∈ s.scheduled))
  | .sendDtmf _ => isTrue trivial
  | .startDtmf _ => isTrue trivial
  | .postDialProceed _ => isTrue trivial

/-- The post-dial part of a number. -/
def postDial (phoneNum : Str) : Str := (extractAddressAndPostDial phoneNum).2

/-- The post-dial part of the number dialled, once the call is up. -/
def PostDialHistory.postDial (h : PostDialHistory) : Str :=
  (h.dialled.map CellularCall.postDial).getD []

/-- The engine's tones are the DTMF keys up to the position, and none came too
early. -/
structure PlaysInOrder (s : PostDialState δ) (h : PostDialHistory) : Prop where
  tones : h.tones = (h.postDial.take s.connection.nextPostDialCallCode).filter isDtmfKey
  onTime : h.early = false

/-! ## Stray executions -/

/-- A pause or a wait with a DTMF key behind it. -/
def blocked : Str → Bool
  | [] => false
  | c :: rest => ((isPauseKey c || isWaitKey c) && rest.any isDtmfKey) || blocked rest

/-- A pause or a wait, running or ahead, keeps a DTMF key back. -/
def threatened (holds : List Hold) (left : Str) : Bool :=
  (!holds.isEmpty && left.any isDtmfKey) || blocked left

/-- The outstanding tones of the engine, and its scheduled events. -/
def PostDialState.load (s : PostDialState δ) : Nat :=
  s.requests.count .engine + s.scheduled.countP fun trigger => trigger != .tone .user

/-- An execution that is not the engine's own next step: after a tone of the user,
or a `PostDialProceed` where there is no wait. -/
def PostDialEvent.isStray (h : PostDialHistory) : PostDialEvent → Bool
  | .executePostDial (.tone .user) => true
  | .postDialProceed true => !decide (Hold.wait ∈ h.holds)
  | _ => false

/-- A stray execution comes when the rest is cancelled, when the engine waits for
nothing and has nothing outstanding, or when no DTMF key is kept back any more. -/
def strayHarmless : StepCond (PostDialState δ) PostDialEvent PostDialHistory := fun h s e =>
  e.isStray h = true → h.cancelled = true ∨ (h.holds = [] ∧ s.load = 0) ∨
    threatened h.holds s.connection.getLeftPostDialCallString = false

instance (h : PostDialHistory) (s : PostDialState δ) (e : PostDialEvent) :
    Decidable (strayHarmless h s e) :=
  inferInstanceAs (Decidable (_ → _ ∨ (_ ∧ _) ∨ _))

/-! ## One character -/

theorem isDtmfKey_comma : isDtmfKey ',' = false := by decide

theorem isDtmfKey_semicolon : isDtmfKey ';' = false := by decide

/-- The outputs of an execution that takes a character. -/
inductive Plays (domain : CallType) (index : Int) (k : Char) (rest : Str) : List Output → Prop
  | tone (hkey : isDtmfKey k = true) :
      Plays domain index k rest [.sendDtmf domain k index, .reportPostDialChar k]
  | pause (hkey : k = ',') : Plays domain index k rest [.executePostDialLater domain index]
  | wait (hkey : k = ';') : Plays domain index k rest [.reportPostDialDelay rest]
  | other (hdtmf : isDtmfKey k = false) (hpause : k ≠ ',') (hwait : k ≠ ';') :
      Plays domain index k rest [.reportPostDialChar k]

namespace Connection

variable {domain : CallType} {c : Connection δ}

/-- A cancelled string is not sent. -/
theorem executePostDial_of_canceled (domain : CallType)
    (hstate : c.postDialCallState = .canceled) :
    c.executePostDial domain = (c, []) := by
  simp [executePostDial, processNextChar, hstate]

theorem getElem?_of_left {k : Char} {rest : Str} (hleft : c.getLeftPostDialCallString = k :: rest) :
    c.postDialCallString[c.nextPostDialCallCode]? = some k := by
  rw [getLeftPostDialCallString] at hleft
  rw [← List.head?_drop, hleft]
  rfl

/-- At the end there is nothing to send. -/
theorem executePostDial_of_left_nil (domain : CallType)
    (hstate : c.postDialCallState ≠ .canceled)
    (hleft : c.getLeftPostDialCallString = []) :
    c.executePostDial domain = (c.setPostDialCallState .complete, []) := by
  have hnone : c.postDialCallString[c.nextPostDialCallCode]? = none := by
    rw [← List.head?_drop, ← getLeftPostDialCallString, hleft]
    rfl
  simp [executePostDial, processNextChar, hstate, hnone, setPostDialCallState]

/-- A character is taken. -/
theorem executePostDial_of_left_cons {k : Char} {rest : Str}
    (domain : CallType) (hstate : c.postDialCallState ≠ .canceled)
    (hleft : c.getLeftPostDialCallString = k :: rest) :
    Plays domain c.index k rest (c.executePostDial domain).2 ∧
      (c.executePostDial domain).1.postDialCallString = c.postDialCallString ∧
      (c.executePostDial domain).1.nextPostDialCallCode = c.nextPostDialCallCode + 1 ∧
      (c.executePostDial domain).1.postDialCallState ≠ .canceled := by
  have hsome := getElem?_of_left hleft
  have hrest : c.postDialCallString.drop (c.nextPostDialCallCode + 1) = rest := by
    rw [getLeftPostDialCallString] at hleft
    rw [← List.drop_drop, hleft]
    rfl
  by_cases hdtmf : isDtmfKey k = true
  · simp [executePostDial, processNextChar, hstate, hsome, processPostDialCallChar, hdtmf,
      setPostDialCallState, Plays.tone hdtmf]
  · by_cases hpause : k = ','
    · subst hpause
      simp [executePostDial, processNextChar, hstate, hsome, processPostDialCallChar, hdtmf,
        isPauseKey, setPostDialCallState, Plays.pause]
    · by_cases hwait : k = ';'
      · subst hwait
        simp [executePostDial, processNextChar, hstate, hsome, processPostDialCallChar, hdtmf,
          isPauseKey, isWaitKey, setPostDialCallState, getLeftPostDialCallString, hrest, Plays.wait]
      · have hother : Plays domain c.index k rest [.reportPostDialChar k] :=
          .other (Bool.eq_false_iff.mpr hdtmf) hpause hwait
        simp [executePostDial, processNextChar, hstate, hsome, processPostDialCallChar, hdtmf,
          isPauseKey, hpause, isWaitKey, hwait, setPostDialCallState, hother]

/-- One character less is left. -/
theorem left_executePostDial {k : Char} {rest : Str} (domain : CallType)
    (hstate : c.postDialCallState ≠ .canceled)
    (hleft : c.getLeftPostDialCallString = k :: rest) :
    (c.executePostDial domain).1.getLeftPostDialCallString = rest := by
  obtain ⟨-, hstring, hnext, -⟩ := executePostDial_of_left_cons domain hstate hleft
  rw [getLeftPostDialCallString, hstring, hnext, ← List.drop_drop, ← getLeftPostDialCallString,
    hleft]
  rfl

end Connection

/-! ## One execution -/

/-- The one continuation of an engine that keeps its holds. -/
inductive Single (s : PostDialState δ) (holds : List Hold) : Prop
  | running (hholds : holds = []) (hload : s.load ≤ 1)
      (hpause : ∀ position, .pause position ∉ s.scheduled)
  | pausing (position : Nat) (hholds : holds = [.pause position]) (hload : s.load = 1)
      (hpause : .pause position ∈ s.scheduled)
  | waiting (hholds : holds = [.wait]) (hload : s.load = 0)

/-- The engine goes on without a tone that is too early. -/
def Guarded (s : PostDialState δ) (h : PostDialHistory) : Prop :=
  h.cancelled = true ∨ Single s h.holds ∨
    threatened h.holds s.connection.getLeftPostDialCallString = false

/-- The next character may be taken. -/
def Ready (s : PostDialState δ) (h : PostDialHistory) : Prop :=
  h.cancelled = true ∨ (h.holds = [] ∧ s.load = 0) ∨
    threatened h.holds s.connection.getLeftPostDialCallString = false

/-- What holds of the string and of the tones so far. -/
structure PostDialCore (s : PostDialState δ) (h : PostDialHistory) : Prop
    extends PlaysInOrder s h where
  string : s.connection.postDialCallString = h.postDial
  cancelled : h.cancelled = true → s.connection.postDialCallState = .canceled

section
variable {domain : CallType} {s : PostDialState δ} {h : PostDialHistory}

theorem load_eq_zero_iff :
    s.load = 0 ↔ ToneSource.engine ∉ s.requests ∧ ∀ t ∈ s.scheduled, t = .tone .user := by
  simp [PostDialState.load, List.count_eq_zero, List.countP_eq_zero]

/-- An execution without a character leaves everything as it is but the state. -/
theorem execute_of_nothing {c : Connection δ}
    (hexecute : s.connection.executePostDial domain = (c, [])) :
    s.execute domain = ({ s with connection := c }, []) ∧
      ∀ s' : PostDialState δ, h.executed s' [] = h := by
  constructor
  · simp [PostDialState.execute, hexecute]
  · intro s'
    simp [PostDialHistory.executed]

theorem threatened_cons_dtmf {holds : List Hold} {k : Char} {rest : Str}
    (hkey : isDtmfKey k = true) (hthreat : threatened holds (k :: rest) = false) :
    holds = [] ∧ threatened holds rest = false := by
  simp only [threatened, blocked, List.any_cons, hkey, Bool.true_or, Bool.and_true,
    Bool.or_eq_false_iff, Bool.not_eq_false', List.isEmpty_iff] at hthreat
  obtain ⟨hholds, -, hblocked⟩ := hthreat
  simp [hholds, threatened, hblocked]

theorem threatened_cons_hold {holds holds' : List Hold} {k : Char} {rest : Str}
    (hkey : isPauseKey k = true ∨ isWaitKey k = true)
    (hthreat : threatened holds (k :: rest) = false) : threatened holds' rest = false := by
  have hhold : (isPauseKey k || isWaitKey k) = true := by simpa using hkey
  simp only [threatened, blocked, hhold, Bool.true_and, Bool.or_eq_false_iff] at hthreat
  obtain ⟨-, hany, hblocked⟩ := hthreat
  simp [threatened, hany, hblocked]

theorem threatened_cons_other {holds : List Hold} {k : Char} {rest : Str}
    (hthreat : threatened holds (k :: rest) = false) : threatened holds rest = false := by
  simp only [threatened, blocked, List.any_cons, Bool.or_eq_false_iff,
    Bool.and_eq_false_iff] at hthreat ⊢
  obtain ⟨hholds, -, hblocked⟩ := hthreat
  refine ⟨?_, hblocked⟩
  rcases hholds with hholds | ⟨-, hany⟩
  · exact .inl hholds
  · exact .inr hany

/-- The tones and the string after a character has been taken. -/
theorem PostDialCore.executed_cons (hcore : PostDialCore s h) {k : Char} {rest : Str}
    (hstate : s.connection.postDialCallState ≠ .canceled)
    (hleft : s.connection.getLeftPostDialCallString = k :: rest)
    (hready : isDtmfKey k = true → h.holds = []) :
    PostDialCore (s.execute domain).1
      (h.executed (s.execute domain).1 (s.execute domain).2) := by
  have hcancelled : h.cancelled = false := by
    cases hc : h.cancelled with
    | false => rfl
    | true => exact absurd (hcore.cancelled hc) hstate
  have hsome := Connection.getElem?_of_left hleft
  obtain ⟨hplays, hstring, hnext, hstate'⟩ :=
    Connection.executePostDial_of_left_cons domain hstate hleft
  have htake : h.postDial.take (s.connection.nextPostDialCallCode + 1) =
      h.postDial.take s.connection.nextPostDialCallCode ++ [k] := by
    rw [← hcore.string, List.take_add_one, hsome]
    rfl
  refine ⟨⟨?_, ?_⟩, hstring.trans hcore.string, fun hc => ?_⟩
  · have htones : (s.connection.executePostDial domain).2.filterMap Output.tone? =
        [k].filter isDtmfKey := by
      generalize (s.connection.executePostDial domain).2 = outputs at hplays
      cases hplays with
      | tone hkey => simp [Output.tone?, hkey]
      | pause hkey => simp [Output.tone?, hkey, isDtmfKey_comma]
      | wait hkey => simp [Output.tone?, hkey, isDtmfKey_semicolon]
      | other hdtmf hpause hwait => simp [Output.tone?, hdtmf]
    have hpostDial : (h.executed (s.execute domain).1 (s.execute domain).2).postDial =
        h.postDial := rfl
    rw [hpostDial]
    simp only [PostDialHistory.executed, PostDialState.execute, hnext, htake, htones,
      List.filter_append, hcore.tones]
  · simp only [PostDialHistory.executed, PostDialState.execute, hcore.onTime, hcancelled,
      Bool.false_or, Bool.and_eq_false_iff, Bool.not_eq_false', List.isEmpty_iff]
    by_cases hkey : isDtmfKey k = true
    · exact .inr (hready hkey)
    · left
      generalize (s.connection.executePostDial domain).2 = outputs at hplays
      cases hplays with
      | tone hkey' => exact absurd hkey' hkey
      | pause hkey => rfl
      | wait hkey => rfl
      | other hdtmf hpause hwait => rfl
  · exact absurd (hcore.cancelled hc) hstate

/-- What is outstanding after a character has been taken, and what is held. -/
theorem guarded_executed_cons {k : Char} {rest : Str}
    (hstate : s.connection.postDialCallState ≠ .canceled)
    (hleft : s.connection.getLeftPostDialCallString = k :: rest)
    (hready : (h.holds = [] ∧ s.load = 0) ∨ threatened h.holds (k :: rest) = false) :
    Guarded (s.execute domain).1 (h.executed (s.execute domain).1 (s.execute domain).2) := by
  obtain ⟨hplays, -, hnext, -⟩ := Connection.executePostDial_of_left_cons domain hstate hleft
  have hrest := Connection.left_executePostDial domain hstate hleft
  simp only [Guarded, PostDialHistory.executed, PostDialState.execute, hrest]
  generalize s.connection.executePostDial domain = result at hplays hnext hrest ⊢
  obtain ⟨c, outputs⟩ := result
  refine .inr ?_
  rcases hready with ⟨hholds, hload⟩ | hthreat
  · left
    have hquiet := load_eq_zero_iff.mp hload
    have hpause : ∀ position, Trigger.pause position ∉ s.scheduled := by
      intro position hmem
      exact Trigger.noConfusion (hquiet.2 _ hmem)
    have hidle : s.requests.count .engine = 0 ∧
        (s.scheduled.countP fun trigger => trigger != .tone .user) = 0 := by
      simp only [PostDialState.load] at hload
      omega
    dsimp only at hplays ⊢
    cases hplays with
    | tone hkey =>
      simp only [List.filter, List.filterMap, Output.tone?, Output.isPause, Output.isWait,
        List.map_nil, List.map_cons, List.append_nil]
      refine .running hholds ?_ hpause
      simp [PostDialState.load, hidle.1, hidle.2]
    | pause hkey =>
      simp only [List.filter, List.filterMap, Output.tone?, Output.isPause, Output.isWait,
        List.map_nil, List.map_cons, List.append_nil]
      refine .pausing c.nextPostDialCallCode (by rw [hholds, List.nil_append]) ?_ (by simp)
      simp [PostDialState.load, hidle.1, hidle.2]
    | wait hkey =>
      simp only [List.filter, List.filterMap, Output.tone?, Output.isPause, Output.isWait,
        List.map_nil, List.map_cons, List.append_nil]
      exact .waiting (by rw [hholds, List.nil_append]) hload
    | other hdtmf hpause' hwait =>
      simp only [List.filter, List.filterMap, Output.tone?, Output.isPause, Output.isWait,
        List.map_nil, List.append_nil]
      exact .running hholds (by simp [PostDialState.load, hidle.1, hidle.2]) hpause
  · right
    dsimp only at hplays ⊢
    cases hplays with
    | tone hkey =>
      simp only [List.filter, Output.isPause, Output.isWait, List.map_nil, List.append_nil]
      exact (threatened_cons_dtmf hkey hthreat).2
    | pause hkey => exact threatened_cons_hold (.inl (by rw [hkey]; rfl)) hthreat
    | wait hkey => exact threatened_cons_hold (.inr (by rw [hkey]; rfl)) hthreat
    | other hdtmf hpause hwait =>
      simp only [List.filter, Output.isPause, Output.isWait, List.map_nil, List.append_nil]
      exact threatened_cons_other hthreat

/-- What holds in every state of a run whose stray executions are harmless. -/
structure PostDialInv (s : PostDialState δ) (h : PostDialHistory) : Prop
    extends PostDialCore s h where
  undialled : h.dialled = none →
    s.connection.nextPostDialCallCode = 0 ∧ h.holds = [] ∧ s.load = 0
  guarded : Guarded s h

theorem left_of_undialled (hcore : PostDialCore s h) (hdialled : h.dialled = none) :
    s.connection.getLeftPostDialCallString = [] := by
  simp [Connection.getLeftPostDialCallString, hcore.string, PostDialHistory.postDial, hdialled]

/-- The next character is taken when it may be. -/
theorem PostDialCore.execute (hcore : PostDialCore s h) (hready : Ready s h)
    (hundialled : h.dialled = none →
      s.connection.nextPostDialCallCode = 0 ∧ h.holds = [] ∧ s.load = 0) :
    PostDialInv (s.execute domain).1 (h.executed (s.execute domain).1 (s.execute domain).2) := by
  by_cases hstate : s.connection.postDialCallState = .canceled
  · obtain ⟨hexecute, hexecuted⟩ := execute_of_nothing (s := s) (h := h)
      (Connection.executePostDial_of_canceled domain hstate)
    rw [hexecute, hexecuted]
    refine ⟨hcore, hundialled, ?_⟩
    rcases hready with hcancelled | ⟨hholds, hload⟩ | hthreat
    · exact .inl hcancelled
    · refine .inr (.inl (.running hholds (Nat.le_succ_of_le hload.le) ?_))
      intro position hmem
      exact Trigger.noConfusion ((load_eq_zero_iff.mp hload).2 _ hmem)
    · exact .inr (.inr hthreat)
  · cases hleft : s.connection.getLeftPostDialCallString with
    | nil =>
      obtain ⟨hexecute, hexecuted⟩ := execute_of_nothing (s := s) (h := h)
        (Connection.executePostDial_of_left_nil domain hstate hleft)
      rw [hexecute, hexecuted]
      refine ⟨⟨⟨hcore.tones, hcore.onTime⟩, hcore.string,
        fun hc => absurd (hcore.cancelled hc) hstate⟩, hundialled, .inr (.inr ?_)⟩
      have hnil : (s.connection.setPostDialCallState .complete).getLeftPostDialCallString = [] :=
        hleft
      simp [hnil, threatened, blocked]
    | cons k rest =>
      have hnotCancelled : ¬h.cancelled = true := fun hc => hstate (hcore.cancelled hc)
      have hready' : (h.holds = [] ∧ s.load = 0) ∨ threatened h.holds (k :: rest) = false := by
        rw [← hleft]
        exact hready.resolve_left hnotCancelled
      refine ⟨hcore.executed_cons hstate hleft ?_, ?_,
        guarded_executed_cons hstate hleft hready'⟩
      · intro hkey
        rcases hready' with ⟨hholds, -⟩ | hthreat
        · exact hholds
        · exact (threatened_cons_dtmf hkey hthreat).1
      · intro hdialled
        rw [left_of_undialled hcore hdialled] at hleft
        cases hleft

/-! ## Which executions are ready -/

theorem load_erase_user (ht : Trigger.tone .user ∈ s.scheduled) :
    { s with scheduled := s.scheduled.erase (.tone .user) }.load = s.load := by
  have hcount := (List.perm_cons_erase ht).countP_eq fun trigger => trigger != .tone .user
  rw [List.countP_cons_of_neg (by simp)] at hcount
  simp only [PostDialState.load]
  omega

theorem load_erase_own {t : Trigger} (ht : t ∈ s.scheduled) (hown : t ≠ .tone .user) :
    { s with scheduled := s.scheduled.erase t }.load + 1 = s.load := by
  have hcount := (List.perm_cons_erase ht).countP_eq fun trigger => trigger != .tone .user
  rw [List.countP_cons_of_pos (by simpa using hown)] at hcount
  simp only [PostDialState.load]
  omega

/-- With a load of one there is one scheduled event of the engine at most. -/
theorem eq_of_load {t t' : Trigger} (hload : s.load ≤ 1) (ht : t ∈ s.scheduled)
    (ht' : t' ∈ s.scheduled) (hown : t ≠ .tone .user) (hown' : t' ≠ .tone .user) : t = t' := by
  by_contra hne
  have herase := load_erase_own ht hown
  have hzero : { s with scheduled := s.scheduled.erase t }.load = 0 := by omega
  have hmem : t' ∈ s.scheduled.erase t := (List.mem_erase_of_ne (Ne.symm hne)).mpr ht'
  exact hown' ((load_eq_zero_iff.mp hzero).2 t' hmem)

theorem threatened_filter {holds : List Hold} {p : Hold → Bool} {left : Str}
    (hthreat : threatened holds left = false) : threatened (holds.filter p) left = false := by
  simp only [threatened, Bool.or_eq_false_iff, Bool.and_eq_false_iff, Bool.not_eq_false',
    List.isEmpty_iff] at hthreat ⊢
  refine ⟨?_, hthreat.2⟩
  rcases hthreat.1 with hholds | hany
  · exact .inl (by rw [hholds, List.filter_nil])
  · exact .inr hany

/-- A scheduled event is delivered. -/
theorem ready_executePostDial {t : Trigger} (hguarded : Guarded s h) (ht : t ∈ s.scheduled)
    (hstray : strayHarmless h s (.executePostDial t)) :
    Ready { s with scheduled := s.scheduled.erase t }
      { h with holds := (PostDialEvent.executePostDial t).leaves h.holds } := by
  cases t with
  | tone source =>
    cases source with
    | user =>
      simp only [Ready, load_erase_user ht]
      exact hstray rfl
    | engine =>
      rcases hguarded with hcancelled | hsingle | hthreat
      · exact .inl hcancelled
      · have herase := load_erase_own ht (by decide)
        refine .inr (.inl ?_)
        cases hsingle with
        | running hholds hload hpause => exact ⟨hholds, by omega⟩
        | pausing position hholds hload hpause =>
          have hsame := eq_of_load (by omega) ht hpause (by decide) nofun
          cases hsame
        | waiting hholds hload => omega
      · exact .inr (.inr hthreat)
  | pause position =>
    rcases hguarded with hcancelled | hsingle | hthreat
    · exact .inl hcancelled
    · have herase := load_erase_own ht nofun
      refine .inr (.inl ?_)
      cases hsingle with
      | running hholds hload hpause => exact absurd ht (hpause position)
      | pausing position' hholds hload hpause =>
        have hsame := eq_of_load (by omega) ht hpause nofun nofun
        cases hsame
        exact ⟨by simp [PostDialEvent.leaves, hholds], by omega⟩
      | waiting hholds hload => omega
    · exact .inr (.inr (threatened_filter hthreat))

/-- The user goes on. -/
theorem ready_postDialProceed (hguarded : Guarded s h)
    (hstray : strayHarmless h s (.postDialProceed true)) :
    Ready s { h with holds := (PostDialEvent.postDialProceed true).leaves h.holds } := by
  by_cases hwait : Hold.wait ∈ h.holds
  · rcases hguarded with hcancelled | hsingle | hthreat
    · exact .inl hcancelled
    · refine .inr (.inl ?_)
      cases hsingle with
      | running hholds hload hpause => simp [hholds] at hwait
      | pausing position hholds hload hpause => simp [hholds] at hwait
      | waiting hholds hload => exact ⟨by simp [PostDialEvent.leaves, hholds], hload⟩
    · exact .inr (.inr (threatened_filter hthreat))
  · rcases hstray (by simp [PostDialEvent.isStray, hwait]) with
      hcancelled | ⟨hholds, hload⟩ | hthreat
    · exact .inl hcancelled
    · exact .inr (.inl ⟨by simp [PostDialEvent.leaves, hholds], hload⟩)
    · exact .inr (.inr (threatened_filter hthreat))

/-! ## Runs -/

theorem postDialCallString_updateCallNumber (c : Connection δ) (phoneNum : Str) :
    (c.updateCallNumber phoneNum).postDialCallString = c.postDialCallString ++ postDial phoneNum :=
  rfl

/-- The call comes up. -/
theorem PostDialInv.connected (hinv : PostDialInv s h) (pendingPhoneNumber : Str)
    (hdialled : h.dialled = none) :
    PostDialInv ({ s with
        connection := s.connection.updateCallNumber pendingPhoneNumber }.execute domain).1
      ({ h with dialled := some pendingPhoneNumber }.executed
        ({ s with
          connection := s.connection.updateCallNumber pendingPhoneNumber }.execute domain).1
        ({ s with
          connection := s.connection.updateCallNumber pendingPhoneNumber }.execute domain).2) := by
  obtain ⟨hnext, hholds, hload⟩ := hinv.undialled hdialled
  have hstring : s.connection.postDialCallString = [] := by
    rw [hinv.string, PostDialHistory.postDial, hdialled]
    rfl
  have htones : h.tones = [] := by
    rw [hinv.tones, hnext]
    rfl
  refine PostDialCore.execute ⟨⟨?_, hinv.onTime⟩, ?_, hinv.cancelled⟩ (.inr (.inl ⟨hholds, hload⟩))
    nofun
  · have hnext' : (s.connection.updateCallNumber pendingPhoneNumber).nextPostDialCallCode = 0 :=
      hnext
    simp [htones, hnext']
  · rw [postDialCallString_updateCallNumber, hstring]
    rfl

/-- Requests and executions that leave the load and the pauses as they were. -/
theorem PostDialInv.reschedule (hinv : PostDialInv s h) {requests : List ToneSource}
    {scheduled : List Trigger}
    (hload : { s with requests := requests, scheduled := scheduled }.load = s.load)
    (hpause : ∀ position, .pause position ∈ scheduled ↔ .pause position ∈ s.scheduled) :
    PostDialInv { s with requests := requests, scheduled := scheduled } h := by
  refine ⟨⟨⟨hinv.tones, hinv.onTime⟩, hinv.string, hinv.cancelled⟩, ?_, ?_⟩
  · intro hdialled
    rw [hload]
    exact hinv.undialled hdialled
  · rcases hinv.guarded with hcancelled | hsingle | hthreat
    · exact .inl hcancelled
    · refine .inr (.inl ?_)
      cases hsingle with
      | running hholds hload' hnone =>
        refine .running hholds (by rw [hload]; exact hload') ?_
        intro position
        rw [hpause]
        exact hnone position
      | pausing position hholds hload' hsome =>
        exact .pausing position hholds (by rw [hload]; exact hload') ((hpause position).mpr hsome)
      | waiting hholds hload' => exact .waiting hholds (by rw [hload]; exact hload')
    · exact .inr (.inr hthreat)

/-- A response moves a tone from the modem to the queue. -/
theorem PostDialInv.sendDtmfResponse (hinv : PostDialInv s h) {source : ToneSource}
    (hsource : source ∈ s.requests) :
    PostDialInv { s with
      requests := s.requests.erase source
      scheduled := s.scheduled ++ [Trigger.tone source] } h := by
  refine hinv.reschedule ?_ fun position => by simp
  have hcount := (List.perm_cons_erase hsource).count_eq .engine
  simp only [PostDialState.load, List.countP_append]
  cases source with
  | engine =>
    have hone : [Trigger.tone .engine].countP (fun trigger => trigger != .tone .user) = 1 := rfl
    rw [List.count_cons_self] at hcount
    omega
  | user =>
    have hnone : [Trigger.tone .user].countP (fun trigger => trigger != .tone .user) = 0 := rfl
    rw [List.count_cons_of_ne (by decide)] at hcount
    omega

theorem PostDialInv.executePostDial (hinv : PostDialInv s h) {t : Trigger} (ht : t ∈ s.scheduled)
    (hstray : strayHarmless h s (.executePostDial t)) :
    PostDialInv ({ s with scheduled := s.scheduled.erase t }.execute domain).1
      ({ h with holds := (PostDialEvent.executePostDial t).leaves h.holds }.executed
        ({ s with scheduled := s.scheduled.erase t }.execute domain).1
        ({ s with scheduled := s.scheduled.erase t }.execute domain).2) := by
  refine PostDialCore.execute ⟨⟨hinv.tones, hinv.onTime⟩, hinv.string, hinv.cancelled⟩
    (ready_executePostDial hinv.guarded ht hstray) fun hdialled => ?_
  obtain ⟨hnext, hholds, hload⟩ := hinv.undialled hdialled
  have huser := (load_eq_zero_iff.mp hload).2 t ht
  subst huser
  exact ⟨hnext, hholds, (load_erase_user ht).trans hload⟩

theorem PostDialInv.postDialProceed (hinv : PostDialInv s h)
    (hstray : strayHarmless h s (.postDialProceed true)) :
    PostDialInv (s.execute domain).1
      ({ h with holds := (PostDialEvent.postDialProceed true).leaves h.holds }.executed
        (s.execute domain).1 (s.execute domain).2) := by
  refine PostDialCore.execute ⟨⟨hinv.tones, hinv.onTime⟩, hinv.string, hinv.cancelled⟩
    (ready_postDialProceed hinv.guarded hstray) fun hdialled => ?_
  obtain ⟨hnext, hholds, hload⟩ := hinv.undialled hdialled
  refine ⟨hnext, ?_, hload⟩
  simp [PostDialEvent.leaves, hholds]

/-- A tone of the user changes nothing that the engine waits for. -/
theorem PostDialInv.sendDtmf (hinv : PostDialInv s h) :
    PostDialInv { s with requests := s.requests ++ [ToneSource.user] } h := by
  have hload : { s with requests := s.requests ++ [ToneSource.user] }.load = s.load := by
    simp [PostDialState.load]
  exact hinv.reschedule hload fun _ => Iff.rfl

theorem PostDialInv.step {c : Connection δ} (hinv : PostDialInv s h) (e : PostDialEvent)
    (hallowed : postDialMonitor.allowed h s e) (hstray : strayHarmless h s e) :
    PostDialInv ((postDialMachine domain c).step s e).1
      (postDialMonitor.next (postDialMachine domain c) h s e) := by
  cases e with
  | connected pendingPhoneNumber => exact hinv.connected pendingPhoneNumber hallowed
  | sendDtmfResponse source => exact hinv.sendDtmfResponse hallowed
  | executePostDial trigger => exact hinv.executePostDial hallowed hstray
  | sendDtmf key => exact hinv.sendDtmf
  | startDtmf key => exact hinv
  | postDialProceed proceed =>
    cases proceed with
    | true => exact hinv.postDialProceed hstray
    | false =>
      exact ⟨⟨⟨hinv.tones, hinv.onTime⟩, hinv.string, fun _ => rfl⟩, hinv.undialled, .inl rfl⟩

theorem PostDialInv.init {c : Connection δ} :
    PostDialInv (postDialMachine domain c).init ⟨none, [], [], false, false⟩ :=
  ⟨⟨⟨rfl, rfl⟩, rfl, nofun⟩, fun _ => ⟨rfl, rfl, rfl⟩, .inr (.inr rfl)⟩

end

/-- In every run whose stray executions are harmless, the tones are the DTMF keys of
the dialled number's post-dial part in their order, each once, and none comes
before its wait or pause is over or after the rest was cancelled. -/
theorem playsInOrder_of_run (domain : CallType) (c : Connection δ) {s : PostDialState δ}
    {h : PostDialHistory}
    (hrun : Run (postDialMachine domain c) postDialMonitor strayHarmless s h) :
    PlaysInOrder s h := by
  have hinv : PostDialInv s h :=
    hrun.invariant PostDialInv.init fun _ _ e hinv hallowed hstray => hinv.step e hallowed hstray
  exact hinv.toPlaysInOrder

/-- A dialled number with a wait. -/
def waitsForUser : Str := ['1', '0', ';', '5']

/-- The user plays a tone at the wait: its response sends the next one. -/
theorem not_playsInOrder :
    ¬∀ (domain : CallType) (c : CellularCallConnectionIMS) s h,
      Run (postDialMachine domain c) postDialMonitor unconditional s h → PlaysInOrder s h := by
  intro hclaim
  have hplays := hclaim .ims (Connection.fresh .fresh) _ _
    (Run.of_admits
      [.connected waitsForUser, .sendDtmf '9', .sendDtmfResponse .user,
        .executePostDial (.tone .user)] (by decide))
  exact absurd hplays.onTime (by decide)

/-- The user goes on at the wait. -/
theorem playsInOrder_proceed :
    let final := exec (postDialMachine .ims (Connection.fresh ImsPart.fresh)) postDialMonitor
      (postDialMachine .ims (Connection.fresh ImsPart.fresh)).init ⟨none, [], [], false, false⟩
      [.connected waitsForUser, .postDialProceed true]
    PlaysInOrder final.1 final.2 :=
  playsInOrder_of_run .ims (Connection.fresh ImsPart.fresh) (Run.of_admits _ (by decide))

/-! ## Calls on one connection -/

/-- What a connection finds when it processes a character: whether `GetHandler` has
a handler for the slot, `NeedCallImsService`, and whether the service that the
request goes to takes it. -/
structure PostDialEnv where
  hasHandler : Bool
  needCallImsService : Bool
  takesRequest : Bool
deriving DecidableEq, Repr

/-- Nothing stands in the way of a request. -/
def PostDialEnv.ready : PostDialEnv := ⟨true, true, true⟩

/-- `SendDtmfRequest` of the connections: whether the tone becomes a request.  The
IMS connection asks for the service, the others for the handler. -/
def PostDialEnv.sendDtmfRequest (env : PostDialEnv) : CallType → Bool
  | .ims => env.needCallImsService && env.takesRequest
  | _ => env.hasHandler && env.takesRequest

/-- A DTMF key whose tone is taken, a pause with a handler, or a wait. -/
def PostDialEnv.goesOn (env : PostDialEnv) (domain : CallType) (k : Char) : Bool :=
  (isDtmfKey k && env.sendDtmfRequest domain) || (isPauseKey k && env.hasHandler) || isWaitKey k

section
variable {domain : CallType} {c : Connection δ}

/-- The position never leaves the string. -/
def InRange (c : Connection δ) : Prop := c.nextPostDialCallCode ≤ c.postDialCallString.length

theorem InRange.executePostDial (hrange : InRange c) : InRange (c.executePostDial domain).1 := by
  by_cases hstate : c.postDialCallState = .canceled
  · rw [Connection.executePostDial_of_canceled domain hstate]
    exact hrange
  · cases hleft : c.getLeftPostDialCallString with
    | nil =>
      rw [Connection.executePostDial_of_left_nil domain hstate hleft]
      exact hrange
    | cons k rest =>
      obtain ⟨-, hstring, hnext, -⟩ :=
        Connection.executePostDial_of_left_cons domain hstate hleft
      obtain ⟨hlt, -⟩ := List.getElem?_eq_some_iff.mp (Connection.getElem?_of_left hleft)
      rw [InRange, hstring, hnext]
      omega

theorem InRange.updateCallNumber (hrange : InRange c) (phoneNum : Str) :
    InRange (c.updateCallNumber phoneNum) := by
  rw [InRange, postDialCallString_updateCallNumber, List.length_append]
  exact Nat.le_add_right_of_le hrange

end

end CellularCall
