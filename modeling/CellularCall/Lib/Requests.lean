import Mathlib.Data.List.Basic

/-!
# Numbered requests

Requests are numbered as they are sent, and each is answered at most once.
`Requests` remembers the next number and the requests without an answer; a
request that is refused is not sent and gets no number.
-/

namespace Lib

/-- The number of the next request, and the requests not answered yet. -/
structure Requests where
  next : Nat
  unanswered : List Nat
deriving DecidableEq, Repr

namespace Requests

/-- No request has been sent. -/
def none : Requests := ⟨0, []⟩

/-- The number of a request that is made now. -/
def number (r : Requests) (sent : Bool) : Option Nat := if sent then some r.next else Option.none

/-- A request is made. -/
def send (r : Requests) (sent : Bool) : Requests :=
  if sent then ⟨r.next + 1, r.next :: r.unanswered⟩ else r

/-- The request `q` is answered. -/
def answer (r : Requests) (q : Nat) : Requests :=
  { r with unanswered := r.unanswered.filter fun p => decide (p ≠ q) }

/-- No number is given twice. -/
def Fresh (r : Requests) : Prop := ∀ q ∈ r.unanswered, q < r.next

theorem fresh_none : none.Fresh := by
  intro q hq
  cases hq

theorem next_le_send (r : Requests) (sent : Bool) : r.next ≤ (r.send sent).next := by
  cases sent
  · exact Nat.le_refl _
  · exact Nat.le_succ _

theorem lt_next_of_number {r : Requests} {sent : Bool} {q : Nat} (h : r.number sent = some q) :
    q < (r.send sent).next := by
  cases sent with
  | false => cases h
  | true =>
    rw [← Option.some.inj h]
    exact Nat.lt_succ_self _

theorem mem_send {r : Requests} {sent : Bool} {q : Nat} :
    q ∈ (r.send sent).unanswered ↔ r.number sent = some q ∨ q ∈ r.unanswered := by
  cases sent
  · simp [send, number]
  · simp [send, number, eq_comm]

theorem mem_answer {r : Requests} {p q : Nat} :
    p ∈ (r.answer q).unanswered ↔ p ∈ r.unanswered ∧ p ≠ q := by
  simp [answer]

theorem Fresh.send {r : Requests} (hr : r.Fresh) (sent : Bool) : (r.send sent).Fresh := by
  intro q hq
  rcases mem_send.mp hq with hq | hq
  · exact lt_next_of_number hq
  · exact Nat.lt_of_lt_of_le (hr q hq) (next_le_send r sent)

theorem Fresh.answer {r : Requests} (hr : r.Fresh) (q : Nat) : (r.answer q).Fresh :=
  fun p hp => hr p (mem_answer.mp hp).1

end Requests

end Lib
