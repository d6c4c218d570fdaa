import Mathlib.Logic.Basic

/-!
# Machines, monitors and runs

A machine takes events one at a time and answers each with outputs.  What its
environment promises, and what a property has to remember about the past, is
not part of the machine: a monitor watches the run beside it.  Its history is
updated after each step from what went in and what came out, and it says which
events the environment may send next (a response only after its request, say).

`Run M H C` holds of a state and a history that some run reaches, where `C` is
a further condition every step of that run met.  `Run.invariant` is the one
induction; an invariant is proved by its start and its step.

`exec` and `Admits` run a list of events, so that a single run can be evaluated
and then turned into a `Run` by `Run.of_admits`.
-/

namespace Lib

variable {σ ε ω η : Type}

/-- A deterministic machine with states `σ`, events `ε` and outputs `ω`. -/
structure Machine (σ ε ω : Type) where
  init : σ
  step : σ → ε → σ × List ω

/-- A history `η` kept beside the runs of a machine.  `update h s e s' out` is
the history after the step from `s` to `s'` on `e`, which sent `out`. -/
structure Monitor (σ ε ω η : Type) where
  init : η
  allowed : η → σ → ε → Prop
  update : η → σ → ε → σ → List ω → η

namespace Monitor

/-- The monitor that allows every event and remembers nothing. -/
def free : Monitor σ ε ω Unit := ⟨(), fun _ _ _ => True, fun _ _ _ _ _ => ()⟩

instance (h : Unit) (s : σ) (e : ε) :
    Decidable ((free : Monitor σ ε ω Unit).allowed h s e) := isTrue trivial

/-- The history after `M` takes `e` from `s`. -/
def next (H : Monitor σ ε ω η) (M : Machine σ ε ω) (h : η) (s : σ) (e : ε) : η :=
  H.update h s e (M.step s e).1 (M.step s e).2

end Monitor

/-- A condition on one step: the history and the state before it, and the
event. -/
abbrev StepCond (σ ε η : Type) := η → σ → ε → Prop

/-- The condition every step meets. -/
def unconditional : StepCond σ ε η := fun _ _ _ => True

/-- The states and histories reached by runs whose steps the monitor allows and
which all meet `C`. -/
inductive Run (M : Machine σ ε ω) (H : Monitor σ ε ω η) (C : StepCond σ ε η) :
    σ → η → Prop
  | start : Run M H C M.init H.init
  | step {s : σ} {h : η} (e : ε) : Run M H C s h → H.allowed h s e → C h s e →
      Run M H C (M.step s e).1 (H.next M h s e)

namespace Run

variable {M : Machine σ ε ω} {H : Monitor σ ε ω η} {C C' : StepCond σ ε η}

/-- An invariant that holds at the start and is kept by every step of the run
holds wherever the run goes. -/
theorem invariant {I : σ → η → Prop} (hinit : I M.init H.init)
    (hstep : ∀ s h e, I s h → H.allowed h s e → C h s e →
      I (M.step s e).1 (H.next M h s e))
    {s : σ} {h : η} (hrun : Run M H C s h) : I s h := by
  induction hrun with
  | start => exact hinit
  | step e _ hallowed hcond ih => exact hstep _ _ e ih hallowed hcond

/-- A run that meets a condition meets every weaker one. -/
theorem mono (hC : ∀ h s e, C h s e → C' h s e) {s : σ} {h : η}
    (hrun : Run M H C s h) : Run M H C' s h := by
  induction hrun with
  | start => exact start
  | step e _ hallowed hcond ih => exact step e ih hallowed (hC _ _ e hcond)

end Run

/-! ## Running a list of events -/

/-- The state and the history after a list of events. -/
def exec (M : Machine σ ε ω) (H : Monitor σ ε ω η) : σ → η → List ε → σ × η
  | s, h, [] => (s, h)
  | s, h, e :: es => exec M H (M.step s e).1 (H.next M h s e) es

/-- Every step of the list is allowed and meets `C`. -/
def Admits (M : Machine σ ε ω) (H : Monitor σ ε ω η) (C : StepCond σ ε η) :
    σ → η → List ε → Prop
  | _, _, [] => True
  | s, h, e :: es =>
    H.allowed h s e ∧ C h s e ∧ Admits M H C (M.step s e).1 (H.next M h s e) es

instance Admits.decidable (M : Machine σ ε ω) (H : Monitor σ ε ω η)
    (C : StepCond σ ε η) [∀ h s e, Decidable (H.allowed h s e)]
    [∀ h s e, Decidable (C h s e)] :
    ∀ s h es, Decidable (Admits M H C s h es)
  | _, _, [] => isTrue trivial
  | s, h, e :: es =>
    haveI := Admits.decidable M H C (M.step s e).1 (H.next M h s e) es
    inferInstanceAs (Decidable (_ ∧ _ ∧ _))

instance (h : η) (s : σ) (e : ε) : Decidable (unconditional h s e) :=
  isTrue trivial

/-- A list of admitted events extends a run. -/
theorem Run.exec {M : Machine σ ε ω} {H : Monitor σ ε ω η} {C : StepCond σ ε η}
    {s : σ} {h : η} (hrun : Run M H C s h) {es : List ε}
    (hes : Admits M H C s h es) :
    Run M H C (Lib.exec M H s h es).1 (Lib.exec M H s h es).2 := by
  induction es generalizing s h with
  | nil => exact hrun
  | cons e es ih => exact ih (.step e hrun hes.1 hes.2.1) hes.2.2

/-- A list of admitted events from the start is a run. -/
theorem Run.of_admits {M : Machine σ ε ω} {H : Monitor σ ε ω η}
    {C : StepCond σ ε η} (es : List ε) (hes : Admits M H C M.init H.init es) :
    Run M H C (Lib.exec M H M.init H.init es).1
      (Lib.exec M H M.init H.init es).2 :=
  Run.start.exec hes

end Lib
