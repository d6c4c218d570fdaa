import CellularCall.Lib.Machine
import Mathlib.Logic.Function.Basic

/-!
# Threads over a shared memory

A thread is the place its program has reached.  All threads run the programs of one
system, each step of which is atomic: it reads and writes the memory and moves its own
thread.  Beside the threads there are the moves of what surrounds them.  An
interleaving is a run of the machine that takes these moves in any order.

`Threads.invariant` is the rule for such runs: an assertion about the memory, and one
for each thread about the memory and the place it has reached.  A step has to keep the
first, its own thread's and, which is what interference means, those of all others.

`outputs_thread` is about a thread that is left alone: what it sends then does not
depend on the other threads.
-/

namespace Lib

variable {σ π ι ε α ω η : Type}

/-- The outputs of a list of events. -/
def Machine.outputs (M : Machine σ ε ω) : σ → List ε → List ω
  | _, [] => []
  | s, e :: es => (M.step s e).2 ++ M.outputs (M.step s e).1 es

theorem Machine.outputs_append (M : Machine σ ε ω) (s : σ) (es es' : List ε) :
    M.outputs s (es ++ es') =
      M.outputs s es ++ M.outputs (exec M Monitor.free s () es).1 es' := by
  induction es generalizing s with
  | nil => rfl
  | cons e es ih =>
    show _ ++ M.outputs (M.step s e).1 (es ++ es') = _
    rw [ih, ← List.append_assoc]
    rfl

/-- The steps of the programs over a memory `σ`, from place to place, and the moves
around them. -/
structure Threads (σ π ε α ω : Type) where
  init : σ
  idle : π
  step : σ → π → ε → σ × π × List ω
  around : σ → α → σ × List ω

/-- The next step of one thread, or something outside. -/
inductive Move (ι ε α : Type)
  | thread (i : ι) (e : ε)
  | around (a : α)

namespace Threads

/-- All interleavings of the threads `ι`, each idle at the start. -/
def machine (T : Threads σ π ε α ω) (ι : Type) [DecidableEq ι] :
    Machine (σ × (ι → π)) (Move ι ε α) ω where
  init := (T.init, fun _ => T.idle)
  step s e :=
    match e with
    | .thread i e =>
      let r := T.step s.1 (s.2 i) e
      ((r.1, Function.update s.2 i r.2.1), r.2.2)
    | .around a => (((T.around s.1 a).1, s.2), (T.around s.1 a).2)

variable [DecidableEq ι] {T : Threads σ π ε α ω}
  {H : Monitor (σ × (ι → π)) (Move ι ε α) ω η} {C : StepCond (σ × (ι → π)) (Move ι ε α) η}

/-- An assertion about the memory and one about each thread hold on every
interleaving, when every step keeps that of the memory, that of its own thread, and
those of the other threads. -/
theorem invariant {I : σ → η → Prop} {J : σ → η → ι → π → Prop}
    (hinit : I T.init H.init) (hidle : ∀ i, J T.init H.init i T.idle)
    (hown : ∀ s h i e, I s.1 h → (∀ j, J s.1 h j (s.2 j)) → H.allowed h s (.thread i e) →
      C h s (.thread i e) →
      I (T.step s.1 (s.2 i) e).1 (H.next (T.machine ι) h s (.thread i e)) ∧
        J (T.step s.1 (s.2 i) e).1 (H.next (T.machine ι) h s (.thread i e)) i
          (T.step s.1 (s.2 i) e).2.1)
    (hother : ∀ s h i e j, j ≠ i → I s.1 h → (∀ j, J s.1 h j (s.2 j)) →
      H.allowed h s (.thread i e) → C h s (.thread i e) →
      J (T.step s.1 (s.2 i) e).1 (H.next (T.machine ι) h s (.thread i e)) j (s.2 j))
    (haround : ∀ s h a, I s.1 h → (∀ j, J s.1 h j (s.2 j)) → H.allowed h s (.around a) →
      C h s (.around a) →
      I (T.around s.1 a).1 (H.next (T.machine ι) h s (.around a)) ∧
        ∀ j, J (T.around s.1 a).1 (H.next (T.machine ι) h s (.around a)) j (s.2 j))
    {s : σ × (ι → π)} {h : η} (hrun : Run (T.machine ι) H C s h) :
    I s.1 h ∧ ∀ j, J s.1 h j (s.2 j) := by
  induction hrun with
  | start => exact ⟨hinit, hidle⟩
  | @step s h e _ hallowed hcond ih =>
    obtain ⟨hI, hJ⟩ := ih
    cases e with
    | around a => exact haround s h a hI hJ hallowed hcond
    | thread i e =>
      obtain ⟨hI', hJ'⟩ := hown s h i e hI hJ hallowed hcond
      refine ⟨hI', fun j => ?_⟩
      show J _ _ j (Function.update s.2 i (T.step s.1 (s.2 i) e).2.1 j)
      by_cases hj : j = i
      · subst hj
        rw [Function.update_self]
        exact hJ'
      · rw [Function.update_of_ne hj]
        exact hother s h i e j hj hI hJ hallowed hcond

/-- An assertion about the memory alone. -/
theorem invariant_memory {I : σ → η → Prop} (hinit : I T.init H.init)
    (hthread : ∀ s h i e, I s.1 h → H.allowed h s (.thread i e) → C h s (.thread i e) →
      I (T.step s.1 (s.2 i) e).1 (H.next (T.machine ι) h s (.thread i e)))
    (haround : ∀ s h a, I s.1 h → H.allowed h s (.around a) → C h s (.around a) →
      I (T.around s.1 a).1 (H.next (T.machine ι) h s (.around a)))
    {s : σ × (ι → π)} {h : η} (hrun : Run (T.machine ι) H C s h) : I s.1 h := by
  have hboth : I s.1 h ∧ ∀ _ : ι, True :=
    invariant (J := fun _ _ _ _ => True) hinit (fun _ => trivial)
      (fun s h i e hI _ hallowed hcond => ⟨hthread s h i e hI hallowed hcond, trivial⟩)
      (fun _ _ _ _ _ _ _ _ _ _ => trivial)
      (fun s h a hI _ hallowed hcond => ⟨haround s h a hI hallowed hcond, fun _ => trivial⟩)
      hrun
  exact hboth.1

/-! ## A thread left alone -/

/-- What a thread sends when no other moves. -/
def alone (T : Threads σ π ε α ω) : σ → π → List ε → List ω
  | _, _, [] => []
  | s, p, e :: es => (T.step s p e).2.2 ++ T.alone (T.step s p e).1 (T.step s p e).2.1 es

theorem outputs_thread (T : Threads σ π ε α ω) (s : σ × (ι → π)) (i : ι) (es : List ε) :
    (T.machine ι).outputs s (es.map (.thread i)) = T.alone s.1 (s.2 i) es := by
  induction es generalizing s with
  | nil => rfl
  | cons e es ih =>
    show _ ++ (T.machine ι).outputs _ (es.map (.thread i)) = _ ++ T.alone _ _ es
    rw [ih]
    show _ ++ T.alone _ (Function.update s.2 i _ i) es = _
    rw [Function.update_self]
    rfl

end Threads

end Lib
