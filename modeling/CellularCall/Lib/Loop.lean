import Mathlib.Logic.Basic

/-!
# Loops

A loop goes from state to state until a test ends it: `next s` is the state after
one more round, or `none` where the loop ends.  `run next fuel s` takes at most
`fuel` rounds.  `Ends next s t` says that the loop entered in `s` is left in `t`.

A loop that always finds another round while an invariant holds never ends
(`not_ends_of_invariant`).  One whose rounds keep an invariant and make a measure
smaller ends (`exists_ends`), in one state (`Ends.unique`), where the invariant
holds and there is no further round (`Ends.invariant`).
-/

namespace Lib.Loop

variable {σ : Type}

/-- The state in which the loop is left, if that takes at most `fuel` tests. -/
def run (next : σ → Option σ) : Nat → σ → Option σ
  | 0, _ => none
  | fuel + 1, s =>
    match next s with
    | none => some s
    | some s' => run next fuel s'

/-- The loop entered in `s` is left in `t`. -/
def Ends (next : σ → Option σ) (s t : σ) : Prop := ∃ fuel, run next fuel s = some t

variable {next : σ → Option σ} {s s' t t' : σ}

theorem run_of_none (hs : next s = none) (fuel : Nat) : run next (fuel + 1) s = some s := by
  simp only [run, hs]

theorem run_of_some (hs : next s = some s') (fuel : Nat) :
    run next (fuel + 1) s = run next fuel s' := by
  simp only [run, hs]

theorem ends_of_none (hs : next s = none) : Ends next s t ↔ s = t := by
  constructor
  · intro h
    obtain ⟨fuel, hrun⟩ := h
    cases fuel with
    | zero => cases hrun
    | succ fuel =>
      rw [run_of_none hs] at hrun
      exact Option.some.inj hrun
  · intro h
    subst h
    exact ⟨1, run_of_none hs 0⟩

/-- A round that is made leaves the end where it is. -/
theorem ends_of_some (hs : next s = some s') : Ends next s t ↔ Ends next s' t := by
  constructor
  · intro h
    obtain ⟨fuel, hrun⟩ := h
    cases fuel with
    | zero => cases hrun
    | succ fuel =>
      rw [run_of_some hs] at hrun
      exact ⟨fuel, hrun⟩
  · intro h
    obtain ⟨fuel, hrun⟩ := h
    exact ⟨fuel + 1, by rw [run_of_some hs, hrun]⟩

/-- While the invariant holds there is another round, so the loop never ends. -/
theorem not_ends_of_invariant {I : σ → Prop}
    (hI : ∀ s, I s → ∃ s', next s = some s' ∧ I s') (hs : I s) : ¬Ends next s t := by
  intro h
  obtain ⟨fuel, hrun⟩ := h
  induction fuel generalizing s with
  | zero => cases hrun
  | succ fuel ih =>
    obtain ⟨s', hnext, hs'⟩ := hI s hs
    rw [run_of_some hnext] at hrun
    exact ih hs' hrun

/-- Where the rounds keep an invariant, it holds where the loop is left. -/
theorem Ends.invariant {I : σ → Prop} (hI : ∀ s s', I s → next s = some s' → I s')
    (hs : I s) (h : Ends next s t) : I t ∧ next t = none := by
  obtain ⟨fuel, hrun⟩ := h
  induction fuel generalizing s with
  | zero => cases hrun
  | succ fuel ih =>
    cases hnext : next s with
    | none =>
      rw [run_of_none hnext] at hrun
      obtain rfl := Option.some.inj hrun
      exact ⟨hs, hnext⟩
    | some s' =>
      rw [run_of_some hnext] at hrun
      exact ih (hI s s' hs hnext) hrun

/-- A loop is left in one state. -/
theorem Ends.unique (h : Ends next s t) (h' : Ends next s t') : t = t' := by
  obtain ⟨fuel, hrun⟩ := h
  induction fuel generalizing s with
  | zero => cases hrun
  | succ fuel ih =>
    cases hnext : next s with
    | none =>
      rw [run_of_none hnext] at hrun
      rw [ends_of_none hnext] at h'
      rw [← h']
      exact (Option.some.inj hrun).symm
    | some s' =>
      rw [run_of_some hnext] at hrun
      rw [ends_of_some hnext] at h'
      exact ih h' hrun

/-- A loop ends if its rounds keep an invariant and make a measure smaller. -/
theorem exists_ends {I : σ → Prop} (size : σ → Nat)
    (hI : ∀ s s', I s → next s = some s' → I s' ∧ size s' < size s) (hs : I s) :
    ∃ t, Ends next s t := by
  induction hn : size s using Nat.strongRecOn generalizing s with
  | ind n ih =>
    cases hnext : next s with
    | none => exact ⟨s, (ends_of_none hnext).mpr rfl⟩
    | some s' =>
      obtain ⟨hs', hlt⟩ := hI s s' hs hnext
      obtain ⟨t, ht⟩ := ih (size s') (hn ▸ hlt) hs' rfl
      exact ⟨t, (ends_of_some hnext).mpr ht⟩

end Lib.Loop
