import Mathlib.Logic.Function.Basic

/-!
# Locks

A lock is free or taken, and a thread that is between taking one and giving it back
holds it.  `LockStep` is what one step of a thread may do to the locks; `Exclusive` says
that what is held is taken, and by one thread.  Every such step of every thread keeps it
(`Exclusive.step`).

A thread holds one lock at a time here.
-/

namespace Lib

variable {ι κ : Type}

/-- What a step of a thread does to the locks: nothing, or it takes a free one or gives
back its own. -/
inductive LockStep [DecidableEq κ] (locked : κ → Bool) (holds : Option κ) :
    (κ → Bool) → Option κ → Prop
  | keep : LockStep locked holds locked holds
  | acquire (k : κ) : locked k = false → holds = none →
      LockStep locked holds (Function.update locked k true) (some k)
  | release (k : κ) : holds = some k →
      LockStep locked holds (Function.update locked k false) none

/-- What a thread holds is taken, and no other thread holds it. -/
structure Exclusive (locked : κ → Bool) (holds : ι → Option κ) : Prop where
  locked : ∀ i k, holds i = some k → locked k = true
  unique : ∀ i j k, holds i = some k → holds j = some k → i = j

/-- Nothing is held at the start. -/
theorem Exclusive.of_none {locked : κ → Bool} : Exclusive locked fun _ : ι => none :=
  ⟨nofun, nofun⟩

theorem Exclusive.step [DecidableEq ι] [DecidableEq κ] {locked locked' : κ → Bool}
    {holds : ι → Option κ} {i : ι} {holds' : Option κ} (h : Exclusive locked holds)
    (hstep : LockStep locked (holds i) locked' holds') :
    Exclusive locked' (Function.update holds i holds') := by
  cases hstep with
  | keep =>
    rw [Function.update_eq_self]
    exact h
  | acquire k hfree hnone =>
    -- nobody held the lock, as it was free
    have hnobody : ∀ j, holds j ≠ some k := by
      intro j hj
      rw [h.locked j k hj] at hfree
      cases hfree
    refine ⟨fun j l hl => ?_, fun a b l ha hb => ?_⟩
    · by_cases hlk : l = k
      · rw [hlk, Function.update_self]
      · rw [Function.update_of_ne hlk]
        by_cases hj : j = i
        · rw [hj, Function.update_self, Option.some.injEq] at hl
          exact absurd hl.symm hlk
        · rw [Function.update_of_ne hj] at hl
          exact h.locked j l hl
    · by_cases hai : a = i
      · rw [hai, Function.update_self, Option.some.injEq] at ha
        by_cases hbi : b = i
        · rw [hai, hbi]
        · rw [Function.update_of_ne hbi] at hb
          exact absurd (ha ▸ hb) (hnobody b)
      · rw [Function.update_of_ne hai] at ha
        by_cases hbi : b = i
        · rw [hbi, Function.update_self, Option.some.injEq] at hb
          exact absurd (hb ▸ ha) (hnobody a)
        · rw [Function.update_of_ne hbi] at hb
          exact h.unique a b l ha hb
  | release k hheld =>
    refine ⟨fun j l hl => ?_, fun a b l ha hb => ?_⟩
    · by_cases hj : j = i
      · rw [hj, Function.update_self] at hl
        cases hl
      · rw [Function.update_of_ne hj] at hl
        have hlk : l ≠ k := fun heq => hj (h.unique j i k (heq ▸ hl) hheld)
        rw [Function.update_of_ne hlk]
        exact h.locked j l hl
    · by_cases hai : a = i
      · rw [hai, Function.update_self] at ha
        cases ha
      · by_cases hbi : b = i
        · rw [hbi, Function.update_self] at hb
          cases hb
        · rw [Function.update_of_ne hai] at ha
          rw [Function.update_of_ne hbi] at hb
          exact h.unique a b l ha hb

end Lib
