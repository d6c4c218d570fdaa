import Mathlib.Data.List.Basic

/-!
# Regular expressions with groups

`Matches r s c` says that the expression `r` matches all of `s` and that its
groups capture `c`.  `parses` lists the ways to match a prefix in the order in
which a backtracking matcher tries them, the greedy ones first; `fullMatch` is
the first of them that uses up the string.

A repetition is of one class of characters, so a group captures at most once.
Where an expression captures in one way only, the order does not matter
(`fullMatch_eq_some_iff`).
-/

namespace Lib

/-- A regular expression over the characters `α`. -/
inductive Regex (α : Type) where
  /-- these characters -/
  | word (w : List α)
  /-- at least `lo` and at most `hi` characters of the class `p` -/
  | rep (p : α → Bool) (lo : Nat) (hi : Option Nat)
  | seq (r₁ r₂ : Regex α)
  | alt (r₁ r₂ : Regex α)
  /-- `r` or nothing -/
  | opt (r : Regex α)
  /-- `r`, captured as group `n` -/
  | group (n : Nat) (r : Regex α)

namespace Regex

variable {α : Type}

/-- What the groups captured. -/
abbrev Captures (α : Type) := List (Nat × List α)

/-- The capture of group `n`, empty if it took no part in the match. -/
def Captures.str (c : Captures α) (n : Nat) : List α := (c.lookup n).getD []

/-- The number of characters of a repetition lies between its bounds. -/
def InBounds (lo : Nat) (hi : Option Nat) (n : Nat) : Prop := lo ≤ n ∧ ∀ h ∈ hi, n ≤ h

/-- `r` matches `s`, and its groups capture `c`. -/
def Matches : Regex α → List α → Captures α → Prop
  | word w, s, c => s = w ∧ c = []
  | rep p lo hi, s, c => (∀ x ∈ s, p x = true) ∧ InBounds lo hi s.length ∧ c = []
  | seq r₁ r₂, s, c =>
    ∃ s₁ c₁ s₂ c₂, r₁.Matches s₁ c₁ ∧ r₂.Matches s₂ c₂ ∧ s = s₁ ++ s₂ ∧ c = c₁ ++ c₂
  | alt r₁ r₂, s, c => r₁.Matches s c ∨ r₂.Matches s c
  | opt r, s, c => r.Matches s c ∨ s = [] ∧ c = []
  | group n r, s, c => ∃ c', r.Matches s c' ∧ c = (n, s) :: c'

/-! ## The matcher -/

/-- What is left of `s` after a repetition, the shortest rest first. -/
def rests (p : α → Bool) : Nat → Option Nat → List α → List (List α)
  | lo, _, [] => if lo = 0 then [[]] else []
  | lo, hi, x :: xs =>
    (if p x = true ∧ hi ≠ some 0 then rests p (lo - 1) (hi.map (· - 1)) xs else []) ++
      if lo = 0 then [x :: xs] else []

/-- What is left of `s` and what is captured, for each way to match a prefix. -/
def parses [DecidableEq α] : Regex α → List α → List (List α × Captures α)
  | word w, s => if w <+: s then [(s.drop w.length, [])] else []
  | rep p lo hi, s => (rests p lo hi s).map fun v => (v, [])
  | seq r₁ r₂, s =>
    (r₁.parses s).flatMap fun a => (r₂.parses a.1).map fun b => (b.1, a.2 ++ b.2)
  | alt r₁ r₂, s => r₁.parses s ++ r₂.parses s
  | opt r, s => r.parses s ++ [(s, [])]
  | group n r, s => (r.parses s).map fun a => (a.1, (n, s.take (s.length - a.1.length)) :: a.2)

/-- The captures of the match a backtracking matcher finds for the whole string. -/
def fullMatch [DecidableEq α] (r : Regex α) (s : List α) : Option (Captures α) :=
  ((r.parses s).find? fun a => a.1.isEmpty).map Prod.snd

theorem inBounds_zero {lo : Nat} {hi : Option Nat} : InBounds lo hi 0 ↔ lo = 0 := by
  simp [InBounds]

theorem inBounds_succ {lo : Nat} {hi : Option Nat} {n : Nat} :
    InBounds lo hi (n + 1) ↔ hi ≠ some 0 ∧ InBounds (lo - 1) (hi.map (· - 1)) n := by
  cases hi with
  | none => simp [InBounds]
  | some h =>
    simp only [InBounds, Option.mem_def, Option.some.injEq, forall_eq', ne_eq, Option.map_some]
    omega

theorem mem_rests {p : α → Bool} {lo : Nat} {hi : Option Nat} {s v : List α} :
    v ∈ rests p lo hi s ↔
      ∃ u, s = u ++ v ∧ (∀ x ∈ u, p x = true) ∧ InBounds lo hi u.length := by
  induction s generalizing lo hi with
  | nil =>
    have hsplit : ∀ u, ([] : List α) = u ++ v ↔ u = [] ∧ v = [] := fun u => by
      rw [eq_comm, List.append_eq_nil_iff]
    simp only [rests, hsplit]
    constructor
    · intro hv
      split at hv
      · rename_i hlo
        exact ⟨[], ⟨rfl, List.mem_singleton.mp hv⟩, by simp, inBounds_zero.mpr hlo⟩
      · cases hv
    · intro h
      obtain ⟨u, ⟨rfl, rfl⟩, -, hbounds⟩ := h
      rw [if_pos (inBounds_zero.mp hbounds)]
      exact List.mem_singleton.mpr rfl
  | cons x xs ih =>
    rw [rests, List.mem_append]
    constructor
    · intro h
      rcases h with hv | hv
      · split at hv
        · rename_i hx
          obtain ⟨u, rfl, hu, hbounds⟩ := ih.mp hv
          refine ⟨x :: u, rfl, ?_, inBounds_succ.mpr ⟨hx.2, hbounds⟩⟩
          intro y hy
          rcases List.mem_cons.mp hy with rfl | hy
          · exact hx.1
          · exact hu y hy
        · cases hv
      · split at hv
        · rename_i hlo
          exact ⟨[], (List.mem_singleton.mp hv).symm, by simp, inBounds_zero.mpr hlo⟩
        · cases hv
    · intro h
      obtain ⟨u, hs, hu, hbounds⟩ := h
      cases u with
      | nil =>
        refine Or.inr ?_
        rw [if_pos (inBounds_zero.mp hbounds), List.mem_singleton]
        exact hs.symm
      | cons y u =>
        obtain ⟨rfl, rfl⟩ := List.cons.inj hs
        have hsucc := inBounds_succ.mp hbounds
        refine Or.inl ?_
        rw [if_pos ⟨hu x List.mem_cons_self, hsucc.1⟩]
        exact ih.mpr ⟨u, rfl, fun y hy => hu y (List.mem_cons_of_mem _ hy), hsucc.2⟩

variable [DecidableEq α]

/-- The matcher tries exactly the prefixes the expression matches. -/
theorem mem_parses {r : Regex α} {s v : List α} {c : Captures α} :
    (v, c) ∈ r.parses s ↔ ∃ u, s = u ++ v ∧ r.Matches u c := by
  induction r generalizing s v c with
  | word w =>
    simp only [parses, Matches]
    constructor
    · intro h
      split at h
      · rename_i hw
        obtain ⟨v', rfl⟩ := hw
        rw [List.drop_left, List.mem_singleton, Prod.mk.injEq] at h
        exact ⟨w, by rw [h.1], rfl, h.2⟩
      · cases h
    · intro h
      obtain ⟨u, rfl, rfl, rfl⟩ := h
      rw [if_pos (List.prefix_append u v), List.drop_left]
      exact List.mem_singleton.mpr rfl
  | rep p lo hi =>
    simp only [parses, Matches, List.mem_map, Prod.mk.injEq]
    constructor
    · intro h
      obtain ⟨v', hv', rfl, rfl⟩ := h
      obtain ⟨u, hs, hu, hbounds⟩ := mem_rests.mp hv'
      exact ⟨u, hs, hu, hbounds, rfl⟩
    · intro h
      obtain ⟨u, hs, hu, hbounds, rfl⟩ := h
      exact ⟨v, mem_rests.mpr ⟨u, hs, hu, hbounds⟩, rfl, rfl⟩
  | seq r₁ r₂ ih₁ ih₂ =>
    simp only [parses, Matches, List.mem_flatMap, List.mem_map, Prod.mk.injEq, Prod.exists]
    constructor
    · intro h
      obtain ⟨v₁, c₁, h₁, v₂, c₂, h₂, rfl, rfl⟩ := h
      obtain ⟨u₁, rfl, hm₁⟩ := ih₁.mp h₁
      obtain ⟨u₂, rfl, hm₂⟩ := ih₂.mp h₂
      exact ⟨u₁ ++ u₂, (List.append_assoc ..).symm, u₁, c₁, u₂, c₂, hm₁, hm₂, rfl, rfl⟩
    · intro h
      obtain ⟨u, rfl, u₁, c₁, u₂, c₂, hm₁, hm₂, rfl, rfl⟩ := h
      exact ⟨u₂ ++ v, c₁, ih₁.mpr ⟨u₁, List.append_assoc .., hm₁⟩, v, c₂,
        ih₂.mpr ⟨u₂, rfl, hm₂⟩, rfl, rfl⟩
  | alt r₁ r₂ ih₁ ih₂ =>
    simp only [parses, Matches, List.mem_append, ih₁, ih₂, and_or_left, exists_or]
  | opt r ih =>
    simp only [parses, Matches, List.mem_append, ih, and_or_left, exists_or, List.mem_singleton,
      Prod.mk.injEq]
    refine or_congr Iff.rfl ?_
    constructor
    · intro h
      obtain ⟨rfl, rfl⟩ := h
      exact ⟨[], rfl, rfl, rfl⟩
    · intro h
      obtain ⟨u, rfl, rfl, rfl⟩ := h
      exact ⟨rfl, rfl⟩
  | group n r ih =>
    simp only [parses, Matches, List.mem_map, Prod.mk.injEq, Prod.exists]
    have htake : ∀ u : List α, (u ++ v).take ((u ++ v).length - v.length) = u := fun u => by
      rw [List.length_append, Nat.add_sub_cancel, List.take_left]
    constructor
    · intro h
      obtain ⟨v', c', h, rfl, rfl⟩ := h
      obtain ⟨u, rfl, hm⟩ := ih.mp h
      exact ⟨u, rfl, c', hm, by rw [htake]⟩
    · intro h
      obtain ⟨u, rfl, c', hm, rfl⟩ := h
      exact ⟨v, c', ih.mpr ⟨u, rfl, hm⟩, rfl, by rw [htake]⟩

theorem matches_of_fullMatch {r : Regex α} {s : List α} {c : Captures α}
    (h : r.fullMatch s = some c) : r.Matches s c := by
  obtain ⟨⟨v, c'⟩, hfind, rfl⟩ := Option.map_eq_some_iff.mp h
  have hv : v = [] := by simpa using List.find?_some hfind
  obtain ⟨u, rfl, hm⟩ := mem_parses.mp (List.mem_of_find?_eq_some hfind)
  rw [hv, List.append_nil]
  exact hm

theorem exists_fullMatch {r : Regex α} {s : List α} {c : Captures α} (h : r.Matches s c) :
    ∃ c', r.fullMatch s = some c' := by
  have hmem : ([], c) ∈ r.parses s := mem_parses.mpr ⟨s, (List.append_nil s).symm, h⟩
  cases hfind : (r.parses s).find? fun a => a.1.isEmpty with
  | none => exact absurd rfl (List.find?_eq_none.mp hfind _ hmem)
  | some a => exact ⟨a.2, by rw [fullMatch, hfind]; rfl⟩

/-- A string is matched in one way at most. -/
def Unambiguous (r : Regex α) : Prop := ∀ s c c', r.Matches s c → r.Matches s c' → c = c'

/-- The matcher finds the only match there is. -/
theorem fullMatch_eq_some_iff {r : Regex α} (hr : r.Unambiguous) {s : List α} {c : Captures α} :
    r.fullMatch s = some c ↔ r.Matches s c := by
  refine ⟨matches_of_fullMatch, fun h => ?_⟩
  obtain ⟨c', hc'⟩ := exists_fullMatch h
  rw [hc', hr s c' c (matches_of_fullMatch hc') h]

/-! ## Runs of a class -/

omit [DecidableEq α]

theorem takeWhile_of_run {p : α → Bool} {u v : List α} (hu : ∀ x ∈ u, p x = true)
    (hv : ∀ x ∈ v.head?, p x = false) : (u ++ v).takeWhile p = u := by
  rw [List.takeWhile_append_of_pos hu]
  cases v with
  | nil => exact List.append_nil u
  | cons x v => rw [List.takeWhile_cons, hv x rfl, if_neg Bool.false_ne_true, List.append_nil]

/-- A run of a class ends at the first character outside the class. -/
theorem append_inj_of_run {p : α → Bool} {u u' v v' : List α} (hu : ∀ x ∈ u, p x = true)
    (hu' : ∀ x ∈ u', p x = true) (hv : ∀ x ∈ v.head?, p x = false)
    (hv' : ∀ x ∈ v'.head?, p x = false) (h : u ++ v = u' ++ v') : u = u' ∧ v = v' := by
  have hrun : u = u' := by
    rw [← takeWhile_of_run hu hv, h, takeWhile_of_run hu' hv']
  subst hrun
  exact ⟨rfl, List.append_cancel_left h⟩

end Regex

end Lib
