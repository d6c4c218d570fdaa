import Mathlib.Data.List.Infix

/-!
# Finding a word in a list

`find s f start` is the first position of `s`, from `start` on, at which the word
`f` stands, as `std::string::find` has it.  Where it finds one, it cuts what lies
behind `start` in two (`find_append_some`); where it finds none, there is none
(`find_append_none`).

`IsCut f s pieces` says that `s` is the pieces with `f` between them, and that no
piece contains `f`.  At a word of one letter there is one such cut, `splitOn`
(`isCut_singleton`).
-/

namespace Lib.Find

variable {α : Type}

section
variable [DecidableEq α]

/-- The first position from `start` on at which `f` stands in `s`. -/
def find (s f : List α) (start : Nat) : Option Nat :=
  (List.range' start (s.length + 1 - start)).find? fun pos => f.isPrefixOf (s.drop pos)

variable {f before rest : List α} {pos : Nat}

/-- `f` stands behind `before` and `a`. -/
theorem stands_behind {a b : List α} (hrest : a ++ f ++ b = rest) :
    f.isPrefixOf ((before ++ rest).drop (before.length + a.length)) = true := by
  rw [List.drop_length_add_append, ← hrest, List.append_assoc, List.drop_left,
    List.isPrefixOf_iff_prefix]
  exact List.prefix_append f b

/-- What lies behind the start is cut at the first `f`. -/
theorem find_append_some (hf : f ≠ [])
    (hfind : find (before ++ rest) f before.length = some pos) :
    ∃ piece after, rest = piece ++ f ++ after ∧ pos = before.length + piece.length ∧
      ¬f <:+: piece := by
  have hflen : 0 < f.length := List.length_pos_iff.mpr hf
  rw [find, List.find?_range'_eq_some] at hfind
  obtain ⟨hat, hmem, hfirst⟩ := hfind
  rw [List.mem_range'_1] at hmem
  obtain ⟨n, hn⟩ := Nat.exists_eq_add_of_le hmem.1
  subst hn
  rw [List.isPrefixOf_iff_prefix, List.drop_length_add_append] at hat
  obtain ⟨after, hafter⟩ := hat
  have hlen : (rest.take n).length = n := by
    have := congrArg List.length hafter
    rw [List.length_append, List.length_drop] at this
    rw [List.length_take]
    omega
  refine ⟨rest.take n, after, ?_, by rw [hlen], ?_⟩
  · rw [List.append_assoc, hafter, List.take_append_drop]
  · intro hinfix
    obtain ⟨a, b, hab⟩ := hinfix
    -- an `f` inside the piece would have been found before
    have hearlier : before.length + a.length < before.length + n := by
      have := congrArg List.length hab
      simp only [List.length_append, hlen] at this
      omega
    have hstands : f.isPrefixOf ((before ++ rest).drop (before.length + a.length)) = true :=
      stands_behind (b := b ++ rest.drop n)
        (by rw [← List.append_assoc, hab, List.take_append_drop])
    have hnot := hfirst _ (Nat.le_add_right _ _) hearlier
    rw [hstands] at hnot
    cases hnot

/-- Nothing is found behind the start only if `f` is not there. -/
theorem find_append_none (hfind : find (before ++ rest) f before.length = none) :
    ¬f <:+: rest := by
  intro hinfix
  obtain ⟨a, b, hab⟩ := hinfix
  rw [find, List.find?_range'_eq_none] at hfind
  have hlen := congrArg List.length hab
  simp only [List.length_append] at hlen
  have hnot := hfind (before.length + a.length) (Nat.le_add_right _ _)
    (by rw [List.length_append]; omega)
  rw [stands_behind hab] at hnot
  cases hnot

end

/-! ## Cuts -/

/-- `s` is the pieces with `f` between them, and no piece contains `f`. -/
structure IsCut (f s : List α) (pieces : List (List α)) : Prop where
  ne_nil : pieces ≠ []
  joined : f.intercalate pieces = s
  free : ∀ piece ∈ pieces, ¬f <:+: piece

section
variable {f s : List α} {pieces : List (List α)} {a : α}

/-- A last piece goes behind a separator. -/
theorem intercalate_concat (hpieces : pieces ≠ []) (piece : List α) :
    f.intercalate (pieces ++ [piece]) = f.intercalate pieces ++ f ++ piece := by
  induction pieces with
  | nil => exact absurd rfl hpieces
  | cons p ps ih =>
    cases ps with
    | nil => simp
    | cons q qs =>
      have hrest := ih (List.cons_ne_nil q qs)
      rw [List.cons_append, List.cons_append, List.intercalate_cons_cons,
        List.intercalate_cons_cons, ← List.cons_append, hrest]
      simp only [List.append_assoc]

/-- Pieces that each have `f` behind them, and a last one. -/
theorem intercalate_of_followed (pieces : List (List α)) (rest : List α) :
    f.intercalate (pieces ++ [rest]) = (pieces.map (· ++ f)).flatten ++ rest := by
  induction pieces with
  | nil => simp
  | cons p ps ih =>
    have hne : ps ++ [rest] ≠ [] := by simp
    rw [List.cons_append, List.intercalate_cons_of_ne_nil hne, ih]
    simp only [List.map_cons, List.flatten_cons, List.append_assoc]

theorem singleton_infix_iff : [a] <:+: s ↔ a ∈ s := by
  constructor
  · intro h
    exact h.subset (List.mem_singleton_self a)
  · intro h
    obtain ⟨l, r, hs⟩ := List.append_of_mem h
    exact ⟨l, r, by rw [hs, List.append_assoc]; rfl⟩

/-- At a letter a list is cut in one way. -/
theorem isCut_singleton [DecidableEq α] (hcut : IsCut [a] s pieces) : pieces = s.splitOn a := by
  have hfree : ∀ piece ∈ pieces, a ∉ piece := fun piece hmem hin =>
    hcut.free piece hmem (singleton_infix_iff.mpr hin)
  rw [← hcut.joined, List.splitOn_intercalate a hfree hcut.ne_nil]

end

end Lib.Find
