import Mathlib.Data.List.Nodup

/-!
# Outputs with an address

A loop that serves one address after another leaves a list of outputs, each with
the address it is for.  `sentTo` picks the outputs for one address, and
`sentTo_flatMap` says which round of the loop they come from.

A loop that stops at the first element with some property has served the
elements of `upTo`.
-/

namespace Lib

variable {α κ ω : Type}

/-- The outputs for one address, in their order. -/
def sentTo [DecidableEq κ] (key : κ) (sent : List (κ × ω)) : List ω :=
  (sent.filter fun p => decide (p.1 = key)).map Prod.snd

section
variable [DecidableEq κ] (key : κ)

@[simp] theorem sentTo_nil : sentTo key ([] : List (κ × ω)) = [] := rfl

@[simp] theorem sentTo_append (sent sent' : List (κ × ω)) :
    sentTo key (sent ++ sent') = sentTo key sent ++ sentTo key sent' := by
  simp [sentTo]

@[simp] theorem sentTo_map_mk (k : κ) (l : List ω) :
    sentTo key (l.map (Prod.mk k)) = if k = key then l else [] := by
  by_cases hk : k = key
  · simp [sentTo, List.filter_map, Function.comp_def, hk]
  · simp [sentTo, List.filter_map, Function.comp_def, hk]

theorem sentTo_eq_nil {key : κ} {sent : List (κ × ω)} (h : ∀ p ∈ sent, p.1 ≠ key) :
    sentTo key sent = [] := by
  rw [sentTo, List.map_eq_nil_iff, List.filter_eq_nil_iff]
  intro p hp
  simpa using h p hp

/-- A loop whose round for `a` sends to addresses of `a` only: what is sent to
an address comes from the one round it belongs to. -/
theorem sentTo_flatMap [DecidableEq α] (owner : κ → α) {round : α → List (κ × ω)}
    (howner : ∀ a, ∀ p ∈ round a, owner p.1 = a) {l : List α} (hl : l.Nodup) :
    sentTo key (l.flatMap round) =
      if owner key ∈ l then sentTo key (round (owner key)) else [] := by
  have hother : ∀ a, a ≠ owner key → sentTo key (round a) = [] := by
    intro a ha
    refine sentTo_eq_nil fun p hp hkey => ha ?_
    rw [← howner a p hp, hkey]
  induction l with
  | nil => rfl
  | cons a l ih =>
    obtain ⟨ha, hl⟩ := List.nodup_cons.mp hl
    rw [List.flatMap_cons, sentTo_append, ih hl]
    by_cases heq : a = owner key
    · rw [heq] at ha
      rw [heq, if_neg ha, if_pos List.mem_cons_self, List.append_nil]
    · rw [hother a heq, List.nil_append]
      exact if_congr (by simp [List.mem_cons, Ne.symm heq]) rfl rfl

end

/-! ## Loops that stop -/

/-- The elements up to the first with `p`, and that one. -/
def upTo (p : α → Bool) : List α → List α
  | [] => []
  | a :: l => if p a then [a] else a :: upTo p l

theorem upTo_sublist (p : α → Bool) (l : List α) : (upTo p l).Sublist l := by
  induction l with
  | nil => exact .slnil
  | cons a l ih =>
    rw [upTo]
    split
    · exact (List.nil_sublist l).cons_cons a
    · exact ih.cons_cons a

/-- What holds of the elements the loop has not come to holds after each element
with `p`, and the other way round. -/
theorem forall_not_mem_upTo_iff {p : α → Bool} {q : α → Prop} {l : List α} (hl : l.Nodup) :
    (∀ b ∈ l, b ∉ upTo p l → q b) ↔ l.Pairwise fun a b => p a = true → q b := by
  induction l with
  | nil => simp [List.Pairwise.nil]
  | cons a l ih =>
    obtain ⟨ha, hl⟩ := List.nodup_cons.mp hl
    rw [List.pairwise_cons, ← ih hl, upTo]
    cases hp : p a with
    | true =>
      have hlater : ∀ b ∈ l, b ∉ [a] := fun b hb hmem => ha (List.mem_singleton.mp hmem ▸ hb)
      refine ⟨fun h => ⟨fun b hb _ => ?_, fun b hb _ => ?_⟩, fun h b hb hnot => ?_⟩
      · exact h b (List.mem_cons_of_mem a hb) (hlater b hb)
      · exact h b (List.mem_cons_of_mem a hb) (hlater b hb)
      · rcases List.mem_cons.mp hb with rfl | hb
        · exact absurd List.mem_cons_self hnot
        · exact h.1 b hb rfl
    | false =>
      refine ⟨fun h => ⟨fun b _ hfalse => (nomatch hfalse), fun b hb hnot => ?_⟩,
        fun h b hb hnot => ?_⟩
      · refine h b (List.mem_cons_of_mem a hb) fun hmem => ?_
        rcases List.mem_cons.mp hmem with rfl | hmem
        · exact ha hb
        · exact hnot hmem
      · rcases List.mem_cons.mp hb with rfl | hb
        · exact absurd List.mem_cons_self hnot
        · exact h.2 b hb fun hmem => hnot (List.mem_cons_of_mem a hmem)

end Lib
