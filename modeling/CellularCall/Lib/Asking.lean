import Mathlib.Data.List.Basic

/-!
# Asking until the first refusal

Requests are made one after the other, and the first that is not answered with `ok`
ends the loop with its answer.  What a request is answered with may depend on the
requests made before it.

`askAll` is the loop.  `askAll_of_accepted` and `askAll_of_refused` say how it ends.
-/

namespace Lib

variable {ρ α : Type} [DecidableEq α] (reply : List ρ → ρ → α) (ok : α)

/-- Make the requests, after those of `before`: the last answer, and all requests
made so far. -/
def askAll : List ρ → List ρ → α × List ρ
  | before, [] => (ok, before)
  | before, request :: requests =>
    if reply before request = ok then askAll (before ++ [request]) requests
    else (reply before request, before ++ [request])

/-- Every request is accepted in its turn. -/
def Accepted : List ρ → List ρ → Prop
  | _, [] => True
  | before, request :: requests =>
    reply before request = ok ∧ Accepted (before ++ [request]) requests

/-- The request that is refused, after those of `sent` were accepted. -/
structure RefusedAt (before requests sent : List ρ) (request : ρ) : Prop where
  accepted : Accepted reply ok before sent
  refused : reply (before ++ sent) request ≠ ok
  next : sent ++ [request] <+: requests

variable {reply ok}

/-- Where all are accepted, all are made. -/
theorem askAll_of_accepted {before requests : List ρ} (h : Accepted reply ok before requests) :
    askAll reply ok before requests = (ok, before ++ requests) := by
  induction requests generalizing before with
  | nil => rw [askAll, List.append_nil]
  | cons request requests ih =>
    obtain ⟨hreply, hrest⟩ := h
    rw [askAll, if_pos hreply, ih hrest, List.append_assoc]
    rfl

/-- Where one is refused, the loop ends there. -/
theorem askAll_of_refused {before requests : List ρ} (h : ¬Accepted reply ok before requests) :
    ∃ sent request, RefusedAt reply ok before requests sent request ∧
      askAll reply ok before requests =
        (reply (before ++ sent) request, before ++ sent ++ [request]) := by
  induction requests generalizing before with
  | nil => exact absurd trivial h
  | cons request requests ih =>
    by_cases hreply : reply before request = ok
    · have hrest : ¬Accepted reply ok (before ++ [request]) requests := fun hrest =>
        h ⟨hreply, hrest⟩
      obtain ⟨sent, refused, hrefused, hasked⟩ := ih hrest
      refine ⟨request :: sent, refused, ⟨⟨hreply, hrefused.accepted⟩, ?_, ?_⟩, ?_⟩
      · have hlater := hrefused.refused
        rw [List.append_assoc] at hlater
        exact hlater
      · exact List.cons_prefix_cons.mpr ⟨rfl, hrefused.next⟩
      · rw [askAll, if_pos hreply, hasked, List.append_assoc]
        rfl
    · refine ⟨[], request, ⟨trivial, ?_, ?_⟩, ?_⟩
      · rw [List.append_nil]
        exact hreply
      · exact ⟨requests, rfl⟩
      · rw [askAll, if_neg hreply, List.append_nil]

/-- The answer of the loop tells whether all were accepted. -/
theorem askAll_fst_eq_iff {before requests : List ρ} :
    (askAll reply ok before requests).1 = ok ↔ Accepted reply ok before requests := by
  constructor
  · intro hret
    by_contra h
    obtain ⟨sent, request, hrefused, hasked⟩ := askAll_of_refused h
    rw [hasked] at hret
    exact hrefused.refused hret
  · intro h
    rw [askAll_of_accepted h]

/-- Where there is something to ask for, something is asked. -/
theorem askAll_snd_ne_nil {before requests : List ρ} (h : requests ≠ []) :
    (askAll reply ok before requests).2 ≠ [] := by
  by_cases haccepted : Accepted reply ok before requests
  · rw [askAll_of_accepted haccepted]
    exact List.append_ne_nil_of_right_ne_nil before h
  · obtain ⟨sent, request, -, hasked⟩ := askAll_of_refused haccepted
    rw [hasked]
    exact List.append_ne_nil_of_right_ne_nil _ (List.cons_ne_nil request [])

end Lib
