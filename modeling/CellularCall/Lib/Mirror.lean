import Mathlib.Data.List.Basic
import Mathlib.Logic.Function.Basic

/-!
# Mirrors

A mirror keeps a copy of a source it cannot see, from the messages it is sent.
A message is a list of entries, and an entry sets the value of a key or removes
the key.

`noteAll_cases` says where the value under a key comes from after a message.
Three results follow from it.  Where only the keys of the source matter,
`noteAll_tracks` says that a message which tells what is gone leaves no key too
many, and `noteAll_covers` that one which tells what is new leaves no key out.
`noteAll_eq` is about the values: a message that tells the truth, and tells it
about every key the mirror has wrong, makes the mirror equal to the source.
-/

namespace Lib

variable {κ ν : Type}

/-- What a mirror has under each key. -/
abbrev Mirror (κ ν : Type) := κ → Option ν

namespace Mirror

/-- The mirror that has been told of nothing. -/
def blank : Mirror κ ν := fun _ => none

variable [DecidableEq κ]

/-- An entry sets the value of its key, or removes the key. -/
def note (v : Mirror κ ν) (entry : κ × Option ν) : Mirror κ ν :=
  Function.update v entry.1 entry.2

/-- The entries of a message are noted in their order. -/
def noteAll (v : Mirror κ ν) (entries : List (κ × Option ν)) : Mirror κ ν :=
  entries.foldl note v

@[simp] theorem noteAll_nil (v : Mirror κ ν) : v.noteAll [] = v := rfl

@[simp] theorem noteAll_cons (v : Mirror κ ν) (entry : κ × Option ν)
    (entries : List (κ × Option ν)) :
    v.noteAll (entry :: entries) = (v.note entry).noteAll entries := rfl

theorem note_apply (v : Mirror κ ν) (entry : κ × Option ν) (k : κ) :
    v.note entry k = if k = entry.1 then entry.2 else v k :=
  Function.update_apply v entry.1 entry.2 k

/-- The value under a key is the one it had, or that of an entry. -/
theorem noteAll_cases (v : Mirror κ ν) (entries : List (κ × Option ν)) (k : κ) :
    (k ∉ entries.map Prod.fst ∧ v.noteAll entries k = v k) ∨
      ∃ value, (k, value) ∈ entries ∧ v.noteAll entries k = value := by
  induction entries generalizing v with
  | nil => exact .inl ⟨by simp, rfl⟩
  | cons entry entries ih =>
    rw [noteAll_cons]
    rcases ih (v.note entry) with ⟨hnot, heq⟩ | ⟨value, hmem, heq⟩
    · by_cases hk : k = entry.1
      · refine .inr ⟨entry.2, ?_, ?_⟩
        · rw [hk]
          exact List.mem_cons_self
        · rw [heq, note_apply, if_pos hk]
      · refine .inl ⟨?_, ?_⟩
        · rw [List.map_cons, List.mem_cons, not_or]
          exact ⟨hk, hnot⟩
        · rw [heq, note_apply, if_neg hk]
    · exact .inr ⟨value, List.mem_cons_of_mem _ hmem, heq⟩

theorem noteAll_of_not_mem {v : Mirror κ ν} {entries : List (κ × Option ν)} {k : κ}
    (h : k ∉ entries.map Prod.fst) : v.noteAll entries k = v k := by
  rcases noteAll_cases v entries k with ⟨-, heq⟩ | ⟨value, hmem, -⟩
  · exact heq
  · exact absurd (List.mem_map_of_mem hmem) h

/-- A key all of whose entries agree has their value. -/
theorem noteAll_of_mem {v : Mirror κ ν} {entries : List (κ × Option ν)} {k : κ}
    {value : Option ν} (hmem : k ∈ entries.map Prod.fst)
    (hagree : ∀ entry ∈ entries, entry.1 = k → entry.2 = value) :
    v.noteAll entries k = value := by
  rcases noteAll_cases v entries k with ⟨hnot, -⟩ | ⟨value', hentry, heq⟩
  · exact absurd hmem hnot
  · exact heq.trans (hagree _ hentry rfl)

/-- A message that sets keys of the source only, and has an entry for every key
that is gone, leaves no key too many. -/
theorem noteAll_tracks {v : Mirror κ ν} {entries : List (κ × Option ν)} {after : κ → Prop}
    (hset : ∀ entry ∈ entries, entry.2 ≠ none → after entry.1)
    (hgone : ∀ k, v k ≠ none → ¬after k → k ∈ entries.map Prod.fst) (k : κ)
    (hk : v.noteAll entries k ≠ none) : after k := by
  rcases noteAll_cases v entries k with ⟨hnot, heq⟩ | ⟨value, hmem, heq⟩
  · by_contra hafter
    rw [heq] at hk
    exact hnot (hgone k hk hafter)
  · rw [heq] at hk
    exact hset _ hmem hk

/-- A message that removes no key of the source, and has an entry for every key
that is new, leaves no key out. -/
theorem noteAll_covers {v : Mirror κ ν} {entries : List (κ × Option ν)} {after : κ → Prop}
    (hclear : ∀ entry ∈ entries, entry.2 = none → ¬after entry.1)
    (hnew : ∀ k, after k → k ∉ entries.map Prod.fst → v k ≠ none) (k : κ) (hk : after k) :
    v.noteAll entries k ≠ none := by
  rcases noteAll_cases v entries k with ⟨hnot, heq⟩ | ⟨value, hmem, heq⟩
  · rw [heq]
    exact hnew k hk hnot
  · intro hnone
    exact hclear _ hmem (heq.symm.trans hnone) hk

/-- A message that tells the truth, and tells it about every key the mirror has
wrong, makes the mirror equal to the source. -/
theorem noteAll_eq {v source : Mirror κ ν} {entries : List (κ × Option ν)}
    (htrue : ∀ entry ∈ entries, entry.2 = source entry.1)
    (hrest : ∀ k, k ∉ entries.map Prod.fst → v k = source k) :
    v.noteAll entries = source := by
  funext k
  by_cases hmem : k ∈ entries.map Prod.fst
  · refine noteAll_of_mem hmem fun entry hentry hk => ?_
    rw [htrue entry hentry, hk]
  · rw [noteAll_of_not_mem hmem, hrest k hmem]

end Mirror

end Lib
