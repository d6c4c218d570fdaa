import Mathlib.Data.List.Sort
import Mathlib.Order.Basic

/-!
# Ordered maps

A finite map that is traversed in key order, held as a list of entries with
strictly increasing keys.  The order is a field, so an unsorted table or one
with a repeated key cannot be built.

The operations are those of an ordered map that is searched in two ways: by
its key (`get?`), and by a predicate on the values, where the smallest key wins
(`first?`).  `insertNew` never replaces a value that is already there.

Everything is characterised through `get?`; `mem_entries_iff` is the bridge
from the list to it.  `first?_eq_get?` joins the two searches: where each value
carries its own key, searching for the stored key is looking the key up.
-/

namespace Lib

variable {K V W : Type}

/-- A finite map, its entries listed by strictly increasing key. -/
structure OrdMap (K V : Type) [LinearOrder K] where
  entries : List (K × V)
  sorted : entries.Pairwise (fun a b => a.1 < b.1)

namespace OrdMap

variable [LinearOrder K]

/-- The map without entries. -/
def empty : OrdMap K V := ⟨[], List.Pairwise.nil⟩

instance : EmptyCollection (OrdMap K V) := ⟨empty⟩

instance : Inhabited (OrdMap K V) := ⟨empty⟩

/-- Two maps are equal when their entries are. -/
theorem ext_entries {m m' : OrdMap K V} (h : m.entries = m'.entries) : m = m' := by
  cases m
  cases m'
  congr

instance [DecidableEq V] : DecidableEq (OrdMap K V) := fun m m' =>
  decidable_of_iff (m.entries = m'.entries)
    ⟨ext_entries, fun h => congrArg OrdMap.entries h⟩

/-- The value stored under `k`. -/
def get? (m : OrdMap K V) (k : K) : Option V :=
  (m.entries.find? (fun e => decide (e.1 = k))).map Prod.snd

/-- The keys, in increasing order. -/
def keys (m : OrdMap K V) : List K := m.entries.map Prod.fst

/-- The values, in the order of their keys. -/
def values (m : OrdMap K V) : List V := m.entries.map Prod.snd

/-- Whether there is no entry. -/
def isEmpty (m : OrdMap K V) : Bool := m.entries.isEmpty

/-- The number of entries. -/
def size (m : OrdMap K V) : Nat := m.entries.length

/-- The entry with the smallest key whose value satisfies `p`. -/
def first? (m : OrdMap K V) (p : V → Bool) : Option (K × V) :=
  m.entries.find? (fun e => p e.2)

/-- Whether some value satisfies `p`. -/
def any (m : OrdMap K V) (p : V → Bool) : Bool := m.values.any p

/-- Placing a fresh key into a sorted list of entries keeps it sorted. -/
private theorem pairwise_orderedInsert {es : List (K × V)} {k : K} {v : V}
    (hs : es.Pairwise (fun a b => a.1 < b.1)) (hk : ∀ e ∈ es, e.1 ≠ k) :
    (es.orderedInsert (fun a b => a.1 < b.1) (k, v)).Pairwise
      (fun a b => a.1 < b.1) := by
  induction es with
  | nil => simp
  | cons e es ih =>
    have hhead := (List.pairwise_cons.mp hs).1
    have htail := (List.pairwise_cons.mp hs).2
    rw [List.orderedInsert_cons]
    split
    · rename_i hlt
      refine List.pairwise_cons.mpr ⟨?_, hs⟩
      intro b hb
      rcases List.mem_cons.mp hb with rfl | hb
      · exact hlt
      · exact lt_trans hlt (hhead b hb)
    · rename_i hge
      have hlt : e.1 < k := lt_of_le_of_ne (not_lt.mp hge) (hk e (by simp))
      refine List.pairwise_cons.mpr ⟨?_, ih htail fun b hb => hk b (by simp [hb])⟩
      intro b hb
      rcases (List.mem_orderedInsert _).mp hb with rfl | hb
      · exact hlt
      · exact hhead b hb

/-- Add an entry, unless the key is already there. -/
def insertNew (m : OrdMap K V) (k : K) (v : V) : OrdMap K V :=
  if h : ∀ e ∈ m.entries, e.1 ≠ k then
    ⟨m.entries.orderedInsert (fun a b => a.1 < b.1) (k, v),
      pairwise_orderedInsert m.sorted h⟩
  else m

/-- Apply `f` to every value. -/
def mapValues (m : OrdMap K V) (f : V → W) : OrdMap K W :=
  ⟨m.entries.map (fun e => (e.1, f e.2)), List.pairwise_map.mpr m.sorted⟩

/-- Apply `f` to the value under `k`, if there is one. -/
def modify (m : OrdMap K V) (k : K) (f : V → V) : OrdMap K V :=
  ⟨m.entries.map (fun e => (e.1, if e.1 = k then f e.2 else e.2)),
    List.pairwise_map.mpr m.sorted⟩

/-- Apply `f` to the first value that satisfies `p`, in key order. -/
def modifyFirst (m : OrdMap K V) (p : V → Bool) (f : V → V) : OrdMap K V :=
  match m.first? p with
  | some (k, _) => m.modify k f
  | none => m

/-- Keep the entries whose value satisfies `p`. -/
def filter (m : OrdMap K V) (p : V → Bool) : OrdMap K V :=
  ⟨m.entries.filter (fun e => p e.2), m.sorted.filter _⟩

/-- Remove the entry under `k`. -/
def erase (m : OrdMap K V) (k : K) : OrdMap K V :=
  ⟨m.entries.filter (fun e => decide (e.1 ≠ k)), m.sorted.filter _⟩

/-! ## Looking up -/

/-- Two entries under one key are the same entry. -/
private theorem value_unique {es : List (K × V)}
    (hs : es.Pairwise (fun a b => a.1 < b.1)) {k : K} {v w : V}
    (hv : (k, v) ∈ es) (hw : (k, w) ∈ es) : v = w := by
  induction es with
  | nil => simp at hv
  | cons e es ih =>
    have hhead := (List.pairwise_cons.mp hs).1
    rcases List.mem_cons.mp hv with rfl | hv'
    · rcases List.mem_cons.mp hw with hw' | hw'
      · exact (congrArg Prod.snd hw').symm
      · exact absurd (hhead _ hw') (lt_irrefl _)
    · rcases List.mem_cons.mp hw with rfl | hw'
      · exact absurd (hhead _ hv') (lt_irrefl _)
      · exact ih (List.pairwise_cons.mp hs).2 hv' hw'

/-- The entries are the pairs `get?` finds. -/
theorem mem_entries_iff {m : OrdMap K V} {k : K} {v : V} :
    (k, v) ∈ m.entries ↔ m.get? k = some v := by
  unfold get?
  constructor
  · intro hmem
    cases hfind : m.entries.find? (fun e => decide (e.1 = k)) with
    | none =>
      rw [List.find?_eq_none] at hfind
      exact absurd (by simp) (hfind (k, v) hmem)
    | some e =>
      have hkey : e.1 = k := by simpa using List.find?_some hfind
      have hin : (k, e.2) ∈ m.entries := hkey ▸ List.mem_of_find?_eq_some hfind
      simp [value_unique m.sorted hin hmem]
  · intro h
    obtain ⟨e, hfind, rfl⟩ := Option.map_eq_some_iff.mp h
    have hkey : e.1 = k := by simpa using List.find?_some hfind
    exact hkey ▸ List.mem_of_find?_eq_some hfind

/-- A key occurs exactly where `get?` finds a value. -/
theorem mem_keys_iff {m : OrdMap K V} {k : K} :
    k ∈ m.keys ↔ ∃ v, m.get? k = some v := by
  simp only [keys, List.mem_map, ← mem_entries_iff]
  constructor
  · intro h
    obtain ⟨e, he, rfl⟩ := h
    exact ⟨e.2, he⟩
  · intro h
    obtain ⟨v, hv⟩ := h
    exact ⟨(k, v), hv, rfl⟩

/-- No key occurs twice. -/
theorem nodup_keys (m : OrdMap K V) : m.keys.Nodup :=
  List.pairwise_map.mpr (m.sorted.imp fun hlt => hlt.ne)

theorem mem_values_iff {m : OrdMap K V} {v : V} :
    v ∈ m.values ↔ ∃ k, m.get? k = some v := by
  simp only [values, List.mem_map, ← mem_entries_iff]
  constructor
  · intro h
    obtain ⟨e, he, rfl⟩ := h
    exact ⟨e.1, he⟩
  · intro h
    obtain ⟨k, hk⟩ := h
    exact ⟨(k, v), hk, rfl⟩

/-- A key without a value is not among the keys. -/
theorem get?_eq_none_iff {m : OrdMap K V} {k : K} :
    m.get? k = none ↔ k ∉ m.keys := by
  rw [mem_keys_iff]
  cases m.get? k <;> simp

theorem isEmpty_iff {m : OrdMap K V} : m.isEmpty = true ↔ m.keys = [] := by
  simp [isEmpty, keys]

@[simp] theorem isEmpty_empty : (∅ : OrdMap K V).isEmpty = true := rfl

@[simp] theorem keys_empty : (∅ : OrdMap K V).keys = [] := rfl

@[simp] theorem entries_empty : (∅ : OrdMap K V).entries = [] := rfl

@[simp] theorem get?_empty (k : K) : (∅ : OrdMap K V).get? k = none := rfl

/-- A map is empty when `get?` finds nothing. -/
theorem isEmpty_iff_get? {m : OrdMap K V} :
    m.isEmpty = true ↔ ∀ k, m.get? k = none := by
  simp only [isEmpty_iff, get?_eq_none_iff, List.eq_nil_iff_forall_not_mem]

theorem any_eq_true_iff {m : OrdMap K V} {p : V → Bool} :
    m.any p = true ↔ ∃ k v, m.get? k = some v ∧ p v = true := by
  simp only [any, List.any_eq_true, mem_values_iff]
  constructor
  · intro h
    obtain ⟨v, ⟨k, hk⟩, hp⟩ := h
    exact ⟨k, v, hk, hp⟩
  · intro h
    obtain ⟨k, v, hk, hp⟩ := h
    exact ⟨v, ⟨k, hk⟩, hp⟩

theorem any_eq_false_iff {m : OrdMap K V} {p : V → Bool} :
    m.any p = false ↔ ∀ k v, m.get? k = some v → p v = false := by
  rw [← Bool.not_eq_true, any_eq_true_iff]
  push Not
  simp

/-- Maps with the same lookups are equal: their entry lists have the same
members, and both are in key order. -/
theorem ext_get? {m m' : OrdMap K V} (h : ∀ k, m.get? k = m'.get? k) : m = m' := by
  apply ext_entries
  have hnodup : ∀ n : OrdMap K V, n.entries.Nodup := fun n =>
    n.sorted.imp fun hlt heq => absurd hlt (by rw [heq]; exact lt_irrefl _)
  have hperm : m.entries.Perm m'.entries := by
    rw [List.perm_ext_iff_of_nodup (hnodup m) (hnodup m')]
    intro entry
    obtain ⟨k, v⟩ := entry
    rw [mem_entries_iff, mem_entries_iff, h k]
  exact hperm.eq_of_pairwise
    (fun a b _ _ hab hba => absurd hab (not_lt.mpr hba.le)) m.sorted m'.sorted

/-! ## The operations, through `get?` -/

theorem get?_insertNew (m : OrdMap K V) (k i : K) (v : V) :
    (m.insertNew k v).get? i = if i = k then some ((m.get? k).getD v) else m.get? i := by
  unfold insertNew
  by_cases hfresh : ∀ e ∈ m.entries, e.1 ≠ k
  · have hnone : m.get? k = none := by
      rw [get?_eq_none_iff]
      intro hmem
      obtain ⟨e, he, hek⟩ := List.mem_map.mp hmem
      exact hfresh e he hek
    rw [dif_pos hfresh]
    ext w
    rw [← mem_entries_iff, List.mem_orderedInsert, mem_entries_iff]
    by_cases hi : i = k
    · subst hi
      simp [hnone, eq_comm]
    · simp [hi]
  · rw [dif_neg hfresh]
    push Not at hfresh
    obtain ⟨e, he, rfl⟩ := hfresh
    have hsome : m.get? e.1 = some e.2 := mem_entries_iff.mp he
    by_cases hi : i = e.1
    · simp [hi, hsome]
    · simp [hi]

/-- A key that is there keeps its value. -/
theorem get?_insertNew_or (m : OrdMap K V) (k i : K) (v : V) :
    (m.insertNew k v).get? i = (m.get? i).or (if i = k then some v else none) := by
  rw [get?_insertNew]
  by_cases hi : i = k
  · rw [if_pos hi, if_pos hi, hi]
    cases m.get? k <;> rfl
  · rw [if_neg hi, if_neg hi, Option.or_none]

theorem get?_insertNew_of_some {m : OrdMap K V} {i : K} {w : V} (h : m.get? i = some w) (k : K)
    (v : V) : (m.insertNew k v).get? i = some w := by
  rw [get?_insertNew_or, h]
  rfl

/-- What is there after an insertion was there, or is what was inserted. -/
theorem get?_insertNew_eq_some {m : OrdMap K V} {k i : K} {v w : V} :
    (m.insertNew k v).get? i = some w ↔
      m.get? i = some w ∨ m.get? i = none ∧ i = k ∧ v = w := by
  rw [get?_insertNew_or, Option.or_eq_some_iff, Option.ite_none_right_eq_some, Option.some.injEq]

/-- Insertions one after the other: a key there is keeps its value, and another
gets that of the first insertion for it. -/
theorem get?_foldl_insertNew {α : Type} (key : α → K) (value : α → V) (l : List α)
    (m : OrdMap K V) (i : K) :
    (l.foldl (fun m a => m.insertNew (key a) (value a)) m).get? i =
      (m.get? i).or ((l.find? fun a => decide (key a = i)).map value) := by
  induction l generalizing m with
  | nil => simp
  | cons a l ih =>
    rw [List.foldl_cons, ih, get?_insertNew, List.find?_cons]
    by_cases hi : i = key a
    · subst hi
      cases m.get? (key a) <;> simp
    · rw [if_neg hi, decide_eq_false (Ne.symm hi)]

theorem get?_mapValues (m : OrdMap K V) (f : V → W) (i : K) :
    (m.mapValues f).get? i = (m.get? i).map f := by
  ext w
  rw [← mem_entries_iff, Option.map_eq_some_iff]
  simp only [mapValues, List.mem_map, Prod.mk.injEq]
  constructor
  · intro h
    obtain ⟨e, he, rfl, rfl⟩ := h
    exact ⟨e.2, mem_entries_iff.mp he, rfl⟩
  · intro h
    obtain ⟨v, hv, rfl⟩ := h
    exact ⟨(i, v), mem_entries_iff.mpr hv, rfl, rfl⟩

theorem get?_modify (m : OrdMap K V) (k i : K) (f : V → V) :
    (m.modify k f).get? i = if i = k then (m.get? i).map f else m.get? i := by
  ext w
  rw [← mem_entries_iff]
  simp only [modify, List.mem_map, Prod.mk.injEq]
  constructor
  · intro h
    obtain ⟨e, he, rfl, rfl⟩ := h
    have hget : m.get? e.1 = some e.2 := mem_entries_iff.mp he
    by_cases hk : e.1 = k
    · simp [hk, hk ▸ hget]
    · simp [hk, hget]
  · intro h
    by_cases hk : i = k
    · rw [if_pos hk] at h
      obtain ⟨v, hv, rfl⟩ := Option.map_eq_some_iff.mp h
      exact ⟨(i, v), mem_entries_iff.mpr hv, rfl, by simp [hk]⟩
    · rw [if_neg hk] at h
      exact ⟨(i, w), mem_entries_iff.mpr h, rfl, by simp [hk]⟩

theorem get?_filter (m : OrdMap K V) (p : V → Bool) (i : K) :
    (m.filter p).get? i = (m.get? i).filter p := by
  ext w
  rw [← mem_entries_iff, Option.filter_eq_some_iff, ← mem_entries_iff]
  simp [filter]

theorem get?_erase (m : OrdMap K V) (k i : K) :
    (m.erase k).get? i = if i = k then none else m.get? i := by
  ext w
  rw [← mem_entries_iff]
  by_cases hi : i = k
  · simp [erase, hi]
  · simp [erase, hi, mem_entries_iff]

@[simp] theorem keys_mapValues (m : OrdMap K V) (f : V → W) :
    (m.mapValues f).keys = m.keys := by
  simp [keys, mapValues]

@[simp] theorem keys_modify (m : OrdMap K V) (k : K) (f : V → V) :
    (m.modify k f).keys = m.keys := by
  simp [keys, modify]

@[simp] theorem isEmpty_mapValues (m : OrdMap K V) (f : V → W) :
    (m.mapValues f).isEmpty = m.isEmpty := by
  simp [isEmpty, mapValues]

/-- Functions that agree on the value under `k` modify alike. -/
theorem modify_congr {m : OrdMap K V} {k : K} {f g : V → V}
    (h : ∀ v, m.get? k = some v → f v = g v) : m.modify k f = m.modify k g := by
  refine ext_get? fun i => ?_
  rw [get?_modify, get?_modify]
  split
  · rename_i hi
    rw [hi]
    exact Option.map_congr fun v hv => h v hv
  · rfl

/-- What a list of values says, read off the keys. -/
theorem map_values_eq {γ : Type} {m : OrdMap K V} {g : V → γ} {f : K → γ}
    (h : ∀ k v, m.get? k = some v → g v = f k) : m.values.map g = m.keys.map f := by
  rw [values, keys, List.map_map, List.map_map]
  refine List.map_congr_left fun e he => ?_
  exact h e.1 e.2 (mem_entries_iff.mp he)

/-- A predicate of the values that is one of the keys filters the keys. -/
theorem keys_filter {m : OrdMap K V} {p : V → Bool} {q : K → Bool}
    (h : ∀ k v, m.get? k = some v → p v = q k) : (m.filter p).keys = m.keys.filter q := by
  simp only [keys, filter, List.filter_map]
  refine congrArg (List.map Prod.fst) (List.filter_congr fun e he => ?_)
  exact h e.1 e.2 (mem_entries_iff.mp he)

/-! ## Searching by value -/

/-- What the search finds is an entry, and satisfies the predicate. -/
theorem get?_of_first?_eq_some {m : OrdMap K V} {p : V → Bool} {k : K} {v : V}
    (h : m.first? p = some (k, v)) : m.get? k = some v ∧ p v = true :=
  ⟨mem_entries_iff.mp (List.mem_of_find?_eq_some h),
    List.find?_some (p := fun e : K × V => p e.2) h⟩

/-- The search fails exactly where no value satisfies the predicate. -/
theorem first?_eq_none_iff {m : OrdMap K V} {p : V → Bool} :
    m.first? p = none ↔ ∀ k v, m.get? k = some v → p v = false := by
  unfold first?
  rw [List.find?_eq_none]
  constructor
  · intro h k v hv
    simpa using h (k, v) (mem_entries_iff.mpr hv)
  · intro h e he
    simpa using h e.1 e.2 (mem_entries_iff.mp he)

/-- An entry that satisfies the predicate makes the search succeed. -/
theorem first?_isSome_of_get? {m : OrdMap K V} {p : V → Bool} {k : K} {v : V}
    (hv : m.get? k = some v) (hp : p v = true) : ∃ e, m.first? p = some e := by
  cases hfind : m.first? p with
  | some e => exact ⟨e, rfl⟩
  | none =>
    have := first?_eq_none_iff.mp hfind k v hv
    simp [hp] at this

/-- Where each value carries its own key, searching for the stored key is
looking the key up. -/
theorem first?_eq_get? {m : OrdMap K V} {key : V → K}
    (hkey : ∀ k v, m.get? k = some v → key v = k) (i : K) :
    m.first? (fun v => decide (key v = i)) = (m.get? i).map (fun v => (i, v)) := by
  cases hfind : m.first? (fun v => decide (key v = i)) with
  | none =>
    cases hget : m.get? i with
    | none => rfl
    | some v =>
      have hno := first?_eq_none_iff.mp hfind i v hget
      simp [hkey i v hget] at hno
  | some e =>
    obtain ⟨hget, hp⟩ := get?_of_first?_eq_some (k := e.1) (v := e.2) hfind
    have hi : e.1 = i := by
      rw [← hkey e.1 e.2 hget]
      simpa using hp
    have hentry : e = (i, e.2) := Prod.ext hi rfl
    rw [hentry, ← hi, hget]
    rfl

/-- Changing a value does not change which entry comes first, if the value is as
good as before. -/
theorem first?_modify {m : OrdMap K V} {p : V → Bool} {k : K} {f : V → V}
    (hf : ∀ v, p (f v) = p v) :
    ((m.modify k f).first? p).map Prod.fst = (m.first? p).map Prod.fst := by
  have hsame : (fun e : K × V => p (if e.1 = k then f e.2 else e.2)) = fun e => p e.2 := by
    funext e
    split
    · exact hf e.2
    · rfl
  simp only [first?, modify, List.find?_map, Option.map_map, Function.comp_def, hsame]

end OrdMap

end Lib
