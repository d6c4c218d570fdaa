import CellularCall.DialAlike
import CellularCall.EccConfig
import CellularCall.Lib.Find
import CellularCall.Lib.Loop

/-!
# Standardising numbers

`StandardizeUtils` takes strings apart in loops.  The loops are translated here
as they stand; elsewhere their results are used (`removeSeparatorsPhoneNumber`,
`extractAddressAndPostDial` and `split`), to which the equations
`removeSeparatorsPhoneNumber_eq`, `extractAddressAndPostDial_eq` and
`splits_singleton` lead.

* `extract_of_removeSeparators` says what the address and the post-dial part of a
  number are and which characters are kept without separators, and that taking the
  separators out first changes neither part but for those of the post-dial part.
* `split_loses_nothing` says that the pieces of a string joined again are the
  string, but for a last piece that is empty.
-/

namespace CellularCall

open Lib Lib.Find

namespace StandardizeUtils

/-! ## Numbers -/

/-- `RemoveSeparatorsPhoneNumber`. -/
def removeSeparatorsPhoneNumber (phoneString : Str) : Str :=
  if phoneString = [] then []
  else
    phoneString.foldl (fun newString c => if isDialable c then newString ++ [c] else newString) []

/-- The first loop of `ExtractAddressAndPostDial`, from the character at `i` on:
the address, and the index at which the loop is left. -/
def addressLoop (networkAddress : Str) (i : Nat) : Str → Str × Nat
  | [] => (networkAddress, i)
  | c :: cs =>
    if isAddressChar c then addressLoop (networkAddress ++ [c]) (i + 1) cs
    else if isPostDialStart c then (networkAddress, i)
    else addressLoop networkAddress (i + 1) cs

/-- `ExtractAddressAndPostDial`: both outputs are appended to. -/
def extractAddressAndPostDial (phoneString networkAddress postDial : Str) : Str × Str :=
  if phoneString = [] then (networkAddress, postDial)
  else
    let (networkAddress, postDialIndex) := addressLoop networkAddress 0 phoneString
    (networkAddress,
      (phoneString.drop postDialIndex).foldl (fun postDial c => postDial ++ [c]) postDial)

theorem foldl_filter (p : Char → Bool) (init s : Str) :
    s.foldl (fun acc c => if p c then acc ++ [c] else acc) init = init ++ s.filter p := by
  induction s generalizing init with
  | nil => simp
  | cons c cs ih =>
    rw [List.foldl_cons, ih, List.filter_cons]
    split
    · rw [List.append_assoc, List.singleton_append]
    · rfl

theorem foldl_push (init s : Str) : s.foldl (fun acc c => acc ++ [c]) init = init ++ s := by
  induction s generalizing init with
  | nil => simp
  | cons c cs ih => rw [List.foldl_cons, ih, List.append_assoc, List.singleton_append]

/-- A character that starts the post-dial part is none of an address. -/
theorem not_postDialStart_of_address {c : Char} (hc : isAddressChar c = true) :
    isPostDialStart c = false := by
  simp only [isPostDialStart, Bool.or_eq_false_iff, beq_eq_false_iff_ne]
  constructor <;>
    (intro heq
     subst heq
     exact absurd hc (by decide))

/-- The loop stops where the post-dial part starts. -/
theorem addressLoop_eq (networkAddress : Str) (i : Nat) (s : Str) :
    addressLoop networkAddress i s =
      (networkAddress ++ (s.takeWhile (fun c => !isPostDialStart c)).filter isAddressChar,
        i + (s.takeWhile (fun c => !isPostDialStart c)).length) := by
  induction s generalizing networkAddress i with
  | nil => simp [addressLoop]
  | cons c cs ih =>
    rw [addressLoop]
    split
    · rename_i haddress
      have hstart : (!isPostDialStart c) = true := by
        rw [not_postDialStart_of_address haddress]; rfl
      rw [ih, List.takeWhile_cons, if_pos hstart, List.filter_cons, if_pos haddress,
        List.append_assoc, List.singleton_append, List.length_cons]
      congr 1
      omega
    · rename_i haddress
      split
      · rename_i hstart
        rw [List.takeWhile_cons, if_neg (by rw [hstart]; simp)]
        simp
      · rename_i hstart
        rw [ih, List.takeWhile_cons, if_pos (by simpa using hstart), List.filter_cons,
          if_neg haddress, List.length_cons]
        congr 1
        omega

theorem removeSeparatorsPhoneNumber_eq (phoneString : Str) :
    removeSeparatorsPhoneNumber phoneString =
      CellularCall.removeSeparatorsPhoneNumber phoneString := by
  unfold removeSeparatorsPhoneNumber CellularCall.removeSeparatorsPhoneNumber
  split
  · rename_i hempty
    rw [hempty]; rfl
  · rw [foldl_filter, List.nil_append]

/-- What the loops append. -/
theorem extractAddressAndPostDial_eq (phoneString networkAddress postDial : Str) :
    extractAddressAndPostDial phoneString networkAddress postDial =
      (networkAddress ++ (CellularCall.extractAddressAndPostDial phoneString).1,
        postDial ++ (CellularCall.extractAddressAndPostDial phoneString).2) := by
  unfold extractAddressAndPostDial CellularCall.extractAddressAndPostDial
  split
  · rename_i hempty
    rw [hempty]; simp
  · have hdrop := @List.drop_left _ (phoneString.takeWhile (fun c => !isPostDialStart c))
      (phoneString.dropWhile (fun c => !isPostDialStart c))
    rw [List.takeWhile_append_dropWhile] at hdrop
    simp only [addressLoop_eq, foldl_push, Nat.zero_add, hdrop]

/-- The post-dial part of a number without separators. -/
theorem postDial_removeSeparators (s : Str) :
    (CellularCall.extractAddressAndPostDial (CellularCall.removeSeparatorsPhoneNumber s)).2 =
      CellularCall.removeSeparatorsPhoneNumber (CellularCall.extractAddressAndPostDial s).2 := by
  simp only [CellularCall.extractAddressAndPostDial, CellularCall.removeSeparatorsPhoneNumber]
  induction s with
  | nil => rfl
  | cons c cs ih =>
    by_cases hpost : isPostDialStart c = true
    · have hdialable : isDialable c = true := by
        simp only [isPostDialStart, Bool.or_eq_true] at hpost
        simp only [isDialable, Bool.or_eq_true]
        rcases hpost with hcomma | hsemicolon
        · exact .inl (.inr hcomma)
        · exact .inr hsemicolon
      simp [hdialable, hpost]
    · by_cases hdialable : isDialable c = true
      · simp only [List.filter_cons, hdialable, if_true, List.dropWhile_cons, hpost,
          Bool.not_false, ih]
      · simp only [List.filter_cons, hdialable, List.dropWhile_cons, hpost, Bool.not_false,
          if_true, if_false, Bool.false_eq_true, ih]

/-- A string is an address part, and a post-dial part from the first `,` or `;`
on.  Without its separators, that is with the characters of an address and `,` and `;`
only, it has the same address, and the post-dial part without separators. -/
theorem extract_of_removeSeparators (s : Str) :
    (∃ pre postDial, s = pre ++ postDial ∧
      (∀ c ∈ pre, c ≠ ',' ∧ c ≠ ';') ∧
      (postDial = [] ∨ ∃ c cs, postDial = c :: cs ∧ (c = ',' ∨ c = ';')) ∧
      extractAddressAndPostDial s [] [] =
        (pre.filter (fun c => c.isDigit || c == '*' || c == '#' || c == '+' || c == 'N'),
          postDial)) ∧
    removeSeparatorsPhoneNumber s =
      s.filter (fun c => c.isDigit || c == '*' || c == '#' || c == '+' || c == 'N' || c == ',' ||
        c == ';') ∧
    removeSeparatorsPhoneNumber (removeSeparatorsPhoneNumber s) =
      removeSeparatorsPhoneNumber s ∧
    extractAddressAndPostDial (removeSeparatorsPhoneNumber s) [] [] =
      ((extractAddressAndPostDial s [] []).1,
        removeSeparatorsPhoneNumber (extractAddressAndPostDial s [] []).2) := by
  refine ⟨⟨s.takeWhile (fun c => !isPostDialStart c), s.dropWhile (fun c => !isPostDialStart c),
    List.takeWhile_append_dropWhile.symm, ?_, ?_, ?_⟩, ?_, ?_, ?_⟩
  · intro c hc
    have hnot := List.mem_takeWhile_imp hc
    simpa [isPostDialStart] using hnot
  · cases hpost : s.dropWhile (fun c => !isPostDialStart c) with
    | nil => exact .inl rfl
    | cons c cs =>
      have hhead := List.head?_dropWhile_not (fun c => !isPostDialStart c) s
      rw [hpost] at hhead
      have hstart : isPostDialStart c = true := by simpa using hhead
      simp only [isPostDialStart, Bool.or_eq_true, beq_iff_eq] at hstart
      exact .inr ⟨c, cs, rfl, hstart⟩
  · rw [extractAddressAndPostDial_eq, List.nil_append, List.nil_append]
    rfl
  · rw [removeSeparatorsPhoneNumber_eq]
    rfl
  · simp only [removeSeparatorsPhoneNumber_eq, CellularCall.removeSeparatorsPhoneNumber,
      List.filter_filter, Bool.and_self]
  · simp only [extractAddressAndPostDial_eq, removeSeparatorsPhoneNumber_eq, List.nil_append]
    rw [postDial_removeSeparators]
    exact congrArg (·, _) (networkAddress_removeSeparators s)

/-! ## Lists -/

/-- The variables of `Split`'s loop. -/
structure SplitState where
  start : Nat
  vec : List Str
deriving DecidableEq, Repr

/-- One round of `Split`'s loop. -/
def splitRound (str flag : Str) (st : SplitState) : Option SplitState :=
  (find str flag st.start).map fun pos =>
    ⟨pos + flag.length, st.vec ++ [(str.drop st.start).take (pos - st.start)]⟩

/-- What follows the loop: a rest that is not empty is a piece. -/
def splitRest (str : Str) (st : SplitState) : List Str :=
  if st.start ≠ str.length then st.vec ++ [(str.drop st.start).take (str.length - st.start)]
  else st.vec

/-- `Split` ends, and gives these pieces. -/
def Splits (str flag : Str) (pieces : List Str) : Prop :=
  ∃ st, Loop.Ends (splitRound str flag) ⟨0, []⟩ st ∧ pieces = splitRest str st

/-- The loop has come behind the pieces it has, each followed by the separator. -/
structure SplitInvariant (str flag : Str) (st : SplitState) : Prop where
  passed : ∃ rest, str = (st.vec.map (· ++ flag)).flatten ++ rest ∧
    st.start = ((st.vec.map (· ++ flag)).flatten).length
  free : ∀ piece ∈ st.vec, ¬flag <:+: piece

section
variable {str flag : Str} {st st' : SplitState} {pieces pieces' : List Str}

theorem splitInvariant_start (str flag : Str) : SplitInvariant str flag ⟨0, []⟩ :=
  ⟨⟨str, rfl, rfl⟩, fun _ hmem => absurd hmem List.not_mem_nil⟩

/-- A round takes the next piece, and comes nearer to the end of the string. -/
theorem SplitInvariant.round (hflag : flag ≠ []) (h : SplitInvariant str flag st)
    (hround : splitRound str flag st = some st') :
    SplitInvariant str flag st' ∧ str.length - st'.start < str.length - st.start := by
  obtain ⟨⟨rest, hstr, hstart⟩, hfree⟩ := h
  rw [splitRound, Option.map_eq_some_iff] at hround
  obtain ⟨pos, hfind, hst'⟩ := hround
  rw [hstart, hstr] at hfind
  obtain ⟨piece, after, hrest, hpos, hpiece⟩ := find_append_some hflag hfind
  have htaken : (str.drop st.start).take (pos - st.start) = piece := by
    rw [hstart, hpos, Nat.add_sub_cancel_left, hstr, List.drop_left, hrest, List.append_assoc,
      List.take_left]
  rw [htaken] at hst'
  subst hst'
  have hpassed : ((st.vec ++ [piece]).map (· ++ flag)).flatten =
      (st.vec.map (· ++ flag)).flatten ++ (piece ++ flag) := by
    rw [List.map_append, List.flatten_append]
    simp
  refine ⟨⟨⟨after, ?_, ?_⟩, ?_⟩, ?_⟩
  · rw [hpassed, hstr, hrest]
    simp only [List.append_assoc]
  · rw [hpassed, List.length_append, List.length_append, hpos, Nat.add_assoc]
  · intro p hp
    rcases List.mem_append.mp hp with hp | hp
    · exact hfree p hp
    · rw [List.mem_singleton.mp hp]
      exact hpiece
  · have hflaglen : 0 < flag.length := List.length_pos_iff.mpr hflag
    have hlen := congrArg List.length hstr
    rw [hrest] at hlen
    simp only [List.length_append] at hlen
    show str.length - (pos + flag.length) < str.length - st.start
    omega

/-- Where the loop is left, its pieces and the rest of the string are a cut. -/
theorem SplitInvariant.cut (h : SplitInvariant str flag st)
    (hend : splitRound str flag st = none) :
    IsCut flag str (st.vec ++ [str.drop st.start]) := by
  obtain ⟨⟨rest, hstr, hstart⟩, hfree⟩ := h
  rw [splitRound, Option.map_eq_none_iff, hstart] at hend
  have hrest : str.drop st.start = rest := by
    rw [hstart, hstr, List.drop_left]
  rw [hrest]
  refine ⟨by simp, ?_, ?_⟩
  · rw [intercalate_of_followed]
    exact hstr.symm
  · intro piece hmem
    rcases List.mem_append.mp hmem with hmem | hmem
    · exact hfree piece hmem
    · rw [List.mem_singleton.mp hmem]
      rw [hstr] at hend
      exact find_append_none hend

/-- The loop ends. -/
theorem exists_splits (str : Str) (hflag : flag ≠ []) : ∃ pieces, Splits str flag pieces := by
  obtain ⟨st, hends⟩ := Loop.exists_ends (fun st => str.length - st.start)
    (fun st st' hinv hround => hinv.round hflag hround)
    (splitInvariant_start str flag)
  exact ⟨splitRest str st, st, hends, rfl⟩

theorem Splits.unique (h : Splits str flag pieces) (h' : Splits str flag pieces') :
    pieces = pieces' := by
  obtain ⟨st, hends, hpieces⟩ := h
  obtain ⟨st', hends', hpieces'⟩ := h'
  rw [hpieces, hpieces', hends.unique hends']

/-- The pieces are those of a cut, without a last one that is empty. -/
theorem Splits.cut (hflag : flag ≠ []) (h : Splits str flag pieces) :
    ∃ full, IsCut flag str full ∧
      pieces = if full.getLast? = some [] then full.dropLast else full := by
  obtain ⟨st, hends, hpieces⟩ := h
  obtain ⟨hinv, hend⟩ :=
    hends.invariant (fun st st' hinv hround => (hinv.round hflag hround).1)
      (splitInvariant_start str flag)
  refine ⟨st.vec ++ [str.drop st.start], hinv.cut hend, ?_⟩
  obtain ⟨⟨rest, hstr, hstart⟩, -⟩ := hinv
  have hlen := congrArg List.length hstr
  rw [List.length_append, ← hstart] at hlen
  rw [hpieces, splitRest, List.getLast?_concat, List.dropLast_concat]
  have hempty : some (str.drop st.start) = some [] ↔ ¬st.start ≠ str.length := by
    rw [Option.some.injEq, List.drop_eq_nil_iff]
    omega
  by_cases hleft : st.start ≠ str.length
  · rw [if_pos hleft, if_neg (fun h => hempty.mp h hleft), ← List.length_drop, List.take_length]
  · rw [if_neg hleft, if_pos (hempty.mpr hleft)]

/-- Without a last piece that is empty, the separator before it is missing too. -/
theorem joined_of_cut {full : List Str} (hcut : IsCut flag str full)
    (hpieces : pieces = if full.getLast? = some [] then full.dropLast else full) :
    flag.intercalate pieces = str ∨ flag.intercalate pieces ++ flag = str := by
  rw [hpieces]
  split
  · rename_i hlast
    have hfull : full = full.dropLast ++ [[]] := by
      rw [List.getLast?_eq_some_iff] at hlast
      obtain ⟨front, hfront⟩ := hlast
      rw [hfront, List.dropLast_concat]
    have hjoined := hcut.joined
    cases hfront : full.dropLast with
    | nil =>
      rw [hfull, hfront] at hjoined
      exact .inl hjoined
    | cons piece front =>
      rw [hfull, hfront, intercalate_concat (List.cons_ne_nil piece front),
        List.append_nil] at hjoined
      exact .inr hjoined
  · exact .inl hcut.joined

/-- At a character the loop gives what `split` does. -/
theorem splits_singleton (str : Str) (c : Char) : Splits str [c] (split str c) := by
  have hflag : [c] ≠ [] := List.cons_ne_nil c []
  obtain ⟨pieces, hsplits⟩ := exists_splits str hflag
  obtain ⟨full, hcut, hpieces⟩ := hsplits.cut hflag
  rw [isCut_singleton hcut] at hpieces
  rw [split, ← hpieces]
  exact hsplits

/-- `Split` ends.  A string is pieces with the separator between them, none of
which contains it; `Split` gives these, but for a last one that is empty.  Joined
again they are the string, or lack one separator at its end. -/
theorem split_loses_nothing (str flag : Str) (hflag : flag ≠ []) :
    ∃ pieces, Splits str flag pieces ∧ (∀ pieces', Splits str flag pieces' → pieces' = pieces) ∧
      (∀ piece ∈ pieces, ¬flag <:+: piece) ∧
      (flag.intercalate pieces = str ∨ flag.intercalate pieces ++ flag = str) ∧
      ∃ full, full ≠ [] ∧ flag.intercalate full = str ∧ (∀ piece ∈ full, ¬flag <:+: piece) ∧
        pieces = if full.getLast? = some [] then full.dropLast else full := by
  obtain ⟨pieces, hsplits⟩ := exists_splits str hflag
  obtain ⟨full, hcut, hpieces⟩ := hsplits.cut hflag
  refine ⟨pieces, hsplits, fun _ h => h.unique hsplits, ?_, joined_of_cut hcut hpieces,
    full, hcut.ne_nil, hcut.joined, hcut.free, hpieces⟩
  intro piece hmem
  apply hcut.free
  rw [hpieces] at hmem
  split at hmem
  · exact List.dropLast_subset full hmem
  · exact hmem

theorem split_loses_nothing_trailing :
    ∃ pieces, Splits ['a', ',', 'b', ','] [','] pieces ∧
      (∀ pieces', Splits ['a', ',', 'b', ','] [','] pieces' → pieces' = pieces) ∧
      (∀ piece ∈ pieces, ¬[','] <:+: piece) ∧
      ([','].intercalate pieces = ['a', ',', 'b', ','] ∨
        [','].intercalate pieces ++ [','] = ['a', ',', 'b', ',']) ∧
      ∃ full, full ≠ [] ∧ [','].intercalate full = ['a', ',', 'b', ','] ∧
        (∀ piece ∈ full, ¬[','] <:+: piece) ∧
        pieces = if full.getLast? = some [] then full.dropLast else full :=
  split_loses_nothing ['a', ',', 'b', ','] [','] (by decide)

example : Splits ['a', ',', 'b', ','] [','] [['a'], ['b']] := ⟨⟨4, [['a'], ['b']]⟩, ⟨3, rfl⟩, rfl⟩

end

end StandardizeUtils

end CellularCall
