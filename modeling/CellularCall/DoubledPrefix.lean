import CellularCall.FailedQuery

/-!
# Doubled country prefixes

A CS list passes through `ProcessCsPhoneNumber`, which writes `+86` for `0086` and
`086`, and through `ProcessRedundantCode`, which takes a second `86` out of a mobile
number.  Which spelling of the doubled prefix is looked for depends on the type of
the number, which the first pass does not change.

`DoubledSpelling` is a doubled prefix as a list may have it, and `prefixRepaired` says
what the two passes do to a list.
-/

namespace CellularCall

open Lib

/-- An eleven-digit mobile number: what follows the prefixes in
`DUPLICATIVE_CN_INTERNATIONAL_NUMBER_PREFIX_FORMAT`. -/
def Mobile (m : Str) : Prop :=
  (Regex.seq mobilePattern (.rep Char.isDigit 8 (some 8))).Matches m []

/-- The ways to spell a doubled country prefix. -/
inductive DoubledSpelling where
  | plus
  | plain
  | zeroZero
  | zero
deriving DecidableEq, Repr

namespace DoubledSpelling

/-- What the list has before the mobile number. -/
def text : DoubledSpelling → Str
  | plus => ['+', '8', '6', '8', '6']
  | plain => ['8', '6', '8', '6']
  | zeroZero => ['0', '0', '8', '6', '8', '6']
  | zero => ['0', '8', '6', '8', '6']

/-- What is left of it after `ProcessCsPhoneNumber`. -/
def replaced : DoubledSpelling → Str
  | plain => ['8', '6', '8', '6']
  | _ => ['+', '8', '6', '8', '6']

/-- The type of the number is international exactly if the replaced prefix has a
plus sign. -/
def Suits (spelling : DoubledSpelling) (type : Int) : Prop := spelling ≠ plain ↔ type = 145

theorem suits_iff {spelling : DoubledSpelling} {type : Int} :
    spelling.Suits type ↔ spelling.replaced = doublePhoneNumberPrefix type := by
  unfold Suits doublePhoneNumberPrefix
  by_cases htype : type = 145 <;> cases spelling <;> simp [htype, replaced]

end DoubledSpelling

/-- The two passes over a CS list. -/
def processCsNumbers (imsi : Str) (L : CallInfoList) : CallInfoList :=
  processRedundantCode (processCsPhoneNumber imsi L)

/-! ## Mobile numbers -/

theorem length_of_mobilePattern {a : Str} {c : Regex.Captures Char}
    (h : mobilePattern.Matches a c) : a.length = 3 ∧ c = [] := by
  have hdigit : ∀ {w : Str}, w.length = 2 →
      (Regex.seq (.word w) (.rep Char.isDigit 1 (some 1))).Matches a c →
      a.length = 3 ∧ c = [] := by
    intro w hw h
    obtain ⟨s₁, c₁, s₂, c₂, ⟨rfl, rfl⟩, ⟨-, ⟨hlo, hhi⟩, rfl⟩, rfl, rfl⟩ := h
    have hone := hhi 1 rfl
    rw [List.length_append]
    exact ⟨by omega, rfl⟩
  have hword : ∀ {w : Str}, w.length = 3 → (Regex.word w).Matches a c →
      a.length = 3 ∧ c = [] := by
    intro w hw h
    obtain ⟨rfl, rfl⟩ := h
    exact ⟨hw, rfl⟩
  rcases h with h | h | h | h | h | h | h | h | h | h
  · exact hdigit rfl h
  · exact hdigit rfl h
  · exact hdigit rfl h
  · exact hword rfl h
  · exact hword rfl h
  · exact hword rfl h
  · exact hword rfl h
  · exact hdigit rfl h
  · exact hdigit rfl h
  · exact hdigit rfl h

theorem Mobile.length_eq {m : Str} (hm : Mobile m) : m.length = 11 := by
  obtain ⟨a, c, b, d, ha, ⟨-, ⟨hlo, hhi⟩, -⟩, rfl, -⟩ := hm
  have hthree := (length_of_mobilePattern ha).1
  have height := hhi 8 rfl
  rw [List.length_append]
  omega

/-- The pattern matches a mobile number after one or two country prefixes. -/
theorem isSome_fullMatch_iff {s : Str} :
    (phoneContextPattern.fullMatch s).isSome = true ↔
      ∃ sign again m, (sign = ['+'] ∨ sign = []) ∧ (again = ['8', '6'] ∨ again = []) ∧ Mobile m ∧
        s = sign ++ ['8', '6'] ++ (again ++ m) := by
  rw [Option.isSome_iff_exists]
  constructor
  · intro h
    obtain ⟨c, hc⟩ := h
    obtain ⟨_, _, _, _, ⟨_, ⟨sign, _, _, _, hsign, ⟨rfl, rfl⟩, rfl, rfl⟩, rfl⟩,
      ⟨again, _, _, _, hagain, ⟨a, ca, b, _, ⟨_, ha, rfl⟩, ⟨_, hb, rfl⟩, rfl, rfl⟩, rfl, rfl⟩, rfl,
      rfl⟩ := Regex.matches_of_fullMatch hc
    obtain ⟨-, rfl⟩ := length_of_mobilePattern ha
    have hnone := hb.2.2
    refine ⟨sign, again, a ++ b, hsign.imp And.left And.left, hagain.imp And.left And.left,
      ⟨a, [], b, _, ha, hb, rfl, hnone.symm⟩, rfl⟩
  · intro h
    obtain ⟨sign, again, m, hsign, hagain, ⟨a, c, b, d, ha, hb, rfl, -⟩, rfl⟩ := h
    exact Regex.exists_fullMatch
      ⟨_, _, _, _,
        ⟨_, ⟨sign, [], _, _, hsign.imp (⟨·, rfl⟩) (⟨·, rfl⟩), ⟨rfl, rfl⟩, rfl, rfl⟩, rfl⟩,
        ⟨again, [], _, _, hagain.imp (⟨·, rfl⟩) (⟨·, rfl⟩),
          ⟨a, _, b, _, ⟨c, ha, rfl⟩, ⟨d, hb, rfl⟩, rfl, rfl⟩, rfl, rfl⟩, rfl, rfl⟩

/-! ## The two passes over a number -/

/-- The first pass makes two spellings of the four. -/
theorem replacePrefix_spelled {imsi : Str} (himsi : imsi.take 3 = ['4', '6', '0'])
    (spelling : DoubledSpelling) (m : Str) :
    replacePrefix imsi (spelling.text ++ m) = spelling.replaced ++ m := by
  unfold replacePrefix
  dsimp only
  rw [if_neg (not_not.mpr himsi)]
  cases spelling <;>
    simp [DoubledSpelling.text, DoubledSpelling.replaced, cnInternationalNumberPrefix]

/-- A number with the international prefix is left alone. -/
theorem replacePrefix_international (imsi rest : Str) :
    replacePrefix imsi (cnInternationalNumberPrefix ++ rest) =
      cnInternationalNumberPrefix ++ rest := by
  simp [replacePrefix, cnInternationalNumberPrefix]

/-- A prefix that is replaced leaves none to replace. -/
theorem replacePrefix_replacePrefix (imsi number : Str) :
    replacePrefix imsi (replacePrefix imsi number) = replacePrefix imsi number := by
  have hcases : replacePrefix imsi number = number ∨
      ∃ rest, replacePrefix imsi number = cnInternationalNumberPrefix ++ rest := by
    unfold replacePrefix
    dsimp only
    split_ifs
    · exact Or.inl rfl
    · exact Or.inr ⟨_, rfl⟩
    · exact Or.inr ⟨_, rfl⟩
    · exact Or.inl rfl
  rcases hcases with hsame | ⟨rest, hrest⟩
  · rw [hsame, hsame]
  · rw [hrest, replacePrefix_international]

/-- The prefix that is looked for: a sign or none, and the country code twice. -/
theorem doublePhoneNumberPrefix_eq (type : Int) :
    ∃ sign, (sign = ['+'] ∨ sign = []) ∧
      doublePhoneNumberPrefix type = sign ++ ['8', '6'] ++ ['8', '6'] := by
  unfold doublePhoneNumberPrefix
  split
  · exact ⟨['+'], Or.inl rfl, rfl⟩
  · exact ⟨[], Or.inr rfl, rfl⟩

/-- The second pass takes out a doubled prefix that suits the type. -/
theorem redundantCode_of_doubled {call : CallInfo} {m : Str} (hm : Mobile m)
    (hnumber : call.number = doublePhoneNumberPrefix call.type ++ m) :
    redundantCode call = cnInternationalNumberPrefix ++ m := by
  obtain ⟨sign, hsign, hprefix⟩ := doublePhoneNumberPrefix_eq call.type
  have hmatch : (phoneContextPattern.fullMatch call.number).isSome = true := by
    refine isSome_fullMatch_iff.mpr ⟨sign, ['8', '6'], m, hsign, Or.inl rfl, hm, ?_⟩
    rw [hnumber, hprefix, List.append_assoc]
  have hlength : ¬(call.number.length ≠ 15 ∧ call.number.length ≠ 16) := by
    rw [hnumber, hprefix, List.length_append, hm.length_eq]
    rcases hsign with rfl | rfl
    · exact fun h => h.2 rfl
    · exact fun h => h.1 rfl
  unfold redundantCode
  dsimp only
  rw [if_neg hlength, if_neg (not_not.mpr ⟨m, hnumber.symm⟩), if_pos hmatch, hnumber,
    List.drop_left]

/-- A repaired number is too short to be changed again. -/
theorem redundantCode_international {call : CallInfo} {m : Str} (hm : Mobile m)
    (hnumber : call.number = cnInternationalNumberPrefix ++ m) :
    redundantCode call = call.number := by
  have hlength : call.number.length = 14 := by
    rw [hnumber, List.length_append, hm.length_eq]
    rfl
  unfold redundantCode
  dsimp only
  rw [if_pos ⟨by omega, by omega⟩]

/-- The second pass changes no other number. -/
theorem redundantCode_cases (call : CallInfo) :
    redundantCode call = call.number ∨
      (phoneContextPattern.fullMatch call.number).isSome = true ∧
      ∃ m, Mobile m ∧ call.number = doublePhoneNumberPrefix call.type ++ m := by
  unfold redundantCode
  dsimp only
  split_ifs with hlength hprefix hmatch
  · exact Or.inl rfl
  · refine Or.inr ⟨hmatch, ?_⟩
    obtain ⟨sign, again, m, hsign, hagain, hm, hnumber⟩ := isSome_fullMatch_iff.mp hmatch
    obtain ⟨rest, hrest⟩ := hprefix
    obtain ⟨sign', hsign', hdouble⟩ := doublePhoneNumberPrefix_eq call.type
    refine ⟨m, hm, ?_⟩
    -- fifteen or sixteen characters are those of both country codes
    have hlong : again = ['8', '6'] := by
      rcases hagain with h | h
      · exact h
      · rw [hnumber, h, List.nil_append, List.length_append, hm.length_eq] at hlength
        rcases hsign with rfl | rfl
        · exact absurd (by decide) hlength
        · exact absurd (by decide) hlength
    have hsame : sign' = sign := by
      rw [hdouble, hnumber] at hrest
      rcases hsign with rfl | rfl <;> rcases hsign' with rfl | rfl
      · rfl
      · cases hrest
      · cases hrest
      · rfl
    rw [hdouble, hsame, hnumber, hlong]
    exact (List.append_assoc (sign ++ _) _ _).symm
  · exact Or.inl rfl
  · exact Or.inl rfl

/-! ## The two passes over a call -/

/-- What the two passes make of a call. -/
def CallInfo.repaired (imsi : Str) (call : CallInfo) : CallInfo :=
  { call with
    number := redundantCode { call with number := replacePrefix imsi call.number } }

theorem CallInfo.repaired_of_suits {imsi : Str} (himsi : imsi.take 3 = ['4', '6', '0'])
    {spelling : DoubledSpelling} {call : CallInfo} {m : Str} (hm : Mobile m)
    (hnumber : call.number = spelling.text ++ m) (hsuits : spelling.Suits call.type) :
    (call.repaired imsi).number = cnInternationalNumberPrefix ++ m := by
  refine redundantCode_of_doubled hm ?_
  dsimp only
  rw [hnumber, replacePrefix_spelled himsi, DoubledSpelling.suits_iff.mp hsuits]

/-- A doubled prefix that does not suit the type is left where it is. -/
theorem CallInfo.repaired_of_not_suits {imsi : Str} (himsi : imsi.take 3 = ['4', '6', '0'])
    {spelling : DoubledSpelling} {call : CallInfo} {m : Str} (hm : Mobile m)
    (hnumber : call.number = spelling.text ++ m) (hsuits : ¬spelling.Suits call.type) :
    (call.repaired imsi).number = spelling.replaced ++ m := by
  have hreplaced : replacePrefix imsi call.number = spelling.replaced ++ m := by
    rw [hnumber, replacePrefix_spelled himsi]
  unfold CallInfo.repaired
  dsimp only
  rw [hreplaced]
  rcases redundantCode_cases { call with number := spelling.replaced ++ m } with hsame | ⟨-, h⟩
  · exact hsame
  · obtain ⟨m', hm', hdouble⟩ := h
    have hlength : m.length = m'.length := hm.length_eq.trans hm'.length_eq.symm
    exact absurd (DoubledSpelling.suits_iff.mpr (List.append_inj' hdouble hlength).1) hsuits

/-- The repaired number is not one of those with a doubled prefix. -/
theorem replaced_ne {spelling : DoubledSpelling} {m : Str} :
    spelling.replaced ++ m ≠ cnInternationalNumberPrefix ++ m := by
  intro h
  have hsame := List.append_cancel_right h
  cases spelling <;> cases hsame

/-- Nor is a number whose doubled prefix is as it was. -/
theorem text_ne {spelling : DoubledSpelling} {m : Str} :
    spelling.text ++ m ≠ cnInternationalNumberPrefix ++ m := by
  intro h
  have hsame := List.append_cancel_right h
  cases spelling <;> cases hsame

/-- A call that went through both passes is not changed by them again. -/
theorem CallInfo.repaired_repaired (imsi : Str) (call : CallInfo) :
    (call.repaired imsi).repaired imsi = call.repaired imsi := by
  have hagain : redundantCode { call with
      number := replacePrefix imsi
        (redundantCode { call with number := replacePrefix imsi call.number }) } =
      redundantCode { call with number := replacePrefix imsi call.number } := by
    rcases redundantCode_cases { call with number := replacePrefix imsi call.number } with
      hsame | ⟨-, m, hm, hdouble⟩
    · rw [hsame, replacePrefix_replacePrefix, hsame]
    · rw [redundantCode_of_doubled hm hdouble, replacePrefix_international]
      exact redundantCode_international hm rfl
  unfold CallInfo.repaired
  dsimp only
  rw [hagain]

/-! ## The two passes over a list -/

theorem calls_processCalls {κ : Type} (f : κ → κ) (L : CallList κ) :
    (processCalls f L).calls = if L.callSize = 0 then L.calls else L.calls.map f := by
  unfold processCalls
  by_cases hsize : L.callSize = 0
  · rw [if_pos (Or.inl hsize), if_pos hsize]
  · rw [if_neg hsize]
    split
    · rename_i h
      rw [List.isEmpty_iff.mp (h.resolve_left hsize)]
      rfl
    · rfl

theorem calls_processCsNumbers (imsi : Str) (L : CallInfoList) :
    (processCsNumbers imsi L).calls =
      if L.callSize = 0 then L.calls else L.calls.map (CallInfo.repaired imsi) := by
  unfold processCsNumbers processRedundantCode processCsPhoneNumber
  rw [calls_processCalls, callSize_processCalls, calls_processCalls]
  split
  · rfl
  · rw [List.map_map]
    rfl

theorem callSize_processCsNumbers (imsi : Str) (L : CallInfoList) :
    (processCsNumbers imsi L).callSize = L.callSize :=
  (callSize_processCalls _ _).trans (callSize_processCalls _ _)

/-- What the two passes do to a list: a number with a doubled prefix is repaired, where
the list announces calls and the prefix suits the type, and only there; a number that
does not match the pattern after the first pass is left as it is then; doing it again
changes nothing; and nothing but the numbers changes. -/
structure PrefixRepaired (imsi : Str) (L : CallInfoList) : Prop where
  repaired : ∀ (i : Nat) (call : CallInfo), L.calls[i]? = some call →
    ∀ (spelling : DoubledSpelling) (m : Str), Mobile m → call.number = spelling.text ++ m →
    ∃ call' : CallInfo, (processCsNumbers imsi L).calls[i]? = some call' ∧
      (call'.number = cnInternationalNumberPrefix ++ m ↔
        L.callSize ≠ 0 ∧ spelling.Suits call.type)
  others : ∀ (i : Nat) (call : CallInfo), (processCsPhoneNumber imsi L).calls[i]? = some call →
    (phoneContextPattern.fullMatch call.number).isSome = false →
    (processCsNumbers imsi L).calls[i]? = some call
  idempotent : processCsNumbers imsi (processCsNumbers imsi L) = processCsNumbers imsi L
  fields : ∀ (i : Nat) (call : CallInfo), L.calls[i]? = some call → ∃ number : Str,
    (processCsNumbers imsi L).calls[i]? = some { call with number := number }
  length : (processCsNumbers imsi L).calls.length = L.calls.length
  callSize : (processCsNumbers imsi L).callSize = L.callSize

/-- A list that announces no calls is not read. -/
theorem getElem?_processCsNumbers_of_zero {imsi : Str} {L : CallInfoList} (hsize : L.callSize = 0)
    (i : Nat) : (processCsNumbers imsi L).calls[i]? = L.calls[i]? := by
  rw [calls_processCsNumbers, if_pos hsize]

theorem getElem?_processCsNumbers {imsi : Str} {L : CallInfoList} (hsize : L.callSize ≠ 0)
    (i : Nat) :
    (processCsNumbers imsi L).calls[i]? = L.calls[i]?.map (CallInfo.repaired imsi) := by
  rw [calls_processCsNumbers, if_neg hsize, List.getElem?_map]

/-- Which doubled prefixes are repaired. -/
theorem repaired_iff {imsi : Str} (himsi : imsi.take 3 = ['4', '6', '0']) {L : CallInfoList}
    {i : Nat} {call : CallInfo} (hcall : L.calls[i]? = some call) {spelling : DoubledSpelling}
    {m : Str} (hm : Mobile m) (hnumber : call.number = spelling.text ++ m) :
    ∃ call' : CallInfo, (processCsNumbers imsi L).calls[i]? = some call' ∧
      (call'.number = cnInternationalNumberPrefix ++ m ↔
        L.callSize ≠ 0 ∧ spelling.Suits call.type) := by
  by_cases hsize : L.callSize = 0
  · refine ⟨call, (getElem?_processCsNumbers_of_zero hsize i).trans hcall, ?_⟩
    refine iff_of_false ?_ (fun h => h.1 hsize)
    rw [hnumber]
    exact text_ne
  · refine ⟨call.repaired imsi, ?_, ?_⟩
    · rw [getElem?_processCsNumbers hsize, hcall]
      rfl
    · by_cases hsuits : spelling.Suits call.type
      · exact iff_of_true (CallInfo.repaired_of_suits himsi hm hnumber hsuits) ⟨hsize, hsuits⟩
      · refine iff_of_false ?_ (fun h => hsuits h.2)
        rw [CallInfo.repaired_of_not_suits himsi hm hnumber hsuits]
        exact replaced_ne

/-- A number that does not match the pattern keeps what the first pass made of it. -/
theorem getElem?_of_unmatched {imsi : Str} {L : CallInfoList} {i : Nat} {call : CallInfo}
    (hcall : (processCsPhoneNumber imsi L).calls[i]? = some call)
    (hmatch : (phoneContextPattern.fullMatch call.number).isSome = false) :
    (processCsNumbers imsi L).calls[i]? = some call := by
  have hsame : redundantCode call = call.number := by
    rcases redundantCode_cases call with h | h
    · exact h
    · exact absurd (h.1.symm.trans hmatch) (by decide)
  unfold processCsNumbers processRedundantCode
  rw [calls_processCalls]
  split
  · exact hcall
  · rw [List.getElem?_map, hcall, Option.map_some, hsame]

/-- The passes made twice change a list as the passes made once. -/
theorem processCsNumbers_processCsNumbers (imsi : Str) (L : CallInfoList) :
    processCsNumbers imsi (processCsNumbers imsi L) = processCsNumbers imsi L := by
  have hsizes := callSize_processCsNumbers imsi (processCsNumbers imsi L)
  have hcalls : (processCsNumbers imsi (processCsNumbers imsi L)).calls =
      (processCsNumbers imsi L).calls := by
    rw [calls_processCsNumbers, callSize_processCsNumbers, calls_processCsNumbers]
    by_cases hsize : L.callSize = 0
    · rw [if_pos hsize, if_pos hsize]
    · rw [if_neg hsize, if_neg hsize, List.map_map]
      refine List.map_congr_left (fun call _ => ?_)
      exact CallInfo.repaired_repaired imsi call
  exact congrArg₂ CallList.mk hsizes hcalls

/-- A list keeps its length, and every call all but its number. -/
theorem getElem?_fields {imsi : Str} {L : CallInfoList} {i : Nat} {call : CallInfo}
    (hcall : L.calls[i]? = some call) :
    ∃ number : Str, (processCsNumbers imsi L).calls[i]? = some { call with number := number } := by
  by_cases hsize : L.callSize = 0
  · exact ⟨call.number, (getElem?_processCsNumbers_of_zero hsize i).trans hcall⟩
  · refine ⟨(call.repaired imsi).number, ?_⟩
    rw [getElem?_processCsNumbers hsize, hcall]
    rfl

theorem length_processCsNumbers (imsi : Str) (L : CallInfoList) :
    (processCsNumbers imsi L).calls.length = L.calls.length := by
  rw [calls_processCsNumbers]
  split
  · rfl
  · rw [List.length_map]

/-- What the two passes do to the list of a SIM of the mainland. -/
theorem prefixRepaired (imsi : Str) (L : CallInfoList) (himsi : imsi.take 3 = ['4', '6', '0']) :
    PrefixRepaired imsi L where
  repaired := by
    intro i call hcall spelling m hm hnumber
    exact repaired_iff himsi hcall hm hnumber
  others := by
    intro i call hcall hmatch
    exact getElem?_of_unmatched hcall hmatch
  idempotent := processCsNumbers_processCsNumbers imsi L
  fields := by
    intro i call hcall
    exact getElem?_fields hcall
  length := length_processCsNumbers imsi L
  callSize := callSize_processCsNumbers imsi L

/-- A mobile number. -/
def mobileNumber : Str := ['1', '3', '8', '1', '2', '3', '4', '5', '6', '7', '8']

theorem mobile_mobileNumber : Mobile mobileNumber := by
  refine ⟨['1', '3', '8'], [], ['1', '2', '3', '4', '5', '6', '7', '8'], [], ?_, ?_, rfl, rfl⟩
  · refine Or.inl ⟨['1', '3'], [], ['8'], [], ⟨rfl, rfl⟩, ⟨?_, ?_, rfl⟩, rfl, rfl⟩
    · exact List.all_eq_true.mp rfl
    · exact ⟨Nat.le_refl 1, by decide⟩
  · refine ⟨?_, ?_, rfl⟩
    · exact List.all_eq_true.mp rfl
    · exact ⟨Nat.le_refl 8, by decide⟩

/-- A list of one call, whose number has a doubled prefix with a plus sign. -/
def doubledList (type : Int) : CallInfoList :=
  .of [{ CallInfo.plain 1 .active with
    number := DoubledSpelling.plus.text ++ mobileNumber, type := type }]

/-- Of the international type, it is repaired. -/
theorem prefixRepaired_international :
    Mobile mobileNumber ∧ PrefixRepaired ['4', '6', '0'] (doubledList 145) ∧
      (processCsNumbers ['4', '6', '0'] (doubledList 145)).calls.map CallInfo.number =
        [cnInternationalNumberPrefix ++ mobileNumber] :=
  ⟨mobile_mobileNumber, prefixRepaired _ _ rfl, by decide⟩

/-- Of another type, it is not: not every doubled prefix is repaired. -/
theorem not_every_doubled_repaired :
    ¬∀ (imsi : Str) (L : CallInfoList), imsi.take 3 = ['4', '6', '0'] →
      ∀ (i : Nat) (call : CallInfo), L.calls[i]? = some call →
      ∀ (spelling : DoubledSpelling) (m : Str), Mobile m → call.number = spelling.text ++ m →
      ∃ call' : CallInfo, (processCsNumbers imsi L).calls[i]? = some call' ∧
        call'.number = cnInternationalNumberPrefix ++ m := by
  intro h
  obtain ⟨call', hcall', hnumber⟩ := h ['4', '6', '0'] (doubledList 129) rfl 0 _ rfl
    DoubledSpelling.plus mobileNumber mobile_mobileNumber rfl
  have hleft : (processCsNumbers ['4', '6', '0'] (doubledList 129)).calls[0]? =
      (doubledList 129).calls[0]? := by decide
  have hsame := Option.some.inj (hcall'.symm.trans hleft)
  rw [hsame] at hnumber
  exact text_ne hnumber

end CellularCall
