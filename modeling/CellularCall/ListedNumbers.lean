import CellularCall.Emergency
import CellularCall.Standardize

/-!
# Lists of emergency numbers

The database and the operator configuration have the emergency numbers of a
network in one string.  The numbers are separated by `,`; before a number may
stand its category, and a `+`.  `Split` and `BuildDefaultEmergencyCall` read such
a string.

A number without a category is read as it is listed.  With a category the number
that is read starts with the `+` (`buildDefaultEmergencyCall_text`), which no
dialled number matches; `decoded_iff` says which lists are read right.
-/

namespace CellularCall

open Lib

/-- A number of a list. -/
structure ListedNumber where
  category : Option Nat
  number : Str
  digits : ∀ c ∈ number, c.isDigit = true

namespace ListedNumber

/-- The number as it stands in a list. -/
def text (item : ListedNumber) : Str :=
  match item.category with
  | none => item.number
  | some category => Nat.toDigits 10 category ++ '+' :: item.number

/-- A list of numbers in one string. -/
def textOf (items : List ListedNumber) : Str := [','].intercalate (items.map text)

/-- The call that is listed. -/
def emergencyCall (K : EccConstants) (simType : Int) (item : ListedNumber) : EmergencyCall where
  eccNum := item.number
  eccType := item.category.elim K.typeCategory fun category => (category : Int)
  simpresent := simType
  mcc := []
  abnormalService := K.typeAll

end ListedNumber

/-- The calls a list is read as. -/
def readEccList (K : EccConstants) (simType : Int) (eccList : Str) : List EmergencyCall :=
  (split eccList ',').map (buildDefaultEmergencyCall K simType)

/-- A list is read right: there is a call for each number, and where these calls
are a slot's emergency numbers, the numbers are recognised. -/
structure Decoded (K : EccConstants) (simType : Int) (items : List ListedNumber) : Prop where
  calls : readEccList K simType (ListedNumber.textOf items) =
    items.map (ListedNumber.emergencyCall K simType)
  recognised : ∀ (c : EccConfig) (slotId : Int) (env : SimEnv) (phone : PhoneEnv),
    c.allEccList slotId = (readEccList K simType (ListedNumber.textOf items)).map
      (EmergencyCall.withMcc (getMcc env.operatorNumeric)) →
    ∀ item ∈ items, item.number ≠ [] → c.Recognised slotId env phone item.number

/-! ## Digits -/

theorem not_mem_of_digits {s : Str} {c : Char} (hs : ∀ d ∈ s, d.isDigit = true)
    (hc : c.isDigit = false) : c ∉ s := by
  intro hmem
  rw [hs c hmem] at hc
  cases hc

theorem isDigit_of_mem_toDigits {n : Nat} : ∀ d ∈ Nat.toDigits 10 n, d.isDigit = true :=
  fun _ hd => Nat.isDigit_of_mem_toDigits (by decide) (by decide) hd

/-- Digits are read as their number. -/
theorem leadingNat_of_digits {s : Str} (hs : ∀ d ∈ s, d.isDigit = true) :
    leadingNat s = (Nat.ofDigitChars 10 s 0 : Nat) := by
  have hall : s.takeWhile Char.isDigit = s := List.takeWhile_eq_self_iff.mpr hs
  have hfold : ∀ (s : Str) (n : Nat), (∀ d ∈ s, d.isDigit = true) →
      s.foldl (fun n c => n * 10 + ((c.toNat : Int) - 48)) (n : Int) =
        (Nat.ofDigitChars 10 s n : Nat) := by
    intro s
    induction s with
    | nil => intro n _; simp
    | cons c cs ih =>
      intro n hdigits
      have hc := (Char.isDigit_iff_toNat.mp (hdigits c List.mem_cons_self)).1
      have hstep : (n : Int) * 10 + ((c.toNat : Int) - 48) =
          ((10 * n + (c.toNat - '0'.toNat) : Nat) : Int) := by
        have hzero : '0'.toNat = 48 := rfl
        omega
      rw [List.foldl_cons, hstep, ih _ fun d hd => hdigits d (List.mem_cons_of_mem c hd),
        Nat.ofDigitChars_cons]
  rw [leadingNat, hall]
  exact hfold s 0 hs

theorem isSpace_of_isDigit {d : Char} (hd : d.isDigit = true) : isSpace d = false := by
  have hlow := (Char.isDigit_iff_toNat.mp hd).1
  rw [Bool.eq_false_iff]
  intro hspace
  simp only [isSpace, Bool.or_eq_true, beq_iff_eq, Bool.and_eq_true, decide_eq_true_eq] at hspace
  rcases hspace with hblank | ⟨-, hreturn⟩
  · subst hblank
    exact absurd hlow (by decide)
  · have hhigh : d.toNat ≤ '\r'.toNat := hreturn
    exact absurd (Nat.le_trans hlow hhigh) (by decide)

/-- A category is read as it was written. -/
theorem atoi_toDigits (n : Nat) : atoi (Nat.toDigits 10 n) = n := by
  have hread := leadingNat_of_digits (isDigit_of_mem_toDigits (n := n))
  rw [Nat.ofDigitChars_ten_toDigits] at hread
  cases hdigits : Nat.toDigits 10 n with
  | nil => exact absurd hdigits Nat.toDigits_ne_nil
  | cons d ds =>
    have hd : d.isDigit = true := isDigit_of_mem_toDigits (n := n) d (by rw [hdigits]; simp)
    rw [hdigits] at hread
    rw [atoi, List.dropWhile_cons_of_neg (by rw [isSpace_of_isDigit hd]; decide)]
    split
    · rename_i heq
      rw [(List.cons.inj heq).1] at hd
      exact absurd hd (by decide)
    · rename_i heq
      rw [(List.cons.inj heq).1] at hd
      exact absurd hd (by decide)
    · exact hread

/-! ## Reading a list -/

namespace ListedNumber

variable (K : EccConstants) (simType : Int) (item : ListedNumber)

theorem comma_not_mem_text : ',' ∉ item.text := by
  have hnumber : ',' ∉ item.number := not_mem_of_digits item.digits (by decide)
  unfold text
  split
  · exact hnumber
  · rename_i category _
    have hcategory : ',' ∉ Nat.toDigits 10 category :=
      not_mem_of_digits isDigit_of_mem_toDigits (by decide)
    simp [hnumber, hcategory]

theorem text_eq_nil_iff : item.text = [] ↔ item.category = none ∧ item.number = [] := by
  unfold text
  split
  · rename_i hnone
    simp [hnone]
  · rename_i hsome
    simp [hsome]

/-- A number with a category is read with the `+` before it. -/
theorem buildDefaultEmergencyCall_text :
    buildDefaultEmergencyCall K simType item.text =
      { item.emergencyCall K simType with
        eccNum := if item.category = none then item.number else '+' :: item.number } := by
  have hnumber : '+' ∉ item.number := not_mem_of_digits item.digits (by decide)
  unfold text emergencyCall
  cases hcategory : item.category with
  | none => simp [buildDefaultEmergencyCall, hnumber]
  | some category =>
    have hplus : ∀ d ∈ Nat.toDigits 10 category, (d != '+') = true := by
      intro d hd
      rw [bne_iff_ne]
      intro heq
      exact not_mem_of_digits isDigit_of_mem_toDigits (by decide) (heq ▸ hd)
    have htake := @List.takeWhile_append_of_pos _ (· != '+') _ ('+' :: item.number) hplus
    have hdrop := @List.dropWhile_append_of_pos _ (· != '+') _ ('+' :: item.number) hplus
    simp [buildDefaultEmergencyCall, htake, hdrop, atoi_toDigits]

variable (items : List ListedNumber)

/-- `Split` gives the listed texts, without a last one that is empty. -/
theorem split_textOf :
    split (textOf items) ',' =
      if (items.map text).getLast? = some [] then (items.map text).dropLast
      else items.map text := by
  by_cases hitems : items = []
  · subst hitems; rfl
  · have hfree : ∀ t ∈ items.map text, ',' ∉ t := by
      intro t ht
      obtain ⟨item, -, rfl⟩ := List.mem_map.mp ht
      exact item.comma_not_mem_text
    rw [split, textOf, List.splitOn_intercalate ',' hfree (by simpa using hitems)]

/-- The last text is not empty. -/
theorem getLast_text_iff (hcategory : ∀ item ∈ items, item.category = none) :
    (items.map text).getLast? = some [] ↔
      ∃ item, items.getLast? = some item ∧ item.number = [] := by
  rw [List.getLast?_map, Option.map_eq_some_iff]
  constructor
  · intro h
    obtain ⟨item, hlast, htext⟩ := h
    exact ⟨item, hlast, (item.text_eq_nil_iff.mp htext).2⟩
  · intro h
    obtain ⟨item, hlast, hnumber⟩ := h
    exact ⟨item, hlast,
      item.text_eq_nil_iff.mpr ⟨hcategory item (List.mem_of_getLast? hlast), hnumber⟩⟩

/-- Which lists are read as the calls they list. -/
theorem readEccList_eq_iff :
    readEccList K simType (textOf items) = items.map (emergencyCall K simType) ↔
      (∀ item ∈ items, item.category = none) ∧
        ∀ item, items.getLast? = some item → item.number ≠ [] := by
  have hread : (items.map text).map (buildDefaultEmergencyCall K simType) =
      items.map (emergencyCall K simType) ↔ ∀ item ∈ items, item.category = none := by
    rw [List.map_map, List.map_inj_left]
    refine forall₂_congr fun item _ => ?_
    rw [Function.comp_apply, buildDefaultEmergencyCall_text]
    constructor
    · intro heq
      by_contra hcategory
      have hnumber := congrArg EmergencyCall.eccNum heq
      rw [if_neg hcategory] at hnumber
      exact absurd (congrArg List.length hnumber) (by simp [emergencyCall])
    · intro hcategory
      rw [if_pos hcategory]
      rfl
  rw [readEccList, split_textOf]
  constructor
  · intro hcalls
    -- a call for each number: no text is missing
    have hlast : (items.map text).getLast? ≠ some [] := by
      intro hempty
      rw [if_pos hempty] at hcalls
      have hlength := congrArg List.length hcalls
      cases hitems : items with
      | nil => rw [hitems] at hempty; cases hempty
      | cons item rest => rw [hitems] at hlength; simp at hlength
    rw [if_neg hlast] at hcalls
    have hcategory := hread.mp hcalls
    refine ⟨hcategory, fun item hitem hnumber => ?_⟩
    exact hlast ((getLast_text_iff items hcategory).mpr ⟨item, hitem, hnumber⟩)
  · intro h
    obtain ⟨hcategory, hnumber⟩ := h
    have hlast : (items.map text).getLast? ≠ some [] := by
      rw [Ne, getLast_text_iff items hcategory]
      intro hempty
      obtain ⟨item, hitem, hnone⟩ := hempty
      exact hnumber item hitem hnone
    rw [if_neg hlast]
    exact hread.mpr hcategory

end ListedNumber

/-- The slot's list has the number, so it is recognised. -/
theorem recognised_of_mem {c : EccConfig} {slotId : Int} {env : SimEnv} {phone : PhoneEnv}
    {item : ListedNumber} {call : EmergencyCall} (hmem : call ∈ c.allEccList slotId)
    (hmcc : call.mcc = getMcc env.operatorNumeric) (hnum : call.eccNum = item.number)
    (hnumber : item.number ≠ []) : c.Recognised slotId env phone item.number := by
  intro enabled
  have hat : '@' ∉ item.number := not_mem_of_digits item.digits (by decide)
  have hpercent : ¬['%', '4', '0'] <:+: item.number := fun hinfix =>
    not_mem_of_digits item.digits (by decide) (List.IsInfix.subset hinfix List.mem_cons_self)
  have hplus : item.number.head? ≠ some '+' := fun hhead =>
    not_mem_of_digits item.digits (by decide) (List.mem_of_head? hhead)
  have hlist : c.allEccList slotId ≠ [] := List.ne_nil_of_mem hmem
  rw [EccConfig.isEmergencyCall, if_neg hnumber, if_neg (fun h => h.elim hat hpercent),
    if_neg hplus, EccConfig.isEmergencyCallProcessing, if_neg hlist]
  have hany : (c.allEccList slotId).any (fun call =>
      (decide (call.mcc = getMcc env.operatorNumeric) || phone.dynamicPoweroffModem) &&
        decide (call.eccNum = item.number)) = true :=
    List.any_eq_true.mpr ⟨call, hmem, by simp [hmcc, hnum]⟩
  rw [hany]

/-- A list is read right if and only if none of its numbers has a category and
the last one is not empty. -/
theorem decoded_iff (K : EccConstants) (simType : Int) (items : List ListedNumber) :
    Decoded K simType items ↔
      (∀ item ∈ items, item.category = none) ∧
        ∀ item, items.getLast? = some item → item.number ≠ [] := by
  rw [← ListedNumber.readEccList_eq_iff K simType]
  constructor
  · exact Decoded.calls
  · intro hcalls
    refine ⟨hcalls, ?_⟩
    intro c slotId env phone hlist item hitem hnumber
    rw [hcalls] at hlist
    have hmem : (item.emergencyCall K simType).withMcc (getMcc env.operatorNumeric) ∈
        c.allEccList slotId := by
      rw [hlist]
      exact List.mem_map_of_mem (List.mem_map_of_mem hitem)
    exact recognised_of_mem hmem rfl rfl hnumber

/-- 110 of category 1 is read as +110, and is not recognised. -/
theorem not_decoded_of_category :
    ¬∀ (K : EccConstants) (simType : Int) (items : List ListedNumber),
      Decoded K simType items := by
  intro hall
  have hcalls := (hall EccConstants.twoSlots 0
    [⟨some 1, ['1', '1', '0'], List.all_eq_true.mp rfl⟩]).calls
  exact absurd hcalls (by decide)

end CellularCall
