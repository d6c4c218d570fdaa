import CellularCall.Control.Satellite
import CellularCall.Emergency
import CellularCall.Lib.Regex
import CellularCall.Slot
import CellularCall.SsRequests

/-!
# MMI codes

`MMICodeUtils` reads a dialled string as an MMI code: a short code, a procedure
such as `*31#` with or without a number after it, or any other string between
`*` or `#` and `#`.  `ControlBase::IsNeedExecuteMMI` executes the code, or takes
the procedure off the number that follows it.

A procedure is written in one way only, so what the pattern captures are its
parts (`regexMatchMmi_eq_some_iff`), and the data parsed of a code determine the
string (`source_of_isNeedExecuteMmi`).
-/

namespace CellularCall

open Lib

/-- `MMIData` with all it is parsed to. -/
structure ParsedMMIData extends MMIData where
  fullString : Str
  serviceInfoC : Str
  pwdString : Str
  dialString : Str
deriving DecidableEq, Repr

/-- The data of a string that is not parsed any further. -/
def ParsedMMIData.ofFullString (fullString : Str) : ParsedMMIData :=
  ⟨⟨[], [], [], []⟩, fullString, [], [], []⟩

/-! ## `RegexMatchMmi` -/

/-- `[^*#]`. -/
def isInfoChar (c : Char) : Bool := c != '*' && c != '#'

/-- `.`, which is no line break. -/
def isAnyChar (c : Char) : Bool := c != '\n' && c != '\r'

/-- `\*|#|\*#|\*\*|##`. -/
def actionPattern : Regex Char :=
  .alt (.word ['*']) (.alt (.word ['#']) (.alt (.word ['*', '#'])
    (.alt (.word ['*', '*']) (.word ['#', '#']))))

/-- `(\*([^*#]*)(\*([^*#]*)…)?)?`, nested so many times, with the groups from `n`. -/
def infosPattern : Nat → Nat → Regex Char
  | 0, _ => .word []
  | depth + 1, n =>
    .opt (.group n (.seq (.word ['*'])
      (.seq (.group (n + 1) (.rep isInfoChar 0 none)) (infosPattern depth (n + 2)))))

/-- `((\*|#|\*#|\*\*|##)(\d{2,3})(\*([^*#]*)(\*([^*#]*)(\*([^*#]*)(\*([^*#]*))?)?)?)?#)(.*)`. -/
def mmiPattern : Regex Char :=
  .seq
    (.group 1 (.seq (.group 2 actionPattern) (.seq (.group 3 (.rep Char.isDigit 2 (some 3)))
      (.seq (infosPattern 4 4) (.word ['#'])))))
    (.group 12 (.rep isAnyChar 0 none))

/-- `RegexMatchMmi`. -/
def regexMatchMmi (analyseString : Str) : Option ParsedMMIData :=
  (mmiPattern.fullMatch analyseString).map fun results =>
    { actionString := results.str 2
      serviceCode := results.str 3
      serviceInfoA := results.str 5
      serviceInfoB := results.str 7
      serviceInfoC := results.str 9
      pwdString := results.str 11
      dialString := results.str 12
      fullString :=
        if analyseString.getLast? = some '#' ∧ (results.str 12).getLast? = some '#' then
          analyseString
        else results.str 1 }

/-- The ways to open a procedure. -/
def mmiActions : List Str := [['*'], ['#'], ['*', '#'], ['*', '*'], ['#', '#']]

/-- A procedure: what to do, with which service, and up to four pieces of
information. -/
@[ext] structure MmiProcedure where
  action : Str
  serviceCode : Str
  infos : List Str
  action_mem : action ∈ mmiActions
  serviceCode_digits : ∀ x ∈ serviceCode, x.isDigit = true
  serviceCode_length : 2 ≤ serviceCode.length ∧ serviceCode.length ≤ 3
  infos_length : infos.length ≤ 4
  infos_chars : ∀ info ∈ infos, ∀ x ∈ info, isInfoChar x = true

/-- The pieces of information, each after a `*`. -/
def infosText (infos : List Str) : Str := infos.flatMap fun info => '*' :: info

theorem infosText_cons (info : Str) (infos : List Str) :
    infosText (info :: infos) = '*' :: (info ++ infosText infos) := rfl

/-- What `infosPattern` captures of them. -/
def infosCaptures (n : Nat) : List Str → Regex.Captures Char
  | [] => []
  | info :: infos =>
    (n, infosText (info :: infos)) :: (n + 1, info) :: infosCaptures (n + 2) infos

/-- The string has no line break. -/
def OneLine (s : Str) : Prop := ∀ x ∈ s, isAnyChar x = true

namespace MmiProcedure

/-- The procedure as it is dialled. -/
def text (m : MmiProcedure) : Str :=
  m.action ++ (m.serviceCode ++ (infosText m.infos ++ ['#']))

/-- What `mmiPattern` captures of the procedure and the string after it. -/
def captures (m : MmiProcedure) (dialString : Str) : Regex.Captures Char :=
  (1, m.text) :: (2, m.action) :: (3, m.serviceCode) ::
    (infosCaptures 4 m.infos ++ [(12, dialString)])

/-- What is parsed of the procedure and the string after it. -/
def data (m : MmiProcedure) (dialString : Str) : ParsedMMIData where
  actionString := m.action
  serviceCode := m.serviceCode
  serviceInfoA := m.infos[0]?.getD []
  serviceInfoB := m.infos[1]?.getD []
  serviceInfoC := m.infos[2]?.getD []
  pwdString := m.infos[3]?.getD []
  dialString := dialString
  fullString := if dialString.getLast? = some '#' then m.text ++ dialString else m.text

end MmiProcedure

theorem matches_actionPattern {s : Str} {c : Regex.Captures Char} :
    actionPattern.Matches s c ↔ s ∈ mmiActions ∧ c = [] := by
  simp only [actionPattern, Regex.Matches, mmiActions, List.mem_cons, List.not_mem_nil, or_false,
    ← or_and_right]

theorem matches_infosPattern {depth n : Nat} {s : Str} {c : Regex.Captures Char} :
    (infosPattern depth n).Matches s c ↔
      ∃ infos : List Str, infos.length ≤ depth ∧
        (∀ info ∈ infos, ∀ x ∈ info, isInfoChar x = true) ∧
        s = infosText infos ∧ c = infosCaptures n infos := by
  induction depth generalizing n s c with
  | zero =>
    constructor
    · intro h
      obtain ⟨rfl, rfl⟩ := h
      exact ⟨[], Nat.le_refl 0, by simp, rfl, rfl⟩
    · intro h
      obtain ⟨infos, hlength, -, rfl, rfl⟩ := h
      obtain rfl : infos = [] := List.length_eq_zero_iff.mp (Nat.le_zero.mp hlength)
      exact ⟨rfl, rfl⟩
  | succ depth ih =>
    constructor
    · intro h
      rcases h with ⟨c', ⟨s₁, c₁, s₂, c₂, ⟨rfl, rfl⟩, hmore, rfl, rfl⟩, rfl⟩ | ⟨rfl, rfl⟩
      · obtain ⟨info, ci, s₃, c₃, ⟨ci', ⟨hinfo, -, rfl⟩, rfl⟩, hrest, rfl, rfl⟩ := hmore
        obtain ⟨infos, hlength, hchars, rfl, rfl⟩ := ih.mp hrest
        refine ⟨info :: infos, Nat.succ_le_succ hlength, ?_, rfl, rfl⟩
        intro info' hmem
        rcases List.mem_cons.mp hmem with rfl | hmem
        · exact hinfo
        · exact hchars info' hmem
      · exact ⟨[], Nat.zero_le _, by simp, rfl, rfl⟩
    · intro h
      obtain ⟨infos, hlength, hchars, rfl, rfl⟩ := h
      cases infos with
      | nil => exact Or.inr ⟨rfl, rfl⟩
      | cons info infos =>
        have hrest := (ih (n := n + 2)).mpr ⟨infos, Nat.le_of_succ_le_succ hlength,
          fun info' hmem => hchars info' (List.mem_cons_of_mem _ hmem), rfl, rfl⟩
        have hinfo := hchars info List.mem_cons_self
        refine Or.inl ⟨_, ⟨['*'], [], _, _, ⟨rfl, rfl⟩, ?_, rfl, rfl⟩, rfl⟩
        exact ⟨info, _, _, _, ⟨[], ⟨hinfo, ⟨Nat.zero_le _, by simp⟩, rfl⟩, rfl⟩, hrest, rfl, rfl⟩

/-- The pattern matches a procedure and a line after it. -/
theorem matches_mmiPattern {s : Str} {c : Regex.Captures Char} :
    mmiPattern.Matches s c ↔
      ∃ (m : MmiProcedure) (dialString : Str), OneLine dialString ∧ s = m.text ++ dialString ∧
        c = m.captures dialString := by
  constructor
  · rintro ⟨s₁, c₁, dialString, c₂, ⟨c₁', ⟨action, ca, s₂, c₃, haction, hcode, rfl, rfl⟩, rfl⟩,
      ⟨c₂', ⟨hline, -, rfl⟩, rfl⟩, rfl, rfl⟩
    obtain ⟨ca', haction, rfl⟩ := haction
    obtain ⟨hmem, rfl⟩ := matches_actionPattern.mp haction
    obtain ⟨serviceCode, cs, s₃, c₄, ⟨cs', ⟨hdigits, hlength, rfl⟩, rfl⟩, hinfos, rfl, rfl⟩ := hcode
    obtain ⟨si, ci, se, ce, hinfos, ⟨rfl, rfl⟩, rfl, rfl⟩ := hinfos
    obtain ⟨infos, hcount, hchars, rfl, rfl⟩ := matches_infosPattern.mp hinfos
    refine ⟨⟨action, serviceCode, infos, hmem, hdigits, ⟨hlength.1, hlength.2 3 rfl⟩, hcount,
      hchars⟩, dialString, hline, rfl, ?_⟩
    simp [MmiProcedure.captures, MmiProcedure.text]
  · intro h
    obtain ⟨m, dialString, hline, rfl, rfl⟩ := h
    have hinfos : (infosPattern 4 4).Matches (infosText m.infos) (infosCaptures 4 m.infos) :=
      matches_infosPattern.mpr ⟨m.infos, m.infos_length, m.infos_chars, rfl, rfl⟩
    have haction : actionPattern.Matches m.action [] :=
      matches_actionPattern.mpr ⟨m.action_mem, rfl⟩
    have hcode : (Regex.rep Char.isDigit 2 (some 3)).Matches m.serviceCode [] :=
      ⟨m.serviceCode_digits, ⟨m.serviceCode_length.1, fun h hh => by
        rw [← Option.some.inj hh]
        exact m.serviceCode_length.2⟩, rfl⟩
    refine ⟨m.text, _, dialString, _, ⟨_, ⟨m.action, _, _, _, ⟨_, haction, rfl⟩,
      ⟨m.serviceCode, _, _, _, ⟨_, hcode, rfl⟩, ⟨_, _, ['#'], _, hinfos, ⟨rfl, rfl⟩, rfl, rfl⟩,
        rfl, rfl⟩, rfl, rfl⟩, rfl⟩, ⟨_, ⟨hline, ⟨Nat.zero_le _, by simp⟩, rfl⟩, rfl⟩, rfl, ?_⟩
    simp [MmiProcedure.captures]

/-! ### A procedure is written in one way -/

theorem head_infosText (infos : List Str) (v : Str) :
    ∀ x ∈ (infosText infos ++ '#' :: v).head?, x = '*' ∨ x = '#' := by
  intro x hx
  cases infos with
  | nil => exact Or.inr (Option.some.inj hx).symm
  | cons info infos => exact Or.inl (Option.some.inj hx).symm

theorem infosText_append_inj {infos infos' : List Str} {v v' : Str}
    (hchars : ∀ info ∈ infos, ∀ x ∈ info, isInfoChar x = true)
    (hchars' : ∀ info ∈ infos', ∀ x ∈ info, isInfoChar x = true)
    (h : infosText infos ++ '#' :: v = infosText infos' ++ '#' :: v') :
    infos = infos' ∧ v = v' := by
  have hends : ∀ (infos : List Str) (v : Str),
      ∀ x ∈ (infosText infos ++ '#' :: v).head?, isInfoChar x = false := by
    intro infos v x hx
    rcases head_infosText infos v x hx with rfl | rfl <;> rfl
  induction infos generalizing infos' with
  | nil =>
    cases infos' with
    | nil => exact ⟨rfl, (List.cons.inj h).2⟩
    | cons info' infos' => exact absurd (List.cons.inj h).1 (by decide)
  | cons info infos ih =>
    cases infos' with
    | nil => exact absurd (List.cons.inj h).1 (by decide)
    | cons info' infos' =>
      have htail : info ++ (infosText infos ++ '#' :: v) =
          info' ++ (infosText infos' ++ '#' :: v') := by
        rw [infosText_cons, infosText_cons, List.cons_append, List.cons_append] at h
        rw [← List.append_assoc, ← List.append_assoc]
        exact (List.cons.inj h).2
      obtain ⟨rfl, hrest⟩ := Regex.append_inj_of_run (hchars info List.mem_cons_self)
        (hchars' info' List.mem_cons_self) (hends infos v) (hends infos' v') htail
      obtain ⟨rfl, hv⟩ := ih (fun i hi => hchars i (List.mem_cons_of_mem _ hi))
        (fun i hi => hchars' i (List.mem_cons_of_mem _ hi)) hrest
      exact ⟨rfl, hv⟩

namespace MmiProcedure

theorem text_append (m : MmiProcedure) (v : Str) :
    m.text ++ v = m.action ++ (m.serviceCode ++ (infosText m.infos ++ '#' :: v)) := by
  simp [text]

theorem serviceCode_ne_nil (m : MmiProcedure) : m.serviceCode ≠ [] := by
  intro hnil
  have hlength := m.serviceCode_length.1
  rw [hnil] at hlength
  cases hlength

theorem not_isDigit_of_mem_action (m : MmiProcedure) : ∀ x ∈ m.action, (!x.isDigit) = true := by
  have hall : (mmiActions.all fun action => action.all fun x => !x.isDigit) = true := by decide
  exact List.all_eq_true.mp (List.all_eq_true.mp hall m.action m.action_mem)

theorem head_serviceCode (m : MmiProcedure) (v : Str) :
    ∀ x ∈ (m.serviceCode ++ v).head?, (!x.isDigit) = false := by
  intro x hx
  cases hcode : m.serviceCode with
  | nil => exact absurd hcode m.serviceCode_ne_nil
  | cons y code =>
    rw [hcode] at hx
    obtain rfl := Option.some.inj hx
    rw [m.serviceCode_digits y (by rw [hcode]; exact List.mem_cons_self)]
    rfl

theorem text_append_inj {m m' : MmiProcedure} {v v' : Str} (h : m.text ++ v = m'.text ++ v') :
    m = m' ∧ v = v' := by
  rw [text_append, text_append] at h
  obtain ⟨haction, h⟩ := Regex.append_inj_of_run m.not_isDigit_of_mem_action
    m'.not_isDigit_of_mem_action (m.head_serviceCode _) (m'.head_serviceCode _) h
  have hdigit : ∀ (infos : List Str) (v : Str),
      ∀ x ∈ (infosText infos ++ '#' :: v).head?, x.isDigit = false := by
    intro infos v x hx
    rcases head_infosText infos v x hx with rfl | rfl <;> rfl
  obtain ⟨hcode, h⟩ := Regex.append_inj_of_run m.serviceCode_digits m'.serviceCode_digits
    (hdigit m.infos v) (hdigit m'.infos v') h
  obtain ⟨hinfos, hv⟩ := infosText_append_inj m.infos_chars m'.infos_chars h
  exact ⟨MmiProcedure.ext haction hcode hinfos, hv⟩

/-- A procedure is longer than a short code. -/
theorem length_text (m : MmiProcedure) : 4 ≤ m.text.length := by
  have haction : 1 ≤ m.action.length := by
    have hall : ∀ action ∈ mmiActions, 1 ≤ action.length := by decide
    exact hall m.action m.action_mem
  have hcode := m.serviceCode_length.1
  simp only [text, List.length_append, List.length_cons, List.length_nil]
  omega

end MmiProcedure

theorem unambiguous_mmiPattern : mmiPattern.Unambiguous := by
  intro s c c' hc hc'
  obtain ⟨m, v, -, rfl, rfl⟩ := matches_mmiPattern.mp hc
  obtain ⟨m', v', -, h, rfl⟩ := matches_mmiPattern.mp hc'
  obtain ⟨rfl, rfl⟩ := MmiProcedure.text_append_inj h
  rfl

/-- What the groups of a match capture. -/
theorem str_captures (m : MmiProcedure) (v : Str) :
    (m.captures v).str 1 = m.text ∧ (m.captures v).str 2 = m.action ∧
      (m.captures v).str 3 = m.serviceCode ∧ (m.captures v).str 5 = m.infos[0]?.getD [] ∧
      (m.captures v).str 7 = m.infos[1]?.getD [] ∧ (m.captures v).str 9 = m.infos[2]?.getD [] ∧
      (m.captures v).str 11 = m.infos[3]?.getD [] ∧ (m.captures v).str 12 = v := by
  have hlength := m.infos_length
  refine ⟨rfl, rfl, rfl, ?_⟩
  simp only [MmiProcedure.captures]
  match m.infos, hlength with
  | [], _ => exact ⟨rfl, rfl, rfl, rfl, rfl⟩
  | [_], _ => exact ⟨rfl, rfl, rfl, rfl, rfl⟩
  | [_, _], _ => exact ⟨rfl, rfl, rfl, rfl, rfl⟩
  | [_, _, _], _ => exact ⟨rfl, rfl, rfl, rfl, rfl⟩
  | [_, _, _, _], _ => exact ⟨rfl, rfl, rfl, rfl, rfl⟩
  | _ :: _ :: _ :: _ :: _ :: infos, hlength =>
    simp only [List.length_cons] at hlength
    omega

/-- `RegexMatchMmi` accepts the procedures with a line after them, and parses
their parts. -/
theorem regexMatchMmi_eq_some_iff {s : Str} {mmiData : ParsedMMIData} :
    regexMatchMmi s = some mmiData ↔
      ∃ (m : MmiProcedure) (dialString : Str), OneLine dialString ∧ s = m.text ++ dialString ∧
        mmiData = m.data dialString := by
  have hparse : ∀ (m : MmiProcedure) (v : Str), OneLine v →
      regexMatchMmi (m.text ++ v) = some (m.data v) := by
    intro m v hline
    have hmatch := (Regex.fullMatch_eq_some_iff unambiguous_mmiPattern).mpr
      (matches_mmiPattern.mpr ⟨m, v, hline, rfl, rfl⟩)
    obtain ⟨h1, h2, h3, h5, h7, h9, h11, h12⟩ := str_captures m v
    have hfull : (m.text ++ v).getLast? = some '#' ∧ v.getLast? = some '#' ↔
        v.getLast? = some '#' := by
      refine and_iff_right_of_imp fun hv => ?_
      rw [List.getLast?_append, hv]
      rfl
    simp only [regexMatchMmi, hmatch, Option.map_some, h1, h2, h3, h5, h7, h9, h11, h12, hfull,
      MmiProcedure.data]
  constructor
  · intro h
    obtain ⟨c, hc, rfl⟩ := Option.map_eq_some_iff.mp h
    obtain ⟨m, v, hline, rfl, rfl⟩ := matches_mmiPattern.mp (Regex.matches_of_fullMatch hc)
    refine ⟨m, v, hline, rfl, Option.some.inj ?_⟩
    rw [← h, hparse m v hline]
  · intro h
    obtain ⟨m, v, hline, rfl, rfl⟩ := h
    exact hparse m v hline

/-- The string is the procedure with the line `dialString` after it. -/
structure MmiProcedure.Spells (m : MmiProcedure) (dialString s : Str) : Prop where
  line : OneLine dialString
  text : s = m.text ++ dialString

/-- The data hold the parts of the procedure and the string after it, each where
it belongs. -/
structure ParsedMMIData.PartsOf (mmiData : ParsedMMIData) (m : MmiProcedure)
    (dialString : Str) : Prop where
  actionString : mmiData.actionString = m.action
  serviceCode : mmiData.serviceCode = m.serviceCode
  serviceInfoA : mmiData.serviceInfoA = m.infos[0]?.getD []
  serviceInfoB : mmiData.serviceInfoB = m.infos[1]?.getD []
  serviceInfoC : mmiData.serviceInfoC = m.infos[2]?.getD []
  pwdString : mmiData.pwdString = m.infos[3]?.getD []
  dialString : mmiData.dialString = dialString

theorem MmiProcedure.partsOf_data (m : MmiProcedure) (v : Str) : (m.data v).PartsOf m v :=
  ⟨rfl, rfl, rfl, rfl, rfl, rfl, rfl⟩

/-- The full string is what stands before the string after the procedure, but for
a code that goes on to a further `#`. -/
theorem MmiProcedure.fullString_data (m : MmiProcedure) (v : Str) :
    if (m.text ++ v).getLast? = some '#' ∧ v ≠ [] then (m.data v).fullString = m.text ++ v
    else (m.data v).fullString ++ (m.data v).dialString = m.text ++ v := by
  by_cases hnil : v = []
  · have hfull : (m.data []).fullString = m.text := rfl
    rw [if_neg fun h => h.2 hnil, hnil, hfull]
    rfl
  · have hlast : (m.text ++ v).getLast? = v.getLast? := by
      rw [List.getLast?_append, List.getLast?_eq_some_getLast hnil]
      rfl
    by_cases hhash : v.getLast? = some '#'
    · rw [if_pos ⟨hlast.trans hhash, hnil⟩]
      exact if_pos hhash
    · rw [if_neg fun h => hhash (hlast.symm.trans h.1)]
      have hfull : (m.data v).fullString = m.text := if_neg hhash
      rw [hfull]
      rfl

/-- `RegexMatchMmi` accepts the procedures with a line after them, which are read
in one way only, and parses their parts. -/
theorem regexMatchMmi_parses (s : Str) :
    ((regexMatchMmi s).isSome = true ↔
        ∃ (m : MmiProcedure) (dialString : Str), m.Spells dialString s) ∧
      ∀ mmiData ∈ regexMatchMmi s,
        ∃ (m : MmiProcedure) (dialString : Str), m.Spells dialString s ∧
          (∀ (m' : MmiProcedure) (dialString' : Str), m'.Spells dialString' s →
            m' = m ∧ dialString' = dialString) ∧
          mmiData.PartsOf m dialString ∧
          (if s.getLast? = some '#' ∧ dialString ≠ [] then mmiData.fullString = s
            else mmiData.fullString ++ mmiData.dialString = s) := by
  constructor
  · rw [Option.isSome_iff_exists]
    constructor
    · intro h
      obtain ⟨mmiData, hparse⟩ := h
      obtain ⟨m, v, hline, hs, -⟩ := regexMatchMmi_eq_some_iff.mp hparse
      exact ⟨m, v, hline, hs⟩
    · intro h
      obtain ⟨m, v, hspells⟩ := h
      exact ⟨_, regexMatchMmi_eq_some_iff.mpr ⟨m, v, hspells.line, hspells.text, rfl⟩⟩
  · intro mmiData hparse
    obtain ⟨m, v, hline, rfl, rfl⟩ := regexMatchMmi_eq_some_iff.mp (Option.mem_def.mp hparse)
    refine ⟨m, v, ⟨hline, rfl⟩, ?_, m.partsOf_data v, m.fullString_data v⟩
    intro m' v' hspells
    obtain ⟨hm, hv⟩ := MmiProcedure.text_append_inj hspells.text
    exact ⟨hm.symm, hv.symm⟩

/-! ## `IsNeedExecuteMmi` -/

/-- `MAX_LENGTH_SHORT_CODE`. -/
def maxLengthShortCode : Nat := 2

/-- `IsShortCodeWithoutCellularCall`: the character after the last one is NUL. -/
def isShortCodeWithoutCellularCall (analyseString : Str) : Bool :=
  decide (analyseString.length ≤ maxLengthShortCode) &&
    !(analyseString[0]?.getD '\x00' == '1' && (analyseString[1]?.getD '\x00').isDigit)

/-- `IsShortCodeWithCellularCall`. -/
def isShortCodeWithCellularCall (analyseString : Str) : Bool :=
  decide (1 ≤ analyseString.length) && decide (analyseString.length ≤ maxLengthShortCode)

/-- `IsShortCode`. -/
def isShortCode (hasCellularCallExist : Bool) (analyseString : Str) : Bool :=
  if hasCellularCallExist then isShortCodeWithCellularCall analyseString
  else isShortCodeWithoutCellularCall analyseString

/-- A string that starts with `*` or `#` and ends with `#`. -/
def isBracketed (analyseString : Str) : Bool :=
  (analyseString.head? == some '*' || analyseString.head? == some '#') &&
    analyseString.getLast? == some '#'

/-- `IsNeedExecuteMmi`: the data of a code, if the string is one. -/
def isNeedExecuteMmi (hasCellularCallExist : Bool) (analyseString : Str) : Option ParsedMMIData :=
  if analyseString = [] then none
  else if isShortCode hasCellularCallExist analyseString then some (.ofFullString analyseString)
  else
    match regexMatchMmi analyseString with
    | some mmiData => some mmiData
    | none => if isBracketed analyseString then some (.ofFullString analyseString) else none

/-! ## `IsNeedExecuteMMI` -/

/-- The controls of a slot. -/
structure SlotControls where
  imsControl : Option IMSControl
  csControl : Option CSControl
  satelliteControl : Option SatelliteControl
deriving DecidableEq

/-- A control of the slot has a connection. -/
def SlotControls.hasConnection (s : SlotControls) : Bool :=
  s.imsControl.any (fun c => !c.connectionMap.isEmpty) ||
    s.csControl.any (fun c => !c.connectionMap.isEmpty) ||
    s.satelliteControl.any (fun c => !c.connectionMap.isEmpty)

/-- What a dial on a slot reads beside its control: the emergency configuration
and its surroundings, the controls of each slot, the vendor's own `isMmiCode_`,
and whether the slot's handler takes events. -/
structure DialContext where
  slotId : Int
  config : EccConfig
  sim : SimEnv
  phone : PhoneEnv
  slots : List SlotControls
  isMmiCode : Option (Str → Bool)
  hasHandler : Bool

namespace DialContext

/-- `HasCellularCallExist`. -/
def hasCellularCallExist (x : DialContext) : Bool := x.slots.any SlotControls.hasConnection

/-- `ControlBase::IsEmergencyCall`. -/
def isEmergencyCall (x : DialContext) (phoneString : Str) : Bool :=
  (x.config.isEmergencyCall x.slotId x.sim x.phone phoneString false).2

/-- The mode a procedure before a number asks for. -/
def clirModeOf (serviceCode : Str) (mode : CLIRMode) : CLIRMode :=
  if serviceCode = ['3', '1'] then mode else .default

/-- `IsNeedExecuteMMI`: what becomes of the string, and the code sent to the
handler. -/
def isNeedExecuteMMI (x : DialContext) (phoneString : Str) : MmiOutcome × Option ParsedMMIData :=
  if x.isEmergencyCall phoneString then (.plain, none)
  else if x.isMmiCode.any (fun isMmiCode => !isMmiCode phoneString) then (.plain, none)
  else
    match isNeedExecuteMmi x.hasCellularCallExist phoneString with
    | none => (.plain, none)
    | some mmiData =>
      if mmiData.serviceCode ≠ [] ∧ mmiData.dialString ≠ [] ∧ mmiData.actionString = ['*'] then
        (.clir mmiData.dialString (clirModeOf mmiData.serviceCode .inhibition), none)
      else if mmiData.serviceCode ≠ [] ∧ mmiData.dialString ≠ [] ∧
          mmiData.actionString = ['#'] then
        (.clir mmiData.dialString (clirModeOf mmiData.serviceCode .transfer), none)
      else if x.hasHandler then (.executed, some mmiData)
      else (.plain, none)

end DialContext

/-! ## How a string is read -/

/-- The string the data were parsed from. -/
def ParsedMMIData.source (mmiData : ParsedMMIData) : Str :=
  if mmiData.dialString.getLast? = some '#' then mmiData.fullString
  else mmiData.fullString ++ mmiData.dialString

theorem MmiProcedure.source_data (m : MmiProcedure) (v : Str) :
    (m.data v).source = m.text ++ v := by
  simp only [ParsedMMIData.source, data]
  split_ifs <;> rfl

/-- The data are the whole string, or what the pattern captures. -/
theorem isNeedExecuteMmi_eq_some {hasCellularCallExist : Bool} {s : Str}
    {mmiData : ParsedMMIData} (h : isNeedExecuteMmi hasCellularCallExist s = some mmiData) :
    mmiData = .ofFullString s ∨ regexMatchMmi s = some mmiData := by
  cases hregex : regexMatchMmi s with
  | some parsed =>
    simp only [isNeedExecuteMmi, hregex] at h
    split_ifs at h
    · exact Or.inl (Option.some.inj h).symm
    · exact Or.inr h
  | none =>
    simp only [isNeedExecuteMmi, hregex] at h
    split_ifs at h <;> exact Or.inl (Option.some.inj h).symm

/-- The data of a code determine the string. -/
theorem source_of_isNeedExecuteMmi {hasCellularCallExist : Bool} {s : Str}
    {mmiData : ParsedMMIData} (h : isNeedExecuteMmi hasCellularCallExist s = some mmiData) :
    mmiData.source = s := by
  rcases isNeedExecuteMmi_eq_some h with rfl | hregex
  · exact List.append_nil s
  · obtain ⟨m, v, -, rfl, rfl⟩ := regexMatchMmi_eq_some_iff.mp hregex
    exact m.source_data v

/-- Data with a service code are those of a procedure. -/
theorem procedure_of_isNeedExecuteMmi {hasCellularCallExist : Bool} {s : Str}
    {mmiData : ParsedMMIData} (h : isNeedExecuteMmi hasCellularCallExist s = some mmiData)
    (hservice : mmiData.serviceCode ≠ []) :
    ∃ (m : MmiProcedure) (v : Str), OneLine v ∧ s = m.text ++ v ∧ mmiData = m.data v := by
  rcases isNeedExecuteMmi_eq_some h with rfl | hregex
  · exact absurd rfl hservice
  · exact regexMatchMmi_eq_some_iff.mp hregex

theorem length_of_isShortCode {hasCellularCallExist : Bool} {s : Str}
    (h : isShortCode hasCellularCallExist s = true) : s.length ≤ 2 := by
  cases hasCellularCallExist
  · exact of_decide_eq_true (Bool.and_eq_true_iff.mp h).1
  · exact of_decide_eq_true (Bool.and_eq_true_iff.mp h).2

/-- The string is an MMI code: a short code, a procedure with a line after it, or
bracketed. -/
def IsMmi (hasCellularCallExist : Bool) (s : Str) : Prop :=
  s ≠ [] ∧ (isShortCode hasCellularCallExist s = true ∨
    (∃ (m : MmiProcedure) (v : Str), OneLine v ∧ s = m.text ++ v) ∨ isBracketed s = true)

theorem isMmi_iff {hasCellularCallExist : Bool} {s : Str} :
    IsMmi hasCellularCallExist s ↔ ∃ mmiData, isNeedExecuteMmi hasCellularCallExist s =
      some mmiData := by
  by_cases hempty : s = []
  · simp [IsMmi, isNeedExecuteMmi, hempty]
  · by_cases hshort : isShortCode hasCellularCallExist s = true
    · simp [IsMmi, isNeedExecuteMmi, hempty, hshort]
    · simp only [IsMmi, isNeedExecuteMmi, hempty, hshort, ne_eq, not_false_eq_true, true_and,
        false_or, if_false, Bool.false_eq_true]
      cases hregex : regexMatchMmi s with
      | some parsed =>
        obtain ⟨m, v, hline, hs, -⟩ := regexMatchMmi_eq_some_iff.mp hregex
        exact iff_of_true (Or.inl ⟨m, v, hline, hs⟩) ⟨parsed, rfl⟩
      | none =>
        have hno : ¬∃ (m : MmiProcedure) (v : Str), OneLine v ∧ s = m.text ++ v := by
          intro h
          obtain ⟨m, v, hline, hs⟩ := h
          have hsome := regexMatchMmi_eq_some_iff.mpr ⟨m, v, hline, hs, rfl⟩
          rw [hregex] at hsome
          cases hsome
        simp [hno]

/-- A procedure with a line after it is no short code, so its parts are parsed. -/
theorem MmiProcedure.Spells.isNeedExecuteMmi_eq {m : MmiProcedure} {v s : Str}
    (h : m.Spells v s) (hasCellularCallExist : Bool) :
    isNeedExecuteMmi hasCellularCallExist s = some (m.data v) := by
  have hlength : 4 ≤ s.length := by
    have := m.length_text
    rw [h.text, List.length_append]
    omega
  have hempty : s ≠ [] := by
    intro h
    subst h
    cases hlength
  have hshort : ¬isShortCode hasCellularCallExist s = true := by
    intro hshort
    have := length_of_isShortCode hshort
    omega
  have hregex := regexMatchMmi_eq_some_iff.mpr ⟨m, v, h.line, h.text, rfl⟩
  unfold isNeedExecuteMmi
  rw [if_neg hempty, if_neg hshort, hregex]

/-- The mode a procedure before a number asks for. -/
def MmiProcedure.clirMode (m : MmiProcedure) : CLIRMode :=
  DialContext.clirModeOf m.serviceCode (if m.action = ['*'] then .inhibition else .transfer)

namespace DialContext

/-- No code of the vendor's decides, and the slot's handler takes events. -/
structure Live (x : DialContext) : Prop where
  isMmiCode : x.isMmiCode = none
  hasHandler : x.hasHandler = true

/-- The string is looked at as a code: it is no emergency number, and the vendor
does not object. -/
def LooksForCode (x : DialContext) (s : Str) : Prop :=
  x.isEmergencyCall s = false ∧ ∀ isMmiCode ∈ x.isMmiCode, isMmiCode s = true

/-- The string that is looked at is `number` after a procedure that opens with a
single `*` or `#`. -/
structure Prefixed (x : DialContext) (s : Str) (m : MmiProcedure) (number : Str) : Prop where
  looks : x.LooksForCode s
  text : s = m.text ++ number
  line : OneLine number
  number : number ≠ []
  single : m.action = ['*'] ∨ m.action = ['#']

/-- The string is dialled as it is: where it is looked at and a code, there is
no one to execute it and no number after it. -/
def LeftAlone (x : DialContext) (s : Str) : Prop :=
  x.LooksForCode s → IsMmi x.hasCellularCallExist s →
    x.hasHandler = false ∧ ∀ m number, ¬x.Prefixed s m number

variable {x : DialContext} {s : Str}

theorem Prefixed.isMmi {m : MmiProcedure} {number : Str} (h : x.Prefixed s m number) :
    IsMmi x.hasCellularCallExist s := by
  refine ⟨?_, Or.inr (Or.inl ⟨m, number, h.line, h.text⟩)⟩
  intro hnil
  have htext := h.text
  rw [hnil, eq_comm, List.append_eq_nil_iff] at htext
  exact h.number htext.2

theorem Prefixed.not_leftAlone {m : MmiProcedure} {number : Str} (h : x.Prefixed s m number) :
    ¬x.LeftAlone s :=
  fun halone => (halone h.looks h.isMmi).2 m number h

theorem Prefixed.unique {m m' : MmiProcedure} {number number' : Str}
    (h : x.Prefixed s m number) (h' : x.Prefixed s m' number') : m = m' ∧ number = number' :=
  MmiProcedure.text_append_inj (h.text.symm.trans h'.text)

theorem Prefixed.isNeedExecuteMmi_eq {m : MmiProcedure} {number : Str}
    (h : x.Prefixed s m number) :
    isNeedExecuteMmi x.hasCellularCallExist s = some (m.data number) :=
  MmiProcedure.Spells.isNeedExecuteMmi_eq ⟨h.line, h.text⟩ _

/-- What `IsNeedExecuteMMI` makes of a string. -/
inductive Reads (x : DialContext) (s : Str) : MmiOutcome × Option ParsedMMIData → Prop
  | alone (h : x.LeftAlone s) : Reads x s (.plain, none)
  | prefixed (m : MmiProcedure) (number : Str) (h : x.Prefixed s m number) :
      Reads x s (.clir number m.clirMode, none)
  | executed (mmiData : ParsedMMIData)
      (hmmi : isNeedExecuteMmi x.hasCellularCallExist s = some mmiData) (h : ¬x.LeftAlone s)
      (hnumber : ∀ m number, ¬x.Prefixed s m number) : Reads x s (.executed, some mmiData)

theorem reads (x : DialContext) (s : Str) : x.Reads s (x.isNeedExecuteMMI s) := by
  unfold isNeedExecuteMMI
  by_cases hemergency : x.isEmergencyCall s = true
  · rw [if_pos hemergency]
    refine .alone fun hlooks => ?_
    rw [hlooks.1] at hemergency
    cases hemergency
  rw [if_neg hemergency]
  by_cases hvendor : x.isMmiCode.any (fun isMmiCode => !isMmiCode s) = true
  · rw [if_pos hvendor]
    refine .alone fun hlooks => ?_
    obtain ⟨isMmiCode, hmem, hno⟩ := (Option.any_eq_true ..).mp hvendor
    rw [hlooks.2 isMmiCode hmem] at hno
    cases hno
  rw [if_neg hvendor]
  have hlooks : x.LooksForCode s := by
    refine ⟨Bool.eq_false_iff.mpr hemergency, fun isMmiCode hmem => ?_⟩
    rw [Option.mem_def.mp hmem, Option.any_some, Bool.not_eq_true', Bool.not_eq_false] at hvendor
    exact hvendor
  cases hmmi : isNeedExecuteMmi x.hasCellularCallExist s with
  | none =>
    refine .alone fun _ hcode => ?_
    obtain ⟨mmiData, hsome⟩ := isMmi_iff.mp hcode
    rw [hmmi] at hsome
    cases hsome
  | some mmiData =>
    dsimp only
    by_cases hprefixed : ∃ m number, x.Prefixed s m number
    · obtain ⟨m, number, h⟩ := hprefixed
      rw [h.isNeedExecuteMmi_eq] at hmmi
      obtain rfl := Option.some.inj hmmi
      have hmode : x.Reads s (.clir number m.clirMode, none) := .prefixed m number h
      have hcode := m.serviceCode_ne_nil
      rcases h.single with haction | haction <;>
        simpa [MmiProcedure.data, MmiProcedure.clirMode, haction, hcode, h.number] using hmode
    · have hnone : ∀ m number, ¬x.Prefixed s m number := fun m number h =>
        hprefixed ⟨m, number, h⟩
      have hparts : mmiData.serviceCode ≠ [] ∧ mmiData.dialString ≠ [] →
          mmiData.actionString ≠ ['*'] ∧ mmiData.actionString ≠ ['#'] := by
        intro h
        obtain ⟨hservice, hdial⟩ := h
        obtain ⟨m, v, hline, hs, rfl⟩ := procedure_of_isNeedExecuteMmi hmmi hservice
        exact ⟨fun haction => hnone m v ⟨hlooks, hs, hline, hdial, Or.inl haction⟩,
          fun haction => hnone m v ⟨hlooks, hs, hline, hdial, Or.inr haction⟩⟩
      rw [if_neg fun h => (hparts ⟨h.1, h.2.1⟩).1 h.2.2,
        if_neg fun h => (hparts ⟨h.1, h.2.1⟩).2 h.2.2]
      cases hhandler : x.hasHandler with
      | false => exact .alone fun _ _ => ⟨hhandler, hnone⟩
      | true =>
        refine .executed mmiData hmmi (fun halone => ?_) hnone
        have hno := (halone hlooks (isMmi_iff.mpr ⟨mmiData, hmmi⟩)).1
        rw [hhandler] at hno
        cases hno

end DialContext

end CellularCall
