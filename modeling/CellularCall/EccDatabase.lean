import CellularCall.Lib.Loop
import CellularCall.Types

/-!
# The database of emergency numbers

`CellularCallRdbHelper::QueryEccList` reads the rows of a query of the table
`ecc_data` one by one.  Its loop counts the rows in `index`, and hands the same
`index` to `GetColumnIndex` as the place for the column's number.  After a row
the loop therefore goes on behind the number of the last column it looked up,
which is that of `ecc_fake`.

`readsEveryRow_iff` says which result sets are read as a whole.
-/

namespace CellularCall

open Lib

/-- The columns of `ecc_data` that are read. -/
inductive EccColumn where
  | id
  | name
  | mcc
  | mnc
  | numeric
  | eccWithCard
  | eccNoCard
  | eccFake
deriving DecidableEq, Repr

/-- `EccNum`, a row of `ecc_data`. -/
structure EccNum where
  id : Int
  name : Str
  mcc : Str
  mnc : Str
  numeric : Str
  eccWithcard : Str
  eccNocard : Str
  eccFake : Str
deriving DecidableEq, Repr

/-- A `DataShareResultSet`, as far as the loop uses it.

* `rowCount` is what `GetRowCount` answers.
* `goToRow current row` is the row the cursor is on after `GoToRow`.
* `getColumnIndex column index` is what `index` holds after the lookup.
* `getInt` and `getString` give what a variable holds after a cell has been read
  into it: from the row of the cursor, from a column, and from before. -/
structure ResultSet where
  rowCount : Int
  goToRow : Int → Int → Int
  getColumnIndex : EccColumn → Int → Int
  getInt : Int → Int → Int → Int
  getString : Int → Int → Str → Str

namespace ResultSet

/-- Where a column is. -/
def column (R : ResultSet) (c : EccColumn) : Int := R.getColumnIndex c 0

/-- What is documented of a result set: a lookup tells where the column is,
whatever its variable held before, and the cursor goes to a row there is. -/
structure Documented (R : ResultSet) : Prop where
  column : ∀ c index, R.getColumnIndex c index = R.column c
  row : ∀ current index, 0 ≤ index → index < R.rowCount → R.goToRow current index = index

/-- The columns of a row, read into `bean`. -/
def record (R : ResultSet) (bean : EccNum) (row : Int) : EccNum where
  id := R.getInt row (R.column .id) bean.id
  name := R.getString row (R.column .name) bean.name
  mcc := R.getString row (R.column .mcc) bean.mcc
  mnc := R.getString row (R.column .mnc) bean.mnc
  numeric := R.getString row (R.column .numeric) bean.numeric
  eccWithcard := R.getString row (R.column .eccWithCard) bean.eccWithcard
  eccNocard := R.getString row (R.column .eccNoCard) bean.eccNocard
  eccFake := R.getString row (R.column .eccFake) bean.eccFake

/-- One record for each row, in their order. -/
def records (R : ResultSet) (bean : EccNum) : List EccNum :=
  (List.range R.rowCount.toNat).map fun row : Nat => R.record bean (row : Int)

end ResultSet

/-- What the loop carries along: its variable, the cursor, and the records read
so far. -/
structure Reading where
  index : Int
  row : Int
  eccVec : List EccNum
deriving DecidableEq, Repr

/-- The body of the loop; `bean` is a default `EccNum`. -/
def readRow (R : ResultSet) (bean : EccNum) (s : Reading) : Reading :=
  let row := R.goToRow s.row s.index
  let index := R.getColumnIndex .id s.index
  let id := R.getInt row index bean.id
  let index := R.getColumnIndex .name index
  let name := R.getString row index bean.name
  let index := R.getColumnIndex .mcc index
  let mcc := R.getString row index bean.mcc
  let index := R.getColumnIndex .mnc index
  let mnc := R.getString row index bean.mnc
  let index := R.getColumnIndex .numeric index
  let numeric := R.getString row index bean.numeric
  let index := R.getColumnIndex .eccWithCard index
  let eccWithcard := R.getString row index bean.eccWithcard
  let index := R.getColumnIndex .eccNoCard index
  let eccNocard := R.getString row index bean.eccNocard
  let index := R.getColumnIndex .eccFake index
  let eccFake := R.getString row index bean.eccFake
  ⟨index, row, s.eccVec ++ [⟨id, name, mcc, mnc, numeric, eccWithcard, eccNocard, eccFake⟩]⟩

/-- The head of the loop: `index < rowCnt; index++`. -/
def readNext (R : ResultSet) (bean : EccNum) (s : Reading) : Option Reading :=
  if s.index < R.rowCount then
    let s := readRow R bean s
    some { s with index := s.index + 1 }
  else none

/-- How far a query gets. -/
inductive EccAnswer where
  | noHelper
  | noResult
  | result (R : ResultSet)

/-- `QueryEccList`: the code it returns and `eccVec` afterwards, if the loop ends
within `fuel` tests. -/
def queryEccList (fuel : Nat) (bean : EccNum) (answer : EccAnswer) (eccVec : List EccNum) :
    Option (RetCode × List EccNum) :=
  match answer with
  | .noHelper => some (.errLocalPtrNull, eccVec)
  | .noResult => some (.errLocalPtrNull, eccVec)
  | .result R =>
    (Loop.run (readNext R bean) fuel ⟨0, -1, eccVec⟩).map fun s => (.success, s.eccVec)

/-- The query returns, and has appended one record for each row, in their order. -/
def ReadsEveryRow (R : ResultSet) (bean : EccNum) (eccVec : List EccNum) : Prop :=
  ∃ fuel, queryEccList fuel bean (.result R) eccVec = some (.success, eccVec ++ R.records bean)

variable {R : ResultSet} {bean : EccNum}

theorem readsEveryRow_iff_ends {eccVec : List EccNum} :
    ReadsEveryRow R bean eccVec ↔
      ∃ s, Loop.Ends (readNext R bean) ⟨0, -1, eccVec⟩ s ∧ s.eccVec = eccVec ++ R.records bean := by
  constructor
  · intro h
    obtain ⟨fuel, hquery⟩ := h
    obtain ⟨s, hrun, hs⟩ := Option.map_eq_some_iff.mp hquery
    exact ⟨s, ⟨fuel, hrun⟩, congrArg Prod.snd hs⟩
  · intro h
    obtain ⟨s, ⟨fuel, hrun⟩, hs⟩ := h
    exact ⟨fuel, by simp only [queryEccList, hrun, Option.map_some, hs]⟩

/-- A row is read, and the variable is left behind the column `ecc_fake`. -/
theorem readNext_of_lt (bean : EccNum) (hR : R.Documented) {s : Reading}
    (hlt : s.index < R.rowCount) :
    ∃ row, (0 ≤ s.index → row = s.index) ∧
      readNext R bean s =
        some ⟨R.column .eccFake + 1, row, s.eccVec ++ [R.record bean row]⟩ := by
  refine ⟨R.goToRow s.row s.index, fun hle => hR.row _ _ hle hlt, ?_⟩
  simp only [readNext, if_pos hlt, readRow, hR.column, ResultSet.record]

theorem readNext_of_le {s : Reading} (hle : R.rowCount ≤ s.index) : readNext R bean s = none := by
  simp only [readNext, if_neg (Int.not_lt.mpr hle)]

/-- A variable that is behind `ecc_fake` and still below the number of rows comes
back to the same place for ever. -/
theorem not_ends_readNext (hR : R.Documented) (hlt : R.column .eccFake + 1 < R.rowCount)
    {s t : Reading} (hs : s.index = R.column .eccFake + 1) :
    ¬Loop.Ends (readNext R bean) s t := by
  refine Loop.not_ends_of_invariant (I := fun s => s.index = R.column .eccFake + 1) ?_ hs
  intro s hs
  obtain ⟨row, -, hnext⟩ := readNext_of_lt bean hR (by rw [hs]; exact hlt)
  exact ⟨_, hnext, rfl⟩

/-- With a row there is, the loop reads the first one, and then ends if the
column `ecc_fake` is not before the last row. -/
theorem ends_readNext_iff (hR : R.Documented) (hpos : 0 < R.rowCount) {eccVec : List EccNum}
    {t : Reading} :
    Loop.Ends (readNext R bean) ⟨0, -1, eccVec⟩ t ↔
      R.rowCount ≤ R.column .eccFake + 1 ∧
        t = ⟨R.column .eccFake + 1, 0, eccVec ++ [R.record bean 0]⟩ := by
  obtain ⟨row, hrow, hnext⟩ := readNext_of_lt bean hR (s := ⟨0, -1, eccVec⟩) hpos
  rw [hrow (Int.le_refl 0)] at hnext
  rw [Loop.ends_of_some hnext]
  by_cases hlt : R.column .eccFake + 1 < R.rowCount
  · refine iff_of_false (not_ends_readNext hR hlt rfl) ?_
    intro h
    obtain ⟨hle, -⟩ := h
    omega
  · have hle : R.rowCount ≤ R.column .eccFake + 1 := by omega
    rw [Loop.ends_of_none (readNext_of_le hle), eq_comm, and_iff_right hle]

/-- Every row is read if there is none, or if there is one and the column
`ecc_fake` is found.  Of several rows the first is read alone, or again and
again. -/
theorem readsEveryRow_iff (R : ResultSet) (hR : R.Documented) (bean : EccNum)
    (eccVec : List EccNum) :
    ReadsEveryRow R bean eccVec ↔
      R.rowCount ≤ 0 ∨ (R.rowCount = 1 ∧ 0 ≤ R.column .eccFake) := by
  rw [readsEveryRow_iff_ends]
  by_cases hpos : 0 < R.rowCount
  · constructor
    · intro h
      obtain ⟨s, hends, hs⟩ := h
      obtain ⟨hle, rfl⟩ := (ends_readNext_iff hR hpos).mp hends
      have hlength := congrArg List.length hs
      simp only [ResultSet.records, List.length_append, List.length_map, List.length_range,
        List.length_cons, List.length_nil] at hlength
      exact .inr ⟨by omega, by omega⟩
    · intro h
      rcases h with hnone | ⟨hone, hcolumn⟩
      · omega
      · refine ⟨_, (ends_readNext_iff hR hpos).mpr ⟨by omega, rfl⟩, ?_⟩
        simp [ResultSet.records, hone]
  · have hle : R.rowCount ≤ 0 := by omega
    refine iff_of_true ⟨_, (Loop.ends_of_none (readNext_of_le hle)).mpr rfl, ?_⟩ (.inl hle)
    rw [ResultSet.records, Int.toNat_of_nonpos hle]
    simp

/-- A row with nothing in it. -/
def EccNum.plain : EccNum := ⟨0, [], [], [], [], [], [], []⟩

/-- A result set with the columns in the order in which they are read, whose
numbers are those of their rows. -/
def ResultSet.plain (rows : Nat) : ResultSet where
  rowCount := rows
  goToRow _ row := row
  getColumnIndex c _ :=
    match c with
    | .id => 0
    | .name => 1
    | .mcc => 2
    | .mnc => 3
    | .numeric => 4
    | .eccWithCard => 5
    | .eccNoCard => 6
    | .eccFake => 7
  getInt row _ _ := row
  getString _ _ _ := ['1', '1', '2']

theorem ResultSet.documented_plain (rows : Nat) : (ResultSet.plain rows).Documented where
  column c index := by cases c <;> rfl
  row _ _ _ _ := rfl

/-- Of two rows only the first one is read. -/
theorem not_readsEveryRow :
    ¬∀ R : ResultSet, R.Documented → ∀ bean eccVec, ReadsEveryRow R bean eccVec := by
  intro hclaim
  have hread := hclaim (.plain 2) (ResultSet.documented_plain 2) .plain []
  obtain ⟨s, hends, hs⟩ := readsEveryRow_iff_ends.mp hread
  obtain ⟨-, rfl⟩ := (ends_readNext_iff (ResultSet.documented_plain 2) (by decide)).mp hends
  exact absurd hs (by decide)

/-- The one row of a home network. -/
theorem readsEveryRow_one : ReadsEveryRow (.plain 1) .plain [] :=
  (readsEveryRow_iff (.plain 1) (ResultSet.documented_plain 1) .plain []).mpr
    (.inr ⟨by decide, by decide⟩)

end CellularCall
