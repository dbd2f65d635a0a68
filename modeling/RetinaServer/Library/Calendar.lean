import RetinaServer.Library.Numerals
import Mathlib.Algebra.Order.Ring.Rat
import Mathlib.Tactic.Linarith

/-! Dates of the calendar in the years 1 to 9999, their ISO text, and moments of a day in seconds of the Unix clock. -/
namespace Calendar
open Numerals

def isLeap (year : ℕ) : Bool := decide (year % 4 = 0) && (decide (year % 100 ≠ 0) || decide (year % 400 = 0))

def daysInMonth (year month : ℕ) : ℕ :=
  if month = 2 then if isLeap year then 29 else 28
  else if month = 4 ∨ month = 6 ∨ month = 9 ∨ month = 11 then 30 else 31

structure Date where
  year : ℕ
  month : ℕ
  day : ℕ
  inYears : 1 ≤ year ∧ year ≤ 9999
  inMonths : 1 ≤ month ∧ month ≤ 12
  inDays : 1 ≤ day ∧ day ≤ daysInMonth year month
deriving DecidableEq

/-- The date that three numbers make, if there is one. -/
def Date.make? (year month day : ℕ) : Option Date :=
  if h : (1 ≤ year ∧ year ≤ 9999) ∧ (1 ≤ month ∧ month ≤ 12) ∧ (1 ≤ day ∧ day ≤ daysInMonth year month) then
    some ⟨year, month, day, h.1, h.2.1, h.2.2⟩
  else none

theorem Date.make?_self (d : Date) : Date.make? d.year d.month d.day = some d :=
  dif_pos ⟨d.inYears, d.inMonths, d.inDays⟩

theorem daysInMonth_le (year month : ℕ) : daysInMonth year month ≤ 31 := by
  unfold daysInMonth
  split
  · split <;> omega
  · split <;> omega

def daysBeforeYear (year : ℕ) : ℕ := (year - 1) * 365 + (year - 1) / 4 - (year - 1) / 100 + (year - 1) / 400

def daysBeforeMonth (year month : ℕ) : ℕ := ((List.range month).tail.map (daysInMonth year)).sum

/-- The number of the day, the first of January of the year 1 being the first. -/
def Date.toOrdinal (d : Date) : ℕ := daysBeforeYear d.year + daysBeforeMonth d.year d.month + d.day

/-- The ordinal of the day on which the clock of Unix starts. -/
def unixEpoch : ℕ := 719163

example : (Date.mk 1970 1 1 (by omega) (by omega) (by decide)).toOrdinal = unixEpoch := by decide

def daySeconds : ℚ := 86400

/-- The first moment of a date. -/
def Date.timestamp (d : Date) : ℚ := ((d.toOrdinal : ℚ) - unixEpoch) * daySeconds

/-- A moment: a date and how far its day has come. -/
structure Moment where
  date : Date
  second : ℚ
  inDay : 0 ≤ second ∧ second < daySeconds

def Moment.timestamp (m : Moment) : ℚ := m.date.timestamp + m.second

/-! ### ISO text -/

def pad (k n : ℕ) : Text := (places 10 k n).map Nat.digitChar

def unpad (text : Text) : ℕ := ofPlaces 10 (text.map digitValue)

theorem length_pad (k n : ℕ) : (pad k n).length = k := by
  rw [pad, List.length_map, length_places]

theorem isDecimal_of_mem_pad (listed : c ∈ pad k n) : isDecimal c = true := by
  obtain ⟨d, member, rfl⟩ := List.mem_map.mp listed
  exact decimal_digitChar d (lt_of_mem_places (by omega) member)

theorem unpad_pad (bound : n < 10 ^ k) : unpad (pad k n) = n := by
  have same : ((places 10 k n).map Nat.digitChar).map digitValue = places 10 k n := by
    rw [List.map_map]
    refine (List.map_congr_left fun d member => ?_).trans (List.map_id _)
    have small : d < 10 := lt_of_mem_places (by omega) member
    exact digitValue_digitChar d (by omega)
  rw [unpad, pad, same, ofPlaces_places bound]

def Date.isoformat (d : Date) : Text := pad 4 d.year ++ '-' :: (pad 2 d.month ++ '-' :: pad 2 d.day)

def isoLength : ℕ := 10

theorem Date.length_isoformat (d : Date) : d.isoformat.length = isoLength := by
  simp only [Date.isoformat, List.length_append, List.length_cons, length_pad]
  rfl

/-- `YYYY-MM-DD`, a date of the calendar or nothing. -/
def fromIsoformat (text : Text) : Option Date :=
  let year := text.take 4
  let month := (text.drop 5).take 2
  let day := (text.drop 8).take 2
  if text.length = isoLength ∧ text[4]? = some '-' ∧ text[7]? = some '-' ∧ (year ++ month ++ day).all isDecimal = true then
    Date.make? (unpad year) (unpad month) (unpad day)
  else none

/-- A date is read back from its text. -/
theorem fromIsoformat_isoformat (d : Date) : fromIsoformat d.isoformat = some d := by
  have fours := length_pad 4 d.year
  have twos := length_pad 2 d.month
  have year : d.isoformat.take 4 = pad 4 d.year := List.take_left' fours
  have rest : d.isoformat.drop 5 = pad 2 d.month ++ '-' :: pad 2 d.day := by
    rw [Date.isoformat, List.append_cons, List.drop_left' (by simp [fours])]
  have month : (d.isoformat.drop 5).take 2 = pad 2 d.month := by
    rw [rest, List.take_left' twos]
  have day : (d.isoformat.drop 8).take 2 = pad 2 d.day := by
    rw [show (8 : ℕ) = 5 + 3 from rfl, ← List.drop_drop, rest, List.append_cons, List.drop_left' (by simp [twos]),
      List.take_of_length_le (length_pad 2 d.day).le]
  have dash : d.isoformat[4]? = some '-' := by
    rw [Date.isoformat, List.getElem?_append_right fours.le, fours]
    rfl
  have dash' : d.isoformat[7]? = some '-' := by
    rw [Date.isoformat, List.append_cons, ← List.append_assoc, List.getElem?_append_right (by simp [fours, twos])]
    simp [fours, twos]
  have digits : (pad 4 d.year ++ pad 2 d.month ++ pad 2 d.day).all isDecimal = true := by
    rw [List.all_eq_true]
    intro c member
    rcases List.mem_append.mp member with early | last
    · rcases List.mem_append.mp early with first | second
      · exact isDecimal_of_mem_pad first
      · exact isDecimal_of_mem_pad second
    · exact isDecimal_of_mem_pad last
  have years := d.inYears
  have months := d.inMonths
  have days := d.inDays.2.trans (daysInMonth_le d.year d.month)
  rw [fromIsoformat, year, month, day, if_pos ⟨d.length_isoformat, dash, dash', digits⟩,
    unpad_pad (by omega), unpad_pad (by omega), unpad_pad (by omega)]
  exact d.make?_self

end Calendar
