import Mathlib.Data.List.Basic
import Mathlib.Algebra.Order.Ring.Int

/-!
# Names of the detail shards

A shard file is named by the calendar date of its day.  A name is read back only when it is exactly
the name that its day would be given, so a name belongs to one day at most.
-/

namespace FluxDns.Storage

open List Option

/-- A calendar date of the `time` crate. -/
structure Date where
  year : Int
  month : Nat
  day : Nat
  year_bounds : -9999 ≤ year ∧ year ≤ 9999
  month_bounds : 1 ≤ month ∧ month ≤ 12
  day_bounds : 1 ≤ day ∧ day ≤ 31
  deriving DecidableEq

/-- The conversions of the `time` crate between dates and Julian days. -/
structure Calendar where
  fromJulianDay : Int → Option Date
  fromCalendarDate : Int → Nat → Nat → Option Date
  toJulianDay : Date → Int
  toJulianDay_eq : ∀ {julian date}, fromJulianDay julian = some date → toJulianDay date = julian
  fromCalendarDate_eq : ∀ {julian date}, fromJulianDay julian = some date →
    fromCalendarDate date.year date.month date.day = some date

def unixEpochJulianDay : Int := 2440588

/-- The range of an `i32`. -/
def i32Bound : Int := 2 ^ 31

def twoDigits (value : Nat) : List Char :=
  [Nat.digitChar (value / 10 % 10), Nat.digitChar (value % 10)]

def threeDigits (value : Nat) : List Char := Nat.digitChar (value / 100 % 10) :: twoDigits value

def fourDigits (value : Nat) : List Char := Nat.digitChar (value / 1000 % 10) :: threeDigits value

/-- A year in the width of four, which includes the sign. -/
def yearText (year : Int) : List Char :=
  if 0 ≤ year then fourDigits year.natAbs
  else '-' :: if year.natAbs < 1000 then threeDigits year.natAbs else fourDigits year.natAbs

def shardSuffix : List Char := ".sqlite3".toList

def Date.text (date : Date) : List Char :=
  yearText date.year ++ '-' :: (twoDigits date.month ++ '-' :: twoDigits date.day)

variable (calendar : Calendar)

def formatShardFileName (dayUtc : Int) : Option (List Char) :=
  if dayUtc + unixEpochJulianDay < i32Bound then
    (calendar.fromJulianDay (dayUtc + unixEpochJulianDay)).map fun date => date.text ++ shardSuffix
  else none

def digitValue (character : Char) : Option Nat :=
  if '0' ≤ character ∧ character ≤ '9' then some (character.toNat - 48) else none

def parseDigitsFrom : Nat → List Char → Option Nat
  | value, [] => some value
  | value, character :: rest =>
    match digitValue character with
    | some digit => parseDigitsFrom (value * 10 + digit) rest
    | none => none

def parseDigits (text : List Char) : Option Nat :=
  if text = [] then none else parseDigitsFrom 0 text

/-- `parse` to an `i32`. -/
def parseI32 : List Char → Option Int
  | '-' :: rest =>
    match parseDigits rest with
    | some value => if (value : Int) ≤ i32Bound then some (-value) else none
    | none => none
  | '+' :: rest => unsigned rest
  | text => unsigned text
where
  unsigned (text : List Char) : Option Int :=
    match parseDigits text with
    | some value => if (value : Int) < i32Bound then some value else none
    | none => none

/-- `parse` to a `u8`. -/
def parseU8 : List Char → Option Nat
  | '+' :: rest => (parseDigits rest).filter (· < 256)
  | text => (parseDigits text).filter (· < 256)

def parseDate (text : List Char) : Option Date :=
  match text.splitOn '-' with
  | [yearPart, monthPart, dayPart] =>
    match parseI32 yearPart, parseU8 monthPart, parseU8 dayPart with
    | some year, some month, some day =>
      if 1 ≤ month ∧ month ≤ 12 then calendar.fromCalendarDate year month day else none
    | _, _, _ => none
  | _ => none

def parseShardFileName (name : List Char) : Option Int :=
  if shardSuffix <:+ name then
    match parseDate calendar (name.take (name.length - shardSuffix.length)) with
    | some date =>
      let dayUtc := calendar.toJulianDay date - unixEpochJulianDay
      if formatShardFileName calendar dayUtc = some name then some dayUtc else none
    | none => none
  else none

section Digits

variable {value : Nat}

theorem digitValue_digitChar : ∀ digit < 10, digitValue (Nat.digitChar digit) = some digit := by
  decide

theorem digitChar_ne_sign :
    ∀ digit < 10, Nat.digitChar digit ≠ '-' ∧ Nat.digitChar digit ≠ '+' := by
  decide

theorem parseDigitsFrom_cons (value : Nat) {digit : Nat} (small : digit < 10) (rest : List Char) :
    parseDigitsFrom value (Nat.digitChar digit :: rest) =
      parseDigitsFrom (value * 10 + digit) rest := by
  rw [parseDigitsFrom, digitValue_digitChar digit small]

theorem parseDigits_twoDigits (small : value < 100) :
    parseDigits (twoDigits value) = some value := by
  have small (digits : Nat) : digits % 10 < 10 := Nat.mod_lt _ (by decide)
  rw [parseDigits, if_neg (by simp [twoDigits]), twoDigits, parseDigitsFrom_cons _ (small _),
    parseDigitsFrom_cons _ (small _), parseDigitsFrom, some_inj]
  omega

theorem parseDigits_fourDigits (small : value < 10000) :
    parseDigits (fourDigits value) = some value := by
  have small (digits : Nat) : digits % 10 < 10 := Nat.mod_lt _ (by decide)
  rw [parseDigits, if_neg (by simp [fourDigits]), fourDigits, threeDigits, twoDigits,
    parseDigitsFrom_cons _ (small _), parseDigitsFrom_cons _ (small _),
    parseDigitsFrom_cons _ (small _), parseDigitsFrom_cons _ (small _), parseDigitsFrom, some_inj]
  omega

theorem parseU8_twoDigits (small : value < 100) : parseU8 (twoDigits value) = some value := by
  have digits := parseDigits_twoDigits small
  have first := (digitChar_ne_sign _ (Nat.mod_lt (value / 10) (by decide))).2
  rw [parseU8, digits, filter_some, if_pos (by simp; omega)]
  rintro rest same
  exact first (cons.inj same).1

theorem parseI32_fourDigits (small : value < 10000) :
    parseI32 (fourDigits value) = some (value : Int) := by
  have digits := parseDigits_fourDigits small
  have first := digitChar_ne_sign _ (Nat.mod_lt (value / 1000) (by decide))
  rw [parseI32, parseI32.unsigned, digits]
  · exact if_pos (by simp only [i32Bound]; omega)
  · rintro rest same
    exact first.1 (cons.inj same).1
  · rintro rest same
    exact first.2 (cons.inj same).1

theorem dash_notMem_twoDigits (value : Nat) : '-' ∉ twoDigits value := by
  have first := (digitChar_ne_sign _ (Nat.mod_lt (value / 10) (by decide))).1
  have second := (digitChar_ne_sign _ (Nat.mod_lt value (by decide))).1
  simp [twoDigits, first.symm, second.symm]

theorem dash_notMem_fourDigits (value : Nat) : '-' ∉ fourDigits value := by
  have first := (digitChar_ne_sign _ (Nat.mod_lt (value / 1000) (by decide))).1
  have second := (digitChar_ne_sign _ (Nat.mod_lt (value / 100) (by decide))).1
  have rest := dash_notMem_twoDigits value
  simp [fourDigits, threeDigits, first.symm, second.symm, rest]

end Digits

section Names

variable {calendar : Calendar} {date : Date}

theorem format_of_parse {name : List Char} {dayUtc : Int}
    (read : parseShardFileName calendar name = some dayUtc) :
    formatShardFileName calendar dayUtc = some name := by
  unfold parseShardFileName at read
  split_ifs at read
  split at read <;> try cases read
  dsimp only at read
  split_ifs at read with same
  cases read
  exact same

theorem splitOn_text_of_nonneg (nonneg : 0 ≤ date.year) : date.text.splitOn '-' =
      [fourDigits date.year.natAbs, twoDigits date.month, twoDigits date.day] := by
  have parts := @splitOn_intercalate _
    [fourDigits date.year.natAbs, twoDigits date.month, twoDigits date.day] _ _ '-'
    (by simp [dash_notMem_fourDigits, dash_notMem_twoDigits]) (by simp)
  simpa [intercalate, intersperse, Date.text, yearText, nonneg] using parts

/-- The date of a year before zero starts with the separator. -/
theorem parseDate_text_of_neg (negative : date.year < 0) : parseDate calendar date.text = none := by
  have split_text : ∃ rest, date.text.splitOn '-' = [] :: rest := by
    simp only [Date.text, yearText, if_neg (Int.not_le.mpr negative), cons_append, splitOn,
      splitOnP_cons_eq_if_modifyHead, beq_self_eq_true, if_true]
    exact ⟨_, rfl⟩
  obtain ⟨rest, rest_eq⟩ := split_text
  rw [parseDate, rest_eq]
  split
  · next same =>
    cases same
    rfl
  · rfl

theorem parseDate_text_of_nonneg (nonneg : 0 ≤ date.year) : parseDate calendar date.text =
      calendar.fromCalendarDate date.year date.month date.day := by
  have year_small : date.year.natAbs < 10000 := by have := date.year_bounds; omega
  have month_small : date.month < 100 := by have := date.month_bounds; omega
  have day_small : date.day < 100 := by have := date.day_bounds; omega
  have year_eq : (date.year.natAbs : Int) = date.year := by omega
  simp only [parseDate, splitOn_text_of_nonneg nonneg, parseI32_fourDigits year_small,
    parseU8_twoDigits month_small, parseU8_twoDigits day_small, year_eq]
  rw [if_pos date.month_bounds]

/-- The name of a day is read as that day, unless its year is before zero. -/
theorem parse_format {dayUtc : Int} {name : List Char}
    (named : formatShardFileName calendar dayUtc = some name) :
    parseShardFileName calendar name = some dayUtc ∨ parseShardFileName calendar name = none := by
  have named_eq := named
  unfold formatShardFileName at named
  split_ifs at named
  obtain ⟨date, from_julian, rfl⟩ := map_eq_some_iff.mp named
  have julian := calendar.toJulianDay_eq from_julian
  rw [parseShardFileName, if_pos (suffix_append _ _)]
  have text_eq : (date.text ++ shardSuffix).take
      ((date.text ++ shardSuffix).length - shardSuffix.length) = date.text := by
    simp
  rw [text_eq]
  rcases le_or_gt 0 date.year with nonneg | negative
  · left
    rw [parseDate_text_of_nonneg nonneg, calendar.fromCalendarDate_eq from_julian]
    simp only [julian]
    rw [add_sub_cancel_right, if_pos named_eq]
  · right
    rw [parseDate_text_of_neg negative]

end Names

end FluxDns.Storage
