import Mathlib.Logic.Basic

/-!
# Time stamps

`chrono::NaiveDateTime` as the number of nanoseconds since the Unix epoch, with the
arithmetic and the text form that the handlers use.
-/

namespace PasswordManager

/-- Nanoseconds since 1970-01-01 00:00:00. -/
abbrev NaiveDateTime := Int

namespace NaiveDateTime

def second : Int := 1000000000

def day : Int := 86400 * second

/-- `CURRENT_TIMESTAMP`, which SQLite keeps to the second. -/
def toSecond (t : NaiveDateTime) : NaiveDateTime := t / second * second

/-- `(later - earlier).num_days()`, which truncates. -/
def numDays (later earlier : NaiveDateTime) : Int := (later - earlier).tdiv day

/-- The span takes the number of whole days, rounded up. -/
def RoundedUp (span days : Int) : Prop := (days - 1) * day < span ∧ span ≤ days * day

theorem RoundedUp.mono {span span' days days' : Int} (shorter : span' ≤ span) (up : RoundedUp span days)
    (up' : RoundedUp span' days') : days' ≤ days := by
  have below : (days' - 1) * day < days * day := by
    have first := up.2
    have second := up'.1
    omega
  have positive : 0 < day := by decide
  have fewer := Int.lt_of_mul_lt_mul_right below (Int.le_of_lt positive)
  omega

/-- Year, month and day of the Gregorian calendar, counted in eras of 400 years from March. -/
def civil (days : Int) : Int × Int × Int :=
  let z := days + 719468
  let era := z / 146097
  let doe := z % 146097
  let yoe := (doe - doe / 1460 + doe / 36524 - doe / 146096) / 365
  let doy := doe - (365 * yoe + yoe / 4 - yoe / 100)
  let mp := (5 * doy + 2) / 153
  let month := if mp < 10 then mp + 3 else mp - 9
  (yoe + era * 400 + (if month ≤ 2 then 1 else 0), month, doy - (153 * mp + 2) / 5 + 1)

def pad (width : Nat) (n : Int) : String :=
  let digits := toString n.natAbs
  String.ofList (List.replicate (width - digits.length) '0') ++ digits

def year (n : Int) : String :=
  if n < 0 then "-" ++ pad 4 n else if n > 9999 then "+" ++ pad 4 n else pad 4 n

def fraction (nanos : Int) : String :=
  if nanos = 0 then ""
  else if nanos % 1000000 = 0 then "." ++ pad 3 (nanos / 1000000)
  else if nanos % 1000 = 0 then "." ++ pad 6 (nanos / 1000)
  else "." ++ pad 9 nanos

/-- `%Y-%m-%d %H:%M:%S` -/
def format (t : NaiveDateTime) : String :=
  let (y, m, d) := civil (t / day)
  let s := t % day / second
  year y ++ "-" ++ pad 2 m ++ "-" ++ pad 2 d ++ " " ++
    pad 2 (s / 3600) ++ ":" ++ pad 2 (s / 60 % 60) ++ ":" ++ pad 2 (s % 60)

/-- `NaiveDateTime::to_string` -/
def display (t : NaiveDateTime) : String := format t ++ fraction (t % second)

example : display 1782086400500000000 = "2026-06-22 00:00:00.500" := by decide

end NaiveDateTime

end PasswordManager
