import PaymentGateway.Text.Characters

/-! # Date — days of the Gregorian calendar

The calendar is extended over years before its introduction and after year 9999; year 0 precedes
year 1. -/

namespace PaymentGateway

/-- Whether a year has a 29 February. -/
def isLeapYear (year : Int) : Bool :=
  year % 4 == 0 && (year % 100 != 0 || year % 400 == 0)

/-- The number of days of a month, zero for a number that is no month. -/
def daysInMonth (year : Int) (month : Nat) : Nat :=
  match month with
  | 2 => if isLeapYear year then 29 else 28
  | 4 | 6 | 9 | 11 => 30
  | 1 | 3 | 5 | 7 | 8 | 10 | 12 => 31
  | _ => 0

/-- The years that the calendar covers. -/
def isCalendarYear (year : Int) : Bool :=
  -262143 ≤ year && year ≤ 262142

structure Date where
  year : Int
  month : Nat
  day : Nat
  isCalendarYear_year : isCalendarYear year = true
  one_le_day : 1 ≤ day
  day_le : day ≤ daysInMonth year month
  deriving DecidableEq

namespace Date

def ofYmd? (year : Int) (month day : Nat) : Option Date :=
  if h : isCalendarYear year = true ∧ 1 ≤ day ∧ day ≤ daysInMonth year month then
    some ⟨year, month, day, h.1, h.2.1, h.2.2⟩
  else none

def epoch : Date := ⟨1970, 1, 1, by decide, by decide, by decide⟩

instance : Inhabited Date := ⟨epoch⟩

/-- The day after, unless the calendar ends. -/
def next? (d : Date) : Option Date :=
  if d.day < daysInMonth d.year d.month then ofYmd? d.year d.month (d.day + 1)
  else if d.month < 12 then ofYmd? d.year (d.month + 1) 1
  else ofYmd? (d.year + 1) 1 1

def previous? (d : Date) : Option Date :=
  if 1 < d.day then ofYmd? d.year d.month (d.day - 1)
  else if 1 < d.month then ofYmd? d.year (d.month - 1) (daysInMonth d.year (d.month - 1))
  else ofYmd? (d.year - 1) 12 31

def daysInYear (year : Int) : Nat :=
  if isLeapYear year then 366 else 365

/-- The year that lies some days after the beginning of a year, with the days left over. -/
def findYear : (steps : Nat) → (year : Int) → (days : Nat) → Int × Nat
  | 0, year, days => (year, days)
  | steps + 1, year, days =>
      if days < daysInYear year then (year, days)
      else findYear steps (year + 1) (days - daysInYear year)

/-- The month that lies some days after the beginning of a month, with the days left over. -/
def findMonth (year : Int) : (steps month days : Nat) → Nat × Nat
  | 0, month, days => (month, days)
  | steps + 1, month, days =>
      if days < daysInMonth year month then (month, days)
      else findMonth year steps (month + 1) (days - daysInMonth year month)

/-- The day that lies some days after the first day of 1970. -/
def ofDaysAfterEpoch? (days : Nat) : Option Date :=
  let (year, days) := findYear days epoch.year days
  let (month, days) := findMonth year 12 1 days
  ofYmd? year month (days + 1)

/-- A year in at least four digits, with a sign unless it lies between 0 and 9999. -/
def yearChars (year : Int) : List Char :=
  let digits := Text.paddedDigits 4 year.natAbs
  if 0 ≤ year ∧ year ≤ 9999 then digits
  else (if year < 0 then '-' else '+') :: digits

def toChars (d : Date) : List Char :=
  yearChars d.year ++ '-' :: Text.fixedDigits 2 d.month ++ '-' :: Text.fixedDigits 2 d.day

def toText (d : Date) : String :=
  String.ofList d.toChars

/-- A day as the gateway reads it: day, month and year. -/
def dayFirstText (d : Date) : String :=
  String.ofList
    (Text.fixedDigits 2 d.day ++ '/' :: Text.fixedDigits 2 d.month ++ '/' :: yearChars d.year)

end Date

end PaymentGateway
