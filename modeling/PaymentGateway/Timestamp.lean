import PaymentGateway.Date
import PaymentGateway.Text.Characters

/-! # Timestamp — instants in universal time

An instant is a day, a second of that day and nanoseconds. It is written as in RFC 3339 with the fewest
of 0, 3, 6 or 9 fraction digits that lose nothing, and read with any offset. A leap second is the last
second of its minute with a billion nanoseconds or more. -/

namespace PaymentGateway

/-- An instant of universal time. -/
structure Timestamp where
  date : Date
  secondOfDay : Nat
  nanosecond : Nat
  secondOfDay_lt : secondOfDay < 86400
  nanosecond_lt : nanosecond < 2000000000
  deriving DecidableEq

namespace Timestamp

def epoch : Timestamp := ⟨Date.epoch, 0, 0, by decide, by decide⟩

instance : Inhabited Timestamp := ⟨epoch⟩

def ofParts? (date : Date) (secondOfDay nanosecond : Nat) : Option Timestamp :=
  if h : secondOfDay < 86400 ∧ nanosecond < 2000000000 then
    some ⟨date, secondOfDay, nanosecond, h.1, h.2⟩
  else none

/-- The instant that lies some seconds and nanoseconds after the beginning of 1970. -/
def ofSecondsAfterEpoch? (seconds nanosecond : Nat) : Option Timestamp := do
  let date ← Date.ofDaysAfterEpoch? (seconds / 86400)
  ofParts? date (seconds % 86400) nanosecond

/-- Fraction digits with their point: none, three, six or nine. -/
def fractionChars (nanosecond : Nat) : List Char :=
  if nanosecond = 0 then []
  else if nanosecond % 1000000 = 0 then '.' :: Text.fixedDigits 3 (nanosecond / 1000000)
  else if nanosecond % 1000 = 0 then '.' :: Text.fixedDigits 6 (nanosecond / 1000)
  else '.' :: Text.fixedDigits 9 nanosecond

def toChars (t : Timestamp) : List Char :=
  let second := t.secondOfDay % 60 + t.nanosecond / 1000000000
  t.date.toChars ++ 'T' :: Text.fixedDigits 2 (t.secondOfDay / 3600) ++
    ':' :: Text.fixedDigits 2 (t.secondOfDay / 60 % 60) ++
    ':' :: Text.fixedDigits 2 second ++ fractionChars (t.nanosecond % 1000000000) ++ ['Z']

def toText (t : Timestamp) : String :=
  String.ofList t.toChars

/-! ## Reading -/

/-- The digits at the front, at most `limit` of them and at least one, as a number. -/
def takeNumber? (limit : Nat) (cs : List Char) : Option (Nat × List Char) :=
  let digits := (cs.take limit).takeWhile fun c => (Text.digitValue? c).isSome
  (Text.readNat? digits).map fun n => (n, cs.drop digits.length)

/-- A number within bounds, after white space. -/
def takeField? (limit low high : Nat) (cs : List Char) : Option (Nat × List Char) :=
  match takeNumber? limit (Text.trimStart cs) with
  | some (n, rest) => if low ≤ n ∧ n ≤ high then some (n, rest) else none
  | none => none

def takeMark? (mark : Char) (cs : List Char) : Option (List Char) :=
  match Text.trimStart cs with
  | c :: rest => if c = mark then some rest else none
  | [] => none

/-- A year: four digits at most, or any number of them after a sign. -/
def takeYear? (cs : List Char) : Option (Int × List Char) :=
  match Text.trimStart cs with
  | '-' :: rest => (takeNumber? rest.length rest).map fun (n, rest) => (-(n : Int), rest)
  | '+' :: rest => (takeNumber? rest.length rest).map fun (n, rest) => ((n : Int), rest)
  | cs => (takeNumber? 4 cs).map fun (n, rest) => ((n : Int), rest)

def takeDate? (cs : List Char) : Option (Date × List Char) := do
  let (year, cs) ← takeYear? cs
  let cs ← takeMark? '-' cs
  let (month, cs) ← takeField? 2 1 12 cs
  let cs ← takeMark? '-' cs
  let (day, cs) ← takeField? 2 1 31 cs
  let date ← Date.ofYmd? year month day
  pure (date, cs)

/-- Nanoseconds from the fraction digits, if there is a point; digits beyond the ninth are dropped. -/
def takeFraction? : List Char → Option (Nat × List Char)
  | '.' :: cs =>
      let digits := cs.takeWhile fun c => (Text.digitValue? c).isSome
      let kept := digits.take 9
      (Text.readNat? kept).map fun n => (n * Nat.pow 10 (9 - kept.length), cs.drop digits.length)
  | cs => some (0, cs)

/-- Hour, minute, second and nanoseconds; a second 60 is the leap second. -/
def takeTime? (cs : List Char) : Option (Nat × Nat × List Char) := do
  let (hour, cs) ← takeField? 2 0 23 cs
  let cs ← takeMark? ':' cs
  let (minute, cs) ← takeField? 2 0 59 cs
  let cs ← takeMark? ':' cs
  let (second, cs) ← takeField? 2 0 60 cs
  let (nanosecond, cs) ← takeFraction? cs
  let leap := if second = 60 then 1 else 0
  pure (hour * 3600 + minute * 60 + (second - leap), nanosecond + leap * 1000000000, cs)

/-- Two digits, the first at most `high`. -/
def takeTwoDigits? (high : Nat) : List Char → Option (Nat × List Char)
  | a :: b :: cs => do
      let tens ← Text.digitValue? a
      let ones ← Text.digitValue? b
      if tens ≤ high then some (tens * 10 + ones, cs) else none
  | _ => none

/-- Seconds east of Greenwich: a letter for universal time, or signed hours and minutes. -/
def takeOffset? (cs : List Char) : Option (Int × List Char) :=
  if (cs.take 3).map Char.toLower = ['u', 't', 'c'] then some (0, cs.drop 3)
  else
    match cs with
    | [] => none
    | c :: rest =>
        if c = 'Z' ∨ c = 'z' then some (0, rest)
        else if c = '+' ∨ c = '-' ∨ c = '\u2212' then do
          let (hours, rest) ← takeTwoDigits? 9 rest
          let (minutes, rest) ← takeTwoDigits? 5 (rest.dropWhile fun c => c == ':' || Text.isBlank c)
          let seconds : Int := hours * 3600 + minutes * 60
          if seconds < 86400 then some (if c = '+' then seconds else -seconds, rest) else none
        else none

/-- The instant that a local day and second with an offset name. -/
def ofLocal? (date : Date) (secondOfDay nanosecond : Nat) (offset : Int) : Option Timestamp :=
  let second : Int := secondOfDay - offset
  if second < 0 then do
    let date ← date.previous?
    ofParts? date (second + 86400).toNat nanosecond
  else if second < 86400 then ofParts? date second.toNat nanosecond
  else do
    let date ← date.next?
    ofParts? date (second - 86400).toNat nanosecond

def ofChars? (cs : List Char) : Option Timestamp := do
  let (date, cs) ← takeDate? cs
  match cs with
  | c :: cs =>
      if c = 'T' ∨ c = 't' ∨ c = ' ' then
        let (second, nanosecond, cs) ← takeTime? cs
        let (offset, cs) ← takeOffset? (Text.trimStart cs)
        if (Text.trimStart cs).isEmpty then ofLocal? date second nanosecond offset else none
      else none
  | [] => none

def ofText? (s : String) : Option Timestamp :=
  ofChars? s.toList

end Timestamp

end PaymentGateway
