/-
Calendar dates and times of day, as configuration files hold them.

* **`DateTime`** — a date, a time or both; with both there may be an offset from universal time;
* **`DateTime.read`** — reads one at the front of a text;
* **`DateTime.parse?`** — reads a whole text;
* **`DateTime.text`** — the text of a date-time, with as few fraction digits as its nanoseconds
  need.
-/
import LoadGenerator.Text.Digits

namespace LoadGenerator.Toml

open LoadGenerator.Text

/-- A day of the calendar. -/
structure Date where
  year : Nat
  month : Nat
  day : Nat
  deriving DecidableEq, Repr

/-- A time of day. -/
structure Time where
  hour : Nat
  minute : Nat
  second : Nat
  nanosecond : Nat
  deriving DecidableEq, Repr

/-- The distance from universal time: none, or a number of minutes. -/
inductive Offset where
  | universal
  | minutes (m : Int)
  deriving DecidableEq, Repr

/-- A date, a time, or both with or without an offset. -/
structure DateTime where
  date : Option Date
  time : Option Time
  offset : Option Offset
  deriving DecidableEq, Repr

/-- The number of days of a month. -/
def daysInMonth (year month : Nat) : Nat :=
  if month = 2 then
    if year % 4 = 0 && (year % 100 ≠ 0 || year % 400 = 0) then 29 else 28
  else if month = 4 || month = 6 || month = 9 || month = 11 then 30
  else 31

/-- Exactly `count` decimal digits, as a number. -/
def readFixed : (count : Nat) → (sofar : Nat) → List Char → Option (Nat × List Char)
  | 0, n, s => some (n, s)
  | count + 1, n, c :: s =>
    match digitValue? 10 c with
    | some d => readFixed count (n * 10 + d) s
    | none => none
  | _ + 1, _, [] => none

/-- The text behind a given character. -/
def behind (c : Char) : List Char → Option (List Char)
  | d :: s => if c = d then some s else none
  | [] => none

/-- The first nine of a fraction's digits, as nanoseconds. -/
def nanosecondsOf (digits : List Nat) : Nat :=
  ofDigits 10 ((digits ++ List.replicate 9 0).take 9)

namespace Date

/-- Year, month and day, joined by hyphens, on a day that exists. -/
def read (s : List Char) : Option (Date × List Char) := do
  let (year, s) ← readFixed 4 0 s
  let s ← behind '-' s
  let (month, s) ← readFixed 2 0 s
  let s ← behind '-' s
  let (day, s) ← readFixed 2 0 s
  if 1 ≤ month ∧ month ≤ 12 ∧ 1 ≤ day ∧ day ≤ daysInMonth year month then
    return (⟨year, month, day⟩, s)
  else none

/-- Year, month and day, joined by hyphens. -/
def text (d : Date) : String :=
  s!"{toDecimal d.year 4}-{toDecimal d.month 2}-{toDecimal d.day 2}"

end Date

namespace Time

/-- A fraction of a second: a point and at least one digit. Digits beyond nanoseconds are
dropped. -/
def readFraction : List Char → Option (Nat × List Char)
  | '.' :: s =>
    let (digits, rest) := leadingDigits 10 s
    if digits.isEmpty then none else some (nanosecondsOf digits, rest)
  | s => some (0, s)

/-- Hour, minute and second, joined by colons, with an optional fraction. The second may be a leap
second. -/
def read (s : List Char) : Option (Time × List Char) := do
  let (hour, s) ← readFixed 2 0 s
  let s ← behind ':' s
  let (minute, s) ← readFixed 2 0 s
  let s ← behind ':' s
  let (second, s) ← readFixed 2 0 s
  let (nanosecond, s) ← readFraction s
  if hour ≤ 23 ∧ minute ≤ 59 ∧ second ≤ 60 then
    return (⟨hour, minute, second, nanosecond⟩, s)
  else none

/-- Hour, minute and second, joined by colons, and the fraction without zeros at its end. -/
def text (t : Time) : String :=
  let clock := s!"{toDecimal t.hour 2}:{toDecimal t.minute 2}:{toDecimal t.second 2}"
  if t.nanosecond = 0 then clock
  else
    let digits := ((toDecimal t.nanosecond 9).toList.reverse.dropWhile (· = '0')).reverse
    s!"{clock}.{String.ofList digits}"

end Time

namespace Offset

/-- The letter of universal time, or a signed hour and minute. -/
def read : List Char → Option (Offset × List Char)
  | c :: s =>
    if c = 'Z' ∨ c = 'z' then some (universal, s)
    else if c = '+' ∨ c = '-' then do
      let (hour, s) ← readFixed 2 0 s
      let s ← behind ':' s
      let (minute, s) ← readFixed 2 0 s
      if hour ≤ 23 ∧ minute ≤ 59 then
        let total : Int := hour * 60 + minute
        return (minutes (if c = '-' then -total else total), s)
      else none
    else none
  | [] => none

/-- The letter of universal time, or a signed hour and minute; no offset counts as positive. -/
def text : Offset → String
  | universal => "Z"
  | minutes m =>
    let sign := if m < 0 then "-" else "+"
    s!"{sign}{toDecimal (m.natAbs / 60) 2}:{toDecimal (m.natAbs % 60) 2}"

end Offset

namespace DateTime

/-- The three marks that may stand between a date and a time. -/
def isDelimiter (c : Char) : Bool := c = 'T' || c = 't' || c = ' '

/-- A time behind a date, with an optional offset. -/
def readTimePart (s : List Char) : Option (Time × Option Offset × List Char) :=
  match s with
  | c :: s =>
    if isDelimiter c then do
      let (time, s) ← Time.read s
      match Offset.read s with
      | some (offset, s) => return (time, some offset, s)
      | none => return (time, none, s)
    else none
  | [] => none

/-- A date with or without a time, or a time alone, at the front of a text. -/
def read (s : List Char) : Option (DateTime × List Char) :=
  match Date.read s with
  | some (date, rest) =>
    match readTimePart rest with
    | some (time, offset, rest) => some (⟨some date, some time, offset⟩, rest)
    | none => some (⟨some date, none, none⟩, rest)
  | none => (Time.read s).map fun (time, rest) => (⟨none, some time, none⟩, rest)

/-- The date-time that a whole text stands for. -/
def parse? (text : String) : Option DateTime :=
  match read text.toList with
  | some (d, []) => some d
  | _ => none

/-- Date, a capital letter between, time and offset; what is absent is left out. -/
def text (d : DateTime) : String :=
  let date := (d.date.map Date.text).getD ""
  let delimiter := if d.date.isSome && d.time.isSome then "T" else ""
  let time := (d.time.map Time.text).getD ""
  let offset := (d.offset.map Offset.text).getD ""
  date ++ delimiter ++ time ++ offset

end DateTime

end LoadGenerator.Toml
