import Flowchart.Decimal.Digits
import Flowchart.Text.Blank

/-!
# Points in time

An instant counts seconds from the start of 1970 in universal time, leap seconds not counted, with a
fraction in nanoseconds. It is written as a date and time with the letter `Z` and the fewest groups
of three fraction digits that lose nothing. It is read with any offset, and with some tolerance for
white space and missing zeros. A leap second is kept as a fraction of more than a second.
-/

namespace Flowchart

/-- A point in time. -/
structure Instant where
  /-- Seconds from the start of 1970. -/
  seconds : Int
  /-- Nanoseconds from there; a leap second has a billion more. -/
  nanos : Nat
deriving DecidableEq

namespace Instant

/-- The start of 1970. -/
def epoch : Instant where
  seconds := 0
  nanos := 0

instance : Inhabited Instant := ⟨epoch⟩

/-- Earlier or at the same time. -/
def le (a b : Instant) : Bool :=
  a.seconds < b.seconds || (a.seconds == b.seconds && a.nanos ≤ b.nanos)

/-! ## The calendar -/

/-- A day of the calendar. -/
structure Date where
  /-- The year, counted through zero. -/
  year : Int
  /-- The month, from one. -/
  month : Nat
  /-- The day of the month, from one. -/
  day : Nat
deriving DecidableEq

/-- The year has 366 days. -/
def isLeap (year : Int) : Bool :=
  year % 4 == 0 && (year % 100 != 0 || year % 400 == 0)

/-- How many days a month has. -/
def daysIn (year : Int) (month : Nat) : Nat :=
  if month = 2 then (if isLeap year then 29 else 28)
  else if month = 4 ∨ month = 6 ∨ month = 9 ∨ month = 11 then 30 else 31

/-- The years of the calendar that are kept. -/
def inRange (year : Int) : Bool :=
  -262143 ≤ year && year ≤ 262142

/-- The date exists. -/
def Date.isValid (d : Date) : Bool :=
  inRange d.year && 1 ≤ d.month && d.month ≤ 12 && 1 ≤ d.day && d.day ≤ daysIn d.year d.month

/-- Days from the start of 1970 to a date. Years are taken to begin in March, so that the leap day
is the last one. -/
def Date.toDays (d : Date) : Int :=
  let y := if d.month ≤ 2 then d.year - 1 else d.year
  let era := y / 400
  let yearOfEra := y - era * 400
  let dayOfYear := (153 * ((d.month + 9) % 12) + 2) / 5 + d.day - 1
  era * 146097 + yearOfEra * 365 + yearOfEra / 4 - yearOfEra / 100 + dayOfYear - 719468

/-- The date that lies some days from the start of 1970. -/
def Date.ofDays (days : Int) : Date :=
  let z := days + 719468
  let era := z / 146097
  let dayOfEra := z - era * 146097
  let yearOfEra :=
    (dayOfEra - dayOfEra / 1460 + dayOfEra / 36524 - dayOfEra / 146096) / 365
  let dayOfYear := (dayOfEra - (365 * yearOfEra + yearOfEra / 4 - yearOfEra / 100)).toNat
  let m := (5 * dayOfYear + 2) / 153
  let month := if m < 10 then m + 3 else m - 9
  { year := yearOfEra + era * 400 + (if month ≤ 2 then 1 else 0)
    month
    day := dayOfYear - (153 * m + 2) / 5 + 1 }

/-! ## Writing -/

/-- A year outside 0 to 9999 carries its sign. -/
def yearChars (year : Int) : List Char :=
  if 0 ≤ year ∧ year ≤ 9999 then Decimal.padded 4 year.toNat
  else (if year < 0 then '-' else '+') :: Decimal.padded 4 year.natAbs

/-- The fraction in none, three, six or nine digits. -/
def fractionChars (nanos : Nat) : List Char :=
  if nanos = 0 then []
  else if nanos % 1000000 = 0 then '.' :: Decimal.padded 3 (nanos / 1000000)
  else if nanos % 1000 = 0 then '.' :: Decimal.padded 6 (nanos / 1000)
  else '.' :: Decimal.padded 9 nanos

/-- The written form in universal time. -/
def toChars (t : Instant) : List Char :=
  let date := Date.ofDays (t.seconds / 86400)
  let rest := (t.seconds % 86400).toNat
  let leap := t.nanos / 1000000000
  yearChars date.year ++ '-' :: Decimal.padded 2 date.month ++ '-' :: Decimal.padded 2 date.day ++
    'T' :: Decimal.padded 2 (rest / 3600) ++ ':' :: Decimal.padded 2 (rest / 60 % 60) ++
    ':' :: Decimal.padded 2 (rest % 60 + leap) ++ fractionChars (t.nanos % 1000000000) ++ ['Z']

/-- The written form in universal time. -/
def toText (t : Instant) : String :=
  String.ofList t.toChars

/-! ## Reading -/

/-- A number of at least one and at most `width` digits after white space. -/
def number? (width : Nat) (text : List Char) : Option (Nat × List Char) :=
  let text := Text.skipBlank text
  let ds := (text.takeWhile Decimal.isDigit).take width
  if ds.isEmpty then none else some (Decimal.value ds, text.drop ds.length)

/-- A year: up to four digits, or any number of them after a sign. -/
def year? (text : List Char) : Option (Int × List Char) :=
  match Text.skipBlank text with
  | '-' :: r =>
    let (ds, rest) := Decimal.run r
    if ds.isEmpty then none else some (-(Decimal.value ds : Int), rest)
  | '+' :: r =>
    let (ds, rest) := Decimal.run r
    if ds.isEmpty then none else some ((Decimal.value ds : Int), rest)
  | r => (number? 4 r).map fun (n, rest) => ((n : Int), rest)

/-- A fixed character, with white space before it. -/
def mark? (c : Char) (text : List Char) : Option (List Char) :=
  match Text.skipBlank text with
  | d :: rest => if d = c then some rest else none
  | [] => none

/-- A number after a fixed character. -/
def markedNumber? (c : Char) (text : List Char) : Option (Nat × List Char) :=
  (mark? c text).bind (number? 2)

/-- The nanoseconds of the first nine fraction digits; further digits are dropped. -/
def fraction? : List Char → Option (Nat × List Char)
  | '.' :: text =>
    let (ds, rest) := Decimal.run text
    let ds := ds.take 9
    if ds.isEmpty then none else some (Decimal.value ds * Nat.pow 10 (9 - ds.length), rest)
  | text => some (0, text)

/-- The seconds by which the local time is ahead, and what follows the offset. -/
def offset? (text : List Char) : Option (Int × List Char) :=
  match Text.skipBlank text with
  | 'Z' :: rest | 'z' :: rest => some (0, rest)
  | c :: rest =>
    if (c :: rest).take 3 |>.map Char.toUpper |> (· == ['U', 'T', 'C']) then some (0, rest.drop 2)
    else if c = '+' ∨ c = '-' ∨ c = '\u2212' then
      let hours := rest.take 2
      let rest := (rest.drop 2).dropWhile fun d => d = ':' ∨ Text.isBlank d
      let minutes := rest.take 2
      if hours.length = 2 ∧ hours.all Decimal.isDigit ∧ minutes.length = 2 ∧
          minutes.all Decimal.isDigit ∧ Decimal.value minutes < 60 ∧ Decimal.value hours < 24 then
        let s : Int := Decimal.value hours * 3600 + Decimal.value minutes * 60
        some (if c = '+' then s else -s, rest.drop 2)
      else none
    else none
  | [] => none

/-- The instant of a date, a time of day and an offset, if there is one. -/
def ofParts? (date : Date) (hour minute second nanos : Nat) (offset : Int) : Option Instant :=
  if date.isValid && hour < 24 && minute < 60 && second ≤ 60 then
    let (second, nanos) := if second = 60 then (59, nanos + 1000000000) else (second, nanos)
    let seconds :=
      date.toDays * 86400 + (hour * 3600 + minute * 60 + second : Nat) - offset
    if inRange (Date.ofDays (seconds / 86400)).year then some { seconds, nanos } else none
  else none

/-- Reads a date, a time of day and an offset. -/
def ofChars? (text : List Char) : Option Instant := do
  let (year, text) ← year? text
  let (month, text) ← markedNumber? '-' text
  let (day, text) ← markedNumber? '-' text
  let text ← match text with
    | c :: rest => if c = 'T' ∨ c = 't' ∨ c = ' ' then some rest else none
    | [] => none
  let (hour, text) ← number? 2 text
  let (minute, text) ← markedNumber? ':' text
  let (second, text) ← markedNumber? ':' text
  let (nanos, text) ← fraction? text
  let (offset, text) ← offset? text
  if (Text.skipBlank text).isEmpty then ofParts? { year, month, day } hour minute second nanos offset
  else none

/-- Reads a date, a time of day and an offset. -/
def ofText? (s : String) : Option Instant :=
  ofChars? s.toList

end Instant

end Flowchart
