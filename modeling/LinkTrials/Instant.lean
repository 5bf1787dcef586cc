import LinkTrials.Text.Blank

/-!
Points of time in universal time, to the nanosecond, by the Gregorian calendar.

An instant is kept as its calendar date and time of day. A leap second is the second after the 59th
and is kept as a fraction of one second or more. `Instant.toText` writes the date-time format of
internet protocols; `Instant.ofText` also reads its relaxed forms and any numeric offset.
-/
namespace LinkTrials

namespace Calendar

def isLeapYear (year : Int) : Bool :=
  decide (year % 4 = 0) && (decide (year % 100 ≠ 0) || decide (year % 400 = 0))

def daysInMonth (year : Int) (month : Nat) : Nat :=
  if month = 2 then (if isLeapYear year then 29 else 28)
  else if month = 4 ∨ month = 6 ∨ month = 9 ∨ month = 11 then 30
  else 31

/-- The first and the last year that a date may have. -/
def firstYear : Int := -262143

def lastYear : Int := 262142

end Calendar

open Calendar

/-- A day of the calendar. -/
structure Day where
  year : Int
  month : Nat
  day : Nat
  year_ge : firstYear ≤ year
  year_le : year ≤ lastYear
  month_pos : 0 < month
  month_le : month ≤ 12
  day_pos : 0 < day
  day_le : day ≤ daysInMonth year month
deriving DecidableEq

namespace Day

def ofParts? (year : Int) (month day : Nat) : Option Day :=
  if h : firstYear ≤ year ∧ year ≤ lastYear ∧ 0 < month ∧ month ≤ 12 ∧ 0 < day ∧
      day ≤ daysInMonth year month then
    some ⟨year, month, day, h.1, h.2.1, h.2.2.1, h.2.2.2.1, h.2.2.2.2.1, h.2.2.2.2.2⟩
  else none

def next? (d : Day) : Option Day :=
  if d.day < daysInMonth d.year d.month then ofParts? d.year d.month (d.day + 1)
  else if d.month < 12 then ofParts? d.year (d.month + 1) 1
  else ofParts? (d.year + 1) 1 1

def previous? (d : Day) : Option Day :=
  if 1 < d.day then ofParts? d.year d.month (d.day - 1)
  else if 1 < d.month then ofParts? d.year (d.month - 1) (daysInMonth d.year (d.month - 1))
  else ofParts? (d.year - 1) 12 31

def later? : Nat → Day → Option Day
  | 0, d => some d
  | n + 1, d => d.next?.bind (later? n)

end Day

/-- A point of time. -/
structure Instant where
  day : Day
  hour : Nat
  minute : Nat
  second : Nat
  nanos : Nat
  hour_lt : hour < 24
  minute_lt : minute < 60
  second_lt : second < 60
  /-- A second has a billion nanoseconds, the last of a minute may be followed by a leap second. -/
  nanos_lt : nanos < 1000000000 ∨ (second = 59 ∧ nanos < 2000000000)
deriving DecidableEq

namespace Instant

/-- The instant from which machines count seconds. -/
def epoch : Instant where
  day := ⟨1970, 1, 1, by decide, by decide, by decide, by decide, by decide, by decide⟩
  hour := 0
  minute := 0
  second := 0
  nanos := 0
  hour_lt := by decide
  minute_lt := by decide
  second_lt := by decide
  nanos_lt := by decide

instance : Inhabited Instant := ⟨epoch⟩

/-- The instant some seconds and a fraction of a second after the epoch, leap seconds not
counted. -/
def afterEpoch? (secs : Nat) (nanos : Fin 1000000000) : Option Instant :=
  (epoch.day.later? (secs / 86400)).map fun day =>
    { day := day
      hour := secs % 86400 / 3600
      minute := secs % 3600 / 60
      second := secs % 60
      nanos := nanos
      hour_lt := by omega
      minute_lt := by omega
      second_lt := by omega
      nanos_lt := .inl nanos.isLt }

/-- `n` in decimal with zeros in front up to `width` digits. -/
def padded (width n : Nat) : List Char :=
  let ds := Nat.toDigits 10 n
  List.replicate (width - ds.length) '0' ++ ds

/-- Four digits, and a sign outside the four-digit years. -/
def yearText (year : Int) : List Char :=
  if 0 ≤ year ∧ year ≤ 9999 then padded 4 year.toNat
  else (if year < 0 then '-' else '+') :: padded 4 year.natAbs

def dateText (d : Day) : List Char :=
  yearText d.year ++ '-' :: padded 2 d.month ++ '-' :: padded 2 d.day

/-- Hours, minutes and seconds; a leap second is number 60. -/
def timeText (t : Instant) : List Char :=
  padded 2 t.hour ++ ':' :: padded 2 t.minute ++ ':' :: padded 2 (t.second + t.nanos / 1000000000)

/-- The fraction of the second with 0, 3, 6 or 9 digits, as few as show all of it. -/
def fractionText (t : Instant) : List Char :=
  let fraction := t.nanos % 1000000000
  if fraction = 0 then []
  else if fraction % 1000000 = 0 then '.' :: padded 3 (fraction / 1000000)
  else if fraction % 1000 = 0 then '.' :: padded 6 (fraction / 1000)
  else '.' :: padded 9 fraction

/-- The date-time format, always in universal time. -/
def toText (t : Instant) : String :=
  String.ofList (dateText t.day ++ 'T' :: timeText t ++ fractionText t ++ ['Z'])

/-- A form for people, to the millisecond. -/
def consoleText (t : Instant) : String :=
  String.ofList (dateText t.day ++ ' ' :: timeText t ++
    '.' :: padded 3 (t.nanos % 1000000000 / 1000000))

/-- Why a text is no instant. -/
inductive Fault where
  | tooShort
  | tooLong
  | invalid
  | outOfRange
  | impossible
deriving DecidableEq, Repr

def Fault.message : Fault → String
  | .tooShort => "premature end of input"
  | .tooLong => "trailing input"
  | .invalid => "input contains invalid characters"
  | .outOfRange => "input is out of range"
  | .impossible => "no possible date and time matching input"

/-- Digits, at least one and at most `width`; all that are there if no width is given. -/
def number (width : Option Nat) (cs : List Char) : Except Fault (Nat × List Char) :=
  match cs with
  | [] => .error .tooShort
  | c :: _ =>
    if c.isDigit then
      let digits := match width with
        | some w => (cs.take w).takeWhile Char.isDigit
        | none => cs.takeWhile Char.isDigit
      .ok (digits.foldl (fun n d => n * 10 + (d.toNat - '0'.toNat)) 0, cs.drop digits.length)
    else .error .invalid

/-- A two-digit number between `low` and `high`, after optional blanks. -/
def bounded (low high : Nat) (cs : List Char) : Except Fault (Nat × List Char) := do
  let (n, rest) ← number (some 2) (Text.trimFront cs)
  if low ≤ n ∧ n ≤ high then .ok (n, rest) else .error .outOfRange

/-- A year of up to four digits, or of any length behind a sign. -/
def year (cs : List Char) : Except Fault (Int × List Char) := do
  let (y, rest) ← match Text.trimFront cs with
    | '-' :: r => (number none r).map fun (n, rest) => (-(n : Int), rest)
    | '+' :: r => (number none r).map fun (n, rest) => ((n : Int), rest)
    | r => (number (some 4) r).map fun (n, rest) => ((n : Int), rest)
  if -2147483648 ≤ y ∧ y < 2147483648 then .ok (y, rest) else .error .outOfRange

/-- The given character, after optional blanks. -/
def separator (c : Char) (cs : List Char) : Except Fault (List Char) :=
  match Text.trimFront cs with
  | [] => .error .tooShort
  | d :: rest => if d = c then .ok rest else .error .invalid

/-- A fraction behind a point in nanoseconds; digits beyond the ninth are dropped. -/
def fraction (cs : List Char) : Except Fault (Nat × List Char) :=
  match cs with
  | '.' :: r => do
    let (n, rest) ← number (some 9) r
    -- How many digits were read gives the unit of the last one.
    let used := r.length - rest.length
    .ok (n * Nat.pow 10 (9 - used), rest.dropWhile Char.isDigit)
  | _ => .ok (0, cs)

/-- Two characters that must be digits, the first at most `9`. -/
def digitPair (cs : List Char) : Except Fault ((Nat × Nat) × List Char) :=
  match cs with
  | a :: b :: rest =>
    if a.isDigit && b.isDigit then
      .ok ((a.toNat - '0'.toNat, b.toNat - '0'.toNat), rest)
    else .error .invalid
  | [a] => if a.utf8Size = 1 then .error .tooShort else .error .invalid
  | [] => .error .tooShort

/-- A time zone as minutes ahead of universal time: `Z`, `UTC`, or a signed offset of hours and
minutes with an optional colon or blanks between them. -/
def offset (cs : List Char) : Except Fault (Int × List Char) :=
  let cs := Text.trimFront cs
  if (cs.take 3).map Char.toUpper = ['U', 'T', 'C'] then .ok (0, cs.drop 3)
  else
    let signed (negative : Bool) (cs : List Char) : Except Fault (Int × List Char) := do
      let ((h, h'), rest) ← digitPair cs
      let rest := rest.dropWhile fun c => c == ':' || Text.isBlank c
      let ((m, m'), rest) ← digitPair rest
      if 5 < m then .error .outOfRange
      else
        let minutes : Int := (h * 10 + h') * 60 + (m * 10 + m')
        .ok (if negative then -minutes else minutes, rest)
    match cs with
    | [] => .error .tooShort
    | c :: rest =>
      if c = 'Z' ∨ c = 'z' then .ok (0, rest)
      else if c = '+' then signed false rest
      else if c = '-' ∨ c = '\u2212' then signed true rest
      else .error .invalid

/-- The instant at which clocks that are `ahead` minutes ahead of universal time show the given
day and time. -/
def ofLocal (day : Day) (hour minute second nanos : Nat) (ahead : Int) : Except Fault Instant :=
  let minutes : Int := hour * 60 + minute - ahead
  let day? := if minutes < 0 then day.previous? else if 1440 ≤ minutes then day.next? else some day
  match day? with
  | none => .error .impossible
  | some day =>
    let inDay := (minutes % 1440).toNat
    if h : inDay / 60 < 24 ∧ second < 60 ∧
        (nanos < 1000000000 ∨ (second = 59 ∧ nanos < 2000000000)) then
      .ok ⟨day, inDay / 60, inDay % 60, second, nanos, h.1, Nat.mod_lt _ (by decide), h.2.1, h.2.2⟩
    else .error .outOfRange

/-- The date-time format with its relaxed forms: a blank or `t` between date and time, blanks
around the numbers, any numeric offset of less than a day. -/
def ofText (s : String) : Except Fault Instant := do
  let (y, cs) ← year s.toList
  let cs ← separator '-' cs
  let (mo, cs) ← bounded 1 12 cs
  let cs ← separator '-' cs
  let (d, cs) ← bounded 1 31 cs
  let cs ← match cs with
    | [] => .error .tooShort
    | c :: rest => if c = 't' ∨ c = 'T' ∨ c = ' ' then .ok rest else .error .invalid
  let (h, cs) ← bounded 0 23 cs
  let cs ← separator ':' cs
  let (mi, cs) ← bounded 0 59 cs
  let cs ← separator ':' cs
  let (sec, cs) ← bounded 0 60 cs
  let (nanos, cs) ← fraction cs
  let (ahead, cs) ← offset cs
  if Text.trimFront cs ≠ [] then .error .tooLong
  else
    match Day.ofParts? y mo d with
    | none => .error .outOfRange
    | some day =>
      if ahead ≤ -1440 ∨ 1440 ≤ ahead then .error .outOfRange
      -- A leap second is kept as a long last second of the minute.
      else if sec = 60 then ofLocal day h mi 59 (nanos + 1000000000) ahead
      else ofLocal day h mi sec nanos ahead

end Instant

end LinkTrials
