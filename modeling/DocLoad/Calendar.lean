import DocLoad.Text.Digits

/-!
# DocLoad.Calendar — dates, times of day and their texts

Instants are counted in milliseconds since the start of 1970 in UTC.  A `Moment` is an instant
split into a date of the proleptic Gregorian calendar and a time of day.  `Moment.ofMillis` splits
an instant, `millisOfRfc3339?` reads an RFC 3339 text, `Moment.iso` writes one and
`Moment.spaced` writes the form with a blank between date and time.
-/

namespace DocLoad.Calendar

/-! ## Dates -/

/-- A day of the proleptic Gregorian calendar. -/
structure Date where
  year : Int
  month : Nat
  day : Nat
deriving DecidableEq, Repr

/-- Whether a year has a 29th of February. -/
def isLeapYear (year : Int) : Bool :=
  year % 4 = 0 && (year % 100 ≠ 0 || year % 400 = 0)

/-- The length of a month. -/
def daysInMonth (year : Int) (month : Nat) : Nat :=
  if month = 2 then if isLeapYear year then 29 else 28
  else if month = 4 || month = 6 || month = 9 || month = 11 then 30
  else 31

/-- The number of days from 1970-01-01 to a date.  Years are counted from March, so that the leap
day is the last of its year, in eras of 400 years. -/
def Date.toDays (d : Date) : Int :=
  let year := if d.month ≤ 2 then d.year - 1 else d.year
  let era := year / 400
  let yearOfEra := year - era * 400
  let month : Int := (d.month + 9) % 12
  let dayOfYear := (153 * month + 2) / 5 + d.day - 1
  let dayOfEra := yearOfEra * 365 + yearOfEra / 4 - yearOfEra / 100 + dayOfYear
  era * 146097 + dayOfEra - 719468

/-- The date that lies a number of days after 1970-01-01. -/
def Date.ofDays (days : Int) : Date :=
  let days := days + 719468
  let era := days / 146097
  let dayOfEra := days - era * 146097
  let yearOfEra := (dayOfEra - dayOfEra / 1460 + dayOfEra / 36524 - dayOfEra / 146096) / 365
  let dayOfYear := dayOfEra - (365 * yearOfEra + yearOfEra / 4 - yearOfEra / 100)
  let month := (5 * dayOfYear + 2) / 153
  let year := yearOfEra + era * 400
  { year := if month < 10 then year else year + 1
    month := (if month < 10 then month + 3 else month - 9).toNat
    day := (dayOfYear - (153 * month + 2) / 5 + 1).toNat }

/-! ## Moments -/

/-- A date and a time of day in UTC, with a fraction of a second in nanoseconds. -/
structure Moment where
  date : Date
  hour : Nat
  minute : Nat
  second : Nat
  nanosecond : Nat
deriving DecidableEq, Repr

/-- The moment that lies a number of milliseconds after the start of 1970. -/
def Moment.ofMillis (millis : Int) : Moment :=
  let seconds := millis / 1000
  let ofDay := (seconds % 86400).toNat
  { date := Date.ofDays (seconds / 86400)
    hour := ofDay / 3600
    minute := ofDay / 60 % 60
    second := ofDay % 60
    nanosecond := (millis % 1000).toNat * 1000000 }

/-- The seconds from the start of 1970 to a moment, without its fraction. -/
def Moment.seconds (m : Moment) : Int :=
  m.date.toDays * 86400 + m.hour * 3600 + m.minute * 60 + m.second

/-! ## Writing -/

/-- Nine digits of a fraction of a second without the zeros at the end. -/
def fractionText (nanosecond : Nat) : String :=
  let ds := (Text.decimalPadded 9 nanosecond).toList
  String.ofList ((ds.reverse.dropWhile (· == '0')).reverse)

/-- The form `2020-06-01T00:42:40.292Z`, for years from 0 to 9999 only.  A zero fraction is left
out. -/
def Moment.iso? (m : Moment) : Option String :=
  if 0 ≤ m.date.year ∧ m.date.year ≤ 9999 then
    let two := Text.decimalPadded 2
    let fraction := if m.nanosecond = 0 then "" else "." ++ fractionText m.nanosecond
    some (Text.decimalPadded 4 m.date.year.toNat ++ "-" ++ two m.date.month ++ "-"
      ++ two m.date.day ++ "T" ++ two m.hour ++ ":" ++ two m.minute ++ ":" ++ two m.second
      ++ fraction ++ "Z")
  else none

/-- A year of at least four digits; one of more than four has a sign. -/
def yearText (year : Int) : String :=
  let sign := if year < 0 then "-" else if 9999 < year then "+" else ""
  sign ++ Text.decimalPadded 4 year.natAbs

/-- The form `2020-06-01 0:42:40.292 +00:00:00`: the hour is not padded and the fraction has at
least one digit. -/
def Moment.spaced (m : Moment) : String :=
  let two := Text.decimalPadded 2
  let fraction := if m.nanosecond = 0 then "0" else fractionText m.nanosecond
  yearText m.date.year ++ "-" ++ two m.date.month ++ "-" ++ two m.date.day ++ " "
    ++ Text.decimal m.hour ++ ":" ++ two m.minute ++ ":" ++ two m.second ++ "." ++ fraction
    ++ " +00:00:00"

/-- The last nanosecond of the year 999999. -/
def Moment.last : Moment := ⟨⟨999999, 12, 31⟩, 23, 59, 59, 999999999⟩

/-- The start of the year -999999. -/
def Moment.first : Moment := ⟨⟨-999999, 1, 1⟩, 0, 0, 0, 0⟩

/-- The moment of an instant, held between `first` and `last`. -/
def Moment.clamped (millis : Int) : Moment :=
  let m := Moment.ofMillis millis
  if 999999 < m.date.year then last else if m.date.year < -999999 then first else m

/-! ## Reading -/

/-- A number of exactly two digits and the rest. -/
def readTwo : List Char → Option (Nat × List Char)
  | a :: b :: cs => (Text.readDecimal [a, b]).map fun n => (n, cs)
  | _ => none

/-- A given character and the rest. -/
def readChar (c : Char) : List Char → Option (List Char)
  | c' :: cs => if c' = c then some cs else none
  | [] => none

/-- A year of four digits, a month and a day that exist, and the rest. -/
def readDate (cs : List Char) : Option (Date × List Char) := do
  let (century, cs) ← readTwo cs
  let (ofCentury, cs) ← readTwo cs
  let (month, cs) ← readTwo (← readChar '-' cs)
  let (day, cs) ← readTwo (← readChar '-' cs)
  let year : Int := century * 100 + ofCentury
  if 1 ≤ month ∧ month ≤ 12 ∧ 1 ≤ day ∧ day ≤ daysInMonth year month then
    some (⟨year, month, day⟩, cs)
  else none

/-- The nanoseconds of a fraction; digits after the ninth are ignored. -/
def readFraction : List Char → Option (Nat × List Char)
  | '.' :: cs =>
    let (ds, rest) := Text.spanDigits cs
    if ds.isEmpty then none
    else some (Text.decimalValue ((ds ++ List.replicate 9 '0').take 9), rest)
  | cs => some (0, cs)

/-- The seconds by which a zone is ahead of UTC: `Z` in either case or a signed hour and minute. -/
def readOffset : List Char → Option (Int × List Char)
  | 'Z' :: cs | 'z' :: cs => some (0, cs)
  | '+' :: cs => magnitude cs
  | '-' :: cs => (magnitude cs).map fun (n, cs) => (-n, cs)
  | _ => none
where
  magnitude (cs : List Char) : Option (Int × List Char) := do
    let (hour, cs) ← readTwo cs
    let (minute, cs) ← readTwo (← readChar ':' cs)
    if hour ≤ 23 ∧ minute ≤ 59 then some ((hour * 3600 + minute * 60 : Nat), cs) else none

/-- Whether a second that stands for a leap second is the last one of a month in UTC. -/
def endsMonth (seconds : Int) : Bool :=
  let m := Moment.ofMillis (seconds * 1000)
  m.hour = 23 && m.minute = 59 && m.second = 59 && m.date.day = daysInMonth m.date.year m.date.month

/-- The character that separates date and time is skipped: any one ASCII character may stand
there. -/
def skipSeparator : List Char → Option (List Char)
  | c :: cs => if c.toNat < 128 then some cs else none
  | [] => none

/-- The instant that an RFC 3339 text names, cut to milliseconds toward zero.  A leap second counts
as the last nanosecond of the second before it, and only where a month ends in UTC. -/
def millisOfRfc3339? (cs : List Char) : Option Int := do
  let (date, cs) ← readDate cs
  let cs ← skipSeparator cs
  let (hour, cs) ← readTwo cs
  let (minute, cs) ← readTwo (← readChar ':' cs)
  let (second, cs) ← readTwo (← readChar ':' cs)
  let (nanosecond, cs) ← readFraction cs
  let (offset, cs) ← readOffset cs
  if !cs.isEmpty || 23 < hour || 59 < minute || 60 < second then none
  else
    let leap := second = 60
    let m : Moment := ⟨date, hour, minute, if leap then 59 else second, 0⟩
    let seconds := m.seconds - offset
    let nanosecond := if leap then 999999999 else nanosecond
    if leap && !endsMonth seconds then none
    else some ((seconds * 1000000000 + nanosecond).tdiv 1000000)

end DocLoad.Calendar
