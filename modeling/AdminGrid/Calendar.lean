import AdminGrid.Number.Reading
import AdminGrid.Number.Shortest

/-!
# Dates and times of day

Dates, times of day and moments (a date with a time of day) are read from and written in the
international notation: `2024-01-31`, `23:59:00.250000+02:00`, and both around a `T`.
-/

namespace AdminGrid

/-- A day of the calendar. -/
structure Date where
  year : Nat
  month : Nat
  day : Nat
  deriving DecidableEq

/-- A time of day, with its distance from universal time in seconds when that is known. -/
structure Clock where
  hour : Nat
  minute : Nat
  second : Nat
  micro : Nat
  offset : Option Int
  deriving DecidableEq

/-- A day and a time of day. -/
structure Moment where
  date : Date
  clock : Clock
  deriving DecidableEq

namespace Calendar

/-- A number with leading zeros up to a width. -/
def padded (width n : Nat) : List Char := Binary64.padZeros width (Binary64.digitChars n)

/-- Takes a number of exactly `count` plain digits from the front of a list. -/
def takeNumber? (count : Nat) (cs : List Char) : Option (Nat × List Char) :=
  let ds := cs.take count
  if ds.length = count && ds.all Reading.isPlainDigit then
    some (Reading.digitsValue ds, cs.drop count)
  else none

/-- Whether a year has a leap day. -/
def isLeap (year : Nat) : Bool := year % 4 == 0 && (year % 100 != 0 || year % 400 == 0)

/-- The number of days of a month. -/
def daysIn (year month : Nat) : Nat :=
  if month = 2 then (if isLeap year then 29 else 28)
  else if month = 4 || month = 6 || month = 9 || month = 11 then 30
  else 31

/-- The day with the given numbers, if the calendar has it. -/
def date? (year month day : Nat) : Option Date :=
  if 1 ≤ year && 1 ≤ month && month ≤ 12 && 1 ≤ day && day ≤ daysIn year month then
    some ⟨year, month, day⟩
  else none

/-- The number of days before a year since the first day of the calendar, which was a Monday. -/
def daysBefore (year : Nat) : Nat :=
  let past := year - 1
  past * 365 + past / 4 - past / 100 + past / 400

/-- The day at a number of days after the first day of a month, in a number of further months. -/
def dayAfter? (year : Nat) : (months : Nat) → (month days : Nat) → Option Date
  | 0, _, _ => none
  | months + 1, month, days =>
      if days < daysIn year month then date? year month (days + 1)
      else dayAfter? year months (month + 1) (days - daysIn year month)

/-- The number of weeks of a year.  A week belongs to the year that its Thursday lies in. -/
def weeksIn (year : Nat) : Nat :=
  let first := daysBefore year % 7
  if first = 3 || (first = 2 && isLeap year) then 53 else 52

/-- The day with the given number in a week of a year. -/
def weekDate? (year week day : Nat) : Option Date :=
  if 1 ≤ year && 1 ≤ week && week ≤ weeksIn year && 1 ≤ day && day ≤ 7 then
    let first := daysBefore year % 7
    let since : Int := (week - 1) * 7 + (day - 1) - first + (if first ≤ 3 then 0 else 7)
    let length : Int := if isLeap year then 366 else 365
    if since < 0 then
      dayAfter? (year - 1) 12 1 (since + (if isLeap (year - 1) then 366 else 365)).toNat
    else if since < length then dayAfter? year 12 1 since.toNat
    else if year < 9999 then dayAfter? (year + 1) 12 1 (since - length).toNat
    else none
  else none

/-- The day that the characters after a year and the mark of a week denote. -/
def readWeek? (spaced : Bool) (year : Nat) (cs : List Char) : Option Date := do
  let (week, rest) ← takeNumber? 2 cs
  match rest with
  | [] => weekDate? year week 1
  | c :: ds =>
      let (day, rest) ← takeNumber? 1 (if spaced then ds else rest)
      if rest.isEmpty && (c == '-' || !spaced) then weekDate? year week day else none

/-- The day that a list of characters denotes: month and day or week and day, with marks between
them or without. -/
def readDate? (cs : List Char) : Option Date := do
  let (year, rest) ← takeNumber? 4 cs
  match rest with
  | '-' :: 'W' :: rest => readWeek? true year rest
  | 'W' :: rest => readWeek? false year rest
  | '-' :: rest =>
      let (month, rest) ← takeNumber? 2 rest
      match rest with
      | '-' :: rest =>
          let (day, rest) ← takeNumber? 2 rest
          if rest.isEmpty then date? year month day else none
      | _ => none
  | rest =>
      let (month, rest) ← takeNumber? 2 rest
      let (day, rest) ← takeNumber? 2 rest
      if rest.isEmpty then date? year month day else none

/-- Millionths of a second from the digits after a decimal mark. -/
def readMicro? (ds : List Char) : Option Nat :=
  if ds.isEmpty || !ds.all Reading.isPlainDigit then none
  else
    let kept := ds.take 6
    some (Reading.digitsValue kept * tenTo (6 - kept.length))

/-- The hours, minutes, seconds and millionths that a list of characters denotes. -/
def readHands? (cs : List Char) : Option (Nat × Nat × Nat × Nat) := do
  let (hour, rest) ← takeNumber? 2 cs
  match rest with
  | [] => return (hour, 0, 0, 0)
  | c :: _ =>
      let spaced := c == ':'
      let skip (cs : List Char) : Option (List Char) :=
        if spaced then (match cs with | ':' :: rest => some rest | _ => none) else some cs
      let (minute, rest) ← takeNumber? 2 (← skip rest)
      if rest.isEmpty then return (hour, minute, 0, 0)
      let (second, rest) ← takeNumber? 2 (← skip rest)
      match rest with
      | [] => return (hour, minute, second, 0)
      | mark :: ds =>
          if mark == '.' || mark == ',' then
            return (hour, minute, second, ← readMicro? ds)
          else none

/-- The distance from universal time that a list of characters denotes, in seconds. -/
def readOffset? (cs : List Char) : Option Int :=
  match cs with
  | ['Z'] => some 0
  | sign :: rest => do
      let (hour, minute, second, _) ← readHands? rest
      let distance := hour * 3600 + minute * 60 + second
      if distance < 86400 then return Binary64.signed (sign == '-') distance else none
  | [] => none

/-- The time of day that a list of characters denotes. -/
def readClock? (cs : List Char) : Option Clock := do
  let isZone (c : Char) : Bool := c == '+' || c == '-' || c == 'Z'
  let hands := cs.takeWhile fun c => !isZone c
  let zone := cs.dropWhile fun c => !isZone c
  let (hour, minute, second, micro) ← readHands? hands
  if hour < 24 && minute < 60 && second < 60 then
    if zone.isEmpty then return ⟨hour, minute, second, micro, none⟩
    else return ⟨hour, minute, second, micro, some (← readOffset? zone)⟩
  else none

/-- Midnight, without a known distance from universal time. -/
def midnight : Clock := ⟨0, 0, 0, 0, none⟩

/-- The length of the date at the front of a moment. -/
def dateWidth (cs : List Char) : Nat :=
  let digits (n : Nat) : Nat := ((cs.drop n).takeWhile Reading.isPlainDigit).length
  match cs.drop 4 with
  | '-' :: 'W' :: _ =>
      if cs[8]? = some '-' && !(digits 10 != 0 && 10 < cs.length) then 10 else 8
  | '-' :: _ => 10
  | 'W' :: _ =>
      let width := 7 + digits 7
      if width < 9 then width else if width % 2 = 0 then 7 else 8
  | _ => 8

/-- The moment that a list of characters denotes: a date, and after any one character a time. -/
def readMoment? (cs : List Char) : Option Moment :=
  let width := dateWidth cs
  match cs.drop width with
  | [] => (readDate? cs).map fun date => ⟨date, midnight⟩
  | _ :: rest => do return ⟨← readDate? (cs.take width), ← readClock? rest⟩

end Calendar

/-- The date in international notation. -/
def Date.iso (d : Date) : String :=
  String.ofList (Calendar.padded 4 d.year ++ '-' :: Calendar.padded 2 d.month ++
    '-' :: Calendar.padded 2 d.day)

/-- The distance from universal time in international notation. -/
def Calendar.offsetText (offset : Int) : List Char :=
  let n := offset.natAbs
  let seconds := if n % 60 = 0 then [] else ':' :: Calendar.padded 2 (n % 60)
  (if offset < 0 then '-' else '+') :: Calendar.padded 2 (n / 3600) ++
    ':' :: Calendar.padded 2 (n / 60 % 60) ++ seconds

/-- The time of day in international notation. -/
def Clock.iso (t : Clock) : String :=
  String.ofList (Calendar.padded 2 t.hour ++ ':' :: Calendar.padded 2 t.minute ++
    ':' :: Calendar.padded 2 t.second ++
    (if t.micro = 0 then [] else '.' :: Calendar.padded 6 t.micro) ++
    (t.offset.map Calendar.offsetText).getD [])

/-- The moment in international notation, with a given character between its two parts. -/
def Moment.iso (between : Char) (m : Moment) : String :=
  m.date.iso ++ String.singleton between ++ m.clock.iso

end AdminGrid
