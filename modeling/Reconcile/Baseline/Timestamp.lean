/-!
Points in time as ISO 8601 writes them. A date may name a month and a day or a week and a day of it, with or
without hyphens; a time of day may follow after any one character, and an offset from universal time after that.
-/

namespace Reconcile

structure Clock where
  hour : Nat := 0
  minute : Nat := 0
  second : Nat := 0
  micro : Nat := 0

structure Timestamp where
  year : Nat
  month : Nat
  day : Nat
  clock : Clock := {}
  /-- The offset from universal time, behind it or ahead of it. -/
  offset : Option (Bool × Clock) := none

namespace Clock

def seconds (clock : Clock) : Nat :=
  clock.hour * 3600 + clock.minute * 60 + clock.second

def isValid (clock : Clock) : Bool :=
  clock.hour < 24 && clock.minute < 60 && clock.second < 60

def ofSeconds (seconds micro : Nat) : Clock :=
  ⟨seconds / 3600, seconds / 60 % 60, seconds % 60, micro⟩

end Clock

namespace Timestamp

def isLeap (year : Nat) : Bool :=
  year % 4 = 0 && (year % 100 ≠ 0 || year % 400 = 0)

def daysInMonth (year month : Nat) : Nat :=
  if month = 2 then (if isLeap year then 29 else 28)
  else if month ∈ [4, 6, 9, 11] then 30
  else 31

def daysInYear (year : Nat) : Nat :=
  if isLeap year then 366 else 365

/-- The days before a year, counted from the first of January of the year one. -/
def daysBefore (year : Nat) : Nat :=
  let past := year - 1
  past * 365 + past / 4 - past / 100 + past / 400

/-- The day of the week, Monday being zero. -/
def weekday (days : Nat) : Nat :=
  days % 7

def monthAndDay (year : Nat) : Nat → Nat → Nat → Nat × Nat
  | 0, month, days => (month, days + 1)
  | left + 1, month, days =>
    let length := daysInMonth year month
    if days < length then (month, days + 1) else monthAndDay year left (month + 1) (days - length)

def dateAfter (year : Nat) (days : Int) : Nat × Nat × Nat :=
  if days < 0 then (year - 1, 12, (32 + days).toNat)
  else if days.toNat < daysInYear year then (year, monthAndDay year 11 1 days.toNat)
  else (year + 1, 1, days.toNat - daysInYear year + 1)

/-- The date of a day in a week of a year. The first week is the one with the first Thursday. -/
def ofWeek (year week day : Nat) : Option (Nat × Nat × Nat) :=
  let first := weekday (daysBefore year)
  let long := first = 3 || (first = 2 && isLeap year)
  if year = 0 || week = 0 || day = 0 || day > 7 || week > 53 || (week = 53 && !long) then none
  else
    let monday : Int := if first ≤ 3 then -(first : Int) else 7 - first
    some (dateAfter year (monday + (week - 1) * 7 + (day - 1)))

def digitOf (c : Char) : Option Nat :=
  if '0' ≤ c ∧ c ≤ '9' then some (c.toNat - 48) else none

def isDigit (c : Char) : Bool :=
  (digitOf c).isSome

def readDigits : Nat → Nat → List Char → Option (Nat × List Char)
  | 0, number, rest => some (number, rest)
  | count + 1, number, c :: rest => do readDigits count (number * 10 + (← digitOf c)) rest
  | _ + 1, _, [] => none

/-- Reads the fraction of a second, of which six digits count. `more` says whether anything follows; the flag that
is returned says whether anything is left. -/
def readFraction (clock : Clock) (more : Bool) (input : List Char) : Option (Clock × Bool) := do
  let count := min 6 input.length
  let (number, rest) ← readDigits count 0 input
  let rest := rest.dropWhile isDigit
  return ({ clock with micro := number * Nat.pow 10 (6 - count) }, if rest.isEmpty then more else true)

def setPart (clock : Clock) (number : Nat) : Nat → Clock
  | 0 => { clock with hour := number }
  | 1 => { clock with minute := number }
  | _ => { clock with second := number }

/-- Reads hours, minutes and seconds, from the part at `place` on; `left` is how many parts may still come. Colons
stand between all of them or between none. -/
def readParts (more : Bool) : Nat → Nat → Bool → Clock → List Char → Option (Clock × Bool)
  | 0, _, _, clock, input => readFraction clock more input
  | left + 1, place, colons, clock, input => do
    let (number, rest) ← readDigits 2 0 input
    let clock := setPart clock number place
    match rest with
    | [] => return (clock, more)
    | c :: tail =>
      let colons := if place = 0 then c = ':' else colons
      if tail.isEmpty then return (clock, true)
      else if colons && c = ':' then readParts more left (place + 1) colons clock tail
      else if c = '.' || c = ',' then readFraction clock more tail
      else if !colons then readParts more left (place + 1) colons clock (c :: tail)
      else none

def readClock (more : Bool) (input : List Char) : Option (Clock × Bool) :=
  readParts more 3 0 false {} input

def offsetOf (behind : Bool) (clock : Clock) : Option (Bool × Clock) :=
  let seconds := clock.seconds
  if seconds = 0 then some (false, {})
  else if seconds < 86400 then some (behind, .ofSeconds seconds clock.micro)
  else none

def readTime (input : List Char) : Option (Clock × Option (Bool × Clock)) := do
  let isZone : Char → Bool := fun c => c = '+' || c = '-' || c = 'Z'
  let time := input.takeWhile fun c => !isZone c
  match input.dropWhile fun c => !isZone c with
  | [] => do
    let (clock, isLeft) ← readClock false time
    if isLeft then none else return (clock, none)
  | sign :: zone => do
    let (clock, _) ← readClock true time
    if sign = 'Z' then
      if zone.isEmpty then return (clock, some (false, {})) else none
    else
      let (offset, isLeft) ← readClock false zone
      if isLeft then none else return (clock, some (← offsetOf (sign = '-') offset))

def dateLength (input : List Char) : Option Nat :=
  let at? (index : Nat) : Char := input.getD index ' '
  let length := input.length
  if length = 7 then some 7
  else if at? 4 = '-' then
    if at? 5 = 'W' then
      if length > 8 && at? 8 = '-' then
        if length = 9 then none
        else if length > 10 && isDigit (at? 10) then some 8
        else some 10
      else some 8
    else some 10
  else if at? 4 = 'W' then
    let last := 7 + ((input.drop 7).takeWhile isDigit).length
    if last < 9 then some last else if last % 2 = 0 then some 7 else some 8
  else some 8

def readDate (length : Nat) (input : List Char) : Option (Nat × Nat × Nat) := do
  let (year, rest) ← readDigits 4 0 input
  let hyphens := rest.head? = some '-'
  let rest := if hyphens then rest.drop 1 else rest
  match rest with
  | 'W' :: rest => do
    let (week, rest) ← readDigits 2 0 rest
    if input.length - rest.length < length then
      let rest ← if hyphens then (if rest.head? = some '-' then some (rest.drop 1) else none) else some rest
      let (day, _) ← readDigits 1 0 rest
      ofWeek year week day
    else ofWeek year week 1
  | rest => do
    let (month, rest) ← readDigits 2 0 rest
    let rest ← if hyphens then (if rest.head? = some '-' then some (rest.drop 1) else none) else some rest
    let (day, _) ← readDigits 2 0 rest
    return (year, month, day)

def isDate (year month day : Nat) : Bool :=
  1 ≤ year && year ≤ 9999 && 1 ≤ month && month ≤ 12 && 1 ≤ day && day ≤ daysInMonth year month

def ofText? (content : String) : Option Timestamp := do
  let input := content.toList
  if input.length < 7 then none
  let length ← dateLength input
  let (year, month, day) ← readDate length input
  let (clock, offset) ←
    if input.length ≤ length then some ({}, none) else readTime (input.drop (length + 1))
  if isDate year month day && clock.isValid then return ⟨year, month, day, clock, offset⟩ else none

def padded (width number : Nat) : String :=
  let digits := Nat.toDigits 10 number
  String.ofList (List.replicate (width - digits.length) '0' ++ digits)

def microText (micro : Nat) : String :=
  if micro = 0 then "" else "." ++ padded 6 micro

def hourText (clock : Clock) : String :=
  padded 2 clock.hour ++ ":" ++ padded 2 clock.minute

def offsetText : Option (Bool × Clock) → String
  | none => ""
  | some (behind, clock) =>
    let seconds :=
      if clock.second = 0 ∧ clock.micro = 0 then "" else ":" ++ padded 2 clock.second ++ microText clock.micro
    (if behind then "-" else "+") ++ hourText clock ++ seconds

def text (timestamp : Timestamp) : String :=
  padded 4 timestamp.year ++ "-" ++ padded 2 timestamp.month ++ "-" ++ padded 2 timestamp.day ++ "T" ++
    hourText timestamp.clock ++ ":" ++ padded 2 timestamp.clock.second ++ microText timestamp.clock.micro ++
    offsetText timestamp.offset

end Timestamp

end Reconcile
