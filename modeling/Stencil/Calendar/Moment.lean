import Stencil.Number.Shortest
/-!
Calendar dates and moments of the Gregorian calendar, years 1 to 9999. A moment may carry its offset
from universal time; one without an offset is read as universal time wherever an instant is needed.
-/

namespace Stencil

structure Date where
  year : Nat
  month : Nat
  day : Nat
deriving DecidableEq, Repr

/-- A date with a time of day; `offset` is in seconds east of universal time. -/
structure Moment where
  date : Date
  hour : Nat
  minute : Nat
  second : Nat
  micro : Nat
  offset : Option Int
deriving DecidableEq, Repr

namespace Date

def isLeap (year : Nat) : Bool := year % 4 == 0 && (year % 100 != 0 || year % 400 == 0)

def daysInMonth (year month : Nat) : Nat :=
  if month == 2 then if isLeap year then 29 else 28
  else if month == 4 || month == 6 || month == 9 || month == 11 then 30
  else 31

def isValid (d : Date) : Bool :=
  1 ≤ d.year && d.year ≤ 9999 && 1 ≤ d.month && d.month ≤ 12 && 1 ≤ d.day &&
    d.day ≤ daysInMonth d.year d.month

def of? (year month day : Nat) : Option Date :=
  let d : Date := ⟨year, month, day⟩
  if d.isValid then some d else none

/-- Days before the first of January of a year, counted from the year 1. -/
def daysBeforeYear (year : Nat) : Nat :=
  let y := year - 1
  y * 365 + y / 4 - y / 100 + y / 400

/-- Day of the year, from 1. -/
def dayOfYear (d : Date) : Nat :=
  (List.range (d.month - 1)).foldl (fun days m => days + daysInMonth d.year (m + 1)) d.day

/-- Days since the eve of the year 1. -/
def ordinal (d : Date) : Nat := daysBeforeYear d.year + d.dayOfYear

/-- The month and day that are `n` days after the first of month `month`. -/
private def monthAndDay (year : Nat) : Nat → Nat → Nat → Nat × Nat
  | 0, month, n => (month, n + 1)
  | more + 1, month, n =>
      if n < daysInMonth year month then (month, n + 1)
      else monthAndDay year more (month + 1) (n - daysInMonth year month)

/-- The date with an ordinal: a cycle of the calendar is 400 years, a century of it 36524 days unless
it is the last one, and four years are 1461 days. -/
def ofOrdinal (n : Nat) : Date :=
  let n := n - 1
  let inCycle := n % 146097
  let century := min 3 (inCycle / 36524)
  let inCentury := inCycle - century * 36524
  let inFour := inCentury % 1461
  let single := min 3 (inFour / 365)
  let year := n / 146097 * 400 + century * 100 + inCentury / 1461 * 4 + single + 1
  let (month, day) := monthAndDay year 11 1 (inFour - single * 365)
  ⟨year, month, day⟩

/-- Day of the week, from Monday as 0. -/
def weekday (d : Date) : Nat := (d.ordinal + 6) % 7

def lt (a b : Date) : Bool := a.ordinal < b.ordinal

def isoText (d : Date) : Text :=
  Text.padded 4 d.year ++ ['-'] ++ Text.padded 2 d.month ++ ['-'] ++ Text.padded 2 d.day

end Date

namespace Moment

def ofDate (d : Date) : Moment := ⟨d, 0, 0, 0, 0, none⟩

/-- The first moment of 1970, which stands in for a missing date. -/
def epoch : Moment := ofDate ⟨1970, 1, 1⟩

/-- Seconds of the local clock since the eve of the year 1. -/
def clockSeconds (m : Moment) : Int :=
  (m.date.ordinal : Int) * 86400 + m.hour * 3600 + m.minute * 60 + m.second

/-- Microseconds since the eve of the year 1, universal time. -/
def instant (m : Moment) : Int :=
  (m.clockSeconds - m.offset.getD 0) * 1000000 + m.micro

/-- The moment some seconds and microseconds after the beginning of 1970, universal time. -/
def ofUnix (seconds micro : Nat) : Moment :=
  ⟨Date.ofOrdinal (epoch.date.ordinal + seconds / 86400), seconds / 3600 % 24, seconds / 60 % 60,
    seconds % 60, micro, none⟩

def isValid (m : Moment) : Bool :=
  m.date.isValid && m.hour < 24 && m.minute < 60 && m.second < 60 && m.micro < 1000000 &&
    (m.offset.getD 0).natAbs < 86400

/-- An offset as `+05:30`, with seconds only when there are any. -/
def offsetText (colon : Bool) (seconds : Int) : Text :=
  let n := seconds.natAbs
  let sep : Text := if colon then [':'] else []
  (if seconds < 0 then '-' else '+') :: Text.padded 2 (n / 3600) ++ sep ++
    Text.padded 2 (n / 60 % 60) ++ (if n % 60 == 0 then [] else sep ++ Text.padded 2 (n % 60))

/-- Date and time with `sep` between them; microseconds and offset only when there are any. -/
def isoText (sep : Char) (m : Moment) : Text :=
  m.date.isoText ++ [sep] ++ Text.padded 2 m.hour ++ [':'] ++ Text.padded 2 m.minute ++ [':'] ++
    Text.padded 2 m.second ++ (if m.micro == 0 then [] else '.' :: Text.padded 6 m.micro) ++
    ((m.offset.map (offsetText true)).getD [])

/-- Moments compare by instant when both or neither carry an offset, and not at all otherwise. -/
def compare? (a b : Moment) : Option Ordering :=
  if a.offset.isSome == b.offset.isSome then some (compare a.instant b.instant) else none

/-- Equal instants are equal; a moment with an offset never equals one without. -/
def sameAs (a b : Moment) : Bool := compare? a b == some .eq

/-- Seconds since 1970 in universal time, fractions dropped toward zero. A moment without an offset
must lie at least a day after the beginning of the year 1. -/
def unixSeconds? (m : Moment) : Option Int :=
  if m.offset.isNone && m.date == ⟨1, 1, 1⟩ then none
  else
    let micros := m.instant - epoch.instant
    match m.offset with
    | some _ =>
        (roundRatio? (micros < 0) micros.natAbs 1000000).bind fun f =>
          (Dyadic.ofFloat? f).map Dyadic.truncate
    | none =>
        let seconds := Float.ofInt (m.clockSeconds - epoch.clockSeconds)
        (Dyadic.ofFloat? (seconds + Float.ofNat m.micro / 1000000.0)).map Dyadic.truncate

end Moment

end Stencil
