import Stencil.Calendar.Reading
import Stencil.Function.Basic
/-!
Functions on moments. Where no moment is given they speak of the present one.
-/

namespace Stencil.Function

/-- Writes a moment by a pattern; the first argument may be the moment, the next one the pattern. -/
def written (pattern : Text) : Function where
  required := []
  optional := none
  run := fun now args => do
    let (moment, rest) :=
      match args with
      | .moment m :: rest => (m, rest)
      | .date d :: rest => (Moment.ofDate d, rest)
      | rest => (now, rest)
    let given ←
      match rest with
      | v :: _ => v.joined
      | [] => pure []
    return .text (Pattern.expand moment (if given.isEmpty then pattern else given))

def present (f : Moment → Value) : Function where
  required := []
  optional := some 0
  run := fun now _ => .ok (f now)

def ofValue? : Value → Except Fault (Option Moment)
  | .moment m => .ok (some m)
  | .date d => .ok (some (.ofDate d))
  | v => do
      let s := Text.trim (← v.joined)
      return (Moment.ofSpacedText? s).orElse fun _ => Moment.ofDayText? s

def ago (amount : Int) (unit : String) : Value :=
  .text (Text.ofInt amount ++ [' '] ++ unit.toList ++ (if amount == 1 then [] else ['s']) ++
    " ago".toList)

def floorDiv (x : Float) (n : Nat) : Int :=
  match Dyadic.ofFloat? x with
  | some d => d.signedNum.fdiv (d.den * n)
  | none => 0

/-- How long ago a moment was, in the largest unit that fits. -/
def elapsed (now moment : Moment) : Value :=
  let micros := now.instant - moment.instant
  let seconds := (roundRatio? (micros < 0) micros.natAbs 1000000).getD 0.0
  let days := seconds / 86400.0
  if 365.0 ≤ days then ago (floorDiv days 365) "year"
  else if 30.0 ≤ days then ago (floorDiv days 30) "month"
  else if 1.0 ≤ days then ago (floorDiv days 1) "day"
  else if 3600.0 ≤ seconds then ago (floorDiv seconds 3600) "hour"
  else if 60.0 ≤ seconds then ago (floorDiv seconds 60) "minute"
  else .ofString "Just now"

def timeAgo : Function where
  required := []
  optional := some 1
  run := fun now args => do
    match ← ofValue? (arg args 0) with
    | some m => return elapsed now m
    | none => return .ofString "Invalid date"

def times : List (String × Function) :=
  [ ("now", present fun now => .text (Pattern.expand now Pattern.dayAndClock)),
    ("date", written Pattern.day),
    ("time", written Pattern.clockTime),
    ("datetime", written Pattern.dayAndClock),
    ("timestamp", present fun now => .int ((now.instant - Moment.epoch.instant).tdiv 1000000)),
    ("rfc3339", present fun now => .text (Pattern.expand now Pattern.universal)),
    ("iso8601", present fun now => .text (Pattern.expand now Pattern.universal)),
    ("time_ago", timeAgo) ]

end Stencil.Function
