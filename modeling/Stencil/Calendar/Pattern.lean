import Stencil.Calendar.Moment
import Stencil.Text.Case
/-!
Time patterns: `%` directives with optional flags, field width and alternative mark. A directive
that means nothing stands for itself.
-/

namespace Stencil.Pattern

def dayNames : List String :=
  ["Monday", "Tuesday", "Wednesday", "Thursday", "Friday", "Saturday", "Sunday"]

def monthNames : List String :=
  ["January", "February", "March", "April", "May", "June", "July", "August", "September", "October",
    "November", "December"]

def nameAt (names : List String) (i : Nat) : Text := ((names[i]?).getD "").toList

/-- How a field is filled up: by its own habit, or as a flag says. -/
inductive Fill
  | habit
  | none
  | spaces
  | zeros
deriving DecidableEq

/-- What stands between the percent sign and the letter of a directive. -/
structure Marks where
  fill : Fill
  upper : Bool
  swap : Bool
  width : Nat
  alternative : Option Char

/-- A text field is moved right to the width asked for. -/
def Marks.text (marks : Marks) (s : Text) : Text :=
  let s := if marks.upper then Text.toUpper s else s
  List.replicate (marks.width - s.length) (if marks.fill = .zeros then '0' else ' ') ++ s

/-- A number has at least `digits` places, filled with zeros or, when `spaced`, with spaces. -/
def Marks.number (marks : Marks) (spaced : Bool) (digits n : Nat) : Text :=
  let fill := if marks.fill = .habit && spaced then Fill.spaces else marks.fill
  match fill with
  | .none => marks.text (Text.ofNat n)
  | .spaces =>
      let s := Text.ofNat n
      List.replicate (max digits marks.width - s.length) ' ' ++ s
  | _ => Text.padded (max digits marks.width) n

/-- Week of the year when weeks begin on the day `first` (0 is Monday) and days before the first
such day belong to week 0. -/
def weekFrom (first : Nat) (d : Date) : Nat :=
  (d.dayOfYear + 6 - (d.weekday + 7 - first) % 7) / 7

/-- Year and week such that the week with the year's first Thursday is week 1. -/
def isoWeek (d : Date) : Nat × Nat :=
  let week : Int := ((d.dayOfYear : Int) - (d.weekday + 1) + 10) / 7
  let weeksIn (year : Nat) : Int :=
    let start : Date := ⟨year, 1, 1⟩
    if start.weekday == 3 || (start.weekday == 2 && Date.isLeap year) then 53 else 52
  if week < 1 then (d.year - 1, (if d.year = 1 then 52 else weeksIn (d.year - 1)).toNat)
  else if weeksIn d.year < week then (d.year + 1, 1)
  else (d.year, week.toNat)

def hour12 (m : Moment) : Nat := if m.hour % 12 == 0 then 12 else m.hour % 12

def clock (m : Moment) : Text :=
  Text.padded 2 m.hour ++ [':'] ++ Text.padded 2 m.minute ++ [':'] ++ Text.padded 2 m.second

def half (m : Moment) : Text := (if m.hour < 12 then "AM" else "PM").toList

def slashed (d : Date) : Text :=
  Text.padded 2 d.month ++ ['/'] ++ Text.padded 2 d.day ++ ['/'] ++ Text.padded 2 (d.year % 100)

/-- Letters that do not take the mark `E`, `O`, or either. -/
private def refuses (alternative letter : Char) : Bool :=
  if alternative == 'E' then "aAbBhdegGHIjklmMSUVWwDF".toList.elem letter
  else "aADFcxXY".toList.elem letter

def field? (marks : Marks) (m : Moment) (letter : Char) : Option Text :=
  let d := m.date
  let named (s : Text) := some ({ marks with upper := marks.upper || marks.swap }.text s)
  let number (digits n : Nat) := some (marks.number false digits n)
  let spaced (n : Nat) := some (marks.number true 2 n)
  if (marks.alternative.map (refuses · letter)).getD false then none
  else
    match letter with
    | '%' => some (marks.text ['%'])
    | 'a' => named ((nameAt dayNames d.weekday).take 3)
    | 'A' => named (nameAt dayNames d.weekday)
    | 'b' | 'h' => named ((nameAt monthNames (d.month - 1)).take 3)
    | 'B' => named (nameAt monthNames (d.month - 1))
    | 'c' =>
        let day := Text.ofNat d.day
        some (marks.text ((nameAt dayNames d.weekday).take 3 ++ [' '] ++
          (nameAt monthNames (d.month - 1)).take 3 ++ [' '] ++
          List.replicate (2 - day.length) ' ' ++ day ++ [' '] ++ clock m ++ [' '] ++
          Text.ofNat d.year))
    | 'C' => number 1 (d.year / 100)
    | 'd' => number 2 d.day
    | 'D' | 'x' => some (marks.text (slashed d))
    | 'e' => spaced d.day
    | 'F' =>
        some (marks.text (Text.ofNat d.year ++ ['-'] ++ Text.padded 2 d.month ++ ['-'] ++
          Text.padded 2 d.day))
    | 'g' => number 2 ((isoWeek d).1 % 100)
    | 'G' => number 1 (isoWeek d).1
    | 'H' => number 2 m.hour
    | 'I' => number 2 (hour12 m)
    | 'j' => number 3 d.dayOfYear
    | 'k' => spaced m.hour
    | 'l' => spaced (hour12 m)
    | 'm' => number 2 d.month
    | 'M' => number 2 m.minute
    | 'n' => some (marks.text ['\n'])
    | 'p' => some (marks.text (if marks.swap then Text.toLower (half m) else half m))
    | 'P' => some ({ marks with upper := false }.text (Text.toLower (half m)))
    | 'r' =>
        some (marks.text (Text.padded 2 (hour12 m) ++ [':'] ++ Text.padded 2 m.minute ++ [':'] ++
          Text.padded 2 m.second ++ [' '] ++ half m))
    | 'R' => some (marks.text (Text.padded 2 m.hour ++ [':'] ++ Text.padded 2 m.minute))
    | 's' => some (marks.text (Text.ofInt (m.clockSeconds - Moment.epoch.clockSeconds)))
    | 'S' => number 2 m.second
    | 't' => some (marks.text ['\t'])
    | 'T' | 'X' => some (marks.text (clock m))
    | 'u' => number 1 (d.weekday + 1)
    | 'U' => number 2 (weekFrom 6 d)
    | 'V' => number 2 (isoWeek d).2
    | 'w' => number 1 ((d.weekday + 1) % 7)
    | 'W' => number 2 (weekFrom 0 d)
    | 'y' => number 2 (d.year % 100)
    | 'Y' => number 1 d.year
    | 'z' => some []
    | 'Z' => some (if marks.fill = .none then [] else marks.text [])
    | _ => none

private def readFlags (marks : Marks) : Text → Marks × Text
  | '-' :: s => readFlags { marks with fill := .none } s
  | '_' :: s => readFlags { marks with fill := .spaces } s
  | '0' :: s => readFlags { marks with fill := .zeros } s
  | '^' :: s => readFlags { marks with upper := true } s
  | '#' :: s => readFlags { marks with swap := true } s
  | s => (marks, s)

def readMarks (s : Text) : Marks × Text :=
  let (marks, s) := readFlags ⟨.habit, false, false, 0, none⟩ s
  let isDigit (c : Char) : Bool := 48 ≤ c.toNat && c.toNat ≤ 57
  let width := (s.takeWhile isDigit).foldl (fun n c => 10 * n + (c.toNat - 48)) 0
  let marks := { marks with width := width }
  match s.dropWhile isDigit with
  | 'E' :: s => ({ marks with alternative := some 'E' }, s)
  | 'O' :: s => ({ marks with alternative := some 'O' }, s)
  | s => (marks, s)

/-- The directive at the head of a text that follows a percent sign, and how many characters it
takes. A directive without meaning stands for itself, moved right like any field. -/
def directive (m : Moment) (s : Text) : Text × Nat :=
  let (marks, rest) := readMarks s
  let seen := s.length - rest.length
  match rest with
  | [] => (marks.text ('%' :: s), seen)
  | letter :: _ =>
      match field? marks m letter with
      | some text => (text, seen + 1)
      | none => (marks.text ('%' :: s.take (seen + 1)), seen + 1)

/-- Fields that depend on more than the clock come first: microseconds and offset, unmarked. -/
def expandZone (m : Moment) : Text → Text
  | '%' :: 'f' :: s => Text.padded 6 m.micro ++ expandZone m s
  | '%' :: 'z' :: s => ((m.offset.map (Moment.offsetText false)).getD []) ++ expandZone m s
  | '%' :: 'Z' :: s =>
      let name : Text :=
        match m.offset with
        | none => []
        | some 0 => "UTC".toList
        | some n => "UTC".toList ++ Moment.offsetText true n
      name ++ expandZone m s
  | '%' :: c :: s => '%' :: c :: expandZone m s
  | c :: s => c :: expandZone m s
  | [] => []

def expandFrom (m : Moment) : Nat → Text → Text
  | _, [] => []
  | skip + 1, _ :: s => expandFrom m skip s
  | 0, '%' :: s =>
      let (text, taken) := directive m s
      text ++ expandFrom m taken s
  | 0, c :: s => c :: expandFrom m 0 s

def expand (m : Moment) (pattern : Text) : Text :=
  expandFrom m 0 (expandZone m (pattern.takeWhile (· != '\x00')))

def day : Text := "%Y-%m-%d".toList

def longDay : Text := "%B %d, %Y".toList

def clockTime : Text := "%H:%M:%S".toList

def dayAndClock : Text := "%Y-%m-%d %H:%M:%S".toList

def universal : Text := "%Y-%m-%dT%H:%M:%SZ".toList

end Stencil.Pattern
