import Stencil.Value.Basic
import Stencil.Yaml.Line
/-!
Timestamps: a day, or a day with a time of day and perhaps an offset from universal time.
-/

namespace Stencil.Yaml

structure Timestamp where
  year : Nat
  month : Nat
  day : Nat
  /-- Hour, minute, second and microsecond, and the offset in seconds. -/
  clock? : Option ((Nat × Nat × Nat × Nat) × Option Int)
  isPadded : Bool

namespace Timestamp

def isDigit (c : Char) : Bool := '0' ≤ c && c ≤ '9'

def value (s : Text) : Nat := s.foldl (fun n c => 10 * n + (c.toNat - 48)) 0

def digits? (least most : Nat) (s : Text) : Option (Text × Text) :=
  let run := (s.takeWhile isDigit).take most
  if least ≤ run.length then some (run, s.drop run.length) else none

def char? (c : Char) : Text → Option Text
  | d :: s => if c == d then some s else none
  | [] => none

/-- Six digits of a fraction of a second. -/
def micro (digits : Text) : Nat :=
  value ((digits.take 6) ++ List.replicate (6 - digits.length) '0')

def fraction (s : Text) : Nat × Text :=
  match s with
  | '.' :: s => (micro (s.takeWhile isDigit), s.dropWhile isDigit)
  | s => (0, s)

/-- An offset such as `Z` or `+05:30`, with nothing behind it; none where the text ends. -/
def offset? (s : Text) : Option (Option Int) :=
  if s.isEmpty then some none
  else
    match s.dropWhile isSpaceOrTab with
    | ['Z'] => some (some 0)
    | sign :: s => do
        if sign != '+' && sign != '-' then none
        else
          let (hours, s) ← digits? 1 2 s
          let minutes ←
            match s with
            | [] => some []
            | ':' :: s => do
                let (minutes, s) ← digits? 2 2 s
                if s.isEmpty then some minutes else none
            | _ => none
          let seconds : Int := value hours * 3600 + value minutes * 60
          some (some (if sign == '-' then -seconds else seconds))
    | [] => none

def between? (s : Text) : Option Text :=
  match s with
  | 'T' :: s => some s
  | 't' :: s => some s
  | s => if s.head?.any isSpaceOrTab then some (s.dropWhile isSpaceOrTab) else none

def withoutFeed (s : Text) : Text := if s.getLast? == some '\n' then s.dropLast else s

def ofText? (s : Text) : Option Timestamp := do
  let (year, s) ← digits? 4 4 (withoutFeed s)
  let (month, s) ← digits? 1 2 (← char? '-' s)
  let (day, s) ← digits? 1 2 (← char? '-' s)
  let padded := month.length == 2 && day.length == 2
  if s.isEmpty then some ⟨value year, value month, value day, none, padded⟩
  else
    let (hour, s) ← digits? 1 2 (← between? s)
    let (minute, s) ← digits? 2 2 (← char? ':' s)
    let (second, s) ← digits? 2 2 (← char? ':' s)
    let (micro, s) := fraction s
    let offset ← offset? s
    some ⟨value year, value month, value day,
      some ((value hour, value minute, value second, micro), offset), padded⟩

/-- Whether untagged text of this form is a timestamp: a bare day must be written in full. -/
def isImplicit (t : Timestamp) : Bool := t.clock?.isSome || t.isPadded

/-- The day or moment, which must exist. -/
def toValue (t : Timestamp) : Except Fault Value :=
  let date : Date := ⟨t.year, t.month, t.day⟩
  match t.clock? with
  | none => if date.isValid then .ok (.date date) else .error .outOfDomain
  | some ((hour, minute, second, micro), offset) =>
      let m : Moment := ⟨date, hour, minute, second, micro, offset⟩
      if m.isValid then .ok (.moment m) else .error .outOfDomain

end Timestamp

end Stencil.Yaml
