import Stencil.Calendar.Moment
import Stencil.Fault
import Stencil.Number.Reading
/-!
Moments read from text: a day, alone or followed by a time of day.
-/

namespace Stencil.Moment

private def number (s : Text) : Nat :=
  s.foldl (fun n c => 10 * n + (Text.digitValue? c).getD 0) 0

/-- Exactly four digits of any script. -/
private def year? : Text → Option (Nat × Text)
  | a :: b :: c :: d :: s =>
      if [a, b, c, d].all Text.isDecimal then some (number [a, b, c, d], s) else none
  | _ => none

/-- A field of one or two digits: the first alternative that fits is taken for good. `tens` tells
which leading digits may be followed by which second ones. -/
private def field? (tens : Char → Char → Bool) (ones : Char → Bool) : Text → Option (Nat × Text)
  | a :: b :: s =>
      if tens a b then some (number [a, b], s)
      else if ones a then some (number [a], b :: s)
      else none
  | [a] => if ones a then some (number [a], []) else none
  | [] => none

private def isOneToNine (c : Char) : Bool := 49 ≤ c.toNat && c.toNat ≤ 57

private def month? : Text → Option (Nat × Text) :=
  field? (fun a b => (a == '1' && (b == '0' || b == '1' || b == '2')) || (a == '0' && isOneToNine b))
    isOneToNine

/-- The day of a month may also be a blank-led digit. -/
private def day? : Text → Option (Nat × Text)
  | a :: b :: s =>
      if (a == '3' && (b == '0' || b == '1')) ||
          ((a == '1' || a == '2') && Text.isDecimal b) || (a == '0' && isOneToNine b) then
        some (number [a, b], s)
      else if isOneToNine a then some (number [a], b :: s)
      else if a == ' ' && isOneToNine b then some (number [b], s)
      else none
  | [a] => if isOneToNine a then some (number [a], []) else none
  | [] => none

private def hour? : Text → Option (Nat × Text) :=
  field?
    (fun a b =>
      (a == '2' && (b == '0' || b == '1' || b == '2' || b == '3')) ||
        ((a == '0' || a == '1') && Text.isDecimal b))
    Text.isDecimal

private def minute? : Text → Option (Nat × Text) :=
  field? (fun a b => '0'.toNat ≤ a.toNat && a.toNat ≤ '5'.toNat && Text.isDecimal b) Text.isDecimal

private def second? : Text → Option (Nat × Text) :=
  field?
    (fun a b =>
      (a == '6' && (b == '0' || b == '1')) ||
        ('0'.toNat ≤ a.toNat && a.toNat ≤ '5'.toNat && Text.isDecimal b))
    Text.isDecimal

private def char? (c : Char) : Text → Option Text
  | d :: s => if d == c then some s else none
  | [] => none

private def readDay? (s : Text) : Option (Date × Text) := do
  let (year, s) ← year? s
  let (month, s) ← month? (← char? '-' s)
  let (day, s) ← day? (← char? '-' s)
  some (⟨year, month, day⟩, s)

private def readClock? (s : Text) : Option ((Nat × Nat × Nat) × Text) := do
  let (hour, s) ← hour? s
  let (minute, s) ← minute? (← char? ':' s)
  let (second, s) ← second? (← char? ':' s)
  some ((hour, minute, second), s)

private def valid? (m : Moment) : Option Moment := if m.isValid then some m else none

def ofDayText? (s : Text) : Option Moment := do
  let (date, rest) ← readDay? s
  if rest.isEmpty then valid? (ofDate date) else none

/-- A day and a time of day with `between` recognising and dropping what stands between them. -/
private def ofClockText? (between : Text → Option Text) (s : Text) : Option Moment := do
  let (date, s) ← readDay? s
  let ((hour, minute, second), rest) ← readClock? (← between s)
  if rest.isEmpty then valid? ⟨date, hour, minute, second, 0, none⟩ else none

private def blanks? (s : Text) : Option Text :=
  match s with
  | c :: _ => if Text.isBlank c then some (Text.trimLeft s) else none
  | [] => none

def ofSpacedText? : Text → Option Moment := ofClockText? blanks?

/-- A day, the letter `T` in either case and a time of day. -/
def ofJoinedText? : Text → Option Moment :=
  ofClockText? fun s => (char? 'T' s).orElse fun _ => char? 't' s

/-! No text read here carries an offset. -/

private theorem eq_of_valid? {m n : Moment} (h : valid? m = some n) : n = m := by
  unfold valid? at h
  split at h
  · cases h
    rfl
  · cases h

theorem offset_of_ofDayText? {s : Text} {m : Moment} (h : ofDayText? s = some m) :
    m.offset = none := by
  obtain ⟨⟨date, rest⟩, -, h⟩ := Option.bind_eq_some_iff.mp h
  dsimp only at h
  split at h
  · rw [eq_of_valid? h]
    rfl
  · cases h

private theorem offset_of_ofClockText? {between : Text → Option Text} {s : Text} {m : Moment}
    (h : ofClockText? between s = some m) : m.offset = none := by
  obtain ⟨⟨date, s⟩, -, h⟩ := Option.bind_eq_some_iff.mp h
  obtain ⟨s, -, h⟩ := Option.bind_eq_some_iff.mp h
  obtain ⟨⟨⟨hour, minute, second⟩, rest⟩, -, h⟩ := Option.bind_eq_some_iff.mp h
  dsimp only at h
  split at h
  · rw [eq_of_valid? h]
  · cases h

theorem offset_of_ofSpacedText? {s : Text} {m : Moment} (h : ofSpacedText? s = some m) :
    m.offset = none :=
  offset_of_ofClockText? h

theorem offset_of_ofJoinedText? {s : Text} {m : Moment} (h : ofJoinedText? s = some m) :
    m.offset = none :=
  offset_of_ofClockText? h

/-- The day that a name begins with: three hyphen-separated numbers that form a date. A number
too large for any calendar is an overflow. -/
def ofName (name : Text) : Except Fault (Option Moment) :=
  let parts := (name.splitAt '-').take 3
  if parts.length == 3 && parts.all Text.allDigits then
    match parts.map Text.toInt? with
    | [some year, some month, some day] =>
        if [year, month, day].any (2147483647 < ·) then .error .overflow
        else .ok ((Date.of? year.toNat month.toNat day.toNat).map ofDate)
    | _ => .ok none
  else .ok none

theorem offset_of_ofName {name : Text} {m : Moment} (h : ofName name = .ok (some m)) :
    m.offset = none := by
  unfold ofName at h
  dsimp only at h
  split at h
  · split at h
    · split at h
      · cases h
      · obtain ⟨date, -, rfl⟩ := Option.map_eq_some_iff.mp (Except.ok.inj h)
        rfl
    · cases h
  · cases h

end Stencil.Moment
