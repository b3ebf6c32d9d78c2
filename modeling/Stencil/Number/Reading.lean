import Stencil.Number.Dyadic
import Stencil.Text.Word
/-!
Numbers read from text. Digits of any script count; an underscore may stand between two digits.
-/

namespace Stencil

namespace Text

/-- Texts with more digits than this are not converted to or from integers. -/
def maxDigits : Nat := 4300

def isSpace (c : Char) : Bool :=
  let n := c.toNat
  (9 ≤ n && n ≤ 13) || n == 32

/-- Digits and blanks beyond ASCII become their ASCII counterparts; nothing else beyond ASCII may
stand in a number. -/
def plainNumber? (s : Text) : Option Text :=
  (s.mapM fun c : Char =>
    if c.toNat < 127 then some c
    else if isBlank c then some ' '
    else (digitValue? c).map fun n => Char.ofNat (48 + n)).map (strip isSpace)

def digitsOf (s : Text) : Nat :=
  s.foldl (fun n c => 10 * n + (c.toNat - 48)) 0

/-- Drops underscores that stand between digits; nothing when one stands elsewhere. -/
def dropUnderscores? (before : Char) : Text → Option Text
  | [] => if before == '_' then none else some []
  | c :: s =>
      if c == '_' then if isAsciiDigit before then dropUnderscores? c s else none
      else if before == '_' && !isAsciiDigit c then none
      else (dropUnderscores? c s).map (c :: ·)

def splitSign : Text → Bool × Text
  | '-' :: s => (true, s)
  | '+' :: s => (false, s)
  | s => (false, s)

/-- An integer: an optional sign and decimal digits, blanks around it allowed. -/
def toInt? (s : Text) : Option Int := do
  let (negative, body) := splitSign (← plainNumber? s)
  let digits ← dropUnderscores? ' ' body
  if digits.isEmpty || !digits.all isAsciiDigit || maxDigits < digits.length then none
  else some (Dyadic.signed negative (digitsOf digits))

/-- The float nearest to `mantissa · 10 ^ exponent`; infinite beyond the largest float. -/
def floatOfDecimal (negative : Bool) (mantissa : Nat) (exponent : Int) : Float :=
  let size : Int := ((Nat.repr mantissa).length : Int) + exponent
  let infinite : Float := if negative then -(1.0 / 0.0) else 1.0 / 0.0
  if mantissa == 0 || size < -400 then if negative then -0.0 else 0.0
  else if 400 < size then infinite
  else
    (roundRatio? negative (mantissa * Nat.pow 10 exponent.toNat)
      (Nat.pow 10 (-exponent).toNat)).getD infinite

def exponent? : Text → Option Int
  | [] => some 0
  | c :: s =>
      if c == 'e' || c == 'E' then
        let (negative, digits) := splitSign s
        if digits.isEmpty || !digits.all isAsciiDigit then none
        else some (Dyadic.signed negative (digitsOf digits))
      else none

def decimalFloat? (negative : Bool) (s : Text) : Option Float := do
  let whole := s.takeWhile isAsciiDigit
  let (fraction, rest) :=
    match s.dropWhile isAsciiDigit with
    | '.' :: rest => (rest.takeWhile isAsciiDigit, rest.dropWhile isAsciiDigit)
    | rest => ([], rest)
  if whole.isEmpty && fraction.isEmpty then none
  else
    let exponent ← exponent? rest
    some (floatOfDecimal negative (digitsOf (whole ++ fraction)) (exponent - fraction.length))

/-- A float: a decimal number, an infinity or not-a-number, blanks around it allowed. -/
def toFloat? (s : Text) : Option Float := do
  let plain ← plainNumber? s
  let (negative, body) := splitSign (← if plain.any (· == '_') then dropUnderscores? ' ' plain else some plain)
  let lower := body.map Char.toLower
  if lower == "inf".toList || lower == "infinity".toList then
    some (if negative then -(1.0 / 0.0) else 1.0 / 0.0)
  else if lower == "nan".toList then some (0.0 / 0.0)
  else decimalFloat? negative body

def ofInt? (i : Int) : Option Text :=
  let digits := (Nat.repr i.natAbs).toList
  if maxDigits < digits.length then none
  else some (if i < 0 then '-' :: digits else digits)

end Text

end Stencil
