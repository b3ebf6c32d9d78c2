import Stencil.Number.Dyadic
import Stencil.Text.Basic
/-!
The written form of floats: the fewest digits that read back as the same number, and of those the
nearest to it.
-/

namespace Stencil

structure Decimal where
  digits : Nat
  exponent : Int
deriving DecidableEq, Repr

namespace Shortest

/-- A finite positive float with its rounding interval, in quarters of the last mantissa bit. -/
structure Target where
  mantissa : Nat
  exponent : Int

namespace Target

/-- Lower end of the interval; it is nearer where the exponent changes. -/
def low (t : Target) : Nat :=
  4 * t.mantissa - (if t.mantissa == Nat.pow 2 52 && t.exponent != -1074 then 1 else 2)

def high (t : Target) : Nat := 4 * t.mantissa + 2

/-- Factors `(a, b)` with `c · 10 ^ x` against `q` quarters decided by `c · a` against `q · b`. -/
def scale (t : Target) (x : Int) : Nat × Nat :=
  let e := t.exponent - 2
  (Nat.pow 10 x.toNat * Nat.pow 2 (-e).toNat, Nat.pow 10 (-x).toNat * Nat.pow 2 e.toNat)

/-- Whether `c · 10 ^ x` reads back as the number; the ends count when the mantissa is even. -/
def admits (t : Target) (x : Int) (c : Nat) : Bool :=
  let (a, b) := t.scale x
  let even := t.mantissa % 2 == 0
  (t.low * b < c * a || (even && t.low * b == c * a)) &&
    (c * a < t.high * b || (even && c * a == t.high * b))

/-- The exponent of the first digit: the number lies in `[10 ^ k, 10 ^ (k + 1))`. -/
def leading (t : Target) : Int :=
  let scaled :=
    t.mantissa * Nat.pow 10 350 * Nat.pow 2 t.exponent.toNat / Nat.pow 2 (-t.exponent).toNat
  ((Nat.repr scaled).length : Int) - 351

/-- The decimal with `count` digits that reads back and is nearest, if any. -/
def candidate? (t : Target) (count : Nat) : Option Decimal :=
  let x := t.leading + 1 - count
  let (a, b) := t.scale x
  let value := 4 * t.mantissa * b
  let below := value / a
  let above := below + 1
  match t.admits x below, t.admits x above with
  | true, true =>
      let down := value - below * a
      let up := above * a - value
      if down < up || (down == up && below % 2 == 0) then some ⟨below, x⟩ else some ⟨above, x⟩
  | true, false => some ⟨below, x⟩
  | false, true => some ⟨above, x⟩
  | false, false => none

/-- Seventeen digits always suffice. -/
def decimal (t : Target) : Decimal :=
  ((List.range 17).findSome? fun i => t.candidate? (i + 1)).getD ⟨t.mantissa, t.exponent⟩

end Target

end Shortest

namespace Text

def ofNat (n : Nat) : Text := (Nat.repr n).toList

def ofInt (i : Int) : Text := if i < 0 then '-' :: ofNat i.natAbs else ofNat i.natAbs

def padded (width n : Nat) : Text :=
  let digits := ofNat n
  List.replicate (width - digits.length) '0' ++ digits

/-- A positive decimal: positional from 0.0001 up to sixteen digits before the point, otherwise with
an exponent of at least two digits. -/
def ofDecimal (d : Decimal) : Text :=
  let digits := dropWhileEnd (· == '0') (ofNat d.digits)
  let point : Int := d.exponent + ((ofNat d.digits).length : Int)
  if -4 < point && point ≤ 16 then
    if point ≤ 0 then "0.".toList ++ List.replicate (-point).toNat '0' ++ digits
    else
      let whole := digits.take point.toNat
      let fraction := digits.drop point.toNat
      whole ++ List.replicate (point.toNat - whole.length) '0' ++ ['.'] ++
        (if fraction.isEmpty then ['0'] else fraction)
  else
    let exponent := point - 1
    let mantissa :=
      match digits with
      | [] => ['0']
      | [c] => [c]
      | c :: rest => c :: '.' :: rest
    mantissa ++ ['e', if exponent < 0 then '-' else '+'] ++ padded 2 exponent.natAbs

def ofFloat (f : Float) : Text :=
  match Dyadic.ofFloat? f with
  | none =>
      if f.isNaN then "nan".toList else if f > 0 then "inf".toList else "-inf".toList
  | some d =>
      let body :=
        if d.mantissa == 0 then "0.0".toList
        else ofDecimal (Shortest.Target.decimal ⟨d.mantissa, d.exponent⟩)
      if d.negative then '-' :: body else body

end Text

end Stencil
