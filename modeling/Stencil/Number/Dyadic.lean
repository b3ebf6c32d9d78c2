/-!
Floating-point numbers as exact fractions. `Dyadic.ofFloat?` reads a finite number as
`± mantissa · 2 ^ exponent`, and `roundRatio?` goes back: it gives the float nearest to a fraction,
ties to the even mantissa. Conversions and comparisons between integers and floats rest on the two.
-/

namespace Stencil

/-- A fraction whose denominator is a power of two. -/
structure Dyadic where
  negative : Bool
  mantissa : Nat
  exponent : Int

namespace Dyadic

def ofFloat? (f : Float) : Option Dyadic :=
  let bits : Nat := f.toBits.toNat
  let fraction : Nat := bits % Nat.pow 2 52
  let biased : Nat := bits / Nat.pow 2 52 % Nat.pow 2 11
  let negative := Nat.pow 2 63 ≤ bits
  if biased == 2047 then none
  else if biased == 0 then some ⟨negative, fraction, -1074⟩
  else some ⟨negative, fraction + Nat.pow 2 52, (biased : Int) - 1075⟩

def num (d : Dyadic) : Nat := d.mantissa * Nat.pow 2 d.exponent.toNat

def den (d : Dyadic) : Nat := Nat.pow 2 (-d.exponent).toNat

def signed (negative : Bool) (n : Nat) : Int := if negative then -(n : Int) else n

def signedNum (d : Dyadic) : Int := signed d.negative d.num

/-- The integer part, toward zero. -/
def truncate (d : Dyadic) : Int := signed d.negative (d.num / d.den)

def floor (d : Dyadic) : Int := d.signedNum.fdiv d.den

def ceil (d : Dyadic) : Int := -((-d.signedNum).fdiv d.den)

def isInteger (d : Dyadic) : Bool := d.num % d.den == 0

end Dyadic

/-- The quotient rounded to the nearest natural number, a half to the even neighbour. -/
def roundHalfEven (num den : Nat) : Nat :=
  let q := num / den
  let r := num % den
  if 2 * r < den then q
  else if den < 2 * r then q + 1
  else if q % 2 == 0 then q else q + 1

/-- The float nearest to `num / den`, or nothing when it lies beyond the largest float. -/
def roundRatio? (negative : Bool) (num den : Nat) : Option Float :=
  if num == 0 then some (if negative then -0.0 else 0.0)
  else
    -- `shift` brings the quotient to 54 or 55 bits; `unit` is the weight of the last bit kept
    let shift : Int := 54 - ((num.log2 : Int) - (den.log2 : Int))
    let bits := ((num * Nat.pow 2 shift.toNat) / (den * Nat.pow 2 (-shift).toNat)).log2 + 1
    let unit : Int := max ((bits : Int) - 53 - shift) (-1074)
    let significand := roundHalfEven (num * Nat.pow 2 (-unit).toNat) (den * Nat.pow 2 unit.toNat)
    let pattern := significand + (unit + 1074).toNat * Nat.pow 2 52
    if 2047 * Nat.pow 2 52 ≤ pattern then none
    else
      let f := Float.ofBits (UInt64.ofNat pattern)
      some (if negative then -f else f)

def floatOfInt? (i : Int) : Option Float := roundRatio? (i < 0) i.natAbs 1

def floatIsInteger (f : Float) : Bool :=
  match Dyadic.ofFloat? f with
  | some d => d.isInteger
  | none => false

/-- Three-way comparison of an integer with a float, exact; nothing when the float is not a
number. -/
def compareIntFloat? (i : Int) (f : Float) : Option Ordering :=
  match Dyadic.ofFloat? f with
  | some d => some (compare (i * d.den) d.signedNum)
  | none => if f.isNaN then none else some (if f > 0 then .lt else .gt)

end Stencil
