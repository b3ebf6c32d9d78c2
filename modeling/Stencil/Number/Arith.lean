import Stencil.Fault
import Stencil.Number.Dyadic
import Stencil.Number.Reading
/-!
Arithmetic on integers and floats mixed. Integers stay exact; where one operand is a float the other
is converted first, and a conversion or result beyond the floats is an overflow.
-/

namespace Stencil

inductive Number
  | int (i : Int)
  | float (f : Float)

/-- The result of a power with a negative base and a fractional exponent is no real number. -/
inductive Power
  | real (n : Number)
  | complex

namespace Number

def toFloat : Number → Except Fault Float
  | .float f => .ok f
  | .int i =>
      match floatOfInt? i with
      | some f => .ok f
      | none => .error .overflow

def isZero : Number → Bool
  | .int i => i == 0
  | .float f => f == 0

def combine (onInts : Int → Int → Int) (onFloats : Float → Float → Float) :
    Number → Number → Except Fault Number
  | .int a, .int b => .ok (.int (onInts a b))
  | a, b => do
      let x ← a.toFloat
      let y ← b.toFloat
      return .float (onFloats x y)

def add : Number → Number → Except Fault Number := combine (· + ·) (· + ·)

def sub : Number → Number → Except Fault Number := combine (· - ·) (· - ·)

def mul : Number → Number → Except Fault Number := combine (· * ·) (· * ·)

/-- The quotient as a float; of two integers it is the float nearest to the exact quotient. -/
def div : Number → Number → Except Fault Number
  | .int a, .int b =>
      if b == 0 then .error .zeroDivision
      else
        match roundRatio? ((a < 0) != (b < 0)) a.natAbs b.natAbs with
        | some f => .ok (.float f)
        | none => .error .overflow
  | a, b => do
      let x ← a.toFloat
      let y ← b.toFloat
      if b.isZero then throw .zeroDivision
      return .float (x / y)

/-- Whole floats become integers. -/
def tidy : Number → Number
  | .float f =>
      match Dyadic.ofFloat? f with
      | some d => if d.isInteger then .int d.truncate else .float f
      | none => .float f
  | n => n

/-- Rounds a float to an integer with `pick`; infinities overflow and not-a-number has no value. -/
def toIntWith (pick : Dyadic → Int) : Number → Except Fault Int
  | .int i => .ok i
  | .float f =>
      match Dyadic.ofFloat? f with
      | some d => .ok (pick d)
      | none => .error (if f.isNaN then .outOfDomain else .overflow)

def truncate : Number → Except Fault Int := toIntWith Dyadic.truncate

def floor : Number → Except Fault Int := toIntWith Dyadic.floor

def ceil : Number → Except Fault Int := toIntWith Dyadic.ceil

def abs : Number → Number
  | .int i => .int i.natAbs
  | .float f => .float f.abs

/-- Comparison of the exact values; nothing when one of them is not a number. -/
def compare? : Number → Number → Option Ordering
  | .int a, .int b => some (compare a b)
  | .int a, .float b => compareIntFloat? a b
  | .float a, .int b => (compareIntFloat? b a).map Ordering.swap
  | .float a, .float b =>
      if a < b then some .lt else if a == b then some .eq else if b < a then some .gt else none

def lt (a b : Number) : Bool := compare? a b == some .lt

def eq (a b : Number) : Bool := compare? a b == some .eq

/-- Rounds to `places` decimal places, a half to the even digit; negative places round to tens,
hundreds and so on. -/
def round (places : Int) : Number → Except Fault Number
  | .int i =>
      if 0 ≤ places then .ok (.int i)
      else
        let digits : Int := (Nat.repr i.natAbs).length
        if digits < -places then .ok (.int 0)
        else
          let unit := Nat.pow 10 (-places).toNat
          .ok (.int (Dyadic.signed (i < 0) (roundHalfEven i.natAbs unit * unit)))
  | .float f =>
      match Dyadic.ofFloat? f with
      | none => .ok (.float f)
      | some d =>
          if 323 < places then .ok (.float f)
          else if places < -308 then .ok (.float (if d.negative then -0.0 else 0.0))
          else
            let up := Nat.pow 10 places.toNat
            let down := Nat.pow 10 (-places).toNat
            let scaled := roundHalfEven (d.num * up) (d.den * down)
            match roundRatio? d.negative (scaled * down) up with
            | some r => .ok (.float r)
            | none => .error .overflow

/-- The power of floats; an infinite result of finite operands is an overflow. -/
def powFloat (base exponent : Float) : Except Fault Power :=
  let result := Float.pow base exponent
  if base.isNaN || exponent.isNaN || base.isInf || exponent.isInf then .ok (.real (.float result))
  else if base == 0 && exponent < 0 then .error .zeroDivision
  else if base < 0 && !floatIsInteger exponent then
    if (Float.pow (-base) exponent).isInf then .error .overflow else .ok .complex
  else if result.isInf then .error .overflow
  else .ok (.real (.float result))

def pow : Number → Number → Except Fault Power
  | .int a, .int b =>
      if 0 ≤ b then .ok (.real (.int (Int.pow a b.toNat)))
      else do powFloat (← (Number.int a).toFloat) (← (Number.int b).toFloat)
  | a, b => do powFloat (← a.toFloat) (← b.toFloat)

def sqrt (n : Number) : Except Fault Number := do
  return .float (← n.toFloat).sqrt

/-- Remainder with the sign of the divisor. -/
def modulo (a b : Int) : Int := a.fmod b

end Number

end Stencil
