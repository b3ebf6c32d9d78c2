import Stencil.Function.Basic
/-!
Functions on numbers. Whole results are integers.
-/

namespace Stencil.Function

def binary (name : String) (f : Number → Number → Except Fault Number) : Function where
  required := ["left", "right"]
  optional := some 0
  run := fun _ args => do
    let left ← (arg args 0).number name
    let right ← (arg args 1).number name
    return .ofNumber (← f left right).tidy

def divide : Function where
  required := ["left", "right"]
  optional := some 0
  run := fun _ args => do
    let divisor ← (arg args 1).number "divide"
    if divisor.isZero then throw (refusal "divide by zero")
    return .ofNumber (← ((← (arg args 0).number "divide").div divisor)).tidy

def modulo : Function where
  required := ["left", "right"]
  optional := some 0
  run := fun _ args => do
    let dividend ← (arg args 0).number "modulo"
    let divisor ← (arg args 1).number "modulo"
    match dividend, divisor with
    | .int a, .int b =>
        if b == 0 then throw (refusal "modulo by zero") else return .int (Number.modulo a b)
    | _, _ => throw (refusal "modulo arguments must be integers")

def round : Function where
  required := ["value"]
  optional := some 1
  run := fun _ args => do
    let places ← (arg args 1 (.int 0)).count 0
    let rounded ← ((← (arg args 0).number "round").round places)
    if places ≤ 0 then return .int (← rounded.truncate) else return .ofNumber rounded

def toInteger (name : String) (f : Number → Except Fault Int) : Function where
  required := ["value"]
  optional := some 0
  run := fun _ args => do return .int (← f (← (arg args 0).number name))

def absolute : Function where
  required := ["value"]
  optional := some 0
  run := fun _ args => do return .ofNumber (← (arg args 0).number "abs").abs

def squareRoot : Function where
  required := ["value"]
  optional := some 0
  run := fun _ args => do
    let n ← (arg args 0).number "sqrt"
    if n.lt (.int 0) then throw (refusal "sqrt of negative number")
    return .ofNumber (← n.sqrt).tidy

def power : Function where
  required := ["base", "exponent"]
  optional := some 0
  run := fun _ args => do
    let base ← (arg args 0).number "pow"
    match ← base.pow (← (arg args 1).number "pow") with
    | .real n => return .ofNumber n.tidy
    | .complex => return .object "complex".toList

/-- The parts of a text or of a list, as texts; any other value is its own part. -/
def spread (v : Value) : Except Fault (List Value) :=
  match v with
  | .text _ | .list _ | .pages _ => do return (← v.items).map Value.text
  | v => pure [v]

/-- All numbers in the arguments; texts and lists hold several. -/
def numbers (name : String) (args : List Value) : Except Fault (List Number) := do
  let flat ← args.mapM spread
  let flat := flat.flatten
  if flat.isEmpty then throw (refusal (name ++ " requires at least 1 argument"))
  flat.mapM (·.number name)

def fold (name : String) (f : List Number → Except Fault Number) : Function where
  required := []
  optional := none
  run := fun _ args => do return .ofNumber (← f (← numbers name args))

/-- The first number that no later one beats. -/
def best (beats : Number → Number → Bool) (ns : List Number) : Number :=
  match ns with
  | [] => .int 0
  | n :: ns => ns.foldl (fun best n => if beats n best then n else best) n

def arithmetic : List (String × Function) :=
  [ ("add", binary "add" Number.add),
    ("subtract", binary "subtract" Number.sub),
    ("multiply", binary "multiply" Number.mul),
    ("divide", divide),
    ("modulo", modulo),
    ("round", round),
    ("ceil", toInteger "ceil" Number.ceil),
    ("floor", toInteger "floor" Number.floor),
    ("abs", absolute),
    ("sqrt", squareRoot),
    ("pow", power),
    ("min", fold "min" fun ns => .ok (best Number.lt ns)),
    ("max", fold "max" fun ns => .ok (best (fun a b => b.lt a) ns)),
    ("sum", fold "sum" fun ns => do return (← ns.foldlM Number.add (.int 0)).tidy) ]

end Stencil.Function
