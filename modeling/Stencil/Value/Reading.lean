import Stencil.Value.Text
/-!
Values read as something else: as a whole number, as a number, as a flag, as one text or as a list
of texts. Template functions take their arguments this way.
-/

namespace Stencil

namespace Value

/-- The whole number that a value stands for. A value that has none is nothing, and an infinite
amount is a failure. -/
def wholeNumber? : Value → Except Fault (Option Int)
  | .text s => .ok (Text.toInt? s)
  | .bool b => .ok (some (if b then 1 else 0))
  | .int i => .ok (some i)
  | .float f =>
      match (Number.float f).truncate with
      | .ok i => .ok (some i)
      | .error .outOfDomain => .ok none
      | .error e => .error e
  | _ => .ok none

def count (default : Int) (v : Value) : Except Fault Int := do
  return (← v.wholeNumber?).getD default

def ofNumber : Number → Value
  | .int i => .int i
  | .float f => .float f

end Value

mutual

/-- A value as one text: lists are the texts of their elements with commas between. -/
def Value.joined : Value → Except Fault Text
  | .list items => do return Text.join [','] (← Value.joinedAll items)
  | .pages items => do return Text.join [','] (← Value.joinedAll items)
  | v => v.format

def Value.joinedAll : List Value → Except Fault (List Text)
  | [] => .ok []
  | v :: vs => do return (← v.joined) :: (← Value.joinedAll vs)

end

namespace Value

theorem joined_of_sequence?_eq_none {v : Value} (h : v.sequence? = none) : v.joined = v.format := by
  cases v with
  | list items => cases h
  | pages items => cases h
  | _ => rw [joined] <;> intro items heq <;> cases heq

/-- A value as a list of texts: the elements of a list, or the parts of a text between commas. The
empty text has no parts. -/
def items (v : Value) : Except Fault (List Text) :=
  match v.sequence? with
  | some vs => joinedAll vs
  | none => do
      let s ← v.joined
      return if s.isEmpty then [] else s.splitAt ','

/-- A value as a number: numbers as they are and texts that read as one. Booleans are refused. -/
def number (caller : String) (v : Value) : Except Fault Number :=
  let refuse : Except Fault Number :=
    .error (.badArguments (caller.toList ++ " arguments must be numeric".toList))
  match v with
  | .bool _ => refuse
  | .int i => .ok (.int i)
  | .float f => .ok (.float f)
  | v => do
      let s := Text.trim (← v.joined)
      match Text.toInt? s with
      | some i => return .int i
      | none =>
          match Text.toFloat? s with
          | some f => return .float f
          | none => refuse

/-- A value as a float for comparisons; what does not read as a number counts as zero. -/
def looseFloat (v : Value) : Float :=
  match v.joined with
  | .ok s => (Text.toFloat? s).getD 0.0
  | .error _ => 0.0

/-- Texts that say no are false: blank ones, `false` and `0`. Other values go by their truth. -/
def flag : Value → Bool
  | .text s =>
      let s := Text.toLower (Text.trim s)
      !(s.isEmpty || s == "false".toList || s == ['0'])
  | v => v.truthy

end Value

end Stencil
