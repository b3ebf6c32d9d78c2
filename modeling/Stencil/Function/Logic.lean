import Stencil.Function.Basic
/-!
Functions that compare and test, and functions that turn a value into another kind.
-/

namespace Stencil.Function

def compareTexts (test : Text → Text → Bool) : Function where
  required := ["left", "right"]
  optional := some 0
  run := fun _ args => do
    let left ← (arg args 0).joined
    return .bool (test left (← (arg args 1).joined))

def compareAmounts (test : Float → Float → Bool) : Function where
  required := ["left", "right"]
  optional := some 0
  run := fun _ args => .ok (.bool (test (arg args 0).looseFloat (arg args 1).looseFloat))

def contains : Function where
  required := []
  optional := some 2
  run := fun _ args => do
    let haystack := arg args 0
    let needle ← (arg args 1).joined
    if haystack.isSequence then return .bool ((← haystack.items).elem needle)
    else return .bool (Text.contains needle (← haystack.joined))

def startsWith : Function where
  required := []
  optional := some 2
  run := fun _ args => do
    let s ← (arg args 0).joined
    return .bool (Text.startsWith (← (arg args 1).joined) s)

def endsWith : Function where
  required := []
  optional := some 2
  run := fun _ args => do
    let s ← (arg args 0).joined
    return .bool (Text.endsWith (← (arg args 1).joined) s)

def inRange : Function where
  required := ["value", "low", "high"]
  optional := some 0
  run := fun _ args => do
    let low ← (arg args 1).count 0
    let value ← (arg args 0).count 0
    if low ≤ value then return .bool (value ≤ (← (arg args 2).count 0)) else return .bool false

def size (v : Value) : Except Fault Nat :=
  match v.sequence? with
  | some items => .ok items.length
  | none => do return (← v.joined).length

def ofValue (f : Value → Except Fault Value) : Function where
  required := ["value"]
  optional := some 0
  run := fun _ args => f (arg args 0)

def array : Function where
  required := []
  optional := none
  run := fun _ args => do return .text (Text.join [','] (← Value.joinedAll args))

def testAll (test : List Bool → Bool) : Function where
  required := []
  optional := none
  run := fun _ args => .ok (.bool (test (args.map Value.flag)))

def negation : Function where
  required := []
  optional := some 1
  run := fun _ args => .ok (.bool !(arg args 0).flag)

def logic : List (String × Function) :=
  [ ("eq", compareTexts (· == ·)),
    ("ne", compareTexts (· != ·)),
    ("gt", compareAmounts fun a b => b < a),
    ("lt", compareAmounts fun a b => a < b),
    ("gte", compareAmounts fun a b => b ≤ a),
    ("lte", compareAmounts fun a b => a ≤ b),
    ("and", testAll fun flags => flags.all id),
    ("or", testAll fun flags => flags.any id),
    ("not", negation),
    ("contains", contains),
    ("starts_with", startsWith),
    ("ends_with", endsWith),
    ("in_range", inRange),
    ("int", ofValue fun v => do return .int (← (← v.number "int").truncate)),
    ("float", ofValue fun v => do return .float (← (← v.number "float").toFloat)),
    ("bool", ofValue fun v => .ok (.bool v.flag)),
    ("array", array),
    ("size", ofValue fun v => do return .int (← size v)),
    ("empty", ofValue fun v => do return .bool ((← size v) == 0)),
    ("blank", ofValue fun v => do return .bool (Text.trim (← v.joined)).isEmpty) ]

end Stencil.Function
