import Stencil.Value.Equality
/-!
Sorting by keys that may not be comparable. A sort fails as soon as two of its keys have no order;
otherwise it is stable.
-/

namespace Stencil

def incomparable? (lt? : α → α → Except Fault Bool) : List α → Option Fault
  | [] => none
  | x :: xs =>
      match xs.findSome? fun y =>
        match lt? x y, lt? y x with
        | .error e, _ => some e
        | _, .error e => some e
        | _, _ => none with
      | some e => some e
      | none => incomparable? lt? xs

/-- `a` may stand before `b`: `b` is not the lesser. -/
def notAfter (lt? : α → α → Except Fault Bool) (a b : α) : Bool :=
  match lt? b a with
  | .ok b => !b
  | .error _ => true

/-- Items in the order of their keys, equal keys in the order given. -/
def sortByKey (lt? : κ → κ → Except Fault Bool) (items : List (κ × α)) : Except Fault (List α) :=
  match incomparable? lt? (items.map (·.1)) with
  | some e => .error e
  | none => .ok ((items.mergeSort fun a b => notAfter lt? a.1 b.1).map (·.2))

/-- Items from the greatest key to the least, equal keys in the order given. -/
def sortByKeyDescending (lt? : κ → κ → Except Fault Bool) (items : List (κ × α)) :
    Except Fault (List α) :=
  sortByKey (fun a b => lt? b a) items

def pairLt? (eq : κ → κ → Bool) (lt₁? : κ → κ → Except Fault Bool)
    (lt₂? : μ → μ → Except Fault Bool) (a b : κ × μ) : Except Fault Bool :=
  if eq a.1 b.1 then lt₂? a.2 b.2 else lt₁? a.1 b.1

end Stencil
