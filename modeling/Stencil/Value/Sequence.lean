import Stencil.Value.Equality
/-!
Operations that lists and collections share. A part of a collection is a collection; every other
result is a plain list.
-/

namespace Stencil.Sequence

def isNil : Value → Bool
  | .nil => true
  | _ => false

def isMissing : Value → Bool
  | .nil => true
  | .text s => s.isEmpty
  | _ => false

def compact (items : List Value) : List Value := items.filter (!isMissing ·)

def anyPresent (items : List Value) : Bool := items.any (!isNil ·)

def allPresent (items : List Value) : Bool := items.all (!isNil ·)

def nonePresent (items : List Value) : Bool := items.all isNil

def onePresent (items : List Value) : Bool := items.countP (!isNil ·) == 1

def first (items : List Value) : Value := items.headD .nil

def last (items : List Value) : Value := items.getLastD .nil

def rebuild (like : Value) (items : List Value) : Value :=
  match like with
  | .pages _ => .pages items
  | _ => .list items

/-- `count` elements in an order of no account. -/
def sample (count : Int) (items : List Value) : List Value := items.take count.toNat

end Stencil.Sequence
