import Stencil.Site.Collection
/-!
Collections that remember. One that was sorted newest first keeps the sorted collection and answers
with it from then on, so that a collection can be had from several others: all of them lie in one
store.
-/

namespace Stencil.Collection

/-- A collection in a store, and where its pages newest first lie once they have been sorted. -/
structure Entry where
  items : List Value
  newestFirst? : Option Nat

/-- All the collections there are. One is known by its place among them. -/
abbrev Store := List Entry

/-- A computation that may put collections in a store; one that fails leaves the store alone. -/
abbrev Storing := StateT Store (Except Fault)

namespace Store

def ofItems (items : List Value) : Store := [⟨items, none⟩]

def items (store : Store) (place : Nat) : List Value :=
  ((store[place]?).map (·.items)).getD []

def newestFirst? (store : Store) (place : Nat) : Option Nat :=
  (store[place]?).bind (·.newestFirst?)

def remember (store : Store) (place made : Nat) : Store :=
  store.modify place fun entry => { entry with newestFirst? := some made }

end Store

namespace Storing

def make (items : List Value) : Storing Nat := do
  let store ← get
  set (store ++ [⟨items, none⟩])
  return store.length

def derive (f : List Value → Except Fault (List Value)) (place : Nat) : Storing Nat := do
  make (← f ((← get).items place))

/-- The collection sorted. Newest first it is sorted once; oldest first, every time. -/
def sorted (place : Nat) (newestFirst : Bool := true) : Storing Nat := do
  match (← get).newestFirst? place, newestFirst with
  | some kept, true => return kept
  | _, true =>
      let made ← derive (Collection.sorted · true) place
      modify (·.remember place made)
      return made
  | _, false => derive (Collection.sorted · false) place

/-- The newest regular pages. They are picked out first, so nothing is remembered of the collection
itself. -/
def latest (count : Int) (place : Nat) : Storing Nat := do
  let singles ← derive regular place
  let newest ← sorted singles
  derive (slice · none (some (max count 0)) none) newest

end Storing

end Stencil.Collection
