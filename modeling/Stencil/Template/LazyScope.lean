import Stencil.Template.Context
/-!
Scopes that work out a value when it is first asked for, and never again.
-/

namespace Stencil

/-- A scope with values to be worked out, and the names worked out so far. -/
structure LazyScope where
  factories : List (Text × Except Fault Value)
  made : List Text

namespace LazyScope

/-- A scope in which nothing has been worked out; of equal names the last one counts. -/
def ofList (factories : List (Text × Except Fault Value)) : LazyScope :=
  ⟨factories.foldl
    (fun known (name, value) =>
      if known.any (·.1 == name) then
        known.map fun (n, v) => if n == name then (n, value) else (n, v)
      else known ++ [(name, value)]) [], []⟩

def has (scope : LazyScope) (name : Text) : Bool := scope.factories.any (·.1 == name)

def names (scope : LazyScope) : List Text := scope.factories.map (·.1)

def size (scope : LazyScope) : Nat := scope.factories.length

def madeCount (scope : LazyScope) : Nat := scope.made.length

/-- The value of a name, and the scope that remembers it. A value that fails is not remembered. -/
def get (scope : LazyScope) (name : Text) : Except Fault Value × LazyScope :=
  match scope.factories.lookup name with
  | none => (.error .missingKey, scope)
  | some (.error e) => (.error e, scope)
  | some (.ok value) =>
      (.ok value, if scope.made.elem name then scope else { scope with made := name :: scope.made })

end LazyScope

end Stencil
