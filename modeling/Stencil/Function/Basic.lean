import Stencil.Value.Reading
/-!
Template functions and the tables they are registered in. A function declares which parameters it
needs; a call with other arguments is refused before the function runs. A table takes entries until
it is frozen.
-/

namespace Stencil

/-- A function that templates call by name: its required parameters, how many optional ones follow
them (any number when `none`), and what it does at a moment with its arguments. -/
structure Function where
  required : List String
  optional : Option Nat
  run : Moment → List Value → Except Fault Value

def Function.misfit? (required : List String) (optional : Option Nat) (count : Nat) :
    Option Text :=
  match required[count]? with
  | some name => some ("missing a required argument: ".toList ++ Text.quoted name.toList)
  | none =>
      match optional with
      | none => none
      | some n =>
          if required.length + n < count then some "too many positional arguments".toList else none

def Function.refusal (reason : String) : Fault := .badArguments reason.toList

/-- A table of named entries. Once frozen it never changes. -/
structure Registry (α : Type) where
  kind : Text
  entries : List (Text × α)
  frozen : Bool

namespace Registry

def empty (kind : String) : Registry α := ⟨kind.toList, [], false⟩

/-- Puts an entry under a name, in the place of an earlier one of the same name. -/
def register (r : Registry α) (name : Text) (entry : α) : Except Fault (Registry α) :=
  if r.frozen then .error (.frozen r.kind name)
  else if r.entries.any (·.1 == name) then
    .ok { r with entries := r.entries.map fun e => if e.1 == name then (name, entry) else e }
  else .ok { r with entries := r.entries ++ [(name, entry)] }

def freeze (r : Registry α) : Registry α := { r with frozen := true }

def get? (r : Registry α) (name : Text) : Option α := List.lookup name r.entries

def has (r : Registry α) (name : Text) : Bool := (r.get? name).isSome

def size (r : Registry α) : Nat := r.entries.length

def names (r : Registry α) : List Text := (r.entries.map (·.1)).mergeSort Text.le

def ofList (kind : String) (entries : List (String × α)) : Registry α :=
  ⟨kind.toList, entries.map fun (name, entry) => (name.toList, entry), true⟩

theorem mem_of_get? {r : Registry α} {name : Text} {a : α} (h : r.get? name = some a) :
    (name, a) ∈ r.entries := by
  obtain ⟨before, after, heq, -⟩ := List.lookup_eq_some_iff.mp h
  rw [heq]
  exact List.mem_append_right before List.mem_cons_self

theorem mem_of_get?_ofList {kind : String} {entries : List (String × α)} {name : Text} {a : α}
    (h : (Registry.ofList kind entries).get? name = some a) :
    ∃ n, (n, a) ∈ entries ∧ n.toList = name := by
  obtain ⟨⟨n, b⟩, hentry, hpair⟩ := List.mem_map.mp (mem_of_get? h)
  cases hpair
  exact ⟨n, hentry, rfl⟩

end Registry

namespace Function

def arg (args : List Value) (i : Nat) (default : Value := .text []) : Value :=
  (args[i]?).getD default

def onText (f : Text → Value) : Function where
  required := []
  optional := some 1
  run := fun _ args => do return f (← (arg args 0).joined)

def mapText (f : Text → Text) : Function := onText fun s => .text (f s)

def call (functions : Registry Function) (now : Moment) (name : Text) (args : List Value) :
    Except Fault Value :=
  match functions.get? name with
  | none => .error .missingKey
  | some f =>
      match misfit? f.required f.optional args.length with
      | some reason => .error (.badArguments (name ++ ": ".toList ++ reason))
      | none => f.run now args

end Function

end Stencil
