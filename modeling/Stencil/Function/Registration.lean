import Stencil.Function.Basic
/-!
Registering in the course of a session. A registry takes an entry together with its name, or hands
out a decorator for the name, which registers whatever it is applied to later on. Calls may stand
anywhere in between.
-/

namespace Stencil.Registry

/-- What can be done with a registry of entries `α` that answers calls `κ`. -/
inductive Step (α κ : Type)
  | register (name : Text) (entry : α)
  | decorator (name : Text)
  /-- Applies the decorator that was handed out at a place. -/
  | decorate (place : Nat) (entry : α)
  | freeze
  | call (asked : κ)

/-- What comes of a step: a registration may be refused, and a call has an answer of its own. -/
inductive Reply (γ : Type)
  | done
  | refused (fault : Fault)
  | gives (answer : γ)

/-- A registry and the decorators it has handed out, each known by its name. -/
structure Session (α : Type) where
  registry : Registry α
  decorators : List Text

namespace Session

def start (kind : String) : Session α := ⟨.empty kind, []⟩

/-- A registration that is refused leaves the session as it is. -/
def register (s : Session α) (name : Text) (entry : α) : Session α × Reply γ :=
  match s.registry.register name entry with
  | .ok registry => ({ s with registry }, .done)
  | .error fault => (s, .refused fault)

/-- One step, with `on` answering the calls. A decorator that was never handed out does nothing. -/
def step (on : Registry α → κ → γ) (s : Session α) : Step α κ → Session α × Reply γ
  | .register name entry => s.register name entry
  | .decorator name => ({ s with decorators := s.decorators ++ [name] }, .done)
  | .decorate place entry =>
      match s.decorators[place]? with
      | some name => s.register name entry
      | none => (s, .done)
  | .freeze => ({ s with registry := s.registry.freeze }, .done)
  | .call asked => (s, .gives (on s.registry asked))

def after (on : Registry α → κ → γ) (s : Session α) (steps : List (Step α κ)) : Session α :=
  steps.foldl (fun s step => (s.step on step).1) s

end Session

end Stencil.Registry
