import Stencil.Value.Basic
/-!
Evaluation with notes: every step may leave a note for the log, and the notes of a failed evaluation
are kept.
-/

namespace Stencil

inductive Level
  | debug
  | warning
deriving DecidableEq, Repr

/-- A record for the log: how grave it is, the part of the program it comes from, and its text. -/
structure Note where
  level : Level
  source : Text
  message : Text
deriving DecidableEq, Repr

/-- A computation that may fail and leaves notes either way. -/
abbrev Eval := ExceptT Fault (StateM (List Note))

namespace Eval

def note (level : Level) (source : String) (message : Text) : Eval Unit :=
  modify (· ++ [⟨level, source.toList, message⟩])

def ofExcept (r : Except Fault α) : Eval α := ExceptT.mk (pure r)

def run (x : Eval α) : Except Fault α × List Note :=
  let (r, notes) := (ExceptT.run x).run []
  (r, notes)

def result (x : Eval α) : Except Fault α := x.run.1

end Eval

end Stencil
