import Stencil.Yaml.Value
/-!
Front matter: a mapping between two lines of three hyphens at the very beginning of a text. A text
whose front matter is no mapping is all body.
-/

namespace Stencil.FrontMatter

/-- The rests behind the line feeds in the blanks that a text begins with, the last one first. -/
def lineRests : Text → List Text
  | [] => []
  | c :: s =>
      if Text.isBlank c then lineRests s ++ (if c == '\n' then [s] else []) else []

/-- What follows three hyphens, blanks and a line feed. As many blank lines as there are belong to
the mark. -/
def mark? (s : Text) : List Text :=
  match Text.dropStart? "---".toList s with
  | some rest => lineRests rest
  | none => []

/-- The text up to the next closing mark, and the text behind it. -/
def closing? : Text → Option (Text × Text)
  | [] => none
  | c :: s =>
      match (if c == '\n' then mark? s else []) with
      | rest :: _ => some ([], rest)
      | [] => (closing? s).map fun (before, rest) => (c :: before, rest)

def split? (s : Text) : Option (Text × Text) := (mark? s).findSome? closing?

/-- A mapping for front matter; what counts as nothing is an empty one. -/
def entries? (v : Value) : Option (List (Value × Value)) :=
  match v with
  | .map entries => some entries
  | v => if v.truthy then none else some []

/-- The entries of the front matter and the body. A document that cannot be read is no front
matter; one that names an impossible value is a failure. -/
def extract (s : Text) : Except Fault (List (Value × Value) × Text) :=
  match split? s with
  | none => .ok ([], s)
  | some (matter, body) =>
      match Yaml.read matter with
      | .ok v =>
          match entries? v with
          | some entries => .ok (entries, body)
          | none => .ok ([], s)
      | .error (.document _) => .ok ([], s)
      | .error fault => .error fault

end Stencil.FrontMatter
