import Stencil.Template.Scan
/-!
Markup as text: escaping, tags, and addresses joined to a root.
-/

namespace Stencil.Markup

open Stencil.Text

def escapeChar (c : Char) : Text :=
  if c == '&' then "&amp;".toList
  else if c == '<' then "&lt;".toList
  else if c == '>' then "&gt;".toList
  else if c == '"' then "&#34;".toList
  else if c == '\'' then "&#39;".toList
  else [c]

def escape (s : Text) : Text := s.flatMap escapeChar

/-- Anything from a `<` to the next `>`. -/
def tagSpan : Scanner Unit := fun s =>
  match s with
  | '<' :: s =>
      match s.dropWhile (· != '>') with
      | _ :: rest => some ((), rest)
      | [] => none
  | _ => none

def stripTags (s : Text) : Text := tagSpan.remove s

/-- Text with its tags removed and every run of blanks one space. -/
def plain (s : Text) : Text := join [' '] (words (stripTags s))

/-- A path put behind a root address with one slash between; without a root the path alone. -/
def joinRoot (root path : Text) : Text :=
  if root.isEmpty then path
  else
    dropWhileEnd (· == '/') root ++ (if path.head? == some '/' then path else '/' :: path)

end Stencil.Markup
