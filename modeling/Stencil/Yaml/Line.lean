import Stencil.Fault
/-!
Lines, blanks and runs of a YAML document. The readers of the format share one loop, `many`, which
repeats a step for as long as the step gets on.
-/

namespace Stencil.Yaml

def badToken : Fault := .document .token

def isPrintable (c : Char) : Bool :=
  let n := c.toNat
  n == 9 || n == 10 || n == 13 || (0x20 ≤ n && n ≤ 0x7e) || n == 0x85 ||
    (0xa0 ≤ n && n ≤ 0xd7ff) || (0xe000 ≤ n && n ≤ 0xfffd) || 0x10000 ≤ n

def isBreak (c : Char) : Bool :=
  c == '\n' || c == '\r' || c.toNat == 0x85 || c.toNat == 0x2028 || c.toNat == 0x2029

def isSpaceOrTab (c : Char) : Bool := c == ' ' || c == '\t'

def isNameChar (c : Char) : Bool := c.isAlphanum || c == '-' || c == '_'

def atLineEnd : Text → Bool
  | [] => true
  | c :: _ => isBreak c

def atGap : Text → Bool
  | [] => true
  | c :: _ => isSpaceOrTab c || isBreak c

/-- A space or the end of the line comes next; a tab is neither. -/
def atSpace : Text → Bool
  | [] => true
  | c :: _ => c == ' ' || isBreak c

/-- A line of three hyphens or three periods comes next, which divides documents. -/
def atDocumentMark : Text → Bool
  | a :: b :: c :: s => a == b && b == c && (a == '-' || a == '.') && atGap s
  | _ => false

/-- One line break. It is kept as a line feed, unless it is one of the separator characters. -/
def lineBreak? : Text → Option (Char × Text)
  | '\r' :: '\n' :: s => some ('\n', s)
  | c :: s =>
      if c == '\n' || c == '\r' || c.toNat == 0x85 then some ('\n', s)
      else if isBreak c then some (c, s)
      else none
  | [] => none

/-- Repeats a step until it declines. A step that leaves the text as long as it was ends the run
as well. -/
def many {m : Type → Type} [Monad m] {α : Type} (step : Text → m (Option (α × Text))) (s : Text) :
    m (List α × Text) := do
  match ← step s with
  | none => return ([], s)
  | some (a, rest) =>
      if _h : rest.length < s.length then
        let (as, rest) ← many step rest
        return (a :: as, rest)
      else return ([], s)
termination_by s.length

def skipSpaces (s : Text) : Text := s.dropWhile (· == ' ')

def skipComment : Text → Text
  | '#' :: s => s.dropWhile (!isBreak ·)
  | s => s

/-- What may end the line of an indicator: spaces, a comment and the line break. -/
def finishLine (s : Text) : Except Fault Text :=
  let s := skipComment (skipSpaces s)
  match lineBreak? s with
  | some (_, s) => .ok s
  | none => if s.isEmpty then .ok [] else .error badToken

/-- Line breaks, each with the spaces before it, until something else begins a line. -/
def blankLines (s : Text) : Text × Text :=
  Id.run (many (fun s => lineBreak? (skipSpaces s)) s)

end Stencil.Yaml
