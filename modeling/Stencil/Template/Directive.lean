import Stencil.Template.Scan
import Stencil.Text.Word
/-!
Directives: what stands between double braces. The inside of a directive holds no closing brace; an
opening brace may stand in it.
-/

namespace Stencil.Template

open Stencil.Text

def openMark? (s : Text) : Option Text := dropStart? ['{', '{'] s

def closeMark? (s : Text) : Option Text := dropStart? ['}', '}'] s

def openWord? (word : Text) (s : Text) : Option Text := do
  dropStart? word (trimLeft (← openMark? s))

def blanks? (s : Text) : Option Text :=
  match s with
  | c :: _ => if isBlank c then some (trimLeft s) else none
  | [] => none

/-- What a directive holds between its braces, without the blanks at its ends. An inside of blanks
only is its last blank; `least` is how many blanks there must be besides. -/
def insideText? (least : Nat) (run : Text) : Option Text :=
  let blanks := run.takeWhile isBlank
  let body := run.dropWhile isBlank
  if body.isEmpty then
    match blanks.getLast? with
    | some c => if least < blanks.length then some [c] else none
    | none => none
  else if least ≤ blanks.length then some (trimRight body)
  else none

def inside? (least : Nat) (s : Text) : Option (Text × Text) := do
  let rest ← closeMark? (s.dropWhile (· != '}'))
  let text ← insideText? least (s.takeWhile (· != '}'))
  some (text, rest)

def directive : Scanner Text := fun s => do inside? 0 (← openMark? s)

def tag (word : Text) : Scanner Unit := fun s => do
  let rest ← closeMark? (trimLeft (← openWord? word s))
  some ((), rest)

def operand (word : Text) : Scanner Text := fun s => do inside? 1 (← openWord? word s)

def quotedName (word : Text) : Scanner Text := fun s => do
  let isQuote (c : Char) : Bool := c == '"' || c == '\''
  match ← blanks? (← openWord? word s) with
  | q :: s =>
      let name := s.takeWhile (!isQuote ·)
      match s.dropWhile (!isQuote ·) with
      | _ :: s =>
          if isQuote q && !name.isEmpty then some (name, ← closeMark? (trimLeft s)) else none
      | [] => none
  | [] => none

/-- Reads `for name in` with the blanks around its words, up to the blanks before the source. -/
def forHead? (s : Text) : Option (Text × Text) := do
  let s ← blanks? (← openWord? "for".toList s)
  let name := s.takeWhile isWord
  let s ← dropStart? "in".toList (← blanks? (s.dropWhile isWord))
  if name.isEmpty then none else some (name, s)

def forOpener : Scanner (Text × Text) := fun s => do
  let (name, s) ← forHead? s
  let (source, rest) ← inside? 1 s
  some ((name, source), rest)

/-- What is left of a directive from `word`, blanks and anything after them. -/
def strayOperand (word : Text) : Scanner Unit := fun s => do
  let rest ← closeMark? ((← blanks? (← openWord? word s)).dropWhile (· != '}'))
  some ((), rest)

/-- What is left of the opening of a loop; its source may be missing. -/
def strayFor : Scanner Unit := fun s => do
  let (_, s) ← forHead? s
  let rest ← closeMark? ((← blanks? s).dropWhile (· != '}'))
  some ((), rest)

/-- Anything between double braces, be it nothing. -/
def strayDirective : Scanner Unit := fun s => do
  let rest ← closeMark? ((← openMark? s).dropWhile (· != '}'))
  some ((), rest)

def strayOpener : Scanner Unit := fun s =>
  ["if", "for", "range", "block"].findSome? fun word => do
    let s ← openWord? word.toList s
    if (s.head?.map isWord).getD false then none
    else
      let rest ← closeMark? (s.dropWhile (· != '}'))
      some ((), rest)

/-- Words that mark the structure of a template and are never looked up as names. -/
def controlWords : List Text :=
  ["if", "else", "endif", "for", "endfor", "range", "end", "block", "endblock", "extends"].map
    String.toList

def isControl (inner : Text) : Bool :=
  match (words inner).head? with
  | some word => controlWords.elem word
  | none => false

end Stencil.Template
