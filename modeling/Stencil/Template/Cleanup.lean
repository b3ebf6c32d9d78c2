import Stencil.Template.Directive
import Stencil.Template.Trace
import Stencil.Text.Quoted
/-!
The last stage of a render: what is left of directives is removed, and markup that the removal broke
is mended, until nothing changes.
-/

namespace Stencil.Template

open Stencil.Text

/-- Removes what is left of directives, closers and openers before the rest. -/
def removeStrays (s : Text) : Text :=
  let s := (tag "endfor".toList).remove s
  let s := (tag "endif".toList).remove s
  let s := (tag "else".toList).remove s
  let s := (tag "end".toList).remove s
  let s := strayFor.remove s
  let s := (strayOperand "if".toList).remove s
  strayDirective.remove s

/-- The end of a tag, blanks, and the end of an attribute and a tag. -/
def doubledEnd? (s : Text) : Option Text :=
  match s with
  | '>' :: s => dropStart? ['"', '>'] (trimLeft s)
  | _ => none

def doubledBeforeTag : Scanner Text := fun s => do
  match trimLeft (← doubledEnd? s) with
  | '<' :: rest => some ("><".toList, rest)
  | _ => none

/-- The blanks that follow count up to their last line feed. -/
def doubledBeforeLine : Scanner Text := fun s => do
  let rest ← doubledEnd? s
  let blanks := rest.takeWhile isBlank
  if blanks.elem '\n' then
    some (">\n".toList, (blanks.reverse.takeWhile (· != '\n')).reverse ++ trimLeft rest)
  else none

def doubled : Scanner Text := fun s => (doubledEnd? s).map ([('>')], ·)

def mendMarkup (s : Text) : Text :=
  doubled.replace (doubledBeforeLine.replace (doubledBeforeTag.replace s))

def cleanupPass (s : Text) : Text := mendMarkup (removeStrays s)

/-- Passes until one changes nothing; every pass that changes the text shortens it. -/
def settle (s : Text) : Text :=
  let next := cleanupPass s
  if next.length < s.length then settle next else next
termination_by s.length

/-- A warning for every opener that was never closed, then the text without any directive. -/
def cleanup (s : Text) : Eval Text := do
  for (opener, _) in strayOpener.findAll s do
    Eval.note .warning "processor" ("Removing unmatched directive ".toList ++ quoted opener)
  return settle s

end Stencil.Template
