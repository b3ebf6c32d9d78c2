import Stencil.Markup.Tags
import Stencil.Text.Slug
import Stencil.Value.Order
import Stencil.Value.Text
/-!
What templates may ask of a page beyond its fields. A field of the wrong kind makes the question
fail.
-/

namespace Stencil

namespace Value

def textOrNoSuch : Value → Except Fault Text
  | .text s => .ok s
  | _ => .error .noSuchOperation

/-- The elements met when a value is gone through: of a list, the characters of a text, the keys of
a mapping. -/
def elements : Value → Except Fault (List Value)
  | .list items => .ok items
  | .pages items => .ok items
  | .text s => .ok (s.map fun c => .text [c])
  | .map entries => .ok (entries.map (·.1))
  | _ => .error .wrongKind

def keys (v : Value) : Except Fault (List Value) := do
  let items ← v.elements
  if items.all isKey then .ok items else .error .wrongKind

/-- Whether a text is in a value: an element of a list, a part of a text or a key of a mapping. -/
def holdsText (s : Text) : Value → Except Fault Bool
  | .text t => .ok (Text.contains s t)
  | v => do return (Value.text s).isIn (← v.elements)

def expand (pattern : Text) : Value → Except Fault Text
  | .moment m => .ok (Pattern.expand m pattern)
  | .date d => .ok (Pattern.expand (.ofDate d) pattern)
  | _ => .error .noSuchOperation

end Value

namespace Page

def kindIs (p : Page) (kind : String) : Bool := p.kind.eq (.ofString kind)

def plain (p : Page) : Except Fault Text :=
  match p.content with
  | .text s => .ok (Markup.plain s)
  | _ => .error .wrongKind

def summaryLength : Int := 200

/-- The excerpt, or the beginning of the plain content. -/
def summary (p : Page) : Except Fault Value :=
  if p.excerpt.truthy then .ok p.excerpt
  else do return .text (Text.truncate summaryLength Text.ellipsis (← p.plain))

def wordCount (p : Page) : Except Fault Nat := do return Text.wordCount (← p.plain)

def readingPace : Int := 200

def readingTime (p : Page) : Except Fault Nat := do
  return Text.readingTime readingPace (← p.plain)

/-- The date in words, or nothing without a date. -/
def dateFormatted (p : Page) : Except Fault Text :=
  if p.date.truthy then p.date.expand Pattern.longDay else .ok []

/-- The top section a page belongs to, or `page` at the root. -/
def type (p : Page) : Except Fault Text :=
  if p.section_.truthy then do
    return ((← p.section_.textOrNoSuch).splitAt '/').headD []
  else .ok "page".toList

/-- The date, where a missing one counts as the epoch. -/
def sortDate (p : Page) : Value := if p.date.truthy then p.date else .moment .epoch

def isSamePage (p q : Page) : Bool := p.position?.isSome && p.position? == q.position?

end Page

namespace Site

def pageValues (s : Site) : List Value := s.pages.map .page

def permalink (s : Site) (p : Page) : Except Fault Value :=
  if s.baseUrl.isEmpty then .ok p.url
  else do return .text (Markup.joinRoot s.baseUrl (← p.url.textOrNoSuch))

end Site

end Stencil
