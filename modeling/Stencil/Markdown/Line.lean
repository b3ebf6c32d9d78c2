import Stencil.Text.Word
/-!
Lines of Markdown text: how they are indented and what marks they begin with.
-/

namespace Stencil.Markdown

/-- The first line without its line feed, and the text behind it. -/
def splitLine : Text → Text × Text
  | [] => ([], [])
  | c :: s =>
      if c == '\n' then ([], s)
      else
        let (line, rest) := splitLine s
        (c :: line, rest)

/-- The first line with its line feed, if it has one, and the text behind it. -/
def takeLine : Text → Text × Text
  | [] => ([], [])
  | c :: s =>
      if c == '\n' then ([c], s)
      else
        let (line, rest) := takeLine s
        (c :: line, rest)

def lines (s : Text) : List Text :=
  let (line, rest) := takeLine s
  if _h : rest.length < s.length then line :: lines rest else []
termination_by s.length

def isSpaceOrTab (c : Char) : Bool := c == ' ' || c == '\t'

def isLineBlank (c : Char) : Bool := isSpaceOrTab c || c == '\x0b' || c == '\x0c'

def skipBlanks (s : Text) : Text := s.dropWhile isSpaceOrTab

def isBlankLine (line : Text) : Bool := line.all isLineBlank

def countStart (c : Char) (s : Text) : Nat := (s.takeWhile (· == c)).length

/-- The text behind at most `limit` spaces, and how many there are. -/
def dropIndent? (limit : Nat) (s : Text) : Option (Nat × Text) :=
  let n := countStart ' ' s
  if n ≤ limit then some (n, s.drop n) else none

def spaces (n : Nat) : Text := List.replicate n ' '

/-- A tab behind at most three spaces, at the head of a line, widened so that both are `width`
wide. -/
private def widenTab (width : Nat → Nat) (line : Text) : Text :=
  let n := countStart ' ' line
  match line.drop n with
  | '\t' :: rest => if n ≤ 3 then spaces (width n) ++ rest else line
  | _ => line

private def onLines (f : Text → Text) (s : Text) : Text := ((lines s).map f).flatten

def alignTabs (column : Nat) (s : Text) : Text := onLines (widenTab fun n => max n column) s

def expandTabs (s : Text) : Text := onLines (widenTab fun n => n + 4) s

/-- Drops up to `limit` spaces from the head of every line. -/
def unindent (limit : Nat) (s : Text) : Text :=
  onLines (fun line => line.drop (min limit (countStart ' ' line))) s

def stripBy (p : Char → Bool) (s : Text) : Text := Text.strip p s

def isPunctuation (c : Char) : Bool :=
  let n := c.toNat
  (33 ≤ n && n ≤ 47) || (58 ≤ n && n ≤ 64) || (91 ≤ n && n ≤ 96) || (123 ≤ n && n ≤ 126)

def unescape : Text → Text
  | '\\' :: c :: s => if isPunctuation c then c :: unescape s else '\\' :: unescape (c :: s)
  | c :: s => c :: unescape s
  | [] => []

/-! Marks at the head of a line. -/

structure Fence where
  indent : Nat
  mark : Char
  size : Nat
  info : Text

/-- The opening fence of a code block. What follows backticks holds none of them. -/
def fence? (limit : Nat) (line : Text) : Option Fence := do
  let (indent, s) ← dropIndent? limit line
  let mark ← s.head?
  let size := countStart mark s
  let info := skipBlanks (s.drop size)
  if (mark == '\x60' || mark == '~') && 3 ≤ size && !(mark == '\x60' && info.elem '\x60') then
    some ⟨indent, mark, size, info⟩
  else none

def Fence.isClosedBy (f : Fence) (line : Text) : Bool :=
  match dropIndent? 3 line with
  | some (_, s) =>
      f.size ≤ countStart f.mark s && (s.drop (countStart f.mark s)).all isSpaceOrTab
  | none => false

private def dropClosing (s : Text) : Text :=
  let body := Text.dropWhileEnd (· == '#') (Text.trimRight s)
  if body.length == (Text.trimRight s).length then s
  else if body.isEmpty then []
  else if body.getLast?.any Text.isBlank then Text.trimRight body
  else s

/-- A heading that begins with one to six number signs: its level and text. -/
def heading? (limit : Nat) (line : Text) : Option (Nat × Text) := do
  let (_, s) ← dropIndent? limit line
  let level := countStart '#' s
  let text := s.drop level
  if 1 ≤ level && level ≤ 6 && (text.isEmpty || text.head?.any isSpaceOrTab) then
    some (level, dropClosing (stripBy (fun c => isLineBlank c || c == '\n' || c == '\r') text))
  else none

/-- A line of equals signs or hyphens under a heading: the heading's level. -/
def underline? (line : Text) : Option Nat := do
  let (_, s) ← dropIndent? 3 line
  let run := s.takeWhile fun c => c == '=' || c == '-'
  if (s.drop run.length).all isSpaceOrTab then
    let last ← run.getLast?
    some (if last == '=' then 1 else 2)
  else none

/-- A line of three or more hyphens, underscores or asterisks. -/
def isRule (limit : Nat) (line : Text) : Bool :=
  match dropIndent? limit line with
  | some (_, s) =>
      ['-', '_', '*'].any fun c =>
        s.head? == some c && s.all (fun d => d == c || isSpaceOrTab d) && 3 ≤ s.count c
  | none => false

def quoted? (limit : Nat) (line : Text) : Option Text := do
  let (_, s) ← dropIndent? limit line
  match s with
  | '>' :: rest => some rest
  | _ => none

/-- The mark of a list item: its indentation, the mark and what follows it. -/
structure ItemMark where
  indent : Nat
  mark : Text
  text : Text

private def endsMark (rest : Text) : Bool := rest.isEmpty || rest.head?.any isSpaceOrTab

def itemMark? (limit : Nat) (line : Text) : Option ItemMark := do
  let (indent, s) ← dropIndent? limit line
  let c ← s.head?
  if c == '*' || c == '+' || c == '-' then
    if endsMark (s.drop 1) then some ⟨indent, [c], s.drop 1⟩ else none
  else
    let digits := s.takeWhile Text.isDecimal
    let last ← (s.drop digits.length).head?
    let rest := s.drop (digits.length + 1)
    if 1 ≤ digits.length && digits.length ≤ 9 && (last == '.' || last == ')') && endsMark rest then
      some ⟨indent, digits ++ [last], rest⟩
    else none

/-- The mark of a further item of a list whose marks end in `bullet`. -/
def nextMark? (limit : Nat) (bullet : Char) (line : Text) : Option ItemMark := do
  let (indent, s) ← dropIndent? limit line
  let digits := if bullet == '.' || bullet == ')' then s.takeWhile Text.isDecimal else []
  let rest := s.drop (digits.length + 1)
  if digits.length ≤ 9 && (s.drop digits.length).head? == some bullet && endsMark rest then
    some ⟨indent, digits ++ [bullet], rest⟩
  else none

def isIndented (line : Text) : Bool :=
  let n := countStart ' ' line
  (4 ≤ n && 4 < line.length) || ((line.drop n).head? == some '\t' && n + 1 < line.length)

end Stencil.Markdown
