import Stencil.Markdown.Line
/-!
Tables: a row of headings, a row that tells how each column is aligned, and rows of cells. Rows may
stand between vertical bars or only have them between cells.
-/

namespace Stencil.Markdown

inductive Alignment
  | left
  | center
  | right
deriving DecidableEq

structure Table where
  columns : List (Option Alignment)
  head : List Text
  rows : List (List Text)

namespace Table

/-- The cells of a row. A bar behind a backslash does not divide. -/
private def cellsFrom (cell : Text) : Text → List Text
  | [] => [cell.reverse]
  | c :: s =>
      if c == '|' && cell.head? != some '\\' then cell.reverse :: cellsFrom [] s
      else cellsFrom (c :: cell) s

def cells (row : Text) : List Text := (cellsFrom [] (Text.trim row)).map Text.trim

/-- How a column is aligned by hyphens with colons at their ends. -/
private def alignment? (cell : Text) : Option Alignment :=
  let starts := cell.head? == some ':'
  let ends := cell.getLast? == some ':'
  let body := (if starts then cell.drop 1 else cell)
  let body := if ends then body.dropLast else body
  if body.isEmpty || !body.all (· == '-') then none
  else
    match starts, ends with
    | true, true => some .center
    | true, false => some .left
    | false, true => some .right
    | false, false => none

private def inner? (line : Text) : Option Text := do
  let (_, s) ← dropIndent? 3 line
  match s, Text.dropWhileEnd isSpaceOrTab s with
  | '|' :: _, t => if t.length ≥ 3 && t.getLast? == some '|' then some (t.drop 1).dropLast else none
  | _, _ => none

/-- A row between bars, which may be empty. -/
private def isBarred (line : Text) : Bool :=
  match dropIndent? 3 line with
  | some (_, s) =>
      let t := Text.dropWhileEnd isSpaceOrTab s
      2 ≤ t.length && t.head? == some '|' && t.getLast? == some '|'
  | none => false

private def isAligning (c : Char) : Bool := c == '-' || c == ':' || c == '|' || c == ' '

/-- The alignments between bars: hyphens and colons first. -/
private def isBarredAlignment (s : Text) : Bool :=
  (s.dropWhile (· == ' ')).head?.any (fun c => c == '-' || c == ':') && s.all isAligning

/-- The alignments without outer bars: one column, and a bar behind it. -/
private def isOpenAlignment (line : Text) : Bool :=
  match dropIndent? 3 line with
  | some (_, s) =>
      let rest := s.dropWhile fun c => c == '-' || c == ':'
      rest.length < s.length && (rest.dropWhile (· == ' ')).head? == some '|' && rest.all isAligning
  | none => false

private def rowsFrom (isRow : Text → Bool) (s : Text) : List Text × Text :=
  let (line, rest) := splitLine s
  if _h : rest.length < s.length then
    if isRow line then
      let (rows, rest) := rowsFrom isRow rest
      (line :: rows, rest)
    else ([], s)
  else ([], s)
termination_by s.length

/-- The table of these rows, if all have the same number of cells. -/
private def ofRows? (head alignments : Text) (rows : List Text) : Option Table :=
  let head := cells head
  let columns := (cells alignments).map alignment?
  let rows := rows.map cells
  if head.length == columns.length && rows.all (·.length == columns.length) then
    some ⟨columns, head, rows⟩
  else none

private def barred? (s : Text) : Option (Table × Text) := do
  let (first, behind) := splitLine s
  let (second, rest) := splitLine behind
  let head ← inner? first
  let alignments ← inner? second
  if isBarredAlignment alignments then
    let (rows, rest) := rowsFrom isBarred rest
    let table ← ofRows? head alignments (← rows.mapM inner?)
    some (table, rest.dropWhile (· == '\n'))
  else none

private def open? (s : Text) : Option (Table × Text) := do
  let (first, behind) := splitLine s
  let (second, rest) := splitLine behind
  let (_, head) ← dropIndent? 3 first
  if (head.drop 1).elem '|' && !(head.head?.any Text.isBlank) && isOpenAlignment second then
    let (rows, rest) := rowsFrom (fun line => line.elem '|') rest
    let table ← ofRows? head second rows
    some (table, rest.dropWhile (· == '\n'))
  else none

def read? (s : Text) : Option (Table × Text) := (barred? s).orElse fun _ => open? s

end Table

end Stencil.Markdown
