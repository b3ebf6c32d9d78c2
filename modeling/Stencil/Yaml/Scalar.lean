import Stencil.Yaml.Line
/-!
Scalars as they are written: plain, quoted and block scalars. A line break inside a scalar is folded
into a space; further empty lines are kept as line feeds.
-/

namespace Stencil.Yaml

/-! Quoted scalars. -/

def escape? (c : Char) : Option Char :=
  [('0', 0), ('a', 7), ('b', 8), ('t', 9), ('\t', 9), ('n', 10), ('v', 11), ('f', 12), ('r', 13),
    ('e', 27), (' ', 32), ('"', 34), ('\\', 92), ('/', 47), ('N', 0x85), ('_', 0xa0), ('L', 0x2028),
    ('P', 0x2029)].lookup c |>.map Char.ofNat

def escapeWidth? (c : Char) : Option Nat := [('x', 2), ('u', 4), ('U', 8)].lookup c

def hexValue? (c : Char) : Option Nat :=
  if '0' ≤ c && c ≤ '9' then some (c.toNat - 48)
  else if 'a' ≤ c && c ≤ 'f' then some (c.toNat - 87)
  else if 'A' ≤ c && c ≤ 'F' then some (c.toNat - 55)
  else none

def hexNumber? (width : Nat) (s : Text) : Option (Nat × Text) := do
  let digits ← (s.take width).mapM hexValue?
  if digits.length == width then some (digits.foldl (fun n d => 16 * n + d) 0, s.drop width) else none

/-- The breaks behind a folded line, with the blanks that begin the next one. -/
def quotedBreaks (s : Text) : Except Fault (Text × Text) := do
  let (breaks, rest) ← many
    (fun s =>
      if atDocumentMark s then throw badToken
      else return lineBreak? (s.dropWhile isSpaceOrTab))
    s
  return (breaks, rest.dropWhile isSpaceOrTab)

/-- Blanks, or a folded line break with the blanks around it. -/
def quotedGap (s : Text) : Except Fault (Text × Text) := do
  let rest := s.dropWhile isSpaceOrTab
  match lineBreak? rest with
  | some (b, rest) =>
      let (breaks, rest) ← quotedBreaks rest
      return ((if b != '\n' then [b] else if breaks.isEmpty then [' '] else []) ++ breaks, rest)
  | none => if rest.isEmpty then throw badToken else return (s.takeWhile isSpaceOrTab, rest)

def escaped : Text → Except Fault (Text × Text)
  | [] => .error badToken
  | c :: s =>
      match escape? c, escapeWidth? c with
      | some e, _ => .ok ([e], s)
      | none, some width =>
          match hexNumber? width s with
          | some (n, s) =>
              if n < 0x110000 then .ok ([Char.ofNat n], s)
              else .error (if n < 0x80000000 then .outOfDomain else .overflow)
          | none => .error badToken
      | none, none =>
          match lineBreak? (c :: s) with
          | some (_, s) => quotedBreaks s
          | none => .error badToken

/-- One part of a quoted scalar; none at the closing quote. -/
def quotedPart? (double : Bool) : Text → Except Fault (Option (Text × Text))
  | [] => .error badToken
  | c :: s =>
      if isSpaceOrTab c || isBreak c then some <$> quotedGap (c :: s)
      else if c == '\\' && double then some <$> escaped s
      else if c == '"' && double then .ok none
      else if c == '\'' && !double then
        match s with
        | '\'' :: s => .ok (some (['\''], s))
        | _ => .ok none
      else .ok (some ([c], s))

def quotedScalar (double : Bool) (s : Text) : Except Fault (Text × Text) := do
  let (parts, rest) ← many (quotedPart? double) s
  return (parts.flatten, rest.drop 1)

/-! Plain scalars. -/

def isFlowIndicator (c : Char) : Bool :=
  c == ',' || c == '[' || c == ']' || c == '{' || c == '}'

/-- Characters up to a blank, a colon that ends a key, or an indicator. -/
def plainRun (flow : Bool) : Text → Text × Text
  | [] => ([], [])
  | c :: s =>
      let endsKey :=
        match s with
        | [] => true
        | d :: _ => isSpaceOrTab d || isBreak d || (flow && isFlowIndicator d)
      if isSpaceOrTab c || isBreak c || (c == ':' && endsKey) ||
          (flow && (c == '?' || isFlowIndicator c)) then ([], c :: s)
      else
        let (run, rest) := plainRun flow s
        (c :: run, rest)

/-- What stands between two runs of a plain scalar: the text it is folded into, and whether the
scalar may go on behind it. -/
structure PlainGap where
  text : Text
  rest : Text
  crossesLine : Bool
  goesOn : Bool

def plainGap (flow : Bool) (indent : Int) (s : Text) : PlainGap :=
  let rest := skipSpaces s
  match lineBreak? rest with
  | none =>
      let spaces := s.takeWhile (· == ' ')
      ⟨spaces, rest, false, !spaces.isEmpty && rest.head? != some '#'⟩
  | some (b, rest) =>
      let (breaks, rest) := Id.run (many
        (fun s => if atDocumentMark s then none else lineBreak? (skipSpaces s)) rest)
      if atDocumentMark rest then ⟨[], rest, true, false⟩
      else
        let line := skipSpaces rest
        let column : Int := (rest.length : Int) - line.length
        let folded := if b != '\n' then [b] else if breaks.isEmpty then [' '] else []
        ⟨folded ++ breaks, line, true, line.head? != some '#' && (flow || indent ≤ column)⟩

/-- A plain scalar, with the rest behind the blanks that follow it. The flag tells whether those
blanks cross a line. -/
def plainScalar (flow : Bool) (indent : Int) (s : Text) : Text × Text × Bool :=
  let (run, rest) := plainRun flow s
  let gap := plainGap flow indent rest
  if _h : gap.rest.length < s.length then
    if gap.goesOn then
      let (more, rest, crosses) := plainScalar flow indent gap.rest
      if more.isEmpty then (run, gap.rest, gap.crossesLine) else (run ++ gap.text ++ more, rest, crosses)
    else (run, gap.rest, gap.crossesLine)
  else ([], s, false)
termination_by s.length

/-! Block scalars. -/

/-- What happens to the line breaks at the end of a block scalar. -/
inductive Chomping
  | strip
  | clip
  | keep
deriving DecidableEq

def chomping? (c : Char) : Option Chomping := [('-', .strip), ('+', .keep)].lookup c

/-- The indicators behind `|` or `>`: chomping and a digit for the indentation, in either order. -/
def blockHeader (s : Text) : Except Fault (Chomping × Option Nat × Text) :=
  let digit? (s : Text) : Option (Nat × Text) :=
    match s with
    | c :: s => if '0' ≤ c && c ≤ '9' then some (c.toNat - 48, s) else none
    | [] => none
  let mark? (s : Text) : Option (Chomping × Text) :=
    match s with
    | c :: s => (chomping? c).map fun mark => (mark, s)
    | [] => none
  let (mark, width, rest) :=
    match mark? s with
    | some (mark, s) =>
        match digit? s with
        | some (n, s) => (mark, some n, s)
        | none => (mark, none, s)
    | none =>
        match digit? s with
        | some (n, s) =>
            match mark? s with
            | some (mark, s) => (mark, some n, s)
            | none => (.clip, some n, s)
        | none => (.clip, none, s)
  if width == some 0 || !atSpace rest then .error badToken else .ok (mark, width, rest)

/-- Drops up to `n` spaces and tells how many there were. -/
def dropIndent (n : Nat) (s : Text) : Nat × Text :=
  let spaces := ((s.takeWhile (· == ' ')).take n).length
  (spaces, s.drop spaces)

/-- Empty lines of a block, and the indentation of the line behind them as far as it counts. -/
def blockBreaks (indent : Nat) (s : Text) : Text × Nat × Text :=
  let (breaks, rest) := Id.run (many (fun s => lineBreak? (dropIndent indent s).2) s)
  (breaks, dropIndent indent rest)

/-- The empty lines that begin a block, the deepest indentation among them and the line behind
them, and that line's own indentation. -/
def blockStart (s : Text) : Text × Nat × Nat × Text :=
  let spaces (s : Text) : Nat := (s.takeWhile (· == ' ')).length
  let (lines, rest) := Id.run (many
    (fun s => (lineBreak? (skipSpaces s)).map fun (b, rest) => ((b, spaces s), rest)) s)
  (lines.map (·.1), (lines.map (·.2)).foldl max (spaces rest), spaces rest, skipSpaces rest)

/-- The lines of a block from one that is indented enough: their text, and the last line break
with the empty lines that follow it. -/
def blockLines (folded : Bool) (indent : Nat) (breaks : Text) (s : Text) :
    Text × Text × Text × Text :=
  let beginsPlain (s : Text) : Bool := !(s.head?.any isSpaceOrTab)
  let line := s.takeWhile (!isBreak ·)
  let behind := s.dropWhile (!isBreak ·)
  let (last, rest) :=
    match lineBreak? behind with
    | some (b, rest) => ([b], rest)
    | none => ([], behind)
  let (more, column, rest) := blockBreaks indent rest
  if _h : rest.length < s.length then
    if column == indent && !rest.isEmpty then
      let joint : Text :=
        if folded && last == ['\n'] && beginsPlain s && beginsPlain rest then
          if more.isEmpty then [' '] else []
        else last
      let (text, final) := blockLines folded indent more rest
      (breaks ++ line ++ joint ++ text, final)
    else (breaks ++ line, last, more, rest)
  else (breaks ++ line, last, more, rest)
termination_by s.length

/-- A block scalar behind its `|` or `>`, inside a block indented by `parent`. -/
def blockScalar (folded : Bool) (parent : Int) (s : Text) : Except Fault (Text × Text) := do
  let (chomping, width, s) ← blockHeader s
  let s ← finishLine s
  let least : Nat := max 1 (parent + 1).toNat
  let (breaks, indent, column, rest) :=
    match width with
    | some n =>
        let indent := least + n - 1
        let (breaks, column, rest) := blockBreaks indent s
        (breaks, indent, column, rest)
    | none =>
        let (breaks, deepest, column, rest) := blockStart s
        (breaks, max least deepest, column, rest)
  let (text, last, more, rest) :=
    if column == indent && !rest.isEmpty then blockLines folded indent breaks rest
    else ([], [], breaks, rest)
  return (text ++ (if chomping == .strip then [] else last) ++
    (if chomping == .keep then more else []), rest)

end Stencil.Yaml
