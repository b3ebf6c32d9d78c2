import Stencil.Markdown.Inline
import Stencil.Markdown.Table
/-!
The blocks of a Markdown text: paragraphs, headings, code, quotes, lists, tables, rules and raw
markup. Link definitions leave no block; they are collected while the blocks are read.
-/

namespace Stencil.Markdown

inductive Block
  | paragraph (text : Text)
  /-- A paragraph of a list whose items stand close together. -/
  | plain (text : Text)
  | heading (level : Nat) (text : Text)
  | rule
  | code (info : Option Text) (body : Text)
  | quote (content : List Block)
  /-- A list; a numbered one has its first number. -/
  | list (start? : Option Nat) (items : List (List Block))
  | table (t : Table)
  | markup (raw : Text)
  | blank

/-- Which blocks may stand in a text besides those that always may. -/
structure BlockRules where
  quotes : Bool
  lists : Bool
  tables : Bool

/-- Lists and quotes nested deeper than this hold no more of their own kind. -/
def maxNesting : Nat := 6

namespace Block

/-! Raw markup. -/

/-- Tags that begin a block of markup, which goes on to the next empty line. -/
private def blockTags : List String :=
  ["address", "article", "aside", "base", "basefont", "blockquote", "body", "caption", "center",
    "col", "colgroup", "dd", "details", "dialog", "dir", "div", "dl", "dt", "fieldset",
    "figcaption", "figure", "footer", "form", "frame", "frameset", "h1", "h2", "h3", "h4", "h5",
    "h6", "head", "header", "hr", "html", "iframe", "legend", "li", "link", "main", "menu",
    "menuitem", "meta", "nav", "noframes", "ol", "optgroup", "option", "p", "param", "section",
    "source", "summary", "table", "tbody", "td", "tfoot", "th", "thead", "title", "tr", "track",
    "ul"]

/-- Tags whose content is kept as it is, up to their closing tag. -/
private def rawTags : List String := ["pre", "script", "style", "textarea"]

private def isOneOf (names : List String) (name : Text) : Bool :=
  names.any (·.toList == name.map Char.toLower)

/-- The text from a place to the end of the line in which an ending stands. -/
private def untilMark (end_ : Text) (from_ s : Text) : Text × Text :=
  match Text.cut? end_ from_ with
  | some (before, behind) =>
      let (line, _) := takeLine (end_ ++ behind)
      let size := s.length - from_.length + before.length + line.length
      (s.take size, s.drop size)
  | none => (s, [])

def untilBlank (s : Text) : Text × Text :=
  let (line, rest) := takeLine s
  if _h : rest.length < s.length then
    if line.getLast? == some '\n' && line.dropLast.all isLineBlank then ([], s)
    else
      let (more, rest) := untilBlank rest
      (line ++ more, rest)
  else ([], s)
termination_by s.length

private def isTagNameChar (c : Char) : Bool :=
  Text.isAsciiLetter c || Text.isAsciiDigit c || c == '-'

/-- How a line with raw markup goes on. -/
private inductive MarkupStart
  /-- To an ending, looked for behind what was seen. -/
  | to (end_ : Text) (behind : Text)
  /-- To the next empty line. -/
  | block
  /-- To the next empty line, if the tag is alone on its line and interrupts no paragraph. -/
  | tag (closing : Bool) (behind : Text)

private def markupStart? (s : Text) : Option MarkupStart := do
  let (_, s) ← dropIndent? 3 s
  let afterName (closing : Bool) (s : Text) : Option MarkupStart :=
    let name := s.takeWhile isTagNameChar
    let behind := s.drop name.length
    if !(name.head?.any Text.isAsciiLetter) then none
    else if !closing && isOneOf rawTags name then
      some (.to ("</".toList ++ name.map Char.toLower ++ ['>']) behind)
    else if isOneOf blockTags name then some .block
    else some (.tag closing behind)
  match s with
  | '<' :: '/' :: rest => afterName true rest
  | '<' :: '?' :: rest => some (.to "?>".toList rest)
  | '<' :: '!' :: rest =>
      if Text.startsWith "--".toList rest then some (.to "-->".toList (rest.drop 2))
      else if Text.startsWith "[CDATA[".toList rest then some (.to "]]>".toList (rest.drop 7))
      else if rest.head?.any (fun c => 'A' ≤ c && c ≤ 'Z') then some (.to ['>'] (rest.drop 1))
      else none
  | '<' :: rest => afterName false rest
  | _ => none

/-- Whether a line begins markup that may end a quote or a list item. -/
private def interruptsByMarkup (limit : Nat) (line : Text) : Bool :=
  match dropIndent? limit line with
  | some (_, '<' :: s) =>
      let name := (if s.head? == some '/' then s.drop 1 else s).takeWhile isTagNameChar
      let behind := (if s.head? == some '/' then s.drop 1 else s).drop name.length
      (isOneOf blockTags name && (behind.isEmpty || behind.head?.any isSpaceOrTab)) ||
        s.head? == some '?' || Text.startsWith "!--".toList s ||
        Text.startsWith "![CDATA[".toList s ||
        (s.head? == some '!' && (s.drop 1).head?.any fun c => 'A' ≤ c && c ≤ 'Z')
  | _ => false

/-! Code. -/

private def fencedLines (f : Fence) (s : Text) : Text × Text :=
  let (line, rest) := takeLine s
  if _h : rest.length < s.length then
    if f.isClosedBy (splitLine s).1 then ([], rest)
    else
      let (more, rest) := fencedLines f rest
      (line ++ more, rest)
  else ([], s)
termination_by s.length

private def fenced (f : Fence) (s : Text) : Block × Text :=
  let (body, rest) := fencedLines f s
  let info := if f.info.isEmpty then none else some (Text.trim (unescape f.info))
  (.code info (unindent f.indent body), rest)

/-- The extent of indented code: indented lines, and the blanks between and behind them. -/
private def indentedExtent (atStart : Bool) (s : Text) : Text × Text :=
  let (line, behind) := takeLine s
  if _h : behind.length < s.length then
    if atStart && isIndented (splitLine s).1 then
      let (more, rest) := indentedExtent true behind
      (line ++ more, rest)
    else if s.head?.any Text.isBlank then
      let (more, rest) := indentedExtent (s.head? == some '\n') s.tail
      (s.take 1 ++ more, rest)
    else ([], s)
  else ([], s)
termination_by s.length
decreasing_by
  · exact _h
  · simp only [List.length_tail]; omega

private def indentedCode (extent : Text) : Block :=
  .code none (stripBy (· == '\n') (unindent 4 (alignTabs 4 extent)))

/-! Link definitions. -/

/-- The label of a link definition with what follows its colon. -/
private def definition? (s : Text) : Option (Text × Text) := do
  let (_, s) ← dropIndent? 3 s
  match s with
  | '[' :: s =>
      match ← label? s with
      | (label, ':' :: rest) => some (label, rest)
      | _ => none
  | _ => none

private def lineEnd? (s : Text) : Option Text :=
  match skipBlanks s with
  | '\n' :: rest => some rest
  | _ => none

/-- The target of a link definition. A title that does not end its line is none. -/
private def target? (s : Text) : Option (LinkTarget × Text) := do
  let (url, behind) ← blockAddress? s
  let near := (untilBlank behind).1
  let titled : Option (Text × Text) := do
    let (title, rest) ← title? near
    let rest ← lineEnd? (behind.drop (near.length - rest.length))
    some (title, rest)
  match titled with
  | some (title, rest) =>
      some (⟨encodeUrl url, if title.isEmpty then none else some title⟩, rest)
  | none => some (⟨encodeUrl url, none⟩, ← lineEnd? behind)

/-! Quotes. -/

private structure QuoteText where
  text : Text
  rest : Text

private def quotedLines (s : Text) : Text × Text :=
  let (line, rest) := takeLine s
  if _h : rest.length < s.length then
    match quoted? 3 line with
    | some body =>
        let (more, rest) := quotedLines rest
        (body ++ more, rest)
    | none => ([], s)
  else ([], s)
termination_by s.length

private def cleanQuote (s : Text) : Text := unindent 1 (alignTabs 3 s)

private def endsBlank (s : Text) : Bool :=
  s.all Text.isBlank ||
    (match (s.reverse : Text) with
      | '\n' :: r => (r.dropWhile isSpaceOrTab).head? == some '\n'
      | _ => false)

private def interruptsQuote (s : Text) : Bool :=
  let line := (splitLine s).1
  isBlankLine line || isRule 3 line || (fence? 3 line).isSome || (itemMark? 3 line).isSome ||
    interruptsByMarkup 3 line

/-- Further lines of a quote: quoted ones, and lines that continue its last paragraph. -/
private def quoteFrom (afterBlank : Bool) (s : Text) : Text × Text :=
  let (quoted, rest) := quotedLines s
  if _h : rest.length < s.length then
    let body := cleanQuote quoted
    let (more, rest) := quoteFrom (endsBlank body) rest
    (body ++ more, rest)
  else
    let (line, rest) := takeLine s
    if _h : rest.length < s.length then
      if afterBlank || interruptsQuote s then ([], s)
      else
        let (more, rest) := quoteFrom false rest
        (alignTabs 3 line ++ more, rest)
    else ([], s)
termination_by s.length

/-- The text of a quote whose first line holds `first` behind its mark. Code is not continued by
lines without the mark. -/
private def quoteText (first rest : Text) : Text × Text :=
  let first := cleanQuote (first ++ ['\n'])
  let line := (splitLine first).1
  let (more, rest) :=
    if isBlankLine line || isIndented line || (fence? 3 line).isSome then
      let (quoted, rest) := quotedLines rest
      (cleanQuote quoted, rest)
    else quoteFrom false rest
  (expandTabs (first ++ more), rest)

/-! List items. -/

/-- The text of an item behind its mark, and the width its further lines are indented by. -/
private def itemStart (m : ItemMark) : Text × Nat :=
  let lead := m.indent + m.mark.length
  let text := expandTabs (alignTabs 3 m.text)
  let blanks := (text.takeWhile Text.isBlank).length
  if blanks == text.length then ([], lead + 1)
  else
    let width := if Text.startsWith (spaces 5) text then 1 else blanks
    (text.drop width ++ ['\n'], lead + width)

private inductive ItemEnd
  | next (m : ItemMark) (loose : Bool)
  | other

private structure ItemLines where
  text : Text
  rest : Text
  ended : ItemEnd

private def itemLines (lead width : Nat) (bullet : Char) (bare : Bool) (afterBlank : Bool)
    (seen : Text) (s : Text) : ItemLines :=
  let stop : ItemLines := ⟨seen, s, .other⟩
  let (line, rest) := takeLine s
  if _h : rest.length < s.length then
    let plain := (splitLine s).1
    if line.getLast? == some '\n' && isBlankLine plain then
      itemLines lead width bullet bare true (seen ++ ['\n']) rest
    else
      let widened := alignTabs 4 line
      if Text.startsWith (spaces width) widened then
        if afterBlank && bare && seen.all Text.isBlank then stop
        else itemLines lead width bullet bare false (seen ++ widened) rest
      else
        let limit := min 3 lead
        if isRule limit plain then stop
        else
          match nextMark? limit bullet plain with
          | some m => ⟨seen, rest, .next m afterBlank⟩
          | none =>
              if (fence? limit plain).isSome || (heading? limit plain).isSome ||
                  (quoted? limit plain).isSome || interruptsByMarkup limit plain ||
                  (itemMark? limit plain).isSome || afterBlank then stop
              else itemLines lead width bullet bare false (seen ++ widened) rest
  else stop
termination_by s.length

/-- Lines of an item without the indentation that makes them part of it. -/
private def dedent (width : Nat) (s : Text) : Text :=
  ((lines s).map fun line =>
    if Text.startsWith (spaces width) line then expandTabs (line.drop width) else line).flatten

private def trimEnd (s : Text) : Text :=
  let tail := (s.reverse.takeWhile Text.isBlank).reverse
  let body := s.take (s.length - tail.length)
  match tail.dropWhile (· != '\n') with
  | '\n' :: _ => body ++ tail.takeWhile (· != '\n') ++ ['\n']
  | _ => s

private def isLoose (content : List Block) : Bool :=
  let isParagraph : Block → Bool
    | .paragraph _ => true
    | _ => false
  let isBlank : Block → Bool
    | .blank => true
    | _ => false
  content.any isBlank || 1 < content.countP isParagraph

private def tighten : Block → Block
  | .paragraph text => .plain text
  | b => b

/-! Reading blocks. -/

private abbrev Reader := StateM References

private def define (label : Text) (target : LinkTarget) : Reader Unit :=
  modify fun refs =>
    let key := labelKey label
    if (refs.lookup key).isSome then refs else refs ++ [(key, target)]

/-- Text added to the paragraph that was read last, or to a new one. -/
private def addText (text : Text) : List Block → List Block
  | .paragraph t :: done => .paragraph (t ++ text) :: done
  | done => .paragraph text :: done

private def inParagraph : List Block → Bool
  | .paragraph _ :: _ => true
  | _ => false

private def startNumber? (mark : Text) : Option Nat :=
  if mark.length ≤ 1 then none
  else some (mark.dropLast.foldl (fun n c => 10 * n + (Text.digitValue? c).getD 0) 0)

mutual

/-- The blocks of a text behind those that are done, the last one first. `steps` bounds the lines
and nested blocks that are gone into; `depth` counts the blocks around. -/
private def readFrom (steps : Nat) (rules : BlockRules) (depth : Nat) (atStart : Bool)
    (done : List Block) (s : Text) : Reader (List Block) :=
  match steps with
  | 0 => return done.reverse
  | steps + 1 =>
      if s.isEmpty then return done.reverse
      else do
        let found ← if atStart then block? steps rules depth done s else pure none
        match found with
        | some (done, rest) =>
            let before := s[s.length - rest.length - 1]?
            readFrom steps rules depth (before == some '\n') done rest
        | none =>
            let (line, rest) := takeLine s
            readFrom steps rules depth true (addText line done) rest

private def block? (steps : Nat) (rules : BlockRules) (depth : Nat) (done : List Block)
    (s : Text) : Reader (Option (List Block × Text)) :=
  match steps with
  | 0 => return none
  | steps + 1 => do
      let (line, rest) := splitLine s
      let addLine : List Block × Text := (addText (takeLine s).1 done, (takeLine s).2)
      if let some f := fence? 3 line then
        let (b, rest) := fenced f rest
        return some (b :: done, rest)
      else if isIndented line then
        if inParagraph done then return some addLine
        let (extent, rest) := indentedExtent true s
        return some (indentedCode extent :: done, rest)
      else if let some (level, text) := heading? 3 line then
        return some (.heading level text :: done, rest)
      else
        match underline? line, done with
        | some level, .paragraph text :: done => return some (.heading level text :: done, rest)
        | _, _ =>
            if isRule 3 line then return some (.rule :: done, rest)
            else if let some first := if rules.quotes then quoted? 3 line else none then
              let (text, rest) := quoteText first rest
              let inside : BlockRules := ⟨depth + 1 < maxNesting, true, false⟩
              let content ← readFrom steps inside (depth + 1) true [] text
              return some (.quote content :: done, rest)
            else if let some m := if rules.lists then itemMark? 3 line else none then
              let start? := startNumber? m.mark
              if inParagraph done && (m.text.all Text.isBlank || start?.any (· != 1)) then
                return some addLine
              let inside : BlockRules := ⟨true, depth + 1 < maxNesting, false⟩
              let (items, tight, rest) ← items steps inside depth (m.mark.getLast?.getD '-') m true rest
              let items := if tight then items.map (·.map tighten) else items
              return some (.list start? items :: done, rest)
            else if let some (label, behind) := definition? s then
              if inParagraph done then return some addLine
              if (labelKey label).isEmpty then return none
              match target? behind with
              | some (target, rest) =>
                  define label target
                  return some (done, rest)
              | none => return none
            else
              match markupStart? s with
              | some (.to end_ behind) =>
                  let (raw, rest) := untilMark end_ behind s
                  return some (.markup raw :: done, rest)
              | some .block =>
                  let (raw, rest) := untilBlank s
                  return some (.markup raw :: done, rest)
              | some (.tag closing behind) =>
                  if inParagraph done then return some addLine
                  let tag := (splitLine behind).1
                  let tail := if closing then tag else Inline.skipAttributes tag
                  match skipBlanks tail with
                  | '>' :: more =>
                      if more.all isSpaceOrTab then
                        let (raw, rest) := untilBlank s
                        return some (.markup raw :: done, rest)
                      else return none
                  | _ => return none
              | none =>
                  if isBlankLine line && (takeLine s).1.getLast? == some '\n' then
                    return some ((match done with
                      | .blank :: _ => done
                      | _ => .blank :: done), rest)
                  else if rules.tables then
                    match Table.read? s with
                    | some (t, rest) => return some (.table t :: done, rest)
                    | none => return none
                  else return none

/-- The items of a list from the mark of one of them, and whether they stand close together. -/
private def items (steps : Nat) (rules : BlockRules) (depth : Nat) (bullet : Char) (m : ItemMark)
    (tight : Bool) (s : Text) : Reader (List (List Block) × Bool × Text) :=
  match steps with
  | 0 => return ([], tight, s)
  | steps + 1 => do
      let (first, width) := itemStart m
      let found := itemLines (m.indent + m.mark.length) width bullet first.isEmpty false [] s
      let text := trimEnd (first ++ dedent width found.text)
      let content ← readFrom steps rules (depth + 1) true [] text
      let tight := tight && !isLoose content
      match found.ended with
      | .other => return ([content], tight, found.rest)
      | .next m loose =>
          let (more, tight, rest) ← items steps rules depth bullet m (tight && !loose) found.rest
          return (content :: more, tight, rest)

end

def read (s : Text) : List Block × References :=
  (readFrom (4 * s.length + 8) ⟨true, true, true⟩ 0 true [] s).run []

end Block

end Stencil.Markdown
