import Stencil.Markdown.Block
import Stencil.Markup.Tags
import Stencil.Number.Shortest
/-!
Markdown rendered as HTML. Markup in the text is shown and not obeyed.
-/

namespace Stencil.Markdown

private def escape (s : Text) : Text :=
  s.flatMap fun c =>
    if c == '&' then "&amp;".toList
    else if c == '<' then "&lt;".toList
    else if c == '>' then "&gt;".toList
    else if c == '"' then "&quot;".toList
    else [c]

/-- Escaped text in which references are not escaped twice. -/
private def escapeResolved (s : Text) : Text := escape (Markup.resolveClosed s)

/-- Addresses that would run or read something are not linked; plain images are. -/
private def safeUrl (url : Text) : Text :=
  let lower := Text.toLower url
  let starts (names : List String) : Bool := names.any fun n => Text.startsWith n.toList lower
  let harmful := starts ["javascript:", "vbscript:", "file:", "data:"] &&
    !starts ["data:image/gif;", "data:image/png;", "data:image/jpeg;", "data:image/webp;"]
  if harmful then "#harmful-link".toList else escape url

private def stripTags : Scanner Text := fun s =>
  let comment : Option Text := do
    let rest ← Text.dropStart? "<!--".toList s
    let (before, rest) ← Text.cut? "-->".toList rest
    if before.elem '\n' then none else some rest
  match comment with
  | some rest => some ([], rest)
  | none => (Markup.tagSpan s).map fun (_, rest) => ([], rest)

private def titleAttribute (target : LinkTarget) : Text :=
  match target.title with
  | some title => " title=\"".toList ++ escapeResolved title ++ ['"']
  | none => []

private def element (name : String) (content : Text) : Text :=
  "<".toList ++ name.toList ++ ['>'] ++ content ++ "</".toList ++ name.toList ++ ['>']

mutual

private def inlineHtml : Inline → Text
  | .text raw => escape raw
  | .markup raw => escape raw
  | .code raw => element "code" (escape raw)
  | .emphasis content => element "em" (inlinesHtml content)
  | .strong content => element "strong" (inlinesHtml content)
  | .struck content => element "del" (inlinesHtml content)
  | .link content target =>
      "<a href=\"".toList ++ safeUrl target.url ++ ['"'] ++ titleAttribute target ++ ['>'] ++
        inlinesHtml content ++ "</a>".toList
  | .image content target =>
      "<img src=\"".toList ++ safeUrl target.url ++ "\" alt=\"".toList ++
        escape (Scanner.replace stripTags (inlinesHtml content)) ++ ['"'] ++ titleAttribute target ++
        " />".toList
  | .lineBreak => "<br />\n".toList
  | .softBreak => ['\n']

private def inlinesHtml : List Inline → Text
  | [] => []
  | part :: rest => inlineHtml part ++ inlinesHtml rest

end

private def isEdge (c : Char) : Bool :=
  c == ' ' || c == '\r' || c == '\n' || c == '\t' || c == '\x0c'

private def textHtml (refs : References) (text : Text) : Text :=
  inlinesHtml (Inline.read refs (Text.strip isEdge text))

private def codeHtml (info : Option Text) (body : Text) : Text :=
  let language := ((info.map fun i => Text.words (escapeResolved i)).getD []).head?
  let start :=
    match language with
    | some name => "<pre><code class=\"language-".toList ++ name ++ "\">".toList
    | none => "<pre><code>".toList
  start ++ escape body ++ "</code></pre>\n".toList

private def Alignment.word : Alignment → String
  | .left => "left"
  | .center => "center"
  | .right => "right"

private def cellHtml (refs : References) (tag : String) (column : Option Alignment) (text : Text) :
    Text :=
  let style :=
    match column with
    | some a => (" style=\"text-align:" ++ a.word ++ "\"").toList
    | none => []
  "  <".toList ++ tag.toList ++ style ++ ['>'] ++ textHtml refs text ++ "</".toList ++ tag.toList ++
    ">\n".toList

private def rowHtml (refs : References) (tag : String) (columns : List (Option Alignment))
    (cells : List Text) : Text :=
  "<tr>\n".toList ++ ((columns.zip cells).map fun (a, text) => cellHtml refs tag a text).flatten ++
    "</tr>\n".toList

private def tableHtml (refs : References) (t : Table) : Text :=
  "<table>\n<thead>\n".toList ++ rowHtml refs "th" t.columns t.head ++
    "</thead>\n<tbody>\n".toList ++ (t.rows.map (rowHtml refs "td" t.columns)).flatten ++
    "</tbody>\n</table>\n".toList

mutual

private def blockHtml (refs : References) : Block → Text
  | .paragraph text => element "p" (textHtml refs text) ++ ['\n']
  | .plain text => textHtml refs text
  | .heading level text => element ("h" ++ toString level) (textHtml refs text) ++ ['\n']
  | .rule => "<hr />\n".toList
  | .code info body => codeHtml info body
  | .quote content => "<blockquote>\n".toList ++ blocksHtml refs content ++ "</blockquote>\n".toList
  | .list none items => "<ul>\n".toList ++ itemsHtml refs items ++ "</ul>\n".toList
  | .list (some start) items =>
      let number := if start == 1 then [] else " start=\"".toList ++ Text.ofNat start ++ ['"']
      "<ol".toList ++ number ++ ">\n".toList ++ itemsHtml refs items ++ "</ol>\n".toList
  | .table t => tableHtml refs t
  | .markup raw => element "p" (escape (Text.trim raw)) ++ ['\n']
  | .blank => []

private def blocksHtml (refs : References) : List Block → Text
  | [] => []
  | b :: rest => blockHtml refs b ++ blocksHtml refs rest

private def itemsHtml (refs : References) : List (List Block) → Text
  | [] => []
  | item :: rest => element "li" (blocksHtml refs item) ++ '\n' :: itemsHtml refs rest

end

def render (s : Text) : Text :=
  let s := s.normalizeNewlines
  let s := if s.getLast? == some '\n' then s else s ++ ['\n']
  let (blocks, refs) := Block.read s
  blocksHtml refs blocks

end Stencil.Markdown
