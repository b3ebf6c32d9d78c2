import Stencil.Function.Basic
import Stencil.Markdown.Render
import Stencil.Markup.Entity
import Stencil.Markup.Tags
import Stencil.Text.Slug
/-!
Functions on texts.
-/

namespace Stencil.Function

def isCapital (c : Char) : Bool := 65 ≤ c.toNat && c.toNat ≤ 90

def isSmall (c : Char) : Bool := 97 ≤ c.toNat && c.toNat ≤ 122

/-- Puts an underscore before the last of several capitals that a small letter follows. `run` holds
the capitals just read, last first. -/
def breakAcronyms (run : Text) : Text → Text
  | [] => run.reverse
  | c :: s =>
      if isCapital c then breakAcronyms (c :: run) s
      else
        match run with
        | last :: before@(_ :: _) =>
            if isSmall c then before.reverse ++ '_' :: last :: c :: breakAcronyms [] s
            else run.reverse ++ c :: breakAcronyms [] s
        | _ => run.reverse ++ c :: breakAcronyms [] s

/-- Puts an underscore between a small letter or digit and a capital. -/
def breakHumps : Text → Text
  | a :: b :: s =>
      if (isSmall a || Text.isDecimal a) && isCapital b then a :: '_' :: breakHumps (b :: s)
      else a :: breakHumps (b :: s)
  | s => s

/-- Runs of characters that satisfy `p` become one `by_`. -/
def collapse (p : Char → Bool) (by_ : Char) (inRun : Bool) : Text → Text
  | [] => []
  | c :: s =>
      if p c then if inRun then collapse p by_ true s else by_ :: collapse p by_ true s
      else c :: collapse p by_ false s

/-- `camelCase` and `dash-case` as `snake_case`. -/
def underscored (s : Text) : Text :=
  Text.toLower
    (collapse (fun c => c == '-' || Text.isBlank c) '_' false (breakHumps (breakAcronyms [] s)))

/-- Runs of one character become that character once, for the characters that satisfy `p`. -/
def squeezed (p : Char → Bool) : Text → Text
  | a :: b :: s => if a == b && p a then squeezed p (b :: s) else a :: squeezed p (b :: s)
  | s => s

/-- Every run of line feeds becomes a space. -/
def oneLine (s : Text) : Text := Text.trim (collapse (· == '\n') ' ' false s)

def chomp : Function where
  required := []
  optional := some 2
  run := fun _ args => do
    let s ← (arg args 0).joined
    match arg args 1 .nil with
    | .nil =>
        if Text.endsWith "\r\n".toList s then return .text s.dropLast.dropLast
        else if s.getLast? == some '\n' || s.getLast? == some '\r' then return .text s.dropLast
        else return .text s
    | final =>
        let final ← final.joined
        return .text
          (if !final.isEmpty && Text.endsWith final s then s.take (s.length - final.length) else s)

def squeeze : Function where
  required := []
  optional := some 2
  run := fun _ args => do
    let s ← (arg args 0).joined
    let chars ← (arg args 1).joined
    return .text (squeezed (if chars.isEmpty then fun _ => true else chars.elem) s)

def delete : Function where
  required := []
  optional := some 2
  run := fun _ args => do
    let chars ← (arg args 1).joined
    return .text ((← (arg args 0).joined).filter (!chars.elem ·))

def reverse : Function where
  required := []
  optional := some 1
  run := fun _ args => do
    let v := arg args 0
    if v.isSequence then return .text (Text.join [','] (← v.items).reverse)
    else return .text (← v.joined).reverse

/-- The longest text there can be. -/
def maxLength : Nat := 9223372036854775807

def repeated : Function where
  required := []
  optional := some 2
  run := fun _ args => do
    let s ← (arg args 0).joined
    let n := (← (arg args 1 (.int 1)).count 1).toNat
    if maxLength < n || maxLength < s.length * n then throw .overflow
    return .text (if s.isEmpty then [] else (List.replicate n s).flatten)

def pluralize : Function where
  required := ["word"]
  optional := some 1
  run := fun _ args => do
    let s ← (arg args 0).joined
    let n ← (arg args 1 (.int 1)).count 1
    return .text (if n == 1 then s else s ++ ['s'])

def singularize : Function where
  required := ["word"]
  optional := some 0
  run := fun _ args => do
    let s ← (arg args 0).joined
    return .text (if s.getLast? == some 's' then s.dropLast else s)

def defaultLength : Int := 50

def defaultWords : Int := 15

def truncate : Function where
  required := ["text"]
  optional := some 2
  run := fun _ args => do
    let length ← (arg args 1 (.int defaultLength)).count defaultLength
    if length < 0 then throw (refusal "truncate length must be positive")
    let s ← (arg args 0).joined
    return .text (Text.truncate length (← (arg args 2 (.text Text.ellipsis)).joined) s)

def truncateWords : Function where
  required := ["text"]
  optional := some 2
  run := fun _ args => do
    let limit ← (arg args 1 (.int defaultWords)).count defaultWords
    if limit < 0 then throw (refusal "truncatewords count must be positive")
    let s ← (arg args 0).joined
    let words := Text.words s
    if (words.length : Int) ≤ limit then return .text s
    let omission ← (arg args 2 (.text Text.ellipsis)).joined
    return .text (Text.join [' '] (words.take limit.toNat) ++ omission)

def replace : Function where
  required := []
  optional := some 3
  run := fun _ args => do
    let needle ← (arg args 1).joined
    let s ← (arg args 0).joined
    if needle.isEmpty then return .text s
    return .text (Text.replace needle (← (arg args 2).joined) s)

def remove : Function where
  required := []
  optional := some 2
  run := fun _ args => do
    let needle ← (arg args 1).joined
    return .text (Text.replace needle [] (← (arg args 0).joined))

def unescape : Function where
  required := []
  optional := some 1
  run := fun _ args => do return .text (← Markup.unescape (← (arg args 0).joined))

def readingTime : Function where
  required := []
  optional := some 2
  run := fun _ args => do
    let s ← (arg args 0).joined
    let minutes := Text.readingTime (← (arg args 1 (.int 200)).count 200) s
    return .text (Text.ofNat minutes ++ " min read".toList)

def words : List (String × Function) :=
  [ ("upper", mapText Text.toUpper),
    ("lower", mapText Text.toLower),
    ("title", mapText Text.capitalizeWords),
    ("trim", mapText Text.trim),
    ("lstrip", mapText Text.trimLeft),
    ("rstrip", mapText Text.trimRight),
    ("chomp", chomp),
    ("slugify", mapText Text.slugify),
    ("camelize", mapText fun s =>
      ((Text.runs (fun c => c == '-' || c == '_' || Text.isBlank c) s).map
        Text.capitalize).flatten),
    ("underscore", mapText underscored),
    ("dasherize", mapText fun s => (underscored s).map fun c => if c == '_' then '-' else c),
    ("squeeze", squeeze),
    ("delete", delete),
    ("reverse", reverse),
    ("repeat", repeated),
    ("pluralize", pluralize),
    ("singularize", singularize),
    ("truncate", truncate),
    ("truncatewords", truncateWords),
    ("strip_newlines", mapText oneLine),
    ("newline_to_br", mapText (Text.replace ['\n'] "<br>".toList)),
    ("escape", mapText Markup.escape),
    ("unescape", unescape),
    ("replace", replace),
    ("remove", remove),
    ("char_count", onText fun s => .int s.length),
    ("word_count", onText fun s => .int (Text.wordCount s)),
    ("reading_time", readingTime),
    ("markdownify", mapText Markdown.render),
    ("strip_html", mapText Markup.stripTags),
    ("escape_html", mapText Markup.escape),
    ("unescape_html", unescape),
    ("urlize", mapText Text.slugify),
    ("string", mapText id) ]

end Stencil.Function
