import Stencil.Markdown.Line
import Stencil.Markup.Entity
import Stencil.Text.Case
/-!
The parts of a link: its label or text in brackets, its address and its title.
-/

namespace Stencil.Markdown

structure LinkTarget where
  url : Text
  title : Option Text

/-- Targets by the key of their label. -/
abbrev References := List (Text × LinkTarget)

/-- Labels that differ in case and blanks only have one key. -/
def labelKey (label : Text) : Text :=
  Text.toUpper (Text.toLower (Text.join [' '] (Text.words label)))

/-- An address with all characters encoded that no address may hold. -/
def encodeUrl (s : Text) : Text :=
  Url.encodeBut (fun c => Url.isUnreserved c || ":/?#@!$&()*+,;=%".toList.elem c)
    (Markup.resolveClosed s)

private def skipEscaped : Text → Option (Text × Text)
  | '\\' :: c :: s => if c == '\n' then none else some (['\\', c], s)
  | _ => none

private def labelFrom : Nat → Text → Option (Text × Text)
  | 0, s =>
      match s with
      | ']' :: rest => some ([], rest)
      | _ => none
  | units + 1, s =>
      match s with
      | ']' :: rest => some ([], rest)
      | [] | '[' :: _ => none
      | '\\' :: _ => do
          let (pair, rest) ← skipEscaped s
          let (label, rest) ← labelFrom units rest
          some (pair ++ label, rest)
      | c :: rest => (labelFrom units rest).map fun (label, rest) => (c :: label, rest)

/-- A label up to its closing bracket: no brackets inside, and at most 500 characters. -/
def label? (s : Text) : Option (Text × Text) := labelFrom 500 s

/-- The text of a link up to the bracket that closes it; brackets inside come in pairs. `escaped`
tells that an odd number of backslashes comes before. -/
private def linkTextFrom (level : Nat) (slashes : Nat) : Text → Option (Text × Text)
  | [] => none
  | c :: s =>
      let keep (r : Option (Text × Text)) := r.map fun (text, rest) => (c :: text, rest)
      if c == '\\' then keep (linkTextFrom level (slashes + 1) s)
      else if (c == '[' || c == ']') && slashes % 2 == 0 then
        if c == ']' && slashes == 0 then
          if level == 0 then some ([], s) else keep (linkTextFrom (level - 1) 0 s)
        else keep (linkTextFrom (level + 1) 0 s)
      else keep (linkTextFrom level 0 s)

def linkText? (s : Text) : Option (Text × Text) := linkTextFrom 0 0 s

/-- Blanks with at most one line feed among them. -/
private def skipBreak (s : Text) : Text :=
  match skipBlanks s with
  | '\n' :: s => skipBlanks s
  | s => s

private def bracketed? : Text → Option (Text × Text)
  | '<' :: s =>
      let stops (c : Char) : Bool := c == '<' || c == '>' || c == '\n' || c == '\\' || c == '\x00'
      match s.dropWhile (!stops ·) with
      | '>' :: rest => some (s.takeWhile (!stops ·), rest)
      | _ => none
  | _ => none

/-- An address up to a blank or the parenthesis that closes the link. -/
private def openAddress (slashes : Nat) : Text → Option (Text × Text)
  | [] => none
  | c :: s =>
      let closes : Bool := c == ')' && slashes % 2 == 0
      if isSpaceOrTab c || c == '\n' || closes then some ([], c :: s)
      else
        (openAddress (if c == '\\' then slashes + 1 else 0) s).map fun (url, rest) =>
          (c :: url, rest)

/-- The address of a link in parentheses, and the rest from the character that ends it. Backslashes
in pairs before the closing parenthesis do not belong to it. -/
def inlineAddress? (s : Text) : Option (Text × Text) :=
  let start := skipBreak s
  if start.head? == some '<' then bracketed? start
  else do
    let (url, rest) ← openAddress 0 start
    some (if rest.head? == some ')' then Text.dropWhileEnd (· == '\\') url else url, rest)

/-- The address of a link definition, which ends at a blank. -/
def blockAddress? (s : Text) : Option (Text × Text) :=
  let start := skipBreak s
  if start.head? == some '<' then bracketed? start
  else
    let url := start.takeWhile (!Text.isBlank ·)
    if url.isEmpty then none else some (url, start.drop url.length)

private def titleFrom (quote : Char) : Text → Option (Text × Text)
  | [] => none
  | '\\' :: c :: s =>
      let plain : Option (Text × Text) :=
        if c == quote then some (['\\'], s)
        else (titleFrom quote (c :: s)).map fun (title, rest) => ('\\' :: title, rest)
      if isPunctuation c then
        ((titleFrom quote s).map fun (title, rest) => ('\\' :: c :: title, rest)).orElse fun _ => plain
      else plain
  | c :: s =>
      if c == quote then some ([], s)
      else if c == '\x00' then none
      else (titleFrom quote s).map fun (title, rest) => (c :: title, rest)

def title? (s : Text) : Option (Text × Text) :=
  let start := s.dropWhile fun c => isSpaceOrTab c || c == '\n'
  match start with
  | c :: rest =>
      if (c == '"' || c == '\'') && start.length < s.length then
        (titleFrom c rest).map fun (title, rest) => (unescape title, rest)
      else none
  | [] => none

def inlineTarget? (s : Text) : Option (LinkTarget × Text) := do
  let (url, rest) ← inlineAddress? s
  let (title, rest) :=
    match title? rest with
    | some (title, rest) => (if title.isEmpty then none else some title, rest)
    | none => (none, rest)
  match rest.dropWhile Text.isBlank with
  | ')' :: rest => some (⟨encodeUrl (unescape url), title⟩, rest)
  | _ => none

end Stencil.Markdown
