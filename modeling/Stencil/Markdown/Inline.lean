import Stencil.Markdown.Link
/-!
The text of a paragraph or heading: code, emphasis, links, raw markup and line breaks. The leftmost
construct is read first, and one that does not close is text.
-/

namespace Stencil.Markdown

inductive Inline
  | text (raw : Text)
  | code (raw : Text)
  | emphasis (content : List Inline)
  | strong (content : List Inline)
  | struck (content : List Inline)
  | link (content : List Inline) (target : LinkTarget)
  | image (content : List Inline) (target : LinkTarget)
  | markup (raw : Text)
  | lineBreak
  | softBreak

/-- The constructs that surround a text; none of them stands within itself. -/
structure Surrounding where
  image : Bool
  link : Bool
  emphasis : Bool
  strong : Bool

namespace Inline

private def consText (c : Char) : List Inline → List Inline
  | .text s :: rest => .text (c :: s) :: rest
  | rest => .text [c] :: rest

/-- The last character of `s` before its rest. -/
private def lastBefore (s rest : Text) (prev : Option Char) : Option Char :=
  if s.length ≤ rest.length then prev else s[s.length - rest.length - 1]?

/-! Code. -/

/-- Code up to a run of `size` backticks; the character before it is no backtick. -/
private def codeFrom (size : Nat) : Nat → Text → Option (Text × Text)
  | _, [] => none
  | skip + 1, c :: s => (codeFrom size skip s).map fun (inner, rest) => (c :: inner, rest)
  | 0, c :: s =>
      if c == '\x60' then
        let run := countStart '\x60' (c :: s)
        if run == size then some ([], (c :: s).drop size)
        else (codeFrom size (run - 1) s).map fun (inner, rest) => (c :: inner, rest)
      else (codeFrom size 0 s).map fun (inner, rest) => (c :: inner, rest)

/-- One space inside at both ends does not count, and line feeds are spaces. -/
private def trimCode (code : Text) : Text :=
  let code := code.map fun c => if c == '\n' then ' ' else c
  if !code.all Text.isBlank && code.head? == some ' ' && code.getLast? == some ' ' then
    code.tail.dropLast
  else code

private def codeAt (s : Text) : List Inline × Text :=
  let size := countStart '\x60' s
  match codeFrom size 0 (s.drop size) with
  | some (inner, rest) => ([.code (trimCode inner)], rest)
  | none => ([.text (s.take size)], s.drop size)

/-! Escapes and breaks. -/

private def escapesAt (s : Text) : Text × Text :=
  match s with
  | '\\' :: c :: rest =>
      if isPunctuation c then
        let (more, rest) := escapesAt rest
        (c :: more, rest)
      else ([], s)
  | s => ([], s)

/-- A line feed with the spaces before it: two or more, or a backslash, break the line. -/
private def breakAt? (s : Text) : Option (Inline × Text) :=
  let afterSpaces := s.drop (countStart ' ' s)
  match s, afterSpaces with
  | '\\' :: '\n' :: rest, _ => some (.lineBreak, Text.trimLeft rest)
  | _, '\n' :: rest =>
      some (if 2 ≤ countStart ' ' s then .lineBreak else .softBreak, Text.trimLeft rest)
  | _, _ => none

/-! Emphasis. -/

/-- An opening mark: one to three of a character with text right behind it. -/
private def opening? (c : Char) (most : Nat) (prev : Option Char) (s : Text) : Option Nat :=
  let run := countStart c s
  let open_ : Bool := (s.drop run).head?.any (!Text.isBlank ·)
  let free : Bool := c != '_' || !(prev.any Text.isWord)
  if 1 ≤ run && run ≤ most && open_ && free then some run else none

private def closing? (c : Char) (size : Nat) (s : Text) : Option Text :=
  let rest := s.drop size
  let free : Bool := c != '_' || !(rest.head?.any Text.isWord)
  if countStart c s == size && free then some rest else none

/-- The text up to its closing mark, which stands behind a character that is no blank. `prev` is the
character in front. -/
private def untilClosing (c : Char) (size : Nat) (prev : Option Char) :
    Text → Option (Text × Text)
  | [] => none
  | d :: s =>
      let slashes := countStart '\\' (d :: s)
      let behindEscape := (d :: s).drop (slashes + 1)
      let escaped : Option (Text × Text) :=
        if slashes % 2 == 1 && prev != some '\\' && ((d :: s).drop slashes).head? == some c then
          (closing? c size behindEscape).map fun rest => ((d :: s).take (slashes + 1), rest)
        else none
      let direct : Option (Text × Text) :=
        if d != c && !Text.isBlank d then (closing? c size s).map fun rest => ([d], rest) else none
      match escaped.orElse fun _ => direct with
      | some found => some found
      | none => (untilClosing c size (some d) s).map fun (inner, rest) => (d :: inner, rest)

/-! Addresses in angle brackets, and raw markup. -/

private def isAlnum (c : Char) : Bool := Text.isAsciiLetter c || Text.isAsciiDigit c

/-- The name of an address scheme up to its colon: two to 32 characters. -/
private def scheme? (s : Text) : Option Text :=
  let isPart (c : Char) : Bool := isAlnum c || c == '.' || c == '+' || c == '-'
  let run := s.takeWhile isPart
  if s.head?.any Text.isAsciiLetter && 2 ≤ run.length && run.length ≤ 32 then
    match s.drop run.length with
    | ':' :: rest => some rest
    | _ => none
  else none

private def upTo (end_ : Text) (s : Text) : Option (Text × Text) :=
  (Text.cut? end_ s).map fun (before, rest) => (before ++ end_, rest)

private def autoLink? (s : Text) : Option (Text × Text) := do
  let inner ← Text.dropStart? ['<'] s
  let rest ← scheme? inner
  match rest.dropWhile fun c => !(c == '<' || c == '>' || c.toNat ≤ 32) with
  | '>' :: rest => some (inner.take (inner.length - rest.length - 1), rest)
  | _ => none

/-- A part of a mail domain: letters, digits and inner hyphens, at most 63. -/
private def isDomainPart (s : Text) : Bool :=
  !s.isEmpty && s.length ≤ 63 && s.all (fun c => isAlnum c || c == '-') && s.head?.any isAlnum &&
    s.getLast?.any isAlnum

private def autoMail? (s : Text) : Option (Text × Text) := do
  let inner ← Text.dropStart? ['<'] s
  let (body, rest) ← Text.cut? ['>'] inner
  let (user, domain) ← Text.cut? ['@'] body
  let isUserChar (c : Char) : Bool :=
    isAlnum c || ".!#$%&'*+/=?^_\x60\x7b|\x7d~-".toList.elem c
  if !user.isEmpty && user.all isUserChar && (Text.splitAt '.' domain).all isDomainPart then
    some (body, rest)
  else none

private def tagName? (s : Text) : Option Text :=
  if s.head?.any Text.isAsciiLetter then some (s.dropWhile fun c => isAlnum c || c == '-') else none

private def attributeValue? (s : Text) : Option Text :=
  match s with
  | '"' :: rest => (upTo ['"'] rest).map (·.2)
  | '\'' :: rest => (upTo ['\''] rest).map (·.2)
  | s =>
      let stops (c : Char) : Bool :=
        Text.isBlank c || "\"'=<>\x60".toList.elem c
      let rest := s.dropWhile (!stops ·)
      if rest.length < s.length then some rest else none

private def attribute? (s : Text) : Option Text :=
  let start := Text.trimLeft s
  let isFirst (c : Char) : Bool := Text.isAsciiLetter c || c == '_' || c == ':'
  let isNext (c : Char) : Bool := isAlnum c || "_.:-".toList.elem c
  if start.length < s.length && start.head?.any isFirst then
    let rest := start.dropWhile isNext
    match Text.trimLeft rest with
    | '=' :: value => some ((attributeValue? (Text.trimLeft value)).getD rest)
    | _ => some rest
  else none

def skipAttributes (s : Text) : Text :=
  match attribute? s with
  | some rest => if _h : rest.length < s.length then skipAttributes rest else s
  | none => s
termination_by s.length

private def openTag? (s : Text) : Option Text := do
  let rest := Text.trimLeft (skipAttributes (← tagName? s))
  match rest with
  | '/' :: '>' :: rest => some rest
  | '>' :: rest => some rest
  | _ => none

private def closeTag? (s : Text) : Option Text := do
  match Text.trimLeft (← tagName? s) with
  | '>' :: rest => some rest
  | _ => none

/-- The rest behind an ending that has at least one character in front. -/
private def behind? (end_ : String) (s : Text) : Option Text :=
  match s with
  | _ :: s => (Text.cut? end_.toList s).map (·.2)
  | [] => none

private def comment? (s : Text) : Option Text :=
  if s.head? == some '>' || Text.startsWith ['-', '>'] s then none
  else
    match Text.cut? ['-', '-'] s with
    | some (before, '>' :: rest) => if before.isEmpty then none else some rest
    | _ => none

/-- The rest behind raw markup: a tag, a comment, an instruction or a declaration. -/
private def markup? (s : Text) : Option Text :=
  match s with
  | '<' :: '/' :: rest => closeTag? rest
  | '<' :: '?' :: rest => behind? "?>" rest
  | '<' :: '!' :: rest =>
      if Text.startsWith "--".toList rest then comment? (rest.drop 2)
      else if Text.startsWith "[CDATA".toList rest then behind? "]]>" (rest.drop 6)
      else if rest.head?.any (fun c => 'A' ≤ c && c ≤ 'Z') then behind? ">" (rest.drop 1)
      else none
  | '<' :: rest => openTag? rest
  | _ => none

private def linkTag? (raw : Text) : Option Bool :=
  let lower := raw.map Char.toLower
  let starts (t : String) : Bool := Text.startsWith t.toList lower
  if starts "<a " || starts "<a>" then some true
  else if starts "</a " || starts "</a>" then some false
  else none

/-- A web address in plain text, without the punctuation behind it. -/
private def bareUrl? (s : Text) : Option (Text × Text) := do
  let rest ← (Text.dropStart? "https://".toList s).orElse fun _ =>
    Text.dropStart? "http://".toList s
  let run := rest.takeWhile fun c => !(Text.isBlank c || c == '<')
  let kept := Text.dropWhileEnd (fun c => ".,:;\"')]".toList.elem c) run
  if 2 ≤ kept.length then
    let size := s.length - rest.length + kept.length
    some (s.take size, s.drop size)
  else none

/-! Precedence: code, links and markup that reach beyond an end win over what would end there. -/

private def beginsMarkup (s : Text) : Bool :=
  match s with
  | '<' :: '/' :: c :: _ => Text.isAsciiLetter c
  | '<' :: c :: rest =>
      c == '!' || c == '?' || Text.isAsciiLetter c || (scheme? (c :: rest)).isSome
  | _ => false

/-- The first place of a text where one of the winning constructs may begin. -/
private def rival? (links : Bool) : Text → Option (Text × Text)
  | [] => none
  | c :: s =>
      let found : Bool := c == '\x60' || beginsMarkup (c :: s) ||
        (links && (c == '[' || (c == '!' && s.head? == some '[')))
      if found then some ([], c :: s)
      else (rival? links s).map fun (before, rest) => (c :: before, rest)

private def plainLink (url text : Text) : Inline := .link [.text text] ⟨url, none⟩

/-- What one construct reads: its parts, the rest, and whether a raw link is open behind it. -/
private abbrev Reading := Option (List Inline × Text × Surrounding)

private def angle? (around : Surrounding) (s : Text) : Reading :=
  match autoLink? s with
  | some (url, rest) =>
      some ([if around.link then .text (s.take (url.length + 2)) else plainLink (encodeUrl url) url],
        rest, around)
  | none =>
      match autoMail? s with
      | some (mail, rest) =>
          some ([if around.link then .text (s.take (mail.length + 2))
            else plainLink (encodeUrl ("mailto:".toList ++ mail)) mail], rest, around)
      | none => do
          let rest ← markup? s
          let raw := s.take (s.length - rest.length)
          some ([.markup raw], rest,
            { around with link := (linkTag? raw).getD around.link })

mutual

/-- The parts of a text. `steps` bounds the characters and constructs that are gone into. -/
def ofText (refs : References) (steps : Nat) (around : Surrounding) (prev : Option Char)
    (s : Text) : List Inline :=
  match steps, s with
  | 0, s => [.text s]
  | _, [] => []
  | steps + 1, c :: s =>
      match construct? refs steps around prev (c :: s) with
      | some (parts, rest, around) =>
          parts ++ ofText refs steps around (lastBefore (c :: s) rest prev) rest
      | none => consText c (ofText refs steps around (some c) s)

private def construct? (refs : References) (steps : Nat) (around : Surrounding)
    (prev : Option Char) (s : Text) : Reading :=
  match steps with
  | 0 => none
  | steps + 1 =>
      match s with
      | [] => none
      | c :: rest =>
          if c == '\\' then
            match escapesAt s with
            | ([], _) => (breakAt? s).map fun (part, rest) => ([part], rest, around)
            | (inner, rest) => some ([.text inner], rest, around)
          else if c == '\x60' then
            let (parts, rest) := codeAt s
            some (parts, rest, around)
          else if c == '*' || c == '_' then
            (opening? c 3 prev s).bind fun size => emphasis? refs steps around c size s
          else if c == '~' then
            match opening? '~' 2 none s with
            | some 2 => struck? refs steps around s
            | _ => none
          else if c == '[' then link? refs steps around false s
          else if c == '!' && rest.head? == some '[' then link? refs steps around true s
          else if c == '<' then angle? around s
          else if c == ' ' || c == '\n' then
            (breakAt? s).map fun (part, rest) => ([part], rest, around)
          else if c == 'h' then
            (bareUrl? s).map fun (url, rest) =>
              ([if around.link then .text url else plainLink (encodeUrl url) url], rest, around)
          else none

private def emphasis? (refs : References) (steps : Nat) (around : Surrounding) (c : Char)
    (size : Nat) (s : Text) : Reading :=
  match steps with
  | 0 => none
  | steps + 1 =>
      let mark : Reading := some ([.text (s.take size)], s.drop size, around)
      if (size == 1 && around.emphasis) || (size == 2 && around.strong) then mark
      else
        match untilClosing c size (some c) (s.drop size) with
        | none => mark
        | some (inner, rest) =>
            match crossing? refs steps around true (s.take size) (s.drop size) rest.length with
            | some reading => some reading
            | none =>
                let inside (around : Surrounding) := ofText refs steps around none inner
                let part : Inline :=
                  if size == 1 then .emphasis (inside { around with emphasis := true })
                  else if size == 2 then .strong (inside { around with strong := true })
                  else .emphasis [.strong (inside { around with emphasis := true, strong := true })]
                some ([part], rest, around)

private def struck? (refs : References) (steps : Nat) (around : Surrounding) (s : Text) : Reading :=
  match steps with
  | 0 => none
  | steps + 1 =>
      (untilClosing '~' 2 (some '~') (s.drop 2)).map fun (inner, rest) =>
        ([.struck (ofText refs steps around none inner)], rest, around)

/-- A link or image: an address in parentheses, or a label that is defined. -/
private def link? (refs : References) (steps : Nat) (around : Surrounding) (image : Bool)
    (s : Text) : Reading :=
  match steps with
  | 0 => none
  | steps + 1 =>
      let mark := if image then s.take 2 else s.take 1
      let body := s.drop mark.length
      if (image && around.image) || (!image && around.link) then some ([.text mark], body, around)
      else do
        let label := label? body
        let (inner, rest) ← label.orElse fun _ => linkText? body
        match crossing? refs steps around false mark body rest.length with
        | some reading => some reading
        | none =>
            let part (target : LinkTarget) : Inline :=
              if image then .image (ofText refs steps { around with image := true } none inner) target
              else .link (ofText refs steps { around with link := true } none inner) target
            let direct : Option (LinkTarget × Text) :=
              match rest with
              | '(' :: rest => inlineTarget? rest
              | _ => none
            match direct with
            | some (target, rest) => some ([part target], rest, around)
            | none =>
                let second : Option (Text × Text) :=
                  match rest with
                  | '[' :: rest => label? rest
                  | _ => none
                let (name?, rest) :=
                  match second with
                  | some (name, rest) =>
                      (if name.isEmpty then label.map (·.1) else some name, rest)
                  | none => (label.map (·.1), rest)
                let target ← refs.lookup (labelKey (← name?))
                some ([part target], rest, around)

/-- The construct that begins between a mark and the end of what it marks, if it reaches beyond that
end: `left` characters are behind the end. -/
private def crossing? (refs : References) (steps : Nat) (around : Surrounding) (links : Bool)
    (mark s : Text) (left : Nat) : Reading :=
  match steps with
  | 0 => none
  | steps + 1 =>
      match rival? links (s.take (s.length - left)) with
      | none => none
      | some (before, _) =>
          let start := s.drop before.length
          match start with
          | [] => none
          | c :: _ =>
              let reading : Reading :=
                if c == '\x60' then
                  let (parts, rest) := codeAt start
                  some (parts, rest, around)
                else if c == '<' then angle? around start
                else link? refs steps around (c == '!') start
              match reading with
              | some (parts, rest, _) =>
                  if rest.length ≤ left then some (.text (mark ++ before) :: parts, rest, around)
                  else none
              | none => none

end

def read (refs : References) (s : Text) : List Inline :=
  ofText refs (4 * s.length + 4) ⟨false, false, false, false⟩ none s

end Inline

end Stencil.Markdown
