import Stencil.Yaml.Scalar
import Stencil.Number.Reading
/-!
The tokens of a YAML document. Indentation becomes explicit here: blocks have a start and an end
token, and a key that is only known as one by the colon behind it gets its token in front.
-/

namespace Stencil.Yaml

inductive Directive
  | version (major : Nat)
  | tagHandle (handle start : Text)
  | other

inductive Token
  | directive (d : Directive)
  | documentStart
  | documentEnd
  | streamEnd
  | blockSequenceStart
  | blockMappingStart
  | blockEnd
  | flowSequenceStart
  | flowSequenceEnd
  | flowMappingStart
  | flowMappingEnd
  | flowEntry
  | blockEntry
  | key
  | value
  | anchorUse (name : Text)
  | anchor (name : Text)
  | tag (handle : Option Text) (suffix : Text)
  | scalar (text : Text) (plain : Bool)

/-- A token that becomes a key if a colon follows it on its line. -/
structure OpenKey where
  position : Nat
  required : Bool
  index : Nat
  line : Nat
  column : Nat

structure Lexer where
  rest : Text
  index : Nat
  line : Nat
  column : Nat
  tokens : Array Token
  depth : Int
  indent : Int
  indents : List Int
  keysAllowed : Bool
  openKeys : List (Int × OpenKey)
  done : Bool

namespace Lexer

def start (s : Text) : Lexer := ⟨s, 0, 0, 0, #[], 0, -1, [], true, [], false⟩

def inFlow (l : Lexer) : Bool := l.depth != 0

def advance (l : Lexer) : Lexer :=
  match l.rest with
  | [] => l
  | c :: s =>
      let l := { l with rest := s, index := l.index + 1 }
      if isBreak c && !(c == '\r' && s.head? == some '\n') then
        { l with line := l.line + 1, column := 0 }
      else if c.toNat == 0xfeff then l
      else { l with column := l.column + 1 }

def advanceBy : Nat → Lexer → Lexer
  | 0, l => l
  | n + 1, l => advanceBy n l.advance

def moveTo (l : Lexer) (rest : Text) : Lexer := advanceBy (l.rest.length - rest.length) l

def push (t : Token) (l : Lexer) : Lexer := { l with tokens := l.tokens.push t }

/-! Open keys. -/

/-- A key that must be one can no longer be one. -/
def refuse (key : OpenKey) : Except Fault Unit :=
  if key.required then .error badToken else .ok ()

/-- Open keys end with their line, and are never longer than 1024 characters. -/
def dropStaleKeys (l : Lexer) : Except Fault Lexer := do
  let isStale (key : OpenKey) : Bool := key.line != l.line || 1024 < l.index - key.index
  l.openKeys.forM fun (_, key) => if isStale key then refuse key else pure ()
  return { l with openKeys := l.openKeys.filter fun (_, key) => !isStale key }

def removeKey (l : Lexer) : Except Fault Lexer := do
  match l.openKeys.lookup l.depth with
  | some key =>
      refuse key
      return { l with openKeys := l.openKeys.filter (·.1 != l.depth) }
  | none => return l

def saveKey (l : Lexer) : Except Fault Lexer := do
  let required := !l.inFlow && l.indent == l.column
  if l.keysAllowed then
    let l ← l.removeKey
    let key : OpenKey := ⟨l.tokens.size, required, l.index, l.line, l.column⟩
    return { l with openKeys := (l.depth, key) :: l.openKeys }
  else return l

/-! Indentation. -/

def unwind (column : Int) (l : Lexer) : Lexer :=
  let ended := (l.indent :: l.indents).takeWhile (column < ·)
  match (l.indent :: l.indents).dropWhile (column < ·) with
  | [] => l
  | indent :: indents =>
      if l.inFlow then l
      else
        { l with
          indent := indent, indents := indents,
          tokens := l.tokens ++ (ended.map fun _ => Token.blockEnd) }

/-- Whether a column is deeper than the current block, and the lexer in the new block if so. -/
def deepen (column : Nat) (l : Lexer) : Bool × Lexer :=
  if l.indent < column then (true, { l with indent := column, indents := l.indent :: l.indents })
  else (false, l)

/-- Begins a block with a token of its own where the current column is deeper. -/
def beginBlock (t : Token) (l : Lexer) : Lexer :=
  match l.deepen l.column with
  | (true, l) => l.push t
  | (false, l) => l

/-! Between tokens. -/

/-- Goes over spaces, comments and line breaks; a new line may begin with a key. -/
def skipToToken (l : Lexer) : Lexer :=
  let l := if l.index == 0 && l.rest.head?.any (·.toNat == 0xfeff) then l.advance else l
  let (breaks, rest) := Id.run (many (fun s => lineBreak? (skipComment (skipSpaces s))) l.rest)
  let l := l.moveTo (skipComment (skipSpaces rest))
  if breaks.isEmpty || l.inFlow then l else { l with keysAllowed := true }

/-! Single tokens. -/

def indicator (t : Token) (l : Lexer) : Lexer := l.advance.push t

def scalarToken (t : Except Fault (Text × Text)) (l : Lexer) : Except Fault Lexer := do
  let (text, rest) ← t
  return (l.moveTo rest).push (.scalar text false)

def streamEnd (l : Lexer) : Except Fault Lexer := do
  let l ← (l.unwind (-1)).removeKey
  return { l.push .streamEnd with keysAllowed := false, openKeys := [], done := true }

def documentMark (t : Token) (l : Lexer) : Except Fault Lexer := do
  let l ← (l.unwind (-1)).removeKey
  return ({ l with keysAllowed := false }.moveTo (l.rest.drop 3)).push t

def name (s : Text) : Except Fault (Text × Text) :=
  let found := s.takeWhile isNameChar
  if found.isEmpty then .error badToken else .ok (found, s.dropWhile isNameChar)

def isUriChar (c : Char) : Bool :=
  isNameChar c || (c != '%' && "-;/?:@&=+$,_.!~*'()[]".toList.contains c)

/-- Octets written as `%` and two hexadecimal digits. -/
def uriOctets (s : Text) : Except Fault (List Nat × Text) :=
  many
    (fun s =>
      match s with
      | '%' :: s =>
          match hexNumber? 2 s with
          | some (n, s) => .ok (some (n, s))
          | none => .error badToken
      | _ => .ok none)
    s

def uri (s : Text) : Except Fault (Text × Text) := do
  let (parts, rest) ← many
    (fun s =>
      match s with
      | [] => return none
      | c :: rest => do
          if isUriChar c then return some ([c], rest)
          else if c == '%' then
            let (octets, rest) ← uriOctets s
            match String.fromUTF8? ⟨(octets.map Nat.toUInt8).toArray⟩ with
            | some text => return some (text.toList, rest)
            | none => throw badToken
          else return none)
    s
  if parts.isEmpty then throw badToken else return (parts.flatten, rest)

/-- A handle such as `!` or `!!`, from its first exclamation mark. -/
def tagHandle (s : Text) : Except Fault (Text × Text) :=
  match s with
  | '!' :: s =>
      if s.head? == some ' ' then .ok (['!'], s)
      else
        match s.dropWhile isNameChar with
        | '!' :: rest => .ok ('!' :: s.takeWhile isNameChar ++ ['!'], rest)
        | _ => .error badToken
  | _ => .error badToken

def number (s : Text) : Except Fault (Nat × Text) :=
  let digits := s.takeWhile Text.isAsciiDigit
  if digits.isEmpty then .error badToken
  else if Text.maxDigits < digits.length then .error .outOfDomain
  else .ok (digits.foldl (fun n c => 10 * n + (c.toNat - 48)) 0, s.dropWhile Text.isAsciiDigit)

def directiveBody (s : Text) : Except Fault (Directive × Text) := do
  let (word, s) ← name s
  if !atSpace s then throw badToken
  if word == "YAML".toList then
    match ← number (skipSpaces s) with
    | (major, '.' :: s) =>
        let (_, s) ← number s
        if atSpace s then return (.version major, s) else throw badToken
    | _ => throw badToken
  else if word == "TAG".toList then
    let (handle, s) ← tagHandle (skipSpaces s)
    if s.head? != some ' ' then throw badToken
    let (start, s) ← uri (skipSpaces s)
    if atSpace s then return (.tagHandle handle start, s) else throw badToken
  else return (.other, s.dropWhile (!isBreak ·))

def directive (l : Lexer) : Except Fault Lexer := do
  let l ← (l.unwind (-1)).removeKey
  let (d, s) ← directiveBody (l.rest.drop 1)
  return ({ l with keysAllowed := false }.moveTo (← finishLine s)).push (.directive d)

def openBracket (t : Token) (l : Lexer) : Except Fault Lexer := do
  let l ← l.saveKey
  return { l with depth := l.depth + 1, keysAllowed := true }.indicator t

def closeBracket (t : Token) (l : Lexer) : Except Fault Lexer := do
  let l ← l.removeKey
  return { l with depth := l.depth - 1, keysAllowed := false }.indicator t

def flowEntry (l : Lexer) : Except Fault Lexer := do
  let l ← { l with keysAllowed := true }.removeKey
  return l.indicator .flowEntry

def blockEntry (l : Lexer) : Except Fault Lexer := do
  if !l.inFlow && !l.keysAllowed then throw badToken
  let l := if l.inFlow then l else l.beginBlock .blockSequenceStart
  let l ← { l with keysAllowed := true }.removeKey
  return l.indicator .blockEntry

def explicitKey (l : Lexer) : Except Fault Lexer := do
  if !l.inFlow && !l.keysAllowed then throw badToken
  let l := if l.inFlow then l else l.beginBlock .blockMappingStart
  let l ← { l with keysAllowed := !l.inFlow }.removeKey
  return l.indicator .key

def insert (position : Nat) (t : Token) (l : Lexer) : Lexer :=
  { l with tokens := l.tokens.insertIdxIfInBounds position t }

/-- Puts the token of a key in front of what has turned out to be one. A mapping begins with it
where it is deeper than the current block. -/
def settleKey (key : OpenKey) (l : Lexer) : Lexer :=
  let l := { l with openKeys := l.openKeys.filter (·.1 != l.depth) }.insert key.position .key
  if l.inFlow then l
  else
    match l.deepen key.column with
    | (true, l) => l.insert key.position .blockMappingStart
    | (false, l) => l

/-- A colon: the open key, if there is one, is a key. -/
def valueToken (l : Lexer) : Except Fault Lexer := do
  match l.openKeys.lookup l.depth with
  | some key => return { l.settleKey key with keysAllowed := false }.indicator .value
  | none =>
      if !l.inFlow && !l.keysAllowed then throw badToken
      let l := if l.inFlow then l else l.beginBlock .blockMappingStart
      let l ← { l with keysAllowed := !l.inFlow }.removeKey
      return l.indicator .value

def named (make : Text → Token) (l : Lexer) : Except Fault Lexer := do
  let l ← l.saveKey
  let (found, rest) ← name (l.rest.drop 1)
  let ends : Bool := atGap rest || (rest.head?.any fun c => "?:,]\x7d%@\x60".toList.contains c)
  if !ends then throw badToken
  return ({ l with keysAllowed := false }.moveTo rest).push (make found)

def tagBody (s : Text) : Except Fault (Option Text × Text × Text) :=
  match s with
  | '<' :: s => do
      match ← uri s with
      | (suffix, '>' :: rest) => return (none, suffix, rest)
      | _ => throw badToken
  | s =>
      if atGap s then .ok (none, ['!'], s)
      else do
        let hasHandle := (s.takeWhile fun c => !(c == ' ' || isBreak c)).contains '!'
        let (handle, s) ← if hasHandle then tagHandle ('!' :: s) else pure (['!'], s)
        let (suffix, rest) ← uri s
        return (some handle, suffix, rest)

def tagToken (l : Lexer) : Except Fault Lexer := do
  let l ← l.saveKey
  let (handle, suffix, rest) ← tagBody (l.rest.drop 1)
  if !atSpace rest then throw badToken
  return ({ l with keysAllowed := false }.moveTo rest).push (.tag handle suffix)

def block (folded : Bool) (l : Lexer) : Except Fault Lexer := do
  let l ← { l with keysAllowed := true }.removeKey
  l.scalarToken (blockScalar folded l.indent (l.rest.drop 1))

def quoted (double : Bool) (l : Lexer) : Except Fault Lexer := do
  let l ← l.saveKey
  { l with keysAllowed := false }.scalarToken (quotedScalar double (l.rest.drop 1))

def plain (l : Lexer) : Except Fault Lexer := do
  let l ← l.saveKey
  let (text, rest, crosses) := plainScalar l.inFlow (l.indent + 1) l.rest
  return ({ l with keysAllowed := crosses }.moveTo rest).push (.scalar text true)

def beginsPlain (flow : Bool) (c : Char) (s : Text) : Bool :=
  !(isSpaceOrTab c || isBreak c || "-?:,[]\x7b\x7d#&*!|>'\"%@\x60".toList.contains c) ||
    (!atGap s && (c == '-' || (!flow && (c == '?' || c == ':'))))

/-- Reads the next token, with the tokens that its indentation calls for. -/
def next (l : Lexer) : Except Fault Lexer := do
  let l := l.skipToToken
  let l ← l.dropStaleKeys
  let l := l.unwind l.column
  match l.rest with
  | [] => l.streamEnd
  | c :: s =>
      if c == '%' && l.column == 0 then l.directive
      else if l.column == 0 && atDocumentMark l.rest then
        l.documentMark (if c == '-' then .documentStart else .documentEnd)
      else if c == '[' then l.openBracket .flowSequenceStart
      else if c == '{' then l.openBracket .flowMappingStart
      else if c == ']' then l.closeBracket .flowSequenceEnd
      else if c == '}' then l.closeBracket .flowMappingEnd
      else if c == ',' then l.flowEntry
      else if c == '-' && atGap s then l.blockEntry
      else if c == '?' && (l.inFlow || atGap s) then l.explicitKey
      else if c == ':' && (l.inFlow || atGap s) then l.valueToken
      else if c == '*' then l.named .anchorUse
      else if c == '&' then l.named .anchor
      else if c == '!' then l.tagToken
      else if c == '|' && !l.inFlow then l.block false
      else if c == '>' && !l.inFlow then l.block true
      else if c == '\'' then l.quoted false
      else if c == '"' then l.quoted true
      else if beginsPlain l.inFlow c s then l.plain
      else throw badToken

end Lexer

/-- The tokens of a document, and what reading it fails with behind them. -/
structure Tokens where
  list : List Token
  failure? : Option Fault

namespace Tokens

/-- A failure hides the tokens from the first open key on: whether they belong to a key was not
decided yet. -/
def stopAt (l : Lexer) (fault : Fault) : Tokens :=
  let openKeys := match l.dropStaleKeys with
    | .ok l => l.openKeys
    | .error _ => l.openKeys
  let shown := openKeys.foldl (fun n (_, key) => min n key.position) l.tokens.size
  ⟨l.tokens.toList.take shown, some fault⟩

def from_ : Nat → Lexer → Tokens
  | 0, l => ⟨l.tokens.toList, none⟩
  | steps + 1, l =>
      if l.done then ⟨l.tokens.toList, none⟩
      else
        match l.next with
        | .ok next => from_ steps next
        | .error fault => stopAt l fault

/-- Every token but the last takes at least one character. -/
def ofText (s : Text) : Tokens := from_ (s.length + 2) (Lexer.start s)

end Tokens

end Stencil.Yaml
