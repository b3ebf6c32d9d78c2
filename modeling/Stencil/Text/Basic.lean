/-!
Text as a list of characters. Every scanner of the library is a recursion over such a list, so the
operations here are the ones scanners share: blanks, trimming, splitting into words and at a
separator, joining and replacing.
-/

namespace Stencil

/-- A text is the list of its characters; its length counts code points. -/
abbrev Text := List Char

namespace Text

/-- Blank characters: the separators and controls that stand for space in any script. -/
def isBlank (c : Char) : Bool :=
  let n := c.toNat
  (9 ≤ n && n ≤ 13) || (28 ≤ n && n ≤ 32) ||
    (128 ≤ n &&
      (n == 0x85 || n == 0xa0 || n == 0x1680 || (0x2000 ≤ n && n ≤ 0x200a) || n == 0x2028 ||
        n == 0x2029 || n == 0x202f || n == 0x205f || n == 0x3000))

def dropWhileEnd (p : Char → Bool) (s : Text) : Text :=
  (s.reverse.dropWhile p).reverse

def trimLeft (s : Text) : Text := s.dropWhile isBlank

def trimRight (s : Text) : Text := s.dropWhileEnd isBlank

def trim (s : Text) : Text := trimRight (trimLeft s)

def strip (p : Char → Bool) (s : Text) : Text :=
  dropWhileEnd p (s.dropWhile p)

def wordsFrom (word : Text) : Text → List Text
  | [] => if word.isEmpty then [] else [word.reverse]
  | c :: s =>
      if isBlank c then
        if word.isEmpty then wordsFrom [] s else word.reverse :: wordsFrom [] s
      else wordsFrom (c :: word) s

/-- The maximal runs of characters that are not blank. -/
def words (s : Text) : List Text := wordsFrom [] s

def splitFrom (p : Char → Bool) (part : Text) : Text → List Text
  | [] => [part.reverse]
  | c :: s => if p c then part.reverse :: splitFrom p [] s else splitFrom p (c :: part) s

/-- The parts between characters that satisfy `p`; one part more than there are such characters. -/
def splitBy (p : Char → Bool) (s : Text) : List Text := splitFrom p [] s

def splitAt (sep : Char) (s : Text) : List Text := s.splitBy (· == sep)

/-- Parts between runs of characters that satisfy `p`, empty parts dropped. -/
def runs (p : Char → Bool) (s : Text) : List Text :=
  (s.splitBy p).filter (!·.isEmpty)

def join (sep : Text) : List Text → Text
  | [] => []
  | [s] => s
  | s :: t :: rest => s ++ sep ++ join sep (t :: rest)

def dropStart? (start : Text) (s : Text) : Option Text :=
  match start, s with
  | [], s => some s
  | _ :: _, [] => none
  | a :: start, b :: s => if a == b then dropStart? start s else none

def startsWith (start s : Text) : Bool := start.isPrefixOf s

def endsWith (final s : Text) : Bool := final.isSuffixOf s

/-- The texts before and after the first place where `needle` stands. -/
def cut? (needle : Text) : Text → Option (Text × Text)
  | [] => if needle.isEmpty then some ([], []) else none
  | c :: s =>
      match dropStart? needle (c :: s) with
      | some rest => some ([], rest)
      | none => (cut? needle s).map fun (before, rest) => (c :: before, rest)

def contains (needle s : Text) : Bool := (cut? needle s).isSome

def replaceFrom (needle by_ : Text) : Nat → Text → Text
  | _, [] => []
  | skip + 1, _ :: s => replaceFrom needle by_ skip s
  | 0, c :: s =>
      if needle.isPrefixOf (c :: s) then by_ ++ replaceFrom needle by_ (needle.length - 1) s
      else c :: replaceFrom needle by_ 0 s

/-- Replaces every occurrence of a non-empty `needle`, leftmost first and without overlap; an empty
`needle` leaves the text alone. -/
def replace (needle by_ s : Text) : Text :=
  if needle.isEmpty then s else replaceFrom needle by_ 0 s

/-- Every character lower in code point order decides; a proper beginning is the lesser text. -/
def lt : Text → Text → Bool
  | _, [] => false
  | [], _ :: _ => true
  | a :: s, b :: t => if a == b then lt s t else a.toNat < b.toNat

def le (s t : Text) : Bool := !lt t s

/-- Ends of line are written as line feeds: a carriage return, with or without a line feed after
it, counts as one. -/
def normalizeNewlines : Text → Text
  | [] => []
  | '\r' :: '\n' :: s => '\n' :: normalizeNewlines s
  | '\r' :: s => '\n' :: normalizeNewlines s
  | c :: s => c :: normalizeNewlines s

def inRanges (ranges : List (Nat × Nat)) (n : Nat) : Bool :=
  ranges.any fun (lo, hi) => lo ≤ n && n ≤ hi

end Text

end Stencil
