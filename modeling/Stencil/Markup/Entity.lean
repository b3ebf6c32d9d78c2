import Stencil.Fault
import Stencil.Markup.EntityTable
import Stencil.Number.Reading
import Stencil.Url.Percent
/-!
Character references turned back into characters. A named reference is as long as possible; some old
names need no semicolon, and the text behind such a name stays.
-/

namespace Stencil.Markup

open Stencil.Text

def entity? (name : Text) : Option Text :=
  (entityTable.find? fun (n, _) => n.toList == name).map fun (_, codes) => codes.map Char.ofNat

/-- The characters of a reference by name, written with or without its semicolon. -/
def reference? (name : Text) : Option Text :=
  if name.getLast? == some ';' then entity? name.dropLast
  else if bareEntityNames.any fun n => n.toList == name then entity? name
  else none

/-- Numbers from 128 to 159 are read in an old encoding. -/
private def oldCodes : List (Nat × Nat) :=
  [(0x80, 0x20ac), (0x82, 0x201a), (0x83, 0x0192), (0x84, 0x201e), (0x85, 0x2026), (0x86, 0x2020),
    (0x87, 0x2021), (0x88, 0x02c6), (0x89, 0x2030), (0x8a, 0x0160), (0x8b, 0x2039), (0x8c, 0x0152),
    (0x8e, 0x017d), (0x91, 0x2018), (0x92, 0x2019), (0x93, 0x201c), (0x94, 0x201d), (0x95, 0x2022),
    (0x96, 0x2013), (0x97, 0x2014), (0x98, 0x02dc), (0x99, 0x2122), (0x9a, 0x0161), (0x9b, 0x203a),
    (0x9c, 0x0153), (0x9e, 0x017e), (0x9f, 0x0178)]

private def isForbidden (n : Nat) : Bool :=
  (1 ≤ n && n ≤ 8) || n == 11 || (14 ≤ n && n ≤ 31) || n == 127 || (0xfdd0 ≤ n && n ≤ 0xfdef) ||
    0xfffe ≤ n % 0x10000

def numbered (n : Nat) : Text :=
  match oldCodes.lookup n with
  | some code => [Char.ofNat code]
  | none =>
      if n == 0 || (0xd800 ≤ n && n ≤ 0xdfff) || 0x10ffff < n then [Url.replacement]
      else if isForbidden n then []
      else [Char.ofNat n]

private def isNameChar (c : Char) : Bool :=
  !(c == '\t' || c == '\n' || c == '\x0c' || c == ' ' || c == '<' || c == '&' || c == '#' ||
    c == ';')

private def dropSemicolon : Text → Text
  | ';' :: s => s
  | s => s

/-- The longest beginning of a name, of two characters or more, that is a reference, and what is
left of the name behind it. -/
private def longest? (name : Text) : Nat → Option Text
  | 0 => none
  | n + 1 =>
      if n + 1 < 2 then none
      else
        match reference? (name.take (n + 1)) with
        | some chars => some (chars ++ name.drop (n + 1))
        | none => longest? name n

/-- The text of a named reference, or the reference as it stands. -/
private def named (name : Text) : Text :=
  match reference? name with
  | some chars => chars
  | none => (longest? name (name.length - 1)).getD ('&' :: name)

/-- A reference at the head of a text: its text and what follows it. Numbers with too many digits
cannot be read. -/
def referenceAt (s : Text) : Option (Except Fault Text × Text) :=
  match s with
  | '#' :: rest =>
      let (digits, base, after) :=
        match rest with
        | 'x' :: r | 'X' :: r =>
            let hex := r.takeWhile fun c => (Url.hexValue? c).isSome
            (hex, 16, r.drop hex.length)
        | r =>
            let decimal := r.takeWhile isAsciiDigit
            (decimal, 10, r.drop decimal.length)
      if digits.isEmpty then none
      else if base == 10 && maxDigits < digits.length then
        some (.error .outOfDomain, dropSemicolon after)
      else
        let n := digits.foldl (fun n c => base * n + (Url.hexValue? c).getD 0) 0
        some (.ok (numbered n), dropSemicolon after)
  | s =>
      let name := (s.takeWhile isNameChar).take 32
      if name.isEmpty then none
      else
        match s.drop name.length with
        | ';' :: after => some (.ok (named (name ++ [';'])), after)
        | after => some (.ok (named name), after)

def unescapeFrom : Nat → Text → Except Fault Text
  | _, [] => .ok []
  | skip + 1, _ :: s => unescapeFrom skip s
  | 0, '&' :: s =>
      match referenceAt s with
      | some (chars, after) => do
          return (← chars) ++ (← unescapeFrom (s.length - after.length) s)
      | none => do return '&' :: (← unescapeFrom 0 s)
  | 0, c :: s => do return c :: (← unescapeFrom 0 s)

def unescape (s : Text) : Except Fault Text := unescapeFrom 0 s

/-! References that must end in a semicolon. -/

/-- A reference at the head of a text, its semicolon included; decimal numbers have at most seven
digits. -/
private def closedReferenceAt (s : Text) : Option (Text × Text) :=
  let closed (body : Text) (least most : Nat) (text : Text → Text) : Option (Text × Text) :=
    match s.drop body.length with
    | ';' :: after =>
        if least ≤ body.length && body.length ≤ most then some (text body, after) else none
    | _ => none
  let value (base : Nat) (digits : Text) : Nat :=
    digits.foldl (fun n c => base * n + (Url.hexValue? c).getD 0) 0
  match s with
  | '#' :: 'x' :: r | '#' :: 'X' :: r =>
      let body := s.take 2 ++ r.takeWhile fun c => (Url.hexValue? c).isSome
      closed body 3 body.length fun b => numbered (value 16 (b.drop 2))
  | '#' :: r =>
      let body := '#' :: r.takeWhile isAsciiDigit
      closed body 2 8 fun b => numbered (value 10 (b.drop 1))
  | s => closed (s.takeWhile isNameChar) 1 32 fun name => named (name ++ [';'])

private def resolveFrom : Nat → Text → Text
  | _, [] => []
  | skip + 1, _ :: s => resolveFrom skip s
  | 0, '&' :: s =>
      match closedReferenceAt s with
      | some (chars, after) => chars ++ resolveFrom (s.length - after.length) s
      | none => '&' :: resolveFrom 0 s
  | 0, c :: s => c :: resolveFrom 0 s

/-- Text with its references resolved, where only those that end in a semicolon count. -/
def resolveClosed (s : Text) : Text := resolveFrom 0 s

end Stencil.Markup
