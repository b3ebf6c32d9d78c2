import Stencil.Text.Word
/-!
Percent encoding. Characters outside the safe ones are written as the bytes of their UTF-8 form, and
bytes read back that form no character give the replacement character.
-/

namespace Stencil.Url

def utf8Bytes (c : Char) : List Nat :=
  let n := c.toNat
  if n < 0x80 then [n]
  else if n < 0x800 then [0xc0 + n / 64, 0x80 + n % 64]
  else if n < 0x10000 then [0xe0 + n / 4096, 0x80 + n / 64 % 64, 0x80 + n % 64]
  else [0xf0 + n / 262144, 0x80 + n / 4096 % 64, 0x80 + n / 64 % 64, 0x80 + n % 64]

def replacement : Char := '\uFFFD'

/-- What a leading byte announces: how many bytes follow, its own bits, and the range of the byte
after it. -/
private def lead? (b : Nat) : Option (Nat × Nat × Nat × Nat) :=
  if 0xc2 ≤ b && b ≤ 0xdf then some (1, b - 0xc0, 0x80, 0xbf)
  else if b == 0xe0 then some (2, 0, 0xa0, 0xbf)
  else if b == 0xed then some (2, 13, 0x80, 0x9f)
  else if 0xe1 ≤ b && b ≤ 0xef then some (2, b - 0xe0, 0x80, 0xbf)
  else if b == 0xf0 then some (3, 0, 0x90, 0xbf)
  else if 0xf1 ≤ b && b ≤ 0xf3 then some (3, b - 0xf0, 0x80, 0xbf)
  else if b == 0xf4 then some (3, 4, 0x80, 0x8f)
  else none

/-- Bytes to come for an unfinished character: how many, the bits so far, and the range allowed for
the next one. -/
private structure Pending where
  missing : Nat
  bits : Nat
  low : Nat
  high : Nat

private def decodeFrom (pending : Option Pending) : List Nat → Text
  | [] => if pending.isSome then [replacement] else []
  | b :: bytes =>
      let start (before : Text) : Text :=
        if b < 0x80 then before ++ Char.ofNat b :: decodeFrom none bytes
        else
          match lead? b with
          | some (missing, bits, low, high) =>
              before ++ decodeFrom (some ⟨missing, bits, low, high⟩) bytes
          | none => before ++ replacement :: decodeFrom none bytes
      match pending with
      | none => start []
      | some p =>
          if p.low ≤ b && b ≤ p.high then
            let bits := p.bits * 64 + (b - 0x80)
            if p.missing ≤ 1 then Char.ofNat bits :: decodeFrom none bytes
            else decodeFrom (some ⟨p.missing - 1, bits, 0x80, 0xbf⟩) bytes
          else start [replacement]

/-- The text of some bytes; every beginning of a character that breaks off is one replacement. -/
def decodeUtf8 (bytes : List Nat) : Text := decodeFrom none bytes

def hexDigit (n : Nat) : Char := Char.ofNat (if n < 10 then 48 + n else 55 + n)

/-- Letters, digits and four marks stand for themselves in every part of an address. -/
def isUnreserved (c : Char) : Bool :=
  Text.isAsciiLetter c || Text.isAsciiDigit c || "_.-~".toList.elem c

def encodeBut (stays : Char → Bool) (s : Text) : Text :=
  s.flatMap fun c =>
    if stays c then [c]
    else (utf8Bytes c).flatMap fun b => ['%', hexDigit (b / 16), hexDigit (b % 16)]

/-- A part of a path: slashes stay. -/
def encode (s : Text) : Text := encodeBut (fun c => isUnreserved c || c == '/') s

def hexValue? (c : Char) : Option Nat :=
  let n := c.toNat
  if 48 ≤ n && n ≤ 57 then some (n - 48)
  else if 65 ≤ n && n ≤ 70 then some (n - 55)
  else if 97 ≤ n && n ≤ 102 then some (n - 87)
  else none

private def percentBytes : Text → List Nat
  | '%' :: a :: b :: s =>
      match hexValue? a, hexValue? b with
      | some x, some y => (16 * x + y) :: percentBytes s
      | _, _ => 37 :: percentBytes (a :: b :: s)
  | c :: s => c.toNat :: percentBytes s
  | [] => []

private def decodeRuns (run : Text) : Text → Text
  | [] => decodeUtf8 (percentBytes run.reverse)
  | c :: s =>
      if c.toNat < 128 then decodeRuns (c :: run) s
      else decodeUtf8 (percentBytes run.reverse) ++ c :: decodeRuns [] s

/-- Encoded bytes turned back into text. A character beyond ASCII ends the run of bytes before it. -/
def decode (s : Text) : Text := decodeRuns [] s

end Stencil.Url
