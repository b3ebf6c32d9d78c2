import Stencil.Number.Shortest
import Stencil.Text.PrintableTable
/-!
Quoted texts, for messages: single quotes unless only double quotes avoid escapes, and an escape for
everything that does not print.
-/

namespace Stencil.Text

def isPrintable (c : Char) : Bool :=
  let n := c.toNat
  if n < 128 then 32 ≤ n && n < 127 else inRanges printableRanges n

private def hexDigits (width n : Nat) : Text :=
  let digits := Nat.toDigits 16 n
  List.replicate (width - digits.length) '0' ++ digits

private def quotedChar (quote c : Char) : Text :=
  if c == quote || c == '\\' then ['\\', c]
  else if c == '\n' then "\\n".toList
  else if c == '\r' then "\\r".toList
  else if c == '\t' then "\\t".toList
  else if isPrintable c then [c]
  else
    let n := c.toNat
    if n < 0x100 then "\\x".toList ++ hexDigits 2 n
    else if n < 0x10000 then "\\u".toList ++ hexDigits 4 n
    else "\\U".toList ++ hexDigits 8 n

def quoted (s : Text) : Text :=
  let quote := if s.elem '\'' && !s.elem '"' then '"' else '\''
  quote :: s.flatMap (quotedChar quote) ++ [quote]

def quotedList (parts : List Text) : Text :=
  '[' :: join ", ".toList (parts.map quoted) ++ [']']

end Stencil.Text
