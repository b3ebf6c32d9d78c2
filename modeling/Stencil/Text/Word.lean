import Stencil.Text.Basic
import Stencil.Text.WordTable
import Stencil.Text.DigitTable
/-!
The character classes that names and numbers are made of.
-/

namespace Stencil.Text

def isAsciiLetter (c : Char) : Bool :=
  let n := c.toNat
  (65 ≤ n && n ≤ 90) || (97 ≤ n && n ≤ 122)

def isAsciiDigit (c : Char) : Bool :=
  let n := c.toNat
  48 ≤ n && n ≤ 57

/-- Word characters: letters and numerals of any script, and the underscore. -/
def isWord (c : Char) : Bool :=
  if c.toNat < 128 then isAsciiLetter c || isAsciiDigit c || c == '_'
  else inRanges wordRanges c.toNat

def digitValue? (c : Char) : Option Nat :=
  let n := c.toNat
  if n < 128 then if isAsciiDigit c then some (n - 48) else none
  else (decimalZeros.find? fun first => first ≤ n && n ≤ first + 9).map (n - ·)

def isDecimal (c : Char) : Bool := (digitValue? c).isSome

/-- Decimal digits and the digits without a place value, such as superscripts. -/
def isDigit (c : Char) : Bool :=
  isDecimal c || (128 ≤ c.toNat && inRanges loneDigitRanges c.toNat)

def allDigits (s : Text) : Bool := !s.isEmpty && s.all isDigit

end Stencil.Text
