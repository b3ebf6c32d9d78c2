import Stencil.Number.Reading
import Stencil.Value.Text
import Stencil.Yaml.Timestamp
/-!
The types that untagged plain text can have: nothing, a boolean, an integer, a float, a timestamp or
else a text; and the values of such text.
-/

namespace Stencil.Yaml

inductive ScalarType
  | null
  | bool
  | int
  | float
  | timestamp
  | text
  /-- Octets, written in base 64. -/
  | octets
  /-- The key `<<`, which merges other mappings into its own. -/
  | merge
  /-- The key `=`, which stands for the value of its mapping. -/
  | defaultValue
deriving DecidableEq

namespace Plain

def isDigit (c : Char) : Bool := '0' ≤ c && c ≤ '9'

def isDigitOrScore (c : Char) : Bool := isDigit c || c == '_'

def unsigned : Text → Text
  | '-' :: s => s
  | '+' :: s => s
  | s => s

def someOf (p : Char → Bool) (s : Text) : Bool := !s.isEmpty && s.all p

def isSixtieth : Text → Bool
  | [a] => isDigit a
  | [a, b] => '0' ≤ a && a ≤ '5' && isDigit b
  | _ => false

/-- Digits that begin with one that `lead` admits, underscores between and behind them. -/
def isScored (lead : Char → Bool) : Text → Bool
  | c :: s => lead c && s.all isDigitOrScore
  | [] => false

def isSexagesimal (lead : Char → Bool) (s : Text) : Bool :=
  match s.splitBy (· == ':') with
  | first :: more => isScored lead first && !more.isEmpty && more.all isSixtieth
  | [] => false

def isNonZero (c : Char) : Bool := '1' ≤ c && c ≤ '9'

def isInt (s : Text) : Bool :=
  match unsigned s with
  | ['0'] => true
  | '0' :: 'b' :: s => someOf (fun c => c == '0' || c == '1' || c == '_') s
  | '0' :: 'x' :: s => someOf (fun c => (hexDigit? c).isSome || c == '_') s
  | '0' :: s => s.all fun c => ('0' ≤ c && c ≤ '7') || c == '_'
  | s => isScored isNonZero s || isSexagesimal isNonZero s
where
  hexDigit? (c : Char) : Option Unit :=
    if isDigit c || ('a' ≤ c && c ≤ 'f') || ('A' ≤ c && c ≤ 'F') then some () else none

def isExponent : Text → Bool
  | [] => true
  | e :: sign :: s => (e == 'e' || e == 'E') && (sign == '+' || sign == '-') && someOf isDigit s
  | _ => false

/-- A float has a point; its exponent has a sign. -/
def isFloat (s : Text) : Bool :=
  let isWord (words : List String) (s : Text) : Bool := words.any (·.toList == s)
  let infinite := [".inf", ".Inf", ".INF"]
  match s with
  | '.' :: rest =>
      isWord infinite s || isWord [".nan", ".NaN", ".NAN"] s ||
        (rest.head?.any isDigit && isExponent (rest.dropWhile isDigitOrScore))
  | s =>
      let s := unsigned s
      let whole := s.takeWhile (· != '.')
      match s.dropWhile (· != '.') with
      | '.' :: fraction =>
          isWord infinite s ||
            (isScored isDigit whole && isExponent (fraction.dropWhile isDigitOrScore)) ||
            (isSexagesimal isDigit whole && fraction.all isDigitOrScore)
      | _ => false

def isNull (s : Text) : Bool :=
  s.isEmpty || ["~", "null", "Null", "NULL"].any (·.toList == s)

def truth? (s : Text) : Option Bool :=
  [("yes", true), ("no", false), ("true", true), ("false", false), ("on", true),
    ("off", false)].find? (fun (w, _) => w.toList == s.map Char.toLower) |>.map (·.2)

/-- A word for a truth value, in lower case, capitalised or in upper case. -/
def isBool (s : Text) : Bool :=
  (truth? s).isSome &&
    match s with
    | c :: rest =>
        rest.all Char.isLower || (c.isUpper && rest.all Char.isUpper)
    | [] => false

def typeOf (s : Text) : ScalarType :=
  if isBool s then .bool
  else if isFloat s then .float
  else if isInt s then .int
  else if s == ['<', '<'] then .merge
  else if isNull s then .null
  else if (Timestamp.ofText? s).any (·.isImplicit) then .timestamp
  else if s == ['='] then .defaultValue
  else .text

/-! Numbers. -/

def splitSign : Text → Bool × Text
  | '-' :: s => (true, s)
  | '+' :: s => (false, s)
  | s => (false, s)

def unscored (s : Text) : Text := s.filter (· != '_')

def orDomain : Option α → Except Fault α
  | some a => .ok a
  | none => .error .outOfDomain

def digit? (c : Char) : Option Nat :=
  if isDigit c then some (c.toNat - 48)
  else if 'a' ≤ c && c ≤ 'z' then some (c.toNat - 87)
  else if 'A' ≤ c && c ≤ 'Z' then some (c.toNat - 55)
  else none

/-- Digits of a base. A sign and the base's own mark, a zero and a letter, may stand in front. -/
def inBase? (base : Nat) (letter : Char) (s : Text) : Option Int := do
  let (negative, body) := splitSign (← Text.plainNumber? s)
  let written :=
    match body with
    | '0' :: c :: rest => if c.toLower == letter then rest else body
    | _ => body
  let digits ← written.mapM digit?
  if digits.isEmpty || digits.any (base ≤ ·) then none
  else some (Dyadic.signed negative (digits.foldl (fun n d => base * n + d) 0))

/-- The value of an integer: binary behind `0b`, hexadecimal behind `0x`, octal behind `0`, base
sixty between colons, and decimal otherwise. -/
def int (s : Text) : Except Fault Int := do
  let (negative, body) := splitSign (unscored s)
  let n ←
    match body with
    | [] => .error .badIndex
    | ['0'] => .ok 0
    | '0' :: 'b' :: s => orDomain (inBase? 2 'b' s)
    | '0' :: 'x' :: s => orDomain (inBase? 16 'x' s)
    | '0' :: _ => orDomain (inBase? 8 'o' body)
    | _ =>
        if body.any (· == ':') then
          orDomain (((body.splitBy (· == ':')).mapM Text.toInt?).map fun parts =>
            parts.foldl (fun n d => 60 * n + d) 0)
        else orDomain (Text.toInt? body)
  return if negative then -n else n

/-- Parts of a base sixty number, the last one first. -/
def sixtieths : List Float → Nat → Float → Except Fault Float
  | [], _, sum => .ok sum
  | digit :: more, weight, sum =>
      match roundRatio? false weight 1 with
      | some factor => sixtieths more (60 * weight) (sum + digit * factor)
      | none => .error .overflow

def float (s : Text) : Except Fault Float := do
  let s := (unscored s).map Char.toLower
  if s.isEmpty then throw .badIndex
  let (negative, body) := splitSign s
  let f ←
    if body == ".inf".toList then .ok (1.0 / 0.0)
    else if body == ".nan".toList then return 0.0 / 0.0
    else if body.any (· == ':') then do
      let parts ← orDomain ((body.splitBy (· == ':')).mapM Text.toFloat?)
      sixtieths parts.reverse 1 0.0
    else orDomain (Text.toFloat? body)
  return (if negative then -1.0 else 1.0) * f

end Plain

end Stencil.Yaml
