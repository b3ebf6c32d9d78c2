import Stencil.Value.Basic
import Stencil.Number.Reading
/-!
Calls, argument lists and pipelines as text. Separators count outside quotes and parentheses only.
-/

namespace Stencil.Template

open Stencil.Text

/-- Splits at `sep` outside quotes and parentheses. `quote` is the quote that is open, `depth` the
number of open parentheses, and `part` the part read so far, last character first. A closing
parenthesis without an opening one is an ordinary character. -/
def splitOutsideFrom (sep : Char) (quote : Option Char) (depth : Nat) (part : Text) :
    Text → List Text
  | [] => [part.reverse]
  | c :: s =>
      match quote with
      | some q =>
          splitOutsideFrom sep (if c == q then none else some q) depth (c :: part) s
      | none =>
          if c == '"' || c == '\'' then splitOutsideFrom sep (some c) depth (c :: part) s
          else if c == '(' then splitOutsideFrom sep none (depth + 1) (c :: part) s
          else if c == ')' && depth != 0 then splitOutsideFrom sep none (depth - 1) (c :: part) s
          else if c == sep && depth == 0 then
            part.reverse :: splitOutsideFrom sep none depth [] s
          else splitOutsideFrom sep none depth (c :: part) s

def splitOutside (sep : Char) (s : Text) : List Text := splitOutsideFrom sep none 0 [] s

/-- The arguments of a call, trimmed; blank text has none. -/
def splitArguments (s : Text) : List Text :=
  if (trim s).isEmpty then [] else (splitOutside ',' s).map trim

/-- An expression and the filters behind it; empty filters do not count. -/
def splitPipeline (s : Text) : Text × List Text :=
  match (splitOutside '|' s).map trim with
  | [] => ([], [])
  | expression :: filters => (expression, filters.filter (!·.isEmpty))

def isNameStart (c : Char) : Bool := isAsciiLetter c || c == '_'

def takeMark : Text → Text × Text
  | '?' :: rest => (['?'], rest)
  | rest => ([], rest)

/-- The name and the argument text of `name(arguments)`. A name may end in a question mark; the
last character is the closing parenthesis. -/
def parseCall (s : Text) : Option (Text × Text) :=
  match trim s with
  | [] => none
  | c :: rest =>
      if isNameStart c then
        let marked := takeMark (rest.dropWhile isWord)
        match trimLeft marked.2 with
        | '(' :: arguments =>
            if arguments.getLast? == some ')' then
              some (c :: rest.takeWhile isWord ++ marked.1, trim arguments.dropLast)
            else none
        | _ => none
      else none

def unquote (s : Text) : Option Text :=
  match s with
  | q :: rest =>
      if (q == '"' || q == '\'') && rest.getLast? == some q then some rest.dropLast else none
  | [] => none

/-- An optional minus and digits; a line feed may follow. -/
def looksInteger (s : Text) : Bool :=
  let body := match s with
    | '-' :: rest => rest
    | s => s
  let digits := body.takeWhile isDecimal
  !digits.isEmpty && (body.length == digits.length || body.dropWhile isDecimal == ['\n'])

/-- The value of a literal: quoted text, `true`, `false` or an integer. Anything else is nothing,
to be evaluated; an integer too long to read is a failure. -/
def parseLiteral (s : Text) : Except Fault (Option Value) :=
  match unquote s with
  | some inner => .ok (some (.text inner))
  | none =>
      if s == "true".toList then .ok (some (.bool true))
      else if s == "false".toList then .ok (some (.bool false))
      else if looksInteger s then
        match toInt? s with
        | some i => .ok (some (.int i))
        | none => .error .outOfDomain
      else .ok none

/-- The name and the source of an assignment `$name := source`; the dollar may be missing. -/
def parseAssignment (s : Text) : Option (Text × Text) :=
  let body := match s with
    | '$' :: rest => rest
    | s => s
  let name := body.takeWhile isWord
  match trimLeft (body.dropWhile isWord) with
  | ':' :: '=' :: rest =>
      let source := trimLeft rest
      if name.isEmpty || source.isEmpty || source.elem '\n' then none else some (name, source)
  | _ => none

/-! The parts of a call are shorter than the call. -/

theorem length_dropWhile_le (p : Char → Bool) (s : Text) : (s.dropWhile p).length ≤ s.length :=
  (List.dropWhile_suffix p).length_le

theorem length_trimLeft_le (s : Text) : (trimLeft s).length ≤ s.length :=
  length_dropWhile_le _ s

theorem length_trim_le (s : Text) : (trim s).length ≤ s.length := by
  unfold trim trimRight dropWhileEnd
  rw [List.length_reverse]
  refine Nat.le_trans (length_dropWhile_le _ _) ?_
  rw [List.length_reverse]
  exact length_trimLeft_le s

theorem length_le_of_mem_splitOutsideFrom {sep : Char} {quote : Option Char} {depth : Nat}
    {part s t : Text} (h : t ∈ splitOutsideFrom sep quote depth part s) :
    t.length ≤ part.length + s.length := by
  fun_induction splitOutsideFrom sep quote depth part s with
  | case1 =>
      simp only [List.mem_singleton] at h
      simp [h]
  | case6 depth part c s _ _ _ _ ih =>
      rcases List.mem_cons.mp h with h | h
      · simp only [h, List.length_reverse, List.length_cons]
        omega
      · have := ih h
        simp only [List.length_nil, List.length_cons] at this ⊢
        omega
  | _ =>
      rename_i ih
      have := ih h
      simp only [List.length_cons] at this ⊢
      omega

theorem length_le_of_mem_splitArguments {s t : Text} (h : t ∈ splitArguments s) :
    t.length ≤ s.length := by
  unfold splitArguments at h
  split at h
  · simp at h
  · obtain ⟨u, hu, rfl⟩ := List.mem_map.mp h
    have := length_le_of_mem_splitOutsideFrom hu
    have := length_trim_le u
    simp only [List.length_nil] at *
    omega

private theorem length_takeMark_le (s : Text) : (takeMark s).2.length ≤ s.length := by
  unfold takeMark
  split
  · exact Nat.le_succ _
  · exact Nat.le_refl _

theorem length_parseCall_lt {s name arguments : Text}
    (h : parseCall s = some (name, arguments)) : arguments.length < s.length := by
  unfold parseCall at h
  split at h
  · simp at h
  · next c rest hs =>
      split at h
      · dsimp only at h
        split at h
        · next inner hinner =>
            split at h
            · have hargs : trim inner.dropLast = arguments := by
                simp only [Option.some.injEq, Prod.mk.injEq] at h
                exact h.2
              have htrim := length_trim_le inner.dropLast
              have hbehind := length_trimLeft_le (takeMark (rest.dropWhile isWord)).2
              have hmark := length_takeMark_le (rest.dropWhile isWord)
              have hrest := length_dropWhile_le isWord rest
              have hlen := length_trim_le s
              rw [hs] at hlen
              rw [hinner] at hbehind
              simp only [List.length_dropLast, List.length_cons] at *
              rw [← hargs]
              omega
            · simp at h
        · simp at h
      · simp at h

end Stencil.Template
