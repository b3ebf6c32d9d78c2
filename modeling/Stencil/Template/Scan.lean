import Stencil.Text.Basic
/-!
Scanning a text for the first place where a pattern stands. A pattern is a function that reads
itself off the head of a text; only matches of at least one character count, so that going on behind
a match ends.
-/

namespace Stencil

/-- A pattern: what it reads at the head of a text, and the rest of the text. -/
abbrev Scanner (α : Type) := Text → Option (α × Text)

/-- The first match of a pattern in `s`. -/
structure Found (α : Type) (s : Text) where
  before : Text
  matched : Text
  value : α
  after : Text
  length_eq : before.length + matched.length + after.length = s.length
  matched_pos : 0 < matched.length

namespace Found

theorem length_after_lt {s : Text} (f : Found α s) : f.after.length < s.length := by
  have := f.length_eq
  have := f.matched_pos
  omega

def shift (c : Char) {s : Text} (f : Found α s) : Found α (c :: s) :=
  ⟨c :: f.before, f.matched, f.value, f.after,
    by have := f.length_eq; simp only [List.length_cons]; omega, f.matched_pos⟩

def atHead (value : α) {rest s : Text} (h : rest.length < s.length) : Found α s :=
  ⟨[], s.take (s.length - rest.length), value, rest,
    by simp only [List.length_take, List.length_nil]; omega,
    by simp only [List.length_take]; omega⟩

end Found

namespace Scanner

def find? (scan : Scanner α) : (s : Text) → Option (Found α s)
  | [] => none
  | c :: s =>
      match scan (c :: s) with
      | some (value, rest) =>
          if h : rest.length < (c :: s).length then some (.atHead value h)
          else (find? scan s).map (Found.shift c)
      | none => (find? scan s).map (Found.shift c)

/-- All matches from left to right, each searched for behind the one before. -/
def findAll (scan : Scanner α) (s : Text) : List (Text × α) :=
  match scan.find? s with
  | none => []
  | some f => (f.matched, f.value) :: findAll scan f.after
termination_by s.length
decreasing_by exact f.length_after_lt

def replace (scan : Scanner Text) (s : Text) : Text :=
  match scan.find? s with
  | none => s
  | some f => f.before ++ f.value ++ replace scan f.after
termination_by s.length
decreasing_by exact f.length_after_lt

def remove (scan : Scanner α) (s : Text) : Text :=
  replace (fun t => (scan t).map fun (_, rest) => ([], rest)) s

end Scanner

end Stencil
