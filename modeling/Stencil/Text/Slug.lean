import Stencil.Text.Case
import Stencil.Text.Word
import Stencil.Text.FoldTable
/-!
Texts for addresses and headings: slugs of titles, titles of file names and path segments, and
texts cut to a length.
-/

namespace Stencil.Text

private def FoldRun.image? (run : FoldRun) (n : Nat) : Option Nat :=
  if run.first ≤ n && n ≤ run.last then
    some (if run.counting then run.image + (n - run.first) else run.image)
  else none

/-- The ASCII characters left of `c` when it is decomposed and marks are dropped. -/
def foldChar (c : Char) : Text :=
  if c.toNat < 128 then [c]
  else
    match foldRuns.findSome? (·.image? c.toNat) with
    | some n => [Char.ofNat n]
    | none => ((foldExpansions.lookup c.toNat).map String.toList).getD []

def fold (s : Text) : Text := s.flatMap foldChar

def isSlugChar (c : Char) : Bool :=
  let n := c.toNat
  (97 ≤ n && n ≤ 122) || (48 ≤ n && n ≤ 57)

/-- Lower-case ASCII words joined by single hyphens. -/
def slugify (s : Text) : Text :=
  join ['-'] ((toLower (fold s)).runs (!isSlugChar ·))

/-- File name without its directories and its last extension. A name that only begins or ends with
a dot has no extension. -/
def stem (name : Text) : Text :=
  match name.reverse.dropWhile (· != '.') with
  | [] => name
  | _ :: before => if before.isEmpty || name.getLast? == some '.' then name else before.reverse

def extension (name : Text) : Text := name.drop (stem name).length

/-- The last component of a path; slashes at the end and components `.` do not count. -/
def fileName (path : Text) : Text :=
  (((path.splitAt '/').filter fun part => !part.isEmpty && part != ['.']).getLast?).getD []

/-- A title for a file name: without date, hyphens and underscores, each word capitalized. -/
def titleize (path : Text) : Text :=
  let base := stem (fileName path)
  let parts := base.splitAt '-'
  let rest :=
    if parts.length ≥ 4 && (parts.take 3).all allDigits then join ['-'] (parts.drop 3) else base
  let title := join [' '] ((rest.runs fun c => isBlank c || c == '-' || c == '_').map capitalize)
  if title.isEmpty then "Untitled".toList else title

def humanize (segment : Text) : Text :=
  join [' '] ((segment.runs fun c => c == '-' || c == '_').map capitalize)

def wordCount (s : Text) : Nat := s.words.length

/-- Whole minutes to read a text at a pace of `pace` words a minute, rounded up; a pace below one
counts as one. -/
def readingTime (pace : Int) (s : Text) : Nat :=
  let words := wordCount s
  let pace := (max pace 1).toNat
  if words == 0 then 0 else max 1 ((words + pace - 1) / pace)

/-- Cuts a text so that it has at most `length` characters, the mark of omission included. -/
def truncate (length : Int) (omission s : Text) : Text :=
  if (s.length : Int) ≤ length then s
  else s.take (length - omission.length).toNat ++ omission

def ellipsis : Text := "...".toList

end Stencil.Text
