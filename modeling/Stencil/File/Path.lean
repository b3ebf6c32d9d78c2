import Stencil.Text.Slug
/-!
Paths of files. A path is the list of its components; empty components and `.` do not count, and
`..` is kept, since what it means depends on the folders that are there.
-/

namespace Stencil

structure Path where
  isAbsolute : Bool
  parts : List Text
deriving DecidableEq

namespace Path

def here : Path := ⟨false, []⟩

def ofText (s : Text) : Path :=
  ⟨s.head? == some '/', (Text.splitAt '/' s).filter fun part => !part.isEmpty && part != ['.']⟩

def toText (p : Path) : Text :=
  let body := Text.join ['/'] p.parts
  if p.isAbsolute then '/' :: body else if p.parts.isEmpty then ['.'] else body

/-- A path below a folder. An absolute path stays as it is. -/
def join (folder p : Path) : Path :=
  if p.isAbsolute then p else ⟨folder.isAbsolute, folder.parts ++ p.parts⟩

def parent (p : Path) : Path := ⟨p.isAbsolute, p.parts.dropLast⟩

/-- The last component, which is empty for the starting folder. -/
def name (p : Path) : Text := p.parts.getLast?.getD []

def stem (p : Path) : Text := Text.stem p.name

def extension (p : Path) : Text := Text.extension p.name

def relativeTo? (folder p : Path) : Option Path :=
  if p.isAbsolute == folder.isAbsolute && folder.parts.isPrefixOf p.parts then
    some ⟨false, p.parts.drop folder.parts.length⟩
  else none

def le (p q : Path) : Bool := go p.parts q.parts
where
  go : List Text → List Text → Bool
    | [], _ => true
    | _ :: _, [] => false
    | a :: s, b :: t => if a == b then go s t else Text.lt a b

end Path

end Stencil
