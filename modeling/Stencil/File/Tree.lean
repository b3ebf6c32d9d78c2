import Stencil.Fault
import Stencil.File.Path
/-!
Files by path, below one folder. A folder is there when a file lies in it. Files are read with line
feeds as ends of line.
-/

namespace Stencil

/-- The files below the starting folder, by the components of their paths. -/
structure FileTree where
  files : List (List Text × Text)

namespace FileTree

def ofList (files : List (Text × Text)) : FileTree :=
  ⟨files.map fun (path, text) => ((Path.ofText path).parts, text)⟩

def file? (tree : FileTree) (place : List Text) : Option Text := tree.files.lookup place

/-- Folders are the starting folder and everything that a file lies in. -/
def hasFolder (tree : FileTree) (place : List Text) : Bool :=
  place.isEmpty ||
    tree.files.any fun (file, _) => place.isPrefixOf file && place.length < file.length

/-- Where a path leads from a place: each component but the last must be a folder, and `..` leads
back. -/
def walk (tree : FileTree) (place : List Text) : List Text → Except Fault (List Text)
  | [] => .ok place
  | part :: rest =>
      if !tree.hasFolder place then
        .error (if (tree.file? place).isSome then .fileAsFolder else .missingFile)
      else if part == ['.', '.'] then
        if place.isEmpty then .error .missingFile else walk tree place.dropLast rest
      else walk tree (place ++ [part]) rest

/-- The place of a path. Absolute paths lead out of the tree. -/
def place (tree : FileTree) (p : Path) : Except Fault (List Text) :=
  if p.isAbsolute then .error .missingFile else tree.walk [] p.parts

def isFile (tree : FileTree) (p : Path) : Bool :=
  match tree.place p with
  | .ok place => (tree.file? place).isSome
  | .error _ => false

def isFolder (tree : FileTree) (p : Path) : Bool :=
  match tree.place p with
  | .ok place => tree.hasFolder place
  | .error _ => false

def contains (tree : FileTree) (p : Path) : Bool := tree.isFile p || tree.isFolder p

def read (tree : FileTree) (p : Path) : Except Fault Text := do
  let place ← tree.place p
  match tree.file? place with
  | some text => return text.normalizeNewlines
  | none => throw (if tree.hasFolder place then .folderAsFile else .missingFile)

def readable (tree : FileTree) : List Text := tree.files.map fun (_, text) => text.normalizeNewlines

theorem mem_readable_of_read (tree : FileTree) {p : Path} {text : Text}
    (h : tree.read p = .ok text) : text ∈ tree.readable := by
  unfold read at h
  cases hplace : tree.place p with
  | error e => simp [hplace, bind, Except.bind] at h
  | ok place =>
      simp only [hplace, bind, Except.bind] at h
      split at h
      · next found hfound =>
          obtain ⟨_, _, hfiles, _⟩ := List.lookup_eq_some_iff.mp hfound
          cases h
          simp [readable, hfiles]
      · cases h

/-- The place of a folder that is made, with the folders it lies in, where it is not there. -/
private def makeFolder (tree : FileTree) (place : List Text) : List Text → Except Fault (List Text)
  | [] => if (tree.file? place).isSome then .error .fileInTheWay else .ok place
  | part :: rest =>
      if (tree.file? place).isSome then .error .fileAsFolder
      else makeFolder tree (if part == ['.', '.'] then place.dropLast else place ++ [part]) rest

def newPlace (tree : FileTree) (p : Path) : Except Fault (List Text) := do
  let folder ← tree.makeFolder [] p.parent.parts
  let place := if p.name == ['.', '.'] then folder.dropLast else folder ++ p.parts.getLast?.toList
  if tree.hasFolder place then throw .folderAsFile else return place

/-- The files and folders directly in a folder, in the order of their paths. -/
def children (tree : FileTree) (folder : Path) : List Path :=
  match tree.place folder with
  | .ok place =>
      let names := tree.files.filterMap fun (file, _) =>
        if place.isPrefixOf file then (file.drop place.length).head? else none
      (names.eraseDups.map fun name => folder.join ⟨false, [name]⟩).mergeSort Path.le
  | .error _ => []

def filesBelow (tree : FileTree) (folder : Path) : List Path :=
  match tree.place folder with
  | .ok place =>
      (tree.files.filterMap fun (file, _) =>
        if place.isPrefixOf file && place.length < file.length then
          some (folder.join ⟨false, file.drop place.length⟩)
        else none).mergeSort Path.le
  | .error _ => []

end FileTree

end Stencil
