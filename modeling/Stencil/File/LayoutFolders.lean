import Stencil.File.Tree
import Stencil.Template.Layout
/-!
Layouts in folders. Each candidate for a name is looked for in every folder before the next
candidate is, so the first folder overrides the later ones.
-/

namespace Stencil

/-- Folders of layouts, the site's own before the theme's. -/
structure LayoutFolders where
  folders : List Path

namespace LayoutFolders

def places (layouts : LayoutFolders) (candidates : List Text) : List Path :=
  candidates.flatMap fun candidate =>
    layouts.folders.map fun folder => folder.join (Path.ofText candidate)

def searchPath (layouts : LayoutFolders) (name : Text) (kind : Option Text) (format : Text) :
    List Path :=
  layouts.places (Layout.candidates name kind format)

def findAmong (layouts : LayoutFolders) (isFile : Path → Bool) (name : Text)
    (kind : Option Text) (format : Text) : Except Fault Path :=
  let paths := layouts.searchPath name kind format
  match paths.find? isFile with
  | some path => .ok path
  | none => .error (.layoutMissing name (paths.map Path.toText))

def find (layouts : LayoutFolders) (tree : FileTree) : Text → Option Text → Text →
    Except Fault Path :=
  layouts.findAmong tree.isFile

def resolve (layouts : LayoutFolders) (tree : FileTree) (name : Text) (kind : Option Text)
    (format : Text) : Except Fault Text := do
  tree.read (← layouts.find tree name kind format)

def resolveWritten (layouts : LayoutFolders) (tree : FileTree) (name : Text)
    (kind : Option Text) (format : Text) : Except Fault Text :=
  match (layouts.places (Layout.fileNames name kind format)).find? tree.isFile with
  | some path => tree.read path
  | none => .error .wrongKind

theorem mem_of_resolve {layouts : LayoutFolders} {tree : FileTree} {name : Text}
    {kind : Option Text} {format text : Text}
    (h : layouts.resolve tree name kind format = .ok text) : text ∈ tree.readable := by
  unfold resolve at h
  cases hfind : layouts.find tree name kind format with
  | error e => simp [hfind, bind, Except.bind] at h
  | ok path => exact tree.mem_readable_of_read (by simpa [hfind, bind, Except.bind] using h)

def source (layouts : LayoutFolders) (tree : FileTree) : LayoutSource where
  resolve := layouts.resolve tree
  resolveWritten := layouts.resolveWritten tree
  texts := tree.readable
  mem_texts := mem_of_resolve

end LayoutFolders

end Stencil
