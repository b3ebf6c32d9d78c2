import Stencil.Fault
import Stencil.Text.Slug
/-!
Layouts are found by a logical name. The candidates for a name, most specific first, lie in the
folder of the page's kind, in the default folder and at the top; each is looked for in every
directory before the next candidate is.
-/

namespace Stencil

namespace Layout

/-- The names of files that a layout's name is written out in, most specific first. -/
def fileNames (name : Text) (kind : Option Text) (format : Text) : List Text :=
  let html := ".html".toList
  let long := '.' :: format ++ html
  let default := "_default/".toList
  let inKind :=
    match kind with
    | some kind =>
        if kind.isEmpty then []
        else [kind ++ ['/'] ++ name ++ long, kind ++ ['/'] ++ name ++ html]
    | none => []
  inKind ++ [default ++ name ++ long, default ++ name ++ html, name ++ long, name ++ html]

/-- The relative paths tried for a name, most specific first and each once. -/
def candidates (name : Text) (kind : Option Text) (format : Text) : List Text :=
  (fileNames name kind format ++ [name]).eraseDups

end Layout

structure LayoutTable where
  texts : List (Text × Text)

/-- Where layouts are looked up: a search that answers or fails, and the texts it can answer with.
`resolveWritten` is the search for a name that is no text: it is written out in the names of files
but names none by itself, and cannot be told as missing. -/
structure LayoutSource where
  resolve : Text → Option Text → Text → Except Fault Text
  resolveWritten : Text → Option Text → Text → Except Fault Text
  texts : List Text
  mem_texts : ∀ {name kind format text}, resolve name kind format = .ok text → text ∈ texts

def LayoutTable.resolve (table : LayoutTable) (name : Text) (kind : Option Text) (format : Text) :
    Except Fault Text :=
  let names := Layout.candidates name kind format
  match names.findSome? fun candidate => table.texts.lookup candidate with
  | some text => .ok text
  | none => .error (.layoutMissing name names)

def LayoutTable.resolveWritten (table : LayoutTable) (name : Text) (kind : Option Text)
    (format : Text) : Except Fault Text :=
  let names := Layout.fileNames name kind format
  match names.findSome? fun candidate => table.texts.lookup candidate with
  | some text => .ok text
  | none => .error .wrongKind

theorem LayoutTable.resolve_cases (table : LayoutTable) (name : Text) (kind : Option Text)
    (format : Text) :
    (∃ text, table.resolve name kind format = .ok text) ∨
      ∃ searched, table.resolve name kind format = .error (.layoutMissing name searched) := by
  unfold LayoutTable.resolve
  dsimp only
  split
  · exact .inl ⟨_, rfl⟩
  · exact .inr ⟨_, rfl⟩

theorem LayoutTable.resolveWritten_cases (table : LayoutTable) (name : Text) (kind : Option Text)
    (format : Text) :
    (∃ text, table.resolveWritten name kind format = .ok text) ∨
      table.resolveWritten name kind format = .error .wrongKind := by
  unfold LayoutTable.resolveWritten
  dsimp only
  split
  · exact .inl ⟨_, rfl⟩
  · exact .inr rfl

theorem LayoutTable.mem_of_resolve {table : LayoutTable} {name : Text} {kind : Option Text}
    {format text : Text} (h : table.resolve name kind format = .ok text) :
    text ∈ table.texts.map (·.2) := by
  simp only [resolve] at h
  split at h
  · next found hfound =>
      obtain ⟨candidate, _, hlookup⟩ := List.exists_of_findSome?_eq_some hfound
      obtain ⟨_, _, htexts, _⟩ := List.lookup_eq_some_iff.mp hlookup
      cases h
      simp [htexts]
  · cases h

def LayoutTable.source (table : LayoutTable) : LayoutSource where
  resolve := table.resolve
  resolveWritten := table.resolveWritten
  texts := table.texts.map (·.2)
  mem_texts := LayoutTable.mem_of_resolve

end Stencil
