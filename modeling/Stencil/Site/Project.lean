import Stencil.Site.Config
/-!
A project as it lies in a folder: settings, data files and content.
-/

namespace Stencil.Project

/-- The data files of a project by their names, each a mapping; the entries of `site.yaml` stand
beside them. -/
def loadData (tree : FileTree) (project : Path) : Except Fault (List (Value × Value)) :=
  let folder := project.join (.ofText "data".toList)
  let files := (tree.children folder).filter fun p => Text.endsWith ".yaml".toList p.name
  files.foldlM
    (fun data file => do
      let value ← Yaml.read (← tree.read file)
      let value := if value.truthy then value else .map []
      match value with
      | .map entries =>
          if file.name == "site.yaml".toList then return Config.update data entries
          else return Value.insert data (.text file.stem) value
      | _ => return data)
    []

def contentExtensions : List Text := [".md".toList, ".html".toList]

def loadPages (tree : FileTree) (folder : Path) (drafts : Bool) : Except Fault (List Page) := do
  let files := (tree.filesBelow folder).filter fun p =>
    contentExtensions.contains (Text.toLower p.extension)
  let pages ← files.mapM fun file => Document.load tree file folder
  return pages.filter fun p => drafts || !p.draft.truthy

def contentFolder (settings : Config.Settings) (project : Path) : Except Fault Path := do
  return project.join (← Config.folder settings "content_dir" "content")

def load (tree : FileTree) (project : Path) (drafts : Bool) :
    Except Fault (Config.Settings × Site) := do
  let settings ← Config.load tree project
  let pages ← loadPages tree (← contentFolder settings project) drafts
  let data ← loadData tree project
  return (settings, ← Config.site settings data pages)

end Stencil.Project
