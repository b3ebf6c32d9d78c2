import Stencil.File.LayoutFolders
import Stencil.Site.Document
import Stencil.Site.Menu
/-!
The configuration of a project: its settings over their defaults, and the site they describe.
-/

namespace Stencil.Config

/-- Settings by name, in the order they were first given. -/
abbrev Settings := List (Value × Value)

def defaults : Settings :=
  let text (name value : String) : Value × Value := (.ofString name, .ofString value)
  [text "title" "", text "base_url" "", text "description" "", text "author" "",
    text "copyright" "", text "theme" "", text "layouts_dir" "layouts", text "theme_dir" "themes",
    text "content_dir" "content", (.ofString "params", .map []), (.ofString "menus", .map []),
    (.ofString "build",
      .map [(.ofString "incremental", .bool true), (.ofString "parallel", .bool true),
        (.ofString "cache_dir", .text BuildSettings.standard.cacheDir),
        (.ofString "max_workers", .int BuildSettings.standard.maxWorkers)])]

def update (settings more : Settings) : Settings :=
  more.foldl (fun s (k, v) => Value.insert s k v) settings

/-- The defaults with the settings of a document. Build settings are put over the default ones one by
one, all others replace them. -/
def ofDocument : Value → Settings
  | .map entries =>
      let buildKey := Value.ofString "build"
      let settings := update defaults (entries.filter fun (k, _) => !k.eq buildKey)
      match Value.find? buildKey entries, Value.find? buildKey defaults with
      | some (.map build), some (.map standard) =>
          Value.insert settings buildKey (.map (update standard build))
      | _, _ => settings
  | _ => defaults

def fileName : Path := .ofText "glyph.yaml".toList

def load (tree : FileTree) (project : Path) : Except Fault Settings := do
  let file := project.join fileName
  if tree.contains file then return ofDocument (← Yaml.read (← tree.read file))
  else return defaults

/-- A setting that names a folder, or `default` where it counts as nothing. -/
def folder (settings : Settings) (name default : String) : Except Fault Path := do
  return .ofText (← Document.textField settings name default.toList)

def workers : Value → Except Fault Int
  | .text s => (Text.toInt? s).elim (.error .outOfDomain) .ok
  | .bool b => .ok (if b then 1 else 0)
  | .int i => .ok i
  | .float f => (Number.float f).truncate
  | _ => .error .wrongKind

def build : Value → Except Fault BuildSettings
  | .map entries => do
      let get (name : String) (default : Value) : Value :=
        (Value.find? (.ofString name) entries).getD default
      let standard := BuildSettings.standard
      return {
        incremental := (get "incremental" (.bool standard.incremental)).truthy
        parallel := (get "parallel" (.bool standard.parallel)).truthy
        cacheDir := ← (get "cache_dir" (.text standard.cacheDir)).display
        maxWorkers := ← workers (get "max_workers" (.int standard.maxWorkers)) }
  | _ => .ok .standard

/-- The site that settings, data and pages make. Each page gets its position. -/
def site (settings : Settings) (data : List (Value × Value)) (pages : List Page) :
    Except Fault Site := do
  let text (name : String) (default : Text) : Except Fault Text :=
    Document.textField settings name default
  let field := Document.field settings
  return {
    title := ← text "title" []
    baseUrl := ← text "base_url" []
    description := ← text "description" []
    author := ← text "author" []
    copyright := ← text "copyright" []
    theme := ← text "theme" []
    layoutsDir := ← text "layouts_dir" "layouts".toList
    params := match field "params" with
      | .map entries => .map entries
      | _ => .map []
    data := .map data
    pages := pages.mapIdx fun i p => { p with position? := some i }
    menus := ← Menu.ofConfig (field "menus")
    build := ← build (field "build")
    debug := (field "debug").truthy }

/-- The folders of layouts: the site's own and, with a theme, the theme's. -/
def layouts (settings : Settings) (project : Path) : Except Fault LayoutFolders := do
  let own := project.join (← folder settings "layouts_dir" "layouts")
  let theme := Document.field settings "theme"
  if theme.truthy then
    let themes := project.join (← folder settings "theme_dir" "themes")
    let chosen := themes.join (.ofText (← theme.display))
    return ⟨[own, chosen.join (.ofText "layouts".toList)]⟩
  else return ⟨[own]⟩

end Stencil.Config
