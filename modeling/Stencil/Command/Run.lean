import Stencil.Command.Options
import Stencil.Site.Project
import Stencil.Template.Engine
/-!
The commands: rendering a template, a layout or a page of a project, and listing what templates may
call. A command works on the files it is given and answers with what it prints and writes.
-/

namespace Stencil.Command

structure Outcome where
  status : Nat
  output : Text
  errors : Text
  written : Option (List Text × Text)

namespace Outcome

def printed (s : Text) : Outcome := ⟨0, s, [], none⟩

def misused : Outcome := ⟨2, [], [], none⟩

def failed (title message : Text) : Outcome :=
  ⟨1, [], title ++ "\n  Error: ".toList ++ message ++ ['\n'], none⟩

end Outcome

/-! The commands and their options. -/

def program : String := "cli"

def version : String := "glyph, version 0.3.0\n"

private def projectOption : OptionSpec :=
  ⟨none, "project", .folder, "Project root containing glyph.yaml", some "."⟩

private def pageOption : OptionSpec :=
  ⟨none, "page", .file, "Content file bound as page", none⟩

private def outputOption : OptionSpec :=
  ⟨some 'o', "output", .path, "Write output to a file", none⟩

def renderSpec : Spec where
  name := "render"
  arguments := [("TEMPLATE", .file)]
  options := [pageOption, projectOption, outputOption, helpOption]
  help := "Render a template file against the project."

def layoutSpec : Spec where
  name := "layout"
  arguments := [("NAME", .text)]
  options :=
    [pageOption, ⟨none, "kind", .text, "Page kind or type used for layout lookup", none⟩,
      ⟨none, "format", .text, "Output format", some "html"⟩, projectOption, helpOption]
  help := "Resolve the layout NAME and render it."

def pageSpec : Spec where
  name := "page"
  arguments := [("SOURCE", .file)]
  options :=
    [projectOption, ⟨none, "layout", .text, "Layout overriding the page's own", none⟩,
      outputOption, helpOption]
  help := "Render the content file SOURCE with its layout."

def functionsSpec : Spec := ⟨"functions", [], [helpOption], "List template functions."⟩

def filtersSpec : Spec := ⟨"filters", [], [helpOption], "List template filters."⟩

def specs : List Spec := [filtersSpec, functionsSpec, layoutSpec, pageSpec, renderSpec]

def globalOptions : List OptionSpec :=
  [⟨none, "version", .nothing, "Show the version and exit.", none⟩,
    ⟨some 'v', "verbose", .nothing, "Log template diagnostics", none⟩, helpOption]

def globalUsage : String :=
  "Usage: " ++ program ++ " [OPTIONS] COMMAND [ARGS]...\n\n" ++
    "  Glyph static site template processor.\n\nOptions:\n" ++ optionRows globalOptions ++
    "\nCommands:\n" ++ columns (specs.map fun s => (s.name, s.help))

/-! What commands share. -/

structure World where
  tree : FileTree
  now : Moment

def Holds.admits (tree : FileTree) (value : Text) : Holds → Bool
  | .file => !value.isEmpty && tree.isFile (.ofText value)
  | .folder => !value.isEmpty && tree.isFolder (.ofText value)
  | _ => true

/-- A call that fits its command: as many arguments as the command has, and files and folders that
are there. -/
def Call.fits (tree : FileTree) (spec : Spec) (call : Call) : Bool :=
  call.arguments.length == spec.arguments.length &&
    ((spec.arguments.zip call.arguments).all fun ((_, holds), value) => holds.admits tree value) &&
    spec.options.all fun o =>
      match call.value? o.name with
      | some value => o.holds.admits tree value
      | none => true

private def Call.path? (call : Call) (name : String) : Option Path :=
  (call.value? name).map Path.ofText

private def Call.project (call : Call) : Path := (call.path? "project").getD .here

private def Call.argument (call : Call) : Text := call.arguments.headD []

/-- The page of a file: the site's own page if the file is one of its pages, or else one read for
the purpose, below the content folder if it lies there. -/
def findPage (w : World) (settings : Config.Settings) (site : Site) (project file : Path) :
    Except Fault Page := do
  let target ← w.tree.place file
  let isTarget (p : Page) : Bool :=
    match p.file?.map (w.tree.place ∘ Path.ofText) with
    | some (.ok place) => place == target
    | _ => false
  match site.pages.find? isTarget with
  | some page => return page
  | none =>
      let folder ← Project.contentFolder settings project
      let file : Path := ⟨false, target⟩
      let folder : Path :=
        match w.tree.place folder with
        | .ok place => if place.isPrefixOf target then ⟨false, place⟩ else file.parent
        | .error _ => file.parent
      Document.load w.tree file folder

private structure Loaded where
  settings : Config.Settings
  site : Site
  setup : Engine.Setup

private def load (w : World) (project : Path) : Except Fault Loaded := do
  let (settings, site) ← Project.load w.tree project false
  let layouts ← Config.layouts settings project
  return ⟨settings, site, ⟨layouts.source w.tree, .standard⟩⟩

private def context (w : World) (l : Loaded) (call : Call) : Except Fault Context := do
  let page ← (call.path? "page").mapM (findPage w l.settings l.site call.project)
  return .create (some l.site) page [] w.now

private def emit (w : World) (call : Call) (text : Text) : Except Fault Outcome := do
  match call.path? "output" with
  | none => return .printed text
  | some path =>
      let place ← w.tree.newPlace path
      return ⟨0, "Wrote ".toList ++ path.toText ++ ['\n'], [], some (place, text)⟩

/-- Layouts that are missing or extend each other in a circle are told to the user; other failures
are not foreseen. -/
private def orFailed (title : String) (r : Except Fault Text) (next : Text → Except Fault Outcome) :
    Except Fault Outcome :=
  match r with
  | .ok text => next text
  | .error fault =>
      match fault with
      | .layoutMissing _ _ | .inheritanceLoop _ =>
          .ok (.failed title.toList (fault.wording?.getD []))
      | fault => .error fault

private def runRender (w : World) (call : Call) : Except Fault Outcome := do
  let l ← load w call.project
  let ctx ← context w l call
  let rendered : Except Fault Text := do
    (Engine.render l.setup ctx (← w.tree.read (.ofText call.argument)) none).result
  orFailed "Render failed:" rendered (emit w call)

private def runLayout (w : World) (call : Call) : Except Fault Outcome := do
  let l ← load w call.project
  let ctx ← context w l call
  let format := (call.value? "format").getD "html".toList
  let rendered :=
    (Engine.renderByName l.setup ctx call.argument (call.value? "kind") format).result
  orFailed "Layout failed:" rendered fun text => .ok (.printed text)

private def runPage (w : World) (call : Call) : Except Fault Outcome := do
  let l ← load w call.project
  let source := Path.ofText call.argument
  let page ← findPage w l.settings l.site call.project source
  let rendered := Engine.renderPage l.setup page (some l.site) (call.value? "layout") [] w.now
  match rendered.result with
  | .ok text => emit w call text
  | .error (.rendering _ cause) =>
      return .failed ("Rendering ".toList ++ source.toText ++ " failed:".toList)
        (cause.pageMessage cause.detail)
  | .error fault => throw fault

private def runNames (names : List Text) : Outcome :=
  .printed (names.flatMap fun name => name ++ ['\n'])

private def runCommand (w : World) (spec : Spec) (args : List Text) : Except Fault Outcome :=
  match Call.read? spec.options true args with
  | none => .ok .misused
  | some call =>
      if call.has "help" then .ok (.printed (spec.usage program).toList)
      else if !call.fits w.tree spec then .ok .misused
      else
        match spec.name with
        | "render" => runRender w call
        | "layout" => runLayout w call
        | "page" => runPage w call
        | "functions" => .ok (runNames Function.standard.names)
        | _ => .ok (runNames Filter.standard.names)

def run (w : World) (args : List Text) : Except Fault Outcome :=
  match Call.read? globalOptions false args with
  | none => .ok .misused
  | some call =>
      match call.options.find? fun (name, _) => name != "verbose" with
      | some ("help", _) => .ok (.printed globalUsage.toList)
      | some _ => .ok (.printed version.toList)
      | none =>
          match call.arguments with
          | [] => .ok .misused
          | name :: args =>
              match specs.find? (·.name.toList == name) with
              | some spec => runCommand w spec args
              | none => .ok .misused

end Stencil.Command
