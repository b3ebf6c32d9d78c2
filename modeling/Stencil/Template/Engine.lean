import Stencil.Template.Inheritance
import Stencil.Template.Render
/-!
Rendering with layouts: a text that may extend a layout, a layout by name, or a page with the layout
that suits it.
-/

namespace Stencil

namespace Fault

def kind : Fault → Text
  | .badArguments _ => "FunctionArgumentError".toList
  | .layoutMissing _ _ => "LayoutNotFoundError".toList
  | .inheritanceLoop _ => "TemplateInheritanceError".toList
  | .frozen _ _ => "RuntimeError".toList
  | .rendering _ _ => "RenderError".toList
  | .wrongKind => "TypeError".toList
  | .noSuchOperation => "AttributeError".toList
  | .outOfDomain => "ValueError".toList
  | .missingKey => "KeyError".toList
  | .badIndex => "IndexError".toList
  | .overflow => "OverflowError".toList
  | .zeroDivision => "ZeroDivisionError".toList
  | .document .unreadable => "ReaderError".toList
  | .document .token => "ScannerError".toList
  | .document .structure_ => "ParserError".toList
  | .document .alias_ => "ComposerError".toList
  | .document .construction => "ConstructorError".toList
  | .tooDeep => "RecursionError".toList
  | .missingFile => "FileNotFoundError".toList
  | .folderAsFile => "IsADirectoryError".toList
  | .fileAsFolder => "NotADirectoryError".toList
  | .fileInTheWay => "FileExistsError".toList

def wording? : Fault → Option Text
  | .badArguments message => some message
  | .layoutMissing name searched =>
      some ("No layout found for ".toList ++ Text.quoted name ++ " (tried: ".toList ++
        Text.join ", ".toList searched ++ [')'])
  | .inheritanceLoop chain =>
      some ("Circular layout inheritance: ".toList ++ Text.join " -> ".toList chain)
  | .frozen kind name =>
      some (kind ++ " registry is frozen; cannot register ".toList ++ Text.quoted name)
  | _ => none

/-- How a page's failure is told: layout failures in their own words, all others by their kind and
`detail`. -/
def pageMessage (detail : Text) (cause : Fault) : Text :=
  match cause with
  | .layoutMissing _ _ | .inheritanceLoop _ => cause.wording?.getD []
  | .noSuchOperation => "Attribute error: ".toList ++ detail
  | .wrongKind => "Type error: ".toList ++ detail
  | cause => cause.kind ++ ": ".toList ++ detail

def detail : Fault → Text
  | .zeroDivision => "0.0 cannot be raised to a negative power".toList
  | .tooDeep => "maximum recursion depth exceeded".toList
  | e => e.wording?.getD []

def message (detailOf : Fault → Text) : Fault → Option Text
  | .rendering layout cause => some (layout ++ ": ".toList ++ cause.pageMessage (detailOf cause))
  | e => e.wording?

end Fault

namespace Engine

open Stencil.Template

structure Setup where
  layouts : LayoutSource
  tools : Toolbox

def render (setup : Setup) (ctx : Context) (template : Text) (name : Option Text) : Eval Text := do
  let composed ← Eval.ofExcept (resolveInheritance setup.layouts template name)
  Template.render setup.tools ctx composed

def renderByName (setup : Setup) (ctx : Context) (name : Text) (kind : Option Text)
    (format : Text) : Eval Text := do
  let template ← Eval.ofExcept (setup.layouts.resolve name kind format)
  render setup ctx template (some name)

def defaultLayout : Text :=
  ("<!DOCTYPE html>\n<html lang=\"en\">\n<head>\n<meta charset=\"utf-8\">\n" ++
    "<title>\x7b\x7b title \x7d\x7d\x7b\x7b if site.title \x7d\x7d | " ++
    "\x7b\x7b site.title \x7d\x7d\x7b\x7b endif \x7d\x7d</title>\n" ++
    "\x7b\x7b if description \x7d\x7d<meta name=\"description\" " ++
    "content=\"\x7b\x7b description | escape \x7d\x7d\">\x7b\x7b endif \x7d\x7d\n" ++
    "</head>\n<body>\n<header>\n<a href=\"/\">\x7b\x7b site.title \x7d\x7d</a>\n" ++
    "\x7b\x7b if site_menu \x7d\x7d<nav>\x7b\x7b for item in site_menu \x7d\x7d" ++
    "<a href=\"\x7b\x7b item.url \x7d\x7d\">\x7b\x7b item.name \x7d\x7d</a>" ++
    "\x7b\x7b endfor \x7d\x7d</nav>\x7b\x7b endif \x7d\x7d\n" ++
    "</header>\n<main>\n<article>\n<h1>\x7b\x7b title \x7d\x7d</h1>\n" ++
    "\x7b\x7b if date \x7d\x7d<time datetime=\"\x7b\x7b date \x7d\x7d\">" ++
    "\x7b\x7b date_formatted \x7d\x7d</time>\x7b\x7b endif \x7d\x7d\n" ++
    "\x7b\x7b content \x7d\x7d\n</article>\n</main>\n</body>\n</html>\n").toList

def layoutOfKind (kind : Value) : Except Fault Value :=
  if !kind.isKey then .error .wrongKind
  else if kind.eq (.ofString "home") then .ok (.ofString "home")
  else if kind.eq (.ofString "section") then .ok (.ofString "list")
  else .ok (.ofString "single")

/-- The layout name of a page: the one asked for, the page's own, or the one of its kind. -/
def layoutName (page : Page) (layout : Option Text) : Except Fault Value :=
  match layout with
  | some name => if name.isEmpty then own else .ok (.text name)
  | none => own
where
  own : Except Fault Value :=
    if page.layout.truthy then .ok page.layout else layoutOfKind page.kind

def findLayout (layouts : LayoutSource) (name : Value) (kind : Text) : Except Fault Text :=
  match name with
  | .text s => layouts.resolve s (some kind) "html".toList
  | v =>
      if v.isKey then do layouts.resolveWritten (← v.display) (some kind) "html".toList
      else .error .wrongKind

/-- The layout that a page is rendered with: its name as failures tell it, its own name for the
chain of layouts, and its text. A name that is no text is in no chain. -/
structure Chosen where
  name : Text
  own : Option Text
  template : Text

/-- A failure as it is told of a layout. A loop behind a name that is no text cannot be told. -/
def Chosen.told (chosen : Chosen) : Fault → Fault
  | .inheritanceLoop chain =>
      if chosen.own.isSome then .inheritanceLoop chain else .wrongKind
  | e => e

/-- The layout of a page, or the default one when there is no such layout. -/
def chooseLayout (layouts : LayoutSource) (page : Page) (layout : Option Text) : Eval Chosen := do
  let chosen ← Eval.ofExcept (layoutName page layout)
  let kind ← Eval.ofExcept page.type
  let name ← Eval.ofExcept chosen.display
  match findLayout layouts chosen kind with
  | .ok template => return ⟨name, chosen.asText?, template⟩
  | .error (.layoutMissing _ _) => do
      Eval.note .warning "templates"
        ("No layout found for ".toList ++ Text.quoted name ++
          "; using the built-in default".toList)
      return ⟨"<default>".toList, some "<default>".toList, defaultLayout⟩
  | .error e => throw e

/-- A page rendered with its layout. A failure of the render itself is told with the layout's
name. -/
def renderPage (setup : Setup) (page : Page) (site : Option Site) (layout : Option Text)
    (extra : Scope) (now : Moment) : Eval Text := do
  let chosen ← chooseLayout setup.layouts page layout
  let ctx := Context.create site (some page) extra now
  tryCatch (render setup ctx chosen.template chosen.own) fun e =>
    throw (.rendering chosen.name (chosen.told e))

end Engine

end Stencil
