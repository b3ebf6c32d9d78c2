import Stencil.Calendar.Reading
import Stencil.File.Tree
import Stencil.Markdown.Render
import Stencil.Site.FrontMatter
import Stencil.Site.Page
/-!
Pages made of documents. The front matter gives the fields of the page, and the place of the file
its section and address: `_index` is the page of a section, `index` at the top is the home page, and
all else is a single page.
-/

namespace Stencil.Document

def field (entries : List (Value × Value)) (name : String) : Value :=
  (Value.find? (.ofString name) entries).getD .nil

/-- An entry as a text, or `default` where it counts as nothing. -/
def textField (entries : List (Value × Value)) (name : String) (default : Text) :
    Except Fault Text :=
  let v := field entries name
  if v.truthy then v.display else .ok default

/-- The moment that a value stands for: moments, days, and texts in one of three forms. -/
def moment? : Value → Option Moment
  | .moment m => some m
  | .date d => some (.ofDate d)
  | .text s =>
      let s := Text.trim s
      (Moment.ofSpacedText? s).orElse fun _ =>
        (Moment.ofJoinedText? s).orElse fun _ => Moment.ofDayText? s
  | _ => none

/-- The date of a page: what its front matter says, else the day that the file name begins with. -/
def date? (entry : Value) (stem : Text) : Except Fault (Option Moment) :=
  match moment? entry with
  | some m => .ok (some m)
  | none => Moment.ofName stem

/-- Texts of a list, or the parts of a text between commas that are not blank. -/
def textList : Value → Except Fault (List Text)
  | .text s => .ok (((s.splitBy (· == ',')).map Text.trim).filter (!·.isEmpty))
  | .list items => items.mapM Value.display
  | _ => .ok []

inductive Role
  | home
  | section_
  | single
deriving DecidableEq

def Role.word : Role → Text
  | .home => "home".toList
  | .section_ => "section".toList
  | .single => "single".toList

def Role.of (stem sectionPath : Text) : Role :=
  if stem == "_index".toList then .section_
  else if stem == "index".toList && sectionPath.isEmpty then .home
  else .single

/-- The last part of a single page's address: the slug asked for, or the file name without its
date. -/
def slug (entries : List (Value × Value)) (stem : Text) : Except Fault Text := do
  let plain := Text.slugify (← textField entries "slug" stem)
  if (← Moment.ofName stem).isSome && !(field entries "slug").truthy then
    let undated := Text.slugify (Text.join ['-'] ((stem.splitBy (· == '-')).drop 3))
    return if undated.isEmpty then plain else undated
  else return plain

def address (role : Role) (sectionPath stem : Text) (entries : List (Value × Value)) :
    Except Fault Text := do
  match role with
  | .home => return ['/']
  | .section_ => return '/' :: sectionPath ++ ['/']
  | .single =>
      let slug ← slug entries stem
      let parts := [sectionPath, if slug.isEmpty then "index".toList else slug]
      return '/' :: Text.join ['/'] (parts.filter (!·.isEmpty)) ++ ['/']

def page (file seenAt : Path) (raw : Text) : Except Fault Page := do
  let (entries, body) ← FrontMatter.extract raw
  let content :=
    if Text.toLower file.extension == ".md".toList then Markdown.render body else body
  let sectionPath := Text.join ['/'] seenAt.parent.parts
  let stem := file.stem
  let role := Role.of stem sectionPath
  let url ← address role sectionPath stem entries
  let title ← textField entries "title" (Text.titleize file.name)
  let date ← date? (field entries "date") stem
  let tags ← textList (field entries "tags")
  let categories ← textList (field entries "categories")
  let layout ← textField entries "layout" []
  let description ← textField entries "description" []
  let excerpt ← textField entries "summary" []
  return {
    title := .text title, url := .text url, content := .text content,
    date := (date.map Value.moment).getD .nil, tags := .list (tags.map .text),
    categories := .list (categories.map .text), section_ := .text sectionPath,
    kind := .text role.word, layout := .text layout,
    draft := .bool (field entries "draft").truthy, description := .text description,
    excerpt := .text excerpt, params := .map entries, position? := none, file? := some file.toText }

def load (tree : FileTree) (file contentFolder : Path) : Except Fault Page := do
  let raw ← tree.read file
  match Path.relativeTo? contentFolder file with
  | some seenAt => page file seenAt raw
  | none => do
      let _ ← FrontMatter.extract raw
      throw .outOfDomain

end Stencil.Document
