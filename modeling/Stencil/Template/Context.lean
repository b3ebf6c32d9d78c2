import Stencil.Site.Navigation
import Stencil.Value.Reading
/-!
What a template can name. A render sees the site, perhaps a page, and the moment it happens; loops
put scopes of their own before the extra bindings of the render, and all of these come before the
names that every template knows.
-/

namespace Stencil

/-- A scope binds names to values; of equal names the first counts. -/
abbrev Scope := List (Text × Value)

/-- Sets a name in a scope; a name keeps its place. -/
def Scope.bind (scope : Scope) (name : Text) (value : Value) : Scope :=
  if scope.any (·.1 == name) then
    scope.map fun (n, v) => if n == name then (n, value) else (n, v)
  else scope ++ [(name, value)]

/-- A scope of some bindings, of which the later ones count. -/
def Scope.ofList (bindings : List (Text × Value)) : Scope :=
  bindings.foldl (fun scope (name, value) => scope.bind name value) []

/-- The bindings in force at one point of a render, innermost scope first. -/
structure Context where
  scopes : List Scope
  site : Site
  page : Option Page
  now : Moment

namespace Context

/-- How often each tag stands on a regular page, in the order of the tags. -/
def tagCloud (site : Site) : Except Fault Value := do
  let tags ← (← Collection.regular site.pageValues).mapM fun v => do
    (← Collection.pageOf v).tags.keys
  let tags := tags.flatten
  let distinct := Value.distinct tags
  let counted := distinct.map fun tag =>
    (tag, (tag, Value.int (tags.countP (·.eq tag))))
  return .map (← sortByKey Value.lt? counted)

def yearOf : Value → Except Fault Text
  | .moment m => .ok (Text.ofNat m.date.year)
  | .date d => .ok (Text.ofNat d.year)
  | _ => .error .noSuchOperation

/-- An archive with a further page in its year. A page without a date is left out. -/
def addToYear (archive : List (Text × List Value)) (v : Value) :
    Except Fault (List (Text × List Value)) := do
  let page ← Collection.pageOf v
  if !page.date.truthy then return archive
  let year ← yearOf page.date
  if archive.any (·.1 == year) then
    return archive.map fun (y, vs) => if y == year then (y, vs ++ [v]) else (y, vs)
  else return archive ++ [(year, [v])]

/-- The dated regular pages by year, newest first. -/
def archiveByYear (site : Site) : Except Fault Value := do
  let pages ← Collection.sorted (← Collection.regular site.pageValues)
  let years ← pages.foldlM addToYear []
  return .map (years.map fun (year, vs) => (.text year, .list vs))

def ofPage (page : Option Page) (field : Page → Except Fault Value) (default : Value) :
    Except Fault Value :=
  match page with
  | some p => field p
  | none => .ok default

def roots : List (String × (Context → Except Fault Value)) :=
  let page (ctx : Context) : Value := (ctx.page.map Value.page).getD .nil
  let pageField (field : Page → Except Fault Value) (default : Value) (ctx : Context) :=
    ofPage ctx.page field default
  [ ("site", fun ctx => .ok (.site ctx.site)),
    ("page", fun ctx => .ok (page ctx)),
    (".", fun ctx => .ok (page ctx)),
    ("now", fun ctx => .ok (.moment ctx.now)),
    ("title", fun ctx => ofPage ctx.page (.ok ·.title) (.text ctx.site.title)),
    ("description", fun ctx =>
      match ctx.page with
      | some p => .ok (if p.description.truthy then p.description else .text ctx.site.description)
      | none => .ok (.text ctx.site.description)),
    ("content", pageField (.ok ·.content) (.text [])),
    ("summary", pageField Page.summary (.text [])),
    ("url", pageField (.ok ·.url) (.text ['/'])),
    ("permalink", fun ctx => ofPage ctx.page ctx.site.permalink (.text ctx.site.baseUrl)),
    ("date", pageField (.ok ·.date) .nil),
    ("date_formatted", pageField (fun p => p.dateFormatted.map .text) (.text [])),
    ("tags", pageField (.ok ·.tags) (.list [])),
    ("categories", pageField (.ok ·.categories) (.list [])),
    ("reading_time", pageField (fun p => p.readingTime.map fun n => .int n) (.int 0)),
    ("word_count", pageField (fun p => p.wordCount.map fun n => .int n) (.int 0)),
    ("params", fun ctx => ofPage ctx.page (.ok ·.params) ctx.site.params),
    ("data", fun ctx => .ok ctx.site.data),
    ("baseURL", fun ctx => .ok (.text ctx.site.baseUrl)),
    ("site_menu", fun ctx => .ok (.list ((ctx.site.menus.lookup "main".toList).getD []))),
    ("breadcrumbs", fun ctx =>
      ofPage ctx.page
        (fun p => do
          return .list ((← Navigation.breadcrumbs p ctx.site.pages ctx.site.title).map .crumb))
        (.list [])),
    ("section_nav", fun ctx =>
      ofPage ctx.page (fun p => (Navigation.sectionNav p ctx.site.pages).map .sectionNav) .nil),
    ("related_content", fun ctx =>
      ofPage ctx.page
        (fun p => do
          return .list ((← Navigation.related p ctx.site.pages Collection.shown).map .page))
        (.list [])),
    ("recent_posts", fun ctx =>
      (Collection.latest Collection.shown ctx.site.pageValues).map .pages),
    ("posts", fun ctx => do
      return .pages (← Collection.sorted (← Collection.regular ctx.site.pageValues))),
    ("pages", fun ctx => .ok (.pages ctx.site.pageValues)),
    ("tag_cloud", fun ctx => tagCloud ctx.site),
    ("archive_by_year", fun ctx => archiveByYear ctx.site) ]

def root? (ctx : Context) (name : Text) : Option (Except Fault Value) :=
  (roots.find? fun (root, _) => root.toList == name).map fun (_, value) => value ctx

def get? (ctx : Context) (name : Text) : Option (Except Fault Value) :=
  match ctx.scopes.findSome? fun scope => List.lookup name scope with
  | some value => some (.ok value)
  | none => ctx.root? name

/-- The value of a name; a name with a dollar that is not bound stands for the name without. -/
def lookup? (ctx : Context) (name : Text) : Option (Except Fault Value) :=
  match ctx.get? name with
  | some value => some value
  | none =>
      match name with
      | '$' :: rest => if rest.isEmpty then none else ctx.get? rest
      | _ => none

def lookup (ctx : Context) (name : Text) : Except Fault Value :=
  (ctx.lookup? name).getD (.ok .nil)

def has (ctx : Context) (name : Text) : Bool :=
  (ctx.get? name).isSome ||
    match name with
    | '$' :: rest => (ctx.get? rest).isSome
    | _ => false

/-- The context of a render of a page within a site, with extra bindings that come before the names
every template knows. -/
def create (site : Option Site) (page : Option Page) (extra : Scope) (now : Moment) : Context :=
  ⟨[extra], site.getD .blank, page, now⟩

def child (ctx : Context) (scope : Scope) : Context :=
  { ctx with scopes := scope :: ctx.scopes }

/-- The calls that answer with content: a name, whether it is called with an argument, and the
answer. -/
def query? (ctx : Context) (name : Text) : Option (Option Value → Except Fault Value) :=
  let count (arg : Option Value) : Except Fault Int :=
    match arg with
    | none => .ok Collection.shown
    | some v => do return (← v.wholeNumber?).getD Collection.shown
  let regular := Collection.regular ctx.site.pageValues
  let display (arg : Option Value) : Except Fault Text := (arg.getD (.text [])).display
  if name == "recent_posts".toList then
    some fun arg => do return .pages (← Collection.latest (← count arg) ctx.site.pageValues)
  else if name == "related_content".toList then
    some fun arg =>
      match ctx.page with
      | none => .ok (.list [])
      | some p => do
          return .list ((← Navigation.related p ctx.site.pages (← count arg)).map .page)
  else if name == "content_by_section".toList then
    some fun arg => do
      let pages ← regular
      return .pages (← Collection.sorted (← Collection.inSection (← display arg) pages))
  else if name == "content_by_tag".toList then
    some fun arg => do
      let pages ← regular
      return .pages (← Collection.sorted (← Collection.withTag (← display arg) pages))
  else none

def runQuery (ctx : Context) (name : Text) (args : List Value) : Except Fault Value :=
  match ctx.query? name with
  | none => .error .missingKey
  | some query =>
      match args with
      | [] => query none
      | [v] => query (some v)
      | _ => .error .wrongKind

end Context

end Stencil
