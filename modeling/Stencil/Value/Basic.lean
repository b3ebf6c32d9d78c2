import Stencil.Calendar.Moment
import Stencil.Fault
/-!
The values that templates work on: plain data, lists and mappings, and the content objects of a
site. A field of a page may hold any value, because pages come from documents that say what they
like; an operation on a field of the wrong kind fails when it is used.
-/

namespace Stencil

structure MenuEntry where
  name : Text
  url : Text
  weight : Int
  external : Bool
deriving DecidableEq

structure BuildSettings where
  incremental : Bool
  parallel : Bool
  cacheDir : Text
  maxWorkers : Int
deriving DecidableEq

def BuildSettings.standard : BuildSettings := ⟨true, true, ".glyph-cache".toList, 4⟩

mutual

inductive Value
  | nil
  | bool (b : Bool)
  | int (i : Int)
  | float (f : Float)
  | text (s : Text)
  | moment (m : Moment)
  | date (d : Date)
  | list (items : List Value)
  /-- A collection of pages: a list that can be narrowed and sorted as pages. -/
  | pages (items : List Value)
  /-- A mapping in the order its keys were added. -/
  | map (entries : List (Value × Value))
  | page (p : Page)
  | menuEntry (e : MenuEntry)
  | crumb (c : Crumb)
  | sectionNav (n : SectionNav)
  | build (b : BuildSettings)
  | site (s : Site)
  /-- Any other object; templates can do nothing with it. -/
  | object (kind : Text)

structure Page where
  title : Value
  url : Value
  content : Value
  date : Value
  tags : Value
  categories : Value
  section_ : Value
  kind : Value
  layout : Value
  draft : Value
  description : Value
  excerpt : Value
  params : Value
  /-- Position among the pages of its site; a page outside the site has none. -/
  position? : Option Nat
  file? : Option Text

/-- One step of the trail that leads to a page. -/
structure Crumb where
  title : Value
  url : Value
  active : Bool

/-- The newer and the older neighbour of a page in its section. -/
structure SectionNav where
  prev : Value
  next : Value

structure Site where
  title : Text
  baseUrl : Text
  description : Text
  author : Text
  copyright : Text
  theme : Text
  layoutsDir : Text
  params : Value
  data : Value
  pages : List Page
  menus : List (Text × List Value)
  build : BuildSettings
  debug : Bool

end

def Page.blank : Page where
  title := .text []
  url := .text ['/']
  content := .text []
  date := .nil
  tags := .list []
  categories := .list []
  section_ := .text []
  kind := .text "single".toList
  layout := .text []
  draft := .bool false
  description := .text []
  excerpt := .text []
  params := .map []
  position? := none
  file? := none

instance : Inhabited Page := ⟨Page.blank⟩

def Site.blank : Site where
  title := []
  baseUrl := []
  description := []
  author := []
  copyright := []
  theme := []
  layoutsDir := "layouts".toList
  params := .map []
  data := .map []
  pages := []
  menus := []
  build := .standard
  debug := false

instance : Inhabited Site := ⟨Site.blank⟩

namespace Value

instance : Inhabited Value := ⟨.nil⟩

def ofString (s : String) : Value := .text s.toList

def sequence? : Value → Option (List Value)
  | .list items => some items
  | .pages items => some items
  | _ => none

def isSequence (v : Value) : Bool := v.sequence?.isSome

/-- Content objects are all values but plain data, lists and mappings. -/
def isObject : Value → Bool
  | .page _ | .menuEntry _ | .crumb _ | .sectionNav _ | .build _ | .site _ | .object _ => true
  | _ => false

def asText? : Value → Option Text
  | .text s => some s
  | _ => none

/-- The title, or else the name, that a content object is known by. -/
def representative? : Value → Option Text
  | .page p => p.title.asText?
  | .crumb c => c.title.asText?
  | .site s => some s.title
  | .menuEntry e => some e.name
  | _ => none

def kindName : Value → Text
  | .nil => "NoneType".toList
  | .bool _ => "bool".toList
  | .int _ => "int".toList
  | .float _ => "float".toList
  | .text _ => "str".toList
  | .moment _ => "datetime".toList
  | .date _ => "date".toList
  | .list _ => "list".toList
  | .pages _ => "PageCollection".toList
  | .map _ => "dict".toList
  | .page _ => "Page".toList
  | .menuEntry _ => "MenuItem".toList
  | .crumb _ => "BreadcrumbItem".toList
  | .sectionNav _ => "SectionNavigation".toList
  | .build _ => "BuildConfig".toList
  | .site _ => "Site".toList
  | .object kind => kind

/-- False are nil, false, zero and everything empty; all else is true. -/
def truthy : Value → Bool
  | .nil => false
  | .bool b => b
  | .int i => i != 0
  | .float f => f != 0
  | .text s => !s.isEmpty
  | .list items => !items.isEmpty
  | .pages items => !items.isEmpty
  | .map entries => !entries.isEmpty
  | _ => true

end Value

end Stencil
