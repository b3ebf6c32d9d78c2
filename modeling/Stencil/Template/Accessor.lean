import Stencil.Template.Context
import Stencil.Value.Sequence
/-!
The closed surface of values. For every kind of object a table lists the methods that a template may
call and what answers them; any other name answers nothing. Most methods go by two names.
-/

namespace Stencil

/-- What answers a method: it sees the object and the context of the render. -/
abbrev Accessor (α : Type) := α → Context → Except Fault Value

abbrev MethodTable (α : Type) := List (String × Accessor α)

namespace MethodTable

/-- The table with second names for some of its methods. -/
def withAliases (table : MethodTable α) (aliases : List (String × String)) : MethodTable α :=
  table ++ aliases.filterMap fun (second, first) =>
    (table.lookup first).map fun accessor => (second, accessor)

def find? (table : MethodTable α) (name : Text) : Option (Accessor α) :=
  (List.find? (fun entry => entry.1.toList == name) table).map (·.2)

def names (table : MethodTable α) : List Text :=
  (table.map fun (name, _) => name.toList).mergeSort Text.le

section

variable {table : MethodTable α} {R : Accessor α → Prop}

theorem forall_withAliases (h : ∀ entry ∈ table, R entry.2) (aliases : List (String × String)) :
    ∀ entry ∈ table.withAliases aliases, R entry.2 := by
  intro entry hentry
  rcases List.mem_append.mp hentry with hown | halias
  · exact h entry hown
  · obtain ⟨⟨second, first⟩, _, hfirst⟩ := List.mem_filterMap.mp halias
    obtain ⟨accessor, hlookup, rfl⟩ := Option.map_eq_some_iff.mp hfirst
    obtain ⟨before, behind, htable, _⟩ := List.lookup_eq_some_iff.mp hlookup
    exact h (first, accessor) (by simp [htable])

theorem of_find? (h : ∀ entry ∈ table, R entry.2) {name : Text} {accessor : Accessor α}
    (hfind : table.find? name = some accessor) : R accessor := by
  obtain ⟨entry, hentry, rfl⟩ := Option.map_eq_some_iff.mp hfind
  exact h entry (List.mem_of_find?_eq_some hentry)

end

end MethodTable

namespace Accessor

def text (f : α → Text) : Accessor α := fun x _ => .ok (.text (f x))

def field (f : α → Value) : Accessor α := fun x _ => .ok (f x)

def flag (f : α → Bool) : Accessor α := fun x _ => .ok (.bool (f x))

def optional (p : Option Page) : Value := (p.map Value.page).getD .nil

def labels (labelsOf : Page → Value) (site : Site) : Except Fault Value := do
  let found ← site.pages.mapM fun p => (labelsOf p).keys
  let distinct := Value.distinct found.flatten
  return .list (← sortByKey Value.lt? (distinct.map fun v => (v, v)))

/-- The version of the program, as pages may announce it. -/
def version : Text := "0.3.0".toList

def site : MethodTable Site :=
  MethodTable.withAliases
    [ ("title", text (·.title)),
      ("base_url", text (·.baseUrl)),
      ("description", text (·.description)),
      ("author", text (·.author)),
      ("copyright", text (·.copyright)),
      ("theme", text (·.theme)),
      ("params", field (·.params)),
      ("data", field (·.data)),
      ("pages", field fun s => .pages s.pageValues),
      ("regular_pages", fun s _ => (Collection.regular s.pageValues).map .pages),
      ("sections", fun s _ => (Collection.ofKind "section".toList s.pageValues).map .pages),
      ("home", field fun s => optional (s.pages.find? (·.kindIs "home"))),
      ("menus", field fun s => .map (s.menus.map fun (name, items) => (.text name, .list items))),
      ("tags", fun s _ => labels (·.tags) s),
      ("categories", fun s _ => labels (·.categories) s),
      ("build_config", field fun s => .build s.build),
      ("debug", flag (·.debug)),
      ("generator", text fun _ => "Glyph ".toList ++ version) ]
    [ ("Title", "title"), ("BaseURL", "base_url"), ("baseURL", "base_url"),
      ("Description", "description"), ("Author", "author"), ("Copyright", "copyright"),
      ("Theme", "theme"), ("Params", "params"), ("Data", "data"), ("Pages", "pages"),
      ("RegularPages", "regular_pages"), ("Sections", "sections"), ("Home", "home"),
      ("Menus", "menus"), ("Tags", "tags"), ("Categories", "categories"),
      ("BuildConfig", "build_config"), ("Debug", "debug"), ("Generator", "generator") ]

def page : MethodTable Page :=
  MethodTable.withAliases
    [ ("title", field (·.title)),
      ("url", field (·.url)),
      ("permalink", fun p ctx => ctx.site.permalink p),
      ("content", field (·.content)),
      ("summary", fun p _ => p.summary),
      ("plain", fun p _ => p.plain.map .text),
      ("description", field (·.description)),
      ("date", field (·.date)),
      ("date_formatted", fun p _ => p.dateFormatted.map .text),
      ("tags", field (·.tags)),
      ("categories", field (·.categories)),
      ("section", field (·.section_)),
      ("kind", field (·.kind)),
      ("type", fun p _ => p.type.map .text),
      ("layout", field (·.layout)),
      ("draft", field (·.draft)),
      ("params", field (·.params)),
      ("word_count", fun p _ => p.wordCount.map fun n => .int n),
      ("reading_time", fun p _ => p.readingTime.map fun n => .int n),
      ("is_home", flag (·.kindIs "home")),
      ("is_section", flag (·.kindIs "section")),
      ("is_page", flag (·.kindIs "single")),
      ("next", fun p ctx => (Navigation.sectionNav p ctx.site.pages).map (·.next)),
      ("prev", fun p ctx => (Navigation.sectionNav p ctx.site.pages).map (·.prev)),
      ("parent", fun p ctx => (Navigation.parent p ctx.site.pages).map optional),
      ("children", fun p ctx =>
        (Navigation.children p ctx.site.pages).map fun ps => .list (ps.map .page)),
      ("related", fun p ctx =>
        (Navigation.related p ctx.site.pages Collection.shown).map fun ps =>
          .list (ps.map .page)) ]
    [ ("Title", "title"), ("URL", "url"), ("RelPermalink", "url"), ("Permalink", "permalink"),
      ("Content", "content"), ("Summary", "summary"), ("Plain", "plain"),
      ("Description", "description"), ("Date", "date"), ("Tags", "tags"),
      ("Categories", "categories"), ("Section", "section"), ("Kind", "kind"), ("Type", "type"),
      ("Layout", "layout"), ("Draft", "draft"), ("Params", "params"), ("WordCount", "word_count"),
      ("ReadingTime", "reading_time"), ("IsHome", "is_home"), ("IsSection", "is_section"),
      ("IsPage", "is_page"), ("Next", "next"), ("Prev", "prev"), ("Parent", "parent"),
      ("Children", "children"), ("Related", "related") ]

def menuEntry : MethodTable MenuEntry :=
  MethodTable.withAliases
    [ ("name", text (·.name)), ("url", text (·.url)), ("weight", field fun e => .int e.weight),
      ("external", flag (·.external)) ]
    [ ("Name", "name"), ("URL", "url"), ("Weight", "weight"), ("External", "external") ]

def crumb : MethodTable Crumb :=
  MethodTable.withAliases
    [ ("title", field (·.title)), ("url", field (·.url)), ("active", flag (·.active)) ]
    [ ("Title", "title"), ("URL", "url"), ("Active", "active") ]

def sectionNav : MethodTable SectionNav :=
  MethodTable.withAliases
    [ ("prev", field (·.prev)), ("next", field (·.next)),
      ("has_prev", flag fun n => !Sequence.isNil n.prev),
      ("has_next", flag fun n => !Sequence.isNil n.next) ]
    [ ("Prev", "prev"), ("Next", "next"), ("HasPrev", "has_prev"), ("HasNext", "has_next"),
      ("has_prev?", "has_prev"), ("has_next?", "has_next") ]

def build : MethodTable BuildSettings :=
  MethodTable.withAliases
    [ ("incremental", flag (·.incremental)), ("parallel", flag (·.parallel)),
      ("cache_dir", text (·.cacheDir)), ("max_workers", field fun b => .int b.maxWorkers) ]
    [ ("Incremental", "incremental"), ("Parallel", "parallel"), ("CacheDir", "cache_dir"),
      ("MaxWorkers", "max_workers") ]

/-- Days and moments share a table; a day is its midnight, but has no time in its ISO form. -/
def moment : MethodTable (Moment × Text) :=
  let part (f : Moment → Nat) : Accessor (Moment × Text) := fun x _ => .ok (.int (f x.1))
  let pattern (p : String) : Accessor (Moment × Text) :=
    text fun x => Pattern.expand x.1 p.toList
  MethodTable.withAliases
    [ ("year", part (·.date.year)), ("month", part (·.date.month)), ("day", part (·.date.day)),
      ("hour", part (·.hour)), ("minute", part (·.minute)),
      ("weekday", pattern "%A"), ("month_name", pattern "%B"), ("formatted", pattern "%B %d, %Y"),
      ("iso8601", text (·.2)),
      ("unix", fun x _ =>
        match x.1.unixSeconds? with
        | some n => .ok (.int n)
        | none => .error .outOfDomain) ]
    [ ("Year", "year"), ("Month", "month"), ("Day", "day"), ("Hour", "hour"),
      ("Minute", "minute"), ("Weekday", "weekday"), ("MonthName", "month_name"),
      ("Unix", "unix") ]

def items (v : Value) : List Value := v.sequence?.getD []

def sequence : MethodTable Value :=
  MethodTable.withAliases
    [ ("size", field fun v => .int (items v).length),
      ("first", field fun v => Sequence.first (items v)),
      ("last", field fun v => Sequence.last (items v)),
      ("empty", flag fun v => (items v).isEmpty),
      ("reverse", field fun v => .list (items v).reverse),
      ("uniq", field fun v => .list (Value.distinct (items v))),
      ("sample", field fun v => .list (Sequence.sample 1 (items v))),
      ("shuffle", field fun v => .list (items v)),
      ("compact", field fun v => .list (Sequence.compact (items v))),
      ("any?", flag fun v => Sequence.anyPresent (items v)),
      ("all?", flag fun v => Sequence.allPresent (items v)),
      ("none?", flag fun v => Sequence.nonePresent (items v)),
      ("one?", flag fun v => Sequence.onePresent (items v)) ]
    [ ("len", "size"), ("length", "size"), ("Len", "size"), ("Size", "size"), ("First", "first"),
      ("Last", "last"), ("Empty", "empty"), ("Reverse", "reverse"), ("Uniq", "uniq"),
      ("Sample", "sample"), ("Shuffle", "shuffle"), ("Compact", "compact"), ("empty?", "empty") ]

def collection : MethodTable Value :=
  let sorted : Accessor Value := fun v _ => (Collection.sorted (items v)).map .pages
  sequence ++
    [ ("sorted", sorted), ("by_date", sorted),
      ("regular", fun v _ => (Collection.regular (items v)).map .pages),
      ("published", fun v _ => (Collection.published (items v)).map .pages),
      ("latest", fun v _ => (Collection.latest Collection.shown (items v)).map .pages),
      ("ByDate", sorted) ]

/-- What answers a method of a value, if templates may call it. Texts, numbers, mappings and nil
have no methods. -/
def find? (v : Value) (method : Text) : Option (Context → Except Fault Value) :=
  match v with
  | .site s => (site.find? method).map (· s)
  | .page p => (page.find? method).map (· p)
  | .menuEntry e => (menuEntry.find? method).map (· e)
  | .crumb c => (crumb.find? method).map (· c)
  | .sectionNav n => (sectionNav.find? method).map (· n)
  | .build b => (build.find? method).map (· b)
  | .pages _ => (collection.find? method).map (· v)
  | .moment m => (moment.find? method).map (· (m, m.isoText 'T'))
  | .date d => (moment.find? method).map (· (.ofDate d, d.isoText))
  | .list _ => (sequence.find? method).map (· v)
  | _ => none

/-- The method names that a kind of value lists; plain lists answer methods but list none. -/
def namesOf : List (String × List Text) :=
  [ ("site", site.names), ("page", page.names), ("menu", menuEntry.names), ("crumb", crumb.names),
    ("nav", sectionNav.names), ("build", build.names), ("pages", collection.names),
    ("datetime", moment.names), ("date", moment.names) ]

end Accessor

end Stencil
