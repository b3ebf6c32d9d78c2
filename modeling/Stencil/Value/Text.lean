import Stencil.Value.Equality
import Stencil.Calendar.Pattern
import Stencil.Text.Quoted
/-!
Values as text. `format` is what a value leaves in a rendered page; `display` is how a document's
value is written when a text is wanted in its place, and `literal` how it is written inside another
value.
-/

namespace Stencil

/-- The decimal text of an integer; very long integers have none. -/
def Value.digits (i : Int) : Except Fault Text :=
  match Text.ofInt? i with
  | some s => .ok s
  | none => .error .outOfDomain

private def boolWord (b : Bool) : Text := (if b then "True" else "False").toList

private def Moment.literal (m : Moment) : Text :=
  let parts := [m.date.year, m.date.month, m.date.day, m.hour, m.minute] ++
    (if m.second == 0 && m.micro == 0 then [] else [m.second]) ++
    (if m.micro == 0 then [] else [m.micro])
  let zone : Text :=
    match m.offset with
    | none => []
    | some 0 => ", tzinfo=datetime.timezone.utc".toList
    | some n =>
        let days := n.fdiv 86400
        let seconds := n.fmod 86400
        let inner := (if days == 0 then [] else ["days=".toList ++ Text.ofInt days]) ++
          (if seconds == 0 then [] else ["seconds=".toList ++ Text.ofInt seconds])
        ", tzinfo=datetime.timezone(datetime.timedelta(".toList ++ Text.join ", ".toList inner ++
          "))".toList
  "datetime.datetime(".toList ++ Text.join ", ".toList (parts.map Text.ofNat) ++ zone ++ [')']

private def Date.literal (d : Date) : Text :=
  "datetime.date(".toList ++
    Text.join ", ".toList ([d.year, d.month, d.day].map Text.ofNat) ++ [')']

private def record (name : Text) (fields : List (String × Text)) : Text :=
  name ++ ['('] ++
    Text.join ", ".toList (fields.map fun (k, v) => k.toList ++ ['='] ++ v) ++ [')']

private def MenuEntry.literal (e : MenuEntry) : Text :=
  record "MenuItem".toList
    [("name", Text.quoted e.name), ("url", Text.quoted e.url), ("weight", Text.ofInt e.weight),
      ("external", boolWord e.external)]

private def BuildSettings.literal (b : BuildSettings) : Text :=
  record "BuildConfig".toList
    [("incremental", boolWord b.incremental), ("parallel", boolWord b.parallel),
      ("cache_dir", Text.quoted b.cacheDir), ("max_workers", Text.ofInt b.maxWorkers)]

mutual

def Value.literal : Value → Except Fault Text
  | .nil => .ok "None".toList
  | .bool b => .ok (boolWord b)
  | .int i => Value.digits i
  | .float f => .ok (Text.ofFloat f)
  | .text s => .ok (Text.quoted s)
  | .moment m => .ok m.literal
  | .date d => .ok d.literal
  | .list items => do
      return '[' :: Text.join ", ".toList (← Value.literalAll items) ++ [']']
  | .pages items =>
      .ok ("PageCollection(".toList ++ Text.ofNat items.length ++ " pages)".toList)
  | .map entries => do
      return '{' :: Text.join ", ".toList (← Value.literalEntries entries) ++ ['}']
  | .page p => p.literal
  | .menuEntry e => .ok e.literal
  | .crumb c => c.literal
  | .sectionNav n => n.literal
  | .build b => .ok b.literal
  | .site s => .ok (record "Site".toList [("title", Text.quoted s.title)])
  | .object kind => .ok ('<' :: kind ++ ['>'])

def Value.literalAll : List Value → Except Fault (List Text)
  | [] => .ok []
  | v :: vs => do return (← v.literal) :: (← Value.literalAll vs)

def Value.literalEntries : List (Value × Value) → Except Fault (List Text)
  | [] => .ok []
  | (k, v) :: rest => do
      return ((← k.literal) ++ ": ".toList ++ (← v.literal)) :: (← Value.literalEntries rest)

def Page.literal : Page → Except Fault Text
  | ⟨t, u, c, d, ts, cs, s, k, l, dr, de, ex, ps, _, f⟩ => do
      return record "Page".toList
        [("title", ← t.literal), ("url", ← u.literal), ("content", ← c.literal),
          ("date", ← d.literal), ("tags", ← ts.literal), ("categories", ← cs.literal),
          ("section", ← s.literal), ("kind", ← k.literal), ("layout", ← l.literal),
          ("draft", ← dr.literal), ("description", ← de.literal), ("excerpt", ← ex.literal),
          ("params", ← ps.literal),
          ("file_path", match f with
            | none => "None".toList
            | some path => "PosixPath(".toList ++ Text.quoted path ++ [')'])]

def Crumb.literal : Crumb → Except Fault Text
  | ⟨t, u, a⟩ => do
      return record "BreadcrumbItem".toList
        [("title", ← t.literal), ("url", ← u.literal), ("active", boolWord a)]

def SectionNav.literal : SectionNav → Except Fault Text
  | ⟨p, n⟩ => do
      return record "SectionNavigation".toList [("prev", ← p.literal), ("next", ← n.literal)]

end

namespace Value

/-- A value written where a text is wanted: texts as they are, days and moments in their ISO form,
all else as literals. -/
def display : Value → Except Fault Text
  | .text s => .ok s
  | .moment m => .ok (m.isoText ' ')
  | .date d => .ok d.isoText
  | v => v.literal

end Value

mutual

/-- The text a value leaves in a page. A list of texts, or of content objects with titles, shows its
elements; any other list shows only its length. -/
def Value.format : Value → Except Fault Text
  | .nil => .ok []
  | .text s => .ok s
  | .bool b => .ok (if b then "true".toList else "false".toList)
  | .int i => Value.digits i
  | .float f => .ok (Text.ofFloat f)
  | .moment m => .ok (Pattern.expand m Pattern.day)
  | .date d => .ok (Pattern.expand (.ofDate d) Pattern.day)
  | .map entries => do return Text.join ", ".toList (← Value.formatEntries entries)
  | .list items => .ok (Value.formatItems items)
  | .pages items => .ok (Value.formatItems items)
  | v => .ok (v.representative?.getD [])

def Value.formatEntries : List (Value × Value) → Except Fault (List Text)
  | [] => .ok []
  | (k, v) :: rest => do
      return ((← k.display) ++ ": ".toList ++ (← v.format)) :: (← Value.formatEntries rest)

def Value.formatItems (items : List Value) : Text :=
  match items.mapM Value.asText? with
  | some texts => Text.join ", ".toList texts
  | none =>
      match items.mapM Value.representative? with
      | some names => Text.join ", ".toList names
      | none => Text.ofNat items.length

end

mutual

/-- What a template function receives for a value: plain data as it is, the empty text for nil, the
title or name of a content object, and texts for mappings and for lists with content objects. -/
def Value.coerce : Value → Except Fault Value
  | .nil => .ok (.text [])
  | .map entries => do return .text (Text.join [','] (← Value.formatEntries entries))
  | .list items => Value.coerceItems items
  | .pages items => Value.coerceItems items
  | .text s => .ok (.text s)
  | .bool b => .ok (.bool b)
  | .int i => .ok (.int i)
  | .float f => .ok (.float f)
  | .moment m => .ok (.moment m)
  | .date d => .ok (.date d)
  | v => .ok (.text (v.representative?.getD []))

def Value.coerceItems (items : List Value) : Except Fault Value :=
  if items.any Value.isObject then
    .ok (.text (Text.join [','] (items.map fun v => v.representative?.getD [])))
  else do return .list (← Value.coerceAll items)

def Value.coerceAll : List Value → Except Fault (List Value)
  | [] => .ok []
  | v :: vs => do return (← v.coerce) :: (← Value.coerceAll vs)

end

/-! A content object stands for its title or name. -/

namespace Value

theorem format_of_isObject {v : Value} (h : v.isObject = true) :
    v.format = .ok (v.representative?.getD []) := by
  cases v <;> first | (cases h; done) | simp [format]

theorem coerce_of_isObject {v : Value} (h : v.isObject = true) :
    v.coerce = .ok (.text (v.representative?.getD [])) := by
  cases v <;> first | (cases h; done) | simp [coerce]

end Value

end Stencil
