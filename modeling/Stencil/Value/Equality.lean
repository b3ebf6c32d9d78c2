import Stencil.Value.Basic
import Stencil.Number.Arith
/-!
Equality and order of values. Numbers and booleans compare by amount, so `1`, `1.0` and `true` are
equal; moments by instant; content objects by their fields, where one page of a site always equals
itself. Two collections are never equal, and neither are two opaque objects.
-/

namespace Stencil

def Value.amount? : Value → Option Number
  | .bool b => some (.int (if b then 1 else 0))
  | .int i => some (.int i)
  | .float f => some (.float f)
  | _ => none

private def Value.sameAmount (a b : Value) : Bool :=
  match a.amount?, b.amount? with
  | some x, some y => x.eq y
  | _, _ => false

mutual

def Value.eq : Value → Value → Bool
  | .nil, .nil => true
  | .text s, .text t => s == t
  | .moment a, .moment b => a.sameAs b
  | .date a, .date b => a == b
  | .list xs, .list ys => Value.eqAll xs ys
  | .map xs, .map ys => xs.length == ys.length && Value.entriesIn xs ys
  | .page p, .page q => p.eq q
  | .menuEntry a, .menuEntry b => a == b
  | .crumb a, .crumb b => a.eq b
  | .sectionNav a, .sectionNav b => a.eq b
  | .build a, .build b => a == b
  | .site _, .site _ => true
  | .bool a, b => Value.sameAmount (.bool a) b
  | .int a, b => Value.sameAmount (.int a) b
  | .float a, b => Value.sameAmount (.float a) b
  | _, _ => false

def Value.eqAll : List Value → List Value → Bool
  | [], [] => true
  | x :: xs, y :: ys => x.eq y && Value.eqAll xs ys
  | _, _ => false

def Value.entriesIn : List (Value × Value) → List (Value × Value) → Bool
  | [], _ => true
  | (k, v) :: rest, ys => (ys.any fun (k', v') => k.eq k' && v.eq v') && Value.entriesIn rest ys

def Page.eq : Page → Page → Bool
  | ⟨t, u, c, d, ts, cs, s, k, l, dr, de, ex, ps, i, f⟩, q =>
      (i.isSome && i == q.position?) ||
        (t.eq q.title && u.eq q.url && c.eq q.content && d.eq q.date && ts.eq q.tags &&
          cs.eq q.categories && s.eq q.section_ && k.eq q.kind && l.eq q.layout && dr.eq q.draft &&
          de.eq q.description && ex.eq q.excerpt && ps.eq q.params && f == q.file?)

def Crumb.eq : Crumb → Crumb → Bool
  | ⟨t, u, a⟩, c => t.eq c.title && u.eq c.url && a == c.active

def SectionNav.eq : SectionNav → SectionNav → Bool
  | ⟨p, n⟩, m => p.eq m.prev && n.eq m.next

end

namespace Value

theorem eq_int (a b : Int) : (Value.int a).eq (.int b) = (a == b) := by
  have hamounts : (Value.int a).eq (.int b) = (compare a b == .eq) := by
    simp [Value.eq, Value.sameAmount, amount?, Number.eq, Number.compare?]
  rw [hamounts, Bool.eq_iff_iff, beq_iff_eq, beq_iff_eq, Int.compare_eq_eq]

theorem eq_text_iff {v : Value} {s : Text} : v.eq (.text s) = true ↔ v = .text s := by
  cases v with
  | text t => simp [Value.eq]
  | bool b => simp [Value.eq, Value.sameAmount, amount?]
  | int i => simp [Value.eq, Value.sameAmount, amount?]
  | float f => simp [Value.eq, Value.sameAmount, amount?]
  | _ => simp [Value.eq]

def isIn (v : Value) (items : List Value) : Bool := items.any (v.eq ·)

/-- The first of every group of equal values. -/
def distinct (items : List Value) : List Value :=
  (items.foldl (fun seen v => if v.isIn seen then seen else v :: seen) []).reverse

def find? (key : Value) (entries : List (Value × Value)) : Option Value :=
  (entries.find? fun (k, _) => k.eq key).map (·.2)

/-- Sets the value of a key. The key keeps its place and its first spelling. -/
def insert (entries : List (Value × Value)) (key value : Value) : List (Value × Value) :=
  if entries.any fun (k, _) => k.eq key then
    entries.map fun (k, v) => if k.eq key then (k, value) else (k, v)
  else entries ++ [(key, value)]

/-- A mapping of entries in which later ones replace earlier ones with an equal key. -/
def ofEntries (entries : List (Value × Value)) : Value :=
  .map (entries.foldl (fun m (k, v) => insert m k v) [])

/-- Whether a value can be a key: not the mutable kinds, and no record of them. -/
def isKey : Value → Bool
  | .list _ | .map _ | .page _ | .site _ => false
  | .crumb ⟨title, url, _⟩ => title.isKey && url.isKey
  | .sectionNav ⟨prev, next⟩ => prev.isKey && next.isKey
  | _ => true

end Value

mutual

/-- Order within one kind: amounts, texts, moments, dates and lists of such. -/
def Value.lt? : Value → Value → Except Fault Bool
  | .text s, .text t => .ok (Text.lt s t)
  | .moment a, .moment b =>
      match Moment.compare? a b with
      | some o => .ok (o == .lt)
      | none => .error .wrongKind
  | .date a, .date b => .ok (Date.lt a b)
  | .list xs, .list ys => Value.listLt? xs ys
  | .bool a, b => Value.amountLt? (.bool a) b
  | .int a, b => Value.amountLt? (.int a) b
  | .float a, b => Value.amountLt? (.float a) b
  | _, _ => .error .wrongKind

def Value.amountLt? (a b : Value) : Except Fault Bool :=
  match a.amount?, b.amount? with
  | some x, some y => .ok (x.lt y)
  | _, _ => .error .wrongKind

/-- The first difference decides; a proper beginning is the lesser list. -/
def Value.listLt? : List Value → List Value → Except Fault Bool
  | _, [] => .ok false
  | [], _ :: _ => .ok true
  | x :: xs, y :: ys => if x.eq y then Value.listLt? xs ys else x.lt? y

end

end Stencil
