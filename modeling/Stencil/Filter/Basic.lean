import Stencil.Function.Words
import Stencil.Value.Sequence
import Stencil.Value.Order
/-!
Filters of a pipeline. A filter takes the value that comes down the pipeline and arguments of its
own; a filter that cannot use them lets the value pass.
-/

namespace Stencil

/-- A filter: its required parameters after the value, how many optional ones follow, and what it
does with arguments and value. -/
structure Filter where
  required : List String
  optional : Nat
  run : List Value → Value → Except Fault Value

namespace Filter

def misfit? (f : Filter) (count : Nat) : Option Text :=
  Function.misfit? f.required (some f.optional) count

def plain (f : Value → Except Fault Value) : Filter := ⟨[], 0, fun _ v => f v⟩

def onText (f : Text → Value) : Filter := plain fun v => do return f (← v.format)

def mapText (f : Text → Text) : Filter := onText fun s => .text (f s)

/-- A filter on lists and collections; other values pass. -/
def onItems (f : List Value → Value) : Filter :=
  plain fun v => .ok (((v.sequence?).map f).getD v)

def test (p : List Value → Bool) : Filter :=
  plain fun v => .ok (.bool (((v.sequence?).map p).getD false))

def truncate : Filter where
  required := []
  optional := 1
  run := fun args v =>
    match Function.arg args 0 (.int Function.defaultLength) with
    | .int n => do return .text (Text.truncate n Text.ellipsis (← v.format))
    | _ => .ok v

def first : Filter where
  required := []
  optional := 1
  run := fun args v =>
    match v.sequence? with
    | none => .ok v
    | some items =>
        match Function.arg args 0 .nil with
        | .nil => .ok (Sequence.first items)
        | .int n => .ok (Sequence.rebuild v (items.take n.toNat))
        | _ => .ok v

def last : Filter where
  required := []
  optional := 1
  run := fun args v =>
    match v.sequence? with
    | none => .ok v
    | some items =>
        match Function.arg args 0 .nil with
        | .nil => .ok (Sequence.last items)
        | .int n => .ok (Sequence.rebuild v (items.drop (items.length - n.toNat)))
        | _ => .ok v

def size : Value → Value
  | .text s => .int s.length
  | .map entries => .int entries.length
  | v => .int ((v.sequence?).getD []).length

def join : Filter where
  required := []
  optional := 1
  run := fun args v =>
    match v.sequence? with
    | none => .ok v
    | some items => do
        let separator ← (Function.arg args 0 (.ofString ", ")).format
        return .text (Text.join separator (← items.mapM Value.format))

def reverse : Value → Value
  | .text s => .text s.reverse
  | v => ((v.sequence?).map fun items => Value.list items.reverse).getD v

/-- Numbers that sort by amount: integers and floats, but not booleans. -/
def sortNumber? : Value → Option Number
  | .int i => some (.int i)
  | .float f => some (.float f)
  | _ => none

/-- The text that other values sort by: the title or name of a content object, else its text. -/
def sortText (v : Value) : Except Fault Text :=
  match v.representative? with
  | some name => if name.isEmpty then v.format else .ok name
  | none => v.format

/-- Numbers in the order of their amounts; any other list in the order of its texts. -/
def sorted (items : List Value) : Except Fault (List Value) :=
  match items.mapM sortNumber? with
  | some numbers =>
      .ok (((numbers.zip items).mergeSort fun a b => !b.1.lt a.1).map (·.2))
  | none => do
      let keyed ← items.mapM fun v => do return (← sortText v, v)
      return (keyed.mergeSort fun a b => Text.le a.1 b.1).map (·.2)

def sort : Filter :=
  plain fun v =>
    match v.sequence? with
    | none => .ok v
    | some items => do return .list (← sorted items)

def sample : Filter where
  required := []
  optional := 1
  run := fun args v =>
    match v.sequence?, Function.arg args 0 (.int 1) with
    | some items, .int n => .ok (.list (Sequence.sample n items))
    | _, _ => .ok v

/-- Brings an integer between two bounds; a single bound is the upper one above zero. -/
def clamp : Filter where
  required := ["low"]
  optional := 1
  run := fun args v =>
    let bound := Function.arg args 0
    let (low, high) : Value × Value :=
      match Function.arg args 1 .nil with
      | .nil => (.int 0, bound)
      | high => (bound, high)
    match v, low, high with
    | .int v, .int low, .int high => .ok (.int (min (max v low) high))
    | _, _, _ => .ok v

def atMost : Filter where
  required := ["bound"]
  optional := 0
  run := fun args v =>
    match Function.arg args 0 with
    | .int bound =>
        match v with
        | .int i => .ok (.int (min i bound))
        | v =>
            match v.sequence? with
            | some items => .ok (Sequence.rebuild v (items.take bound.toNat))
            | none => .ok v
    | _ => .ok v

def atLeast : Filter where
  required := ["bound"]
  optional := 0
  run := fun args v =>
    match v, Function.arg args 0 with
    | .int i, .int bound => .ok (.int (max i bound))
    | v, _ => .ok v

def default : Filter where
  required := []
  optional := 1
  run := fun args v => .ok (if v.truthy then v else Function.arg args 0)

def standard : Registry Filter :=
  .ofList "filter"
    [ ("upper", mapText Text.toUpper), ("upcase", mapText Text.toUpper),
      ("lower", mapText Text.toLower), ("downcase", mapText Text.toLower),
      ("title", mapText Text.capitalizeWords),
      ("capitalize", mapText Text.capitalize),
      ("slugify", mapText Text.slugify),
      ("strip", mapText Text.trim), ("lstrip", mapText Text.trimLeft),
      ("rstrip", mapText Text.trimRight),
      ("plain", mapText Markup.stripTags), ("strip_html", mapText Markup.stripTags),
      ("escape", mapText Markup.escape), ("escape_html", mapText Markup.escape),
      ("truncate", truncate),
      ("first", first), ("last", last),
      ("size", plain fun v => .ok (size v)), ("length", plain fun v => .ok (size v)),
      ("join", join),
      ("reverse", plain fun v => .ok (reverse v)),
      ("sort", sort),
      ("uniq", onItems fun items => .list (Value.distinct items)),
      ("unique", onItems fun items => .list (Value.distinct items)),
      ("sample", sample),
      ("shuffle", onItems .list),
      ("compact", onItems fun items => .list (Sequence.compact items)),
      ("any?", test Sequence.anyPresent), ("all?", test Sequence.allPresent),
      ("none?", test Sequence.nonePresent), ("one?", test Sequence.onePresent),
      ("clamp", clamp), ("min", atMost), ("max", atLeast),
      ("squeeze", mapText (Function.squeezed fun _ => true)),
      ("char_count", onText fun s => .int s.length),
      ("markdownify", mapText Markdown.render),
      ("default", default) ]

end Filter

end Stencil
