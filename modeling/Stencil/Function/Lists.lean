import Stencil.Function.Basic
/-!
Functions on lists of texts. A list may come as a list or as a text with commas; results are texts
with commas.
-/

namespace Stencil.Function

def joinItems (items : List Text) : Value := .text (Text.join [','] items)

def onItems (f : List Text → Value) : Function where
  required := []
  optional := some 1
  run := fun _ args => do return f (← (arg args 0).items)

def sample : Function where
  required := []
  optional := some 2
  run := fun _ args => do
    let items ← (arg args 0).items
    if items.isEmpty then return .text []
    return joinItems (items.take (← (arg args 1 (.int 1)).count 1).toNat)

def rotate : Function where
  required := []
  optional := some 2
  run := fun _ args => do
    let items ← (arg args 0).items
    if items.isEmpty then return .text []
    let shift := (Number.modulo (← (arg args 1 (.int 1)).count 1) items.length).toNat
    return joinItems (items.drop shift ++ items.take shift)

def sortByLength : Function where
  required := []
  optional := some 2
  run := fun _ args => do
    let items ← (arg args 0).items
    let before (s t : Text) : Bool :=
      if (arg args 1 (.bool false)).flag then t.length ≤ s.length else s.length ≤ t.length
    return joinItems (items.mergeSort before)

def indexOf (last : Bool) : Function where
  required := []
  optional := some 2
  run := fun _ args => do
    let items ← (arg args 0).items
    let wanted ← (arg args 1).joined
    let found := (List.range items.length).filter fun i => items[i]? == some wanted
    return .int (((if last then found.getLast? else found.head?).map Int.ofNat).getD (-1))

def firsts : Function where
  required := []
  optional := some 2
  run := fun _ args => do
    let v := arg args 0
    let limit := (← (arg args 1 (.int 1)).count 1).toNat
    if v.isSequence then return joinItems ((← v.items).take limit)
    else return .text (Text.join [' '] ((Text.words (← v.joined)).take limit))

def lasts : Function where
  required := []
  optional := some 2
  run := fun _ args => do
    let v := arg args 0
    let limit := (← (arg args 1 (.int 1)).count 1).toNat
    let items ← if v.isSequence then v.items else do pure (Text.words (← v.joined))
    let taken := items.drop (items.length - limit)
    return .text (Text.join [if v.isSequence then ',' else ' '] taken)

def join : Function where
  required := []
  optional := some 2
  run := fun _ args => do
    let separator ← (arg args 1 (.text [','])).joined
    return .text (Text.join separator (← (arg args 0).items))

def lists : List (String × Function) :=
  [ ("len", onItems fun items => .int items.length),
    ("uniq", onItems fun items => joinItems items.eraseDups),
    ("sample", sample),
    ("shuffle", onItems joinItems),
    ("rotate", rotate),
    ("sort_by_length", sortByLength),
    ("compact", onItems fun items => joinItems (items.filter fun s => !(Text.trim s).isEmpty)),
    ("index", indexOf false),
    ("rindex", indexOf true),
    ("first", firsts),
    ("last", lasts),
    ("join", join) ]

end Stencil.Function
