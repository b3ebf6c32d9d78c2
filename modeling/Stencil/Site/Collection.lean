import Stencil.Site.Page
/-!
Collections of pages: narrowing, sorting and cutting. An element that is no page makes an operation
fail that looks at it.
-/

namespace Stencil.Collection

def pageOf : Value → Except Fault Page
  | .page p => .ok p
  | _ => .error .noSuchOperation

def narrow (test : Page → Except Fault Bool) (items : List Value) : Except Fault (List Value) :=
  items.filterM fun v => do test (← pageOf v)

def inSection (name : Text) : List Value → Except Fault (List Value) :=
  narrow fun p => .ok (p.section_.eq (.text name))

def withTag (tag : Text) : List Value → Except Fault (List Value) :=
  narrow fun p => p.tags.holdsText tag

def ofKind (kind : Text) : List Value → Except Fault (List Value) :=
  narrow fun p => .ok (p.kind.eq (.text kind))

/-- Pages that are neither home nor section pages. -/
def regular : List Value → Except Fault (List Value) := ofKind "single".toList

def published : List Value → Except Fault (List Value) := narrow fun p => .ok !p.draft.truthy

/-- Date first, then the title without regard to case. -/
def sortKey (v : Value) : Except Fault (Value × Text) := do
  let p ← pageOf v
  return (p.sortDate, Text.toLower (← p.title.textOrNoSuch))

def sortKeyLt? : Value × Text → Value × Text → Except Fault Bool :=
  pairLt? Value.eq Value.lt? fun s t => .ok (Text.lt s t)

/-- Pages by date and title, newest first unless told otherwise. -/
def sorted (items : List Value) (newestFirst : Bool := true) : Except Fault (List Value) := do
  let keyed ← items.mapM fun v => do return (← sortKey v, v)
  if newestFirst then sortByKeyDescending sortKeyLt? keyed else sortByKey sortKeyLt? keyed

/-- The newest regular pages; a negative count takes none. -/
def latest (count : Int) (items : List Value) : Except Fault (List Value) := do
  return (← sorted (← regular items)).take count.toNat

def shown : Int := 5

/-- The element at an index, counted from the end when negative. -/
def get? (items : List Value) (i : Int) : Option Value :=
  let j := if i < 0 then i + items.length else i
  if j < 0 then none else items[j.toNat]?

/-- Bounds of a slice with a step, brought into a list of `length` elements. -/
private def bounds (length : Int) (start stop : Option Int) (step : Int) : Int × Int :=
  let low : Int := if step < 0 then -1 else 0
  let high : Int := if step < 0 then length - 1 else length
  let clamp (i : Int) : Int := if i < 0 then max (i + length) low else min i high
  (match start with
    | some i => clamp i
    | none => if step < 0 then high else low,
   match stop with
    | some i => clamp i
    | none => if step < 0 then low else high)

def slice (items : List Value) (start stop step : Option Int) : Except Fault (List Value) :=
  let step := step.getD 1
  if step == 0 then .error .outOfDomain
  else
    let (first, last) := bounds items.length start stop step
    let count :=
      if 0 < step then (last - first + step - 1) / step else (first - last - step - 1) / (-step)
    .ok ((List.range count.toNat).filterMap fun i : Nat => items[(first + (i : Int) * step).toNat]?)

theorem filterMap_range_getElem? (items : List Value) (n : Nat) :
    (List.range n).filterMap (fun i => items[i]?) = items.take n := by
  induction n with
  | zero => rfl
  | succ n ih =>
      rw [List.range_succ, List.filterMap_append, ih, List.take_add_one]
      cases h : items[n]? <;> simp [h]

theorem slice_front (items : List Value) {stop : Int} (h : 0 ≤ stop) :
    slice items none (some stop) none = .ok (items.take stop.toNat) := by
  have hbounds : bounds items.length none (some stop) 1 = (0, min stop items.length) := by
    simp [bounds, Int.not_lt.mpr h]
  have hcount : (min stop items.length - 0 + 1 - 1) / 1 = min stop (items.length : Int) := by omega
  have hrange : (fun i : Nat => items[((0 : Int) + (i : Int) * 1).toNat]?) = fun i => items[i]? := by
    funext i
    simp
  unfold slice
  simp only [Option.getD_none, hbounds, hcount, hrange, filterMap_range_getElem?]
  rw [if_neg (by decide), if_pos (by decide)]
  refine congrArg Except.ok (List.take_eq_take_iff.mpr ?_)
  omega

end Stencil.Collection
