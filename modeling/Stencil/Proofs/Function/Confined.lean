import Stencil.Function.Standard
import Stencil.Proofs.Function.Reading

namespace Stencil.Function

/-! Functions that fail in no other way than their arguments do. -/

/-- A function whose failures are in `P` on all arguments that can be read. -/
class Confined (P : Fault → Prop) (f : Function) : Prop where
  run : ∀ (now : Moment) (args : List Value), Readable P args → FailsIn P (f.run now args)

class ConfinedOn (P : Fault → Prop) (R : Value → Prop) (f : Function) : Prop where
  run : ∀ (now : Moment) (args : List Value), Readable P args → (∀ v ∈ args, R v) →
    FailsIn P (f.run now args)

section

variable {P : Fault → Prop}

/-! Texts. -/

instance instConfinedOnText (f : Text → Value) : Confined P (onText f) where
  run now args hargs := by
    unfold onText
    infer_instance

instance instConfinedMapText (f : Text → Text) : Confined P (mapText f) :=
  instConfinedOnText _

instance instConfinedChomp : Confined P chomp where
  run now args hargs := by
    have hfinal : ∀ s : Text, FailsIn P
        (match arg args 1 .nil with
        | .nil =>
            if Text.endsWith "\r\n".toList s then pure (.text s.dropLast.dropLast)
            else if s.getLast? == some '\n' || s.getLast? == some '\r' then
              pure (.text s.dropLast)
            else pure (.text s)
        | final => do
            let final ← final.joined
            pure (.text (if !final.isEmpty && Text.endsWith final s then
              s.take (s.length - final.length) else s)) : Except Fault Value) := by
      intro s
      split <;> infer_instance
    unfold chomp
    infer_instance

instance instConfinedSqueeze : Confined P squeeze where
  run now args hargs := by
    unfold squeeze
    infer_instance

instance instConfinedDelete : Confined P delete where
  run now args hargs := by
    unfold delete
    infer_instance

instance instConfinedReverse : Confined P reverse where
  run now args hargs := by
    unfold reverse
    infer_instance

instance instConfinedPluralize : Confined P pluralize where
  run now args hargs := by
    unfold pluralize
    infer_instance

instance instConfinedSingularize : Confined P singularize where
  run now args hargs := by
    unfold singularize
    infer_instance

instance instConfinedTruncate [Admits P] : Confined P truncate where
  run now args hargs := by
    unfold truncate
    infer_instance

instance instConfinedTruncateWords [Admits P] : Confined P truncateWords where
  run now args hargs := by
    unfold truncateWords
    infer_instance

instance instConfinedReplace : Confined P replace where
  run now args hargs := by
    unfold replace
    infer_instance

instance instConfinedRemove : Confined P remove where
  run now args hargs := by
    unfold remove
    infer_instance

instance instConfinedReadingTime : Confined P readingTime where
  run now args hargs := by
    unfold readingTime
    infer_instance

/-! Comparisons, tests and conversions. -/

instance instConfinedCompareTexts (test : Text → Text → Bool) :
    Confined P (compareTexts test) where
  run now args hargs := by
    unfold compareTexts
    infer_instance

instance instConfinedCompareAmounts (test : Float → Float → Bool) :
    Confined P (compareAmounts test) where
  run _ _ _ := instFailsInOk _

instance instConfinedTestAll (test : List Bool → Bool) : Confined P (testAll test) where
  run _ _ _ := instFailsInOk _

instance instConfinedNegation : Confined P negation where
  run _ _ _ := instFailsInOk _

instance instConfinedContains : Confined P contains where
  run now args hargs := by
    unfold contains
    infer_instance

instance instConfinedStartsWith : Confined P startsWith where
  run now args hargs := by
    unfold startsWith
    infer_instance

instance instConfinedEndsWith : Confined P endsWith where
  run now args hargs := by
    unfold endsWith
    infer_instance

instance instConfinedInRange : Confined P inRange where
  run now args hargs := by
    unfold inRange
    infer_instance

theorem confined_ofValue {f : Value → Except Fault Value}
    (h : ∀ v, FailsIn P v.joined → FailsIn P (f v)) : Confined P (ofValue f) where
  run _ args _ := h (arg args 0) inferInstance

instance instFailsInSize (v : Value) [FailsIn P v.joined] : FailsIn P (size v) := by
  unfold size
  split <;> infer_instance

instance instConfinedArray : Confined P array where
  run now args hargs := by
    have hall := Value.failsIn_joinedAll hargs.joined
    unfold array
    infer_instance

/-! Lists. -/

instance instConfinedOnItems (f : List Text → Value) : Confined P (onItems f) where
  run now args hargs := by
    unfold onItems
    infer_instance

instance instConfinedSample : Confined P sample where
  run now args hargs := by
    unfold sample
    infer_instance

instance instConfinedRotate : Confined P rotate where
  run now args hargs := by
    unfold rotate
    infer_instance

instance instConfinedSortByLength : Confined P sortByLength where
  run now args hargs := by
    unfold sortByLength
    infer_instance

instance instConfinedIndexOf (last : Bool) : Confined P (indexOf last) where
  run now args hargs := by
    unfold indexOf
    infer_instance

instance instConfinedFirsts : Confined P firsts where
  run now args hargs := by
    unfold firsts
    infer_instance

instance instConfinedLasts : Confined P lasts where
  run now args hargs := by
    unfold lasts
    infer_instance

instance instConfinedJoin : Confined P join where
  run now args hargs := by
    unfold join
    infer_instance

/-! Moments. -/

instance instConfinedPresent (f : Moment → Value) : Confined P (present f) where
  run _ _ _ := instFailsInOk _

instance instConfinedTimeAgo : Confined P timeAgo where
  run now args hargs := by
    have hmoment : FailsIn P (ofValue? (arg args 0)) := by
      unfold ofValue?
      split <;> infer_instance
    have helapsed : ∀ m? : Option Moment, FailsIn P
        (match m? with
        | some m => pure (elapsed now m)
        | none => pure (.ofString "Invalid date") : Except Fault Value) := by
      rintro (_ | m) <;> infer_instance
    unfold timeAgo
    infer_instance

instance instConfinedWritten (pattern : Text) : Confined P (written pattern) where
  run now args hargs := by
    have hrest : ∀ (moment : Moment) (rest : List Value), (∀ v ∈ rest, v ∈ args) → FailsIn P
        (do
          let given ←
            match rest with
            | v :: _ => v.joined
            | [] => pure []
          return .text (Pattern.expand moment (if given.isEmpty then pattern else given)) :
          Except Fault Value) := by
      intro moment rest hmem
      cases rest with
      | nil => infer_instance
      | cons v rest =>
          have hv := hargs.joined v (hmem v List.mem_cons_self)
          infer_instance
    cases args with
    | nil => exact hrest now [] fun _ hv => hv
    | cons v rest =>
        cases v with
        | moment m => exact hrest m rest fun _ hv => List.mem_cons_of_mem _ hv
        | date d => exact hrest (.ofDate d) rest fun _ hv => List.mem_cons_of_mem _ hv
        | _ => exact hrest now (_ :: rest) fun _ hv => hv

/-! Addresses. -/

instance instConfinedAbsoluteUrl : Confined P absoluteUrl where
  run now args hargs := by
    unfold absoluteUrl
    infer_instance

end

end Stencil.Function
