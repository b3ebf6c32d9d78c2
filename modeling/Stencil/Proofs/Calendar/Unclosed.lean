import Stencil.Calendar.Pattern
import Stencil.Proofs.Text.Unclosed

namespace Stencil

open Text

/-! A moment is written without closing braces, by any pattern that has none. -/

instance (d : Date) : IsUnclosed d.isoText := by
  have hdash : IsUnclosed '-' := .of_char (by decide)
  unfold Date.isoText
  infer_instance

namespace Moment

instance (colon : Bool) (seconds : Int) : IsUnclosed (offsetText colon seconds) := by
  have hplus : IsUnclosed '+' := .of_char (by decide)
  have hminus : IsUnclosed '-' := .of_char (by decide)
  have hcolon : IsUnclosed ':' := .of_char (by decide)
  unfold offsetText
  infer_instance

instance (m : Moment) {sep : Char} [IsUnclosed sep] : IsUnclosed (m.isoText sep) := by
  have hcolon : IsUnclosed ':' := .of_char (by decide)
  have hpoint : IsUnclosed '.' := .of_char (by decide)
  have hoffset : IsUnclosed (m.offset.map (offsetText true)) := by
    cases m.offset <;> infer_instance
  unfold isoText
  infer_instance

end Moment

namespace Pattern

theorem unclosed_nameAt {names : List String} (h : ∀ name ∈ names, Text.Unclosed name.toList)
    (i : Nat) : IsUnclosed (nameAt names i) := by
  unfold nameAt
  cases hname : names[i]? with
  | none => exact inferInstanceAs (IsUnclosed ([] : Text))
  | some name => exact .of_text (h name (List.mem_of_getElem? hname))

instance (i : Nat) : IsUnclosed (nameAt dayNames i) := unclosed_nameAt (by decide) i

instance (i : Nat) : IsUnclosed (nameAt monthNames i) := unclosed_nameAt (by decide) i

variable (m : Moment) (d : Date) (marks : Marks) {s : Text}

instance [IsUnclosed s] : IsUnclosed (marks.text s) := by
  have hspace : IsUnclosed ' ' := .of_char (by decide)
  have hzero : IsUnclosed '0' := .of_char (by decide)
  unfold Marks.text
  infer_instance

instance (spaced : Bool) (digits n : Nat) : IsUnclosed (marks.number spaced digits n) := by
  have hspace : IsUnclosed ' ' := .of_char (by decide)
  unfold Marks.number
  dsimp only
  split <;> infer_instance

instance : IsUnclosed (clock m) := by
  have hcolon : IsUnclosed ':' := .of_char (by decide)
  unfold clock
  infer_instance

instance : IsUnclosed (half m) := by
  unfold half
  split <;> exact .of_text (by decide)

instance : IsUnclosed (slashed d) := by
  have hslash : IsUnclosed '/' := .of_char (by decide)
  unfold slashed
  infer_instance

instance (letter : Char) : IsUnclosed (field? marks m letter) := by
  have hmark : IsUnclosed '%' := .of_char (by decide)
  have hspace : IsUnclosed ' ' := .of_char (by decide)
  have hdash : IsUnclosed '-' := .of_char (by decide)
  have hcolon : IsUnclosed ':' := .of_char (by decide)
  have hline : IsUnclosed '\n' := .of_char (by decide)
  have htab : IsUnclosed '\t' := .of_char (by decide)
  unfold field?
  dsimp only
  split
  · infer_instance
  · split <;> infer_instance

instance [hs : IsUnclosed s] : IsUnclosed (directive m s).1 := by
  have hmark : IsUnclosed '%' := .of_char (by decide)
  unfold directive
  dsimp only
  split
  · infer_instance
  · next letter _ _ =>
      have hfield : IsUnclosed (field? (readMarks s).1 m letter) := inferInstance
      split
      · next text htext => exact hfield.of_mem_option htext
      · infer_instance

theorem unclosed_expandZone (hs : IsUnclosed s) : IsUnclosed (expandZone m s) := by
  have hutc : IsUnclosed "UTC".toList := .of_text (by decide)
  have hoffset : ∀ colon, IsUnclosed (m.offset.map (Moment.offsetText colon)) := fun colon => by
    cases m.offset <;> infer_instance
  fun_induction expandZone m s with
  | case1 s ih =>
      have hrest := ih hs.tail.tail
      infer_instance
  | case2 s ih =>
      have hrest := ih hs.tail.tail
      infer_instance
  | case3 s name ih =>
      have hrest := ih hs.tail.tail
      have hname : IsUnclosed name := by
        unfold name
        split <;> infer_instance
      infer_instance
  | case4 c s _ _ _ ih =>
      have hrest := ih hs.tail.tail
      have hmark := hs.head
      have hletter := hs.tail.head
      infer_instance
  | case5 c s _ _ _ _ ih =>
      have hrest := ih hs.tail
      have hc := hs.head
      infer_instance
  | case6 => infer_instance

theorem unclosed_expandFrom (skip : Nat) (hs : IsUnclosed s) :
    IsUnclosed (expandFrom m skip s) := by
  fun_induction expandFrom m skip s with
  | case1 => infer_instance
  | case2 skip c s ih => exact ih hs.tail
  | case3 s text taken hdirective ih =>
      have hbehind := hs.tail
      have hrest := ih hbehind
      have htext : IsUnclosed (directive m s).1 := inferInstance
      rw [hdirective] at htext
      infer_instance
  | case4 c s _ ih =>
      have hrest := ih hs.tail
      have hc := hs.head
      infer_instance

instance {pattern : Text} [h : IsUnclosed pattern] : IsUnclosed (expand m pattern) := by
  have hread : IsUnclosed (pattern.takeWhile (· != '\x00')) :=
    h.of_infix (List.takeWhile_prefix _).isInfix
  exact unclosed_expandFrom m 0 (unclosed_expandZone m hread)

instance : IsUnclosed day := .of_text (by decide)

instance : IsUnclosed longDay := .of_text (by decide)

instance : IsUnclosed clockTime := .of_text (by decide)

instance : IsUnclosed dayAndClock := .of_text (by decide)

instance : IsUnclosed universal := .of_text (by decide)

end Pattern

end Stencil
