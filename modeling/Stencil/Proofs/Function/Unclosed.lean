import Stencil.Function.Standard
import Stencil.Proofs.Filter.Unclosed
import Stencil.Proofs.Url.Unclosed

namespace Stencil.Function

open Text

/-! Functions make no closing brace of arguments without any, but for those that read character
references or encoded bytes. -/

section

variable {s run : Text} {items args : List Value} {v : Value} {parts : List Text}

/-! Texts. -/

theorem unclosed_breakAcronyms (hrun : IsUnclosed run) (hs : IsUnclosed s) :
    IsUnclosed (breakAcronyms run s) := by
  have hunderscore : IsUnclosed '_' := .of_char (by decide)
  fun_induction breakAcronyms run s with
  | case1 => infer_instance
  | case2 run c s _ ih =>
      have hc := hs.head
      exact ih inferInstance hs.tail
  | case3 c s _ last first before _ ih =>
      have hc := hs.head
      have hlast := hrun.head
      have hbefore := hrun.tail
      have hrest := ih inferInstance hs.tail
      infer_instance
  | case4 c s _ last first before _ ih =>
      have hc := hs.head
      have hrest := ih inferInstance hs.tail
      infer_instance
  | case5 run c s _ _ ih =>
      have hc := hs.head
      have hrest := ih inferInstance hs.tail
      infer_instance

theorem unclosed_breakHumps (hs : IsUnclosed s) : IsUnclosed (breakHumps s) := by
  have hunderscore : IsUnclosed '_' := .of_char (by decide)
  fun_induction breakHumps s with
  | case1 a b s _ ih =>
      have ha := hs.head
      have hrest := ih hs.tail
      infer_instance
  | case2 a b s _ ih =>
      have ha := hs.head
      have hrest := ih hs.tail
      infer_instance
  | case3 s => exact hs

theorem unclosed_collapse (p : Char → Bool) {by_ : Char} (hby : IsUnclosed by_) (inRun : Bool)
    (hs : IsUnclosed s) : IsUnclosed (collapse p by_ inRun s) := by
  fun_induction collapse p by_ inRun s with
  | case1 => infer_instance
  | case2 c s _ ih => exact ih hs.tail
  | case3 inRun c s _ _ ih =>
      have hrest := ih hs.tail
      infer_instance
  | case4 inRun c s _ ih =>
      have hc := hs.head
      have hrest := ih hs.tail
      infer_instance

instance instIsUnclosedUnderscored [hs : IsUnclosed s] : IsUnclosed (underscored s) := by
  have hnone : IsUnclosed ([] : Text) := inferInstance
  have hunderscore : IsUnclosed '_' := .of_char (by decide)
  have hparts := unclosed_breakHumps (unclosed_breakAcronyms hnone hs)
  have hjoined := unclosed_collapse (fun c => c == '-' || isBlank c) hunderscore false hparts
  unfold underscored
  infer_instance

instance instIsUnclosedOneLine [hs : IsUnclosed s] : IsUnclosed (oneLine s) := by
  have hspace : IsUnclosed ' ' := .of_char (by decide)
  have hjoined := unclosed_collapse (· == '\n') hspace false hs
  unfold oneLine
  infer_instance

instance instIsUnclosedJoinItems [IsUnclosed parts] : IsUnclosed (joinItems parts) := by
  have hcomma : IsUnclosed ',' := .of_char (by decide)
  unfold joinItems
  infer_instance

class Seals (f : Function) : Prop where
  run : ∀ (now : Moment) (args : Clear (List Value)), GivesUnclosed (f.run now args.val)

instance instSealsOnText (f : Text → Value) [∀ s : Clear Text, IsUnclosed (f s.val)] :
    Seals (onText f) where
  run now args := by
    dsimp only [onText]
    infer_instance

instance instSealsMapText (f : Text → Text) [∀ s : Clear Text, IsUnclosed (f s.val)] :
    Seals (mapText f) := by
  unfold mapText
  infer_instance

instance instSealsChomp : Seals chomp where
  run now args := by
    dsimp only [chomp]
    refine .bind fun s hs => ?_
    have htext : IsUnclosed s := GivesUnclosed.of_eq_ok s hs
    split <;> infer_instance

instance instSealsSqueeze : Seals squeeze where
  run now args := by
    dsimp only [squeeze]
    infer_instance

instance instSealsDelete : Seals delete where
  run now args := by
    dsimp only [delete]
    infer_instance

instance instSealsReverse : Seals reverse where
  run now args := by
    have hcomma : IsUnclosed ',' := .of_char (by decide)
    dsimp only [reverse]
    infer_instance

instance instSealsRepeated : Seals repeated where
  run now args := by
    dsimp only [repeated]
    infer_instance

instance instSealsPluralize : Seals pluralize where
  run now args := by
    have hs : IsUnclosed 's' := .of_char (by decide)
    dsimp only [pluralize]
    infer_instance

instance instSealsSingularize : Seals singularize where
  run now args := by
    dsimp only [singularize]
    infer_instance

instance instSealsTruncate : Seals truncate where
  run now args := by
    have hmark : IsUnclosed ellipsis := .of_text (by decide)
    dsimp only [truncate]
    infer_instance

instance instSealsTruncateWords : Seals truncateWords where
  run now args := by
    have hmark : IsUnclosed ellipsis := .of_text (by decide)
    have hspace : IsUnclosed ' ' := .of_char (by decide)
    dsimp only [truncateWords]
    refine .bind fun limit _ => ?_
    split <;> infer_instance

instance instSealsReplace : Seals replace where
  run now args := by
    dsimp only [replace]
    infer_instance

instance instSealsRemove : Seals remove where
  run now args := by
    dsimp only [remove]
    infer_instance

instance instSealsReadingTime : Seals readingTime where
  run now args := by
    have hunit : IsUnclosed " min read".toList := .of_text (by decide)
    dsimp only [readingTime]
    infer_instance

/-! Lists. -/

instance instSealsOnItems (f : List Text → Value)
    [∀ parts : Clear (List Text), IsUnclosed (f parts.val)] : Seals (onItems f) where
  run now args := by
    dsimp only [onItems]
    infer_instance

instance instSealsSample : Seals sample where
  run now args := by
    dsimp only [sample]
    infer_instance

instance instSealsRotate : Seals rotate where
  run now args := by
    dsimp only [rotate]
    infer_instance

instance instSealsSortByLength : Seals sortByLength where
  run now args := by
    dsimp only [sortByLength]
    infer_instance

instance instSealsIndexOf (last : Bool) : Seals (indexOf last) where
  run now args := by
    dsimp only [indexOf]
    infer_instance

instance instSealsFirsts : Seals firsts where
  run now args := by
    have hspace : IsUnclosed ' ' := .of_char (by decide)
    dsimp only [firsts]
    infer_instance

instance instSealsLasts : Seals lasts where
  run now args := by
    have hspace : IsUnclosed ' ' := .of_char (by decide)
    have hcomma : IsUnclosed ',' := .of_char (by decide)
    dsimp only [lasts]
    infer_instance

instance instSealsJoin : Seals join where
  run now args := by
    have hcomma : IsUnclosed ',' := .of_char (by decide)
    dsimp only [join]
    infer_instance

/-! Numbers. -/

instance instSealsBinary (name : String) (f : Number → Number → Except Fault Number) :
    Seals (binary name f) where
  run _ _ := .bind fun _ _ => .bind fun _ _ => .bind fun _ _ => instGivesUnclosedOk

instance instSealsDivide : Seals divide where
  run now args := by
    dsimp only [divide]
    refine .bind fun divisor _ => ?_
    split
    · exact .bind fun _ hthrow => nomatch hthrow
    · exact .bind fun _ _ => .bind fun _ _ => instGivesUnclosedOk

instance instSealsModulo : Seals modulo where
  run now args := by
    dsimp only [modulo]
    refine .bind fun dividend _ => .bind fun divisor _ => ?_
    split <;> infer_instance

instance instSealsRound : Seals round where
  run now args := by
    dsimp only [round]
    refine .bind fun places _ => .bind fun n _ => .bind fun rounded _ => ?_
    infer_instance

instance instSealsToInteger (name : String) (f : Number → Except Fault Int) :
    Seals (toInteger name f) where
  run _ _ := .bind fun _ _ => .bind fun _ _ => instGivesUnclosedOk

instance instSealsAbsolute : Seals absolute where
  run _ _ := .bind fun _ _ => instGivesUnclosedOk

instance instSealsSquareRoot : Seals squareRoot where
  run now args := by
    dsimp only [squareRoot]
    refine .bind fun n _ => ?_
    split
    · exact .bind fun _ hthrow => nomatch hthrow
    · exact .bind fun _ _ => instGivesUnclosedOk

instance instSealsPower : Seals power where
  run now args := by
    dsimp only [power]
    refine .bind fun base _ => .bind fun exponent _ => .bind fun result _ => ?_
    split <;> infer_instance

instance instSealsFold (name : String) (f : List Number → Except Fault Number) :
    Seals (fold name f) where
  run _ _ := .bind fun _ _ => .bind fun _ _ => instGivesUnclosedOk

/-! Comparisons, tests and conversions. -/

instance instSealsCompareTexts (p : Text → Text → Bool) : Seals (compareTexts p) where
  run now args := by
    dsimp only [compareTexts]
    infer_instance

instance instSealsCompareAmounts (p : Float → Float → Bool) : Seals (compareAmounts p) where
  run _ _ := instGivesUnclosedOk

instance instSealsContains : Seals contains where
  run now args := by
    dsimp only [contains]
    infer_instance

instance instSealsStartsWith : Seals startsWith where
  run now args := by
    dsimp only [startsWith]
    infer_instance

instance instSealsEndsWith : Seals endsWith where
  run now args := by
    dsimp only [endsWith]
    infer_instance

instance instSealsInRange : Seals inRange where
  run now args := by
    dsimp only [inRange]
    infer_instance

instance instSealsOfValue (f : Value → Except Fault Value)
    [hf : ∀ v : Clear Value, GivesUnclosed (f v.val)] : Seals (ofValue f) where
  run now args := by
    have harg : IsUnclosed (arg args.val 0) := inferInstance
    exact hf ⟨_, harg.holds⟩

instance instSealsArray : Seals array where
  run now args := by
    have hcomma : IsUnclosed ',' := .of_char (by decide)
    dsimp only [array]
    infer_instance

instance instSealsTestAll (p : List Bool → Bool) : Seals (testAll p) where
  run _ _ := instGivesUnclosedOk

instance instSealsNegation : Seals negation where
  run _ _ := instGivesUnclosedOk

/-! Moments. -/

instance instSealsWritten {pattern : Text} [IsUnclosed pattern] : Seals (written pattern) where
  run now args := by
    obtain ⟨args, hargs⟩ := args
    have hall : IsUnclosed args := ⟨hargs⟩
    have hrest : ∀ (moment : Moment) (rest : List Value), rest ⊆ args → GivesUnclosed
        (do
          let given ←
            match rest with
            | v :: _ => v.joined
            | [] => pure []
          return .text (Pattern.expand moment (if given.isEmpty then pattern else given)) :
          Except Fault Value) := by
      intro moment rest hsub
      cases rest with
      | nil => infer_instance
      | cons v rest =>
          have hv := (hall.of_subset hsub).head
          infer_instance
    cases args with
    | nil => exact hrest now [] (List.Subset.refl _)
    | cons v rest =>
        cases v with
        | moment m => exact hrest m rest (List.subset_cons_self _ _)
        | date d => exact hrest (.ofDate d) rest (List.subset_cons_self _ _)
        | _ => exact hrest now (_ :: rest) (List.Subset.refl _)

instance instSealsPresent (f : Moment → Value) [hf : ∀ now, IsUnclosed (f now)] :
    Seals (present f) where
  run now _ := by
    have hvalue := hf now
    exact instGivesUnclosedOk

instance instIsUnclosedAgo (amount : Int) {unit : String} [IsUnclosed unit.toList] :
    IsUnclosed (ago amount unit) := by
  have hspace : IsUnclosed ' ' := .of_char (by decide)
  have hs : IsUnclosed 's' := .of_char (by decide)
  have hend : IsUnclosed " ago".toList := .of_text (by decide)
  unfold ago
  infer_instance

instance instIsUnclosedElapsed (now moment : Moment) : IsUnclosed (elapsed now moment) := by
  have hyear : IsUnclosed "year".toList := .of_text (by decide)
  have hmonth : IsUnclosed "month".toList := .of_text (by decide)
  have hday : IsUnclosed "day".toList := .of_text (by decide)
  have hhour : IsUnclosed "hour".toList := .of_text (by decide)
  have hminute : IsUnclosed "minute".toList := .of_text (by decide)
  have hnow : IsUnclosed (Value.ofString "Just now") := ⟨.text _ (by decide)⟩
  unfold elapsed
  dsimp only
  infer_instance

instance instSealsTimeAgo : Seals timeAgo where
  run now args := by
    have hinvalid : IsUnclosed (Value.ofString "Invalid date") := ⟨.text _ (by decide)⟩
    dsimp only [timeAgo]
    refine .bind fun moment? _ => ?_
    split <;> infer_instance

/-! Addresses. -/

instance instSealsRelativeUrl : Seals relativeUrl where
  run now args := by
    have hslash : IsUnclosed '/' := .of_char (by decide)
    dsimp only [relativeUrl]
    infer_instance

instance instSealsAbsoluteUrl : Seals absoluteUrl where
  run now args := by
    dsimp only [absoluteUrl]
    infer_instance

instance instSealsPart (f : Url → Value) [∀ u : Clear Url, IsUnclosed (f u.val)] :
    Seals (part f) where
  run now args := by
    dsimp only [part]
    infer_instance

instance instSealsJoinUrls : Seals joinUrls where
  run now args := by
    dsimp only [joinUrls]
    infer_instance

/-! The standard functions. -/

/-- Functions that read character references or encoded bytes, which can stand for a closing
brace. -/
def decoding : List Text :=
  ["unescape", "unescape_html", "url_decode", "markdownify"].map String.toList

theorem seals_tables : ∀ entry ∈ words ++ logic ++ arithmetic ++ lists ++ times ++ addresses,
    entry.1.toList ∉ decoding → Seals entry.2 := by
  have hbreak : IsUnclosed "<br>".toList := .of_text (by decide)
  have hhyphen : IsUnclosed '-' := .of_char (by decide)
  have hsame : ∀ s : Clear Text, IsUnclosed (id s.val) := fun s => ⟨s.holds⟩
  unfold words logic arithmetic lists times addresses
  simp only [List.forall_mem_append]
  refine ⟨⟨⟨⟨⟨?_, ?_⟩, ?_⟩, ?_⟩, ?_⟩, ?_⟩
  all_goals
    repeat
      refine List.forall_mem_cons.mpr ⟨fun hname => by
        first
        | dsimp only; infer_instance
        | exact absurd (by decide) hname, ?_⟩
    exact List.forall_mem_nil _

theorem seals_standard : ∀ entry ∈ standard.entries, entry.1 ∉ decoding → Seals entry.2 :=
  List.forall_mem_map.mpr seals_tables

end

end Stencil.Function
