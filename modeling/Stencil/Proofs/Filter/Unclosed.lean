import Stencil.Proofs.Value.Unclosed

namespace Stencil

open Text

/-! Filters make no closing brace, but for the one that renders markup: that one reads character
references. -/

section

variable {items args : List Value} {v : Value}

instance instIsUnclosedArg [IsUnclosed args] (i : Nat) {default : Value} [IsUnclosed default] :
    IsUnclosed (Function.arg args i default) := by
  unfold Function.arg
  infer_instance

/-! Runs of one character. -/

theorem Function.squeezed_subset (p : Char → Bool) (s : Text) : squeezed p s ⊆ s := by
  fun_induction squeezed p s with
  | case1 a b s _ ih => exact List.subset_cons_of_subset a ih
  | case2 a b s _ ih => exact List.cons_subset_cons a ih
  | case3 s => exact List.Subset.refl s

instance instIsUnclosedSqueezed (p : Char → Bool) {s : Text} [hs : IsUnclosed s] :
    IsUnclosed (Function.squeezed p s) :=
  hs.of_subset (Function.squeezed_subset p s)

namespace Filter

instance instIsUnclosedReverse [h : IsUnclosed v] : IsUnclosed (reverse v) := by
  unfold reverse
  split
  · have hs := h.of_text_value
    infer_instance
  · infer_instance

instance instIsUnclosedSize : IsUnclosed (size v) := by
  unfold size
  split <;> infer_instance

instance instGivesUnclosedSortText [IsUnclosed v] : GivesUnclosed (sortText v) := by
  unfold sortText
  split
  · next name hname =>
      have hrepresentative : IsUnclosed name := .of_mem_option inferInstance hname
      infer_instance
  · infer_instance

instance instGivesUnclosedSorted [IsUnclosed items] : GivesUnclosed (sorted items) := by
  unfold sorted
  split
  · next numbers _ =>
      have hnumbers : IsUnclosed numbers := ⟨fun _ _ => trivial⟩
      infer_instance
  · infer_instance

/-- A filter that makes no closing brace of arguments and a value without any. -/
class Seals (f : Filter) : Prop where
  run : ∀ (args : Clear (List Value)) (v : Clear Value), GivesUnclosed (f.run args.val v.val)

instance instSealsPlain (f : Value → Except Fault Value)
    [hf : ∀ v : Clear Value, GivesUnclosed (f v.val)] : Seals (plain f) := ⟨fun _ v => hf v⟩

instance instSealsOnText (f : Text → Value) [∀ s : Clear Text, IsUnclosed (f s.val)] :
    Seals (onText f) := by
  unfold onText
  infer_instance

instance instSealsMapText (f : Text → Text) [∀ s : Clear Text, IsUnclosed (f s.val)] :
    Seals (mapText f) := by
  unfold mapText
  infer_instance

instance instSealsOnItems (f : List Value → Value)
    [∀ items : Clear (List Value), IsUnclosed (f items.val)] : Seals (onItems f) := by
  unfold onItems
  infer_instance

instance instSealsTest (p : List Value → Bool) : Seals (test p) := by
  unfold test
  infer_instance

instance instSealsTruncate : Seals truncate where
  run args v := by
    have hmark : IsUnclosed ellipsis := .of_text (by decide)
    dsimp only [truncate]
    split <;> infer_instance

instance instSealsFirst : Seals first where
  run args v := by
    dsimp only [first]
    split
    · infer_instance
    · next items hitems =>
        have helements : IsUnclosed items := .of_sequence? inferInstance hitems
        split <;> infer_instance

instance instSealsLast : Seals last where
  run args v := by
    dsimp only [last]
    split
    · infer_instance
    · next items hitems =>
        have helements : IsUnclosed items := .of_sequence? inferInstance hitems
        split <;> infer_instance

instance instSealsJoin : Seals join where
  run args v := by
    have hcomma : IsUnclosed (Value.ofString ", ") := ⟨.text _ (by decide)⟩
    dsimp only [join]
    split
    · infer_instance
    · next items hitems =>
        have helements : IsUnclosed items := .of_sequence? inferInstance hitems
        infer_instance

instance instSealsSort : Seals sort := by
  refine ⟨fun args v => ?_⟩
  dsimp only [sort, plain]
  split
  · infer_instance
  · next items hitems =>
      have helements : IsUnclosed items := .of_sequence? inferInstance hitems
      infer_instance

instance instSealsSample : Seals sample where
  run args v := by
    dsimp only [sample]
    split
    · next items n hitems _ =>
        have helements : IsUnclosed items := .of_sequence? inferInstance hitems
        infer_instance
    · infer_instance

instance instSealsClamp : Seals clamp where
  run args v := by
    dsimp only [clamp]
    split <;> infer_instance

instance instSealsAtMost : Seals atMost where
  run args v := by
    dsimp only [atMost]
    split
    · split
      · infer_instance
      · split
        · next items hitems =>
            have helements : IsUnclosed items := .of_sequence? inferInstance hitems
            infer_instance
        · infer_instance
    · infer_instance

instance instSealsAtLeast : Seals atLeast where
  run args v := by
    dsimp only [atLeast]
    split <;> infer_instance

instance instSealsDefault : Seals default where
  run args v := by
    dsimp only [default]
    infer_instance

/-! The standard filters. -/

/-- Filters that read character references, which can stand for a closing brace. -/
def decoding : List Text := ["markdownify".toList]

theorem seals_standard : ∀ entry ∈ standard.entries, entry.1 ∉ decoding → Seals entry.2 := by
  refine List.forall_mem_map.mpr ?_
  repeat
    refine List.forall_mem_cons.mpr ⟨fun hname => by
      first
      | dsimp only; infer_instance
      | exact absurd (by decide) hname, ?_⟩
  exact List.forall_mem_nil _

end Filter

end

end Stencil
