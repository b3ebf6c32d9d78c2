import Stencil.Markup.Tags
import Stencil.Proofs.Text.Blank
import Stencil.Proofs.Token.Replace

namespace Stencil.Markup

/-! What is left of a text without its tags. -/

variable {before inside after s t : Text}

def HasTag (s : Text) : Prop := ['<', '>'].Sublist s

/-- `t` is `s` without its tags. Each goes from the first `<` to the first `>` behind it, and what
stands before, between and behind them stays. -/
inductive Strips : Text → Text → Prop
  | untagged {s : Text} (h : ¬HasTag s) : Strips s s
  | tag {before inside after t : Text} (hbefore : '<' ∉ before) (hinside : '>' ∉ inside)
      (h : Strips after t) : Strips (before ++ '<' :: (inside ++ '>' :: after)) (before ++ t)

theorem hasTag_cons_iff : HasTag ('<' :: s) ↔ '>' ∈ s := by
  rw [HasTag, List.cons_sublist_cons, List.singleton_sublist]

theorem hasTag_append_iff (h : '<' ∉ before) : HasTag (before ++ s) ↔ HasTag s := by
  induction before with
  | nil => rfl
  | cons c before ih =>
      rw [List.mem_cons, not_or] at h
      rw [← ih h.2, HasTag, List.cons_append, List.sublist_cons_iff, or_iff_left]
      · rfl
      · rintro ⟨rest, heq, -⟩
        exact h.1 (List.cons.inj heq).1

theorem HasTag.exists_first (h : HasTag s) :
    ∃ before inside after, '<' ∉ before ∧ '>' ∉ inside ∧
      s = before ++ '<' :: (inside ++ '>' :: after) := by
  obtain ⟨before, behind, rfl, hbefore⟩ :=
    List.eq_append_cons_of_mem (h.subset (List.mem_cons_self : '<' ∈ ['<', '>']))
  rw [hasTag_append_iff hbefore, hasTag_cons_iff] at h
  obtain ⟨inside, after, rfl, hinside⟩ := List.eq_append_cons_of_mem h
  exact ⟨before, inside, after, hbefore, hinside, rfl⟩

/-! The pattern of a tag. -/

theorem tagSpan_of_ne {c : Char} (h : c ≠ '<') (s : Text) : tagSpan (c :: s) = none := by
  unfold tagSpan
  split
  · next heq => exact absurd (List.cons.inj heq).1 h
  · rfl

theorem dropWhile_of_not_mem (h : '>' ∉ s) : s.dropWhile (· != '>') = [] := by
  apply Text.dropWhile_eq_nil
  intro c hc
  rw [bne_iff_ne]
  rintro rfl
  exact h hc

theorem tagSpan_of_untagged (h : ¬HasTag s) : tagSpan s = none := by
  unfold tagSpan
  split
  · rw [dropWhile_of_not_mem (mt hasTag_cons_iff.mpr h)]
  · rfl

theorem tagSpan_tag (h : '>' ∉ inside) (after : Text) :
    tagSpan ('<' :: (inside ++ '>' :: after)) = some ((), after) := by
  rw [tagSpan, Text.dropWhile_append_stop (by decide), dropWhile_of_not_mem h, List.nil_append]

/-! Tag by tag. -/

theorem stripTags_of_untagged (h : ¬HasTag s) : stripTags s = s := by
  rw [stripTags, Scanner.remove_eq_replace_map]
  apply Scanner.replace_of_none
  apply Scanner.cut?_eq_none
  intro t ht
  rw [Scanner.map, tagSpan_of_untagged fun htag => h (htag.trans ht.sublist)]
  rfl

theorem passesOver_before (h : '<' ∉ before) :
    (tagSpan.map fun _ => ([] : Text)).PassesOver before := by
  refine .of_forall fun c hc rest => ?_
  have hne : c ≠ '<' := fun heq => h (heq ▸ hc)
  rw [Scanner.map, tagSpan_of_ne hne]
  rfl

theorem stripTags_tag (hbefore : '<' ∉ before) (hinside : '>' ∉ inside) (after : Text) :
    stripTags (before ++ '<' :: (inside ++ '>' :: after)) = before ++ stripTags after := by
  have hread : (tagSpan.map fun _ => ([] : Text)) ('<' :: (inside ++ '>' :: after)) =
      some ([], after) := by
    rw [Scanner.map, tagSpan_tag hinside]
    rfl
  have hshorter : after.length < ('<' :: (inside ++ '>' :: after)).length := by
    simp only [List.length_cons, List.length_append]
    omega
  have hdrives := Scanner.replace_drives (tagSpan.map fun _ => ([] : Text))
  have hhead := Scanner.replace_eq_of_cut? (Scanner.cut?_of_some hread hshorter)
  rw [stripTags, Scanner.remove_eq_replace_map]
  exact (hdrives.append (passesOver_before hbefore _)).trans (congrArg (before ++ ·) hhead)

theorem strips_stripTags (s : Text) : Strips s (stripTags s) := by
  induction hlength : s.length using Nat.strongRecOn generalizing s with
  | ind n ih =>
      by_cases h : HasTag s
      · obtain ⟨before, inside, after, hbefore, hinside, rfl⟩ := h.exists_first
        rw [stripTags_tag hbefore hinside]
        simp only [List.length_append, List.length_cons] at hlength
        exact .tag hbefore hinside (ih after.length (by omega) after rfl)
      · rw [stripTags_of_untagged h]
        exact .untagged h

/-! What is left has no tag: only behind the last tag can a `<` stand. -/

namespace Strips

theorem not_hasTag (h : Strips s t) : ¬HasTag t := by
  induction h with
  | untagged h => exact h
  | tag hbefore _ _ ih => rwa [hasTag_append_iff hbefore]

theorem sublist (h : Strips s t) : t.Sublist s := by
  induction h with
  | untagged => exact List.Sublist.refl _
  | @tag before inside after t _ _ _ ih =>
      have hafter : after.Sublist ('<' :: (inside ++ '>' :: after)) :=
        .cons _ (.trans (.cons _ (.refl _)) (List.sublist_append_right inside _))
      exact (ih.trans hafter).append_left before

end Strips

/-- All tags are taken out of a text, and nothing else. -/
theorem stripTags_strips (s : Text) :
    ¬HasTag (stripTags s) ∧ (stripTags s).Sublist s ∧ stripTags (stripTags s) = stripTags s ∧
      (stripTags s = s ↔ ¬HasTag s) ∧ Strips s (stripTags s) := by
  have hstrips := strips_stripTags s
  refine ⟨hstrips.not_hasTag, hstrips.sublist, stripTags_of_untagged hstrips.not_hasTag, ?_,
    hstrips⟩
  constructor
  · intro heq
    rw [← heq]
    exact hstrips.not_hasTag
  · exact stripTags_of_untagged

end Stencil.Markup
