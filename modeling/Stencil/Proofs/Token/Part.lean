import Stencil.Proofs.Token.Pattern

namespace Stencil

open Text

/-! What is read off a text stands in it. -/

namespace Text

theorem infix_of_mem_splitFrom {p : Char → Bool} {part s t : Text}
    (h : t ∈ splitFrom p part s) : t <:+: part.reverse ++ s := by
  induction s generalizing part with
  | nil =>
      rw [List.mem_singleton.mp h]
      exact (List.prefix_append _ _).isInfix
  | cons c s ih =>
      have hsplit : part.reverse ++ c :: s = (c :: part).reverse ++ s := by simp
      rw [splitFrom] at h
      split at h
      · rcases List.mem_cons.mp h with rfl | hlater
        · exact (List.prefix_append _ _).isInfix
        · rw [hsplit]
          exact (ih hlater).trans (List.suffix_append _ _).isInfix
      · rw [hsplit]
        exact ih h

theorem infix_of_mem_splitAt {sep : Char} {s t : Text} (h : t ∈ Text.splitAt sep s) :
    t <:+: s :=
  infix_of_mem_splitFrom h

end Text

namespace Template

theorem infix_of_mem_splitOutsideFrom {sep : Char} {quote : Option Char} {depth : Nat}
    {part s t : Text} (h : t ∈ splitOutsideFrom sep quote depth part s) :
    t <:+: part.reverse ++ s := by
  fun_induction splitOutsideFrom sep quote depth part s with
  | case1 =>
      rw [List.mem_singleton.mp h]
      exact (List.prefix_append _ _).isInfix
  | case6 depth part c s _ _ _ _ ih =>
      rcases List.mem_cons.mp h with rfl | hlater
      · exact (List.prefix_append _ _).isInfix
      · have hrest : t <:+: s := ih hlater
        exact hrest.trans ((List.suffix_cons c s).trans (List.suffix_append _ _)).isInfix
  | _ =>
      rename_i ih
      simpa using ih h

theorem infix_of_mem_splitOutside {sep : Char} {s t : Text} (h : t ∈ splitOutside sep s) :
    t <:+: s :=
  infix_of_mem_splitOutsideFrom h

theorem infix_of_mem_splitArguments {s t : Text} (h : t ∈ splitArguments s) : t <:+: s := by
  unfold splitArguments at h
  split at h
  · cases h
  · obtain ⟨u, hu, rfl⟩ := List.mem_map.mp h
    exact (trim_isInfix u).trans (infix_of_mem_splitOutside hu)

theorem infix_splitPipeline (s : Text) :
    (splitPipeline s).1 <:+: s ∧ ∀ filter ∈ (splitPipeline s).2, filter <:+: s := by
  have hparts : ∀ t ∈ (splitOutside '|' s).map trim, t <:+: s := by
    intro t ht
    obtain ⟨u, hu, rfl⟩ := List.mem_map.mp ht
    exact (trim_isInfix u).trans (infix_of_mem_splitOutside hu)
  unfold splitPipeline
  cases hsplit : (splitOutside '|' s).map trim with
  | nil =>
      have hnil : [] <:+: s := List.nil_infix
      exact ⟨hnil, fun _ hmem => nomatch hmem⟩
  | cons expression filters =>
      rw [hsplit] at hparts
      exact ⟨hparts _ List.mem_cons_self, fun filter hmem =>
        hparts _ (List.mem_cons_of_mem _ (List.mem_filter.mp hmem).1)⟩

theorem takeMark_suffix (s : Text) : (takeMark s).2 <:+ s := by
  unfold takeMark
  split
  · exact List.suffix_cons _ _
  · exact List.suffix_refl _

theorem infix_of_parseCall {s name arguments : Text}
    (h : parseCall s = some (name, arguments)) : arguments <:+: s := by
  unfold parseCall at h
  split at h
  · cases h
  · next c rest hs =>
      split at h
      · dsimp only at h
        split at h
        · next inner hinner =>
            split at h
            · cases h
              have hsuffix : '(' :: inner <:+ rest :=
                hinner ▸ ((trimLeft_suffix _).trans (takeMark_suffix _)).trans
                  (List.dropWhile_suffix _)
              have hrest : rest <:+: s :=
                ((List.suffix_cons c rest).isInfix).trans (hs ▸ trim_isInfix s)
              have hinside : inner.dropLast <:+: s :=
                (List.dropLast_prefix inner).isInfix.trans
                  (((List.suffix_cons _ _).trans hsuffix).isInfix.trans hrest)
              exact (trim_isInfix _).trans hinside
            · cases h
        · cases h
      · cases h

theorem infix_of_parseAssignment {s name source : Text}
    (h : parseAssignment s = some (name, source)) : source <:+: s := by
  unfold parseAssignment at h
  dsimp only at h
  split at h
  · next rest hrest =>
      obtain ⟨_, hparts⟩ := Option.ite_none_left_eq_some.mp h
      cases hparts
      have hbehind : ':' :: '=' :: rest <:+ s := by
        rw [← hrest]
        refine ((trimLeft_suffix _).trans (List.dropWhile_suffix _)).trans ?_
        split
        · exact List.suffix_cons _ _
        · exact List.suffix_refl _
      exact ((trimLeft_suffix rest).trans (((List.suffix_cons _ _).trans
        (List.suffix_cons _ _)).trans hbehind)).isInfix
  · cases h

theorem infix_of_insideText? {least : Nat} {inside value : Text}
    (h : insideText? least inside = some value) : value <:+: inside := by
  rcases insideText?_cases h with rfl | ⟨_, c, hc, _, rfl⟩
  · exact trim_isInfix inside
  · obtain ⟨before, behind, rfl⟩ := List.append_of_mem hc
    exact ⟨before, behind, by simp⟩

theorem infix_of_operandIn {word inside value : Text}
    (h : operandIn word inside = some value) : value <:+: inside := by
  obtain ⟨x, hx, hvalue⟩ := Option.bind_eq_some_iff.mp h
  exact (infix_of_insideText? hvalue).trans (suffix_of_dropStart? hx).isInfix

theorem infix_of_loopIn {inside : Text} {head : LoopHead} (h : loopIn inside = some head) :
    head.source <:+: inside := by
  rcases Option.or_eq_some_iff.mp h with hfor | ⟨_, hrange⟩
  · obtain ⟨found, hfound, rfl⟩ := Option.map_eq_some_iff.mp hfor
    simp only [forOpenerIn, bind, Option.bind_eq_some_iff] at hfound
    obtain ⟨⟨name, y⟩, hy, source, hsource, heq⟩ := hfound
    cases heq
    exact (infix_of_insideText? hsource).trans (suffix_of_forIn hy).isInfix
  · obtain ⟨operand, hoperand, rfl⟩ := Option.map_eq_some_iff.mp hrange
    have hinside := infix_of_operandIn hoperand
    unfold rangeOver
    split
    · next hassigned => exact (infix_of_parseAssignment hassigned).trans hinside
    · exact hinside

end Template

end Stencil
