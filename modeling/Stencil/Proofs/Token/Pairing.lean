import Stencil.Proofs.Token.Nesting

namespace Stencil.Template

open Stencil.Text

/-! The blocks of a template in tokens begin and end between tokens, whatever is missing in it. -/

structure Block.Pieces (b : Block) (tokens : List Token) where
  whole : List Token
  first : List Token
  second : List Token
  after : List Token
  tokens_eq : tokens = whole ++ after
  text_eq : b.text = spell whole
  first_eq : b.first = spell first
  second_eq : b.second = spell second
  after_eq : b.after = spell after
  first_sublist : first.Sublist whole
  second_sublist : second.Sublist whole
  length_first_lt : (directives first).length < (directives whole).length
  length_second_lt : (directives second).length < (directives whole).length

namespace Block.Pieces

variable {b : Block} {tokens : List Token}

theorem directives_eq (pieces : b.Pieces tokens) :
    directives tokens = directives pieces.whole ++ directives pieces.after :=
  (congrArg directives pieces.tokens_eq).trans (directives_append _ _)

theorem after_sublist (pieces : b.Pieces tokens) : pieces.after.Sublist tokens := by
  have hsub : pieces.after.Sublist (pieces.whole ++ pieces.after) :=
    List.sublist_append_right _ _
  rwa [← pieces.tokens_eq] at hsub

theorem whole_sublist (pieces : b.Pieces tokens) : pieces.whole.Sublist tokens := by
  have hsub : pieces.whole.Sublist (pieces.whole ++ pieces.after) :=
    List.sublist_append_left _ _
  rwa [← pieces.tokens_eq] at hsub

theorem first_sublist_directives (pieces : b.Pieces tokens) :
    (directives pieces.first).Sublist (directives tokens) :=
  directives_sublist (pieces.first_sublist.trans pieces.whole_sublist)

theorem second_sublist_directives (pieces : b.Pieces tokens) :
    (directives pieces.second).Sublist (directives tokens) :=
  directives_sublist (pieces.second_sublist.trans pieces.whole_sublist)

/-- A body stands in front of a closer, so that it has fewer directives than there are. -/
theorem length_first_lt_directives (pieces : b.Pieces tokens) :
    (directives pieces.first).length < (directives tokens).length :=
  Nat.lt_of_lt_of_le pieces.length_first_lt (directives_sublist pieces.whole_sublist).length_le

theorem length_second_lt_directives (pieces : b.Pieces tokens) :
    (directives pieces.second).length < (directives tokens).length :=
  Nat.lt_of_lt_of_le pieces.length_second_lt (directives_sublist pieces.whole_sublist).length_le

end Block.Pieces

theorem BlockKind.block?_spell {kind : BlockKind} (hkind : kind ≠ .block) {tokens : List Token}
    {b : Block} (h : kind.block? (spell tokens) = some b) : Nonempty (b.Pieces tokens) := by
  have hreads : ∀ inside ∈ directives tokens, kind.opener.ReadsWhole inside := fun inside hmem =>
    (whole_opener hkind).reads (enclosed_of_mem_directives hmem).unclosed
  rcases block?_cases hreads with ⟨hnone, _⟩ | ⟨pairing, hsome⟩
  · exact nomatch hnone.symm.trans h
  · obtain rfl := Option.some.inj (h.symm.trans hsome)
    obtain ⟨body, closer, after, first, divider?, second, htokens, _, hdivision⟩ := pairing
    cases hdivision with
    | undivided _ =>
        exact ⟨{
          whole := body ++ [.directive closer]
          first := body
          second := []
          after := after
          tokens_eq := by simp [htokens]
          text_eq := by simp [Block.text, Pairing.block]
          first_eq := rfl
          second_eq := rfl
          after_eq := rfl
          first_sublist := List.sublist_append_left _ _
          second_sublist := List.nil_sublist _
          length_first_lt := by simp
          length_second_lt := by simp }⟩
    | @divided _ divider _ _ =>
        exact ⟨{
          whole := first ++ .directive divider :: second ++ [.directive closer]
          first := first
          second := second
          after := after
          tokens_eq := by simp [htokens]
          text_eq := by simp [Block.text, Pairing.block]
          first_eq := rfl
          second_eq := rfl
          after_eq := rfl
          first_sublist := by
            rw [List.append_assoc]
            exact List.sublist_append_left first _
          second_sublist := ((List.sublist_cons_self _ second).trans
            (List.sublist_append_right first _)).trans (List.sublist_append_left _ _)
          length_first_lt := by simp
          length_second_lt := by
            simp
            omega }⟩

end Stencil.Template
