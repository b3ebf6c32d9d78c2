import Stencil.Markup.Entity
import Stencil.Markup.Tags
import Stencil.Proofs.Eval.Result

namespace Stencil.Markup

/-! Text made safe for markup, and read back from it. -/

variable {c : Char} {s t name rest : Text}

/-- The references that escaping writes, without their ampersand. -/
def references : List Text := ["amp;", "lt;", "gt;", "#34;", "#39;"].map String.toList

/-- No tag begins or ends in the text, nor does a quoted attribute, and every ampersand begins a
reference. -/
structure Safe (s : Text) : Prop where
  unmarked : ∀ c ∈ s, c ∉ ['<', '>', '"', '\'']
  refers : ∀ before after, s = before ++ '&' :: after → ∃ name ∈ references, name <+: after

theorem Safe.append (hs : Safe s) (ht : Safe t) : Safe (s ++ t) where
  unmarked := List.forall_mem_append.mpr ⟨hs.unmarked, ht.unmarked⟩
  refers before after h := by
    rcases List.append_eq_append_iff.mp h with ⟨behind, -, hbehind⟩ | ⟨behind, hbefore, hbehind⟩
    · exact ht.refers behind after hbehind
    · rcases List.append_eq_cons_iff.mp hbehind.symm with ⟨-, ht'⟩ | ⟨front, rfl, rfl⟩
      · exact ht.refers [] after ht'
      · obtain ⟨name, hname, hprefix⟩ := hs.refers before front hbefore
        exact ⟨name, hname, hprefix.trans (List.prefix_append front t)⟩

theorem escapeChar_cases (c : Char) :
    c ∉ ['&', '<', '>', '"', '\''] ∧ escapeChar c = [c] ∨
      ∃ name ∈ references, escapeChar c = '&' :: name ∧
        ∀ rest, referenceAt (name ++ rest) = some (.ok [c], rest) := by
  by_cases hc : c ∈ ['&', '<', '>', '"', '\'']
  · simp only [List.mem_cons, List.not_mem_nil, or_false] at hc
    right
    rcases hc with rfl | rfl | rfl | rfl | rfl
    · exact ⟨"amp;".toList, by decide, rfl, fun _ => rfl⟩
    · exact ⟨"lt;".toList, by decide, rfl, fun _ => rfl⟩
    · exact ⟨"gt;".toList, by decide, rfl, fun _ => rfl⟩
    · exact ⟨"#34;".toList, by decide, rfl, fun _ => rfl⟩
    · exact ⟨"#39;".toList, by decide, rfl, fun _ => rfl⟩
  · refine .inl ⟨hc, ?_⟩
    simp only [List.mem_cons, List.not_mem_nil, or_false, not_or] at hc
    simp [escapeChar, hc]

theorem safe_singleton (h : c ∉ ['&', '<', '>', '"', '\'']) : Safe [c] where
  unmarked := List.forall_mem_singleton.mpr fun hmem => h (List.mem_cons_of_mem _ hmem)
  refers before after heq := by
    have hand : '&' ∈ [c] := heq ▸ List.mem_append_right before List.mem_cons_self
    rw [List.mem_singleton] at hand
    exact absurd (hand ▸ List.mem_cons_self) h

theorem safe_reference (h : name ∈ references) : Safe ('&' :: name) where
  unmarked := by
    have hall : ∀ name ∈ references, ∀ c ∈ '&' :: name, c ∉ ['<', '>', '"', '\''] := by decide
    exact hall name h
  refers before after heq := by
    have hall : ∀ name ∈ references, '&' ∉ name := by decide
    rcases List.append_eq_cons_iff.mp heq.symm with ⟨-, heq⟩ | ⟨front, -, rfl⟩
    · cases heq
      exact ⟨name, h, List.prefix_rfl⟩
    · exact absurd (List.mem_append_right front List.mem_cons_self) (hall _ h)

theorem safe_escapeChar (c : Char) : Safe (escapeChar c) := by
  rcases escapeChar_cases c with ⟨hc, heq⟩ | ⟨name, hname, heq, -⟩
  · rw [heq]
    exact safe_singleton hc
  · rw [heq]
    exact safe_reference hname

theorem escape_cons (c : Char) (s : Text) : escape (c :: s) = escapeChar c ++ escape s := rfl

theorem safe_escape (s : Text) : Safe (escape s) := by
  induction s with
  | nil => exact ⟨List.forall_mem_nil _, fun before _ h => by simp [escape] at h⟩
  | cons c s ih =>
      rw [escape_cons]
      exact (safe_escapeChar c).append ih

/-! Reading a text from its first character on, or behind a reference. -/

theorem unescapeFrom_length (s rest : Text) :
    unescapeFrom s.length (s ++ rest) = unescapeFrom 0 rest := by
  induction s with
  | nil => rfl
  | cons c s ih => exact ih

theorem unescape_cons (h : c ≠ '&') (s : Text) :
    unescape (c :: s) = (c :: ·) <$> unescape s := by
  unfold unescape
  rw [unescapeFrom]
  · rfl
  · exact h

theorem unescape_reference {chars : Text}
    (h : referenceAt (name ++ rest) = some (.ok chars, rest)) :
    unescape ('&' :: (name ++ rest)) = (chars ++ ·) <$> unescape rest := by
  have hlength : (name ++ rest).length - rest.length = name.length := by
    rw [List.length_append, Nat.add_sub_cancel]
  unfold unescape
  rw [unescapeFrom, h]
  dsimp only
  rw [hlength, unescapeFrom_length]
  rfl

theorem unescape_escapeChar_append (c : Char) (rest : Text) :
    unescape (escapeChar c ++ rest) = (c :: ·) <$> unescape rest := by
  rcases escapeChar_cases c with ⟨hc, heq⟩ | ⟨name, -, heq, hread⟩
  · rw [heq, List.singleton_append]
    exact unescape_cons (List.ne_of_not_mem_cons hc) rest
  · rw [heq, List.cons_append, unescape_reference (hread rest)]
    rfl

/-- What is escaped is read back on its own, also where the text behind it looks like the rest of a
reference. -/
theorem unescape_escape_append (s rest : Text) :
    unescape (escape s ++ rest) = (s ++ ·) <$> unescape rest := by
  induction s with
  | nil => exact (id_map (unescape rest)).symm
  | cons c s ih =>
      rw [escape_cons, List.append_assoc, unescape_escapeChar_append, ih, ← comp_map]
      rfl

/-- Escaped text is safe in markup and in quoted attributes, and is read back as the text that was
escaped. -/
theorem escape_reversible (s : Text) : Safe (escape s) ∧ unescape (escape s) = .ok s := by
  have hread := unescape_escape_append s []
  rw [List.append_nil] at hread
  refine ⟨safe_escape s, hread.trans ?_⟩
  rw [unescape, unescapeFrom, map_ok, List.append_nil]

end Stencil.Markup
