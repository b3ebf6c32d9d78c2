import Stencil.Proofs.Token.Replace

namespace Stencil

/-! Texts whose closing braces stand in pairs. Taking such texts apart at directives and putting them
together again breaks no pair up. -/

/-- Every run of closing braces is even. -/
inductive Text.Paired : Text → Prop
  | nil : Paired []
  | cons {c : Char} {s : Text} (hc : c ≠ '}') (h : Paired s) : Paired (c :: s)
  | pair {s : Text} (h : Paired s) : Paired ('}' :: '}' :: s)

namespace Text.Paired

variable {s t : Text} {c : Char}

theorem of_unclosed (h : s.Unclosed) : s.Paired := by
  induction s with
  | nil => exact .nil
  | cons c s ih =>
      obtain ⟨hc, hs⟩ := List.forall_mem_cons.mp h
      exact .cons hc (ih hs)

theorem append (hs : s.Paired) (ht : t.Paired) : Text.Paired (s ++ t) := by
  induction hs with
  | nil => exact ht
  | cons hc _ ih => exact .cons hc ih
  | pair _ ih => exact .pair ih

theorem tail (hc : c ≠ '}') (h : Text.Paired (c :: s)) : s.Paired := by
  cases h with
  | cons _ h => exact h
  | pair _ => exact absurd rfl hc

theorem tail_pair (h : Text.Paired ('}' :: '}' :: s)) : s.Paired := by
  cases h with
  | cons hc _ => exact absurd rfl hc
  | pair h => exact h

theorem of_append_left (hs : s.Paired) (h : Text.Paired (s ++ t)) : t.Paired := by
  induction hs with
  | nil => exact h
  | cons hc _ ih => exact ih (h.tail hc)
  | pair _ ih => exact ih h.tail_pair

theorem of_append_cons (hc : c ≠ '}') (h : Text.Paired (s ++ c :: t)) : s.Paired ∧ t.Paired := by
  generalize hu : s ++ c :: t = u at h
  induction h generalizing s with
  | nil => simp at hu
  | cons hd h ih =>
      cases s with
      | nil =>
          obtain ⟨rfl, rfl⟩ := List.cons.inj hu
          exact ⟨.nil, h⟩
      | cons e s =>
          obtain ⟨rfl, htail⟩ := List.cons.inj hu
          obtain ⟨hs, ht⟩ := ih htail
          exact ⟨.cons hd hs, ht⟩
  | pair h ih =>
      match s with
      | [] => exact absurd (List.cons.inj hu).1 hc
      | [_] => exact absurd (List.cons.inj (List.cons.inj hu).2).1 hc
      | d :: e :: s =>
          obtain ⟨rfl, hnext⟩ := List.cons.inj hu
          obtain ⟨rfl, htail⟩ := List.cons.inj hnext
          obtain ⟨hs, ht⟩ := ih htail
          exact ⟨.pair hs, ht⟩

theorem flatten {parts : List Text} (h : ∀ part ∈ parts, Text.Paired part) :
    Text.Paired parts.flatten := by
  induction parts with
  | nil => exact .nil
  | cons part parts ih =>
      obtain ⟨hpart, hparts⟩ := List.forall_mem_cons.mp h
      exact hpart.append (ih hparts)

theorem mark {inside : Text} (h : inside.Unclosed) : (mark inside).Paired :=
  .cons (by decide) (.cons (by decide) ((of_unclosed h).append (.pair .nil)))

theorem of_append_mark {inside : Text} (hinside : inside.Unclosed)
    (h : Text.Paired (s ++ (Stencil.mark inside ++ t))) : s.Paired ∧ t.Paired := by
  have hsplit : s ++ (Stencil.mark inside ++ t) = s ++ '{' :: ('{' :: (inside ++ ['}', '}']) ++ t) :=
    rfl
  rw [hsplit] at h
  obtain ⟨hs, hrest⟩ := of_append_cons (by decide) h
  have hbehind : Text.Paired ('{' :: (inside ++ ['}', '}'])) :=
    .cons (by decide) ((of_unclosed hinside).append (.pair .nil))
  exact ⟨hs, hbehind.of_append_left hrest⟩

end Text.Paired

namespace Scanner

/-- A pattern that reads pairs of closing braces, none of them at the head, and leaves pairs. -/
def Pairs (scan : Scanner Text) : Prop :=
  ∀ s value rest : Text, scan s = some (value, rest) →
    value.Paired ∧ ∃ (c : Char) (read : Text), c ≠ '}' ∧ read.Paired ∧ s = c :: (read ++ rest)

theorem Pairs.replace {scan : Scanner Text} (hscan : scan.Pairs) {s : Text} (h : s.Paired) :
    (scan.replace s).Paired := by
  refine replace_induct (P := fun s t => s.Paired → t.Paired) (fun _ _ h => h) ?_ s h
  intro before t value after hread hafter h
  obtain ⟨hvalue, c, read, hc, hpaired, rfl⟩ := hscan t value after hread
  obtain ⟨hbefore, hrest⟩ := h.of_append_cons hc
  exact hbefore.append (hvalue.append (hafter (hpaired.of_append_left hrest)))

end Scanner

end Stencil
