import Stencil.Text.Basic

namespace Stencil.Text

/-! The parts of a text between separators, and the text they are joined to. -/

section

variable {p : Char → Bool}

theorem splitFrom_of_forall {s : Text} (h : ∀ c ∈ s, p c = false) (part rest : Text) :
    splitFrom p part (s ++ rest) = splitFrom p (s.reverse ++ part) rest := by
  induction s generalizing part with
  | nil => rfl
  | cons c s ih =>
      obtain ⟨hc, hs⟩ := List.forall_mem_cons.mp h
      rw [List.cons_append, splitFrom, hc, if_neg Bool.false_ne_true, ih hs]
      simp

theorem splitFrom_append_cons {c : Char} (hc : p c = true) (part s t : Text) :
    splitFrom p part (s ++ c :: t) = splitFrom p part s ++ splitFrom p [] t := by
  induction s generalizing part with
  | nil => simp [splitFrom, hc]
  | cons d s ih =>
      rw [List.cons_append, splitFrom, splitFrom]
      split
      · rw [ih, List.cons_append]
      · rw [ih]

theorem splitFrom_append {t : Text} (h : ∀ c ∈ t, p c = false) (part s : Text) :
    ∃ front last, splitFrom p part s = front ++ [last] ∧
      splitFrom p part (s ++ t) = front ++ [last ++ t] := by
  induction s generalizing part with
  | nil =>
      have hrest := splitFrom_of_forall h part []
      rw [List.append_nil] at hrest
      exact ⟨[], part.reverse, rfl, by simp [hrest, splitFrom]⟩
  | cons c s ih =>
      rw [List.cons_append, splitFrom, splitFrom]
      split
      · obtain ⟨front, last, hs, hst⟩ := ih []
        exact ⟨part.reverse :: front, last, by rw [hs]; rfl, by rw [hst]; rfl⟩
      · exact ih (c :: part)

theorem splitFrom_congr {q : Char → Bool} {s : Text} (h : ∀ c ∈ s, p c = q c) (part : Text) :
    splitFrom p part s = splitFrom q part s := by
  induction s generalizing part with
  | nil => rfl
  | cons c s ih =>
      obtain ⟨hc, hs⟩ := List.forall_mem_cons.mp h
      rw [splitFrom, splitFrom, hc, ih hs, ih hs]

theorem not_of_mem_splitFrom {part s : Text} (hpart : ∀ c ∈ part, p c = false) :
    ∀ t ∈ splitFrom p part s, ∀ c ∈ t, p c = false := by
  induction s generalizing part with
  | nil =>
      rw [splitFrom]
      refine List.forall_mem_singleton.mpr fun c hc => hpart c (List.mem_reverse.mp hc)
  | cons d s ih =>
      rw [splitFrom]
      split
      · refine List.forall_mem_cons.mpr ⟨fun c hc => hpart c (List.mem_reverse.mp hc), ?_⟩
        exact ih fun c hc => absurd hc List.not_mem_nil
      · next hd => exact ih (List.forall_mem_cons.mpr ⟨eq_false_of_ne_true hd, hpart⟩)

theorem not_of_mem_splitBy {s t : Text} (h : t ∈ splitBy p s) : ∀ c ∈ t, p c = false :=
  not_of_mem_splitFrom (List.forall_mem_nil _) t h

end

section

variable {sep : Char}

theorem forall_ne_of_not_mem {s : Text} (h : sep ∉ s) : ∀ c ∈ s, (c == sep) = false := by
  intro c hc
  rw [beq_eq_false_iff_ne]
  rintro rfl
  exact h hc

theorem splitAt_of_not_mem {s : Text} (h : sep ∉ s) : splitAt sep s = [s] := by
  have hsplit := splitFrom_of_forall (forall_ne_of_not_mem h) [] []
  rw [List.append_nil] at hsplit
  rw [splitAt, splitBy, hsplit]
  simp [splitFrom]

theorem not_mem_of_mem_splitAt {s t : Text} (h : t ∈ splitAt sep s) : sep ∉ t := by
  intro hsep
  have hother : (sep == sep) = false := not_of_mem_splitBy h sep hsep
  rw [beq_self_eq_true] at hother
  cases hother

theorem splitAt_append_cons (s t : Text) :
    splitAt sep (s ++ sep :: t) = splitAt sep s ++ splitAt sep t :=
  splitFrom_append_cons (p := (· == sep)) (beq_self_eq_true sep) [] s t

theorem splitAt_append {t : Text} (h : sep ∉ t) (s : Text) :
    ∃ front last, splitAt sep s = front ++ [last] ∧ splitAt sep (s ++ t) = front ++ [last ++ t] :=
  splitFrom_append (forall_ne_of_not_mem h) [] s

theorem splitAt_join {parts : List Text} (hne : parts ≠ []) (h : ∀ part ∈ parts, sep ∉ part) :
    splitAt sep (join [sep] parts) = parts := by
  induction parts with
  | nil => exact absurd rfl hne
  | cons part parts ih =>
      obtain ⟨hpart, hparts⟩ := List.forall_mem_cons.mp h
      cases parts with
      | nil => exact splitAt_of_not_mem hpart
      | cons next parts =>
          rw [join, List.append_assoc, List.singleton_append, splitAt_append_cons,
            splitAt_of_not_mem hpart, ih (List.cons_ne_nil _ _) hparts, List.singleton_append]

theorem splitFrom_ne_nil {p : Char → Bool} (part s : Text) : splitFrom p part s ≠ [] := by
  induction s generalizing part with
  | nil => exact List.cons_ne_nil _ _
  | cons c s ih =>
      rw [splitFrom]
      split
      · exact List.cons_ne_nil _ _
      · exact ih _

theorem join_cons {parts : List Text} (h : parts ≠ []) (sep part : Text) :
    join sep (part :: parts) = part ++ sep ++ join sep parts := by
  cases parts with
  | nil => exact absurd rfl h
  | cons next parts => rfl

theorem join_eq_nil_iff {parts : List Text} (hne : parts ≠ []) :
    join [sep] parts = [] ↔ parts = [[]] := by
  cases parts with
  | nil => exact absurd rfl hne
  | cons s parts =>
      cases parts with
      | nil => simp [join]
      | cons t parts => simp [join]

theorem join_concat {parts : List Text} (h : parts ≠ []) (sep last : Text) :
    join sep (parts ++ [last]) = join sep parts ++ sep ++ last := by
  induction parts with
  | nil => exact absurd rfl h
  | cons part parts ih =>
      cases parts with
      | nil => rfl
      | cons next parts =>
          have hne : next :: parts ≠ [] := List.cons_ne_nil _ _
          have hne' : (next :: parts) ++ [last] ≠ [] := List.cons_ne_nil _ _
          rw [List.cons_append, join_cons hne', ih hne, join_cons hne]
          simp

theorem join_splitFrom (part s : Text) :
    join [sep] (splitFrom (· == sep) part s) = part.reverse ++ s := by
  induction s generalizing part with
  | nil => simp [splitFrom, join]
  | cons c s ih =>
      rw [splitFrom]
      split
      · next hc =>
          rw [join_cons (splitFrom_ne_nil [] s), ih, beq_iff_eq.mp hc]
          simp
      · rw [ih]
        simp

theorem join_splitAt (s : Text) : join [sep] (splitAt sep s) = s := join_splitFrom [] s

theorem length_join_dropLast_splitAt {s : Text} (h : s ≠ []) :
    (join [sep] (splitAt sep s).dropLast).length < s.length := by
  have hsplit := List.dropLast_concat_getLast (splitFrom_ne_nil (p := (· == sep)) [] s)
  have hjoin : join [sep] (splitAt sep s) = s := join_splitAt s
  rw [splitAt, splitBy] at hjoin ⊢
  by_cases hfront : (splitFrom (· == sep) [] s).dropLast = []
  · rw [hfront]
    exact List.length_pos_iff.mpr h
  · rw [← hsplit, join_concat hfront] at hjoin
    have hlength := congrArg List.length hjoin
    simp only [List.length_append, List.length_singleton] at hlength
    omega

end

end Stencil.Text
