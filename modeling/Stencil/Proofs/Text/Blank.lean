import Stencil.Text.Word

namespace Stencil.Text

/-! Blanks at the ends of a text, its first word, and reading up to a character that stops. -/

section

variable {p : Char → Bool} {c : Char}

theorem ne_of_holds {d : Char} (hc : p c = true) (hd : p d = false) : c ≠ d := by
  rintro rfl
  rw [hc] at hd
  cases hd

theorem takeWhile_append_stop (h : p c = false) (s t : Text) :
    (s ++ c :: t).takeWhile p = s.takeWhile p := by
  induction s with
  | nil => simp [h]
  | cons d s ih => cases hd : p d <;> simp [hd, ih]

theorem dropWhile_append_stop (h : p c = false) (s t : Text) :
    (s ++ c :: t).dropWhile p = s.dropWhile p ++ c :: t := by
  induction s with
  | nil => simp [h]
  | cons d s ih => cases hd : p d <;> simp [hd, ih]

theorem takeWhile_eq_self {s : Text} (h : ∀ d ∈ s, p d = true) : s.takeWhile p = s := by
  induction s with
  | nil => rfl
  | cons d s ih =>
      rw [List.takeWhile_cons_of_pos (h d List.mem_cons_self),
        ih fun e hmem => h e (List.mem_cons_of_mem _ hmem)]

theorem dropWhile_eq_nil {s : Text} (h : ∀ d ∈ s, p d = true) : s.dropWhile p = [] := by
  induction s with
  | nil => rfl
  | cons d s ih =>
      rw [List.dropWhile_cons_of_pos (h d List.mem_cons_self)]
      exact ih fun e hmem => h e (List.mem_cons_of_mem _ hmem)

end

theorem getLast?_dropWhileEnd_ne {s : Text} {c : Char} :
    (s.dropWhileEnd (· == c)).getLast? ≠ some c := by
  intro hlast
  have hfirst := List.head?_dropWhile_not (· == c) s.reverse
  rw [dropWhileEnd, List.getLast?_reverse] at hlast
  rw [hlast] at hfirst
  simp at hfirst

theorem dropWhileEnd_append (p : Char → Bool) (s t : Text) :
    dropWhileEnd p (s ++ t) =
      if (dropWhileEnd p t).isEmpty then dropWhileEnd p s else s ++ dropWhileEnd p t := by
  unfold dropWhileEnd
  rw [List.reverse_append, List.dropWhile_append, List.isEmpty_reverse]
  split
  · rfl
  · rw [List.reverse_append, List.reverse_reverse]

theorem trimLeft_append_stop {c : Char} (h : isBlank c = false) (s t : Text) :
    trimLeft (s ++ c :: t) = trimLeft s ++ c :: t :=
  dropWhile_append_stop h s t

theorem trimLeft_cons_blank {c : Char} (h : isBlank c = true) (s : Text) :
    trimLeft (c :: s) = trimLeft s := by
  simp [trimLeft, h]

theorem trimLeft_cons_solid {c : Char} (h : isBlank c = false) (s : Text) :
    trimLeft (c :: s) = c :: s := by
  simp [trimLeft, h]

theorem trimLeft_suffix (s : Text) : trimLeft s <:+ s := List.dropWhile_suffix _

theorem trimRight_isPrefix (s : Text) : trimRight s <+: s := by
  have h := List.dropWhile_suffix (l := s.reverse) isBlank
  rw [← List.reverse_prefix, List.reverse_reverse] at h
  exact h

theorem trim_isInfix (s : Text) : trim s <:+: s :=
  (trimRight_isPrefix _).isInfix.trans (trimLeft_suffix s).isInfix

theorem trimRight_append_blanks {t : Text} (h : ∀ c ∈ t, isBlank c = true) (s : Text) :
    trimRight (s ++ t) = trimRight s := by
  have hreverse : ∀ c ∈ t.reverse, isBlank c = true := by simpa using h
  simp only [trimRight, dropWhileEnd, List.reverse_append,
    List.dropWhile_append_of_pos hreverse]

def Trimmed (s : Text) : Prop := trim s = s

theorem Trimmed.trimLeft_eq {s : Text} (h : Trimmed s) : trimLeft s = s := by
  have hshort : s.length ≤ (trimLeft s).length := by
    have hprefix := (trimRight_isPrefix (trimLeft s)).length_le
    have heq := congrArg List.length (show trimRight (trimLeft s) = s from h)
    omega
  exact (trimLeft_suffix s).eq_of_length_le hshort

theorem Trimmed.trimRight_eq {s : Text} (h : Trimmed s) : trimRight s = s := by
  have hboth : trimRight (trimLeft s) = s := h
  rwa [h.trimLeft_eq] at hboth

theorem Trimmed.isBlank_head {c : Char} {s : Text} (h : Trimmed (c :: s)) :
    isBlank c = false := by
  have hleft := h.trimLeft_eq
  by_cases hc : isBlank c = true
  · have hlength := (trimLeft_suffix s).length_le
    rw [trimLeft_cons_blank hc] at hleft
    rw [hleft, List.length_cons] at hlength
    omega
  · simpa using hc

theorem trimRight_append_solid {c : Char} (h : isBlank c = false) (s : Text) :
    trimRight (s ++ [c]) = s ++ [c] := by
  simp [trimRight, dropWhileEnd, h]

/-- A text is a beginning of blanks only, or its last character that is not blank stands before
blanks only. -/
theorem blank_or_eq_append (s : Text) :
    (∀ c ∈ s, isBlank c = true) ∨
      ∃ t c blanks, s = t ++ [c] ++ blanks ∧ isBlank c = false ∧
        ∀ d ∈ blanks, isBlank d = true := by
  induction s with
  | nil => exact .inl fun _ hmem => nomatch hmem
  | cons d s ih =>
      rcases ih with hblank | ⟨t, c, blanks, rfl, hc, hblanks⟩
      · cases hd : isBlank d with
        | true => exact .inl (List.forall_mem_cons.mpr ⟨hd, hblank⟩)
        | false => exact .inr ⟨[], d, s, rfl, hd, hblank⟩
      · exact .inr ⟨d :: t, c, blanks, rfl, hc, hblanks⟩

theorem trimRight_trimRight (s : Text) : trimRight (trimRight s) = trimRight s := by
  rcases blank_or_eq_append s with hblank | ⟨t, c, blanks, rfl, hc, hblanks⟩
  · have hnil : trimRight ([] ++ s) = trimRight [] := trimRight_append_blanks hblank []
    rw [List.nil_append] at hnil
    rw [hnil]
    rfl
  · rw [trimRight_append_blanks hblanks, trimRight_append_solid hc,
      trimRight_append_solid hc]

theorem trimmed_trim (s : Text) : Trimmed (trim s) := by
  have hleft : trimLeft (trimRight (trimLeft s)) = trimRight (trimLeft s) := by
    obtain ⟨behind, hbehind⟩ := trimRight_isPrefix (trimLeft s)
    cases hright : trimRight (trimLeft s) with
    | nil => rfl
    | cons c rest =>
        have hhead := List.head?_dropWhile_not isBlank s
        rw [hright, List.cons_append] at hbehind
        rw [← trimLeft, ← hbehind] at hhead
        exact trimLeft_cons_solid hhead rest
  rw [Trimmed, trim, trim, hleft, trimRight_trimRight]

theorem trim_append_solid {t blanks : Text} {c : Char} (hc : isBlank c = false)
    (hblanks : ∀ d ∈ blanks, isBlank d = true) :
    trim (t ++ c :: blanks) = trimLeft t ++ [c] := by
  rw [trim, trimLeft_append_stop hc, List.append_cons, trimRight_append_blanks hblanks,
    trimRight_append_solid hc]

theorem isBlank_of_trim_eq_nil {s : Text} (h : trim s = []) : ∀ c ∈ s, isBlank c = true := by
  rcases blank_or_eq_append s with hblank | ⟨t, c, blanks, rfl, hc, hblanks⟩
  · exact hblank
  · rw [List.append_assoc, List.singleton_append, trim_append_solid hc hblanks] at h
    simp at h

theorem Trimmed.exists_last {s : Text} (h : Trimmed s) (hne : s ≠ []) :
    ∃ t c, s = t ++ [c] ∧ isBlank c = false := by
  have hright := h.trimRight_eq
  rcases blank_or_eq_append s with hall | ⟨t, c, blanks, rfl, hc, hblanks⟩
  · have hnil : trimRight ([] ++ s) = trimRight [] := trimRight_append_blanks hall []
    rw [List.nil_append, hright] at hnil
    exact absurd hnil hne
  · rw [trimRight_append_blanks hblanks, trimRight_append_solid hc] at hright
    exact ⟨t, c, hright.symm, hc⟩

theorem trimmed_cons_append {c : Char} {t : Text} (hc : isBlank c = false) (ht : Trimmed t)
    (hne : t ≠ []) (s : Text) : Trimmed (c :: (s ++ t)) := by
  obtain ⟨t', d, rfl, hd⟩ := ht.exists_last hne
  rw [Trimmed, trim, trimLeft_cons_solid hc, ← List.append_assoc, ← List.cons_append,
    trimRight_append_solid hd]

/-! The first word. -/

theorem head?_wordsFrom {word : Text} (h : word ≠ []) (s : Text) :
    (wordsFrom word s).head? = some (word.reverse ++ s.takeWhile (!isBlank ·)) := by
  induction s generalizing word with
  | nil => simp [wordsFrom, h]
  | cons c s ih =>
      cases hc : isBlank c with
      | true => simp [wordsFrom, h, hc]
      | false => simp [wordsFrom, hc, ih]

theorem head?_words (s : Text) :
    (words s).head? =
      if trimLeft s = [] then none else some ((trimLeft s).takeWhile (!isBlank ·)) := by
  unfold words
  induction s with
  | nil => rfl
  | cons c s ih =>
      cases hc : isBlank c with
      | true => simp [wordsFrom, hc, ih, trimLeft_cons_blank hc]
      | false =>
          simp [wordsFrom, hc, trimLeft_cons_solid hc, head?_wordsFrom]

theorem head?_words_cons_blank {c : Char} (h : isBlank c = true) (s : Text) :
    (words (c :: s)).head? = (words s).head? := by
  rw [head?_words, head?_words, trimLeft_cons_blank h]

theorem head?_words_trimLeft (s : Text) : (words (trimLeft s)).head? = (words s).head? := by
  induction s with
  | nil => rfl
  | cons c s ih =>
      cases hc : isBlank c with
      | true => rw [trimLeft_cons_blank hc, head?_words_cons_blank hc, ih]
      | false => rw [trimLeft_cons_solid hc]

theorem head?_words_append_blanks {t : Text} (h : ∀ c ∈ t, isBlank c = true) (s : Text) :
    (words (s ++ t)).head? = (words s).head? := by
  have htake : ∀ s : Text, (s ++ t).takeWhile (!isBlank ·) = s.takeWhile (!isBlank ·) := by
    intro s
    induction s with
    | nil =>
        cases t with
        | nil => rfl
        | cons c t => simp [h c List.mem_cons_self]
    | cons c s ih => cases hc : isBlank c <;> simp [hc, ih]
  induction s with
  | nil =>
      have hnil : trimLeft t = [] := dropWhile_eq_nil h
      rw [List.nil_append, head?_words, hnil]
      rfl
  | cons c s ih =>
      cases hc : isBlank c with
      | true => rw [List.cons_append, head?_words_cons_blank hc, head?_words_cons_blank hc, ih]
      | false =>
          rw [List.cons_append, head?_words, head?_words, trimLeft_cons_solid hc,
            trimLeft_cons_solid hc, ← List.cons_append, htake]
          rfl

theorem head?_words_trim (s : Text) : (words (trim s)).head? = (words s).head? := by
  have hright : (words (trimRight (trimLeft s))).head? = (words (trimLeft s)).head? := by
    rcases blank_or_eq_append (trimLeft s) with hall | ⟨t, c, blanks, heq, hc, hblanks⟩
    · have hnil : trimRight ([] ++ trimLeft s) = trimRight [] := trimRight_append_blanks hall []
      have hwords := head?_words_append_blanks hall []
      rw [List.nil_append] at hnil hwords
      rw [hnil, hwords]
      rfl
    · rw [heq, trimRight_append_blanks hblanks, trimRight_append_solid hc,
        head?_words_append_blanks hblanks]
  rw [trim, hright, head?_words_trimLeft]

/-- Whether a text goes on with something else than a further letter of the word before it. -/
def BeginsBlank (s : Text) : Prop := s.head?.all isBlank = true

theorem head?_words_append {before word rest : Text}
    (hbefore : ∀ c ∈ before, isBlank c = true) (hword : ∀ c ∈ word, isBlank c = false)
    (hne : word ≠ []) (hrest : BeginsBlank rest) :
    (words (before ++ (word ++ rest))).head? = some word := by
  obtain ⟨c, tail, rfl⟩ := List.exists_cons_of_ne_nil hne
  have hleft : trimLeft (before ++ (c :: tail ++ rest)) = c :: tail ++ rest := by
    rw [trimLeft, List.dropWhile_append_of_pos hbefore, List.cons_append]
    exact trimLeft_cons_solid (hword c List.mem_cons_self) _
  have htake : (c :: tail ++ rest).takeWhile (!isBlank ·) = c :: tail := by
    rw [List.takeWhile_append_of_pos (by simpa using hword)]
    cases rest with
    | nil => simp
    | cons d rest =>
        have hd : isBlank d = true := by simpa [BeginsBlank] using hrest
        simp [hd]
  rw [head?_words, hleft, htake]
  simp

/-! Beginnings of a text. -/

theorem dropStart?_append_stop {start : Text} {c : Char} (h : c ∉ start) (s t : Text) :
    dropStart? start (s ++ c :: t) = (dropStart? start s).map (· ++ c :: t) := by
  induction start generalizing s with
  | nil => simp [dropStart?]
  | cons a start ih =>
      rw [List.mem_cons, not_or] at h
      cases s with
      | nil =>
          have hne : (a == c) = false := by simpa using fun heq => h.1 heq.symm
          simp [dropStart?, hne]
      | cons b s =>
          cases heq : a == b with
          | true => simp [dropStart?, heq, ih h.2]
          | false => simp [dropStart?, heq]

@[simp] theorem dropStart?_append_self (start s : Text) :
    dropStart? start (start ++ s) = some s := by
  induction start with
  | nil => rfl
  | cons a start ih => simp [dropStart?, ih]

theorem eq_append_of_dropStart? {start s t : Text} (h : dropStart? start s = some t) :
    s = start ++ t := by
  induction start generalizing s with
  | nil => simpa [dropStart?] using h
  | cons a start ih =>
      cases s with
      | nil => simp [dropStart?] at h
      | cons b s =>
          cases heq : a == b with
          | true =>
              have hrest : s = start ++ t := ih (by simpa [dropStart?, heq] using h)
              rw [hrest, eq_of_beq heq, List.cons_append]
          | false => simp [dropStart?, heq] at h

/-! Word characters and blanks. -/

/-- The blanks beyond the first 128 code points, as ranges. -/
def wideBlanks : List (Nat × Nat) :=
  [(0x85, 0x85), (0xa0, 0xa0), (0x1680, 0x1680), (0x2000, 0x200a), (0x2028, 0x2029),
    (0x202f, 0x202f), (0x205f, 0x205f), (0x3000, 0x3000)]

theorem exists_wideBlank {c : Char} (h : isBlank c = true) (hwide : 128 ≤ c.toNat) :
    ∃ blank ∈ wideBlanks, blank.1 ≤ c.toNat ∧ c.toNat ≤ blank.2 := by
  simp only [isBlank, Bool.or_eq_true, Bool.and_eq_true, decide_eq_true_eq, beq_iff_eq] at h
  simp only [wideBlanks, List.mem_cons, List.not_mem_nil, or_false, exists_eq_or_imp,
    exists_eq_left]
  omega

theorem inRanges_eq_false_of_isBlank {ranges : List (Nat × Nat)}
    (hapart : (ranges.all fun range =>
      wideBlanks.all fun blank => Nat.blt range.2 blank.1 || Nat.blt blank.2 range.1) = true)
    {c : Char} (h : isBlank c = true) (hwide : 128 ≤ c.toNat) :
    inRanges ranges c.toNat = false := by
  obtain ⟨blank, hmem, hlo, hhi⟩ := exists_wideBlank h hwide
  simp only [inRanges, List.any_eq_false, Bool.and_eq_true, decide_eq_true_eq]
  intro range hrange
  have hdisjoint := List.all_eq_true.mp (List.all_eq_true.mp hapart range hrange) blank hmem
  simp only [Bool.or_eq_true, Nat.blt_eq] at hdisjoint
  omega

theorem wordRanges_apart :
    (wordRanges.all fun word =>
      wideBlanks.all fun blank => Nat.blt word.2 blank.1 || Nat.blt blank.2 word.1) = true := by
  decide +kernel

theorem isWord_eq_false_of_isBlank {c : Char} (h : isBlank c = true) : isWord c = false := by
  unfold isWord
  split
  · next hnarrow =>
      simp only [isBlank, Bool.or_eq_true, Bool.and_eq_true, decide_eq_true_eq, beq_iff_eq] at h
      have hunderscore : c ≠ '_' := by
        rintro rfl
        simp at h
      simp only [isAsciiLetter, isAsciiDigit, Bool.or_eq_false_iff, Bool.and_eq_false_iff,
        decide_eq_false_iff_not, beq_eq_false_iff_ne]
      exact ⟨by omega, hunderscore⟩
  · next hwide => exact inRanges_eq_false_of_isBlank wordRanges_apart h (Nat.le_of_not_lt hwide)

theorem isBlank_eq_false_of_isWord {c : Char} (h : isWord c = true) : isBlank c = false := by
  cases hc : isBlank c with
  | false => rfl
  | true => simp [isWord_eq_false_of_isBlank hc] at h

end Stencil.Text
