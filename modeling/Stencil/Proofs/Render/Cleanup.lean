import Stencil.Proofs.Token.Pattern
import Stencil.Proofs.Token.Replace
import Stencil.Template.Cleanup

namespace Stencil.Template

open Stencil.Text

/-! The cleanup leaves no directive, and leaves text without directives and doubled ends alone. -/

/-! The patterns of what is left of directives. -/

theorem strayDirective_mark {inside : Text} (h : inside.Unclosed) (rest : Text) :
    strayDirective (mark inside ++ rest) = some ((), rest) := by
  simp only [strayDirective, openMark?_mark, bind, Option.bind, dropWhile_body h]
  rfl

instance : strayDirective.Whole where
  toAtMarks := atMarks_of_openMark? fun s h => by simp [strayDirective, h]
  reads h := Scanner.readsWhole_of (some ()) (strayDirective_mark h)

theorem strayDirective_onMark {inside : Text} (h : inside.Unclosed) :
    strayDirective.onMark inside = some () :=
  Scanner.onMark_eq (strayDirective_mark h)

theorem closeMark?_blanks?_body {x : Text} (h : x.Unclosed) (rest : Text) :
    ((blanks? (x ++ '}' :: '}' :: rest)).bind fun y => closeMark? (y.dropWhile (· != '}'))) =
      (blanks? x).map fun _ => rest := by
  rw [blanks?_body]
  cases hblanks : blanks? x with
  | none => rfl
  | some y =>
      simp only [Option.map_some, Option.bind_some,
        dropWhile_body (h.of_sublist (blanks?_suffix hblanks).sublist)]
      rfl

theorem strayOperand_mark {word inside : Text} [hword : Keyword word] (h : inside.Unclosed)
    (rest : Text) :
    strayOperand word (mark inside ++ rest) =
      ((dropStart? word (trimLeft inside)).bind blanks?).map fun _ => ((), rest) := by
  simp only [strayOperand, openWord?_mark hword.not_mem_close, bind]
  cases hdrop : dropStart? word (trimLeft inside) with
  | none => rfl
  | some x =>
      have hclose := closeMark?_blanks?_body (unclosed_of_dropStart? h hdrop) rest
      simp only [Option.map_some, Option.bind_some, ← Option.bind_assoc, hclose]
      cases blanks? x <;> rfl

instance {word : Text} [Keyword word] : (strayOperand word).Whole where
  toAtMarks := atMarks_of_openMark? fun s h => by simp [strayOperand, openWord?_eq_none h]
  reads {inside} h :=
    Scanner.readsWhole_of (((dropStart? word (trimLeft inside)).bind blanks?).map fun _ => ())
      fun rest => by
        rw [strayOperand_mark h, Option.map_map]
        rfl

theorem strayFor_mark {inside : Text} (h : inside.Unclosed) (rest : Text) :
    strayFor (mark inside ++ rest) =
      ((forIn inside).bind fun found => blanks? found.2).map fun _ => ((), rest) := by
  simp only [strayFor, forHead?_mark, bind]
  cases hfor : forIn inside with
  | none => rfl
  | some found =>
      obtain ⟨name, y⟩ := found
      have hclose := closeMark?_blanks?_body (unclosed_of_forIn h hfor) rest
      simp only [Option.map_some, Option.bind_some, ← Option.bind_assoc, hclose]
      cases blanks? y <;> rfl

instance : strayFor.Whole where
  toAtMarks := atMarks_of_openMark? fun s h => by simp [strayFor, forHead?_eq_none h]
  reads {inside} h :=
    Scanner.readsWhole_of (((forIn inside).bind fun found => blanks? found.2).map fun _ => ())
      fun rest => by
        rw [strayFor_mark h, Option.map_map]
        rfl

/-! Removing what is left of directives. -/

theorem removeStrays_of_unopened {s : Text} (h : s.Unopened) : removeStrays s = s := by
  simp only [removeStrays, Scanner.remove_of_unopened h]

theorem unopened_removeStrays_spell (tokens : List Token) :
    (removeStrays (spell tokens)).Unopened := by
  obtain ⟨t1, h1, -⟩ := (tag "endfor".toList).remove_spell tokens
  obtain ⟨t2, h2, -⟩ := (tag "endif".toList).remove_spell t1
  obtain ⟨t3, h3, -⟩ := (tag "else".toList).remove_spell t2
  obtain ⟨t4, h4, -⟩ := (tag "end".toList).remove_spell t3
  obtain ⟨t5, h5, -⟩ := strayFor.remove_spell t4
  obtain ⟨t6, h6, -⟩ := (strayOperand "if".toList).remove_spell t5
  obtain ⟨t7, h7, -, hnone⟩ := strayDirective.remove_spell t6
  have hdirectives : directives t7 = [] := by
    rw [List.eq_nil_iff_forall_not_mem]
    intro inside hmem
    have hread := strayDirective_onMark (enclosed_of_mem_directives hmem).unclosed
    rw [hnone inside hmem] at hread
    cases hread
  simp only [removeStrays, h1, h2, h3, h4, h5, h6, h7]
  exact unopened_spell hdirectives

/-! Mending markup. -/

theorem trimLeft_eq_of_doubledEnd? {s rest : Text} (h : doubledEnd? s = some rest) :
    ∃ t, s = '>' :: t ∧ trimLeft t = '"' :: '>' :: rest := by
  unfold doubledEnd? at h
  split at h
  · next t => exact ⟨t, rfl, eq_append_of_dropStart? h⟩
  · cases h

/-- A pattern that mends a doubled end: of what it reads it leaves the end of the tag and the
character that it reads up to, if there is one. -/
def Mending (scan : Scanner Text) : Prop :=
  ∀ s value rest : Text, scan s = some (value, rest) →
    ∃ dropped kept : Text, s = '>' :: (dropped ++ kept) ++ rest ∧ value = '>' :: kept ∧
      dropped ≠ [] ∧ dropped.Unclosed ∧ kept ∈ [[], ['<'], ['\n']]

theorem unclosed_takeWhile_isBlank (s : Text) : Text.Unclosed (s.takeWhile isBlank) := by
  rintro c hmem rfl
  exact absurd (List.all_eq_true.mp List.all_takeWhile _ hmem) (by decide)

theorem eq_of_doubledEnd? {s behind : Text} (h : doubledEnd? s = some behind) :
    ∃ dropped : Text, s = '>' :: dropped ++ behind ∧ dropped ≠ [] ∧ dropped.Unclosed := by
  obtain ⟨t, rfl, ht⟩ := trimLeft_eq_of_doubledEnd? h
  have hsplit : t = t.takeWhile isBlank ++ trimLeft t := List.takeWhile_append_dropWhile.symm
  refine ⟨t.takeWhile isBlank ++ ['"', '>'], ?_, by simp, ?_⟩
  · rw [ht] at hsplit
    simpa using hsplit
  · exact List.forall_mem_append.mpr ⟨unclosed_takeWhile_isBlank t, by decide⟩

theorem mending_doubled : Mending doubled := by
  intro s value rest h
  obtain ⟨behind, hbehind, heq⟩ := Option.map_eq_some_iff.mp h
  cases heq
  obtain ⟨dropped, rfl, hne, hdropped⟩ := eq_of_doubledEnd? hbehind
  exact ⟨dropped, [], by simp, rfl, hne, hdropped, by decide⟩

theorem mending_doubledBeforeTag : Mending doubledBeforeTag := by
  intro s value rest h
  obtain ⟨behind, hbehind, hread⟩ := Option.bind_eq_some_iff.mp h
  obtain ⟨dropped, rfl, hne, hdropped⟩ := eq_of_doubledEnd? hbehind
  split at hread
  · next htag =>
      cases hread
      have hsplit : behind.takeWhile isBlank ++ trimLeft behind = behind :=
        List.takeWhile_append_dropWhile
      refine ⟨dropped ++ behind.takeWhile isBlank, ['<'], ?_, rfl, by simp [hne], ?_, by decide⟩
      · rw [htag] at hsplit
        simpa using hsplit.symm
      · exact List.forall_mem_append.mpr ⟨hdropped, unclosed_takeWhile_isBlank behind⟩
  · cases hread

theorem exists_eq_append_last {c : Char} {s : Text} (h : c ∈ s) :
    ∃ front : Text, s = front ++ c :: (s.reverse.takeWhile (· != c)).reverse := by
  obtain ⟨behind, front, hsplit, hbehind⟩ := List.eq_append_cons_of_mem (List.mem_reverse.mpr h)
  have htake : s.reverse.takeWhile (· != c) = behind := by
    rw [hsplit, takeWhile_append_stop (by simp), takeWhile_eq_self]
    intro d hd
    rw [bne_iff_ne]
    rintro rfl
    exact hbehind hd
  refine ⟨front.reverse, ?_⟩
  rw [htake, ← List.reverse_reverse s, hsplit]
  simp

theorem mending_doubledBeforeLine : Mending doubledBeforeLine := by
  intro s value rest h
  obtain ⟨behind, hbehind, hread⟩ := Option.bind_eq_some_iff.mp h
  obtain ⟨dropped, rfl, hne, hdropped⟩ := eq_of_doubledEnd? hbehind
  dsimp only at hread
  split at hread
  · next hline =>
      cases hread
      obtain ⟨front, hfront⟩ := exists_eq_append_last (List.elem_iff.mp hline)
      have hsplit := List.takeWhile_append_dropWhile (p := isBlank) (l := behind)
      have hclosed := unclosed_takeWhile_isBlank behind
      rw [hfront] at hsplit hclosed
      refine ⟨dropped ++ front, ['\n'], ?_, rfl, by simp [hne], ?_, by decide⟩
      · refine (congrArg ('>' :: dropped ++ ·) hsplit.symm).trans ?_
        simp [trimLeft]
      · exact List.forall_mem_append.mpr ⟨hdropped, (List.forall_mem_append.mp hclosed).1⟩
  · cases hread

theorem Mending.mends {scan : Scanner Text} (h : Mending scan) : scan.Mends := by
  intro s value rest hread
  obtain ⟨dropped, kept, rfl, rfl, -, -, hkept⟩ := h s value rest hread
  have hunopened : ∀ kept ∈ [[], ['<'], ['\n']], Text.Unopened kept := by decide
  exact ⟨'>', dropped ++ kept ++ rest, kept, by decide, rfl, rfl, hunopened kept hkept,
    List.suffix_append _ _⟩

theorem unopened_mendMarkup {s : Text} (h : s.Unopened) : (mendMarkup s).Unopened :=
  Scanner.replace_unopened mending_doubled.mends
    (Scanner.replace_unopened mending_doubledBeforeLine.mends
      (Scanner.replace_unopened mending_doubledBeforeTag.mends h))

/-- The end of a tag doubled by an empty attribute. -/
def Doubled (s : Text) : Prop :=
  ∃ before blanks behind, (∀ c ∈ blanks, isBlank c = true) ∧
    s = before ++ '>' :: (blanks ++ '"' :: '>' :: behind)

theorem Doubled.of_infix {s t : Text} (h : Doubled s) (hpart : s <:+: t) : Doubled t := by
  obtain ⟨before, blanks, behind, hblanks, rfl⟩ := h
  obtain ⟨u, v, rfl⟩ := hpart
  exact ⟨u ++ before, blanks, behind ++ v, hblanks, by simp⟩

theorem not_doubled_of_append {s t : Text} (h : ¬Doubled (s ++ t)) : ¬Doubled s ∧ ¬Doubled t :=
  ⟨fun hd => h (hd.of_infix (List.prefix_append s t).isInfix),
    fun hd => h (hd.of_infix (List.suffix_append s t).isInfix)⟩

theorem not_doubled_of_not_mem {s : Text} (h : '>' ∉ s) : ¬Doubled s := by
  rintro ⟨before, blanks, behind, -, rfl⟩
  simp at h

theorem doubledEnd?_eq_none {s t : Text} (h : ¬Doubled s) (ht : t <:+ s) :
    doubledEnd? t = none := by
  cases hdoubled : doubledEnd? t with
  | none => rfl
  | some behind =>
      obtain ⟨u, rfl, hu⟩ := trimLeft_eq_of_doubledEnd? hdoubled
      refine absurd (Doubled.of_infix ?_ ht.isInfix) h
      refine ⟨[], u.takeWhile isBlank, behind, ?_, ?_⟩
      · exact fun c hmem => List.all_eq_true.mp List.all_takeWhile c hmem
      · rw [← hu, trimLeft, List.takeWhile_append_dropWhile]
        rfl

theorem mendMarkup_of_not_doubled {s : Text} (h : ¬Doubled s) : mendMarkup s = s := by
  have htag : doubledBeforeTag.replace s = s :=
    Scanner.replace_of_none <| Scanner.cut?_eq_none fun t ht => by
      simp [doubledBeforeTag, doubledEnd?_eq_none h ht]
  have hline : doubledBeforeLine.replace s = s :=
    Scanner.replace_of_none <| Scanner.cut?_eq_none fun t ht => by
      simp [doubledBeforeLine, doubledEnd?_eq_none h ht]
  have hend : doubled.replace s = s :=
    Scanner.replace_of_none <| Scanner.cut?_eq_none fun t ht => by
      simp [doubled, doubledEnd?_eq_none h ht]
  rw [mendMarkup, htag, hline, hend]

/-! The cleanup as a whole. -/

theorem settle_induct {P : Text → Prop} (hpass : ∀ s, P s → P (cleanupPass s)) {s : Text}
    (h : P (cleanupPass s)) : P (settle s) := by
  induction hlength : s.length using Nat.strongRecOn generalizing s with
  | ind n ih =>
      rw [settle]
      split
      · next hshorter => exact ih _ (hlength ▸ hshorter) (hpass _ h) rfl
      · exact h

theorem unopened_settle {s : Text} (h : (removeStrays s).Unopened) : (settle s).Unopened := by
  have hpass : ∀ s : Text, s.Unopened → (cleanupPass s).Unopened := by
    intro s hs
    rw [cleanupPass, removeStrays_of_unopened hs]
    exact unopened_mendMarkup hs
  exact settle_induct hpass (unopened_mendMarkup h)

theorem unopened_settle_spell (tokens : List Token) : (settle (spell tokens)).Unopened :=
  unopened_settle (unopened_removeStrays_spell tokens)

theorem unopened_settle_of_unopened {s : Text} (h : s.Unopened) : (settle s).Unopened :=
  unopened_settle (by rwa [removeStrays_of_unopened h])

theorem settle_of_unopened {s : Text} (h : s.Unopened) (hdoubled : ¬Doubled s) :
    settle s = s := by
  have hpass : cleanupPass s = s := by
    rw [cleanupPass, removeStrays_of_unopened h, mendMarkup_of_not_doubled hdoubled]
  rw [settle, hpass, if_neg (Nat.lt_irrefl _)]

theorem settle_nil : settle [] = [] :=
  settle_of_unopened .nil (by rintro ⟨before, blanks, behind, -, heq⟩; simp at heq)

end Stencil.Template
