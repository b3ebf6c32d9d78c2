import Stencil.Proofs.Text.Blank
import Stencil.Template.Argument

namespace Stencil

open Text

namespace Text

theorem trim_blanks_append {t : Text} (h : ∀ c ∈ t, isBlank c = true) (s : Text) :
    trim (t ++ s) = trim s := by
  rw [trim, trim, trimLeft, trimLeft, List.dropWhile_append_of_pos h]

theorem trim_append_blanks {t : Text} (h : ∀ c ∈ t, isBlank c = true) (s : Text) :
    trim (s ++ t) = trim s := by
  rcases blank_or_eq_append s with hall | ⟨u, c, blanks, rfl, hc, hblanks⟩
  · have hboth : ∀ c ∈ s ++ t, isBlank c = true := List.forall_mem_append.mpr ⟨hall, h⟩
    have hnil : ∀ {u : Text}, (∀ c ∈ u, isBlank c = true) → trim u = [] := by
      intro u hu
      rw [trim, show trimLeft u = [] from dropWhile_eq_nil hu]
      rfl
    rw [hnil hboth, hnil hall]
  · have hboth : ∀ d ∈ blanks ++ t, isBlank d = true := List.forall_mem_append.mpr ⟨hblanks, h⟩
    rw [List.append_assoc, List.append_assoc, List.append_assoc, List.singleton_append,
      List.singleton_append, trim_append_solid hc hboth, trim_append_solid hc hblanks]

theorem exists_blanks_of_trim (s : Text) :
    ∃ before after : Text, (∀ c ∈ before, isBlank c = true) ∧ (∀ c ∈ after, isBlank c = true) ∧
      s = before ++ (trim s ++ after) := by
  rcases blank_or_eq_append s with hall | ⟨t, c, blanks, rfl, hc, hblanks⟩
  · have hnil : trim (s ++ []) = trim [] := trim_blanks_append hall []
    rw [List.append_nil] at hnil
    refine ⟨s, [], hall, (fun _ hmem => nomatch hmem), ?_⟩
    rw [hnil]
    exact (List.append_nil s).symm
  · have htrim : trim (t ++ [c] ++ blanks) = trimLeft t ++ [c] := by
      rw [List.append_assoc, List.singleton_append, trim_append_solid hc hblanks]
    have hsplit : t = t.takeWhile isBlank ++ trimLeft t := List.takeWhile_append_dropWhile.symm
    refine ⟨t.takeWhile isBlank, blanks, ?_, hblanks, ?_⟩
    · intro d hd
      exact List.all_eq_true.mp List.all_takeWhile d hd
    · rw [htrim, List.append_assoc (trimLeft t), ← List.append_assoc, ← hsplit,
        List.append_assoc]

end Text

namespace Template

/-! Splitting at a separator outside quotes and parentheses. -/

/-- A character that neither opens nor closes quotes or parentheses. -/
def Loose (c : Char) : Prop := c ≠ '"' ∧ c ≠ '\'' ∧ c ≠ '(' ∧ c ≠ ')'

instance (c : Char) : Decidable (Loose c) :=
  inferInstanceAs (Decidable (c ≠ '"' ∧ c ≠ '\'' ∧ c ≠ '(' ∧ c ≠ ')'))

/-- A text that a splitting outside quotes and inside `depth` parentheses reads as part of one piece,
whatever stands before and behind it. -/
def OnePieceAt (sep : Char) (depth : Nat) (s : Text) : Prop :=
  ∀ part rest, splitOutsideFrom sep none depth part (s ++ rest) =
    splitOutsideFrom sep none depth (s.reverse ++ part) rest

def OnePiece (sep : Char) (s : Text) : Prop := ∀ depth, OnePieceAt sep depth s

section

variable {sep quote : Char} {depth : Nat} {s t : Text}

namespace OnePieceAt

theorem nil : OnePieceAt sep depth [] := fun _ _ => rfl

theorem append (hs : OnePieceAt sep depth s) (ht : OnePieceAt sep depth t) :
    OnePieceAt sep depth (s ++ t) := by
  intro part rest
  rw [List.append_assoc, hs, ht, List.reverse_append, List.append_assoc]

theorem loose {c : Char} (hc : Loose c) (hsep : c ≠ sep ∨ depth ≠ 0) :
    OnePieceAt sep depth [c] := by
  obtain ⟨hdouble, hsingle, hopen, hclose⟩ := hc
  intro part rest
  rcases hsep with hsep | hdepth
  · simp [splitOutsideFrom, hdouble, hsingle, hopen, hclose, hsep]
  · simp [splitOutsideFrom, hdouble, hsingle, hopen, hclose, hdepth]

theorem of_loose (h : ∀ c ∈ s, Loose c ∧ (c ≠ sep ∨ depth ≠ 0)) : OnePieceAt sep depth s := by
  induction s with
  | nil => exact nil
  | cons c s ih =>
      obtain ⟨hc, hs⟩ := List.forall_mem_cons.mp h
      exact append (loose hc.1 hc.2) (ih hs)

theorem parentheses (h : OnePieceAt sep (depth + 1) s) :
    OnePieceAt sep depth ('(' :: (s ++ [')'])) := by
  intro part rest
  have hopen : splitOutsideFrom sep none depth part ('(' :: (s ++ ([')'] ++ rest))) =
      splitOutsideFrom sep none (depth + 1) ('(' :: part) (s ++ ([')'] ++ rest)) := by
    simp [splitOutsideFrom]
  rw [List.cons_append, List.append_assoc, hopen, h]
  simp [splitOutsideFrom]

theorem splitOutside_eq (h : OnePieceAt sep 0 s) : splitOutside sep s = [s] := by
  have hsplit := h [] []
  rw [List.append_nil] at hsplit
  rw [splitOutside, hsplit, splitOutsideFrom]
  simp

theorem splitOutside_append (h : OnePieceAt sep 0 s) (hsep : Loose sep) (rest : Text) :
    splitOutside sep (s ++ sep :: rest) = s :: splitOutside sep rest := by
  obtain ⟨hdouble, hsingle, hopen, -⟩ := hsep
  rw [splitOutside, h]
  simp [splitOutsideFrom, splitOutside, hdouble, hsingle, hopen]

end OnePieceAt

theorem splitOutsideFrom_quoted (h : quote ∉ s) (depth : Nat) (part rest : Text) :
    splitOutsideFrom sep (some quote) depth part (s ++ quote :: rest) =
      splitOutsideFrom sep none depth (quote :: (s.reverse ++ part)) rest := by
  induction s generalizing part with
  | nil => simp [splitOutsideFrom]
  | cons c s ih =>
      rw [List.mem_cons, not_or] at h
      have hc : (c == quote) = false := by simpa using fun heq => h.1 heq.symm
      simp [splitOutsideFrom, hc, ih h.2]

namespace OnePiece

theorem append (hs : OnePiece sep s) (ht : OnePiece sep t) : OnePiece sep (s ++ t) :=
  fun depth => (hs depth).append (ht depth)

theorem of_loose (h : ∀ c ∈ s, Loose c ∧ c ≠ sep) : OnePiece sep s := by
  intro depth
  apply OnePieceAt.of_loose
  intro c hc
  exact ⟨(h c hc).1, .inl (h c hc).2⟩

theorem quoted (hquote : quote = '"' ∨ quote = '\'') (h : quote ∉ s) :
    OnePiece sep (quote :: (s ++ [quote])) := by
  intro depth part rest
  have hopen : splitOutsideFrom sep none depth part (quote :: (s ++ quote :: rest)) =
      splitOutsideFrom sep (some quote) depth (quote :: part) (s ++ quote :: rest) := by
    rcases hquote with rfl | rfl <;> simp [splitOutsideFrom]
  have hsplit : quote :: (s ++ [quote]) ++ rest = quote :: (s ++ quote :: rest) := by simp
  rw [hsplit, hopen, splitOutsideFrom_quoted h]
  simp

theorem splitOutside_eq (h : OnePiece sep s) : splitOutside sep s = [s] := (h 0).splitOutside_eq

theorem splitOutside_append (h : OnePiece sep s) (hsep : Loose sep) (rest : Text) :
    splitOutside sep (s ++ sep :: rest) = s :: splitOutside sep rest :=
  (h 0).splitOutside_append hsep rest

end OnePiece

end

/-! Blanks around what is split make no difference. -/

theorem splitOutsideFrom_eq_modifyHead (sep : Char) (quote : Option Char) (depth : Nat)
    (part s : Text) :
    splitOutsideFrom sep quote depth part s =
      (splitOutsideFrom sep quote depth [] s).modifyHead (part.reverse ++ ·) := by
  induction s generalizing quote depth part with
  | nil => simp [splitOutsideFrom]
  | cons c s ih =>
      have hstep : ∀ quote depth, splitOutsideFrom sep quote depth (c :: part) s =
          (splitOutsideFrom sep quote depth [c] s).modifyHead (part.reverse ++ ·) := by
        intro quote depth
        rw [ih _ _ (c :: part), ih _ _ [c], List.modifyHead_modifyHead]
        congr 1
        funext t
        simp
      cases quote with
      | some q =>
          rw [splitOutsideFrom, splitOutsideFrom]
          exact hstep _ _
      | none =>
          simp only [splitOutsideFrom]
          split
          · exact hstep _ _
          · split
            · exact hstep _ _
            · split
              · exact hstep _ _
              · split
                · simp
                · exact hstep _ _

theorem splitOutsideFrom_blanks {sep : Char} (hsep : isBlank sep = false) {blanks : Text}
    (h : ∀ c ∈ blanks, isBlank c = true) (quote : Option Char) (depth : Nat) (part : Text) :
    splitOutsideFrom sep quote depth part blanks = [part.reverse ++ blanks] := by
  induction blanks generalizing quote part with
  | nil => simp [splitOutsideFrom]
  | cons c blanks ih =>
      obtain ⟨hc, hblanks⟩ := List.forall_mem_cons.mp h
      have hother : ∀ d, isBlank d = false → (c == d) = false := by
        intro d hd
        rw [beq_eq_false_iff_ne]
        rintro rfl
        rw [hc] at hd
        cases hd
      cases quote with
      | some q =>
          rw [splitOutsideFrom, ih hblanks, List.reverse_cons, List.append_assoc,
            List.singleton_append]
      | none =>
          simp [splitOutsideFrom, hother '"' (by decide), hother '\'' (by decide),
            hother '(' (by decide), hother ')' (by decide), hother sep hsep, ih hblanks]

theorem splitOutsideFrom_append_blanks {sep : Char} (hsep : isBlank sep = false) {blanks : Text}
    (h : ∀ c ∈ blanks, isBlank c = true) (quote : Option Char) (depth : Nat) (part s : Text) :
    ∃ init last, splitOutsideFrom sep quote depth part s = init ++ [last] ∧
      splitOutsideFrom sep quote depth part (s ++ blanks) = init ++ [last ++ blanks] := by
  induction s generalizing quote depth part with
  | nil =>
      refine ⟨[], part.reverse, by rw [splitOutsideFrom]; rfl, ?_⟩
      exact splitOutsideFrom_blanks hsep h quote depth part
  | cons c s ih =>
      cases quote with
      | some q =>
          rw [List.cons_append, splitOutsideFrom, splitOutsideFrom]
          exact ih _ _ _
      | none =>
          simp only [List.cons_append, splitOutsideFrom]
          by_cases hquote : (c == '"' || c == '\'') = true
          · rw [if_pos hquote, if_pos hquote]
            exact ih _ _ _
          rw [if_neg hquote, if_neg hquote]
          by_cases hopen : (c == '(') = true
          · rw [if_pos hopen, if_pos hopen]
            exact ih _ _ _
          rw [if_neg hopen, if_neg hopen]
          by_cases hclose : (c == ')' && depth != 0) = true
          · rw [if_pos hclose, if_pos hclose]
            exact ih _ _ _
          rw [if_neg hclose, if_neg hclose]
          by_cases hhere : (c == sep && depth == 0) = true
          · rw [if_pos hhere, if_pos hhere]
            obtain ⟨init, last, hinit, hblanks⟩ := ih none depth []
            exact ⟨part.reverse :: init, last, by rw [hinit]; rfl, by rw [hblanks]; rfl⟩
          · rw [if_neg hhere, if_neg hhere]
            exact ih _ _ _

theorem map_trim_modifyHead {blanks : Text} (h : ∀ c ∈ blanks, isBlank c = true)
    (parts : List Text) : (parts.modifyHead (blanks ++ ·)).map trim = parts.map trim := by
  cases parts with
  | nil => rfl
  | cons part parts =>
      rw [List.modifyHead_cons, List.map_cons, List.map_cons, trim_blanks_append h]

theorem map_trim_splitOutside_trim {sep : Char} (hsep : isBlank sep = false) (s : Text) :
    (splitOutside sep (trim s)).map trim = (splitOutside sep s).map trim := by
  obtain ⟨before, after, hbefore, hafter, heq⟩ := exists_blanks_of_trim s
  have hloose : ∀ c ∈ before, Loose c ∧ c ≠ sep := by
    intro c hc
    have hne : ∀ d, isBlank d = false → c ≠ d := fun _ => ne_of_holds (hbefore c hc)
    exact ⟨⟨hne _ (by decide), hne _ (by decide), hne _ (by decide), hne _ (by decide)⟩,
      hne sep hsep⟩
  obtain ⟨init, last, hinit, hlast⟩ :=
    splitOutsideFrom_append_blanks hsep hafter none 0 [] (trim s)
  have hwhole : (splitOutside sep (before ++ (trim s ++ after))).map trim =
      (splitOutside sep (trim s)).map trim := by
    rw [splitOutside, splitOutside, OnePiece.of_loose hloose 0, splitOutsideFrom_eq_modifyHead,
      List.append_nil, List.reverse_reverse, map_trim_modifyHead hbefore, hlast, hinit,
      List.map_append, List.map_append, List.map_singleton, List.map_singleton,
      trim_append_blanks hafter]
  rw [← heq] at hwhole
  exact hwhole.symm

theorem splitArguments_trim (s : Text) : splitArguments (trim s) = splitArguments s := by
  rw [splitArguments, splitArguments, trimmed_trim, map_trim_splitOutside_trim (by decide)]

end Template

end Stencil
