import Mathlib.Data.List.Infix
import Stencil.Proofs.Eval.Term
import Stencil.Proofs.Text.Split

namespace Stencil.Template

open Stencil.Text

/-! Arguments joined with commas, and split again. -/

variable {sep c : Char} {depth : Nat} {s t u : Text} {args : List Text}

/-- Each quote of `s` is closed by the next one of its kind, and `u` is what stands outside
quotes. -/
inductive Outside : Text → Text → Prop
  | nil : Outside [] []
  | char {c : Char} {s u : Text} (hdouble : c ≠ '"') (hsingle : c ≠ '\'') (h : Outside s u) :
      Outside (c :: s) (c :: u)
  | quoted (q : Quotation) {s u : Text} (h : Outside s u) :
      Outside (q.quote :: (q.content ++ q.quote :: s)) u

/-- Behind `depth` open parentheses `u` never closes one that is not open, in the end all are
closed, and a separator stands only where one is open. -/
@[mk_iff]
structure Matched (sep : Char) (depth : Nat) (u : Text) : Prop where
  nonneg : ∀ t ∈ u.inits, t.count ')' ≤ depth + t.count '('
  balanced : u.count ')' = depth + u.count '('
  sheltered : ∀ t ∈ u.inits, t ++ [sep] <+: u → t.count ')' < depth + t.count '('

instance (sep : Char) (depth : Nat) (u : Text) : Decidable (Matched sep depth u) :=
  decidable_of_iff _ (matched_iff sep depth u).symm

/-- Every quote is closed, parentheses outside quotes are balanced, and no separator stands outside
quotes and parentheses. -/
def ClosedFor (sep : Char) (s : Text) : Prop := ∃ u, Outside s u ∧ Matched sep 0 u

/-- A text that can stand as one argument of a call. -/
structure IsArgument (s : Text) : Prop where
  ne_nil : s ≠ []
  trimmed : Trimmed s
  closed : ClosedFor ',' s

/-- One text or more with commas between them, and any blanks around the commas. -/
inductive Joins : List Text → Text → Prop
  | one (s : Text) : Joins [s] s
  | cons (s : Text) (before after : Blanks) {args : List Text} {t : Text} (h : Joins args t) :
      Joins (s :: args) (s ++ (before.text ++ ',' :: (after.text ++ t)))

/-! Nothing is lost where a text is split. -/

theorem splitOutsideFrom_ne_nil (sep : Char) (quote : Option Char) (depth : Nat)
    (part s : Text) : splitOutsideFrom sep quote depth part s ≠ [] := by
  fun_induction splitOutsideFrom sep quote depth part s with
  | case1 => exact List.cons_ne_nil _ _
  | case6 => exact List.cons_ne_nil _ _
  | _ =>
      rename_i ih
      exact ih

theorem join_splitOutsideFrom (sep : Char) (quote : Option Char) (depth : Nat) (part s : Text) :
    join [sep] (splitOutsideFrom sep quote depth part s) = part.reverse ++ s := by
  fun_induction splitOutsideFrom sep quote depth part s with
  | case1 part => rw [join, List.append_nil]
  | case6 depth part c s _ _ _ hsep ih =>
      have hc : c = sep := by simpa using (by simpa using hsep : c = sep ∧ depth = 0).1
      rw [join_cons (splitOutsideFrom_ne_nil _ _ _ _ _), ih, hc]
      simp
  | _ =>
      rename_i ih
      rw [ih]
      simp

/-! A closed text is read in one piece: quotes are passed over, and the depth is zero again behind
it. -/

theorem Matched.tail {depth' : Nat} (h : Matched sep depth (c :: u))
    (hdepth : depth + [c].count '(' = depth' + [c].count ')') : Matched sep depth' u where
  nonneg t ht := by
    have hfront := h.nonneg (c :: t) (by simpa using ht)
    rw [← List.singleton_append, List.count_append, List.count_append] at hfront
    omega
  balanced := by
    have hwhole := h.balanced
    rw [← List.singleton_append, List.count_append, List.count_append] at hwhole
    omega
  sheltered t ht hsep := by
    have hfront := h.sheltered (c :: t) (by simpa using ht)
      ((List.prefix_cons_inj c).mpr hsep)
    rw [← List.singleton_append, List.count_append, List.count_append] at hfront
    omega

theorem Matched.step (hdouble : c ≠ '"') (hsingle : c ≠ '\'') (h : Matched sep depth (c :: u)) :
    ∃ depth', Matched sep depth' u ∧ ∀ part rest, splitOutsideFrom sep none depth part (c :: rest) =
      splitOutsideFrom sep none depth' (c :: part) rest := by
  by_cases hopen : c = '('
  · subst hopen
    refine ⟨depth + 1, h.tail rfl, fun part rest => ?_⟩
    simp [splitOutsideFrom]
  by_cases hclose : c = ')'
  · subst hclose
    have hpos : 1 ≤ depth := h.nonneg [')'] (by simp)
    refine ⟨depth - 1, h.tail ?_, fun part rest => ?_⟩
    · simp
      omega
    · simp [splitOutsideFrom, Nat.ne_of_gt hpos]
  · have hsep : c ≠ sep ∨ depth ≠ 0 := by
      refine or_iff_not_imp_left.mpr fun heq => ?_
      have hfront := h.sheltered [] (by simp) (by simp [Classical.not_not.mp heq])
      exact Nat.ne_of_gt hfront
    refine ⟨depth, h.tail ?_, fun part rest => ?_⟩
    · simp [hopen, hclose]
    · exact OnePieceAt.loose ⟨hdouble, hsingle, hopen, hclose⟩ hsep part rest

theorem Outside.unquoted_append (h : Outside t u) (hs : ∀ c ∈ s, c ≠ '"' ∧ c ≠ '\'') :
    Outside (s ++ t) (s ++ u) := by
  induction s with
  | nil => exact h
  | cons c s ih =>
      obtain ⟨hc, hrest⟩ := List.forall_mem_cons.mp hs
      exact .char hc.1 hc.2 (ih hrest)

theorem Outside.splitOutsideFrom_eq (h : Outside s u) (hu : Matched sep depth u)
    (part rest : Text) :
    splitOutsideFrom sep none depth part (s ++ rest) =
      splitOutsideFrom sep none 0 (s.reverse ++ part) rest := by
  -- Along the text any depth can come up; what is left of it still has to match that depth.
  induction h generalizing depth part with
  | nil =>
      have hdepth : 0 = depth := hu.balanced
      rw [← hdepth]
      rfl
  | @char c s u hdouble hsingle h ih =>
      obtain ⟨depth', hu', hstep⟩ := hu.step hdouble hsingle
      rw [List.cons_append, hstep, ih hu']
      simp
  | @quoted q s u h ih =>
      have hpiece : OnePiece sep (q.quote :: (q.content ++ [q.quote])) :=
        .quoted q.isQuote q.not_mem
      have hsplit : q.quote :: (q.content ++ q.quote :: s) ++ rest =
          q.quote :: (q.content ++ [q.quote]) ++ (s ++ rest) := by simp
      rw [hsplit, hpiece depth, ih hu]
      simp

theorem ClosedFor.onePieceAt (h : ClosedFor sep s) : OnePieceAt sep 0 s := by
  obtain ⟨u, hs, hu⟩ := h
  exact hs.splitOutsideFrom_eq hu

/-! What is joined is one text that begins and ends with its arguments. -/

theorem joins_join (hne : args ≠ []) : Joins args (join [',', ' '] args) := by
  induction args with
  | nil => exact absurd rfl hne
  | cons s args ih =>
      cases args with
      | nil => exact .one s
      | cons next args =>
          have hjoin := ih (List.cons_ne_nil _ _)
          rw [join_cons (List.cons_ne_nil _ _), List.append_assoc]
          exact .cons s ⟨[], List.forall_mem_nil _⟩ ⟨[' '], by decide⟩ hjoin

namespace Joins

theorem ends (h : Joins args t) (hargs : ∀ s ∈ args, IsArgument s) : t ≠ [] ∧ Trimmed t := by
  induction h with
  | one s =>
      have hs := hargs s List.mem_cons_self
      exact ⟨hs.ne_nil, hs.trimmed⟩
  | @cons s before after args t h ih =>
      obtain ⟨hs, hrest⟩ := List.forall_mem_cons.mp hargs
      obtain ⟨hne, htrimmed⟩ := ih hrest
      obtain ⟨c, s, rfl⟩ := List.exists_cons_of_ne_nil hs.ne_nil
      have hsplit : c :: s ++ (before.text ++ ',' :: (after.text ++ t)) =
          c :: (s ++ (before.text ++ ',' :: after.text) ++ t) := by simp
      rw [hsplit]
      exact ⟨List.cons_ne_nil _ _, trimmed_cons_append hs.trimmed.isBlank_head htrimmed hne _⟩

theorem map_trim_splitOutside (h : Joins args t) (hargs : ∀ s ∈ args, IsArgument s)
    (blanks : Blanks) : (splitOutside ',' (blanks.text ++ t)).map trim = args := by
  induction h generalizing blanks with
  | one s =>
      have hs := hargs s List.mem_cons_self
      have hsplit := map_trim_splitOutside_padded blanks ⟨[], List.forall_mem_nil _⟩
        hs.closed.onePieceAt hs.trimmed
      rwa [List.append_nil] at hsplit
  | @cons s before after args t h ih =>
      obtain ⟨hs, hrest⟩ := List.forall_mem_cons.mp hargs
      have hjoin : blanks.text ++ (s ++ (before.text ++ ',' :: (after.text ++ t))) =
          blanks.text ++ (s ++ before.text) ++ ',' :: (after.text ++ t) := by simp
      rw [hjoin, map_trim_splitOutside_padded_append blanks before hs.closed.onePieceAt hs.trimmed,
        ih hrest after]

theorem splitArguments_eq (h : Joins args t) (hargs : ∀ s ∈ args, IsArgument s) :
    splitArguments t = args := by
  have hends := h.ends hargs
  have hsome : (trim t).isEmpty = false := by
    rw [hends.2]
    simpa using hends.1
  rw [splitArguments, hsome, if_neg Bool.false_ne_true]
  exact h.map_trim_splitOutside hargs ⟨[], List.forall_mem_nil _⟩

theorem parseCall_eq (h : Joins args t) (hargs : ∀ s ∈ args, IsArgument s) (name : CallName) :
    parseCall (name.text ++ '(' :: (t ++ [')'])) = some (name.text, t) := by
  rw [parseCall_invocation, (h.ends hargs).2]

end Joins

/-- The parts of a text join to the text again. Closed arguments joined with commas are what the
join is split into, and a call of the join is read as its name and the join. -/
theorem split_inverts_join :
    (∀ (sep : Char) (s : Text), join [sep] (splitOutside sep s) = s) ∧
      ∀ args : List Text, args ≠ [] → (∀ s ∈ args, IsArgument s) →
        Joins args (join [',', ' '] args) ∧
          ∀ t, Joins args t → splitArguments t = args ∧
            ∀ name : CallName,
              parseCall (name.text ++ '(' :: (t ++ [')'])) = some (name.text, t) := by
  refine ⟨fun sep s => join_splitOutsideFrom sep none 0 [] s, fun args hne hargs => ?_⟩
  refine ⟨joins_join hne, fun t h => ?_⟩
  exact ⟨h.splitArguments_eq hargs, h.parseCall_eq hargs⟩

theorem split_inverts_join_quoted :
    let args : List Text := ["\"a, (b\"".toList, "add(1, ')\"')".toList]
    let t : Text := "\"a, (b\"\n ,add(1, ')\"')".toList
    args ≠ [] ∧ (∀ s ∈ args, IsArgument s) ∧ Joins args t ∧ splitArguments t = args ∧
      parseCall ("empty?".toList ++ '(' :: (t ++ [')'])) = some ("empty?".toList, t) := by
  intro args t
  have hne : args ≠ [] := List.cons_ne_nil _ _
  have hargs : ∀ s ∈ args, IsArgument s := by
    refine List.forall_mem_cons.mpr ⟨?_, List.forall_mem_singleton.mpr ?_⟩
    · refine ⟨by decide, rfl, [], ?_, by decide⟩
      exact .quoted ⟨'"', "a, (b".toList, .inl rfl, by decide⟩ .nil
    · have hquoted : Outside "')\"')".toList [')'] :=
        .quoted ⟨'\'', ")\"".toList, .inr rfl, by decide⟩ (.char (by decide) (by decide) .nil)
      refine ⟨by decide, rfl, "add(1, )".toList, ?_, by decide⟩
      exact hquoted.unquoted_append (by decide : ∀ c ∈ "add(1, ".toList, c ≠ '"' ∧ c ≠ '\'')
  have hjoins : Joins args t :=
    .cons _ ⟨['\n', ' '], by decide⟩ ⟨[], List.forall_mem_nil _⟩ (.one _)
  obtain ⟨-, hinverts⟩ := split_inverts_join.2 args hne hargs
  obtain ⟨hsplit, hcall⟩ := hinverts t hjoins
  exact ⟨hne, hargs, hjoins, hsplit, hcall ⟨'e', "mpty".toList, true, rfl, by decide⟩⟩

end Stencil.Template
