import Stencil.Proofs.Token.Directive

namespace Stencil.Template

open Stencil.Text

/-! Every pattern of the template language reads whole directives or nothing. -/

class Keyword (word : Text) : Prop where
  mem : word ∈ controlWords

namespace Keyword

instance : Keyword "if".toList := ⟨by decide⟩
instance : Keyword "else".toList := ⟨by decide⟩
instance : Keyword "endif".toList := ⟨by decide⟩
instance : Keyword "for".toList := ⟨by decide⟩
instance : Keyword "endfor".toList := ⟨by decide⟩
instance : Keyword "range".toList := ⟨by decide⟩
instance : Keyword "end".toList := ⟨by decide⟩
instance : Keyword "block".toList := ⟨by decide⟩
instance : Keyword "endblock".toList := ⟨by decide⟩
instance : Keyword "extends".toList := ⟨by decide⟩

theorem ne_nil {word : Text} (h : Keyword word) : word ≠ [] :=
  (by decide : ∀ word ∈ controlWords, word ≠ []) word h.mem

theorem isBlank_eq_false {word : Text} (h : Keyword word) : ∀ c ∈ word, isBlank c = false :=
  (by decide : ∀ word ∈ controlWords, ∀ c ∈ word, isBlank c = false) word h.mem

theorem braceless {word : Text} (h : Keyword word) : word.Braceless :=
  (by decide : ∀ word ∈ controlWords, word.Braceless) word h.mem

theorem not_mem_close {word : Text} (h : Keyword word) : '}' ∉ word :=
  fun hmem => (h.braceless _ hmem).2 rfl

end Keyword

theorem isControl_of_head? {word inside : Text} [hword : Keyword word]
    (h : (words inside).head? = some word) : isControl inside = true := by
  simp only [isControl, h, List.elem_eq_mem, hword.mem, decide_true]

theorem head?_ne_of_isControl {word inside : Text} [hword : Keyword word]
    (h : isControl inside = false) : (words inside).head? ≠ some word := by
  intro hhead
  rw [isControl_of_head? hhead] at h
  cases h

section

variable {word inside : Text} [hword : Keyword word]

instance : directive.Whole where
  toAtMarks := atMarks_of_openMark? fun s h => by simp [directive, h]
  reads h := Scanner.readsWhole_of _ (directive_mark h)

theorem directive_onMark (h : inside.Unclosed) :
    directive.onMark inside = insideText? 0 inside :=
  Scanner.onMark_eq (directive_mark h)

instance : (tag word).Whole where
  toAtMarks := atMarks_of_openMark? fun s h => by simp [tag, openWord?_eq_none h]
  reads h := Scanner.readsWhole_of _ (tag_mark hword.not_mem_close h)

theorem tag_onMark (h : inside.Unclosed) : (tag word).onMark inside = tagIn word inside :=
  Scanner.onMark_eq (tag_mark hword.not_mem_close h)

theorem tag_onMark_of_head? (h : inside.Unclosed) (hhead : (words inside).head? ≠ some word) :
    (tag word).onMark inside = none := by
  rw [tag_onMark h]
  cases htag : tagIn word inside with
  | none => rfl
  | some u =>
      exact absurd (head?_words_of_tagIn hword.isBlank_eq_false hword.ne_nil htag) hhead

theorem tag_onMark_padded (word : Text) [hword : Keyword word] :
    (tag word).onMark (padded word) = some () :=
  Scanner.onMark_eq fun rest => by
    rw [tag_mark hword.not_mem_close (enclosed_padded hword.braceless).unclosed,
      tagIn_padded hword.isBlank_eq_false hword.ne_nil]

instance : (operand word).Whole where
  toAtMarks := atMarks_of_openMark? fun s h => by simp [operand, openWord?_eq_none h]
  reads h := Scanner.readsWhole_of _ (operand_mark hword.not_mem_close h)

theorem operand_onMark (h : inside.Unclosed) :
    (operand word).onMark inside = operandIn word inside :=
  Scanner.onMark_eq (operand_mark hword.not_mem_close h)

theorem operand_onMark_of_head? (h : inside.Unclosed)
    (hhead : (words inside).head? ≠ some word) : (operand word).onMark inside = none := by
  rw [operand_onMark h]
  cases hoperand : operandIn word inside with
  | none => rfl
  | some u =>
      exact absurd (head?_words_of_operandIn hword.isBlank_eq_false hword.ne_nil hoperand) hhead

instance : forOpener.Whole where
  toAtMarks := atMarks_of_openMark? fun s h => by simp [forOpener, forHead?_eq_none h]
  reads h := Scanner.readsWhole_of _ (forOpener_mark h)

theorem forOpener_onMark (h : inside.Unclosed) :
    forOpener.onMark inside = forOpenerIn inside :=
  Scanner.onMark_eq (forOpener_mark h)

theorem forOpener_onMark_of_head? (h : inside.Unclosed)
    (hhead : (words inside).head? ≠ some "for".toList) : forOpener.onMark inside = none := by
  rw [forOpener_onMark h]
  cases hfor : forOpenerIn inside with
  | none => rfl
  | some u => exact absurd (head?_words_of_forOpenerIn hfor) hhead

end

/-! Names in quotes. -/

/-- Whether a text can be written as a name in quotes of either kind. -/
def Quotable (name : Text) : Prop := ∀ c ∈ name, c ≠ '"' ∧ c ≠ '\''

instance (name : Text) : Decidable (Quotable name) :=
  inferInstanceAs (Decidable (∀ c ∈ name, c ≠ '"' ∧ c ≠ '\''))

def quotedIn (word name : Text) : Text := padded (word ++ " \"".toList ++ name ++ ['"'])

theorem eq_append_of_not_quotable {s : Text} (h : ¬Quotable s) :
    ∃ name q rest, s = name ++ q :: rest ∧ Quotable name ∧ ¬Quotable [q] := by
  induction s with
  | nil => exact absurd (fun _ hmem => nomatch hmem) h
  | cons c s ih =>
      by_cases hc : Quotable [c]
      · have hhead := hc c List.mem_cons_self
        have hs : ¬Quotable s := fun hs => h (List.forall_mem_cons.mpr ⟨hhead, hs⟩)
        obtain ⟨name, q, rest, rfl, hname, hq⟩ := ih hs
        exact ⟨c :: name, q, rest, rfl, List.forall_mem_cons.mpr ⟨hhead, hname⟩, hq⟩
      · exact ⟨[], c, s, rfl, by decide, hc⟩

def quoted? : Scanner Text := fun s => do
  let isQuote (c : Char) : Bool := c == '"' || c == '\''
  match s with
  | q :: s =>
      let name := s.takeWhile (!isQuote ·)
      match s.dropWhile (!isQuote ·) with
      | _ :: s =>
          if isQuote q && !name.isEmpty then some (name, ← closeMark? (trimLeft s)) else none
      | [] => none
  | [] => none

theorem quotedName_eq_bind (word s : Text) :
    quotedName word s = ((openWord? word s).bind blanks?).bind quoted? := by
  rw [Option.bind_assoc]
  rfl

theorem quoted?_of_quotable {c : Char} (h : Quotable [c]) (s : Text) :
    quoted? (c :: s) = none := by
  have hc : (c == '"' || c == '\'') = false := by simpa [Quotable] using h
  simp only [quoted?, hc, Bool.false_and, Bool.false_eq_true, if_false]
  split <;> rfl

theorem quoted?_append {c q : Char} {name : Text} (hc : ¬Quotable [c]) (hname : Quotable name)
    (hq : ¬Quotable [q]) (s : Text) :
    quoted? (c :: (name ++ q :: s)) =
      if name = [] then none else (closeMark? (trimLeft s)).map (name, ·) := by
  have hquote : ∀ {d : Char}, ¬Quotable [d] → (d == '"' || d == '\'') = true := by
    intro d hd
    simpa [Quotable, Classical.or_iff_not_imp_left] using hd
  have hnone : ∀ d ∈ name, (!(d == '"' || d == '\'')) = true := by
    intro d hmem
    have hd := hname d hmem
    simp [hd.1, hd.2]
  have htake : (name ++ q :: s).takeWhile (fun d => !(d == '"' || d == '\'')) = name := by
    rw [takeWhile_append_stop (by simp [hquote hq]), takeWhile_eq_self hnone]
  have hdrop : (name ++ q :: s).dropWhile (fun d => !(d == '"' || d == '\'')) = q :: s := by
    rw [dropWhile_append_stop (by simp [hquote hq]), dropWhile_eq_nil hnone, List.nil_append]
  simp only [quoted?, htake, hdrop, hquote hc, Bool.true_and]
  cases name with
  | nil => rfl
  | cons d name => cases closeMark? (trimLeft s) <;> rfl

section

variable {word : Text} [hword : Keyword word]

instance : (quotedName word).AtMarks :=
  atMarks_of_openMark? fun s h => by simp [quotedName, openWord?_eq_none h]

/-- A name in quotes may run on behind the directive, so nothing is said of directives that begin
with the word. -/
theorem quotedName_mark_of_head? {inside : Text} (hhead : (words inside).head? ≠ some word)
    (rest : Text) : quotedName word (mark inside ++ rest) = none := by
  have hnone : (do blanks? (← openWord? word (mark inside ++ rest))) = none := by
    rw [openWord?_mark hword.not_mem_close]
    cases hdrop : dropStart? word (trimLeft inside) with
    | none => rfl
    | some x =>
        simp only [Option.map_some, bind, Option.bind, blanks?_body, Option.map_eq_none_iff]
        cases hblanks : blanks? x with
        | none => rfl
        | some y =>
            have hbegins := beginsBlank_of_blanks? hblanks
            exact absurd (head?_words_of_dropStart? hword.isBlank_eq_false hword.ne_nil hdrop
              hbegins) hhead
  simp only [bind, Option.bind_eq_none_iff] at hnone
  simp only [quotedName, bind, Option.bind_eq_none_iff]
  intro x hx y hy
  rw [hnone x hx] at hy
  cases hy

theorem quotedName_mark_quotedIn {name : Text} (hname : Quotable name) (hne : name ≠ [])
    (rest : Text) :
    quotedName word (mark (quotedIn word name) ++ rest) = some (name, rest) := by
  obtain ⟨c, tail, hcons⟩ := List.exists_cons_of_ne_nil hword.ne_nil
  have hsolid : isBlank c = false :=
    hword.isBlank_eq_false c (hcons ▸ List.mem_cons_self)
  have hhead : trimLeft (quotedIn word name) = word ++ ' ' :: '"' :: (name ++ ['"', ' ']) := by
    have hassoc : word ++ " \"".toList ++ name ++ ['"'] =
        c :: (tail ++ " \"".toList ++ name ++ ['"']) := by simp [hcons]
    rw [quotedIn, hassoc, trimLeft_padded hsolid]
    simp [hcons]
  have hopen : openWord? word (mark (quotedIn word name) ++ rest) =
      some (' ' :: '"' :: (name ++ '"' :: (' ' :: '}' :: '}' :: rest))) := by
    rw [openWord?_mark hword.not_mem_close, hhead, dropStart?_append_self]
    simp
  have hclose : closeMark? (trimLeft (' ' :: '}' :: '}' :: rest)) = some rest := by
    rw [trimLeft_cons_blank (by decide), trimLeft_cons_solid (by decide)]
    rfl
  rw [quotedName_eq_bind, hopen, Option.bind_some,
    blanks?_blank_cons (show isBlank '"' = false by decide), Option.bind_some,
    quoted?_append (by decide) hname (by decide), if_neg hne, hclose]
  rfl

def OpensQuote : Text → Prop
  | [] => False
  | q :: name => ¬Quotable [q] ∧ Quotable name

instance : (s : Text) → Decidable (OpensQuote s)
  | [] => inferInstanceAs (Decidable False)
  | q :: name => inferInstanceAs (Decidable (¬Quotable [q] ∧ Quotable name))

/-- The name in quotes that a directive of a word holds is not ended in it. -/
def LeavesQuote (word inside : Text) : Prop :=
  ∃ s ∈ (dropStart? word (trimLeft inside)).bind blanks?, OpensQuote s

instance (word inside : Text) : Decidable (LeavesQuote word inside) :=
  inferInstanceAs (Decidable (∃ s ∈ (dropStart? word (trimLeft inside)).bind blanks?, OpensQuote s))

theorem quoted?_body {s : Text} (hs : s.Unclosed) (h : ¬OpensQuote s) :
    ∃ value : Option Text, ∀ rest, quoted? (s ++ '}' :: '}' :: rest) = value.map (·, rest) := by
  cases s with
  | nil => exact ⟨none, fun rest => quoted?_of_quotable (by decide) ('}' :: rest)⟩
  | cons q s =>
      by_cases hq : Quotable [q]
      · exact ⟨none, fun rest => quoted?_of_quotable hq (s ++ '}' :: '}' :: rest)⟩
      · obtain ⟨name, q', x, rfl, hname, hq'⟩ :=
          eq_append_of_not_quotable fun hname => h ⟨hq, hname⟩
        have hx : (trimLeft x).Unclosed := hs.of_sublist
          ((trimLeft_suffix x).trans ⟨q :: (name ++ [q']), by simp⟩).sublist
        refine ⟨if name = [] ∨ trimLeft x ≠ [] then none else some name, fun rest => ?_⟩
        rw [List.cons_append, List.append_assoc, List.cons_append, quoted?_append hq hname hq',
          trimLeft_append_stop (by decide), closeMark?_body hx]
        by_cases hnil : name = [] <;> by_cases htrim : trimLeft x = [] <;> simp [hnil, htrim]

/-- A name that is not ended may run on behind the directive; any other is read in it or not at all. -/
theorem readsWhole_quotedName {inside : Text} (hinside : inside.Unclosed)
    (h : ¬LeavesQuote word inside) : (quotedName word).ReadsWhole inside := by
  have hopen : ∀ rest, (openWord? word (mark inside ++ rest)).bind blanks? =
      ((dropStart? word (trimLeft inside)).bind blanks?).map (· ++ '}' :: '}' :: rest) := by
    intro rest
    rw [openWord?_mark hword.not_mem_close]
    cases dropStart? word (trimLeft inside) with
    | none => rfl
    | some x => exact blanks?_body x ('}' :: rest)
  cases hbegin : (dropStart? word (trimLeft inside)).bind blanks? with
  | none =>
      refine Scanner.readsWhole_of none fun rest => ?_
      rw [quotedName_eq_bind, hopen, hbegin]
      rfl
  | some s =>
      have hs : s.Unclosed := by
        obtain ⟨x, hdrop, hblanks⟩ := Option.bind_eq_some_iff.mp hbegin
        exact (unclosed_of_dropStart? hinside hdrop).of_sublist (blanks?_suffix hblanks).sublist
      obtain ⟨value, hvalue⟩ := quoted?_body hs fun hopens => h ⟨s, hbegin, hopens⟩
      refine Scanner.readsWhole_of value fun rest => ?_
      rw [quotedName_eq_bind, hopen, hbegin]
      exact hvalue rest

theorem head?_words_padded_keyword (word : Text) [hword : Keyword word] :
    (words (padded word)).head? = some word := by
  have hself : (words (padded (word ++ []))).head? = some word :=
    head?_words_padded hword.isBlank_eq_false hword.ne_nil rfl
  rwa [List.append_nil] at hself

theorem head?_words_quotedIn (word name : Text) [hword : Keyword word] :
    (words (quotedIn word name)).head? = some word := by
  have hassoc : word ++ " \"".toList ++ name ++ ['"'] =
      word ++ (' ' :: '"' :: (name ++ ['"'])) := by
    simp
  rw [quotedIn, hassoc]
  exact head?_words_padded hword.isBlank_eq_false hword.ne_nil rfl

end

theorem ne_nil_of_quotedName {word s name rest : Text}
    (h : quotedName word s = some (name, rest)) : name ≠ [] := by
  simp only [quotedName, bind, Option.bind_eq_some_iff] at h
  obtain ⟨body, -, quoted, -, hname⟩ := h
  split at hname
  · split at hname
    · split at hname
      · next hquoted =>
          obtain ⟨_, -, heq⟩ := Option.bind_eq_some_iff.mp hname
          cases heq
          simp only [Bool.and_eq_true, Bool.not_eq_true'] at hquoted
          exact List.isEmpty_eq_false_iff.mp hquoted.2
      · cases hname
    · cases hname
  · cases hname

/-! The openings of loops. -/

def forOver (found : Text × Text) : LoopHead := ⟨.loop, some found.1, found.2⟩

def rangeOver (operand : Text) : LoopHead :=
  match parseAssignment operand with
  | some (name, source) => ⟨.range, some name, source⟩
  | none => ⟨.range, none, operand⟩

theorem forHead_eq_map : forHead = forOpener.map forOver := rfl

theorem rangeHead_eq_map : rangeHead = (operand "range".toList).map rangeOver := by
  funext s
  simp only [rangeHead, Scanner.map, rangeOver]
  cases operand "range".toList s with
  | none => rfl
  | some found => cases hparse : parseAssignment found.1 <;> simp [hparse]

instance : forHead.Whole := inferInstanceAs (forOpener.map forOver).Whole

instance : rangeHead.Whole := rangeHead_eq_map ▸ inferInstance

def loopIn (inside : Text) : Option LoopHead :=
  ((forOpenerIn inside).map forOver).or ((operandIn "range".toList inside).map rangeOver)

theorem loopHead_mark {inside : Text} (h : inside.Unclosed) (rest : Text) :
    loopHead (mark inside ++ rest) = (loopIn inside).map (·, rest) := by
  have hfor : forHead (mark inside ++ rest) =
      ((forOpenerIn inside).map forOver).map (·, rest) := by
    rw [forHead_eq_map, Scanner.map, forOpener_mark h]
    cases forOpenerIn inside <;> rfl
  have hrange : rangeHead (mark inside ++ rest) =
      ((operandIn "range".toList inside).map rangeOver).map (·, rest) := by
    rw [rangeHead_eq_map, Scanner.map, operand_mark (by decide) h]
    cases operandIn "range".toList inside <;> rfl
  rw [loopHead, hfor, hrange, loopIn]
  cases forOpenerIn inside <;> rfl

instance : loopHead.Whole where
  other hc := by simp [loopHead, Scanner.AtMarks.other hc]
  single hc := by simp [loopHead, Scanner.AtMarks.single hc]
  reads h := Scanner.readsWhole_of _ (loopHead_mark h)

theorem loopHead_onMark {inside : Text} (h : inside.Unclosed) :
    loopHead.onMark inside = loopIn inside :=
  Scanner.onMark_eq (loopHead_mark h)

theorem loopIn_of_head? {inside : Text} (h : inside.Unclosed)
    (hfor : (words inside).head? ≠ some "for".toList)
    (hrange : (words inside).head? ≠ some "range".toList) : loopIn inside = none := by
  rw [loopIn, ← forOpener_onMark h, ← operand_onMark h, forOpener_onMark_of_head? h hfor,
    operand_onMark_of_head? h hrange]
  rfl

end Stencil.Template
