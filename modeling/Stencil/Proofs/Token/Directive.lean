import Stencil.Template.Render
import Stencil.Proofs.Text.Blank
import Stencil.Proofs.Token.Scan

namespace Stencil.Template

open Stencil.Text

/-! What the patterns of the template language read at a directive in whose inside none closes. -/

/-! Reading up to the closing braces. -/

theorem openMark?_mark (inside rest : Text) :
    openMark? (mark inside ++ rest) = some (inside ++ '}' :: '}' :: rest) := by
  rw [mark_append]
  rfl

theorem openMark?_other {c : Char} (h : c ≠ '{') (s : Text) : openMark? (c :: s) = none := by
  have hne : ('{' == c) = false := by simpa using h.symm
  simp [openMark?, dropStart?, hne]

theorem openMark?_single {c : Char} (h : c ≠ '{') (s : Text) :
    openMark? ('{' :: c :: s) = none := by
  have hne : ('{' == c) = false := by simpa using h.symm
  simp [openMark?, dropStart?, hne]

theorem closeMark?_body {x : Text} (h : x.Unclosed) (rest : Text) :
    closeMark? (x ++ '}' :: '}' :: rest) = if x = [] then some rest else none := by
  cases x with
  | nil => rfl
  | cons c x =>
      have hne : ('}' == c) = false := by simpa using (h c List.mem_cons_self).symm
      simp [closeMark?, dropStart?, hne]

theorem dropWhile_body {x : Text} (h : x.Unclosed) (rest : Text) :
    (x ++ '}' :: rest).dropWhile (· != '}') = '}' :: rest := by
  rw [dropWhile_append_stop (by decide), dropWhile_eq_nil, List.nil_append]
  intro c hmem
  simpa using h c hmem

theorem takeWhile_body {x : Text} (h : x.Unclosed) (rest : Text) :
    (x ++ '}' :: rest).takeWhile (· != '}') = x := by
  rw [takeWhile_append_stop (by decide), takeWhile_eq_self]
  intro c hmem
  simpa using h c hmem

theorem inside?_body {x : Text} (h : x.Unclosed) (least : Nat) (rest : Text) :
    inside? least (x ++ '}' :: '}' :: rest) = (insideText? least x).map (·, rest) := by
  have hclose : closeMark? ('}' :: '}' :: rest) = some rest := rfl
  simp only [inside?, takeWhile_body h, dropWhile_body h, hclose, bind, Option.bind]
  cases insideText? least x <;> rfl

theorem blanks?_body (x rest : Text) :
    blanks? (x ++ '}' :: rest) = (blanks? x).map (· ++ '}' :: rest) := by
  cases x with
  | nil => rfl
  | cons c x =>
      cases hc : isBlank c with
      | true =>
          have htrim := trimLeft_append_stop (c := '}') (by decide) (c :: x) rest
          simpa [blanks?, hc] using htrim
      | false => simp [blanks?, hc]

theorem openWord?_mark {word : Text} (h : '}' ∉ word) (inside rest : Text) :
    openWord? word (mark inside ++ rest) =
      (dropStart? word (trimLeft inside)).map (· ++ '}' :: '}' :: rest) := by
  simp only [openWord?, openMark?_mark, bind, Option.bind,
    trimLeft_append_stop (c := '}') (by decide)]
  exact dropStart?_append_stop h _ _

theorem suffix_of_dropStart? {word inside x : Text}
    (h : dropStart? word (trimLeft inside) = some x) : x <:+ inside :=
  List.IsSuffix.trans ⟨word, (eq_append_of_dropStart? h).symm⟩ (trimLeft_suffix inside)

theorem unclosed_of_dropStart? {word inside x : Text} (h : inside.Unclosed)
    (hdrop : dropStart? word (trimLeft inside) = some x) : x.Unclosed :=
  h.of_sublist (suffix_of_dropStart? hdrop).sublist

/-! The patterns one by one: where they read, and what. -/

theorem atMarks_of_openMark? {scan : Scanner α}
    (h : ∀ s, openMark? s = none → scan s = none) : scan.AtMarks where
  other hc := h _ (openMark?_other hc _)
  single hc := h _ (openMark?_single hc _)

theorem openWord?_eq_none {word s : Text} (h : openMark? s = none) :
    openWord? word s = none := by
  simp [openWord?, h]

theorem forHead?_eq_none {s : Text} (h : openMark? s = none) : forHead? s = none := by
  simp [forHead?, openWord?_eq_none h]

theorem directive_mark {inside : Text} (h : inside.Unclosed) (rest : Text) :
    directive (mark inside ++ rest) = (insideText? 0 inside).map (·, rest) := by
  simp only [directive, openMark?_mark, bind, Option.bind, inside?_body h]

def tagIn (word inside : Text) : Option Unit := do
  let x ← dropStart? word (trimLeft inside)
  if trimLeft x = [] then some () else none

theorem tag_mark {word inside : Text} (hword : '}' ∉ word) (h : inside.Unclosed)
    (rest : Text) : tag word (mark inside ++ rest) = (tagIn word inside).map (·, rest) := by
  simp only [tag, tagIn, openWord?_mark hword, bind, Option.bind]
  cases hdrop : dropStart? word (trimLeft inside) with
  | none => rfl
  | some x =>
      have hx : (trimLeft x).Unclosed :=
        (unclosed_of_dropStart? h hdrop).of_sublist (trimLeft_suffix x).sublist
      simp only [Option.map_some, trimLeft_append_stop (c := '}') (by decide),
        closeMark?_body hx]
      by_cases hnil : trimLeft x = [] <;> simp [hnil]

def operandIn (word inside : Text) : Option Text := do
  insideText? 1 (← dropStart? word (trimLeft inside))

theorem operand_mark {word inside : Text} (hword : '}' ∉ word) (h : inside.Unclosed)
    (rest : Text) :
    operand word (mark inside ++ rest) = (operandIn word inside).map (·, rest) := by
  simp only [operand, operandIn, openWord?_mark hword, bind, Option.bind]
  cases hdrop : dropStart? word (trimLeft inside) with
  | none => rfl
  | some x => simp only [Option.map_some, inside?_body (unclosed_of_dropStart? h hdrop)]

def forIn (inside : Text) : Option (Text × Text) := do
  let x ← blanks? (← dropStart? "for".toList (trimLeft inside))
  let name := x.takeWhile isWord
  let y ← dropStart? "in".toList (← blanks? (x.dropWhile isWord))
  if name.isEmpty then none else some (name, y)

theorem forHead?_mark (inside rest : Text) :
    forHead? (mark inside ++ rest) =
      (forIn inside).map fun (name, y) => (name, y ++ '}' :: '}' :: rest) := by
  simp only [forHead?, forIn, openWord?_mark (show '}' ∉ "for".toList by decide), bind,
    Option.bind]
  cases dropStart? "for".toList (trimLeft inside) with
  | none => rfl
  | some w =>
      simp only [Option.map_some, blanks?_body]
      cases blanks? w with
      | none => rfl
      | some x =>
          simp only [Option.map_some, takeWhile_append_stop (c := '}') (p := isWord) (by decide),
            dropWhile_append_stop (c := '}') (p := isWord) (by decide), blanks?_body]
          cases blanks? (x.dropWhile isWord) with
          | none => rfl
          | some z =>
              simp only [Option.map_some,
                dropStart?_append_stop (show '}' ∉ "in".toList by decide)]
              cases dropStart? "in".toList z with
              | none => rfl
              | some y => cases hname : (x.takeWhile isWord).isEmpty <;> simp

theorem blanks?_suffix {s t : Text} (h : blanks? s = some t) : t <:+ s := by
  cases s with
  | nil => cases h
  | cons c s =>
      cases hc : isBlank c with
      | true =>
          have heq : trimLeft (c :: s) = t := by simpa [blanks?, hc] using h
          exact heq ▸ trimLeft_suffix _
      | false => simp [blanks?, hc] at h

theorem suffix_of_forIn {inside name y : Text} (h : forIn inside = some (name, y)) :
    y <:+ inside := by
  simp only [forIn, bind, Option.bind_eq_some_iff] at h
  obtain ⟨w, hw, x, hx, z, hz, y', hy, hname⟩ := h
  split at hname
  · cases hname
  · cases hname
    have hyz : y <:+ z := ⟨_, (eq_append_of_dropStart? hy).symm⟩
    have hzx : z <:+ x := (blanks?_suffix hz).trans (List.dropWhile_suffix _)
    exact (hyz.trans hzx).trans ((blanks?_suffix hx).trans (suffix_of_dropStart? hw))

theorem unclosed_of_forIn {inside name y : Text} (h : inside.Unclosed)
    (hfor : forIn inside = some (name, y)) : y.Unclosed :=
  h.of_sublist (suffix_of_forIn hfor).sublist

def forOpenerIn (inside : Text) : Option (Text × Text) := do
  let (name, y) ← forIn inside
  some (name, ← insideText? 1 y)

theorem forOpener_mark {inside : Text} (h : inside.Unclosed) (rest : Text) :
    forOpener (mark inside ++ rest) = (forOpenerIn inside).map (·, rest) := by
  simp only [forOpener, forOpenerIn, forHead?_mark, bind, Option.bind]
  cases hfor : forIn inside with
  | none => rfl
  | some found =>
      obtain ⟨name, y⟩ := found
      simp only [Option.map_some, inside?_body (unclosed_of_forIn h hfor)]
      cases insideText? 1 y <;> rfl

def padded (body : Text) : Text := ' ' :: (body ++ [' '])

theorem trimLeft_padded {c : Char} (hc : isBlank c = false) (body : Text) :
    trimLeft (padded (c :: body)) = c :: (body ++ [' ']) := by
  rw [padded, List.cons_append, trimLeft_cons_blank (by decide), trimLeft_cons_solid hc]

theorem insideText?_padded {body : Text} (h : Trimmed body) (hne : body ≠ []) {least : Nat}
    (hleast : least ≤ 1) : insideText? least (padded body) = some body := by
  obtain ⟨c, rest, rfl⟩ := List.exists_cons_of_ne_nil hne
  have hblanks : (padded (c :: rest)).takeWhile isBlank = [' '] := by
    simp [padded, h.isBlank_head, show isBlank ' ' = true by decide]
  have hbody : (padded (c :: rest)).dropWhile isBlank = c :: rest ++ [' '] := by
    simp [padded, h.isBlank_head, show isBlank ' ' = true by decide]
  have hright : trimRight (c :: rest ++ [' ']) = c :: rest := by
    rw [trimRight_append_blanks (by decide), h.trimRight_eq]
  have hnil : (c :: rest ++ [' ']).isEmpty = false := rfl
  simp only [insideText?, hblanks, hbody, hright, hnil, List.length_singleton, if_pos hleast,
    Bool.false_eq_true, if_false]

/-! A pattern of a directive with a keyword reads nothing unless the keyword is the first word. -/

theorem head?_words_of_dropStart? {word inside x : Text}
    (hsolid : ∀ c ∈ word, isBlank c = false) (hne : word ≠ [])
    (hdrop : dropStart? word (trimLeft inside) = some x) (hx : BeginsBlank x) :
    (words inside).head? = some word := by
  have hsplit : inside = inside.takeWhile isBlank ++ (word ++ x) := by
    rw [← eq_append_of_dropStart? hdrop]
    exact List.takeWhile_append_dropWhile.symm
  have hblank : ∀ c ∈ inside.takeWhile isBlank, isBlank c = true :=
    fun c hmem => List.all_eq_true.mp List.all_takeWhile c hmem
  rw [hsplit]
  exact head?_words_append hblank hsolid hne hx

theorem beginsBlank_of_trimLeft_eq_nil {x : Text} (h : trimLeft x = []) : BeginsBlank x := by
  cases x with
  | nil => rfl
  | cons c x =>
      cases hc : isBlank c with
      | true => simpa [BeginsBlank] using hc
      | false => simp [trimLeft_cons_solid hc] at h

theorem beginsBlank_of_blanks? {x y : Text} (h : blanks? x = some y) : BeginsBlank x := by
  cases x with
  | nil => rfl
  | cons c x =>
      cases hc : isBlank c with
      | true => simpa [BeginsBlank] using hc
      | false => simp [blanks?, hc] at h

theorem beginsBlank_of_insideText? {x y : Text} (h : insideText? 1 x = some y) :
    BeginsBlank x := by
  cases x with
  | nil => rfl
  | cons c x =>
      cases hc : isBlank c with
      | true => simpa [BeginsBlank] using hc
      | false => simp [insideText?, hc] at h

theorem head?_words_of_tagIn {word inside : Text} (hsolid : ∀ c ∈ word, isBlank c = false)
    (hne : word ≠ []) {u : Unit} (h : tagIn word inside = some u) :
    (words inside).head? = some word := by
  simp only [tagIn, bind, Option.bind_eq_some_iff] at h
  obtain ⟨x, hdrop, hx⟩ := h
  split at hx
  · next hnil =>
      exact head?_words_of_dropStart? hsolid hne hdrop (beginsBlank_of_trimLeft_eq_nil hnil)
  · cases hx

theorem head?_words_of_operandIn {word inside value : Text}
    (hsolid : ∀ c ∈ word, isBlank c = false) (hne : word ≠ [])
    (h : operandIn word inside = some value) : (words inside).head? = some word := by
  simp only [operandIn, bind, Option.bind_eq_some_iff] at h
  obtain ⟨x, hdrop, hx⟩ := h
  exact head?_words_of_dropStart? hsolid hne hdrop (beginsBlank_of_insideText? hx)

theorem head?_words_of_forOpenerIn {inside : Text} {value : Text × Text}
    (h : forOpenerIn inside = some value) : (words inside).head? = some "for".toList := by
  simp only [forOpenerIn, forIn, bind, Option.bind_eq_some_iff] at h
  obtain ⟨_, ⟨x, hdrop, _, hx, _⟩, _⟩ := h
  exact head?_words_of_dropStart? (by decide) (by decide) hdrop (beginsBlank_of_blanks? hx)

/-! What the printed forms of the directives are read as. -/

theorem tagIn_padded {word : Text} (hsolid : ∀ c ∈ word, isBlank c = false)
    (hne : word ≠ []) : tagIn word (padded word) = some () := by
  obtain ⟨c, rest, rfl⟩ := List.exists_cons_of_ne_nil hne
  have hblank : trimLeft [' '] = [] := by decide
  rw [tagIn, trimLeft_padded (hsolid c List.mem_cons_self), ← List.cons_append,
    dropStart?_append_self]
  simp [hblank]

theorem operandIn_padded {word operand : Text} (hsolid : ∀ c ∈ word, isBlank c = false)
    (hne : word ≠ []) (htrimmed : Trimmed operand) (hoperand : operand ≠ []) :
    operandIn word (padded (word ++ ' ' :: operand)) = some operand := by
  obtain ⟨c, rest, rfl⟩ := List.exists_cons_of_ne_nil hne
  have hsplit : c :: (rest ++ ' ' :: operand ++ [' ']) = (c :: rest) ++ padded operand := by
    simp [padded]
  rw [operandIn, List.cons_append, trimLeft_padded (hsolid c List.mem_cons_self), hsplit,
    dropStart?_append_self]
  exact insideText?_padded htrimmed hoperand (Nat.le_refl 1)

theorem blanks?_blank_cons {c : Char} (hc : isBlank c = false) (s : Text) :
    blanks? (' ' :: c :: s) = some (c :: s) := by
  have htrim : trimLeft (' ' :: c :: s) = c :: s := by
    rw [trimLeft_cons_blank (by decide), trimLeft_cons_solid hc]
  simp only [blanks?, htrim, show isBlank ' ' = true by decide, if_true]

theorem forIn_padded {name operand : Text} (hname : ∀ c ∈ name, isWord c = true)
    (hne : name ≠ []) :
    forIn (padded ("for ".toList ++ name ++ " in ".toList ++ operand)) =
      some (name, padded operand) := by
  obtain ⟨c, rest, rfl⟩ := List.exists_cons_of_ne_nil hne
  have hc : isBlank c = false := isBlank_eq_false_of_isWord (hname c List.mem_cons_self)
  have hhead : trimLeft (padded ("for ".toList ++ c :: rest ++ " in ".toList ++ operand)) =
      "for".toList ++ ' ' :: c :: (rest ++ (' ' :: 'i' :: 'n' :: padded operand)) := by
    simp [padded, trimLeft, show isBlank ' ' = true by decide,
      show isBlank 'f' = false by decide]
  have htake : (c :: (rest ++ (' ' :: 'i' :: 'n' :: padded operand))).takeWhile isWord =
      c :: rest := by
    rw [← List.cons_append, takeWhile_append_stop (by decide), takeWhile_eq_self hname]
  have hdrop : (c :: (rest ++ (' ' :: 'i' :: 'n' :: padded operand))).dropWhile isWord =
      ' ' :: 'i' :: 'n' :: padded operand := by
    rw [← List.cons_append, dropWhile_append_stop (by decide), dropWhile_eq_nil hname,
      List.nil_append]
  have hin : dropStart? "in".toList ('i' :: 'n' :: padded operand) = some (padded operand) :=
    dropStart?_append_self "in".toList _
  rw [forIn, hhead, dropStart?_append_self]
  simp only [bind, Option.bind, blanks?_blank_cons hc, htake, hdrop,
    blanks?_blank_cons (show isBlank 'i' = false by decide), hin, List.isEmpty_cons,
    Bool.false_eq_true, if_false]

theorem forOpenerIn_padded {name operand : Text} (hname : ∀ c ∈ name, isWord c = true)
    (hne : name ≠ []) (htrimmed : Trimmed operand) (hoperand : operand ≠ []) :
    forOpenerIn (padded ("for ".toList ++ name ++ " in ".toList ++ operand)) =
      some (name, operand) := by
  rw [forOpenerIn, forIn_padded hname hne]
  simp only [bind, Option.bind, insideText?_padded htrimmed hoperand (Nat.le_refl 1)]

theorem head?_words_padded {word rest : Text} (hsolid : ∀ c ∈ word, isBlank c = false)
    (hne : word ≠ []) (hrest : BeginsBlank rest) :
    (words (padded (word ++ rest))).head? = some word := by
  have hsplit : padded (word ++ rest) = [' '] ++ (word ++ (rest ++ [' '])) := by
    simp [padded]
  have hbegins : BeginsBlank (rest ++ [' ']) := by
    cases rest with
    | nil => rfl
    | cons c rest => simpa [BeginsBlank] using hrest
  rw [hsplit]
  exact head?_words_append (by decide) hsolid hne hbegins

theorem braceless_padded {body : Text} (h : body.Braceless) : (padded body).Braceless := by
  intro c hmem
  simp only [padded, List.mem_cons, List.mem_append, List.not_mem_nil, or_false] at hmem
  rcases hmem with rfl | hmem | rfl
  · decide
  · exact h c hmem
  · decide

theorem enclosed_padded {body : Text} (h : body.Braceless) : (padded body).Enclosed :=
  (braceless_padded h).enclosed

theorem insideText?_eq_none {inside : Text} (h : insideText? 0 inside = none) :
    inside = [] := by
  cases inside with
  | nil => rfl
  | cons c rest =>
      simp only [insideText?] at h
      split at h
      · next hblank =>
          have hall : (c :: rest).takeWhile isBlank = c :: rest := by
            have happend := List.takeWhile_append_dropWhile (p := isBlank) (l := c :: rest)
            rwa [List.isEmpty_iff.mp hblank, List.append_nil] at happend
          rw [hall, List.getLast?_cons] at h
          simp at h
      · simp at h

theorem insideText?_cases {least : Nat} {inside value : Text}
    (h : insideText? least inside = some value) :
    value = trim inside ∨ trimLeft inside = [] ∧ ∃ c ∈ inside, isBlank c = true ∧ value = [c] := by
  simp only [insideText?] at h
  split at h
  · next hblank =>
      right
      refine ⟨List.isEmpty_iff.mp hblank, ?_⟩
      split at h
      · next c hlast =>
          have hmem := List.mem_of_getLast? hlast
          split at h
          · cases h
            exact ⟨c, (List.takeWhile_prefix _).subset hmem,
              List.all_eq_true.mp List.all_takeWhile c hmem, rfl⟩
          · cases h
      · cases h
  · split at h
    · cases h
      exact .inl rfl
    · cases h

theorem head?_words_insideText? {least : Nat} {inside value : Text}
    (h : insideText? least inside = some value) :
    (words value).head? = (words inside).head? := by
  rcases insideText?_cases h with rfl | ⟨hnone, c, -, hc, rfl⟩
  · exact head?_words_trim inside
  · rw [head?_words, head?_words, hnone, trimLeft_cons_blank hc]
    rfl

theorem head?_words_padded_self (body : Text) :
    (words (padded body)).head? = (words body).head? := by
  have hcons : padded body = ' ' :: (body ++ [' ']) := rfl
  rw [hcons, head?_words_cons_blank (by decide), head?_words_append_blanks (by decide)]

end Stencil.Template
