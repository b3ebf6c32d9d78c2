import Mathlib.Data.List.Infix
import Stencil.Proofs.Render.Faithful
import Stencil.Proofs.Render.Settling

namespace Stencil

open Text

namespace Text

/-! Texts without two opening braces in a row. -/

def doubleBrace : Text := ['{', '{']

theorem unopened_iff {t : Text} :
    t.Unopened ↔ ¬doubleBrace <:+: t ∧ t.getLast? ≠ some '{' := by
  induction t with
  | nil => simp [doubleBrace]
  | cons c t ih =>
      rw [Unopened, ih, List.infix_cons_iff]
      cases t with
      | nil =>
          by_cases hc : c = '{'
          · simp [hc, doubleBrace]
          · simp [hc, doubleBrace]
      | cons d t =>
          rw [List.getLast?_cons_cons, not_or, and_assoc]
          refine and_congr_left fun _ => ?_
          have hfront : doubleBrace <+: c :: d :: t ↔ '{' = c ∧ '{' = d := by
            simp [doubleBrace, List.cons_prefix_cons]
          rw [hfront, not_and, eq_comm (a := c), List.head?_cons, Option.any_some, bne_iff_ne,
            ne_comm]

theorem unopened_of_concat {t : Text} (h : ¬doubleBrace <:+: t ++ ['{']) : t.Unopened := by
  rw [unopened_iff]
  refine ⟨fun hpart => h (hpart.trans (List.prefix_append _ _).isInfix), fun hlast => ?_⟩
  obtain ⟨front, rfl⟩ := List.getLast?_eq_some_iff.mp hlast
  exact h ⟨front, [], by simp [doubleBrace]⟩

end Text

namespace Template

open Scanner

/-! A directive with an opening brace in front of it. -/

namespace Identifier

variable (x : Identifier)

/-- A brace, a blank and the name: the inside of a directive that begins a brace too early. -/
def braced : Text := '{' :: ' ' :: x.text

theorem mem_braced {c : Char} (h : c ∈ x.braced) : c = '{' ∨ c = ' ' ∨ c ∈ x.text := by
  simpa [braced] using h

theorem trimmed_braced : Trimmed x.braced := by
  refine strip_of_ends (fun c hc => ?_) fun c hc => ?_
  · cases hc
    rfl
  · obtain ⟨d, rest, htext⟩ := List.exists_cons_of_ne_nil x.ne_nil
    rw [braced, htext, List.getLast?_cons_cons, List.getLast?_cons_cons, ← htext] at hc
    exact (x.solid c (List.mem_of_mem_getLast? hc)).1

theorem isName_braced : IsName x.braced where
  trimmed := x.trimmed_braced
  ne_nil := rfl
  literal := by
    have hminus : '-' ∉ x.braced := by simpa [braced] using x.not_mem (c := '-') (by decide)
    have hline : '\n' ∉ x.braced := by
      have hsolid : '\n' ∉ x.text := fun hmem => absurd (x.solid _ hmem) (by decide)
      simpa [braced] using hsolid
    have hinteger : looksInteger x.braced = false :=
      looksInteger_eq_false hminus hline ⟨'{', List.mem_cons_self, rfl⟩
    have hquote : unquote x.braced = none := rfl
    have htrue : (x.braced == "true".toList) = false := rfl
    have hfalse : (x.braced == "false".toList) = false := rfl
    simp only [parseLiteral, hquote, htrue, hfalse, hinteger, Bool.false_eq_true, if_false]
  call := by
    cases hcall : parseCall x.braced with
    | none => rfl
    | some found =>
        obtain ⟨c, middle, htrim, -⟩ := trim_of_parseCall hcall
        have hmem : ')' ∈ trim x.braced := by simp [htrim]
        have hsolid : ')' ∉ x.text := fun hmem => absurd (x.solid _ hmem) (by decide)
        exact absurd ((trim_isInfix _).subset hmem) (by simpa [braced] using hsolid)
  undotted := splitAt_of_not_mem (by simpa [braced] using x.not_mem (c := '.') (by decide))
  head := by simp [braced]

theorem head?_words_braced : (words x.braced).head? = some ['{'] := by
  have hbegins : BeginsBlank (' ' :: x.text) := rfl
  have hwords : (words ([] ++ (['{'] ++ ' ' :: x.text))).head? = some ['{'] :=
    head?_words_append (by decide) (by decide) (by decide) hbegins
  exact hwords

theorem insideText?_braced : insideText? 0 (x.braced ++ [' ']) = some x.braced := by
  have hright : trimRight (x.braced ++ [' ']) = x.braced := by
    rw [trimRight_append_blanks (by decide), x.trimmed_braced.trimRight_eq]
  have htake : (x.braced ++ [' ']).takeWhile isBlank = [] := rfl
  have hdrop : (x.braced ++ [' ']).dropWhile isBlank = x.braced ++ [' '] := rfl
  have hsome : (x.braced ++ [' ']).isEmpty = false := rfl
  simp only [insideText?, htake, hdrop, hright, hsome, Bool.false_eq_true, if_false,
    List.length_nil, Nat.le_refl, if_true]

theorem isControl_braced : isControl x.braced = false := by
  rw [isControl, x.head?_words_braced]
  rfl

theorem callIn?_braced : callIn? x.braced = none := by
  rw [callIn?, x.isControl_braced, x.isName_braced.call]
  rfl

theorem splitPipeline_braced : splitPipeline x.braced = (x.braced, []) := by
  have hloose : ∀ c ∈ x.braced, Loose c ∧ c ≠ '|' := by
    intro c hc
    simp only [braced, List.mem_cons] at hc
    rcases hc with rfl | rfl | hc
    · decide
    · decide
    · exact ⟨(x.solid c hc).2.1, (x.solid c hc).2.2.2⟩
  have hone := (OnePiece.of_loose hloose).splitOutside_eq
  have htrim : trim x.braced = x.braced := x.trimmed_braced
  simp [splitPipeline, hone, htrim]

end Identifier

section

variable {tools : Toolbox} {ctx : Context} {name inside t : Text} {v : Value}

def Unknown (tools : Toolbox) (ctx : Context) (name : Text) : Prop :=
  ctx.has name = false ∧ tools.functions.has name = false

theorem evaluate_of_unknown (hname : IsName name) (h : Unknown tools ctx name) :
    (evaluate tools ctx name).result = .ok .nil := by
  have htrim : trim name = name := hname.trimmed
  have hroot : rootValue tools ctx name = .ok .nil := by
    rw [rootValue, h.1, h.2]
    rfl
  have hpath : (resolvePath tools ctx name).result = .ok .nil := by
    unfold resolvePath
    split
    · exact absurd rfl hname.head
    · exact absurd rfl hname.head
    · rw [hname.undotted]
      dsimp only
      rw [Eval.result_bind, resolveRoot_result, hroot]
      rfl
  rw [evaluate_eq, htrim, hname.ne_nil, if_neg Bool.false_ne_true, literalOr, hname.literal,
    hname.call]
  exact hpath

theorem substitution_result (hsplit : splitPipeline inside = (inside, []))
    (hvalue : (evaluate tools ctx inside).result = .ok v) (hformat : v.format = .ok t) :
    (substitution tools ctx inside).result = .ok t := by
  simp only [substitution, hsplit, applyFilters, pure_bind]
  rw [Eval.result_bind, hvalue, ok_bind, Eval.result_ofExcept, hformat]

end

/-! A variable behind a literal text, which may end in a brace. -/

/-- A variable of a template: the text in front of it, its name, and the text that it is bound
to. -/
structure Slot where
  before : Text
  name : Identifier
  value : Text

namespace Slot

def text (s : Slot) : Text := s.before ++ nameMark s.name

def filled (s : Slot) : Text := s.before ++ s.value

/-- The text in front ends in a brace, which the directive takes for its own. -/
def Touches (s : Slot) : Prop := s.before.getLast? = some '{'

instance (s : Slot) : Decidable s.Touches := inferInstanceAs (Decidable (_ = _))

def literal (s : Slot) : Text := if s.Touches then s.before.dropLast else s.before

def asked (s : Slot) : Text := if s.Touches then s.name.braced else s.name.text

def inside (s : Slot) : Text := if s.Touches then s.name.braced ++ [' '] else padded s.name.text

def answer (s : Slot) : Text := if s.Touches then [] else s.value

def shown (s : Slot) : Text := s.literal ++ s.answer

variable (s : Slot)

theorem before_eq (h : s.Touches) : s.before = s.literal ++ ['{'] := by
  obtain ⟨front, hfront⟩ := List.getLast?_eq_some_iff.mp h
  rw [literal, if_pos h, hfront, List.dropLast_concat]

theorem text_eq : s.text = s.literal ++ mark s.inside := by
  by_cases h : s.Touches
  · rw [text, s.before_eq h, inside, if_pos h]
    simp [nameMark, mark, padded, Identifier.braced]
  · rw [text, literal, if_neg h, inside, if_neg h]
    rfl

theorem unopened_literal (h : ¬doubleBrace <:+: s.before) : s.literal.Unopened := by
  by_cases htouches : s.Touches
  · rw [s.before_eq htouches] at h
    exact unopened_of_concat h
  · rw [literal, if_neg htouches]
    exact unopened_iff.mpr ⟨h, htouches⟩

theorem unclosed_inside : s.inside.Unclosed := by
  unfold inside
  split
  · intro c hc
    rcases List.mem_append.mp hc with hc | hc
    · rcases s.name.mem_braced hc with rfl | rfl | hc
      · decide
      · decide
      · exact (s.name.expression.braceless c hc).2
    · rw [List.mem_singleton.mp hc]
      decide
  · exact (enclosed_name s.name).unclosed

theorem insideText?_inside : insideText? 0 s.inside = some s.asked := by
  unfold inside asked
  split
  · exact s.name.insideText?_braced
  · exact insideText?_expression s.name.expression

theorem isControl_asked : isControl s.asked = false := by
  unfold asked
  split
  · exact s.name.isControl_braced
  · exact s.name.expression.isControl_eq_false

theorem callIn?_asked : callIn? s.asked = none := by
  unfold asked
  split
  · exact s.name.callIn?_braced
  · exact s.name.callIn?_eq

theorem head?_words_inside (word : Text) [Keyword word] : (words s.inside).head? ≠ some word := by
  rw [← head?_words_insideText? s.insideText?_inside]
  exact head?_ne_of_isControl s.isControl_asked

theorem loopIn_inside : loopIn s.inside = none :=
  loopIn_of_head? s.unclosed_inside (s.head?_words_inside _) (s.head?_words_inside _)

theorem passesOver_mark {scan : Scanner α} [Whole scan]
    (hname : scan.onMark (padded s.name.text) = none) (h : scan.onMark s.inside = none) :
    scan.PassesOver (mark s.inside) := by
  have hpass : scan.PassesOver (nameMark s.name) := by
    have henclosed := enclosed_name s.name
    exact fun rest => cut?_mark_of_none henclosed (Whole.reads henclosed.unclosed) hname rest
  by_cases htouches : s.Touches
  · have hmark : mark s.inside = '{' :: nameMark s.name := by
      rw [inside, if_pos htouches]
      simp [nameMark, mark, padded, Identifier.braced]
    have hreads : scan.ReadsWhole s.inside := Whole.reads s.unclosed_inside
    intro rest
    have hnone : scan ('{' :: (nameMark s.name ++ rest)) = none := by
      rw [← List.cons_append, ← hmark, hreads, h, Option.map_none]
    rw [hmark, List.cons_append, cut?_cons_of_none hnone, hpass, Option.map_map]
    congr 1
  · rw [inside, if_neg htouches]
    exact hpass

section

variable {tools : Toolbox} {inner : Inner} {ctx : Context} {s : Slot}

theorem callsOf_slot (h : ¬doubleBrace <:+: s.before) (rest : Text) :
    callsOf tools ctx (s.text ++ rest) = (s.text ++ ·) <$> callsOf tools ctx rest := by
  have hself : loopHead (mark s.inside) = none := by
    have hmark := loopHead_mark s.unclosed_inside []
    rwa [List.append_nil, s.loopIn_inside, Option.map_none] at hmark
  have hmark : callsOf tools ctx (mark s.inside ++ rest) =
      (mark s.inside ++ ·) <$> callsOf tools ctx rest := by
    rw [callsOf_drives.read (Whole.reads s.unclosed_inside)
      ((directive_onMark s.unclosed_inside).trans s.insideText?_inside), callsAt, hself]
    simp only [s.callIn?_asked]
  rw [s.text_eq, List.append_assoc, callsOf_text (s.unopened_literal h), hmark]
  simp

theorem substitution_asked (hbound : ctx.get? s.name.text = some (.ok (.text s.value)))
    (hunknown : s.Touches → Unknown tools ctx s.name.braced) :
    (substitution tools ctx s.asked).result = .ok s.answer := by
  unfold asked answer
  split
  · next htouches =>
      have hnil := evaluate_of_unknown s.name.isName_braced (hunknown htouches)
      exact substitution_result s.name.splitPipeline_braced hnil rfl
  · rw [s.name.substitution_eq hbound]
    rfl

theorem variablesOf_slot (h : ¬doubleBrace <:+: s.before)
    (hbound : ctx.get? s.name.text = some (.ok (.text s.value)))
    (hunknown : s.Touches → Unknown tools ctx s.name.braced) (rest : Text) :
    variablesOf tools ctx (s.text ++ rest) = (s.shown ++ ·) <$> variablesOf tools ctx rest := by
  have hmark : variablesOf tools ctx (mark s.inside ++ rest) =
      (s.answer ++ ·) <$> variablesOf tools ctx rest := by
    rw [variablesOf_drives.read (Whole.reads s.unclosed_inside)
      ((directive_onMark s.unclosed_inside).trans s.insideText?_inside), variablesAt,
      if_neg (by rw [s.isControl_asked]; decide), substitution_asked hbound hunknown, ok_bind]
  rw [s.text_eq, List.append_assoc, variablesOf_drives.text (s.unopened_literal h), hmark, shown]
  simp

variable [hinner : ∀ ctx s, Eval.Steady (inner ctx s)]

theorem loopsOf_slot (h : ¬doubleBrace <:+: s.before) (rest : Text) :
    loopsOf tools inner ctx (s.text ++ rest) =
      (s.text ++ ·) <$> loopsOf tools inner ctx rest := by
  have hpass : loopHead.PassesOver (mark s.inside) := s.passesOver_mark
    ((loopHead_onMark (enclosed_name s.name).unclosed).trans (loopIn_expression s.name.expression))
    ((loopHead_onMark s.unclosed_inside).trans s.loopIn_inside)
  rw [s.text_eq, List.append_assoc, loopsOf_text (s.unopened_literal h),
    loopsOf_drives.append (hpass rest)]
  simp

theorem conditionalsOf_slot (h : ¬doubleBrace <:+: s.before) (rest : Text) :
    conditionalsOf tools inner ctx (s.text ++ rest) =
      (s.text ++ ·) <$> conditionalsOf tools inner ctx rest := by
  have hpass : (operand "if".toList).PassesOver (mark s.inside) := s.passesOver_mark
    (operand_onMark_of_head? (enclosed_name s.name).unclosed
      (head?_words_expression s.name.expression _))
    (operand_onMark_of_head? s.unclosed_inside (s.head?_words_inside _))
  rw [s.text_eq, List.append_assoc, conditionalsOf_text (s.unopened_literal h),
    conditionalsOf_drives.append (hpass rest)]
  simp

end

/-! Slots in a row, with a text behind the last. -/

def join (part : Slot → Text) (slots : List Slot) (last : Text) : Text := slots.flatMap part ++ last

section

variable {slots : List Slot} {last : Text}

theorem join_cons (part : Slot → Text) (s : Slot) (slots : List Slot) (last : Text) :
    join part (s :: slots) last = part s ++ join part slots last := by
  rw [join, List.flatMap_cons, List.append_assoc, join]

theorem infix_join {s : Slot} (h : s ∈ slots) : s.before <:+: join Slot.filled slots last := by
  have hslot : s.before <:+: s.filled := (List.prefix_append _ _).isInfix
  have hall : s.filled <:+: slots.flatMap Slot.filled := by
    rw [List.flatMap_def]
    exact List.infix_of_mem_flatten (List.mem_map_of_mem h)
  exact hslot.trans (hall.trans (List.prefix_append _ _).isInfix)

/-- What a stage does with one slot it does with all of them. -/
theorem run_join {run : Text → Except Fault Text} {part : Slot → Text}
    (hslot : ∀ s ∈ slots, ∀ rest, run (s.text ++ rest) = (part s ++ ·) <$> run rest)
    (hlast : run last = .ok last) :
    run (join Slot.text slots last) = .ok (join part slots last) := by
  induction slots with
  | nil => exact hlast
  | cons s slots ih =>
      obtain ⟨hs, hslots⟩ := List.forall_mem_cons.mp hslot
      rw [join_cons, hs, ih hslots, join_cons]
      rfl

theorem cut?_last {scan : Scanner α} [AtMarks scan] (hbrace : scan ['{'] = none)
    (h : ¬doubleBrace <:+: last) : scan.cut? last = none := by
  by_cases hend : last.getLast? = some '{'
  · obtain ⟨front, rfl⟩ := List.getLast?_eq_some_iff.mp hend
    rw [cut?_append_of_unopened (unopened_of_concat h), cut?_cons_of_none hbrace]
    rfl
  · exact cut?_of_unopened (unopened_iff.mpr ⟨h, hend⟩)

theorem length_shown_le (s : Slot) : s.shown.length ≤ s.filled.length := by
  unfold shown literal answer filled
  split
  · simp only [List.length_append, List.length_dropLast, List.length_nil]
    omega
  · exact Nat.le_refl _

theorem length_shown_lt {s : Slot} (h : s.Touches) : s.shown.length < s.filled.length := by
  have hbefore := congrArg List.length (s.before_eq h)
  rw [shown, filled, answer, if_pos h]
  simp only [List.length_append, List.length_nil, List.length_singleton] at hbefore ⊢
  omega

theorem length_join_le (slots : List Slot) (last : Text) :
    (join shown slots last).length ≤ (join filled slots last).length := by
  induction slots with
  | nil => exact Nat.le_refl _
  | cons s slots ih =>
      have hs := s.length_shown_le
      simp only [join_cons, List.length_append]
      omega

theorem length_join_lt {s : Slot} (last : Text) (hmem : s ∈ slots) (h : s.Touches) :
    (join shown slots last).length < (join filled slots last).length := by
  induction slots with
  | nil => cases hmem
  | cons t slots ih =>
      simp only [join_cons, List.length_append]
      rcases List.mem_cons.mp hmem with rfl | hmem
      · have hs := length_shown_lt h
        have hrest := length_join_le slots last
        omega
      · have ht := t.length_shown_le
        have hrest := ih hmem
        omega

theorem join_shown (h : ∀ s ∈ slots, ¬s.Touches) :
    join shown slots last = join filled slots last := by
  have hparts : slots.map shown = slots.map filled := List.map_congr_left fun s hs => by
    rw [shown, literal, answer, if_neg (h s hs), if_neg (h s hs), filled]
  rw [join, join, List.flatMap_def, List.flatMap_def, hparts]

theorem render_join {tools : Toolbox} {ctx : Context}
    (hbefore : ∀ s ∈ slots, ¬doubleBrace <:+: s.before) (hlast : ¬doubleBrace <:+: last)
    (hbound : ∀ s ∈ slots, ctx.get? s.name.text = some (.ok (.text s.value)))
    (hunknown : ∀ s ∈ slots, s.Touches → Unknown tools ctx s.name.braced) :
    (render tools ctx (join Slot.text slots last)).result =
      .ok (settle (join Slot.shown slots last)) := by
  have hcalls : callsOf tools ctx (join Slot.text slots last) = .ok (join Slot.text slots last) :=
    run_join (fun s hs => callsOf_slot (hbefore s hs))
      (callsOf_drives.of_none (cut?_last rfl hlast))
  have hloops : ∀ inner : Inner, (∀ ctx s, Eval.Steady (inner ctx s)) →
      loopsOf tools inner ctx (join Slot.text slots last) = .ok (join Slot.text slots last) :=
    fun _ _ => run_join (fun s hs => loopsOf_slot (hbefore s hs))
      (loopsOf_drives.of_none (cut?_last rfl hlast))
  have hconditionals : ∀ inner : Inner, (∀ ctx s, Eval.Steady (inner ctx s)) →
      conditionalsOf tools inner ctx (join Slot.text slots last) =
        .ok (join Slot.text slots last) :=
    fun _ _ => run_join (fun s hs => conditionalsOf_slot (hbefore s hs))
      (conditionalsOf_drives.of_none (cut?_last rfl hlast))
  have hvariables : variablesOf tools ctx (join Slot.text slots last) =
      .ok (join Slot.shown slots last) :=
    run_join (fun s hs => variablesOf_slot (hbefore s hs) (hbound s hs) (hunknown s hs))
      (variablesOf_drives.of_none (cut?_last rfl hlast))
  rw [render, depthFor, renderWithin_succ, level_result, hcalls, ok_bind,
    hloops _ fun _ _ => inferInstance, ok_bind, hconditionals _ fun _ _ => inferInstance, ok_bind,
    hvariables, map_ok]

end

end Slot

/-- Texts around variables stay as they are and the values are put between them, where these make
no two braces in a row and no doubled end of a tag. A text that ends in a brace loses it to the
directive behind it, together with the value. -/
theorem render_slots (tools : Toolbox) (ctx : Context) (slots : List Slot) (last : Text)
    (hbound : ∀ s ∈ slots, ctx.get? s.name.text = some (.ok (.text s.value)))
    (hbraces : ¬doubleBrace <:+: Slot.join Slot.filled slots last)
    (hdoubled : ¬Doubled (Slot.join Slot.filled slots last)) :
    ((∀ s ∈ slots, ¬s.Touches) →
      (render tools ctx (Slot.join Slot.text slots last)).result =
        .ok (Slot.join Slot.filled slots last)) ∧
    ((∀ s ∈ slots, s.Touches → Unknown tools ctx s.name.braced) →
      (render tools ctx (Slot.join Slot.text slots last)).result =
        .ok (settle (Slot.join Slot.shown slots last)) ∧
      ((render tools ctx (Slot.join Slot.text slots last)).result =
          .ok (Slot.join Slot.filled slots last) ↔ ∀ s ∈ slots, ¬s.Touches)) := by
  have hbefore : ∀ s ∈ slots, ¬doubleBrace <:+: s.before :=
    fun s hs hpart => hbraces (hpart.trans (Slot.infix_join hs))
  have hlast : ¬doubleBrace <:+: last :=
    fun hpart => hbraces (hpart.trans (List.suffix_append _ _).isInfix)
  have hclean : Clean (Slot.join Slot.filled slots last) := by
    refine ⟨?_, hdoubled⟩
    rintro ⟨before, inside, behind, -, heq⟩
    exact hbraces ⟨before, inside ++ '}' :: '}' :: behind, by simp [heq, doubleBrace, mark]⟩
  have hkept : (∀ s ∈ slots, ¬s.Touches) →
      (render tools ctx (Slot.join Slot.text slots last)).result =
        .ok (Slot.join Slot.filled slots last) := by
    intro hapart
    rw [Slot.render_join hbefore hlast hbound fun s hs htouches => absurd htouches (hapart s hs),
      Slot.join_shown hapart, settle_of_clean hclean]
  refine ⟨hkept, fun hunknown => ?_⟩
  have hrender := Slot.render_join hbefore hlast hbound hunknown
  refine ⟨hrender, fun h s hs htouches => ?_, hkept⟩
  rw [hrender, Except.ok.injEq] at h
  have hshorter := Slot.length_join_lt last hs htouches
  have hsettle := (settle_sublist (Slot.join Slot.shown slots last)).length_le
  rw [h] at hsettle
  omega

def objectSlots : List Slot :=
  [⟨"\x7b\"k\": \"".toList, boundName, "V".toList⟩,
    ⟨"\", \"l\": \"".toList, otherName, "Y".toList⟩]

theorem render_slots_object :
    (∀ s ∈ objectSlots,
      (boundContext (.text "V".toList)).get? s.name.text = some (.ok (.text s.value))) ∧
    ¬doubleBrace <:+: Slot.join Slot.filled objectSlots "\"\x7d".toList ∧
    ¬Doubled (Slot.join Slot.filled objectSlots "\"\x7d".toList) ∧
    (∀ s ∈ objectSlots, ¬s.Touches) ∧
    (render .standard (boundContext (.text "V".toList))
      (Slot.join Slot.text objectSlots "\"\x7d".toList)).result =
        .ok "\x7b\"k\": \"V\", \"l\": \"Y\"\x7d".toList := by
  have hbound : ∀ s ∈ objectSlots,
      (boundContext (.text "V".toList)).get? s.name.text = some (.ok (.text s.value)) := by
    simp only [objectSlots, List.forall_mem_cons]
    exact ⟨rfl, rfl, fun _ hmem => nomatch hmem⟩
  have hbraces : ¬doubleBrace <:+: Slot.join Slot.filled objectSlots "\"\x7d".toList := by decide
  have hdoubled : ¬Doubled (Slot.join Slot.filled objectSlots "\"\x7d".toList) :=
    not_doubled_of_not_mem (by decide)
  have hapart : ∀ s ∈ objectSlots, ¬s.Touches := by decide
  exact ⟨hbound, hbraces, hdoubled, hapart,
    (render_slots _ _ _ _ hbound hbraces hdoubled).1 hapart⟩

/-- A brace in front of the directive: `a{{{ bound }}b`. -/
def touchingSlot : Slot := ⟨"a\x7b".toList, boundName, "V".toList⟩

/-- The brace is lost together with the value. -/
theorem render_touching :
    (boundContext (.text "V".toList)).get? touchingSlot.name.text =
      some (.ok (.text touchingSlot.value)) ∧
    ¬doubleBrace <:+: Slot.join Slot.filled [touchingSlot] "b".toList ∧
    ¬Doubled (Slot.join Slot.filled [touchingSlot] "b".toList) ∧
    (render .standard (boundContext (.text "V".toList))
      (Slot.join Slot.text [touchingSlot] "b".toList)).result = .ok "ab".toList ∧
    Slot.join Slot.filled [touchingSlot] "b".toList = "a\x7bVb".toList := by
  refine ⟨rfl, by decide, not_doubled_of_not_mem (by decide), ?_, rfl⟩
  have hsettle : settle "ab".toList = "ab".toList :=
    settle_of_clean (clean_of_not_mem (by decide) (by decide))
  rw [Slot.render_join (by decide) (by decide) (List.forall_mem_singleton.mpr rfl)
    (List.forall_mem_singleton.mpr fun _ => ⟨rfl, rfl⟩)]
  exact congrArg Except.ok hsettle

end Template

end Stencil
