import Stencil.Proofs.Eval.Meaning
import Stencil.Proofs.Render.Settled
import Stencil.Proofs.Render.Simulate

namespace Stencil.Template

open Stencil.Text

/-! Values that come out of a render as they went in: those in which the cleanup finds nothing. -/

/-- Braces that open a directive stand in the text, and later ones that close it. -/
def HasDirective (s : Text) : Prop :=
  ∃ before inside behind : Text, inside.Unclosed ∧ s = before ++ (mark inside ++ behind)

/-- The cleanup finds nothing in the text. -/
structure Clean (s : Text) : Prop where
  no_directive : ¬HasDirective s
  not_doubled : ¬Doubled s

theorem HasDirective.of_infix {s t : Text} (h : HasDirective s) (hpart : s <:+: t) :
    HasDirective t := by
  obtain ⟨before, inside, behind, hinside, rfl⟩ := h
  obtain ⟨u, v, rfl⟩ := hpart
  exact ⟨u ++ before, inside, behind ++ v, hinside, by simp⟩

theorem Clean.of_infix {s t : Text} (h : Clean t) (hpart : s <:+: t) : Clean s where
  no_directive hd := h.no_directive (hd.of_infix hpart)
  not_doubled hd := h.not_doubled (hd.of_infix hpart)

theorem bare_iff {s : Text} : Bare s ↔ ¬HasDirective s := by
  constructor
  · rintro hbare ⟨before, inside, behind, hinside, rfl⟩
    have hread := strayDirective_mark hinside behind
    exact Scanner.not_lt_of_cut?_eq_none hbare (List.suffix_append _ _) hread
      (Stray.length_lt hread)
  · intro h
    apply Scanner.cut?_eq_none
    intro t ht
    cases hread : strayDirective t with
    | none => rfl
    | some found =>
        obtain ⟨before, rfl⟩ := ht
        obtain ⟨inside, hinside, rfl⟩ := eq_mark_of_strayDirective hread
        exact absurd ⟨before, inside, found.2, hinside, rfl⟩ h

theorem not_doubled_of_cut? {s : Text} (h : doubled.cut? s = none) : ¬Doubled s := by
  rintro ⟨before, blanks, behind, hblanks, rfl⟩
  have htrim : trimLeft (blanks ++ '"' :: '>' :: behind) = '"' :: '>' :: behind := by
    rw [trimLeft_append_stop (by decide), trimLeft, dropWhile_eq_nil hblanks, List.nil_append]
  have hread : doubled ('>' :: (blanks ++ '"' :: '>' :: behind)) = some (['>'], behind) := by
    rw [doubled, doubledEnd?, htrim]
    rfl
  refine Scanner.not_lt_of_cut?_eq_none h (List.suffix_append _ _) hread ?_
  simp only [List.length_cons, List.length_append]
  omega

theorem settle_of_clean {s : Text} (h : Clean s) : settle s = s := by
  have hbare := bare_iff.mpr h.no_directive
  have hstrays : removeStrays s = s :=
    Scanner.rewrite_of_cut? (List.forall_mem_map.mpr fun scan hmem =>
      ((stray_strays scan hmem).map fun _ => []).cut?_eq_none hbare)
  have hpass : cleanupPass s = s := by
    rw [cleanupPass, hstrays, mendMarkup_of_not_doubled h.not_doubled]
  rw [settle, hpass, if_neg (Nat.lt_irrefl _)]

theorem clean_settle (s : Text) : Clean (settle s) where
  no_directive := bare_iff.mp (bare_settle s)
  not_doubled := not_doubled_of_cut? (cut?_settle s doubled (by simp [rewritings, mendings]))

theorem settle_eq_self_iff {s : Text} : settle s = s ↔ Clean s :=
  ⟨fun h => h ▸ clean_settle s, settle_of_clean⟩

/-! Names that can stand in a directive by themselves. -/

/-- A name without blanks, braces, dots and what expressions are put together with, that begins like
none of the numbers, and is no control word and no literal. -/
structure Identifier where
  text : Text
  spelled : ∀ c ∈ text, Solid c ∧ c ∉ ['{', '}', '.', '-']
  ne_nil : text ≠ []
  start : ∀ c ∈ text.head?, isDecimal c = false
  not_control : text ∉ controlWords
  not_flag : text ≠ "true".toList ∧ text ≠ "false".toList

namespace Identifier

theorem solid (x : Identifier) : ∀ c ∈ x.text, Solid c := fun c hc => (x.spelled c hc).1

theorem not_mem (x : Identifier) {c : Char} (hc : c ∈ ['{', '}', '.', '-']) : c ∉ x.text :=
  fun hmem => (x.spelled c hmem).2 hc

theorem head?_words (x : Identifier) : (words x.text).head? = some x.text := by
  have hwords : (words ([] ++ (x.text ++ []))).head? = some x.text :=
    head?_words_append (fun _ hc => nomatch hc) (fun c hc => (x.solid c hc).1) x.ne_nil rfl
  simpa using hwords

def expression (x : Identifier) : Expression where
  text := x.text
  braceless c hc := ⟨fun h => x.not_mem (by decide) (h ▸ hc), fun h => x.not_mem (by decide) (h ▸ hc)⟩
  trimmed := trimmed_of_solid x.solid
  ne_nil := x.ne_nil
  isControl_eq_false := by
    rw [isControl, x.head?_words]
    simpa using x.not_control

theorem splitPipeline_eq (x : Identifier) : splitPipeline x.text = (x.text, []) := by
  have hone := (onePiece_of_solid (.inr rfl) x.solid : OnePiece '|' x.text).splitOutside_eq
  have htrim : trim x.text = x.text := x.expression.trimmed
  simp [splitPipeline, hone, htrim]

theorem parseLiteral_eq (x : Identifier) : parseLiteral x.text = .ok none := by
  obtain ⟨htrue, hfalse⟩ := x.not_flag
  have hhead : ∃ c ∈ x.text, isDecimal c = false := by
    obtain ⟨c, rest, htext⟩ := List.exists_cons_of_ne_nil x.ne_nil
    exact ⟨c, by simp [htext], x.start c (by simp [htext])⟩
  have hline : '\n' ∉ x.text := fun hmem => absurd (x.solid _ hmem) (by decide)
  have hinteger := looksInteger_eq_false (x.not_mem (by decide)) hline hhead
  have htrue' : (x.text == "true".toList) = false := by simpa using htrue
  have hfalse' : (x.text == "false".toList) = false := by simpa using hfalse
  simp only [parseLiteral, unquote_eq_none x.solid, htrue', hfalse', hinteger,
    Bool.false_eq_true, if_false]

theorem isName (x : Identifier) : IsName x.text where
  trimmed := x.expression.trimmed
  ne_nil := by simpa using x.ne_nil
  literal := x.parseLiteral_eq
  call := parseCall_eq_none_of_solid x.solid
  undotted := splitAt_of_not_mem (x.not_mem (by decide))
  head hhead := x.not_mem (by decide) (List.mem_of_mem_head? hhead)

theorem callIn?_eq (x : Identifier) : callIn? x.text = none := by
  rw [callIn?, parseCall_eq_none_of_solid x.solid]
  split <;> rfl

theorem substitution_eq {tools : Toolbox} {ctx : Context} (x : Identifier) {t : Text}
    (h : ctx.get? x.text = some (.ok (.text t))) : substitution tools ctx x.text = pure t :=
  substitution_of_value x.splitPipeline_eq (evaluate_of_get? x.isName h) rfl

end Identifier

/-! A variable by itself. -/

/-- `{{ x }}` -/
def nameMark (x : Identifier) : Text := mark (padded x.text)

section

variable {tools : Toolbox} {inner : Inner} {ctx : Context} (x : Identifier)

theorem enclosed_name : (padded x.text).Enclosed := enclosed_padded x.expression.braceless

theorem callsOf_nameMark : callsOf tools ctx (nameMark x) = .ok (nameMark x) := by
  have hcall : ∀ value, insideText? 0 (padded x.text) = some value → callIn? value = none := by
    intro value hvalue
    rw [show insideText? 0 (padded x.text) = some x.text from insideText?_expression x.expression]
      at hvalue
    cases hvalue
    exact x.callIn?_eq
  have hskip : callsOf tools ctx (nameMark x ++ []) = (nameMark x ++ ·) <$> callsOf tools ctx [] :=
    callsOf_skip (enclosed_name x) (loopIn_expression x.expression) hcall []
  rwa [callsOf_drives.nil, map_pure, List.append_nil] at hskip

theorem variablesOf_nameMark {t : Text} (h : ctx.get? x.text = some (.ok (.text t))) :
    variablesOf tools ctx (nameMark x) = .ok t := by
  have hvalue : variablesOf tools ctx (nameMark x ++ []) = _ :=
    variablesOf_value (enclosed_name x) (insideText?_expression x.expression)
      x.expression.isControl_eq_false []
  rw [Identifier.expression, x.substitution_eq h, Eval.result_pure, ok_bind,
    variablesOf_drives.nil, map_pure, List.append_nil, List.append_nil] at hvalue
  exact hvalue

variable [hinner : ∀ ctx s, Eval.Steady (inner ctx s)]

theorem loopsOf_nameMark : loopsOf tools inner ctx (nameMark x) = .ok (nameMark x) := by
  have hskip : loopsOf tools inner ctx (nameMark x ++ []) =
      (nameMark x ++ ·) <$> loopsOf tools inner ctx [] :=
    loopsOf_skip (enclosed_name x) (loopIn_expression x.expression) []
  rwa [loopsOf_drives.nil, map_pure, List.append_nil] at hskip

theorem conditionalsOf_nameMark :
    conditionalsOf tools inner ctx (nameMark x) = .ok (nameMark x) := by
  have hskip : conditionalsOf tools inner ctx (nameMark x ++ []) =
      (nameMark x ++ ·) <$> conditionalsOf tools inner ctx [] :=
    conditionalsOf_skip (enclosed_name x) (operandIn_expression x.expression) []
  rwa [conditionalsOf_drives.nil, map_pure, List.append_nil] at hskip

theorem level_nameMark {t : Text} (h : ctx.get? x.text = some (.ok (.text t))) :
    (level tools inner ctx (nameMark x)).result = .ok (settle t) := by
  rw [level_result, callsOf_nameMark, ok_bind, loopsOf_nameMark, ok_bind, conditionalsOf_nameMark,
    ok_bind, variablesOf_nameMark x h, map_ok]

end

/-! A loop that writes out its items. -/

def itemName : Identifier where
  text := "i".toList
  spelled := by decide
  ne_nil := by decide
  start := fun _ hc => by cases hc; rfl
  not_control := by decide
  not_flag := by decide

def itemsHead (x : Identifier) : Head :=
  .each ⟨"i".toList, by decide, by decide⟩ x.expression.toOperand

def itemsEnd : Text := mark (padded "endfor".toList)

/-- `{{ for i in x }}{{ i }}{{ endfor }}` -/
def itemsLoop (x : Identifier) : Text :=
  mark (itemsHead x).inside ++ (nameMark itemName ++ itemsEnd)

section

variable {tools : Toolbox} {inner : Inner} {ctx : Context} (x : Identifier) {xs : List Text}

theorem block?_items :
    (itemsHead x).opened.kind.block? (nameMark itemName ++ itemsEnd) =
      some ⟨nameMark itemName, none, [], itemsEnd, []⟩ := by
  have hbody : BlockKind.loop.Balanced (nameMark itemName) :=
    balanced_expression .loop itemName.expression
  have hblock := BlockKind.block?_of_balanced hbody (itemsHead x).closes_closer []
  rw [List.append_nil] at hblock
  exact hblock

theorem callsOf_itemsLoop : callsOf tools ctx (itemsLoop x) = .ok (itemsLoop x) := by
  rw [itemsLoop, callsOf_loop (itemsHead x).enclosed_inside (itemsHead x).loopIn_inside,
    block?_items]
  simp only [callsOf_drives.nil, map_pure, Block.text, List.append_nil]
  rfl

theorem get?_item (i : Nat) (v : Value) :
    (ctx.child (turnScope (some itemName.text) i v)).get? itemName.text = some (.ok v) := rfl

variable [hinner : ∀ ctx s, Eval.Steady (inner ctx s)]

theorem renderTurns_items (hitem : ∀ (ctx : Context) (t : Text),
      ctx.get? itemName.text = some (.ok (.text t)) →
        (inner ctx (nameMark itemName)).result = .ok (settle t)) (index : Nat) :
    (renderTurns inner ctx (some itemName.text) (nameMark itemName) index (xs.map .text)).result =
      .ok (xs.map settle).flatten := by
  induction xs generalizing index with
  | nil => rfl
  | cons t xs ih =>
      rw [List.map_cons, renderTurns_cons_result, hitem _ t (get?_item index (.text t)), ih]
      rfl

theorem loopsOf_itemsLoop (h : ctx.get? x.text = some (.ok (.list (xs.map .text))))
    (hitem : ∀ (ctx : Context) (t : Text), ctx.get? itemName.text = some (.ok (.text t)) →
      (inner ctx (nameMark itemName)).result = .ok (settle t)) :
    loopsOf tools inner ctx (itemsLoop x) = .ok (xs.map settle).flatten := by
  have hitems : evaluate tools ctx x.text = pure (.list (xs.map .text)) :=
    evaluate_of_get? x.isName h
  have hloop : (renderLoop tools inner ctx (itemsHead x).opened (nameMark itemName)).result =
      .ok (xs.map settle).flatten := by
    have hsource : (itemsHead x).opened.source = x.text := rfl
    rw [renderLoop_result, hsource, hitems, Eval.result_pure, ok_bind]
    exact renderTurns_items hitem 0
  rw [itemsLoop, loopsOf_loop (itemsHead x).enclosed_inside (itemsHead x).loopIn_inside,
    block?_items]
  simp only [hloop, ok_bind, loopsOf_drives.nil]
  exact congrArg Except.ok (List.append_nil _)

end

/-! Renders of the two templates. -/

section

variable {tools : Toolbox} {ctx : Context} (x : Identifier)

theorem render_nameMark {t : Text} (h : ctx.get? x.text = some (.ok (.text t))) :
    (render tools ctx (nameMark x)).result = .ok (settle t) :=
  level_nameMark x h

/-- Where the items in a row are clean, so is each of them, and no stage behind the loops finds
anything. -/
theorem render_itemsLoop_iff {xs : List Text}
    (h : ctx.get? x.text = some (.ok (.list (xs.map .text)))) :
    (render tools ctx (itemsLoop x)).result = .ok xs.flatten ↔ Clean xs.flatten := by
  constructor
  · intro hrender
    obtain ⟨s, hs⟩ := exists_settle_of_render hrender
    rw [hs]
    exact clean_settle s
  · intro hclean
    have hsettled : xs.map settle = xs := by
      refine (List.map_congr_left fun t hmem => ?_).trans (List.map_id xs)
      exact settle_of_clean (hclean.of_infix (List.infix_of_mem_flatten hmem))
    have hbare : Bare xs.flatten := bare_iff.mpr hclean.no_directive
    have hloops : loopsOf tools (renderWithin tools ((itemsLoop x).length + 999)) ctx (itemsLoop x) =
        .ok (xs.map settle).flatten := loopsOf_itemsLoop x h fun _ _ => level_nameMark itemName
    rw [hsettled] at hloops
    rw [render, depthFor, renderWithin_succ, level_result, callsOf_itemsLoop, ok_bind, hloops,
      ok_bind, conditionalsOf, expandConditionals_of_bare _ _ _ hbare, Eval.result_pure, ok_bind,
      variablesOf, expandVariables_of_bare _ _ hbare, Eval.result_pure, map_ok,
      settle_of_clean hclean]

end

theorem get?_create {site : Option Site} {page : Option Page} {extra : Scope} {now : Moment}
    {name : Text} {v : Value} (h : extra.lookup name = some v) :
    (Context.create site page extra now).get? name = some (.ok v) := by
  simp only [Context.create, Context.get?, List.findSome?_cons, h]

/-- A name bound to a text stands for what the text settles to: the text itself exactly if the
cleanup finds nothing in it. A loop that writes out texts gives them in a row exactly if the cleanup
finds nothing in the row, in one of them or where two meet. -/
theorem render_bound_iff (tools : Toolbox) (site : Option Site) (page : Option Page)
    (extra : Scope) (now : Moment) (x : Identifier) :
    (∀ t, extra.lookup x.text = some (.text t) →
      (render tools (.create site page extra now) (nameMark x)).result = .ok (settle t) ∧
        ((render tools (.create site page extra now) (nameMark x)).result = .ok t ↔ Clean t)) ∧
    ∀ xs : List Text, extra.lookup x.text = some (.list (xs.map .text)) →
      ((render tools (.create site page extra now) (itemsLoop x)).result = .ok xs.flatten ↔
        Clean xs.flatten) := by
  constructor
  · intro t ht
    have hrender : (render tools (.create site page extra now) (nameMark x)).result =
        .ok (settle t) := render_nameMark x (get?_create ht)
    refine ⟨hrender, ?_⟩
    rw [hrender, Except.ok.injEq]
    exact settle_eq_self_iff
  · intro xs hxs
    exact render_itemsLoop_iff x (get?_create hxs)

theorem clean_of_not_mem {s : Text} (hbrace : '}' ∉ s) (hend : '>' ∉ s) : Clean s where
  no_directive := by
    rintro ⟨before, inside, behind, -, rfl⟩
    exact hbrace (by simp [mark])
  not_doubled := not_doubled_of_not_mem hend

def boundName : Identifier where
  text := "bound".toList
  spelled := by decide
  ne_nil := by decide
  start := fun _ hc => by cases hc; rfl
  not_control := by decide
  not_flag := by decide

def otherName : Identifier where
  text := "other".toList
  spelled := by decide
  ne_nil := by decide
  start := fun _ hc => by cases hc; rfl
  not_control := by decide
  not_flag := by decide

def boundExtra (v : Value) : Scope := [("bound".toList, v), ("other".toList, .text "Y".toList)]

def boundContext (v : Value) : Context :=
  .create none none (boundExtra v) ⟨⟨2024, 6, 1⟩, 12, 0, 0, 0, none⟩

/-- Braces that open a directive which nothing closes. -/
def openParts : List Text := ["\x7b".toList, "\x7b other".toList]

theorem render_bound_iff_open :
    (boundExtra (.text openParts.flatten)).lookup boundName.text = some (.text openParts.flatten) ∧
      (render .standard (boundContext (.text openParts.flatten)) (nameMark boundName)).result =
        .ok openParts.flatten ∧
      (boundExtra (.list (openParts.map .text))).lookup boundName.text =
        some (.list (openParts.map .text)) ∧
      (render .standard (boundContext (.list (openParts.map .text))) (itemsLoop boundName)).result =
        .ok openParts.flatten := by
  have hclean : Clean openParts.flatten := clean_of_not_mem (by decide) (by decide)
  exact ⟨rfl, ((render_bound_iff _ _ _ _ _ boundName).1 _ rfl).2.mpr hclean, rfl,
    ((render_bound_iff _ _ _ _ _ boundName).2 openParts rfl).mpr hclean⟩

/-- Braces that open a directive in one item, and close it in the next. -/
def closedParts : List Text := ["\x7b".toList, "\x7b other \x7d\x7d".toList]

/-- A directive in a text is lost, and one that two items make is followed. -/
theorem render_bound_differs :
    (render .standard (boundContext (.text closedParts.flatten)) (nameMark boundName)).result =
        .ok [] ∧
      (render .standard (boundContext (.list (closedParts.map .text)))
        (itemsLoop boundName)).result = .ok "Y".toList ∧
      closedParts.flatten ≠ [] ∧ closedParts.flatten ≠ "Y".toList := by
  refine ⟨?_, ?_, by decide, by decide⟩
  · have hsettle : settle closedParts.flatten = [] := by cbv
    rw [render_nameMark boundName rfl, hsettle]
  · have hsettled : closedParts.map settle = closedParts := by cbv
    have hloops : loopsOf .standard (renderWithin .standard ((itemsLoop boundName).length + 999))
        (boundContext (.list (closedParts.map .text))) (itemsLoop boundName) =
          .ok (closedParts.map settle).flatten :=
      loopsOf_itemsLoop boundName rfl fun _ _ => level_nameMark itemName
    have hother : closedParts.flatten = nameMark otherName := rfl
    have hsettle : settle "Y".toList = "Y".toList :=
      settle_of_clean (clean_of_not_mem (by decide) (by decide))
    rw [hsettled, hother] at hloops
    rw [render, depthFor, renderWithin_succ, level_result, callsOf_itemsLoop, ok_bind, hloops,
      ok_bind, conditionalsOf_nameMark, ok_bind,
      variablesOf_nameMark otherName rfl, map_ok, hsettle]

end Stencil.Template
