import Stencil.Proofs.Render.Lockstep

namespace Stencil.Template

open Stencil.Text

/-! How deep a render goes. Where no directive opens in what the directives of a template give, the
template bounds it. -/

/-- The contexts that the loops of a template bring about. -/
inductive Turns (tools : Toolbox) (insides : List Text) (ctx : Context) : Context → Prop
  | start : Turns tools insides ctx ctx
  | turn {reached : Context} {inside : Text} {head : LoopHead} {v : Value} {scope : Scope}
      (hreached : Turns tools insides ctx reached) (hmem : inside ∈ insides)
      (hloop : loopIn inside = some head)
      (hv : (evaluate tools reached head.source).result = .ok v)
      (hscope : scope ∈ turnScopes head.name v) :
      Turns tools insides ctx (reached.child scope)

/-- No directive opens in what a template's directives give, whatever scope they stand in. -/
def Inert (tools : Toolbox) (insides : List Text) (ctx : Context) : Prop :=
  ∀ {reached : Context}, Turns tools insides ctx reached →
    ∀ {inside value out : Text}, inside ∈ insides → insideText? 0 inside = some value →
      isControl value = false → (substitution tools reached value).result = .ok out →
        out.Unopened

/-- A render that never goes below a depth: what is done there makes no difference. -/
def EndsWithin (tools : Toolbox) (depth : Nat) (ctx : Context) (s : Text) : Prop :=
  ∀ bottom : Inner, (∀ ctx s, Eval.Steady (bottom ctx s)) →
    (renderOver tools bottom depth ctx s).result = (renderWithin tools depth ctx s).result

section

variable {tools : Toolbox} {insides : List Text} {ctx : Context}

theorem Inert.bisimulation (h : Inert tools insides ctx) :
    Bisimulation tools insides fun reached other =>
      reached = other ∧ Turns tools insides ctx reached where
  value := by
    rintro reached _ inside value ⟨rfl, hreached⟩ hmem hvalue hcontrol
    exact ⟨rfl, fun out hout => h hreached hmem hvalue hcontrol hout⟩
  condition := by
    rintro reached _ inside condition ⟨rfl, _⟩ _ _
    rfl
  source := by
    rintro reached _ inside head ⟨rfl, _⟩ _ _
    rfl
  turn := by
    rintro reached _ inside head v scope ⟨rfl, hreached⟩ hmem hloop hv hscope
    exact ⟨rfl, hreached.turn hmem hloop hv hscope⟩

theorem EndsWithin.add {depth : Nat} {s : Text} (h : EndsWithin tools depth ctx s) (more : Nat) :
    EndsWithin tools (more + depth) ctx s ∧
      (renderWithin tools (more + depth) ctx s).result =
        (renderWithin tools depth ctx s).result := by
  have hover : ∀ bottom : Inner, (∀ ctx s, Eval.Steady (bottom ctx s)) →
      (renderOver tools bottom (more + depth) ctx s).result =
        (renderWithin tools depth ctx s).result := by
    intro bottom hbottom
    rw [renderOver_add]
    exact h _ fun ctx s => inferInstance
  have hwithin := hover (fun _ _ => throw .tooDeep) fun _ _ => inferInstance
  rw [← renderWithin_eq_renderOver] at hwithin
  exact ⟨fun bottom hbottom => (hover bottom hbottom).trans hwithin.symm, hwithin⟩

end

theorem length_directives_lt_depthFor (tokens : List Token) :
    (directives tokens).length < depthFor (spell tokens) := by
  have hle := length_directives_le tokens
  unfold depthFor
  omega

/-- `{{ for v in xs }}{{ v }}, {{ endfor }}` -/
def listing : List Token :=
  [.directive ⟨" for v in xs ".toList, by decide⟩, .directive ⟨" v ".toList, by decide⟩,
    .text ⟨", ".toList, by decide⟩, .directive ⟨" endfor ".toList, by decide⟩]

/-- Values with braces, of which none opens a directive. -/
def listingItems : List Value :=
  [.text "\x7b a \x7d".toList, .text "b \x7d\x7d".toList]

def listingContext : Context :=
  .create none none [("xs".toList, .list listingItems), ("v".toList, .text "none".toList)]
    ⟨⟨2024, 6, 1⟩, 12, 0, 0, 0, none⟩

theorem isName_xs : IsName "xs".toList := ⟨rfl, rfl, rfl, rfl, rfl, by decide⟩

theorem isName_v : IsName "v".toList := ⟨rfl, rfl, rfl, rfl, rfl, by decide⟩

theorem get?_xs_child (ctx : Context) (i : Nat) (v : Value) :
    (ctx.child (turnScope (some "v".toList) i v)).get? "xs".toList = ctx.get? "xs".toList := rfl

theorem loopIn_listing {inside : Text} {head : LoopHead} (hmem : inside ∈ directives listing)
    (hloop : loopIn inside = some head) : head = ⟨.loop, some "v".toList, "xs".toList⟩ := by
  have hfor : loopIn " for v in xs ".toList = some ⟨.loop, some "v".toList, "xs".toList⟩ := rfl
  have hvalue : loopIn " v ".toList = none := rfl
  have hend : loopIn " endfor ".toList = none := rfl
  simp only [listing, directives_directive, directives_text, directives_nil, List.mem_cons,
    List.not_mem_nil, or_false] at hmem
  rcases hmem with rfl | rfl | rfl
  · rw [hfor] at hloop
    exact (Option.some.inj hloop).symm
  · rw [hvalue] at hloop
    cases hloop
  · rw [hend] at hloop
    cases hloop

theorem turns_listing {reached : Context}
    (h : Turns .standard (directives listing) listingContext reached) :
    reached.get? "xs".toList = some (.ok (.list listingItems)) ∧
      ∃ t : Text, evaluate .standard reached "v".toList = pure (.text t) ∧ t.Unopened := by
  have hscopes : turnScopes (some "v".toList) (.list listingItems) =
      [turnScope (some "v".toList) 0 (.text "\x7b a \x7d".toList),
        turnScope (some "v".toList) 1 (.text "b \x7d\x7d".toList)] := rfl
  induction h with
  | start => exact ⟨rfl, "none".toList, evaluate_of_get? isName_v rfl, by decide⟩
  | turn _ hmem hloop hsource hscope ih =>
      cases loopIn_listing hmem hloop
      rw [evaluate_of_get? isName_xs ih.1] at hsource
      cases hsource
      rw [hscopes] at hscope
      simp only [List.mem_cons, List.not_mem_nil, or_false] at hscope
      rcases hscope with rfl | rfl
      · exact ⟨(get?_xs_child _ _ _).trans ih.1, "\x7b a \x7d".toList,
          evaluate_of_get? isName_v rfl, by decide⟩
      · exact ⟨(get?_xs_child _ _ _).trans ih.1, "b \x7d\x7d".toList,
          evaluate_of_get? isName_v rfl, by decide⟩

theorem inert_listing : Inert .standard (directives listing) listingContext := by
  intro reached h inside value out hmem hvalue hcontrol hout
  obtain ⟨_, t, ht, hopen⟩ := turns_listing h
  simp only [listing, directives_directive, directives_text, directives_nil,
    List.mem_cons, List.not_mem_nil, or_false] at hmem
  rcases hmem with rfl | rfl | rfl
  · cases hvalue
    cases hcontrol
  · cases hvalue
    have hgiven : (substitution .standard reached "v".toList).result = .ok out := hout
    rw [substitution_of_value rfl ht rfl] at hgiven
    cases hgiven
    exact hopen
  · cases hvalue
    cases hcontrol

section

variable {tools : Toolbox} {inner : Inner} {ctx : Context} {e : Fault} {s : Text}

theorem not_endsWithin_of_error
    (h : ∀ e depth, (renderOver tools (fun _ _ => throw e) depth ctx s).result = .error e) :
    ¬∃ depth, EndsWithin tools depth ctx s := by
  rintro ⟨depth, hends⟩
  have hother := hends (fun _ _ => throw .overflow) fun _ _ => inferInstance
  rw [renderWithin_eq_renderOver, h, h] at hother
  cases hother

variable [hinner : ∀ ctx s, Eval.Steady (inner ctx s)]

/-- A level that puts its own text into a conditional hands it on to the next level. -/
theorem level_of_echo {called behind : Text} {b : Block}
    (hcalls : callsOf tools ctx s = .ok called)
    (hloops : loopsOf tools inner ctx called = .ok (mark " if true ".toList ++ behind))
    (hblock : BlockKind.conditional.block? behind = some b) (hfirst : b.first = s)
    (hnext : (inner ctx s).result = .error e) : (level tools inner ctx s).result = .error e := by
  have hcondition : (evaluate tools ctx "true".toList).result = .ok (.bool true) := by
    rw [evaluate_of_literal rfl rfl, Eval.result_pure]
  have hchosen : conditionalsOf tools inner ctx (mark " if true ".toList ++ behind) = .error e := by
    have hif : operandIn "if".toList " if true ".toList = some "true".toList := rfl
    rw [conditionalsOf_if (by decide) hif, hblock]
    simp only [hcondition, ok_bind, Value.truthy, if_true, hfirst, hnext]
    rfl
  rw [level_result, hcalls, ok_bind, hloops, ok_bind, hchosen]
  rfl

theorem level_of_flat {called : Text} (hcalls : callsOf tools ctx s = .ok called)
    (hloops : loopHead.cut? called = none) (hifs : (operand "if".toList).cut? called = none) :
    (level tools inner ctx s).result = settle <$> variablesOf tools ctx called := by
  have hloops' : loopsOf tools inner ctx called = .ok called := loopsOf_drives.of_none hloops
  have hifs' : conditionalsOf tools inner ctx called = .ok called :=
    conditionalsOf_drives.of_none hifs
  rw [level_result, hcalls, ok_bind, hloops', ok_bind, hifs', ok_bind]

end

/-- `{{ if true }}{{ trim(x) }}{{ endif }}` -/
def echo : Text :=
  mark " if true ".toList ++ (mark " trim(x) ".toList ++ mark " endif ".toList)

/-- A context in which `{{ trim(x) }}` gives a directive that gives it again. -/
def echoContext : Context :=
  .create none none [("x".toList, .text echo)] ⟨⟨2024, 6, 1⟩, 12, 0, 0, 0, none⟩

theorem isName_x : IsName "x".toList := ⟨rfl, rfl, rfl, rfl, rfl, by decide⟩

theorem callsOf_trim {ctx : Context} {t : Text}
    (hargument : resolveArgument .standard ctx "x".toList = pure (.text t)) :
    callsOf .standard ctx (mark " trim(x) ".toList) = .ok (trim t) := by
  have hcall : callIn? "trim(x)".toList = some ("trim".toList, "x".toList) := rfl
  have hcalls : callsOf .standard ctx (mark " trim(x) ".toList ++ []) = _ :=
    callsOf_call (by decide) rfl rfl hcall []
  rw [substitution_of_callIn? hcall, call_of_text rfl hargument, callsOf_drives.nil] at hcalls
  exact hcalls.trans (congrArg Except.ok (List.append_nil _))

theorem renderOver_echo (e : Fault) (depth : Nat) :
    (renderOver .standard (fun _ _ => throw e) depth echoContext
      (mark " trim(x) ".toList)).result = .error e := by
  induction depth with
  | zero => rfl
  | succ depth ih =>
      have hargument : resolveArgument .standard echoContext "x".toList = pure (.text echo) :=
        resolveArgument_of_get? isName_x rfl
      have hloops : loopsOf .standard (renderOver .standard (fun _ _ => throw e) depth)
          echoContext echo = .ok echo := loopsOf_drives.of_none rfl
      have hblock : BlockKind.conditional.block?
          (mark " trim(x) ".toList ++ mark " endif ".toList) =
            some ⟨mark " trim(x) ".toList, none, [], mark " endif ".toList, []⟩ := by
        rw [BlockKind.block?, BlockKind.readBlock?_eq]
        rfl
      exact level_of_echo (callsOf_trim hargument) hloops hblock rfl ih

/-- `{{ . }}{`, the body of a loop whose turns run into one another. -/
def ajarBody : Text := mark " . ".toList ++ ['{']

/-- `{{ range x }}{{ . }}{{{ end }}` -/
def ajar : Text := mark " range x ".toList ++ (ajarBody ++ mark " end ".toList)

theorem level_ajarBody (inner : Inner) [∀ ctx s, Eval.Steady (inner ctx s)] (ctx : Context)
    (index : Nat) (t : Text) :
    (level .standard inner (ctx.child (turnScope none index (.text t))) ajarBody).result =
      .ok (settle (t ++ ['{'])) := by
  have hcalls : callsOf .standard (ctx.child (turnScope none index (.text t))) ajarBody =
      .ok ajarBody := by
    have hskip : callsOf .standard (ctx.child (turnScope none index (.text t)))
        (mark " . ".toList ++ ['{']) = _ :=
      callsOf_skip (by decide) rfl (by rintro value hvalue; cases hvalue; rfl) ['{']
    rw [callsOf_drives.of_none (s := ['{']) rfl] at hskip
    exact hskip
  have hvariables : variablesOf .standard (ctx.child (turnScope none index (.text t))) ajarBody =
      .ok (t ++ ['{']) := by
    have hdot : insideText? 0 " . ".toList = some ['.'] := rfl
    have hput : variablesOf .standard (ctx.child (turnScope none index (.text t)))
        (mark " . ".toList ++ ['{']) = _ := variablesOf_value (by decide) hdot rfl ['{']
    have hvalue : evaluate .standard (ctx.child (turnScope none index (.text t))) ['.'] =
        pure (.text t) := by
      rw [evaluate_eq]
      rfl
    rw [substitution_of_value rfl hvalue rfl, variablesOf_drives.of_none (s := ['{']) rfl] at hput
    exact hput
  rw [level_of_flat hcalls rfl rfl, hvariables, map_ok]

theorem renderTurns_ajar (inner : Inner) [∀ ctx s, Eval.Steady (inner ctx s)] (ctx : Context)
    {items : List Text} (hitems : ∀ t ∈ items, settle (t ++ ['{']) = t ++ ['{']) (index : Nat) :
    (renderTurns (level .standard inner) ctx none ajarBody index (items.map .text)).result =
      .ok (items.flatMap (· ++ ['{'])) := by
  induction items generalizing index with
  | nil => rfl
  | cons t items ih =>
      have hrest := ih (fun other hmem => hitems other (List.mem_cons_of_mem _ hmem)) (index + 1)
      rw [List.map_cons, renderTurns_cons_result, level_ajarBody, hrest,
        hitems t List.mem_cons_self, ok_bind, map_ok, List.flatMap_cons]

section

variable {ctx : Context} {items : List Text}

theorem loopIn_ajar : loopIn " range x ".toList = some ⟨.range, none, "x".toList⟩ := rfl

theorem block?_ajar : BlockKind.range.block? (ajarBody ++ mark " end ".toList) =
    some ⟨ajarBody, none, [], mark " end ".toList, []⟩ := by
  rw [BlockKind.block?, BlockKind.readBlock?_eq]
  rfl

theorem callsOf_ajar : callsOf .standard ctx ajar = .ok ajar := by
  rw [ajar, callsOf_loop (by decide) loopIn_ajar, block?_ajar]
  simp only [callsOf_drives.nil]
  rfl

theorem loopsOf_ajar (hitems : evaluate .standard ctx "x".toList = pure (.list (items.map .text)))
    (inner : Inner) [∀ ctx s, Eval.Steady (inner ctx s)] :
    loopsOf .standard inner ctx ajar =
      (renderTurns inner ctx none ajarBody 0 (items.map .text)).result := by
  have hsource : (evaluate .standard ctx "x".toList).result = .ok (.list (items.map .text)) := by
    rw [hitems, Eval.result_pure]
  rw [ajar, loopsOf_loop (by decide) loopIn_ajar, block?_ajar]
  simp only [renderLoop_result, hsource, ok_bind, Value.sequence?, loopsOf_drives.nil]
  cases (renderTurns inner ctx none ajarBody 0 (items.map .text)).result with
  | error e => rfl
  | ok out => exact congrArg Except.ok (List.append_nil out)

end

def ajarItems : List Text :=
  ["", "\x7b if true \x7d\x7d", "\x7b range x \x7d\x7d", "\x7b . \x7d\x7d", "",
    "\x7b end \x7d\x7d", "\x7b endif \x7d\x7d"].map String.toList

/-- A context in which no directive opens in a value, but one does between the turns of a loop. -/
def ajarContext : Context :=
  .create none none [("x".toList, .list (ajarItems.map .text))]
    ⟨⟨2024, 6, 1⟩, 12, 0, 0, 0, none⟩

theorem settle_ajarItems : ∀ t ∈ ajarItems, settle (t ++ ['{']) = t ++ ['{'] := by
  simp only [ajarItems, List.map_cons, List.map_nil, List.forall_mem_cons]
  exact ⟨by cbv, by cbv, by cbv, by cbv, by cbv, by cbv, by cbv, fun _ hmem => nomatch hmem⟩

theorem renderOver_ajar (e : Fault) (depth : Nat) :
    (renderOver .standard (fun _ _ => throw e) depth ajarContext ajar).result = .error e := by
  have hitems : evaluate .standard ajarContext "x".toList =
      pure (.list (ajarItems.map .text)) := evaluate_of_get? isName_x rfl
  induction depth with
  | zero => rfl
  | succ depth ih =>
      cases depth with
      | zero =>
          -- The first turn is already too deep.
          have hlooped := loopsOf_ajar hitems fun _ _ => throw e
          rw [ajarItems, List.map_cons, List.map_cons, renderTurns_cons_result] at hlooped
          rw [renderOver, renderOver, level_result, callsOf_ajar, ok_bind, hlooped]
          rfl
      | succ depth =>
          have hlooped :=
            loopsOf_ajar hitems (renderOver .standard (fun _ _ => throw e) (depth + 1))
          rw [renderOver, renderTurns_ajar _ _ settle_ajarItems] at hlooped
          have hnext : BlockKind.conditional.block?
              (ajar ++ (mark " endif ".toList ++ ['{'])) =
                some ⟨ajar, none, [], mark " endif ".toList, ['{']⟩ := by
            rw [BlockKind.block?, BlockKind.readBlock?_eq]
            rfl
          exact level_of_echo callsOf_ajar hlooped hnext rfl ih

end Stencil.Template
