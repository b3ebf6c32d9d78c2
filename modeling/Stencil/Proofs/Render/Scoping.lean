import Stencil.Proofs.Eval.Meaning
import Stencil.Proofs.Render.Forest
import Stencil.Proofs.Render.LoopBodies

namespace Stencil

open Stencil.Text

namespace Template

/-! The turns of the loops around a fragment, and what a name stands for inside them. -/

/-- One turn of a loop: the name that the loop gives its items, and which item it is at. -/
structure Turn where
  name : Option Variable
  index : Nat
  item : Value

def Turn.scope (turn : Turn) : Scope :=
  turnScope (turn.name.map Variable.text) turn.index turn.item

end Template

namespace Context

open Stencil.Template

/-- The context inside the turns of loops, the innermost first. -/
def inTurns (ctx : Context) : List Turn → Context
  | [] => ctx
  | turn :: turns => (ctx.inTurns turns).child turn.scope

theorem root?_child (ctx : Context) (scope : Scope) (name : Text) :
    (ctx.child scope).root? name = ctx.root? name := by
  have hroots : roots.map (fun root => root.2 (ctx.child scope)) =
      roots.map fun root => root.2 ctx := rfl
  unfold root?
  cases hfind : roots.find? fun root => root.1.toList == name with
  | none => rfl
  | some root =>
      exact congrArg some (List.map_inj_left.mp hroots root (List.mem_of_find?_eq_some hfind))

theorem get?_child (ctx : Context) (scope : Scope) (name : Text) :
    (ctx.child scope).get? name = ((scope.lookup name).map .ok).or (ctx.get? name) := by
  unfold get?
  rw [root?_child, child, List.findSome?_cons]
  cases scope.lookup name <;> rfl

/-- A name stands for what the innermost turn binds it to, whatever is bound around that turn. -/
theorem get?_inTurns (ctx : Context) (turns : List Turn) (name : Text) :
    (ctx.inTurns turns).get? name =
      ((turns.findSome? fun turn => turn.scope.lookup name).map .ok).or (ctx.get? name) := by
  induction turns with
  | nil => rfl
  | cons turn turns ih =>
      rw [inTurns, get?_child, ih, List.findSome?_cons]
      cases turn.scope.lookup name <;> rfl

/-! Names with a dollar. -/

theorem root?_dollar (ctx : Context) (name : Text) : ctx.root? ('$' :: name) = none := by
  have hheads : (roots.map fun root => root.1.toList.head?).all (· != some '$') = true := by decide
  have hfind : roots.find? (fun root => root.1.toList == '$' :: name) = none := by
    refine List.find?_eq_none.mpr fun root hroot hname => ?_
    have hhead := List.all_eq_true.mp hheads _ (List.mem_map_of_mem hroot)
    rw [beq_iff_eq.mp hname, List.head?_cons] at hhead
    exact absurd hhead (by decide)
  unfold root?
  rw [hfind, Option.map_none]

theorem get?_dollar_create (site : Option Site) (page : Option Page) (extra : Scope) (now : Moment)
    (name : Text) :
    (create site page extra now).get? ('$' :: name) = (extra.lookup ('$' :: name)).map .ok := by
  unfold get?
  rw [root?_dollar, create, List.findSome?_singleton]
  cases extra.lookup ('$' :: name) <;> rfl

end Context

namespace Template

open Context

namespace Variable

variable (v : Variable)

theorem dollar_not_mem : '$' ∉ v.text := fun hmem => absurd (v.isWord _ hmem) (by decide)

theorem solid_dollar : ∀ c ∈ '$' :: v.text, Solid c :=
  List.forall_mem_cons.mpr ⟨by decide, fun c hc => solid_of_isWord (v.isWord c hc)⟩

theorem not_mem_dollar {c : Char} (hc : Text.isWord c = false) (hne : c ≠ '$') :
    c ∉ '$' :: v.text := by
  intro hmem
  rcases List.mem_cons.mp hmem with heq | hmem
  · exact hne heq
  · rw [v.isWord c hmem] at hc
    cases hc

/-- With its dollar a variable is read as a name, also where the word alone is a number or a
flag. -/
theorem isName_dollar : IsName ('$' :: v.text) where
  trimmed := trimmed_of_solid v.solid_dollar
  ne_nil := rfl
  literal := by
    have hinteger : looksInteger ('$' :: v.text) = false :=
      looksInteger_eq_false (v.not_mem_dollar (by decide) (by decide))
        (v.not_mem_dollar (by decide) (by decide)) ⟨'$', List.mem_cons_self, by decide⟩
    have hflag : ∀ word : Text, word.head? ≠ some '$' → ('$' :: v.text == word) = false := by
      intro word hhead
      rw [beq_eq_false_iff_ne]
      rintro rfl
      exact hhead rfl
    simp only [parseLiteral, unquote_eq_none v.solid_dollar, hflag "true".toList (by decide),
      hflag "false".toList (by decide), hinteger, Bool.false_eq_true, if_false]
  call := parseCall_eq_none_of_solid v.solid_dollar
  undotted := splitAt_of_not_mem (v.not_mem_dollar (by decide) (by decide))
  head := by simp

end Variable

theorem isName_index : IsName "$index".toList := ⟨rfl, rfl, rfl, rfl, rfl, by decide⟩

section

variable {tools : Toolbox} {ctx : Context} {v : Value}

theorem evaluate_dot (h : ctx.get? ['.'] = some (.ok v)) : evaluate tools ctx ['.'] = pure v := by
  have hlookup : ctx.lookup ['.'] = .ok v := by rw [lookup, lookup?_of_get? h]; rfl
  have hpath : resolvePath tools ctx ['.'] = pure v := by
    rw [resolvePath, hlookup]
    rfl
  have htrim : trim ['.'] = ['.'] := rfl
  have hliteral : parseLiteral ['.'] = .ok none := rfl
  have hcall : parseCall ['.'] = none := rfl
  rw [evaluate_eq, htrim, literalOr, hliteral, hcall, hpath]
  rfl

end

/-! What a turn binds. -/

namespace Turn

variable (turn : Turn)

theorem lookup_dot : turn.scope.lookup ['.'] = some turn.item := by
  unfold scope turnScope
  split <;> rfl

theorem lookup_index : turn.scope.lookup "$index".toList = some (.int turn.index) := by
  unfold scope turnScope
  split <;> rfl

theorem lookup_name {turn : Turn} {v : Variable} (h : turn.name = some v) :
    turn.scope.lookup v.text = some turn.item := by
  have hdot : (v.text == ['.']) = false := by
    rw [beq_eq_false_iff_ne]
    intro heq
    exact absurd (v.isWord '.' (by simp [heq])) (by decide)
  have hindex : (v.text == "$index".toList) = false := by
    rw [beq_eq_false_iff_ne]
    intro heq
    exact absurd (v.isWord '$' (by simp [heq])) (by decide)
  simp only [scope, turnScope, h, Option.map_some, List.cons_append, List.nil_append,
    List.lookup_cons, hdot, hindex, BEq.rfl]

theorem lookup_dollar {name : Text} (h : name ≠ "index".toList) :
    turn.scope.lookup ('$' :: name) = none := by
  have hindex : ('$' :: name == "$index".toList) = false := by
    rw [beq_eq_false_iff_ne]
    intro heq
    exact h (List.cons.inj heq).2
  cases hname : turn.name with
  | none =>
      simp only [scope, turnScope, hname, Option.map_none, List.lookup_cons, hindex,
        List.lookup_nil]
      rfl
  | some v =>
      have hv : ('$' :: name == v.text) = false := by
        rw [beq_eq_false_iff_ne]
        intro heq
        exact v.dollar_not_mem (heq ▸ List.mem_cons_self)
      simp only [scope, turnScope, hname, Option.map_some, List.cons_append, List.nil_append,
        List.lookup_cons, hindex, hv, List.lookup_nil]
      rfl

end Turn

/-- No turn hides what a name with a dollar stands for around the loops. -/
theorem get?_dollar_inTurns (ctx : Context) (turns : List Turn) {name : Text}
    (h : name ≠ "index".toList) :
    (ctx.inTurns turns).get? ('$' :: name) = ctx.get? ('$' :: name) := by
  have hnone : turns.findSome? (fun turn => turn.scope.lookup ('$' :: name)) = none :=
    List.findSome?_eq_none_iff.mpr fun turn _ => turn.lookup_dollar h
  rw [get?_inTurns, hnone, Option.map_none, Option.none_or]

/-! The contexts of a render are the one it starts in, inside the turns of loops. -/

theorem exists_variable_of_loopIn {inside name : Text} {head : LoopHead}
    (h : loopIn inside = some head) (hname : head.name = some name) :
    ∃ v : Variable, v.text = name := by
  have hword : ∀ s : Text, (s.takeWhile isWord).isEmpty = false →
      ∃ v : Variable, v.text = s.takeWhile isWord := fun s hne =>
    ⟨⟨_, List.all_eq_true.mp List.all_takeWhile, by simpa using hne⟩, rfl⟩
  rcases Option.or_eq_some_iff.mp h with hfor | ⟨_, hrange⟩
  · obtain ⟨found, hfound, rfl⟩ := Option.map_eq_some_iff.mp hfor
    cases hname
    simp only [forOpenerIn, forIn, bind, Option.bind_eq_some_iff] at hfound
    obtain ⟨_, ⟨_, _, x, _, _, _, _, _, hopened⟩, _, _, hsource⟩ := hfound
    split at hopened
    · cases hopened
    · next hne =>
        cases hopened
        cases hsource
        exact hword x (eq_false_of_ne_true hne)
  · obtain ⟨operand, _, rfl⟩ := Option.map_eq_some_iff.mp hrange
    unfold rangeOver at hname
    split at hname
    · next name' source hassignment =>
        cases hname
        unfold parseAssignment at hassignment
        dsimp only at hassignment
        split at hassignment
        · rw [Option.ite_none_left_eq_some] at hassignment
          obtain ⟨hne, heq⟩ := hassignment
          cases heq
          refine hword _ (eq_false_of_ne_true fun hempty => hne ?_)
          rw [hempty]
          rfl
        · cases hassignment
    · cases hname

theorem exists_turn_of_loopIn {inside : Text} {head : LoopHead} (h : loopIn inside = some head)
    {v : Value} {scope : Scope} (hscope : scope ∈ turnScopes head.name v) :
    ∃ turn : Turn, turn.scope = scope := by
  obtain ⟨i, hi, rfl⟩ := List.mem_mapIdx.mp hscope
  cases hname : head.name with
  | none => exact ⟨⟨none, i, _⟩, rfl⟩
  | some name =>
      obtain ⟨v, rfl⟩ := exists_variable_of_loopIn h hname
      exact ⟨⟨some v, i, _⟩, rfl⟩

theorem drives_congr {scan : Scanner α} {run run' : Text → Except Fault Text}
    {act act' : Text → α → Text → Except Fault Text} (hrun : scan.Drives run act)
    (hrun' : scan.Drives run' act')
    (hact : ∀ {s : Text} {c : Cut α}, scan.cut? s = some c →
      (∀ t : Text, t.length ≤ c.after.length → run t = run' t) →
        act c.matched c.value c.after = act' c.matched c.value c.after) (s : Text) :
    run s = run' s := by
  induction hlength : s.length using Nat.strongRecOn generalizing s with
  | ind n ih =>
      rw [hrun s, hrun' s]
      cases hcut : scan.cut? s with
      | none => rfl
      | some c =>
          have hshorter := Scanner.length_cut? hcut
          exact congrArg ((c.before ++ ·) <$> ·)
            (hact hcut fun t ht => ih t.length (by omega) t rfl)

/-- Two renderers of fragments do the same inside the turns of loops around a root. -/
def AgreeWithin (root : Context) (inner inner' : Inner) : Prop :=
  ∀ (turns : List Turn) (s : Text),
    (inner (root.inTurns turns) s).result = (inner' (root.inTurns turns) s).result

namespace AgreeWithin

variable {tools : Toolbox} {root : Context} {inner inner' : Inner}
  [∀ ctx s, Eval.Steady (inner ctx s)] [∀ ctx s, Eval.Steady (inner' ctx s)]

theorem loopsOf (h : AgreeWithin root inner inner') (turns : List Turn) (s : Text) :
    Template.loopsOf tools inner (root.inTurns turns) s =
      Template.loopsOf tools inner' (root.inTurns turns) s := by
  refine drives_congr loopsOf_drives loopsOf_drives (fun {_ c} hcut hrest => ?_) s
  obtain ⟨inside, hinside, _, _, hread⟩ := Stray.loopHead.eq_mark_of_cut? hcut
  have hloop := loopIn_of_loopHead hinside hread
  unfold loopsAt
  split
  · rw [hrest c.after (Nat.le_refl _)]
  · next b hblock =>
      have hlength := BlockKind.length_block? _ _ hblock
      have hafter := b.length_after_le
      have hturns : ∀ v : Value, (turnScopes c.value.name v).mapM (fun scope =>
            (inner ((root.inTurns turns).child scope) b.first).result) =
          (turnScopes c.value.name v).mapM fun scope =>
            (inner' ((root.inTurns turns).child scope) b.first).result := by
        refine fun v => mapM_congr_of_mem fun scope hscope => ?_
        obtain ⟨turn, rfl⟩ := exists_turn_of_loopIn hloop hscope
        exact h (turn :: turns) b.first
      rw [renderLoop_eq_mapM, renderLoop_eq_mapM, hrest b.after (by omega)]
      simp only [hturns]

theorem conditionalsOf (h : AgreeWithin root inner inner') (turns : List Turn) (s : Text) :
    Template.conditionalsOf tools inner (root.inTurns turns) s =
      Template.conditionalsOf tools inner' (root.inTurns turns) s := by
  refine drives_congr conditionalsOf_drives conditionalsOf_drives (fun {_ c} _ hrest => ?_) s
  unfold conditionalsAt
  split
  · rw [hrest c.after (Nat.le_refl _)]
  · next b hblock =>
      have hlength := BlockKind.length_block? _ _ hblock
      have hafter := b.length_after_le
      simp only [h turns, hrest b.after (by omega)]

theorem level (h : AgreeWithin root inner inner') :
    AgreeWithin root (level tools inner) (Template.level tools inner') := by
  intro turns s
  rw [level_result, level_result]
  simp only [h.loopsOf turns, h.conditionalsOf turns]

/-- A render that starts inside turns renders its fragments, however deep, inside turns: what
renders them elsewhere does not matter. -/
theorem renderOver (h : AgreeWithin root inner inner') (depth : Nat) :
    AgreeWithin root (renderOver tools inner depth) (Template.renderOver tools inner' depth) := by
  induction depth with
  | zero => exact h
  | succ depth ih => exact ih.level

end AgreeWithin

/-! Loops over a range that name their items. -/

/-- The inside of `{{ range $v := source }}`. -/
def assignment (v : Variable) (source : Text) : Text :=
  padded ("range $".toList ++ v.text ++ " := ".toList ++ source)

theorem assignment_eq (v : Variable) (source : Text) :
    assignment v source =
      padded ("range".toList ++ ' ' :: '$' :: (v.text ++ " := ".toList ++ source)) := by
  simp [assignment]

theorem unclosed_assignment (v : Variable) {source : Text} (h : source.Unclosed) :
    (assignment v source).Unclosed := by
  intro c hc
  rw [assignment_eq, padded] at hc
  simp only [List.mem_cons, List.mem_append, List.not_mem_nil, or_false] at hc
  rcases hc with rfl | (hrange | rfl | rfl | (hv | hbetween) | hsource) | rfl
  · decide
  · revert c
    decide
  · decide
  · decide
  · exact (v.braceless c hv).2
  · revert c
    decide
  · exact h c hsource
  · decide

/-- The assignment counts if its source is on one line; over several lines it is the source itself,
and the items get no name. -/
theorem loopIn_assignment (v : Variable) {source : Text} (htrimmed : Trimmed source)
    (hne : source ≠ []) :
    loopIn (assignment v source) =
      some (if source.elem '\n' then ⟨.range, none, '$' :: (v.text ++ " := ".toList ++ source)⟩
        else ⟨.range, some v.text, source⟩) := by
  have hfor : forOpenerIn (assignment v source) = none := by
    cases hfor : forOpenerIn (assignment v source) with
    | none => rfl
    | some found =>
        have hfirst : (words (assignment v source)).head? = some "range".toList := by
          rw [assignment_eq]
          exact head?_words_padded (by decide) (by decide) rfl
        rw [head?_words_of_forOpenerIn hfor] at hfirst
        exact absurd hfirst (by decide)
  have hrange : operandIn "range".toList (assignment v source) =
      some ('$' :: (v.text ++ " := ".toList ++ source)) := by
    rw [assignment_eq]
    exact operandIn_padded (by decide) (by decide)
      (trimmed_cons_append (by decide) htrimmed hne _) (List.cons_ne_nil _ _)
  rw [loopIn, hfor, hrange, Option.map_none, Option.none_or, Option.map_some, rangeOver,
    parseAssignment_dollar v htrimmed hne]
  cases source.elem '\n' <;> rfl

theorem ne_nil_of_sequence {tools : Toolbox} {ctx : Context} {source : Text} {value : Value}
    {items : List Value} (hvalue : (evaluate tools ctx source).result = .ok value)
    (hitems : value.sequence? = some items) : source ≠ [] := by
  rintro rfl
  rw [evaluate_eq] at hvalue
  cases hvalue
  cases hitems

/-- A loop over a range, in any context that a render brings about: its body is rendered once for
every item in turn, where `.` is the item and `$index` its position; the name of the loop with its
dollar is the item too, unless the render was given a binding of that spelling. Of the turns around
a fragment the innermost one that binds a name counts. -/
theorem range_binds (tools : Toolbox) (inner : Inner) [∀ ctx s, Eval.Steady (inner ctx s)]
    (site : Option Site) (page : Option Page) (extra : Scope) (now : Moment) (turns : List Turn)
    (v : Variable) (hv : v.text ≠ "index".toList) {source after : Text} {b : Block} {value : Value}
    {items : List Value} (hsource : source.Unclosed) (htrimmed : Trimmed source)
    (hline : '\n' ∉ source) (hblock : BlockKind.range.block? after = some b)
    (hvalue : (evaluate tools ((Context.create site page extra now).inTurns turns) source).result =
      .ok value)
    (hitems : value.sequence? = some items) :
    let root := Context.create site page extra now
    let turn (i : Nat) (item : Value) : Turn := ⟨some v, i, item⟩
    loopsOf tools inner (root.inTurns turns) (mark (assignment v source) ++ after) =
        ((items.mapIdx turn).mapM fun turn => (inner (root.inTurns (turn :: turns)) b.first).result)
          >>= (fun outs => (outs.flatten ++ ·) <$> loopsOf tools inner (root.inTurns turns) b.after) ∧
      ∀ (i : Nat) (item : Value),
        evaluate tools (root.inTurns (turn i item :: turns)) ['.'] = pure item ∧
        evaluate tools (root.inTurns (turn i item :: turns)) "$index".toList = pure (.int i) ∧
        evaluate tools (root.inTurns (turn i item :: turns)) ('$' :: v.text) =
          pure ((extra.lookup ('$' :: v.text)).getD item) ∧
        ∀ name : Text, (root.inTurns (turn i item :: turns)).get? name =
          (((turn i item :: turns).findSome? fun turn => turn.scope.lookup name).map .ok).or
            (root.get? name) := by
  intro root turn
  have hinside := unclosed_assignment v hsource
  have hone : source.elem '\n' = false := by simpa using hline
  have hloop : loopIn (assignment v source) = some ⟨.range, some v.text, source⟩ := by
    rw [loopIn_assignment v htrimmed (ne_nil_of_sequence hvalue hitems), hone]
    rfl
  refine ⟨?_, fun i item => ?_⟩
  · have hscopes : turnScopes (some v.text) value =
        (items.mapIdx turn).map Turn.scope := by
      rw [turnScopes, hitems, Option.getD_some]
      exact List.ext_getElem (by simp) (by simp [turn, Turn.scope])
    rw [loopsOf_drives.read (Scanner.Whole.reads hinside)
      ((loopHead_onMark hinside).trans hloop), loopsAt]
    simp only [hblock]
    rw [renderLoop_eq_mapM, hvalue, ok_bind, hscopes, List.mapM_map, bind_map_left]
    rfl
  · have hbound : ∀ {name : Text} {bound : Value}, (turn i item).scope.lookup name = some bound →
        (root.inTurns (turn i item :: turns)).get? name = some (.ok bound) := by
      intro name bound h
      rw [inTurns, get?_child, h]
      rfl
    refine ⟨evaluate_dot (hbound (turn i item).lookup_dot),
      evaluate_of_get? isName_index (hbound (turn i item).lookup_index),
      evaluate_of_lookup? v.isName_dollar ?_, get?_inTurns root _⟩
    -- No turn binds the name with its dollar, so that only the render's own bindings can.
    have hget : (root.inTurns (turn i item :: turns)).get? ('$' :: v.text) =
        (extra.lookup ('$' :: v.text)).map .ok := by
      rw [get?_dollar_inTurns root _ hv]
      exact get?_dollar_create site page extra now v.text
    have hnamed : (turn i item).name = some v := rfl
    have hword := hbound (Turn.lookup_name hnamed)
    have hne : v.text.isEmpty = false := by simpa using v.ne_nil
    unfold lookup?
    rw [hget]
    cases extra.lookup ('$' :: v.text) with
    | none => simp [hne, hword, turn]
    | some bound => rfl

def letterP : Variable := ⟨"p".toList, by decide, by decide⟩

def pairContext (more : Scope) : Context :=
  .create none none (("x".toList, .list [.text "a".toList, .text "b".toList]) :: more)
    ⟨⟨2024, 6, 1⟩, 12, 0, 0, 0, none⟩

theorem evaluate_pairContext (more : Scope) (turns : List Turn)
    (hfree : ∀ turn ∈ turns, turn.name = some letterP) :
    evaluate .standard ((pairContext more).inTurns turns) "x".toList =
      pure (.list [.text "a".toList, .text "b".toList]) := by
  have hnone : turns.findSome? (fun turn => turn.scope.lookup "x".toList) = none := by
    refine List.findSome?_eq_none_iff.mpr fun turn hmem => ?_
    rw [Turn.scope, hfree turn hmem]
    rfl
  refine evaluate_of_get? ⟨rfl, rfl, rfl, rfl, rfl, by decide⟩ ?_
  rw [get?_inTurns, hnone]
  rfl

/-- `{{ range $p := x }}{{ $p }}{{ end }}` within a turn of a loop that calls its items `p` too. -/
theorem range_binds_nested :
    let outer : Turn := ⟨some letterP, 0, .text "z".toList⟩
    let after := mark " $p ".toList ++ mark " end ".toList
    let b : Block := ⟨mark " $p ".toList, none, [], mark " end ".toList, []⟩
    letterP.text ≠ "index".toList ∧ BlockKind.range.block? after = some b ∧
      (evaluate .standard ((pairContext []).inTurns [outer]) "x".toList).result =
        .ok (.list [.text "a".toList, .text "b".toList]) ∧
      evaluate .standard ((pairContext []).inTurns
        [⟨some letterP, 1, .text "b".toList⟩, outer]) "$p".toList = pure (.text "b".toList) := by
  intro outer after b
  have hname : letterP.text ≠ "index".toList := by decide
  have hblock : BlockKind.range.block? after = some b := by
    rw [BlockKind.block?, BlockKind.readBlock?_eq]
    rfl
  have hvalue : (evaluate .standard ((pairContext []).inTurns [outer]) "x".toList).result =
      .ok (.list [.text "a".toList, .text "b".toList]) := by
    rw [evaluate_pairContext [] [outer] (by simp [outer])]
    rfl
  have htrimmed : Trimmed "x".toList := rfl
  have hbinds := range_binds .standard (renderWithin .standard 1) none none _ _ [outer] letterP
    hname (by decide) htrimmed (by decide) hblock hvalue rfl
  exact ⟨hname, hblock, hvalue, (hbinds.2 1 (.text "b".toList)).2.2.1⟩

/-- A binding of the render that is spelled with the dollar is in the way of the loop's. -/
theorem range_binds_hidden :
    let root := pairContext [("$p".toList, .text "z".toList)]
    let turn : Turn := ⟨some letterP, 0, .text "a".toList⟩
    (evaluate .standard root "x".toList).result =
        .ok (.list [.text "a".toList, .text "b".toList]) ∧
      loopIn (assignment letterP "x".toList) = some ⟨.range, some "p".toList, "x".toList⟩ ∧
      evaluate .standard (root.inTurns [turn]) ['.'] = pure (.text "a".toList) ∧
      evaluate .standard (root.inTurns [turn]) "$p".toList = pure (.text "z".toList) := by
  intro root turn
  refine ⟨?_, loopIn_assignment letterP rfl (by decide), evaluate_dot rfl,
    evaluate_of_lookup? letterP.isName_dollar rfl⟩
  rw [show root = root.inTurns [] from rfl, evaluate_pairContext _ [] (fun _ h => nomatch h)]
  rfl

end Template

end Stencil
