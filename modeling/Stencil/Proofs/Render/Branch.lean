import Stencil.Proofs.Render.Depth
import Stencil.Proofs.Render.Settled
import Stencil.Proofs.Render.Simulate

namespace Stencil.Template

open Stencil.Text

/-! Calls and loops are expanded before a conditional chooses. What the branch that is not chosen
holds besides has no effect. -/

/-- What a stage puts in the place of values and of loops. A node for which it has nothing stays. -/
structure Puts where
  value : Expression → Option (Except Fault Text)
  loop : Head → Forest → Option (Except Fault Text)

def Puts.calls (tools : Toolbox) (ctx : Context) : Puts where
  value d := (callIn? d.text).map fun _ => (substitution tools ctx d.text).result
  loop _ _ := none

def Puts.loops (tools : Toolbox) (inner : Inner) (ctx : Context) : Puts where
  value _ := none
  loop head body := some (renderLoop tools inner ctx head.opened body.print).result

/-- The text that is put in the place of a node, or the node itself. No directive may open in the
text. -/
def placed (put : Option (Except Fault Text)) (node : Forest → Forest) :
    Except Fault (Forest → Forest) :=
  match put with
  | none => pure node
  | some x => do
      let out ← x
      if h : out.Unopened then pure (Forest.text ⟨out, h⟩) else throw .outOfDomain

def putBefore (put : Option (Except Fault Text)) (node : Text) (behind : Except Fault Text) :
    Except Fault Text :=
  match put with
  | none => (node ++ ·) <$> behind
  | some x => do
      let out ← x
      (out ++ ·) <$> behind

namespace Forest

/-- All that a stage puts into a tree. It does not look into the bodies of loops. -/
def puts (r : Puts) : Forest → List (Except Fault Text)
  | done => []
  | text _ rest => rest.puts r
  | value d rest => (r.value d).toList ++ rest.puts r
  | guard _ body rest => body.puts r ++ rest.puts r
  | choice _ yes no rest => yes.puts r ++ (no.puts r ++ rest.puts r)
  | loop head body rest => (r.loop head body).toList ++ rest.puts r

def advance (r : Puts) : Forest → Except Fault Forest
  | done => pure done
  | text s rest => text s <$> rest.advance r
  | value d rest => do
      let node ← placed (r.value d) (value d)
      node <$> rest.advance r
  | guard condition body rest => do
      let body ← body.advance r
      guard condition body <$> rest.advance r
  | choice condition yes no rest => do
      let yes ← yes.advance r
      let no ← no.advance r
      choice condition yes no <$> rest.advance r
  | loop head body rest => do
      let node ← placed (r.loop head body) (loop head body)
      node <$> rest.advance r

/-- What calls and loops give before any conditional chooses. -/
def early (tools : Toolbox) (inner : Inner) (ctx : Context) (t : Forest) :
    List (Except Fault Text) :=
  t.puts (.calls tools ctx) ++ t.puts (.loops tools inner ctx)

/-- No directive opens in what the calls and loops of a tree give. -/
def Quiet (tools : Toolbox) (inner : Inner) (ctx : Context) (t : Forest) : Prop :=
  ∀ x ∈ t.early tools inner ctx, ∀ out, x = .ok out → out.Unopened

/-- Nor does any of them fail. -/
def Spared (tools : Toolbox) (inner : Inner) (ctx : Context) (t : Forest) : Prop :=
  ∀ x ∈ t.early tools inner ctx, ∃ out, x = .ok out ∧ out.Unopened

/-- A conditional of a condition that comes out as `truth`, with the branch that it takes and the one
that it does not. -/
def decided (condition : Operand) (truth : Bool) (taken spared : Forest) : Forest :=
  if truth then choice condition taken spared done else choice condition spared taken done

section

variable {tools : Toolbox} {inner : Inner} {ctx : Context} {r : Puts} {t t' : Forest}

theorem Spared.quiet (h : t.Spared tools inner ctx) : t.Quiet tools inner ctx := by
  intro x hx out hout
  obtain ⟨out', hout', hopen⟩ := h x hx
  rw [hout] at hout'
  cases hout'
  exact hopen

theorem placed_eq_ok {put : Option (Except Fault Text)} (node : Forest → Forest)
    (h : ∀ x ∈ put.toList, ∃ out, x = .ok out ∧ out.Unopened) :
    ∃ node', placed put node = .ok node' := by
  cases put with
  | none => exact ⟨node, rfl⟩
  | some x =>
      obtain ⟨out, rfl, hopen⟩ := h x List.mem_cons_self
      refine ⟨text ⟨out, hopen⟩, ?_⟩
      rw [placed, ok_bind, dif_pos hopen]
      rfl

theorem advance_eq_ok (h : ∀ x ∈ t.puts r, ∃ out, x = .ok out ∧ out.Unopened) :
    ∃ t', t.advance r = .ok t' := by
  induction t with
  | done => exact ⟨done, rfl⟩
  | text s rest ih =>
      obtain ⟨rest', hrest⟩ := ih h
      exact ⟨text s rest', by rw [advance, hrest, map_ok]⟩
  | value d rest ih =>
      obtain ⟨hput, hbehind⟩ := List.forall_mem_append.mp h
      obtain ⟨node, hnode⟩ := placed_eq_ok (value d) hput
      obtain ⟨rest', hrest⟩ := ih hbehind
      exact ⟨node rest', by rw [advance, hnode, ok_bind, hrest, map_ok]⟩
  | guard condition body rest ihbody ihrest =>
      obtain ⟨hbody, hbehind⟩ := List.forall_mem_append.mp h
      obtain ⟨body', hbody'⟩ := ihbody hbody
      obtain ⟨rest', hrest⟩ := ihrest hbehind
      exact ⟨guard condition body' rest', by rw [advance, hbody', ok_bind, hrest, map_ok]⟩
  | choice condition yes no rest ihyes ihno ihrest =>
      obtain ⟨hyes, hno⟩ := List.forall_mem_append.mp h
      obtain ⟨hno, hbehind⟩ := List.forall_mem_append.mp hno
      obtain ⟨yes', hyes'⟩ := ihyes hyes
      obtain ⟨no', hno'⟩ := ihno hno
      obtain ⟨rest', hrest⟩ := ihrest hbehind
      exact ⟨choice condition yes' no' rest',
        by rw [advance, hyes', ok_bind, hno', ok_bind, hrest, map_ok]⟩
  | loop head body rest ihbody ihrest =>
      obtain ⟨hput, hbehind⟩ := List.forall_mem_append.mp h
      obtain ⟨node, hnode⟩ := placed_eq_ok (loop head body) hput
      obtain ⟨rest', hrest⟩ := ihrest hbehind
      exact ⟨node rest', by rw [advance, hnode, ok_bind, hrest, map_ok]⟩

theorem eq_or_eq_text_of_placed {put : Option (Except Fault Text)} {node node' : Forest → Forest}
    (h : placed put node = .ok node') : node' = node ∨ ∃ s, node' = text s := by
  cases put with
  | none =>
      cases h
      left
      rfl
  | some x =>
      obtain ⟨out, _, hout⟩ := bind_eq_ok.mp h
      split at hout
      · cases hout
        right
        exact ⟨_, rfl⟩
      · cases hout

theorem puts_loops_of_advance (h : t.advance (.calls tools ctx) = .ok t') :
    t'.puts (.loops tools inner ctx) = t.puts (.loops tools inner ctx) := by
  induction t generalizing t' with
  | done =>
      cases h
      rfl
  | text s rest ih =>
      obtain ⟨rest', hrest, rfl⟩ := map_eq_ok.mp h
      rw [puts, puts, ih hrest]
  | value d rest ih =>
      obtain ⟨node, hnode, h⟩ := bind_eq_ok.mp h
      obtain ⟨rest', hrest, rfl⟩ := map_eq_ok.mp h
      rcases eq_or_eq_text_of_placed hnode with rfl | ⟨s, rfl⟩
      · rw [puts, puts, ih hrest]
      · rw [puts, puts, ih hrest]
        rfl
  | guard condition body rest ihbody ihrest =>
      obtain ⟨body', hbody, h⟩ := bind_eq_ok.mp h
      obtain ⟨rest', hrest, rfl⟩ := map_eq_ok.mp h
      rw [puts, puts, ihbody hbody, ihrest hrest]
  | choice condition yes no rest ihyes ihno ihrest =>
      obtain ⟨yes', hyes, h⟩ := bind_eq_ok.mp h
      obtain ⟨no', hno, h⟩ := bind_eq_ok.mp h
      obtain ⟨rest', hrest, rfl⟩ := map_eq_ok.mp h
      rw [puts, puts, ihyes hyes, ihno hno, ihrest hrest]
  | loop head body rest ihbody ihrest =>
      obtain ⟨node, hnode, h⟩ := bind_eq_ok.mp h
      obtain ⟨rest', hrest, rfl⟩ := map_eq_ok.mp h
      cases hnode
      rw [puts, puts, ihrest hrest]

end

end Forest

/-- A stage puts its texts in the place of values and loops, and leaves text and the marks of
conditionals where they are. -/
structure Stage (run : Text → Except Fault Text) (r : Puts) : Prop where
  nil : run [] = .ok []
  text : ∀ {t : Text}, t.Unopened → ∀ s, run (t ++ s) = (t ++ ·) <$> run s
  keyword : ∀ {inside word : Text}, Keyword word → inside.Enclosed →
    (words inside).head? = some word → loopIn inside = none → ∀ s,
      run (mark inside ++ s) = (mark inside ++ ·) <$> run s
  value : ∀ (d : Expression) (s : Text), run (mark (padded d.text) ++ s) =
    putBefore (r.value d) (mark (padded d.text)) (run s)
  loop : ∀ (head : Head) (body : Forest) (s : Text),
    run (mark head.inside ++ (body.print ++ (mark (padded head.closer) ++ s))) =
      putBefore (r.loop head body)
        (mark head.inside ++ (body.print ++ mark (padded head.closer))) (run s)

section

variable {tools : Toolbox} {inner : Inner} {ctx : Context}

theorem stage_calls : Stage (callsOf tools ctx) (.calls tools ctx) where
  nil := callsOf_drives.nil
  text := callsOf_text
  keyword hword henclosed hhead hloop := callsOf_keyword henclosed hhead hloop
  value d s := by
    have henclosed := enclosed_padded d.braceless
    unfold Puts.calls
    dsimp only
    cases hcall : callIn? d.text with
    | none =>
        apply callsOf_skip henclosed (loopIn_expression d)
        intro value hvalue
        rw [insideText?_expression] at hvalue
        cases hvalue
        exact hcall
    | some found =>
        exact callsOf_call henclosed (loopIn_expression d) (insideText?_expression d) hcall s
  loop head body s := by
    rw [callsOf_loop head.enclosed_inside head.loopIn_inside,
      BlockKind.block?_of_balanced (balanced_print _ body) head.closes_closer]
    simp [Puts.calls, putBefore, Block.text]

theorem stage_loops [∀ ctx s, Eval.Steady (inner ctx s)] :
    Stage (loopsOf tools inner ctx) (.loops tools inner ctx) where
  nil := loopsOf_drives.nil
  text := loopsOf_text
  keyword _ henclosed _ hloop := loopsOf_skip henclosed hloop
  value d s := loopsOf_skip (enclosed_padded d.braceless) (loopIn_expression d) s
  loop head body s := by
    rw [loopsOf_loop head.enclosed_inside head.loopIn_inside,
      BlockKind.block?_of_balanced (balanced_print _ body) head.closes_closer]
    rfl

end

namespace Forest

section

variable {run : Text → Except Fault Text} {r : Puts} {t : Forest}

theorem putBefore_placed {put : Option (Except Fault Text)}
    (hquiet : ∀ x ∈ put.toList, ∀ out, x = .ok out → out.Unopened) {node : Forest → Forest}
    {before : Text} (hnode : ∀ t, (node t).print = before ++ t.print) (x : Except Fault Forest)
    (y : Except Fault Text) :
    putBefore put before (x >>= fun t => (t.print ++ ·) <$> y) =
      (placed put node >>= fun node => node <$> x) >>= fun t => (t.print ++ ·) <$> y := by
  cases put with
  | none =>
      cases x with
      | error e => rfl
      | ok t => simp [putBefore, placed, hnode]
  | some out =>
      cases out with
      | error e => rfl
      | ok out =>
          have hopen := hquiet _ List.mem_cons_self out rfl
          have hplaced : placed (some (.ok out)) node = .ok (text ⟨out, hopen⟩) := by
            rw [placed, ok_bind, dif_pos hopen]
            rfl
          rw [hplaced]
          cases x with
          | error e => rfl
          | ok t => simp [putBefore, print]

theorem print_advance (h : Stage run r) (hquiet : ∀ x ∈ t.puts r, ∀ out, x = .ok out → out.Unopened)
    (s : Text) : run (t.print ++ s) = t.advance r >>= fun t' => (t'.print ++ ·) <$> run s := by
  -- Behind a body stands its closing mark, so `s` is not the same for all parts of a tree.
  induction t generalizing s with
  | done => simp [print, advance]
  | text plain rest ih =>
      rw [print, List.append_assoc, h.text plain.unopened, ih hquiet, advance]
      cases rest.advance r with
      | error e => rfl
      | ok rest' => simp [print]
  | value d rest ih =>
      obtain ⟨hput, hbehind⟩ := List.forall_mem_append.mp hquiet
      rw [print, List.append_assoc, h.value, ih hbehind, advance]
      exact putBefore_placed hput (fun t => by rw [print]) _ _
  | guard condition body rest ihbody ihrest =>
      obtain ⟨hbody, hbehind⟩ := List.forall_mem_append.mp hquiet
      simp only [print, List.append_assoc]
      rw [h.keyword inferInstance (enclosed_ifInside condition) (head?_words_ifInside condition)
          (loopIn_ifInside condition), ihbody hbody,
        h.keyword inferInstance (by decide) (head?_words_padded_keyword _) loopIn_padded_endif,
        ihrest hbehind, advance]
      cases body.advance r with
      | error e => rfl
      | ok body' =>
          cases rest.advance r with
          | error e => rfl
          | ok rest' => simp [print]
  | choice condition yes no rest ihyes ihno ihrest =>
      obtain ⟨hyes, hno⟩ := List.forall_mem_append.mp hquiet
      obtain ⟨hno, hbehind⟩ := List.forall_mem_append.mp hno
      simp only [print, List.append_assoc]
      rw [h.keyword inferInstance (enclosed_ifInside condition) (head?_words_ifInside condition)
          (loopIn_ifInside condition), ihyes hyes,
        h.keyword inferInstance (by decide) (head?_words_padded_keyword _) loopIn_padded_else,
        ihno hno,
        h.keyword inferInstance (by decide) (head?_words_padded_keyword _) loopIn_padded_endif,
        ihrest hbehind, advance]
      cases yes.advance r with
      | error e => rfl
      | ok yes' =>
          cases no.advance r with
          | error e => rfl
          | ok no' =>
              cases rest.advance r with
              | error e => rfl
              | ok rest' => simp [print]
  | loop head body rest ihbody ihrest =>
      obtain ⟨hput, hbehind⟩ := List.forall_mem_append.mp hquiet
      simp only [print, List.append_assoc]
      rw [h.loop, ihrest hbehind, advance]
      exact putBefore_placed hput (fun t => by simp only [print, List.append_assoc]) _ _

theorem run_print (h : Stage run r) (hquiet : ∀ x ∈ t.puts r, ∀ out, x = .ok out → out.Unopened) :
    run t.print = print <$> t.advance r := by
  have hrun := print_advance h hquiet []
  rw [List.append_nil, h.nil] at hrun
  rw [hrun]
  cases t.advance r with
  | error e => rfl
  | ok t' => simp

end

section

variable {tools : Toolbox} {inner : Inner} {ctx : Context} {r : Puts} {condition : Operand}
  {truth : Bool} {taken spared spared' : Forest}

theorem puts_decided {p : Except Fault Text → Prop} (htaken : ∀ x ∈ taken.puts r, p x)
    (hspared : ∀ x ∈ spared.puts r, p x) :
    ∀ x ∈ (decided condition truth taken spared).puts r, p x := by
  have hnil : ∀ x ∈ done.puts r, p x := fun _ hmem => nomatch hmem
  cases truth with
  | true => exact List.forall_mem_append.mpr ⟨htaken, List.forall_mem_append.mpr ⟨hspared, hnil⟩⟩
  | false => exact List.forall_mem_append.mpr ⟨hspared, List.forall_mem_append.mpr ⟨htaken, hnil⟩⟩

theorem advance_decided (hspared : spared.advance r = .ok spared') :
    (decided condition truth taken spared).advance r =
      (decided condition truth · spared') <$> taken.advance r := by
  cases truth with
  | true =>
      simp only [decided, if_true, advance, hspared]
      cases taken.advance r <;> rfl
  | false =>
      simp only [decided, Bool.false_eq_true, if_false, advance, hspared]
      cases taken.advance r <;> rfl

theorem conditionalsOf_decided [∀ ctx s, Eval.Steady (inner ctx s)] {v : Value}
    (hv : (evaluate tools ctx condition.text).result = .ok v) :
    conditionalsOf tools inner ctx (decided condition v.truthy taken spared).print =
      (inner ctx taken.print).result := by
  have hchoice : ∀ yes no : Forest,
      conditionalsOf tools inner ctx (choice condition yes no done).print =
        (inner ctx (if v.truthy then yes.print else no.print)).result := by
    intro yes no
    rw [print, conditionalsOf_if (enclosed_ifInside condition) (operandIn_ifInside condition),
      BlockKind.block?_of_divided (balanced_print _ yes) divides_padded_else
        (balanced_print _ no) closes_padded_endif]
    simp only [hv, ok_bind, print, conditionalsOf_drives.nil]
    cases (inner ctx (if v.truthy then yes.print else no.print)).result with
    | error e => rfl
    | ok out => exact congrArg Except.ok (List.append_nil out)
  cases htruth : v.truthy with
  | true =>
      rw [decided, if_pos rfl, hchoice, htruth]
      rfl
  | false =>
      rw [decided, if_neg Bool.false_ne_true, hchoice, htruth]
      rfl

/-- What a conditional alone gives, said without the branch that it does not take. -/
theorem level_decided [∀ ctx s, Eval.Steady (inner ctx s)] {v : Value}
    (hv : (evaluate tools ctx condition.text).result = .ok v)
    (htaken : taken.Quiet tools inner ctx) (hspared : spared.Spared tools inner ctx) :
    (level tools inner ctx (decided condition v.truthy taken spared).print).result =
      taken.advance (.calls tools ctx) >>= fun called =>
        called.advance (.loops tools inner ctx) >>= fun looped =>
          (inner ctx looped.print).result >>= fun s => settle <$> variablesOf tools ctx s := by
  obtain ⟨hcalls, hloops⟩ := List.forall_mem_append.mp hspared
  obtain ⟨hquietCalls, hquietLoops⟩ := List.forall_mem_append.mp htaken
  obtain ⟨hquietCalls', hquietLoops'⟩ := List.forall_mem_append.mp hspared.quiet
  obtain ⟨called', hcalled'⟩ := advance_eq_ok hcalls
  rw [level_result, run_print stage_calls (puts_decided hquietCalls hquietCalls'),
    advance_decided hcalled']
  cases hcalled : taken.advance (.calls tools ctx) with
  | error e => rfl
  | ok called =>
      rw [← puts_loops_of_advance hcalled'] at hloops hquietLoops'
      rw [← puts_loops_of_advance hcalled] at hquietLoops
      obtain ⟨looped', hlooped'⟩ := advance_eq_ok hloops
      rw [map_ok, map_ok, ok_bind, ok_bind,
        run_print stage_loops (puts_decided hquietLoops hquietLoops'), advance_decided hlooped']
      cases called.advance (.loops tools inner ctx) with
      | error e => rfl
      | ok looped =>
          rw [map_ok, map_ok, ok_bind, ok_bind, conditionalsOf_decided hv]

theorem puts_loops_of_imp {inner inner' : Inner} {p : Except Fault Text → Prop} {t : Forest}
    (himp : ∀ (head : Head) (body : Forest),
      p (renderLoop tools inner ctx head.opened body.print).result →
        p (renderLoop tools inner' ctx head.opened body.print).result)
    (h : ∀ x ∈ t.puts (.loops tools inner ctx), p x) :
    ∀ x ∈ t.puts (.loops tools inner' ctx), p x := by
  induction t with
  | done => exact h
  | text s rest ih => exact ih h
  | value d rest ih => exact ih h
  | guard condition body rest ihbody ihrest =>
      obtain ⟨hbody, hrest⟩ := List.forall_mem_append.mp h
      exact List.forall_mem_append.mpr ⟨ihbody hbody, ihrest hrest⟩
  | choice condition yes no rest ihyes ihno ihrest =>
      obtain ⟨hyes, hno⟩ := List.forall_mem_append.mp h
      obtain ⟨hno, hrest⟩ := List.forall_mem_append.mp hno
      exact List.forall_mem_append.mpr
        ⟨ihyes hyes, List.forall_mem_append.mpr ⟨ihno hno, ihrest hrest⟩⟩
  | loop head body rest ihbody ihrest =>
      obtain ⟨hloop, hrest⟩ := List.forall_mem_cons.mp h
      exact List.forall_mem_cons.mpr ⟨himp head body hloop, ihrest hrest⟩

theorem Spared.deeper {depth deeper : Nat} (h : spared.Spared tools (renderWithin tools depth) ctx)
    (hdepth : depth ≤ deeper) : spared.Spared tools (renderWithin tools deeper) ctx := by
  obtain ⟨hcalls, hloops⟩ := List.forall_mem_append.mp h
  refine List.forall_mem_append.mpr ⟨hcalls, puts_loops_of_imp ?_ hloops⟩
  rintro head body ⟨out, hout, hopen⟩
  have hloop : Deepens _ (renderLoop tools (renderWithin tools deeper) ctx _ _).result :=
    renderLoop_deepens (renderWithin_deepens tools hdepth) ctx head.opened body.print
  exact ⟨out, hloop.eq_of_ok hout, hopen⟩

/-- The branch that a conditional does not take has no effect, if the calls and loops in it do not
fail and no call or loop of either branch gives text in which a directive opens. -/
theorem render_decided {v : Value} {depth : Nat}
    (hv : (evaluate tools ctx condition.text).result = .ok v)
    (htaken : ∀ depth, taken.Quiet tools (renderWithin tools depth) ctx)
    (hspared : spared.Spared tools (renderWithin tools depth) ctx)
    (hspared' : spared'.Spared tools (renderWithin tools depth) ctx) :
    (∀ deeper, depth < deeper →
      (renderWithin tools deeper ctx (decided condition v.truthy taken spared).print).result =
        (renderWithin tools deeper ctx (decided condition v.truthy taken spared').print).result) ∧
      ((render tools ctx (decided condition v.truthy taken spared).print).result =
          (render tools ctx (decided condition v.truthy taken spared').print).result ∨
        (render tools ctx (decided condition v.truthy taken spared).print).result =
          .error .tooDeep ∨
        (render tools ctx (decided condition v.truthy taken spared').print).result =
          .error .tooDeep) := by
  have hdeeper : ∀ deeper, depth < deeper →
      (renderWithin tools deeper ctx (decided condition v.truthy taken spared).print).result =
        (renderWithin tools deeper ctx (decided condition v.truthy taken spared').print).result := by
    intro deeper hlt
    cases deeper with
    | zero => exact absurd hlt (Nat.not_lt_zero _)
    | succ deeper =>
        have hle := Nat.le_of_lt_succ hlt
        rw [renderWithin_succ, level_decided hv (htaken deeper) (hspared.deeper hle),
          level_decided hv (htaken deeper) (hspared'.deeper hle)]
  refine ⟨hdeeper, ?_⟩
  obtain ⟨deeper, hlt, hle, hle'⟩ : ∃ deeper, depth < deeper ∧
      depthFor (decided condition v.truthy taken spared).print ≤ deeper ∧
      depthFor (decided condition v.truthy taken spared').print ≤ deeper :=
    ⟨depth + 1 + depthFor _ + depthFor _, by omega, Nat.le_trans (Nat.le_add_left _ _)
      (Nat.le_add_right _ _), Nat.le_add_left _ _⟩
  rcases render_deepens tools hle ctx with hshort | hfirst
  · exact .inr (.inl hshort)
  · rcases render_deepens tools hle' ctx with hshort | hsecond
    · exact .inr (.inr hshort)
    · left
      rw [hfirst, hsecond, hdeeper deeper hlt]

end

/-! A branch that is not taken, with a call behind a filter and a call in a loop without turns. -/

def plainTrue : Operand := ⟨"true".toList, by decide, rfl, by decide⟩

def plainFalse : Operand := ⟨"false".toList, by decide, rfl, by decide⟩

def powZero : Operand := ⟨"pow(0, -1)".toList, by decide, rfl, by decide⟩

/-- `{{ pow(0, -1) }}` -/
def failing : Forest := .value ⟨powZero, by decide⟩ .done

/-- `{{ pow(0, -1) | upper }}{{ for v in y }}{{ pow(0, -1) }}{{ endfor }}` -/
def guarded : Forest :=
  .value ⟨⟨"pow(0, -1) | upper".toList, by decide, rfl, by decide⟩, by decide⟩ <|
  .loop (.each ⟨['v'], by decide, by decide⟩ ⟨"y".toList, by decide, rfl, by decide⟩) failing
    .done

/-- `{{ x }}` -/
def shown : Forest := .value ⟨⟨['x'], by decide, rfl, by decide⟩, by decide⟩ .done

/-- A value that closes a conditional, and a list without items. -/
def closingContext : Context :=
  .create none none [("x".toList, .text "\x7b\x7b endif \x7d\x7dB".toList), ("y".toList, .list [])]
    ⟨⟨2024, 6, 1⟩, 12, 0, 0, 0, none⟩

theorem spared_done (inner : Inner) (ctx : Context) : done.Spared .standard inner ctx :=
  fun _ hmem => nomatch hmem

theorem spared_guarded (depth : Nat) :
    guarded.Spared .standard (renderWithin .standard depth) closingContext := by
  have hname : IsName "y".toList := ⟨rfl, rfl, rfl, rfl, rfl, by decide⟩
  have hy : (evaluate .standard closingContext "y".toList).result = .ok (.list []) := by
    rw [evaluate_of_get? hname rfl, Eval.result_pure]
  have hloop (head : LoopHead) (body : Text) (hsource : head.source = "y".toList) :
      (renderLoop .standard (renderWithin .standard depth) closingContext head body).result =
        .ok [] := by
    rw [renderLoop_result, hsource, hy]
    rfl
  intro x hx
  rcases List.mem_singleton.mp hx with rfl
  exact ⟨[], hloop _ _ rfl, .nil⟩

theorem render_decided_guarded :
    (evaluate .standard closingContext plainFalse.text).result = .ok (.bool false) ∧
      (∀ deeper, 0 < deeper →
        (renderWithin .standard deeper closingContext
            (decided plainFalse false shown guarded).print).result =
          (renderWithin .standard deeper closingContext
            (decided plainFalse false shown done).print).result) ∧
      ((render .standard closingContext (decided plainFalse false shown guarded).print).result =
          (render .standard closingContext (decided plainFalse false shown done).print).result ∨
        (render .standard closingContext (decided plainFalse false shown guarded).print).result =
          .error .tooDeep ∨
        (render .standard closingContext (decided plainFalse false shown done).print).result =
          .error .tooDeep) := by
  have hfalse : (evaluate .standard closingContext plainFalse.text).result =
      .ok (.bool false) := by
    rw [evaluate_of_literal rfl rfl, Eval.result_pure]
  have hshown : ∀ depth, shown.Quiet .standard (renderWithin .standard depth) closingContext :=
    fun _ _ hmem => nomatch hmem
  exact ⟨hfalse, render_decided hfalse hshown (spared_guarded 0) (spared_done _ _)⟩

/-! Where a call or a loop in a branch fails, or gives a directive, the branch counts. -/

theorem call_pow_zero (ctx : Context) :
    call .standard ctx "pow".toList "0, -1".toList = throw .zeroDivision := by
  have hsplit : splitArguments "0, -1".toList = ["0".toList, "-1".toList] := rfl
  have hzero : resolveArgument .standard ctx "0".toList = pure (.int 0) := rfl
  have hnegative : resolveArgument .standard ctx "-1".toList = pure (.int (-1)) := rfl
  have hcall : applyName .standard ctx "pow".toList (pure [.int 0, .int (-1)]) =
      throw .zeroDivision := rfl
  rw [call, hsplit, List.mapM_cons, List.mapM_cons, List.mapM_nil, hzero, hnegative, pure_bind,
    pure_bind, Value.coerce, Value.coerce]
  exact hcall

theorem substitution_failing (ctx : Context) :
    (substitution .standard ctx "pow(0, -1)".toList).result = .error .zeroDivision := by
  have hcall : callIn? "pow(0, -1)".toList = some ("pow".toList, "0, -1".toList) := rfl
  rw [substitution_of_callIn? hcall, call_pow_zero]
  rfl

def overPowZero : Head := .each ⟨['v'], by decide, by decide⟩ powZero

/-- `{{ for v in pow(0, -1) }}{{ endfor }}` -/
def failingLoop : Forest := .loop overPowZero .done .done

/-- `{{ trim(x) }}` -/
def echoed : Forest := .value ⟨⟨"trim(x)".toList, by decide, rfl, by decide⟩, by decide⟩ .done

def letter : Forest := .text ⟨"A".toList, by decide⟩ .done

theorem render_failing :
    (render .standard closingContext (decided plainTrue true letter failing).print).result =
      .error .zeroDivision := by
  have hput : (Puts.calls .standard closingContext).value ⟨powZero, by decide⟩ =
      some (.error .zeroDivision) := congrArg some (substitution_failing closingContext)
  have hputs : (decided plainTrue true letter failing).puts (.calls .standard closingContext) =
      [.error .zeroDivision] := by
    simp [decided, letter, failing, puts, hput]
  rw [render, depthFor, renderWithin_succ, level_result, run_print stage_calls (by simp [hputs])]
  simp only [decided, if_true, letter, failing, advance, hput]
  rfl

theorem render_failingLoop :
    (render .standard closingContext (decided plainTrue true letter failingLoop).print).result =
      .error .zeroDivision := by
  have hsource : (evaluate .standard closingContext "pow(0, -1)".toList).result =
      .error .zeroDivision := by
    have hparse : parseCall "pow(0, -1)".toList = some ("pow".toList, "0, -1".toList) := rfl
    rw [evaluate_of_parseCall hparse, call_pow_zero, Eval.result_throw]
  have hcalls : callsOf .standard closingContext
      (decided plainTrue true letter failingLoop).print =
        .ok (decided plainTrue true letter failingLoop).print :=
    run_print stage_calls fun _ hmem => nomatch hmem
  have hput (inner : Inner) [∀ ctx s, Eval.Steady (inner ctx s)] :
      (Puts.loops .standard inner closingContext).loop overPowZero done =
        some (.error .zeroDivision) := by
    refine congrArg some ?_
    rw [renderLoop_result]
    exact congrArg (· >>= _) hsource
  have hputs (inner : Inner) [∀ ctx s, Eval.Steady (inner ctx s)] :
      (decided plainTrue true letter failingLoop).puts (.loops .standard inner closingContext) =
        [.error .zeroDivision] := by
    simp [decided, letter, failingLoop, puts, hput]
  rw [render, depthFor, renderWithin_succ, level_result, hcalls, ok_bind,
    run_print stage_loops (by simp [hputs])]
  simp only [decided, if_true, letter, failingLoop, advance, hput]
  rfl

def rewritten (yes no : Text) : Text :=
  yes ++ (mark (padded "else".toList) ++ (no ++ mark (padded "endif".toList)))

def CallsTo (t : Forest) (out : Text) : Prop :=
  ∀ s, callsOf .standard closingContext (t.print ++ s) =
    (out ++ ·) <$> callsOf .standard closingContext s

theorem render_rewritten {yes no : Forest} {yes' no' : Text} (hyes : CallsTo yes yes')
    (hno : CallsTo no no')
    (hloops : loopHead.cut? (mark (ifInside plainTrue) ++ rewritten yes' no') = none) {b : Block}
    (hblock : BlockKind.conditional.block? (rewritten yes' no') = some b)
    (hfirst : settle b.first = b.first) (hafter : (operand "if".toList).cut? b.after = none) :
    (render .standard closingContext (decided plainTrue true yes no).print).result =
      settle <$> variablesOf .standard closingContext (b.first ++ b.after) := by
  have hcalls : callsOf .standard closingContext (decided plainTrue true yes no).print =
      .ok (mark (ifInside plainTrue) ++ rewritten yes' no') := by
    rw [decided, if_pos rfl, print,
      stage_calls.keyword inferInstance (enclosed_ifInside _) (head?_words_ifInside _)
        (loopIn_ifInside _), hyes,
      stage_calls.keyword inferInstance (by decide) (head?_words_padded_keyword _)
        loopIn_padded_else, hno,
      stage_calls.keyword inferInstance (by decide) (head?_words_padded_keyword _)
        loopIn_padded_endif, print, stage_calls.nil]
    simp [rewritten]
  have htrue : (evaluate .standard closingContext plainTrue.text).result = .ok (.bool true) := by
    rw [evaluate_of_literal rfl rfl, Eval.result_pure]
  have hinner (depth : Nat) : (renderWithin .standard (depth + 1) closingContext b.first).result =
      .ok b.first := by
    rw [renderWithin_succ, level_of_settled _ _ _ hfirst, Eval.result_pure]
  have hafter' (inner : Inner) [∀ ctx s, Eval.Steady (inner ctx s)] :
      conditionalsOf .standard inner closingContext b.after = .ok b.after :=
    conditionalsOf_drives.of_none hafter
  have hloops' (inner : Inner) [∀ ctx s, Eval.Steady (inner ctx s)] :
      loopsOf .standard inner closingContext (mark (ifInside plainTrue) ++ rewritten yes' no') =
        .ok (mark (ifInside plainTrue) ++ rewritten yes' no') :=
    loopsOf_drives.of_none hloops
  rw [render, depthFor, renderWithin_succ, level_result, hcalls, ok_bind, hloops', ok_bind,
    conditionalsOf_if (enclosed_ifInside _) (operandIn_ifInside _), hblock]
  simp only [htrue, ok_bind, Value.truthy, if_true, hinner, hafter', map_ok]

theorem callsTo_letter : CallsTo letter "A".toList := fun s => callsOf_text (by decide) s

theorem callsTo_done : CallsTo done [] := fun s => by simp [print]

theorem callsTo_echoed : CallsTo echoed "\x7b\x7b endif \x7d\x7dB".toList := by
  intro s
  have hname : IsName "x".toList := ⟨rfl, rfl, rfl, rfl, rfl, by decide⟩
  have hargument : resolveArgument .standard closingContext "x".toList =
      pure (.text "\x7b\x7b endif \x7d\x7dB".toList) := resolveArgument_of_get? hname rfl
  have hcall : callIn? "trim(x)".toList = some ("trim".toList, "x".toList) := rfl
  have hvalue : insideText? 0 " trim(x) ".toList = some "trim(x)".toList := rfl
  have hcalls : callsOf .standard closingContext (mark " trim(x) ".toList ++ s) = _ :=
    callsOf_call (by decide) rfl hvalue hcall s
  rw [substitution_of_callIn? hcall, call_of_text rfl hargument] at hcalls
  exact hcalls

/-- What closes the conditional early: the value of `trim(x)` is `{{ endif }}B`. -/
theorem block?_echoed_first (no : Text) :
    BlockKind.conditional.block? (rewritten "\x7b\x7b endif \x7d\x7dB".toList no) =
      some ⟨[], none, [], mark " endif ".toList, 'B' :: rewritten [] no⟩ :=
  BlockKind.block?_of_balanced .nil closes_padded_endif _

theorem block?_echoed_second :
    BlockKind.conditional.block?
      (rewritten "A".toList "\x7b\x7b endif \x7d\x7dB".toList) =
        some ⟨"A".toList, some (mark " else ".toList), [], mark " endif ".toList,
          'B' :: mark " endif ".toList⟩ :=
  BlockKind.block?_of_divided (BlockKind.passes_of_unopened (by decide)).balanced
    divides_padded_else .nil closes_padded_endif _

theorem variablesOf_tag {ctx : Context} (before word : Text) [hword : Keyword word]
    (hbefore : before.Unopened) (after : Text) :
    variablesOf .standard ctx (before ++ (mark (padded word) ++ after)) =
      ((before ++ mark (padded word)) ++ ·) <$> variablesOf .standard ctx after := by
  have henclosed : (padded word).Enclosed := enclosed_padded hword.braceless
  have hcontrol : ∀ value, insideText? 0 (padded word) = some value → isControl value = true :=
    fun _ => isControl_of_insideText? (head?_words_padded_keyword word)
  rw [variablesOf_text hbefore, variablesOf_skip henclosed hcontrol]
  simp

theorem render_letter_done :
    (render .standard closingContext (decided plainTrue true letter done).print).result =
      .ok "A".toList := by
  have hblock : BlockKind.conditional.block? (rewritten "A".toList []) =
      some ⟨"A".toList, some (mark " else ".toList), [], mark " endif ".toList, []⟩ :=
    BlockKind.block?_of_divided (BlockKind.passes_of_unopened (by decide)).balanced
      divides_padded_else .nil closes_padded_endif _
  have hsettle : settle "A".toList = "A".toList := by cbv
  rw [render_rewritten callsTo_letter callsTo_done rfl hblock hsettle rfl, List.append_nil,
    variablesOf_drives.of_none rfl]
  exact congrArg Except.ok hsettle

theorem render_letter_echoed :
    (render .standard closingContext (decided plainTrue true letter echoed).print).result =
      .ok "AB".toList := by
  have hsettle : settle "A".toList = "A".toList := by cbv
  have hvariables : variablesOf .standard closingContext
      ("A".toList ++ 'B' :: mark " endif ".toList) = _ :=
    variablesOf_tag "AB".toList "endif".toList (by decide) []
  have hout : settle ("AB".toList ++ mark " endif ".toList) = "AB".toList := by cbv
  rw [render_rewritten callsTo_letter callsTo_echoed rfl block?_echoed_second hsettle rfl,
    hvariables, variablesOf_drives.nil]
  exact congrArg Except.ok hout

theorem render_echoed_letter :
    (render .standard closingContext (decided plainTrue true echoed letter).print).result =
      .ok "BA".toList := by
  have hvariables : variablesOf .standard closingContext ('B' :: rewritten [] "A".toList) = _ :=
    variablesOf_tag "B".toList "else".toList (by decide)
      ("A".toList ++ (mark (padded "endif".toList) ++ []))
  have hout : settle ('B' :: rewritten [] "A".toList) = "BA".toList := by cbv
  rw [render_rewritten callsTo_echoed callsTo_letter rfl (block?_echoed_first _) settle_nil rfl,
    List.nil_append, hvariables, variablesOf_tag _ _ (by decide), variablesOf_drives.nil]
  exact congrArg Except.ok hout

theorem render_echoed_done :
    (render .standard closingContext (decided plainTrue true echoed done).print).result =
      .ok "B".toList := by
  have hvariables : variablesOf .standard closingContext ('B' :: rewritten [] []) = _ :=
    variablesOf_tag "B".toList "else".toList (by decide)
      ([] ++ (mark (padded "endif".toList) ++ []))
  have hout : settle ('B' :: rewritten [] []) = "B".toList := by cbv
  rw [render_rewritten callsTo_echoed callsTo_done rfl (block?_echoed_first _) settle_nil rfl,
    List.nil_append, hvariables, variablesOf_tag _ _ .nil, variablesOf_drives.nil]
  exact congrArg Except.ok hout

/-- A conditional on `true` with the branch `A` gives something else, or nothing, for a second branch
with a call that fails, with a loop that fails, or with a call that closes the conditional. So does
one with that call in its first branch for other second branches. -/
theorem render_decided_differs :
    (evaluate .standard closingContext plainTrue.text).result = .ok (.bool true) ∧
      (render .standard closingContext (decided plainTrue true letter done).print).result =
        .ok "A".toList ∧
      (render .standard closingContext (decided plainTrue true letter failing).print).result =
        .error .zeroDivision ∧
      (render .standard closingContext (decided plainTrue true letter failingLoop).print).result =
        .error .zeroDivision ∧
      (render .standard closingContext (decided plainTrue true letter echoed).print).result =
        .ok "AB".toList ∧
      (render .standard closingContext (decided plainTrue true echoed done).print).result =
        .ok "B".toList ∧
      (render .standard closingContext (decided plainTrue true echoed letter).print).result =
        .ok "BA".toList := by
  have htrue : (evaluate .standard closingContext plainTrue.text).result = .ok (.bool true) := by
    rw [evaluate_of_literal rfl rfl, Eval.result_pure]
  exact ⟨htrue, render_letter_done, render_failing, render_failingLoop, render_letter_echoed,
    render_echoed_done, render_echoed_letter⟩

end Forest

end Stencil.Template
