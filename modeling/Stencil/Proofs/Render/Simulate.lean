import Stencil.Proofs.Render.Interpret

namespace Stencil.Template

open Stencil.Text

/-! Each stage turns a printed tree into another printed tree of the same outcome: calls become
text, then loops do, then conditionals, and at last every expression. -/

namespace Forest

/-- A tree that gives the same as another and is nested no deeper. -/
structure Refines (tools : Toolbox) (ctx : Context) (t t' : Forest) : Prop where
  settles : t'.Settles tools ctx
  outcome : t'.outcome tools settle ctx = t.outcome tools settle ctx
  height : t'.height ≤ t.height

def Loopless : Forest → Prop
  | done => True
  | text _ rest => rest.Loopless
  | value _ rest => rest.Loopless
  | guard _ body rest => body.Loopless ∧ rest.Loopless
  | choice _ yes no rest => yes.Loopless ∧ no.Loopless ∧ rest.Loopless
  | loop _ _ _ => False

def Flat : Forest → Prop
  | done => True
  | text _ rest => rest.Flat
  | value _ rest => rest.Flat
  | _ => False

def RendersBelow (tools : Toolbox) (inner : Inner) (bound : Nat) : Prop :=
  ∀ (ctx : Context) (t : Forest), t.Settles tools ctx → t.height < bound →
    (inner ctx t.print).result = settle <$> t.outcome tools settle ctx

end Forest

section

variable {inside word : Text}

theorem insideText?_expression (d : Expression) :
    insideText? 0 (padded d.text) = some d.text :=
  insideText?_padded d.trimmed d.ne_nil (Nat.zero_le 1)

theorem head?_words_expression (d : Expression) (word : Text) [Keyword word] :
    (words (padded d.text)).head? ≠ some word := by
  rw [head?_words_padded_self]
  exact head?_ne_of_isControl d.isControl_eq_false

theorem loopIn_expression (d : Expression) : loopIn (padded d.text) = none :=
  loopIn_of_head? (enclosed_padded d.braceless).unclosed (head?_words_expression d _)
    (head?_words_expression d _)

theorem operandIn_expression (d : Expression) : operandIn "if".toList (padded d.text) = none := by
  rw [← operand_onMark (enclosed_padded d.braceless).unclosed]
  exact operand_onMark_of_head? (enclosed_padded d.braceless).unclosed (head?_words_expression d _)

theorem loopIn_ifInside (condition : Operand) : loopIn (ifInside condition) = none :=
  loopIn_of_head? (enclosed_ifInside condition).unclosed
    (by rw [head?_words_ifInside]; decide) (by rw [head?_words_ifInside]; decide)

theorem loopIn_padded_else : loopIn (padded "else".toList) = none := by
  exact loopIn_of_head? (by decide) (by rw [head?_words_padded_keyword]; decide)
    (by rw [head?_words_padded_keyword]; decide)

theorem loopIn_padded_endif : loopIn (padded "endif".toList) = none :=
  loopIn_of_head? (by decide) (by rw [head?_words_padded_keyword]; decide)
    (by rw [head?_words_padded_keyword]; decide)

end

namespace Forest

variable {tools : Toolbox} {inner : Inner} {ctx : Context} {t : Forest}

namespace Refines

variable {rest rest' body body' yes yes' no no' : Forest}

theorem refl (h : t.Settles tools ctx) : Refines tools ctx t t := ⟨h, rfl, Nat.le_refl _⟩

theorem text (s : Plain) (hrest : Refines tools ctx rest rest') :
    Refines tools ctx (.text s rest) (.text s rest') where
  settles := hrest.settles
  outcome := by simp only [Forest.outcome, hrest.outcome]
  height := hrest.height

theorem value {d : Expression}
    (hvalue : ∃ out, (substitution tools ctx d.text).result = .ok out ∧ out.Unopened)
    (hrest : Refines tools ctx rest rest') :
    Refines tools ctx (.value d rest) (.value d rest') where
  settles := ⟨hvalue, hrest.settles⟩
  outcome := by simp only [Forest.outcome, hrest.outcome]
  height := hrest.height

theorem guard {condition : Operand}
    (hcondition : ∃ v, (evaluate tools ctx condition.text).result = .ok v)
    (hbody : Refines tools ctx body body') (hrest : Refines tools ctx rest rest') :
    Refines tools ctx (.guard condition body rest) (.guard condition body' rest') where
  settles := ⟨hcondition, hbody.settles, hrest.settles⟩
  outcome := by simp only [Forest.outcome, hbody.outcome, hrest.outcome]
  height := by
    have := hbody.height
    have := hrest.height
    simp only [Forest.height]
    omega

theorem choice {condition : Operand}
    (hcondition : ∃ v, (evaluate tools ctx condition.text).result = .ok v)
    (hyes : Refines tools ctx yes yes') (hno : Refines tools ctx no no')
    (hrest : Refines tools ctx rest rest') :
    Refines tools ctx (.choice condition yes no rest) (.choice condition yes' no' rest') where
  settles := ⟨hcondition, hyes.settles, hno.settles, hrest.settles⟩
  outcome := by simp only [Forest.outcome, hyes.outcome, hno.outcome, hrest.outcome]
  height := by
    have := hyes.height
    have := hno.height
    have := hrest.height
    simp only [Forest.height]
    omega

theorem loop {head : Head}
    (hloop : ∃ v, (evaluate tools ctx head.opened.source).result = .ok v ∧
      ∀ scope ∈ turnScopes head.opened.name v, body.Settles tools (ctx.child scope))
    (hrest : Refines tools ctx rest rest') :
    Refines tools ctx (.loop head body rest) (.loop head body rest') where
  settles := ⟨hloop, hrest.settles⟩
  outcome := by simp only [Forest.outcome, hrest.outcome]
  height := by
    have := hrest.height
    simp only [Forest.height]
    omega

theorem put {out : Text} (hopen : out.Unopened) (hrest : Refines tools ctx rest rest')
    (hout : t.outcome tools settle ctx = (out ++ ·) <$> rest.outcome tools settle ctx)
    (hheight : rest.height ≤ t.height) : Refines tools ctx t (.text ⟨out, hopen⟩ rest') where
  settles := hrest.settles
  outcome := by rw [hout, Forest.outcome, hrest.outcome]
  height := Nat.le_trans hrest.height hheight

end Refines

theorem callsOf_print (h : t.Settles tools ctx) :
    ∃ t', Refines tools ctx t t' ∧ ∀ s,
      callsOf tools ctx (t.print ++ s) = (t'.print ++ ·) <$> callsOf tools ctx s := by
  induction t with
  | done => exact ⟨done, .refl h, fun s => by simp [print]⟩
  | text s rest ih =>
      obtain ⟨rest', href, hcalls⟩ := ih h
      refine ⟨text s rest', href.text s, fun behind => ?_⟩
      simp only [print, List.append_assoc]
      rw [callsOf_text s.unopened, hcalls]
      simp only [Functor.map_map]
  | value d rest ih =>
      obtain ⟨⟨out, hout, hopen⟩, hrest⟩ := h
      obtain ⟨rest', href, hcalls⟩ := ih hrest
      have henclosed := enclosed_padded d.braceless
      cases hcall : callIn? d.text with
      | some found =>
          refine ⟨text ⟨out, hopen⟩ rest', href.put hopen ?_ (Nat.le_refl _), fun behind => ?_⟩
          · rw [outcome, hout, ok_bind]
          · simp only [print, List.append_assoc]
            rw [callsOf_call henclosed (loopIn_expression d) (insideText?_expression d) hcall,
              hout, ok_bind, hcalls]
            simp only [Functor.map_map]
      | none =>
          have hnone : ∀ value, insideText? 0 (padded d.text) = some value →
              callIn? value = none := by
            intro value hvalue
            rw [insideText?_expression] at hvalue
            cases hvalue
            exact hcall
          refine ⟨value d rest', href.value ⟨out, hout, hopen⟩, fun behind => ?_⟩
          simp only [print, List.append_assoc]
          rw [callsOf_skip henclosed (loopIn_expression d) hnone, hcalls]
          simp only [Functor.map_map]
  | guard condition body rest ihbody ihrest =>
      obtain ⟨hcondition, hbody, hrest⟩ := h
      obtain ⟨body', hbody', hcalls⟩ := ihbody hbody
      obtain ⟨rest', hrest', hcalls'⟩ := ihrest hrest
      refine ⟨guard condition body' rest', .guard hcondition hbody' hrest', fun behind => ?_⟩
      simp only [print, List.append_assoc]
      rw [callsOf_keyword (enclosed_ifInside condition) (head?_words_ifInside condition)
        (loopIn_ifInside condition), hcalls,
        callsOf_keyword (by decide) (head?_words_padded_keyword _) loopIn_padded_endif, hcalls']
      simp only [Functor.map_map]
  | choice condition yes no rest ihyes ihno ihrest =>
      obtain ⟨hcondition, hyes, hno, hrest⟩ := h
      obtain ⟨yes', hyes', hcallsYes⟩ := ihyes hyes
      obtain ⟨no', hno', hcallsNo⟩ := ihno hno
      obtain ⟨rest', hrest', hcalls⟩ := ihrest hrest
      refine ⟨choice condition yes' no' rest', .choice hcondition hyes' hno' hrest',
        fun behind => ?_⟩
      simp only [print, List.append_assoc]
      rw [callsOf_keyword (enclosed_ifInside condition) (head?_words_ifInside condition)
        (loopIn_ifInside condition), hcallsYes,
        callsOf_keyword (by decide) (head?_words_padded_keyword _) loopIn_padded_else, hcallsNo,
        callsOf_keyword (by decide) (head?_words_padded_keyword _) loopIn_padded_endif, hcalls]
      simp only [Functor.map_map]
  | loop head body rest ihbody ihrest =>
      -- The calls of a body wait for the scopes of its turns.
      obtain ⟨hloop, hrest⟩ := h
      obtain ⟨rest', hrest', hcalls⟩ := ihrest hrest
      refine ⟨loop head body rest', .loop hloop hrest', fun behind => ?_⟩
      simp only [print, List.append_assoc]
      rw [callsOf_loop head.enclosed_inside head.loopIn_inside,
        BlockKind.block?_of_balanced (balanced_print _ body) head.closes_closer]
      simp only [Block.text, Option.getD_none, List.append_nil, hcalls, Functor.map_map,
        List.append_assoc]

variable [hsteady : ∀ ctx s, Eval.Steady (inner ctx s)] {bound : Nat}

theorem renderLoop_print (hinner : RendersBelow tools inner bound) {head : Head} {body : Forest}
    {v : Value} (hv : (evaluate tools ctx head.opened.source).result = .ok v)
    (hbody : ∀ scope ∈ turnScopes head.opened.name v, body.Settles tools (ctx.child scope))
    (hheight : body.height < bound) :
    ∃ turns : List Text, (∀ turn ∈ turns, turn.Unopened) ∧
      (turnScopes head.opened.name v).mapM (fun scope =>
        settle <$> body.outcome tools settle (ctx.child scope)) = .ok turns ∧
      (renderLoop tools inner ctx head.opened body.print).result = .ok turns.flatten := by
  have hturn : ∀ scope ∈ turnScopes head.opened.name v, ∃ turn,
      settle <$> body.outcome tools settle (ctx.child scope) = .ok turn ∧ turn.Unopened := by
    intro scope hscope
    obtain ⟨turn, hturn, hopen⟩ :=
      outcome_of_settles (fun _ h => unopened_settle_of_unopened h) (hbody scope hscope)
    exact ⟨settle turn, by rw [hturn, map_ok], unopened_settle_of_unopened hopen⟩
  obtain ⟨turns, hturns, hopen⟩ := mapM_ok hturn
  have hrender : (turnScopes head.opened.name v).mapM (fun scope =>
      (inner (ctx.child scope) body.print).result) = .ok turns := by
    rw [← hturns]
    exact mapM_congr_of_mem fun scope hscope => hinner _ _ (hbody scope hscope) hheight
  refine ⟨turns, hopen, hturns, ?_⟩
  rw [renderLoop_eq_mapM, hv, ok_bind, hrender, map_ok]

theorem loopsOf_print (hinner : RendersBelow tools inner bound) (h : t.Settles tools ctx)
    (hheight : t.height ≤ bound) :
    ∃ t', Refines tools ctx t t' ∧ t'.Loopless ∧ ∀ s,
      loopsOf tools inner ctx (t.print ++ s) = (t'.print ++ ·) <$> loopsOf tools inner ctx s := by
  induction t with
  | done => exact ⟨done, .refl h, trivial, fun s => by simp [print]⟩
  | text s rest ih =>
      obtain ⟨rest', href, hloopless, hloops⟩ := ih h hheight
      refine ⟨text s rest', href.text s, hloopless, fun behind => ?_⟩
      simp only [print, List.append_assoc]
      rw [loopsOf_text s.unopened, hloops]
      simp only [Functor.map_map]
  | value d rest ih =>
      obtain ⟨hvalue, hrest⟩ := h
      obtain ⟨rest', href, hloopless, hloops⟩ := ih hrest hheight
      refine ⟨value d rest', href.value hvalue, hloopless, fun behind => ?_⟩
      simp only [print, List.append_assoc]
      rw [loopsOf_skip (enclosed_padded d.braceless) (loopIn_expression d), hloops]
      simp only [Functor.map_map]
  | guard condition body rest ihbody ihrest =>
      obtain ⟨hcondition, hbody, hrest⟩ := h
      simp only [height] at hheight
      obtain ⟨body', hbody', hloopless, hloops⟩ := ihbody hbody (by omega)
      obtain ⟨rest', hrest', hloopless', hloops'⟩ := ihrest hrest (by omega)
      refine ⟨guard condition body' rest', .guard hcondition hbody' hrest',
        ⟨hloopless, hloopless'⟩, fun behind => ?_⟩
      simp only [print, List.append_assoc]
      rw [loopsOf_skip (enclosed_ifInside condition) (loopIn_ifInside condition), hloops,
        loopsOf_skip (by decide) loopIn_padded_endif, hloops']
      simp only [Functor.map_map]
  | choice condition yes no rest ihyes ihno ihrest =>
      obtain ⟨hcondition, hyes, hno, hrest⟩ := h
      simp only [height] at hheight
      obtain ⟨yes', hyes', hlooplessYes, hloopsYes⟩ := ihyes hyes (by omega)
      obtain ⟨no', hno', hlooplessNo, hloopsNo⟩ := ihno hno (by omega)
      obtain ⟨rest', hrest', hloopless, hloops⟩ := ihrest hrest (by omega)
      refine ⟨choice condition yes' no' rest', .choice hcondition hyes' hno' hrest',
        ⟨hlooplessYes, hlooplessNo, hloopless⟩, fun behind => ?_⟩
      simp only [print, List.append_assoc]
      rw [loopsOf_skip (enclosed_ifInside condition) (loopIn_ifInside condition), hloopsYes,
        loopsOf_skip (by decide) loopIn_padded_else, hloopsNo,
        loopsOf_skip (by decide) loopIn_padded_endif, hloops]
      simp only [Functor.map_map]
  | loop head body rest ihbody ihrest =>
      obtain ⟨⟨v, hv, hbody⟩, hrest⟩ := h
      simp only [height] at hheight
      obtain ⟨rest', href, hloopless, hloops⟩ := ihrest hrest (by omega)
      obtain ⟨turns, hopen, hturns, hrender⟩ := renderLoop_print hinner hv hbody (by omega)
      refine ⟨text ⟨turns.flatten, .flatten hopen⟩ rest',
        href.put (.flatten hopen) ?_ ?_, hloopless, fun behind => ?_⟩
      · simp only [outcome, hv, ok_bind, hturns]
      · simp only [height]
        omega
      · simp only [print, List.append_assoc]
        rw [loopsOf_loop head.enclosed_inside head.loopIn_inside,
          BlockKind.block?_of_balanced (balanced_print _ body) head.closes_closer]
        simp only [hrender, ok_bind, hloops, Functor.map_map]

omit hsteady in
theorem branch_print (hinner : RendersBelow tools inner bound) (h : t.Settles tools ctx)
    (hheight : t.height < bound) :
    ∃ out : Text, out.Unopened ∧ settle <$> t.outcome tools settle ctx = .ok out ∧
      (inner ctx t.print).result = .ok out := by
  obtain ⟨out, hout, hopen⟩ :=
    outcome_of_settles (fun _ h => unopened_settle_of_unopened h) h
  refine ⟨settle out, unopened_settle_of_unopened hopen, ?_, ?_⟩
  · rw [hout, map_ok]
  · rw [hinner ctx t h hheight, hout, map_ok]

omit hsteady in
theorem chosen_print (hinner : RendersBelow tools inner bound) (truth : Bool) {yes no : Forest}
    (hyes : yes.Settles tools ctx) (hno : no.Settles tools ctx) (hyesHeight : yes.height < bound)
    (hnoHeight : no.height < bound) :
    ∃ out : Text, out.Unopened ∧
      (settle <$> if truth then yes.outcome tools settle ctx else no.outcome tools settle ctx) =
        .ok out ∧
      (inner ctx (if truth then yes.print else no.print)).result = .ok out := by
  cases truth with
  | true => exact branch_print hinner hyes hyesHeight
  | false => exact branch_print hinner hno hnoHeight

theorem conditionalsOf_print (hinner : RendersBelow tools inner bound) (h : t.Settles tools ctx)
    (hheight : t.height ≤ bound) (hloopless : t.Loopless) :
    ∃ t', Refines tools ctx t t' ∧ t'.Flat ∧ ∀ s,
      conditionalsOf tools inner ctx (t.print ++ s) =
        (t'.print ++ ·) <$> conditionalsOf tools inner ctx s := by
  induction t with
  | done => exact ⟨done, .refl h, trivial, fun s => by simp [print]⟩
  | text s rest ih =>
      obtain ⟨rest', href, hflat, hconditionals⟩ := ih h hheight hloopless
      refine ⟨text s rest', href.text s, hflat, fun behind => ?_⟩
      simp only [print, List.append_assoc]
      rw [conditionalsOf_text s.unopened, hconditionals]
      simp only [Functor.map_map]
  | value d rest ih =>
      obtain ⟨hvalue, hrest⟩ := h
      obtain ⟨rest', href, hflat, hconditionals⟩ := ih hrest hheight hloopless
      refine ⟨value d rest', href.value hvalue, hflat, fun behind => ?_⟩
      simp only [print, List.append_assoc]
      rw [conditionalsOf_skip (enclosed_padded d.braceless) (operandIn_expression d),
        hconditionals]
      simp only [Functor.map_map]
  | guard condition body rest ihbody ihrest =>
      -- A conditional without a second branch chooses between its body and nothing.
      obtain ⟨⟨v, hv⟩, hbody, hrest⟩ := h
      simp only [height] at hheight
      obtain ⟨rest', href, hflat, hconditionals⟩ := ihrest hrest (by omega) hloopless.2
      have hnone : done.Settles tools ctx ∧ done.height < bound :=
        ⟨trivial, by simp only [height]; omega⟩
      obtain ⟨out, hopen, hout, hrender⟩ :=
        chosen_print hinner v.truthy hbody hnone.1 (by omega) hnone.2
      refine ⟨text ⟨out, hopen⟩ rest', href.put hopen ?_ ?_, hflat, fun behind => ?_⟩
      · have hbranch : (if v.truthy then settle <$> body.outcome tools settle ctx else pure []) =
            settle <$> if v.truthy then body.outcome tools settle ctx
              else done.outcome tools settle ctx := by
          cases v.truthy with
          | true => rfl
          | false => exact congrArg Except.ok settle_nil.symm
        rw [outcome, hv, ok_bind, hbranch, hout, ok_bind]
      · simp only [height]
        omega
      · simp only [print] at hrender
        simp only [print, List.append_assoc]
        rw [conditionalsOf_if (enclosed_ifInside condition) (operandIn_ifInside condition),
          BlockKind.block?_of_balanced (balanced_print _ body) closes_padded_endif]
        simp only [hv, ok_bind, hrender, hconditionals, Functor.map_map]
  | choice condition yes no rest ihyes ihno ihrest =>
      obtain ⟨⟨v, hv⟩, hyes, hno, hrest⟩ := h
      simp only [height] at hheight
      obtain ⟨rest', href, hflat, hconditionals⟩ := ihrest hrest (by omega) hloopless.2.2
      obtain ⟨out, hopen, hout, hrender⟩ :=
        chosen_print hinner v.truthy hyes hno (by omega) (by omega)
      refine ⟨text ⟨out, hopen⟩ rest', href.put hopen ?_ ?_, hflat, fun behind => ?_⟩
      · rw [outcome, hv, ok_bind, hout, ok_bind]
      · simp only [height]
        omega
      · simp only [print, List.append_assoc]
        rw [conditionalsOf_if (enclosed_ifInside condition) (operandIn_ifInside condition),
          BlockKind.block?_of_divided (balanced_print _ yes) divides_padded_else
            (balanced_print _ no) closes_padded_endif]
        simp only [hv, ok_bind, hrender, hconditionals, Functor.map_map]
  | loop head body rest ihbody ihrest => exact absurd hloopless id

theorem variablesOf_print (h : t.Settles tools ctx) (hflat : t.Flat) :
    variablesOf tools ctx t.print = t.outcome tools settle ctx := by
  induction t with
  | done => exact variablesOf_drives.nil
  | text s rest ih =>
      rw [print, variablesOf_text s.unopened, ih h hflat, outcome]
  | value d rest ih =>
      rw [print, variablesOf_value (enclosed_padded d.braceless) (insideText?_expression d)
        d.isControl_eq_false, ih h.2 hflat, outcome]
  | _ => exact absurd hflat id

/-- One level of a render gives what the tree does, if the renders of what stands inside do. -/
theorem level_print (hinner : RendersBelow tools inner bound) (h : t.Settles tools ctx)
    (hheight : t.height ≤ bound) :
    (level tools inner ctx t.print).result = settle <$> t.outcome tools settle ctx := by
  obtain ⟨called, hcalled, hcalls⟩ := callsOf_print h
  have hcalledHeight := Nat.le_trans hcalled.height hheight
  obtain ⟨looped, hlooped, hloopless, hloops⟩ :=
    loopsOf_print hinner hcalled.settles hcalledHeight
  have hloopedHeight := Nat.le_trans hlooped.height hcalledHeight
  obtain ⟨chosen, hchosen, hflat, hconditionals⟩ :=
    conditionalsOf_print hinner hlooped.settles hloopedHeight hloopless
  have hnil : ∀ {run : Text → Except Fault Text} {s s' : Text}, run [] = pure [] →
      (∀ behind, run (s ++ behind) = (s' ++ ·) <$> run behind) → run s = .ok s' := by
    intro run s s' hempty hrun
    have hself := hrun []
    rw [List.append_nil, hempty] at hself
    simpa [pure, Except.pure] using hself
  have hcalls' : callsOf tools ctx t.print = .ok called.print := hnil callsOf_drives.nil hcalls
  have hloops' : loopsOf tools inner ctx called.print = .ok looped.print :=
    hnil loopsOf_drives.nil hloops
  have hconditionals' : conditionalsOf tools inner ctx looped.print = .ok chosen.print :=
    hnil conditionalsOf_drives.nil hconditionals
  rw [level_result, hcalls', ok_bind, hloops', ok_bind, hconditionals', ok_bind,
    variablesOf_print hchosen.settles hflat, hchosen.outcome, hlooped.outcome, hcalled.outcome]

theorem renderOver_print (depth : Nat) :
    RendersBelow tools (renderOver tools inner depth) depth := by
  induction depth with
  | zero => exact fun _ _ _ hheight => absurd hheight (Nat.not_lt_zero _)
  | succ depth ih => exact fun _ _ h hheight => level_print ih h (Nat.lt_succ_iff.mp hheight)

/-- Rendering a printed tree gives what the tree evaluated directly gives. -/
theorem render_print (h : t.Settles tools ctx)
    (hdoubled : ∀ out, t.interpret tools ctx = .ok out → ¬Doubled out) :
    ∃ out, t.interpret tools ctx = .ok out ∧ (render tools ctx t.print).result = .ok out := by
  obtain ⟨out, hout, hopen⟩ := outcome_of_settles (fun _ h => h) h
  have hplain := hdoubled out hout
  have hheight : t.height < depthFor t.print := by
    have := t.height_le_length_print
    simp only [depthFor]
    omega
  refine ⟨out, hout, ?_⟩
  rw [render, renderWithin_eq_renderOver, renderOver_print _ _ _ h hheight,
    outcome_settle_of_not_doubled h hout hplain, map_ok, settle_of_unopened hopen hplain]

/-- `Hi {{ x }}{{ if x }}!{{ endif }}{{ for v in xs }}{{ v }},{{ endfor }}` -/
def greeting : Forest :=
  .text ⟨"Hi ".toList, by decide⟩ <|
  .value ⟨⟨"x".toList, by decide, rfl, by decide⟩, by decide⟩ <|
  .guard ⟨"x".toList, by decide, rfl, by decide⟩ (.text ⟨"!".toList, by decide⟩ .done) <|
  .loop (.each ⟨"v".toList, by decide, by decide⟩ ⟨"xs".toList, by decide, rfl, by decide⟩)
    (.value ⟨⟨"v".toList, by decide, rfl, by decide⟩, by decide⟩ <|
      .text ⟨",".toList, by decide⟩ .done)
    .done

def greetingContext : Context :=
  .create none none [("x".toList, .text "you".toList), ("xs".toList, .list [.int 1, .int 2])]
    ⟨⟨2024, 6, 1⟩, 12, 0, 0, 0, none⟩

theorem render_print_greeting :
    ∃ out, greeting.interpret .standard greetingContext = .ok out ∧
      (render .standard greetingContext greeting.print).result = .ok out := by
  have hx : evaluate .standard greetingContext "x".toList = pure (.text "you".toList) :=
    evaluate_of_get? ⟨rfl, rfl, rfl, rfl, rfl, by decide⟩ rfl
  have hxs : evaluate .standard greetingContext "xs".toList = pure (.list [.int 1, .int 2]) :=
    evaluate_of_get? ⟨rfl, rfl, rfl, rfl, rfl, by decide⟩ rfl
  have hscopes : turnScopes (some "v".toList) (.list [.int 1, .int 2]) =
      [turnScope (some "v".toList) 0 (.int 1), turnScope (some "v".toList) 1 (.int 2)] := rfl
  have hv : ∀ (i : Nat) (n : Int), evaluate .standard
      (greetingContext.child (turnScope (some "v".toList) i (.int n))) "v".toList =
        pure (.int n) :=
    fun i n => evaluate_of_get? ⟨rfl, rfl, rfl, rfl, rfl, by decide⟩ rfl
  have hputx : substitution .standard greetingContext "x".toList = pure "you".toList :=
    substitution_of_value rfl hx rfl
  have hput1 : substitution .standard _ "v".toList = pure "1".toList :=
    substitution_of_value rfl (hv 0 1) rfl
  have hput2 : substitution .standard _ "v".toList = pure "2".toList :=
    substitution_of_value rfl (hv 1 2) rfl
  have hsettles : greeting.Settles .standard greetingContext := by
    simp only [greeting, Settles, hx, hxs, hputx, Head.opened, Eval.result_pure]
    refine ⟨⟨_, rfl, by decide⟩, ⟨_, rfl⟩, trivial, ⟨_, rfl, ?_⟩, trivial⟩
    rw [hscopes]
    intro scope hscope
    simp only [List.mem_cons, List.not_mem_nil, or_false] at hscope
    rcases hscope with rfl | rfl
    · rw [hput1, Eval.result_pure]
      exact ⟨⟨_, rfl, by decide⟩, trivial⟩
    · rw [hput2, Eval.result_pure]
      exact ⟨⟨_, rfl, by decide⟩, trivial⟩
  refine render_print hsettles fun out hout => ?_
  have hgreeting : greeting.interpret .standard greetingContext = .ok "Hi you!1,2,".toList := by
    simp only [interpret, greeting, outcome, hx, hxs, hputx, hput1, hput2, Head.opened, hscopes,
      Eval.result_pure, ok_bind, List.mapM_cons, List.mapM_nil]
    rfl
  rw [hgreeting] at hout
  cases hout
  exact not_doubled_of_not_mem (by decide)

end Forest

end Stencil.Template
