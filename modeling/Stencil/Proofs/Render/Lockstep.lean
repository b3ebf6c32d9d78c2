import Stencil.Proofs.Eval.Result
import Stencil.Proofs.Render.Cleanup
import Stencil.Proofs.Render.Marks
import Stencil.Proofs.Token.Pairing

namespace Stencil.Template

open Stencil.Text

/-! Two renders of a template in tokens go in step when their contexts are related: every stage
leaves tokens again, with no directive that was not there before. -/

/-- Two results are the same; a text is one of tokens whose directives are among `insides`. -/
structure Same (insides : List Text) (x y : Except Fault Text) : Prop where
  eq : x = y
  spelled : ∀ out, x = .ok out →
    ∃ tokens, out = spell tokens ∧ (directives tokens).Sublist insides

/-- Two results are the same, and no directive opens in a text. -/
structure SamePlain (x y : Except Fault Text) : Prop where
  eq : x = y
  unopened : ∀ out, x = .ok out → out.Unopened

theorem SamePlain.error (e : Fault) : SamePlain (.error e) (.error e) where
  eq := rfl
  unopened out hout := by cases hout

namespace Same

variable {insides : List Text} {x y : Except Fault Text}

theorem ok (tokens : List Token) :
    Same (directives tokens) (.ok (spell tokens)) (.ok (spell tokens)) where
  eq := rfl
  spelled out hout := by
    cases hout
    exact ⟨tokens, rfl, List.Sublist.refl _⟩

theorem error (e : Fault) : Same insides (.error e) (.error e) where
  eq := rfl
  spelled out hout := by cases hout

theorem mono {larger : List Text} (h : Same insides x y) (hsub : insides.Sublist larger) :
    Same larger x y where
  eq := h.eq
  spelled out hout := by
    obtain ⟨tokens, hspell, htokens⟩ := h.spelled out hout
    exact ⟨tokens, hspell, htokens.trans hsub⟩

theorem append (h : Same insides x y) (tokens : List Token) :
    Same (directives tokens ++ insides) ((spell tokens ++ ·) <$> x) ((spell tokens ++ ·) <$> y)
    where
  eq := by rw [h.eq]
  spelled out hout := by
    obtain ⟨rest, hrest, rfl⟩ := map_eq_ok.mp hout
    obtain ⟨others, rfl, hothers⟩ := h.spelled rest hrest
    exact ⟨tokens ++ others, (spell_append _ _).symm,
      by rw [directives_append]; exact hothers.append_left _⟩

theorem text (h : Same insides x y) (s : Plain) :
    Same insides ((s.text ++ ·) <$> x) ((s.text ++ ·) <$> y) := by
  simpa using h.append [.text s]

theorem directive (h : Same insides x y) (d : Inside) :
    Same (d.text :: insides) ((mark d.text ++ ·) <$> x) ((mark d.text ++ ·) <$> y) := by
  simpa using h.append [.directive d]

theorem put {first second : Except Fault Text} (hfirst : SamePlain first second)
    (h : Same insides x y) :
    Same insides (first >>= fun out => (out ++ ·) <$> x) (second >>= fun out => (out ++ ·) <$> y)
    where
  eq := by rw [hfirst.eq, h.eq]
  spelled out hout := by
    obtain ⟨front, hfront, hmap⟩ := bind_eq_ok.mp hout
    exact (h.text ⟨front, hfirst.unopened front hfront⟩).spelled out hmap

theorem bind (h : Same insides x y) {f g : Text → Except Fault Text}
    (hnext : ∀ tokens, (directives tokens).Sublist insides →
      Same (directives tokens) (f (spell tokens)) (g (spell tokens))) :
    Same insides (x >>= f) (y >>= g) := by
  rw [← h.eq]
  cases hx : x with
  | error e => exact .error e
  | ok out =>
      obtain ⟨tokens, rfl, hsub⟩ := h.spelled out hx
      exact (hnext tokens hsub).mono hsub

theorem settle (h : Same insides x y) :
    SamePlain (Template.settle <$> x) (Template.settle <$> y) where
  eq := by rw [h.eq]
  unopened out hout := by
    obtain ⟨s, hs, rfl⟩ := map_eq_ok.mp hout
    obtain ⟨tokens, rfl, _⟩ := h.spelled s hs
    exact unopened_settle_spell tokens

/-- Two recursions over the matches of a pattern go in step on tokens if they do at each directive:
text stays where it is. -/
theorem of_drives {α : Type} {scan : Scanner α} [scan.AtMarks] {run run' : Text → Except Fault Text}
    {act act' : Text → α → Text → Except Fault Text} {limit : Nat} (hrun : scan.Drives run act)
    (hrun' : scan.Drives run' act')
    (hdirective : ∀ (d : Inside) (tokens : List Token), d.text ∈ insides →
      directives tokens ⊆ insides → (directives tokens).length < limit →
        (∀ rest : List Token, rest.Sublist tokens →
          Same (directives rest) (run (spell rest)) (run' (spell rest))) →
          Same (d.text :: directives tokens) (run (mark d.text ++ spell tokens))
            (run' (mark d.text ++ spell tokens)))
    {tokens : List Token} (hsub : directives tokens ⊆ insides)
    (hlimit : (directives tokens).length ≤ limit) :
    Same (directives tokens) (run (spell tokens)) (run' (spell tokens)) := by
  -- What stands behind a block is not the rest of the tokens, but it is shorter.
  induction hlength : tokens.length using Nat.strongRecOn generalizing tokens with
  | ind n ih =>
      cases tokens with
      | nil =>
          rw [spell_nil, hrun.nil, hrun'.nil]
          exact .ok []
      | cons token tokens =>
          have hshorter : tokens.length < n := by rw [← hlength, List.length_cons]; omega
          cases token with
          | text s =>
              rw [spell_text, hrun.text s.unopened, hrun'.text s.unopened]
              exact (@ih _ hshorter tokens hsub hlimit rfl).text s
          | directive d =>
              have hbehind : directives tokens ⊆ insides := List.subset_of_cons_subset hsub
              rw [spell_directive]
              refine hdirective d tokens (hsub List.mem_cons_self) hbehind hlimit
                fun rest hrest => ?_
              have hdirectives := directives_sublist hrest
              exact ih _ (Nat.lt_of_le_of_lt hrest.length_le hshorter)
                (fun _ hmem => hbehind (hdirectives.subset hmem))
                (Nat.le_trans hdirectives.length_le (Nat.le_of_succ_le hlimit)) rfl

end Same

/-- Contexts that give the same for the directives of a template, in every scope that its loops
bring about, and no text in which a directive opens. -/
structure Bisimulation (tools : Toolbox) (insides : List Text)
    (related : Context → Context → Prop) : Prop where
  value : ∀ {ctx other : Context} {inside value : Text}, related ctx other → inside ∈ insides →
    insideText? 0 inside = some value → isControl value = false →
      SamePlain (substitution tools ctx value).result (substitution tools other value).result
  condition : ∀ {ctx other : Context} {inside condition : Text}, related ctx other →
    inside ∈ insides → operandIn "if".toList inside = some condition →
      (evaluate tools ctx condition).result = (evaluate tools other condition).result
  source : ∀ {ctx other : Context} {inside : Text} {head : LoopHead}, related ctx other →
    inside ∈ insides → loopIn inside = some head →
      (evaluate tools ctx head.source).result = (evaluate tools other head.source).result
  turn : ∀ {ctx other : Context} {inside : Text} {head : LoopHead} {v : Value} {scope : Scope},
    related ctx other → inside ∈ insides → loopIn inside = some head →
      (evaluate tools ctx head.source).result = .ok v → scope ∈ turnScopes head.name v →
        related (ctx.child scope) (other.child scope)

theorem isControl_of_callIn? {value : Text} {found : Text × Text}
    (h : callIn? value = some found) : isControl value = false := by
  cases hcontrol : isControl value with
  | false => rfl
  | true =>
      rw [callIn?_of_isControl hcontrol] at h
      cases h

theorem kind_of_loopIn {inside : Text} {head : LoopHead} (h : loopIn inside = some head) :
    head.kind ≠ .block := by
  rcases Option.or_eq_some_iff.mp h with hfor | ⟨_, hrange⟩
  · obtain ⟨found, _, rfl⟩ := Option.map_eq_some_iff.mp hfor
    exact BlockKind.noConfusion
  · obtain ⟨operand, _, rfl⟩ := Option.map_eq_some_iff.mp hrange
    unfold rangeOver
    split <;> exact BlockKind.noConfusion

theorem SamePlain.turns {scopes : List Scope} {f g : Scope → Except Fault Text}
    (h : ∀ scope ∈ scopes, SamePlain (f scope) (g scope)) :
    SamePlain (List.flatten <$> scopes.mapM f) (List.flatten <$> scopes.mapM g) where
  eq := by rw [mapM_congr_of_mem fun scope hscope => (h scope hscope).eq]
  unopened out hout := by
    obtain ⟨turns, hturns, rfl⟩ := map_eq_ok.mp hout
    exact Text.Unopened.flatten
      (forall_of_mapM_eq_ok hturns fun scope hscope => (h scope hscope).unopened)

namespace Bisimulation

section

variable {tools : Toolbox} {insides : List Text} {related : Context → Context → Prop}
  {ctx other : Context}

theorem calls (hsim : Bisimulation tools insides related) (hctx : related ctx other)
    (tokens : List Token) (hsub : directives tokens ⊆ insides) :
    Same (directives tokens) (callsOf tools ctx (spell tokens))
      (callsOf tools other (spell tokens)) := by
  refine Same.of_drives callsOf_drives callsOf_drives (fun d tokens hmem _ _ ih => ?_) hsub
    (Nat.le_refl _)
  have hrest := ih tokens (List.Sublist.refl _)
  cases hloop : loopIn d.text with
  | some head =>
      rw [callsOf_loop d.enclosed hloop, callsOf_loop d.enclosed hloop]
      cases hblock : head.kind.block? (spell tokens) with
      | none => exact hrest.directive d
      | some b =>
          -- The block waits for its loop; the calls behind it do not.
          obtain ⟨pieces⟩ := BlockKind.block?_spell (kind_of_loopIn hloop) hblock
          have hput := (ih pieces.after pieces.after_sublist).append (.directive d :: pieces.whole)
          simpa only [pieces.text_eq, pieces.after_eq, spell_directive, directives_directive,
            pieces.directives_eq, List.cons_append] using hput
  | none =>
      by_cases hcall : ∀ value, insideText? 0 d.text = some value → callIn? value = none
      · rw [callsOf_skip d.enclosed hloop hcall, callsOf_skip d.enclosed hloop hcall]
        exact hrest.directive d
      · simp only [Classical.not_forall] at hcall
        obtain ⟨value, hvalue, hcall⟩ := hcall
        obtain ⟨found, hfound⟩ := Option.ne_none_iff_exists'.mp hcall
        rw [callsOf_call d.enclosed hloop hvalue hfound,
          callsOf_call d.enclosed hloop hvalue hfound]
        have hput := Same.put (hsim.value hctx hmem hvalue (isControl_of_callIn? hfound)) hrest
        exact hput.mono (List.sublist_cons_self _ _)

theorem substitutions (hsim : Bisimulation tools insides related) (hctx : related ctx other)
    (tokens : List Token) (hsub : directives tokens ⊆ insides) :
    Same (directives tokens) (variablesOf tools ctx (spell tokens))
      (variablesOf tools other (spell tokens)) := by
  refine Same.of_drives variablesOf_drives variablesOf_drives (fun d tokens hmem _ _ ih => ?_) hsub
    (Nat.le_refl _)
  have hrest := ih tokens (List.Sublist.refl _)
  by_cases hcontrol : ∀ value, insideText? 0 d.text = some value → isControl value = true
  · rw [variablesOf_skip d.enclosed hcontrol, variablesOf_skip d.enclosed hcontrol]
    exact hrest.directive d
  · obtain ⟨value, hvalue, hcontrol⟩ : ∃ value, insideText? 0 d.text = some value ∧
        isControl value = false := by simpa using hcontrol
    rw [variablesOf_value d.enclosed hvalue hcontrol,
      variablesOf_value d.enclosed hvalue hcontrol]
    have hput := Same.put (hsim.value hctx hmem hvalue hcontrol) hrest
    exact hput.mono (List.sublist_cons_self _ _)

end

/-- Two renderers go in step on templates of fewer than `bound` directives. -/
def InStep (insides : List Text) (related : Context → Context → Prop) (inner inner' : Inner)
    (bound : Nat) : Prop :=
  ∀ {ctx other : Context} {tokens : List Token}, related ctx other →
    directives tokens ⊆ insides → (directives tokens).length < bound →
      SamePlain (inner ctx (spell tokens)).result (inner' other (spell tokens)).result

section

variable {tools : Toolbox} {insides : List Text} {related : Context → Context → Prop}
  {inner inner' : Inner} {bound : Nat} {ctx other : Context}
  [hinner : ∀ ctx s, Eval.Steady (inner ctx s)] [hinner' : ∀ ctx s, Eval.Steady (inner' ctx s)]

theorem loops (hsim : Bisimulation tools insides related)
    (hbody : InStep insides related inner inner' bound) (hctx : related ctx other)
    (tokens : List Token) (hsub : directives tokens ⊆ insides)
    (hbound : (directives tokens).length ≤ bound) :
    Same (directives tokens) (loopsOf tools inner ctx (spell tokens))
      (loopsOf tools inner' other (spell tokens)) := by
  refine Same.of_drives loopsOf_drives loopsOf_drives
    (fun d tokens hmem hbehind hfewer ih => ?_) hsub hbound
  have hrest := ih tokens (List.Sublist.refl _)
  cases hloop : loopIn d.text with
  | none =>
      rw [loopsOf_skip d.enclosed hloop, loopsOf_skip d.enclosed hloop]
      exact hrest.directive d
  | some head =>
      rw [loopsOf_loop d.enclosed hloop, loopsOf_loop d.enclosed hloop]
      cases hblock : head.kind.block? (spell tokens) with
      | none => exact hrest.directive d
      | some b =>
          obtain ⟨pieces⟩ := BlockKind.block?_spell (kind_of_loopIn hloop) hblock
          have hout : SamePlain (renderLoop tools inner ctx head b.first).result
              (renderLoop tools inner' other head b.first).result := by
            rw [renderLoop_eq_mapM, renderLoop_eq_mapM, ← hsim.source hctx hmem hloop]
            cases hv : (evaluate tools ctx head.source).result with
            | error e => exact .error e
            | ok v =>
                simp only [ok_bind, pieces.first_eq]
                refine SamePlain.turns fun scope hscope => ?_
                exact hbody (hsim.turn hctx hmem hloop hv hscope)
                  (fun _ h => hbehind (pieces.first_sublist_directives.subset h))
                  (Nat.lt_trans pieces.length_first_lt_directives hfewer)
          have hput := Same.put hout (ih pieces.after pieces.after_sublist)
          simp only [pieces.after_eq]
          exact hput.mono ((directives_sublist pieces.after_sublist).cons _)

theorem conditionals (hsim : Bisimulation tools insides related)
    (hbranch : InStep insides related inner inner' bound) (hctx : related ctx other)
    (tokens : List Token) (hsub : directives tokens ⊆ insides)
    (hbound : (directives tokens).length ≤ bound) :
    Same (directives tokens) (conditionalsOf tools inner ctx (spell tokens))
      (conditionalsOf tools inner' other (spell tokens)) := by
  refine Same.of_drives conditionalsOf_drives conditionalsOf_drives
    (fun d tokens hmem hbehind hfewer ih => ?_) hsub hbound
  have hrest := ih tokens (List.Sublist.refl _)
  cases hif : operandIn "if".toList d.text with
  | none =>
      rw [conditionalsOf_skip d.enclosed hif, conditionalsOf_skip d.enclosed hif]
      exact hrest.directive d
  | some condition =>
      rw [conditionalsOf_if d.enclosed hif, conditionalsOf_if d.enclosed hif]
      cases hblock : BlockKind.conditional.block? (spell tokens) with
      | none => exact hrest.directive d
      | some b =>
          obtain ⟨pieces⟩ := BlockKind.block?_spell (by decide) hblock
          have hout : ∀ v : Value,
              SamePlain (inner ctx (if v.truthy then b.first else b.second)).result
                (inner' other (if v.truthy then b.first else b.second)).result := by
            intro v
            cases v.truthy with
            | true =>
                simp only [if_true, pieces.first_eq]
                exact hbranch hctx
                  (fun _ h => hbehind (pieces.first_sublist_directives.subset h))
                  (Nat.lt_trans pieces.length_first_lt_directives hfewer)
            | false =>
                simp only [Bool.false_eq_true, if_false, pieces.second_eq]
                exact hbranch hctx
                  (fun _ h => hbehind (pieces.second_sublist_directives.subset h))
                  (Nat.lt_trans pieces.length_second_lt_directives hfewer)
          rw [← hsim.condition hctx hmem hif]
          cases hv : (evaluate tools ctx condition).result with
          | error e => exact .error e
          | ok v =>
              have hput := Same.put (hout v) (ih pieces.after pieces.after_sublist)
              simp only [ok_bind, pieces.after_eq]
              exact hput.mono ((directives_sublist pieces.after_sublist).cons _)

theorem levels (hsim : Bisimulation tools insides related)
    (hinner : InStep insides related inner inner' bound) :
    InStep insides related (level tools inner) (level tools inner') (bound + 1) := by
  intro ctx other tokens hctx hsub hbound
  have hfew : (directives tokens).length ≤ bound := Nat.le_of_lt_succ hbound
  have hspelled : ∀ {rest : List Token}, (directives rest).Sublist (directives tokens) →
      directives rest ⊆ insides ∧ (directives rest).length ≤ bound := fun h =>
    ⟨fun _ hmem => hsub (h.subset hmem), Nat.le_trans h.length_le hfew⟩
  have hrun : Same (directives tokens)
      (callsOf tools ctx (spell tokens) >>= fun s =>
        loopsOf tools inner ctx s >>= fun s =>
          conditionalsOf tools inner ctx s >>= fun s => variablesOf tools ctx s)
      (callsOf tools other (spell tokens) >>= fun s =>
        loopsOf tools inner' other s >>= fun s =>
          conditionalsOf tools inner' other s >>= fun s => variablesOf tools other s) := by
    refine (hsim.calls hctx tokens hsub).bind fun called hcalled => ?_
    obtain ⟨hsub, hbound⟩ := hspelled hcalled
    refine (hsim.loops hinner hctx called hsub hbound).bind fun looped hlooped => ?_
    obtain ⟨hsub, hbound⟩ := hspelled (hlooped.trans hcalled)
    refine (hsim.conditionals hinner hctx looped hsub hbound).bind fun chosen hchosen => ?_
    exact hsim.substitutions hctx chosen (hspelled (hchosen.trans (hlooped.trans hcalled))).1
  have hsettled := hrun.settle
  rw [level_result, level_result]
  simpa only [map_bind] using hsettled

/-- Renders of at least as many levels as a template has directives go in step, whatever is done
below these levels. -/
theorem renders (hsim : Bisimulation tools insides related) (bound : Nat) :
    ∀ depth depth', bound ≤ depth → bound ≤ depth' →
      InStep insides related (renderOver tools inner depth) (renderOver tools inner' depth')
        bound := by
  induction bound with
  | zero => exact fun _ _ _ _ _ _ _ _ _ h => absurd h (Nat.not_lt_zero _)
  | succ bound ih =>
      intro depth depth' hdepth hdepth'
      cases depth with
      | zero => cases hdepth
      | succ depth =>
          cases depth' with
          | zero => cases hdepth'
          | succ depth' =>
              exact hsim.levels (ih depth depth' (Nat.le_of_succ_le_succ hdepth)
                (Nat.le_of_succ_le_succ hdepth'))

end

end Bisimulation

end Stencil.Template
