import Stencil.Proofs.Eval.Result
import Stencil.Proofs.Render.Cleanup
import Stencil.Proofs.Render.Forest
import Stencil.Proofs.Render.Marks

namespace Stencil.Template

open Stencil.Text

/-! The meaning of a tree, and why rendering a printed tree stage by stage gives it. -/

namespace Forest

/-- What a forest gives in a context. What a turn of a loop and the chosen branch of a conditional
give goes through `finish` before it is put in. -/
def outcome (tools : Toolbox) (finish : Text → Text) : Context → Forest → Except Fault Text
  | _, done => pure []
  | ctx, text s rest => (s.text ++ ·) <$> outcome tools finish ctx rest
  | ctx, value d rest => do
      let out ← (substitution tools ctx d.text).result
      (out ++ ·) <$> outcome tools finish ctx rest
  | ctx, guard condition body rest => do
      let v ← (evaluate tools ctx condition.text).result
      let out ← (if v.truthy then finish <$> outcome tools finish ctx body else pure [])
      (out ++ ·) <$> outcome tools finish ctx rest
  | ctx, choice condition yes no rest => do
      let v ← (evaluate tools ctx condition.text).result
      let out ← finish <$>
        if v.truthy then outcome tools finish ctx yes else outcome tools finish ctx no
      (out ++ ·) <$> outcome tools finish ctx rest
  | ctx, loop head body rest => do
      let v ← (evaluate tools ctx head.opened.source).result
      let turns ← (turnScopes head.opened.name v).mapM fun scope =>
        finish <$> outcome tools finish (ctx.child scope) body
      (turns.flatten ++ ·) <$> outcome tools finish ctx rest

/-- The tree evaluated directly. -/
def interpret (tools : Toolbox) (ctx : Context) (t : Forest) : Except Fault Text :=
  t.outcome tools id ctx

/-- Every expression of a tree evaluates, in every scope that its loops bring about and in both
branches of its conditionals, and no directive opens in what its directives give. -/
def Settles (tools : Toolbox) : Context → Forest → Prop
  | _, done => True
  | ctx, text _ rest => rest.Settles tools ctx
  | ctx, value d rest =>
      (∃ out, (substitution tools ctx d.text).result = .ok out ∧ out.Unopened) ∧
        rest.Settles tools ctx
  | ctx, guard condition body rest =>
      (∃ v, (evaluate tools ctx condition.text).result = .ok v) ∧
        body.Settles tools ctx ∧ rest.Settles tools ctx
  | ctx, choice condition yes no rest =>
      (∃ v, (evaluate tools ctx condition.text).result = .ok v) ∧
        yes.Settles tools ctx ∧ no.Settles tools ctx ∧ rest.Settles tools ctx
  | ctx, loop head body rest =>
      (∃ v, (evaluate tools ctx head.opened.source).result = .ok v ∧
        ∀ scope ∈ turnScopes head.opened.name v, body.Settles tools (ctx.child scope)) ∧
        rest.Settles tools ctx

end Forest

namespace Forest

variable {tools : Toolbox} {ctx : Context} {t : Forest}

theorem outcome_of_settles {finish : Text → Text}
    (hfinish : ∀ s, s.Unopened → (finish s).Unopened) (h : t.Settles tools ctx) :
    ∃ out, t.outcome tools finish ctx = .ok out ∧ out.Unopened := by
  induction t generalizing ctx with
  | done => exact ⟨[], rfl, .nil⟩
  | text s rest ih =>
      obtain ⟨out, hout, hopen⟩ := ih h
      exact ⟨s.text ++ out, by rw [outcome, hout, map_ok], s.unopened.append hopen⟩
  | value d rest ih =>
      obtain ⟨⟨first, hfirst, hplain⟩, hrest⟩ := h
      obtain ⟨out, hout, hopen⟩ := ih hrest
      exact ⟨first ++ out, by rw [outcome, hfirst, hout]; rfl, hplain.append hopen⟩
  | guard condition body rest ihbody ihrest =>
      obtain ⟨⟨v, hv⟩, hbody, hrest⟩ := h
      obtain ⟨chosen, hchosen, hplain⟩ := ihbody hbody
      obtain ⟨out, hout, hopen⟩ := ihrest hrest
      rw [outcome, hv, hout, hchosen]
      cases htruthy : v.truthy with
      | true => exact ⟨finish chosen ++ out, by simp [htruthy], (hfinish _ hplain).append hopen⟩
      | false => exact ⟨out, by simp [htruthy, pure, Except.pure], hopen⟩
  | choice condition yes no rest ihyes ihno ihrest =>
      obtain ⟨⟨v, hv⟩, hyes, hno, hrest⟩ := h
      obtain ⟨first, hfirst, hplain⟩ := ihyes hyes
      obtain ⟨second, hsecond, hplain'⟩ := ihno hno
      obtain ⟨out, hout, hopen⟩ := ihrest hrest
      rw [outcome, hv, hout, hfirst, hsecond]
      cases htruthy : v.truthy with
      | true => exact ⟨finish first ++ out, by simp [htruthy], (hfinish _ hplain).append hopen⟩
      | false => exact ⟨finish second ++ out, by simp [htruthy], (hfinish _ hplain').append hopen⟩
  | loop head body rest ihbody ihrest =>
      obtain ⟨⟨v, hv, hbody⟩, hrest⟩ := h
      obtain ⟨out, hout, hopen⟩ := ihrest hrest
      have hturn : ∀ scope ∈ turnScopes head.opened.name v, ∃ turn,
          finish <$> outcome tools finish (ctx.child scope) body = .ok turn ∧ turn.Unopened := by
        intro scope hscope
        obtain ⟨turn, hturn, hplain⟩ := ihbody (hbody scope hscope)
        exact ⟨finish turn, by rw [hturn, map_ok], hfinish _ hplain⟩
      obtain ⟨turns, hturns, hplain⟩ := mapM_ok hturn
      refine ⟨turns.flatten ++ out, ?_, (Text.Unopened.flatten hplain).append hopen⟩
      rw [outcome, hv, hout, ok_bind, hturns]
      rfl

theorem settle_of_interpret {out : Text} (h : t.Settles tools ctx)
    (hout : t.interpret tools ctx = .ok out) (hdoubled : ¬Doubled out) : settle out = out := by
  obtain ⟨_, hout', hopen⟩ : ∃ out, t.outcome tools id ctx = .ok out ∧ out.Unopened :=
    outcome_of_settles (fun _ h => h) h
  rw [interpret, hout'] at hout
  cases hout
  exact settle_of_unopened hopen hdoubled

theorem outcome_settle_of_not_doubled {out : Text} (h : t.Settles tools ctx)
    (hout : t.interpret tools ctx = .ok out) (hdoubled : ¬Doubled out) :
    t.outcome tools settle ctx = .ok out := by
  -- An end doubled in a part is doubled in the whole, so every part settles to itself.
  induction t generalizing ctx out with
  | done => exact hout
  | text s rest ih =>
      obtain ⟨behind, hbehind, rfl⟩ := map_eq_ok.mp hout
      have hrest := (not_doubled_of_append hdoubled).2
      rw [outcome, ih h hbehind hrest, map_ok]
  | value d rest ih =>
      obtain ⟨first, hfirst, hout⟩ := bind_eq_ok.mp hout
      obtain ⟨behind, hbehind, rfl⟩ := map_eq_ok.mp hout
      have hrest := (not_doubled_of_append hdoubled).2
      rw [outcome, hfirst, ih h.2 hbehind hrest]
      rfl
  | guard condition body rest ihbody ihrest =>
      obtain ⟨v, hv, hout⟩ := bind_eq_ok.mp hout
      obtain ⟨chosen, hchosen, hout⟩ := bind_eq_ok.mp hout
      obtain ⟨behind, hbehind, rfl⟩ := map_eq_ok.mp hout
      obtain ⟨hfirst, hrest⟩ := not_doubled_of_append hdoubled
      rw [outcome, hv, ihrest h.2.2 hbehind hrest]
      cases htruthy : v.truthy with
      | true =>
          rw [htruthy, if_pos rfl, id_map] at hchosen
          simp [htruthy, ihbody h.2.1 hchosen hfirst, settle_of_interpret h.2.1 hchosen hfirst]
      | false =>
          rw [htruthy, if_neg Bool.false_ne_true] at hchosen
          cases hchosen
          simp [htruthy, pure, Except.pure]
  | choice condition yes no rest ihyes ihno ihrest =>
      obtain ⟨v, hv, hout⟩ := bind_eq_ok.mp hout
      obtain ⟨chosen, hchosen, hout⟩ := bind_eq_ok.mp hout
      obtain ⟨behind, hbehind, rfl⟩ := map_eq_ok.mp hout
      obtain ⟨hfirst, hrest⟩ := not_doubled_of_append hdoubled
      rw [outcome, hv, ihrest h.2.2.2 hbehind hrest]
      rw [id_map] at hchosen
      cases htruthy : v.truthy with
      | true =>
          rw [htruthy, if_pos rfl] at hchosen
          simp [htruthy, ihyes h.2.1 hchosen hfirst, settle_of_interpret h.2.1 hchosen hfirst]
      | false =>
          rw [htruthy, if_neg Bool.false_ne_true] at hchosen
          simp [htruthy, ihno h.2.2.1 hchosen hfirst, settle_of_interpret h.2.2.1 hchosen hfirst]
  | loop head body rest ihbody ihrest =>
      obtain ⟨v, hv, hout⟩ := bind_eq_ok.mp hout
      obtain ⟨turns, hturns, hout⟩ := bind_eq_ok.mp hout
      obtain ⟨behind, hbehind, rfl⟩ := map_eq_ok.mp hout
      obtain ⟨⟨v', hv', hbody⟩, hsettles⟩ := h
      rw [hv] at hv'
      cases hv'
      obtain ⟨hall, hrest⟩ := not_doubled_of_append hdoubled
      have hturns' : ((turnScopes head.opened.name v).mapM fun scope =>
          settle <$> outcome tools settle (ctx.child scope) body) = .ok turns := by
        refine mapM_eq_ok_of_mem hturns fun scope hscope turn hturn hbodyturn => ?_
        rw [id_map] at hbodyturn
        have hpart : ¬Doubled turn :=
          fun hd => hall (hd.of_infix (List.infix_of_mem_flatten hturn))
        rw [ihbody (hbody scope hscope) hbodyturn hpart, map_ok,
          settle_of_interpret (hbody scope hscope) hbodyturn hpart]
      rw [outcome, hv, ok_bind, hturns', ok_bind, ihrest hsettles hbehind hrest, map_ok]

end Forest

end Stencil.Template
