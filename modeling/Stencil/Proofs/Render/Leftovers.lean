import Stencil.Proofs.Eval.Unclosed
import Stencil.Proofs.Render.Faithful
import Stencil.Proofs.Render.Paired

namespace Stencil.Template

open Stencil.Text

/-! What a render can leave of double braces. -/

/-- Braces that open a directive stand in the text, and somewhere behind them some that close one. -/
def Spans (s inside : Text) : Prop := ∃ before behind : Text, s = before ++ (mark inside ++ behind)

/-- The first closing brace stands by itself. -/
def Lone (s : Text) : Prop :=
  ∃ (before : Text) (c : Char) (behind : Text), before.Unclosed ∧ c ≠ '}' ∧
    s = before ++ '}' :: c :: behind

theorem unclosed_or_exists (s : Text) :
    s.Unclosed ∨ ∃ before behind : Text, before.Unclosed ∧ s = before ++ '}' :: behind := by
  by_cases hmem : '}' ∈ s
  · obtain ⟨before, behind, hs, hbefore⟩ := List.eq_append_cons_of_mem hmem
    exact .inr ⟨before, behind, fun c hc heq => hbefore (heq ▸ hc), hs⟩
  · exact .inl fun c hc heq => hmem (heq ▸ hc)

theorem lone_of_spans {s inside : Text} (hs : ¬HasDirective s) (h : Spans s inside) :
    Lone inside := by
  obtain ⟨before, behind, rfl⟩ := h
  rcases unclosed_or_exists inside with hunclosed | ⟨front, rest, hfront, rfl⟩
  · exact absurd ⟨before, inside, behind, hunclosed, rfl⟩ hs
  · -- A second closing brace behind the first would end a directive.
    have hclosed : ∀ u : Text, mark (front ++ '}' :: rest) ++ behind = mark front ++ u → False :=
      fun u hu => hs ⟨before, front, u, hfront, by rw [hu]⟩
    match rest with
    | [] => exact (hclosed ('}' :: behind) (by simp [mark])).elim
    | c :: rest =>
        refine ⟨front, c, rest, hfront, ?_, rfl⟩
        rintro rfl
        exact (hclosed (rest ++ '}' :: '}' :: behind) (by simp [mark])).elim

theorem not_spans_of_paired {s inside : Text} (hs : s.Paired) (hclean : ¬HasDirective s) :
    ¬Spans s inside := by
  intro h
  obtain ⟨front, c, rest, hfront, hc, rfl⟩ := lone_of_spans hclean h
  obtain ⟨before, behind, rfl⟩ := h
  have hsplit : before ++ (mark (front ++ '}' :: c :: rest) ++ behind) =
      (before ++ '{' :: '{' :: (front ++ ['}'])) ++ c :: (rest ++ '}' :: '}' :: behind) := by
    simp [mark]
  rw [hsplit] at hs
  obtain ⟨hbefore, -⟩ := hs.of_append_cons hc
  obtain ⟨-, hopen⟩ := hbefore.of_append_cons (by decide)
  have hclose : Text.Paired ['}'] :=
    (Paired.of_unclosed hfront).of_append_left (hopen.tail (by decide))
  cases hclose with
  | cons hc _ => exact hc rfl

/-! Sealed tools keep closing braces out of the scopes of loops. -/

theorem unclosed_of_mem_turnScope {name : Option Text} {index : Nat} {item : Value}
    (h : item.Unclosed) : ∀ binding ∈ turnScope name index item, binding.2.Unclosed := by
  unfold turnScope
  cases name with
  | none => exact List.forall_mem_cons.mpr ⟨h, List.forall_mem_singleton.mpr (.int index)⟩
  | some name =>
      refine List.forall_mem_append.mpr ⟨?_, List.forall_mem_singleton.mpr h⟩
      exact List.forall_mem_cons.mpr ⟨h, List.forall_mem_singleton.mpr (.int index)⟩

theorem unclosed_child {ctx : Context} (hctx : ctx.Unclosed) {v : Value} (hv : IsUnclosed v)
    {name : Option Text} {scope : Scope} (hscope : scope ∈ turnScopes name v) :
    (ctx.child scope).Unclosed := by
  obtain ⟨index, hindex, rfl⟩ := List.mem_mapIdx.mp hscope
  have hitems : IsUnclosed (v.sequence?.getD []) := inferInstance
  have hitem := (hitems.of_mem (List.getElem_mem hindex)).holds
  exact ⟨List.forall_mem_cons.mpr ⟨unclosed_of_mem_turnScope hitem, hctx.scopes⟩, hctx.site,
    hctx.page⟩

theorem steers_of_sealed {tools : Toolbox} [tools.Sealed] : Steers tools Context.Unclosed where
  substitution {ctx _ out} hctx hinside h := by
    have hclear : IsUnclosed ctx := ⟨hctx⟩
    have hseals : Eval.Seals (substitution tools ctx _) := seals_substitution hinside
    exact (GivesUnclosed.of_eq_ok out h).text
  turn {ctx source v} hctx hsource hv name scope hscope := by
    have hclear : IsUnclosed ctx := ⟨hctx⟩
    have hseals : Eval.Seals (evaluate tools ctx source) := seals_evaluate hsource
    exact unclosed_child hctx (GivesUnclosed.of_eq_ok v hv) hscope

/-- The double braces left by a render have by itself a closing brace between them, whatever the
template and the values put into it: all others are evaluated or removed. Text in which the cleanup
finds nothing is left as it stands. No double braces are left of a template in which closing braces
stand in pairs, where nothing that is put into it brings one in. -/
theorem render_leftovers (tools : Toolbox) (ctx : Context) (template : Text) :
    (∀ out, (render tools ctx template).result = .ok out →
      ∀ inside, Spans out inside → Lone inside) ∧
    ((render tools ctx template).result = .ok template ↔ Clean template) ∧
    (tools.Sealed → ctx.Unclosed → template.Paired →
      ∀ out, (render tools ctx template).result = .ok out → ∀ inside, ¬Spans out inside) := by
  have hclean : ∀ out, (render tools ctx template).result = .ok out → Clean out := by
    intro out h
    obtain ⟨s, rfl⟩ := exists_settle_of_render h
    exact clean_settle s
  refine ⟨fun out h inside => lone_of_spans (hclean out h).no_directive, ⟨hclean template, ?_⟩, ?_⟩
  · intro h
    rw [render, depthFor, renderWithin_succ, level_of_settled _ _ _ (settle_of_clean h),
      Eval.result_pure]
  · intro htools hctx hpaired out h inside
    have hout := paired_render steers_of_sealed hctx hpaired h
    exact not_spans_of_paired hout (hclean out h).no_directive

def strayBrace : Text := mark " a \x7d ".toList

theorem clean_strayBrace : Clean strayBrace where
  no_directive := bare_iff.mp (by cbv)
  not_doubled := not_doubled_of_not_mem (by decide)

theorem spans_strayBrace : Spans strayBrace " a \x7d ".toList := ⟨[], [], rfl⟩

def emptyContext : Context := .create none none [] ⟨⟨2024, 6, 1⟩, 12, 0, 0, 0, none⟩

theorem unclosed_blank : (Value.site Site.blank).Unclosed := by
  have hmap : Value.Unclosed (.map []) :=
    .map [] (List.forall_mem_nil _) (List.forall_mem_nil _) (List.forall_mem_nil _)
  exact .site _ (by decide) hmap hmap (List.forall_mem_nil _) (List.forall_mem_nil _)
    (List.forall_mem_nil _) (by decide)

theorem unclosed_boundContext {s : Text} (h : s.Unclosed) : (boundContext (.text s)).Unclosed where
  scopes := by
    refine List.forall_mem_singleton.mpr (List.forall_mem_cons.mpr ⟨.text s h, ?_⟩)
    exact List.forall_mem_singleton.mpr (.text _ (by decide))
  site := unclosed_blank
  page := fun _ h => nomatch h

theorem render_leftovers_strayBrace :
    (Clean strayBrace ∧ (render .standard emptyContext strayBrace).result = .ok strayBrace ∧
      Spans strayBrace " a \x7d ".toList ∧ Lone " a \x7d ".toList) ∧
    Toolbox.literal.Sealed ∧ (boundContext (.text ['a'])).Unclosed ∧ (nameMark boundName).Paired ∧
      (render .literal (boundContext (.text ['a'])) (nameMark boundName)).result = .ok ['a'] ∧
      ∀ inside, ¬Spans ['a'] inside := by
  obtain ⟨hlone, hleft, -⟩ := render_leftovers .standard emptyContext strayBrace
  have hrender := hleft.mpr clean_strayBrace
  refine ⟨⟨clean_strayBrace, hrender, spans_strayBrace, hlone _ hrender _ spans_strayBrace⟩, ?_⟩
  have hcontext := unclosed_boundContext (s := ['a']) (by decide)
  have hpaired : (nameMark boundName).Paired := .mark (by decide)
  have hsettle : settle ['a'] = ['a'] :=
    settle_of_clean (clean_of_not_mem (by decide) (by decide))
  have hvalue : (render .literal (boundContext (.text ['a'])) (nameMark boundName)).result =
      .ok ['a'] := by
    rw [render_nameMark boundName rfl, hsettle]
  obtain ⟨-, -, hnone⟩ :=
    render_leftovers .literal (boundContext (.text ['a'])) (nameMark boundName)
  exact ⟨instSealedLiteral, hcontext, hpaired, hvalue,
    hnone instSealedLiteral hcontext hpaired _ hvalue⟩

/-- Without anything put into it a template leaves its own braces, and what stands between them. -/
theorem template_left : ∃ out inside,
    (render .standard emptyContext strayBrace).result = .ok out ∧ Spans out inside := by
  refine ⟨strayBrace, _, ?_, spans_strayBrace⟩
  rw [render, depthFor, renderWithin_succ,
    level_of_settled _ _ _ (settle_of_clean clean_strayBrace), Eval.result_pure]

end Stencil.Template
