import Mathlib.Data.List.Infix
import Stencil.Proofs.Eval.Agreement
import Stencil.Proofs.Render.Bounded

namespace Stencil.Template

open Stencil.Text

/-! A template sees the names that it mentions, and no others. -/

section

variable {tools : Toolbox} {name : Text} {tokens : List Token} {ctx : Context}

theorem not_isInfix_of_directive (hname : ¬name <:+: spell tokens) {inside part : Text}
    (hmem : inside ∈ directives tokens) (hpart : part <:+: inside) : ¬name <:+: part :=
  fun h => hname ((h.trans hpart).trans (infix_of_mem_directives hmem))

theorem Inert.bisimulation_agreesOff (h : Inert tools (directives tokens) ctx)
    (hname : ¬name <:+: spell tokens) :
    Bisimulation tools (directives tokens) fun reached other =>
      Turns tools (directives tokens) ctx reached ∧ reached.AgreesOff name other where
  value := by
    rintro reached other inside value ⟨hreached, hagree⟩ hmem hvalue hcontrol
    rw [substitution_congr hagree
      (not_isInfix_of_directive hname hmem (infix_of_insideText? hvalue))]
    exact ⟨rfl, fun out hout => h hreached hmem hvalue hcontrol hout⟩
  condition := by
    rintro reached other inside condition ⟨_, hagree⟩ hmem hif
    rw [evaluate_congr hagree (not_isInfix_of_directive hname hmem (infix_of_operandIn hif))]
  source := by
    rintro reached other inside head ⟨_, hagree⟩ hmem hloop
    rw [evaluate_congr hagree (not_isInfix_of_directive hname hmem (infix_of_loopIn hloop))]
  turn := by
    rintro reached other inside head v scope ⟨hreached, hagree⟩ hmem hloop hv hscope
    exact ⟨hreached.turn hmem hloop hv hscope, hagree.child scope⟩

end

theorem agreesOff_create {name : Text} {extra other : Scope}
    (h : ∀ n, n ≠ name → other.lookup n = extra.lookup n) (site : Option Site)
    (page : Option Page) (now : Moment) :
    (Context.create site page extra now).AgreesOff name (.create site page other now) where
  site := rfl
  page := rfl
  now := rfl
  bound n hn := by simp only [Context.create, List.findSome?_cons, h n hn]

def secretContext (x : Value) (secret : Text) : Context :=
  .create none none [("x".toList, x), ("secret".toList, .text secret)]
    ⟨⟨2024, 6, 1⟩, 12, 0, 0, 0, none⟩

theorem isName_secret : IsName "secret".toList := ⟨rfl, rfl, rfl, rfl, rfl, by decide⟩

theorem variablesOf_secret (x : Value) (t s : Text) :
    variablesOf .standard (secretContext x t) (mark " secret ".toList ++ s) =
      (t ++ ·) <$> variablesOf .standard (secretContext x t) s := by
  have hsecret : insideText? 0 " secret ".toList = some "secret".toList := rfl
  have hvalue : evaluate .standard (secretContext x t) "secret".toList = pure (.text t) :=
    evaluate_of_get? isName_secret rfl
  rw [variablesOf_value (by decide) hsecret rfl, substitution_of_value rfl hvalue rfl,
    Eval.result_pure, ok_bind]

theorem render_secret_of_call (t : Text) :
    (render .standard (secretContext (.text (mark " secret ".toList)) t)
      (mark " trim(x) ".toList)).result = .ok (settle t) := by
  have hargument : resolveArgument .standard
      (secretContext (.text (mark " secret ".toList)) t) "x".toList =
        pure (.text (mark " secret ".toList)) := resolveArgument_of_get? isName_x rfl
  have htrim : trim (mark " secret ".toList) = mark " secret ".toList := rfl
  have hput : variablesOf .standard (secretContext (.text (mark " secret ".toList)) t)
      (mark " secret ".toList ++ []) = _ := variablesOf_secret _ t []
  rw [variablesOf_drives.nil, List.append_nil] at hput
  rw [render, depthFor, renderWithin_succ, level_of_flat (callsOf_trim hargument) rfl rfl, htrim,
    hput]
  exact congrArg (Except.ok ∘ settle) (List.append_nil t)

def secretParts : List Text := [[], "\x7b secret \x7d\x7d".toList]

theorem render_secret_of_turns (t : Text) :
    (render .standard (secretContext (.list (secretParts.map .text)) t) ajar).result =
      .ok (settle (t ++ ['{'])) := by
  have hitems : evaluate .standard (secretContext (.list (secretParts.map .text)) t)
      "x".toList = pure (.list (secretParts.map .text)) := evaluate_of_get? isName_x rfl
  have hsettle : ∀ part ∈ secretParts, settle (part ++ ['{']) = part ++ ['{'] := by
    simp only [secretParts, List.forall_mem_cons]
    exact ⟨by cbv, by cbv, fun _ hmem => nomatch hmem⟩
  have hlooped := loopsOf_ajar hitems (renderWithin .standard (ajar.length + 999))
  rw [renderWithin_succ, renderTurns_ajar _ _ hsettle] at hlooped
  have hparts : secretParts.flatMap (· ++ ['{']) = mark " secret ".toList ++ ['{'] := rfl
  have hconditionals : ∀ inner : Inner, (∀ ctx s, Eval.Steady (inner ctx s)) →
      conditionalsOf .standard inner (secretContext (.list (secretParts.map .text)) t)
        (mark " secret ".toList ++ ['{']) = .ok (mark " secret ".toList ++ ['{']) :=
    fun _ _ => conditionalsOf_drives.of_none rfl
  rw [hparts] at hlooped
  have hbehind : variablesOf .standard (secretContext (.list (secretParts.map .text)) t) ['{'] =
      .ok ['{'] := variablesOf_drives.of_none rfl
  rw [render, depthFor, renderWithin_succ, level_result, callsOf_ajar, ok_bind, renderWithin_succ,
    hlooped, ok_bind, hconditionals _ (fun _ _ => inferInstance), ok_bind, variablesOf_secret,
    hbehind, map_ok, map_ok]

end Stencil.Template
