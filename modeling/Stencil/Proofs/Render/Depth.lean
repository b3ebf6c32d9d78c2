import Stencil.Proofs.Render.Marks

namespace Stencil.Template

open Stencil.Text

/-! More depth changes only the renders that were cut short. -/

/-- The second result is the first, unless the first was cut short. -/
def Deepens (x y : Except Fault α) : Prop := x = .error .tooDeep ∨ x = y

namespace Deepens

variable {x y : Except Fault α} {f g : α → Except Fault β}

theorem refl (x : Except Fault α) : Deepens x x := .inr rfl

theorem eq_of_ok (h : Deepens x y) {a : α} (hx : x = .ok a) : y = .ok a := by
  rcases h with hshort | heq
  · rw [hx] at hshort
    cases hshort
  · exact heq ▸ hx

theorem bind (h : Deepens x y) (hnext : ∀ a, Deepens (f a) (g a)) :
    Deepens (x >>= f) (y >>= g) := by
  rcases h with rfl | rfl
  · left
    rfl
  · cases x with
    | error e =>
        right
        rfl
    | ok a => exact hnext a

theorem map (h : Deepens x y) (f : α → β) : Deepens (f <$> x) (f <$> y) := by
  rcases h with rfl | rfl
  · left
    rfl
  · exact refl _

theorem mapM {items : List α} (h : ∀ a, Deepens (f a) (g a)) :
    Deepens (items.mapM f) (items.mapM g) := by
  induction items with
  | nil => exact refl _
  | cons a items ih =>
      rw [List.mapM_cons, List.mapM_cons]
      apply bind (h a)
      intro b
      apply bind ih
      intro bs
      exact refl _

theorem of_drives {scan : Scanner β} {run run' : Text → Except Fault Text}
    {act act' : Text → β → Text → Except Fault Text} (hrun : scan.Drives run act)
    (hrun' : scan.Drives run' act')
    (hact : ∀ matched value after,
      (∀ s : Text, s.length ≤ after.length → Deepens (run s) (run' s)) →
        Deepens (act matched value after) (act' matched value after)) (s : Text) :
    Deepens (run s) (run' s) := by
  induction hlength : s.length using Nat.strongRecOn generalizing s with
  | ind n ih =>
      rw [hrun s, hrun' s]
      cases hcut : scan.cut? s with
      | none => exact refl _
      | some c =>
          have hshorter := Scanner.length_cut? hcut
          apply map
          apply hact
          intro t ht
          exact ih t.length (by omega) t rfl

end Deepens

section

variable {tools : Toolbox} {inner inner' : Inner} [∀ ctx s, Eval.Steady (inner ctx s)]
  [∀ ctx s, Eval.Steady (inner' ctx s)]

theorem renderLoop_deepens
    (hinner : ∀ ctx s, Deepens (inner ctx s).result (inner' ctx s).result) (ctx : Context)
    (head : LoopHead) (body : Text) :
    Deepens (renderLoop tools inner ctx head body).result
      (renderLoop tools inner' ctx head body).result := by
  rw [renderLoop_eq_mapM, renderLoop_eq_mapM]
  apply Deepens.bind (.refl _)
  intro v
  apply Deepens.map
  apply Deepens.mapM
  intro scope
  exact hinner _ body

theorem loopsOf_deepens
    (hinner : ∀ ctx s, Deepens (inner ctx s).result (inner' ctx s).result) (ctx : Context)
    (s : Text) : Deepens (loopsOf tools inner ctx s) (loopsOf tools inner' ctx s) := by
  apply Deepens.of_drives loopsOf_drives loopsOf_drives
  intro matched head after hrest
  unfold loopsAt
  split
  · exact (hrest after (Nat.le_refl _)).map _
  · next b hblock =>
      have hlength := BlockKind.length_block? _ _ hblock
      have hafter := b.length_after_le
      apply Deepens.bind (renderLoop_deepens hinner ctx head b.first)
      intro out
      exact (hrest b.after (by omega)).map _

theorem conditionalsOf_deepens
    (hinner : ∀ ctx s, Deepens (inner ctx s).result (inner' ctx s).result) (ctx : Context)
    (s : Text) :
    Deepens (conditionalsOf tools inner ctx s) (conditionalsOf tools inner' ctx s) := by
  apply Deepens.of_drives conditionalsOf_drives conditionalsOf_drives
  intro matched operand after hrest
  unfold conditionalsAt
  split
  · exact (hrest after (Nat.le_refl _)).map _
  · next b hblock =>
      have hlength := BlockKind.length_block? _ _ hblock
      have hafter := b.length_after_le
      apply Deepens.bind (.refl _)
      intro condition
      apply Deepens.bind (hinner ctx _)
      intro out
      exact (hrest b.after (by omega)).map _

theorem level_deepens
    (hinner : ∀ ctx s, Deepens (inner ctx s).result (inner' ctx s).result) (ctx : Context)
    (s : Text) : Deepens (level tools inner ctx s).result (level tools inner' ctx s).result := by
  rw [level_result, level_result]
  apply Deepens.bind (.refl _)
  intro called
  apply Deepens.bind (loopsOf_deepens hinner ctx called)
  intro looped
  apply Deepens.bind (conditionalsOf_deepens hinner ctx looped)
  intro chosen
  exact .refl _

end

theorem renderWithin_deepens (tools : Toolbox) {depth deeper : Nat} (h : depth ≤ deeper)
    (ctx : Context) (s : Text) :
    Deepens (renderWithin tools depth ctx s).result (renderWithin tools deeper ctx s).result := by
  induction depth generalizing deeper ctx s with
  | zero =>
      left
      rfl
  | succ depth ih =>
      cases deeper with
      | zero => exact absurd h (Nat.not_succ_le_zero _)
      | succ deeper =>
          rw [renderWithin_succ, renderWithin_succ]
          exact level_deepens (ih (Nat.le_of_succ_le_succ h)) ctx s

/-- Enough depth gives what the render gives, unless that is cut short. -/
theorem render_deepens (tools : Toolbox) {deeper : Nat} {s : Text} (h : depthFor s ≤ deeper)
    (ctx : Context) :
    Deepens (render tools ctx s).result (renderWithin tools deeper ctx s).result :=
  renderWithin_deepens tools h ctx s

end Stencil.Template
