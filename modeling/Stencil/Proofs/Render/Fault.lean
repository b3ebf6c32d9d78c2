import Stencil.Proofs.Eval.Fault

namespace Stencil.Template

/-! What a render can fail with. -/

section

variable {ctx : Context}

instance instSoundExpandCalls (s : Text) : Eval.Sound (expandCalls .standard ctx s) := by
  fun_induction expandCalls .standard ctx s <;> infer_instance

instance instSoundExpandVariables (s : Text) : Eval.Sound (expandVariables .standard ctx s) := by
  fun_induction expandVariables .standard ctx s <;> infer_instance

instance instSoundCleanup (s : Text) : Eval.Sound (cleanup s) := by
  unfold cleanup
  infer_instance

variable {inner : Inner} [hinner : ∀ ctx s, Eval.Sound (inner ctx s)]

instance instSoundRenderTurns (name : Option Text) (body : Text) (index : Nat)
    (items : List Value) : Eval.Sound (renderTurns inner ctx name body index items) := by
  fun_induction renderTurns inner ctx name body index items <;> infer_instance

instance instSoundRenderLoop (head : LoopHead) (body : Text) :
    Eval.Sound (renderLoop .standard inner ctx head body) := by
  have hturns : ∀ v : Value, Eval.Sound (match v.sequence? with
      | some items => renderTurns inner ctx head.name body 0 items
      | none => pure [] : Eval Text) := by
    intro v
    split <;> infer_instance
  unfold renderLoop
  infer_instance

instance instSoundExpandLoops (s : Text) :
    Eval.Sound (expandLoops .standard inner ctx s) := by
  fun_induction expandLoops .standard inner ctx s <;> infer_instance

instance instSoundExpandConditionals (s : Text) :
    Eval.Sound (expandConditionals .standard inner ctx s) := by
  fun_induction expandConditionals .standard inner ctx s <;> infer_instance

end

instance instSoundRenderWithin (depth : Nat) (ctx : Context) (s : Text) :
    Eval.Sound (renderWithin .standard depth ctx s) := by
  induction depth generalizing ctx s with
  | zero => exact Eval.sound_throw trivial
  | succ depth ih =>
      rw [renderWithin]
      infer_instance

/-- With the standard functions and filters a render fails because a value is not what it is used
as, because of arithmetic, or because of fragments inside one another without end. -/
theorem failsIn_render (ctx : Context) (s : Text) :
    FailsIn Fault.OfRender (render .standard ctx s).result := by
  unfold render
  infer_instance

end Stencil.Template
