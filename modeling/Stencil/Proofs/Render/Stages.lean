import Stencil.Proofs.Eval.Expression
import Stencil.Proofs.Token.Scan

namespace Stencil.Template

open Stencil.Text Scanner

/-! The stages of a render as recursions over the matches of a pattern. -/

section

variable {tools : Toolbox} {inner : Inner} {ctx : Context}

theorem steady_expandCalls (s : Text) : Eval.Steady (expandCalls tools ctx s) := by
  fun_induction expandCalls tools ctx s <;> infer_instance

instance (s : Text) : Eval.Steady (expandCalls tools ctx s) := steady_expandCalls s

theorem steady_expandVariables (s : Text) : Eval.Steady (expandVariables tools ctx s) := by
  fun_induction expandVariables tools ctx s <;> infer_instance

instance (s : Text) : Eval.Steady (expandVariables tools ctx s) := steady_expandVariables s

instance (s : Text) : Eval.Steady (cleanup s) := by
  unfold cleanup
  infer_instance

variable [hinner : ∀ ctx s, Eval.Steady (inner ctx s)]

theorem steady_renderTurns (name : Option Text) (body : Text) (index : Nat)
    (items : List Value) : Eval.Steady (renderTurns inner ctx name body index items) := by
  fun_induction renderTurns inner ctx name body index items <;> infer_instance

instance (name : Option Text) (body : Text) (index : Nat) (items : List Value) :
    Eval.Steady (renderTurns inner ctx name body index items) :=
  steady_renderTurns name body index items

instance (head : LoopHead) (body : Text) :
    Eval.Steady (renderLoop tools inner ctx head body) := by
  unfold renderLoop
  have hturns : ∀ v : Value, Eval.Steady (match v.sequence? with
      | some items => renderTurns inner ctx head.name body 0 items
      | none => pure [] : Eval Text) := by
    intro v
    split <;> infer_instance
  infer_instance

theorem steady_expandLoops (s : Text) : Eval.Steady (expandLoops tools inner ctx s) := by
  fun_induction expandLoops tools inner ctx s <;> infer_instance

instance (s : Text) : Eval.Steady (expandLoops tools inner ctx s) := steady_expandLoops s

theorem steady_expandConditionals (s : Text) :
    Eval.Steady (expandConditionals tools inner ctx s) := by
  fun_induction expandConditionals tools inner ctx s <;> infer_instance

instance (s : Text) : Eval.Steady (expandConditionals tools inner ctx s) :=
  steady_expandConditionals s

end

/-! What the stages give, without their notes. -/

section

variable (tools : Toolbox) (inner : Inner) (ctx : Context)

def callsOf (s : Text) : Except Fault Text := (expandCalls tools ctx s).result

def loopsOf (s : Text) : Except Fault Text := (expandLoops tools inner ctx s).result

def conditionalsOf (s : Text) : Except Fault Text :=
  (expandConditionals tools inner ctx s).result

def variablesOf (s : Text) : Except Fault Text := (expandVariables tools ctx s).result

/-- What becomes of a directive, and of what follows it, when calls are expanded. -/
def callsAt (matched value after : Text) : Except Fault Text :=
  match loopHead matched with
  | some (head, _) =>
      match head.kind.block? after with
      | some b => ((matched ++ b.text) ++ ·) <$> callsOf tools ctx b.after
      | none => (matched ++ ·) <$> callsOf tools ctx after
  | none =>
      match callIn? value with
      | some _ => do
          let out ← (substitution tools ctx value).result
          (out ++ ·) <$> callsOf tools ctx after
      | none => (matched ++ ·) <$> callsOf tools ctx after

def loopsAt (matched : Text) (head : LoopHead) (after : Text) : Except Fault Text :=
  match head.kind.block? after with
  | none => (matched ++ ·) <$> loopsOf tools inner ctx after
  | some b => do
      let out ← (renderLoop tools inner ctx head b.first).result
      (out ++ ·) <$> loopsOf tools inner ctx b.after

def conditionalsAt (matched operand after : Text) : Except Fault Text :=
  match BlockKind.conditional.block? after with
  | none => (matched ++ ·) <$> conditionalsOf tools inner ctx after
  | some b => do
      let condition ← (evaluate tools ctx operand).result
      let out ← (inner ctx (if condition.truthy then b.first else b.second)).result
      (out ++ ·) <$> conditionalsOf tools inner ctx b.after

def variablesAt (matched value after : Text) : Except Fault Text := do
  let out ← if isControl value then pure matched else (substitution tools ctx value).result
  (out ++ ·) <$> variablesOf tools ctx after

variable {tools inner ctx}

theorem callsOf_drives : directive.Drives (callsOf tools ctx) (callsAt tools ctx) := by
  intro s
  rw [callsOf, expandCalls, Scanner.cut?]
  cases directive.find? s with
  | none => rfl
  | some d =>
      simp only [Option.map_some, Found.cut, callsAt]
      cases loopHead d.matched with
      | some found =>
          obtain ⟨head, rest⟩ := found
          simp only
          split
          · next b hblock => simp [callsOf, Eval.result_map, hblock]
          · next hblock => simp [callsOf, Eval.result_map, hblock]
      | none =>
          simp only
          split
          · next name raw hcall =>
              split
              · next hempty =>
                  have hin : callIn? d.value = some (name, raw) := by
                    unfold callIn?
                    split at hcall
                    · cases hcall
                    · simp_all
                  rw [hin, substitution_of_callIn? hin]
                  simp [callsOf, Eval.result_bind, Eval.result_map]
              · next hfull =>
                  have hin : callIn? d.value = none := by
                    unfold callIn?
                    split at hcall
                    · cases hcall
                    · simp_all
                  rw [hin]
                  simp [callsOf, Eval.result_map]
          · next hcall =>
              have hin : callIn? d.value = none := by
                unfold callIn?
                split at hcall <;> simp_all
              rw [hin]
              simp [callsOf, Eval.result_map]

theorem variablesOf_drives :
    directive.Drives (variablesOf tools ctx) (variablesAt tools ctx) := by
  intro s
  rw [variablesOf, expandVariables, Scanner.cut?]
  cases directive.find? s with
  | none => rfl
  | some d =>
      simp only [Option.map_some, Found.cut, variablesAt]
      split <;> simp [variablesOf, Eval.result_bind, Eval.result_map]

variable [hinner : ∀ ctx s, Eval.Steady (inner ctx s)]

theorem loopsOf_drives :
    loopHead.Drives (loopsOf tools inner ctx) (loopsAt tools inner ctx) := by
  intro s
  rw [loopsOf, expandLoops, Scanner.cut?]
  cases loopHead.find? s with
  | none => rfl
  | some o =>
      simp only [Option.map_some, Found.cut, loopsAt]
      split
      · next hblock => simp [loopsOf, Eval.result_map, hblock]
      · next b hblock => simp [loopsOf, Eval.result_bind, Eval.result_map, hblock]

theorem conditionalsOf_drives :
    (operand "if".toList).Drives (conditionalsOf tools inner ctx)
      (conditionalsAt tools inner ctx) := by
  intro s
  rw [conditionalsOf, expandConditionals, Scanner.cut?]
  cases (operand "if".toList).find? s with
  | none => rfl
  | some o =>
      simp only [Option.map_some, Found.cut, conditionalsAt]
      split
      · next hblock => simp [conditionalsOf, Eval.result_map, hblock]
      · next b hblock => simp [conditionalsOf, Eval.result_bind, Eval.result_map, hblock]

theorem renderTurns_cons_result (name : Option Text) (body : Text) (index : Nat) (item : Value)
    (items : List Value) :
    (renderTurns inner ctx name body index (item :: items)).result =
      (inner (ctx.child (turnScope name index item)) body).result >>= fun turn =>
        (turn ++ ·) <$> (renderTurns inner ctx name body (index + 1) items).result := by
  simp [renderTurns, Eval.result_bind, Eval.result_map]

theorem renderLoop_result (head : LoopHead) (body : Text) :
    (renderLoop tools inner ctx head body).result =
      (evaluate tools ctx head.source).result >>= fun v =>
        match v.sequence? with
        | some items => (renderTurns inner ctx head.name body 0 items).result
        | none => pure [] := by
  have hturns : ∀ v : Value, Eval.Steady (match v.sequence? with
      | some items => renderTurns inner ctx head.name body 0 items
      | none => pure [] : Eval Text) := by
    intro v
    split <;> infer_instance
  rw [renderLoop, Eval.result_bind]
  congr 1
  funext v
  cases v.sequence? <;> rfl

end

/-! One level of a render: the five stages in a row. -/

theorem forIn_note_result {α : Type} (items : List α) (message : α → Text) :
    (forIn items PUnit.unit fun a _ => do
      Eval.note .warning "processor" (message a)
      pure (ForInStep.yield PUnit.unit) : Eval PUnit).result = .ok PUnit.unit := by
  induction items with
  | nil => rfl
  | cons a items ih =>
      rw [List.forIn_cons]
      simp only [bind_assoc, pure_bind]
      rw [Eval.result_bind]
      exact ih

theorem cleanup_result (s : Text) : (cleanup s).result = .ok (settle s) := by
  rw [cleanup, Eval.result_bind, forIn_note_result]
  rfl

def level (tools : Toolbox) (inner : Inner) : Inner := fun ctx s => do
  let s ← expandCalls tools ctx s
  let s ← expandLoops tools inner ctx s
  let s ← expandConditionals tools inner ctx s
  let s ← expandVariables tools ctx s
  cleanup s

/-- A render with `depth` levels of fragments inside one another. What is nested deeper is left to
`bottom`. -/
def renderOver (tools : Toolbox) (bottom : Inner) : Nat → Inner
  | 0 => bottom
  | depth + 1 => level tools (renderOver tools bottom depth)

theorem renderWithin_succ (tools : Toolbox) (depth : Nat) :
    renderWithin tools (depth + 1) = level tools (renderWithin tools depth) := rfl

theorem renderWithin_eq_renderOver (tools : Toolbox) (depth : Nat) :
    renderWithin tools depth = renderOver tools (fun _ _ => throw .tooDeep) depth := by
  induction depth with
  | zero => rfl
  | succ depth ih => rw [renderWithin_succ, ih, renderOver]

theorem renderOver_add (tools : Toolbox) (bottom : Inner) (below depth : Nat) :
    renderOver tools bottom (below + depth) =
      renderOver tools (renderOver tools bottom below) depth := by
  induction depth with
  | zero => rfl
  | succ depth ih => rw [← Nat.add_assoc, renderOver, ih, renderOver]

section

variable {tools : Toolbox} {inner : Inner} [hinner : ∀ ctx s, Eval.Steady (inner ctx s)]

instance (ctx : Context) (s : Text) : Eval.Steady (level tools inner ctx s) := by
  unfold level
  infer_instance

theorem level_result (ctx : Context) (s : Text) :
    (level tools inner ctx s).result =
      callsOf tools ctx s >>= fun s =>
        loopsOf tools inner ctx s >>= fun s =>
          conditionalsOf tools inner ctx s >>= fun s => settle <$> variablesOf tools ctx s := by
  simp only [level, Eval.result_bind, cleanup_result, callsOf, loopsOf, conditionalsOf,
    variablesOf]
  rfl

instance steady_renderOver (depth : Nat) (ctx : Context) (s : Text) :
    Eval.Steady (renderOver tools inner depth ctx s) := by
  induction depth generalizing ctx s with
  | zero => exact hinner ctx s
  | succ depth ih =>
      rw [renderOver]
      infer_instance

end

instance (tools : Toolbox) (depth : Nat) (ctx : Context) (s : Text) :
    Eval.Steady (renderWithin tools depth ctx s) := by
  rw [renderWithin_eq_renderOver]
  infer_instance

end Stencil.Template
