import Stencil.Template.Trace

namespace Stencil.Eval

/-! Notes are only ever written: what an evaluation gives does not depend on the notes before it, so
results compose without them. -/

/-- An evaluation that adds its notes to the log and never reads it. -/
class Steady (x : Eval α) : Prop where
  run_eq : ∀ log, (ExceptT.run x).run log = (x.result, log ++ x.run.2)

section

variable {x : Eval α} {f : α → Eval β}

theorem steady_of (result : Except Fault α) (notes : List Note)
    (h : ∀ log, (ExceptT.run x).run log = (result, log ++ notes)) : Steady x where
  run_eq log := by
    have hresult : x.result = result := congrArg Prod.fst (h [])
    have hnotes : x.run.2 = notes := congrArg Prod.snd (h [])
    rw [h log, hresult, hnotes]

instance (a : α) : Steady (pure a : Eval α) :=
  steady_of _ [] fun log => by rw [List.append_nil]; rfl

instance (e : Fault) : Steady (throw e : Eval α) :=
  steady_of _ [] fun log => by rw [List.append_nil]; rfl

instance (r : Except Fault α) : Steady (ofExcept r) :=
  steady_of _ [] fun log => by rw [List.append_nil]; rfl

instance (level : Level) (source : String) (message : Text) :
    Steady (note level source message) :=
  steady_of _ [⟨level, source.toList, message⟩] fun _ => rfl

theorem run_bind (x : Eval α) (f : α → Eval β) (log : List Note) :
    (ExceptT.run (x >>= f)).run log =
      match (ExceptT.run x).run log with
      | (.ok a, notes) => (ExceptT.run (f a)).run notes
      | (.error e, notes) => (.error e, notes) := by
  change (ExceptT.bindCont f ((ExceptT.run x).run log).1).run ((ExceptT.run x).run log).2 = _
  split
  · next h => rw [h]; rfl
  · next h => rw [h]; rfl

instance instSteadyBind [hx : Steady x] [hf : ∀ a, Steady (f a)] : Steady (x >>= f) := by
  cases hresult : x.result with
  | error e =>
      refine steady_of (.error e) x.run.2 fun log => ?_
      rw [run_bind, hx.run_eq, hresult]
  | ok a =>
      refine steady_of (f a).result (x.run.2 ++ (f a).run.2) fun log => ?_
      rw [run_bind, hx.run_eq, hresult]
      simp only [(hf a).run_eq, List.append_assoc]

theorem result_bind (x : Eval α) (f : α → Eval β) [hf : ∀ a, Steady (f a)] :
    (x >>= f).result = x.result >>= fun a => (f a).result := by
  have hrun : (x >>= f).result = ((ExceptT.run (x >>= f)).run []).1 := rfl
  have hx : (ExceptT.run x).run [] = (x.result, x.run.2) := rfl
  rw [hrun, run_bind, hx]
  cases x.result with
  | error e => rfl
  | ok a => simp only [(hf a).run_eq]; rfl

@[simp] theorem result_pure (a : α) : (pure a : Eval α).result = .ok a := rfl

@[simp] theorem result_throw (e : Fault) : (throw e : Eval α).result = .error e := rfl

@[simp] theorem result_ofExcept (r : Except Fault α) : (ofExcept r).result = r := rfl

theorem result_map (g : α → β) (x : Eval α) : (g <$> x).result = g <$> x.result := by
  have hmap : g <$> x = x >>= fun a => pure (g a) := (bind_pure_comp g x).symm
  rw [hmap, result_bind]
  cases x.result <;> rfl

instance [Steady x] (g : α → β) : Steady (g <$> x) := by
  rw [← bind_pure_comp]
  infer_instance

instance {c : Prop} [Decidable c] {y : Eval α} [Steady x] [Steady y] :
    Steady (if c then x else y) := by
  split <;> infer_instance

instance (g : α → Eval β) [∀ a, Steady (g a)] (items : List α) : Steady (items.mapM g) := by
  induction items with
  | nil =>
      rw [List.mapM_nil]
      infer_instance
  | cons a items ih =>
      rw [List.mapM_cons]
      infer_instance

instance (items : List α) (g : α → β → Eval (ForInStep β)) [∀ a b, Steady (g a b)] (b : β) :
    Steady (forIn items b g) := by
  induction items generalizing b with
  | nil =>
      rw [List.forIn_nil]
      infer_instance
  | cons a items ih =>
      rw [List.forIn_cons]
      have hnext : ∀ s : ForInStep β, Steady (match s with
          | .done b => pure b
          | .yield b => forIn items b g : Eval β) := by
        rintro (b | b)
        · exact inferInstanceAs (Steady (pure b))
        · exact ih b
      infer_instance

theorem result_mapM (g : α → Eval β) [∀ a, Steady (g a)] (items : List α) :
    (items.mapM g).result = items.mapM fun a => (g a).result := by
  induction items with
  | nil => rfl
  | cons a items ih =>
      rw [List.mapM_cons, List.mapM_cons, result_bind]
      congr 1
      funext b
      rw [result_bind, ih]
      rfl

end

end Stencil.Eval
