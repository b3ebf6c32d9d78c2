import Stencil.Proofs.Eval.Meaning

namespace Stencil.Template

open Stencil.Text

/-! Filters of a pipeline, one after the other. -/

section

variable {tools : Toolbox} {ctx : Context}

instance (rest : List Text) (v : Value) :
    Eval.Steady (applyFilters tools.filters (resolveArgument tools ctx) rest v) :=
  steady_applyFilters inferInstance rest v

instance (rest : List Text) (v : Value) (name : Text) (args : List Value) :
    Eval.Steady (applyRead tools.filters (resolveArgument tools ctx) rest v name args) := by
  unfold applyRead
  split
  · infer_instance
  · split <;> infer_instance

theorem applyRead_result (rest : List Text) (v : Value) (name : Text)
    (args : Except Fault (List Value)) :
    (args >>= fun args =>
      (applyRead tools.filters (resolveArgument tools ctx) rest v name args).result) =
      passThrough tools name args v >>= fun v =>
        (applyFilters tools.filters (resolveArgument tools ctx) rest v).result := by
  rw [passThrough, bind_assoc]
  congr 1
  funext vs
  unfold applyRead
  cases tools.filters.get? name with
  | none => exact Eval.result_bind _ _
  | some filter =>
      dsimp only
      cases filter.misfit? vs.length with
      | some reason => exact Eval.result_bind _ _
      | none => exact Eval.result_bind _ _

theorem applyFilters_filter (f : FilterCall) (rest : List Text) (v : Value) :
    (applyFilters tools.filters (resolveArgument tools ctx) (f.print :: rest) v).result =
      f.apply tools ctx v >>= fun v =>
        (applyFilters tools.filters (resolveArgument tools ctx) rest v).result := by
  cases f with
  | plain name =>
      have htrim : trim name.text = name.text := trimmed_of_solid name.solid_text
      rw [FilterCall.print, applyFilters_of_name rest v (parseCall_eq_none_of_solid name.solid_text),
        htrim, FilterCall.apply, ← applyRead_result]
      rfl
  | call name args =>
      have hargs := args.mapM_result (resolveArgument tools ctx) pure fun e => by
        rw [resolveArgument_print, bind_pure]
      rw [FilterCall.print, applyFilters_of_call rest v (parseCall_invocation name args.print),
        splitArguments_print, Eval.result_bind, hargs, FilterCall.apply, ← applyRead_result]

theorem applyFilters_print (filters : List Piped) (v : Value) :
    (applyFilters tools.filters (resolveArgument tools ctx)
      (filters.map fun f => f.filter.print) v).result = filtered tools ctx filters v := by
  induction filters generalizing v with
  | nil => rfl
  | cons f filters ih =>
      rw [List.map_cons, applyFilters_filter, filtered, List.foldlM_cons]
      congr 1
      funext v
      exact ih v

theorem evaluate_trim (s : Text) : evaluate tools ctx (trim s) = evaluate tools ctx s := by
  rw [evaluate_eq, evaluate_eq, trimmed_trim s]

/-- An expression and the filters behind it are read as they were written, whatever blanks stand
around them: the expression gives its meaning, and the filters are applied to it in order. -/
theorem substitution_pipeline (tools : Toolbox) (ctx : Context) (before : Blanks) (e : Term)
    (after : Blanks) (filters : List Piped) :
    (evaluate tools ctx (before.text ++ (e.print ++ after.text))).result = e.meaning tools ctx ∧
      splitPipeline (pipeline before e after filters) =
        (e.print, filters.map fun f => f.filter.print) ∧
      (substitution tools ctx (pipeline before e after filters)).result =
        (do (← filtered tools ctx filters (← e.meaning tools ctx)).format) := by
  have hsplit := splitPipeline_pipeline before e after filters
  have hpadded : evaluate tools ctx (before.text ++ (e.print ++ after.text)) =
      evaluate tools ctx e.print := by
    rw [← evaluate_trim, trim_padded before after (trimmed_print e)]
  refine ⟨?_, hsplit, ?_⟩
  · rw [hpadded, e.evaluate_print]
  · rw [substitution, hsplit]
    dsimp only
    rw [Eval.result_bind, e.evaluate_print]
    congr 1
    funext v
    rw [Eval.result_bind, applyFilters_print]
    rfl

end

end Stencil.Template
