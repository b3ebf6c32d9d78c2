import Stencil.Proofs.Eval.Steady
import Stencil.Proofs.Text.Blank
import Stencil.Template.Render

namespace Stencil.Template

open Stencil.Text

/-! What an expression gives does not depend on the notes before it. -/

theorem evaluate_eq (tools : Toolbox) (ctx : Context) (s : Text) :
    evaluate tools ctx s =
      if (trim s).isEmpty then pure .nil
      else
        literalOr (trim s)
          (match parseCall (trim s) with
          | some (name, raw) => call tools ctx name raw
          | none => resolvePath tools ctx (trim s)) := by
  rw [evaluate]
  congr 2
  cases parseCall (trim s) with
  | none => rfl
  | some found => simp [call, resolveArgument, List.mapM_subtype]

section

variable {tools : Toolbox} {ctx : Context}

instance (name : Text) (args : List Value) : Eval.Steady (callFunction tools ctx name args) := by
  unfold callFunction
  split
  · infer_instance
  · split <;> infer_instance

instance (name : Text) (args : Eval (List Value)) [Eval.Steady args] :
    Eval.Steady (applyName tools ctx name args) := by
  unfold applyName
  split
  · infer_instance
  · split
    · have hquery : ∀ (query : Option Value → Except Fault Value) (args : List Value),
          Eval.Steady (match args with
            | [] => Eval.ofExcept (query none)
            | [v] => Eval.ofExcept (query (some v))
            | _ => do
                Eval.note .warning "expressions"
                  ("Query ".toList ++ quoted name ++
                    " called with unusable arguments: too many positional arguments".toList)
                return .nil : Eval Value) := by
        intro query args
        split <;> infer_instance
      infer_instance
    · infer_instance

instance (name : Text) : Eval.Steady (resolveRoot tools ctx name) := by
  unfold resolveRoot
  infer_instance

instance (v : Value) (method : Text) : Eval.Steady (step ctx v method) := by
  unfold step
  split
  · infer_instance
  · split <;> infer_instance

instance instSteadyFollow (v : Value) (methods : List Text) :
    Eval.Steady (follow ctx v methods) := by
  fun_induction follow ctx v methods <;> infer_instance

instance (path : Text) : Eval.Steady (resolvePath tools ctx path) := by
  unfold resolvePath
  split
  · infer_instance
  · infer_instance
  · split <;> infer_instance

instance instSteadyLiteralOr (s : Text) (x : Eval Value) [Eval.Steady x] :
    Eval.Steady (literalOr s x) := by
  unfold literalOr
  have hchoice : ∀ v? : Option Value, Eval.Steady (match v? with
      | some v => pure v
      | none => x : Eval Value) := by
    rintro (_ | v) <;> infer_instance
  infer_instance

theorem steady_evaluate (s : Text) : Eval.Steady (evaluate tools ctx s) := by
  induction hlength : s.length using Nat.strongRecOn generalizing s with
  | ind n ih =>
      rw [evaluate]
      split
      · infer_instance
      · refine @instSteadyLiteralOr (trim s) _ ?_
        split
        · next name raw hparse =>
            have hargument : ∀ a : { a // a ∈ splitArguments raw },
                Eval.Steady (evaluate tools ctx a.1) := by
              intro a
              have hcall := length_parseCall_lt hparse
              have htrim := length_trim_le s
              have hmem := length_le_of_mem_splitArguments a.2
              exact ih a.1.length (by omega) a.1 rfl
            infer_instance
        · infer_instance

instance (s : Text) : Eval.Steady (evaluate tools ctx s) := steady_evaluate s

instance (raw : Text) : Eval.Steady (resolveArgument tools ctx raw) := by
  unfold resolveArgument
  infer_instance

instance (name raw : Text) : Eval.Steady (call tools ctx name raw) := by
  unfold call
  infer_instance

def applyRead (filters : Registry Filter) (resolve : Text → Eval Value) (rest : List Text)
    (v : Value) (name : Text) (args : List Value) : Eval Value :=
  match filters.get? name with
  | none => do
      Eval.note .debug "filters"
        ("Unknown filter ".toList ++ quoted name ++ "; passing value through".toList)
      applyFilters filters resolve rest v
  | some filter =>
      match filter.misfit? args.length with
      | some reason => do
          Eval.note .warning "filters"
            ("Filter ".toList ++ quoted name ++ " called with unusable arguments: ".toList ++
              reason)
          applyFilters filters resolve rest v
      | none => do
          applyFilters filters resolve rest (← Eval.ofExcept (filter.run args v))

section

variable {filters : Registry Filter} {resolve : Text → Eval Value}

theorem applyFilters_of_call {directive name raw : Text} (rest : List Text) (v : Value)
    (h : parseCall directive = some (name, raw)) :
    applyFilters filters resolve (directive :: rest) v =
      (splitArguments raw).mapM resolve >>= applyRead filters resolve rest v name := by
  rw [applyFilters, h]
  simp only [pure_bind]
  rfl

theorem applyFilters_of_name {directive : Text} (rest : List Text) (v : Value)
    (h : parseCall directive = none) :
    applyFilters filters resolve (directive :: rest) v =
      applyRead filters resolve rest v (trim directive) [] := by
  rw [applyFilters, h]
  simp only [pure_bind]
  rfl

theorem steady_applyFilters (hresolve : ∀ raw, Eval.Steady (resolve raw))
    (directives : List Text) (v : Value) :
    Eval.Steady (applyFilters filters resolve directives v) := by
  induction directives generalizing v with
  | nil =>
      unfold applyFilters
      infer_instance
  | cons directive directives ih =>
      have hread : ∀ (name : Text) (args : List Value),
          Eval.Steady (applyRead filters resolve directives v name args) := by
        intro name args
        unfold applyRead
        split
        · infer_instance
        · split <;> infer_instance
      cases hcall : parseCall directive with
      | none =>
          rw [applyFilters_of_name directives v hcall]
          exact hread _ _
      | some found =>
          rw [applyFilters_of_call directives v hcall]
          infer_instance

end

instance (inside : Text) : Eval.Steady (substitution tools ctx inside) := by
  unfold substitution
  have hfilters : ∀ v, Eval.Steady
      (applyFilters tools.filters (resolveArgument tools ctx) (splitPipeline inside).2 v) :=
    steady_applyFilters inferInstance _
  infer_instance

end

/-! A call gives what the expression that it is gives. -/

theorem parseCall_trim (s : Text) : parseCall (trim s) = parseCall s := by
  rw [parseCall, parseCall, trimmed_trim s]

theorem trim_of_parseCall {s : Text} {found : Text × Text} (h : parseCall s = some found) :
    ∃ c middle, trim s = c :: (middle ++ [')']) ∧ isNameStart c = true := by
  unfold parseCall at h
  split at h
  · cases h
  · next c rest hs =>
      split at h
      · next hstart =>
          dsimp only at h
          split at h
          · next arguments harguments =>
              split at h
              · next hclose =>
                  obtain ⟨inner, rfl⟩ := List.getLast?_eq_some_iff.mp (by simpa using hclose)
                  have hmark : (takeMark (rest.dropWhile isWord)).2 <:+ rest.dropWhile isWord := by
                    unfold takeMark
                    split
                    · next hquestion => exact hquestion ▸ List.suffix_cons _ _
                    · exact List.suffix_refl _
                  have hsuffix : '(' :: (inner ++ [')']) <:+ rest :=
                    harguments ▸ ((trimLeft_suffix _).trans hmark).trans
                      (List.dropWhile_suffix _)
                  obtain ⟨before, hbefore⟩ := hsuffix
                  refine ⟨c, before ++ '(' :: inner, ?_, hstart⟩
                  rw [hs, ← hbefore, List.append_assoc, List.cons_append]
              · cases h
          · cases h
      · cases h

theorem isDecimal_eq_false_of_isNameStart {c : Char} (h : isNameStart c = true) :
    isDecimal c = false := by
  have hrange : c.toNat < 128 ∧ ¬(48 ≤ c.toNat ∧ c.toNat ≤ 57) := by
    simp only [isNameStart, isAsciiLetter, Bool.or_eq_true, Bool.and_eq_true,
      decide_eq_true_eq, beq_iff_eq] at h
    rcases h with h | rfl
    · omega
    · decide
  have hdigit : isAsciiDigit c = false := by
    simpa [isAsciiDigit, Bool.and_eq_false_iff, not_and] using hrange.2
  simp [isDecimal, digitValue?, hrange.1, hdigit]

theorem parseLiteral_of_parseCall {s : Text} {found : Text × Text}
    (h : parseCall s = some found) : parseLiteral (trim s) = .ok none := by
  obtain ⟨c, middle, hs, hstart⟩ := trim_of_parseCall h
  have hother : ∀ d, isNameStart d = false → c ≠ d := fun _ => ne_of_holds hstart
  have hunquote : unquote (c :: (middle ++ [')'])) = none := by
    have hdouble : (c == '"') = false := by simpa using hother '"' (by decide)
    have hsingle : (c == '\'') = false := by simpa using hother '\'' (by decide)
    simp [unquote, hdouble, hsingle]
  have hword : ∀ word : Text, word.getLast? ≠ some ')' →
      (c :: (middle ++ [')']) == word) = false := by
    intro word hlast
    rw [beq_eq_false_iff_ne]
    rintro rfl
    exact hlast (List.getLast?_eq_some_iff.mpr ⟨c :: middle, rfl⟩)
  have hinteger : looksInteger (c :: (middle ++ [')'])) = false := by
    have hminus := hother '-' (by decide)
    have hdecimal := isDecimal_eq_false_of_isNameStart hstart
    unfold looksInteger
    split
    · next heq => exact absurd (List.cons.inj heq).1 hminus
    · simp [hdecimal]
  simp only [parseLiteral, hs, hunquote, hword "true".toList (by decide),
    hword "false".toList (by decide), hinteger, Bool.false_eq_true, if_false]

theorem splitOutsideFrom_cases (sep : Char) (quote : Option Char) (depth : Nat)
    (part s : Text) :
    splitOutsideFrom sep quote depth part s = [part.reverse ++ s] ∨
      ∃ first init last before,
        splitOutsideFrom sep quote depth part s = first :: (init ++ [last]) ∧
          s = before ++ sep :: last := by
  fun_induction splitOutsideFrom sep quote depth part s with
  | case1 => simp
  | case6 depth part c s _ _ _ hsep ih =>
      have hc : c = sep := by simpa using (by simpa using hsep : c = sep ∧ depth = 0).1
      right
      rcases ih with hwhole | ⟨first, init, last, before, hsplit, rfl⟩
      · exact ⟨part.reverse, [], s, [], by simp [hwhole], by simp [hc]⟩
      · exact ⟨part.reverse, first :: init, last, c :: before, by simp [hsplit], rfl⟩
  | _ =>
      rename_i ih
      rcases ih with hwhole | ⟨first, init, last, before, hsplit, rfl⟩
      · exact .inl (by simpa using hwhole)
      · exact .inr ⟨first, init, last, _ :: before, hsplit, rfl⟩

theorem splitPipeline_of_parseCall {s : Text} {found : Text × Text}
    (h : parseCall s = some found) (hfilters : (splitPipeline s).2 = []) :
    (splitPipeline s).1 = trim s := by
  rcases splitOutsideFrom_cases '|' none 0 [] s with
    hwhole | ⟨first, init, last, before, hsplit, rfl⟩
  · simp [splitPipeline, splitOutside, hwhole]
  · -- The text would end with a bar.
    exfalso
    have hlast : trim last = [] := by
      simp only [splitPipeline, splitOutside, hsplit, List.map_cons, List.map_append,
        List.map_nil, List.filter_eq_nil_iff, List.mem_append, List.mem_singleton] at hfilters
      simpa using hfilters (trim last) (.inr rfl)
    have hbar := trim_append_solid (t := before) (c := '|') (by decide)
      (isBlank_of_trim_eq_nil hlast)
    obtain ⟨c, middle, hs, _⟩ := trim_of_parseCall h
    rw [hbar, ← List.cons_append] at hs
    have hend := (List.append_inj' hs rfl).2
    simp at hend

theorem evaluate_of_parseCall {tools : Toolbox} {ctx : Context} {s name raw : Text}
    (h : parseCall s = some (name, raw)) :
    evaluate tools ctx s = call tools ctx name raw := by
  obtain ⟨c, middle, hs, _⟩ := trim_of_parseCall h
  have hnonempty : (trim s).isEmpty = false := by rw [hs]; rfl
  rw [evaluate_eq, hnonempty, if_neg Bool.false_ne_true, literalOr,
    parseLiteral_of_parseCall h, parseCall_trim, h]
  rfl

theorem evaluate_of_literal {tools : Toolbox} {ctx : Context} {s : Text} {v : Value}
    (hne : (trim s).isEmpty = false) (hliteral : parseLiteral (trim s) = .ok (some v)) :
    evaluate tools ctx s = pure v := by
  rw [evaluate_eq, hne, if_neg Bool.false_ne_true, literalOr, hliteral]
  rfl

/-- A text that is read as a name, and not as a literal, a call or a path. -/
structure IsName (name : Text) : Prop where
  trimmed : Trimmed name
  ne_nil : name.isEmpty = false
  literal : parseLiteral name = .ok none
  call : parseCall name = none
  undotted : Text.splitAt '.' name = [name]
  head : name.head? ≠ some '.'

theorem lookup?_of_get? {ctx : Context} {name : Text} {value : Except Fault Value}
    (h : ctx.get? name = some value) : ctx.lookup? name = some value := by
  unfold Context.lookup?
  rw [h]

section

variable {tools : Toolbox} {ctx : Context} {name : Text} {v : Value}

theorem has_of_lookup? {value : Except Fault Value} (h : ctx.lookup? name = some value) :
    ctx.has name = true := by
  unfold Context.lookup? at h
  unfold Context.has
  split at h
  · next hget =>
      rw [hget]
      rfl
  · split at h
    · split at h
      · cases h
      · simp [h]
    · cases h

theorem resolvePath_of_lookup? (hname : IsName name) (h : ctx.lookup? name = some (.ok v)) :
    resolvePath tools ctx name = pure v := by
  have hlookup : ctx.lookup name = .ok v := by
    rw [Context.lookup, h]
    rfl
  unfold resolvePath
  split
  · exact absurd rfl hname.head
  · exact absurd rfl hname.head
  · rw [hname.undotted]
    simp only [resolveRoot, has_of_lookup? h, if_true, hlookup, follow]
    rfl

theorem evaluate_of_lookup? (hname : IsName name) (h : ctx.lookup? name = some (.ok v)) :
    evaluate tools ctx name = pure v := by
  have htrim : trim name = name := hname.trimmed
  rw [evaluate_eq, htrim, hname.ne_nil, if_neg Bool.false_ne_true, literalOr, hname.literal,
    hname.call, resolvePath_of_lookup? hname h]
  rfl

theorem evaluate_of_get? (hname : IsName name) (h : ctx.get? name = some (.ok v)) :
    evaluate tools ctx name = pure v :=
  evaluate_of_lookup? hname (lookup?_of_get? h)

theorem resolveArgument_of_get? (hname : IsName name) (h : ctx.get? name = some (.ok v)) :
    resolveArgument tools ctx name = pure v := by
  rw [resolveArgument, literalOr, hname.literal, evaluate_of_get? hname h]
  rfl

end

theorem call_of_text {tools : Toolbox} {ctx : Context} {name raw t : Text}
    (hsplit : splitArguments raw = [raw])
    (hargument : resolveArgument tools ctx raw = pure (.text t)) :
    call tools ctx name raw = applyName tools ctx name (pure [.text t]) := by
  rw [call, hsplit, List.mapM_cons, List.mapM_nil, hargument, pure_bind, Value.coerce]
  rfl

theorem substitution_of_value {tools : Toolbox} {ctx : Context} {inside t : Text} {v : Value}
    (hsplit : splitPipeline inside = (inside, [])) (hvalue : evaluate tools ctx inside = pure v)
    (hformat : v.format = .ok t) : substitution tools ctx inside = pure t := by
  simp only [substitution, hsplit, hvalue, applyFilters, pure_bind, hformat]
  rfl

def callIn? (inside : Text) : Option (Text × Text) :=
  if isControl inside then none
  else (parseCall inside).filter fun _ => (splitPipeline inside).2.isEmpty

theorem substitution_of_callIn? {tools : Toolbox} {ctx : Context} {inside name raw : Text}
    (h : callIn? inside = some (name, raw)) :
    substitution tools ctx inside =
      (call tools ctx name raw >>= fun v => Eval.ofExcept v.format) := by
  unfold callIn? at h
  split at h
  · cases h
  · obtain ⟨hparse, hempty⟩ := Option.filter_eq_some_iff.mp h
    have hfilters : (splitPipeline inside).2 = [] := by simpa using hempty
    have hexpression : evaluate tools ctx (splitPipeline inside).1 =
        call tools ctx name raw := by
      rw [splitPipeline_of_parseCall hparse hfilters]
      exact evaluate_of_parseCall ((parseCall_trim inside).trans hparse)
    simp only [substitution, hexpression, hfilters, applyFilters, pure_bind]

end Stencil.Template
