import Stencil.Proofs.Eval.Expression
import Stencil.Proofs.Eval.Result
import Stencil.Proofs.Eval.Term
import Stencil.Proofs.Text.Split

namespace Stencil.Template

open Stencil.Text

/-! What expressions and pipelines mean, said on their trees and without notes. -/

/-- A call that refuses its arguments means nil. -/
def granted : Except Fault Value → Except Fault Value
  | .error (.badArguments _) => pure .nil
  | r => r

section

variable (tools : Toolbox) (ctx : Context)

/-- A registered function, else a call that answers with content, else nil. -/
def answer (name : Text) (args : Except Fault (List Value)) : Except Fault Value :=
  if tools.functions.has name then do
    granted (Function.call tools.functions ctx.now name (← args))
  else
    match ctx.query? name with
    | some query => do
        match ← args with
        | [] => query none
        | [v] => query (some v)
        | _ => pure .nil
    | none => pure .nil

/-- From a value through keys of mappings and methods of objects, nil from the first missing one
on. -/
def walk : Value → List Text → Except Fault Value
  | v, [] => pure v
  | .nil, _ :: _ => pure .nil
  | .map entries, key :: keys => walk ((Value.find? (.text key) entries).getD .nil) keys
  | v, key :: keys =>
      match Accessor.find? v key with
      | some accessor => do walk (← accessor ctx) keys
      | none => pure .nil

def rootValue (name : Text) : Except Fault Value :=
  if ctx.has name then ctx.lookup name
  else if tools.functions.has name then granted (Function.call tools.functions ctx.now name [])
  else pure .nil

def Dotted.meaning : Dotted → Except Fault Value
  | here => ctx.lookup ['.']
  | below first rest => do walk ctx (← ctx.lookup ['.']) ((first :: rest).map Segment.text)
  | rooted root steps _ => do walk ctx (← rootValue tools ctx root.text) (steps.map Segment.text)

mutual

def Term.meaning : Term → Except Fault Value
  | .quoted q => pure (.text q.content)
  | .integer n => pure (.int n.value)
  | .flag b => pure (.bool b)
  | .path p => p.meaning tools ctx
  | .call name args => answer tools ctx name.text (args.values Value.coerce)

def Arguments.values (finish : Value → Except Fault Value) :
    Arguments → Except Fault (List Value)
  | .none _ => pure []
  | .some items => items.values finish

def Items.values (finish : Value → Except Fault Value) : Items → Except Fault (List Value)
  | .one _ e _ => do return [← finish (← e.meaning)]
  | .cons _ e _ rest => do
      let v ← finish (← e.meaning)
      return v :: (← rest.values finish)

end

/-- A filter applied to a value; an unknown one and one that cannot take its arguments let it
pass. -/
def passThrough (name : Text) (args : Except Fault (List Value)) (v : Value) :
    Except Fault Value := do
  let args ← args
  match tools.filters.get? name with
  | none => pure v
  | some filter =>
      match filter.misfit? args.length with
      | some _ => pure v
      | none => filter.run args v

def FilterCall.apply (v : Value) : FilterCall → Except Fault Value
  | plain name => passThrough tools name.text (pure []) v
  | call name args => passThrough tools name.text (args.values tools ctx pure) v

def filtered (filters : List Piped) (v : Value) : Except Fault Value :=
  filters.foldlM (fun v f => f.filter.apply tools ctx v) v

end

/-! The evaluator without its notes. -/

section

variable {tools : Toolbox} {ctx : Context}

theorem callFunction_result (name : Text) (args : List Value) :
    (callFunction tools ctx name args).result =
      granted (Function.call tools.functions ctx.now name args) := by
  unfold callFunction
  cases Function.call tools.functions ctx.now name args with
  | ok v => rfl
  | error e => cases e <;> rfl

theorem applyName_result (name : Text) (args : Eval (List Value)) [Eval.Steady args] :
    (applyName tools ctx name args).result = answer tools ctx name args.result := by
  unfold applyName answer
  split
  · rw [Eval.result_bind]
    congr 1
    funext vs
    exact callFunction_result name vs
  · cases ctx.query? name with
    | none => rfl
    | some query =>
        dsimp only
        rw [@Eval.result_bind _ _ _ _ fun vs => by split <;> infer_instance]
        congr 1
        funext vs
        rcases vs with _ | ⟨v, _ | ⟨w, rest⟩⟩ <;> rfl

theorem walk_nil (keys : List Text) : walk ctx .nil keys = pure .nil := by
  cases keys <;> rfl

theorem walk_cons (v : Value) (hv : v ≠ .nil) (key : Text) (keys : List Text) :
    walk ctx v (key :: keys) = (step ctx v key).result >>= fun v => walk ctx v keys := by
  cases v with
  | nil => exact absurd rfl hv
  | map entries => rfl
  | _ =>
      simp only [walk, step]
      cases Accessor.find? _ key with
      | none => exact (walk_nil keys).symm
      | some accessor => rfl

theorem follow_result (v : Value) (keys : List Text) :
    (follow ctx v keys).result = walk ctx v keys := by
  fun_induction follow ctx v keys with
  | case1 v => rw [walk, Eval.result_pure]; rfl
  | case2 key keys => rfl
  | case3 v key keys hv ih =>
      rw [Eval.result_bind, walk_cons v hv]
      congr 1
      funext v'
      exact ih v'

theorem resolveRoot_result (name : Text) :
    (resolveRoot tools ctx name).result = rootValue tools ctx name := by
  unfold resolveRoot rootValue
  split
  · rfl
  · split
    · exact callFunction_result name []
    · rfl

/-! Paths. -/

theorem Segment.undotted (s : Segment) : ∀ c ∈ s.text, (c == '.') = false := by
  intro c hc
  rw [beq_eq_false_iff_ne]
  rintro rfl
  rcases s.spelled _ hc with h | h | h <;> cases h

theorem splitAt_dots (s : Segment) (segments : List Segment) :
    Text.splitAt '.' (s.text ++ Dotted.dots segments) = s.text :: segments.map Segment.text := by
  rw [Text.splitAt, splitBy]
  induction segments generalizing s with
  | nil =>
      rw [splitFrom_of_forall s.undotted]
      simp [Dotted.dots, splitFrom]
  | cons t segments ih =>
      have hdots : Dotted.dots (t :: segments) = '.' :: (t.text ++ Dotted.dots segments) := rfl
      rw [splitFrom_of_forall s.undotted, hdots, splitFrom, beq_self_eq_true, if_pos rfl, ih]
      simp

theorem resolvePath_print (p : Dotted) :
    (resolvePath tools ctx p.print).result = p.meaning tools ctx := by
  cases p with
  | here => rfl
  | below first rest =>
      have hprint : (Dotted.below first rest).print =
          '.' :: (first.text ++ Dotted.dots rest) := rfl
      have hne : first.text ++ Dotted.dots rest ≠ [] :=
        fun h => first.ne_nil (List.append_eq_nil_iff.mp h).1
      rw [hprint, resolvePath]
      · rw [Eval.result_bind, splitAt_dots, Dotted.meaning, Eval.result_ofExcept]
        congr 1
        funext v
        exact follow_result v _
      · exact hne
  | rooted root steps named =>
      have hundotted : ∀ rest, (Dotted.rooted root steps named).print ≠ '.' :: rest := by
        intro rest heq
        obtain ⟨c, tail, htext⟩ := List.exists_cons_of_ne_nil root.ne_nil
        have hc := root.undotted c (htext ▸ List.mem_cons_self)
        rw [Dotted.print, htext, List.cons_append] at heq
        rw [(List.cons.inj heq).1] at hc
        cases hc
      rw [resolvePath]
      · rw [Dotted.print, splitAt_dots, Dotted.meaning]
        dsimp only
        rw [Eval.result_bind, resolveRoot_result]
        congr 1
        funext v
        exact follow_result v _
      · exact hundotted []
      · exact hundotted

end

/-! Which printed expressions are literals, and which are calls. -/

theorem unquote_eq_none {s : Text} (h : ∀ c ∈ s, Solid c) : unquote s = none := by
  cases s with
  | nil => rfl
  | cons c s =>
      obtain ⟨-, ⟨hdouble, hsingle, -⟩, -⟩ := h c List.mem_cons_self
      simp [unquote, hdouble, hsingle]

theorem parseCall_eq_none_of_solid {s : Text} (h : ∀ c ∈ s, Solid c) : parseCall s = none := by
  cases hcall : parseCall s with
  | none => rfl
  | some found =>
      obtain ⟨c, middle, htrim, -⟩ := trim_of_parseCall hcall
      have hmem : ')' ∈ trim s := by simp [htrim]
      have hsolid := h _ ((trim_isInfix _).subset hmem)
      exact absurd hsolid (by decide)

theorem parseLiteral_quoted (q : Quotation) :
    parseLiteral (Term.quoted q).print = .ok (some (.text q.content)) := by
  have hunquote : unquote (Term.quoted q).print = some q.content := by
    rcases q.isQuote with h | h <;> simp [Term.print, unquote, h]
  rw [parseLiteral, hunquote]

def looksUnsigned (s : Text) : Bool :=
  !(s.takeWhile isDecimal).isEmpty &&
    (s.length == (s.takeWhile isDecimal).length || s.dropWhile isDecimal == ['\n'])

theorem looksInteger_of_head {s : Text} (h : s.head? ≠ some '-') :
    looksInteger s = looksUnsigned s := by
  unfold looksInteger
  split
  · exact absurd rfl h
  · rfl

theorem looksInteger_numeral (n : Numeral) : looksInteger n.text = true := by
  have hdigits : looksUnsigned n.digits = true := by
    have htake : n.digits.takeWhile isDecimal = n.digits := takeWhile_eq_self n.isDecimal
    simp [looksUnsigned, htake, n.ne_nil]
  unfold Numeral.text Numeral.sign
  cases n.negative with
  | true => exact hdigits
  | false =>
      refine (looksInteger_of_head ?_).trans hdigits
      intro hhead
      have hminus := n.isDecimal '-' (List.mem_of_mem_head? hhead)
      cases hminus

theorem parseLiteral_numeral (n : Numeral) : parseLiteral n.text = .ok (some (.int n.value)) := by
  have hword : ∀ word : Text, (∃ c ∈ word, isDecimal c = false ∧ c ≠ '-') →
      (n.text == word) = false := by
    rintro word ⟨c, hc, hdecimal, hminus⟩
    rw [beq_eq_false_iff_ne]
    rintro rfl
    rcases List.mem_append.mp hc with hc | hc
    · unfold Numeral.sign at hc
      split at hc
      · exact hminus (List.mem_singleton.mp hc)
      · cases hc
    · rw [n.isDecimal c hc] at hdecimal
      cases hdecimal
  rw [parseLiteral, unquote_eq_none (solid_numeral n)]
  simp only [hword "true".toList ⟨'t', by decide, by decide⟩,
    hword "false".toList ⟨'f', by decide, by decide⟩, looksInteger_numeral, toInt?_numeral,
    Bool.false_eq_true, if_false, if_true]

theorem parseLiteral_flag (b : Bool) : parseLiteral (Term.flag b).print = .ok (some (.bool b)) := by
  cases b <;> rfl

theorem looksInteger_eq_false {s : Text} (hminus : '-' ∉ s) (hline : '\n' ∉ s)
    (hother : ∃ c ∈ s, isDecimal c = false) : looksInteger s = false := by
  obtain ⟨c, hc, hdecimal⟩ := hother
  have hlength : (s.length == (s.takeWhile isDecimal).length) = false := by
    rw [beq_eq_false_iff_ne]
    intro heq
    have hwhole := (List.takeWhile_prefix isDecimal).eq_of_length heq.symm
    have hall : (s.takeWhile isDecimal).all isDecimal = true := List.all_takeWhile
    rw [hwhole] at hall
    rw [List.all_eq_true.mp hall c hc] at hdecimal
    cases hdecimal
  have hdrop : (s.dropWhile isDecimal == ['\n']) = false := by
    rw [beq_eq_false_iff_ne]
    intro heq
    have hmem : '\n' ∈ s.dropWhile isDecimal := heq ▸ List.mem_cons_self
    exact hline ((List.dropWhile_suffix _).mem hmem)
  rw [looksInteger_of_head fun hhead => hminus (List.mem_of_mem_head? hhead), looksUnsigned,
    hlength, hdrop, Bool.or_self, Bool.and_false]

theorem Segment.minus_not_mem (s : Segment) : '-' ∉ s.text := by
  intro h
  rcases s.spelled _ h with h | h | h <;> cases h

namespace Dotted

theorem minus_not_mem_dots (segments : List Segment) : '-' ∉ dots segments := by
  intro h
  obtain ⟨s, _, hmem⟩ := List.mem_flatMap.mp h
  rcases List.mem_cons.mp hmem with heq | hmem
  · cases heq
  · exact s.minus_not_mem hmem

theorem minus_not_mem (p : Dotted) : '-' ∉ p.print := by
  cases p with
  | here => decide
  | below first rest => exact minus_not_mem_dots (first :: rest)
  | rooted root steps named =>
      exact fun h => (List.mem_append.mp h).elim root.minus_not_mem (minus_not_mem_dots steps)

theorem named_or_dot_mem (p : Dotted) :
    '.' ∈ p.print ∨ (p.print ≠ "true".toList ∧ p.print ≠ "false".toList ∧
      ∃ c ∈ p.print, isDecimal c = false) := by
  cases p with
  | here => exact .inl List.mem_cons_self
  | below first rest => exact .inl List.mem_cons_self
  | rooted root steps named =>
      cases steps with
      | nil =>
          right
          rw [print, dots, List.flatMap_nil, List.append_nil]
          exact named rfl
      | cons s steps =>
          left
          exact List.mem_append_right _ List.mem_cons_self

theorem parseLiteral_print (p : Dotted) : parseLiteral p.print = .ok none := by
  have hnamed : p.print ≠ "true".toList ∧ p.print ≠ "false".toList ∧
      ∃ c ∈ p.print, isDecimal c = false := by
    rcases p.named_or_dot_mem with hdot | hnamed
    · refine ⟨?_, ?_, '.', hdot, rfl⟩
      · intro heq
        exact absurd (heq ▸ hdot) (by decide)
      · intro heq
        exact absurd (heq ▸ hdot) (by decide)
    · exact hnamed
  obtain ⟨htrue, hfalse, hother⟩ := hnamed
  have hline : '\n' ∉ p.print := fun h => absurd (p.solid_print _ h) (by decide)
  rw [parseLiteral, unquote_eq_none p.solid_print]
  simp only [beq_eq_false_iff_ne.mpr htrue, beq_eq_false_iff_ne.mpr hfalse,
    looksInteger_eq_false p.minus_not_mem hline hother, Bool.false_eq_true, if_false]

theorem parseCall_print (p : Dotted) : parseCall p.print = none :=
  parseCall_eq_none_of_solid p.solid_print

end Dotted

section

variable {tools : Toolbox} {ctx : Context}

theorem literalOr_literalOr (s : Text) (x : Eval Value) :
    literalOr s (literalOr s x) = literalOr s x := by
  unfold literalOr
  cases parseLiteral s with
  | error e => rfl
  | ok v? => cases v? <;> rfl

theorem resolveArgument_print (e : Term) :
    resolveArgument tools ctx e.print = evaluate tools ctx e.print := by
  have htrim : trim e.print = e.print := trimmed_print e
  have hne : (trim e.print).isEmpty = false := by simpa [htrim] using print_ne_nil e
  rw [resolveArgument, evaluate_eq, hne, if_neg Bool.false_ne_true, htrim, literalOr_literalOr]

theorem evaluate_of_parseLiteral {e : Term} {v : Value}
    (h : parseLiteral e.print = .ok (some v)) :
    evaluate tools ctx e.print = pure v := by
  have htrim : trim e.print = e.print := trimmed_print e
  exact evaluate_of_literal (by simpa [htrim] using print_ne_nil e) (by rwa [htrim])

mutual

theorem Term.evaluate_print : ∀ e : Term, (evaluate tools ctx e.print).result = e.meaning tools ctx
  | .quoted q => by
      rw [evaluate_of_parseLiteral (parseLiteral_quoted q), Term.meaning]
      rfl
  | .integer n => by
      rw [evaluate_of_parseLiteral (e := .integer n) (parseLiteral_numeral n), Term.meaning]
      rfl
  | .flag b => by
      rw [evaluate_of_parseLiteral (parseLiteral_flag b), Term.meaning]
      rfl
  | .path p => by
      have htrim : trim (Term.path p).print = p.print := trimmed_print (.path p)
      have hne : (trim (Term.path p).print).isEmpty = false := by
        simpa [htrim] using p.print_ne_nil
      rw [evaluate_eq, hne, if_neg Bool.false_ne_true, htrim, literalOr, p.parseLiteral_print,
        p.parseCall_print, Term.meaning, ← resolvePath_print]
      rfl
  | .call name args => by
      have hargs := args.mapM_result
        (fun a => do Eval.ofExcept (← resolveArgument tools ctx a).coerce) Value.coerce
        fun e => by rw [Eval.result_bind, resolveArgument_print]; rfl
      rw [Term.print, evaluate_of_parseCall (parseCall_invocation name args.print), call,
        splitArguments_print, applyName_result, hargs, Term.meaning]

theorem Arguments.mapM_result (f : Text → Eval Value) [∀ a, Eval.Steady (f a)]
    (finish : Value → Except Fault Value)
    (hf : ∀ e : Term, (f e.print).result = (evaluate tools ctx e.print).result >>= finish) :
    ∀ args : Arguments, (args.texts.mapM f).result = args.values tools ctx finish
  | .none inside => rfl
  | .some items => by
      rw [Arguments.texts, Arguments.values]
      exact items.mapM_result f finish hf

theorem Items.mapM_result (f : Text → Eval Value) [∀ a, Eval.Steady (f a)]
    (finish : Value → Except Fault Value)
    (hf : ∀ e : Term, (f e.print).result = (evaluate tools ctx e.print).result >>= finish) :
    ∀ items : Items, (items.texts.mapM f).result = items.values tools ctx finish
  | .one before e after => by
      rw [Items.texts, Items.values, List.mapM_cons, List.mapM_nil, Eval.result_bind, hf,
        e.evaluate_print, bind_assoc]
      rfl
  | .cons before e after rest => by
      rw [Items.texts, Items.values, List.mapM_cons, Eval.result_bind, hf, e.evaluate_print,
        bind_assoc]
      congr 1
      funext v
      congr 1
      funext v'
      rw [Eval.result_bind, rest.mapM_result f finish hf]
      rfl

end

end

end Stencil.Template
