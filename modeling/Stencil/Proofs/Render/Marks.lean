import Stencil.Proofs.Render.Stages
import Stencil.Proofs.Token.Block

namespace Stencil.Template

open Stencil.Text

/-! What each stage does with text in which no directive opens and with one directive, whatever
follows them. -/

section

variable {tools : Toolbox} {inner : Inner} {ctx : Context} {t inside value : Text}

/-! Calls. -/

theorem callsOf_text (h : t.Unopened) (s : Text) :
    callsOf tools ctx (t ++ s) = (t ++ ·) <$> callsOf tools ctx s :=
  callsOf_drives.text h s

theorem loopHead_mark_self (h : inside.Enclosed) :
    loopHead (mark inside) = (loopIn inside).map (·, []) := by
  have hmark := loopHead_mark h.unclosed []
  rwa [List.append_nil] at hmark

theorem insideText?_of_loopIn {head : LoopHead} (h : loopIn inside = some head) :
    ∃ value, insideText? 0 inside = some value := by
  cases hvalue : insideText? 0 inside with
  | some value => exact ⟨value, rfl⟩
  | none =>
      have hnil : loopIn [] = none := rfl
      rw [insideText?_eq_none hvalue, hnil] at h
      cases h

theorem callsOf_directive (h : inside.Enclosed) (hvalue : insideText? 0 inside = some value)
    (s : Text) :
    callsOf tools ctx (mark inside ++ s) = callsAt tools ctx (mark inside) value s :=
  callsOf_drives.read (Scanner.Whole.reads h.unclosed)
    ((directive_onMark h.unclosed).trans hvalue) s

theorem callsOf_skip (h : inside.Enclosed) (hloop : loopIn inside = none)
    (hcall : ∀ value, insideText? 0 inside = some value → callIn? value = none) (s : Text) :
    callsOf tools ctx (mark inside ++ s) = (mark inside ++ ·) <$> callsOf tools ctx s := by
  cases hvalue : insideText? 0 inside with
  | none =>
      exact callsOf_drives.skip h (Scanner.Whole.reads h.unclosed)
        ((directive_onMark h.unclosed).trans hvalue) s
  | some value =>
      rw [callsOf_directive h hvalue, callsAt, loopHead_mark_self h, hloop, Option.map_none]
      simp only [hcall value hvalue]

theorem callsOf_call (h : inside.Enclosed) (hloop : loopIn inside = none)
    (hvalue : insideText? 0 inside = some value) {found : Text × Text}
    (hcall : callIn? value = some found) (s : Text) :
    callsOf tools ctx (mark inside ++ s) =
      (substitution tools ctx value).result >>= fun out =>
        (out ++ ·) <$> callsOf tools ctx s := by
  rw [callsOf_directive h hvalue, callsAt, loopHead_mark_self h, hloop, Option.map_none]
  simp only [hcall]

theorem callsOf_loop (h : inside.Enclosed) {head : LoopHead}
    (hloop : loopIn inside = some head) (s : Text) :
    callsOf tools ctx (mark inside ++ s) =
      match head.kind.block? s with
      | some b => ((mark inside ++ b.text) ++ ·) <$> callsOf tools ctx b.after
      | none => (mark inside ++ ·) <$> callsOf tools ctx s := by
  obtain ⟨value, hvalue⟩ := insideText?_of_loopIn hloop
  rw [callsOf_directive h hvalue]
  cases hblock : head.kind.block? s <;>
    simp only [callsAt, loopHead_mark_self h, hloop, Option.map_some, hblock]

theorem isControl_of_insideText? {word : Text} [Keyword word]
    (hhead : (words inside).head? = some word) (hvalue : insideText? 0 inside = some value) :
    isControl value = true :=
  isControl_of_head? ((head?_words_insideText? hvalue).trans hhead)

theorem callIn?_of_isControl (h : isControl value = true) : callIn? value = none := by
  rw [callIn?, if_pos h]

theorem callsOf_keyword {word : Text} [Keyword word] (h : inside.Enclosed)
    (hhead : (words inside).head? = some word) (hloop : loopIn inside = none) (s : Text) :
    callsOf tools ctx (mark inside ++ s) = (mark inside ++ ·) <$> callsOf tools ctx s :=
  callsOf_skip h hloop
    (fun _ hvalue => callIn?_of_isControl (isControl_of_insideText? hhead hvalue)) s

/-! Variables. -/

theorem variablesOf_text (h : t.Unopened) (s : Text) :
    variablesOf tools ctx (t ++ s) = (t ++ ·) <$> variablesOf tools ctx s :=
  variablesOf_drives.text h s

theorem variablesOf_skip (h : inside.Enclosed)
    (hcontrol : ∀ value, insideText? 0 inside = some value → isControl value = true) (s : Text) :
    variablesOf tools ctx (mark inside ++ s) = (mark inside ++ ·) <$> variablesOf tools ctx s := by
  cases hvalue : insideText? 0 inside with
  | none =>
      exact variablesOf_drives.skip h (Scanner.Whole.reads h.unclosed)
        ((directive_onMark h.unclosed).trans hvalue) s
  | some value =>
      rw [variablesOf_drives.read (Scanner.Whole.reads h.unclosed)
        ((directive_onMark h.unclosed).trans hvalue), variablesAt, if_pos (hcontrol value hvalue),
        pure_bind]

theorem variablesOf_value (h : inside.Enclosed) (hvalue : insideText? 0 inside = some value)
    (hcontrol : isControl value = false) (s : Text) :
    variablesOf tools ctx (mark inside ++ s) =
      (substitution tools ctx value).result >>= fun out =>
        (out ++ ·) <$> variablesOf tools ctx s := by
  rw [variablesOf_drives.read (Scanner.Whole.reads h.unclosed)
    ((directive_onMark h.unclosed).trans hvalue), variablesAt, if_neg (by rw [hcontrol]; decide)]

variable [hinner : ∀ ctx s, Eval.Steady (inner ctx s)]

/-! Loops. -/

theorem loopsOf_text (h : t.Unopened) (s : Text) :
    loopsOf tools inner ctx (t ++ s) = (t ++ ·) <$> loopsOf tools inner ctx s :=
  loopsOf_drives.text h s

theorem loopsOf_skip (h : inside.Enclosed) (hloop : loopIn inside = none) (s : Text) :
    loopsOf tools inner ctx (mark inside ++ s) =
      (mark inside ++ ·) <$> loopsOf tools inner ctx s :=
  loopsOf_drives.skip h (Scanner.Whole.reads h.unclosed)
    ((loopHead_onMark h.unclosed).trans hloop) s

theorem loopsOf_loop (h : inside.Enclosed) {head : LoopHead}
    (hloop : loopIn inside = some head) (s : Text) :
    loopsOf tools inner ctx (mark inside ++ s) =
      match head.kind.block? s with
      | none => (mark inside ++ ·) <$> loopsOf tools inner ctx s
      | some b =>
          (renderLoop tools inner ctx head b.first).result >>= fun out =>
            (out ++ ·) <$> loopsOf tools inner ctx b.after :=
  loopsOf_drives.read (Scanner.Whole.reads h.unclosed) ((loopHead_onMark h.unclosed).trans hloop) s

/-! Conditionals. -/

theorem conditionalsOf_text (h : t.Unopened) (s : Text) :
    conditionalsOf tools inner ctx (t ++ s) = (t ++ ·) <$> conditionalsOf tools inner ctx s :=
  conditionalsOf_drives.text h s

theorem conditionalsOf_skip (h : inside.Enclosed) (hif : operandIn "if".toList inside = none)
    (s : Text) :
    conditionalsOf tools inner ctx (mark inside ++ s) =
      (mark inside ++ ·) <$> conditionalsOf tools inner ctx s :=
  conditionalsOf_drives.skip h (Scanner.Whole.reads h.unclosed)
    ((operand_onMark h.unclosed).trans hif) s

theorem conditionalsOf_if (h : inside.Enclosed)
    (hif : operandIn "if".toList inside = some value) (s : Text) :
    conditionalsOf tools inner ctx (mark inside ++ s) =
      match BlockKind.conditional.block? s with
      | none => (mark inside ++ ·) <$> conditionalsOf tools inner ctx s
      | some b =>
          (evaluate tools ctx value).result >>= fun condition =>
            (inner ctx (if condition.truthy then b.first else b.second)).result >>= fun out =>
              (out ++ ·) <$> conditionalsOf tools inner ctx b.after :=
  conditionalsOf_drives.read (Scanner.Whole.reads h.unclosed)
    ((operand_onMark h.unclosed).trans hif) s

end

/-! The turns of a loop. -/

def turnScopes (name : Option Text) (v : Value) : List Scope :=
  ((v.sequence?).getD []).mapIdx (turnScope name)

section

variable {tools : Toolbox} {inner : Inner} [hinner : ∀ ctx s, Eval.Steady (inner ctx s)]

theorem renderTurns_result (ctx : Context) (name : Option Text) (body : Text) (index : Nat)
    (items : List Value) :
    (renderTurns inner ctx name body index items).result =
      List.flatten <$> (items.mapIdx fun i => turnScope name (index + i)).mapM fun scope =>
        (inner (ctx.child scope) body).result := by
  induction items generalizing index with
  | nil => rfl
  | cons item items ih =>
      have hshift : (fun i => turnScope name (index + (i + 1))) =
          fun i => turnScope name (index + 1 + i) := by
        funext i
        rw [Nat.add_assoc, Nat.add_comm 1]
      rw [renderTurns_cons_result, ih, List.mapIdx_cons, List.mapM_cons, hshift]
      simp

theorem renderLoop_eq_mapM (ctx : Context) (head : LoopHead) (body : Text) :
    (renderLoop tools inner ctx head body).result =
      (evaluate tools ctx head.source).result >>= fun v =>
        List.flatten <$> (turnScopes head.name v).mapM fun scope =>
          (inner (ctx.child scope) body).result := by
  rw [renderLoop_result]
  congr 1
  funext v
  cases hitems : v.sequence? with
  | none => simp [turnScopes, hitems]
  | some items => simp [turnScopes, hitems, renderTurns_result]

end

end Stencil.Template
