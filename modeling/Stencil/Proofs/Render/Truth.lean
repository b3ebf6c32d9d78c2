import Stencil.Proofs.Eval.Meaning
import Stencil.Proofs.Render.Faithful

namespace Stencil

open Text

/-! Two rules of truth: conditionals go by the value itself, functions by what it is coerced to. -/

/-- Blank text, `false` and `0`, in any case and with blanks around. -/
def Text.saysNo (s : Text) : Bool :=
  [[], "false".toList, ['0']].elem (toLower (trim s))

theorem Text.saysNo_of_colon {s : Text} (h : ':' ∈ s) : saysNo s = false := by
  have htrim : ':' ∈ trim s := by
    obtain ⟨before, after, hbefore, hafter, heq⟩ := exists_blanks_of_trim s
    rw [heq, List.mem_append, List.mem_append] at h
    rcases h with h | h | h
    · exact absurd (hbefore _ h) (by decide)
    · exact h
    · exact absurd (hafter _ h) (by decide)
  have hlower : ':' ∈ toLower (trim s) := mem_toLower (by decide) (by decide) htrim
  have hother : ∀ t ∈ [[], "false".toList, ['0']], ':' ∉ t := by decide
  rw [saysNo, Bool.eq_false_iff]
  intro hmem
  exact hother _ (List.elem_iff.mp hmem) hlower

theorem Text.mem_join_cons {c : Char} {s : Text} (h : c ∈ s) (sep : Text) (rest : List Text) :
    c ∈ join sep (s :: rest) := by
  cases rest with
  | nil => exact h
  | cons t rest => exact List.mem_append_left _ (List.mem_append_left _ h)

namespace Value

/-- The text that a function sees in place of a text, a content object or a list with content
objects; no other value is represented by a text that could say no. -/
def standIn? : Value → Option Text
  | .text s => some s
  | .list items | .pages items =>
      if items.any isObject then
        some (Text.join [','] (items.map fun v => v.representative?.getD []))
      else none
  | v => if v.isObject then some (v.representative?.getD []) else none

def denied (v : Value) : Bool := v.standIn?.any saysNo

theorem flag_text (s : Text) : (Value.text s).flag = !saysNo s := by
  have hsame : ∀ t : Text, (t.isEmpty || t == "false".toList || t == ['0']) =
      [[], "false".toList, ['0']].elem t := by
    intro t
    rw [Bool.eq_iff_iff]
    simp only [List.elem_eq_mem, decide_eq_true_eq, List.mem_cons, List.not_mem_nil, or_false,
      Bool.or_eq_true, List.isEmpty_iff, beq_iff_eq, or_assoc]
  rw [saysNo, ← hsame, flag]

theorem coerceAll_isEmpty {items ws : List Value} (h : coerceAll items = .ok ws) :
    ws.isEmpty = items.isEmpty := by
  cases items with
  | nil =>
      rw [coerceAll] at h
      cases h
      rfl
  | cons v vs =>
      rw [coerceAll] at h
      obtain ⟨x, -, hrest⟩ := bind_eq_ok.mp h
      obtain ⟨xs, -, hxs⟩ := bind_eq_ok.mp hrest
      cases hxs
      rfl

theorem flag_coerceItems {items : List Value} {w : Value} (h : coerceItems items = .ok w) :
    w.flag = (!items.isEmpty && !(Value.list items).denied) := by
  rw [coerceItems] at h
  split at h
  · next hobject =>
      have hsome : items.isEmpty = false := by
        cases items with
        | nil => cases hobject
        | cons v vs => rfl
      cases h
      rw [flag_text, denied, standIn?, if_pos hobject, hsome]
      rfl
  · next hplain =>
      obtain ⟨ws, hws, hw⟩ := bind_eq_ok.mp h
      cases hw
      have hflag : (Value.list ws).flag = !ws.isEmpty := rfl
      rw [denied, standIn?, if_neg hplain, hflag, coerceAll_isEmpty hws]
      simp

theorem flag_coerce_map {entries : List (Value × Value)} {w : Value}
    (h : (Value.map entries).coerce = .ok w) : w.flag = !entries.isEmpty := by
  rw [coerce] at h
  obtain ⟨texts, htexts, hw⟩ := bind_eq_ok.mp h
  cases hw
  rw [flag_text]
  cases entries with
  | nil =>
      rw [formatEntries] at htexts
      cases htexts
      rfl
  | cons entry rest =>
      rw [formatEntries] at htexts
      obtain ⟨key, -, hkey⟩ := bind_eq_ok.mp htexts
      obtain ⟨value, -, hvalue⟩ := bind_eq_ok.mp hkey
      obtain ⟨others, -, hothers⟩ := bind_eq_ok.mp hvalue
      cases hothers
      have hcolon : ':' ∈ key ++ ": ".toList ++ value :=
        List.mem_append_left _ (List.mem_append_right _ (by decide))
      rw [saysNo_of_colon (mem_join_cons hcolon _ _)]
      rfl

theorem flag_coerce_object {v w : Value} (hobject : v.isObject = true) (h : v.coerce = .ok w) :
    w.flag = (v.truthy && !v.denied) := by
  have hobjects : v.truthy = true ∧ v.standIn? = some (v.representative?.getD []) := by
    cases v <;> first | (cases hobject; done) | exact ⟨rfl, rfl⟩
  rw [coerce_of_isObject hobject] at h
  cases h
  rw [flag_text, hobjects.1, denied, hobjects.2]
  rfl

/-- What functions take for true is true and not denied. -/
theorem flag_coerce {v w : Value} (h : v.coerce = .ok w) : w.flag = (v.truthy && !v.denied) := by
  cases hobject : v.isObject with
  | true => exact flag_coerce_object hobject h
  | false =>
      cases v with
      | list items => exact flag_coerceItems (by rwa [coerce] at h)
      | pages items => exact flag_coerceItems (by rwa [coerce] at h)
      | map entries =>
          have hnone : (Value.map entries).standIn? = none := rfl
          rw [flag_coerce_map h, denied, hnone]
          exact (Bool.and_true _).symm
      | text s =>
          rw [coerce] at h
          cases h
          rw [flag_text, truthy, denied, standIn?]
          cases s with
          | nil => rfl
          | cons c s => rfl
      | _ =>
          first
          | (cases hobject; done)
          | rw [coerce] at h
            cases h
            exact (Bool.and_true _).symm

end Value

namespace Template

/-! A text behind a condition. -/

/-- `{{ if condition }}text{{ endif }}` -/
def guarded (condition : Operand) (t : Plain) : Text :=
  (Forest.guard condition (.text t .done) .done).print

theorem bare_of_unopened {s : Text} (h : s.Unopened) : Bare s := by
  refine bare_iff.mpr ?_
  rintro ⟨before, inside, behind, -, rfl⟩
  have hnext := (h.of_append_right : Text.Unopened (mark inside ++ behind)).1 rfl
  cases hnext

theorem level_of_bare {s : Text} (h : Bare s) (tools : Toolbox) (inner : Inner) (ctx : Context) :
    level tools inner ctx s = pure (settle s) := by
  rw [level, expandCalls_of_bare tools ctx h, pure_bind, expandLoops_of_bare tools inner ctx h,
    pure_bind, expandConditionals_of_bare tools inner ctx h, pure_bind,
    expandVariables_of_bare tools ctx h, pure_bind, cleanup_of_bare h]

section

variable {tools : Toolbox} {inner : Inner} {ctx : Context} (condition : Operand) (t : Plain)

theorem guarded_eq :
    guarded condition t =
      mark (ifInside condition) ++ (t.text ++ (mark (padded "endif".toList) ++ [])) := by
  simp only [guarded, Forest.print, List.append_nil]

theorem callsOf_guarded : callsOf tools ctx (guarded condition t) = .ok (guarded condition t) := by
  rw [guarded_eq, callsOf_keyword (enclosed_ifInside condition) (head?_words_ifInside condition)
    (loopIn_ifInside condition), callsOf_text t.unopened,
    callsOf_keyword (by decide) (head?_words_padded_keyword _) loopIn_padded_endif,
    callsOf_drives.nil]
  rfl

variable [hinner : ∀ ctx s, Eval.Steady (inner ctx s)]

theorem loopsOf_guarded :
    loopsOf tools inner ctx (guarded condition t) = .ok (guarded condition t) := by
  rw [guarded_eq, loopsOf_skip (enclosed_ifInside condition) (loopIn_ifInside condition),
    loopsOf_text t.unopened, loopsOf_skip (by decide) loopIn_padded_endif, loopsOf_drives.nil]
  rfl

theorem conditionalsOf_guarded (hbare : ∀ s, Bare s → (inner ctx s).result = .ok (settle s)) :
    conditionalsOf tools inner ctx (guarded condition t) =
      (fun v : Value => if v.truthy then settle t.text else []) <$>
        (evaluate tools ctx condition.text).result := by
  have hbalanced : BlockKind.conditional.Balanced t.text :=
    (BlockKind.passes_of_unopened t.unopened).balanced
  have hyes := hbare t.text (bare_of_unopened t.unopened)
  have hno : (inner ctx []).result = .ok [] := by
    rw [hbare [] (bare_of_unopened .nil), settle_nil]
  rw [guarded_eq, conditionalsOf_if (enclosed_ifInside condition) (operandIn_ifInside condition),
    BlockKind.block?_of_balanced hbalanced closes_padded_endif]
  simp only [conditionalsOf_drives.nil, map_pure, List.append_nil]
  cases (evaluate tools ctx condition.text).result with
  | error e => rfl
  | ok v =>
      cases hv : v.truthy with
      | true => simp only [hv, hyes, ok_bind, map_ok, if_true]; rfl
      | false => simp only [hv, hno, ok_bind, map_ok, Bool.false_eq_true, if_false]; rfl

end

theorem render_guarded (tools : Toolbox) (ctx : Context) (condition : Operand) (t : Plain) :
    (render tools ctx (guarded condition t)).result =
      (fun v : Value => if v.truthy then settle t.text else []) <$>
        (evaluate tools ctx condition.text).result := by
  have hbare : ∀ s, Bare s →
      (renderWithin tools ((guarded condition t).length + 999) ctx s).result = .ok (settle s) := by
    intro s hs
    rw [renderWithin_succ, level_of_bare hs]
    rfl
  -- What the conditionals leave is settled text: the variables and the cleanup find nothing there.
  have hlater : ∀ s, settle s = s → settle <$> variablesOf tools ctx s = .ok s := by
    intro s hs
    have hvariables := expandVariables_of_bare tools ctx (bare_settle s)
    rw [hs] at hvariables
    rw [variablesOf, hvariables, Eval.result_pure, map_ok, hs]
  rw [render, depthFor, renderWithin_succ, level_result, callsOf_guarded, ok_bind, loopsOf_guarded,
    ok_bind, conditionalsOf_guarded condition t hbare]
  cases (evaluate tools ctx condition.text).result with
  | error e => rfl
  | ok v =>
      rw [map_ok, ok_bind]
      split
      · exact hlater _ (settle_settle t.text)
      · exact hlater _ settle_nil

/-! Conditions on a name: by itself, negated, and joined with itself. -/

def notName : CallName := ⟨'n', "ot".toList, false, rfl, by decide⟩

def andName : CallName := ⟨'a', "nd".toList, false, rfl, by decide⟩

def orName : CallName := ⟨'o', "r".toList, false, rfl, by decide⟩

theorem not_brace_of_isWord {c : Char} (h : isWord c = true) : c ≠ '{' ∧ c ≠ '}' :=
  ⟨ne_of_holds h (by decide), ne_of_holds h (by decide)⟩

theorem CallName.braceless (f : CallName) : f.text.Braceless := by
  have hmark : Text.Braceless (if f.marked then ['?'] else []) := by
    split <;> decide
  have htail : Text.Braceless f.tail := fun c hc => not_brace_of_isWord (f.isWord c hc)
  intro c hc
  rcases List.mem_cons.mp hc with rfl | hc
  · exact not_brace_of_isWord (isWord_of_isNameStart f.isNameStart)
  · exact braceless_append htail hmark c hc

theorem Segment.braceless (x : Segment) : x.text.Braceless := by
  intro c hc
  rcases x.spelled c hc with hword | rfl | rfl
  · exact not_brace_of_isWord hword
  · decide
  · decide

namespace Segment

variable (x : Segment) (hx : x.Named) (f : CallName)

/-- `x` -/
def term : Term := .path (.rooted x [] fun _ => hx)

/-- `f(x)` -/
def applied : Term := .call f (.some (.one ⟨[], by decide⟩ (x.term hx) ⟨[], by decide⟩))

/-- `f(x, x)` -/
def paired : Term :=
  .call f (.some (.cons ⟨[], by decide⟩ (x.term hx) ⟨[], by decide⟩
    (.one ⟨[' '], by decide⟩ (x.term hx) ⟨[], by decide⟩)))

theorem print_term : (x.term hx).print = x.text := List.append_nil _

theorem braceless_term : (x.term hx).print.Braceless := by
  rw [print_term]
  exact x.braceless

theorem braceless_applied : (x.applied hx f).print.Braceless := by
  have hprint : (x.applied hx f).print = f.text ++ (['('] ++ (x.text ++ [')'])) := by
    simp [applied, Term.print, Arguments.print, Items.print, print_term]
  rw [hprint]
  exact braceless_append f.braceless (braceless_append (by decide)
    (braceless_append x.braceless (by decide)))

theorem braceless_paired : (x.paired hx f).print.Braceless := by
  have hprint : (x.paired hx f).print =
      f.text ++ (['('] ++ (x.text ++ (", ".toList ++ (x.text ++ [')'])))) := by
    simp [paired, Term.print, Arguments.print, Items.print, print_term]
  rw [hprint]
  exact braceless_append f.braceless (braceless_append (by decide) (braceless_append x.braceless
    (braceless_append (by decide) (braceless_append x.braceless (by decide)))))

end Segment

/-- `{{ if e }}text{{ endif }}` -/
def Term.guarded (e : Term) (he : e.print.Braceless) (t : Plain) : Text :=
  Template.guarded ⟨e.print, he, trimmed_print e, print_ne_nil e⟩ t

theorem Term.render_guarded (tools : Toolbox) (ctx : Context) (e : Term)
    (he : e.print.Braceless) (t : Plain) :
    (render tools ctx (e.guarded he t)).result =
      (fun v : Value => if v.truthy then settle t.text else []) <$> e.meaning tools ctx := by
  rw [guarded, Template.render_guarded, e.evaluate_print]

section

variable {tools : Toolbox} {ctx : Context} {x : Segment} {v : Value}

theorem rootValue_of_get? (h : ctx.get? x.text = some (.ok v)) :
    rootValue tools ctx x.text = .ok v := by
  have hhas : ctx.has x.text = true := by
    unfold Context.has
    rw [h]
    rfl
  have hlookup : ctx.lookup x.text = .ok v := by
    unfold Context.lookup Context.lookup?
    rw [h]
    rfl
  rw [rootValue, if_pos hhas, hlookup]

theorem meaning_term (hx : x.Named) (h : ctx.get? x.text = some (.ok v)) :
    (x.term hx).meaning tools ctx = .ok v := by
  rw [Segment.term, Term.meaning, Dotted.meaning, rootValue_of_get? h]
  rfl

theorem call_not (now : Moment) (w : Value) :
    Function.call Function.standard now notName.text [w] = .ok (.bool !w.flag) := rfl

theorem meaning_not (hx : x.Named) (h : ctx.get? x.text = some (.ok v)) :
    (x.applied hx notName).meaning .standard ctx = (fun w => .bool !w.flag) <$> v.coerce := by
  rw [Segment.applied, Term.meaning, Arguments.values, Items.values, meaning_term hx h, ok_bind]
  cases v.coerce with
  | error e => rfl
  | ok w => rfl

theorem call_paired {f : CallName} (hf : f ∈ [andName, orName]) (now : Moment) (w : Value) :
    Function.call Function.standard now f.text [w, w] = .ok (.bool w.flag) := by
  have hand : Function.call Function.standard now andName.text [w, w] =
      .ok (.bool ([w.flag, w.flag].all id)) := rfl
  have hor : Function.call Function.standard now orName.text [w, w] =
      .ok (.bool ([w.flag, w.flag].any id)) := rfl
  simp only [List.mem_cons, List.not_mem_nil, or_false] at hf
  rcases hf with rfl | rfl
  · rw [hand]
    simp
  · rw [hor]
    simp

theorem meaning_paired {f : CallName} (hf : f ∈ [andName, orName]) (hx : x.Named)
    (h : ctx.get? x.text = some (.ok v)) :
    (x.paired hx f).meaning .standard ctx = (fun w => .bool w.flag) <$> v.coerce := by
  have hhas : Toolbox.standard.functions.has f.text = true := by
    simp only [List.mem_cons, List.not_mem_nil, or_false] at hf
    rcases hf with rfl | rfl <;> rfl
  rw [Segment.paired, Term.meaning, Arguments.values, Items.values, Items.values,
    meaning_term hx h, answer, if_pos hhas]
  simp only [ok_bind]
  cases v.coerce with
  | error e => rfl
  | ok w =>
      change granted (Function.call Function.standard ctx.now f.text [w, w]) = _
      rw [call_paired hf]
      rfl

end

theorem map_flag_coerce (v : Value) (f : Bool → β) :
    (fun w : Value => f w.flag) <$> v.coerce =
      (fun _ => f (v.truthy && !v.denied)) <$> v.coerce := by
  cases hw : v.coerce with
  | error e => rfl
  | ok w => rw [map_ok, map_ok, Value.flag_coerce hw]

/-- Conditionals go by the truth of a value. So do calls of `not`, `and` and `or`, except that to
them a denied value is false. -/
theorem render_conditions (site : Option Site) (page : Option Page) (extra : Scope) (now : Moment)
    (x : Segment) (hx : x.Named) (v : Value) (hv : extra.lookup x.text = some v) (t : Plain) :
    (render .standard (.create site page extra now)
      ((x.term hx).guarded (x.braceless_term hx) t)).result =
        .ok (if v.truthy then settle t.text else []) ∧
    (render .standard (.create site page extra now)
      ((x.applied hx notName).guarded (x.braceless_applied hx notName) t)).result =
        (fun _ => if !(v.truthy && !v.denied) then settle t.text else []) <$> v.coerce ∧
    (∀ f ∈ [andName, orName],
      (render .standard (.create site page extra now)
        ((x.paired hx f).guarded (x.braceless_paired hx f) t)).result =
          (fun _ => if v.truthy && !v.denied then settle t.text else []) <$> v.coerce) ∧
    ∀ w, v.coerce = .ok w →
      Function.call Function.standard now notName.text [w] =
        .ok (.bool !(v.truthy && !v.denied)) := by
  have hget : (Context.create site page extra now).get? x.text = some (.ok v) := get?_create hv
  refine ⟨?_, ?_, ?_, ?_⟩
  · rw [Term.render_guarded, meaning_term hx hget, map_ok]
  · rw [Term.render_guarded, meaning_not hx hget, Functor.map_map]
    exact map_flag_coerce v fun b => if !b then settle t.text else []
  · intro f hf
    rw [Term.render_guarded, meaning_paired hf hx hget, Functor.map_map]
    exact map_flag_coerce v fun b => if b then settle t.text else []
  · intro w hw
    rw [call_not, Value.flag_coerce hw]

theorem flag_ne_nil : "x".toList ≠ [] := by decide

theorem flag_spelled : ∀ c ∈ "x".toList, isWord c = true ∨ c = '$' ∨ c = '?' := by decide

def flagName : Segment := ⟨"x".toList, flag_ne_nil, flag_spelled⟩

theorem named_flagName : flagName.Named := ⟨by decide, by decide, 'x', by decide, rfl⟩

def shown : Plain := ⟨"T".toList, by decide⟩

example : (flagName.applied named_flagName notName).guarded
    (flagName.braceless_applied named_flagName notName) shown =
      "\x7b\x7b if not(x) \x7d\x7dT\x7b\x7b endif \x7d\x7d".toList := rfl

theorem settle_shown : settle shown.text = "T".toList :=
  settle_of_clean (clean_of_not_mem (by decide) (by decide))

def flagContext (v : Value) : Context := .create none none [("x".toList, v)] .epoch

theorem coerce_ofString (s : String) : (Value.ofString s).coerce = .ok (.ofString s) := by
  rw [Value.ofString, Value.coerce]

theorem render_conditions_word :
    (render .standard (flagContext (.ofString "yes"))
      ((flagName.term named_flagName).guarded (flagName.braceless_term _) shown)).result =
        .ok "T".toList ∧
    (render .standard (flagContext (.ofString "yes"))
      ((flagName.applied named_flagName notName).guarded (flagName.braceless_applied _ _)
        shown)).result = .ok [] := by
  obtain ⟨hname, hnot, -⟩ := render_conditions none none [("x".toList, .ofString "yes")] .epoch
    flagName named_flagName (.ofString "yes") rfl shown
  rw [settle_shown] at hname
  rw [coerce_ofString] at hnot
  exact ⟨hname, hnot⟩

/-- The text `false` is true to conditionals and false to functions. -/
theorem conditions_disagree :
    (render .standard (flagContext (.ofString "false"))
      ((flagName.term named_flagName).guarded (flagName.braceless_term _) shown)).result =
        .ok "T".toList ∧
    (render .standard (flagContext (.ofString "false"))
      ((flagName.applied named_flagName notName).guarded (flagName.braceless_applied _ _)
        shown)).result = .ok "T".toList ∧
    ∀ f ∈ [andName, orName],
      (render .standard (flagContext (.ofString "false"))
        ((flagName.paired named_flagName f).guarded (flagName.braceless_paired _ f)
          shown)).result = .ok [] := by
  have hget : (flagContext (.ofString "false")).get? flagName.text =
      some (.ok (.ofString "false")) := rfl
  refine ⟨?_, ?_, ?_⟩
  · rw [Term.render_guarded, meaning_term named_flagName hget, ← settle_shown]
    rfl
  · rw [Term.render_guarded, meaning_not named_flagName hget, coerce_ofString, ← settle_shown]
    rfl
  · intro f hf
    rw [Term.render_guarded, meaning_paired hf named_flagName hget, coerce_ofString]
    rfl

end Template

end Stencil
