import Stencil.Proofs.Eval.Expression
import Stencil.Proofs.Eval.Result
import Stencil.Proofs.Token.Part

namespace Stencil

open Text

/-! Scopes are read by name only: an expression gives the same in contexts that agree on the names
that stand in it. -/

def Unscoped (f : Context → α) : Prop :=
  ∀ (ctx : Context) (scopes : List Scope), f { ctx with scopes := scopes } = f ctx

/-- Contexts that differ in their scopes only, and there in what one name stands for. -/
structure Context.AgreesOff (name : Text) (ctx other : Context) : Prop where
  site : other.site = ctx.site
  page : other.page = ctx.page
  now : other.now = ctx.now
  bound : ∀ n, n ≠ name → (other.scopes.findSome? fun scope => List.lookup n scope) =
    ctx.scopes.findSome? fun scope => List.lookup n scope

/-! What templates can call sees the site, the page and the moment. -/

theorem unscoped_roots : ∀ root ∈ Context.roots, Unscoped root.2 := by
  unfold Context.roots
  repeat refine List.forall_mem_cons.mpr ⟨fun _ _ => rfl, ?_⟩
  exact fun _ hmem => nomatch hmem

theorem unscoped_root? (name : Text) : Unscoped fun ctx => ctx.root? name := by
  intro ctx scopes
  apply Option.map_congr
  intro root hroot
  exact unscoped_roots root (List.mem_of_find?_eq_some hroot) ctx scopes

theorem unscoped_query? (name : Text) : Unscoped fun ctx => ctx.query? name := fun _ _ => rfl

def MethodTable.Unscoped (table : MethodTable α) : Prop :=
  ∀ entry ∈ table, ∀ x, Stencil.Unscoped (entry.2 x)

namespace MethodTable.Unscoped

variable {table : MethodTable α}

theorem withAliases (h : table.Unscoped) (aliases : List (String × String)) :
    (table.withAliases aliases).Unscoped :=
  forall_withAliases (R := fun accessor => ∀ x, Stencil.Unscoped (accessor x)) h aliases

theorem find? (h : table.Unscoped) {name : Text} {x : α} {accessor : Context → Except Fault Value}
    (hfind : (table.find? name).map (· x) = some accessor) : Stencil.Unscoped accessor := by
  obtain ⟨f, hf, rfl⟩ := Option.map_eq_some_iff.mp hfind
  exact of_find? (R := fun accessor => ∀ x, Stencil.Unscoped (accessor x)) h hf x

end MethodTable.Unscoped

namespace Accessor

theorem unscoped_tables :
    site.Unscoped ∧ page.Unscoped ∧ menuEntry.Unscoped ∧ crumb.Unscoped ∧ sectionNav.Unscoped ∧
      build.Unscoped ∧ moment.Unscoped ∧ sequence.Unscoped := by
  refine ⟨.withAliases ?_ _, .withAliases ?_ _, .withAliases ?_ _, .withAliases ?_ _,
    .withAliases ?_ _, .withAliases ?_ _, .withAliases ?_ _, .withAliases ?_ _⟩
  all_goals
    repeat refine List.forall_mem_cons.mpr ⟨fun _ _ _ => rfl, ?_⟩
    exact fun _ hmem => nomatch hmem

theorem unscoped_collection : collection.Unscoped := by
  obtain ⟨-, -, -, -, -, -, -, hsequence⟩ := unscoped_tables
  refine List.forall_mem_append.mpr ⟨hsequence, ?_⟩
  repeat refine List.forall_mem_cons.mpr ⟨fun _ _ _ => rfl, ?_⟩
  exact fun _ hmem => nomatch hmem

theorem unscoped_find? {v : Value} {method : Text} {accessor : Context → Except Fault Value}
    (h : find? v method = some accessor) : Unscoped accessor := by
  obtain ⟨hsite, hpage, hmenu, hcrumb, hnav, hbuild, hmoment, hsequence⟩ := unscoped_tables
  cases v with
  | site s => exact hsite.find? h
  | page p => exact hpage.find? h
  | menuEntry e => exact hmenu.find? h
  | crumb c => exact hcrumb.find? h
  | sectionNav n => exact hnav.find? h
  | build b => exact hbuild.find? h
  | pages items => exact unscoped_collection.find? h
  | moment m => exact hmoment.find? h
  | date d => exact hmoment.find? h
  | list items => exact hsequence.find? h
  | _ => cases h

end Accessor

/-! What contexts agree on. -/

namespace Context.AgreesOff

variable {name : Text} {ctx other : Context}

theorem apply (h : ctx.AgreesOff name other) {f : Context → α} (hf : Unscoped f) :
    f other = f ctx := by
  have hother : other = { ctx with scopes := other.scopes } := by
    cases other
    simp only [← h.site, ← h.page, ← h.now]
  rw [hother, hf]

theorem child (h : ctx.AgreesOff name other) (scope : Scope) :
    (ctx.child scope).AgreesOff name (other.child scope) where
  site := h.site
  page := h.page
  now := h.now
  bound n hn := by
    simp only [Context.child, List.findSome?_cons, h.bound n hn]

theorem get? (h : ctx.AgreesOff name other) {n : Text} (hn : n ≠ name) :
    other.get? n = ctx.get? n := by
  rw [Context.get?, Context.get?, h.bound n hn, h.apply (unscoped_root? n)]

theorem ne_of_not_isInfix {n : Text} (hn : ¬name <:+: n) : n ≠ name := by
  rintro rfl
  exact hn (List.infix_refl n)

theorem ne_of_not_isInfix_dollar {n : Text} (hn : ¬name <:+: '$' :: n) : n ≠ name :=
  ne_of_not_isInfix fun hin => hn (hin.trans (List.suffix_cons '$' n).isInfix)

theorem lookup (h : ctx.AgreesOff name other) {n : Text} (hn : ¬name <:+: n) :
    other.lookup n = ctx.lookup n := by
  unfold Context.lookup Context.lookup?
  rw [h.get? (ne_of_not_isInfix hn)]
  cases ctx.get? n with
  | some value => rfl
  | none =>
      dsimp only
      split
      · rw [h.get? (ne_of_not_isInfix_dollar hn)]
      · rfl

theorem has (h : ctx.AgreesOff name other) {n : Text} (hn : ¬name <:+: n) :
    other.has n = ctx.has n := by
  unfold Context.has
  rw [h.get? (ne_of_not_isInfix hn)]
  split
  · rw [h.get? (ne_of_not_isInfix_dollar hn)]
  · rfl

end Context.AgreesOff

namespace Template

section

variable {tools : Toolbox} {name : Text} {ctx other : Context}

theorem callFunction_congr (h : ctx.AgreesOff name other) (function : Text) (args : List Value) :
    callFunction tools other function args = callFunction tools ctx function args := by
  rw [callFunction, callFunction, h.now]

theorem applyName_congr (h : ctx.AgreesOff name other) (function : Text)
    (args : Eval (List Value)) :
    applyName tools other function args = applyName tools ctx function args := by
  simp only [applyName, callFunction_congr h, h.apply (unscoped_query? function)]

theorem resolveRoot_congr (h : ctx.AgreesOff name other) {root : Text} (hroot : ¬name <:+: root) :
    resolveRoot tools other root = resolveRoot tools ctx root := by
  simp only [resolveRoot, callFunction_congr h, h.has hroot, h.lookup hroot]

theorem step_congr (h : ctx.AgreesOff name other) (v : Value) (method : Text) :
    step other v method = step ctx v method := by
  unfold step
  split
  · rfl
  · cases haccessor : Accessor.find? v method with
    | none => rfl
    | some accessor => simp only [h.apply (Accessor.unscoped_find? haccessor)]

theorem follow_congr (h : ctx.AgreesOff name other) (v : Value) (methods : List Text) :
    follow other v methods = follow ctx v methods := by
  induction methods generalizing v with
  | nil => rw [follow, follow]
  | cons method methods ih =>
      unfold follow
      split
      · rfl
      · rfl
      · next heq =>
          cases heq
          simp only [step_congr h, ih]

theorem resolvePath_congr (h : ctx.AgreesOff name other) {path : Text} (hpath : ¬name <:+: path) :
    resolvePath tools other path = resolvePath tools ctx path := by
  unfold resolvePath
  split
  · rw [h.lookup hpath]
  · next rest _ =>
      have hdot : ¬name <:+: ['.'] := fun hin =>
        hpath (hin.trans (List.prefix_append ['.'] rest).isInfix)
      simp only [h.lookup hdot, follow_congr h]
  · cases hsplit : Text.splitAt '.' path with
      | nil => rfl
      | cons root methods =>
          have hroot : root <:+: path := infix_of_mem_splitAt (hsplit ▸ List.mem_cons_self)
          simp only [resolveRoot_congr h fun hin => hpath (hin.trans hroot),
            follow_congr h]

theorem call_congr (h : ctx.AgreesOff name other) (function : Text) {raw : Text}
    (hargument : ∀ a ∈ splitArguments raw,
      resolveArgument tools other a = resolveArgument tools ctx a) :
    call tools other function raw = call tools ctx function raw := by
  rw [call, call, applyName_congr h]
  congr 1
  exact mapM_congr_of_mem fun a ha => by rw [hargument a ha]

theorem evaluate_congr (h : ctx.AgreesOff name other) {s : Text} (hs : ¬name <:+: s) :
    evaluate tools other s = evaluate tools ctx s := by
  induction hlength : s.length using Nat.strongRecOn generalizing s with
  | ind n ih =>
      have htrim : ¬name <:+: trim s := fun hin => hs (hin.trans (trim_isInfix s))
      rw [evaluate_eq, evaluate_eq]
      cases hcall : parseCall (trim s) with
      | none => simp only [resolvePath_congr h htrim]
      | some found =>
          obtain ⟨function, raw⟩ := found
          have hraw := infix_of_parseCall hcall
          have hshorter := length_parseCall_lt hcall
          have hcalled : call tools other function raw = call tools ctx function raw := by
            refine call_congr h function fun a ha => ?_
            have hle := length_le_of_mem_splitArguments ha
            have htrimmed := length_trim_le s
            have hvalue := ih a.length (by omega)
              (fun hin => htrim (hin.trans ((infix_of_mem_splitArguments ha).trans hraw))) rfl
            rw [resolveArgument, resolveArgument, hvalue]
          simp only [hcalled]

theorem resolveArgument_congr (h : ctx.AgreesOff name other) {raw : Text} (hraw : ¬name <:+: raw) :
    resolveArgument tools other raw = resolveArgument tools ctx raw := by
  rw [resolveArgument, resolveArgument, evaluate_congr h hraw]

theorem applyFilters_congr (h : ctx.AgreesOff name other) (filters : Registry Filter)
    {directives : List Text} (hdirectives : ∀ d ∈ directives, ¬name <:+: d) (v : Value) :
    applyFilters filters (resolveArgument tools other) directives v =
      applyFilters filters (resolveArgument tools ctx) directives v := by
  induction directives generalizing v with
  | nil => rw [applyFilters, applyFilters]
  | cons d directives ih =>
      have hrest := ih fun d' hd' => hdirectives d' (List.mem_cons_of_mem _ hd')
      unfold applyFilters
      cases hcall : parseCall d with
      | none => simp only [hrest]
      | some found =>
          obtain ⟨filter, raw⟩ := found
          have harguments : (splitArguments raw).mapM (resolveArgument tools other) =
              (splitArguments raw).mapM (resolveArgument tools ctx) :=
            mapM_congr_of_mem fun a ha => resolveArgument_congr h fun hin =>
              hdirectives d List.mem_cons_self (hin.trans
                ((infix_of_mem_splitArguments ha).trans (infix_of_parseCall hcall)))
          simp only [harguments, hrest]

theorem substitution_congr (h : ctx.AgreesOff name other) {inside : Text}
    (hinside : ¬name <:+: inside) :
    substitution tools other inside = substitution tools ctx inside := by
  obtain ⟨hexpression, hfilters⟩ := infix_splitPipeline inside
  have hvalue : evaluate tools other (splitPipeline inside).1 =
      evaluate tools ctx (splitPipeline inside).1 :=
    evaluate_congr h fun hin => hinside (hin.trans hexpression)
  have happlied : ∀ v, applyFilters tools.filters (resolveArgument tools other)
      (splitPipeline inside).2 v =
        applyFilters tools.filters (resolveArgument tools ctx) (splitPipeline inside).2 v :=
    applyFilters_congr h tools.filters fun d hd hin =>
      hinside (hin.trans (hfilters d hd))
  simp only [substitution, hvalue, happlied]

end

end Template

end Stencil
