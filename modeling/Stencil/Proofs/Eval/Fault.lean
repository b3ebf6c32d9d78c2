import Stencil.Proofs.Filter.Fold
import Stencil.Proofs.Function.Standard
import Stencil.Proofs.Site.Fault

namespace Stencil

/-! What the evaluation of an expression can fail with. -/

def Accessor.Sound (accessor : Accessor α) : Prop :=
  ∀ (x : α) (ctx : Context), FailsIn Fault.OfRender (accessor x ctx)

def MethodTable.Sound (table : MethodTable α) : Prop := ∀ entry ∈ table, Accessor.Sound entry.2

namespace MethodTable.Sound

variable {table : MethodTable α}

theorem withAliases (h : table.Sound) (aliases : List (String × String)) :
    (table.withAliases aliases).Sound :=
  forall_withAliases h aliases

theorem find? (h : table.Sound) {name : Text} {x : α} {accessor : Context → Except Fault Value}
    (hfind : (table.find? name).map (· x) = some accessor) (ctx : Context) :
    FailsIn Fault.OfRender (accessor ctx) := by
  obtain ⟨f, hf, rfl⟩ := Option.map_eq_some_iff.mp hfind
  exact of_find? h hf x ctx

end MethodTable.Sound

namespace Accessor

instance instFailsInLabels (labelsOf : Page → Value) (s : Site) :
    FailsIn Fault.OfRender (labels labelsOf s) := by
  unfold labels
  infer_instance

theorem sound_tables :
    site.Sound ∧ page.Sound ∧ menuEntry.Sound ∧ crumb.Sound ∧ sectionNav.Sound ∧ build.Sound ∧
      moment.Sound ∧ sequence.Sound := by
  refine ⟨.withAliases ?_ _, .withAliases ?_ _, .withAliases ?_ _, .withAliases ?_ _,
    .withAliases ?_ _, .withAliases ?_ _, .withAliases ?_ _, .withAliases ?_ _⟩
  all_goals
    repeat
      refine List.forall_mem_cons.mpr ⟨fun _ _ => by
        first
        | exact instFailsInOk _
        | infer_instance
        | dsimp only; split <;> infer_instance, ?_⟩
    exact List.forall_mem_nil _

theorem sound_collection : collection.Sound := by
  obtain ⟨-, -, -, -, -, -, -, hsequence⟩ := sound_tables
  refine List.forall_mem_append.mpr ⟨hsequence, ?_⟩
  repeat refine List.forall_mem_cons.mpr ⟨fun _ _ => by infer_instance, ?_⟩
  exact List.forall_mem_nil _

theorem failsIn_of_find? {v : Value} {method : Text} {accessor : Context → Except Fault Value}
    (h : find? v method = some accessor) (ctx : Context) :
    FailsIn Fault.OfRender (accessor ctx) := by
  obtain ⟨hsite, hpage, hmenu, hcrumb, hnav, hbuild, hmoment, hsequence⟩ := sound_tables
  cases v with
  | site s => exact hsite.find? h ctx
  | page p => exact hpage.find? h ctx
  | menuEntry e => exact hmenu.find? h ctx
  | crumb c => exact hcrumb.find? h ctx
  | sectionNav n => exact hnav.find? h ctx
  | build b => exact hbuild.find? h ctx
  | pages items => exact sound_collection.find? h ctx
  | moment m => exact hmoment.find? h ctx
  | date d => exact hmoment.find? h ctx
  | list items => exact hsequence.find? h ctx
  | _ => cases h

end Accessor

namespace Context

instance instFailsInOfPage (page : Option Page) (field : Page → Except Fault Value)
    (default : Value) [∀ p, FailsIn Fault.OfRender (field p)] :
    FailsIn Fault.OfRender (ofPage page field default) := by
  unfold ofPage
  split <;> infer_instance

instance instFailsInTagCloud (s : Site) : FailsIn Fault.OfRender (tagCloud s) := by
  unfold tagCloud
  infer_instance

instance instFailsInYearOf (v : Value) : FailsIn Fault.OfRender (yearOf v) := by
  unfold yearOf
  split <;> infer_instance

instance instFailsInAddToYear (archive : List (Text × List Value)) (v : Value) :
    FailsIn Fault.OfRender (addToYear archive v) := by
  unfold addToYear
  infer_instance

instance instFailsInArchiveByYear (s : Site) : FailsIn Fault.OfRender (archiveByYear s) := by
  unfold archiveByYear
  infer_instance

theorem failsIn_roots :
    ∀ root ∈ roots, ∀ ctx : Context, FailsIn Fault.OfRender (root.2 ctx) := by
  unfold roots
  repeat
    refine List.forall_mem_cons.mpr ⟨fun _ => by
      first
      | exact instFailsInOk _
      | infer_instance
      | dsimp only; split <;> infer_instance, ?_⟩
  exact List.forall_mem_nil _

theorem failsIn_of_root? {ctx : Context} {name : Text} {x : Except Fault Value}
    (h : ctx.root? name = some x) : FailsIn Fault.OfRender x := by
  obtain ⟨root, hroot, rfl⟩ := Option.map_eq_some_iff.mp h
  exact failsIn_roots root (List.mem_of_find?_eq_some hroot) ctx

theorem failsIn_of_get? {ctx : Context} {name : Text} {x : Except Fault Value}
    (h : ctx.get? name = some x) : FailsIn Fault.OfRender x := by
  unfold get? at h
  split at h
  · cases h
    infer_instance
  · exact failsIn_of_root? h

theorem failsIn_of_lookup? {ctx : Context} {name : Text} {x : Except Fault Value}
    (h : ctx.lookup? name = some x) : FailsIn Fault.OfRender x := by
  unfold lookup? at h
  split at h
  · next value hvalue =>
      cases h
      exact failsIn_of_get? hvalue
  · split at h
    · split at h
      · cases h
      · exact failsIn_of_get? h
    · cases h

instance instFailsInLookup (ctx : Context) (name : Text) :
    FailsIn Fault.OfRender (ctx.lookup name) := by
  unfold lookup
  cases hname : ctx.lookup? name with
  | some x => exact failsIn_of_lookup? hname
  | none => exact instFailsInOk _

instance instFailsInWholeNumber (v : Value) : FailsIn Fault.OfRender v.wholeNumber? :=
  Value.wholeNumber?_failsIn (.inl trivial)

theorem failsIn_of_query? {ctx : Context} {name : Text}
    {query : Option Value → Except Fault Value} (h : ctx.query? name = some query)
    (arg : Option Value) : FailsIn Fault.OfRender (query arg) := by
  unfold query? at h
  dsimp only at h
  split at h
  · cases h
    cases arg <;> infer_instance
  · split at h
    · cases h
      cases arg <;> dsimp only <;> split <;> infer_instance
    · split at h
      · cases h
        infer_instance
      · split at h
        · cases h
          infer_instance
        · cases h

end Context

/-! Values as arguments of functions. -/

namespace Value

mutual

theorem failsIn_coerce (v : Value) : FailsIn Fault.OfRender v.coerce := by
  cases v with
  | map entries =>
      have hentries : FailsIn Fault.OfRender (formatEntries entries) :=
        failsIn_formatEntries (fun _ _ => inferInstance) fun _ _ => inferInstance
      rw [coerce]
      infer_instance
  | list items =>
      rw [coerce]
      exact failsIn_coerceItems items
  | pages items =>
      rw [coerce]
      exact failsIn_coerceItems items
  | _ =>
      simp only [coerce]
      infer_instance

theorem failsIn_coerceItems (items : List Value) :
    FailsIn Fault.OfRender (coerceItems items) := by
  have hall := failsIn_coerceAll items
  unfold coerceItems
  infer_instance

theorem failsIn_coerceAll (vs : List Value) : FailsIn Fault.OfRender (coerceAll vs) := by
  cases vs with
  | nil =>
      rw [coerceAll]
      infer_instance
  | cons v vs =>
      have hv := failsIn_coerce v
      have hvs := failsIn_coerceAll vs
      rw [coerceAll]
      infer_instance

end

instance instFailsInCoerce (v : Value) : FailsIn Fault.OfRender v.coerce := failsIn_coerce v

end Value

/-! Evaluations with notes. -/

namespace Eval

/-- An evaluation that fails as renders may, whatever notes were taken before. -/
class Sound (x : Eval α) : Prop where
  of_run : ∀ log, FailsIn Fault.OfRender ((ExceptT.run x).run log).1

section

variable {x : Eval α} {f : α → Eval β}

instance instFailsInResult [hx : Sound x] : FailsIn Fault.OfRender x.result := hx.of_run []

theorem sound_of_result [hx : Steady x] (h : FailsIn Fault.OfRender x.result) : Sound x := by
  refine ⟨fun log => ?_⟩
  rw [hx.run_eq log]
  exact h

instance instSoundPure (a : α) : Sound (pure a : Eval α) := ⟨fun _ => instFailsInOk a⟩

theorem sound_throw {e : Fault} (h : e.OfRender) : Sound (throw e : Eval α) :=
  ⟨fun _ => failsIn_error h⟩

instance instSoundOfExcept (r : Except Fault α) [hr : FailsIn Fault.OfRender r] :
    Sound (ofExcept r) := ⟨fun _ => hr⟩

instance instSoundNote (level : Level) (source : String) (message : Text) :
    Sound (note level source message) := ⟨fun _ => instFailsInOk ()⟩

instance instSoundBind [hx : Sound x] [hf : ∀ a, Sound (f a)] : Sound (x >>= f) := by
  refine ⟨fun log => ?_⟩
  have hfails := hx.of_run log
  rw [run_bind]
  rcases h : (ExceptT.run x).run log with ⟨e | a, notes⟩
  · exact failsIn_error (hfails.of_eq_error e (congrArg Prod.fst h))
  · exact (hf a).of_run notes

instance instSoundMap [Sound x] (g : α → β) : Sound (g <$> x) := by
  rw [← bind_pure_comp]
  infer_instance

instance instSoundIte {c : Prop} [Decidable c] {y : Eval α} [Sound x] [Sound y] :
    Sound (if c then x else y) := by
  split <;> infer_instance

theorem sound_mapM {items : List α} {g : α → Eval β} (h : ∀ a ∈ items, Sound (g a)) :
    Sound (items.mapM g) := by
  induction items with
  | nil =>
      rw [List.mapM_nil]
      infer_instance
  | cons a items ih =>
      obtain ⟨ha, hitems⟩ := List.forall_mem_cons.mp h
      have hrest := ih hitems
      rw [List.mapM_cons]
      infer_instance

instance instSoundForIn (items : List α) (g : α → β → Eval (ForInStep β))
    [hg : ∀ a b, Sound (g a b)] (b : β) : Sound (forIn items b g) := by
  induction items generalizing b with
  | nil =>
      rw [List.forIn_nil]
      infer_instance
  | cons a items ih =>
      rw [List.forIn_cons]
      have hnext : ∀ s : ForInStep β, Sound (match s with
          | .done b => pure b
          | .yield b => forIn items b g : Eval β) := by
        rintro (b | b)
        · exact inferInstanceAs (Sound (pure b))
        · exact ih b
      infer_instance

end

end Eval

namespace Template

open Stencil.Text

variable {ctx : Context}

/-! Names and calls. -/

theorem ofRender_of_lapse {name : Text} {e : Fault} (h : Function.Lapse name e) : e.OfRender := by
  cases e with
  | overflow | outOfDomain | zeroDivision => trivial
  | _ => exact absurd h id

theorem failsIn_granted_call {name : Text} {args : List Value}
    (hname : Function.standard.has name = true) (hplain : ∀ v ∈ args, v.Plain) :
    FailsIn Fault.OfRender (granted (Function.call Function.standard ctx.now name args)) :=
  (Function.failsIn_granted (Function.failsIn_call_plain ctx.now hname hplain)).mono
    fun _ => ofRender_of_lapse

theorem failsIn_answer {name : Text} {args : Except Fault (List Value)}
    (hargs : FailsIn Fault.OfRender args) (hplain : ∀ vs, args = .ok vs → ∀ v ∈ vs, v.Plain) :
    FailsIn Fault.OfRender (answer .standard ctx name args) := by
  unfold answer
  split
  · next hname => exact hargs.bind fun vs hvs => failsIn_granted_call hname (hplain vs hvs)
  · split
    · next query hquery =>
        refine hargs.bind fun vs _ => ?_
        split
        · exact Context.failsIn_of_query? hquery none
        · exact Context.failsIn_of_query? hquery _
        · infer_instance
    · infer_instance

instance instSoundResolveRoot (name : Text) : Eval.Sound (resolveRoot .standard ctx name) := by
  refine Eval.sound_of_result ?_
  rw [resolveRoot_result]
  unfold rootValue
  split
  · infer_instance
  · split
    · next hname => exact failsIn_granted_call hname fun _ hmem => nomatch hmem
    · infer_instance

instance instSoundStep (v : Value) (method : Text) : Eval.Sound (step ctx v method) := by
  unfold step
  split
  · infer_instance
  · split
    · next accessor haccessor =>
        have hanswer := Accessor.failsIn_of_find? haccessor ctx
        infer_instance
    · infer_instance

instance instSoundFollow (v : Value) (methods : List Text) :
    Eval.Sound (follow ctx v methods) := by
  fun_induction follow ctx v methods <;> infer_instance

instance instSoundResolvePath (path : Text) : Eval.Sound (resolvePath .standard ctx path) := by
  unfold resolvePath
  split
  · infer_instance
  · infer_instance
  · split <;> infer_instance

/-! Expressions. -/

instance instFailsInParseLiteral (s : Text) : FailsIn Fault.OfRender (parseLiteral s) := by
  unfold parseLiteral
  split
  · infer_instance
  · split
    · infer_instance
    · split
      · infer_instance
      · split
        · split <;> infer_instance
        · infer_instance

instance instSoundLiteralOr (s : Text) (x : Eval Value) [Eval.Sound x] :
    Eval.Sound (literalOr s x) := by
  unfold literalOr
  have hchoice : ∀ v? : Option Value, Eval.Sound (match v? with
      | some v => pure v
      | none => x : Eval Value) := by
    rintro (_ | v) <;> infer_instance
  infer_instance

theorem sound_call {name raw : Text}
    (h : ∀ a ∈ splitArguments raw, Eval.Sound (evaluate .standard ctx a)) :
    Eval.Sound (call .standard ctx name raw) := by
  have hargs : Eval.Sound ((splitArguments raw).mapM fun a => do
      Eval.ofExcept (← resolveArgument .standard ctx a).coerce) := by
    refine Eval.sound_mapM fun a ha => ?_
    have hvalue := h a ha
    unfold resolveArgument
    infer_instance
  refine Eval.sound_of_result ?_
  rw [call, applyName_result]
  exact failsIn_answer inferInstance fun vs => Function.plain_of_coerced

instance instSoundEvaluate (s : Text) : Eval.Sound (evaluate .standard ctx s) := by
  induction hlength : s.length using Nat.strongRecOn generalizing s with
  | ind n ih =>
      rw [evaluate_eq]
      split
      · infer_instance
      · refine @instSoundLiteralOr (trim s) _ ?_
        split
        · next name raw hparse =>
            refine sound_call fun a ha => ?_
            have hcall := length_parseCall_lt hparse
            have htrim := length_trim_le s
            have hmem := length_le_of_mem_splitArguments ha
            exact ih a.length (by omega) a rfl
        · infer_instance

instance instSoundResolveArgument (raw : Text) :
    Eval.Sound (resolveArgument .standard ctx raw) := by
  unfold resolveArgument
  infer_instance

instance instSoundCall (name raw : Text) : Eval.Sound (call .standard ctx name raw) :=
  sound_call fun _ _ => inferInstance

/-! Filters. -/

theorem failsIn_run_standard {name : Text} {f : Filter} (h : Filter.standard.get? name = some f)
    (args : List Value) (v : Value) : FailsIn Fault.OfRender (f.run args v) := by
  have hall : ∀ w : Value, w.IntegersIn fun _ => True :=
    Value.integersIn_of_forall fun _ => trivial
  have hwrites : Writes Fault.OfRender fun _ => True := writes_of_outOfDomain trivial
  have hkeeps : Filter.Keeps Fault.OfRender (fun _ => True) f := Filter.keeps_standard trivial h
  exact (hkeeps.run args v (fun a _ => hall a) (hall v) ⟨hall _, fun _ _ => trivial⟩).failsIn

instance instSoundApplyFilters {resolve : Text → Eval Value} [∀ raw, Eval.Sound (resolve raw)]
    (directives : List Text) (v : Value) :
    Eval.Sound (applyFilters Filter.standard resolve directives v) := by
  induction directives generalizing v with
  | nil =>
      rw [applyFilters]
      infer_instance
  | cons directive rest ih =>
      have hread : ∀ args, Eval.Sound
          (applyRead Filter.standard resolve rest v (readDirective directive).1 args) := by
        intro args
        unfold applyRead
        split
        · infer_instance
        · next f hf =>
            have hrun := failsIn_run_standard hf args v
            split <;> infer_instance
      have hargs : Eval.Sound ((readDirective directive).2.mapM resolve) :=
        Eval.sound_mapM fun _ _ => inferInstance
      rw [applyFilters_cons]
      infer_instance

instance instSoundSubstitution (inside : Text) :
    Eval.Sound (substitution .standard ctx inside) := by
  have hfilters : ∀ v, Eval.Sound (applyFilters Toolbox.standard.filters
      (resolveArgument .standard ctx) (splitPipeline inside).2 v) := fun v =>
    inferInstanceAs (Eval.Sound (applyFilters Filter.standard _ _ v))
  unfold substitution
  infer_instance

end Template

end Stencil
