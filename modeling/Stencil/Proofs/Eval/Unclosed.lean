import Stencil.Proofs.Filter.Fold
import Stencil.Proofs.Function.Unclosed
import Stencil.Proofs.Site.Unclosed

namespace Stencil

open Text

/-! Evaluation makes no closing brace: where functions and filters make none, and none stands in a
context and in an expression, there is none in the value. -/

/-- No closing brace stands in what a template can name. -/
structure Context.Unclosed (ctx : Context) : Prop where
  scopes : ∀ scope ∈ ctx.scopes, ∀ binding ∈ scope, binding.2.Unclosed
  site : (Value.site ctx.site).Unclosed
  page : ∀ p ∈ ctx.page, (Value.page p).Unclosed

instance instHasTextsContext : HasTexts Context := ⟨Context.Unclosed⟩

section

variable {ctx : Context} [h : IsUnclosed ctx]

instance instIsUnclosedContextSite : IsUnclosed ctx.site := ⟨h.holds.site⟩

instance instIsUnclosedContextPage : IsUnclosed ctx.page := ⟨h.holds.page⟩

end

/-! The closed surface. -/

def Accessor.Seals [HasTexts α] (accessor : Accessor α) : Prop :=
  ∀ (x : Clear α) (ctx : Clear Context), GivesUnclosed (accessor x.val ctx.val)

def MethodTable.Seals [HasTexts α] (table : MethodTable α) : Prop :=
  ∀ entry ∈ table, Accessor.Seals entry.2

namespace MethodTable.Seals

variable [HasTexts α] {table : MethodTable α}

theorem withAliases (h : table.Seals) (aliases : List (String × String)) :
    (table.withAliases aliases).Seals :=
  forall_withAliases h aliases

theorem find? (h : table.Seals) {name : Text} {x : α} [hx : IsUnclosed x]
    {accessor : Context → Except Fault Value}
    (hfind : (table.find? name).map (· x) = some accessor) (ctx : Clear Context) :
    GivesUnclosed (accessor ctx.val) := by
  obtain ⟨f, hf, rfl⟩ := Option.map_eq_some_iff.mp hfind
  exact of_find? h hf ⟨x, hx.holds⟩ ctx

end MethodTable.Seals

instance instHasTextsWritten : HasTexts Moment := ⟨fun _ => True⟩

instance instIsUnclosedAnyMoment (m : Moment) : IsUnclosed m := ⟨trivial⟩

namespace Accessor

instance instGivesUnclosedLabels (labelsOf : Page → Value) {s : Site} [IsUnclosed s]
    [∀ p : Clear Page, IsUnclosed (labelsOf p.val)] : GivesUnclosed (labels labelsOf s) := by
  unfold labels
  infer_instance

section

variable [HasTexts α] {x : α} {ctx : Context}

instance instGivesUnclosedText (f : α → Text) [IsUnclosed (f x)] :
    GivesUnclosed (text f x ctx) := by
  unfold text
  infer_instance

instance instGivesUnclosedField (f : α → Value) [IsUnclosed (f x)] :
    GivesUnclosed (field f x ctx) := by
  unfold field
  infer_instance

instance instGivesUnclosedFlag (f : α → Bool) : GivesUnclosed (flag f x ctx) := by
  unfold flag
  infer_instance

instance instIsUnclosedOptional (p : Option Page) [IsUnclosed p] : IsUnclosed (optional p) := by
  unfold optional
  infer_instance

instance instIsUnclosedItems (v : Value) [IsUnclosed v] : IsUnclosed (items v) := by
  unfold items
  infer_instance

end

theorem writtenUnclosed_text {t : Text} (h : IsUnclosed t) : (Value.text t).WrittenUnclosed := by
  intro s hs
  cases hs
  exact h.text

instance instIsUnclosedGroups {groups : List (Text × List Value)} [h : IsUnclosed groups] :
    IsUnclosed (Value.map (groups.map fun (name, items) => (.text name, .list items))) := by
  have hparts : ∀ group ∈ groups, IsUnclosed group.1 ∧ IsUnclosed group.2 := fun group hgroup =>
    ⟨(h.of_mem hgroup).fst, (h.of_mem hgroup).snd⟩
  refine .map (.of_forall fun entry hentry => ?_) fun entry hentry => ?_
  · obtain ⟨group, hgroup, rfl⟩ := List.mem_map.mp hentry
    obtain ⟨hname, hitems⟩ := hparts group hgroup
    exact inferInstanceAs (IsUnclosed (Value.text group.1, Value.list group.2))
  · obtain ⟨group, hgroup, rfl⟩ := List.mem_map.mp hentry
    exact writtenUnclosed_text (hparts group hgroup).1

theorem seals_tables :
    site.Seals ∧ page.Seals ∧ menuEntry.Seals ∧ crumb.Seals ∧ sectionNav.Seals ∧ build.Seals ∧
      moment.Seals ∧ sequence.Seals := by
  have hgenerator : IsUnclosed ("Glyph ".toList ++ version) := .of_text (by decide)
  have hweekday : IsUnclosed "%A".toList := .of_text (by decide)
  have hmonth : IsUnclosed "%B".toList := .of_text (by decide)
  have hwritten : IsUnclosed "%B %d, %Y".toList := .of_text (by decide)
  refine ⟨.withAliases ?_ _, .withAliases ?_ _, .withAliases ?_ _, .withAliases ?_ _,
    .withAliases ?_ _, .withAliases ?_ _, .withAliases ?_ _, .withAliases ?_ _⟩
  all_goals
    repeat
      refine List.forall_mem_cons.mpr ⟨fun _ _ => by
        first
        | infer_instance
        | dsimp only; split <;> infer_instance, ?_⟩
    exact List.forall_mem_nil _

theorem seals_collection : collection.Seals := by
  obtain ⟨-, -, -, -, -, -, -, hsequence⟩ := seals_tables
  refine List.forall_mem_append.mpr ⟨hsequence, ?_⟩
  repeat refine List.forall_mem_cons.mpr ⟨fun _ _ => by infer_instance, ?_⟩
  exact List.forall_mem_nil _

theorem givesUnclosed_of_find? {v : Value} [h : IsUnclosed v] {method : Text}
    {accessor : Context → Except Fault Value} (hfind : find? v method = some accessor)
    (ctx : Clear Context) : GivesUnclosed (accessor ctx.val) := by
  obtain ⟨hsite, hpage, hmenu, hcrumb, hnav, hbuild, hmoment, hsequence⟩ := seals_tables
  have hdate : IsUnclosed 'T' := .of_char (by decide)
  cases v with
  | site s =>
      have hs : IsUnclosed s := ⟨h.holds⟩
      exact hsite.find? hfind ctx
  | page p =>
      have hp : IsUnclosed p := ⟨h.holds⟩
      exact hpage.find? hfind ctx
  | menuEntry e =>
      have he : IsUnclosed e := ⟨h.holds⟩
      exact hmenu.find? hfind ctx
  | crumb c =>
      have hc : IsUnclosed c := ⟨h.holds⟩
      exact hcrumb.find? hfind ctx
  | sectionNav n =>
      have hn : IsUnclosed n := ⟨h.holds⟩
      exact hnav.find? hfind ctx
  | build b =>
      have hb : IsUnclosed b := ⟨h.holds⟩
      exact hbuild.find? hfind ctx
  | pages items => exact seals_collection.find? hfind ctx
  | moment m => exact hmoment.find? hfind ctx
  | date d => exact hmoment.find? hfind ctx
  | list items => exact hsequence.find? hfind ctx
  | _ => cases hfind

end Accessor

/-! Names. -/

namespace Context

instance instGivesUnclosedOfPage {page : Option Page} [hpage : IsUnclosed page]
    (field : Page → Except Fault Value) {default : Value} [IsUnclosed default]
    [hfield : ∀ p : Clear Page, GivesUnclosed (field p.val)] :
    GivesUnclosed (ofPage page field default) := by
  unfold ofPage
  split
  · next p => exact hfield ⟨p, (hpage.of_mem_option rfl).holds⟩
  · infer_instance

section

variable {s : Site} [IsUnclosed s]

/-- Tags are keys of pages, and so of the cloud. -/
instance instGivesUnclosedTagCloud : GivesUnclosed (tagCloud s) := by
  unfold tagCloud
  refine .bind fun singles hsingles => .bind fun tags htags => ?_
  have hpages : IsUnclosed singles := GivesUnclosed.of_eq_ok singles hsingles
  have hclear : IsUnclosed tags := GivesUnclosed.of_eq_ok tags htags
  have hwritten : ∀ tag ∈ tags.flatten, tag.WrittenUnclosed := by
    intro tag htag
    obtain ⟨of, hof, hmem⟩ := List.mem_flatten.mp htag
    refine forall_of_mapM_eq_ok (p := fun of => ∀ tag ∈ of, tag.WrittenUnclosed) htags ?_ of hof
      tag hmem
    intro v hv of hkeys
    obtain ⟨p, hp, hkeys⟩ := bind_eq_ok.mp hkeys
    have hvalue : IsUnclosed v := hpages.of_mem hv
    have hpage : IsUnclosed p := GivesUnclosed.of_eq_ok p hp
    exact hpage.written_of_tags hkeys
  dsimp only
  refine .bind fun counted hcounted => ?_
  have hcloud : IsUnclosed counted := GivesUnclosed.of_eq_ok counted hcounted
  have hmap : IsUnclosed (Value.map counted) := by
    refine hcloud.map fun entry hentry => ?_
    have hmem := (perm_of_sortByKey hcounted).mem_iff.mp hentry
    rw [List.map_map] at hmem
    obtain ⟨tag, htag, rfl⟩ := List.mem_map.mp hmem
    exact hwritten tag (Value.distinct_subset _ htag)
  infer_instance

instance instGivesUnclosedYearOf (v : Value) : GivesUnclosed (yearOf v) := by
  unfold yearOf
  split <;> infer_instance

instance instGivesUnclosedAddToYear {archive : List (Text × List Value)} [IsUnclosed archive]
    {v : Value} [IsUnclosed v] : GivesUnclosed (addToYear archive v) := by
  unfold addToYear
  refine .bind fun page _ => ?_
  split
  · infer_instance
  · refine .bind fun year hyear => ?_
    have hname : IsUnclosed year := GivesUnclosed.of_eq_ok year hyear
    split
    · have hplaced : IsUnclosed
          (archive.map fun (y, vs) => if y == year then (y, vs ++ [v]) else (y, vs)) := by
        refine .of_forall fun entry hentry => ?_
        obtain ⟨⟨y, vs⟩, hmem, rfl⟩ := List.mem_map.mp hentry
        have hy : IsUnclosed y := (IsUnclosed.of_mem inferInstance hmem).fst
        have hvs : IsUnclosed vs := (IsUnclosed.of_mem inferInstance hmem).snd
        dsimp only
        infer_instance
      exact instGivesUnclosedOk
    · infer_instance

instance instGivesUnclosedArchiveByYear : GivesUnclosed (archiveByYear s) := by
  unfold archiveByYear
  infer_instance

end

theorem givesUnclosed_roots :
    ∀ root ∈ roots, ∀ ctx : Clear Context, GivesUnclosed (root.2 ctx.val) := by
  have hslash : IsUnclosed '/' := .of_char (by decide)
  unfold roots
  repeat
    refine List.forall_mem_cons.mpr ⟨fun ctx => by
      first
      | infer_instance
      | dsimp only
        split
        · next p hp =>
            have hpage : IsUnclosed p := .of_mem_option inferInstance hp
            infer_instance
        · infer_instance, ?_⟩
  exact List.forall_mem_nil _

section

variable {ctx : Context} [hctx : IsUnclosed ctx] {name : Text} {x : Except Fault Value}

theorem givesUnclosed_of_root? (h : ctx.root? name = some x) : GivesUnclosed x := by
  obtain ⟨root, hroot, rfl⟩ := Option.map_eq_some_iff.mp h
  exact givesUnclosed_roots root (List.mem_of_find?_eq_some hroot) ⟨ctx, hctx.holds⟩

theorem givesUnclosed_of_get? (h : ctx.get? name = some x) : GivesUnclosed x := by
  unfold get? at h
  split at h
  · next v hv =>
      cases h
      obtain ⟨scope, hscope, hlookup⟩ := List.exists_of_findSome?_eq_some hv
      obtain ⟨before, behind, rfl, -⟩ := List.lookup_eq_some_iff.mp hlookup
      have hvalue : IsUnclosed v := ⟨hctx.holds.scopes _ hscope (name, v) (by simp)⟩
      infer_instance
  · exact givesUnclosed_of_root? h

theorem givesUnclosed_of_lookup? (h : ctx.lookup? name = some x) : GivesUnclosed x := by
  unfold lookup? at h
  split at h
  · next value hvalue =>
      cases h
      exact givesUnclosed_of_get? hvalue
  · split at h
    · split at h
      · cases h
      · exact givesUnclosed_of_get? h
    · cases h

instance instGivesUnclosedLookup (name : Text) : GivesUnclosed (ctx.lookup name) := by
  unfold lookup
  cases hname : ctx.lookup? name with
  | some x => exact givesUnclosed_of_lookup? hname
  | none => exact inferInstanceAs (GivesUnclosed (.ok Value.nil))

theorem givesUnclosed_of_query? {query : Option Value → Except Fault Value}
    (h : ctx.query? name = some query) (arg : Option Value) : GivesUnclosed (query arg) := by
  unfold query? at h
  dsimp only at h
  split at h
  · cases h
    refine .bind fun count _ => ?_
    infer_instance
  · split at h
    · cases h
      dsimp only
      split
      · infer_instance
      · next p hp =>
          have hpage : IsUnclosed p := .of_mem_option inferInstance hp
          refine .bind fun count _ => ?_
          infer_instance
    · split at h
      · cases h
        refine .bind fun pages hpages => .bind fun name _ => ?_
        have hclear : IsUnclosed pages := GivesUnclosed.of_eq_ok pages hpages
        infer_instance
      · split at h
        · cases h
          refine .bind fun pages hpages => .bind fun name _ => ?_
          have hclear : IsUnclosed pages := GivesUnclosed.of_eq_ok pages hpages
          infer_instance
        · cases h

end

end Context

/-! Evaluations with notes. -/

namespace Eval

/-- An evaluation that gives no closing brace, whatever notes were taken before. -/
class Seals [HasTexts α] (x : Eval α) : Prop where
  of_run : ∀ log, GivesUnclosed ((ExceptT.run x).run log).1

section

variable {α β : Type} [HasTexts α] [HasTexts β] {x : Eval α} {f : α → Eval β}

instance instGivesUnclosedResult [hx : Seals x] : GivesUnclosed x.result := hx.of_run []

instance instSealsPure {a : α} [IsUnclosed a] : Seals (pure a : Eval α) :=
  ⟨fun _ => inferInstanceAs (GivesUnclosed (.ok a))⟩

instance instSealsThrow (e : Fault) : Seals (throw e : Eval α) :=
  ⟨fun _ => inferInstanceAs (GivesUnclosed (.error e))⟩

instance instSealsOfExcept (r : Except Fault α) [hr : GivesUnclosed r] : Seals (ofExcept r) :=
  ⟨fun _ => hr⟩

instance instSealsNote (level : Level) (source : String) (message : Text) :
    Seals (note level source message) :=
  ⟨fun _ => ⟨fun _ _ => ⟨trivial⟩⟩⟩

theorem Seals.bind [hx : Seals x] (hf : ∀ a, IsUnclosed a → Seals (f a)) : Seals (x >>= f) := by
  refine ⟨fun log => ?_⟩
  have hvalue := hx.of_run log
  rw [run_bind]
  rcases h : (ExceptT.run x).run log with ⟨e | a, notes⟩
  · exact inferInstanceAs (GivesUnclosed (.error e))
  · exact (hf a (hvalue.of_eq_ok a (congrArg Prod.fst h))).of_run notes

instance instSealsBind [Seals x] [hf : ∀ a : Clear α, Seals (f a.val)] : Seals (x >>= f) :=
  .bind fun a ha => hf ⟨a, ha.holds⟩

instance instSealsIte {c : Prop} [Decidable c] {y : Eval α} [Seals x] [Seals y] :
    Seals (if c then x else y) := by
  split <;> infer_instance

theorem seals_mapM {κ : Type} {items : List κ} {g : κ → Eval α} (h : ∀ a ∈ items, Seals (g a)) :
    Seals (items.mapM g) := by
  induction items with
  | nil =>
      rw [List.mapM_nil]
      infer_instance
  | cons a items ih =>
      obtain ⟨ha, hitems⟩ := List.forall_mem_cons.mp h
      have hrest := ih hitems
      rw [List.mapM_cons]
      infer_instance

end

end Eval

def Registry.without (r : Registry α) (names : List Text) : Registry α :=
  { r with entries := r.entries.filter fun entry => !names.elem entry.1 }

theorem Registry.mem_of_get?_without {r : Registry α} {names : List Text} {name : Text} {a : α}
    (h : (r.without names).get? name = some a) : (name, a) ∈ r.entries ∧ name ∉ names := by
  obtain ⟨hentry, hname⟩ := List.mem_filter.mp (mem_of_get? h)
  exact ⟨hentry, by simpa using hname⟩

namespace Template

/-- Functions and filters that make no closing brace. -/
class Toolbox.Sealed (tools : Toolbox) : Prop where
  functions : ∀ {name : Text} {f : Function}, tools.functions.get? name = some f →
    ∀ (now : Moment) (args : List Value) (v : Value), (∀ a ∈ args, a.Unclosed) →
      f.run now args = .ok v → v.Unclosed
  filters : ∀ {name : Text} {f : Filter}, tools.filters.get? name = some f →
    ∀ (args : List Value) (v w : Value), (∀ a ∈ args, a.Unclosed) → v.Unclosed →
      f.run args v = .ok w → w.Unclosed

/-- The standard tools but for those that read character references or encoded bytes. -/
def Toolbox.literal : Toolbox :=
  ⟨Function.standard.without Function.decoding, Filter.standard.without Filter.decoding⟩

instance instSealedLiteral : Toolbox.literal.Sealed where
  functions {name f} hf now args v hargs hv := by
    obtain ⟨hentry, hname⟩ := Registry.mem_of_get?_without hf
    have hseals := Function.seals_standard (name, f) hentry hname
    exact ((hseals.run now ⟨args, hargs⟩).of_eq_ok v hv).holds
  filters {name f} hf args v w hargs hv hw := by
    obtain ⟨hentry, hname⟩ := Registry.mem_of_get?_without hf
    have hseals := Filter.seals_standard (name, f) hentry hname
    exact ((hseals.run ⟨args, hargs⟩ ⟨v, hv⟩).of_eq_ok w hw).holds

/-- A brace that stands encoded in an argument comes out of the standard tools as it is. -/
theorem not_sealed_standard : ¬Toolbox.standard.Sealed := by
  intro h
  have hdecode : Toolbox.standard.functions.get? "url_decode".toList =
      some (Function.mapText Url.decode) := rfl
  have hvalue := h.functions hdecode Moment.epoch [.text "%7D".toList] (.text ['}'])
    (List.forall_mem_singleton.mpr (.text _ (by decide))) rfl
  cases hvalue with
  | text _ hs => exact hs '}' List.mem_cons_self rfl

section

variable {tools : Toolbox} [htools : tools.Sealed] {ctx : Context} [hctx : IsUnclosed ctx]

/-! Names and calls. -/

instance instSealsCallFunction (name : Text) {args : List Value} [hargs : IsUnclosed args] :
    Eval.Seals (callFunction tools ctx name args) := by
  have hcall : GivesUnclosed (Function.call tools.functions ctx.now name args) := by
    unfold Function.call
    split
    · infer_instance
    · next f hf =>
        split
        · infer_instance
        · exact ⟨fun v hv => ⟨htools.functions hf ctx.now args v hargs.holds hv⟩⟩
  unfold callFunction
  split
  · next v hv =>
      have hvalue : IsUnclosed v := hcall.of_eq_ok v hv
      infer_instance
  · split <;> infer_instance

instance instSealsApplyName (name : Text) (args : Eval (List Value)) [Eval.Seals args] :
    Eval.Seals (applyName tools ctx name args) := by
  unfold applyName
  split
  · infer_instance
  · split
    · next query hquery =>
        have hanswer := Context.givesUnclosed_of_query? hquery
        refine .bind fun vs _ => ?_
        split <;> infer_instance
    · infer_instance

instance instSealsResolveRoot (name : Text) : Eval.Seals (resolveRoot tools ctx name) := by
  unfold resolveRoot
  infer_instance

instance instSealsStep {v : Value} [hv : IsUnclosed v] (method : Text) :
    Eval.Seals (step ctx v method) := by
  unfold step
  split
  · next entries =>
      have hentries := hv.of_map.1
      have hfound : IsUnclosed (Value.find? (.text method) entries) :=
        ⟨fun w hw => (Value.unclosed_of_find? hentries hw).holds⟩
      infer_instance
  · split
    · next accessor haccessor =>
        have hanswer : GivesUnclosed (accessor ctx) :=
          Accessor.givesUnclosed_of_find? haccessor ⟨ctx, hctx.holds⟩
        infer_instance
    · infer_instance

instance instSealsFollow {v : Value} [hv : IsUnclosed v] (methods : List Text) :
    Eval.Seals (follow ctx v methods) := by
  induction methods generalizing v with
  | nil =>
      rw [follow]
      infer_instance
  | cons method methods ih =>
      have hrest : ∀ w, IsUnclosed w → Eval.Seals (follow ctx w methods) := fun w hw => @ih w hw
      unfold follow
      split
      · infer_instance
      · infer_instance
      · next heq =>
          cases heq
          exact .bind hrest

instance instSealsResolvePath (path : Text) : Eval.Seals (resolvePath tools ctx path) := by
  unfold resolvePath
  split
  · infer_instance
  · infer_instance
  · split <;> infer_instance

/-! Expressions. -/

theorem unclosed_of_unquote {s inner : Text} (hs : s.Unclosed) (h : unquote s = some inner) :
    inner.Unclosed := by
  unfold unquote at h
  split at h
  · next q rest =>
      obtain ⟨_, heq⟩ := Option.ite_none_right_eq_some.mp h
      cases heq
      exact hs.of_sublist ((List.dropLast_sublist rest).trans (List.sublist_cons_self q rest))
  · cases h

theorem givesUnclosed_parseLiteral {s : Text} (hs : s.Unclosed) :
    GivesUnclosed (parseLiteral s) := by
  unfold parseLiteral
  split
  · next inner hinner =>
      have hinside : IsUnclosed inner := .of_text (unclosed_of_unquote hs hinner)
      infer_instance
  · split
    · infer_instance
    · split
      · infer_instance
      · split
        · split <;> infer_instance
        · infer_instance

theorem seals_literalOr {s : Text} (hs : s.Unclosed) {x : Eval Value} (hx : Eval.Seals x) :
    Eval.Seals (literalOr s x) := by
  have hliteral := givesUnclosed_parseLiteral hs
  unfold literalOr
  refine .bind fun v? hv? => ?_
  split
  · next v =>
      have hv : IsUnclosed v := hv?.of_mem_option rfl
      infer_instance
  · exact hx

theorem seals_call (name : Text) {raw : Text} (hraw : raw.Unclosed)
    (h : ∀ a ∈ splitArguments raw, Eval.Seals (evaluate tools ctx a)) :
    Eval.Seals (call tools ctx name raw) := by
  have hargs : Eval.Seals ((splitArguments raw).mapM fun a => do
      Eval.ofExcept (← resolveArgument tools ctx a).coerce) := by
    refine Eval.seals_mapM fun a ha => ?_
    have hunclosed := hraw.of_sublist (infix_of_mem_splitArguments ha).sublist
    have hvalue : Eval.Seals (resolveArgument tools ctx a) := seals_literalOr hunclosed (h a ha)
    infer_instance
  unfold call
  infer_instance

theorem seals_evaluate {s : Text} (hs : s.Unclosed) : Eval.Seals (evaluate tools ctx s) := by
  induction hlength : s.length using Nat.strongRecOn generalizing s with
  | ind n ih =>
      have htrimmed := hs.of_sublist (trim_isInfix s).sublist
      rw [evaluate_eq]
      split
      · infer_instance
      · refine seals_literalOr htrimmed ?_
        split
        · next name raw hparse =>
            have hraw := htrimmed.of_sublist (infix_of_parseCall hparse).sublist
            refine seals_call name hraw fun a ha => ?_
            have hcall := length_parseCall_lt hparse
            have htrim := length_trim_le s
            have hmem := length_le_of_mem_splitArguments ha
            exact ih a.length (by omega) (hraw.of_sublist (infix_of_mem_splitArguments ha).sublist)
              rfl
        · infer_instance

theorem seals_resolveArgument {raw : Text} (hraw : raw.Unclosed) :
    Eval.Seals (resolveArgument tools ctx raw) :=
  seals_literalOr hraw (seals_evaluate hraw)

/-! Filters. -/

theorem seals_applyFilters {directives : List Text} (h : ∀ d ∈ directives, Text.Unclosed d)
    {v : Value} (hv : IsUnclosed v) :
    Eval.Seals (applyFilters tools.filters (resolveArgument tools ctx) directives v) := by
  induction directives generalizing v with
  | nil =>
      rw [applyFilters]
      infer_instance
  | cons directive rest ih =>
      obtain ⟨hdirective, hrest⟩ := List.forall_mem_cons.mp h
      have hargs : Eval.Seals ((readDirective directive).2.mapM (resolveArgument tools ctx)) := by
        refine Eval.seals_mapM fun raw hraw => seals_resolveArgument ?_
        unfold readDirective at hraw
        split at hraw
        · next name inside hparse =>
            exact hdirective.of_sublist ((infix_of_mem_splitArguments hraw).trans
              (infix_of_parseCall hparse)).sublist
        · cases hraw
      rw [applyFilters_cons]
      refine .bind fun args hargs => ?_
      have hread := ih hrest hv
      unfold applyRead
      split
      · infer_instance
      · next f hf =>
          split
          · infer_instance
          · have hrun : GivesUnclosed (f.run args v) :=
              ⟨fun w hw => ⟨htools.filters hf args v w hargs.holds hv.holds hw⟩⟩
            exact .bind fun w hw => ih hrest hw

theorem seals_substitution {inside : Text} (hinside : inside.Unclosed) :
    Eval.Seals (substitution tools ctx inside) := by
  obtain ⟨hexpression, hfilters⟩ := infix_splitPipeline inside
  unfold substitution
  generalize splitPipeline inside = pipeline at hexpression hfilters
  obtain ⟨expression, filters⟩ := pipeline
  have hvalue : Eval.Seals (evaluate tools ctx expression) :=
    seals_evaluate (hinside.of_sublist hexpression.sublist)
  refine .bind fun v hv => ?_
  have hfiltered : Eval.Seals (applyFilters tools.filters (resolveArgument tools ctx) filters v) :=
    seals_applyFilters (fun d hd => hinside.of_sublist (hfilters d hd).sublist) hv
  infer_instance

end

end Template

end Stencil
