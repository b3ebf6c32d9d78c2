import Stencil.Proofs.Eval.Result
import Stencil.Proofs.Render.Cleanup
import Stencil.Proofs.Render.Marks

namespace Stencil

open Text

/-! Patterns whose matches are replaced by fewer of their characters. In a row, those that leave a text
as it is find nothing in it. -/

namespace Scanner

/-- What is put in the place of a match is made of fewer of its characters, in their order. -/
def Deletes (scan : Scanner Text) : Prop :=
  ∀ s value rest : Text, scan s = some (value, rest) →
    ∃ read : Text, s = read ++ rest ∧ value.Sublist read ∧ value.length < read.length

namespace Deletes

variable {scan : Scanner Text}

theorem replace_sublist (hscan : scan.Deletes) (s : Text) : (scan.replace s).Sublist s := by
  refine replace_induct (P := fun s t => t.Sublist s) (fun s _ => .refl s) ?_ s
  intro before t value after hread hafter
  obtain ⟨read, rfl, hvalue, -⟩ := hscan t value after hread
  exact (List.Sublist.refl before).append (hvalue.append hafter)

theorem length_replace_lt (hscan : scan.Deletes) {s : Text} {c : Cut Text}
    (h : scan.cut? s = some c) : (scan.replace s).length < s.length := by
  obtain ⟨t, ht, hread⟩ := eq_append_of_cut? h
  obtain ⟨read, rfl, -, hvalue⟩ := hscan _ _ _ hread
  have hafter := (hscan.replace_sublist c.after).length_le
  rw [replace_eq_of_cut? h, ht]
  simp only [List.length_append]
  omega

theorem cut?_eq_none_of_replace (hscan : scan.Deletes) {s : Text} (h : scan.replace s = s) :
    scan.cut? s = none := by
  cases hcut : scan.cut? s with
  | none => rfl
  | some c =>
      have hlt := hscan.length_replace_lt hcut
      rw [h] at hlt
      exact absurd hlt (Nat.lt_irrefl _)

end Deletes

def rewrite (scans : List (Scanner Text)) (s : Text) : Text :=
  scans.foldl (fun s scan => scan.replace s) s

theorem rewrite_sublist {scans : List (Scanner Text)} (hscans : ∀ scan ∈ scans, scan.Deletes)
    (s : Text) : (rewrite scans s).Sublist s := by
  induction scans generalizing s with
  | nil => exact .refl s
  | cons scan scans ih =>
      obtain ⟨hscan, hrest⟩ := List.forall_mem_cons.mp hscans
      exact (ih hrest (scan.replace s)).trans (hscan.replace_sublist s)

theorem rewrite_of_cut? {scans : List (Scanner Text)} {s : Text}
    (h : ∀ scan ∈ scans, scan.cut? s = none) : rewrite scans s = s := by
  induction scans with
  | nil => rfl
  | cons scan scans ih =>
      obtain ⟨hscan, hrest⟩ := List.forall_mem_cons.mp h
      rw [rewrite, List.foldl_cons, replace_of_none hscan]
      exact ih hrest

theorem cut?_eq_none_of_rewrite {scans : List (Scanner Text)}
    (hscans : ∀ scan ∈ scans, scan.Deletes) {s : Text} (h : rewrite scans s = s) :
    ∀ scan ∈ scans, scan.cut? s = none := by
  induction scans with
  | nil => exact fun _ hmem => nomatch hmem
  | cons scan scans ih =>
      obtain ⟨hscan, hrest⟩ := List.forall_mem_cons.mp hscans
      have hback : rewrite scans (scan.replace s) = s := h
      have hfirst : scan.replace s = s := by
        -- What the first pattern deleted would still be missing at the end.
        have hsub := rewrite_sublist hrest (scan.replace s)
        rw [hback] at hsub
        exact (hscan.replace_sublist s).eq_of_length_le hsub.length_le
      rw [hfirst] at hback
      exact List.forall_mem_cons.mpr ⟨hscan.cut?_eq_none_of_replace hfirst, ih hrest hback⟩

theorem not_lt_of_cut?_eq_none {scan : Scanner α} {s t rest : Text} {value : α}
    (h : scan.cut? s = none) (ht : t <:+ s) (hread : scan t = some (value, rest)) :
    ¬rest.length < t.length := by
  intro hlt
  obtain ⟨u, rfl⟩ := ht
  obtain ⟨c, hc, _⟩ := exists_cut?_of_read hread hlt u
  rw [h] at hc
  cases hc

end Scanner

namespace Template

/-! Wherever a stage reads something, the cleanup reads what is left of a directive. -/

/-- Reading on from `s` to `t` passes no closing brace. -/
def Passes (s t : Text) : Prop := ∃ before : Text, before.Unclosed ∧ s = before ++ t

namespace Passes

variable {s t u word : Text}

theorem trans (hst : Passes s t) (htu : Passes t u) : Passes s u := by
  obtain ⟨first, hfirst, rfl⟩ := hst
  obtain ⟨second, hsecond, rfl⟩ := htu
  refine ⟨first ++ second, ?_, (List.append_assoc ..).symm⟩
  exact List.forall_mem_append.mpr ⟨hfirst, hsecond⟩

theorem dropWhile {p : Char → Bool} (hp : p '}' = false) (s : Text) :
    Passes s (s.dropWhile p) := by
  refine ⟨s.takeWhile p, ?_, List.takeWhile_append_dropWhile.symm⟩
  rintro c hmem rfl
  have htrue := List.all_eq_true.mp List.all_takeWhile _ hmem
  rw [hp] at htrue
  cases htrue

theorem trimLeft (s : Text) : Passes s (trimLeft s) := dropWhile rfl s

theorem dropStart? (hword : word.Unclosed) (h : dropStart? word s = some t) : Passes s t :=
  ⟨word, hword, eq_append_of_dropStart? h⟩

theorem blanks? (h : blanks? s = some t) : Passes s t := by
  unfold Template.blanks? at h
  split at h
  · split at h
    · cases h
      exact trimLeft _
    · cases h
  · cases h

theorem dropWhile_eq (h : Passes s t) : s.dropWhile (· != '}') = t.dropWhile (· != '}') := by
  obtain ⟨before, hbefore, rfl⟩ := h
  refine List.dropWhile_append_of_pos ?_
  intro c hmem
  simpa using hbefore c hmem

end Passes

theorem eq_mark_of_strayDirective {s rest : Text} (h : strayDirective s = some ((), rest)) :
    ∃ inside : Text, inside.Unclosed ∧ s = mark inside ++ rest := by
  obtain ⟨v, hopen, h⟩ := Option.bind_eq_some_iff.mp h
  obtain ⟨behind, hclose, heq⟩ := Option.bind_eq_some_iff.mp h
  cases heq
  obtain ⟨inside, hinside, hv⟩ := Passes.dropWhile (p := (· != '}')) (by decide) v
  refine ⟨inside, hinside, ?_⟩
  rw [mark_append, eq_append_of_dropStart? hopen, hv, eq_append_of_dropStart? hclose]
  rfl

/-- A pattern that reads whole what the cleanup takes for a directive. -/
def Stray (scan : Scanner α) : Prop :=
  ∀ (s : Text) (value : α) (rest : Text), scan s = some (value, rest) →
    strayDirective s = some ((), rest)

namespace Stray

theorem of_passes {s v t rest : Text} (hopen : openMark? s = some v) (hpass : Passes v t)
    (hclose : closeMark? (t.dropWhile (· != '}')) = some rest) :
    strayDirective s = some ((), rest) := by
  simp only [strayDirective, hopen, bind, Option.bind_some, hpass.dropWhile_eq, hclose]

theorem openMark?_of_openWord? {word s t : Text} (hword : word.Unclosed)
    (h : openWord? word s = some t) : ∃ v, openMark? s = some v ∧ Passes v t := by
  obtain ⟨v, hopen, hdrop⟩ := Option.bind_eq_some_iff.mp h
  exact ⟨v, hopen, (Passes.trimLeft v).trans (.dropStart? hword hdrop)⟩

theorem closeMark?_of_inside? {least : Nat} {s value rest : Text}
    (h : inside? least s = some (value, rest)) :
    closeMark? (s.dropWhile (· != '}')) = some rest := by
  simp only [inside?, bind, Option.bind_eq_some_iff, Option.some.injEq, Prod.mk.injEq] at h
  obtain ⟨_, hclose, _, _, _, rfl⟩ := h
  exact hclose

theorem openMark?_of_forHead? {s y name : Text} (h : forHead? s = some (name, y)) :
    ∃ v, openMark? s = some v ∧ Passes v y := by
  obtain ⟨w, hword, h⟩ := Option.bind_eq_some_iff.mp h
  obtain ⟨x, hblanks, h⟩ := Option.bind_eq_some_iff.mp h
  obtain ⟨z, hblanks', h⟩ := Option.bind_eq_some_iff.mp h
  obtain ⟨y', hin, hname⟩ := Option.bind_eq_some_iff.mp h
  obtain ⟨v, hopen, hpass⟩ := openMark?_of_openWord? (by decide) hword
  split at hname
  · cases hname
  · cases hname
    refine ⟨v, hopen, ?_⟩
    apply hpass.trans
    apply (Passes.blanks? hblanks).trans
    apply (Passes.dropWhile (p := isWord) (by decide) x).trans
    apply (Passes.blanks? hblanks').trans
    exact Passes.dropStart? (by decide) hin

theorem directive : Stray directive := by
  intro s value rest h
  obtain ⟨v, hopen, hinside⟩ := Option.bind_eq_some_iff.mp h
  exact of_passes hopen ⟨[], by decide, rfl⟩ (closeMark?_of_inside? hinside)

theorem operand {word : Text} (hword : word.Unclosed) : Stray (operand word) := by
  intro s value rest h
  obtain ⟨t, hopen, hinside⟩ := Option.bind_eq_some_iff.mp h
  obtain ⟨v, hopen, hpass⟩ := openMark?_of_openWord? hword hopen
  exact of_passes hopen hpass (closeMark?_of_inside? hinside)

theorem forOpener : Stray forOpener := by
  intro s value rest h
  obtain ⟨⟨name, y⟩, hhead, h⟩ := Option.bind_eq_some_iff.mp h
  obtain ⟨⟨source, behind⟩, hinside, heq⟩ := Option.bind_eq_some_iff.mp h
  cases heq
  obtain ⟨v, hopen, hpass⟩ := openMark?_of_forHead? hhead
  exact of_passes hopen hpass (closeMark?_of_inside? hinside)

theorem self : Stray strayDirective := fun _ _ _ h => h

theorem tag {word : Text} (hword : word.Unclosed) : Stray (tag word) := by
  intro s value rest h
  obtain ⟨t, hopen, h⟩ := Option.bind_eq_some_iff.mp h
  obtain ⟨behind, hclose, heq⟩ := Option.bind_eq_some_iff.mp h
  cases heq
  obtain ⟨v, hopen, hpass⟩ := openMark?_of_openWord? hword hopen
  refine of_passes hopen (hpass.trans (Passes.trimLeft t)) ?_
  have hhead := eq_append_of_dropStart? hclose
  rw [hhead] at hclose ⊢
  exact hclose

theorem strayOperand {word : Text} (hword : word.Unclosed) : Stray (strayOperand word) := by
  intro s value rest h
  obtain ⟨t, hopen, h⟩ := Option.bind_eq_some_iff.mp h
  obtain ⟨y, hblanks, h⟩ := Option.bind_eq_some_iff.mp h
  obtain ⟨behind, hclose, heq⟩ := Option.bind_eq_some_iff.mp h
  cases heq
  obtain ⟨v, hopen, hpass⟩ := openMark?_of_openWord? hword hopen
  exact of_passes hopen (hpass.trans (.blanks? hblanks)) hclose

theorem strayFor : Stray strayFor := by
  intro s value rest h
  obtain ⟨⟨name, y⟩, hhead, h⟩ := Option.bind_eq_some_iff.mp h
  obtain ⟨z, hblanks, h⟩ := Option.bind_eq_some_iff.mp h
  obtain ⟨behind, hclose, heq⟩ := Option.bind_eq_some_iff.mp h
  cases heq
  obtain ⟨v, hopen, hpass⟩ := openMark?_of_forHead? hhead
  exact of_passes hopen (hpass.trans (.blanks? hblanks)) hclose

theorem strayOpener : Stray strayOpener := by
  intro s value rest h
  obtain ⟨word, hmem, h⟩ := List.exists_of_findSome?_eq_some h
  obtain ⟨t, hword, h⟩ := Option.bind_eq_some_iff.mp h
  split at h
  · cases h
  · obtain ⟨behind, hclose, heq⟩ := Option.bind_eq_some_iff.mp h
    cases heq
    have hunclosed : ∀ word ∈ ["if", "for", "range", "block"],
        Text.Unclosed word.toList := by decide
    obtain ⟨v, hopen, hpass⟩ := openMark?_of_openWord? (hunclosed word hmem) hword
    exact of_passes hopen hpass hclose

theorem map {scan : Scanner α} (h : Stray scan) (f : α → β) : Stray (scan.map f) := by
  intro s value rest hread
  obtain ⟨⟨first, behind⟩, hfirst, heq⟩ := Option.map_eq_some_iff.mp hread
  cases heq
  exact h s first rest hfirst

theorem loopHead : Stray loopHead := by
  intro s value rest h
  unfold Template.loopHead at h
  cases hfor : forHead s with
  | some found =>
      rw [hfor] at h
      cases h
      obtain ⟨⟨⟨name, source⟩, behind⟩, hopener, heq⟩ := Option.map_eq_some_iff.mp hfor
      cases heq
      exact forOpener s _ _ hopener
  | none =>
      rw [hfor] at h
      obtain ⟨⟨source, behind⟩, hoperand, heq⟩ := Option.map_eq_some_iff.mp h
      have hrest : behind = rest := by
        dsimp only at heq
        split at heq
        · exact congrArg Prod.snd heq
        · exact congrArg Prod.snd heq
      subst hrest
      exact operand (by decide) s source behind hoperand

theorem opener {kind : BlockKind} (h : kind ≠ .block) : Stray kind.opener := by
  cases kind with
  | conditional => exact (operand (by decide)).map fun c => [c]
  | loop => exact forOpener.map fun x => [x.1, x.2]
  | range => exact (operand (by decide)).map fun e => [e]
  | block => exact absurd rfl h

theorem length_lt {s rest : Text} (h : strayDirective s = some ((), rest)) :
    rest.length < s.length := by
  obtain ⟨v, hopen, h⟩ := Option.bind_eq_some_iff.mp h
  obtain ⟨behind, hclose, heq⟩ := Option.bind_eq_some_iff.mp h
  cases heq
  rw [eq_append_of_dropStart? hopen, List.length_append]
  have hv := length_dropWhile_le (· != '}') v
  rw [eq_append_of_dropStart? hclose, List.length_append] at hv
  simp only [List.length_cons, List.length_nil] at hv ⊢
  omega

/-- Where the cleanup finds nothing, no stage finds anything. -/
theorem cut?_eq_none {scan : Scanner α} (h : Stray scan) {s : Text}
    (hnone : strayDirective.cut? s = none) : scan.cut? s = none := by
  apply Scanner.cut?_eq_none
  intro t ht
  cases hread : scan t with
  | none => rfl
  | some found =>
      obtain ⟨value, rest⟩ := found
      have hstray := h t value rest hread
      exact absurd (length_lt hstray) (Scanner.not_lt_of_cut?_eq_none hnone ht hstray)

end Stray

/-! The rewritings of the cleanup. -/

theorem Mending.deletes {scan : Scanner Text} (h : Mending scan) : scan.Deletes := by
  intro s value rest hread
  obtain ⟨dropped, kept, rfl, rfl, hne, -, -⟩ := h s value rest hread
  refine ⟨'>' :: (dropped ++ kept), rfl, .cons_cons '>' (List.sublist_append_right _ _), ?_⟩
  have hpos := List.length_pos_iff.mpr hne
  simp only [List.length_cons, List.length_append]
  omega

def erasing (scan : Scanner α) : Scanner Text := scan.map fun _ => []

theorem Stray.deletes {scan : Scanner α} (h : Stray scan) : (erasing scan).Deletes := by
  intro s value rest hread
  obtain ⟨⟨first, behind⟩, hfirst, heq⟩ := Option.map_eq_some_iff.mp hread
  cases heq
  obtain ⟨inside, -, rfl⟩ := eq_mark_of_strayDirective (h s first rest hfirst)
  refine ⟨mark inside, rfl, List.nil_sublist _, ?_⟩
  rw [length_mark, List.length_nil]
  omega

/-- What is left of directives, in the order in which a pass erases it. -/
def strays : List (Scanner Unit) :=
  [tag "endfor".toList, tag "endif".toList, tag "else".toList, tag "end".toList, strayFor,
    strayOperand "if".toList, strayDirective]

theorem stray_strays : ∀ scan ∈ strays, Stray scan := by
  simp only [strays, List.forall_mem_cons, List.not_mem_nil, false_imp_iff, implies_true, and_true]
  exact ⟨.tag (by decide), .tag (by decide), .tag (by decide), .tag (by decide), .strayFor,
    .strayOperand (by decide), .self⟩

/-- The doubled ends of tags, in the order in which a pass mends them. -/
def mendings : List (Scanner Text) := [doubledBeforeTag, doubledBeforeLine, doubled]

theorem mending_mendings : ∀ scan ∈ mendings, Mending scan := by
  simp only [mendings, List.forall_mem_cons, List.not_mem_nil, false_imp_iff, implies_true,
    and_true]
  exact ⟨mending_doubledBeforeTag, mending_doubledBeforeLine, mending_doubled⟩

def rewritings : List (Scanner Text) := strays.map erasing ++ mendings

theorem forall_rewritings {P : Scanner Text → Prop} (hstray : ∀ scan ∈ strays, P (erasing scan))
    (hmending : ∀ scan ∈ mendings, P scan) : ∀ scan ∈ rewritings, P scan :=
  List.forall_mem_append.mpr ⟨List.forall_mem_map.mpr hstray, hmending⟩

theorem deletes_rewritings : ∀ scan ∈ rewritings, scan.Deletes :=
  forall_rewritings (fun scan hmem => (stray_strays scan hmem).deletes)
    fun scan hmem => (mending_mendings scan hmem).deletes

theorem cleanupPass_eq_rewrite : cleanupPass = Scanner.rewrite rewritings := rfl

theorem cleanupPass_sublist (s : Text) : (cleanupPass s).Sublist s := by
  rw [cleanupPass_eq_rewrite]
  exact Scanner.rewrite_sublist deletes_rewritings s

/-! The cleanup ends where it changes nothing more. -/

theorem cleanupPass_settle (s : Text) : cleanupPass (settle s) = settle s := by
  induction hlength : s.length using Nat.strongRecOn generalizing s with
  | ind n ih =>
      rw [settle]
      split
      · next hshorter => exact ih _ (hlength ▸ hshorter) _ rfl
      · next hsame =>
          have hfixed : cleanupPass s = s :=
            (cleanupPass_sublist s).eq_of_length_le (Nat.le_of_not_lt hsame)
          rw [hfixed, hfixed]

theorem settle_settle (s : Text) : settle (settle s) = settle s := by
  rw [settle, cleanupPass_settle, if_neg (Nat.lt_irrefl _)]

theorem cut?_settle (s : Text) : ∀ scan ∈ rewritings, scan.cut? (settle s) = none := by
  have hpass := cleanupPass_settle s
  rw [cleanupPass_eq_rewrite] at hpass
  exact Scanner.cut?_eq_none_of_rewrite deletes_rewritings hpass

/-- Nowhere in the text does the cleanup read what is left of a directive. -/
def Bare (s : Text) : Prop := strayDirective.cut? s = none

theorem Bare.find?_eq_none {s : Text} (hs : Bare s) {scan : Scanner α} (h : Stray scan) :
    scan.find? s = none :=
  Scanner.find?_eq_none_iff.mpr (h.cut?_eq_none hs)

theorem bare_settle (s : Text) : Bare (settle s) := by
  have herased : (erasing strayDirective).cut? (settle s) = none :=
    cut?_settle s _ (by simp [rewritings, strays])
  apply Scanner.cut?_eq_none
  intro t ht
  cases hread : strayDirective t with
  | none => rfl
  | some found =>
      obtain ⟨_, rest⟩ := found
      have hvalue : erasing strayDirective t = some ([], rest) := by
        rw [erasing, Scanner.map, hread]
        rfl
      exact absurd (Stray.length_lt hread) (Scanner.not_lt_of_cut?_eq_none herased ht hvalue)

/-! Every stage gives a bare text back as it is, and leaves no note. -/

section

variable {s : Text} (tools : Toolbox) (inner : Inner) (ctx : Context)

theorem expandCalls_of_bare (h : Bare s) : expandCalls tools ctx s = pure s := by
  rw [expandCalls, h.find?_eq_none .directive]

theorem expandLoops_of_bare (h : Bare s) : expandLoops tools inner ctx s = pure s := by
  rw [expandLoops, h.find?_eq_none .loopHead]

theorem expandConditionals_of_bare (h : Bare s) :
    expandConditionals tools inner ctx s = pure s := by
  rw [expandConditionals, h.find?_eq_none (.operand (by decide))]

theorem expandVariables_of_bare (h : Bare s) : expandVariables tools ctx s = pure s := by
  rw [expandVariables, h.find?_eq_none .directive]

theorem cleanup_of_bare (h : Bare s) : cleanup s = pure (settle s) := by
  have hopeners : strayOpener.findAll s = [] := by
    rw [Scanner.findAll, h.find?_eq_none .strayOpener]
  rw [cleanup, hopeners]
  rfl

theorem level_settle (s : Text) : level tools inner ctx (settle s) = pure (settle s) := by
  have hbare := bare_settle s
  rw [level, expandCalls_of_bare tools ctx hbare, pure_bind,
    expandLoops_of_bare tools inner ctx hbare, pure_bind,
    expandConditionals_of_bare tools inner ctx hbare, pure_bind,
    expandVariables_of_bare tools ctx hbare, pure_bind, cleanup_of_bare hbare, settle_settle]

theorem level_of_settled (h : settle s = s) : level tools inner ctx s = pure s := by
  have hlevel := level_settle tools inner ctx s
  rwa [h] at hlevel

end

theorem exists_settle_of_render {tools : Toolbox} {ctx : Context} {template out : Text}
    (h : (render tools ctx template).result = .ok out) : ∃ s, out = settle s := by
  have hlevel : render tools ctx template =
      level tools (renderWithin tools (template.length + 999)) ctx template := rfl
  rw [hlevel, level_result] at h
  obtain ⟨_, _, h⟩ := bind_eq_ok.mp h
  obtain ⟨_, _, h⟩ := bind_eq_ok.mp h
  obtain ⟨_, _, h⟩ := bind_eq_ok.mp h
  obtain ⟨s, _, hsettle⟩ := map_eq_ok.mp h
  exact ⟨s, hsettle.symm⟩

/-- The output of a render holds nothing that a render reads, whatever the template and the values
put into it. A second render, with any tools in any context, is the text itself and no note. -/
theorem render_rendered {tools : Toolbox} {ctx : Context} {template out : Text}
    (h : (render tools ctx template).result = .ok out) :
    (∀ (tools' : Toolbox) (ctx' : Context), render tools' ctx' out = pure out) ∧
      directive.find? out = none ∧ loopHead.find? out = none ∧
      ∀ kind : BlockKind, kind ≠ .block → kind.opener.find? out = none := by
  obtain ⟨s, rfl⟩ := exists_settle_of_render h
  have hbare := bare_settle s
  refine ⟨?_, hbare.find?_eq_none .directive, hbare.find?_eq_none .loopHead, ?_⟩
  · intro tools' ctx'
    exact level_settle tools' (renderWithin tools' ((settle s).length + 999)) ctx' s
  · intro kind hkind
    exact hbare.find?_eq_none (.opener hkind)

/-- A conditional that is never closed in front of a variable. -/
def unclosed : Text := mark " if y ".toList ++ (mark " x ".toList ++ [])

/-- The braces of the value open and close directives of their own. -/
def braces : Text := "\x7d \x7b\x7b".toList

def bracesContext : Context :=
  .create none none [("x".toList, .text braces)] ⟨⟨2024, 6, 1⟩, 12, 0, 0, 0, none⟩

theorem render_unclosed : (render .standard bracesContext unclosed).result = .ok braces := by
  have hx : substitution .standard bracesContext "x".toList = pure braces :=
    substitution_of_value rfl (evaluate_of_get? ⟨rfl, rfl, rfl, rfl, rfl, by decide⟩ rfl) rfl
  have hif : operandIn "if".toList " if y ".toList = some "y".toList := rfl
  have hcalls : callsOf .standard bracesContext unclosed = .ok unclosed := by
    have hhead : (words " if y ".toList).head? = some "if".toList := rfl
    rw [unclosed, callsOf_keyword (by decide) hhead rfl,
      callsOf_skip (by decide) rfl (by rintro _ ⟨⟩; rfl), callsOf_drives.nil]
    rfl
  have hloops (inner : Inner) [∀ ctx s, Eval.Steady (inner ctx s)] :
      loopsOf .standard inner bracesContext unclosed = .ok unclosed := by
    rw [unclosed, loopsOf_skip (by decide) rfl, loopsOf_skip (by decide) rfl,
      loopsOf_drives.nil]
    rfl
  have hconditionals (inner : Inner) [∀ ctx s, Eval.Steady (inner ctx s)] :
      conditionalsOf .standard inner bracesContext unclosed = .ok unclosed := by
    have hblock : BlockKind.conditional.block? (mark " x ".toList ++ []) = none := by
      rw [BlockKind.block?, BlockKind.readBlock?_eq]
      rfl
    rw [unclosed, conditionalsOf_if (by decide) hif, hblock]
    dsimp only
    rw [conditionalsOf_skip (by decide) rfl, conditionalsOf_drives.nil]
    rfl
  have hvariables : variablesOf .standard bracesContext unclosed =
      .ok (mark " if y ".toList ++ braces) := by
    have hvalue : insideText? 0 " x ".toList = some "x".toList := rfl
    rw [unclosed, variablesOf_skip (by decide) (by rintro _ ⟨⟩; rfl),
      variablesOf_value (by decide) hvalue rfl, hx, variablesOf_drives.nil]
    rfl
  have hsettle : settle (mark " if y ".toList ++ braces) = braces := by cbv
  rw [render, depthFor, renderWithin_succ, level_result, hcalls, ok_bind, hloops, ok_bind,
    hconditionals, ok_bind, hvariables, map_ok, hsettle]

theorem render_rendered_unclosed :
    (render .standard bracesContext unclosed).result = .ok braces ∧
      (∀ (tools : Toolbox) (ctx : Context), render tools ctx braces = pure braces) ∧
      directive.find? braces = none ∧ loopHead.find? braces = none ∧
      ∀ kind : BlockKind, kind ≠ .block → kind.opener.find? braces = none :=
  ⟨render_unclosed, render_rendered render_unclosed⟩

end Template

end Stencil
