import Mathlib.Logic.Relation
import Stencil.Proofs.Inheritance.Ancestry
import Stencil.Proofs.Token.Pattern

namespace Stencil

open Relation

/-! The layouts of a table that extend one another, told apart by their paths and not by the names
that they are extended by. -/

namespace LayoutTable

variable {table : LayoutTable} {path parent other final name : Text}

def answering? (table : LayoutTable) (name : Text) (kind : Option Text) (format : Text) :
    Option Text :=
  (Layout.candidates name kind format).find? fun path => (table.texts.lookup path).isSome

def textAt (table : LayoutTable) (path : Text) : Text := (table.texts.lookup path).getD []

theorem findSome?_lookup (paths : List Text) :
    (paths.findSome? fun path => table.texts.lookup path) =
      (paths.find? fun path => (table.texts.lookup path).isSome).map table.textAt := by
  induction paths with
  | nil => rfl
  | cons path paths ih =>
      cases hpath : table.texts.lookup path with
      | none => simp [hpath, ih]
      | some text => simp [hpath, textAt]

theorem resolve_eq_ok_iff {kind : Option Text} {format text : Text} :
    table.resolve name kind format = .ok text ↔
      ∃ path, table.answering? name kind format = some path ∧ table.textAt path = text := by
  unfold resolve answering?
  simp only [findSome?_lookup]
  generalize List.find? _ _ = found
  cases found <;> simp

def Extends (table : LayoutTable) (path parent : Text) : Prop :=
  ∃ name, Template.extendsName (table.textAt path) = some name ∧
    table.answering? name none "html".toList = some parent

/-- The chain of layouts from a path on reaches one of them twice. -/
def Revisits (table : LayoutTable) (path : Text) : Prop :=
  ∃ layout, ReflTransGen table.Extends path layout ∧ TransGen table.Extends layout layout

/-- Some layout of the chain from a path on extends the name. -/
def Mentions (table : LayoutTable) (path name : Text) : Prop :=
  ∃ layout, ReflTransGen table.Extends path layout ∧
    Template.extendsName (table.textAt layout) = some name

def Ends (table : LayoutTable) (path : Text) : Prop := ∀ parent, ¬table.Extends path parent

theorem Extends.unique (h : table.Extends path parent) (hother : table.Extends path other) :
    other = parent := by
  obtain ⟨name, hname, hparent⟩ := h
  obtain ⟨_, hname', hother⟩ := hother
  cases hname.symm.trans hname'
  exact Option.some.inj (hother.symm.trans hparent)

theorem not_cyclic_of_ends (hreach : ReflTransGen table.Extends path final)
    (hends : table.Ends final) : ¬TransGen table.Extends path path := by
  induction hreach using ReflTransGen.head_induction_on with
  | refl =>
      intro hcycle
      obtain ⟨parent, hparent, -⟩ := TransGen.head'_iff.mp hcycle
      exact hends parent hparent
  | head hstep _ ih =>
      intro hcycle
      obtain ⟨parent, hparent, hback⟩ := TransGen.head'_iff.mp hcycle
      cases hstep.unique hparent
      exact ih (.tail' hback hstep)

theorem not_revisits_of_ends (hreach : ReflTransGen table.Extends path final)
    (hends : table.Ends final) : ¬table.Revisits path := by
  rintro ⟨layout, hlayout, hcycle⟩
  rcases ReflTransGen.total_of_right_unique (fun _ _ _ h h' => h'.unique h) hreach hlayout with
    hbehind | hahead
  · rcases hbehind.cases_head with rfl | ⟨parent, hparent, -⟩
    · exact not_cyclic_of_ends .refl hends hcycle
    · exact hends parent hparent
  · exact not_cyclic_of_ends hahead hends hcycle

end LayoutTable

namespace Template

variable {table : LayoutTable} {path last name : Text} {names : List Text}

theorem extendsName_ne_nil {template name : Text} (h : extendsName template = some name) :
    name ≠ [] := by
  obtain ⟨f, hf, rfl⟩ := Option.map_eq_some_iff.mp h
  have hcut : (quotedName "extends".toList).cut? template = some f.cut := by
    rw [Scanner.cut?, hf]
    rfl
  obtain ⟨t, -, hread, -⟩ := Scanner.reads_of_cut? hcut
  exact ne_nil_of_quotedName hread

theorem baseText_eq_ok_iff {text : Text} :
    baseText table.source name = .ok text ↔
      ∃ path, table.answering? name none "html".toList = some path ∧ table.textAt path = text :=
  LayoutTable.resolve_eq_ok_iff

/-- An ascent is a way along the layouts of a table, and every name of it answers with one of
them. -/
theorem Ascends.reaches (h : Ascends (baseText table.source) (table.textAt path) names last) :
    ∃ final, ReflTransGen table.Extends path final ∧ table.textAt final = last ∧
      ∀ name ∈ names, ∃ layout, table.answering? name none "html".toList = some layout ∧
        ReflTransGen table.Extends path layout ∧ ReflTransGen table.Extends layout final := by
  generalize htemplate : table.textAt path = template at h
  induction h generalizing path with
  | here => exact ⟨path, .refl, htemplate, fun _ hmem => nomatch hmem⟩
  | up hparent hload hrest ih =>
      obtain ⟨next, hnext, hbase⟩ := baseText_eq_ok_iff.mp hload
      obtain ⟨final, hreach, hlast, hnames⟩ := ih hbase
      have hstep : table.Extends path next := ⟨_, htemplate ▸ hparent, hnext⟩
      refine ⟨final, .head hstep hreach, hlast, List.forall_mem_cons.mpr ⟨?_, ?_⟩⟩
      · exact ⟨next, hnext, .single hstep, hreach⟩
      · intro name hname
        obtain ⟨layout, hlayout, hto, hfrom⟩ := hnames name hname
        exact ⟨layout, hlayout, .head hstep hto, hfrom⟩

theorem Ascends.mem_of_mentions
    (h : Ascends (baseText table.source) (table.textAt path) names last)
    (hends : ∀ parent text, extendsName last = some parent →
      baseText table.source parent ≠ .ok text)
    (hmentions : table.Mentions path name) : name ∈ names ∨ extendsName last = some name := by
  obtain ⟨layout, hreach, hname⟩ := hmentions
  generalize htemplate : table.textAt path = template at h
  induction h generalizing path with
  | here =>
      rcases hreach.cases_head with rfl | ⟨next, ⟨parent, hparent, hnext⟩, -⟩
      · exact .inr (htemplate ▸ hname)
      · rw [htemplate] at hparent
        exact absurd (baseText_eq_ok_iff.mpr ⟨next, hnext, rfl⟩) (hends parent _ hparent)
  | up hparent hload hrest ih =>
      obtain ⟨base, hbase, htext⟩ := baseText_eq_ok_iff.mp hload
      have hstep : table.Extends path base := ⟨_, htemplate ▸ hparent, hbase⟩
      rcases hreach.cases_head with rfl | ⟨next, hnext, hrest⟩
      · rw [htemplate, hparent] at hname
        exact .inl (Option.some.inj hname ▸ List.mem_cons_self)
      · cases hstep.unique hnext
        exact (ih hends hrest htext).imp_left (List.mem_cons_of_mem _)

theorem ends_of_not_ok {final : Text}
    (h : ∀ parent text, extendsName (table.textAt final) = some parent →
      baseText table.source parent ≠ .ok text) : table.Ends final := by
  rintro layout ⟨parent, hparent, hlayout⟩
  exact h parent _ hparent (baseText_eq_ok_iff.mpr ⟨layout, hlayout, rfl⟩)

/-- Behind the last layout of an ascent there is none: the chain reaches no layout twice, and it
mentions the names of the ascent only. -/
theorem Ascends.not_revisits
    (h : Ascends (baseText table.source) (table.textAt path) names last)
    (hends : ∀ parent text, extendsName last = some parent →
      baseText table.source parent ≠ .ok text) : ¬table.Revisits path := by
  obtain ⟨final, hreach, rfl, -⟩ := h.reaches
  exact LayoutTable.not_revisits_of_ends hreach (ends_of_not_ok hends)

theorem mem_ownNames (hname : name ≠ []) : name ∈ ownNames (some name) := by
  simp [ownNames, hname]

/-- A loop is told if the chain reaches a layout twice, or comes to the name that it is to be found
under, whichever layout that one answers with. -/
theorem resolveInheritance_loop_iff :
    (∃ chain, resolveInheritance table.source (table.textAt path) (some name) =
        .error (.inheritanceLoop chain)) ↔
      table.Revisits path ∨ table.Mentions path name := by
  have hneither : ∀ {names : List Text} {last : Text},
      Chain (baseText table.source) (ownNames (some name)) (table.textAt path) names last →
      (∀ parent text, extendsName last = some parent →
        baseText table.source parent ≠ .ok text) →
      extendsName last ≠ some name → ¬(table.Revisits path ∨ table.Mentions path name) := by
    -- The name is in the chain from the start, so its ascent cannot have it again.
    rintro names last hchain hends hlast (hrevisits | hmentions)
    · exact hchain.ascends.not_revisits hends hrevisits
    · obtain ⟨layout, -, hlayout⟩ := id hmentions
      have hown : name ∈ ownNames (some name) := mem_ownNames (extendsName_ne_nil hlayout)
      rcases hchain.ascends.mem_of_mentions hends hmentions with hmem | hname
      · exact (List.nodup_append.mp hchain.nodup).2.2 name hown name hmem rfl
      · exact hlast hname
  rcases resolveInheritance_cases table.source (table.textAt path) (some name) with
    ⟨⟨names, last, hchain, hroot⟩, out, hout⟩ | ⟨chain, hrecurs, hout⟩ |
      ⟨fault, ⟨names, last, parent, hchain, hparent, hnew, hfault⟩, hout⟩
  · have hnone := hneither hchain (fun _ _ h => nomatch hroot.symm.trans h)
      (fun h => nomatch hroot.symm.trans h)
    rw [hout]
    exact iff_of_false (fun ⟨_, h⟩ => nomatch h) hnone
  · obtain ⟨before, last, parent, hchain, hlast, hmem, -⟩ := hrecurs
    refine iff_of_true ⟨chain, hout⟩ ?_
    obtain ⟨final, hreach, rfl, hnames⟩ := hchain.ascends.reaches
    rcases List.mem_append.mp hmem with hown | hbefore
    · have hname : parent = name := by
        simp only [ownNames, Option.toList_some, List.mem_filter, List.mem_singleton] at hown
        exact hown.1
      exact .inr ⟨final, hreach, hname ▸ hlast⟩
    · obtain ⟨layout, hlayout, hto, hfrom⟩ := hnames parent hbefore
      exact .inl ⟨layout, hto, .tail' hfrom ⟨parent, hlast, hlayout⟩⟩
  · have hnone := hneither hchain
      (fun other text hother hok => by
        cases hparent.symm.trans hother
        exact nomatch hfault.symm.trans hok)
      (fun hname => by
        cases hparent.symm.trans hname
        exact hnew (List.mem_append_left _ (mem_ownNames (extendsName_ne_nil hname))))
    refine iff_of_false ?_ hnone
    rintro ⟨chain, hchain⟩
    cases hout.symm.trans hchain
    rcases table.resolve_cases parent none "html".toList with ⟨text, hok⟩ | ⟨searched, hmissing⟩
    · exact nomatch hfault.symm.trans hok
    · exact nomatch hfault.symm.trans hmissing

end Template

end Stencil
