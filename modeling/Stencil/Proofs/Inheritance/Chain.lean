import Stencil.Proofs.Eval.Result
import Stencil.Proofs.Inheritance.Sheet

namespace Stencil.Template

open Stencil.Text

/-! A chain of layouts composed: of every block the most derived definition counts. -/

/-- A template that extends a layout; the layout's name stands somewhere between its blocks. -/
structure Layer where
  before : Sheet
  parent : Label
  behind : Sheet

namespace Layer

def print (layer : Layer) : Text :=
  layer.before.print ++
    (mark (quotedIn "extends".toList layer.parent.text) ++ layer.behind.print)

def blocks (layer : Layer) : Definitions := layer.before.blocks ++ layer.behind.blocks

end Layer

/-- The text of the most derived template of a chain; the layers come before the layouts they
extend. -/
def chainText : List Layer → Sheet → Text
  | [], root => root.print
  | layer :: _, _ => layer.print

def Leads (layouts : LayoutSource) : List Layer → Sheet → Prop
  | [], _ => True
  | layer :: layers, root =>
      layouts.resolve layer.parent.text none "html".toList = .ok (chainText layers root) ∧
        Leads layouts layers root

def definitions (layers : List Layer) (root : Sheet) : List Definitions :=
  layers.map Layer.blocks ++ [root.blocks]

/-- The content of a block in the most derived template that defines it. -/
def latest (templates : List Definitions) (name : Label) : Option Sheet :=
  templates.findSome? fun defs => defs.lookup name

/-- The text of a sheet with every block replaced by the expansion of its content in `content`. -/
inductive Expands (content : Label → Option Sheet) : Sheet → Text → Prop
  | done : Expands content .done []
  | text (s : Plain) {rest : Sheet} {out : Text} (hrest : Expands content rest out) :
      Expands content (.text s rest) (s.text ++ out)
  | directive (d : Aside) {rest : Sheet} {out : Text} (hrest : Expands content rest out) :
      Expands content (.directive d rest) (mark d.text ++ out)
  | block {name : Label} {default counts rest : Sheet} {inner out : Text}
      (hcontent : content name = some counts) (hinner : Expands content counts inner)
      (hrest : Expands content rest out) :
      Expands content (.block name default rest) (inner ++ out)

theorem Expands.unique {content : Label → Option Sheet} {sheet : Sheet} {out other : Text}
    (h : Expands content sheet out) (hother : Expands content sheet other) : out = other := by
  induction h generalizing other with
  | done => cases hother; rfl
  | text s hrest ih =>
      cases hother with
      | text _ hrest' => rw [ih hrest']
  | directive d hrest ih =>
      cases hother with
      | directive _ hrest' => rw [ih hrest']
  | block hcontent hinner hrest ihinner ihrest =>
      cases hother with
      | block hcontent' hinner' hrest' =>
          rw [hcontent] at hcontent'
          cases hcontent'
          rw [ihinner hinner', ihrest hrest']

/-! Splicing one template after the other. -/

/-- A sheet with the blocks of further templates put in, the most derived ones last. -/
def splices (later : List Definitions) (sheet : Sheet) : Sheet :=
  later.foldr (fun defs sheet => sheet.splice defs) sheet

def overlaid (name : Label) (content : Sheet) (later : List Definitions) : Sheet :=
  later.foldr (fun defs content => (defs.lookup name).getD (content.splice defs)) content

theorem splices_done (later : List Definitions) : splices later .done = .done := by
  induction later with
  | nil => rfl
  | cons defs later ih =>
      change (splices later .done).splice defs = .done
      rw [ih]
      rfl

theorem splices_text (later : List Definitions) (s : Plain) (rest : Sheet) :
    splices later (.text s rest) = .text s (splices later rest) := by
  induction later with
  | nil => rfl
  | cons defs later ih =>
      change (splices later (.text s rest)).splice defs = .text s ((splices later rest).splice defs)
      rw [ih]
      rfl

theorem splices_directive (later : List Definitions) (d : Aside) (rest : Sheet) :
    splices later (.directive d rest) = .directive d (splices later rest) := by
  induction later with
  | nil => rfl
  | cons defs later ih =>
      change (splices later (.directive d rest)).splice defs =
        .directive d ((splices later rest).splice defs)
      rw [ih]
      rfl

theorem splices_block (later : List Definitions) (name : Label) (content rest : Sheet) :
    splices later (.block name content rest) =
      .block name (overlaid name content later) (splices later rest) := by
  induction later with
  | nil => rfl
  | cons defs later ih =>
      change (splices later (.block name content rest)).splice defs = _
      rw [ih]
      rfl

/-- The most derived template that defines a block gives its content, and only the templates that
derive from that one change it. -/
theorem overlaid_cases (name : Label) (content : Sheet) (later : List Definitions) :
    (∃ above defs below found, later = above ++ defs :: below ∧
      (∀ other ∈ above, other.lookup name = none) ∧ defs.lookup name = some found ∧
      overlaid name content later = splices above found) ∨
    ((∀ other ∈ later, other.lookup name = none) ∧
      overlaid name content later = splices later content) := by
  induction later with
  | nil => exact .inr ⟨fun _ hmem => (nomatch hmem), rfl⟩
  | cons defs later ih =>
      have hstep : overlaid name content (defs :: later) =
          (defs.lookup name).getD ((overlaid name content later).splice defs) := rfl
      cases hlookup : defs.lookup name with
      | some found =>
          left
          refine ⟨[], defs, later, found, rfl, fun _ hmem => (nomatch hmem), hlookup, ?_⟩
          rw [hstep, hlookup]
          rfl
      | none =>
          rw [hlookup, Option.getD_none] at hstep
          rcases ih with ⟨above, other, below, found, rfl, habove, hfound, hcontent⟩ |
            ⟨hnone, hcontent⟩
          · left
            refine ⟨defs :: above, other, below, found, rfl,
              List.forall_mem_cons.mpr ⟨hlookup, habove⟩, hfound, ?_⟩
            rw [hstep, hcontent]
            rfl
          · right
            refine ⟨List.forall_mem_cons.mpr ⟨hlookup, hnone⟩, ?_⟩
            rw [hstep, hcontent]
            rfl

theorem latest_of_first {name : Label} {above below : List Definitions} {defs : Definitions}
    {found : Sheet} (habove : ∀ other ∈ above, other.lookup name = none)
    (hfound : defs.lookup name = some found) :
    latest (above ++ defs :: below) name = some found := by
  rw [latest, List.findSome?_append, List.findSome?_eq_none_iff.mpr habove]
  simp [hfound]

def DefinedBy (defs : Definitions) (sheet : Sheet) : Prop :=
  ∀ d ∈ sheet.blocks, defs.lookup d.1 = some d.2

theorem DefinedBy.content {defs : Definitions} {name : Label} {content rest : Sheet}
    (h : DefinedBy defs (.block name content rest)) : DefinedBy defs content :=
  fun d hmem => h d (by simp [Sheet.blocks, hmem])

theorem DefinedBy.rest {defs : Definitions} {name : Label} {content rest : Sheet}
    (h : DefinedBy defs (.block name content rest)) : DefinedBy defs rest :=
  fun d hmem => h d (by simp [Sheet.blocks, hmem])

def Closed (defs : Definitions) : Prop :=
  ∀ {name : Label} {content : Sheet}, defs.lookup name = some content → DefinedBy defs content

/-- Splicing in the templates that derive from one, and unwrapping, expands its sheets. -/
theorem expands_splices {above below : List Definitions} {defs : Definitions}
    (hclosed : ∀ defs' ∈ above ++ defs :: below, Closed defs') {sheet : Sheet}
    (hsheet : DefinedBy defs sheet) :
    Expands (latest (above ++ defs :: below)) sheet (splices above sheet).unwrapped := by
  induction hlength : above.length using Nat.strongRecOn generalizing above below defs sheet with
  | ind n ihabove =>
      induction sheet with
      | done =>
          rw [splices_done]
          exact .done
      | text s rest ih =>
          rw [splices_text]
          exact .text s (ih hsheet)
      | directive d rest ih =>
          rw [splices_directive]
          exact .directive d (ih hsheet)
      | block name content rest ihcontent ihrest =>
          rw [splices_block]
          rcases overlaid_cases name content above with
            ⟨first, other, second, found, rfl, hfirst, hfound, hcontent⟩ | ⟨hnone, hcontent⟩
          · -- A template above replaces the block; only templates above that one change it.
            have hsplit : first ++ other :: second ++ defs :: below =
                first ++ other :: (second ++ defs :: below) := by simp
            rw [hsplit] at hclosed ihrest ⊢
            have hlatest : latest (first ++ other :: (second ++ defs :: below)) name = some found :=
              latest_of_first hfirst hfound
            have hother := hclosed other (by simp) hfound
            have hshorter : first.length < n := by
              rw [← hlength, List.length_append, List.length_cons]
              omega
            rw [Sheet.unwrapped, hcontent]
            exact .block hlatest (ihabove _ hshorter hclosed hother rfl) (ihrest hsheet.rest)
          · have hlatest : latest (above ++ defs :: below) name = some content :=
              latest_of_first hnone (hsheet (name, content) (by simp [Sheet.blocks]))
            rw [Sheet.unwrapped, hcontent]
            exact .block hlatest (ihcontent hsheet.content) (ihrest hsheet.rest)

end Stencil.Template
