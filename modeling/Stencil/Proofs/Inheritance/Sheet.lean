import Stencil.Proofs.Token.Block
import Stencil.Proofs.Token.Replace
import Stencil.Template.Inheritance

namespace Stencil.Template

open Stencil.Text

/-! Templates as sheets of text, directives and blocks, and what splicing and unwrapping do with
the text of a sheet. -/

structure Label where
  text : Text
  quotable : Quotable text
  braceless : text.Braceless
  ne_nil : text ≠ []
deriving DecidableEq

theorem Label.ext {label other : Label} (h : label.text = other.text) : label = other := by
  cases label
  cases other
  cases h
  rfl

def inheritanceWords : List Text := ["block".toList, "endblock".toList, "extends".toList]

structure Aside extends Inside where
  apart : ∀ word ∈ inheritanceWords, (words text).head? ≠ some word

/-- Text, directives and blocks in a row; every constructor but the first puts one of them in front
of the rest. -/
inductive Sheet
  | done
  | text (s : Plain) (rest : Sheet)
  | directive (d : Aside) (rest : Sheet)
  | block (name : Label) (content rest : Sheet)

abbrev Definitions := List (Label × Sheet)

namespace Sheet

def print : Sheet → Text
  | done => []
  | text s rest => s.text ++ rest.print
  | directive d rest => mark d.text ++ rest.print
  | block name content rest =>
      mark (quotedIn "block".toList name.text) ++
        (content.print ++ (mark (padded "endblock".toList) ++ rest.print))

/-- The blocks of a sheet, nested blocks included. -/
def blocks : Sheet → Definitions
  | done => []
  | text _ rest => rest.blocks
  | directive _ rest => rest.blocks
  | block name content rest => (name, content) :: (content.blocks ++ rest.blocks)

/-- The sheet with blocks replaced from outside in; what is put in stays as it is. -/
def splice (defs : Definitions) : Sheet → Sheet
  | done => done
  | text s rest => text s (rest.splice defs)
  | directive d rest => directive d (rest.splice defs)
  | block name content rest =>
      block name ((defs.lookup name).getD (content.splice defs)) (rest.splice defs)

def unwrapped : Sheet → Text
  | done => []
  | text s rest => s.text ++ rest.unwrapped
  | directive d rest => mark d.text ++ rest.unwrapped
  | block _ content rest => content.unwrapped ++ rest.unwrapped

end Sheet

/-! The marks of a printed sheet. -/

theorem enclosed_quotedIn {word : Text} [hword : Keyword word] (name : Label) :
    (quotedIn word name.text).Enclosed := by
  have hmark : Text.Braceless " \"".toList := by decide
  have hquote : Text.Braceless ['"'] := by decide
  refine enclosed_padded ?_
  simp only [Text.Braceless, List.forall_mem_append]
  exact ⟨⟨⟨hword.braceless, hmark⟩, name.braceless⟩, hquote⟩

theorem opens_quotedIn (name : Label) :
    BlockKind.block.Opens (quotedIn "block".toList name.text) := by
  have hread : ∀ rest, quotedName "block".toList
      (mark (quotedIn "block".toList name.text) ++ rest) =
        (some name.text).map (·, rest) :=
    quotedName_mark_quotedIn name.quotable name.ne_nil
  refine BlockKind.opens_of_map (f := fun n => [n]) rfl (enclosed_quotedIn name)
    (Scanner.readsWhole_of _ hread) (Scanner.onMark_eq hread) ?_
  rw [head?_words_quotedIn]
  decide

theorem opener_onMark_quotedIn (name : Label) :
    BlockKind.block.opener.onMark (quotedIn "block".toList name.text) = some [name.text] := by
  have hread : ∀ rest, quotedName "block".toList
      (mark (quotedIn "block".toList name.text) ++ rest) =
        (some name.text).map (·, rest) :=
    quotedName_mark_quotedIn name.quotable name.ne_nil
  have hmap : ((quotedName "block".toList).map fun n => [n]).onMark
      (quotedIn "block".toList name.text) = _ := Scanner.onMark_map _ _
  rw [Scanner.onMark_eq hread] at hmap
  exact hmap

theorem closes_padded_endblock : BlockKind.block.Closes (padded "endblock".toList) :=
  BlockKind.closes_padded rfl

theorem Aside.passes (d : Aside) : BlockKind.block.Passes (mark d.text) :=
  BlockKind.passes_of_head? d.enclosed fun word hword =>
    d.apart word ((by decide : BlockKind.block.words ⊆ inheritanceWords) hword)

theorem blockMarkup_eq (name : Label) (content : Text) :
    blockMarkup name.text content =
      mark (quotedIn "block".toList name.text) ++
        (content ++ mark (padded "endblock".toList)) := by
  have hopen : "\x7b\x7b block \"".toList =
      '{' :: '{' :: ' ' :: ("block".toList ++ " \"".toList) := rfl
  have hshut : "\" \x7d\x7d".toList = ['"', ' ', '}', '}'] := rfl
  have hclose : "\x7b\x7b endblock \x7d\x7d".toList = mark (padded "endblock".toList) := rfl
  unfold blockMarkup
  simp only [hopen, hshut, hclose, mark_append, quotedIn, padded,
    List.cons_append, List.append_assoc, List.nil_append]

theorem Sheet.balanced_print (sheet : Sheet) : BlockKind.block.Balanced sheet.print := by
  induction sheet with
  | done => exact .nil
  | text s rest ih => exact (BlockKind.passes_of_unopened s.unopened).balanced.append ih
  | directive d rest ih => exact d.passes.balanced.append ih
  | block name content rest ihcontent ihrest =>
      have hblock := BlockKind.Balanced.enclose (opens_quotedIn name) ihcontent
        closes_padded_endblock
      simpa only [print, List.append_assoc] using hblock.append ihrest

/-! Splicing and unwrapping, mark by mark. -/

theorem spliceBlocks_drives (overrides : List (Text × Text)) :
    Scanner.Drives (m := Id) BlockKind.block.opener (spliceBlocks overrides)
      fun matched captures after =>
        match BlockKind.block.block? after with
        | none => matched ++ spliceBlocks overrides after
        | some b =>
            blockMarkup (blockName captures)
              ((overrides.lookup (blockName captures)).getD (spliceBlocks overrides b.first)) ++
                spliceBlocks overrides b.after := by
  intro s
  rw [spliceBlocks, Scanner.cut?]
  cases BlockKind.block.opener.find? s with
  | none => rfl
  | some o =>
      simp only [Option.map_some, Found.cut]
      split
      · next hblock =>
          rw [hblock]
          exact List.append_assoc ..
      · next b hblock =>
          rw [hblock]
          simp only
          cases overrides.lookup (blockName o.value) <;> exact List.append_assoc ..

theorem unwrapBlocks_drives :
    Scanner.Drives (m := Id) BlockKind.block.opener unwrapBlocks fun matched _ after =>
      match BlockKind.block.block? after with
      | none => matched ++ unwrapBlocks after
      | some b => unwrapBlocks b.first ++ unwrapBlocks b.after := by
  intro s
  rw [unwrapBlocks, Scanner.cut?]
  cases BlockKind.block.opener.find? s with
  | none => rfl
  | some o =>
      simp only [Option.map_some, Found.cut]
      split
      · next hblock =>
          rw [hblock]
          exact List.append_assoc ..
      · next b hblock =>
          rw [hblock]
          exact List.append_assoc ..

theorem blocksOf_eq (s : Text) :
    blocksOf s =
      match BlockKind.block.opener.cut? s with
      | none => []
      | some o =>
          match BlockKind.block.block? o.after with
          | some b => (blockName o.value, b.first) :: blocksOf o.after
          | none => blocksOf o.after := by
  rw [blocksOf, Scanner.cut?]
  cases BlockKind.block.opener.find? s <;> rfl

theorem blocksOf_pass {t : Text} (h : BlockKind.block.Passes t) (s : Text) :
    blocksOf (t ++ s) = blocksOf s := by
  rw [blocksOf_eq, blocksOf_eq s, h.opener]
  cases BlockKind.block.opener.cut? s <;> rfl

/-! Closers and directives of other kinds are text to the search for openers. -/

theorem passes_endblock_opener (s : Text) :
    BlockKind.block.opener.cut? (mark (padded "endblock".toList) ++ s) =
      (BlockKind.block.opener.cut? s).map (Cut.prepend (mark (padded "endblock".toList))) := by
  have hnone : ∀ rest, quotedName "block".toList
      (mark (padded "endblock".toList) ++ rest) = (none : Option Text).map (·, rest) :=
    quotedName_mark_of_head? (by rw [head?_words_padded_keyword]; decide)
  have hmap := (Scanner.readsWhole_of none hnone).map_none (Scanner.onMark_eq hnone)
    fun n => [n]
  exact Scanner.cut?_mark_of_none (by decide) hmap.1 hmap.2 s

theorem lookup_map_print (defs : Definitions) (name : Label) :
    (defs.map fun d => (d.1.text, d.2.print)).lookup name.text =
      (defs.lookup name).map Sheet.print := by
  induction defs with
  | nil => rfl
  | cons d defs ih =>
      obtain ⟨other, content⟩ := d
      by_cases hname : name = other
      · subst hname
        rw [List.map_cons, List.lookup_cons_self, List.lookup_cons_self, Option.map_some]
      · have htext : name.text ≠ other.text := fun heq => hname (Label.ext heq)
        have hlabel : (name == other) = false := by simpa using hname
        have htext' : (name.text == other.text) = false := by simpa using htext
        rw [List.map_cons, List.lookup_cons, List.lookup_cons, hlabel, htext']
        exact ih

namespace Sheet

theorem spliceBlocks_print (defs : Definitions) (sheet : Sheet) (s : Text) :
    spliceBlocks (defs.map fun d => (d.1.text, d.2.print)) (sheet.print ++ s) =
      (sheet.splice defs).print ++
        spliceBlocks (defs.map fun d => (d.1.text, d.2.print)) s := by
  have hdrives := spliceBlocks_drives (defs.map fun d => (d.1.text, d.2.print))
  induction sheet generalizing s with
  | done => rfl
  | text t rest ih =>
      have hstep := hdrives.text t.unopened (rest.print ++ s)
      simp only [print, splice, List.append_assoc]
      exact hstep.trans (congrArg (t.text ++ ·) (ih s))
  | directive d rest ih =>
      have hstep := hdrives.append (d.passes.opener (rest.print ++ s))
      simp only [print, splice, List.append_assoc]
      exact hstep.trans (congrArg (mark d.text ++ ·) (ih s))
  | block name content rest ihcontent ihrest =>
      have hstep := hdrives.read (opens_quotedIn name).reads (opener_onMark_quotedIn name)
        (content.print ++ (mark (padded "endblock".toList) ++ (rest.print ++ s)))
      have hcontent := ihcontent []
      have hnil : spliceBlocks (defs.map fun d => (d.1.text, d.2.print)) [] = [] := hdrives.nil
      rw [hnil, List.append_nil, List.append_nil] at hcontent
      have hput : ((defs.lookup name).map print).getD (content.splice defs).print =
          ((defs.lookup name).getD (content.splice defs)).print := by
        cases defs.lookup name <;> rfl
      rw [BlockKind.block?_of_balanced content.balanced_print closes_padded_endblock] at hstep
      simp only [blockName, List.headD_cons, lookup_map_print, hcontent, hput, ihrest,
        blockMarkup_eq] at hstep
      simpa only [print, splice, List.append_assoc] using hstep

theorem unwrapBlocks_print (sheet : Sheet) (s : Text) :
    unwrapBlocks (sheet.print ++ s) = sheet.unwrapped ++ unwrapBlocks s := by
  induction sheet generalizing s with
  | done => rfl
  | text t rest ih =>
      have hstep := unwrapBlocks_drives.text t.unopened (rest.print ++ s)
      simp only [print, unwrapped, List.append_assoc]
      exact hstep.trans (congrArg (t.text ++ ·) (ih s))
  | directive d rest ih =>
      have hstep := unwrapBlocks_drives.append (d.passes.opener (rest.print ++ s))
      simp only [print, unwrapped, List.append_assoc]
      exact hstep.trans (congrArg (mark d.text ++ ·) (ih s))
  | block name content rest ihcontent ihrest =>
      have hstep := unwrapBlocks_drives.read (opens_quotedIn name).reads
        (opener_onMark_quotedIn name)
        (content.print ++ (mark (padded "endblock".toList) ++ (rest.print ++ s)))
      have hcontent := ihcontent []
      have hnil : unwrapBlocks [] = [] := unwrapBlocks_drives.nil
      rw [hnil, List.append_nil, List.append_nil] at hcontent
      rw [BlockKind.block?_of_balanced content.balanced_print closes_padded_endblock] at hstep
      simp only [hcontent, ihrest] at hstep
      simpa only [print, unwrapped, List.append_assoc] using hstep

theorem blocksOf_print (sheet : Sheet) (s : Text) :
    blocksOf (sheet.print ++ s) =
      (sheet.blocks.map fun d => (d.1.text, d.2.print)) ++ blocksOf s := by
  induction sheet generalizing s with
  | done => rfl
  | text t rest ih =>
      rw [print, List.append_assoc, blocksOf_pass (BlockKind.passes_of_unopened t.unopened), ih]
      rfl
  | directive d rest ih =>
      rw [print, List.append_assoc, blocksOf_pass d.passes, ih]
      rfl
  | block name content rest ihcontent ihrest =>
      have hclosers : blocksOf (mark (padded "endblock".toList) ++ (rest.print ++ s)) =
          blocksOf (rest.print ++ s) := by
        rw [blocksOf_eq, blocksOf_eq (rest.print ++ s), passes_endblock_opener]
        cases BlockKind.block.opener.cut? (rest.print ++ s) <;> rfl
      simp only [print, List.append_assoc]
      rw [blocksOf_eq, Scanner.cut?_mark_of_some (opens_quotedIn name).reads
        (opener_onMark_quotedIn name)]
      simp only [BlockKind.block?_of_balanced content.balanced_print closes_padded_endblock,
        ihcontent, hclosers, ihrest, blocks, List.map_cons, List.map_append, List.append_assoc,
        blockName, List.headD_cons, List.cons_append]

theorem passes_unwrapped (sheet : Sheet) : BlockKind.block.Passes sheet.unwrapped := by
  induction sheet with
  | done => exact BlockKind.passes_of_unopened .nil
  | text t rest ih => exact (BlockKind.passes_of_unopened t.unopened).append ih
  | directive d rest ih => exact d.passes.append ih
  | block name content rest ihcontent ihrest => exact ihcontent.append ihrest

end Sheet

end Stencil.Template
