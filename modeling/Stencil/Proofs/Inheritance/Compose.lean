import Mathlib.Data.List.Nodup
import Mathlib.Data.List.Perm.Subperm
import Stencil.Proofs.Inheritance.Chain

namespace Stencil.Template

open Stencil.Text

/-! What composing a chain reads off its templates, and the composed template. -/

theorem lookup_of_mem {defs : Definitions} (hnames : (defs.map Prod.fst).Nodup)
    {d : Label × Sheet} (hmem : d ∈ defs) : defs.lookup d.1 = some d.2 := by
  induction defs with
  | nil => cases hmem
  | cons other defs ih =>
      have hparts := List.nodup_cons.mp hnames
      rcases List.mem_cons.mp hmem with rfl | hlater
      · exact List.lookup_cons_self
      · have hne : d.1 ≠ other.1 := fun heq => hparts.1 (heq ▸ List.mem_map_of_mem hlater)
        have hne' : (d.1 == other.1) = false := by simpa using hne
        rw [List.lookup_cons, hne']
        exact ih hparts.2 hlater

namespace Sheet

theorem blocks_subset {sheet : Sheet} {d : Label × Sheet} (h : d ∈ sheet.blocks) :
    d.2.blocks ⊆ sheet.blocks := by
  induction sheet with
  | done => cases h
  | text s rest ih => exact ih h
  | directive a rest ih => exact ih h
  | block name content rest ihcontent ihrest =>
      intro other hother
      simp only [blocks, List.mem_cons, List.mem_append] at h ⊢
      rcases h with rfl | hcontent | hrest
      · exact .inr (.inl hother)
      · exact .inr (.inl (ihcontent hcontent hother))
      · exact .inr (.inr (ihrest hrest hother))

theorem passesOver_extends (sheet : Sheet) :
    (quotedName "extends".toList).PassesOver sheet.print := by
  have hmark : ∀ {inside : Text}, inside.Enclosed →
      (words inside).head? ≠ some "extends".toList →
      (quotedName "extends".toList).PassesOver (mark inside) := by
    intro inside hinside hhead
    have hnone : ∀ rest, quotedName "extends".toList (mark inside ++ rest) =
        (none : Option Text).map (·, rest) := quotedName_mark_of_head? hhead
    exact Scanner.cut?_mark_of_none hinside (Scanner.readsWhole_of _ hnone)
      (Scanner.onMark_eq hnone)
  induction sheet with
  | done => exact Scanner.cut?_append_of_unopened .nil
  | text s rest ih =>
      have htext : (quotedName "extends".toList).PassesOver s.text :=
        Scanner.cut?_append_of_unopened s.unopened
      exact htext.append ih
  | directive d rest ih => exact (hmark d.enclosed (d.apart _ (by decide))).append ih
  | block name content rest ihcontent ihrest =>
      have hinside : (quotedIn "block".toList name.text).Enclosed := enclosed_quotedIn name
      have hopener := hmark hinside (by rw [head?_words_quotedIn]; decide)
      have hcloser := hmark closes_padded_endblock.enclosed
        (by rw [head?_words_padded_keyword]; decide)
      exact hopener.append (ihcontent.append (hcloser.append ihrest))

theorem extendsName_print (sheet : Sheet) : extendsName sheet.print = none := by
  have hpass := sheet.passesOver_extends []
  rw [List.append_nil, Scanner.cut?_nil, Option.map_none] at hpass
  rw [extendsName, Scanner.find?_eq_none_iff.mpr hpass, Option.map_none]

theorem definedBy_blocks {sheet : Sheet} (hnames : (sheet.blocks.map Prod.fst).Nodup) :
    DefinedBy sheet.blocks sheet :=
  fun _ hmem => lookup_of_mem hnames hmem

end Sheet

theorem closed_of_nodup {defs : Definitions} (hnames : (defs.map Prod.fst).Nodup)
    (hnested : ∀ d ∈ defs, d.2.blocks ⊆ defs) : Closed defs := by
  intro name content hlookup d hmem
  obtain ⟨first, second, rfl, _⟩ := List.lookup_eq_some_iff.mp hlookup
  exact lookup_of_mem hnames (hnested (name, content) (by simp) hmem)

namespace Layer

theorem blocks_subset {layer : Layer} {d : Label × Sheet} (h : d ∈ layer.blocks) :
    d.2.blocks ⊆ layer.blocks := by
  rcases List.mem_append.mp h with hbefore | hbehind
  · exact fun _ hother => List.mem_append_left _ (Sheet.blocks_subset hbefore hother)
  · exact fun _ hother => List.mem_append_right _ (Sheet.blocks_subset hbehind hother)

theorem extendsName_print (layer : Layer) : extendsName layer.print = some layer.parent.text := by
  have hread : ∀ rest, quotedName "extends".toList
      (mark (quotedIn "extends".toList layer.parent.text) ++ rest) =
        (some layer.parent.text).map (·, rest) :=
    quotedName_mark_quotedIn layer.parent.quotable layer.parent.ne_nil
  have hcut : (quotedName "extends".toList).cut? layer.print = _ :=
    (layer.before.passesOver_extends _).trans (congrArg _
      (Scanner.cut?_mark_of_some (Scanner.readsWhole_of _ hread) (Scanner.onMark_eq hread) _))
  have hvalue : extendsName layer.print =
      ((quotedName "extends".toList).cut? layer.print).map (·.value) := by
    rw [extendsName, Scanner.cut?, Option.map_map]
    rfl
  rw [hvalue, hcut]
  rfl

theorem blocksOf_print (layer : Layer) :
    blocksOf layer.print = layer.blocks.map fun d => (d.1.text, d.2.print) := by
  have hextends : BlockKind.block.Passes (mark (quotedIn "extends".toList layer.parent.text)) :=
    BlockKind.passes_of_head? (enclosed_quotedIn layer.parent)
      (by rw [head?_words_quotedIn]; decide)
  have hbehind := layer.behind.blocksOf_print []
  have hnil : blocksOf [] = [] := by rw [blocksOf_eq, Scanner.cut?_nil]
  rw [hnil, List.append_nil, List.append_nil] at hbehind
  rw [print, Sheet.blocksOf_print, blocksOf_pass hextends, hbehind, blocks, List.map_append]

end Layer

theorem extractBlocks_of_nodup {template : Text}
    (hnames : ((blocksOf template).map Prod.fst).Nodup) :
    extractBlocks template = blocksOf template := by
  have hfold : ∀ (rest seen : List (Text × Text)), ((seen ++ rest).map Prod.fst).Nodup →
      rest.foldl (fun blocks d => if blocks.any (·.1 == d.1) then blocks else blocks ++ [d]) seen =
        seen ++ rest := by
    intro rest
    induction rest with
    | nil => simp
    | cons d rest ih =>
        intro seen hseen
        have hfresh : seen.any (·.1 == d.1) = false := by
          rw [List.any_eq_false]
          intro other hother heq
          rw [List.map_append, List.nodup_append] at hseen
          exact hseen.2.2 _ (List.mem_map_of_mem hother) _
            (List.mem_map_of_mem List.mem_cons_self) (by simpa using heq)
        have hnext := ih (seen ++ [d]) (by simpa using hseen)
        simpa [hfresh] using hnext
  exact hfold (blocksOf template) [] hnames

theorem Layer.extractBlocks_print {layer : Layer}
    (hnames : (layer.blocks.map Prod.fst).Nodup) :
    extractBlocks layer.print = layer.blocks.map fun d => (d.1.text, d.2.print) := by
  rw [extractBlocks_of_nodup, layer.blocksOf_print]
  rw [layer.blocksOf_print, List.map_map]
  have hmap : layer.blocks.map (Prod.fst ∘ fun d => (d.1.text, d.2.print)) =
      (layer.blocks.map Prod.fst).map Label.text := by
    rw [List.map_map]
    rfl
  rw [hmap]
  exact hnames.map fun _ _ => Label.ext

/-! The chain ends before the fuel does. -/

section

variable {layouts : LayoutSource} {layers : List Layer} {root : Sheet}

theorem Leads.mem_texts (h : Leads layouts layers root) :
    ∀ layer ∈ layers.tail, layer.print ∈ layouts.texts := by
  induction layers with
  | nil => exact fun _ hmem => (nomatch hmem)
  | cons layer layers ih =>
      intro other hother
      cases layers with
      | nil => cases hother
      | cons next layers =>
          rcases List.mem_cons.mp hother with rfl | hlater
          · exact layouts.mem_texts h.1
          · exact ih h.2 other hlater

theorem Leads.length_le (h : Leads layouts layers root)
    (hparents : (layers.map (·.parent.text)).Nodup) :
    layers.length ≤ layouts.texts.length + 1 := by
  have htail : ((layers.tail.map Layer.print).map extendsName).Nodup := by
    have hnames : (layers.tail.map Layer.print).map extendsName =
        (layers.tail.map (·.parent.text)).map some := by
      simp only [List.map_map]
      exact List.map_congr_left fun layer _ => layer.extendsName_print
    rw [hnames, List.map_tail]
    exact hparents.tail.map fun _ _ => Option.some.inj
  have hsubset : layers.tail.map Layer.print ⊆ layouts.texts := by
    intro text htext
    obtain ⟨layer, hlayer, rfl⟩ := List.mem_map.mp htext
    exact h.mem_texts layer hlayer
  have hle := (List.subperm_of_subset (List.Nodup.of_map _ htail) hsubset).length_le
  rw [List.length_map, List.length_tail] at hle
  omega

theorem compose_chain (h : Leads layouts layers root) {chain : List Text}
    (hparents : (chain ++ layers.map (·.parent.text)).Nodup)
    (hnames : ∀ layer ∈ layers, (layer.blocks.map Prod.fst).Nodup) {fuel : Nat}
    (hfuel : layers.length < fuel) :
    compose (fun name => layouts.resolve name none "html".toList) fuel
        (chainText layers root) chain =
      .ok (splices (layers.map Layer.blocks) root).print := by
  induction layers generalizing chain fuel with
  | nil =>
      cases fuel with
      | zero => cases hfuel
      | succ fuel =>
          rw [compose, chainText, root.extendsName_print]
          rfl
  | cons layer layers ih =>
      cases fuel with
      | zero => cases hfuel
      | succ fuel =>
          have hfresh : chain.elem layer.parent.text = false := by
            rw [List.elem_eq_mem, decide_eq_false_iff_not]
            intro hmem
            rw [List.nodup_append] at hparents
            exact hparents.2.2 _ hmem _ (by simp) rfl
          have hlonger : (chain ++ [layer.parent.text] ++
              layers.map (·.parent.text)).Nodup := by simpa using hparents
          have hbase := ih h.2 hlonger
            (fun other hother => hnames other (List.mem_cons_of_mem _ hother))
            (Nat.lt_of_succ_lt_succ hfuel)
          have hsplice := (splices (layers.map Layer.blocks) root).spliceBlocks_print
            layer.blocks []
          have hnil : spliceBlocks (layer.blocks.map fun d => (d.1.text, d.2.print)) [] = [] :=
            (spliceBlocks_drives _).nil
          rw [hnil, List.append_nil, List.append_nil] at hsplice
          have hextract := Layer.extractBlocks_print (hnames layer List.mem_cons_self)
          rw [compose, chainText, layer.extendsName_print]
          simp only [hfresh, h.1, hextract, Bool.false_eq_true, if_false]
          change (do
            let base ← compose (fun name => layouts.resolve name none "html".toList) fuel
              (chainText layers root) (chain ++ [layer.parent.text])
            return spliceBlocks (layer.blocks.map fun d : Label × Sheet => (d.1.text, d.2.print))
              base) = _
          rw [hbase]
          exact congrArg Except.ok hsplice

/-- A chain is resolved to what is left of the spliced root without the marks of its blocks. -/
theorem resolveInheritance_splices {name : Option Text} (hleads : Leads layouts layers root)
    (hchain : (name.toList ++ layers.map (·.parent.text)).Nodup)
    (hnames : ∀ layer ∈ layers, (layer.blocks.map Prod.fst).Nodup) :
    resolveInheritance layouts (chainText layers root) name =
      .ok (splices (layers.map Layer.blocks) root).unwrapped := by
  have hfuel : layers.length < layouts.texts.length + 2 :=
    Nat.lt_succ_of_le (hleads.length_le (hchain.sublist (List.sublist_append_right _ _)))
  have hunwrap := (splices (layers.map Layer.blocks) root).unwrapBlocks_print []
  have hnil : unwrapBlocks [] = [] := unwrapBlocks_drives.nil
  rw [hnil, List.append_nil, List.append_nil] at hunwrap
  have hrun : ∀ chain : List Text, chain.Sublist name.toList →
      (do return unwrapBlocks (← compose (fun name => layouts.resolve name none "html".toList)
        (layouts.texts.length + 2) (chainText layers root) chain)) =
        .ok (splices (layers.map Layer.blocks) root).unwrapped := by
    intro chain hsub
    rw [compose_chain hleads (hchain.sublist (hsub.append_right _)) hnames hfuel]
    exact congrArg Except.ok hunwrap
  -- A template without a name, or with an empty one, is not part of its own chain.
  cases name with
  | none => exact hrun [] (List.nil_sublist _)
  | some own =>
      cases own with
      | nil => exact hrun [] (List.nil_sublist _)
      | cons c own => exact hrun [c :: own] (List.Sublist.refl _)

theorem expands_definitions
    (hnames : ∀ defs ∈ definitions layers root, (defs.map Prod.fst).Nodup) :
    Expands (latest (definitions layers root)) root
      (splices (layers.map Layer.blocks) root).unwrapped := by
  have hroot : (root.blocks.map Prod.fst).Nodup :=
    hnames _ (List.mem_append_right _ List.mem_cons_self)
  have hclosed : ∀ defs ∈ definitions layers root, Closed defs := by
    intro defs hdefs
    refine closed_of_nodup (hnames defs hdefs) ?_
    rcases List.mem_append.mp hdefs with hlayer | hlast
    · obtain ⟨layer, _, rfl⟩ := List.mem_map.mp hlayer
      exact fun _ => Layer.blocks_subset
    · cases List.mem_singleton.mp hlast
      exact fun _ => Sheet.blocks_subset
  exact expands_splices hclosed (Sheet.definedBy_blocks hroot)

/-- Of every block the content in the most derived template that defines it stands in the composed
template, in that content the same again, and no mark of a block is left. -/
theorem resolveInheritance_chain (layouts : LayoutSource) (layers : List Layer) (root : Sheet)
    (name : Option Text) (hleads : Leads layouts layers root)
    (hchain : (name.toList ++ layers.map (·.parent.text)).Nodup)
    (hnames : ∀ defs ∈ definitions layers root, (defs.map Prod.fst).Nodup) :
    ∃ out, resolveInheritance layouts (chainText layers root) name = .ok out ∧
      (∀ other, Expands (latest (definitions layers root)) root other ↔ other = out) ∧
      BlockKind.block.opener.find? out = none ∧ BlockKind.block.closer.find? out = none := by
  have hlayers : ∀ layer ∈ layers, (layer.blocks.map Prod.fst).Nodup := fun layer hmem =>
    hnames _ (List.mem_append_left _ (List.mem_map_of_mem hmem))
  have hexpands := expands_definitions hnames
  have hpasses := (splices (layers.map Layer.blocks) root).passes_unwrapped
  refine ⟨(splices (layers.map Layer.blocks) root).unwrapped,
    resolveInheritance_splices hleads hchain hlayers, ?_, ?_, ?_⟩
  · intro other
    exact ⟨fun h => h.unique hexpands, fun h => h ▸ hexpands⟩
  · have hopener := hpasses.opener []
    rw [List.append_nil] at hopener
    exact Scanner.find?_eq_none_iff.mpr hopener
  · have hcloser := hpasses.closer []
    rw [List.append_nil] at hcloser
    exact Scanner.find?_eq_none_iff.mpr hcloser

end

/-! A page in a guide in a site. -/

def siteLayout : Sheet :=
  .text ⟨"<h1>".toList, by decide⟩
    (.block ⟨"title".toList, by decide, by decide, by decide⟩
      (.text ⟨"Site".toList, by decide⟩ .done)
      (.text ⟨"</h1>".toList, by decide⟩
        (.block ⟨"body".toList, by decide, by decide, by decide⟩
          (.block ⟨"note".toList, by decide, by decide, by decide⟩
            (.text ⟨"None".toList, by decide⟩ .done) .done) .done)))

def guideLayout : Layer where
  before := .text ⟨"Draft".toList, by decide⟩ .done
  parent := ⟨"site".toList, by decide, by decide, by decide⟩
  behind :=
    .block ⟨"body".toList, by decide, by decide, by decide⟩
      (.text ⟨"<main>".toList, by decide⟩
        (.block ⟨"note".toList, by decide, by decide, by decide⟩
          (.text ⟨"See the guide".toList, by decide⟩ .done)
          (.text ⟨"</main>".toList, by decide⟩ .done))) .done

def notePage : Layer where
  before := .done
  parent := ⟨"guide".toList, by decide, by decide, by decide⟩
  behind :=
    .block ⟨"note".toList, by decide, by decide, by decide⟩
      (.directive ⟨⟨" note ".toList, by decide⟩, by decide⟩ .done) .done

def guideTable : LayoutTable :=
  ⟨[("site.html".toList, siteLayout.print), ("guide.html".toList, guideLayout.print)]⟩

theorem resolveInheritance_chain_note :
    Leads guideTable.source [notePage, guideLayout] siteLayout ∧
      resolveInheritance guideTable.source notePage.print (some "page".toList) =
        .ok "<h1>Site</h1><main>\x7b\x7b note \x7d\x7d</main>".toList := by
  have hleads : Leads guideTable.source [notePage, guideLayout] siteLayout :=
    ⟨by rfl, by rfl, trivial⟩
  obtain ⟨out, hout, hexpands, _⟩ := resolveInheritance_chain guideTable.source
    [notePage, guideLayout] siteLayout (some "page".toList) hleads (by decide) (by decide)
  refine ⟨hleads, ?_⟩
  have hnote := (hexpands _).mp (.text _ (.block rfl (.text _ .done) (.text _ (.block rfl
    (.text _ (.block rfl (.directive _ .done) (.text _ .done))) .done))))
  have hrun : resolveInheritance guideTable.source notePage.print (some "page".toList) =
    .ok out := hout
  rw [hrun, ← hnote]
  rfl

end Stencil.Template
