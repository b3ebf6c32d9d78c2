import Stencil.Proofs.Value.Unclosed
import Stencil.Site.Navigation

namespace Stencil

/-! What templates ask of pages, collections and sites brings no closing brace in. -/

section

variable {p q : Page} {s : Site} {ps : List Page} {items : List Value}

/-! Fields. -/

section

variable [h : IsUnclosed p]

instance instIsUnclosedTitle : IsUnclosed p.title := h.of_field (by simp [Page.fields])

instance instIsUnclosedUrl : IsUnclosed p.url := h.of_field (by simp [Page.fields])

instance instIsUnclosedContent : IsUnclosed p.content := h.of_field (by simp [Page.fields])

instance instIsUnclosedDateField : IsUnclosed p.date := h.of_field (by simp [Page.fields])

instance instIsUnclosedTags : IsUnclosed p.tags := h.of_field (by simp [Page.fields])

instance instIsUnclosedCategories : IsUnclosed p.categories := h.of_field (by simp [Page.fields])

instance instIsUnclosedSection : IsUnclosed p.section_ := h.of_field (by simp [Page.fields])

instance instIsUnclosedKind : IsUnclosed p.kind := h.of_field (by simp [Page.fields])

instance instIsUnclosedLayout : IsUnclosed p.layout := h.of_field (by simp [Page.fields])

instance instIsUnclosedDraft : IsUnclosed p.draft := h.of_field (by simp [Page.fields])

instance instIsUnclosedDescription : IsUnclosed p.description :=
  h.of_field (by simp [Page.fields])

instance instIsUnclosedExcerpt : IsUnclosed p.excerpt := h.of_field (by simp [Page.fields])

instance instIsUnclosedParams : IsUnclosed p.params := h.of_field (by simp [Page.fields])

end

section

variable [h : IsUnclosed s]

theorem IsUnclosed.of_site_text {t : Text}
    (ht : t ∈ [s.title, s.baseUrl, s.description, s.author, s.copyright, s.theme]) :
    IsUnclosed t := by
  cases h.holds with
  | site _ htexts _ _ _ _ _ _ => exact .of_text (htexts t ht)

instance instIsUnclosedSiteTitle : IsUnclosed s.title := .of_site_text (s := s) (by simp)

instance instIsUnclosedBaseUrl : IsUnclosed s.baseUrl := .of_site_text (s := s) (by simp)

instance instIsUnclosedSiteDescription : IsUnclosed s.description :=
  .of_site_text (s := s) (by simp)

instance instIsUnclosedAuthor : IsUnclosed s.author := .of_site_text (s := s) (by simp)

instance instIsUnclosedCopyright : IsUnclosed s.copyright := .of_site_text (s := s) (by simp)

instance instIsUnclosedTheme : IsUnclosed s.theme := .of_site_text (s := s) (by simp)

instance instIsUnclosedSiteParams : IsUnclosed s.params := by
  cases h.holds with
  | site _ _ hparams _ _ _ _ _ => exact ⟨hparams⟩

instance instIsUnclosedData : IsUnclosed s.data := by
  cases h.holds with
  | site _ _ _ hdata _ _ _ _ => exact ⟨hdata⟩

instance instIsUnclosedMenus : IsUnclosed s.menus := by
  cases h.holds with
  | site _ _ _ _ _ hmenus hentries _ =>
      exact ⟨fun menu hmenu => ⟨hmenus menu hmenu, hentries menu hmenu⟩⟩

instance instIsUnclosedSiteBuild : IsUnclosed s.build := by
  cases h.holds with
  | site _ _ _ _ _ _ _ hbuild => exact ⟨.build _ hbuild⟩

instance instIsUnclosedSitePages : IsUnclosed s.pages := by
  cases h.holds with
  | site _ _ _ _ hpages _ _ _ => exact ⟨hpages⟩

instance instIsUnclosedPageValues : IsUnclosed s.pageValues := by
  unfold Site.pageValues
  infer_instance

end

/-! Pages. -/

namespace Page

variable [IsUnclosed p]

instance instGivesUnclosedPlain : GivesUnclosed p.plain := by
  have hcontent : IsUnclosed p.content := inferInstance
  unfold plain
  split
  · next s hs =>
      rw [hs] at hcontent
      have htext := hcontent.of_text_value
      infer_instance
  · infer_instance

instance instGivesUnclosedSummary : GivesUnclosed p.summary := by
  have hellipsis : IsUnclosed Text.ellipsis := .of_text (by decide)
  unfold summary
  infer_instance

instance instGivesUnclosedDateFormatted : GivesUnclosed p.dateFormatted := by
  unfold dateFormatted
  infer_instance

instance instGivesUnclosedType : GivesUnclosed p.type := by
  have hpage : IsUnclosed "page".toList := .of_text (by decide)
  unfold type
  infer_instance

instance instIsUnclosedSortDate : IsUnclosed p.sortDate := by
  unfold sortDate
  infer_instance

end Page

instance instGivesUnclosedPermalink [IsUnclosed s] [IsUnclosed p] :
    GivesUnclosed (s.permalink p) := by
  unfold Site.permalink
  infer_instance

/-! Collections. -/

namespace Collection

instance instGivesUnclosedPageOf {v : Value} [h : IsUnclosed v] : GivesUnclosed (pageOf v) := by
  unfold pageOf
  split
  · next p =>
      have hp : IsUnclosed p := ⟨h.holds⟩
      infer_instance
  · infer_instance

variable [IsUnclosed items]

instance instGivesUnclosedNarrow (test : Page → Except Fault Bool) :
    GivesUnclosed (narrow test items) := by
  unfold narrow
  infer_instance

instance instGivesUnclosedInSection (name : Text) : GivesUnclosed (inSection name items) := by
  unfold inSection
  infer_instance

instance instGivesUnclosedWithTag (tag : Text) : GivesUnclosed (withTag tag items) := by
  unfold withTag
  infer_instance

instance instGivesUnclosedOfKind (kind : Text) : GivesUnclosed (ofKind kind items) := by
  unfold ofKind
  infer_instance

instance instGivesUnclosedRegular : GivesUnclosed (regular items) := by
  unfold regular
  infer_instance

instance instGivesUnclosedPublished : GivesUnclosed (published items) := by
  unfold published
  infer_instance

instance instGivesUnclosedSortKey {v : Value} [IsUnclosed v] : GivesUnclosed (sortKey v) := by
  unfold sortKey
  infer_instance

instance instGivesUnclosedSorted (newestFirst : Bool) :
    GivesUnclosed (sorted items newestFirst) := by
  unfold sorted
  infer_instance

instance instGivesUnclosedLatest (count : Int) : GivesUnclosed (latest count items) := by
  unfold latest
  infer_instance

end Collection

/-! The ways between pages. -/

section

variable {title url : Value} {active : Bool} {c : Crumb}

instance instIsUnclosedCrumbMk [htitle : IsUnclosed title] [hurl : IsUnclosed url] :
    IsUnclosed (⟨title, url, active⟩ : Crumb) := ⟨.crumb _ htitle.holds hurl.holds⟩

instance instIsUnclosedCrumbTitle [h : IsUnclosed c] : IsUnclosed c.title := by
  cases h.holds with
  | crumb _ htitle _ => exact ⟨htitle⟩

instance instIsUnclosedCrumbUrl [h : IsUnclosed c] : IsUnclosed c.url := by
  cases h.holds with
  | crumb _ _ hurl => exact ⟨hurl⟩

instance instIsUnclosedPrev {n : SectionNav} [h : IsUnclosed n] : IsUnclosed n.prev := by
  cases h.holds with
  | sectionNav _ hprev _ => exact ⟨hprev⟩

instance instIsUnclosedNext {n : SectionNav} [h : IsUnclosed n] : IsUnclosed n.next := by
  cases h.holds with
  | sectionNav _ _ hnext => exact ⟨hnext⟩

instance instIsUnclosedEntryName {e : MenuEntry} [h : IsUnclosed e] : IsUnclosed e.name := by
  cases h.holds with
  | menuEntry _ hname _ => exact .of_text hname

instance instIsUnclosedEntryUrl {e : MenuEntry} [h : IsUnclosed e] : IsUnclosed e.url := by
  cases h.holds with
  | menuEntry _ _ hurl => exact .of_text hurl

instance instIsUnclosedCacheDir {b : BuildSettings} [h : IsUnclosed b] :
    IsUnclosed b.cacheDir := by
  cases h.holds with
  | build _ hdir => exact .of_text hdir

instance instIsUnclosedSectionNavMk {prev next : Value} [hprev : IsUnclosed prev]
    [hnext : IsUnclosed next] : IsUnclosed (⟨prev, next⟩ : SectionNav) :=
  ⟨.sectionNav _ hprev.holds hnext.holds⟩

end

namespace Navigation

variable [IsUnclosed ps]

instance instIsUnclosedSectionIndex (section_ : Value) :
    IsUnclosed (sectionIndex? section_ ps) := by
  unfold sectionIndex?
  infer_instance

variable [IsUnclosed p]

instance instIsUnclosedAncestors {section_ : Text} [IsUnclosed section_] :
    IsUnclosed (ancestors section_) := by
  have hslash : IsUnclosed '/' := .of_char (by decide)
  have hcounts : ∀ n, IsUnclosed (List.range n) := fun _ => ⟨fun _ _ => trivial⟩
  unfold ancestors
  dsimp only
  infer_instance

instance instGivesUnclosedBreadcrumbs {homeTitle : Text} [IsUnclosed homeTitle] :
    GivesUnclosed (breadcrumbs p ps homeTitle) := by
  have hhome : IsUnclosed "Home".toList := .of_text (by decide)
  have hslash : IsUnclosed '/' := .of_char (by decide)
  unfold breadcrumbs
  dsimp only
  split
  · infer_instance
  · refine .bind fun section_ hsection => ?_
    have hname : IsUnclosed section_ := GivesUnclosed.of_eq_ok section_ hsection
    generalize htrail : List.map _ (ancestors section_) = trail
    have hsteps : IsUnclosed trail := by
      rw [← htrail]
      refine .of_forall fun step hstep => ?_
      obtain ⟨⟨path, segment⟩, hmem, rfl⟩ := List.mem_map.mp hstep
      have hpair : IsUnclosed (path, segment) := .of_mem inferInstance hmem
      have hpath : IsUnclosed path := hpair.fst
      have hsegment : IsUnclosed segment := hpair.snd
      dsimp only
      cases hindex : sectionIndex? (.text path) ps with
      | none => infer_instance
      | some index =>
          have hfound : IsUnclosed index := .of_mem_option inferInstance hindex
          infer_instance
    infer_instance

instance instGivesUnclosedSectionPages (section_ : Value) :
    GivesUnclosed (sectionPages section_ ps) := by
  unfold sectionPages
  infer_instance

instance instGivesUnclosedSectionNav : GivesUnclosed (sectionNav p ps) := by
  unfold sectionNav
  split
  · infer_instance
  · refine .bind fun ordered hordered => ?_
    have hpages : IsUnclosed ordered := GivesUnclosed.of_eq_ok ordered hordered
    dsimp only
    split <;> infer_instance

instance instGivesUnclosedParent : GivesUnclosed (parent p ps) := by
  have hslash : IsUnclosed '/' := .of_char (by decide)
  unfold parent
  dsimp only
  infer_instance

instance instGivesUnclosedChildren : GivesUnclosed (children p ps) := by
  unfold children
  infer_instance

instance instGivesUnclosedRelated (count : Int) : GivesUnclosed (related p ps count) := by
  unfold related
  infer_instance

end Navigation

end

end Stencil
