import Stencil.Proofs.Site.Listing

namespace Stencil

/-! Texts among values. -/

namespace Value

theorem isIn_texts {t : Text} {texts : List Text} :
    (text t).isIn (texts.map .text) = texts.contains t := by
  have htest : ((text t).eq ·) ∘ text = (t == ·) := by
    funext s
    rw [Function.comp_apply, eq]
  rw [isIn, List.any_map, htest, List.any_beq]

theorem distinct_texts (texts : List Text) :
    ∃ kept : List Text, distinct (texts.map .text) = kept.map .text ∧ kept.Nodup ∧
      ∀ t, t ∈ kept ↔ t ∈ texts := by
  have hseen : ∀ seen : List Text, seen.Nodup →
      ∃ kept : List Text, (texts.map Value.text).foldl
        (fun seen v => if v.isIn seen then seen else v :: seen) (seen.map .text) =
          kept.map .text ∧ kept.Nodup ∧ ∀ t, t ∈ kept ↔ t ∈ seen ∨ t ∈ texts := by
    induction texts with
    | nil => exact fun seen hseen => ⟨seen, rfl, hseen, fun t => by simp⟩
    | cons s texts ih =>
        intro seen hseen
        rw [List.map_cons, List.foldl_cons, isIn_texts]
        by_cases hmem : s ∈ seen
        · obtain ⟨kept, hkept, hnodup, hiff⟩ := ih seen hseen
          rw [List.contains_iff_mem.mpr hmem, if_pos rfl]
          refine ⟨kept, hkept, hnodup, fun t => ?_⟩
          rw [hiff, List.mem_cons]
          refine ⟨Or.imp_right .inr, ?_⟩
          rintro (hseen | rfl | htexts)
          · exact .inl hseen
          · exact .inl hmem
          · exact .inr htexts
        · obtain ⟨kept, hkept, hnodup, hiff⟩ := ih (s :: seen) (List.nodup_cons.mpr ⟨hmem, hseen⟩)
          have hnew : seen.contains s = false := by
            rwa [Bool.eq_false_iff, ne_eq, List.contains_iff_mem]
          rw [hnew, if_neg Bool.false_ne_true]
          refine ⟨kept, hkept, hnodup, fun t => ?_⟩
          rw [hiff, List.mem_cons, List.mem_cons, or_assoc, or_left_comm]
  obtain ⟨kept, hkept, hnodup, hiff⟩ := hseen [] List.nodup_nil
  refine ⟨kept.reverse, ?_, (List.reverse_perm kept).nodup_iff.mpr hnodup, fun t => by simp [hiff]⟩
  rw [distinct, List.map_reverse, ← hkept]
  rfl

theorem countP_texts (t : Text) (texts : List Text) :
    (texts.map Value.text).countP (·.eq (.text t)) = texts.count t := by
  have htest : (·.eq (.text t)) ∘ text = (· == t) := by
    funext s
    rw [Function.comp_apply, eq]
  rw [List.countP_map, htest, List.count]

end Value

/-! Tags of pages. -/

def Page.tagTexts (p : Page) : List Text := p.tagValues.filterMap (·.asText?)

def Page.Tagged (p : Page) : Prop := ∃ texts : List Text, p.tags = .list (texts.map .text)

def carriers (t : Text) (pages : List Page) : List Page :=
  (singles pages).filter (·.tagTexts.contains t)

namespace Page.Tagged

variable {p : Page}

theorem tags_eq (h : p.Tagged) : p.tags = .list (p.tagTexts.map .text) := by
  obtain ⟨texts, htexts⟩ := h
  have htags : p.tagTexts = texts := by
    simp only [tagTexts, tagValues, htexts, Value.sequence?, Option.getD_some, List.filterMap_map]
    exact List.filterMap_some
  rw [htags, htexts]

theorem keys_tags (h : p.Tagged) : p.tags.keys = .ok (p.tagTexts.map .text) := by
  have hkeys : (p.tagTexts.map Value.text).all Value.isKey = true := by simp [Value.isKey]
  rw [h.tags_eq, Value.keys, Value.elements, ok_bind, if_pos hkeys]

theorem holdsText_tags (h : p.Tagged) (t : Text) :
    p.tags.holdsText t = .ok (p.tagTexts.contains t) := by
  rw [h.tags_eq]
  exact congrArg Except.ok Value.isIn_texts

end Page.Tagged

/-- The tags of the single pages, each as often as it stands on one. -/
def occurrences (pages : List Page) : List Text := (singles pages).flatMap (·.tagTexts)

theorem mem_occurrences {t : Text} {pages : List Page} :
    t ∈ occurrences pages ↔ ∃ p ∈ singles pages, t ∈ p.tagTexts :=
  List.mem_flatMap

/-- A page carries a tag at least once, and more often only if the tag is repeated on it. -/
theorem length_filter_le_count {t : Text} (pages : List Page) :
    (pages.filter (·.tagTexts.contains t)).length ≤ (pages.flatMap (·.tagTexts)).count t ∧
      ((pages.filter (·.tagTexts.contains t)).length = (pages.flatMap (·.tagTexts)).count t ↔
        ∀ p ∈ pages, p.tagTexts.count t ≤ 1) := by
  induction pages with
  | nil => simp
  | cons p pages ih =>
      obtain ⟨hle, hiff⟩ := ih
      rw [List.flatMap_cons, List.count_append, List.filter_cons, List.forall_mem_cons, ← hiff]
      by_cases hmem : t ∈ p.tagTexts
      · have hpos : 0 < p.tagTexts.count t := List.count_pos_iff.mpr hmem
        rw [List.contains_iff_mem.mpr hmem, if_pos rfl, List.length_cons]
        omega
      · have hnone : p.tagTexts.count t = 0 := List.count_eq_zero.mpr hmem
        rw [if_neg (by rwa [List.contains_iff_mem]), hnone]
        omega

namespace Context

theorem tagCloud_eq {site : Site} (h : ∀ p ∈ site.pages, p.Tagged) :
    ∃ tags : List Text, tags.Pairwise (fun s t => Text.lt s t = true) ∧
      (∀ t, t ∈ tags ↔ t ∈ occurrences site.pages) ∧
      tagCloud site = .ok (.map (tags.map fun t =>
        (.text t, .int ((occurrences site.pages).count t)))) := by
  have hsingles : ∀ p ∈ singles site.pages, p.Tagged := fun p hp => h p (List.mem_filter.mp hp).1
  have hkeys : ((singles site.pages).map Value.page).mapM
      (fun v => do (← Collection.pageOf v).tags.keys) =
      (.ok ((singles site.pages).map fun p => p.tagTexts.map Value.text) : Except Fault _) := by
    rw [List.mapM_map]
    exact mapM_eq_map fun p hp => (hsingles p hp).keys_tags
  have hflatten : ((singles site.pages).map fun p => p.tagTexts.map Value.text).flatten =
      (occurrences site.pages).map .text := by
    rw [occurrences, List.map_flatMap, List.flatMap_def]
  obtain ⟨kept, hkept, hnodup, hmem⟩ := Value.distinct_texts (occurrences site.pages)
  refine ⟨kept.mergeSort Text.le, ?_, fun t => by rw [List.mem_mergeSort, hmem], ?_⟩
  · have hsorted := List.pairwise_mergeSort Text.sorts_le.trans Text.sorts_le.total kept
    have hdistinct := (List.mergeSort_perm kept Text.le).nodup_iff.mpr hnodup
    exact hsorted.imp₂ (fun _ _ => Text.lt_of_le_of_ne) hdistinct
  · have hcounted : ((kept.map Value.text).map fun tag =>
        (tag, (tag, Value.int (((occurrences site.pages).map Value.text).countP (·.eq tag))))) =
        kept.map fun t =>
          (Value.text t, (Value.text t, Value.int ((occurrences site.pages).count t))) := by
      rw [List.map_map]
      refine List.map_congr_left fun t _ => ?_
      rw [Function.comp_apply, Value.countP_texts]
    have hsorted : sortByKey Value.lt? (kept.map fun t =>
        (Value.text t, (Value.text t, Value.int ((occurrences site.pages).count t)))) =
        .ok ((kept.mergeSort Text.le).map fun t =>
          (Value.text t, Value.int ((occurrences site.pages).count t))) :=
      sortByKey_map fun s _ t _ => by rw [Value.lt?_texts, Text.le, Bool.not_not]
    unfold tagCloud
    rw [Site.pageValues, Collection.regular_pages, ok_bind, hkeys, ok_bind, hflatten]
    dsimp only
    rw [hkept, hcounted, hsorted, ok_bind]
    rfl

end Context

theorem Context.runQuery_tag {ctx : Context} (h : ∀ p ∈ ctx.site.pages, p.Tagged) (t : Text) :
    ctx.runQuery "content_by_tag".toList [.text t] =
      (Value.pages <$> Collection.sorted ((carriers t ctx.site.pages).map .page)) := by
  have hnarrow : Collection.withTag t ((singles ctx.site.pages).map .page) =
      .ok ((carriers t ctx.site.pages).map .page) :=
    Collection.narrow_eq_filter fun p hp => (h p (List.mem_filter.mp hp).1).holdsText_tags t
  change (do
    let pages ← Collection.regular ctx.site.pageValues
    return Value.pages (← Collection.sorted (← Collection.withTag t pages))) = _
  rw [Site.pageValues, Collection.regular_pages, ok_bind, hnarrow, ok_bind]
  rfl

theorem carriers_eq_nil_iff {t : Text} {pages : List Page} :
    carriers t pages = [] ↔ t ∉ occurrences pages := by
  rw [carriers, List.filter_eq_nil_iff, mem_occurrences]
  simp only [List.contains_iff_mem, not_exists, not_and]

/-- The cloud has the tags of the single pages and counts how often each stands on them. A listing
shows each page with the tag, so it has fewer pages than the cloud says exactly if a page has the
tag twice. -/
theorem tagCloud_listing {ctx : Context} (hsortable : ∀ p ∈ ctx.site.pages, p.Sortable)
    (htagged : ∀ p ∈ ctx.site.pages, p.Tagged) :
    ∃ cloud : List (Text × Nat),
      ctx.root? "tag_cloud".toList =
        some (.ok (.map (cloud.map fun (t, n) => (.text t, .int n)))) ∧
      (cloud.Pairwise fun a b => Text.lt a.1 b.1) ∧
      (∀ t, t ∈ cloud.map (·.1) ↔ ∃ p ∈ singles ctx.site.pages, t ∈ p.tagTexts) ∧
      (∀ entry ∈ cloud, entry.2 = (occurrences ctx.site.pages).count entry.1) ∧
      (∀ t, OrdersIf (Uniform (carriers t ctx.site.pages))
        (ctx.runQuery "content_by_tag".toList [.text t])) ∧
      (∀ t, t ∉ cloud.map (·.1) →
        ctx.runQuery "content_by_tag".toList [.text t] = .ok (.pages [])) ∧
      ∀ t answer, ctx.runQuery "content_by_tag".toList [.text t] = .ok answer →
        ∃ shown : List Value, answer = .pages shown ∧
          shown.Perm ((carriers t ctx.site.pages).map .page) ∧
          ∀ n, (t, n) ∈ cloud → shown.length ≤ n ∧
            (shown.length = n ↔ ∀ p ∈ singles ctx.site.pages, p.tagTexts.count t ≤ 1) := by
  obtain ⟨tags, hascending, hmem, hcloud⟩ := Context.tagCloud_eq htagged
  have hkeys : (tags.map fun t => (t, (occurrences ctx.site.pages).count t)).map (·.1) = tags := by
    rw [List.map_map, Function.comp_def, List.map_id']
  have hcarriers : ∀ t, ∀ p ∈ carriers t ctx.site.pages, p.Sortable := fun t p hp =>
    hsortable p (List.mem_filter.mp (List.mem_filter.mp hp).1).1
  refine ⟨tags.map fun t => (t, (occurrences ctx.site.pages).count t), ?_, ?_, ?_, ?_, ?_, ?_, ?_⟩
  · rw [List.map_map]
    exact congrArg some hcloud
  · exact List.pairwise_map.mpr hascending
  · intro t
    rw [hkeys, hmem, mem_occurrences]
  · exact List.forall_mem_map.mpr fun _ _ => rfl
  · intro t
    rw [Context.runQuery_tag htagged]
    exact (Collection.sorted_orders_of_sortable (hcarriers t) true).map _
  · intro t habsent
    rw [hkeys, hmem] at habsent
    rw [Context.runQuery_tag htagged, carriers_eq_nil_iff.mpr habsent,
      Collection.sorted_eq (List.forall_mem_nil _) (List.forall_mem_nil _), List.mergeSort_nil]
    rfl
  · intro t answer hanswer
    rw [Context.runQuery_tag htagged] at hanswer
    obtain ⟨shown, hshown, rfl⟩ := map_eq_ok.mp hanswer
    have hperm := Collection.perm_of_sorted (hcarriers t) hshown
    refine ⟨shown, rfl, hperm, fun n hn => ?_⟩
    obtain ⟨s, hs, heq⟩ := List.mem_map.mp hn
    cases heq
    rw [hperm.length_eq, List.length_map]
    exact length_filter_le_count (singles ctx.site.pages)

def taggedPages (tags : List (List String)) : List Page :=
  tags.map fun texts => { Page.blank with tags := .list ((texts.map (·.toList)).map .text) }

section

variable {tags : List (List String)}

theorem sortable_taggedPages : ∀ p ∈ taggedPages tags, p.Sortable := by
  intro p hp
  obtain ⟨texts, -, rfl⟩ := List.mem_map.mp hp
  exact ⟨⟨_, rfl⟩, .inl rfl⟩

theorem tagged_taggedPages : ∀ p ∈ taggedPages tags, p.Tagged := by
  intro p hp
  obtain ⟨texts, -, rfl⟩ := List.mem_map.mp hp
  exact ⟨_, rfl⟩

theorem naive_taggedPages : Naive (taggedPages tags) := by
  intro p hp
  obtain ⟨texts, -, rfl⟩ := List.mem_map.mp hp
  rfl

theorem singles_taggedPages : singles (taggedPages tags) = taggedPages tags := by
  refine List.filter_eq_self.mpr fun p hp => ?_
  obtain ⟨texts, -, rfl⟩ := List.mem_map.mp hp
  simp [Page.blank, Page.kindIs, Value.eq, Value.ofString]

end

def taggedOnce : List Page := taggedPages [["a", "b"], ["a"]]

theorem tagCloud_listing_once :
    (∀ p ∈ taggedOnce, p.Sortable) ∧ (∀ p ∈ taggedOnce, p.Tagged) ∧
    ∃ cloud : List (Text × Nat),
      (onSite taggedOnce).root? "tag_cloud".toList =
        some (.ok (.map (cloud.map fun (t, n) => (.text t, .int n)))) ∧
      ∃ n, ("a".toList, n) ∈ cloud ∧ ∃ shown : List Value,
        (onSite taggedOnce).runQuery "content_by_tag".toList [.text "a".toList] =
          .ok (.pages shown) ∧ shown.length = n := by
  obtain ⟨cloud, hcloud, -, hkeys, -, horders, -, hshown⟩ :=
    @tagCloud_listing (onSite taggedOnce) sortable_taggedPages tagged_taggedPages
  change ∀ t, t ∈ cloud.map (·.1) ↔ ∃ p ∈ singles taggedOnce, t ∈ p.tagTexts at hkeys
  rw [taggedOnce, singles_taggedPages] at hkeys
  obtain ⟨⟨_, n⟩, hmem, rfl⟩ := List.mem_map.mp ((hkeys "a".toList).mpr (by decide))
  obtain ⟨answer, hanswer⟩ := (horders "a".toList).ok fun p hp q hq =>
    (naive_taggedPages p (List.mem_filter.mp (List.mem_filter.mp hp).1).1).trans
      (naive_taggedPages q (List.mem_filter.mp (List.mem_filter.mp hq).1).1).symm
  obtain ⟨shown, rfl, -, hcount⟩ := hshown _ _ hanswer
  refine ⟨sortable_taggedPages, tagged_taggedPages, cloud, hcloud, n, hmem, shown, hanswer, ?_⟩
  rw [(hcount n hmem).2]
  change ∀ p ∈ singles taggedOnce, _
  rw [taggedOnce, singles_taggedPages]
  decide

def taggedTwice : List Page := taggedPages [["a", "a"]]

theorem tagCloud_listing_twice :
    (∀ p ∈ taggedTwice, p.Sortable) ∧ (∀ p ∈ taggedTwice, p.Tagged) ∧
    (∃ cloud : List (Value × Value),
      (onSite taggedTwice).root? "tag_cloud".toList = some (.ok (.map cloud)) ∧
        (.text "a".toList, .int 2) ∈ cloud) ∧
    (onSite taggedTwice).runQuery "content_by_tag".toList [.text "a".toList] =
      .ok (.pages (taggedTwice.map .page)) := by
  obtain ⟨tags, -, hmem, hcloud⟩ :=
    @Context.tagCloud_eq (onSite taggedTwice).site tagged_taggedPages
  change ∀ t, t ∈ tags ↔ t ∈ (singles taggedTwice).flatMap (·.tagTexts) at hmem
  rw [taggedTwice, singles_taggedPages] at hmem
  refine ⟨sortable_taggedPages, tagged_taggedPages, ⟨_, congrArg some hcloud, ?_⟩, ?_⟩
  · refine List.mem_map.mpr ⟨"a".toList, (hmem _).mpr (by decide), ?_⟩
    change (_, Value.int (((singles taggedTwice).flatMap (·.tagTexts)).count _ : Nat)) = _
    rw [taggedTwice, singles_taggedPages]
    rfl
  · have hcarriers : carriers "a".toList taggedTwice = taggedTwice := by
      rw [carriers, taggedTwice, singles_taggedPages]
      exact List.filter_eq_self.mpr (by decide)
    have hsorted : Collection.sorted (taggedTwice.map .page) = .ok (taggedTwice.map .page) := by
      rw [taggedTwice, Collection.sorted_eq sortable_taggedPages naive_taggedPages]
      exact congrArg (fun pages => Except.ok (pages.map Value.page)) (List.mergeSort_singleton _)
    rw [Context.runQuery_tag tagged_taggedPages]
    change Value.pages <$> Collection.sorted ((carriers "a".toList taggedTwice).map .page) = _
    rw [hcarriers, hsorted]
    rfl

end Stencil
