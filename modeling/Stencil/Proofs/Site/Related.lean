import Mathlib.Data.Finset.Card
import Stencil.Proofs.Site.TagCloud
import Stencil.Proofs.Value.Mapping

namespace Stencil

/-! Pages that share tags, in one ranking. -/

namespace Page

variable {page p q : Page} {items : List Value}

def Comparing (p : Page) : Prop := ∃ items, p.tags.keys = .ok items

def tagSet (p : Page) : Finset Text :=
  match p.tags.keys with
  | .ok items => (items.filterMap (·.asText?)).toFinset
  | .error _ => ∅

theorem Tagged.comparing (h : p.Tagged) : p.Comparing := ⟨_, h.keys_tags⟩

theorem mem_tagSet {t : Text} (h : p.tags.keys = .ok items) :
    t ∈ p.tagSet ↔ .text t ∈ items := by
  rw [tagSet, h, List.mem_toFinset, List.mem_filterMap]
  constructor
  · rintro ⟨v, hv, htext⟩
    cases v with
    | text s =>
        cases htext
        exact hv
    | _ => cases htext
  · exact fun hmem => ⟨_, hmem, rfl⟩

def overlap (page p : Page) : Nat := (page.tagSet ∩ p.tagSet).card

theorem length_distinct_shared (hpage : page.Tagged) (hkeys : p.tags.keys = .ok items) :
    (Value.distinct (items.filter
      (·.isIn (Value.distinct (page.tagTexts.map .text))))).length = page.overlap p := by
  obtain ⟨wanted, hwanted, -, hmem⟩ := Value.distinct_texts page.tagTexts
  have hshared : items.filter (·.isIn (wanted.map .text)) =
      ((items.filterMap (·.asText?)).filter (· ∈ wanted)).map .text := by
    clear hkeys
    induction items with
    | nil => rfl
    | cons v items ih =>
        have hisIn : v.isIn (wanted.map .text) = true ↔ ∃ t ∈ wanted, v = .text t := by
          simp [Value.isIn, Value.eq_text_iff]
        cases v with
        | text t =>
            rw [List.filter_cons, Value.isIn_texts, ih]
            by_cases ht : t ∈ wanted
            · simp [Value.asText?, ht]
            · simp [Value.asText?, ht]
        | _ =>
            rw [List.filter_cons, if_neg (by rw [hisIn]; simp), ih]
            rfl
  obtain ⟨kept, hkept, hnodup, hkeptmem⟩ :=
    Value.distinct_texts ((items.filterMap (·.asText?)).filter (· ∈ wanted))
  have hset : kept.toFinset = page.tagSet ∩ p.tagSet := by
    ext t
    rw [List.mem_toFinset, hkeptmem, List.mem_filter, Finset.mem_inter, mem_tagSet hpage.keys_tags,
      tagSet, hkeys, List.mem_toFinset, decide_eq_true_eq, hmem, and_comm]
    simp
  rw [hwanted, hshared, hkept, List.length_map, overlap, ← hset,
    List.toFinset_card_of_nodup hnodup]

/-- `p` shares more tags with `page` than `q`, or as many and is not older. -/
def ranks (page p q : Page) : Bool :=
  if page.overlap p = page.overlap q then notOlder p q else page.overlap q < page.overlap p

theorem ranks_iff :
    ranks page p q = true ↔ page.overlap q < page.overlap p ∨
      page.overlap q = page.overlap p ∧ q.sortMoment.instant ≤ p.sortMoment.instant := by
  unfold ranks notOlder
  split
  · next heq => simp [heq]
  · next hne =>
      rw [decide_eq_true_eq]
      omega

theorem sorts_ranks (page : Page) : Sorts (ranks page) where
  trans p q r hpq hqr := by
    rw [ranks_iff] at hpq hqr ⊢
    omega
  total p q := by
    rw [Bool.or_eq_true, ranks_iff, ranks_iff]
    omega

end Page

namespace Navigation

variable {page : Page} {pages : List Page}

def relates (page p : Page) : Bool :=
  !p.isSamePage page && p.kindIs "single" && decide (0 < page.overlap p)

/-- The pages that are related to a page, those with the most shared tags first. -/
def ranking (page : Page) (pages : List Page) : List Page :=
  (pages.filter (relates page)).mergeSort (Page.ranks page)

def rankKey (page p : Page) : Value × Value :=
  (.int (page.overlap p), .moment p.sortMoment)

theorem lt?_rankKey (hdates : ∀ p ∈ pages, p.NaiveDate) (page : Page) :
    ∀ p ∈ pages, ∀ q ∈ pages,
      pairLt? Value.eq Value.lt? Value.lt? (rankKey page p) (rankKey page q) =
        .ok !Page.ranks page p q := by
  intro p hp q hq
  have hnaive : Naive pages := fun p hp => (hdates p hp).zoned_eq
  unfold pairLt? rankKey Page.ranks
  simp only [Value.eq_int, Value.lt?_ints, lt?_sortMoments hnaive p hp q hq, beq_iff_eq,
    Int.natCast_inj, Int.ofNat_lt]
  split
  · rfl
  · next hne =>
      refine congrArg Except.ok ?_
      rw [← decide_not, decide_eq_decide]
      omega

theorem filterMapM_scored (hpage : page.Tagged) (hkeys : ∀ p ∈ pages, p.Comparing)
    (hdates : ∀ p ∈ pages, p.NaiveDate) :
    (pages.filterMapM fun p => do
      if p.isSamePage page || !p.kindIs "single" then return none
      let shared := Value.distinct
        ((← p.tags.keys).filter (·.isIn (Value.distinct (page.tagTexts.map .text))))
      if shared.isEmpty then return none
      return some ((Value.int shared.length, p.sortDate), p) : Except Fault _) =
      .ok ((pages.filter (relates page)).map fun p => (rankKey page p, p)) := by
  apply filterMapM_eq_map
  intro p hp
  obtain ⟨items, hitems⟩ := hkeys p hp
  have hlength := Page.length_distinct_shared hpage hitems
  rw [relates, hitems, (hdates p hp).sortDate_eq, rankKey, ← hlength, ok_bind]
  cases p.isSamePage page with
  | true => rfl
  | false =>
      cases p.kindIs "single" with
      | false => rfl
      | true =>
          dsimp only
          generalize Value.distinct _ = shared
          cases shared <;> rfl

theorem relates_of_untagged (hpage : page.Tagged) (hnone : page.tagTexts = []) (p : Page) :
    relates page p = false := by
  have hempty : page.tagSet = ∅ := by
    refine Finset.eq_empty_of_forall_notMem fun t ht => ?_
    rw [Page.mem_tagSet hpage.keys_tags, hnone] at ht
    exact List.not_mem_nil ht
  simp [relates, Page.overlap, hempty]

theorem related_eq (hpage : page.Tagged) (hkeys : ∀ p ∈ pages, p.Comparing)
    (hdates : ∀ p ∈ pages, p.NaiveDate) (count : Int) :
    related page pages count = .ok ((ranking page pages).take count.toNat) := by
  have hmem : ∀ p ∈ pages.filter (relates page), p ∈ pages := fun p hp => (List.mem_filter.mp hp).1
  rw [related, hpage.keys_tags, ok_bind]
  dsimp only
  split
  · next hempty =>
      have hnone : page.tagTexts = [] := by
        obtain ⟨kept, hkept, -, hiff⟩ := Value.distinct_texts page.tagTexts
        rw [hkept, List.isEmpty_iff, List.map_eq_nil_iff] at hempty
        refine List.eq_nil_iff_forall_not_mem.mpr fun t ht => ?_
        rw [← hiff, hempty] at ht
        exact List.not_mem_nil ht
      have hfilter : pages.filter (relates page) = [] :=
        List.filter_eq_nil_iff.mpr fun p _ => by simp [relates_of_untagged hpage hnone]
      rw [ranking, hfilter, List.mergeSort_nil, List.take_nil]
      rfl
  · have hsorted : sortByKeyDescending (pairLt? Value.eq Value.lt? Value.lt?)
        ((pages.filter (relates page)).map fun p => (rankKey page p, p)) =
        .ok ((ranking page pages).map id) := by
      apply sortByKey_map
      exact fun p hp q hq => lt?_rankKey hdates page p (hmem p hp) q (hmem q hq)
    rw [List.map_id] at hsorted
    rw [filterMapM_scored hpage hkeys hdates, ok_bind, hsorted]
    rfl

/-- There is one ranking of the pages that are related to a page, and every count takes its front.
It has each of them as often as the list, those with the most shared tags first, then the newest;
equal ones stay in the order of the list. -/
theorem related_ranking (hpage : page.Tagged) (hkeys : ∀ p ∈ pages, p.Comparing)
    (hdates : ∀ p ∈ pages, p.NaiveDate) :
    ∃ ranked : List Page,
      (∀ count, related page pages count = .ok (ranked.take (max count 0).toNat)) ∧
      ranked.Perm (pages.filter (relates page)) ∧
      (ranked.Pairwise fun p q => page.overlap q < page.overlap p ∨
        page.overlap q = page.overlap p ∧ q.sortMoment.instant ≤ p.sortMoment.instant) ∧
      (∀ shared instant,
        ranked.filter (fun p => page.overlap p == shared && p.sortMoment.instant == instant) =
          (pages.filter (relates page)).filter fun p =>
            page.overlap p == shared && p.sortMoment.instant == instant) ∧
      ∀ few many, few ≤ many → ∃ front whole, related page pages few = .ok front ∧
        related page pages many = .ok whole ∧ front <+: whole := by
  have hsorts := Page.sorts_ranks page
  refine ⟨ranking page pages, fun count => ?_, List.mergeSort_perm _ _, ?_,
    fun shared instant => ?_, fun few many hle => ?_⟩
  · rw [related_eq hpage hkeys hdates, show (max count 0).toNat = count.toNat by omega]
  · have hsorted := List.pairwise_mergeSort hsorts.trans hsorts.total (pages.filter (relates page))
    exact hsorted.imp Page.ranks_iff.mp
  · refine filter_mergeSort hsorts fun p q hp hq => ?_
    rw [Bool.and_eq_true, beq_iff_eq, beq_iff_eq] at hp hq
    exact Page.ranks_iff.mpr (.inr ⟨hq.1.trans hp.1.symm, Int.le_of_eq (hq.2.trans hp.2.symm)⟩)
  · exact ⟨_, _, related_eq hpage hkeys hdates few, related_eq hpage hkeys hdates many,
      List.take_prefix_take_left (by omega)⟩

def sharingPage (tags : List String) (date? : Option Date) (position : Nat) : Page :=
  { Page.blank with
    tags := .list ((tags.map String.toList).map .text),
    date := (date?.map fun d => Value.moment (.ofDate d)).getD .nil, position? := some position }

theorem tagged_sharingPage {tags : List String} {date? : Option Date} {position : Nat} :
    (sharingPage tags date? position).Tagged := ⟨_, rfl⟩

theorem naiveDate_sharingPage {tags : List String} {date? : Option Date} {position : Nat} :
    (sharingPage tags date? position).NaiveDate := by
  cases date? with
  | none => exact .inl rfl
  | some d => exact .inr ⟨_, rfl, rfl⟩

def taggedBoth : Page := sharingPage ["a", "b"] none 0

/-- A page with two tags among a newer page with one of them, an undated page with both, one of them
twice, and a page with neither. -/
def taggedAlike : List Page :=
  [taggedBoth, sharingPage ["a"] (some ⟨2024, 1, 5⟩) 1, sharingPage ["b", "a", "b"] none 2,
    sharingPage ["c"] none 3]

theorem related_ranking_taggedAlike :
    taggedBoth.Tagged ∧ (∀ p ∈ taggedAlike, p.Comparing) ∧ (∀ p ∈ taggedAlike, p.NaiveDate) ∧
    ∃ ranked : List Page, related taggedBoth taggedAlike 5 = .ok ranked ∧ ranked.length = 2 ∧
      ranked.Pairwise fun p q => taggedBoth.overlap q < taggedBoth.overlap p ∨
        taggedBoth.overlap q = taggedBoth.overlap p ∧
          q.sortMoment.instant ≤ p.sortMoment.instant := by
  have hkeys : ∀ p ∈ taggedAlike, p.Comparing := by
    simp only [taggedAlike, taggedBoth, List.forall_mem_cons]
    exact ⟨tagged_sharingPage.comparing, tagged_sharingPage.comparing,
      tagged_sharingPage.comparing, tagged_sharingPage.comparing, List.forall_mem_nil _⟩
  have hdates : ∀ p ∈ taggedAlike, p.NaiveDate := by
    simp only [taggedAlike, taggedBoth, List.forall_mem_cons]
    exact ⟨naiveDate_sharingPage, naiveDate_sharingPage, naiveDate_sharingPage,
      naiveDate_sharingPage, List.forall_mem_nil _⟩
  have hcount : (taggedAlike.filter (relates taggedBoth)).length = 2 := by
    with_unfolding_all rfl
  obtain ⟨ranked, hrelated, hperm, hordered, -⟩ :=
    related_ranking tagged_sharingPage hkeys hdates
  have hlength : ranked.length = 2 := hperm.length_eq.trans hcount
  have hfive := hrelated 5
  rw [List.take_of_length_le (by rw [hlength]; decide)] at hfive
  exact ⟨tagged_sharingPage, hkeys, hdates, ranked, hfive, hlength, hordered⟩

end Navigation

end Stencil
