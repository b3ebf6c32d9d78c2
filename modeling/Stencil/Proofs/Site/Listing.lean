import Stencil.Proofs.Site.Ordering

namespace Stencil

/-! The order of a section in listings and in navigation. -/

namespace Page

/-- The title as titles are compared. -/
def label (p : Page) : Text := Text.toLower p.titleText

def notOlder (p q : Page) : Bool := q.sortMoment.instant ≤ p.sortMoment.instant

/-- `p` is newer than `q`, or dated alike with a title that is not lesser. -/
def precedes (p q : Page) : Bool :=
  if p.sortMoment.instant = q.sortMoment.instant then Text.le q.label p.label else notOlder p q

theorem sorts_notOlder : Sorts notOlder :=
  (sorts_byKey fun p : Page => p.sortMoment.instant).flip

theorem precedes_iff {p q : Page} :
    precedes p q = true ↔ q.sortMoment.instant < p.sortMoment.instant ∨
      q.sortMoment.instant = p.sortMoment.instant ∧ Text.le q.label p.label := by
  unfold precedes notOlder
  split
  · next heq => simp [heq, Text.le_iff]
  · next hne =>
      rw [decide_eq_true_eq]
      omega

theorem notOlder_of_precedes {p q : Page} (h : precedes p q = true) : notOlder p q = true := by
  rw [notOlder, decide_eq_true_eq]
  rcases precedes_iff.mp h with hlt | ⟨heq, -⟩
  · exact Int.le_of_lt hlt
  · exact Int.le_of_eq heq

theorem sorts_precedes : Sorts precedes where
  trans p q r hpq hqr := by
    rw [precedes_iff] at hpq hqr ⊢
    rcases hpq with hpq | ⟨hpq, hlabel⟩
    · left
      omega
    · rcases hqr with hqr | ⟨hqr, hlabel'⟩
      · left
        omega
      · exact .inr ⟨hqr.trans hpq, Text.le_trans hlabel' hlabel⟩
  total p q := by
    rw [Bool.or_eq_true, precedes_iff, precedes_iff]
    rcases Int.lt_trichotomy p.sortMoment.instant q.sortMoment.instant with hlt | heq | hgt
    · exact .inr (.inl hlt)
    · rcases Text.le_total p.label q.label with hle | hle
      · exact .inr (.inr ⟨heq, hle⟩)
      · exact .inl (.inr ⟨heq.symm, hle⟩)
    · exact .inl (.inl hgt)

def inOrder (newestFirst : Bool) (p q : Page) : Bool :=
  match newestFirst with
  | true => precedes p q
  | false => precedes q p

theorem sorts_inOrder (newestFirst : Bool) : Sorts (inOrder newestFirst) := by
  cases newestFirst with
  | true => exact sorts_precedes
  | false => exact sorts_precedes.flip

/-- The orders differ on pages that are dated alike, if the first has the lesser title. -/
theorem notOlder_eq_precedes_iff {p q : Page} :
    notOlder p q = precedes p q ↔
      (p.sortMoment.instant = q.sortMoment.instant → Text.le q.label p.label) := by
  unfold precedes
  split
  · next heq =>
      have hsame : notOlder p q = true := by simp [notOlder, heq]
      rw [hsame, eq_comm, Text.le_iff, forall_prop_of_true heq]
  · next hne => exact iff_of_true rfl fun heq => absurd heq hne

end Page

def Naive (pages : List Page) : Prop := ∀ p ∈ pages, p.zoned = false

namespace Page

variable {p : Page}

def NaiveDate (p : Page) : Prop := p.date = .nil ∨ ∃ m : Moment, p.date = .moment m ∧ m.offset = none

theorem NaiveDate.sortDate_eq (h : p.NaiveDate) : p.sortDate = .moment p.sortMoment := by
  unfold sortDate sortMoment
  rcases h with hdate | ⟨m, hdate, -⟩
  · rw [hdate]
    rfl
  · rw [hdate]
    rfl

theorem NaiveDate.zoned_eq (h : p.NaiveDate) : p.zoned = false := by
  unfold zoned sortMoment
  rcases h with hdate | ⟨m, hdate, hoffset⟩
  · rw [hdate]
    rfl
  · rw [hdate]
    simp [hoffset]

theorem Sortable.naiveDate (h : p.Sortable) (hzoned : p.zoned = false) : p.NaiveDate := by
  rcases h.date with hdate | ⟨m, hdate⟩
  · exact .inl hdate
  · refine .inr ⟨m, hdate, ?_⟩
    rw [zoned, sortMoment, hdate] at hzoned
    exact Option.isNone_iff_eq_none.mp (Option.isSome_eq_false_iff.mp hzoned)

end Page

/-- The single pages of a section, in the order of the site. -/
def Navigation.members (section_ : Value) (pages : List Page) : List Page :=
  pages.filter fun p => p.section_.eq section_ && p.kindIs "single"

section

variable {pages : List Page}

theorem lt?_sortMoments (hnaive : Naive pages) :
    ∀ p ∈ pages, ∀ q ∈ pages,
      Value.lt? (.moment p.sortMoment) (.moment q.sortMoment) = .ok !Page.notOlder p q := by
  intro p hp q hq
  rw [Value.lt?_moments ((hnaive p hp).trans (hnaive q hq).symm)]
  refine congrArg Except.ok ?_
  rw [Page.notOlder, Bool.eq_iff_iff, Bool.not_eq_true', decide_eq_true_eq,
    decide_eq_false_iff_not, Int.not_le]

theorem Navigation.sectionPages_of_naiveDate (h : ∀ p ∈ pages, p.NaiveDate) (section_ : Value) :
    sectionPages section_ pages =
      .ok ((members section_ pages).mergeSort Page.notOlder) := by
  have hmem : ∀ p ∈ members section_ pages, p ∈ pages := fun p hp => (List.mem_filter.mp hp).1
  have hnaive : Naive pages := fun p hp => (h p hp).zoned_eq
  have hkeys : (members section_ pages).map (fun p => (p.sortDate, p)) =
      (members section_ pages).map fun p => (Value.moment p.sortMoment, id p) := by
    refine List.map_congr_left fun p hp => ?_
    rw [(h p (hmem p hp)).sortDate_eq]
    rfl
  unfold sectionPages
  dsimp only
  rw [← members, hkeys, sortByKeyDescending, sortByKey_map fun p hp q hq =>
    lt?_sortMoments hnaive p (hmem p hp) q (hmem q hq), List.map_id]

theorem Navigation.sectionPages_eq (h : ∀ p ∈ pages, p.Sortable) (hnaive : Naive pages)
    (section_ : Value) :
    sectionPages section_ pages =
      .ok ((members section_ pages).mergeSort Page.notOlder) :=
  sectionPages_of_naiveDate (fun p hp => (h p hp).naiveDate (hnaive p hp)) section_

theorem Collection.sortKeyLt?_pages (hnaive : Naive pages) :
    ∀ p ∈ pages, ∀ q ∈ pages,
      sortKeyLt? (.moment p.sortMoment, Text.toLower p.titleText)
        (.moment q.sortMoment, Text.toLower q.titleText) = .ok !Page.precedes p q := by
  intro p hp q hq
  have hsame : (Value.moment p.sortMoment).eq (.moment q.sortMoment) =
      decide (p.sortMoment.instant = q.sortMoment.instant) := by
    have hzones : p.sortMoment.offset.isSome = q.sortMoment.offset.isSome :=
      (hnaive p hp).trans (hnaive q hq).symm
    rw [Bool.eq_iff_iff, Value.eq_moment_iff, decide_eq_true_eq]
    exact and_iff_right hzones
  unfold sortKeyLt? pairLt?
  dsimp only
  rw [hsame, lt?_sortMoments hnaive p hp q hq, Page.precedes]
  simp only [decide_eq_true_eq]
  split
  · simp [Text.le, Page.label]
  · rfl

theorem Collection.sorted_inOrder (h : ∀ p ∈ pages, p.Sortable) (hnaive : Naive pages)
    (newestFirst : Bool) :
    sorted (pages.map .page) newestFirst =
      .ok ((pages.mergeSort (Page.inOrder newestFirst)).map .page) := by
  rw [sorted, mapM_sortKey h, ok_bind]
  cases newestFirst with
  | true =>
      rw [if_pos rfl, sortByKeyDescending]
      exact sortByKey_map fun p hp q hq => sortKeyLt?_pages hnaive p hp q hq
  | false =>
      rw [if_neg Bool.false_ne_true]
      exact sortByKey_map fun p hp q hq => sortKeyLt?_pages hnaive q hq p hp

theorem Collection.sorted_eq (h : ∀ p ∈ pages, p.Sortable) (hnaive : Naive pages) :
    sorted (pages.map .page) = .ok ((pages.mergeSort Page.precedes).map .page) :=
  sorted_inOrder h hnaive true

theorem Context.runQuery_section {ctx : Context} (h : ∀ p ∈ ctx.site.pages, p.Sortable)
    (hnaive : Naive ctx.site.pages) (s : Text) :
    ctx.runQuery "content_by_section".toList [.text s] =
      .ok (.pages (((Navigation.members (.text s) ctx.site.pages).mergeSort
        Page.precedes).map .page)) := by
  have hnarrow : Collection.inSection s ((singles ctx.site.pages).map .page) =
      .ok ((Navigation.members (.text s) ctx.site.pages).map .page) := by
    rw [Collection.inSection, Collection.narrow_pages, singles, List.filter_filter]
    rfl
  have hmem : ∀ p ∈ Navigation.members (.text s) ctx.site.pages, p ∈ ctx.site.pages :=
    fun p hp => (List.mem_filter.mp hp).1
  change (do
    let pages ← Collection.regular ctx.site.pageValues
    return Value.pages (← Collection.sorted (← Collection.inSection s pages))) = _
  rw [Site.pageValues, Collection.regular_pages, ok_bind, hnarrow, ok_bind,
    Collection.sorted_eq (fun p hp => h p (hmem p hp)) fun p hp => hnaive p (hmem p hp)]
  rfl

end

/-! Going through a section. -/

structure Placed (pages : List Page) : Prop where
  isSome : ∀ p ∈ pages, p.position?.isSome
  nodup : (pages.map (·.position?)).Nodup

namespace Navigation

variable {pages ordered before after : List Page} {p : Page} {s : Text}

/-- The pages met by going from a page to the next until there is none. -/
inductive Visits (pages : List Page) : Page → List Page → Prop
  | last {p : Page} {prev : Value} :
      sectionNav p pages = .ok ⟨prev, .nil⟩ → Visits pages p [p]
  | next {p q : Page} {prev : Value} {visited : List Page} :
      sectionNav p pages = .ok ⟨prev, .page q⟩ → Visits pages q visited →
        Visits pages p (p :: visited)

theorem Visits.unique {visited visited' : List Page} (h : Visits pages p visited)
    (h' : Visits pages p visited') : visited = visited' := by
  induction h generalizing visited' with
  | last hnav =>
      cases h' with
      | last => rfl
      | next hnav' => cases hnav.symm.trans hnav'
  | next hnav hvisits ih =>
      cases h' with
      | last hnav' => cases hnav.symm.trans hnav'
      | next hnav' hvisits' =>
          cases hnav.symm.trans hnav'
          rw [ih hvisits']

theorem not_visits_of_next_self {prev : Value} (h : sectionNav p pages = .ok ⟨prev, .page p⟩)
    {visited : List Page} : ¬Visits pages p visited := by
  intro hvisits
  induction hvisits with
  | last hnav => cases hnav.symm.trans h
  | next hnav _ ih =>
      cases hnav.symm.trans h
      exact ih h

theorem mem_members (h : p ∈ members (.text s) pages) :
    p ∈ pages ∧ p.section_ = .text s ∧ p.kindIs "single" = true := by
  obtain ⟨hmem, htest⟩ := List.mem_filter.mp h
  rw [Bool.and_eq_true, Value.eq_text_iff] at htest
  exact ⟨hmem, htest⟩

theorem findIdx?_isSamePage (hplaced : Placed pages)
    (hperm : (before ++ p :: after).Perm (members (.text s) pages)) :
    (before ++ p :: after).findIdx? (·.isSamePage p) = some before.length := by
  have hsome : ∀ q ∈ before ++ p :: after, q.position?.isSome := fun q hq =>
    hplaced.isSome q (mem_members (hperm.subset hq)).1
  have hnodup : ((before ++ p :: after).map (·.position?)).Nodup :=
    (hperm.map _).nodup_iff.mpr ((List.filter_sublist.map _).nodup hplaced.nodup)
  have hbefore : before.findIdx? (·.isSamePage p) = none := by
    rw [List.findIdx?_eq_none_iff]
    intro q hq
    rw [List.map_append, List.map_cons] at hnodup
    have hother : q.position? ≠ p.position? :=
      (List.nodup_append.mp hnodup).2.2 _ (List.mem_map_of_mem hq) _ List.mem_cons_self
    simp [Page.isSamePage, hother]
  have hsame : p.isSamePage p = true := by
    simp [Page.isSamePage, hsome p (by simp)]
  rw [List.findIdx?_append, hbefore, List.findIdx?_cons, if_pos hsame]
  simp

theorem sectionNav_of_split (hplaced : Placed pages)
    (hpages : sectionPages (.text s) pages = .ok (before ++ p :: after))
    (hperm : (before ++ p :: after).Perm (members (.text s) pages)) :
    sectionNav p pages = .ok ⟨(before.getLast?.map Value.page).getD .nil,
      (after.head?.map Value.page).getD .nil⟩ := by
  obtain ⟨-, hsection, hsingle⟩ := mem_members (hperm.subset (by simp : p ∈ before ++ p :: after))
  have hnext : (before ++ p :: after)[before.length + 1]? = after.head? := by
    rw [List.getElem?_append_right (by omega), Nat.add_sub_cancel_left, List.getElem?_cons_succ,
      List.head?_eq_getElem?]
  unfold sectionNav
  rw [hsingle, hsection, hpages]
  simp only [Bool.not_true, Bool.false_eq_true, if_false, ok_bind,
    findIdx?_isSamePage hplaced hperm, hnext]
  cases before with
  | nil => rfl
  | cons q newer =>
      have hprev : (q :: newer ++ p :: after)[(q :: newer).length - 1]? =
          (q :: newer).getLast? := by
        rw [List.getElem?_append_left (by simp), List.getLast?_eq_getElem?]
      rw [hprev]
      rfl

/-- From any page of a section, the walk leads through those behind it. -/
theorem visits_of_split (hplaced : Placed pages)
    (hpages : sectionPages (.text s) pages = .ok (before ++ p :: after))
    (hperm : (before ++ p :: after).Perm (members (.text s) pages)) :
    Visits pages p (p :: after) := by
  have hnav := sectionNav_of_split hplaced hpages hperm
  induction after generalizing before p with
  | nil => exact .last hnav
  | cons q after ih =>
      have hsplit : before ++ p :: q :: after = (before ++ [p]) ++ q :: after := by simp
      rw [hsplit] at hpages hperm
      exact .next hnav (ih hpages hperm (sectionNav_of_split hplaced hpages hperm))

end Navigation

def sectionOf (entries : List (String × Option Moment × Nat)) : List Page :=
  entries.map fun (title, date?, position) =>
    { Page.blank with
      title := .ofString title, date := (date?.map Value.moment).getD .nil,
      section_ := .ofString "s", position? := some position }

section

variable {entries : List (String × Option Moment × Nat)}

theorem sortable_sectionOf : ∀ p ∈ sectionOf entries, p.Sortable := by
  intro p hp
  obtain ⟨⟨title, date?, position⟩, -, rfl⟩ := List.mem_map.mp hp
  refine ⟨⟨_, rfl⟩, ?_⟩
  cases date? with
  | none => exact .inl rfl
  | some m => exact .inr ⟨m, rfl⟩

theorem members_sectionOf :
    Navigation.members (.text "s".toList) (sectionOf entries) = sectionOf entries := by
  refine List.filter_eq_self.mpr fun p hp => ?_
  obtain ⟨⟨title, date?, position⟩, -, rfl⟩ := List.mem_map.mp hp
  simp [Page.blank, Page.kindIs, Value.eq, Value.ofString]

end

def onSite (pages : List Page) : Context :=
  .create (some { Site.blank with pages := pages }) none [] .epoch

def datedSection : List Page :=
  sectionOf [("A", none, 0), ("B", some (.ofDate ⟨2024, 1, 5⟩), 1)]

def undatedSection : List Page := sectionOf [("A", none, 0), ("B", none, 1)]

def repeatedSection : List Page := sectionOf [("A", none, 0), ("A", none, 0)]

end Stencil
