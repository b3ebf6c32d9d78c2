import Stencil.Proofs.Site.Listing

namespace Stencil

/-! The neighbours that a page has in its section. -/

namespace Navigation

variable {pages : List Page} {p q : Page} {s : Text}

def PrevOf (pages : List Page) (p : Page) (prev : Value) : Prop :=
  ∃ next, sectionNav p pages = .ok ⟨prev, next⟩

def NextOf (pages : List Page) (p : Page) (next : Value) : Prop :=
  ∃ prev, sectionNav p pages = .ok ⟨prev, next⟩

def Absent (p : Page) (pages : List Page) : Prop := ∀ q ∈ pages, q.isSamePage p = false

theorem sectionNav_of_not_single (h : p.kindIs "single" = false) :
    sectionNav p pages = .ok ⟨.nil, .nil⟩ := by
  rw [sectionNav, h]
  rfl

theorem sectionNav_of_absent (hdates : ∀ p ∈ pages, p.NaiveDate) (h : Absent p pages) :
    sectionNav p pages = .ok ⟨.nil, .nil⟩ := by
  cases hsingle : p.kindIs "single" with
  | false => exact sectionNav_of_not_single hsingle
  | true =>
      have hnone : ((members p.section_ pages).mergeSort Page.notOlder).findIdx?
          (·.isSamePage p) = none := by
        rw [List.findIdx?_eq_none_iff]
        intro q hq
        exact h q (List.mem_filter.mp (List.mem_mergeSort.mp hq)).1
      rw [sectionNav, hsingle, sectionPages_of_naiveDate hdates]
      simp only [Bool.not_true, Bool.false_eq_true, if_false, ok_bind, hnone]
      rfl

theorem eq_nil_or_page {page? : Option Page} {v : Value}
    (h : v = (page?.map Value.page).getD .nil) : v = .nil ∨ ∃ q, v = .page q := by
  cases page? with
  | none => exact .inl h
  | some q => exact .inr ⟨q, h⟩

theorem mem_of_pageAt {ordered : List Page} {i : Nat}
    (h : ((ordered[i]?).map Value.page).getD .nil = .page q) : q ∈ ordered := by
  cases hat : ordered[i]? with
  | none =>
      rw [hat] at h
      cases h
  | some p =>
      rw [hat] at h
      cases h
      exact List.mem_of_getElem? hat

theorem mem_of_sectionNav {nav : SectionNav} (hnav : sectionNav p pages = .ok nav)
    (hq : nav.prev = .page q ∨ nav.next = .page q) :
    p.kindIs "single" = true ∧ q ∈ members p.section_ pages := by
  cases hsingle : p.kindIs "single" with
  | false =>
      rw [sectionNav_of_not_single hsingle] at hnav
      cases hnav
      rcases hq with hq | hq <;> cases hq
  | true =>
      refine ⟨rfl, ?_⟩
      rw [sectionNav, hsingle] at hnav
      simp only [Bool.not_true, Bool.false_eq_true, if_false] at hnav
      obtain ⟨ordered, hordered, hnav⟩ := bind_eq_ok.mp hnav
      have hperm : ordered.Perm (members p.section_ pages) := by
        have hsorted := perm_of_sortByKey hordered
        rw [List.map_map] at hsorted
        exact hsorted.trans (.of_eq (List.map_id _))
      refine hperm.subset ?_
      split at hnav
      · cases hnav
        rcases hq with hq | hq <;> cases hq
      · next i _ =>
          cases hnav
          rcases hq with hprev | hnext
          · dsimp only at hprev
            split at hprev
            · cases hprev
            · exact mem_of_pageAt hprev
          · exact mem_of_pageAt hnext

theorem mem_members_of_neighbour (hq : q ∈ pages) (hsingle : q.kindIs "single" = true)
    (hp : p ∈ members (.text s) pages) (hshared : p ∈ members q.section_ pages) :
    q ∈ members (.text s) pages := by
  obtain ⟨-, htest⟩ := List.mem_filter.mp hshared
  rw [(mem_members hp).2.1, Bool.and_eq_true] at htest
  -- Equality of values is not symmetric by definition, so `q` is asked for its kind of section.
  have hsection : q.section_ = .text s := by
    cases hother : q.section_ with
    | text t =>
        rw [hother, Value.eq_text_iff] at htest
        exact htest.1.symm
    | _ =>
        rw [hother] at htest
        simp [Value.eq] at htest
  refine List.mem_filter.mpr ⟨hq, ?_⟩
  rw [hsection, hsingle, Bool.and_true, Value.eq_text_iff]

/-! A section in one sequence. -/

/-- The single pages of a section, newest first; those dated alike in the order of the site. -/
def sequence (s : Text) (pages : List Page) : List Page :=
  (members (.text s) pages).mergeSort Page.notOlder

theorem sequence_perm : (sequence s pages).Perm (members (.text s) pages) :=
  List.mergeSort_perm _ _

theorem nodup_sequence (hplaced : Placed pages) : ((sequence s pages).map (·.position?)).Nodup :=
  (sequence_perm.map _).nodup_iff.mpr ((List.filter_sublist.map _).nodup hplaced.nodup)

theorem not_isSamePage_of_sequence {before after : List Page} (hplaced : Placed pages)
    (h : sequence s pages = before ++ p :: q :: after) :
    p.isSamePage q = false ∧ q.isSamePage p = false := by
  have hnodup := nodup_sequence (s := s) hplaced
  rw [h, List.map_append, List.map_cons, List.map_cons] at hnodup
  have hne : p.position? ≠ q.position? :=
    (List.pairwise_cons.mp (List.nodup_append.mp hnodup).2.1).1 _ List.mem_cons_self
  simp [Page.isSamePage, hne, hne.symm]

theorem pairwise_sequence :
    (sequence s pages).Pairwise fun p q => q.sortMoment.instant ≤ p.sortMoment.instant := by
  have hsorted := List.pairwise_mergeSort Page.sorts_notOlder.trans Page.sorts_notOlder.total
    (members (.text s) pages)
  exact hsorted.imp of_decide_eq_true

theorem filter_sequence (instant : Int) :
    (sequence s pages).filter (·.sortMoment.instant == instant) =
      (members (.text s) pages).filter (·.sortMoment.instant == instant) := by
  refine filter_mergeSort Page.sorts_notOlder fun p q hp hq => ?_
  rw [beq_iff_eq] at hp hq
  exact decide_eq_true (Int.le_of_eq (hq.trans hp.symm))

section

variable {before after : List Page} (hplaced : Placed pages) (hdates : ∀ p ∈ pages, p.NaiveDate)

include hplaced hdates

theorem sectionNav_of_sequence (h : sequence s pages = before ++ p :: after) :
    sectionNav p pages = .ok ⟨(before.getLast?.map Value.page).getD .nil,
      (after.head?.map Value.page).getD .nil⟩ := by
  have hpages : sectionPages (.text s) pages = .ok (before ++ p :: after) := by
    rw [sectionPages_of_naiveDate hdates, ← h]
    rfl
  exact sectionNav_of_split hplaced hpages (h ▸ sequence_perm)

theorem visits_of_sequence (h : sequence s pages = p :: after) : Visits pages p (p :: after) := by
  have hpages : sectionPages (.text s) pages = .ok ([] ++ p :: after) := by
    rw [sectionPages_of_naiveDate hdates, List.nil_append, ← h]
    rfl
  exact visits_of_split hplaced hpages (h ▸ sequence_perm)

theorem nextOf_iff (h : sequence s pages = before ++ p :: after) {next : Value} :
    NextOf pages p next ↔ next = (after.head?.map Value.page).getD .nil := by
  have hnav := sectionNav_of_sequence hplaced hdates h
  constructor
  · rintro ⟨prev, hnext⟩
    cases hnav.symm.trans hnext
    rfl
  · rintro rfl
    exact ⟨_, hnav⟩

theorem prevOf_iff (h : sequence s pages = before ++ p :: after) {prev : Value} :
    PrevOf pages p prev ↔ prev = (before.getLast?.map Value.page).getD .nil := by
  have hnav := sectionNav_of_sequence hplaced hdates h
  constructor
  · rintro ⟨next, hprev⟩
    cases hnav.symm.trans hprev
    rfl
  · rintro rfl
    exact ⟨_, hnav⟩

theorem nextOf_page_iff (hp : p ∈ members (.text s) pages) :
    NextOf pages p (.page q) ↔
      ∃ before after, sequence s pages = before ++ p :: q :: after := by
  constructor
  · intro hnext
    obtain ⟨before, after, hsplit⟩ := List.append_of_mem (sequence_perm.symm.subset hp)
    rw [nextOf_iff hplaced hdates hsplit] at hnext
    cases after with
    | nil => cases hnext
    | cons r after =>
        cases hnext
        exact ⟨before, after, hsplit⟩
  · rintro ⟨before, after, hsplit⟩
    rw [nextOf_iff hplaced hdates hsplit]
    rfl

theorem prevOf_page_iff (hp : p ∈ members (.text s) pages) :
    PrevOf pages p (.page q) ↔
      ∃ before after, sequence s pages = before ++ q :: p :: after := by
  constructor
  · intro hprev
    obtain ⟨before, after, hsplit⟩ := List.append_of_mem (sequence_perm.symm.subset hp)
    rw [prevOf_iff hplaced hdates hsplit] at hprev
    cases hlast : before.getLast? with
    | none =>
        rw [hlast] at hprev
        cases hprev
    | some r =>
        obtain ⟨front, rfl⟩ := List.getLast?_eq_some_iff.mp hlast
        rw [hlast] at hprev
        cases hprev
        exact ⟨front, after, by rw [hsplit, List.append_assoc, List.singleton_append]⟩
  · rintro ⟨before, after, hsplit⟩
    have hsplit' : sequence s pages = (before ++ [q]) ++ p :: after := by
      rw [hsplit, List.append_assoc, List.singleton_append]
    rw [prevOf_iff hplaced hdates hsplit', List.getLast?_concat]
    rfl

/-- One page comes next to another exactly if that one comes before it. -/
theorem nextOf_iff_prevOf (hp : p ∈ members (.text s) pages) (hq : q ∈ pages ∨ Absent q pages) :
    NextOf pages p (.page q) ↔ PrevOf pages q (.page p) := by
  constructor
  · intro hnext
    have hq : q ∈ members (.text s) pages := by
      obtain ⟨prev, hnav⟩ := hnext
      rw [← (mem_members hp).2.1]
      exact (mem_of_sectionNav hnav (.inr rfl)).2
    rw [prevOf_page_iff hplaced hdates hq]
    exact (nextOf_page_iff hplaced hdates hp).mp hnext
  · intro hprev
    have hmember : q ∈ members (.text s) pages := by
      obtain ⟨next, hnav⟩ := hprev
      rcases hq with hq | habsent
      · obtain ⟨hsingle, hshared⟩ := mem_of_sectionNav hnav (.inl rfl)
        exact mem_members_of_neighbour hq hsingle hp hshared
      · cases (sectionNav_of_absent hdates habsent).symm.trans hnav
    rw [nextOf_page_iff hplaced hdates hp]
    exact (prevOf_page_iff hplaced hdates hmember).mp hprev

theorem prevOf_cases (hp : p ∈ members (.text s) pages) {v : Value} (h : PrevOf pages p v) :
    v = .nil ∨ ∃ q ∈ members (.text s) pages, q.isSamePage p = false ∧ v = .page q := by
  obtain ⟨before, after, hsplit⟩ := List.append_of_mem (sequence_perm.symm.subset hp)
  rcases eq_nil_or_page ((prevOf_iff hplaced hdates hsplit).mp h) with rfl | ⟨q, rfl⟩
  · exact .inl rfl
  · obtain ⟨_, _, hpair⟩ := (prevOf_page_iff hplaced hdates hp).mp h
    have hq : q ∈ sequence s pages := by simp [hpair]
    exact .inr ⟨q, sequence_perm.subset hq, (not_isSamePage_of_sequence hplaced hpair).1, rfl⟩

theorem nextOf_cases (hp : p ∈ members (.text s) pages) {v : Value} (h : NextOf pages p v) :
    v = .nil ∨ ∃ q ∈ members (.text s) pages, q.isSamePage p = false ∧ v = .page q := by
  obtain ⟨before, after, hsplit⟩ := List.append_of_mem (sequence_perm.symm.subset hp)
  rcases eq_nil_or_page ((nextOf_iff hplaced hdates hsplit).mp h) with rfl | ⟨q, rfl⟩
  · exact .inl rfl
  · obtain ⟨_, _, hpair⟩ := (nextOf_page_iff hplaced hdates hp).mp h
    have hq : q ∈ sequence s pages := by simp [hpair]
    exact .inr ⟨q, sequence_perm.subset hq, (not_isSamePage_of_sequence hplaced hpair).2, rfl⟩

theorem prevOf_nil_iff (h : sequence s pages = p :: after) (hq : q ∈ members (.text s) pages) :
    PrevOf pages q .nil ↔ q = p := by
  constructor
  · intro hprev
    obtain ⟨before, behind, hsplit⟩ := List.append_of_mem (sequence_perm.symm.subset hq)
    rw [prevOf_iff hplaced hdates hsplit] at hprev
    cases hlast : before.getLast? with
    | none =>
        rw [List.getLast?_eq_none_iff] at hlast
        rw [hlast, h] at hsplit
        cases hsplit
        rfl
    | some r =>
        rw [hlast] at hprev
        cases hprev
  · rintro rfl
    have hfront : sequence s pages = [] ++ q :: after := h
    rw [prevOf_iff hplaced hdates hfront]
    rfl

theorem nextOf_nil_iff (h : sequence s pages = before ++ [p])
    (hq : q ∈ members (.text s) pages) : NextOf pages q .nil ↔ q = p := by
  constructor
  · intro hnext
    obtain ⟨front, after, hsplit⟩ := List.append_of_mem (sequence_perm.symm.subset hq)
    rw [nextOf_iff hplaced hdates hsplit] at hnext
    cases after with
    | nil =>
        rw [h] at hsplit
        cases (List.append_inj' hsplit rfl).2
        rfl
    | cons r after => cases hnext
  · rintro rfl
    rw [nextOf_iff hplaced hdates h]
    rfl

end

/-- The walk through a section. It starts at the only page with none before it, ends at the only one
with none behind it, and meets every page once, newest first. Pages dated alike it meets in the order
of the site. -/
structure Walk (pages : List Page) (s : Text) (first last : Page) (visited : List Page) : Prop where
  visits : Visits pages first visited
  ends : visited.getLast? = some last
  perm : visited.Perm (members (.text s) pages)
  nodup : (visited.map (·.position?)).Nodup
  newestFirst : visited.Pairwise fun p q => q.sortMoment.instant ≤ p.sortMoment.instant
  stable : ∀ instant, visited.filter (·.sortMoment.instant == instant) =
    (members (.text s) pages).filter (·.sortMoment.instant == instant)
  first_iff : ∀ p ∈ members (.text s) pages, PrevOf pages p .nil ↔ p = first
  last_iff : ∀ p ∈ members (.text s) pages, NextOf pages p .nil ↔ p = last

theorem exists_walk (hplaced : Placed pages) (hdates : ∀ p ∈ pages, p.NaiveDate)
    (h : sequence s pages ≠ []) : ∃ first last, Walk pages s first last (sequence s pages) := by
  obtain ⟨first, after, hfirst⟩ := List.exists_cons_of_ne_nil h
  have hlast := List.dropLast_concat_getLast h
  refine ⟨first, (sequence s pages).getLast h, ?_, List.getLast?_eq_some_getLast h, sequence_perm,
    nodup_sequence hplaced, pairwise_sequence, filter_sequence, ?_, ?_⟩
  · rw [hfirst]
    exact visits_of_sequence hplaced hdates hfirst
  · exact fun p hp => prevOf_nil_iff hplaced hdates hfirst hp
  · exact fun p hp => nextOf_nil_iff hplaced hdates hlast.symm hp

/-- The neighbours of the pages of a section link them in one sequence. Pages of other kinds, and
pages from elsewhere, have no neighbours. -/
theorem neighbours_link (hplaced : Placed pages)
    (hdates : ∀ p ∈ pages, p.NaiveDate) :
    (∀ p, p.kindIs "single" = false ∨ Absent p pages →
      sectionNav p pages = .ok ⟨.nil, .nil⟩) ∧
    ∀ s, ∀ p ∈ members (.text s) pages,
      (∃ prev next, sectionNav p pages = .ok ⟨prev, next⟩ ∧
        ∀ v, v = prev ∨ v = next →
          v = .nil ∨ ∃ q ∈ members (.text s) pages, q.isSamePage p = false ∧ v = .page q) ∧
      (∀ q, q ∈ pages ∨ Absent q pages →
        (NextOf pages p (.page q) ↔ PrevOf pages q (.page p))) ∧
      ∃ first last visited, Walk pages s first last visited := by
  refine ⟨?_, fun s p hp => ⟨?_, ?_, ?_⟩⟩
  · rintro p (hkind | habsent)
    · exact sectionNav_of_not_single hkind
    · exact sectionNav_of_absent hdates habsent
  · obtain ⟨before, after, hsplit⟩ := List.append_of_mem (sequence_perm.symm.subset hp)
    have hnav := sectionNav_of_sequence hplaced hdates hsplit
    refine ⟨_, _, hnav, ?_⟩
    rintro v (rfl | rfl)
    · exact prevOf_cases hplaced hdates hp ⟨_, hnav⟩
    · exact nextOf_cases hplaced hdates hp ⟨_, hnav⟩
  · exact fun q hq => nextOf_iff_prevOf hplaced hdates hp hq
  · have hne : sequence s pages ≠ [] := List.ne_nil_of_mem (sequence_perm.symm.subset hp)
    obtain ⟨first, last, hwalk⟩ := exists_walk hplaced hdates hne
    exact ⟨first, last, _, hwalk⟩

/-- A page of the first day that there is before one without a date, and a newer page behind. -/
def datedAlike : List Page :=
  sectionOf [("A", some .epoch, 0), ("B", none, 1), ("C", some (.ofDate ⟨2024, 1, 5⟩), 2)]

theorem neighbours_link_datedAlike :
    Placed datedAlike ∧ (∀ p ∈ datedAlike, p.NaiveDate) ∧
    ∃ first last visited, Walk datedAlike "s".toList first last visited := by
  have hplaced : Placed datedAlike := ⟨by decide, by decide⟩
  have hzoned : ∀ p ∈ datedAlike, p.zoned = false := by decide
  have hdates : ∀ p ∈ datedAlike, p.NaiveDate := fun p hp =>
    (sortable_sectionOf p hp).naiveDate (hzoned p hp)
  have hmember : ∀ p ∈ datedAlike, p ∈ members (.text "s".toList) datedAlike := by
    intro p hp
    rwa [datedAlike, members_sectionOf]
  obtain ⟨-, -, hwalk⟩ :=
    (neighbours_link hplaced hdates).2 "s".toList _ (hmember _ List.mem_cons_self)
  exact ⟨hplaced, hdates, hwalk⟩

end Navigation

end Stencil
