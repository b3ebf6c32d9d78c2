import Stencil.Proofs.Calendar.Years
import Stencil.Proofs.Site.Listing

namespace Stencil

theorem Text.ofNat_beq (m n : Nat) : (Text.ofNat m == Text.ofNat n) = (m == n) := by
  rw [Bool.eq_iff_iff, beq_iff_eq, beq_iff_eq]
  exact ⟨Text.ofNat_injective, congrArg Text.ofNat⟩

def Page.year? (p : Page) : Option Nat :=
  match p.date with
  | .moment m => some m.date.year
  | _ => none

abbrev Archive := List (Nat × List Page)

namespace Archive

variable {archive : Archive} {year : Nat} {p : Page}

def written (archive : Archive) : List (Text × List Value) :=
  archive.map fun (year, pages) => (Text.ofNat year, pages.map .page)

def extend (year : Nat) (p : Page) (entry : Nat × List Page) : Nat × List Page :=
  if entry.1 == year then (entry.1, entry.2 ++ [p]) else entry

def add (archive : Archive) (year : Nat) (p : Page) : Archive :=
  if archive.any (·.1 == year) then archive.map (extend year p) else archive ++ [(year, [p])]

theorem addToYear_undated (hdate : p.date = .nil) :
    Context.addToYear archive.written (.page p) = .ok archive.written := by
  rw [Context.addToYear, Collection.pageOf, ok_bind, hdate]
  rfl

theorem addToYear_written {m : Moment} (hdate : p.date = .moment m) :
    Context.addToYear archive.written (.page p) = .ok (archive.add m.date.year p).written := by
  have hany : archive.written.any (·.1 == Text.ofNat m.date.year) =
      archive.any (·.1 == m.date.year) := by
    rw [written, List.any_map]
    exact congrArg archive.any (funext fun entry => Text.ofNat_beq entry.1 m.date.year)
  rw [Context.addToYear, Collection.pageOf, ok_bind, hdate]
  simp only [Value.truthy, Bool.not_true, Bool.false_eq_true, if_false, Context.yearOf, ok_bind,
    hany, add]
  split
  · refine congrArg Except.ok ?_
    rw [written, written, List.map_map, List.map_map]
    refine List.map_congr_left fun entry _ => ?_
    simp only [Function.comp_apply, Text.ofNat_beq, extend]
    split
    · rw [List.map_append, List.map_singleton]
    · rfl
  · refine congrArg Except.ok ?_
    rw [written, written, List.map_append]
    rfl

structure Years (archive : Archive) : Prop where
  decreasing : archive.Pairwise fun entry later => later.1 < entry.1
  filled : ∀ entry ∈ archive, entry.2 ≠ []
  dated : ∀ entry ∈ archive, ∀ p ∈ entry.2, p.year? = some entry.1

theorem add_of_last {front : Archive} {pages : List Page} (h : ∀ entry ∈ front, year < entry.1) :
    add (front ++ [(year, pages)]) year p = front ++ [(year, pages ++ [p])] := by
  have hany : (front ++ [(year, pages)]).any (·.1 == year) = true := by simp
  have hfront : front.map (extend year p) = front := by
    refine (List.map_congr_left fun entry hentry => ?_).trans (List.map_id front)
    rw [extend, beq_eq_false_iff_ne.mpr (Nat.ne_of_gt (h entry hentry))]
    rfl
  rw [add, if_pos hany, List.map_append, hfront]
  simp [extend]

theorem add_of_later (h : ∀ entry ∈ archive, year < entry.1) :
    archive.add year p = archive ++ [(year, [p])] := by
  have hnone : archive.any (·.1 == year) = false := by
    rw [List.any_eq_false]
    intro entry hentry
    rw [beq_iff_eq]
    exact Nat.ne_of_gt (h entry hentry)
  rw [add, hnone, if_neg Bool.false_ne_true]

theorem Years.front {front : Archive} {last : Nat × List Page} (h : Years (front ++ [last])) :
    Years front where
  decreasing := (List.pairwise_append.mp h.decreasing).1
  filled entry hentry := h.filled entry (List.mem_append_left _ hentry)
  dated entry hentry := h.dated entry (List.mem_append_left _ hentry)

theorem Years.concat {pages : List Page} (h : archive.Years)
    (hlater : ∀ entry ∈ archive, year < entry.1) (hne : pages ≠ [])
    (hdated : ∀ p ∈ pages, p.year? = some year) : Years (archive ++ [(year, pages)]) where
  decreasing := by
    refine List.pairwise_append.mpr ⟨h.decreasing, List.pairwise_singleton _ _, ?_⟩
    rintro entry hentry _ (_ | _)
    · exact hlater entry hentry
    · contradiction
  filled := List.forall_mem_append.mpr ⟨h.filled, List.forall_mem_singleton.mpr hne⟩
  dated := List.forall_mem_append.mpr ⟨h.dated, List.forall_mem_singleton.mpr hdated⟩

/-- A page that is not of a later year than the ones before it goes to the end of the archive: to the
last year, or behind it. -/
theorem Years.add_eq (h : archive.Years) (hle : ∀ entry ∈ archive, year ≤ entry.1) (p : Page) :
    ∃ front pages, archive.add year p = front ++ [(year, pages ++ [p])] ∧
      archive.flatMap (·.2) = front.flatMap (·.2) ++ pages ∧ front.Years ∧
      (∀ entry ∈ front, year < entry.1) ∧ ∀ q ∈ pages, q.year? = some year := by
  by_cases hlater : ∀ entry ∈ archive, year < entry.1
  · exact ⟨archive, [], add_of_later hlater, (List.append_nil _).symm, h, hlater,
      List.forall_mem_nil _⟩
  · have hne : archive ≠ [] := by
      rintro rfl
      exact hlater (List.forall_mem_nil _)
    obtain ⟨front, last, rfl⟩ : ∃ front last, archive = front ++ [last] :=
      ⟨_, _, (List.dropLast_concat_getLast hne).symm⟩
    have hfront : ∀ entry ∈ front, last.1 < entry.1 := fun entry hentry =>
      (List.pairwise_append.mp h.decreasing).2.2 entry hentry last List.mem_cons_self
    have hmem : last ∈ front ++ [last] := List.mem_append_right _ List.mem_cons_self
    rcases Nat.eq_or_lt_of_le (hle last hmem) with rfl | hlt
    · exact ⟨front, last.2, add_of_last hfront, by simp, h.front, hfront, h.dated last hmem⟩
    · refine absurd (List.forall_mem_append.mpr ⟨fun entry hentry => ?_, ?_⟩) hlater
      · exact Nat.lt_trans hlt (hfront entry hentry)
      · exact List.forall_mem_singleton.mpr hlt

theorem Years.add (h : archive.Years) (hle : ∀ entry ∈ archive, year ≤ entry.1)
    (hp : p.year? = some year) :
    (archive.add year p).Years ∧
      (archive.add year p).flatMap (·.2) = archive.flatMap (·.2) ++ [p] ∧
      ∀ entry ∈ archive.add year p, year ≤ entry.1 := by
  obtain ⟨front, pages, hadd, hpages, hfront, hlater, hdated⟩ := h.add_eq hle p
  rw [hadd, hpages]
  refine ⟨?_, by simp, ?_⟩
  · refine hfront.concat hlater (List.concat_ne_nil _ _) ?_
    exact List.forall_mem_append.mpr ⟨hdated, List.forall_mem_singleton.mpr hp⟩
  · refine List.forall_mem_append.mpr ⟨fun entry hentry => Nat.le_of_lt (hlater entry hentry), ?_⟩
    exact List.forall_mem_singleton.mpr (Nat.le_refl _)

theorem Years.foldlM {posts : List Page} (hsortable : ∀ p ∈ posts, p.Sortable)
    (hnewest : posts.Pairwise fun p q =>
      ∀ year ∈ p.year?, ∀ earlier ∈ q.year?, earlier ≤ year)
    (h : archive.Years)
    (hle : ∀ entry ∈ archive, ∀ p ∈ posts, ∀ year ∈ p.year?, year ≤ entry.1) :
    ∃ later : Archive,
      (posts.map .page).foldlM Context.addToYear archive.written = .ok later.written ∧
      later.Years ∧
      later.flatMap (·.2) = archive.flatMap (·.2) ++ posts.filter (·.date.truthy) := by
  induction posts generalizing archive with
  | nil => exact ⟨archive, rfl, h, by simp⟩
  | cons p posts ih =>
      obtain ⟨hp, hposts⟩ := List.forall_mem_cons.mp hsortable
      obtain ⟨hearlier, hnewest⟩ := List.pairwise_cons.mp hnewest
      rw [List.map_cons, List.foldlM_cons]
      rcases hp.date with hdate | ⟨m, hdate⟩
      · have hrest : ∀ entry ∈ archive, ∀ q ∈ posts, ∀ year ∈ q.year?, year ≤ entry.1 :=
          fun entry hentry q hq => hle entry hentry q (List.mem_cons_of_mem _ hq)
        obtain ⟨later, hfold, hyears, hpages⟩ := ih hposts hnewest h hrest
        refine ⟨later, ?_, hyears, ?_⟩
        · rw [addToYear_undated hdate, ok_bind, hfold]
        · rw [hpages, List.filter_cons_of_neg (by simp [hdate, Value.truthy])]
      · have hyear : p.year? = some m.date.year := by rw [Page.year?, hdate]
        obtain ⟨hadded, hpages, hlast⟩ := h.add (p := p)
          (fun entry hentry => hle entry hentry p List.mem_cons_self _ hyear) hyear
        -- What comes behind `p` is of no later year, and `p` of no later year than the archive.
        have hrest : ∀ entry ∈ archive.add m.date.year p, ∀ q ∈ posts, ∀ year ∈ q.year?,
            year ≤ entry.1 := fun entry hentry q hq earlier hq' =>
          Nat.le_trans (hearlier q hq _ hyear _ hq') (hlast entry hentry)
        obtain ⟨later, hfold, hyears, hpages'⟩ := ih hposts hnewest hadded hrest
        refine ⟨later, ?_, hyears, ?_⟩
        · rw [addToYear_written hdate, ok_bind, hfold]
        · rw [hpages', hpages, List.filter_cons_of_pos (by simp [hdate, Value.truthy]),
            List.append_assoc, List.singleton_append]

end Archive

namespace Page

variable {p q : Page}

theorem sortMoment_of_year? {year : Nat} (h : year ∈ p.year?) :
    p.sortMoment.date.year = year := by
  unfold year? at h
  split at h
  · next m hdate =>
      rw [sortMoment, hdate]
      exact Option.some.inj h
  · cases h

theorem offset_of_zoned (h : p.zoned = false) : p.sortMoment.offset = none :=
  Option.isNone_iff_eq_none.mp (Option.isSome_eq_false_iff.mp h)

theorem year_le_of_precedes (hp : p.sortMoment.isValid = true) (hq : q.sortMoment.isValid = true)
    (hpNaive : p.zoned = false) (hqNaive : q.zoned = false) (h : precedes p q = true) :
    ∀ year ∈ p.year?, ∀ earlier ∈ q.year?, earlier ≤ year := by
  intro year hyear earlier hearlier
  have hinstant : q.sortMoment.instant ≤ p.sortMoment.instant :=
    of_decide_eq_true (notOlder_of_precedes h)
  rw [← sortMoment_of_year? hyear, ← sortMoment_of_year? hearlier]
  exact Moment.year_le_of_instant_le hq hp (offset_of_zoned hqNaive) (offset_of_zoned hpNaive)
    hinstant

end Page

/-- The archive by year is what `posts` has that is dated, year by year in the same order. Dates are
days of the calendar without an offset. -/
theorem archive_partitions {ctx : Context} (h : ∀ p ∈ ctx.site.pages, p.Sortable)
    (hnaive : Naive ctx.site.pages) (hvalid : ∀ p ∈ ctx.site.pages, p.sortMoment.isValid = true) :
    ∃ (posts : List Page) (archive : Archive),
      ctx.root? "posts".toList = some (.ok (.pages (posts.map .page))) ∧
      ctx.root? "archive_by_year".toList =
        some (.ok (.map (archive.map fun (year, pages) =>
          (.text (Text.ofNat year), .list (pages.map .page))))) ∧
      archive.flatMap (·.2) = posts.filter (·.date.truthy) ∧ archive.Years := by
  have hmem : ∀ p ∈ singles ctx.site.pages, p ∈ ctx.site.pages :=
    fun p hp => (List.mem_filter.mp hp).1
  have hsorted := Collection.sorted_eq (fun p hp => h p (hmem p hp)) fun p hp => hnaive p (hmem p hp)
  have hpairwise := List.pairwise_mergeSort Page.sorts_precedes.trans Page.sorts_precedes.total
    (singles ctx.site.pages)
  have hposts : ∀ p ∈ (singles ctx.site.pages).mergeSort Page.precedes, p ∈ ctx.site.pages :=
    fun p hp => hmem p (List.mem_mergeSort.mp hp)
  have hnewest := hpairwise.imp_of_mem fun {p q} hp hq hpq =>
    Page.year_le_of_precedes (hvalid p (hposts p hp)) (hvalid q (hposts q hq))
      (hnaive p (hposts p hp)) (hnaive q (hposts q hq)) hpq
  have hempty : Archive.Years [] := ⟨.nil, List.forall_mem_nil _, List.forall_mem_nil _⟩
  obtain ⟨archive, hfold, hyears, hpages⟩ := hempty.foldlM (fun p hp => h p (hposts p hp)) hnewest
    (List.forall_mem_nil _)
  refine ⟨_, archive, ?_, ?_, hpages, hyears⟩
  · change some (do
      return Value.pages (← Collection.sorted (← Collection.regular ctx.site.pageValues))) = _
    rw [Site.pageValues, Collection.regular_pages, ok_bind, hsorted]
    rfl
  · change some (Context.archiveByYear ctx.site) = _
    rw [Context.archiveByYear, Site.pageValues, Collection.regular_pages, ok_bind, hsorted, ok_bind]
    change some (List.foldlM Context.addToYear (Archive.written []) _ >>= _) = _
    rw [hfold, ok_bind, Archive.written, List.map_map]
    rfl

/-- Pages on both sides of the first day of 1970, with one without a date among them. -/
def datedAcross : List Page :=
  sectionOf [("A", some (.ofDate ⟨1969, 12, 31⟩), 0), ("B", none, 1),
    ("C", some (.ofDate ⟨2024, 1, 5⟩), 2), ("D", some (.ofDate ⟨1970, 1, 1⟩), 3),
    ("E", some (.ofDate ⟨2024, 2, 29⟩), 4)]

theorem archive_partitions_datedAcross :
    (∀ p ∈ datedAcross, p.Sortable) ∧ Naive datedAcross ∧
    (∀ p ∈ datedAcross, p.sortMoment.isValid = true) ∧
    ∃ (posts : List Page) (archive : Archive),
      (onSite datedAcross).root? "posts".toList = some (.ok (.pages (posts.map .page))) ∧
      (onSite datedAcross).root? "archive_by_year".toList =
        some (.ok (.map (archive.map fun (year, pages) =>
          (.text (Text.ofNat year), .list (pages.map .page))))) ∧
      archive.flatMap (·.2) = posts.filter (·.date.truthy) ∧ archive.Years := by
  have hnaive : Naive datedAcross := by
    unfold Naive
    decide
  have hvalid : ∀ p ∈ datedAcross, p.sortMoment.isValid = true := by decide
  exact ⟨sortable_sectionOf, hnaive, hvalid,
    @archive_partitions (onSite datedAcross) sortable_sectionOf hnaive hvalid⟩

end Stencil
