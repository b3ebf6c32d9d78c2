import Stencil.Proofs.Site.Address
import Stencil.Proofs.Value.Order
import Stencil.Template.Context

namespace Stencil

/-! Pages as documents give them. -/

namespace Document

theorem offset_of_moment? {s : Text} {m : Moment} (h : moment? (.text s) = some m) :
    m.offset = none := by
  rw [moment?] at h
  cases hspaced : Moment.ofSpacedText? (Text.trim s) with
  | some n =>
      rw [hspaced] at h
      cases h
      exact Moment.offset_of_ofSpacedText? hspaced
  | none =>
      rw [hspaced, Option.orElse_none] at h
      cases hjoined : Moment.ofJoinedText? (Text.trim s) with
      | some n =>
          rw [hjoined] at h
          cases h
          exact Moment.offset_of_ofJoinedText? hjoined
      | none =>
          rw [hjoined, Option.orElse_none] at h
          exact Moment.offset_of_ofDayText? h

/-- Dates in texts and in names carry no offset. -/
theorem eq_moment_of_offset {entry : Value} {stem : Text} {m : Moment}
    (h : date? entry stem = .ok (some m)) (hoffset : m.offset.isSome) : entry = .moment m := by
  have hbare : m.offset ≠ none := Option.isSome_iff_ne_none.mp hoffset
  have hname : Moment.ofName stem ≠ .ok (some m) := fun h => hbare (Moment.offset_of_ofName h)
  cases entry with
  | moment n =>
      cases h
      rfl
  | date d =>
      cases h
      exact absurd rfl hbare
  | text s =>
      unfold date? at h
      split at h
      · next n hread =>
          cases h
          exact absurd (offset_of_moment? hread) hbare
      · exact absurd h hname
  | _ => exact absurd h hname

end Document

namespace Page

structure Loaded (p : Page) : Prop where
  title : ∃ s : Text, p.title = .text s
  date : ∃ entry stem date?, Document.date? entry stem = .ok date? ∧
    p.date = (date?.map Value.moment).getD .nil
  tags : ∃ texts : List Text, p.tags = .list (texts.map .text)

theorem loaded_of_page {file seenAt : Path} {raw : Text} {p : Page}
    (h : Document.page file seenAt raw = .ok p) : p.Loaded := by
  obtain ⟨entries, hsettles⟩ := Document.settles_of_page h
  obtain ⟨date, hdate, hp⟩ := hsettles.date
  exact ⟨hsettles.title, ⟨_, file.stem, date, hdate, hp⟩, hsettles.tags⟩

def sortMoment (p : Page) : Moment :=
  match p.date with
  | .moment m => m
  | _ => .epoch

def zoned (p : Page) : Bool := p.sortMoment.offset.isSome

/-- Only a moment of the front matter brings an offset with it. -/
theorem zoned_iff {p : Page} {entry : Value} {stem : Text} {date? : Option Moment}
    (hdate : Document.date? entry stem = .ok date?)
    (hp : p.date = (date?.map Value.moment).getD .nil) :
    p.zoned = true ↔ ∃ m : Moment, entry = .moment m ∧ m.offset.isSome = true := by
  unfold zoned sortMoment
  rw [hp]
  constructor
  · intro hzoned
    cases date? with
    | none => cases hzoned
    | some m => exact ⟨m, Document.eq_moment_of_offset hdate hzoned, hzoned⟩
  · rintro ⟨m, rfl, hzoned⟩
    cases hdate
    exact hzoned

def titleText (p : Page) : Text := p.title.asText?.getD []

def tagValues (p : Page) : List Value := p.tags.sequence?.getD []

def sharedTags (p q : Page) : List Value :=
  Value.distinct (q.tagValues.filter (·.isIn (Value.distinct p.tagValues)))

/-- The fields that collections sort by are of the kinds they are meant to be. -/
structure Sortable (p : Page) : Prop where
  title : ∃ s : Text, p.title = .text s
  date : p.date = .nil ∨ ∃ m : Moment, p.date = .moment m

namespace Sortable

variable {p : Page}

theorem sortDate_eq (h : p.Sortable) : p.sortDate = .moment p.sortMoment := by
  unfold sortDate sortMoment
  rcases h.date with hdate | ⟨m, hdate⟩
  · rw [hdate]
    rfl
  · rw [hdate]
    rfl

theorem textOrNoSuch_title (h : p.Sortable) : p.title.textOrNoSuch = .ok p.titleText := by
  obtain ⟨s, hs⟩ := h.title
  rw [titleText, hs]
  rfl

end Sortable

namespace Loaded

variable {p : Page}

theorem sortable (h : p.Loaded) : p.Sortable where
  title := h.title
  date := by
    obtain ⟨entry, stem, date, -, hdate⟩ := h.date
    cases date with
    | none => exact .inl hdate
    | some m => exact .inr ⟨m, hdate⟩

theorem sortDate_eq (h : p.Loaded) : p.sortDate = .moment p.sortMoment := h.sortable.sortDate_eq

theorem keys_tags (h : p.Loaded) : p.tags.keys = .ok p.tagValues := by
  obtain ⟨texts, htexts⟩ := h.tags
  have hkeys : (texts.map Value.text).all Value.isKey = true := by
    simp [Value.isKey]
  rw [tagValues, htexts, Value.keys, Value.elements, ok_bind, if_pos hkeys]
  rfl

end Loaded

end Page

/-- All of the pages are dated with an offset, or none is. -/
def Uniform (pages : List Page) : Prop := ∀ p ∈ pages, ∀ q ∈ pages, p.zoned = q.zoned

theorem Uniform.iff_pairwise {pages : List Page} :
    Uniform pages ↔ pages.Pairwise fun p q => p.zoned = q.zoned :=
  (pairwise_iff_forall_mem (R := fun p q : Page => p.zoned = q.zoned) (fun _ => rfl)
    fun _ _ => Eq.symm).symm

/-- There is a result if a condition holds, and values without an order if not. -/
structure OrdersIf {α : Type} (c : Prop) (x : Except Fault α) : Prop where
  ok : c → ∃ a, x = .ok a
  error : ¬c → x = .error .wrongKind

namespace OrdersIf

variable {α β κ : Type} {c : Prop} {x : Except Fault α}

theorem of_ok {a : α} (hc : c) (h : x = .ok a) : OrdersIf c x where
  ok _ := ⟨a, h⟩
  error hnot := absurd hc hnot

theorem congr {d : Prop} (hcd : c ↔ d) (h : OrdersIf c x) : OrdersIf d x :=
  ⟨fun hd => h.ok (hcd.mpr hd), fun hd => h.error fun hc => hd (hcd.mp hc)⟩

theorem map (h : OrdersIf c x) (f : α → β) : OrdersIf c (f <$> x) where
  ok hc := by
    obtain ⟨a, ha⟩ := h.ok hc
    exact ⟨f a, by rw [ha, map_ok]⟩
  error hc := by
    rw [h.error hc]
    rfl

theorem bind {f : α → Except Fault β} (h : OrdersIf c x)
    (hf : ∀ a, x = .ok a → ∃ b, f a = .ok b) : OrdersIf c (x >>= f) where
  ok hc := by
    obtain ⟨a, ha⟩ := h.ok hc
    obtain ⟨b, hb⟩ := hf a ha
    exact ⟨b, by rw [ha, ok_bind, hb]⟩
  error hc := by
    rw [h.error hc]
    rfl

theorem sortByKey {lt? : κ → κ → Except Fault Bool} {items : List (κ × α)}
    (hfault : ∀ x y e, lt? x y = .error e → e = .wrongKind)
    (hc : items.Pairwise (fun a b => Comparable lt? a.1 b.1) ↔ c) :
    OrdersIf c (Stencil.sortByKey lt? items) where
  ok h := sortByKey_of_pairwise (hc.mpr h)
  error h := sortByKey_of_not_pairwise hfault fun hpairwise => h (hc.mp hpairwise)

theorem sortByKeyDescending {lt? : κ → κ → Except Fault Bool} {items : List (κ × α)}
    (hfault : ∀ x y e, lt? x y = .error e → e = .wrongKind)
    (hc : items.Pairwise (fun a b => Comparable lt? a.1 b.1) ↔ c) :
    OrdersIf c (Stencil.sortByKeyDescending lt? items) := by
  refine sortByKey (fun x y => hfault y x) ?_
  simpa only [comparable_flip] using hc

end OrdersIf

/-! Collections. -/

namespace Collection

theorem fault_of_sortKeyLt? (x y : Value × Text) (e : Fault) (h : sortKeyLt? x y = .error e) :
    e = .wrongKind := by
  unfold sortKeyLt? pairLt? at h
  split at h
  · cases h
  · exact Value.fault_of_lt? _ _ _ h

theorem comparable_sortKeys {m n : Moment} {s t : Text} :
    Comparable sortKeyLt? (.moment m, s) (.moment n, t) ↔ m.offset.isSome = n.offset.isSome := by
  have htexts : Comparable (fun s t => .ok (Text.lt s t)) s t := ⟨⟨_, rfl⟩, ⟨_, rfl⟩⟩
  unfold sortKeyLt?
  rw [comparable_pairLt? (Value.eq_moment_symm m n)]
  split
  · next heq => exact ⟨fun _ => (Value.eq_moment_iff.mp heq).1, fun _ => htexts⟩
  · exact Value.comparable_moments

theorem mapM_sortKey {pages : List Page} (h : ∀ p ∈ pages, p.Sortable) :
    ((pages.map Value.page).mapM fun v => do return (← sortKey v, v) : Except Fault _) =
      .ok (pages.map fun p =>
        ((Value.moment p.sortMoment, Text.toLower p.titleText), Value.page p)) := by
  rw [List.mapM_map]
  apply mapM_eq_map
  intro p hp
  simp only [Function.comp_apply, sortKey, pageOf, ok_bind, (h p hp).textOrNoSuch_title,
    (h p hp).sortDate_eq]
  rfl

theorem sorted_orders_of_sortable {pages : List Page} (h : ∀ p ∈ pages, p.Sortable)
    (newestFirst : Bool) : OrdersIf (Uniform pages) (sorted (pages.map .page) newestFirst) := by
  have hpairs : (pages.map fun p => ((Value.moment p.sortMoment, Text.toLower p.titleText),
      Value.page p)).Pairwise (fun a b => Comparable sortKeyLt? a.1 b.1) ↔ Uniform pages := by
    rw [List.pairwise_map, Uniform.iff_pairwise]
    simp only [comparable_sortKeys]
    rfl
  rw [sorted, mapM_sortKey h, ok_bind]
  split
  · exact .sortByKeyDescending fault_of_sortKeyLt? hpairs
  · exact .sortByKey fault_of_sortKeyLt? hpairs

theorem sorted_orders {pages : List Page} (h : ∀ p ∈ pages, p.Loaded) (newestFirst : Bool) :
    OrdersIf (Uniform pages) (sorted (pages.map .page) newestFirst) :=
  sorted_orders_of_sortable (fun p hp => (h p hp).sortable) newestFirst

end Collection

theorem Collection.perm_of_sorted {pages : List Page} (h : ∀ p ∈ pages, p.Sortable)
    {newestFirst : Bool} {out : List Value}
    (hout : Collection.sorted (pages.map .page) newestFirst = .ok out) :
    out.Perm (pages.map .page) := by
  rw [sorted, mapM_sortKey h, ok_bind] at hout
  have hperm : out.Perm ((pages.map fun p => ((Value.moment p.sortMoment,
      Text.toLower p.titleText), Value.page p)).map (·.2)) := by
    split at hout
    · exact perm_of_sortByKey hout
    · exact perm_of_sortByKey hout
  rwa [List.map_map] at hperm

def singles (pages : List Page) : List Page := pages.filter (·.kindIs "single")

namespace Collection

theorem narrow_eq_filter {test : Page → Except Fault Bool} {keep : Page → Bool}
    {pages : List Page} (h : ∀ p ∈ pages, test p = .ok (keep p)) :
    narrow test (pages.map .page) = .ok ((pages.filter keep).map .page) := by
  have hseen : ∀ seen : List Value,
      (pages.map Value.page).filterAuxM (fun v => do test (← pageOf v)) seen =
        (.ok (((pages.filter keep).map Value.page).reverse ++ seen) : Except Fault _) := by
    induction pages with
    | nil => exact fun _ => rfl
    | cons p pages ih =>
        intro seen
        obtain ⟨hp, hpages⟩ := List.forall_mem_cons.mp h
        rw [List.map_cons, List.filterAuxM, List.filter_cons]
        cases hkeep : keep p with
        | true => simpa [pageOf, hp, hkeep] using ih hpages (.page p :: seen)
        | false => simpa [pageOf, hp, hkeep] using ih hpages seen
  rw [narrow, List.filterM, hseen, ok_bind, List.append_nil, List.reverse_reverse]
  rfl

theorem narrow_pages (test : Page → Bool) (pages : List Page) :
    narrow (fun p => .ok (test p)) (pages.map .page) = .ok ((pages.filter test).map .page) :=
  narrow_eq_filter fun _ _ => rfl

theorem regular_pages (pages : List Page) :
    regular (pages.map .page) = .ok ((singles pages).map .page) :=
  narrow_pages (·.kindIs "single") pages

theorem latest_orders {pages : List Page} (h : ∀ p ∈ pages, p.Loaded) (count : Int) :
    OrdersIf (Uniform (singles pages)) (latest count (pages.map .page)) := by
  have hsingles : ∀ p ∈ singles pages, p.Loaded := fun p hp => h p (List.mem_filter.mp hp).1
  rw [latest, regular_pages, ok_bind]
  exact (sorted_orders hsingles true).bind fun a _ => ⟨_, rfl⟩

end Collection

/-! Neighbours, children and related pages. -/

def siblings (page : Page) (pages : List Page) : List Page :=
  pages.filter fun p => p.section_.eq page.section_ && p.kindIs "single"

def relatives (page : Page) (pages : List Page) : List Page :=
  pages.filter fun p =>
    !p.isSamePage page && p.kindIs "single" && !(page.sharedTags p).isEmpty

/-- Pages that share equally many tags with `page` are dated alike. -/
def UniformByShare (page : Page) (pages : List Page) : Prop :=
  ∀ p ∈ pages, ∀ q ∈ pages, (page.sharedTags p).length = (page.sharedTags q).length →
    p.zoned = q.zoned

namespace Navigation

variable {pages : List Page}

theorem sectionPages_orders (h : ∀ p ∈ pages, p.Loaded) (page : Page) :
    OrdersIf (Uniform (siblings page pages)) (sectionPages page.section_ pages) := by
  have hkeys : (siblings page pages).map (fun p => (p.sortDate, p)) =
      (siblings page pages).map fun p => (Value.moment p.sortMoment, p) := by
    apply List.map_congr_left
    intro p hp
    rw [(h p (List.mem_filter.mp hp).1).sortDate_eq]
  have hpairs : ((siblings page pages).map fun p => (Value.moment p.sortMoment, p)).Pairwise
      (fun a b => Comparable Value.lt? a.1 b.1) ↔ Uniform (siblings page pages) := by
    rw [List.pairwise_map, Uniform.iff_pairwise]
    simp only [Value.comparable_moments]
    rfl
  have horders := OrdersIf.sortByKeyDescending Value.fault_of_lt? hpairs
  rwa [← hkeys] at horders

theorem sectionNav_orders (h : ∀ p ∈ pages, p.Loaded) (page : Page) :
    OrdersIf (page.kindIs "single" = true → Uniform (siblings page pages))
      (sectionNav page pages) := by
  unfold sectionNav
  cases hsingle : page.kindIs "single" with
  | false => exact .of_ok (fun h => nomatch h) rfl
  | true =>
      refine .congr (forall_prop_of_true rfl).symm ?_
      exact (sectionPages_orders h page).bind fun ordered _ => by
        dsimp only
        split <;> exact ⟨_, rfl⟩

theorem children_orders (h : ∀ p ∈ pages, p.Loaded) (page : Page) :
    OrdersIf ((page.kindIs "section" || page.kindIs "home") = true →
      Uniform (siblings page pages)) (children page pages) := by
  unfold children
  split
  · next hkind => exact .congr (forall_prop_of_true hkind).symm (sectionPages_orders h page)
  · next hkind => exact .of_ok (fun h => absurd h hkind) rfl

theorem filterMapM_shared (h : ∀ p ∈ pages, p.Loaded) (page : Page) :
    (pages.filterMapM fun p => do
      if p.isSamePage page || !p.kindIs "single" then return none
      let shared :=
        Value.distinct ((← p.tags.keys).filter (·.isIn (Value.distinct page.tagValues)))
      if shared.isEmpty then return none
      return some ((Value.int shared.length, p.sortDate), p) : Except Fault _) =
      .ok ((relatives page pages).map fun p =>
        ((Value.int (page.sharedTags p).length, Value.moment p.sortMoment), p)) := by
  apply filterMapM_eq_map
  intro p hp
  rw [(h p hp).keys_tags, (h p hp).sortDate_eq, ok_bind, ← Page.sharedTags]
  cases p.isSamePage page with
  | true => rfl
  | false =>
      cases p.kindIs "single" with
      | false => rfl
      | true =>
          dsimp only
          cases (page.sharedTags p).isEmpty <;> rfl

theorem comparable_shares {m n : Moment} {i j : Int} :
    Comparable (pairLt? Value.eq Value.lt? Value.lt?) (.int i, .moment m) (.int j, .moment n) ↔
      (i = j → m.offset.isSome = n.offset.isSome) := by
  have hsymm : (Value.int i).eq (.int j) = (Value.int j).eq (.int i) := by
    rw [Value.eq_int, Value.eq_int, Bool.beq_comm]
  rw [comparable_pairLt? hsymm, Value.eq_int, Value.comparable_moments]
  by_cases heq : i = j
  · simp [heq]
  · simp [heq, Value.comparable_ints]

theorem fault_of_shares (x y : Value × Value) (e : Fault)
    (h : pairLt? Value.eq Value.lt? Value.lt? x y = .error e) : e = .wrongKind := by
  unfold pairLt? at h
  split at h <;> exact Value.fault_of_lt? _ _ _ h

theorem relatives_of_untagged {page : Page} (h : (Value.distinct page.tagValues).isEmpty = true) :
    relatives page pages = [] := by
  rw [relatives, List.filter_eq_nil_iff]
  intro p _
  have hshared : page.sharedTags p = [] := by
    have hnone : p.tagValues.filter (·.isIn []) = [] :=
      List.filter_eq_nil_iff.mpr fun _ _ => Bool.false_ne_true
    rw [Page.sharedTags, List.isEmpty_iff.mp h, hnone]
    rfl
  simp [hshared]

theorem related_orders (h : ∀ p ∈ pages, p.Loaded) {page : Page} (hpage : page.Loaded)
    (count : Int) :
    OrdersIf (UniformByShare page (relatives page pages)) (related page pages count) := by
  have hpairs : ((relatives page pages).map fun p =>
      ((Value.int (page.sharedTags p).length, Value.moment p.sortMoment), p)).Pairwise
        (fun a b => Comparable (pairLt? Value.eq Value.lt? Value.lt?) a.1 b.1) ↔
      UniformByShare page (relatives page pages) := by
    rw [List.pairwise_map]
    simp only [comparable_shares, Int.natCast_inj]
    exact pairwise_iff_forall_mem (fun _ _ => rfl) fun _ _ h heq => (h heq.symm).symm
  rw [related, hpage.keys_tags, ok_bind]
  dsimp only
  split
  · next hnone => exact .of_ok (by simp [UniformByShare, relatives_of_untagged hnone]) rfl
  · rw [filterMapM_shared h page, ok_bind]
    exact (OrdersIf.sortByKeyDescending fault_of_shares hpairs).bind fun ranked _ => ⟨_, rfl⟩

end Navigation

/-! The names of the root. -/

namespace Context

theorem posts_orders {ctx : Context} (h : ∀ p ∈ ctx.site.pages, p.Loaded) :
    ∃ r, ctx.root? "posts".toList = some r ∧ OrdersIf (Uniform (singles ctx.site.pages)) r := by
  have hsingles : ∀ p ∈ singles ctx.site.pages, p.Loaded :=
    fun p hp => h p (List.mem_filter.mp hp).1
  refine ⟨_, rfl, ?_⟩
  change OrdersIf _ (Collection.regular (ctx.site.pages.map .page) >>= _)
  rw [Collection.regular_pages, ok_bind]
  exact (Collection.sorted_orders hsingles true).bind fun posts _ => ⟨.pages posts, rfl⟩

theorem addToYear_ok {p : Page} (h : p.Loaded) (archive : List (Text × List Value)) :
    ∃ archive', addToYear archive (.page p) = .ok archive' := by
  obtain ⟨entry, stem, date, -, hdate⟩ := h.date
  rw [addToYear, Collection.pageOf, ok_bind, hdate]
  cases date with
  | none => exact ⟨_, rfl⟩
  | some m =>
      simp only [Option.map_some, Option.getD_some, Value.truthy, Bool.not_true,
        Bool.false_eq_true, if_false, yearOf, ok_bind]
      split <;> exact ⟨_, rfl⟩

theorem archiveByYear_orders {site : Site} (h : ∀ p ∈ site.pages, p.Loaded) :
    OrdersIf (Uniform (singles site.pages)) (archiveByYear site) := by
  have hsingles : ∀ p ∈ singles site.pages, p.Loaded := fun p hp => h p (List.mem_filter.mp hp).1
  unfold archiveByYear
  rw [Site.pageValues, Collection.regular_pages, ok_bind]
  refine (Collection.sorted_orders hsingles true).bind fun sorted hsorted => ?_
  have hpages : ∀ v ∈ sorted, ∃ p : Page, v = .page p ∧ p.Loaded := by
    intro v hv
    have hperm := Collection.perm_of_sorted (fun p hp => (hsingles p hp).sortable) hsorted
    obtain ⟨p, hp, rfl⟩ := List.mem_map.mp (hperm.subset hv)
    exact ⟨p, rfl, hsingles p hp⟩
  have hyears : ∀ v ∈ sorted, ∀ archive, True →
      ∃ archive', addToYear archive v = .ok archive' ∧ True := by
    intro v hv archive _
    obtain ⟨p, rfl, hp⟩ := hpages v hv
    obtain ⟨archive', harchive⟩ := addToYear_ok hp archive
    exact ⟨archive', harchive, trivial⟩
  obtain ⟨years, hfold, -⟩ := foldlM_ok hyears trivial
  exact ⟨_, by rw [hfold, ok_bind]; rfl⟩

end Context

/-- The pages of a site can be put in order exactly if no moment with an offset meets a date without
one among those that are compared. Pages without a date are compared by a moment without an
offset. -/
theorem orders_loaded {pages : List Page} (h : ∀ p ∈ pages, p.Loaded) :
    (∀ newestFirst,
      OrdersIf (Uniform pages) (Collection.sorted (pages.map .page) newestFirst)) ∧
    (∀ count, OrdersIf (Uniform (singles pages)) (Collection.latest count (pages.map .page))) ∧
    (∀ page, OrdersIf (page.kindIs "single" = true → Uniform (siblings page pages))
      (Navigation.sectionNav page pages)) ∧
    (∀ page, OrdersIf ((page.kindIs "section" || page.kindIs "home") = true →
      Uniform (siblings page pages)) (Navigation.children page pages)) ∧
    (∀ page count, page.Loaded →
      OrdersIf (UniformByShare page (relatives page pages))
        (Navigation.related page pages count)) ∧
    ∀ ctx : Context, ctx.site.pages = pages →
      ∀ name ∈ ["posts".toList, "archive_by_year".toList],
        ∃ r, ctx.root? name = some r ∧ OrdersIf (Uniform (singles pages)) r := by
  refine ⟨Collection.sorted_orders h, Collection.latest_orders h, Navigation.sectionNav_orders h,
    Navigation.children_orders h,
    fun page count hpage => Navigation.related_orders h hpage count, ?_⟩
  rintro ctx rfl name hname
  simp only [List.mem_cons, List.not_mem_nil, or_false] at hname
  rcases hname with rfl | rfl
  · exact Context.posts_orders h
  · exact ⟨_, rfl, Context.archiveByYear_orders h⟩

def datedPage (date? : Option Moment) : Page :=
  { Page.blank with date := (date?.map Value.moment).getD .nil, tags := .list [.ofString "t"] }

theorem loaded_datedPage {entry : Value} {stem : Text} {date? : Option Moment}
    (h : Document.date? entry stem = .ok date?) : (datedPage date?).Loaded where
  title := ⟨[], rfl⟩
  date := ⟨entry, stem, date?, h, rfl⟩
  tags := ⟨["t".toList], rfl⟩

/-- Dates as they are read from `2024-01-05` and from the name `2023-12-31-eve`, and none. -/
def plainDates : List Page :=
  [datedPage (some (.ofDate ⟨2024, 1, 5⟩)), datedPage (some (.ofDate ⟨2023, 12, 31⟩)),
    datedPage none]

theorem orders_loaded_plain :
    (∀ p ∈ plainDates, p.Loaded) ∧
      ∃ sorted, Collection.sorted (plainDates.map .page) = .ok sorted := by
  have hloaded : ∀ p ∈ plainDates, p.Loaded := by
    simp only [plainDates, List.forall_mem_cons]
    exact ⟨@loaded_datedPage (.ofString "2024-01-05") [] _ rfl,
      @loaded_datedPage .nil "2023-12-31-eve".toList _ rfl, @loaded_datedPage .nil [] _ rfl,
      List.forall_mem_nil _⟩
  have huniform : ∀ p ∈ plainDates, ∀ q ∈ plainDates, p.zoned = q.zoned := by decide
  exact ⟨hloaded, ((orders_loaded hloaded).1 true).ok huniform⟩

/-- A date as it is read from `2024-01-05T00:00:00Z`, and none. -/
def mixedDates : List Page :=
  [datedPage (some ⟨⟨2024, 1, 5⟩, 0, 0, 0, 0, some 0⟩), datedPage none]

def bareSection : Page := { Page.blank with kind := .ofString "section" }

theorem loaded_mixedDates : ∀ p ∈ mixedDates, p.Loaded := by
  simp only [mixedDates, List.forall_mem_cons]
  exact ⟨@loaded_datedPage (.moment ⟨⟨2024, 1, 5⟩, 0, 0, 0, 0, some 0⟩) [] _ rfl,
    @loaded_datedPage .nil [] _ rfl, List.forall_mem_nil _⟩

theorem not_uniform_mixedDates : ¬Uniform mixedDates := by
  intro h
  have hzoned := h _ List.mem_cons_self _ (List.mem_cons_of_mem _ List.mem_cons_self)
  cases hzoned

theorem singles_mixedDates : singles mixedDates = mixedDates := by
  simp [singles, mixedDates, datedPage, Page.kindIs, Page.blank, Value.eq, Value.ofString]

theorem siblings_mixedDates {page : Page} (h : page.section_ = .text []) :
    siblings page mixedDates = mixedDates := by
  simp [siblings, h, mixedDates, datedPage, Page.kindIs, Page.blank, Value.eq, Value.ofString]

theorem relatives_mixedDates : relatives (datedPage none) mixedDates = mixedDates := by
  simp [relatives, mixedDates, datedPage, Page.isSamePage, Page.kindIs, Page.sharedTags,
    Page.tagValues, Page.blank, Value.sequence?, Value.distinct, Value.isIn, Value.eq,
    Value.ofString]

theorem single_of_mem_mixedDates {page : Page} (h : page ∈ mixedDates) :
    page.section_ = .text [] ∧ page.kindIs "single" = true := by
  rw [← singles_mixedDates] at h
  obtain ⟨hmem, hkind⟩ := List.mem_filter.mp h
  simp only [mixedDates, List.mem_cons, List.not_mem_nil, or_false] at hmem
  rcases hmem with rfl | rfl <;> exact ⟨rfl, hkind⟩

/-- No two of these pages can be put in order, and neither can two candidates of a third page. -/
theorem loaded_unordered :
    (∀ p ∈ mixedDates, p.Loaded) ∧
    (∀ newestFirst,
      Collection.sorted (mixedDates.map .page) newestFirst = .error .wrongKind) ∧
    Collection.latest Collection.shown (mixedDates.map .page) = .error .wrongKind ∧
    (∀ page ∈ mixedDates, Navigation.sectionNav page mixedDates = .error .wrongKind) ∧
    Navigation.children bareSection mixedDates = .error .wrongKind ∧
    Navigation.related (datedPage none) mixedDates Collection.shown = .error .wrongKind ∧
    ∀ name ∈ ["posts".toList, "archive_by_year".toList],
      (Context.create (some { Site.blank with pages := mixedDates }) none [] .epoch).root? name =
        some (.error .wrongKind) := by
  have hsingles : ¬Uniform (singles mixedDates) := by
    rw [singles_mixedDates]
    exact not_uniform_mixedDates
  refine ⟨loaded_mixedDates, fun newestFirst => ?_, ?_, fun page hpage => ?_, ?_, ?_, ?_⟩
  · exact (Collection.sorted_orders loaded_mixedDates newestFirst).error not_uniform_mixedDates
  · exact (Collection.latest_orders loaded_mixedDates _).error hsingles
  · obtain ⟨hsection, hkind⟩ := single_of_mem_mixedDates hpage
    refine (Navigation.sectionNav_orders loaded_mixedDates page).error fun h => ?_
    exact not_uniform_mixedDates (siblings_mixedDates hsection ▸ h hkind)
  · have hkind : (bareSection.kindIs "section" || bareSection.kindIs "home") = true := by
      simp [bareSection, Page.kindIs, Value.eq, Value.ofString]
    have hsiblings : siblings bareSection mixedDates = mixedDates := siblings_mixedDates rfl
    refine (Navigation.children_orders loaded_mixedDates bareSection).error fun h => ?_
    exact not_uniform_mixedDates (hsiblings ▸ h hkind)
  · have hpage : (datedPage none).Loaded := @loaded_datedPage .nil [] _ rfl
    refine (Navigation.related_orders loaded_mixedDates hpage _).error fun h => ?_
    rw [relatives_mixedDates] at h
    have hzoned := h _ List.mem_cons_self _ (List.mem_cons_of_mem _ List.mem_cons_self) rfl
    cases hzoned
  · intro name hname
    have hsite : (Context.create (some { Site.blank with pages := mixedDates }) none []
        .epoch).site.pages = mixedDates := rfl
    simp only [List.mem_cons, List.not_mem_nil, or_false] at hname
    rcases hname with rfl | rfl
    · obtain ⟨posts, hposts, horders⟩ := Context.posts_orders (hsite ▸ loaded_mixedDates)
      rw [hposts, horders.error hsingles]
    · exact congrArg some ((Context.archiveByYear_orders loaded_mixedDates).error hsingles)

end Stencil
