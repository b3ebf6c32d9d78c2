import Stencil.Proofs.Site.Address
import Stencil.Proofs.Site.Parents

namespace Stencil.Navigation

open Stencil.Text

/-! The trail that leads down to a page. -/

variable {pages : List Page} {page : Page} {path segment homeTitle : Text}

/-- The segments of a section's path; empty ones do not count. -/
def segments (path : Text) : List Text := (path.splitAt '/').filter (!·.isEmpty)

structure Indexes (path : Text) (p : Page) : Prop where
  kind : p.kind = .text Document.Role.section_.word
  section_ : p.section_ = .text path

theorem indexes_iff {p : Page} :
    (p.kindIs "section" && p.section_.eq (.text path)) = true ↔ Indexes path p := by
  rw [Bool.and_eq_true, Page.kindIs, Value.ofString, Value.eq_text_iff, Value.eq_text_iff]
  exact ⟨fun h => ⟨h.1, h.2⟩, fun h => ⟨h.kind, h.section_⟩⟩

/-- What a section is called: as its first index page, or after its last segment if it has none. -/
inductive Called (pages : List Page) (path segment : Text) : Value → Prop
  | index {before after : List Page} {p : Page} (hsplit : pages = before ++ p :: after)
      (hindex : Indexes path p) (hfirst : ∀ q ∈ before, ¬Indexes path q) :
      Called pages path segment p.title
  | segment (hnone : ∀ p ∈ pages, ¬Indexes path p) :
      Called pages path segment (.text (humanize segment))

def step (pages : List Page) (path segment : Text) : Crumb :=
  let title :=
    match sectionIndex? (.text path) pages with
    | some index => index.title
    | none => .text (humanize segment)
  ⟨title, .text ('/' :: path ++ ['/']), false⟩

theorem called_step : Called pages path segment (step pages path segment).title := by
  unfold step
  cases hindex : sectionIndex? (.text path) pages with
  | none =>
      refine .segment fun p hp h => ?_
      exact absurd (indexes_iff.mpr h) (List.find?_eq_none.mp hindex p hp)
  | some index =>
      obtain ⟨htest, before, after, hsplit, hfirst⟩ := List.find?_eq_some_iff_append.mp hindex
      refine .index hsplit (indexes_iff.mp htest) fun q hq h => ?_
      have hother := hfirst q hq
      rw [indexes_iff.mpr h] at hother
      cases hother

/-! The way from the root down to a section. -/

def root (homeTitle : Text) (active : Bool) : Crumb :=
  ⟨.text (if homeTitle = [] then "Home".toList else homeTitle), .text ['/'], active⟩

/-- The root and every section on the way to one, before any of them is marked. -/
def descent (pages : List Page) (path homeTitle : Text) : List Crumb :=
  root homeTitle false :: (ancestors path).map fun (path, segment) => step pages path segment

theorem getElem?_ancestors {i : Nat} (h : i < (segments path).length) :
    (ancestors path)[i]? = some (join ['/'] ((segments path).take (i + 1)), (segments path)[i]) := by
  have hpart : (segments path)[i]? = some (segments path)[i] := List.getElem?_eq_getElem h
  simp only [segments] at h hpart ⊢
  simp [ancestors, h]

theorem length_descent : (descent pages path homeTitle).length = (segments path).length + 1 := by
  simp [descent, ancestors, segments]

theorem getElem?_descent {i : Nat} (h : i < (segments path).length) :
    (descent pages path homeTitle)[i + 1]? =
      some (step pages (join ['/'] ((segments path).take (i + 1))) (segments path)[i]) := by
  rw [descent, List.getElem?_cons_succ, List.getElem?_map, getElem?_ancestors h]
  rfl

theorem inactive_descent {crumb : Crumb} (h : crumb ∈ descent pages path homeTitle) :
    crumb.active = false := by
  rcases List.mem_cons.mp h with rfl | h
  · rfl
  · obtain ⟨section_, -, rfl⟩ := List.mem_map.mp h
    rfl

def mark (default : Crumb) (steps : List Crumb) : List Crumb :=
  steps.dropLast ++ [{ steps.getLast?.getD default with active := true }]

/-- The trail to a page: the home page is the root, the index of a section the last step of the way
down, and a single page one step more. -/
def finished (page : Page) (role : Document.Role) (homeTitle : Text) (steps : List Crumb) :
    List Crumb :=
  match role with
  | .home => [root homeTitle true]
  | .section_ => mark (root homeTitle false) steps
  | .single => steps ++ [⟨page.title, page.url, true⟩]

theorem breadcrumbs_eq {role : Document.Role} (hkind : page.kind = .text role.word)
    (hsection : page.section_ = .text path) :
    breadcrumbs page pages homeTitle =
      .ok (finished page role homeTitle (descent pages path homeTitle)) := by
  have hhome : page.kindIs "home" = decide (role = .home) := Page.kind_eq hkind .home
  have hindex : page.kindIs "section" = decide (role = .section_) := Page.kind_eq hkind .section_
  have htitle : (if homeTitle.isEmpty then "Home".toList else homeTitle) =
      if homeTitle = [] then "Home".toList else homeTitle := by
    simp only [List.isEmpty_iff]
  unfold breadcrumbs
  simp only [hhome, hindex, hsection, htitle, Value.textOrNoSuch]
  cases role <;> rfl

/-! The whole trail. -/

/-- The trail to a page with a role in the section of a path: the root, the sections on the way and,
for a single page, the page itself. The last step is the active one, whichever it is. -/
structure Trail (page : Page) (role : Document.Role) (path : Text) (pages : List Page)
    (homeTitle : Text) (trail : List Crumb) : Prop where
  root : ∃ home, trail[0]? = some home ∧ home.url = .text ['/'] ∧
    home.title = .text (if homeTitle = [] then "Home".toList else homeTitle)
  active : ∀ i (h : i < trail.length), trail[i].active = true ↔ i + 1 = trail.length
  length : trail.length =
    match role with
    | .home => 1
    | .section_ => (segments path).length + 1
    | .single => (segments path).length + 2
  sections : role ≠ .home → ∀ i (h : i < (segments path).length),
    ∃ crumb, trail[i + 1]? = some crumb ∧
      crumb.url = .text (slashed ((segments path).take (i + 1))) ∧
      Called pages (join ['/'] ((segments path).take (i + 1))) (segments path)[i] crumb.title
  page : role = .single → ∃ crumb, trail.getLast? = some crumb ∧ crumb.title = page.title ∧
    crumb.url = page.url

theorem active_concat {front : List Crumb} {last : Crumb} (hfront : ∀ c ∈ front, c.active = false)
    (hlast : last.active = true) (i : Nat) (h : i < (front ++ [last]).length) :
    (front ++ [last])[i].active = true ↔ i + 1 = (front ++ [last]).length := by
  rw [List.length_append, List.length_singleton] at h ⊢
  rw [List.getElem_append]
  split
  · next hlt =>
      rw [hfront _ (List.getElem_mem hlt)]
      exact iff_of_false Bool.false_ne_true (by omega)
  · rw [List.getElem_singleton]
    exact iff_of_true hlast (by omega)

theorem getElem?_mark {steps : List Crumb} (default : Crumb) {i : Nat} {c : Crumb}
    (h : steps[i]? = some c) :
    ∃ c', (mark default steps)[i]? = some c' ∧ c'.url = c.url ∧ c'.title = c.title := by
  obtain ⟨hlt, -⟩ := List.getElem?_eq_some_iff.mp h
  rw [mark, List.getElem?_append, List.length_dropLast]
  split
  · next hfront =>
      have hkept : steps.dropLast[i]? = some c := by
        rw [List.getElem?_dropLast, if_pos hfront, h]
      exact ⟨c, hkept, rfl, rfl⟩
  · next hback =>
      obtain rfl : i = steps.length - 1 := by omega
      have hlast : steps.getLast? = some c := by rw [List.getLast?_eq_getElem?, h]
      exact ⟨{ c with active := true }, by simp [hlast], rfl, rfl⟩

theorem slashed_take {i : Nat} (h : i < (segments path).length) :
    '/' :: join ['/'] ((segments path).take (i + 1)) ++ ['/'] =
      slashed ((segments path).take (i + 1)) := by
  refine (slashed_eq_join fun hnil => ?_).symm
  have hlength := congrArg List.length hnil
  rw [List.length_take, List.length_nil] at hlength
  omega

/-- A trail begins at the root, goes down section by section and ends with its only active step. -/
theorem breadcrumbs_trail {role : Document.Role} (hkind : page.kind = .text role.word)
    (hsection : page.section_ = .text path) (pages : List Page) (homeTitle : Text) :
    ∃ trail, breadcrumbs page pages homeTitle = .ok trail ∧
      Trail page role path pages homeTitle trail := by
  refine ⟨_, breadcrumbs_eq hkind hsection, ?_⟩
  have hinactive : ∀ c ∈ descent pages path homeTitle, c.active = false :=
    fun _ => inactive_descent
  cases role with
  | home =>
      have hnone : ∀ c ∈ ([] : List Crumb), c.active = false := nofun
      exact {
        root := ⟨_, rfl, rfl, rfl⟩
        active := active_concat hnone rfl
        length := rfl
        sections := fun h => absurd rfl h
        page := nofun }
  | section_ =>
      have hstart : (descent pages path homeTitle)[0]? = some (root homeTitle false) := rfl
      exact {
        root := getElem?_mark (root homeTitle false) hstart
        active := active_concat (fun c hc => hinactive c (List.dropLast_subset _ hc)) rfl
        length := by
          rw [finished, mark, List.length_append, List.length_dropLast, length_descent]
          rfl
        sections := by
          intro _ i hi
          obtain ⟨c, hc, hurl, htitle⟩ := getElem?_mark (root homeTitle false) (getElem?_descent hi)
          exact ⟨c, hc, by rw [hurl, ← slashed_take hi]; rfl, htitle ▸ called_step⟩
        page := nofun }
  | single =>
      have hkept : ∀ i < (descent pages path homeTitle).length,
          (descent pages path homeTitle ++ [⟨page.title, page.url, true⟩])[i]? =
            (descent pages path homeTitle)[i]? := fun i hi => List.getElem?_append_left hi
      exact {
        root := ⟨_, rfl, rfl, rfl⟩
        active := active_concat hinactive rfl
        length := by
          rw [finished, List.length_append, length_descent]
          rfl
        sections := by
          intro _ i hi
          have hstep := hkept (i + 1) (by rw [length_descent]; omega)
          rw [getElem?_descent hi] at hstep
          exact ⟨_, hstep, by rw [← slashed_take hi]; rfl, called_step⟩
        page := fun _ => ⟨_, List.getLast?_concat, rfl, rfl⟩ }

def docsIndex : Page :=
  { Page.blank with
    title := .ofString "Manual", kind := .ofString "section", section_ := .ofString "docs" }

/-- A page in a section without an index page, below one that has two. -/
def guidePage : Page :=
  { Page.blank with
    title := .ofString "First steps", url := .ofString "/docs/user-guide/first/",
    section_ := .ofString "/docs//user-guide" }

theorem breadcrumbs_trail_guidePage :
    guidePage.kind = .text Document.Role.single.word ∧
      guidePage.section_ = .text "/docs//user-guide".toList ∧
      ∃ trail, breadcrumbs guidePage [guidePage, docsIndex, { docsIndex with title := .nil }] [] =
          .ok trail ∧
        Trail guidePage .single "/docs//user-guide".toList
          [guidePage, docsIndex, { docsIndex with title := .nil }] [] trail ∧
        trail.length = 4 ∧
        trail[1]? = some ⟨.ofString "Manual", .ofString "/docs/", false⟩ ∧
        trail[2]? = some ⟨.ofString "User Guide", .ofString "/docs/user-guide/", false⟩ := by
  have hkind : guidePage.kind = .text Document.Role.single.word := rfl
  have hsection : guidePage.section_ = .text "/docs//user-guide".toList := rfl
  obtain ⟨trail, htrail, hshape⟩ := breadcrumbs_trail hkind hsection
    [guidePage, docsIndex, { docsIndex with title := .nil }] []
  refine ⟨hkind, hsection, trail, htrail, hshape, hshape.length, ?_⟩
  rw [breadcrumbs_eq hkind hsection] at htrail
  cases htrail
  constructor <;> with_unfolding_all rfl

end Stencil.Navigation
