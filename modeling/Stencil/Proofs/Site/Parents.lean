import Mathlib.Data.List.Nodup
import Mathlib.Data.List.Perm.Subperm
import Stencil.Proofs.Site.Ordering
import Stencil.Proofs.Text.Split
import Stencil.Site.Navigation

namespace Stencil

/-! Pages in the places that documents have. -/

namespace Page

variable {p : Page} {role : Document.Role} {s : Text}

structure FiledAs (p : Page) (role : Document.Role) (s : Text) : Prop where
  kind : p.kind = .text role.word
  section_ : p.section_ = .text s
  atRoot : role = .home → s = []

def Filed (p : Page) : Prop := ∃ role s, p.FiledAs role s

theorem filed_of_page {file seenAt : Path} {raw : Text} (h : Document.page file seenAt raw = .ok p) :
    p.Filed := by
  obtain ⟨entries, hsettles⟩ := Document.settles_of_page h
  refine ⟨_, _, hsettles.kind, hsettles.section_, fun hhome => ?_⟩
  unfold Document.Role.of at hhome
  split at hhome
  · cases hhome
  · split at hhome
    · next htop => exact List.isEmpty_iff.mp (Bool.and_eq_true_iff.mp htop).2
    · cases hhome

theorem kind_eq (h : p.kind = .text role.word) (other : Document.Role) :
    p.kind.eq (.text other.word) = decide (role = other) := by
  rw [Bool.eq_iff_iff, Value.eq_text_iff, decide_eq_true_eq, h, Value.text.injEq]
  cases role <;> cases other <;> decide

theorem FiledAs.kind_eq (h : p.FiledAs role s) (other : Document.Role) :
    p.kind.eq (.text other.word) = decide (role = other) :=
  Page.kind_eq h.kind other

end Page

namespace Navigation

variable {pages : List Page} {p q : Page} {s : Text}

/-- The section that the index page of a section lies in. -/
def above (s : Text) : Text := Text.join ['/'] (s.splitAt '/').dropLast

theorem above_lt (h : s ≠ []) : (above s).length < s.length := Text.length_join_dropLast_splitAt h

def home? (pages : List Page) : Option Page := pages.find? (·.kindIs "home")

theorem parent_home (h : p.FiledAs .home s) :
    parent p pages = .ok (sectionIndex? (.text []) pages) := by
  have hsection : p.kindIs "section" = false := h.kind_eq .section_
  have hhome : p.kindIs "home" = true := h.kind_eq .home
  unfold parent
  rw [hsection, hhome, h.section_, h.atRoot rfl]
  rfl

theorem resolve_owner (t : Text) :
    (if (!(Value.text t).truthy && !false) = true then (pure (home? pages) : Except Fault _)
      else pure (sectionIndex? (.text t) pages)) =
      .ok (if t = [] then home? pages else sectionIndex? (.text t) pages) := by
  cases t with
  | nil => rfl
  | cons c t => rfl

theorem parent_section (h : p.FiledAs .section_ s) :
    parent p pages = .ok (if above s = [] then home? pages
      else sectionIndex? (.text (above s)) pages) := by
  have hsection : p.kindIs "section" = true := h.kind_eq .section_
  have hhome : p.kindIs "home" = false := h.kind_eq .home
  unfold parent
  rw [hsection, hhome, h.section_]
  exact resolve_owner (above s)

theorem parent_single (h : p.FiledAs .single s) :
    parent p pages = .ok (if s = [] then home? pages else sectionIndex? (.text s) pages) := by
  have hsection : p.kindIs "section" = false := h.kind_eq .section_
  have hhome : p.kindIs "home" = false := h.kind_eq .home
  unfold parent
  rw [hsection, hhome, h.section_]
  exact resolve_owner s

/-! Going up from a page. -/

/-- The pages met by going from a page to its parent until there is none. -/
inductive Climbs (pages : List Page) : Page → List Page → Prop
  | top {p : Page} : parent p pages = .ok none → Climbs pages p [p]
  | up {p q : Page} {path : List Page} :
      parent p pages = .ok (some q) → Climbs pages q path → Climbs pages p (p :: path)

inductive Leads (pages : List Page) (target : Page) : Page → Prop
  | here : Leads pages target target
  | up {p q : Page} :
      parent p pages = .ok (some q) → Leads pages target q → Leads pages target p

theorem Climbs.unique {path path' : List Page} (h : Climbs pages p path)
    (h' : Climbs pages p path') : path = path' := by
  induction h generalizing path' with
  | top htop =>
      cases h' with
      | top => rfl
      | up hup => cases htop.symm.trans hup
  | up hup _ ih =>
      cases h' with
      | top htop => cases hup.symm.trans htop
      | up hup' hclimbs' =>
          cases hup.symm.trans hup'
          rw [ih hclimbs']

theorem Climbs.suffix_of_mem {path : List Page} (h : Climbs pages p path) (hq : q ∈ path) :
    ∃ rest, rest <:+ path ∧ Climbs pages q rest := by
  induction h with
  | top htop =>
      rw [List.mem_singleton.mp hq]
      exact ⟨_, List.suffix_refl _, .top htop⟩
  | @up p next path hup hclimbs ih =>
      rcases List.mem_cons.mp hq with rfl | hq
      · exact ⟨_, List.suffix_refl _, .up hup hclimbs⟩
      · obtain ⟨rest, hrest, hclimbs'⟩ := ih hq
        exact ⟨rest, hrest.trans (List.suffix_cons _ _), hclimbs'⟩

/-- A climb that comes to an end never meets a page again: from there it would go on for ever. -/
theorem Climbs.nodup {path : List Page} (h : Climbs pages p path) : path.Nodup := by
  induction h with
  | top => exact List.nodup_singleton _
  | @up p q path hup hclimbs ih =>
      refine List.nodup_cons.mpr ⟨fun hmem => ?_, ih⟩
      obtain ⟨rest, hrest, hagain⟩ := hclimbs.suffix_of_mem hmem
      have hlength := hrest.length_le
      rw [hagain.unique (.up hup hclimbs), List.length_cons] at hlength
      omega

section

variable (hfiled : ∀ p ∈ pages, p.Filed)

include hfiled

theorem filedAs_of_home? (h : home? pages = some q) : q ∈ pages ∧ q.FiledAs .home [] := by
  have hmem := List.mem_of_find?_eq_some h
  have hkind := List.find?_some (p := fun p : Page => p.kindIs "home") h
  obtain ⟨role, t, hq⟩ := hfiled q hmem
  have hrole : role = .home := of_decide_eq_true ((hq.kind_eq .home).symm.trans hkind)
  subst hrole
  obtain rfl := hq.atRoot rfl
  exact ⟨hmem, hq⟩

theorem filedAs_of_sectionIndex? (h : sectionIndex? (.text s) pages = some q) :
    q ∈ pages ∧ q.FiledAs .section_ s := by
  have hmem := List.mem_of_find?_eq_some h
  have htest := List.find?_some h
  rw [Bool.and_eq_true, Value.eq_text_iff] at htest
  obtain ⟨role, t, hq⟩ := hfiled q hmem
  have hrole : role = .section_ := of_decide_eq_true ((hq.kind_eq .section_).symm.trans htest.1)
  subst hrole
  have hsection : Value.text t = .text s := hq.section_.symm.trans htest.2
  cases hsection
  exact ⟨hmem, hq⟩

theorem mem_of_parent (hp : p.Filed) (h : parent p pages = .ok (some q)) : q ∈ pages := by
  obtain ⟨role, s, hp⟩ := hp
  cases role with
  | home =>
      rw [parent_home hp] at h
      exact (filedAs_of_sectionIndex? hfiled (Except.ok.inj h)).1
  | section_ =>
      rw [parent_section hp] at h
      split at h
      · exact (filedAs_of_home? hfiled (Except.ok.inj h)).1
      · exact (filedAs_of_sectionIndex? hfiled (Except.ok.inj h)).1
  | single =>
      rw [parent_single hp] at h
      split at h
      · exact (filedAs_of_home? hfiled (Except.ok.inj h)).1
      · exact (filedAs_of_sectionIndex? hfiled (Except.ok.inj h)).1

theorem Climbs.length_le {path : List Page} (hp : p.Filed) (h : Climbs pages p path) :
    path.length ≤ pages.length + 1 := by
  have hmem : ∀ q ∈ path.tail, q ∈ pages := by
    induction h with
    | top => exact fun q hq => absurd hq List.not_mem_nil
    | @up p q path hup hclimbs ih =>
        have hq := mem_of_parent hfiled hp hup
        have hrest := ih (hfiled q hq)
        cases hclimbs with
        | top => simpa using hq
        | up => exact List.forall_mem_cons.mpr ⟨hq, hrest⟩
  have hsubperm := List.subperm_of_subset h.nodup.tail hmem
  have hlength := hsubperm.length_le
  rw [List.length_tail] at hlength
  omega

end

/-- A home page and an index page of the root, each one the parent of the other. -/
structure Loop (pages : List Page) (home index : Page) : Prop where
  home : home? pages = some home
  index : sectionIndex? (.text []) pages = some index

/-- The way up from a page comes to an end, or to a home page from which it leads back there. -/
def Settled (pages : List Page) (p : Page) : Prop :=
  (∃ path, Climbs pages p path) ∨ ∃ home index, Loop pages home index ∧ Leads pages home p

theorem Settled.top (h : parent p pages = .ok none) : Settled pages p := .inl ⟨_, .top h⟩

theorem Settled.up (hup : parent p pages = .ok (some q)) (h : Settled pages q) :
    Settled pages p := by
  rcases h with ⟨path, hclimbs⟩ | ⟨home, index, hloop, hleads⟩
  · exact .inl ⟨_, .up hup hclimbs⟩
  · exact .inr ⟨home, index, hloop, .up hup hleads⟩

section

variable (hfiled : ∀ p ∈ pages, p.Filed)

include hfiled

theorem parent_of_rootIndex (h : sectionIndex? (.text []) pages = some p) :
    parent p pages = .ok (home? pages) :=
  parent_section (filedAs_of_sectionIndex? hfiled h).2

theorem settled_of_home (hp : p.FiledAs .home s) : Settled pages p := by
  have hparent : parent p pages = _ := parent_home hp
  cases hindex : sectionIndex? (.text []) pages with
  | none => exact .top (hindex ▸ hparent)
  | some index =>
      have hup : parent p pages = .ok (some index) := hindex ▸ hparent
      have hback := parent_of_rootIndex hfiled hindex
      cases hhome : home? pages with
      | none => exact .up hup (.top (hhome ▸ hback))
      | some home =>
          exact .inr ⟨home, index, ⟨hhome, hindex⟩, .up hup (.up (hhome ▸ hback) .here)⟩

theorem settled_of_home? (hparent : parent p pages = .ok (home? pages)) : Settled pages p := by
  cases hhome : home? pages with
  | none => exact .top (hhome ▸ hparent)
  | some home =>
      have hup : parent p pages = .ok (some home) := hhome ▸ hparent
      exact .up hup (settled_of_home hfiled (filedAs_of_home? hfiled hhome).2)

/-- The names of sections get shorter on the way up. -/
theorem settled_of_section (hp : p.FiledAs .section_ s) : Settled pages p := by
  induction hlength : s.length using Nat.strongRecOn generalizing p s with
  | ind length ih =>
      have hparent : parent p pages = _ := parent_section hp
      split at hparent
      · exact settled_of_home? hfiled hparent
      · next habove =>
          cases hindex : sectionIndex? (.text (above s)) pages with
          | none => exact .top (hindex ▸ hparent)
          | some index =>
              have hup : parent p pages = .ok (some index) := hindex ▸ hparent
              have hne : s ≠ [] := by
                rintro rfl
                exact habove rfl
              have hindexAs := (filedAs_of_sectionIndex? hfiled hindex).2
              exact .up hup (ih _ (hlength ▸ above_lt hne) hindexAs rfl)

theorem settled (hp : p.Filed) : Settled pages p := by
  obtain ⟨role, s, hp⟩ := hp
  cases role with
  | home => exact settled_of_home hfiled hp
  | section_ => exact settled_of_section hfiled hp
  | single =>
      have hparent : parent p pages = _ := parent_single hp
      split at hparent
      · exact settled_of_home? hfiled hparent
      · cases hindex : sectionIndex? (.text s) pages with
        | none => exact .top (hindex ▸ hparent)
        | some index =>
            have hup : parent p pages = .ok (some index) := hindex ▸ hparent
            have hindexAs := (filedAs_of_sectionIndex? hfiled hindex).2
            exact .up hup (settled_of_section hfiled hindexAs)

theorem Loop.parents {home index : Page} (h : Loop pages home index) :
    parent home pages = .ok (some index) ∧ parent index pages = .ok (some home) :=
  ⟨h.index ▸ parent_home (filedAs_of_home? hfiled h.home).2,
    h.home ▸ parent_of_rootIndex hfiled h.index⟩

end

theorem not_climbs_of_parents {path : List Page} (hup : parent p pages = .ok (some q))
    (hback : parent q pages = .ok (some p)) : ¬Climbs pages p path := by
  intro hclimbs
  cases hclimbs with
  | top htop => cases hup.symm.trans htop
  | up hnext hq =>
      cases hup.symm.trans hnext
      cases hq with
      | top htop => cases hback.symm.trans htop
      | up hnext' hp =>
          cases hback.symm.trans hnext'
          have hlength := congrArg List.length (hp.unique (.up hup (.up hback hp)))
          simp only [List.length_cons] at hlength
          omega

theorem Leads.climbs {target : Page} (h : Leads pages target p) {path : List Page}
    (hclimbs : Climbs pages p path) : ∃ rest, Climbs pages target rest := by
  induction h generalizing path with
  | here => exact ⟨path, hclimbs⟩
  | up hup _ ih =>
      cases hclimbs with
      | top htop => cases hup.symm.trans htop
      | up hup' hclimbs' =>
          cases hup.symm.trans hup'
          exact ih hclimbs'

def Ends (pages : List Page) (p : Page) : Prop :=
  ∃ path, Climbs pages p path ∧ path.Nodup ∧ path.length ≤ pages.length + 1

section

variable (hfiled : ∀ p ∈ pages, p.Filed)

include hfiled

theorem ends_of_climbs {path : List Page} (hp : p.Filed) (h : Climbs pages p path) :
    Ends pages p :=
  ⟨path, h, h.nodup, h.length_le hfiled hp⟩

theorem Loop.not_ends {home index : Page} (h : Loop pages home index) : ¬Ends pages home := by
  rintro ⟨path, hclimbs, -⟩
  exact not_climbs_of_parents (h.parents hfiled).1 (h.parents hfiled).2 hclimbs

theorem Loop.ends_iff {home index : Page} (h : Loop pages home index) (hp : p.Filed) :
    Ends pages p ↔ ¬Leads pages home p := by
  constructor
  · rintro ⟨path, hclimbs, -⟩ hleads
    obtain ⟨rest, hhome⟩ := hleads.climbs hclimbs
    exact not_climbs_of_parents (h.parents hfiled).1 (h.parents hfiled).2 hhome
  · intro hnot
    rcases settled hfiled hp with ⟨path, hclimbs⟩ | ⟨home', index', hloop, hleads⟩
    · exact ends_of_climbs hfiled hp hclimbs
    · obtain rfl := Option.some.inj (h.home.symm.trans hloop.home)
      exact absurd hleads hnot

theorem exists_loop_iff :
    (∃ home index, Loop pages home index) ↔
      (∃ home ∈ pages, home.FiledAs .home []) ∧ ∃ index ∈ pages, index.FiledAs .section_ [] := by
  constructor
  · rintro ⟨home, index, hhome, hindex⟩
    exact ⟨⟨home, filedAs_of_home? hfiled hhome⟩, index, filedAs_of_sectionIndex? hfiled hindex⟩
  · rintro ⟨⟨p, hp, hpAs⟩, q, hq, hqAs⟩
    have hhome : (home? pages).isSome := by
      rw [home?, List.find?_isSome]
      exact ⟨p, hp, hpAs.kind_eq .home⟩
    have hindex : (sectionIndex? (.text []) pages).isSome := by
      rw [sectionIndex?, List.find?_isSome]
      refine ⟨q, hq, ?_⟩
      rw [Bool.and_eq_true, Value.eq_text_iff]
      exact ⟨hqAs.kind_eq .section_, hqAs.section_⟩
    obtain ⟨home, hhome⟩ := Option.isSome_iff_exists.mp hhome
    obtain ⟨index, hindex⟩ := Option.isSome_iff_exists.mp hindex
    exact ⟨home, index, hhome, hindex⟩

end

/-- All ways up come to an end, unless there are both a home page and an index page of the root:
these are each other's parents, and what leads to them does not end. -/
theorem climbs_end (hfiled : ∀ p ∈ pages, p.Filed) :
    ((∀ p, p.Filed → Ends pages p) ↔
      ¬((∃ home ∈ pages, home.FiledAs .home []) ∧ ∃ index ∈ pages, index.FiledAs .section_ [])) ∧
    ∀ home index, home? pages = some home → sectionIndex? (.text []) pages = some index →
      parent home pages = .ok (some index) ∧ parent index pages = .ok (some home) ∧
      ∀ p, p.Filed → (Ends pages p ↔ ¬Leads pages home p) := by
  refine ⟨?_, fun home index hhome hindex => ?_⟩
  · rw [← exists_loop_iff hfiled]
    constructor
    · rintro hends ⟨home, index, hloop⟩
      have hhome := hfiled home (filedAs_of_home? hfiled hloop.home).1
      exact hloop.not_ends hfiled (hends home hhome)
    · intro hnone p hp
      rcases settled hfiled hp with ⟨path, hclimbs⟩ | ⟨home, index, hloop, -⟩
      · exact ends_of_climbs hfiled hp hclimbs
      · exact absurd ⟨home, index, hloop⟩ hnone
  · have hloop : Loop pages home index := ⟨hhome, hindex⟩
    obtain ⟨hup, hback⟩ := hloop.parents hfiled
    exact ⟨hup, hback, fun p hp => hloop.ends_iff hfiled hp⟩

def filedPages : List Page :=
  [(.home, ""), (.section_, "docs"), (.single, "docs")].map fun (role, s) =>
    { Page.blank with kind := .text (Document.Role.word role), section_ := .ofString s }

theorem climbs_end_filedPages :
    (∀ p ∈ filedPages, p.Filed) ∧ (∀ p, p.Filed → Ends filedPages p) := by
  have hfiled : ∀ p ∈ filedPages, p.Filed := by
    simp only [filedPages, List.map_cons, List.map_nil, List.forall_mem_cons]
    exact ⟨⟨.home, _, rfl, rfl, fun _ => rfl⟩, ⟨.section_, _, rfl, rfl, fun h => by cases h⟩,
      ⟨.single, _, rfl, rfl, fun h => by cases h⟩, List.forall_mem_nil _⟩
  refine ⟨hfiled, (climbs_end hfiled).1.mpr ?_⟩
  rintro ⟨-, index, hindex, hroot⟩
  simp only [filedPages, List.map_cons, List.map_nil, List.mem_cons, List.not_mem_nil,
    or_false] at hindex
  rcases hindex with rfl | rfl | rfl
  · cases hroot.kind
  · cases hroot.section_
  · cases hroot.kind

def atTop (name : String) : Except Fault Page :=
  Document.page ⟨false, [name.toList]⟩ ⟨false, [name.toList]⟩ []

theorem loop_pair {home index : Page} (hhome : home.FiledAs .home [])
    (hindex : index.FiledAs .section_ []) : Loop [home, index] home index where
  home := List.find?_cons_of_pos (hhome.kind_eq .home)
  index := by
    have hother : home.kindIs "section" = false := hhome.kind_eq .section_
    have hkind : index.kindIs "section" = true := hindex.kind_eq .section_
    rw [sectionIndex?, List.find?_cons_of_neg (by simp [hother]), List.find?_cons_of_pos]
    rw [hkind, Bool.true_and, Value.eq_text_iff]
    exact hindex.section_

/-- The documents `index.md` and `_index.md` at the top of a content folder. -/
theorem climbs_without_end : ∃ home index : Page,
    atTop "index.md" = .ok home ∧ atTop "_index.md" = .ok index ∧
    parent home [home, index] = .ok (some index) ∧ parent index [home, index] = .ok (some home) ∧
    ∀ path, ¬Climbs [home, index] home path := by
  obtain ⟨home, hhome, hhomeAs⟩ : ∃ home, atTop "index.md" = .ok home ∧ home.FiledAs .home [] :=
    ⟨_, rfl, rfl, rfl, fun _ => rfl⟩
  obtain ⟨index, hindex, hindexAs⟩ :
      ∃ index, atTop "_index.md" = .ok index ∧ index.FiledAs .section_ [] :=
    ⟨_, rfl, rfl, rfl, fun h => by cases h⟩
  have hfiled : ∀ p ∈ [home, index], p.Filed :=
    List.forall_mem_cons.mpr ⟨Page.filed_of_page hhome,
      List.forall_mem_singleton.mpr (Page.filed_of_page hindex)⟩
  obtain ⟨hup, hback⟩ := (loop_pair hhomeAs hindexAs).parents hfiled
  exact ⟨home, index, hhome, hindex, hup, hback, fun _ => not_climbs_of_parents hup hback⟩

end Navigation

end Stencil
