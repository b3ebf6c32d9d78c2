import Mathlib.Data.List.Chain
import Stencil.Markup.Tags
import Stencil.Proofs.Eval.Result
import Stencil.Proofs.Text.Blank
import Stencil.Proofs.Text.Slug
import Stencil.Site.Document

namespace Stencil

open Stencil.Text

namespace Text

/-! Addresses made of segments. -/

def doubleSlash : Text := ['/', '/']

structure IsSegment (s : Text) : Prop where
  ne_nil : s ≠ []
  slashless : '/' ∉ s

/-- An address that begins and ends with a slash and has no empty segment. -/
structure IsAddress (url : Text) : Prop where
  head : url.head? = some '/'
  last : url.getLast? = some '/'
  single : ¬doubleSlash <:+: url

def slashed (segments : List Text) : Text := '/' :: segments.flatMap (· ++ ['/'])

theorem slashed_cons (segment : Text) (segments : List Text) :
    slashed (segment :: segments) = '/' :: (segment ++ slashed segments) := by
  simp [slashed]

theorem slashed_eq_join {segments : List Text} (h : segments ≠ []) :
    slashed segments = '/' :: join ['/'] segments ++ ['/'] := by
  induction segments with
  | nil => exact absurd rfl h
  | cons segment segments ih =>
      cases segments with
      | nil => simp [slashed, join]
      | cons next segments =>
          rw [slashed_cons, ih (List.cons_ne_nil _ _), join_cons (List.cons_ne_nil _ _)]
          simp

def Apart (c d : Char) : Prop := c = '/' → d ≠ '/'

theorem isChain_apart_iff {s : Text} : s.IsChain Apart ↔ ¬doubleSlash <:+: s := by
  rw [List.isChain_iff_forall_rel_of_append_cons_cons]
  constructor
  · rintro h ⟨before, behind, rfl⟩
    exact h (show _ = before ++ '/' :: '/' :: behind by simp [doubleSlash]) rfl rfl
  · rintro h c d before behind rfl rfl rfl
    exact h ⟨before, behind, by simp [doubleSlash]⟩

theorem isChain_apart_of_not_mem {s : Text} (h : '/' ∉ s) : s.IsChain Apart := by
  refine (List.pairwise_of_forall_mem_list ?_).isChain
  rintro c hc _ _ rfl
  exact absurd hc h

theorem isChain_slashed {segments : List Text} (h : ∀ s ∈ segments, IsSegment s) :
    (slashed segments).IsChain Apart := by
  induction segments with
  | nil => exact List.isChain_singleton _
  | cons segment segments ih =>
      obtain ⟨hsegment, hsegments⟩ := List.forall_mem_cons.mp h
      rw [slashed_cons, ← List.singleton_append, List.isChain_append, List.isChain_append]
      refine ⟨List.isChain_singleton _,
        ⟨isChain_apart_of_not_mem hsegment.slashless, ih hsegments, ?_⟩, ?_⟩
      · rintro c hc _ _ rfl
        exact absurd (List.mem_of_mem_getLast? hc) hsegment.slashless
      · rintro _ _ d hd _ rfl
        obtain ⟨c, rest, rfl⟩ := List.exists_cons_of_ne_nil hsegment.ne_nil
        cases hd
        exact hsegment.slashless List.mem_cons_self

theorem isAddress_slashed {segments : List Text} (h : ∀ s ∈ segments, IsSegment s) :
    IsAddress (slashed segments) where
  head := rfl
  last := by
    cases segments with
    | nil => rfl
    | cons segment segments =>
        rw [slashed_eq_join (List.cons_ne_nil _ _)]
        exact List.getLast?_concat
  single := isChain_apart_iff.mp (isChain_slashed h)

theorem IsAddress.joinRoot {url root : Text} (h : IsAddress url) (hroot : root ≠ []) :
    Markup.joinRoot root url = root.dropWhileEnd (· == '/') ++ url ∧
      (doubleSlash <:+: Markup.joinRoot root url ↔
        doubleSlash <:+: root.dropWhileEnd (· == '/')) := by
  have hjoin : Markup.joinRoot root url = root.dropWhileEnd (· == '/') ++ url := by
    have hempty : root.isEmpty = false := by simpa using hroot
    rw [Markup.joinRoot, hempty, h.head]
    rfl
  refine ⟨hjoin, ?_⟩
  rw [hjoin, ← not_iff_not, ← isChain_apart_iff, ← isChain_apart_iff, List.isChain_append]
  refine ⟨fun hchain => hchain.1, fun hchain => ⟨hchain, isChain_apart_iff.mpr h.single, ?_⟩⟩
  rintro c hc _ _ rfl
  exact absurd hc getLast?_dropWhileEnd_ne

theorem slash_not_mem_slugify (s : Text) : '/' ∉ slugify s := by
  intro h
  rcases (isSlug_slugify s).chars _ h with h | h <;> exact absurd h (by decide)

end Text

namespace Document

/-! The address of a document, and which documents become pages. -/

section

variable {entries : List (Value × Value)} {stem url : Text} {parts : List Text}

theorem slash_not_mem_slug {last : Text} (h : slug entries stem = .ok last) : '/' ∉ last := by
  obtain ⟨asked, -, h⟩ := bind_eq_ok.mp h
  obtain ⟨day, -, h⟩ := bind_eq_ok.mp h
  split at h
  · cases h
    split
    · exact slash_not_mem_slugify _
    · exact slash_not_mem_slugify _
  · cases h
    exact slash_not_mem_slugify _

theorem isSegment_last {last : Text} (h : slug entries stem = .ok last) :
    IsSegment (if last.isEmpty then "index".toList else last) := by
  split
  · exact ⟨by decide, by decide⟩
  · next hne => exact ⟨by simpa using hne, slash_not_mem_slug h⟩

theorem join_eq_nil_iff (h : ∀ part ∈ parts, IsSegment part) :
    join ['/'] parts = [] ↔ parts = [] := by
  refine ⟨fun hnil => Classical.byContradiction fun hne => ?_, fun hnil => by rw [hnil]; rfl⟩
  have hempty : [] ∈ parts := (Text.join_eq_nil_iff hne).mp hnil ▸ List.mem_singleton_self []
  exact (h [] hempty).ne_nil rfl

theorem parts_of_address (hparts : ∀ part ∈ parts, IsSegment part) {last : Text}
    (hlast : IsSegment last) :
    '/' :: join ['/'] ([join ['/'] parts, last].filter (!·.isEmpty)) ++ ['/'] =
      slashed (parts ++ [last]) := by
  have hkept : last.isEmpty = false := by simpa using hlast.ne_nil
  rw [slashed_eq_join (List.append_ne_nil_of_right_ne_nil _ (List.cons_ne_nil _ _))]
  by_cases hnil : parts = []
  · subst hnil
    simp [join, hkept]
  · have hfolder : (join ['/'] parts).isEmpty = false := by
      simpa using mt (join_eq_nil_iff hparts).mp hnil
    rw [join_concat hnil]
    simp [join, hkept, hfolder]

/-- The address of a page is made of its folders and, for a single page, its slug. Only the page of
the section at the top has neither. -/
theorem address_of (hparts : ∀ part ∈ parts, IsSegment part)
    (h : address (Role.of stem (join ['/'] parts)) (join ['/'] parts) stem entries = .ok url) :
    (stem = "_index".toList ∧ parts = [] → url = doubleSlash) ∧
      (¬(stem = "_index".toList ∧ parts = []) → IsAddress url) := by
  have hempty : (join ['/'] parts).isEmpty = true ↔ parts = [] := by
    rw [List.isEmpty_iff, join_eq_nil_iff hparts]
  unfold Role.of at h
  split at h
  · next hindex =>
      rw [beq_iff_eq] at hindex
      cases h
      refine ⟨fun ⟨_, hnil⟩ => by rw [hnil]; rfl, fun htop => ?_⟩
      rw [← slashed_eq_join fun hnil => htop ⟨hindex, hnil⟩]
      exact isAddress_slashed hparts
  · next hindex =>
      rw [beq_iff_eq] at hindex
      refine ⟨fun htop => absurd htop.1 hindex, fun _ => ?_⟩
      split at h
      · cases h
        have hroot : ∀ s ∈ ([] : List Text), IsSegment s := nofun
        exact isAddress_slashed hroot
      · obtain ⟨last, hlast, h⟩ := bind_eq_ok.mp h
        cases h
        have hsegment := isSegment_last hlast
        rw [parts_of_address hparts hsegment]
        exact isAddress_slashed (List.forall_mem_append.mpr
          ⟨hparts, List.forall_mem_singleton.mpr hsegment⟩)

end

def Shows (v : Value) : Prop := v.truthy = true → ∃ t, v.display = .ok t

/-- What makes a document a page: the texts that its front matter gives can be written out, and so
can the items of its lists; the name can be searched for a day where the address or the date of the
page depends on it. -/
structure Loadable (entries : List (Value × Value)) (role : Role) (stem : Text) : Prop where
  slug : role = .single → Shows (field entries "slug")
  texts : ∀ name ∈ ["title", "layout", "description", "summary"], Shows (field entries name)
  lists : ∀ name ∈ ["tags", "categories"], ∀ items, field entries name = .list items →
    ∀ item ∈ items, ∃ t, item.display = .ok t
  day : role = .single ∨ moment? (field entries "date") = none →
    ∃ day, Moment.ofName stem = .ok day

section

variable {entries : List (Value × Value)} {stem : Text}

theorem exists_textField {name : String} {default : Text} :
    (∃ t, textField entries name default = .ok t) ↔ Shows (field entries name) := by
  unfold textField Shows
  dsimp only
  split
  · next htruthy => exact ⟨fun h _ => h, fun h => h htruthy⟩
  · next hfalsy => exact ⟨fun _ h => absurd h hfalsy, fun _ => ⟨default, rfl⟩⟩

theorem exists_textList {v : Value} :
    (∃ ts, textList v = .ok ts) ↔ ∀ items, v = .list items → ∀ item ∈ items,
      ∃ t, item.display = .ok t := by
  cases v with
  | list items =>
      rw [textList, exists_mapM_eq_ok]
      exact ⟨fun h items' heq => by cases heq; exact h, fun h => h items rfl⟩
  | _ => exact iff_of_true ⟨_, rfl⟩ (fun _ h => nomatch h)

theorem exists_date? {entry : Value} :
    (∃ date, date? entry stem = .ok date) ↔
      (moment? entry = none → ∃ day, Moment.ofName stem = .ok day) := by
  unfold date?
  cases moment? entry with
  | none => simp
  | some m => exact iff_of_true ⟨_, rfl⟩ (fun h => nomatch h)

theorem exists_slug :
    (∃ last, slug entries stem = .ok last) ↔
      Shows (field entries "slug") ∧ ∃ day, Moment.ofName stem = .ok day := by
  unfold slug
  constructor
  · intro h
    obtain ⟨asked, hasked, h⟩ := exists_bind_eq_ok.mp h
    obtain ⟨day, hday, -⟩ := exists_bind_eq_ok.mp h
    exact ⟨exists_textField.mp ⟨asked, hasked⟩, day, hday⟩
  · rintro ⟨hslug, day, hday⟩
    obtain ⟨asked, hasked⟩ := exists_textField.mpr hslug
    refine exists_bind_eq_ok.mpr ⟨asked, hasked, exists_bind_eq_ok.mpr ⟨day, hday, ?_⟩⟩
    split <;> exact ⟨_, rfl⟩

theorem exists_address {role : Role} {sectionPath : Text} :
    (∃ url, address role sectionPath stem entries = .ok url) ↔
      (role = .single → ∃ last, slug entries stem = .ok last) := by
  cases role with
  | home => exact iff_of_true ⟨_, rfl⟩ (fun h => nomatch h)
  | section_ => exact iff_of_true ⟨_, rfl⟩ (fun h => nomatch h)
  | single =>
      unfold address
      rw [exists_bind_eq_ok, forall_prop_of_true rfl]
      exact exists_congr fun last => and_iff_left ⟨_, rfl⟩

end

theorem exists_page {file seenAt : Path} {raw body : Text} {entries : List (Value × Value)}
    (hmatter : FrontMatter.extract raw = .ok (entries, body)) :
    (∃ p, page file seenAt raw = .ok p) ↔
      Loadable entries (Role.of file.stem (join ['/'] seenAt.parent.parts)) file.stem := by
  unfold page
  rw [hmatter, ok_bind]
  simp only [exists_bind_eq_ok, pure, Except.pure, Except.ok.injEq, exists_eq', and_true,
    exists_and_right, exists_textField, exists_textList, exists_date?, exists_address, exists_slug]
  constructor
  · rintro ⟨hsingle, htitle, hdate, htags, hcategories, hlayout, hdescription, hsummary⟩
    exact {
      slug := fun h => (hsingle h).1
      texts := by simpa using ⟨htitle, hlayout, hdescription, hsummary⟩
      lists := by simpa using ⟨htags, hcategories⟩
      day := fun h => h.elim (fun h => (hsingle h).2) hdate }
  · intro h
    exact ⟨fun hsingle => ⟨h.slug hsingle, h.day (.inl hsingle)⟩, h.texts _ (by decide),
      fun hdate => h.day (.inr hdate), h.lists _ (by decide), h.lists _ (by decide),
      h.texts _ (by decide), h.texts _ (by decide), h.texts _ (by decide)⟩

/-- The fields of a page that are settled by its document and the place it was seen at. -/
structure Settles (file seenAt : Path) (entries : List (Value × Value)) (p : Page) : Prop where
  url : ∃ url, address (Role.of file.stem (join ['/'] seenAt.parent.parts))
    (join ['/'] seenAt.parent.parts) file.stem entries = .ok url ∧ p.url = .text url
  title : ∃ title : Text, p.title = .text title
  date : ∃ date, date? (field entries "date") file.stem = .ok date ∧
    p.date = (date.map Value.moment).getD .nil
  tags : ∃ tags : List Text, p.tags = .list (tags.map .text)
  section_ : p.section_ = .text (join ['/'] seenAt.parent.parts)
  kind : p.kind = .text (Role.of file.stem (join ['/'] seenAt.parent.parts)).word

theorem settles_of_page {file seenAt : Path} {raw : Text} {p : Page}
    (h : page file seenAt raw = .ok p) : ∃ entries, Settles file seenAt entries p := by
  unfold page at h
  obtain ⟨⟨entries, body⟩, -, h⟩ := bind_eq_ok.mp h
  obtain ⟨url, hurl, h⟩ := bind_eq_ok.mp h
  obtain ⟨title, -, h⟩ := bind_eq_ok.mp h
  obtain ⟨date, hdate, h⟩ := bind_eq_ok.mp h
  obtain ⟨tags, -, h⟩ := bind_eq_ok.mp h
  obtain ⟨categories, -, h⟩ := bind_eq_ok.mp h
  obtain ⟨layout, -, h⟩ := bind_eq_ok.mp h
  obtain ⟨description, -, h⟩ := bind_eq_ok.mp h
  obtain ⟨excerpt, -, h⟩ := bind_eq_ok.mp h
  cases h
  exact ⟨entries, {
    url := ⟨url, hurl, rfl⟩
    title := ⟨title, rfl⟩
    date := ⟨date, hdate, rfl⟩
    tags := ⟨tags, rfl⟩
    section_ := rfl
    kind := rfl }⟩

theorem isSegment_of_mem_ofText {s part : Text} (h : part ∈ (Path.ofText s).parts) :
    IsSegment part := by
  obtain ⟨hmem, hkept⟩ := List.mem_filter.mp h
  constructor
  · rintro rfl
    cases hkept
  · exact not_mem_of_mem_splitAt hmem

/-- The page of the section that the content folder itself is. -/
def IsTopIndex (file seenAt : Path) : Prop :=
  file.stem = "_index".toList ∧ seenAt.parent.parts = []

/-- A document becomes a page exactly if its front matter and its name allow it. The page of the
section at the top gets two slashes for its address; every other page gets an address that begins
and ends with a slash and has no empty segment, also behind a root. -/
theorem load_address {tree : FileTree} {file contentFolder seenAt : Path} {raw body : Text}
    {entries : List (Value × Value)} (hparts : ∀ part ∈ file.parts, IsSegment part)
    (hread : tree.read file = .ok raw) (hmatter : FrontMatter.extract raw = .ok (entries, body))
    (hseen : Path.relativeTo? contentFolder file = some seenAt) :
    ((∃ p, load tree file contentFolder = .ok p) ↔
        Loadable entries (Role.of file.stem (join ['/'] seenAt.parent.parts)) file.stem) ∧
      ∀ p, load tree file contentFolder = .ok p → ∃ url, p.url = .text url ∧
        (IsTopIndex file seenAt → url = doubleSlash) ∧
        (¬IsTopIndex file seenAt → IsAddress url ∧ ∀ root : Text, root ≠ [] →
          Markup.joinRoot root url = root.dropWhileEnd (· == '/') ++ url ∧
            (doubleSlash <:+: Markup.joinRoot root url ↔
              doubleSlash <:+: root.dropWhileEnd (· == '/'))) := by
  have hload : load tree file contentFolder = page file seenAt raw := by
    rw [load, hread, ok_bind, hseen]
  have hfolders : ∀ part ∈ seenAt.parent.parts, IsSegment part := by
    unfold Path.relativeTo? at hseen
    split at hseen
    · cases hseen
      exact fun part hmem => hparts part (List.mem_of_mem_drop (List.dropLast_subset _ hmem))
    · cases hseen
  rw [hload]
  refine ⟨exists_page hmatter, fun p hp => ?_⟩
  obtain ⟨entries', hsettles⟩ := settles_of_page hp
  obtain ⟨url, haddress, hurl⟩ := hsettles.url
  obtain ⟨htop, hother⟩ := address_of hfolders haddress
  exact ⟨url, hurl, htop, fun h => ⟨hother h, fun root hroot => (hother h).joinRoot hroot⟩⟩

def noteTree : FileTree := .ofList [("content/notes/2024-1-1-At last.md".toList, [])]

def notePath : Path := .ofText "content/notes/2024-1-1-At last.md".toList

theorem load_address_note :
    (∀ part ∈ notePath.parts, IsSegment part) ∧ noteTree.read notePath = .ok [] ∧
      FrontMatter.extract [] = .ok ([], []) ∧
      Path.relativeTo? (.ofText "content".toList) notePath =
        some ⟨false, ["notes".toList, "2024-1-1-At last.md".toList]⟩ ∧
      ∃ p, load noteTree notePath (.ofText "content".toList) = .ok p ∧
        ∃ url, p.url = .text url ∧ IsAddress url := by
  have hparts : ∀ part ∈ notePath.parts, IsSegment part := fun _ h => isSegment_of_mem_ofText h
  have hread : noteTree.read notePath = .ok [] := rfl
  have hseen : Path.relativeTo? (.ofText "content".toList) notePath =
      some ⟨false, ["notes".toList, "2024-1-1-At last.md".toList]⟩ := rfl
  obtain ⟨hloads, haddress⟩ := load_address hparts hread rfl hseen
  have hloadable : Loadable [] .single notePath.stem :=
    { slug := fun _ h => nomatch h
      texts := fun _ _ h => nomatch h
      lists := fun _ _ _ h => nomatch h
      day := fun _ => ⟨_, rfl⟩ }
  obtain ⟨p, hp⟩ := hloads.mpr hloadable
  obtain ⟨url, hurl, -, hother⟩ := haddress p hp
  exact ⟨hparts, hread, rfl, hseen, p, hp, url, hurl, (hother fun h => nomatch h.2).1⟩

/-- `_index.md` at the top of a content folder. -/
theorem load_doubleSlash :
    ∃ p, load (.ofList [("content/_index.md".toList, [])]) (.ofText "content/_index.md".toList)
        (.ofText "content".toList) = .ok p ∧ p.url = .text doubleSlash ∧ ¬IsAddress doubleSlash :=
  ⟨_, rfl, rfl, fun h => h.single (List.infix_refl _)⟩

end Document

end Stencil
