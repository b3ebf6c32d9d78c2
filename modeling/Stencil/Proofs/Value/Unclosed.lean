import Stencil.Proofs.Calendar.Unclosed
import Stencil.Proofs.Filter.Kept
import Stencil.Proofs.Value.Order
import Stencil.Site.Page

namespace Stencil

open Text

/-! Values without closing braces. -/

def Value.WrittenUnclosed (v : Value) : Prop := ∀ s, v.display = .ok s → s.Unclosed

/-- No closing brace stands in the texts of a value, and in what its keys are written as. The tags of
a page count as keys. -/
inductive Value.Unclosed : Value → Prop
  | nil : Unclosed .nil
  | bool (b : Bool) : Unclosed (.bool b)
  | int (i : Int) : Unclosed (.int i)
  | float (f : Float) : Unclosed (.float f)
  | text (s : Text) (h : s.Unclosed) : Unclosed (.text s)
  | moment (m : Moment) : Unclosed (.moment m)
  | date (d : Date) : Unclosed (.date d)
  | list (items : List Value) (h : ∀ v ∈ items, Unclosed v) : Unclosed (.list items)
  | pages (items : List Value) (h : ∀ v ∈ items, Unclosed v) : Unclosed (.pages items)
  | map (entries : List (Value × Value)) (hkeys : ∀ entry ∈ entries, Unclosed entry.1)
      (hwritten : ∀ entry ∈ entries, entry.1.WrittenUnclosed)
      (hvalues : ∀ entry ∈ entries, Unclosed entry.2) : Unclosed (.map entries)
  | page (p : Page) (h : ∀ v ∈ p.fields, Unclosed v)
      (htags : ∀ tags, p.tags.keys = .ok tags → ∀ tag ∈ tags, tag.WrittenUnclosed) :
      Unclosed (.page p)
  | menuEntry (e : MenuEntry) (hname : e.name.Unclosed) (hurl : e.url.Unclosed) :
      Unclosed (.menuEntry e)
  | crumb (c : Crumb) (htitle : Unclosed c.title) (hurl : Unclosed c.url) : Unclosed (.crumb c)
  | sectionNav (n : SectionNav) (hprev : Unclosed n.prev) (hnext : Unclosed n.next) :
      Unclosed (.sectionNav n)
  | build (b : BuildSettings) (h : b.cacheDir.Unclosed) : Unclosed (.build b)
  | site (s : Site)
      (htexts : ∀ t ∈ [s.title, s.baseUrl, s.description, s.author, s.copyright, s.theme],
        Text.Unclosed t)
      (hparams : Unclosed s.params) (hdata : Unclosed s.data)
      (hpages : ∀ p ∈ s.pages, Unclosed (.page p)) (hmenus : ∀ menu ∈ s.menus, menu.1.Unclosed)
      (hentries : ∀ menu ∈ s.menus, ∀ v ∈ menu.2, Unclosed v) (hbuild : s.build.cacheDir.Unclosed) :
      Unclosed (.site s)
  | object (kind : Text) : Unclosed (.object kind)

instance instHasTextsValue : HasTexts Value := ⟨Value.Unclosed⟩

instance instHasTextsPage : HasTexts Page := ⟨fun p => (Value.page p).Unclosed⟩

instance instHasTextsMenuEntry : HasTexts MenuEntry := ⟨fun e => (Value.menuEntry e).Unclosed⟩

instance instHasTextsCrumb : HasTexts Crumb := ⟨fun c => (Value.crumb c).Unclosed⟩

instance instHasTextsSectionNav : HasTexts SectionNav := ⟨fun n => (Value.sectionNav n).Unclosed⟩

instance instHasTextsBuildSettings : HasTexts BuildSettings := ⟨fun b => (Value.build b).Unclosed⟩

instance instHasTextsSite : HasTexts Site := ⟨fun s => (Value.site s).Unclosed⟩

section

variable {items : List Value} {s : Text} {p : Page}

/-! Values of each kind. -/

instance instIsUnclosedNil : IsUnclosed Value.nil := ⟨.nil⟩

instance instIsUnclosedBoolValue (b : Bool) : IsUnclosed (Value.bool b) := ⟨.bool b⟩

instance instIsUnclosedIntValue (i : Int) : IsUnclosed (Value.int i) := ⟨.int i⟩

instance instIsUnclosedFloatValue (f : Float) : IsUnclosed (Value.float f) := ⟨.float f⟩

instance instIsUnclosedText [h : IsUnclosed s] : IsUnclosed (Value.text s) := ⟨.text s h.text⟩

instance instIsUnclosedMoment (m : Moment) : IsUnclosed (Value.moment m) := ⟨.moment m⟩

instance instIsUnclosedDate (d : Date) : IsUnclosed (Value.date d) := ⟨.date d⟩

instance instIsUnclosedListValue [h : IsUnclosed items] : IsUnclosed (Value.list items) :=
  ⟨.list items h.holds⟩

instance instIsUnclosedPages [h : IsUnclosed items] : IsUnclosed (Value.pages items) :=
  ⟨.pages items h.holds⟩

instance instIsUnclosedPageValue [h : IsUnclosed p] : IsUnclosed (Value.page p) := ⟨h.holds⟩

instance instIsUnclosedMenuEntry {e : MenuEntry} [h : IsUnclosed e] :
    IsUnclosed (Value.menuEntry e) := ⟨h.holds⟩

instance instIsUnclosedCrumb {c : Crumb} [h : IsUnclosed c] : IsUnclosed (Value.crumb c) :=
  ⟨h.holds⟩

instance instIsUnclosedSectionNav {n : SectionNav} [h : IsUnclosed n] :
    IsUnclosed (Value.sectionNav n) := ⟨h.holds⟩

instance instIsUnclosedBuild {b : BuildSettings} [h : IsUnclosed b] : IsUnclosed (Value.build b) :=
  ⟨h.holds⟩

instance instIsUnclosedSite {s : Site} [h : IsUnclosed s] : IsUnclosed (Value.site s) := ⟨h.holds⟩

instance instIsUnclosedObject (kind : Text) : IsUnclosed (Value.object kind) := ⟨.object kind⟩

/-! Their parts. -/

theorem IsUnclosed.of_text_value (h : IsUnclosed (Value.text s)) : IsUnclosed s := by
  cases h.holds with
  | text _ hs => exact ⟨hs⟩

theorem IsUnclosed.of_sequence? {v : Value} (h : IsUnclosed v) (hitems : v.sequence? = some items) :
    IsUnclosed items := by
  cases h.holds with
  | list items hall =>
      cases hitems
      exact ⟨hall⟩
  | pages items hall =>
      cases hitems
      exact ⟨hall⟩
  | _ => cases hitems

instance instIsUnclosedSequence (v : Value) [h : IsUnclosed v] : IsUnclosed v.sequence? :=
  ⟨fun _ hitems => (h.of_sequence? hitems).holds⟩

theorem IsUnclosed.of_map {entries : List (Value × Value)} (h : IsUnclosed (Value.map entries)) :
    IsUnclosed entries ∧ ∀ entry ∈ entries, entry.1.WrittenUnclosed := by
  cases h.holds with
  | map _ hkeys hwritten hvalues =>
      exact ⟨⟨fun entry hentry => ⟨hkeys entry hentry, hvalues entry hentry⟩⟩, hwritten⟩

theorem IsUnclosed.map {entries : List (Value × Value)} (h : IsUnclosed entries)
    (hwritten : ∀ entry ∈ entries, entry.1.WrittenUnclosed) : IsUnclosed (Value.map entries) :=
  ⟨.map entries (fun entry hentry => (h.holds entry hentry).1) hwritten
    fun entry hentry => (h.holds entry hentry).2⟩

theorem IsUnclosed.of_field (h : IsUnclosed p) {v : Value} (hv : v ∈ p.fields) : IsUnclosed v := by
  cases h.holds with
  | page _ hfields _ => exact ⟨hfields v hv⟩

theorem IsUnclosed.written_of_tags (h : IsUnclosed p) {tags : List Value}
    (htags : p.tags.keys = .ok tags) : ∀ tag ∈ tags, tag.WrittenUnclosed := by
  cases h.holds with
  | page _ _ hwritten => exact hwritten tags htags

/-! Values as text. -/

namespace Value

instance instIsUnclosedAsText (v : Value) [h : IsUnclosed v] : IsUnclosed v.asText? := by
  cases v with
  | text s =>
      have hs := h.of_text_value
      exact inferInstanceAs (IsUnclosed (some s))
  | _ => exact inferInstanceAs (IsUnclosed (none : Option Text))

instance instIsUnclosedRepresentative (v : Value) [h : IsUnclosed v] :
    IsUnclosed v.representative? := by
  cases h.holds with
  | page p hfields _ =>
      have htitle : IsUnclosed p.title := ⟨hfields p.title (by simp [Page.fields])⟩
      exact inferInstanceAs (IsUnclosed p.title.asText?)
  | menuEntry e hname _ =>
      have hunclosed : IsUnclosed e.name := .of_text hname
      exact inferInstanceAs (IsUnclosed (some e.name))
  | crumb c htitle _ =>
      have htitle : IsUnclosed c.title := ⟨htitle⟩
      exact inferInstanceAs (IsUnclosed c.title.asText?)
  | site s htexts _ _ _ _ _ _ =>
      have htitle : IsUnclosed s.title := .of_text (htexts s.title (by simp))
      exact inferInstanceAs (IsUnclosed (some s.title))
  | _ => exact inferInstanceAs (IsUnclosed (none : Option Text))

instance instGivesUnclosedDigits (i : Int) : GivesUnclosed (digits i) := by
  unfold digits
  split
  · next t ht =>
      have hdigits := unclosed_of_ofInt? ht
      infer_instance
  · infer_instance

theorem unclosed_of_mapM {f : Value → Option Text} {texts : List Text} (hitems : IsUnclosed items)
    (h : ∀ v, IsUnclosed v → IsUnclosed (f v)) (htexts : items.mapM f = some texts) :
    IsUnclosed texts := by
  induction items generalizing texts with
  | nil =>
      cases htexts
      infer_instance
  | cons v items ih =>
      rw [List.mapM_cons] at htexts
      obtain ⟨t, ht, hrest⟩ := Option.bind_eq_some_iff.mp htexts
      obtain ⟨rest, hmapped, heq⟩ := Option.bind_eq_some_iff.mp hrest
      cases heq
      have htext := (h v hitems.head).of_mem_option ht
      have hbehind := ih hitems.tail hmapped
      infer_instance

theorem unclosed_formatItems (h : IsUnclosed items) : IsUnclosed (formatItems items) := by
  have hcomma : IsUnclosed ", ".toList := .of_text (by decide)
  unfold formatItems
  split
  · next texts htexts =>
      have hparts := unclosed_of_mapM h (fun _ _ => inferInstance) htexts
      infer_instance
  · split
    · next names hnames =>
        have hparts := unclosed_of_mapM h (fun _ _ => inferInstance) hnames
        infer_instance
    · infer_instance

theorem givesUnclosed_formatEntries {entries : List (Value × Value)}
    (hwritten : ∀ entry ∈ entries, entry.1.WrittenUnclosed)
    (hvalues : ∀ entry ∈ entries, GivesUnclosed entry.2.format) :
    GivesUnclosed (formatEntries entries) := by
  have hcolon : IsUnclosed ": ".toList := .of_text (by decide)
  induction entries with
  | nil =>
      rw [formatEntries]
      infer_instance
  | cons entry rest ih =>
      obtain ⟨hkey, hkeys⟩ := List.forall_mem_cons.mp hwritten
      obtain ⟨hvalue, hvalues⟩ := List.forall_mem_cons.mp hvalues
      have hdisplay : GivesUnclosed entry.1.display := ⟨fun s hs => .of_text (hkey s hs)⟩
      have hrest := ih hkeys hvalues
      rw [formatEntries]
      infer_instance

theorem givesUnclosed_format_of_isObject {v : Value} (h : IsUnclosed v)
    (hobject : v.isObject = true) : GivesUnclosed v.format := by
  rw [format_of_isObject hobject]
  infer_instance

theorem Unclosed.givesUnclosed_format {v : Value} (h : v.Unclosed) : GivesUnclosed v.format := by
  have hcomma : IsUnclosed ", ".toList := .of_text (by decide)
  have htrue : IsUnclosed "true".toList := .of_text (by decide)
  have hfalse : IsUnclosed "false".toList := .of_text (by decide)
  induction h with
  | text s hs =>
      have htext : IsUnclosed s := .of_text hs
      exact instGivesUnclosedOk
  | list items hall _ =>
      have hitems : IsUnclosed (formatItems items) := unclosed_formatItems ⟨hall⟩
      exact instGivesUnclosedOk
  | pages items hall _ =>
      have hitems : IsUnclosed (formatItems items) := unclosed_formatItems ⟨hall⟩
      exact instGivesUnclosedOk
  | map entries _ hwritten _ _ ih =>
      have hentries : GivesUnclosed (formatEntries entries) :=
        givesUnclosed_formatEntries hwritten ih
      rw [format]
      infer_instance
  | nil | bool _ | int _ | float _ | moment _ | date _ =>
      rw [format]
      infer_instance
  | _ => exact givesUnclosed_format_of_isObject ⟨by constructor <;> assumption⟩ rfl

instance instGivesUnclosedFormat {v : Value} [h : IsUnclosed v] : GivesUnclosed v.format :=
  h.holds.givesUnclosed_format

/-! Values as arguments of functions. -/

theorem givesUnclosed_coerceAll (h : ∀ v ∈ items, GivesUnclosed v.coerce) :
    GivesUnclosed (coerceAll items) := by
  induction items with
  | nil =>
      rw [coerceAll]
      infer_instance
  | cons v items ih =>
      obtain ⟨hv, hitems⟩ := List.forall_mem_cons.mp h
      have hrest := ih hitems
      rw [coerceAll]
      infer_instance

theorem givesUnclosed_coerceItems (hitems : IsUnclosed items)
    (h : ∀ v ∈ items, GivesUnclosed v.coerce) : GivesUnclosed (coerceItems items) := by
  have hcomma : IsUnclosed ',' := .of_char (by decide)
  have hall := givesUnclosed_coerceAll h
  unfold coerceItems
  infer_instance

theorem givesUnclosed_coerce_of_isObject {v : Value} (h : IsUnclosed v)
    (hobject : v.isObject = true) : GivesUnclosed v.coerce := by
  rw [coerce_of_isObject hobject]
  infer_instance

theorem Unclosed.givesUnclosed_coerce {v : Value} (h : v.Unclosed) : GivesUnclosed v.coerce := by
  have hcomma : IsUnclosed ',' := .of_char (by decide)
  induction h with
  | text s hs =>
      have htext : IsUnclosed s := .of_text hs
      rw [coerce]
      infer_instance
  | list items hall ih =>
      rw [coerce]
      exact givesUnclosed_coerceItems ⟨hall⟩ ih
  | pages items hall ih =>
      rw [coerce]
      exact givesUnclosed_coerceItems ⟨hall⟩ ih
  | map entries _ hwritten hvalues _ _ =>
      have hentries : GivesUnclosed (formatEntries entries) :=
        givesUnclosed_formatEntries hwritten fun entry hentry =>
          (hvalues entry hentry).givesUnclosed_format
      rw [coerce]
      infer_instance
  | nil | bool _ | int _ | float _ | moment _ | date _ =>
      rw [coerce]
      infer_instance
  | _ => exact givesUnclosed_coerce_of_isObject ⟨by constructor <;> assumption⟩ rfl

instance instGivesUnclosedCoerce {v : Value} [h : IsUnclosed v] : GivesUnclosed v.coerce :=
  h.holds.givesUnclosed_coerce

/-! Values as one text and as a list of texts. -/

theorem givesUnclosed_joinedAll (h : ∀ v ∈ items, GivesUnclosed v.joined) :
    GivesUnclosed (joinedAll items) := by
  induction items with
  | nil =>
      rw [joinedAll]
      infer_instance
  | cons v items ih =>
      obtain ⟨hv, hitems⟩ := List.forall_mem_cons.mp h
      have hrest := ih hitems
      rw [joinedAll]
      infer_instance

theorem Unclosed.givesUnclosed_joined {v : Value} (h : v.Unclosed) : GivesUnclosed v.joined := by
  have hcomma : IsUnclosed ',' := .of_char (by decide)
  induction h with
  | list items _ ih =>
      have hall := givesUnclosed_joinedAll ih
      rw [joined]
      infer_instance
  | pages items _ ih =>
      have hall := givesUnclosed_joinedAll ih
      rw [joined]
      infer_instance
  | _ =>
      rw [joined_of_sequence?_eq_none rfl]
      exact Unclosed.givesUnclosed_format (by constructor <;> assumption)

instance instGivesUnclosedJoined {v : Value} [h : IsUnclosed v] : GivesUnclosed v.joined :=
  h.holds.givesUnclosed_joined

instance instGivesUnclosedJoinedAll [h : IsUnclosed items] : GivesUnclosed (joinedAll items) :=
  givesUnclosed_joinedAll fun v hv => (h.holds v hv).givesUnclosed_joined

instance instGivesUnclosedItems {v : Value} [h : IsUnclosed v] : GivesUnclosed v.items := by
  unfold Value.items
  split
  · next vs hvs =>
      have hitems := h.of_sequence? hvs
      infer_instance
  · infer_instance

instance instIsUnclosedOfNumber (n : Number) : IsUnclosed (ofNumber n) := by
  unfold ofNumber
  split <;> infer_instance

/-! Entries, elements and keys. -/

theorem unclosed_of_find? {entries : List (Value × Value)} (h : IsUnclosed entries) {k v : Value}
    (hv : find? k entries = some v) : IsUnclosed v := by
  obtain ⟨entry, hentry, rfl⟩ := Option.map_eq_some_iff.mp hv
  exact (h.of_mem (List.mem_of_find?_eq_some hentry)).snd

instance instGivesUnclosedElements {v : Value} [h : IsUnclosed v] : GivesUnclosed v.elements := by
  unfold elements
  split
  · have hitems := h.of_sequence? rfl
    infer_instance
  · have hitems := h.of_sequence? rfl
    infer_instance
  · next s =>
      have hs := h.of_text_value
      infer_instance
  · have hentries := h.of_map.1
    have hkeys : ∀ entry : Clear (Value × Value), IsUnclosed entry.val.1 := fun entry =>
      IsUnclosed.fst ⟨entry.holds⟩
    infer_instance
  · infer_instance

instance instGivesUnclosedKeys {v : Value} [IsUnclosed v] : GivesUnclosed v.keys := by
  unfold keys
  infer_instance

instance instGivesUnclosedTextOrNoSuch {v : Value} [h : IsUnclosed v] :
    GivesUnclosed v.textOrNoSuch := by
  unfold textOrNoSuch
  split
  · have hs := h.of_text_value
    infer_instance
  · infer_instance

instance instGivesUnclosedExpand {pattern : Text} [IsUnclosed pattern] (v : Value) :
    GivesUnclosed (v.expand pattern) := by
  unfold expand
  split <;> infer_instance

instance instIsUnclosedDistinct [h : IsUnclosed items] : IsUnclosed (distinct items) :=
  h.of_subset (distinct_subset items)

end Value

namespace Sequence

instance instIsUnclosedCompact [IsUnclosed items] : IsUnclosed (compact items) := by
  unfold compact
  infer_instance

instance instIsUnclosedFirst [IsUnclosed items] : IsUnclosed (first items) := by
  unfold first
  infer_instance

instance instIsUnclosedLast [IsUnclosed items] : IsUnclosed (last items) := by
  unfold last
  infer_instance

instance instIsUnclosedRebuild (like : Value) [IsUnclosed items] :
    IsUnclosed (rebuild like items) := by
  unfold rebuild
  split <;> infer_instance

instance instIsUnclosedSample (count : Int) [IsUnclosed items] :
    IsUnclosed (sample count items) := by
  unfold sample
  infer_instance

end Sequence

instance instGivesUnclosedSortByKey {α κ : Type} [HasTexts α] [HasTexts κ]
    (lt? : κ → κ → Except Fault Bool) {keyed : List (κ × α)} [h : IsUnclosed keyed] :
    GivesUnclosed (sortByKey lt? keyed) := by
  refine ⟨fun sorted hsorted => .of_forall fun a ha => ?_⟩
  obtain ⟨pair, hpair, rfl⟩ := List.mem_map.mp ((perm_of_sortByKey hsorted).mem_iff.mp ha)
  exact (h.of_mem hpair).snd

instance instGivesUnclosedSortByKeyDescending {α κ : Type} [HasTexts α] [HasTexts κ]
    (lt? : κ → κ → Except Fault Bool) {keyed : List (κ × α)} [IsUnclosed keyed] :
    GivesUnclosed (sortByKeyDescending lt? keyed) := by
  unfold sortByKeyDescending
  infer_instance

end

end Stencil
