import Stencil.Proofs.Value.Integers
import Stencil.Proofs.Value.Order
import Stencil.Template.Accessor

namespace Stencil

/-! What the questions that templates ask of pages, collections and sites can fail with. -/

def Fault.OfRender : Fault → Prop
  | .wrongKind | .noSuchOperation | .outOfDomain | .overflow | .zeroDivision | .tooDeep => True
  | _ => False

section

variable {P : Fault → Prop} {α β κ μ : Type} {x : Except Fault α}

instance instFailsInWrongKind :
    FailsIn Fault.OfRender (.error .wrongKind : Except Fault α) := failsIn_error trivial

instance instFailsInNoSuchOperation :
    FailsIn Fault.OfRender (.error .noSuchOperation : Except Fault α) := failsIn_error trivial

instance instFailsInOutOfDomain :
    FailsIn Fault.OfRender (.error .outOfDomain : Except Fault α) := failsIn_error trivial

instance instFailsInExceptMap (f : α → β) [hx : FailsIn P x] : FailsIn P (x.map f) :=
  instFailsInMap f

instance instFailsInMapM (f : α → Except Fault β) [hf : ∀ a, FailsIn P (f a)] (items : List α) :
    FailsIn P (items.mapM f) := .mapM fun a _ => hf a

instance instFailsInFilterM (f : α → Except Fault Bool) [hf : ∀ a, FailsIn P (f a)]
    (items : List α) : FailsIn P (items.filterM f) := by
  have hseen : ∀ seen : List α, FailsIn P (items.filterAuxM f seen) := by
    induction items with
    | nil => exact fun seen => instFailsInPure seen
    | cons a items ih =>
        intro seen
        exact (hf a).bind fun b _ => ih _
  rw [List.filterM]
  infer_instance

instance instFailsInFilterMapM (f : α → Except Fault (Option β)) [hf : ∀ a, FailsIn P (f a)]
    (items : List α) : FailsIn P (items.filterMapM f) := by
  induction items with
  | nil => exact instFailsInPure []
  | cons a items ih =>
      rw [List.filterMapM_cons]
      refine (hf a).bind fun b? _ => ?_
      cases b? <;> infer_instance

/-! Sorting. -/

instance instFailsInSortByKey (lt? : κ → κ → Except Fault Bool) [hlt : ∀ a b, FailsIn P (lt? a b)]
    (items : List (κ × α)) : FailsIn P (sortByKey lt? items) := by
  unfold sortByKey
  split
  · next e he =>
      obtain ⟨a, -, b, -, hfault⟩ := exists_of_incomparable? he
      exact failsIn_error ((hlt a b).of_eq_error e hfault)
  · infer_instance

instance instFailsInSortByKeyDescending (lt? : κ → κ → Except Fault Bool)
    [hlt : ∀ a b, FailsIn P (lt? a b)] (items : List (κ × α)) :
    FailsIn P (sortByKeyDescending lt? items) := by
  unfold sortByKeyDescending
  infer_instance

instance instFailsInPairLt (eq : κ → κ → Bool) (lt? : κ → κ → Except Fault Bool)
    (lt₂? : μ → μ → Except Fault Bool) [∀ a b, FailsIn P (lt? a b)] [∀ a b, FailsIn P (lt₂? a b)]
    (a b : κ × μ) : FailsIn P (pairLt? eq lt? lt₂? a b) := by
  unfold pairLt?
  infer_instance

instance instFailsInLt (v w : Value) : FailsIn Fault.OfRender (v.lt? w) :=
  ⟨fun e he => Value.fault_of_lt? v w e he ▸ trivial⟩

end

/-! Values. -/

namespace Value

instance instFailsInFormat (v : Value) : FailsIn Fault.OfRender v.format :=
  format_failsIn trivial v

instance instFailsInDisplay (v : Value) : FailsIn Fault.OfRender v.display :=
  display_failsIn trivial v

instance instFailsInTextOrNoSuch (v : Value) : FailsIn Fault.OfRender v.textOrNoSuch := by
  unfold textOrNoSuch
  split <;> infer_instance

instance instFailsInElements (v : Value) : FailsIn Fault.OfRender v.elements := by
  unfold elements
  split <;> infer_instance

instance instFailsInKeys (v : Value) : FailsIn Fault.OfRender v.keys := by
  unfold keys
  infer_instance

instance instFailsInHoldsText (s : Text) (v : Value) :
    FailsIn Fault.OfRender (v.holdsText s) := by
  unfold holdsText
  split <;> infer_instance

instance instFailsInExpand (pattern : Text) (v : Value) :
    FailsIn Fault.OfRender (v.expand pattern) := by
  unfold expand
  split <;> infer_instance

end Value

/-! Pages and collections. -/

namespace Page

variable (p : Page)

instance instFailsInPlain : FailsIn Fault.OfRender p.plain := by
  unfold plain
  split <;> infer_instance

instance instFailsInSummary : FailsIn Fault.OfRender p.summary := by
  unfold summary
  infer_instance

instance instFailsInWordCount : FailsIn Fault.OfRender p.wordCount := by
  unfold wordCount
  infer_instance

instance instFailsInReadingTime : FailsIn Fault.OfRender p.readingTime := by
  unfold readingTime
  infer_instance

instance instFailsInDateFormatted : FailsIn Fault.OfRender p.dateFormatted := by
  unfold dateFormatted
  infer_instance

instance instFailsInType : FailsIn Fault.OfRender p.type := by
  unfold type
  infer_instance

end Page

instance instFailsInPermalink (s : Site) (p : Page) : FailsIn Fault.OfRender (s.permalink p) := by
  unfold Site.permalink
  infer_instance

namespace Collection

variable (items : List Value)

instance instFailsInPageOf (v : Value) : FailsIn Fault.OfRender (pageOf v) := by
  unfold pageOf
  split <;> infer_instance

instance instFailsInNarrow (test : Page → Except Fault Bool)
    [∀ p, FailsIn Fault.OfRender (test p)] : FailsIn Fault.OfRender (narrow test items) := by
  unfold narrow
  infer_instance

instance instFailsInInSection (name : Text) :
    FailsIn Fault.OfRender (inSection name items) := by
  unfold inSection
  infer_instance

instance instFailsInWithTag (tag : Text) : FailsIn Fault.OfRender (withTag tag items) := by
  unfold withTag
  infer_instance

instance instFailsInOfKind (kind : Text) : FailsIn Fault.OfRender (ofKind kind items) := by
  unfold ofKind
  infer_instance

instance instFailsInRegular : FailsIn Fault.OfRender (regular items) := by
  unfold regular
  infer_instance

instance instFailsInPublished : FailsIn Fault.OfRender (published items) := by
  unfold published
  infer_instance

instance instFailsInSortKey (v : Value) : FailsIn Fault.OfRender (sortKey v) := by
  unfold sortKey
  infer_instance

instance instFailsInSorted (newestFirst : Bool) :
    FailsIn Fault.OfRender (sorted items newestFirst) := by
  unfold sorted sortKeyLt?
  infer_instance

instance instFailsInLatest (count : Int) : FailsIn Fault.OfRender (latest count items) := by
  unfold latest
  infer_instance

end Collection

/-! The ways between pages. -/

namespace Navigation

variable (page : Page) (pages : List Page)

instance instFailsInBreadcrumbs (homeTitle : Text) :
    FailsIn Fault.OfRender (breadcrumbs page pages homeTitle) := by
  unfold breadcrumbs
  infer_instance

instance instFailsInSectionPages (section_ : Value) :
    FailsIn Fault.OfRender (sectionPages section_ pages) := by
  unfold sectionPages
  infer_instance

instance instFailsInSectionNav : FailsIn Fault.OfRender (sectionNav page pages) := by
  unfold sectionNav
  split
  · infer_instance
  · refine (instFailsInSectionPages pages page.section_).bind fun ordered _ => ?_
    dsimp only
    split <;> infer_instance

instance instFailsInParent : FailsIn Fault.OfRender (parent page pages) := by
  unfold parent
  infer_instance

instance instFailsInChildren : FailsIn Fault.OfRender (children page pages) := by
  unfold children
  infer_instance

instance instFailsInRelated (count : Int) :
    FailsIn Fault.OfRender (related page pages count) := by
  unfold related
  infer_instance

end Navigation

end Stencil
