import Stencil.Number.Shortest
import Stencil.Markup.Tags
import Stencil.Proofs.Eval.Result
import Stencil.Proofs.Text.Split
import Stencil.Proofs.Token.Part
import Stencil.Proofs.Token.Replace
import Stencil.Text.Slug

namespace Stencil

open Text

/-! Closing braces are not made: what is put together of things without them has none. The rules are
instances, so that they are followed through a definition. -/

/-- Things that hold texts, and when there is no closing brace in these. -/
class HasTexts (α : Type) where
  unclosed : α → Prop

instance : HasTexts Char := ⟨(· ≠ '}')⟩

instance [HasTexts α] : HasTexts (List α) := ⟨fun items => ∀ a ∈ items, HasTexts.unclosed a⟩

instance [HasTexts α] : HasTexts (Option α) := ⟨fun a? => ∀ a ∈ a?, HasTexts.unclosed a⟩

instance [HasTexts α] [HasTexts β] : HasTexts (α × β) :=
  ⟨fun pair => HasTexts.unclosed pair.1 ∧ HasTexts.unclosed pair.2⟩

instance : HasTexts Nat := ⟨fun _ => True⟩

instance : HasTexts Int := ⟨fun _ => True⟩

instance : HasTexts Bool := ⟨fun _ => True⟩

instance : HasTexts PUnit := ⟨fun _ => True⟩

instance : HasTexts Float := ⟨fun _ => True⟩

instance : HasTexts Number := ⟨fun _ => True⟩

class IsUnclosed [HasTexts α] (a : α) : Prop where
  holds : HasTexts.unclosed a

/-- Something without closing braces, for rules about whatever a step is given. -/
structure Clear (α : Type) [HasTexts α] where
  val : α
  holds : HasTexts.unclosed val

instance [HasTexts α] (a : Clear α) : IsUnclosed a.val := ⟨a.holds⟩

class GivesUnclosed [HasTexts α] (x : Except Fault α) : Prop where
  of_eq_ok : ∀ a, x = .ok a → IsUnclosed a

namespace IsUnclosed

variable {α β : Type} [HasTexts α] [HasTexts β] {a : α} {items others : List α}

theorem of_char {c : Char} (h : c ≠ '}') : IsUnclosed c := ⟨h⟩

theorem of_text {s : Text} (h : s.Unclosed) : IsUnclosed s := ⟨h⟩

theorem text {s : Text} (h : IsUnclosed s) : s.Unclosed := h.holds

theorem of_mem (h : IsUnclosed items) (ha : a ∈ items) : IsUnclosed a := ⟨h.holds a ha⟩

theorem of_forall (h : ∀ a ∈ items, IsUnclosed a) : IsUnclosed items := ⟨fun a ha => (h a ha).holds⟩

theorem of_subset (h : IsUnclosed items) (hsub : others ⊆ items) : IsUnclosed others :=
  of_forall fun _ ha => h.of_mem (hsub ha)

theorem head (h : IsUnclosed (a :: items)) : IsUnclosed a := h.of_mem List.mem_cons_self

theorem tail (h : IsUnclosed (a :: items)) : IsUnclosed items :=
  h.of_subset (List.subset_cons_self a items)

theorem of_infix (h : IsUnclosed items) (hpart : others <:+: items) : IsUnclosed others :=
  h.of_subset hpart.subset

theorem of_mem_option {a? : Option α} (h : IsUnclosed a?) (ha : a? = some a) : IsUnclosed a :=
  ⟨h.holds a ha⟩

theorem fst {pair : α × β} (h : IsUnclosed pair) : IsUnclosed pair.1 := ⟨h.holds.1⟩

theorem snd {pair : α × β} (h : IsUnclosed pair) : IsUnclosed pair.2 := ⟨h.holds.2⟩

end IsUnclosed

section

variable {α β κ : Type} [HasTexts α] [HasTexts β] [HasTexts κ] {a : α} {b : β}
  {items others : List α} {pairs : List β}

/-! Numbers and flags. -/

instance (n : Nat) : IsUnclosed n := ⟨trivial⟩

instance (i : Int) : IsUnclosed i := ⟨trivial⟩

instance (b : Bool) : IsUnclosed b := ⟨trivial⟩

/-! Pairs, options and lists. -/

instance [ha : IsUnclosed a] [hb : IsUnclosed b] : IsUnclosed (a, b) := ⟨ha.holds, hb.holds⟩

instance {pair : α × β} [h : IsUnclosed pair] : IsUnclosed pair.1 := ⟨h.holds.1⟩

instance {pair : α × β} [h : IsUnclosed pair] : IsUnclosed pair.2 := ⟨h.holds.2⟩

instance : IsUnclosed (none : Option α) := ⟨fun _ h => nomatch h⟩

instance [ha : IsUnclosed a] : IsUnclosed (some a) := by
  refine ⟨fun b hb => ?_⟩
  cases hb
  exact ha.holds

instance (a? : Option α) [h : IsUnclosed a?] [ha : IsUnclosed a] : IsUnclosed (a?.getD a) := by
  cases hvalue : a? with
  | none => exact ha
  | some b => exact h.of_mem_option hvalue

instance (a? : Option α) (f : α → β) [h : IsUnclosed a?]
    [hf : ∀ a : Clear α, IsUnclosed (f a.val)] : IsUnclosed (a?.map f) := by
  cases hvalue : a? with
  | none => exact inferInstanceAs (IsUnclosed (none : Option β))
  | some b =>
      have hb := hf ⟨b, (h.of_mem_option hvalue).holds⟩
      exact inferInstanceAs (IsUnclosed (some (f b)))

instance : IsUnclosed ([] : List α) := ⟨fun _ h => nomatch h⟩

instance [ha : IsUnclosed a] [h : IsUnclosed items] : IsUnclosed (a :: items) :=
  ⟨List.forall_mem_cons.mpr ⟨ha.holds, h.holds⟩⟩

instance [h : IsUnclosed items] [hothers : IsUnclosed others] : IsUnclosed (items ++ others) :=
  ⟨List.forall_mem_append.mpr ⟨h.holds, hothers.holds⟩⟩

instance (f : α → β) [h : IsUnclosed items] [hf : ∀ a : Clear α, IsUnclosed (f a.val)] :
    IsUnclosed (items.map f) := by
  refine .of_forall fun b hb => ?_
  obtain ⟨a, ha, rfl⟩ := List.mem_map.mp hb
  exact hf ⟨a, (h.of_mem ha).holds⟩

instance (p : α → Bool) [h : IsUnclosed items] : IsUnclosed (items.filter p) :=
  h.of_subset List.filter_sublist.subset

instance (n : Nat) [h : IsUnclosed items] : IsUnclosed (items.take n) :=
  h.of_subset (List.take_subset n items)

instance (n : Nat) [h : IsUnclosed items] : IsUnclosed (items.drop n) :=
  h.of_subset (List.drop_subset n items)

instance (p : α → Bool) [h : IsUnclosed items] : IsUnclosed (items.takeWhile p) :=
  h.of_subset (List.takeWhile_prefix p).subset

instance (p : α → Bool) [h : IsUnclosed items] : IsUnclosed (items.dropWhile p) :=
  h.of_subset (List.dropWhile_suffix p).subset

instance [h : IsUnclosed items] : IsUnclosed items.dropLast :=
  h.of_subset (List.dropLast_subset items)

instance [BEq α] [LawfulBEq α] [h : IsUnclosed items] : IsUnclosed items.eraseDups :=
  h.of_subset fun _ => List.mem_eraseDups.mp

instance [h : IsUnclosed items] : IsUnclosed items.reverse :=
  h.of_subset (List.reverse_subset.mpr (List.Subset.refl items))

instance {parts : List (List α)} [h : IsUnclosed parts] : IsUnclosed parts.flatten := by
  refine .of_forall fun a ha => ?_
  obtain ⟨part, hpart, hmem⟩ := List.mem_flatten.mp ha
  exact (h.of_mem hpart).of_mem hmem

instance (f : α → List β) [IsUnclosed items] [∀ a : Clear α, IsUnclosed (f a.val)] :
    IsUnclosed (items.flatMap f) := by
  rw [List.flatMap_def]
  infer_instance

instance (n : Nat) [ha : IsUnclosed a] : IsUnclosed (List.replicate n a) :=
  .of_forall fun _ hmem => List.eq_of_mem_replicate hmem ▸ ha

instance (le : α → α → Bool) [h : IsUnclosed items] : IsUnclosed (items.mergeSort le) :=
  h.of_subset (List.mergeSort_perm items le).subset

instance [h : IsUnclosed items] [hothers : IsUnclosed pairs] : IsUnclosed (items.zip pairs) :=
  .of_forall fun _ hpair => ⟨h.holds _ (List.of_mem_zip hpair).1,
    hothers.holds _ (List.of_mem_zip hpair).2⟩

instance [h : IsUnclosed items] (n : Nat) : IsUnclosed items[n]? :=
  ⟨fun _ ha => h.holds _ (List.mem_of_getElem? ha)⟩

instance [h : IsUnclosed items] : IsUnclosed items.head? :=
  ⟨fun _ ha => h.holds _ (List.mem_of_head? ha)⟩

instance [h : IsUnclosed items] : IsUnclosed items.getLast? :=
  ⟨fun _ ha => h.holds _ (List.mem_of_getLast? ha)⟩

instance [h : IsUnclosed items] (p : α → Bool) : IsUnclosed (items.find? p) :=
  ⟨fun _ ha => h.holds _ (List.mem_of_find?_eq_some ha)⟩

theorem IsUnclosed.foldl {g : β → α → β} (h : IsUnclosed items) (hb : IsUnclosed b)
    (hg : ∀ (b : Clear β) (a : Clear α), IsUnclosed (g b.val a.val)) :
    IsUnclosed (items.foldl g b) := by
  induction items generalizing b with
  | nil => exact hb
  | cons a items ih => exact ih h.tail (hg ⟨b, hb.holds⟩ ⟨a, h.head.holds⟩)

instance (g : β → α → β) [h : IsUnclosed items] [hb : IsUnclosed b]
    [hg : ∀ (b : Clear β) (a : Clear α), IsUnclosed (g b.val a.val)] :
    IsUnclosed (items.foldl g b) := .foldl h hb hg

instance [BEq κ] [LawfulBEq κ] {entries : List (κ × β)} [h : IsUnclosed entries] (k : κ) :
    IsUnclosed (entries.lookup k) := by
  refine ⟨fun b hb => ?_⟩
  obtain ⟨before, behind, rfl, -⟩ := List.lookup_eq_some_iff.mp hb
  exact (h.of_mem (a := (k, b)) (by simp)).holds.2

instance [h : IsUnclosed items] [ha : IsUnclosed a] : IsUnclosed (items.headD a) := by
  rw [List.headD_eq_head?_getD]
  infer_instance

instance [h : IsUnclosed items] [ha : IsUnclosed a] : IsUnclosed (items.getLastD a) := by
  rw [List.getLastD_eq_getLast?]
  infer_instance

instance {c : Prop} [Decidable c] {a' : α} [IsUnclosed a] [IsUnclosed a'] :
    IsUnclosed (if c then a else a') := by
  split <;> infer_instance

/-! Results. -/

variable {x y : Except Fault α} {f : α → Except Fault β}

instance instGivesUnclosedOk [ha : IsUnclosed a] : GivesUnclosed (.ok a) := by
  refine ⟨fun b hb => ?_⟩
  cases hb
  exact ha

instance [IsUnclosed a] : GivesUnclosed (pure a : Except Fault α) := instGivesUnclosedOk

instance (x : Except Fault Nat) : GivesUnclosed x := ⟨fun _ _ => inferInstance⟩

instance (x : Except Fault Int) : GivesUnclosed x := ⟨fun _ _ => inferInstance⟩

instance (x : Except Fault Bool) : GivesUnclosed x := ⟨fun _ _ => inferInstance⟩

instance (x : Except Fault Float) : GivesUnclosed x := ⟨fun _ _ => ⟨trivial⟩⟩

instance (x : Except Fault Number) : GivesUnclosed x := ⟨fun _ _ => ⟨trivial⟩⟩

instance (e : Fault) : GivesUnclosed (.error e : Except Fault α) := ⟨fun _ h => nomatch h⟩

instance (e : Fault) : GivesUnclosed (throw e : Except Fault α) := ⟨fun _ h => nomatch h⟩

omit [HasTexts α] in
theorem GivesUnclosed.bind (hf : ∀ a, x = .ok a → GivesUnclosed (f a)) :
    GivesUnclosed (x >>= f) := by
  refine ⟨fun b hb => ?_⟩
  obtain ⟨a, ha, hfa⟩ := bind_eq_ok.mp hb
  exact (hf a ha).of_eq_ok b hfa

instance instGivesUnclosedBind [hx : GivesUnclosed x]
    [hf : ∀ a : Clear α, GivesUnclosed (f a.val)] : GivesUnclosed (x >>= f) := by
  exact .bind fun a ha => hf ⟨a, (hx.of_eq_ok a ha).holds⟩

instance instGivesUnclosedMap (g : α → β) [hx : GivesUnclosed x]
    [hg : ∀ a : Clear α, IsUnclosed (g a.val)] : GivesUnclosed (g <$> x) := by
  rw [← bind_pure_comp]
  infer_instance

instance (g : α → β) [hx : GivesUnclosed x] [hg : ∀ a : Clear α, IsUnclosed (g a.val)] :
    GivesUnclosed (x.map g) :=
  instGivesUnclosedMap g

instance {c : Prop} [Decidable c] [GivesUnclosed x] [GivesUnclosed y] :
    GivesUnclosed (if c then x else y) := by
  split <;> infer_instance

instance [h : IsUnclosed items] [hf : ∀ a : Clear α, GivesUnclosed (f a.val)] :
    GivesUnclosed (items.mapM f) := by
  refine ⟨fun bs hbs => .of_forall (forall_of_mapM_eq_ok hbs fun a ha b hb => ?_)⟩
  exact (hf ⟨a, (h.of_mem ha).holds⟩).of_eq_ok b hb

instance (p : α → Except Fault Bool) [h : IsUnclosed items] : GivesUnclosed (items.filterM p) := by
  have hseen : ∀ items seen : List α, IsUnclosed items → IsUnclosed seen →
      GivesUnclosed (items.filterAuxM p seen) := by
    intro items
    induction items with
    | nil =>
        intro seen _ hseen
        exact instGivesUnclosedOk
    | cons a items ih =>
        intro seen hitems hseen
        have ha := hitems.head
        refine .bind fun b _ => ih _ hitems.tail ?_
        cases b
        · exact hseen
        · exact inferInstanceAs (IsUnclosed (a :: seen))
  have hnone := hseen items [] h inferInstance
  rw [List.filterM]
  infer_instance

theorem GivesUnclosed.filterMapM {g : α → Except Fault (Option β)} (h : IsUnclosed items)
    (hg : ∀ a : Clear α, GivesUnclosed (g a.val)) : GivesUnclosed (items.filterMapM g) := by
  induction items with
  | nil => exact instGivesUnclosedOk
  | cons a items ih =>
      have ha := h.head
      have hrest := ih h.tail
      rw [List.filterMapM_cons]
      refine .bind fun b? hb? => ?_
      have hvalue := (hg ⟨a, ha.holds⟩).of_eq_ok b? hb?
      cases b? with
      | none => exact hrest
      | some b =>
          have hb : IsUnclosed b := hvalue.of_mem_option rfl
          infer_instance

instance (g : α → Except Fault (Option β)) [h : IsUnclosed items]
    [hg : ∀ a : Clear α, GivesUnclosed (g a.val)] : GivesUnclosed (items.filterMapM g) :=
  .filterMapM h hg

theorem GivesUnclosed.foldlM {g : β → α → Except Fault β} (h : IsUnclosed items) (hb : IsUnclosed b)
    (hg : ∀ (b : Clear β) (a : Clear α), GivesUnclosed (g b.val a.val)) :
    GivesUnclosed (items.foldlM g b) := by
  induction items generalizing b with
  | nil => exact instGivesUnclosedOk
  | cons a items ih =>
      have ha := h.head
      rw [List.foldlM_cons]
      refine .bind fun b' hb' => ih h.tail ?_
      exact (hg ⟨b, hb.holds⟩ ⟨a, ha.holds⟩).of_eq_ok b' hb'

instance (g : β → α → Except Fault β) [h : IsUnclosed items] [hb : IsUnclosed b]
    [hg : ∀ (b : Clear β) (a : Clear α), GivesUnclosed (g b.val a.val)] :
    GivesUnclosed (items.foldlM g b) := .foldlM h hb hg

end

/-! Texts. -/

namespace Text

variable {s t : Text}

instance [IsUnclosed s] (p : Char → Bool) : IsUnclosed (dropWhileEnd p s) := by
  unfold dropWhileEnd
  infer_instance

instance [IsUnclosed s] : IsUnclosed (trimLeft s) := by
  unfold trimLeft
  infer_instance

instance [IsUnclosed s] : IsUnclosed (trimRight s) := by
  unfold trimRight
  infer_instance

instance [IsUnclosed s] : IsUnclosed (trim s) := by
  unfold trim
  infer_instance

theorem unclosed_join {sep : Text} {parts : List Text} (hsep : IsUnclosed sep)
    (h : IsUnclosed parts) : IsUnclosed (join sep parts) := by
  fun_induction join sep parts with
  | case1 => infer_instance
  | case2 s => exact h.head
  | case3 s t rest ih =>
      have hs := h.head
      have hrest := ih h.tail
      infer_instance

instance {sep : Text} {parts : List Text} [hsep : IsUnclosed sep] [h : IsUnclosed parts] :
    IsUnclosed (join sep parts) := unclosed_join hsep h

instance [hs : IsUnclosed s] (sep : Char) : IsUnclosed (Text.splitAt sep s) :=
  .of_forall fun _ ht => hs.of_infix (infix_of_mem_splitAt ht)

theorem mem_of_mem_words {word s : Text} (h : word ∈ words s) : word ⊆ s := by
  have hfrom : ∀ s part : Text, ∀ word ∈ wordsFrom part s, word ⊆ part ++ s := by
    intro s
    induction s with
    | nil =>
        intro part word hword c hc
        rw [wordsFrom] at hword
        split at hword
        · cases hword
        · rw [List.mem_singleton.mp hword] at hc
          exact List.mem_append_left _ (List.mem_reverse.mp hc)
    | cons d s ih =>
        intro part word hword c hc
        rw [wordsFrom] at hword
        have hlater : ∀ part : Text, word ∈ wordsFrom part s → c ∈ part ∨ c ∈ d :: s := by
          intro part hmem
          rcases List.mem_append.mp (ih part word hmem hc) with hpart | hrest
          · exact .inl hpart
          · exact .inr (List.mem_cons_of_mem d hrest)
        have hwhole : c ∈ part ∨ c ∈ d :: s := by
          split at hword
          · split at hword
            · exact .inr ((hlater [] hword).resolve_left List.not_mem_nil)
            · rcases List.mem_cons.mp hword with rfl | hword
              · exact .inl (List.mem_reverse.mp hc)
              · exact .inr ((hlater [] hword).resolve_left List.not_mem_nil)
          · rcases hlater (d :: part) hword with hpart | hrest
            · rcases List.mem_cons.mp hpart with rfl | hpart
              · exact .inr List.mem_cons_self
              · exact .inl hpart
            · exact .inr hrest
        exact List.mem_append.mpr hwhole
  exact hfrom s [] word h

instance [hs : IsUnclosed s] : IsUnclosed (words s) :=
  .of_forall fun _ hword => hs.of_subset (mem_of_mem_words hword)

instance [hs : IsUnclosed s] : IsUnclosed (toUpper s) := by
  refine .of_text fun c hc hclose => ?_
  rw [hclose] at hc
  exact hs.text '}' (close_mem_of_mem_toUpper hc) rfl

instance [hs : IsUnclosed s] : IsUnclosed (toLower s) := by
  refine .of_text fun c hc hclose => ?_
  rw [hclose] at hc
  exact hs.text '}' (close_mem_of_mem_toLower hc) rfl

instance [hs : IsUnclosed s] : IsUnclosed (capitalize s) := by
  refine .of_text fun c hc hclose => ?_
  rw [hclose] at hc
  exact hs.text '}' (close_mem_of_mem_capitalize hc) rfl

instance [hs : IsUnclosed s] (p : Char → Bool) : IsUnclosed (runs p s) := by
  have hparts : IsUnclosed (s.splitBy p) :=
    .of_forall fun _ ht => hs.of_infix (infix_of_mem_splitFrom ht)
  unfold runs
  infer_instance

instance [IsUnclosed s] : IsUnclosed (capitalizeWords s) := by
  have hspace : IsUnclosed ' ' := .of_char (by decide)
  unfold capitalizeWords
  infer_instance

/-- Whatever characters fold to, those of a slug are letters, digits and hyphens. -/
instance (s : Text) : IsUnclosed (slugify s) := by
  have hhyphen : IsUnclosed '-' := .of_char (by decide)
  have hruns : IsUnclosed ((toLower (fold s)).runs (!isSlugChar ·)) := by
    refine .of_forall fun t ht => .of_text fun c hc hclose => ?_
    have hslug := not_of_mem_splitBy (List.mem_filter.mp ht).1 c hc
    rw [hclose] at hslug
    exact absurd hslug (by decide)
  unfold slugify
  infer_instance

theorem unclosed_replaceFrom (needle : Text) {by_ : Text} (hby : IsUnclosed by_) (skip : Nat)
    (hs : IsUnclosed s) : IsUnclosed (replaceFrom needle by_ skip s) := by
  fun_induction replaceFrom needle by_ skip s with
  | case1 => infer_instance
  | case2 skip c s ih => exact ih hs.tail
  | case3 c s _ ih =>
      have hrest := ih hs.tail
      infer_instance
  | case4 c s _ ih =>
      have hc := hs.head
      have hrest := ih hs.tail
      infer_instance

instance (needle : Text) {by_ : Text} [hby : IsUnclosed by_] [hs : IsUnclosed s] :
    IsUnclosed (Text.replace needle by_ s) := by
  have hreplaced := unclosed_replaceFrom needle hby 0 hs
  unfold Text.replace
  infer_instance

instance [IsUnclosed s] : IsUnclosed (humanize s) := by
  have hspace : IsUnclosed [' '] := .of_text (by decide)
  unfold humanize
  infer_instance

instance [IsUnclosed s] [IsUnclosed t] (length : Int) : IsUnclosed (truncate length t s) := by
  unfold truncate
  infer_instance

/-! Numbers. -/

instance (n : Nat) : IsUnclosed (ofNat n) := by
  refine .of_text fun c hc hclose => ?_
  rw [ofNat, Nat.toList_repr] at hc
  have hdigit := Nat.isDigit_of_mem_toDigits (by decide) (by decide) hc
  rw [hclose] at hdigit
  exact absurd hdigit (by decide)

instance (width n : Nat) : IsUnclosed (padded width n) := by
  have hzero : IsUnclosed '0' := .of_char (by decide)
  unfold padded
  infer_instance

instance (i : Int) : IsUnclosed (ofInt i) := by
  have hminus : IsUnclosed '-' := .of_char (by decide)
  unfold ofInt
  infer_instance

theorem unclosed_of_ofInt? {i : Int} {t : Text} (h : ofInt? i = some t) : IsUnclosed t := by
  have hminus : IsUnclosed '-' := .of_char (by decide)
  have hdigits : IsUnclosed (Nat.repr i.natAbs).toList := inferInstanceAs (IsUnclosed (ofNat _))
  unfold ofInt? at h
  dsimp only at h
  obtain ⟨-, heq⟩ := Option.ite_none_left_eq_some.mp h
  cases heq
  infer_instance

instance (d : Decimal) : IsUnclosed (ofDecimal d) := by
  have hzero : IsUnclosed '0' := .of_char (by decide)
  have hpoint : IsUnclosed '.' := .of_char (by decide)
  have hmark : IsUnclosed 'e' := .of_char (by decide)
  have hplus : IsUnclosed '+' := .of_char (by decide)
  have hminus : IsUnclosed '-' := .of_char (by decide)
  have hstart : IsUnclosed "0.".toList := .of_text (by decide)
  unfold ofDecimal
  dsimp only
  generalize hdigits : dropWhileEnd (· == '0') (ofNat d.digits) = digits
  have hclear : IsUnclosed digits := hdigits ▸ inferInstance
  split
  · infer_instance
  · rcases digits with _ | ⟨c, _ | ⟨c', rest⟩⟩
    · infer_instance
    · infer_instance
    · have hc := hclear.head
      have hrest := hclear.tail
      infer_instance

instance (f : Float) : IsUnclosed (ofFloat f) := by
  have hminus : IsUnclosed '-' := .of_char (by decide)
  have hword : IsUnclosed "nan".toList ∧ IsUnclosed "inf".toList ∧ IsUnclosed "-inf".toList ∧
      IsUnclosed "0.0".toList :=
    ⟨.of_text (by decide), .of_text (by decide), .of_text (by decide), .of_text (by decide)⟩
  obtain ⟨hnan, hinf, hneg, hnothing⟩ := hword
  unfold ofFloat
  split <;> infer_instance

end Text

/-! Markup. -/

theorem Scanner.remove_subset {scan : Scanner α} {s : Text}
    (h : ∀ t a rest, scan t = some (a, rest) → rest ⊆ t) : scan.remove s ⊆ s := by
  rw [remove_eq_replace_map]
  refine replace_induct (P := fun s t => t ⊆ s) (fun s _ => List.Subset.refl s) ?_ s
  intro before t value after hread hafter
  obtain ⟨⟨a, rest⟩, ha, heq⟩ := Option.map_eq_some_iff.mp hread
  cases heq
  exact List.append_subset.mpr ⟨List.subset_append_left _ _,
    fun c hc => List.mem_append_right _ (h t a after ha (hafter hc))⟩

namespace Markup

variable {s t : Text}

instance [hs : IsUnclosed s] : IsUnclosed (stripTags s) := by
  refine hs.of_subset (Scanner.remove_subset fun t a rest h => ?_)
  unfold tagSpan at h
  split at h
  · next s' =>
      split at h
      · next c behind hdrop =>
          cases h
          have hsuffix : c :: rest <:+ s' := hdrop ▸ List.dropWhile_suffix _
          exact fun d hd => List.mem_cons_of_mem _ (hsuffix.subset (List.mem_cons_of_mem _ hd))
      · cases h
  · cases h

instance {c : Char} [IsUnclosed c] : IsUnclosed (escapeChar c) := by
  have hand : IsUnclosed "&amp;".toList := .of_text (by decide)
  have hless : IsUnclosed "&lt;".toList := .of_text (by decide)
  have hgreater : IsUnclosed "&gt;".toList := .of_text (by decide)
  have hquote : IsUnclosed "&#34;".toList := .of_text (by decide)
  have hsingle : IsUnclosed "&#39;".toList := .of_text (by decide)
  unfold escapeChar
  infer_instance

instance [IsUnclosed s] : IsUnclosed (escape s) := by
  unfold escape
  infer_instance

instance [IsUnclosed s] : IsUnclosed (plain s) := by
  have hspace : IsUnclosed ' ' := .of_char (by decide)
  unfold plain
  infer_instance

instance [IsUnclosed s] [IsUnclosed t] : IsUnclosed (joinRoot s t) := by
  have hslash : IsUnclosed '/' := .of_char (by decide)
  unfold joinRoot
  infer_instance

end Markup

end Stencil
