import Mathlib.Data.Int.Order.Basic
import Mathlib.Order.Lattice
import Stencil.Proofs.Eval.Result
import Stencil.Value.Order

namespace Stencil

/-! When a sort by keys is there: exactly if each two of its keys have an order. -/

section

variable {κ μ α : Type} {lt? : κ → κ → Except Fault Bool}

def Comparable (lt? : κ → κ → Except Fault Bool) (x y : κ) : Prop :=
  (∃ b, lt? x y = .ok b) ∧ ∃ b, lt? y x = .ok b

theorem comparable_flip {x y : κ} :
    Comparable (fun a b => lt? b a) x y ↔ Comparable lt? x y :=
  and_comm

theorem incomparable?_eq_none_iff {keys : List κ} :
    incomparable? lt? keys = none ↔ keys.Pairwise (Comparable lt?) := by
  induction keys with
  | nil => simp [incomparable?]
  | cons x xs ih =>
      rw [incomparable?, List.pairwise_cons]
      split
      · next e hfound =>
          obtain ⟨y, hy, hfault⟩ := List.exists_of_findSome?_eq_some hfound
          refine iff_of_false (Option.some_ne_none e) fun h => ?_
          obtain ⟨⟨_, hxy⟩, _, hyx⟩ := h.1 y hy
          rw [hxy, hyx] at hfault
          cases hfault
      · next hnone =>
          have hall : ∀ y ∈ xs, Comparable lt? x y := by
            intro y hy
            have hpair := List.findSome?_eq_none_iff.mp hnone y hy
            unfold Comparable
            cases hxy : lt? x y <;> cases hyx : lt? y x <;> simp [hxy, hyx] at hpair ⊢
          rw [ih]
          exact ⟨fun h => ⟨hall, h⟩, And.right⟩

/-- A sort fails with what some comparison of two keys fails with. -/
theorem exists_of_incomparable? {keys : List κ} {e : Fault} (h : incomparable? lt? keys = some e) :
    ∃ x ∈ keys, ∃ y ∈ keys, lt? x y = .error e := by
  induction keys with
  | nil => cases h
  | cons x xs ih =>
      rw [incomparable?] at h
      split at h
      · next found hfound =>
          cases h
          obtain ⟨y, hy, hfault⟩ := List.exists_of_findSome?_eq_some hfound
          split at hfault
          · next hxy =>
              cases hfault
              exact ⟨x, List.mem_cons_self, y, List.mem_cons_of_mem _ hy, hxy⟩
          · next hyx _ =>
              cases hfault
              exact ⟨y, List.mem_cons_of_mem _ hy, x, List.mem_cons_self, hyx⟩
          · cases hfault
      · obtain ⟨y, hy, z, hz, hfault⟩ := ih h
        exact ⟨y, List.mem_cons_of_mem _ hy, z, List.mem_cons_of_mem _ hz, hfault⟩

theorem sortByKey_of_pairwise {items : List (κ × α)}
    (h : items.Pairwise fun a b => Comparable lt? a.1 b.1) :
    ∃ sorted, sortByKey lt? items = .ok sorted := by
  have hnone : incomparable? lt? (items.map (·.1)) = none :=
    incomparable?_eq_none_iff.mpr (List.pairwise_map.mpr h)
  exact ⟨_, by rw [sortByKey, hnone]⟩

theorem sortByKey_of_not_pairwise {items : List (κ × α)} {fault : Fault}
    (hfault : ∀ x y e, lt? x y = .error e → e = fault)
    (h : ¬items.Pairwise fun a b => Comparable lt? a.1 b.1) :
    sortByKey lt? items = .error fault := by
  cases hfound : incomparable? lt? (items.map (·.1)) with
  | none => exact absurd (List.pairwise_map.mp (incomparable?_eq_none_iff.mp hfound)) h
  | some e =>
      obtain ⟨x, -, y, -, hxy⟩ := exists_of_incomparable? hfound
      rw [sortByKey, hfound, hfault x y e hxy]

theorem perm_of_sortByKey {items : List (κ × α)} {sorted : List α}
    (h : sortByKey lt? items = .ok sorted) : sorted.Perm (items.map (·.2)) := by
  unfold sortByKey at h
  split at h
  · cases h
  · cases h
    exact (List.mergeSort_perm items _).map _

/-- Two keys compare as the first ones do, unless those are equal. -/
theorem comparable_pairLt? {eq : κ → κ → Bool} {lt₂? : μ → μ → Except Fault Bool} {a b : κ × μ}
    (hsymm : eq a.1 b.1 = eq b.1 a.1) :
    Comparable (pairLt? eq lt? lt₂?) a b ↔
      if eq a.1 b.1 then Comparable lt₂? a.2 b.2 else Comparable lt? a.1 b.1 := by
  unfold Comparable pairLt?
  rw [← hsymm]
  cases eq a.1 b.1 <;> rfl

end

/-! Values without an order fail alike, and moments lack one if only one carries an offset. -/

namespace Value

theorem fault_of_amountLt? {a b : Value} {e : Fault} (h : amountLt? a b = .error e) :
    e = .wrongKind := by
  unfold amountLt? at h
  split at h
  · cases h
  · cases h
    rfl

mutual

theorem fault_of_lt? (a b : Value) : ∀ e, a.lt? b = .error e → e = .wrongKind := by
  fun_cases Value.lt? a b with
  | case5 xs ys => exact fault_of_listLt? xs ys
  | case6 a b => exact fun _ => fault_of_amountLt?
  | case7 a b => exact fun _ => fault_of_amountLt?
  | case8 a b => exact fun _ => fault_of_amountLt?
  | _ =>
      intro e h
      cases h <;> rfl
termination_by sizeOf a

theorem fault_of_listLt? (xs ys : List Value) :
    ∀ e, listLt? xs ys = .error e → e = .wrongKind := by
  fun_cases Value.listLt? xs ys with
  | case3 x xs y ys heq => exact fault_of_listLt? xs ys
  | case4 x xs y ys hne => exact fault_of_lt? x y
  | _ =>
      intro e h
      cases h
termination_by sizeOf xs

end

theorem lt?_ints (i j : Int) : lt? (.int i) (.int j) = .ok (decide (i < j)) := by
  have hamounts : lt? (.int i) (.int j) = .ok (compare i j == .lt) := by
    rw [lt?, amountLt?]
    simp [amount?, Number.lt, Number.compare?]
  rw [hamounts, Except.ok.injEq, Bool.eq_iff_iff, beq_iff_eq, decide_eq_true_eq, Int.compare_eq_lt]

theorem lt?_texts (s t : Text) : lt? (.text s) (.text t) = .ok (Text.lt s t) := by
  rw [lt?]

theorem comparable_moments {m n : Moment} :
    Comparable lt? (.moment m) (.moment n) ↔ m.offset.isSome = n.offset.isSome := by
  unfold Comparable
  rw [lt?, lt?, Moment.compare?, Moment.compare?]
  by_cases h : m.offset.isSome = n.offset.isSome
  · simp [h]
  · simp [h, Ne.symm h]

theorem lt?_moments {m n : Moment} (h : m.offset.isSome = n.offset.isSome) :
    lt? (.moment m) (.moment n) = .ok (decide (m.instant < n.instant)) := by
  rw [lt?, Moment.compare?, h, beq_self_eq_true, if_pos rfl]
  dsimp only
  congr 1
  rw [Bool.eq_iff_iff, beq_iff_eq, decide_eq_true_eq, Int.compare_eq_lt]

theorem comparable_ints (i j : Int) : Comparable lt? (.int i) (.int j) := by
  unfold Comparable
  rw [lt?, lt?]
  exact ⟨⟨_, rfl⟩, ⟨_, rfl⟩⟩

/-- Moments are equal if both or neither carry an offset and they are the same instant. -/
theorem eq_moment_iff {m n : Moment} :
    (moment m).eq (.moment n) = true ↔
      m.offset.isSome = n.offset.isSome ∧ m.instant = n.instant := by
  rw [eq, Moment.sameAs, Moment.compare?]
  by_cases h : m.offset.isSome = n.offset.isSome
  · simp [h]
  · simp [h]

theorem eq_moment_symm (m n : Moment) : (moment m).eq (.moment n) = (moment n).eq (.moment m) := by
  rw [Bool.eq_iff_iff, eq_moment_iff, eq_moment_iff]
  exact and_congr eq_comm eq_comm

end Value

theorem pairwise_iff_forall_mem {α : Type} {R : α → α → Prop} (hrefl : ∀ x, R x x)
    (hsymm : ∀ x y, R x y → R y x) {l : List α} :
    l.Pairwise R ↔ ∀ x ∈ l, ∀ y ∈ l, R x y := by
  induction l with
  | nil => simp
  | cons x xs ih =>
      rw [List.pairwise_cons, ih]
      constructor
      · rintro ⟨hhead, htail⟩
        simp only [List.forall_mem_cons]
        exact ⟨⟨hrefl x, hhead⟩, fun y hy => ⟨hsymm x y (hhead y hy), htail y hy⟩⟩
      · intro h
        simp only [List.forall_mem_cons] at h
        exact ⟨h.1.2, fun y hy => (h.2 y hy).2⟩

/-! Sorting one list by two orders. -/

section

variable {α : Type} {le le' : α → α → Bool} {l : List α}

theorem mergeSort_congr (h : l.Pairwise fun a b => le a b = le' a b) :
    l.mergeSort le = l.mergeSort le' := by
  fun_induction List.mergeSort l le with
  | case1 => rw [List.mergeSort_nil]
  | case2 a => rw [List.mergeSort_singleton]
  | case3 a b xs le halves _ _ ihfront ihback =>
      have hsplit : halves.1.1 ++ halves.2.1 = a :: b :: xs :=
        List.MergeSort.Internal.splitInTwo_fst_append_splitInTwo_snd _
      rw [← hsplit] at h
      obtain ⟨hfront, hback, hcross⟩ := List.pairwise_append.mp h
      have hmerge : ((halves.1.1.mergeSort le).merge (halves.2.1.mergeSort le) le).map id =
          ((halves.1.1.mergeSort le).map id).merge ((halves.2.1.mergeSort le).map id) le' :=
        List.map_merge fun x hx y hy =>
          hcross x (List.mem_mergeSort.mp hx) y (List.mem_mergeSort.mp hy)
      simp only [List.map_id, ihfront hfront, ihback hback] at hmerge ⊢
      rw [hmerge, List.mergeSort]

structure Sorts (le : α → α → Bool) : Prop where
  trans : ∀ a b c, le a b = true → le b c = true → le a c = true
  total : ∀ a b, (le a b || le b a) = true

theorem Sorts.flip (h : Sorts le) : Sorts fun a b => le b a where
  trans a b c hba hcb := h.trans c b a hcb hba
  total a b := by rw [Bool.or_comm, h.total]

/-- Elements that may stand in any order keep the one they have. -/
theorem filter_mergeSort (h : Sorts le) {test : α → Bool}
    (htest : ∀ a b, test a = true → test b = true → le a b = true) :
    (l.mergeSort le).filter test = l.filter test := by
  have hkept : (l.filter test).Pairwise fun a b => le a b = true :=
    List.pairwise_of_forall_mem_list fun a ha b hb =>
      htest a b (List.mem_filter.mp ha).2 (List.mem_filter.mp hb).2
  have hsublist := (List.sublist_mergeSort h.trans h.total hkept List.filter_sublist).filter test
  simp only [List.filter_filter, Bool.and_self] at hsublist
  exact (hsublist.eq_of_length ((List.mergeSort_perm l le).filter test).length_eq.symm).symm

/-- Sorting by an order and by a finer one is the same exactly if the list has no two elements in an
order that only the finer one objects to. -/
theorem mergeSort_eq_mergeSort_iff (h : Sorts le) (h' : Sorts le')
    (hfiner : ∀ a b, le' a b = true → le a b = true) :
    l.mergeSort le = l.mergeSort le' ↔ l.Pairwise fun a b => le a b = le' a b := by
  refine ⟨fun hsame => List.pairwise_iff_forall_sublist.mpr fun {a b} hpair => ?_, mergeSort_congr⟩
  rw [Bool.eq_iff_iff]
  refine ⟨fun hab => ?_, hfiner a b⟩
  have hkept := List.pair_sublist_mergeSort h.trans h.total hab hpair
  rw [hsame] at hkept
  exact List.pairwise_iff_forall_sublist.mp (List.pairwise_mergeSort h'.trans h'.total l) hkept

theorem mergeSort_pair (le : α → α → Bool) (a b : α) :
    [a, b].mergeSort le = if le a b then [a, b] else [b, a] := by
  simp [List.mergeSort, List.MergeSort.Internal.splitInTwo, List.merge]

variable {β κ : Type} {lt? : κ → κ → Except Fault Bool} {key : α → κ}

theorem sortByKey_map {f : α → β}
    (h : ∀ a ∈ l, ∀ b ∈ l, lt? (key b) (key a) = .ok !le a b) :
    sortByKey lt? (l.map fun a => (key a, f a)) = .ok ((l.mergeSort le).map f) := by
  have hcomparable : (l.map fun a => (key a, f a)).Pairwise
      fun x y => Comparable lt? x.1 y.1 := by
    rw [List.pairwise_map]
    exact List.pairwise_of_forall_mem_list fun a ha b hb => ⟨⟨_, h b hb a ha⟩, ⟨_, h a ha b hb⟩⟩
  have hnone := incomparable?_eq_none_iff.mpr (List.pairwise_map.mpr hcomparable)
  have hsorted : (l.mergeSort le).map (fun a => (key a, f a)) =
      (l.map fun a => (key a, f a)).mergeSort fun x y => notAfter lt? x.1 y.1 := by
    refine List.map_mergeSort fun a ha b hb => ?_
    rw [notAfter, h a ha b hb]
    exact (Bool.not_not _).symm
  rw [sortByKey, hnone]
  dsimp only
  rw [← hsorted, List.map_map]
  rfl

end

/-! Sorting by keys that all compare. -/

section

variable {α κ ν : Type} [LinearOrder κ] {key : α → κ} {items sorted : List α}

def byKey (key : α → κ) (a b : α) : Bool := decide (key a ≤ key b)

theorem sorts_byKey (key : α → κ) : Sorts (byKey key) where
  trans _ _ _ hab hbc :=
    decide_eq_true (le_trans (of_decide_eq_true hab) (of_decide_eq_true hbc))
  total a b := by
    rw [Bool.or_eq_true]
    exact (le_total (key a) (key b)).imp decide_eq_true decide_eq_true

/-- The elements of `items` in the order of their keys; those of one key stay in the order they
had. -/
structure SortedBy (key : α → κ) (items sorted : List α) : Prop where
  perm : sorted.Perm items
  ascending : sorted.Pairwise fun a b => key a ≤ key b
  stable : ∀ k, sorted.filter (key · = k) = items.filter (key · = k)

theorem sortedBy_mergeSort (key : α → κ) (items : List α) :
    SortedBy key items (items.mergeSort (byKey key)) := by
  have hsorts := sorts_byKey key
  constructor
  · exact List.mergeSort_perm _ _
  · exact (List.pairwise_mergeSort hsorts.trans hsorts.total items).imp of_decide_eq_true
  · intro k
    refine filter_mergeSort hsorts fun a b ha hb => decide_eq_true ?_
    rw [of_decide_eq_true ha, of_decide_eq_true hb]

theorem SortedBy.mergeSort_eq (h : SortedBy key items sorted) :
    sorted.mergeSort (byKey key) = sorted :=
  List.mergeSort_of_pairwise (h.ascending.imp decide_eq_true)

theorem map_mergeSort_pairs {front : α → ν} (le : ν → ν → Bool)
    (h : ∀ a ∈ items, ∀ b ∈ items, le (front a) (front b) = byKey key a b) :
    ((items.map fun a => (front a, a)).mergeSort fun p q => le p.1 q.1).map (·.2) =
      items.mergeSort (byKey key) := by
  have hpairs := List.map_mergeSort (r := byKey key) (f := fun a => (front a, a))
    (s := fun p q => le p.1 q.1) fun a ha b hb => (h a ha b hb).symm
  rw [← hpairs, List.map_map]
  exact List.map_id _

end

/-! Texts in their order. -/

namespace Text

theorem lt_iff {s t : Text} : lt s t = true ↔ s < t := by
  induction s generalizing t with
  | nil => cases t <;> simp [lt]
  | cons a s ih =>
      cases t with
      | nil => simp [lt]
      | cons b t =>
          rw [lt, List.cons_lt_cons_iff]
          by_cases h : a = b
          · simp [h, ih]
          · simp only [beq_iff_eq, h, if_false, decide_eq_true_eq, false_and, or_false]
            rfl

theorem le_iff {s t : Text} : le s t = true ↔ ¬t < s := by
  rw [le, Bool.not_eq_true', Bool.eq_false_iff, ne_eq, lt_iff]

theorem le_trans {s t u : Text} (hst : le s t = true) (htu : le t u = true) : le s u = true :=
  le_iff.mpr (List.le_trans (le_iff.mp hst) (le_iff.mp htu))

theorem le_total (s t : Text) : le s t = true ∨ le t s = true := by
  rw [le_iff, le_iff]
  exact List.le_total s t

theorem sorts_le : Sorts le where
  trans _ _ _ := le_trans
  total s t := (Bool.or_eq_true _ _).mpr (le_total s t)

theorem lt_of_le_of_ne {s t : Text} (hle : le s t = true) (hne : s ≠ t) :
    lt s t = true := by
  rw [le_iff] at hle
  rw [lt_iff]
  exact Classical.byContradiction fun hnot => hne (List.le_antisymm hle hnot)

end Text

end Stencil
