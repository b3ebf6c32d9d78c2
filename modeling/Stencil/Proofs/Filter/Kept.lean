import Stencil.Filter.Basic
import Stencil.Proofs.Value.Integers

namespace Stencil

/-! Filters fail only where an integer cannot be written out, and they make no integers but those
that they are given and those that they count. -/

structure Yields (P : Fault → Prop) (Q : α → Prop) (x : Except Fault α) : Prop where
  failsIn : FailsIn P x
  post : ∀ a, x = .ok a → Q a

section

variable {P : Fault → Prop} {Q : α → Prop} {R : β → Prop}

theorem Yields.ok {a : α} (h : Q a) : Yields P Q (.ok a) := by
  refine ⟨instFailsInOk a, fun b hb => ?_⟩
  cases hb
  exact h

theorem Yields.of_failsIn {x : Except Fault α} (h : FailsIn P x) :
    Yields P (fun a => x = .ok a) x :=
  ⟨h, fun _ => id⟩

theorem Yields.bind {x : Except Fault α} {f : α → Except Fault β} (hx : Yields P Q x)
    (hf : ∀ a, Q a → Yields P R (f a)) : Yields P R (x >>= f) := by
  cases x with
  | error e => exact ⟨failsIn_error (hx.failsIn.of_eq_error e rfl), fun _ h => nomatch h⟩
  | ok a => exact hf a (hx.post a rfl)

theorem Yields.exists_ok {x : Except Fault α} (h : Yields (fun _ => False) Q x) :
    ∃ a, x = .ok a ∧ Q a := by
  cases x with
  | error e => exact (h.failsIn.of_eq_error e rfl).elim
  | ok a => exact ⟨a, rfl, h.post a rfl⟩

end

/-! What is made of the elements of a list has no others. -/

theorem Value.distinct_subset (items : List Value) : Value.distinct items ⊆ items := by
  have hseen : ∀ items seen : List Value, ∀ v ∈ items.foldl
      (fun seen v => if v.isIn seen then seen else v :: seen) seen, v ∈ seen ∨ v ∈ items := by
    intro items
    induction items with
    | nil => exact fun _ _ => .inl
    | cons item items ih =>
        intro seen v hv
        rcases ih _ v hv with hmem | hmem
        · dsimp only at hmem
          split at hmem
          · exact .inl hmem
          · rcases List.mem_cons.mp hmem with rfl | hmem
            · exact .inr List.mem_cons_self
            · exact .inl hmem
        · exact .inr (List.mem_cons_of_mem _ hmem)
  intro v hv
  exact (hseen items [] v (List.mem_reverse.mp hv)).resolve_left List.not_mem_nil

theorem Sequence.first_mem {items : List Value} (h : items ≠ []) : first items ∈ items := by
  cases items with
  | nil => exact absurd rfl h
  | cons v items => exact List.mem_cons_self

theorem Sequence.last_mem {items : List Value} (h : items ≠ []) : last items ∈ items := by
  rw [last, List.getLastD_eq_getLast?, List.getLast?_eq_some_getLast h]
  exact List.getLast_mem h

theorem Filter.subset_of_sorted {items sorted : List Value} (h : Filter.sorted items = .ok sorted) :
    sorted ⊆ items := by
  unfold Filter.sorted at h
  intro v hv
  split at h
  · next numbers _ =>
      cases h
      obtain ⟨⟨n, w⟩, hpair, rfl⟩ := List.mem_map.mp hv
      exact (List.of_mem_zip ((List.mergeSort_perm _ _).mem_iff.mp hpair)).2
  · obtain ⟨keyed, hkeyed, heq⟩ := bind_eq_ok.mp h
    cases heq
    obtain ⟨pair, hpair, rfl⟩ := List.mem_map.mp hv
    have hmem : ∀ pair ∈ keyed, pair.2 ∈ items :=
      forall_of_mapM_eq_ok hkeyed fun v hv pair h => by
        obtain ⟨s, -, heq⟩ := bind_eq_ok.mp h
        cases heq
        exact hv
    exact hmem pair ((List.mergeSort_perm _ _).mem_iff.mp hpair)

namespace Value

variable {fits : Int → Prop} {items parts : List Value}

theorem integersIn_list_of_subset (h : ∀ v ∈ items, v.IntegersIn fits) (hparts : parts ⊆ items) :
    (Value.list parts).IntegersIn fits :=
  .list parts fun v hv => h v (hparts hv)

theorem integersIn_rebuild_of_subset (h : ∀ v ∈ items, v.IntegersIn fits) (hparts : parts ⊆ items)
    (like : Value) : (Sequence.rebuild like parts).IntegersIn fits := by
  unfold Sequence.rebuild
  split
  · exact .pages parts fun v hv => h v (hparts hv)
  · exact integersIn_list_of_subset h hparts

theorem integersIn_first (h : ∀ v ∈ items, v.IntegersIn fits) :
    (Sequence.first items).IntegersIn fits := by
  by_cases hitems : items = []
  · rw [hitems]
    exact .nil
  · exact h _ (Sequence.first_mem hitems)

theorem integersIn_last (h : ∀ v ∈ items, v.IntegersIn fits) :
    (Sequence.last items).IntegersIn fits := by
  by_cases hitems : items = []
  · rw [hitems]
    exact .nil
  · exact h _ (Sequence.last_mem hitems)

theorem integersIn_arg {args : List Value} (h : ∀ a ∈ args, a.IntegersIn fits) (i : Nat)
    {default : Value} (hdefault : default.IntegersIn fits) :
    (Function.arg args i default).IntegersIn fits :=
  Function.arg_of_forall hdefault h i

theorem IntegersIn.of_int {i : Int} (h : (Value.int i).IntegersIn fits) : fits i := by
  cases h with
  | int _ h => exact h

end Value

namespace Filter

/-- A value whose lengths are in `fits`, that of its elements and that of its text. -/
structure Countable (fits : Int → Prop) (v : Value) : Prop where
  size : (size v).IntegersIn fits
  width : ∀ s, v.format = .ok s → fits s.length

/-- A filter that fails with the faults of `P` only and makes no integers outside `fits`. -/
class Keeps (P : Fault → Prop) (fits : Int → Prop) (f : Filter) : Prop where
  run : ∀ args v, (∀ a ∈ args, a.IntegersIn fits) → v.IntegersIn fits → Countable fits v →
    Yields P (Value.IntegersIn fits) (f.run args v)

section

variable {P : Fault → Prop} {fits : Int → Prop}

theorem keeps_plain {f : Value → Except Fault Value}
    (h : ∀ v, v.IntegersIn fits → Countable fits v → Yields P (Value.IntegersIn fits) (f v)) :
    Keeps P fits (plain f) where
  run _ v _ := h v

instance instKeepsSize : Keeps P fits (plain fun v => .ok (size v)) :=
  keeps_plain fun _ _ hcount => .ok hcount.size

instance instKeepsReverse : Keeps P fits (plain fun v => .ok (reverse v)) := by
  refine keeps_plain fun v hv _ => .ok ?_
  unfold reverse
  split
  · exact .text _
  · cases hitems : v.sequence? with
    | none => exact hv
    | some items =>
        exact Value.integersIn_list_of_subset (hv.of_sequence? hitems)
          (List.reverse_subset.mpr (List.Subset.refl _))

theorem keeps_onItems {f : List Value → Value}
    (h : ∀ items, (∀ v ∈ items, v.IntegersIn fits) → (f items).IntegersIn fits) :
    Keeps P fits (onItems f) := by
  refine keeps_plain fun v hv _ => .ok ?_
  cases hitems : v.sequence? with
  | none => exact hv
  | some items => exact h items (hv.of_sequence? hitems)

instance instKeepsDistinct : Keeps P fits (onItems fun items => .list (Value.distinct items)) :=
  keeps_onItems fun items h => Value.integersIn_list_of_subset h (Value.distinct_subset items)

instance instKeepsShuffle : Keeps P fits (onItems .list) :=
  keeps_onItems fun items h => .list items h

instance instKeepsCompact : Keeps P fits (onItems fun items => .list (Sequence.compact items)) :=
  keeps_onItems fun _ h => Value.integersIn_list_of_subset h List.filter_sublist.subset

instance instKeepsTest (p : List Value → Bool) : Keeps P fits (test p) :=
  keeps_plain fun _ _ _ => .ok (.bool _)

instance instKeepsDefault : Keeps P fits default where
  run args v hargs hv _ := by
    refine .ok ?_
    split
    · exact hv
    · exact Value.integersIn_arg hargs 0 (.text [])

instance instKeepsFirst : Keeps P fits first where
  run args v hargs hv _ := by
    unfold first
    dsimp only
    split
    · exact .ok hv
    · next items hitems =>
        have hall := hv.of_sequence? hitems
        split
        · exact .ok (Value.integersIn_first hall)
        · exact .ok (Value.integersIn_rebuild_of_subset hall (List.take_subset _ _) v)
        · exact .ok hv

instance instKeepsLast : Keeps P fits last where
  run args v hargs hv _ := by
    unfold last
    dsimp only
    split
    · exact .ok hv
    · next items hitems =>
        have hall := hv.of_sequence? hitems
        split
        · exact .ok (Value.integersIn_last hall)
        · exact .ok (Value.integersIn_rebuild_of_subset hall (List.drop_subset _ _) v)
        · exact .ok hv

instance instKeepsSample : Keeps P fits sample where
  run args v hargs hv _ := by
    unfold sample
    dsimp only
    split
    · next items n hitems _ =>
        exact .ok (Value.integersIn_list_of_subset (hv.of_sequence? hitems) (List.take_subset _ _))
    · exact .ok hv

theorem fits_min {i j : Int} (hi : fits i) (hj : fits j) : fits (min i j) := by
  rw [Int.min_def]
  split
  · exact hi
  · exact hj

theorem fits_max {i j : Int} (hi : fits i) (hj : fits j) : fits (max i j) := by
  rw [Int.max_def]
  split
  · exact hj
  · exact hi

instance instKeepsAtMost : Keeps P fits atMost where
  run args v hargs hv _ := by
    have hbound := Value.integersIn_arg hargs 0 (.text [])
    unfold atMost
    dsimp only
    split
    · next bound harg =>
        rw [harg] at hbound
        split
        · exact .ok (.int _ (fits_min hv.of_int hbound.of_int))
        · split
          · next items hitems =>
              exact .ok (Value.integersIn_rebuild_of_subset (hv.of_sequence? hitems)
                (List.take_subset _ _) _)
          · exact .ok hv
    · exact .ok hv

instance instKeepsAtLeast : Keeps P fits atLeast where
  run args v hargs hv _ := by
    have hbound := Value.integersIn_arg hargs 0 (.text [])
    unfold atLeast
    dsimp only
    split
    · next i bound harg _ =>
        rw [harg] at hbound
        exact .ok (.int _ (fits_max hv.of_int hbound.of_int))
    · exact .ok hv

theorem keeps_clamp (hzero : fits 0) : Keeps P fits clamp where
  run args v hargs hv _ := by
    have hbound := Value.integersIn_arg hargs 0 (.text [])
    have hsecond := Value.integersIn_arg hargs 1 .nil
    unfold clamp
    dsimp only
    generalize hfst : Prod.fst _ = low
    generalize hsnd : Prod.snd _ = high
    have hlow : low.IntegersIn fits := by
      rw [← hfst]
      split
      · exact .int 0 hzero
      · exact hbound
    have hhigh : high.IntegersIn fits := by
      rw [← hsnd]
      split
      · exact hbound
      · exact hsecond
    split
    · exact .ok (.int _ (fits_min (fits_max hv.of_int hlow.of_int) hhigh.of_int))
    · exact .ok hv

/-! Filters that write out their value. -/

variable [Writes P fits]

theorem keeps_onText {f : Text → Value}
    (h : ∀ v s, Countable fits v → v.format = .ok s → (f s).IntegersIn fits) :
    Keeps P fits (onText f) := by
  refine keeps_plain fun v hv hcount => ?_
  exact (Yields.of_failsIn hv.failsIn_format).bind fun s hs => .ok (h v s hcount hs)

instance instKeepsMapText (f : Text → Text) : Keeps P fits (mapText f) :=
  keeps_onText fun _ _ _ _ => .text _

instance instKeepsCharCount : Keeps P fits (onText fun s => .int s.length) :=
  keeps_onText fun _ _ hcount hs => .int _ (hcount.width _ hs)

instance instKeepsTruncate : Keeps P fits truncate where
  run args v hargs hv _ := by
    unfold truncate
    dsimp only
    split
    · exact (Yields.of_failsIn hv.failsIn_format).bind fun _ _ => .ok (.text _)
    · exact .ok hv

instance instKeepsJoin : Keeps P fits join where
  run args v hargs hv _ := by
    unfold join
    dsimp only
    split
    · exact .ok hv
    · next items hitems =>
        have hseparator : FailsIn P (Function.arg args 0 (.ofString ", ")).format :=
          (Value.integersIn_arg hargs 0 (.text _)).failsIn_format
        have htexts : FailsIn P (items.mapM Value.format) :=
          .mapM fun item hitem => (hv.of_sequence? hitems item hitem).failsIn_format
        refine (Yields.of_failsIn hseparator).bind fun separator _ => ?_
        exact (Yields.of_failsIn htexts).bind fun _ _ => .ok (.text _)

theorem failsIn_sortText {v : Value} (hv : v.IntegersIn fits) : FailsIn P (sortText v) := by
  have hformat : FailsIn P v.format := hv.failsIn_format
  unfold sortText
  split <;> infer_instance

theorem failsIn_sorted {items : List Value} (h : ∀ v ∈ items, v.IntegersIn fits) :
    FailsIn P (sorted items) := by
  have hkeyed : FailsIn P (items.mapM fun v => do return (← sortText v, v)) := by
    refine .mapM fun v hv => ?_
    have htext : FailsIn P (sortText v) := failsIn_sortText (h v hv)
    infer_instance
  unfold sorted
  split <;> infer_instance

instance instKeepsSort : Keeps P fits sort := by
  refine keeps_plain fun v hv _ => ?_
  split
  · exact .ok hv
  · next items hitems =>
      have hall := hv.of_sequence? hitems
      refine (Yields.of_failsIn (failsIn_sorted hall)).bind fun sorted hsorted => ?_
      exact .ok (Value.integersIn_list_of_subset hall (subset_of_sorted hsorted))

/-! The filters of every template. -/

class KeepsAll (P : Fault → Prop) (fits : Int → Prop) (entries : List (String × Filter)) :
    Prop where
  of_mem : ∀ entry ∈ entries, Keeps P fits entry.2

instance instKeepsAllNil : KeepsAll P fits [] := ⟨fun _ h => nomatch h⟩

instance instKeepsAllCons {name : String} {f : Filter} {rest : List (String × Filter)}
    [hf : Keeps P fits f] [hrest : KeepsAll P fits rest] : KeepsAll P fits ((name, f) :: rest) :=
  ⟨List.forall_mem_cons.mpr ⟨hf, hrest.of_mem⟩⟩

theorem keeps_standard (hzero : fits 0) {name : Text} {f : Filter}
    (h : standard.get? name = some f) : Keeps P fits f := by
  have hclamp : Keeps P fits clamp := keeps_clamp hzero
  unfold standard at h
  obtain ⟨n, hmem, -⟩ := Registry.mem_of_get?_ofList h
  exact KeepsAll.of_mem (n, f) hmem

end

end Filter

end Stencil
