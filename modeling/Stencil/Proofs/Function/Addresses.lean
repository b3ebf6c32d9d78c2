import Stencil.Function.Standard
import Stencil.Proofs.Function.Confined

namespace Stencil

/-! Functions on addresses and on character references, which fail for what they cannot take
apart. -/

namespace Url

/-- A text in which no authority can be malformed: it is in ASCII and holds no brackets. -/
def Unbracketed (s : Text) : Prop := ∀ c ∈ s, c.toNat < 128 ∧ c ≠ '[' ∧ c ≠ ']'

theorem Unbracketed.of_subset {s t : Text} (h : Unbracketed s) (hsub : t ⊆ s) : Unbracketed t :=
  fun c hc => h c (hsub hc)

theorem isAuthority_of_unbracketed {s : Text} (h : Unbracketed s) : isAuthority s = true := by
  have hopen : s.elem '[' = false := by
    simpa using fun hmem => (h '[' hmem).2.1 rfl
  have hclose : s.elem ']' = false := by
    simpa using fun hmem => (h ']' hmem).2.2 rfl
  have hfold : s.all (fun c => c.toNat < 128 || !(Text.foldChar c).any ("/?#@:".toList.elem ·)) =
      true := by
    rw [List.all_eq_true]
    intro c hc
    rw [decide_eq_true (h c hc).1, Bool.true_or]
  unfold isAuthority
  simp only [hopen, hclose, hfold, beq_self_eq_true, Bool.not_false, Bool.true_or, Bool.and_self]

theorem mem_of_partition {c : Char} {s before rest : Text}
    (h : partition c s = (before, some rest)) : rest ⊆ s := by
  have hrest : (partition c s).2 = some rest := congrArg Prod.snd h
  unfold partition at hrest
  split at hrest
  · next d tail hdrop =>
      cases hrest
      exact fun _ hmem => (List.dropWhile_suffix _).mem (hdrop ▸ List.mem_cons_of_mem d hmem)
  · cases hrest

theorem splitScheme_subset (default s : Text) : (splitScheme default s).2 ⊆ s := by
  unfold splitScheme
  split
  · next scheme rest heq =>
      split
      · exact mem_of_partition heq
      · exact List.Subset.refl s
  · exact List.Subset.refl s

variable {P : Fault → Prop}

theorem failsIn_splitWith (default : Text) {s : Text} (h : Wide P ∨ Unbracketed s) :
    FailsIn P (splitWith default s) := by
  unfold splitWith
  extract_lets t
  have hclean : t ⊆ s := fun _ hc =>
    (List.dropWhile_suffix _).mem (List.mem_filter.mp hc).1
  split
  next scheme rest hscheme =>
  have hrest : rest ⊆ s := by
    have hsub := splitScheme_subset default t
    rw [hscheme] at hsub
    exact List.Subset.trans hsub hclean
  split
  next authority behind hauthority =>
  have hmem : authority ⊆ rest := by
    split at hauthority
    · cases hauthority
      exact fun _ hc => List.mem_cons_of_mem _
        (List.mem_cons_of_mem _ ((List.takeWhile_prefix _).mem hc))
    · cases hauthority
      exact List.nil_subset rest
  have hthrow : Wide P ∨ isAuthority authority = true :=
    h.imp id fun hs => isAuthority_of_unbracketed (hs.of_subset (List.Subset.trans hmem hrest))
  rcases hthrow with hwide | hgood
  · have houtside : FailsIn P (throw .outOfDomain : Except Fault PUnit) :=
      failsIn_error hwide.outOfDomain
    infer_instance
  · simp only [hgood, Bool.not_true, Bool.false_eq_true, if_false]
    infer_instance

theorem failsIn_join {base address : Text} (hbase : Wide P ∨ Unbracketed base)
    (haddress : Wide P ∨ Unbracketed address) : FailsIn P (join base address) := by
  have hsplit := failsIn_splitWith [] hbase
  have hsplitWith : ∀ scheme, FailsIn P (splitWith scheme address) := fun scheme =>
    failsIn_splitWith scheme haddress
  unfold join split
  infer_instance

end Url

/-- A value whose text is an address that can be taken apart, unless `P` has room for failing
there. -/
def Value.Splittable (P : Fault → Prop) (v : Value) : Prop :=
  ∀ s, v.joined = .ok s → Wide P ∨ Url.Unbracketed s

namespace Function

variable {P : Fault → Prop} {args : List Value}

theorem splittable_arg (h : ∀ v ∈ args, v.Splittable P) (i : Nat) : (arg args i).Splittable P := by
  have hempty : (Value.text []).Splittable P := by
    intro s hs
    cases hs
    exact .inr fun _ hc => nomatch hc
  exact arg_of_forall hempty h i

instance instConfinedPart (f : Url → Value) : ConfinedOn P (Value.Splittable P) (part f) where
  run now args hargs h := by
    unfold part
    refine FailsIn.bind inferInstance fun s hs => ?_
    have hsplit : FailsIn P (Url.split s) := Url.failsIn_splitWith [] (splittable_arg h 0 s hs)
    infer_instance

instance instConfinedRelativeUrl : ConfinedOn P (Value.Splittable P) relativeUrl where
  run now args hargs h := by
    unfold relativeUrl
    refine FailsIn.bind inferInstance fun target htarget => ?_
    split
    · infer_instance
    · refine FailsIn.bind inferInstance fun base hbase => ?_
      have hsplit : FailsIn P (Url.split base) :=
        Url.failsIn_splitWith [] (splittable_arg h 1 base hbase)
      infer_instance

instance instConfinedJoinUrls : ConfinedOn P (Value.Splittable P) joinUrls where
  run now args hargs h := by
    unfold joinUrls
    refine FailsIn.bind inferInstance fun base hbase => ?_
    refine FailsIn.bind inferInstance fun address haddress => ?_
    have hjoin := Url.failsIn_join (splittable_arg h 0 base hbase)
      (splittable_arg h 1 address haddress)
    infer_instance

end Function

/-! Character references. -/

namespace Markup

variable {P : Fault → Prop}

theorem failsIn_referenceAt [Wide P] {s after : Text} {chars : Except Fault Text}
    (h : referenceAt s = some (chars, after)) : FailsIn P chars := by
  have houtside : FailsIn P (.error .outOfDomain : Except Fault Text) :=
    failsIn_error Wide.outOfDomain
  have hread : ∀ (digits : Text) (base : Nat) (read behind : Text),
      (if digits.isEmpty then none
        else if base == 10 && Text.maxDigits < digits.length then some (.error .outOfDomain, behind)
        else some (.ok read, behind)) = some (chars, after) → FailsIn P chars := by
    intro digits base read behind h
    split at h
    · cases h
    · split at h
      · cases h
        exact houtside
      · cases h
        infer_instance
  unfold referenceAt at h
  split at h
  · exact hread _ _ _ _ h
  · dsimp only at h
    split at h
    · cases h
    · split at h
      · cases h
        infer_instance
      · cases h
        infer_instance

theorem failsIn_unescapeFrom (skip : Nat) {s : Text} (h : Wide P ∨ '&' ∉ s) :
    FailsIn P (unescapeFrom skip s) := by
  fun_induction unescapeFrom skip s with
  | case1 skip => infer_instance
  | case2 skip c s ih => exact ih (h.imp id fun hs hmem => hs (List.mem_cons_of_mem c hmem))
  | case3 s chars after href ih =>
      rcases h with hwide | hs
      · have hchars : FailsIn P chars := failsIn_referenceAt href
        have hrest := ih (.inl hwide)
        infer_instance
      · exact absurd List.mem_cons_self hs
  | case4 s href ih =>
      rcases h with hwide | hs
      · have hrest := ih (.inl hwide)
        infer_instance
      · exact absurd List.mem_cons_self hs
  | case5 c s hc ih =>
      have hrest := ih (h.imp id fun hs hmem => hs (List.mem_cons_of_mem c hmem))
      infer_instance

end Markup

def Value.Unescapable (P : Fault → Prop) (v : Value) : Prop :=
  ∀ s, v.joined = .ok s → Wide P ∨ '&' ∉ s

namespace Function

instance instConfinedUnescape {P : Fault → Prop} :
    ConfinedOn P (Value.Unescapable P) unescape where
  run now args hargs h := by
    have hempty : (Value.text []).Unescapable P := by
      intro s hs
      cases hs
      exact .inr List.not_mem_nil
    unfold unescape
    refine FailsIn.bind inferInstance fun s hs => ?_
    have hread : FailsIn P (Markup.unescape s) :=
      Markup.failsIn_unescapeFrom 0 (arg_of_forall hempty h 0 s hs)
    infer_instance

end Function

end Stencil
