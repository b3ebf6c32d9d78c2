import Stencil.Proofs.Filter.Kept
import Stencil.Proofs.Number.Amounts
import Stencil.Proofs.Value.Order

namespace Stencil

/-! A list is sorted by amount if it has numbers only, and otherwise by text. -/

namespace Value

def IsNumeric : Value → Prop
  | .int _ => True
  | .float _ => True
  | _ => False

def numericAmount : Value → WithBot (WithTop ℚ)
  | .int i => Number.amount (.int i)
  | .float f => Number.amount (.float f)
  | _ => ⊥

/-- The text that a value is known by: the title or name of a content object, and what is written
for any other value. -/
def KnownAs (v : Value) (t : Text) : Prop :=
  match v.representative? with
  | some name => t = name
  | none => v.format = .ok t

end Value

namespace Filter

variable {items : List Value}

inductive Sorting (items sorted : List Value) : Prop
  | numbers (hall : ∀ v ∈ items, v.IsNumeric) (hsorted : SortedBy Value.numericAmount items sorted)
  | texts (hsome : ∃ v ∈ items, ¬v.IsNumeric) (key : Value → Text)
      (hkey : ∀ v ∈ items, v.KnownAs (key v)) (hsorted : SortedBy key items sorted)

theorem sortNumber?_of_isNumeric {v : Value} (h : v.IsNumeric)
    (hnumber : ∀ f, v = .float f → f.isNaN = false) :
    ∃ n : Number, sortNumber? v = some n ∧ n.IsNumber ∧ v.numericAmount = n.amount := by
  cases v with
  | int i => exact ⟨.int i, rfl, trivial, rfl⟩
  | float f => exact ⟨.float f, rfl, hnumber f rfl, rfl⟩
  | _ => cases h

theorem sortNumber?_of_not_isNumeric {v : Value} (h : ¬v.IsNumeric) : sortNumber? v = none := by
  cases v with
  | int i => exact absurd trivial h
  | float f => exact absurd trivial h
  | _ => rfl

theorem sorted_numbers (hall : ∀ v ∈ items, v.IsNumeric)
    (hnumbers : ∀ f, Value.float f ∈ items → f.isNaN = false) :
    sorted items = .ok (items.mergeSort (byKey Value.numericAmount)) := by
  have hnumber : ∀ v, v ∈ items →
      ∃ n : Number, sortNumber? v = some n ∧ n.IsNumber ∧ v.numericAmount = n.amount :=
    fun v hv => sortNumber?_of_isNumeric (hall v hv) fun f heq => hnumbers f (heq ▸ hv)
  have : Nonempty Number := ⟨.int 0⟩
  choose! number hsome hisNumber hamount using hnumber
  have hpairs : (items.map number).zip items = items.map fun v => (number v, v) := by
    rw [← List.zip_map', List.map_id']
  unfold sorted
  rw [mapM_eq_some_map hsome]
  dsimp only
  rw [hpairs]
  apply congrArg Except.ok
  refine map_mergeSort_pairs (fun m n : Number => !n.lt m) fun v hv w hw => ?_
  rw [Bool.eq_iff_iff, byKey, decide_eq_true_eq, hamount v hv, hamount w hw, ← not_lt,
    ← Number.lt_iff (hisNumber w hw) (hisNumber v hv), Bool.not_eq_true', Bool.not_eq_true]

theorem format_of_representative? {v : Value} {name : Text} (h : v.representative? = some name) :
    v.format = .ok name := by
  have hobject : v.isObject = true := by
    cases v <;> first | rfl | cases h
  rw [Value.format_of_isObject hobject, h, Option.getD_some]

theorem knownAs_of_sortText {v : Value} {t : Text} (h : sortText v = .ok t) : v.KnownAs t := by
  unfold sortText at h
  unfold Value.KnownAs
  cases hname : v.representative? with
  | none =>
      rw [hname] at h
      exact h
  | some name =>
      rw [hname, format_of_representative? hname] at h
      dsimp only at h
      rw [ite_self] at h
      cases h
      rfl

theorem byKey_texts (key : Value → Text) (v w : Value) :
    Text.le (key v) (key w) = byKey key v w := by
  rw [Bool.eq_iff_iff, Text.le_iff, byKey, decide_eq_true_eq]
  exact not_lt

theorem sorted_texts {key : Value → Text} (hsome : ∃ v ∈ items, ¬v.IsNumeric)
    (hkey : ∀ v ∈ items, sortText v = .ok (key v)) :
    sorted items = .ok (items.mergeSort (byKey key)) := by
  obtain ⟨v, hv, hother⟩ := hsome
  have hpairs : (items.mapM fun v => do return (← sortText v, v)) =
      .ok (items.map fun v => (key v, v)) := by
    refine mapM_eq_map fun v hv => ?_
    rw [hkey v hv]
    rfl
  unfold sorted
  rw [mapM_eq_none ⟨v, hv, sortNumber?_of_not_isNumeric hother⟩]
  dsimp only
  rw [hpairs]
  exact congrArg Except.ok (map_mergeSort_pairs Text.le fun v _ w _ => byKey_texts key v w)

theorem exists_sorted (hlegible : ∀ v ∈ items, v.Legible)
    (hnumbers : ∀ f, Value.float f ∈ items → f.isNaN = false) :
    ∃ result, sorted items = .ok result ∧ Sorting items result ∧ sorted result = .ok result := by
  by_cases hsome : ∃ v ∈ items, ¬v.IsNumeric
  · have htext : ∀ v, v ∈ items → ∃ t, sortText v = .ok t := fun v hv =>
      (Yields.of_failsIn (failsIn_sortText (hlegible v hv))).exists_ok.imp fun _ h => h.1
    choose! key hkey using htext
    have hsorted := sortedBy_mergeSort key items
    refine ⟨_, sorted_texts hsome hkey,
      .texts hsome key (fun v hv => knownAs_of_sortText (hkey v hv)) hsorted, ?_⟩
    obtain ⟨v, hv, hother⟩ := hsome
    rw [sorted_texts ⟨v, hsorted.perm.mem_iff.mpr hv, hother⟩
      fun v hv => hkey v (hsorted.perm.mem_iff.mp hv), hsorted.mergeSort_eq]
  · have hall : ∀ v ∈ items, v.IsNumeric :=
      fun v hv => Classical.not_not.mp fun h => hsome ⟨v, hv, h⟩
    have hsorted := sortedBy_mergeSort Value.numericAmount items
    refine ⟨_, sorted_numbers hall hnumbers, .numbers hall hsorted, ?_⟩
    rw [sorted_numbers (fun v hv => hall v (hsorted.perm.mem_iff.mp hv))
      fun f hf => hnumbers f (hsorted.perm.mem_iff.mp hf), hsorted.mergeSort_eq]

/-- Sorting leaves alone what is no sequence. The elements of a sequence are put in order, and
sorting again changes nothing. -/
theorem sort_run (v : Value) :
    (v.sequence? = none → sort.run [] v = .ok v) ∧
      ∀ items, v.sequence? = some items → (∀ item ∈ items, item.Legible) →
        (∀ f, Value.float f ∈ items → f.isNaN = false) →
        ∃ result, sort.run [] v = .ok (.list result) ∧ Sorting items result ∧
          sort.run [] (.list result) = .ok (.list result) := by
  unfold sort plain
  dsimp only
  constructor
  · intro hnone
    rw [hnone]
  · intro items hitems hlegible hnumbers
    obtain ⟨result, hresult, hsorting, hagain⟩ := exists_sorted hlegible hnumbers
    refine ⟨result, ?_, hsorting, ?_⟩
    · rw [hitems]
      dsimp only
      rw [hresult]
      rfl
    · rw [Value.sequence?]
      dsimp only
      rw [hagain]
      rfl

theorem sort_run_mixed :
    ∃ result, sort.run [] (.list [.text ['b'], .int 10, .float 2.5]) = .ok (.list result) ∧
      Sorting [.text ['b'], .int 10, .float 2.5] result ∧
      sort.run [] (.list result) = .ok (.list result) := by
  refine (sort_run _).2 _ rfl ?_ ?_
  · simp only [List.forall_mem_cons]
    exact ⟨.text _, .int _ (by decide +kernel), .float _, List.forall_mem_nil _⟩
  · intro f hf
    have heq : f = 2.5 := by simpa using hf
    rw [heq]
    decide +kernel

end Filter

end Stencil
