import Mathlib.Data.List.Basic
import Stencil.Calendar.Reading
import Stencil.Proofs.Text.Numeral

namespace Stencil

namespace Text

/-! Digits that write a number. -/

/-- A text of decimal digits of any script, few enough to be read, and the number that it writes. -/
structure Denotes (s : Text) (n : Nat) : Prop where
  ne_nil : s ≠ []
  isDecimal : ∀ c ∈ s, isDecimal c = true
  length_le : s.length ≤ maxDigits
  value : s.foldl (fun m c => 10 * m + digit c) 0 = n

variable {s : Text} {m n : Nat} {i : Int}

theorem Denotes.unique (hm : Denotes s m) (hn : Denotes s n) : m = n :=
  hm.value.symm.trans hn.value

theorem Denotes.allDigits (h : Denotes s n) : allDigits s = true := by
  rw [Text.allDigits, Bool.and_eq_true, List.all_eq_true, Bool.not_eq_true',
    List.isEmpty_eq_false_iff]
  refine ⟨h.ne_nil, fun c hc => ?_⟩
  rw [isDigit, h.isDecimal c hc, Bool.true_or]

theorem loneDigitRanges_apart :
    (loneDigitRanges.all fun lone =>
      wideBlanks.all fun blank => Nat.blt lone.2 blank.1 || Nat.blt blank.2 lone.1) = true := by
  decide +kernel

/-- Digits without a place value stand in no number. -/
theorem plainNumber?_of_lone {c : Char} (hmem : c ∈ s) (hdigit : isDigit c = true)
    (hlone : isDecimal c = false) : plainNumber? s = none := by
  rw [isDigit, hlone, Bool.false_or, Bool.and_eq_true, decide_eq_true_eq] at hdigit
  have hblank : isBlank c = false := by
    cases h : isBlank c with
    | false => rfl
    | true =>
        rw [inRanges_eq_false_of_isBlank loneDigitRanges_apart h hdigit.1] at hdigit
        cases hdigit.2
  have hvalue : digitValue? c = none := by
    rwa [isDecimal, Option.isSome_eq_false_iff, Option.isNone_iff_eq_none] at hlone
  have hplain : (if c.toNat < 127 then some c else if isBlank c then some ' '
      else (digitValue? c).map fun n => Char.ofNat (48 + n)) = none := by
    rw [if_neg (by omega), hblank, if_neg Bool.false_ne_true, hvalue, Option.map_none]
  rw [plainNumber?, Option.map_eq_none_iff]
  obtain ⟨front, behind, rfl⟩ := List.append_of_mem hmem
  rw [List.mapM_append, List.mapM_cons, hplain]
  exact Option.bind_eq_none_iff.mpr fun _ _ => rfl

theorem toInt?_eq_some_iff (h : allDigits s = true) :
    toInt? s = some i ↔ ∃ n : Nat, Denotes s n ∧ i = n := by
  rw [allDigits, Bool.and_eq_true, List.all_eq_true, Bool.not_eq_true',
    List.isEmpty_eq_false_iff] at h
  by_cases hlone : ∃ c ∈ s, isDecimal c = false
  · obtain ⟨c, hmem, hlone⟩ := hlone
    have hnone : toInt? s = none := by
      rw [toInt?, plainNumber?_of_lone hmem (h.2 c hmem) hlone]
      rfl
    refine iff_of_false (by simp [hnone]) ?_
    rintro ⟨_, hn, -⟩
    rw [hn.isDecimal c hmem] at hlone
    cases hlone
  · have hdecimal : ∀ c ∈ s, isDecimal c = true := fun c hc =>
      Bool.not_eq_false _ ▸ fun hfalse => hlone ⟨c, hc, hfalse⟩
    have hread : toInt? s = if maxDigits < s.length then none
        else some ((s.foldl (fun m c => 10 * m + digit c) 0 : Nat) : Int) :=
      toInt?_signed false h.1 hdecimal
    rw [hread]
    split
    · next hlong =>
        refine iff_of_false (Option.some_ne_none i).symm ?_
        rintro ⟨_, hn, -⟩
        exact Nat.not_le.mpr hlong hn.length_le
    · next hshort =>
        rw [Option.some.injEq]
        constructor
        · rintro rfl
          exact ⟨_, ⟨h.1, hdecimal, Nat.le_of_not_lt hshort, rfl⟩, rfl⟩
        · rintro ⟨n, hn, rfl⟩
          exact congrArg Int.ofNat hn.value

end Text

namespace Moment

/-! The day that a name begins with. -/

/-- A name begins with three numbers between hyphens, whether or not they are a day. -/
def Begins (name : Text) (d : Date) : Prop :=
  ∃ year month day rest, Text.splitAt '-' name = year :: month :: day :: rest ∧
    Text.Denotes year d.year ∧ Text.Denotes month d.month ∧ Text.Denotes day d.day

def Overflows (d : Date) : Prop := ∃ n ∈ [d.year, d.month, d.day], 2147483647 < n

instance : DecidablePred Overflows := fun d =>
  inferInstanceAs (Decidable (∃ n ∈ [d.year, d.month, d.day], 2147483647 < n))

variable {name : Text} {d : Date}

theorem Begins.unique {d' : Date} (h : Begins name d) (h' : Begins name d') : d = d' := by
  obtain ⟨year, month, day, rest, hsplit, hyear, hmonth, hday⟩ := h
  obtain ⟨year', month', day', rest', hsplit', hyear', hmonth', hday'⟩ := h'
  obtain ⟨rfl, rfl, rfl, -⟩ : year = year' ∧ month = month' ∧ day = day' ∧ rest = rest' := by
    simpa using hsplit.symm.trans hsplit'
  cases d
  cases d'
  exact congr (congr (congrArg Date.mk (hyear.unique hyear')) (hmonth.unique hmonth'))
    (hday.unique hday')

theorem any_iff_overflows :
    [(d.year : Int), d.month, d.day].any (2147483647 < ·) = true ↔ Overflows d := by
  simp only [Overflows, List.any_cons, List.any_nil, Bool.or_false, Bool.or_eq_true,
    decide_eq_true_eq, List.mem_cons, List.not_mem_nil, or_false, exists_eq_or_imp,
    exists_eq_left]
  omega

theorem ofName_of_begins (h : Begins name d) :
    ofName name =
      if Overflows d then .error .overflow
      else .ok (if d.isValid then some (ofDate d) else none) := by
  obtain ⟨year, month, day, rest, hsplit, hyear, hmonth, hday⟩ := h
  have hread : ∀ {s n}, Text.Denotes s n → Text.toInt? s = some (n : Int) := fun hn =>
    (Text.toInt?_eq_some_iff hn.allDigits).mpr ⟨_, hn, rfl⟩
  have hparts : (Text.splitAt '-' name).take 3 = [year, month, day] := by
    rw [hsplit]
    rfl
  have hdigits : [year, month, day].all Text.allDigits = true := by
    simp [hyear.allDigits, hmonth.allDigits, hday.allDigits]
  have hnumbers : [year, month, day].map Text.toInt? =
      [some (d.year : Int), some (d.month : Int), some (d.day : Int)] := by
    simp [hread hyear, hread hmonth, hread hday]
  simp only [ofName, hparts, hdigits, hnumbers, any_iff_overflows, Date.of?, Int.toNat_natCast]
  have hday : (if d.isValid = true then some d else none).map ofDate =
      if d.isValid = true then some (ofDate d) else none := by
    split <;> rfl
  rw [← hday]
  rfl

theorem ofName_of_not_begins (h : ∀ d, ¬Begins name d) : ofName name = .ok none := by
  unfold ofName
  extract_lets parts
  split
  · next hdigits =>
      rw [Bool.and_eq_true, beq_iff_eq, List.all_eq_true] at hdigits
      split
      · next y m d hread =>
          exfalso
          obtain ⟨year, month, day, hparts⟩ := List.length_eq_three.mp hdigits.1
          rw [hparts] at hread hdigits
          simp only [List.map_cons, List.map_nil, List.cons.injEq, and_true] at hread
          obtain ⟨n, hyear, -⟩ := (Text.toInt?_eq_some_iff (hdigits.2 _ (by simp))).mp hread.1
          obtain ⟨k, hmonth, -⟩ := (Text.toInt?_eq_some_iff (hdigits.2 _ (by simp))).mp hread.2.1
          obtain ⟨l, hday, -⟩ := (Text.toInt?_eq_some_iff (hdigits.2 _ (by simp))).mp hread.2.2
          have hsplit := List.take_append_drop 3 (Text.splitAt '-' name)
          rw [show (Text.splitAt '-' name).take 3 = [year, month, day] from hparts] at hsplit
          exact h ⟨n, k, l⟩ ⟨year, month, day, _, hsplit.symm, hyear, hmonth, hday⟩
      · rfl
  · rfl

theorem daysInMonth_le (year month : Nat) : Date.daysInMonth year month ≤ 31 := by
  unfold Date.daysInMonth
  split
  · split <;> decide
  · split <;> decide

theorem Overflows.isValid_eq_false (h : Overflows d) : d.isValid = false := by
  obtain ⟨n, hmem, hn⟩ := h
  have hdays := daysInMonth_le d.year d.month
  rw [← Bool.not_eq_true]
  intro hvalid
  simp only [Date.isValid, Bool.and_eq_true, decide_eq_true_eq] at hvalid
  simp only [List.mem_cons, List.not_mem_nil, or_false] at hmem
  omega

/-- A name gives the day that it begins with, or nothing. Only numbers beyond the machine integers
are not passed over. -/
theorem ofName_outcome (name : Text) :
    (∀ t, ofName name = .ok (some t) ↔
      ∃ d, Begins name d ∧ d.isValid = true ∧ t = ofDate d) ∧
    (ofName name = .ok none ↔ ∀ d, Begins name d → d.isValid = false ∧ ¬Overflows d) ∧
    ∀ e, ofName name = .error e ↔ e = .overflow ∧ ∃ d, Begins name d ∧ Overflows d := by
  by_cases h : ∃ d, Begins name d
  · obtain ⟨d, hd⟩ := h
    have honly : ∀ {p : Date → Prop}, (∃ d', Begins name d' ∧ p d') ↔ p d :=
      ⟨fun ⟨d', hd', hp⟩ => hd.unique hd' ▸ hp, fun hp => ⟨d, hd, hp⟩⟩
    have hall : ∀ {p : Date → Prop}, (∀ d', Begins name d' → p d') ↔ p d :=
      ⟨fun hp => hp d hd, fun hp d' hd' => hd.unique hd' ▸ hp⟩
    rw [ofName_of_begins hd, honly, hall]
    simp only [honly]
    by_cases hover : Overflows d
    · simp [hover, hover.isValid_eq_false, eq_comm]
    · cases hvalid : d.isValid <;> simp [hover, eq_comm]
  · rw [ofName_of_not_begins (not_exists.mp h)]
    simp [not_exists.mp h]

end Moment

end Stencil
