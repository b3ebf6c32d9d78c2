import Stencil.Calendar.Moment

namespace Stencil

/-! The order of years is the order of moments. -/

theorem Text.ofNat_injective {m n : Nat} (h : Text.ofNat m = Text.ofNat n) : m = n := by
  have hread : ∀ k, Nat.ofDigitChars 10 (Text.ofNat k) 0 = k := by
    intro k
    rw [Text.ofNat, Nat.toList_repr, Nat.ofDigitChars_ten_toDigits]
  rw [← hread m, h, hread]

namespace Date

variable {d e : Date}

def daysInYear (year : Nat) : Nat := if isLeap year then 366 else 365

/-- A year has a leap day for every fourth year, but not for a hundredth, but for a four hundredth. -/
theorem daysInYear_eq (year : Nat) :
    daysInYear year + (if year % 100 = 0 then 1 else 0) =
      365 + (if year % 4 = 0 then 1 else 0) + (if year % 400 = 0 then 1 else 0) := by
  have h100 : year % 100 = 0 → year % 4 = 0 := by omega
  have h400 : year % 400 = 0 → year % 100 = 0 := by omega
  unfold daysInYear isLeap
  simp only [Bool.and_eq_true, Bool.or_eq_true, beq_iff_eq, bne_iff_ne]
  grind

theorem daysBeforeYear_succ {year : Nat} (h : 1 ≤ year) :
    daysBeforeYear (year + 1) = daysBeforeYear year + daysInYear year := by
  obtain ⟨n, rfl⟩ := Nat.exists_eq_add_of_le' h
  have hleap := daysInYear_eq (n + 1)
  -- One quotient at a time: all three are too much for `omega` at once.
  have h4 : (n + 1) / 4 = n / 4 + if (n + 1) % 4 = 0 then 1 else 0 := by split <;> omega
  have h100 : (n + 1) / 100 = n / 100 + if (n + 1) % 100 = 0 then 1 else 0 := by split <;> omega
  have h400 : (n + 1) / 400 = n / 400 + if (n + 1) % 400 = 0 then 1 else 0 := by split <;> omega
  have hle : n / 100 ≤ n / 4 := by omega
  have hle' : (n + 1) / 100 ≤ (n + 1) / 4 := by omega
  unfold daysBeforeYear
  simp only [Nat.add_sub_cancel]
  omega

theorem daysBeforeYear_mono {year later : Nat} (h : 1 ≤ year) (hle : year ≤ later) :
    daysBeforeYear year ≤ daysBeforeYear later := by
  induction hle with
  | refl => exact Nat.le_refl _
  | step hle ih =>
      rw [daysBeforeYear_succ (Nat.le_trans h hle)]
      exact Nat.le_trans ih (Nat.le_add_right _ _)

def daysThrough (year months : Nat) : Nat :=
  (List.range months).foldl (fun days month => days + daysInMonth year (month + 1)) 0

theorem daysThrough_succ (year months : Nat) :
    daysThrough year (months + 1) = daysThrough year months + daysInMonth year (months + 1) := by
  rw [daysThrough, List.range_succ, List.foldl_append]
  rfl

theorem daysThrough_mono {year months more : Nat} (h : months ≤ more) :
    daysThrough year months ≤ daysThrough year more := by
  induction h with
  | refl => exact Nat.le_refl _
  | step _ ih =>
      rw [daysThrough_succ]
      exact Nat.le_trans ih (Nat.le_add_right _ _)

theorem daysThrough_twelve (year : Nat) : daysThrough year 12 = daysInYear year := by
  unfold daysInYear
  split
  · next hleap => simp [daysThrough, List.range_succ, daysInMonth, hleap]
  · next hleap => simp [daysThrough, List.range_succ, daysInMonth, hleap]

theorem dayOfYear_eq : d.dayOfYear = d.day + daysThrough d.year (d.month - 1) := by
  unfold dayOfYear daysThrough
  generalize d.month - 1 = months
  induction months with
  | zero => rfl
  | succ months ih =>
      rw [List.range_succ, List.foldl_append, List.foldl_append, ih]
      exact Nat.add_assoc _ _ _

theorem dayOfYear_bounds (h : d.isValid = true) :
    1 ≤ d.dayOfYear ∧ d.dayOfYear ≤ daysInYear d.year := by
  simp only [isValid, Bool.and_eq_true, decide_eq_true_eq] at h
  obtain ⟨⟨⟨⟨⟨-, -⟩, hmonth⟩, hmonth'⟩, hday⟩, hday'⟩ := h
  rw [dayOfYear_eq]
  refine ⟨Nat.le_trans hday (Nat.le_add_right _ _), ?_⟩
  have hpred : d.month = d.month - 1 + 1 := (Nat.sub_add_cancel hmonth).symm
  calc
    d.day + daysThrough d.year (d.month - 1)
        ≤ daysInMonth d.year d.month + daysThrough d.year (d.month - 1) :=
      Nat.add_le_add_right hday' _
    _ = daysThrough d.year d.month := by
      rw [Nat.add_comm, hpred, daysThrough_succ, ← hpred]
    _ ≤ daysThrough d.year 12 := daysThrough_mono hmonth'
    _ = daysInYear d.year := daysThrough_twelve d.year

theorem ordinal_lt (hd : d.isValid = true) (he : e.isValid = true) (h : d.year < e.year) :
    d.ordinal < e.ordinal := by
  have hyear : 1 ≤ d.year := by
    simp only [isValid, Bool.and_eq_true, decide_eq_true_eq] at hd
    exact hd.1.1.1.1.1
  have hlast := (dayOfYear_bounds hd).2
  have hfirst := (dayOfYear_bounds he).1
  have hyears := daysBeforeYear_mono (Nat.le_add_left 1 d.year) h
  rw [daysBeforeYear_succ hyear] at hyears
  unfold ordinal
  omega

end Date

namespace Moment

variable {m n : Moment}

theorem instant_bounds (h : m.isValid = true) (hnaive : m.offset = none) :
    (m.date.ordinal : Int) * 86400000000 ≤ m.instant ∧
      m.instant < ((m.date.ordinal : Int) + 1) * 86400000000 := by
  simp only [isValid, Bool.and_eq_true, decide_eq_true_eq] at h
  obtain ⟨⟨⟨⟨⟨-, hhour⟩, hminute⟩, hsecond⟩, hmicro⟩, -⟩ := h
  unfold instant clockSeconds
  rw [hnaive, Option.getD_none]
  omega

theorem isValid_date (h : m.isValid = true) : m.date.isValid = true := by
  simp only [isValid, Bool.and_eq_true] at h
  exact h.1.1.1.1.1

theorem year_le_of_instant_le (hm : m.isValid = true) (hn : n.isValid = true)
    (hmNaive : m.offset = none) (hnNaive : n.offset = none) (h : m.instant ≤ n.instant) :
    m.date.year ≤ n.date.year := by
  refine Nat.le_of_not_lt fun hlater => ?_
  have hordinal := Date.ordinal_lt (isValid_date hn) (isValid_date hm) hlater
  have hlower := (instant_bounds hm hmNaive).1
  have hupper := (instant_bounds hn hnNaive).2
  omega

end Moment

end Stencil
