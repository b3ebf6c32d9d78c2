import Mathlib.Order.Monotone.Basic
import Stencil.Number.Reading
import Stencil.Proofs.Number.Places
import Stencil.Proofs.Number.Rounding

namespace Stencil

/-! The float nearest to a whole number. -/

theorem roundHalfEven_one (n : Nat) : roundHalfEven n 1 = n := by
  simp [roundHalfEven, Nat.mod_one]

theorem le_roundHalfEven {num den bound : Nat} (hden : 0 < den) (h : bound * den ≤ num) :
    bound ≤ roundHalfEven num den := by
  have hquotient : bound ≤ num / den := (Nat.le_div_iff_mul_le hden).mpr h
  unfold roundHalfEven
  dsimp only
  split_ifs <;> omega

theorem roundHalfEven_mono {den : Nat} (hden : 0 < den) : Monotone (roundHalfEven · den) := by
  intro m n h
  dsimp only
  rcases (Nat.div_le_div_right h : m / den ≤ n / den).lt_or_eq with hlt | heq
  · calc roundHalfEven m den ≤ m / den + 1 :=
          roundHalfEven_le (by rw [Nat.mul_comm]; exact Nat.lt_mul_div_succ m hden)
      _ ≤ n / den := hlt
      _ ≤ roundHalfEven n den := le_roundHalfEven hden (Nat.div_mul_le_self n den)
  · have hm := Nat.div_add_mod m den
    have hn := Nat.div_add_mod n den
    have hrest : m % den ≤ n % den := by
      rw [heq] at hm
      omega
    unfold roundHalfEven
    dsimp only
    rw [heq]
    split_ifs <;> omega

theorem roundHalfEven_dist {n unit : Nat} (hunit : 0 < unit) (j : Nat) :
    (n - (roundHalfEven n unit * unit : Nat) : Int).natAbs ≤
      (n - (j * unit : Nat) : Int).natAbs := by
  have hdiv := Nat.div_add_mod' n unit
  have hmod := Nat.mod_lt n hunit
  have hround : roundHalfEven n unit * unit = n / unit * unit ∧ 2 * (n % unit) ≤ unit ∨
      roundHalfEven n unit * unit = n / unit * unit + unit ∧ unit ≤ 2 * (n % unit) := by
    rw [← Nat.succ_mul]
    unfold roundHalfEven
    dsimp only
    split_ifs
    · exact .inl ⟨rfl, by omega⟩
    · exact .inr ⟨rfl, by omega⟩
    · exact .inl ⟨rfl, by omega⟩
    · exact .inr ⟨rfl, by omega⟩
  have hside : j * unit ≤ n / unit * unit ∨ n / unit * unit + unit ≤ j * unit := by
    rw [← Nat.succ_mul]
    exact (Nat.lt_or_ge (n / unit) j).symm.imp (Nat.mul_le_mul_right unit)
      (Nat.mul_le_mul_right unit)
  generalize n / unit * unit = below at *
  generalize j * unit = other at *
  omega

theorem log2_mono : Monotone Nat.log2 := by
  intro m n h
  rcases Nat.eq_zero_or_pos m with rfl | hm
  · exact Nat.zero_le _
  · exact (Nat.le_log2 (hm.trans_le h).ne').mpr ((Nat.log2_self_le hm.ne').trans h)

/-- The nearest whole number that has 53 bits in front of its zeros, a half to the even one. -/
def nearest (n : Nat) : Nat :=
  roundHalfEven n (2 ^ (n.log2 - 52)) * 2 ^ (n.log2 - 52)

/-- The 53 bits in front, with one more where rounding carries over. -/
def significand (n : Nat) : Nat :=
  roundHalfEven (n * 2 ^ (52 - n.log2)) (2 ^ (n.log2 - 52))

section

variable {m n : Nat}

theorem shifted_bounds (hn : n ≠ 0) (k : Nat) :
    2 ^ k * 2 ^ (n.log2 - k) ≤ n * 2 ^ (k - n.log2) ∧
      n * 2 ^ (k - n.log2) < 2 ^ (k + 1) * 2 ^ (n.log2 - k) := by
  have hlow : 2 ^ n.log2 ≤ n := Nat.log2_self_le hn
  have hhigh : n < 2 ^ (n.log2 + 1) := Nat.lt_log2_self
  rcases Nat.le_total k n.log2 with h | h
  · rw [Nat.sub_eq_zero_of_le h, Nat.pow_zero, Nat.mul_one, ← Nat.pow_add, ← Nat.pow_add,
      Nat.add_sub_cancel' h, Nat.add_right_comm, Nat.add_sub_cancel' h]
    exact ⟨hlow, hhigh⟩
  · rw [Nat.sub_eq_zero_of_le h, Nat.pow_zero, Nat.mul_one, Nat.mul_one]
    constructor
    · calc 2 ^ k = 2 ^ n.log2 * 2 ^ (k - n.log2) := by rw [← Nat.pow_add, Nat.add_sub_cancel' h]
        _ ≤ n * 2 ^ (k - n.log2) := Nat.mul_le_mul_right _ hlow
    · calc n * 2 ^ (k - n.log2) < 2 ^ (n.log2 + 1) * 2 ^ (k - n.log2) :=
            Nat.mul_lt_mul_of_pos_right hhigh (Nat.two_pow_pos _)
        _ = 2 ^ (k + 1) := by rw [← Nat.pow_add]; congr 1; omega

theorem significand_bounds (hn : n ≠ 0) :
    2 ^ 52 ≤ significand n ∧ significand n ≤ 2 ^ 53 := by
  obtain ⟨hlow, hhigh⟩ := shifted_bounds hn 52
  exact ⟨le_roundHalfEven (Nat.two_pow_pos _) hlow, roundHalfEven_le hhigh⟩

theorem nearest_eq_self_of_log2_le (h : n.log2 ≤ 52) : nearest n = n := by
  rw [nearest, Nat.sub_eq_zero_of_le h, Nat.pow_zero, Nat.mul_one, roundHalfEven_one]

theorem nearest_eq_significand_mul (h : 52 ≤ n.log2) :
    nearest n = significand n * 2 ^ (n.log2 - 52) := by
  rw [significand, Nat.sub_eq_zero_of_le h, Nat.pow_zero, Nat.mul_one]
  rfl

theorem significand_mul (n : Nat) : significand n * 2 ^ n.log2 = nearest n * 2 ^ 52 := by
  rcases Nat.le_total n.log2 52 with h | h
  · rw [nearest_eq_self_of_log2_le h, significand, Nat.sub_eq_zero_of_le h, Nat.pow_zero,
      roundHalfEven_one, Nat.mul_assoc, ← Nat.pow_add, Nat.sub_add_cancel h]
  · rw [nearest_eq_significand_mul h, Nat.mul_assoc, ← Nat.pow_add, Nat.sub_add_cancel h]

theorem two_pow_le_nearest (hn : n ≠ 0) : 2 ^ n.log2 ≤ nearest n := by
  apply Nat.le_of_mul_le_mul_right (c := 2 ^ 52) _ (Nat.two_pow_pos 52)
  rw [← significand_mul, Nat.mul_comm]
  exact Nat.mul_le_mul_right _ (significand_bounds hn).1

theorem nearest_le_two_pow (hn : n ≠ 0) : nearest n ≤ 2 ^ (n.log2 + 1) := by
  apply Nat.le_of_mul_le_mul_right (c := 2 ^ 52) _ (Nat.two_pow_pos 52)
  calc nearest n * 2 ^ 52 = significand n * 2 ^ n.log2 := (significand_mul n).symm
    _ ≤ 2 ^ 53 * 2 ^ n.log2 := Nat.mul_le_mul_right _ (significand_bounds hn).2
    _ = 2 ^ (n.log2 + 1) * 2 ^ 52 := by rw [← Nat.pow_add, ← Nat.pow_add]; congr 1; omega

theorem nearest_mono : Monotone nearest := by
  intro m n h
  rcases Nat.eq_zero_or_pos m with rfl | hm
  · exact Nat.zero_le _
  rcases (log2_mono h).lt_or_eq with hlt | heq
  · calc nearest m ≤ 2 ^ (m.log2 + 1) := nearest_le_two_pow hm.ne'
      _ ≤ 2 ^ n.log2 := Nat.pow_le_pow_right Nat.two_pos hlt
      _ ≤ nearest n := two_pow_le_nearest (hm.trans_le h).ne'
  · unfold nearest
    rw [heq]
    exact Nat.mul_le_mul_right _ (roundHalfEven_mono (Nat.two_pow_pos _) h)

theorem nearest_eq_self (h : n ≤ 2 ^ 53) : nearest n = n := by
  rcases h.lt_or_eq with hlt | rfl
  · exact nearest_eq_self_of_log2_le
      (Nat.lt_succ_iff.mp (log2_lt_of_lt_two_pow (by decide) hlt))
  · decide +kernel

/-- No whole number with at most 53 bits in front of its zeros is nearer. -/
theorem nearest_dist (n : Nat) {m k : Nat} (hm : m ≤ 2 ^ 53) :
    (n - nearest n : Int).natAbs ≤ (n - (m * 2 ^ k : Nat) : Int).natAbs := by
  rcases Nat.le_total n.log2 52 with h | h
  · rw [nearest_eq_self_of_log2_le h, sub_self]
    exact Nat.zero_le _
  · have hround : ∀ j : Nat, (n - nearest n : Int).natAbs ≤
        (n - (j * 2 ^ (n.log2 - 52) : Nat) : Int).natAbs := by
      intro j
      exact roundHalfEven_dist (Nat.two_pow_pos _) j
    rcases Nat.lt_or_ge k (n.log2 - 52) with hlt | hge
    · -- a smaller unit leaves at most the power of two that `n` begins with
      have hn : n ≠ 0 := by
        rintro rfl
        cases h
      have hlow : 2 ^ n.log2 ≤ n := Nat.log2_self_le hn
      have hbelow : m * 2 ^ k ≤ 2 ^ n.log2 :=
        calc m * 2 ^ k ≤ 2 ^ 53 * 2 ^ k := Nat.mul_le_mul_right _ hm
          _ = 2 ^ (53 + k) := (Nat.pow_add 2 53 k).symm
          _ ≤ 2 ^ n.log2 := Nat.pow_le_pow_right Nat.two_pos (by omega)
      have hpower := hround (2 ^ 52)
      rw [← Nat.pow_add, Nat.add_sub_cancel' h] at hpower
      omega
    · have hunit : m * 2 ^ k = m * 2 ^ (k - (n.log2 - 52)) * 2 ^ (n.log2 - 52) := by
        rw [Nat.mul_assoc, ← Nat.pow_add, Nat.sub_add_cancel hge]
      rw [hunit]
      exact hround _

/-! The bits of the float nearest to a whole number. -/

/-- Sign apart, the bits of the float nearest to a positive whole number. -/
def pattern (n : Nat) : Nat := significand n + (n.log2 + 1022) * 2 ^ 52

theorem roundRatio?_of_ne_zero (negative : Bool) (hn : n ≠ 0) :
    roundRatio? negative n 1 =
      if Binary64.infinite ≤ pattern n then none
      else
        let f := Float.ofBits (.ofNat (pattern n))
        some (if negative then -f else f) := by
  unfold roundRatio?
  rw [if_neg (by simpa using hn)]
  extract_lets shift bits unit front bitsOf f
  have hshift : shift = 54 - (n.log2 : Int) := by
    change 54 - ((n.log2 : Int) - (Nat.log2 1 : Int)) = _
    rw [show Nat.log2 1 = 0 from rfl, Nat.cast_zero, sub_zero]
  have hquotient : (n * 2 ^ shift.toNat / (1 * 2 ^ (-shift).toNat)).log2 = 54 := by
    obtain ⟨hlow, hhigh⟩ := shifted_bounds hn 54
    have hleft : shift.toNat = 54 - n.log2 := by omega
    have hright : (-shift).toNat = n.log2 - 54 := by omega
    rw [hleft, hright, Nat.one_mul, Nat.log2_eq_iff]
    · exact ⟨(Nat.le_div_iff_mul_le (Nat.two_pow_pos _)).mpr hlow,
        (Nat.div_lt_iff_lt_mul (Nat.two_pow_pos _)).mpr hhigh⟩
    · intro hzero
      rw [Nat.div_eq_zero_iff] at hzero
      omega
  have hbits : bits = 55 := congrArg (· + 1) hquotient
  have hunit : unit = (n.log2 : Int) - 52 := by omega
  have hfront : front = significand n := by
    have hleft : (-unit).toNat = 52 - n.log2 := by omega
    have hright : unit.toNat = n.log2 - 52 := by omega
    change roundHalfEven (n * 2 ^ (-unit).toNat) (1 * 2 ^ unit.toNat) = _
    rw [hleft, hright, Nat.one_mul]
    rfl
  have hpattern : bitsOf = pattern n := by
    have hplace : (unit + 1074).toNat = n.log2 + 1022 := by omega
    change front + (unit + 1074).toNat * 2 ^ 52 = _
    rw [hfront, hplace]
    rfl
  change (if Binary64.infinite ≤ bitsOf then none
    else let f := Float.ofBits (.ofNat bitsOf); some (if negative then -f else f)) = _
  rw [hpattern]

/-! Bit patterns of whole numbers stand in the order of the nearest numbers. -/

/-- The number with the bits `q` behind those of one, in units of its last place. -/
def amountOf (q : Nat) : Nat := (2 ^ 52 + q % 2 ^ 52) * 2 ^ (q / 2 ^ 52)

theorem amountOf_strictMono : StrictMono amountOf := by
  apply strictMono_nat_of_lt_succ
  intro q
  unfold amountOf
  by_cases hcarry : q % 2 ^ 52 + 1 = 2 ^ 52
  · have hquotient : (q + 1) / 2 ^ 52 = q / 2 ^ 52 + 1 := by omega
    have hrest : (q + 1) % 2 ^ 52 = 0 := by omega
    rw [hquotient, hrest, Nat.pow_succ' (n := q / 2 ^ 52), ← Nat.mul_assoc]
    exact Nat.mul_lt_mul_of_pos_right (by omega) (Nat.two_pow_pos _)
  · have hquotient : (q + 1) / 2 ^ 52 = q / 2 ^ 52 := by omega
    have hrest : (q + 1) % 2 ^ 52 = q % 2 ^ 52 + 1 := by omega
    rw [hquotient, hrest]
    exact Nat.mul_lt_mul_of_pos_right (by omega) (Nat.two_pow_pos _)

theorem amountOf_front {s : Nat} (hlow : 2 ^ 52 ≤ s) (hhigh : s ≤ 2 ^ 53) (k : Nat) :
    amountOf (s - 2 ^ 52 + k * 2 ^ 52) = s * 2 ^ k := by
  unfold amountOf
  rcases hhigh.lt_or_eq with hlt | rfl
  · have hquotient : (s - 2 ^ 52 + k * 2 ^ 52) / 2 ^ 52 = k := by omega
    have hrest : (s - 2 ^ 52 + k * 2 ^ 52) % 2 ^ 52 = s - 2 ^ 52 := by omega
    rw [hquotient, hrest, Nat.add_sub_cancel' hlow]
  · have hquotient : (2 ^ 53 - 2 ^ 52 + k * 2 ^ 52) / 2 ^ 52 = k + 1 := by omega
    have hrest : (2 ^ 53 - 2 ^ 52 + k * 2 ^ 52) % 2 ^ 52 = 0 := by omega
    rw [hquotient, hrest, Nat.pow_succ' (n := k), ← Nat.mul_assoc]
    rfl

theorem pattern_ge (hn : n ≠ 0) : 1023 * 2 ^ 52 ≤ pattern n := by
  have hlow := (significand_bounds hn).1
  unfold pattern
  omega

theorem amountOf_pattern (hn : n ≠ 0) :
    amountOf (pattern n - 1023 * 2 ^ 52) = nearest n * 2 ^ 52 := by
  obtain ⟨hlow, hhigh⟩ := significand_bounds hn
  have hbehind : pattern n - 1023 * 2 ^ 52 = significand n - 2 ^ 52 + n.log2 * 2 ^ 52 := by
    unfold pattern
    omega
  rw [hbehind, amountOf_front hlow hhigh, significand_mul]

theorem amountOf_infinite :
    amountOf (Binary64.infinite - 1023 * 2 ^ 52) = 2 ^ 1024 * 2 ^ 52 := by
  decide +kernel

def standing (n : Nat) : Nat := if n = 0 then 0 else min (pattern n) Binary64.infinite

/-- The amount that a float gives for a whole number: the nearest one, and none beyond the least
power of two that no float reaches. -/
def reach (n : Nat) : Nat := min (nearest n) (2 ^ 1024)

theorem amountOf_standing (hn : n ≠ 0) :
    amountOf (standing n - 1023 * 2 ^ 52) = reach n * 2 ^ 52 := by
  have hmin : standing n - 1023 * 2 ^ 52 =
      min (pattern n - 1023 * 2 ^ 52) (Binary64.infinite - 1023 * 2 ^ 52) := by
    rw [standing, if_neg hn]
    omega
  rw [hmin, amountOf_strictMono.monotone.map_min, amountOf_pattern hn, amountOf_infinite, reach,
    Nat.mul_min_mul_right]

theorem standing_bounds (hn : n ≠ 0) :
    1023 * 2 ^ 52 ≤ standing n ∧ standing n ≤ Binary64.infinite := by
  have hge := pattern_ge hn
  rw [standing, if_neg hn]
  unfold Binary64.infinite
  omega

theorem reach_pos (hn : n ≠ 0) : 0 < reach n :=
  Nat.lt_min.mpr
    ⟨(Nat.two_pow_pos _).trans_le (two_pow_le_nearest hn), pow_pos Nat.two_pos 1024⟩

theorem standing_lt_iff : standing m < standing n ↔ reach m < reach n := by
  have hreach : reach 0 = 0 := Nat.zero_min _
  have hstanding : standing 0 = 0 := rfl
  rcases eq_or_ne n 0 with rfl | hn
  · rw [hreach, hstanding]
    exact iff_of_false (Nat.not_lt_zero _) (Nat.not_lt_zero _)
  rcases eq_or_ne m 0 with rfl | hm
  · rw [hreach, hstanding]
    exact iff_of_true (by have := (standing_bounds hn).1; omega) (reach_pos hn)
  have hfromm := (standing_bounds hm).1
  have hfromn := (standing_bounds hn).1
  calc standing m < standing n
      ↔ standing m - 1023 * 2 ^ 52 < standing n - 1023 * 2 ^ 52 := by omega
    _ ↔ reach m * 2 ^ 52 < reach n * 2 ^ 52 := by
        rw [← amountOf_strictMono.lt_iff_lt, amountOf_standing hm, amountOf_standing hn]
    _ ↔ reach m < reach n := Nat.mul_lt_mul_right (Nat.two_pow_pos _)

end

/-! Whole numbers as floats. -/

/-- The amount that the float nearest to an integer stands for; with a magnitude of `2 ^ 1024`
the float is infinite. -/
def floatAmount (i : Int) : Int := Dyadic.signed (i < 0) (reach i.natAbs)

def floatPlace (i : Int) : Int := Dyadic.signed (i < 0) (standing i.natAbs)

theorem signed_natAbs (i : Int) : Dyadic.signed (i < 0) i.natAbs = i := by
  unfold Dyadic.signed
  split_ifs <;> simp only [decide_eq_true_eq] at * <;> omega

theorem signed_lt_iff {f g : Nat → Nat} (h : ∀ m n, f m < f n ↔ g m < g n) (hf : f 0 = 0)
    (hg : g 0 = 0) (negative negative' : Bool) (m n : Nat) :
    Dyadic.signed negative (f m) < Dyadic.signed negative' (f n) ↔
      Dyadic.signed negative (g m) < Dyadic.signed negative' (g n) := by
  have hlt := h m n
  have hgt := h n m
  have hm := h 0 m
  have hn := h 0 n
  rw [hf, hg] at hm hn
  unfold Dyadic.signed
  split_ifs <;> omega

theorem floatPlace_lt_iff (i j : Int) :
    floatPlace i < floatPlace j ↔ floatAmount i < floatAmount j := by
  apply signed_lt_iff
  · exact fun _ _ => standing_lt_iff
  · rfl
  · exact Nat.zero_min _

theorem reach_mono : Monotone reach :=
  fun _ _ h => min_le_min_right _ (nearest_mono h)

theorem floatAmount_mono : Monotone floatAmount := by
  intro i j h
  unfold floatAmount Dyadic.signed
  have hle := @reach_mono i.natAbs j.natAbs
  have hge := @reach_mono j.natAbs i.natAbs
  split_ifs <;> simp only [decide_eq_true_eq] at * <;> omega

theorem floatAmount_eq_self {i : Int} (h : i.natAbs ≤ 2 ^ 53) : floatAmount i = i := by
  have hreach : reach i.natAbs = i.natAbs := by
    rw [reach, nearest_eq_self h]
    exact min_eq_left (h.trans (pow_le_pow_right₀ one_le_two (by decide)))
  rw [floatAmount, hreach, signed_natAbs]

/-- An integer with at most 53 bits in front of its zeros. -/
def FewBits (i : Int) : Prop := ∃ m k : Nat, m ≤ 2 ^ 53 ∧ i.natAbs = m * 2 ^ k

theorem natAbs_floatAmount (i : Int) : (floatAmount i).natAbs = reach i.natAbs := by
  unfold floatAmount Dyadic.signed
  split_ifs
  · rw [Int.natAbs_neg, Int.natAbs_natCast]
  · rw [Int.natAbs_natCast]

theorem exists_nearest_eq_mul (n : Nat) : ∃ m k, m ≤ 2 ^ 53 ∧ nearest n = m * 2 ^ k := by
  rcases Nat.le_total n.log2 52 with h | h
  · have hlt : n < 2 ^ (n.log2 + 1) := Nat.lt_log2_self
    refine ⟨n, 0, ?_, ?_⟩
    · exact hlt.le.trans (Nat.pow_le_pow_right Nat.two_pos (Nat.succ_le_succ h))
    · rw [nearest_eq_self_of_log2_le h, Nat.pow_zero, Nat.mul_one]
  · have hn : n ≠ 0 := by
      rintro rfl
      cases h
    exact ⟨significand n, n.log2 - 52, (significand_bounds hn).2, nearest_eq_significand_mul h⟩

theorem fewBits_floatAmount (i : Int) : FewBits (floatAmount i) := by
  unfold FewBits
  rw [natAbs_floatAmount, reach]
  rcases min_choice (nearest i.natAbs) (2 ^ 1024) with heq | heq
  · rw [heq]
    exact exists_nearest_eq_mul _
  · rw [heq]
    exact ⟨1, 1024, Nat.one_le_two_pow, (Nat.one_mul _).symm⟩

/-- An integer with few bits, and none of these is nearer to `i`. -/
def IsNearest (x i : Int) : Prop :=
  FewBits x ∧ ∀ c, FewBits c → (i - x).natAbs ≤ (i - c).natAbs

theorem isNearest_floatAmount {i : Int} (h : (floatAmount i).natAbs < 2 ^ 1024) :
    IsNearest (floatAmount i) i := by
  refine ⟨fewBits_floatAmount i, ?_⟩
  rintro c ⟨m, k, hm, hc⟩
  have hreach : reach i.natAbs = nearest i.natAbs := by
    rw [natAbs_floatAmount] at h
    exact min_eq_left ((min_lt_iff.mp h).resolve_right (lt_irrefl _)).le
  have hdist := nearest_dist i.natAbs hm (k := k)
  have hzero := nearest_dist i.natAbs (Nat.zero_le _) (k := 0)
  rw [← hc] at hdist
  rw [Nat.zero_mul] at hzero
  unfold floatAmount Dyadic.signed
  rw [hreach]
  split_ifs <;> simp only [decide_eq_true_eq] at * <;> omega

theorem le_of_lt_length_repr {n k : Nat} (hk : 0 < k) (h : k < (Nat.repr n).length) :
    10 ^ k ≤ n := by
  rw [← Nat.not_lt, ← Nat.length_repr_le_iff hk]
  exact Nat.not_le.mpr h

theorem infinite_le_pattern {n : Nat} (h : 400 < (Nat.repr n).length) :
    Binary64.infinite ≤ pattern n := by
  have hle : 10 ^ 400 ≤ n := le_of_lt_length_repr (by decide) h
  have hlog : 1024 ≤ n.log2 :=
    calc 1024 ≤ (10 ^ 400).log2 := by decide +kernel
      _ ≤ n.log2 := log2_mono hle
  have hn : n ≠ 0 := by
    rintro rfl
    cases hlog
  have hlow := (significand_bounds hn).1
  unfold pattern Binary64.infinite
  omega

namespace Binary64.StandsAt

theorem withSign {f : Float} {n : Nat} (h : StandsAt f n) (negative : Bool) :
    StandsAt (if negative then -f else f) (Dyadic.signed negative n) := by
  cases negative with
  | false => exact h
  | true => exact h.neg

theorem floatOfDecimal (negative : Bool) (n : Nat) :
    StandsAt (Text.floatOfDecimal negative n 0) (Dyadic.signed negative (standing n)) := by
  have hinfinite := infinity.withSign negative
  unfold Text.floatOfDecimal
  extract_lets size infinite
  by_cases hn : n = 0
  · subst hn
    exact zero.withSign negative
  · have hsize : size = (Nat.repr n).length := Int.add_zero _
    have hsmall : (n == 0 || decide (size < -400)) = false := by
      rw [Bool.or_eq_false_iff, beq_eq_false_iff_ne, decide_eq_false_iff_not]
      omega
    rw [hsmall, if_neg Bool.false_ne_true]
    split
    · next hlarge =>
        have hlength : 400 < (Nat.repr n).length := by omega
        rw [standing, if_neg hn, min_eq_right (infinite_le_pattern hlength)]
        exact hinfinite
    · have hround := roundRatio?_of_ne_zero negative hn
      change StandsAt ((roundRatio? negative (n * 1) 1).getD infinite) _
      rw [Nat.mul_one, hround]
      split
      · next hge =>
          rw [standing, if_neg hn, min_eq_right hge]
          exact hinfinite
      · next hlt =>
          have hle : pattern n ≤ Binary64.infinite := (Nat.not_le.mp hlt).le
          rw [standing, if_neg hn, min_eq_left hle]
          exact (of_pattern hle).withSign negative

end Binary64.StandsAt

end Stencil
