import Stencil.Number.Arith
import Stencil.Proofs.Number.Nearest

namespace Stencil

/-! Numbers in the order of their exact amounts. -/

open Binary64 (rest placeOf infinite StandsAt rest_le)

/-- The amount of the bits `p` of a float, in units of the least float there is. -/
def units (p : Nat) : Nat := if p < 2 ^ 52 then p else amountOf (p - 2 ^ 52)

def unitsInOne : Nat := 2 ^ 1074

theorem unitsInOne_pos : (0 : ℚ) < unitsInOne := by
  unfold unitsInOne
  rw [Nat.cast_pow]
  exact pow_pos two_pos _

theorem units_strictMono : StrictMono units := by
  intro p q h
  unfold units
  split_ifs with hp hq
  · exact h
  · have hleast : 2 ^ 52 ≤ amountOf (q - 2 ^ 52) := amountOf_strictMono.monotone (Nat.zero_le _)
    omega
  · omega
  · exact amountOf_strictMono (by omega)

theorem units_of_lt {p : Nat} (h : p < 2 ^ 52) : units p = p := if_pos h

theorem units_of_front {m : Nat} (h : m < 2 ^ 52) (k : Nat) :
    units (m + (k + 1) * 2 ^ 52) = (m + 2 ^ 52) * 2 ^ k := by
  have hquotient : (m + (k + 1) * 2 ^ 52 - 2 ^ 52) / 2 ^ 52 = k := by omega
  have hrest : (m + (k + 1) * 2 ^ 52 - 2 ^ 52) % 2 ^ 52 = m := by omega
  rw [units, if_neg (by omega), amountOf, hquotient, hrest, Nat.add_comm]

namespace Dyadic

def value (d : Dyadic) : ℚ := d.signedNum / d.den

theorem num_div_den (d : Dyadic) : (d.num / d.den : ℚ) = d.mantissa * 2 ^ d.exponent := by
  simp only [num, den, Nat.pow_eq]
  rw [two_zpow, ← mul_div_assoc]
  push_cast
  rfl

theorem den_pos (d : Dyadic) : (0 : ℚ) < d.den := by
  rw [Nat.cast_pos]
  exact Nat.two_pow_pos _

theorem compare_signedNum (i : Int) (d : Dyadic) :
    compare (i * d.den) d.signedNum = compare (i : ℚ) d.value := by
  have hscaled : (d.signedNum : ℚ) = d.value * d.den := (div_mul_cancel₀ _ d.den_pos.ne').symm
  rw [← cmp_eq_compare, ← cmp_eq_compare]
  calc cmp (i * d.den) d.signedNum
      = cmp ((i * d.den : Int) : ℚ) d.signedNum := (Int.cast_strictMono.cmp_map_eq _ _).symm
    _ = cmp ((i : ℚ) * d.den) (d.value * d.den) := by
        rw [← hscaled, Int.cast_mul, Int.cast_natCast]
    _ = cmp (i : ℚ) d.value := cmp_mul_pos_right d.den_pos _ _

theorem signed_div (negative : Bool) (n den : Nat) :
    ((signed negative n : Int) / den : ℚ) = if negative then -(n / den : ℚ) else n / den := by
  unfold signed
  split_ifs
  · rw [Int.cast_neg, Int.cast_natCast, neg_div]
  · rw [Int.cast_natCast]

theorem scaled_eq (m k : Nat) :
    (m * 2 ^ ((k : Int) - 1074) : ℚ) = (m * 2 ^ k : Nat) / unitsInOne := by
  have hone : (unitsInOne : ℚ) = 2 ^ (1074 : Int) := Nat.cast_pow 2 1074
  rw [zpow_sub₀ two_ne_zero, ← mul_div_assoc, hone, Nat.cast_mul, Nat.cast_pow, zpow_natCast]
  rfl

/-- A finite float is a whole number of units, and beyond the finite ones is infinity. -/
theorem ofFloat?_spec (f : Float) :
    match ofFloat? f with
    | some d => rest f < infinite ∧
        d.value = (signed (2 ^ 63 ≤ f.toBits.toNat) (units (rest f)) : Int) / unitsInOne
    | none => infinite ≤ rest f := by
  have hbits : f.toBits.toNat < 2 ^ 64 := f.toBits.toNat_lt
  unfold ofFloat?
  extract_lets bits fraction biased negative
  have hfraction : fraction < 2 ^ 52 := Nat.mod_lt _ (Nat.two_pow_pos 52)
  have hbiased : biased < 2 ^ 11 := Nat.mod_lt _ (Nat.two_pow_pos 11)
  have hrest : rest f = fraction + biased * 2 ^ 52 := by
    change f.toBits.toNat % 2 ^ 63 =
      f.toBits.toNat % 2 ^ 52 + f.toBits.toNat / 2 ^ 52 % 2 ^ 11 * 2 ^ 52
    omega
  unfold value signedNum infinite
  rw [hrest]
  split_ifs with hlast hfirst
  · rw [beq_iff_eq] at hlast
    dsimp only
    omega
  · rw [beq_iff_eq] at hfirst
    refine ⟨by omega, ?_⟩
    have hscaled := scaled_eq fraction 0
    rw [Nat.pow_zero, Nat.mul_one] at hscaled
    rw [signed_div, signed_div, num_div_den, hfirst, Nat.zero_mul, Nat.add_zero,
      units_of_lt hfraction, ← hscaled]
    rfl
  · rw [beq_iff_eq] at hlast hfirst
    refine ⟨by omega, ?_⟩
    obtain ⟨k, hk⟩ := Nat.exists_eq_succ_of_ne_zero hfirst
    have hexponent : ((k.succ : Nat) : Int) - 1075 = k - 1074 := by omega
    rw [signed_div, signed_div, num_div_den, hk, units_of_front hfraction, ← scaled_eq, hexponent]
    rfl

end Dyadic

namespace Number

def IsNumber : Number → Prop
  | .int _ => True
  | .float f => f.isNaN = false

/-- The exact amount of a number; the infinities lie beyond all amounts. -/
def amount : Number → WithBot (WithTop ℚ)
  | .int i => ((i : ℚ) : WithTop ℚ)
  | .float f =>
      match Dyadic.ofFloat? f with
      | some d => (d.value : WithTop ℚ)
      | none => if f > 0 then ⊤ else ⊥

theorem amount_of_some {f : Float} {d : Dyadic} (h : Dyadic.ofFloat? f = some d) :
    amount (.float f) = (d.value : WithTop ℚ) := by
  rw [amount, h]

theorem amount_of_none {f : Float} (h : Dyadic.ofFloat? f = none) :
    amount (.float f) = if f > 0 then ⊤ else ⊥ := by
  rw [amount, h]

def amountAt (i : Int) : WithBot (WithTop ℚ) :=
  if infinite ≤ i then ⊤
  else if i ≤ -infinite then ⊥
  else (((Dyadic.signed (i < 0) (units i.natAbs) : Int) / unitsInOne : ℚ) : WithTop ℚ)

theorem amountAt_strictMonoOn : StrictMonoOn amountAt (Set.Icc (-infinite) infinite) := by
  intro i hi j hj hlt
  rw [Set.mem_Icc] at hi hj
  unfold amountAt
  rw [if_neg (by omega : ¬(infinite : Int) ≤ i), if_neg (by omega : ¬j ≤ -(infinite : Int))]
  split_ifs with hbottom htop htop
  · exact bot_lt_top
  · exact WithBot.bot_lt_coe _
  · exact WithBot.coe_lt_coe.mpr (WithTop.coe_lt_top _)
  · rw [WithBot.coe_lt_coe, WithTop.coe_lt_coe, div_lt_div_iff_of_pos_right unitsInOne_pos,
      Int.cast_lt, signed_lt_iff (f := units) (g := id) (fun _ _ => units_strictMono.lt_iff_lt) rfl
        rfl]
    dsimp only [id]
    rwa [signed_natAbs, signed_natAbs]

theorem signed_amount (negative : Bool) (p : Nat) :
    Dyadic.signed (Dyadic.signed negative p < 0) (units (Dyadic.signed negative p).natAbs) =
      Dyadic.signed negative (units p) := by
  rcases Nat.eq_zero_or_pos p with rfl | hp
  · cases negative <;> rfl
  · cases negative with
    | false => simp [Dyadic.signed]
    | true => simp [Dyadic.signed, hp]

section

variable {f : Float}

theorem placeOf_bounds (h : rest f < infinite) : -infinite < placeOf f ∧ placeOf f < infinite := by
  unfold placeOf Dyadic.signed
  split_ifs <;> omega

theorem placeOf_infinite (h : rest f = infinite) :
    placeOf f = infinite ∨ placeOf f = -infinite := by
  unfold placeOf Dyadic.signed
  rw [h]
  split_ifs
  · exact .inr rfl
  · exact .inl rfl

variable (h : f.isNaN = false)
include h

theorem placeOf_mem : placeOf f ∈ Set.Icc (-(infinite : Int)) infinite := by
  have hrest := rest_le h
  rw [Set.mem_Icc]
  unfold placeOf Dyadic.signed
  split_ifs <;> omega

theorem pos_iff : f > 0 ↔ 0 < placeOf f := by
  have hzero : (0 : Float) = 0.0 := by decide +kernel
  rw [gt_iff_lt, hzero, StandsAt.zero.lt_iff (.of_isNaN_eq_false h)]

theorem amount_float : amount (.float f) = amountAt (placeOf f) := by
  have hspec := Dyadic.ofFloat?_spec f
  have hinfinite : 0 < infinite := by decide
  unfold amountAt
  cases hfloat : Dyadic.ofFloat? f with
  | some d =>
      rw [hfloat] at hspec
      obtain ⟨hfinite, hvalue⟩ := hspec
      obtain ⟨hlow, hhigh⟩ := placeOf_bounds hfinite
      rw [amount_of_some hfloat, if_neg hhigh.not_ge, if_neg hlow.not_ge, hvalue, ← signed_amount]
      rfl
  | none =>
      rw [hfloat] at hspec
      have hpos := pos_iff h
      rw [amount_of_none hfloat]
      rcases placeOf_infinite (Nat.le_antisymm (rest_le h) hspec) with hplace | hplace
      · rw [if_pos (hpos.mpr (by omega)), hplace, if_pos le_rfl]
      · rw [if_neg (mt hpos.mp (by omega)), hplace, if_neg (by omega), if_pos le_rfl]

theorem compareIntFloat?_eq (i : Int) :
    compareIntFloat? i f = some (compare (amount (.int i)) (amount (.float f))) := by
  unfold compareIntFloat?
  cases hfloat : Dyadic.ofFloat? f with
  | some d =>
      rw [amount_of_some hfloat, amount]
      dsimp only
      rw [Dyadic.compare_signedNum, ← cmp_eq_compare, ← cmp_eq_compare]
      refine congrArg some ?_
      calc cmp (i : ℚ) d.value
          = cmp ((i : ℚ) : WithTop ℚ) d.value := (WithTop.coe_strictMono.cmp_map_eq _ _).symm
        _ = cmp (((i : ℚ) : WithTop ℚ) : WithBot (WithTop ℚ)) (d.value : WithTop ℚ) :=
            (WithBot.coe_strictMono.cmp_map_eq _ _).symm
  | none =>
      rw [amount_of_none hfloat, amount]
      dsimp only
      rw [if_neg (Bool.eq_false_iff.mp h)]
      split_ifs
      · rw [compare_lt_iff_lt.mpr]
        exact WithBot.coe_lt_coe.mpr (WithTop.coe_lt_top _)
      · rw [compare_gt_iff_gt.mpr]
        exact WithBot.bot_lt_coe _

end

/-- Numbers compare by their exact amounts. -/
theorem lt_iff {a b : Number} (ha : a.IsNumber) (hb : b.IsNumber) :
    a.lt b = true ↔ a.amount < b.amount := by
  unfold lt
  rw [beq_iff_eq]
  cases a with
  | int i =>
      cases b with
      | int j =>
          rw [compare?, Option.some_inj, compare_lt_iff_lt, amount, amount, WithBot.coe_lt_coe,
            WithTop.coe_lt_coe, Int.cast_lt]
      | float g =>
          rw [compare?, compareIntFloat?_eq hb, Option.some_inj, compare_lt_iff_lt]
  | float f =>
      cases b with
      | int j =>
          rw [compare?, compareIntFloat?_eq ha, Option.map_some, Option.some_inj,
            ← Std.OrientedOrd.eq_swap, compare_lt_iff_lt]
      | float g =>
          -- floats are in the order of their places, and amounts grow with these
          have hf := StandsAt.of_isNaN_eq_false ha
          have hg := StandsAt.of_isNaN_eq_false hb
          rw [amount_float ha, amount_float hb,
            amountAt_strictMonoOn.lt_iff_lt (placeOf_mem ha) (placeOf_mem hb), ← hf.lt_iff hg,
            compare?]
          split_ifs <;> simp_all

end Number

end Stencil
