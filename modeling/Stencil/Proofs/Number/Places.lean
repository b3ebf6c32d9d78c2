import Mathlib
import Stencil.Number.Dyadic

namespace Stencil

/-! Floats stand in the order of their bit patterns, those with a sign from the end. -/

namespace Binary64

open Float.Model Float.Model.UnpackedFloat

/-- The pattern of the positive infinity, behind those of all finite floats. -/
def infinite : Nat := 2047 * 2 ^ 52

/-- An unpacked float with a mantissa of 53 bits, or of fewer at the least exponent. -/
inductive Canonical : UnpackedFloat → Prop
  | infinity (s : Sign) : Canonical (.infinity s)
  | zero (s : Sign) : Canonical (.zero s)
  | finite (s : Sign) (m : Nat) (e : Int) (hpos : 0 < m) (hm : m < 2 ^ 53) (hlow : -1074 ≤ e)
      (hhigh : e ≤ 971) (hfull : 2 ^ 52 ≤ m ∨ e = -1074) : Canonical (.finite s m e hpos)

/-- Where an unpacked float stands: its pattern, negative with a sign. -/
def place : UnpackedFloat → Int
  | .notANumber => 0
  | .infinity s => s.apply infinite
  | .zero _ => 0
  | .finite s m e _ => s.apply (m + (e + 1074).toNat * 2 ^ 52 : Nat)

/-! Comparing. -/

theorem compare_places {m n : Nat} {d e : Int} (hm : m < 2 ^ 53) (hn : n < 2 ^ 53)
    (hd : -1074 ≤ d) (he : -1074 ≤ e) (hmfull : 2 ^ 52 ≤ m ∨ d = -1074)
    (hnfull : 2 ^ 52 ≤ n ∨ e = -1074) :
    (compare d e).then (compare m n) =
      compare ((m + (d + 1074).toNat * 2 ^ 52 : Nat) : Int)
        (n + (e + 1074).toNat * 2 ^ 52 : Nat) := by
  rcases lt_trichotomy d e with hlt | rfl | hgt
  · rw [compare_lt_iff_lt.mpr hlt]
    symm
    apply compare_lt_iff_lt.mpr
    omega
  · rw [compare_eq_iff_eq.mpr rfl]
    change compare m n = _
    rcases lt_trichotomy m n with hlt | rfl | hgt
    · rw [compare_lt_iff_lt.mpr hlt, compare_lt_iff_lt.mpr (by omega)]
    · rw [compare_eq_iff_eq.mpr rfl, compare_eq_iff_eq.mpr rfl]
    · rw [compare_gt_iff_gt.mpr hgt, compare_gt_iff_gt.mpr (by omega)]
  · rw [compare_gt_iff_gt.mpr hgt]
    symm
    apply compare_gt_iff_gt.mpr
    omega

theorem swap_compare (i j : Int) : (compare i j).swap = compare (-i) (-j) := by
  rcases lt_trichotomy i j with hlt | rfl | hgt
  · rw [compare_lt_iff_lt.mpr hlt, compare_gt_iff_gt.mpr (by omega)]
    rfl
  · rw [compare_eq_iff_eq.mpr rfl, compare_eq_iff_eq.mpr rfl]
    rfl
  · rw [compare_gt_iff_gt.mpr hgt, compare_lt_iff_lt.mpr (by omega)]
    rfl

theorem some_lt_eq {i j : Int} (h : i < j) : some Ordering.lt = some (compare i j) :=
  congrArg some (compare_lt_iff_lt.mpr h).symm

theorem some_gt_eq {i j : Int} (h : j < i) : some Ordering.gt = some (compare i j) :=
  congrArg some (compare_gt_iff_gt.mpr h).symm

section

variable {m : Nat} {e : Int} (hpos : 0 < m) (hm : m < 2 ^ 53) (hhigh : e ≤ 971)
include hm hhigh

theorem place_positive_bounds :
    0 < place (.finite .positive m e hpos) ∧ place (.finite .positive m e hpos) < infinite := by
  simp only [place, Sign.apply, infinite]
  omega

theorem place_negative_bounds :
    -infinite < place (.finite .negative m e hpos) ∧ place (.finite .negative m e hpos) < 0 := by
  simp only [place, Sign.apply, infinite]
  omega

theorem place_finite_bounds (s : Sign) :
    -infinite < place (.finite s m e hpos) ∧ place (.finite s m e hpos) < infinite := by
  have hpositive := place_positive_bounds hpos hm hhigh
  have hnegative := place_negative_bounds hpos hm hhigh
  cases s with
  | negative => exact ⟨hnegative.1, by omega⟩
  | positive => exact ⟨by omega, hpositive.2⟩

end

theorem compare_eq {a b : UnpackedFloat} (ha : Canonical a) (hb : Canonical b) :
    a.compare b = some (compare (place a) (place b)) := by
  cases ha with
  | infinity s =>
      cases hb with
      | infinity t => cases s <;> cases t <;> rfl
      | zero t => cases s <;> rfl
      | finite t n e hnpos hn he he' hnfull =>
          have hbounds := place_finite_bounds hnpos hn he' t
          cases s with
          | negative => exact some_lt_eq hbounds.1
          | positive => exact some_gt_eq hbounds.2
  | zero s =>
      cases hb with
      | infinity t => cases t <;> rfl
      | zero t => rfl
      | finite t n e hnpos hn he he' hnfull =>
          cases t with
          | negative => exact some_gt_eq (place_negative_bounds hnpos hn he').2
          | positive => exact some_lt_eq (place_positive_bounds hnpos hn he').1
  | finite s m d hmpos hm hd hd' hmfull =>
      cases hb with
      | infinity t =>
          have hbounds := place_finite_bounds hmpos hm hd' s
          cases t with
          | negative => exact some_gt_eq hbounds.1
          | positive => exact some_lt_eq hbounds.2
      | zero t =>
          cases s with
          | negative => exact some_lt_eq (place_negative_bounds hmpos hm hd').2
          | positive => exact some_gt_eq (place_positive_bounds hmpos hm hd').1
      | finite t n e hnpos hn he he' hnfull =>
          have hpair := compare_places hm hn hd he hmfull hnfull
          cases s with
          | negative =>
              cases t with
              | negative => exact congrArg some (by rw [hpair, swap_compare]; rfl)
              | positive =>
                  exact some_lt_eq ((place_negative_bounds hmpos hm hd').2.trans
                    (place_positive_bounds hnpos hn he').1)
          | positive =>
              cases t with
              | negative =>
                  exact some_gt_eq ((place_negative_bounds hnpos hn he').2.trans
                    (place_positive_bounds hmpos hm hd').1)
              | positive => exact congrArg some hpair

/-! Packing and unpacking. -/

section
variable (b : BitVec Format.binary64.numBits)

theorem toNat_unpackMantissa : (unpackMantissa b).toNat = b.toNat % 2 ^ 52 := by
  change (b.toNat >>> 0) % 2 ^ 52 = b.toNat % 2 ^ 52
  rw [Nat.shiftRight_zero]

theorem toNat_unpackExponent : (unpackExponent b).toNat = b.toNat / 2 ^ 52 % 2 ^ 11 := by
  change (b.toNat >>> 52) % 2 ^ 11 = b.toNat / 2 ^ 52 % 2 ^ 11
  rw [Nat.shiftRight_eq_div_pow]

theorem toNat_unpackSign : (unpackSign b).toNat = b.toNat / 2 ^ 63 % 2 := by
  change (b.toNat >>> 63) % 2 ^ 1 = b.toNat / 2 ^ 63 % 2
  rw [Nat.shiftRight_eq_div_pow, Nat.pow_one]

theorem toNat_implicit (m : BitVec 52) : (1#1 ++ m).toNat = 2 ^ 52 + m.toNat := by
  rw [BitVec.toNat_append, ← Nat.shiftLeft_add_eq_or_of_lt m.isLt]
  rfl

theorem apply_sign (n : Nat) :
    (Sign.ofBitVec (unpackSign b)).apply n = Dyadic.signed (2 ^ 63 ≤ b.toNat) n := by
  have hsign := toNat_unpackSign b
  have hbound : b.toNat < 2 ^ 64 := b.isLt
  unfold Dyadic.signed Sign.ofBitVec
  by_cases h : 2 ^ 63 ≤ b.toNat
  · have hone : unpackSign b ≠ 0#1 := by
      intro hzero
      rw [hzero, BitVec.toNat_zero] at hsign
      omega
    rw [if_neg hone, decide_eq_true h]
    rfl
  · have hzero : unpackSign b = 0#1 := by
      apply BitVec.eq_of_toNat_eq
      rw [hsign]
      change b.toNat / 2 ^ 63 % 2 = 0
      omega
    rw [if_pos hzero, decide_eq_false h]
    rfl

theorem unpack_of_rest_le (h : b.toNat % 2 ^ 63 ≤ infinite) :
    Canonical (unpack Format.binary64 b) ∧
      place (unpack Format.binary64 b) =
        Dyadic.signed (2 ^ 63 ≤ b.toNat) (b.toNat % 2 ^ 63) := by
  have hmantissa := toNat_unpackMantissa b
  have hexponent := toNat_unpackExponent b
  have hones : (-1#11).toNat = 2047 := rfl
  have hzero : (0#11).toNat = 0 := rfl
  have hbias : Format.binary64.exponentBias = 1023 := rfl
  unfold infinite at h
  rw [← apply_sign]
  unfold UnpackedFloat.unpack
  dsimp only
  generalize Sign.ofBitVec (unpackSign b) = s
  split
  · next hlast =>
      -- Of the patterns with the last exponent only infinity is not behind infinity.
      rw [← BitVec.toNat_inj, hexponent] at hlast
      have hnone : unpackMantissa b = 0#52 := by
        apply BitVec.eq_of_toNat_eq
        rw [hmantissa]
        change b.toNat % 2 ^ 52 = 0
        omega
      have hrest : b.toNat % 2 ^ 63 = infinite := by
        unfold infinite
        omega
      rw [if_pos hnone, hrest]
      exact ⟨.infinity _, rfl⟩
  · next hother =>
      rw [← BitVec.toNat_inj, hexponent] at hother
      split
      · next hfirst =>
          rw [← BitVec.toNat_inj, hexponent] at hfirst
          split
          · next hnone =>
              have hnone := hmantissa.symm.trans (congrArg BitVec.toNat hnone)
              rw [BitVec.toNat_zero] at hnone
              have hrest : b.toNat % 2 ^ 63 = 0 := by omega
              rw [hrest]
              exact ⟨.zero _, by cases s <;> rfl⟩
          · next hsome =>
              have hne : (unpackMantissa b).toNat ≠ 0 :=
                fun heq => hsome (BitVec.eq_of_toNat_eq heq)
              refine ⟨.finite _ _ _ _ ?_ ?_ ?_ (.inr ?_), congrArg (s.apply ∘ Nat.cast) ?_⟩
              all_goals simp only [hmantissa, hexponent, hbias]
              all_goals omega
      · next hmiddle =>
          rw [← BitVec.toNat_inj, hexponent] at hmiddle
          refine ⟨.finite _ _ _ _ ?_ ?_ ?_ (.inl ?_), congrArg (s.apply ∘ Nat.cast) ?_⟩
          all_goals simp only [toNat_implicit, hmantissa, hexponent, hbias]
          all_goals omega

theorem unpack_of_lt_rest (h : infinite < b.toNat % 2 ^ 63) :
    unpack Format.binary64 b = .notANumber := by
  unfold infinite at h
  have hlast : unpackExponent b = -1#11 := by
    apply BitVec.eq_of_toNat_eq
    rw [toNat_unpackExponent]
    change b.toNat / 2 ^ 52 % 2 ^ 11 = 2047
    omega
  have hsome : unpackMantissa b ≠ 0#52 := by
    intro hnone
    have hzero := (toNat_unpackMantissa b).symm.trans (congrArg BitVec.toNat hnone)
    rw [BitVec.toNat_zero] at hzero
    omega
  unfold UnpackedFloat.unpack
  dsimp only
  rw [if_pos hlast, if_neg hsome]

theorem unpack_of_le (h : b.toNat ≤ infinite) :
    Canonical (unpack Format.binary64 b) ∧ place (unpack Format.binary64 b) = b.toNat := by
  have hrest : b.toNat % 2 ^ 63 = b.toNat := by
    unfold infinite at h
    omega
  have hplain : ¬2 ^ 63 ≤ b.toNat := by
    unfold infinite at h
    omega
  obtain ⟨hcanonical, hplace⟩ := unpack_of_rest_le b (by rwa [hrest])
  rw [hrest, decide_eq_false hplain] at hplace
  exact ⟨hcanonical, hplace⟩

end

theorem ofNat_ne {w k : Nat} {b : BitVec w} (hk : (BitVec.ofNat w k).toNat = k)
    (h : k ≠ b.toNat) : BitVec.ofNat w k ≠ b := by
  rintro rfl
  exact h hk.symm

theorem unpack_pack {u : UnpackedFloat} (h : Canonical u) :
    UnpackedFloat.unpack Format.binary64 (UnpackedFloat.pack Format.binary64 u) = u := by
  have hbias : Format.binary64.exponentBias = 1023 := rfl
  have hbits : Format.binary64.mantissaBits = 53 := rfl
  cases h with
  | infinity s => cases s <;> rfl
  | zero s => cases s <;> rfl
  | finite s m e hpos hm hlow hhigh hfull =>
      have hlog : m.log2 < 53 := (Nat.log2_lt hpos.ne').mpr hm
      rw [UnpackedFloat.pack]
      dsimp only
      rw [hbias, hbits, if_neg (by omega)]
      by_cases hnormal : 2 ^ 52 ≤ m
      · have hlog' : 52 ≤ m.log2 := (Nat.le_log2 hpos.ne').mpr hnormal
        obtain ⟨k, hk⟩ := Int.eq_ofNat_of_zero_le (a := e + 1075) (by omega)
        obtain rfl : e = k - 1075 := by omega
        have hbiased : ((k : Int) - 1075 + (1023 : Nat) + (52 : Nat)).toNat = k := by omega
        have hk : (BitVec.ofNat 11 k).toNat = k := by
          rw [BitVec.toNat_ofNat]
          omega
        have hm' : (1#1 ++ BitVec.ofNat 52 m).toNat = m := by
          rw [toNat_implicit, BitVec.toNat_ofNat]
          omega
        have hlast : BitVec.ofNat 11 k ≠ -1#11 := by
          apply ofNat_ne hk
          change k ≠ 2047
          omega
        have hfirst : BitVec.ofNat 11 k ≠ 0#11 := by
          apply ofNat_ne hk
          change k ≠ 0
          omega
        rw [if_pos (by omega), hbiased, UnpackedFloat.unpack]
        simp only [unpackMantissa_packComponents, unpackExponent_packComponents,
          unpackSign_packComponents, Sign.ofBitVec_toBitVec, if_neg hlast, if_neg hfirst, hk, hm',
          hbias]
        congr 1
      · have hlog' : m.log2 < 52 := (Nat.log2_lt hpos.ne').mpr (by omega)
        obtain rfl : e = -1074 := hfull.resolve_left hnormal
        have hm' : (BitVec.ofNat 52 m).toNat = m := by
          rw [BitVec.toNat_ofNat]
          omega
        have hsome : BitVec.ofNat 52 m ≠ 0#52 := by
          apply ofNat_ne hm'
          exact hpos.ne'
        rw [if_neg (by omega), UnpackedFloat.unpack]
        simp only [unpackMantissa_packComponents, unpackExponent_packComponents,
          unpackSign_packComponents, Sign.ofBitVec_toBitVec, dif_neg hsome, hm', hbias]
        rfl

theorem Canonical.neg {u : UnpackedFloat} (h : Canonical u) :
    Canonical u.neg ∧ place u.neg = -place u := by
  cases h with
  | infinity s => exact ⟨.infinity _, by cases s <;> rfl⟩
  | zero s => exact ⟨.zero _, rfl⟩
  | finite s m e hpos hm hlow hhigh hfull =>
      refine ⟨.finite _ m e hpos hm hlow hhigh hfull, ?_⟩
      cases s with
      | negative => exact (Int.neg_neg _).symm
      | positive => rfl

/-! Floats. -/

/-- A float that is a number, and where it stands among them. -/
structure StandsAt (f : Float) (i : Int) : Prop where
  canonical : Canonical f.toModel.unpack
  place : place f.toModel.unpack = i

def rest (f : Float) : Nat := f.toBits.toNat % 2 ^ 63

def placeOf (f : Float) : Int := Dyadic.signed (2 ^ 63 ≤ f.toBits.toNat) (rest f)

theorem rest_le {f : Float} (h : f.isNaN = false) : rest f ≤ infinite := by
  refine Nat.not_lt.mp fun hlt => ?_
  have hnan : f.isNaN = true := congrArg UnpackedFloat.isNaN (unpack_of_lt_rest _ hlt)
  rw [h] at hnan
  cases hnan

namespace StandsAt

variable {f g : Float} {i j : Int}

theorem of_isNaN_eq_false (h : f.isNaN = false) : StandsAt f (placeOf f) := by
  obtain ⟨hcanonical, hplace⟩ := unpack_of_rest_le f.toBits.toBitVec (rest_le h)
  exact ⟨hcanonical, hplace⟩

theorem of_pattern {p : Nat} (h : p ≤ infinite) : StandsAt (Float.ofBits (.ofNat p)) p := by
  have hp : (UInt64.ofNat p).toBitVec.toNat = p := by
    change p % 2 ^ 64 = p
    unfold infinite at h
    omega
  obtain ⟨hcanonical, hplace⟩ := unpack_of_le (UInt64.ofNat p).toBitVec (by rwa [hp])
  have hunpack : (Float.ofBits (.ofNat p)).toModel.unpack =
      Float.Model.UnpackedFloat.unpack .binary64 (UInt64.ofNat p).toBitVec :=
    unpack_pack hcanonical
  rw [hp] at hplace
  constructor
  · rwa [hunpack]
  · rwa [hunpack]

theorem neg (h : StandsAt f i) : StandsAt (-f) (-i) := by
  obtain ⟨hcanonical, hplace⟩ := h.canonical.neg
  have hunpack : (-f).toModel.unpack = f.toModel.unpack.neg := unpack_pack hcanonical
  constructor
  · rwa [hunpack]
  · rw [hunpack, hplace, h.place]

theorem lt_iff (hf : StandsAt f i) (hg : StandsAt g j) : f < g ↔ i < j := by
  change decide (f.toModel < g.toModel) = true ↔ i < j
  rw [decide_eq_true_iff]
  change (f.toModel.unpack.compare g.toModel.unpack == some .lt) = true ↔ i < j
  rw [compare_eq hf.canonical hg.canonical, hf.place, hg.place, beq_iff_eq, Option.some_inj,
    compare_lt_iff_lt]

theorem le_iff (hf : StandsAt f i) (hg : StandsAt g j) : f ≤ g ↔ i ≤ j := by
  change decide (f.toModel ≤ g.toModel) = true ↔ i ≤ j
  rw [decide_eq_true_iff]
  change (f.toModel.unpack.compare g.toModel.unpack).any (·.isLE) = true ↔ i ≤ j
  rw [compare_eq hf.canonical hg.canonical, hf.place, hg.place, Option.any_some,
    Ordering.isLE_iff_ne_gt, compare_gt_iff_gt]
  exact Int.not_lt

theorem zero : StandsAt 0.0 0 := by
  have hbits : (0.0 : Float) = Float.ofBits (.ofNat 0) := by decide +kernel
  rw [hbits]
  exact of_pattern (Nat.zero_le _)

theorem infinity : StandsAt (1.0 / 0.0) infinite := by
  have hbits : (1.0 / 0.0 : Float) = Float.ofBits (.ofNat infinite) := by decide +kernel
  rw [hbits]
  exact of_pattern (Nat.le_refl _)

end StandsAt

end Binary64

end Stencil
