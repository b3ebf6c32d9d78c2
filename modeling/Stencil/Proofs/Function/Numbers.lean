import Stencil.Function.Standard
import Stencil.Proofs.Function.Confined
import Stencil.Proofs.Number.Rounding

namespace Stencil

/-! Functions on numbers, which stay within the floats when their numbers do. -/

namespace Number

/-- Integers well within the floats, and finite floats. -/
def Moderate : Number → Prop
  | .int i => i.natAbs < 2 ^ 1023
  | .float f => (Dyadic.ofFloat? f).isSome

def Manageable (P : Fault → Prop) (n : Number) : Prop :=
  Wide P ∨ n.Moderate

theorem lt_two_pow_of_le {n k m : Nat} (h : n < 2 ^ k) (hk : k ≤ m) : n < 2 ^ m :=
  h.trans_le (Nat.pow_le_pow_right Nat.two_pos hk)

theorem moderate_int {i : Int} {k : Nat} (h : i.natAbs < 2 ^ k) (hk : k ≤ 1023) :
    Moderate (.int i) := lt_two_pow_of_le h hk

variable {P : Fault → Prop} {a b : Number}

theorem roundRatio?_failsIn (negative : Bool) {num den : Nat} (hden : 0 < den)
    (h : P .overflow ∨ num < 2 ^ 1023 * den) (f : Float → α) :
    FailsIn P (match roundRatio? negative num den with
      | some x => .ok (f x)
      | none => .error .overflow : Except Fault α) := by
  cases hround : roundRatio? negative num den with
  | some x => exact instFailsInOk _
  | none =>
      rcases h with hP | hlt
      · exact failsIn_error hP
      · have hsome := roundRatio?_isSome negative hden hlt
        rw [hround] at hsome
        cases hsome

theorem Manageable.toFloat (h : a.Manageable P) : FailsIn P a.toFloat := by
  cases a with
  | float f => exact instFailsInOk f
  | int i =>
      have hlt : P .overflow ∨ i.natAbs < 2 ^ 1023 * 1 := by
        rw [Nat.mul_one]
        exact h.imp (fun hwide => hwide.overflow) id
      exact roundRatio?_failsIn (decide (i < 0)) Nat.one_pos hlt id

theorem Manageable.toIntWith (h : a.Manageable P) (pick : Dyadic → Int) :
    FailsIn P (a.toIntWith pick) := by
  cases a with
  | int i => exact instFailsInOk i
  | float f =>
      rw [Number.toIntWith]
      cases hf : Dyadic.ofFloat? f with
      | some d => exact instFailsInOk _
      | none =>
          rcases h with hwide | hfinite
          · cases f.isNaN with
            | true => exact failsIn_error hwide.outOfDomain
            | false => exact failsIn_error hwide.overflow
          · rw [Moderate, hf] at hfinite
            cases hfinite

theorem Manageable.combine (ha : a.Manageable P) (hb : b.Manageable P)
    (onInts : Int → Int → Int) (onFloats : Float → Float → Float) :
    FailsIn P (combine onInts onFloats a b) := by
  have hx := ha.toFloat
  have hy := hb.toFloat
  unfold Number.combine
  split <;> infer_instance

theorem Manageable.div (ha : a.Manageable P) (hb : b.Manageable P) (hzero : b.isZero = false) :
    FailsIn P (a.div b) := by
  have hx := ha.toFloat
  have hy := hb.toFloat
  unfold Number.div
  split
  · next i j =>
      have hj : j ≠ 0 := by simpa [isZero] using hzero
      have hden : 0 < j.natAbs := Int.natAbs_pos.mpr hj
      rw [beq_eq_false_iff_ne.mpr hj, if_neg Bool.false_ne_true]
      apply roundRatio?_failsIn _ hden
      rcases ha with hwide | hlt
      · exact .inl hwide.overflow
      · exact .inr (hlt.trans_le (Nat.le_mul_of_pos_right _ hden))
  · simp only [hzero, Bool.false_eq_true, if_false]
    infer_instance

theorem Manageable.sqrt (h : a.Manageable P) : FailsIn P a.sqrt := by
  have hx := h.toFloat
  unfold Number.sqrt
  infer_instance

end Number

def Value.Manageable (P : Fault → Prop) (v : Value) : Prop :=
  ∀ caller n, v.number caller = .ok n → n.Manageable P

namespace Function

section

variable {P : Fault → Prop}

theorem manageable_arg {args : List Value} (h : ∀ v ∈ args, v.Manageable P) (i : Nat) :
    (arg args i).Manageable P :=
  arg_of_forall (fun _ _ hn => nomatch hn) h i

variable [Admits P]

theorem confinedOn_binary (name : String) {f : Number → Number → Except Fault Number}
    (hf : ∀ a b : Number, a.Manageable P → b.Manageable P → FailsIn P (f a b)) :
    ConfinedOn P (Value.Manageable P) (binary name f) where
  run now args hargs h := by
    unfold binary
    refine FailsIn.bind inferInstance fun left hleft => ?_
    refine FailsIn.bind inferInstance fun right hright => ?_
    have hresult := hf left right (manageable_arg h 0 _ _ hleft) (manageable_arg h 1 _ _ hright)
    infer_instance

instance instConfinedAdd : ConfinedOn P (Value.Manageable P) (binary "add" Number.add) :=
  confinedOn_binary "add" fun _ _ ha hb => ha.combine hb _ _

instance instConfinedSubtract : ConfinedOn P (Value.Manageable P) (binary "subtract" Number.sub) :=
  confinedOn_binary "subtract" fun _ _ ha hb => ha.combine hb _ _

instance instConfinedMultiply : ConfinedOn P (Value.Manageable P) (binary "multiply" Number.mul) :=
  confinedOn_binary "multiply" fun _ _ ha hb => ha.combine hb _ _

instance instConfinedDivide : ConfinedOn P (Value.Manageable P) divide where
  run now args hargs h := by
    unfold divide
    refine FailsIn.bind inferInstance fun divisor hdivisor => ?_
    cases hzero : divisor.isZero with
    | true =>
        rw [if_pos rfl]
        exact FailsIn.bind inferInstance fun _ heq => nomatch heq
    | false =>
        rw [if_neg Bool.false_ne_true]
        refine FailsIn.bind inferInstance fun dividend hdividend => ?_
        have hquotient := (manageable_arg h 0 _ _ hdividend).div
          (manageable_arg h 1 _ _ hdivisor) hzero
        infer_instance

theorem confinedOn_toInteger (name : String) (pick : Dyadic → Int) :
    ConfinedOn P (Value.Manageable P) (toInteger name (Number.toIntWith pick)) where
  run now args hargs h := by
    unfold toInteger
    refine FailsIn.bind inferInstance fun n hn => ?_
    have hwhole := (manageable_arg h 0 _ _ hn).toIntWith pick
    infer_instance

instance instConfinedCeil : ConfinedOn P (Value.Manageable P) (toInteger "ceil" Number.ceil) :=
  confinedOn_toInteger "ceil" Dyadic.ceil

instance instConfinedFloor : ConfinedOn P (Value.Manageable P) (toInteger "floor" Number.floor) :=
  confinedOn_toInteger "floor" Dyadic.floor

instance instConfinedSquareRoot : ConfinedOn P (Value.Manageable P) squareRoot where
  run now args hargs h := by
    unfold squareRoot
    refine FailsIn.bind inferInstance fun n hn => ?_
    have hroot := (manageable_arg h 0 _ _ hn).sqrt
    infer_instance

instance instConfinedInt :
    ConfinedOn P (Value.Manageable P) (ofValue fun v => do return .int (← (← v.number "int").truncate)) where
  run now args hargs h := by
    unfold ofValue
    refine FailsIn.bind inferInstance fun n hn => ?_
    have hwhole : FailsIn P n.truncate := (manageable_arg h 0 _ _ hn).toIntWith Dyadic.truncate
    infer_instance

instance instConfinedFloat :
    ConfinedOn P (Value.Manageable P) (ofValue fun v => do return .float (← (← v.number "float").toFloat)) where
  run now args hargs h := by
    unfold ofValue
    refine FailsIn.bind inferInstance fun n hn => ?_
    have hfloat := (manageable_arg h 0 _ _ hn).toFloat
    infer_instance

/-! Functions on numbers that no number makes fail. -/

instance instConfinedModulo : Confined P modulo where
  run now args hargs := by
    have hremainder : ∀ dividend divisor : Number, FailsIn P
        (match dividend, divisor with
        | .int a, .int b =>
            if b == 0 then throw (refusal "modulo by zero")
            else return .int (Number.modulo a b)
        | _, _ => throw (refusal "modulo arguments must be integers") : Except Fault Value) := by
      intro dividend divisor
      split <;> infer_instance
    unfold modulo
    infer_instance

instance instConfinedAbsolute : Confined P absolute where
  run now args hargs := by
    unfold absolute
    infer_instance

instance instFailsInSpread (v : Value) [FailsIn P v.joined] : FailsIn P (spread v) := by
  unfold spread
  split <;> infer_instance

omit [Admits P] in
theorem joined_of_mem_spread {v w : Value} {parts : List Value} (hv : FailsIn P v.joined)
    (h : spread v = .ok parts) (hw : w ∈ parts) : FailsIn P w.joined := by
  have htexts : (do return (← v.items).map Value.text) = Except.ok parts → FailsIn P w.joined := by
    intro h
    obtain ⟨texts, -, heq⟩ := bind_eq_ok.mp h
    cases heq
    obtain ⟨s, -, rfl⟩ := List.mem_map.mp hw
    infer_instance
  unfold spread at h
  split at h
  · exact htexts h
  · exact htexts h
  · exact htexts h
  · cases h
    rwa [List.mem_singleton.mp hw]

theorem failsIn_numbers (name : String) {args : List Value} (hargs : Readable P args) :
    FailsIn P (numbers name args) := by
  have hspread : FailsIn P (args.mapM spread) := by
    apply FailsIn.mapM
    intro v hv
    have hjoined := hargs.joined v hv
    infer_instance
  unfold numbers
  refine hspread.bind fun flat hflat => ?_
  have hjoined : ∀ parts ∈ flat, ∀ w ∈ parts, FailsIn P w.joined :=
    forall_of_mapM_eq_ok hflat fun v hv parts heq w hw =>
      joined_of_mem_spread (hargs.joined v hv) heq hw
  have hnumbers : FailsIn P (flat.flatten.mapM (·.number name)) := by
    apply FailsIn.mapM
    intro w hw
    obtain ⟨parts, hparts, hw⟩ := List.mem_flatten.mp hw
    have hjoined := hjoined parts hparts w hw
    infer_instance
  dsimp only
  infer_instance

instance instConfinedFold (name : String) (f : List Number → Except Fault Number)
    [∀ ns, FailsIn P (f ns)] : Confined P (fold name f) where
  run now args hargs := by
    have hnumbers := failsIn_numbers name hargs
    unfold fold
    infer_instance

end

/-! Functions that numbers within the floats can bring out of them. -/

section

variable {P : Fault → Prop} [Wide P]

instance instFailsInAdd (a b : Number) : FailsIn P (a.add b) :=
  Number.Manageable.combine (.inl inferInstance) (.inl inferInstance) _ _

instance instConfinedSum :
    Confined P (fold "sum" fun ns => do return (← ns.foldlM Number.add (.int 0)).tidy) :=
  inferInstance

instance instConfinedRound : Confined P round where
  run now args hargs := by
    have hround : ∀ (n : Number) (places : Int), FailsIn P (n.round places) := by
      intro n places
      unfold Number.round
      split
      · split
        · infer_instance
        · dsimp only
          split <;> infer_instance
      · split
        · infer_instance
        · split
          · infer_instance
          · split
            · infer_instance
            · dsimp only
              split
              · infer_instance
              · exact failsIn_error Wide.overflow
    have hwhole : ∀ n : Number, FailsIn P n.truncate := fun n =>
      Number.Manageable.toIntWith (.inl inferInstance) Dyadic.truncate
    unfold round
    infer_instance

theorem confined_power (hzero : P .zeroDivision) : Confined P power where
  run now args hargs := by
    have hfloats : ∀ x y : Float, FailsIn P (Number.powFloat x y) := by
      intro x y
      have hdivision : FailsIn P (.error .zeroDivision : Except Fault Power) :=
        failsIn_error hzero
      have hover : FailsIn P (.error .overflow : Except Fault Power) :=
        failsIn_error Wide.overflow
      unfold Number.powFloat
      infer_instance
    have hpow : ∀ a b : Number, FailsIn P (a.pow b) := by
      intro a b
      have htoFloat : ∀ n : Number, FailsIn P n.toFloat := fun n =>
        Number.Manageable.toFloat (.inl inferInstance)
      unfold Number.pow
      split <;> infer_instance
    unfold power
    refine FailsIn.bind inferInstance fun base _ => FailsIn.bind inferInstance fun exponent _ => ?_
    refine FailsIn.bind inferInstance fun result _ => ?_
    split <;> infer_instance

instance instConfinedRepeated : Confined P repeated where
  run now args hargs := by
    have hover : FailsIn P (throw .overflow : Except Fault Unit) := failsIn_error Wide.overflow
    unfold repeated
    infer_instance

end

end Function

end Stencil
