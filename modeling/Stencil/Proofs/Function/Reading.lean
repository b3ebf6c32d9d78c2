import Stencil.Function.Basic
import Stencil.Proofs.Eval.Result

namespace Stencil

/-! Computations whose failures are known, and what a function reads from its arguments. -/

def Fault.Refusal : Fault → Prop
  | .badArguments _ => True
  | _ => False

class Admits (P : Fault → Prop) : Prop where
  badArguments : ∀ message, P (.badArguments message)

instance : Admits Fault.Refusal := ⟨fun _ => trivial⟩

/-- Refusals, and the faults of arithmetic and of reading numbers and addresses. -/
class Wide (P : Fault → Prop) : Prop extends Admits P where
  overflow : P .overflow
  outOfDomain : P .outOfDomain

/-- A computation that fails with the faults of `P` only. -/
class FailsIn (P : Fault → Prop) (x : Except Fault α) : Prop where
  of_eq_error : ∀ e, x = .error e → P e

section

variable {P : Fault → Prop} {x : Except Fault α}

instance instFailsInOk (a : α) : FailsIn P (.ok a : Except Fault α) := ⟨fun _ h => nomatch h⟩

instance instFailsInPure (a : α) : FailsIn P (pure a : Except Fault α) := instFailsInOk a

theorem failsIn_error {e : Fault} (h : P e) : FailsIn P (.error e : Except Fault α) := by
  constructor
  intro e' heq
  cases heq
  exact h

instance instFailsInRefusal [Admits P] (message : Text) :
    FailsIn P (.error (.badArguments message) : Except Fault α) :=
  failsIn_error (Admits.badArguments message)

instance instFailsInThrow [Admits P] (reason : String) :
    FailsIn P (throw (Function.refusal reason) : Except Fault α) :=
  failsIn_error (Admits.badArguments reason.toList)

theorem FailsIn.bind {f : α → Except Fault β} (hx : FailsIn P x)
    (hf : ∀ a, x = .ok a → FailsIn P (f a)) : FailsIn P (x >>= f) := by
  cases x with
  | error e => exact failsIn_error (hx.of_eq_error e rfl)
  | ok a => exact hf a rfl

instance instFailsInBind {f : α → Except Fault β} [hx : FailsIn P x]
    [hf : ∀ a, FailsIn P (f a)] : FailsIn P (x >>= f) := hx.bind fun a _ => hf a

instance instFailsInMap (f : α → β) [hx : FailsIn P x] : FailsIn P (f <$> x) := by
  rw [← bind_pure_comp]
  infer_instance

instance instFailsInIte {c : Prop} [Decidable c] {y : Except Fault α} [FailsIn P x]
    [FailsIn P y] : FailsIn P (if c then x else y) := by
  split <;> infer_instance

theorem FailsIn.of_map {f : α → β} (h : FailsIn P (f <$> x)) : FailsIn P x := by
  constructor
  intro e he
  rw [he] at h
  exact h.of_eq_error e rfl

theorem FailsIn.mono {Q : Fault → Prop} (h : FailsIn P x) (hPQ : ∀ e, P e → Q e) :
    FailsIn Q x := ⟨fun e he => hPQ e (h.of_eq_error e he)⟩

instance instFailsInFoldlM {items : List α} (f : β → α → Except Fault β) (b : β)
    [hf : ∀ b a, FailsIn P (f b a)] : FailsIn P (items.foldlM f b) := by
  induction items generalizing b with
  | nil => exact instFailsInPure b
  | cons a items ih =>
      rw [List.foldlM_cons]
      exact (hf b a).bind fun b' _ => ih b'

theorem FailsIn.mapM {items : List α} {f : α → Except Fault β}
    (h : ∀ a ∈ items, FailsIn P (f a)) : FailsIn P (items.mapM f) := by
  induction items with
  | nil => exact instFailsInPure []
  | cons a items ih =>
      rw [List.mapM_cons]
      have ha := h a List.mem_cons_self
      have hrest := ih fun b hb => h b (List.mem_cons_of_mem _ hb)
      infer_instance

end

/-! Plain data: what an evaluated argument comes down to. -/

namespace Value

/-- A text, a flag, a number, a moment, a day, or a list of such values, with integers that are all
in `fits`. -/
inductive PlainIn (fits : Int → Prop) : Value → Prop
  | text (s : Text) : PlainIn fits (.text s)
  | bool (b : Bool) : PlainIn fits (.bool b)
  | int (i : Int) (h : fits i) : PlainIn fits (.int i)
  | float (f : Float) : PlainIn fits (.float f)
  | moment (m : Moment) : PlainIn fits (.moment m)
  | date (d : Date) : PlainIn fits (.date d)
  | list (items : List Value) (h : ∀ v ∈ items, PlainIn fits v) : PlainIn fits (.list items)

def Plain : Value → Prop := PlainIn fun _ => True

def Short : Value → Prop := PlainIn fun i => (Text.ofInt? i).isSome

def Bounded : Value → Prop
  | .float f => (Dyadic.ofFloat? f).isSome ∨ f.isNaN
  | _ => True

mutual

theorem coerce_plain (v : Value) {w : Value} (h : v.coerce = .ok w) : w.Plain := by
  cases v with
  | map entries =>
      rw [Value.coerce] at h
      obtain ⟨texts, -, heq⟩ := bind_eq_ok.mp h
      cases heq
      exact .text _
  | list items =>
      rw [Value.coerce] at h
      exact coerceItems_plain items h
  | pages items =>
      rw [Value.coerce] at h
      exact coerceItems_plain items h
  | _ =>
      simp only [Value.coerce, Except.ok.injEq] at h
      cases h
      constructor <;> trivial

theorem coerceItems_plain (items : List Value) {w : Value} (h : Value.coerceItems items = .ok w) :
    w.Plain := by
  unfold Value.coerceItems at h
  split at h
  · cases h
    exact .text _
  · obtain ⟨ws, hws, heq⟩ := bind_eq_ok.mp h
    cases heq
    exact .list ws (coerceAll_plain items hws)

theorem coerceAll_plain (vs : List Value) {ws : List Value} (h : Value.coerceAll vs = .ok ws) :
    ∀ w ∈ ws, w.Plain := by
  cases vs with
  | nil =>
      rw [Value.coerceAll] at h
      cases h
      exact fun _ hmem => nomatch hmem
  | cons v vs =>
      rw [Value.coerceAll] at h
      obtain ⟨w, hw, hrest⟩ := bind_eq_ok.mp h
      obtain ⟨ws', hws, heq⟩ := bind_eq_ok.mp hrest
      cases heq
      exact List.forall_mem_cons.mpr ⟨coerce_plain v hw, coerceAll_plain vs hws⟩

end

end Value

/-! Reading plain data as a text, as texts and as a whole number. -/

section

variable {P : Fault → Prop}

namespace Value

theorem failsIn_joinedAll {vs : List Value} (h : ∀ v ∈ vs, FailsIn P v.joined) :
    FailsIn P (joinedAll vs) := by
  induction vs with
  | nil =>
      rw [joinedAll]
      infer_instance
  | cons v vs ih =>
      rw [joinedAll]
      have hv := h v List.mem_cons_self
      have hvs := ih fun w hw => h w (List.mem_cons_of_mem _ hw)
      infer_instance

theorem PlainIn.failsIn_joined {fits : Int → Prop} (hfits : ∀ i, fits i → FailsIn P (digits i))
    {v : Value} (h : PlainIn fits v) : FailsIn P v.joined := by
  induction h with
  | int i h => exact hfits i h
  | list items h ih =>
      rw [joined]
      have hitems := failsIn_joinedAll ih
      infer_instance
  | _ => exact instFailsInOk _

theorem digits_failsIn (h : P .outOfDomain) (i : Int) : FailsIn P (digits i) := by
  unfold digits
  split
  · infer_instance
  · exact failsIn_error h

theorem digits_failsIn_of_isSome {i : Int} (h : (Text.ofInt? i).isSome) :
    FailsIn P (digits i) := by
  obtain ⟨s, hs⟩ := Option.isSome_iff_exists.mp h
  rw [digits, hs]
  infer_instance

theorem wholeNumber?_failsIn {v : Value} (h : P .overflow ∨ v.Bounded) :
    FailsIn P v.wholeNumber? := by
  cases v with
  | float f =>
      rw [wholeNumber?]
      cases hf : Dyadic.ofFloat? f with
      | some d =>
          have htruncate : (Number.float f).truncate = .ok d.truncate := by
            simp only [Number.truncate, Number.toIntWith, hf]
          rw [htruncate]
          infer_instance
      | none =>
          cases hnan : f.isNaN with
          | true =>
              have htruncate : (Number.float f).truncate = .error .outOfDomain := by
                simp only [Number.truncate, Number.toIntWith, hf, hnan, if_true]
              rw [htruncate]
              infer_instance
          | false =>
              have htruncate : (Number.float f).truncate = .error .overflow := by
                simp only [Number.truncate, Number.toIntWith, hf, hnan, Bool.false_eq_true,
                  if_false]
              rw [htruncate]
              rcases h with hP | hbounded
              · exact failsIn_error hP
              · rw [Bounded, hf, hnan] at hbounded
                cases hbounded with
                | inl hfinite => cases hfinite
                | inr hnan => cases hnan
  | _ => exact instFailsInOk _

theorem Plain.failsIn_joined {v : Value} (h : v.Plain) (hP : P .outOfDomain) :
    FailsIn P v.joined :=
  PlainIn.failsIn_joined (fun i _ => digits_failsIn hP i) h

theorem Short.failsIn_joined {v : Value} (h : v.Short) : FailsIn P v.joined :=
  PlainIn.failsIn_joined (fun _ => digits_failsIn_of_isSome) h

instance instFailsInJoinedNil : FailsIn P Value.nil.joined := instFailsInOk []

instance instFailsInJoinedText (s : Text) : FailsIn P (Value.text s).joined := instFailsInOk s

instance instFailsInJoinedBool (b : Bool) : FailsIn P (Value.bool b).joined := instFailsInOk _

instance instFailsInWholeNumberText (s : Text) : FailsIn P (Value.text s).wholeNumber? :=
  instFailsInOk _

instance instFailsInWholeNumberInt (i : Int) : FailsIn P (Value.int i).wholeNumber? :=
  instFailsInOk _

instance instFailsInCount (default : Int) (v : Value) [FailsIn P v.wholeNumber?] :
    FailsIn P (v.count default) := by
  unfold count
  infer_instance

instance instFailsInItems (v : Value) [hjoined : FailsIn P v.joined] : FailsIn P v.items := by
  unfold items
  split
  · next vs hvs =>
      cases v with
      | list items =>
          cases hvs
          rw [joined, bind_pure_comp] at hjoined
          exact hjoined.of_map
      | pages items =>
          cases hvs
          rw [joined, bind_pure_comp] at hjoined
          exact hjoined.of_map
      | _ => cases hvs
  · infer_instance

instance instFailsInNumber [Admits P] (caller : String) (v : Value) [FailsIn P v.joined] :
    FailsIn P (v.number caller) := by
  unfold number
  dsimp only
  split
  · infer_instance
  · infer_instance
  · infer_instance
  · have hread : ∀ s : Text, FailsIn P
        (match Text.toInt? (Text.trim s) with
        | some i => return .int i
        | none =>
            match Text.toFloat? (Text.trim s) with
            | some f => return .float f
            | none => .error (.badArguments (caller.toList ++ " arguments must be numeric".toList)) :
          Except Fault Number) := by
      intro s
      split
      · infer_instance
      · split <;> infer_instance
    infer_instance

end Value

/-! The arguments of a call. -/

/-- Arguments that can be read as texts and as whole numbers, or else with a fault of `P`. -/
class Function.Readable (P : Fault → Prop) (args : List Value) : Prop where
  joined : ∀ v ∈ args, FailsIn P v.joined
  wholeNumber? : ∀ v ∈ args, FailsIn P v.wholeNumber?

namespace Function

theorem arg_of_forall {R : Value → Prop} {args : List Value} {default : Value}
    (hdefault : R default) (h : ∀ v ∈ args, R v) (i : Nat) : R (arg args i default) := by
  unfold arg
  cases hv : args[i]? with
  | none => exact hdefault
  | some v => exact h v (List.mem_of_getElem? hv)

instance instFailsInJoinedArg (args : List Value) [h : Readable P args] (i : Nat)
    (default : Value) [hdefault : FailsIn P default.joined] :
    FailsIn P (arg args i default).joined := arg_of_forall hdefault h.joined i

instance instFailsInWholeNumberArg (args : List Value) [h : Readable P args] (i : Nat)
    (default : Value) [hdefault : FailsIn P default.wholeNumber?] :
    FailsIn P (arg args i default).wholeNumber? := arg_of_forall hdefault h.wholeNumber? i

end Function

end

end Stencil
