import Mathlib.Algebra.Group.Nat.Defs
import Stencil.Proofs.Filter.Kept
import Stencil.Proofs.Function.Reading

namespace Stencil.Value

/-! What functions receive for a value. -/

def names (items : List Value) : List Text := items.map fun v => v.representative?.getD []

def joinedNames (items : List Value) : Text := Text.join [','] (names items)

theorem coerce_of_sequence? {v : Value} {items : List Value} (h : v.sequence? = some items) :
    v.coerce = coerceItems items := by
  cases v with
  | list items => cases h; rw [coerce]
  | pages items => cases h; rw [coerce]
  | _ => cases h

theorem coerceItems_of_object {items : List Value} (h : items.any isObject = true) :
    coerceItems items = .ok (.text (joinedNames items)) := by
  rw [coerceItems, if_pos h]
  rfl

theorem coerceItems_of_plain {items : List Value} (h : items.any isObject = false) :
    coerceItems items = list <$> coerceAll items := by
  rw [coerceItems, h, if_neg Bool.false_ne_true]
  rfl

/-! Values come down to plain data, and plain data to itself. -/

section

variable {P : Fault → Prop} {fits : Int → Prop}

theorem yields_coerceAll {items : List Value} (h : ∀ v ∈ items, Yields P (PlainIn fits) v.coerce) :
    Yields P (fun ws => ∀ w ∈ ws, PlainIn fits w) (coerceAll items) := by
  induction items with
  | nil =>
      rw [coerceAll]
      exact .ok (List.forall_mem_nil _)
  | cons v items ih =>
      obtain ⟨hv, hitems⟩ := List.forall_mem_cons.mp h
      rw [coerceAll]
      exact hv.bind fun w hw => (ih hitems).bind fun ws hws =>
        .ok (List.forall_mem_cons.mpr ⟨hw, hws⟩)

theorem yields_coerceItems {items : List Value}
    (h : ∀ v ∈ items, Yields P (PlainIn fits) v.coerce) :
    Yields P (PlainIn fits) (coerceItems items) := by
  rw [coerceItems]
  split
  · exact .ok (.text _)
  · exact (yields_coerceAll h).bind fun ws hws => .ok (.list ws hws)

/-- Values come down to plain data, with no integers but their own. -/
theorem IntegersIn.yields_coerce [Writes P fits] {v : Value} (h : v.IntegersIn fits) :
    Yields P (PlainIn fits) v.coerce := by
  induction h with
  | int i h =>
      rw [coerce]
      exact .ok (.int i h)
  | list items h ih =>
      rw [coerce]
      exact yields_coerceItems ih
  | pages items h ih =>
      rw [coerce]
      exact yields_coerceItems ih
  | map entries hkeys hvalues =>
      have htexts : FailsIn P (formatEntries entries) := failsIn_formatEntries
        (fun entry hentry => (hkeys entry hentry).failsIn_display)
        fun entry hentry => (hvalues entry hentry).failsIn_format
      rw [coerce]
      exact (Yields.of_failsIn htexts).bind fun _ _ => .ok (.text _)
  | _ =>
      simp only [coerce]
      exact .ok (by constructor)

end

theorem formatEntries_ok_iff {entries : List (Value × Value)} :
    (∃ texts, formatEntries entries = .ok texts) ↔
      ∀ entry ∈ entries, (∃ s, entry.1.display = .ok s) ∧ ∃ s, entry.2.format = .ok s := by
  induction entries with
  | nil =>
      rw [formatEntries]
      exact iff_of_true ⟨[], rfl⟩ (List.forall_mem_nil _)
  | cons entry rest ih =>
      obtain ⟨k, v⟩ := entry
      rw [List.forall_mem_cons, ← ih, formatEntries]
      constructor
      · rintro ⟨texts, h⟩
        obtain ⟨key, hkey, h⟩ := bind_eq_ok.mp h
        obtain ⟨s, hs, h⟩ := bind_eq_ok.mp h
        obtain ⟨behind, hbehind, -⟩ := bind_eq_ok.mp h
        exact ⟨⟨⟨key, hkey⟩, s, hs⟩, behind, hbehind⟩
      · rintro ⟨⟨⟨key, hkey⟩, s, hs⟩, behind, hbehind⟩
        dsimp only at hkey hs
        rw [hkey, hs, hbehind]
        exact ⟨_, rfl⟩

/-- Values that functions can receive. A mapping is one where all of it is written out, and a list
without content objects where all its elements are. -/
inductive Coercible : Value → Prop
  | single {v : Value} (hsequence : v.sequence? = none) (hmap : ∀ entries, v ≠ .map entries) :
      Coercible v
  | map {entries : List (Value × Value)}
      (h : ∀ entry ∈ entries, (∃ s, entry.1.display = .ok s) ∧ ∃ s, entry.2.format = .ok s) :
      Coercible (.map entries)
  | named {v : Value} {items : List Value} (hsequence : v.sequence? = some items)
      (hobject : items.any isObject = true) : Coercible v
  | sequence {v : Value} {items : List Value} (hsequence : v.sequence? = some items)
      (hobject : items.any isObject = false) (hitems : ∀ item ∈ items, Coercible item) :
      Coercible v

theorem coerceAll_ok {items : List Value} (h : ∀ item ∈ items, ∃ w, item.coerce = .ok w) :
    ∃ ws, coerceAll items = .ok ws := by
  induction items with
  | nil =>
      rw [coerceAll]
      exact ⟨[], rfl⟩
  | cons item items ih =>
      obtain ⟨⟨w, hw⟩, hitems⟩ := List.forall_mem_cons.mp h
      obtain ⟨ws, hws⟩ := ih hitems
      rw [coerceAll, hw, hws]
      exact ⟨w :: ws, rfl⟩

theorem Coercible.exists_coerce {v : Value} (h : v.Coercible) : ∃ w, v.coerce = .ok w := by
  induction h with
  | @single v hsequence hmap =>
      cases v with
      | list items => cases hsequence
      | pages items => cases hsequence
      | map entries => exact absurd rfl (hmap entries)
      | _ =>
          simp only [coerce]
          exact ⟨_, rfl⟩
  | map h =>
      obtain ⟨texts, htexts⟩ := formatEntries_ok_iff.mpr h
      rw [coerce, htexts]
      exact ⟨_, rfl⟩
  | named hsequence hobject =>
      rw [coerce_of_sequence? hsequence, coerceItems_of_object hobject]
      exact ⟨_, rfl⟩
  | sequence hsequence hobject hitems ih =>
      obtain ⟨ws, hws⟩ := coerceAll_ok ih
      rw [coerce_of_sequence? hsequence, coerceItems_of_plain hobject, hws]
      exact ⟨_, rfl⟩

mutual

theorem coercible_of_coerce (v : Value) {w : Value} (h : v.coerce = .ok w) : v.Coercible := by
  cases v with
  | map entries =>
      rw [coerce] at h
      obtain ⟨texts, htexts, -⟩ := bind_eq_ok.mp h
      exact .map (formatEntries_ok_iff.mp ⟨texts, htexts⟩)
  | list items =>
      rw [coerce] at h
      cases hobject : items.any isObject with
      | true => exact .named rfl hobject
      | false => exact .sequence rfl hobject (coercible_of_coerceItems items hobject h)
  | pages items =>
      rw [coerce] at h
      cases hobject : items.any isObject with
      | true => exact .named rfl hobject
      | false => exact .sequence rfl hobject (coercible_of_coerceItems items hobject h)
  | _ => exact .single rfl fun _ heq => nomatch heq

theorem coercible_of_coerceItems (items : List Value) (hobject : items.any isObject = false)
    {w : Value} (h : coerceItems items = .ok w) : ∀ item ∈ items, item.Coercible := by
  rw [coerceItems_of_plain hobject] at h
  obtain ⟨ws, hws, -⟩ := map_eq_ok.mp h
  exact coercible_of_coerceAll items hws

theorem coercible_of_coerceAll (items : List Value) {ws : List Value}
    (h : coerceAll items = .ok ws) : ∀ item ∈ items, item.Coercible := by
  cases items with
  | nil => exact List.forall_mem_nil _
  | cons item items =>
      rw [coerceAll] at h
      obtain ⟨w, hw, h⟩ := bind_eq_ok.mp h
      obtain ⟨ws', hws, -⟩ := bind_eq_ok.mp h
      exact List.forall_mem_cons.mpr
        ⟨coercible_of_coerce item hw, coercible_of_coerceAll items hws⟩

end

theorem PlainIn.isObject_eq_false {fits : Int → Prop} {v : Value} (h : PlainIn fits v) :
    v.isObject = false := by
  cases h <;> rfl

theorem coerceAll_of_fixed {items : List Value} (h : ∀ item ∈ items, item.coerce = .ok item) :
    coerceAll items = .ok items := by
  induction items with
  | nil => rw [coerceAll]
  | cons item items ih =>
      obtain ⟨hitem, hitems⟩ := List.forall_mem_cons.mp h
      rw [coerceAll, hitem, ih hitems]
      rfl

theorem PlainIn.coerce {fits : Int → Prop} {v : Value} (h : PlainIn fits v) :
    v.coerce = .ok v := by
  induction h with
  | list items hitems ih =>
      have hobject : items.any isObject = false := by
        rw [List.any_eq_false]
        intro v hv
        rw [(hitems v hv).isObject_eq_false]
        exact Bool.false_ne_true
      rw [Value.coerce, coerceItems_of_plain hobject, coerceAll_of_fixed ih]
      rfl
  | _ => rw [Value.coerce]

/-- What functions receive is plain data, and it comes down to itself. -/
theorem coerce_settles (v : Value) :
    ((∃ w, v.coerce = .ok w) ↔ v.Coercible) ∧ FailsIn (· = .outOfDomain) v.coerce ∧
      (v.Legible → v.Coercible) ∧ ∀ w, v.coerce = .ok w → w.Plain ∧ w.coerce = .ok w := by
  refine ⟨⟨fun ⟨_, hw⟩ => coercible_of_coerce v hw, Coercible.exists_coerce⟩, ?_, ?_, ?_⟩
  · have hwrites : Writes (· = .outOfDomain) fun _ => True := writes_of_outOfDomain rfl
    exact (integersIn_of_forall (fun _ => trivial) v).yields_coerce.failsIn
  · intro h
    obtain ⟨w, hw, -⟩ := h.yields_coerce.exists_ok
    exact coercible_of_coerce v hw
  · intro w hw
    have hplain : w.Plain := coerce_plain v hw
    exact ⟨hplain, hplain.coerce⟩

theorem format_int_of_not_writable {i : Int} (h : ¬Writable i) :
    (int i).format = .error .outOfDomain := by
  have hlength : Text.maxDigits < (Nat.repr i.natAbs).toList.length := by
    rw [String.length_toList]
    exact Nat.not_le.mp h
  have hnone : Text.ofInt? i = none := if_pos hlength
  rw [format, digits, hnone]

theorem not_writable_ten_pow : ¬Writable (10 ^ Text.maxDigits : Nat) := by
  unfold Writable
  rw [Int.natAbs_natCast, Nat.length_repr_le_iff (by decide)]
  exact Nat.lt_irrefl _

theorem coerce_lapses :
    ¬ ∀ v : Value, ∃ w, v.coerce = .ok w ∧ w.Plain ∧ w.coerce = .ok w := by
  intro h
  obtain ⟨w, hw, -⟩ := h (.map [(.text ['a'], .int (10 ^ Text.maxDigits : Nat))])
  rw [coerce] at hw
  obtain ⟨texts, htexts, -⟩ := bind_eq_ok.mp hw
  obtain ⟨-, s, hs⟩ := formatEntries_ok_iff.mp ⟨texts, htexts⟩ _ List.mem_cons_self
  rw [format_int_of_not_writable not_writable_ten_pow] at hs
  cases hs

end Stencil.Value
