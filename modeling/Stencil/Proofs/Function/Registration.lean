import Stencil.Function.Registration
import Stencil.Proofs.Text.Table
import Stencil.Proofs.Value.Order

namespace Stencil

namespace Registry

variable {α κ γ : Type} {r : Registry α} {name : Text} {entry : α}

/-! One registration: the entry of its name is replaced, the others stay as they are. -/

/-- A table without two entries of a name, in which every name has the entry that it was registered
with last. -/
structure Holds (r : Registry α) (registered : List (Text × α)) : Prop where
  nodup : (r.entries.map (·.1)).Nodup
  get?_eq : ∀ name, r.get? name = registered.reverse.lookup name

theorem holds_empty (kind : String) : (empty kind : Registry α).Holds [] where
  nodup := List.nodup_nil
  get?_eq _ := rfl

theorem register_of_frozen (h : r.frozen = true) :
    r.register name entry = .error (.frozen r.kind name) := by
  rw [register, if_pos h]

theorem register_of_open {registered : List (Text × α)} (hopen : r.frozen = false)
    (h : r.Holds registered) :
    ∃ entries, r.register name entry = .ok { r with entries } ∧
      Holds { r with entries } (registered ++ [(name, entry)]) := by
  have hlast : ∀ other, (registered ++ [(name, entry)]).reverse.lookup other =
      if other = name then some entry else r.entries.lookup other := by
    intro other
    rw [List.reverse_append, List.reverse_singleton, List.singleton_append, lookup_cons_eq,
      ← h.get?_eq, get?]
  rw [register, hopen, if_neg Bool.false_ne_true]
  split
  · next hany =>
      rw [any_key_iff] at hany
      refine ⟨_, rfl, keys_replaced.symm ▸ h.nodup, fun other => ?_⟩
      rw [hlast, get?, lookup_replaced hany]
  · next hnone =>
      rw [any_key_iff] at hnone
      refine ⟨_, rfl, nodup_appended h.nodup hnone, fun other => ?_⟩
      rw [hlast, get?, lookup_appended hnone]

namespace Holds

variable {registered : List (Text × α)}

theorem mem_entries (h : r.Holds registered) :
    (name, entry) ∈ r.entries ↔ registered.reverse.lookup name = some entry := by
  rw [← h.get?_eq]
  refine ⟨fun hmem => ?_, mem_of_get?⟩
  obtain ⟨front, behind, hsplit⟩ := List.append_of_mem hmem
  have hnodup := h.nodup
  rw [hsplit, List.map_append, List.nodup_append] at hnodup
  refine List.lookup_eq_some_iff.mpr ⟨front, behind, hsplit, fun e he => ?_⟩
  rw [bne_iff_ne]
  exact (hnodup.2.2 e.1 (List.mem_map_of_mem he) name (by simp)).symm

theorem mem_names (h : r.Holds registered) : name ∈ r.names ↔ name ∈ registered.map (·.1) := by
  rw [names, List.mem_mergeSort, ← lookup_isSome_iff_mem, ← get?, h.get?_eq,
    lookup_isSome_iff_mem, List.map_reverse, List.mem_reverse]

theorem pairwise_names (h : r.Holds registered) :
    r.names.Pairwise fun a b => Text.lt a b = true := by
  have hsorted := List.pairwise_mergeSort Text.sorts_le.trans Text.sorts_le.total
    (r.entries.map (·.1))
  have hdistinct : r.names.Nodup := (List.mergeSort_perm _ Text.le).nodup_iff.mpr h.nodup
  exact hsorted.imp₂ (fun _ _ => Text.lt_of_le_of_ne) hdistinct

end Holds

theorem length_names (r : Registry α) : r.names.length = r.size := by
  rw [names, List.length_mergeSort, List.length_map, size]

/-! What the steps of a session register. -/

namespace Step

def named? : Step α κ → Option Text
  | .decorator name => some name
  | _ => none

/-- The registration that a step attempts, with decorators for some names handed out before. -/
def attempt? (given : List Text) : Step α κ → Option (Text × α)
  | .register name entry => some (name, entry)
  | .decorate place entry => given[place]?.map fun name => (name, entry)
  | _ => none

/-- What steps register before the first freeze, in their order. -/
def registrations (given : List Text) : List (Step α κ) → List (Text × α)
  | [] => []
  | .freeze :: _ => []
  | step :: steps =>
      (step.attempt? given).toList ++ registrations (given ++ step.named?.toList) steps

theorem registrations_cons {given : List Text} {step : Step α κ} (h : step ≠ .freeze)
    (steps : List (Step α κ)) :
    registrations given (step :: steps) =
      (step.attempt? given).toList ++ registrations (given ++ step.named?.toList) steps := by
  cases step with
  | freeze => exact absurd rfl h
  | _ => rfl

end Step

namespace Session

variable {s : Session α} {on : Registry α → κ → γ} {step : Step α κ}

theorem step_of_attempt? (h : step.attempt? s.decorators = some (name, entry)) :
    s.step on step = s.register name entry := by
  cases step with
  | register n e =>
      cases h
      rfl
  | decorate place e =>
      obtain ⟨n, hplace, hpair⟩ := Option.map_eq_some_iff.mp h
      cases hpair
      rw [Session.step, hplace]
  | _ => cases h

theorem registry_step (hstep : step ≠ .freeze) (h : step.attempt? s.decorators = none) :
    (s.step on step).1.registry = s.registry := by
  cases step with
  | register n e => cases h
  | decorate place e =>
      rw [Session.step, Option.map_eq_none_iff.mp h]
  | freeze => exact absurd rfl hstep
  | _ => rfl

theorem exists_register (s : Session α) (name : Text) (entry : α) :
    ∃ entries, (s.register name entry : Session α × Reply γ).1 =
      { s with registry := { s.registry with entries } } := by
  rw [Session.register, Registry.register]
  by_cases hfrozen : s.registry.frozen = true
  · rw [if_pos hfrozen]
    exact ⟨s.registry.entries, rfl⟩
  · rw [if_neg hfrozen]
    split
    · next hrun =>
        split at hrun <;> cases hrun <;> exact ⟨_, rfl⟩
    · exact ⟨s.registry.entries, rfl⟩

/-- What a step does to all but the entries. -/
theorem exists_step (on : Registry α → κ → γ) (s : Session α) (step : Step α κ) :
    ∃ entries frozen,
      (s.step on step).1 =
        ⟨⟨s.registry.kind, entries, frozen⟩, s.decorators ++ step.named?.toList⟩ ∧
      (frozen = true ↔ s.registry.frozen = true ∨ step = .freeze) := by
  cases step with
  | register n e =>
      obtain ⟨entries, hregister⟩ := exists_register (γ := γ) s n e
      exact ⟨entries, s.registry.frozen, by simp [Session.step, hregister, Step.named?], by simp⟩
  | decorator n => exact ⟨s.registry.entries, s.registry.frozen, rfl, by simp⟩
  | decorate place e =>
      rw [Session.step]
      split
      · next n _ =>
          obtain ⟨entries, hregister⟩ := exists_register (γ := γ) s n e
          exact ⟨entries, s.registry.frozen, by simp [hregister, Step.named?], by simp⟩
      · exact ⟨s.registry.entries, s.registry.frozen, by simp [Step.named?], by simp⟩
  | freeze => exact ⟨s.registry.entries, true, by simp [Session.step, freeze, Step.named?], by simp⟩
  | call asked =>
      exact ⟨s.registry.entries, s.registry.frozen, by simp [Session.step, Step.named?], by simp⟩

theorem kind_after (s : Session α) (steps : List (Step α κ)) :
    (s.after on steps).registry.kind = s.registry.kind := by
  induction steps generalizing s with
  | nil => rfl
  | cons step steps ih =>
      obtain ⟨_, _, hstep, -⟩ := exists_step on s step
      rw [after, List.foldl_cons, ← after, ih, hstep]

theorem decorators_after (s : Session α) (steps : List (Step α κ)) :
    (s.after on steps).decorators = s.decorators ++ steps.filterMap Step.named? := by
  induction steps generalizing s with
  | nil => exact (List.append_nil _).symm
  | cons step steps ih =>
      obtain ⟨_, _, hstep, -⟩ := exists_step on s step
      rw [after, List.foldl_cons, ← after, ih, hstep, List.filterMap_cons, List.append_assoc]
      cases step.named? <;> rfl

theorem frozen_after (s : Session α) (steps : List (Step α κ)) :
    (s.after on steps).registry.frozen = true ↔
      s.registry.frozen = true ∨ Step.freeze ∈ steps := by
  induction steps generalizing s with
  | nil => simp [after]
  | cons step steps ih =>
      obtain ⟨_, _, hstep, hfrozen⟩ := exists_step on s step
      rw [after, List.foldl_cons, ← after, ih, hstep, hfrozen, List.mem_cons, or_assoc,
        eq_comm (a := step)]

/-! An open registry holds what has been registered, a frozen one stays what it is. -/

section

variable {earlier : List (Text × α)}

theorem register_open (hopen : s.registry.frozen = false) (h : s.registry.Holds earlier) :
    (s.register name entry : Session α × Reply γ).2 = .done ∧
      (s.register name entry : Session α × Reply γ).1.registry.Holds
        (earlier ++ [(name, entry)]) := by
  obtain ⟨entries, hregister, hholds⟩ := register_of_open hopen h
  rw [Session.register, hregister]
  exact ⟨rfl, hholds⟩

theorem holds_step (on : Registry α → κ → γ) (hopen : s.registry.frozen = false)
    (h : s.registry.Holds earlier) (hstep : step ≠ .freeze) :
    (s.step on step).1.registry.Holds (earlier ++ (step.attempt? s.decorators).toList) := by
  cases hattempt : step.attempt? s.decorators with
  | none =>
      rw [registry_step hstep hattempt, Option.toList_none, List.append_nil]
      exact h
  | some attempt =>
      rw [step_of_attempt? hattempt]
      exact (register_open hopen h).2

theorem register_refused (h : s.registry.frozen = true) :
    (s.register name entry : Session α × Reply γ) =
      (s, .refused (.frozen s.registry.kind name)) := by
  rw [Session.register, register_of_frozen h]

theorem step_freeze_of_frozen (h : s.registry.frozen = true) :
    s.step on .freeze = (s, .done) := by
  rw [Session.step, freeze, ← h]

theorem registry_step_of_frozen (on : Registry α → κ → γ) (h : s.registry.frozen = true)
    (step : Step α κ) : (s.step on step).1.registry = s.registry := by
  by_cases hstep : step = .freeze
  · rw [hstep, step_freeze_of_frozen h]
  · cases hattempt : step.attempt? s.decorators with
    | none => exact registry_step hstep hattempt
    | some attempt => rw [step_of_attempt? hattempt, register_refused h]

theorem registry_after_of_frozen (on : Registry α → κ → γ) (h : s.registry.frozen = true)
    (steps : List (Step α κ)) : (s.after on steps).registry = s.registry := by
  induction steps generalizing s with
  | nil => rfl
  | cons step steps ih =>
      have hregistry := registry_step_of_frozen on h step
      rw [after, List.foldl_cons, ← after, ih (hregistry ▸ h), hregistry]

theorem holds_after (hopen : s.registry.frozen = false) (h : s.registry.Holds earlier)
    (steps : List (Step α κ)) :
    (s.after on steps).registry.Holds (earlier ++ Step.registrations s.decorators steps) := by
  induction steps generalizing s earlier with
  | nil => rwa [Step.registrations, List.append_nil]
  | cons step steps ih =>
      by_cases hstep : step = .freeze
      · subst hstep
        rw [Step.registrations, List.append_nil, after, List.foldl_cons, ← after,
          registry_after_of_frozen on rfl]
        exact ⟨h.nodup, h.get?_eq⟩
      · obtain ⟨_, _, hafter, hfrozen⟩ := exists_step on s step
        have hholds := holds_step on hopen h hstep
        have hstill : (s.step on step).1.registry.frozen = false := by
          rw [hafter]
          exact Bool.eq_false_iff.mpr (by simp [hfrozen, hopen, hstep])
        have hrest := ih hstill hholds
        rw [List.append_assoc, hafter] at hrest
        rw [Step.registrations_cons hstep, after, List.foldl_cons, ← after, hafter]
        exact hrest

end

/-- A session holds what was registered before the first freeze. From then on it takes no
registration and answers as before. -/
theorem frozen_for_good (on : Registry α → κ → γ) (kind : String) (steps : List (Step α κ)) :
    let s := (start kind).after on steps
    let registered := Step.registrations [] steps
    (∀ name, s.registry.get? name = registered.reverse.lookup name) ∧
    (∀ name entry, (name, entry) ∈ s.registry.entries ↔
      registered.reverse.lookup name = some entry) ∧
    (∀ name, name ∈ s.registry.names ↔ name ∈ registered.map (·.1)) ∧
    s.registry.names.Pairwise (fun a b => Text.lt a b = true) ∧
    s.registry.names.length = s.registry.size ∧
    (s.registry.frozen = true ↔ .freeze ∈ steps) ∧
    (∀ (step : Step α κ) (name : Text) (entry : α),
      step.attempt? (steps.filterMap Step.named?) = some (name, entry) →
      (.freeze ∈ steps → s.step on step = (s, .refused (.frozen kind.toList name))) ∧
      (.freeze ∉ steps → (s.step on step).2 = .done)) ∧
    (.freeze ∈ steps → s.step on .freeze = (s, .done) ∧
      ∀ later, (s.after on later).registry = s.registry ∧
        ∀ asked, ((s.after on later).step on (.call asked)).2 =
          (s.step on (.call asked)).2) := by
  intro s registered
  have hholds : s.registry.Holds registered :=
    holds_after (s := start kind) rfl (holds_empty kind) steps
  have hkind : s.registry.kind = kind.toList := kind_after (start kind) steps
  have hdecorators : s.decorators = steps.filterMap Step.named? :=
    decorators_after (start kind) steps
  have hfrozen : s.registry.frozen = true ↔ .freeze ∈ steps := by
    rw [frozen_after (start kind) steps]
    exact or_iff_right Bool.false_ne_true
  refine ⟨hholds.get?_eq, fun _ _ => hholds.mem_entries, fun _ => hholds.mem_names,
    hholds.pairwise_names, length_names s.registry, hfrozen, fun step name entry hattempt => ?_,
    fun hmem => ⟨step_freeze_of_frozen (hfrozen.mpr hmem), fun later => ?_⟩⟩
  · rw [← hdecorators] at hattempt
    rw [step_of_attempt? hattempt]
    refine ⟨fun hmem => ?_, fun hnone => ?_⟩
    · rw [register_refused (hfrozen.mpr hmem), hkind]
    · have hopen := Bool.eq_false_iff.mpr (hnone ∘ hfrozen.mp)
      exact (register_open hopen hholds).1
  · have hsame := registry_after_of_frozen on (hfrozen.mpr hmem) later
    exact ⟨hsame, fun asked => by rw [Session.step, Session.step, hsame]⟩

/-- A function that is registered twice, by name and by a decorator, which is applied again after
the freeze. -/
def greeting : List (Step Function (Text × List Value)) :=
  [.decorator "greet".toList, .register "greet".toList (.mapText fun _ => "hello".toList),
    .decorate 0 (.mapText fun _ => "hi".toList), .freeze,
    .decorate 0 (.mapText fun _ => "bye".toList)]

def answer (functions : Registry Function) (asked : Text × List Value) : Except Fault Value :=
  Function.call functions .epoch asked.1 asked.2

theorem frozen_for_good_greeting :
    let s := (start "function").after answer greeting
    .freeze ∈ greeting ∧ s.registry.names.length = 1 ∧
    s.step answer (.decorate 0 (.mapText fun _ => "bye".toList)) =
      (s, .refused (.frozen "function".toList "greet".toList)) ∧
    ∀ later, ((s.after answer later).step answer (.call ("greet".toList, []))).2 =
      .gives (.ok (.text "hi".toList)) := by
  intro s
  obtain ⟨-, -, -, -, hlength, -, hrefused, hlater⟩ := frozen_for_good answer "function" greeting
  have hmem : Step.freeze ∈ greeting := by simp [greeting]
  refine ⟨hmem, hlength, (hrefused _ _ _ rfl).1 hmem, fun later => ?_⟩
  exact ((hlater hmem).2 later).2 ("greet".toList, [])

end Session

end Registry

end Stencil
