import Stencil.Proofs.Eval.Expression
import Stencil.Proofs.Filter.Kept

namespace Stencil

/-! A pipeline does what those of its directives do that name a filter and fit it. -/

namespace Eval

/-- An evaluation that results in `r`, whatever notes were taken before. -/
def Ends (x : Eval α) (r : Except Fault α) : Prop := ∀ log, ((ExceptT.run x).run log).1 = r

section

variable {x : Eval α} {r : Except Fault α}

theorem Ends.result (h : x.Ends r) : x.result = r := h []

theorem ends_pure (a : α) : (pure a : Eval α).Ends (.ok a) := fun _ => rfl

theorem ends_ofExcept (r : Except Fault α) : (ofExcept r).Ends r := fun _ => rfl

theorem ends_note (level : Level) (source : String) (message : Text) :
    (note level source message).Ends (.ok ()) := fun _ => rfl

theorem Ends.bind {f : α → Eval β} {g : α → Except Fault β} (hx : x.Ends r)
    (hf : ∀ a, (f a).Ends (g a)) : (x >>= f).Ends (r >>= g) := by
  intro log
  rw [run_bind, ← hx log]
  rcases (ExceptT.run x).run log with ⟨_ | a, notes⟩
  · rfl
  · exact hf a notes

theorem Ends.bind_ok {a : α} {f : α → Eval β} {s : Except Fault β} (hx : x.Ends (.ok a))
    (hf : (f a).Ends s) : (x >>= f).Ends s := by
  intro log
  have ha := hx log
  rw [run_bind]
  rcases h : (ExceptT.run x).run log with ⟨_, notes⟩
  rw [h] at ha
  cases ha
  exact hf notes

theorem ends_mapM {g : α → Eval β} {meaning : α → β} (h : ∀ a, (g a).Ends (.ok (meaning a)))
    (items : List α) : (items.mapM g).Ends (.ok (items.map meaning)) := by
  induction items with
  | nil => exact ends_pure []
  | cons a items ih =>
      rw [List.mapM_cons]
      exact (h a).bind_ok (ih.bind_ok (ends_pure _))

end

end Eval

namespace Filter

def Takes (f : Filter) (count : Nat) : Prop :=
  f.required.length ≤ count ∧ count ≤ f.required.length + f.optional

instance (f : Filter) (count : Nat) : Decidable (f.Takes count) :=
  inferInstanceAs (Decidable (_ ∧ _))

theorem misfit?_eq_none_iff {f : Filter} {count : Nat} :
    f.misfit? count = none ↔ f.Takes count := by
  unfold misfit? Function.misfit? Takes
  by_cases hshort : count < f.required.length
  · rw [List.getElem?_eq_getElem hshort]
    exact iff_of_false (Option.some_ne_none _) fun h => Nat.not_le.mpr hshort h.1
  · rw [List.getElem?_eq_none (Nat.le_of_not_lt hshort)]
    simp only [ite_eq_right_iff, reduceCtorEq, imp_false, Nat.not_lt]
    exact ⟨fun h => ⟨Nat.le_of_not_lt hshort, h⟩, And.right⟩

def fold (calls : List (Filter × List Value)) (v : Value) : Except Fault Value :=
  calls.foldlM (fun v call => call.1.run call.2 v) v

/-- Filters that keep integers in `fits` give a value, if what is counted on the way is in `fits`
too. -/
theorem fold_eq_ok {fits : Int → Prop} {calls : List (Filter × List Value)}
    (hcalls : ∀ call ∈ calls,
      Keeps (fun _ => False) fits call.1 ∧ ∀ a ∈ call.2, a.IntegersIn fits)
    {v : Value} (hv : v.IntegersIn fits)
    (hcount : ∀ before, before <+: calls → ∀ w, fold before v = .ok w → Countable fits w) :
    ∃ w, fold calls v = .ok w ∧ w.IntegersIn fits := by
  induction calls generalizing v with
  | nil => exact ⟨v, rfl, hv⟩
  | cons call calls ih =>
      obtain ⟨⟨hkeeps, hargs⟩, hrest⟩ := List.forall_mem_cons.mp hcalls
      have hcountable : Countable fits v := hcount [] List.nil_prefix v rfl
      obtain ⟨w, hw, hfits⟩ := (hkeeps.run call.2 v hargs hv hcountable).exists_ok
      have hfold : ∀ rest, fold (call :: rest) v = fold rest w := by
        intro rest
        rw [fold, List.foldlM_cons, hw]
        rfl
      rw [hfold]
      refine ih hrest hfits fun before hbefore u hu => ?_
      exact hcount (call :: before) (List.prefix_cons_inj call |>.mpr hbefore) u
        ((hfold before).trans hu)

end Filter

namespace Template

open Text

def readDirective (directive : Text) : Text × List Text :=
  match parseCall directive with
  | some (name, raw) => (name, splitArguments raw)
  | none => (trim directive, [])

/-- The filter that a directive names, with the arguments as they are written, if it takes so
many. -/
def usable? (filters : Registry Filter) (directive : Text) : Option (Filter × List Text) :=
  let read := readDirective directive
  (filters.get? read.1).bind fun f => if f.Takes read.2.length then some (f, read.2) else none

/-- The filters that a pipeline comes down to, with arguments that mean what `meaning` says. -/
def usableCalls (filters : Registry Filter) (meaning : Text → Value) (directives : List Text) :
    List (Filter × List Value) :=
  (directives.filterMap (usable? filters)).map fun (f, raws) => (f, raws.map meaning)

section

variable {filters : Registry Filter} {resolve : Text → Eval Value} {meaning : Text → Value}
  {directive : Text} {rest : List Text}

theorem usable?_of_unknown (h : filters.get? (readDirective directive).1 = none) :
    usable? filters directive = none := by
  rw [usable?, h]
  rfl

theorem usable?_of_known {f : Filter} (h : filters.get? (readDirective directive).1 = some f) :
    usable? filters directive =
      if f.Takes (readDirective directive).2.length then some (f, (readDirective directive).2)
      else none := by
  rw [usable?, h]
  rfl

theorem usableCalls_cons_of_none (h : usable? filters directive = none) :
    usableCalls filters meaning (directive :: rest) = usableCalls filters meaning rest := by
  rw [usableCalls, List.filterMap_cons_none h]
  rfl

theorem usableCalls_cons_of_some {f : Filter} {raws : List Text}
    (h : usable? filters directive = some (f, raws)) :
    usableCalls filters meaning (directive :: rest) =
      (f, raws.map meaning) :: usableCalls filters meaning rest := by
  rw [usableCalls, List.filterMap_cons_some h]
  rfl

theorem applyFilters_cons (v : Value) :
    applyFilters filters resolve (directive :: rest) v =
      (readDirective directive).2.mapM resolve >>=
        applyRead filters resolve rest v (readDirective directive).1 := by
  unfold readDirective
  cases hcall : parseCall directive with
  | none =>
      rw [applyFilters_of_name rest v hcall, List.mapM_nil]
      rfl
  | some found => exact applyFilters_of_call rest v hcall

theorem applyFilters_ends (hresolve : ∀ raw, (resolve raw).Ends (.ok (meaning raw)))
    (directives : List Text) (v : Value) :
    (applyFilters filters resolve directives v).Ends
      (Filter.fold (usableCalls filters meaning directives) v) := by
  induction directives generalizing v with
  | nil =>
      rw [applyFilters]
      exact Eval.ends_pure v
  | cons directive rest ih =>
      rw [applyFilters_cons]
      refine (Eval.ends_mapM hresolve _).bind_ok ?_
      unfold applyRead
      cases hname : filters.get? (readDirective directive).1 with
      | none =>
          rw [usableCalls_cons_of_none (usable?_of_unknown hname)]
          exact (Eval.ends_note _ _ _).bind_ok (ih v)
      | some f =>
          have husable := usable?_of_known hname
          dsimp only
          rw [List.length_map]
          cases hmisfit : f.misfit? (readDirective directive).2.length with
          | some reason =>
              have hfits : ¬f.Takes (readDirective directive).2.length := by
                rw [← Filter.misfit?_eq_none_iff, hmisfit]
                exact Option.some_ne_none reason
              rw [if_neg hfits] at husable
              rw [usableCalls_cons_of_none husable]
              exact (Eval.ends_note _ _ _).bind_ok (ih v)
          | none =>
              rw [if_pos (Filter.misfit?_eq_none_iff.mp hmisfit)] at husable
              rw [usableCalls_cons_of_some husable, Filter.fold, List.foldlM_cons]
              exact (Eval.ends_ofExcept _).bind ih

theorem keeps_of_mem_usableCalls {P : Fault → Prop} {fits : Int → Prop} (hzero : fits 0)
    [Writes P fits] (hmeaning : ∀ raw, (meaning raw).IntegersIn fits) {directives : List Text} :
    ∀ call ∈ usableCalls Filter.standard meaning directives,
      Filter.Keeps P fits call.1 ∧ ∀ a ∈ call.2, a.IntegersIn fits := by
  intro call hcall
  obtain ⟨⟨f, raws⟩, hmem, rfl⟩ := List.mem_map.mp hcall
  obtain ⟨directive, -, husable⟩ := List.mem_filterMap.mp hmem
  obtain ⟨g, hg, htakes⟩ := Option.bind_eq_some_iff.mp husable
  split at htakes
  · cases htakes
    refine ⟨Filter.keeps_standard hzero hg, fun a ha => ?_⟩
    obtain ⟨raw, -, rfl⟩ := List.mem_map.mp ha
    exact hmeaning raw
  · cases htakes

end

/-- No standard filter fails, whatever the value, the directives and what the arguments mean, and
the value that comes out is the one that the usable directives alone make of it. Integers and
lengths that are counted on the way have to be short enough to be written out, as in memory they
are. -/
theorem applyFilters_standard {resolve : Text → Eval Value} {meaning : Text → Value}
    (hresolve : ∀ raw, (resolve raw).Ends (.ok (meaning raw)))
    (hmeaning : ∀ raw, (meaning raw).Legible) (directives : List Text) {v : Value}
    (hv : v.Legible)
    (hcount : ∀ before, before <+: directives → ∀ w,
      (applyFilters Filter.standard resolve before v).result = .ok w →
        Filter.Countable Value.Writable w) :
    ∃ w, (applyFilters Filter.standard resolve directives v).Ends (.ok w) ∧
      Filter.fold (usableCalls Filter.standard meaning directives) v = .ok w ∧ w.Legible := by
  have hzero : Value.Writable 0 := Value.writable_of_lt (by decide)
  have hprefix : ∀ before, before <+: usableCalls Filter.standard meaning directives → ∀ w,
      Filter.fold before v = .ok w → Filter.Countable Value.Writable w := by
    intro before hbefore w hw
    obtain ⟨calls, hcalls, rfl⟩ := List.prefix_map_iff.mp hbefore
    obtain ⟨front, hfront, rfl⟩ := List.prefix_filterMap_iff.mp hcalls
    exact hcount front hfront w ((applyFilters_ends hresolve front v).result.trans hw)
  obtain ⟨w, hw, hlegible⟩ :=
    Filter.fold_eq_ok (keeps_of_mem_usableCalls hzero hmeaning) hv hprefix
  exact ⟨w, hw ▸ applyFilters_ends hresolve directives v, hw, hlegible⟩

/-- A directive without a filter, one with an argument too many, and one that counts. -/
def mixedDirectives : List Text := ["nosuch(1)".toList, "min(1, 2)".toList, "size".toList]

theorem applyFilters_standard_mixed :
    ∃ w, (applyFilters Filter.standard (fun _ => pure (.int 2)) mixedDirectives
        (.text "ab".toList)).Ends (.ok w) ∧
      Filter.fold (usableCalls Filter.standard (fun _ => .int 2) mixedDirectives)
        (.text "ab".toList) = .ok w ∧ w.Legible := by
  have hresolve : ∀ raw : Text, (pure (.int 2) : Eval Value).Ends (.ok (.int 2)) :=
    fun _ => Eval.ends_pure _
  have hmin : ¬Filter.atMost.Takes 2 := by decide
  have hcalls : usableCalls Filter.standard (fun _ => .int 2) mixedDirectives =
      [(.plain fun v => .ok (Filter.size v), [])] := by
    have hunknown : usable? Filter.standard "nosuch(1)".toList = none := usable?_of_unknown rfl
    have hmisfit : usable? Filter.standard "min(1, 2)".toList = none :=
      (usable?_of_known rfl).trans (if_neg hmin)
    rw [mixedDirectives, usableCalls_cons_of_none hunknown, usableCalls_cons_of_none hmisfit]
    exact usableCalls_cons_of_some ((usable?_of_known rfl).trans (if_pos (by decide)))
  refine applyFilters_standard hresolve (fun _ => .int 2 (Value.writable_of_lt (by decide)))
    mixedDirectives (.text _) fun before hbefore w hw => ?_
  rw [(applyFilters_ends hresolve before _).result] at hw
  have hfront : usableCalls Filter.standard (fun _ => .int 2) before <+:
      [(.plain fun v => .ok (Filter.size v), [])] :=
    hcalls ▸ (hbefore.filterMap _).map _
  rcases List.prefix_cons_iff.mp hfront with hnone | ⟨rest, hsize, hrest⟩
  · rw [hnone] at hw
    cases hw
    refine ⟨.int 2 (Value.writable_of_lt (by decide)), fun s hs => ?_⟩
    cases hs
    exact Value.writable_of_lt (by decide)
  · cases List.prefix_nil.mp hrest
    rw [hsize] at hw
    cases hw
    have hdigits : Value.format (.int 2) = .ok ['2'] := rfl
    refine ⟨.int 0 (Value.writable_of_lt (by decide)), fun s hs => ?_⟩
    cases hdigits.symm.trans hs
    exact Value.writable_of_lt (by decide)

end Template

end Stencil
