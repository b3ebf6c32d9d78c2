import Stencil.Proofs.Function.Absolute
import Stencil.Proofs.Site.Settings
import Stencil.Proofs.Text.Table
import Stencil.Proofs.Value.Order
import Stencil.Site.Menu

namespace Stencil.Menu

open Value
open Config (Counts)

/-! The weight of an entry. -/

/-- What an entry weighs: nothing where its weight counts as nothing or is no whole number. -/
inductive Weighs : Value → Int → Prop
  | falsy {v : Value} (h : v.truthy = false) : Weighs v 0
  | whole {v : Value} {i : Int} (h : v.truthy = true) (hcounts : Counts v i) : Weighs v i
  | unusable {v : Value} (h : v.truthy = true) (hbounded : v.Bounded) (hnone : ∀ i, ¬Counts v i) :
      Weighs v 0

theorem wholeNumber?_float (f : Float) :
    (Value.float f).wholeNumber? =
      match Dyadic.ofFloat? f with
      | some d => .ok (some d.truncate)
      | none => if f.isNaN then .ok none else .error .overflow := by
  rw [wholeNumber?, Number.truncate, Number.toIntWith]
  cases Dyadic.ofFloat? f with
  | some d => rfl
  | none => cases f.isNaN <;> rfl

theorem wholeNumber?_eq_some_iff {v : Value} {i : Int} :
    v.wholeNumber? = .ok (some i) ↔ Counts v i := by
  constructor
  · intro h
    cases v with
    | text s => exact .text s i (Except.ok.inj h)
    | bool b =>
        cases h
        exact .bool b
    | int j =>
        cases h
        exact .int i
    | float f =>
        rw [wholeNumber?_float] at h
        split at h
        · next d hd =>
            cases h
            exact .float f d hd
        · split at h <;> cases h
    | _ => cases h
  · rintro (⟨s, i, hread⟩ | b | i | ⟨f, d, hd⟩)
    · exact congrArg Except.ok hread
    · rfl
    · rfl
    · rw [wholeNumber?_float, hd]

theorem exists_wholeNumber? {v : Value} : (∃ i?, v.wholeNumber? = .ok i?) ↔ v.Bounded := by
  cases v with
  | float f =>
      rw [wholeNumber?_float, Bounded]
      cases Dyadic.ofFloat? f with
      | some d => exact iff_of_true ⟨_, rfl⟩ (.inl rfl)
      | none => cases f.isNaN <;> simp
  | _ => exact iff_of_true ⟨_, rfl⟩ trivial

theorem wholeNumber?_eq_none_iff {v : Value} :
    v.wholeNumber? = .ok none ↔ v.Bounded ∧ ∀ i, ¬Counts v i := by
  simp only [← exists_wholeNumber?, ← wholeNumber?_eq_some_iff]
  constructor
  · intro h
    exact ⟨⟨none, h⟩, fun i hi => nomatch h.symm.trans hi⟩
  · rintro ⟨⟨i?, hi⟩, hnone⟩
    cases i? with
    | none => exact hi
    | some i => exact absurd hi (hnone i)

def weight? (v : Value) : Except Fault (Option Int) :=
  if v.truthy then v.wholeNumber? else pure (some 0)

theorem weighs_iff {v : Value} {i : Int} :
    (∃ i?, weight? v = .ok i? ∧ i?.getD 0 = i) ↔ Weighs v i := by
  unfold weight?
  constructor
  · rintro ⟨i?, hi, rfl⟩
    cases htruthy : v.truthy with
    | false =>
        rw [htruthy] at hi
        cases hi
        exact .falsy htruthy
    | true =>
        rw [htruthy, if_pos rfl] at hi
        cases i? with
        | none =>
            obtain ⟨hbounded, hnone⟩ := wholeNumber?_eq_none_iff.mp hi
            exact .unusable htruthy hbounded hnone
        | some i => exact .whole htruthy (wholeNumber?_eq_some_iff.mp hi)
  · rintro (hfalsy | ⟨htruthy, hcounts⟩ | ⟨htruthy, hbounded, hnone⟩)
    · exact ⟨some 0, by rw [hfalsy, if_neg Bool.false_ne_true]; rfl, rfl⟩
    · exact ⟨some i, by rw [htruthy, if_pos rfl, wholeNumber?_eq_some_iff.mpr hcounts], rfl⟩
    · exact ⟨none,
        by rw [htruthy, if_pos rfl, wholeNumber?_eq_none_iff.mpr ⟨hbounded, hnone⟩], rfl⟩

theorem exists_weight? {v : Value} :
    (∃ i?, weight? v = .ok i?) ↔ (v.truthy = true → v.Bounded) := by
  unfold weight?
  cases v.truthy with
  | false => exact iff_of_true ⟨some 0, rfl⟩ nofun
  | true =>
      rw [if_pos rfl, exists_wholeNumber?]
      exact ⟨fun h _ => h, fun h => h rfl⟩

/-! Entries. -/

def eligible : Value → Bool
  | .map entries => (field entries "name").truthy && (field entries "url").truthy
  | _ => false

structure Describes (entries : List (Value × Value)) (e : MenuEntry) : Prop where
  name : (field entries "name").display = .ok e.name
  url : (field entries "url").display = .ok e.url
  weight : Weighs (field entries "weight") e.weight
  external : e.external = true ↔ Function.Marked e.url

def Makes (v : Value) (e : MenuEntry) : Prop := ∃ entries, v = .map entries ∧ Describes entries e

structure Usable (entries : List (Value × Value)) : Prop where
  name : ∃ t, (field entries "name").display = .ok t
  url : ∃ t, (field entries "url").display = .ok t
  weight : (field entries "weight").truthy = true → (field entries "weight").Bounded

theorem entry?_map (entries : List (Value × Value)) :
    entry? (.map entries) =
      if eligible (.map entries) then do
        let weight ← weight? (field entries "weight")
        let url ← (field entries "url").display
        return some ⟨← (field entries "name").display, url, weight.getD 0, Function.isAbsolute url⟩
      else .ok none := by
  have heligible : eligible (.map entries) =
      ((field entries "name").truthy && (field entries "url").truthy) := rfl
  rw [heligible, entry?]
  change (if !(field entries "name").truthy || !(field entries "url").truthy then _ else _) = _
  cases (field entries "name").truthy with
  | false => rfl
  | true =>
      cases (field entries "url").truthy with
      | false => rfl
      | true =>
          unfold weight?
          change (if (field entries "weight").truthy then _ else _) = _
          cases (field entries "weight").truthy <;> rfl

theorem exists_of_eligible {v : Value} (h : eligible v = true) : ∃ entries, v = .map entries := by
  cases v with
  | map entries => exact ⟨entries, rfl⟩
  | _ => cases h

theorem entry?_of_not_eligible {v : Value} (h : eligible v = false) : entry? v = .ok none := by
  cases v with
  | map entries => rw [entry?_map, h, if_neg Bool.false_ne_true]
  | _ => rfl

theorem entry?_eq_ok_iff {v : Value} (h : eligible v = true) {e? : Option MenuEntry} :
    entry? v = .ok e? ↔ ∃ e, e? = some e ∧ Makes v e := by
  cases v with
  | map entries =>
      rw [entry?_map, h, if_pos rfl]
      constructor
      · intro heq
        obtain ⟨weight, hweight, heq⟩ := bind_eq_ok.mp heq
        obtain ⟨url, hurl, heq⟩ := bind_eq_ok.mp heq
        obtain ⟨name, hname, heq⟩ := bind_eq_ok.mp heq
        cases heq
        exact ⟨_, rfl, entries, rfl, hname, hurl, weighs_iff.mp ⟨weight, hweight, rfl⟩,
          Function.isAbsolute_iff⟩
      · rintro ⟨⟨name, url, weight, external⟩, rfl, _, heq, hname, hurl, hweight, hexternal⟩
        cases heq
        obtain ⟨i?, hi, hvalue⟩ := weighs_iff.mpr hweight
        dsimp only at hname hurl hexternal hvalue
        subst hvalue
        obtain rfl : external = Function.isAbsolute url := by
          rw [Bool.eq_iff_iff, hexternal, Function.isAbsolute_iff]
        rw [hi, hurl, hname]
        rfl
  | _ => cases h

theorem exists_entry? {v : Value} :
    (∃ e?, entry? v = .ok e?) ↔
      ∀ entries, v = .map entries → eligible v = true → Usable entries := by
  cases h : eligible v with
  | false => exact iff_of_true ⟨none, entry?_of_not_eligible h⟩ nofun
  | true =>
      obtain ⟨entries, rfl⟩ := exists_of_eligible h
      simp only [entry?_eq_ok_iff h, true_imp_iff, map.injEq, forall_eq']
      constructor
      · rintro ⟨-, e, -, _, heq, hname, hurl, hweight, -⟩
        cases heq
        obtain ⟨i?, hi, -⟩ := weighs_iff.mpr hweight
        exact ⟨⟨_, hname⟩, ⟨_, hurl⟩, exists_weight?.mp ⟨i?, hi⟩⟩
      · rintro ⟨⟨name, hname⟩, ⟨url, hurl⟩, hweight⟩
        obtain ⟨i?, hi⟩ := exists_weight?.mpr hweight
        exact ⟨_, ⟨name, url, i?.getD 0, Function.isAbsolute url⟩, rfl, entries, rfl, hname, hurl,
          weighs_iff.mp ⟨i?, hi, rfl⟩, Function.isAbsolute_iff⟩

theorem made_of_mapM {elements : List Value} {made : List (Option MenuEntry)}
    (h : elements.mapM entry? = .ok made) :
    List.Forall₂ Makes (elements.filter eligible) (made.filterMap id) := by
  induction elements generalizing made with
  | nil =>
      cases h
      exact .nil
  | cons v elements ih =>
      obtain ⟨e?, behind, he, hbehind, rfl⟩ := mapM_cons_eq_ok.mp h
      cases heligible : eligible v with
      | false =>
          rw [entry?_of_not_eligible heligible] at he
          cases he
          have hrest := ih hbehind
          rwa [List.filter_cons_of_neg (by rw [heligible]; exact Bool.false_ne_true)]
      | true =>
          obtain ⟨e, rfl, hmakes⟩ := (entry?_eq_ok_iff heligible).mp he
          rw [List.filter_cons_of_pos heligible]
          exact .cons hmakes (ih hbehind)

/-! One menu. -/

def byWeight (a b : MenuEntry) : Bool := decide (a.weight ≤ b.weight)

/-- Entries made of the eligible elements of a list, in the order of their weights; those of one
weight stay in the order of the list. -/
structure Arranged (elements : List Value) (items : List MenuEntry) : Prop where
  made : ∃ made, List.Forall₂ Makes (elements.filter eligible) made ∧ items.Perm made ∧
    ∀ weight, items.filter (·.weight == weight) = made.filter (·.weight == weight)
  ascending : items.Pairwise fun a b => a.weight ≤ b.weight

theorem arranged_mergeSort {elements : List Value} {made : List MenuEntry}
    (h : List.Forall₂ Makes (elements.filter eligible) made) :
    Arranged elements (made.mergeSort byWeight) := by
  obtain ⟨hperm, hascending, hstable⟩ := sortedBy_mergeSort MenuEntry.weight made
  exact ⟨⟨made, h, hperm, hstable⟩, hascending⟩

def arrange (elements : List Value) : Except Fault (List MenuEntry) := do
  let items := (← elements.mapM entry?).filterMap id
  sortByKey (fun a b => .ok (decide (a < b))) (items.map fun e => (e.weight, e))

theorem sortByKey_weight (items : List MenuEntry) :
    sortByKey (fun a b => .ok (decide (a < b))) (items.map fun e => (e.weight, e)) =
      .ok (items.mergeSort byWeight) := by
  have hsorted : sortByKey (fun a b => .ok (decide (a < b)))
      (items.map fun e => (e.weight, id e)) = .ok ((items.mergeSort byWeight).map id) := by
    apply sortByKey_map
    intro a _ b _
    simp only [byWeight, ← decide_not, Int.not_le]
  rwa [List.map_id] at hsorted

theorem arranged_of_arrange {elements : List Value} {items : List MenuEntry}
    (h : arrange elements = .ok items) : Arranged elements items := by
  obtain ⟨made, hmade, h⟩ := bind_eq_ok.mp h
  rw [sortByKey_weight] at h
  cases h
  exact arranged_mergeSort (made_of_mapM hmade)

theorem exists_arrange {elements : List Value} :
    (∃ items, arrange elements = .ok items) ↔
      ∀ entries, .map entries ∈ elements → eligible (.map entries) = true → Usable entries := by
  simp only [arrange, exists_bind_eq_ok, sortByKey_weight, Except.ok.injEq, exists_eq', and_true,
    exists_mapM_eq_ok, exists_entry?]
  exact ⟨fun h entries hmem => h _ hmem entries rfl,
    fun h v hmem entries heq heligible => h entries (heq ▸ hmem) (heq ▸ heligible)⟩

/-! All menus. -/

def listed? : Value × Value → Option (Value × List Value)
  | (key, .list elements) => some (key, elements)
  | _ => none

def lists : Value → List (Value × List Value)
  | .map sections => sections.filterMap listed?
  | _ => []

def put (menus : List (Text × List Value)) (name : Text) (items : List Value) :
    List (Text × List Value) :=
  if menus.any (·.1 == name) then
    menus.map fun (n, old) => if n == name then (n, items) else (n, old)
  else menus ++ [(name, items)]

def place (menus : List (Text × List Value)) (l : Value × List Value) :
    Except Fault (List (Text × List Value)) := do
  let items ← arrange l.2
  let name ← l.1.display
  return put menus name (items.map .menuEntry)

theorem ofConfig_eq (config : Value) : ofConfig config = (lists config).foldlM place [] := by
  cases config with
  | map sections =>
      rw [lists, List.foldlM_filterMap]
      change sections.foldlM _ _ = _
      congr 1
      funext menus section?
      obtain ⟨key, v⟩ := section?
      cases v with
      | list elements =>
          dsimp only [listed?, place, arrange, put]
          simp only [bind_assoc]
          refine congrArg _ (funext fun made => congrArg _ (funext fun items => ?_))
          refine congrArg _ (funext fun name => ?_)
          split <;> rfl
      | _ => rfl
  | _ => rfl

section

variable {menus : List (Text × List Value)} {name n : Text} {items its : List Value}

theorem mem_put :
    (n, its) ∈ put menus name items ↔ n = name ∧ its = items ∨ (n, its) ∈ menus ∧ n ≠ name := by
  unfold put
  split
  · next hany =>
      obtain ⟨⟨_, old⟩, hold, rfl⟩ := List.mem_map.mp (any_key_iff.mp hany)
      rw [List.mem_map]
      constructor
      · rintro ⟨⟨m, olds⟩, hmem, heq⟩
        dsimp only at heq
        split at heq
        · next hm =>
            cases heq
            exact .inl ⟨beq_iff_eq.mp hm, rfl⟩
        · next hm =>
            cases heq
            exact .inr ⟨hmem, fun heq => hm (beq_iff_eq.mpr heq)⟩
      · rintro (⟨rfl, rfl⟩ | ⟨hmem, hne⟩)
        · exact ⟨(n, old), hold, by simp⟩
        · exact ⟨(n, its), hmem, by simp [hne]⟩
  · next hnone =>
      have hfresh : (n, its) ∈ menus → n ≠ name := by
        rintro hmem rfl
        exact hnone (any_key_iff.mpr (List.mem_map_of_mem hmem))
      rw [List.mem_append, List.mem_singleton, Prod.mk.injEq, or_comm]
      exact or_congr_right ⟨fun hmem => ⟨hmem, hfresh hmem⟩, And.left⟩

theorem nodup_put (h : (menus.map (·.1)).Nodup) : ((put menus name items).map (·.1)).Nodup := by
  unfold put
  split
  · have hsame : (menus.map fun m => if m.1 == name then (m.1, items) else m).map (·.1) =
        menus.map (·.1) := by
      rw [List.map_map]
      refine List.map_congr_left fun m _ => ?_
      rw [Function.comp_apply]
      split <;> rfl
    exact hsame ▸ h
  · next hnone =>
      rw [any_key_iff] at hnone
      exact nodup_appended h hnone

end

/-- The elements of the last list whose key is written as a name. -/
def LastNamed (ls : List (Value × List Value)) (name : Text) (elements : List Value) : Prop :=
  ∃ front key behind, ls = front ++ (key, elements) :: behind ∧ key.display = .ok name ∧
    ∀ later ∈ behind, later.1.display ≠ .ok name

/-- The menus of lists: one of every name that a key is written as, of the last list with it. -/
structure Builds (ls : List (Value × List Value)) (menus : List (Text × List Value)) : Prop where
  names : (menus.map (·.1)).Nodup
  arranged : ∀ {name items}, (name, items) ∈ menus → ∃ elements entries,
    LastNamed ls name elements ∧ Arranged elements entries ∧ items = entries.map .menuEntry
  every : ∀ l ∈ ls, ∃ name items, l.1.display = .ok name ∧ (name, items) ∈ menus

structure Fit (l : Value × List Value) : Prop where
  named : ∃ name, l.1.display = .ok name
  usable : ∀ entries, .map entries ∈ l.2 → eligible (.map entries) = true → Usable entries

section

variable {ls : List (Value × List Value)} {menus menus' : List (Text × List Value)}
  {l : Value × List Value} {name : Text} {elements : List Value}

theorem LastNamed.concat (h : LastNamed ls name elements) (hname : l.1.display ≠ .ok name) :
    LastNamed (ls ++ [l]) name elements := by
  obtain ⟨front, key, behind, rfl, hkey, hlater⟩ := h
  refine ⟨front, key, behind ++ [l], by simp, hkey, ?_⟩
  exact List.forall_mem_append.mpr ⟨hlater, List.forall_mem_singleton.mpr hname⟩

theorem lastNamed_concat_self (h : l.1.display = .ok name) : LastNamed (ls ++ [l]) name l.2 :=
  ⟨ls, l.1, [], rfl, h, List.forall_mem_nil _⟩

theorem Builds.place (h : Builds ls menus) (hplace : place menus l = .ok menus') :
    Builds (ls ++ [l]) menus' := by
  obtain ⟨entries, hentries, hplace⟩ := bind_eq_ok.mp hplace
  obtain ⟨name, hname, hplace⟩ := bind_eq_ok.mp hplace
  cases hplace
  refine ⟨nodup_put h.names, ?_, ?_⟩
  · intro n its hmem
    rcases mem_put.mp hmem with ⟨rfl, rfl⟩ | ⟨hmem, hne⟩
    · exact ⟨l.2, entries, lastNamed_concat_self hname, arranged_of_arrange hentries, rfl⟩
    · obtain ⟨elements, others, hlast, harranged, rfl⟩ := h.arranged hmem
      have hother : l.1.display ≠ .ok n := by
        rw [hname]
        exact fun heq => hne (Except.ok.inj heq).symm
      exact ⟨elements, others, hlast.concat hother, harranged, rfl⟩
  · refine List.forall_mem_append.mpr ⟨fun other hmem => ?_, List.forall_mem_singleton.mpr ?_⟩
    · obtain ⟨n, its, hn, hmem⟩ := h.every other hmem
      by_cases heq : n = name
      · exact ⟨n, _, hn, mem_put.mpr (.inl ⟨heq, rfl⟩)⟩
      · exact ⟨n, its, hn, mem_put.mpr (.inr ⟨hmem, heq⟩)⟩
    · exact ⟨name, _, hname, mem_put.mpr (.inl ⟨rfl, rfl⟩)⟩

theorem builds_of_foldlM (h : ls.foldlM Menu.place [] = .ok menus) : Builds ls menus := by
  induction ls using List.reverseRecOn generalizing menus with
  | nil =>
      cases h
      exact ⟨List.nodup_nil, fun hmem => absurd hmem List.not_mem_nil, List.forall_mem_nil _⟩
  | append_singleton ls l ih =>
      rw [List.foldlM_append] at h
      obtain ⟨before, hbefore, h⟩ := bind_eq_ok.mp h
      obtain ⟨last, hlast, h⟩ := bind_eq_ok.mp h
      cases h
      exact (ih hbefore).place hlast

theorem exists_place : (∃ menus', Menu.place menus l = .ok menus') ↔ Fit l := by
  constructor
  · rintro ⟨menus', h⟩
    obtain ⟨entries, hentries, h⟩ := bind_eq_ok.mp h
    obtain ⟨name, hname, -⟩ := bind_eq_ok.mp h
    exact ⟨⟨name, hname⟩, exists_arrange.mp ⟨entries, hentries⟩⟩
  · rintro ⟨⟨name, hname⟩, husable⟩
    obtain ⟨entries, hentries⟩ := exists_arrange.mpr husable
    exact ⟨_, by rw [Menu.place, hentries, ok_bind, hname]; rfl⟩

theorem exists_foldlM : (∃ menus', ls.foldlM Menu.place menus = .ok menus') ↔ ∀ l ∈ ls, Fit l := by
  induction ls generalizing menus with
  | nil => exact iff_of_true ⟨menus, rfl⟩ (List.forall_mem_nil _)
  | cons l ls ih =>
      rw [List.foldlM_cons, exists_bind_eq_ok, List.forall_mem_cons]
      simp only [ih, exists_and_right, exists_place]

end

/-! Faults. -/

/-- The faults of an infinite weight and of an integer that is too long to be written out. -/
def Unplaced (e : Fault) : Prop := e = .overflow ∨ e = .outOfDomain

theorem entry?_failsIn (v : Value) : FailsIn Unplaced <| entry? v := by
  have hdisplay := display_failsIn (P := Unplaced) (.inr rfl)
  have hwhole := fun v => wholeNumber?_failsIn (P := Unplaced) (v := v) (.inl (.inl rfl))
  cases v with
  | map entries =>
      rw [entry?_map]
      unfold weight?
      infer_instance
  | _ => exact instFailsInOk none

theorem place_failsIn (menus : List (Text × List Value)) (l : Value × List Value) :
    FailsIn Unplaced (place menus l) := by
  have hdisplay := display_failsIn (P := Unplaced) (.inr rfl) l.1
  have harrange : FailsIn Unplaced (arrange l.2) := by
    have hmade : FailsIn Unplaced (l.2.mapM entry?) := .mapM fun v _ => entry?_failsIn v
    simp only [arrange, sortByKey_weight]
    infer_instance
  unfold place
  infer_instance

/-! Configurations whose integers can be written out. -/

theorem field_legible {entries : List (Value × Value)} (h : (Value.map entries).Legible)
    (name : String) : (field entries name).Legible := by
  cases h with
  | map _ _ hvalues =>
      change ((find? (.ofString name) entries).getD .nil).Legible
      cases hfind : find? (.ofString name) entries with
      | none => exact .nil
      | some v =>
          obtain ⟨e, he, rfl⟩ := Option.map_eq_some_iff.mp hfind
          exact hvalues e (List.mem_of_find?_eq_some he)

theorem exists_display {v : Value} (h : v.Legible) : ∃ t, v.display = .ok t := by
  have hdisplay : FailsIn (fun _ => False) v.display := IntegersIn.failsIn_display h
  cases ht : v.display with
  | ok t => exact ⟨t, rfl⟩
  | error e => exact (hdisplay.of_eq_error e ht).elim

theorem fit_of_legible {config : Value} (h : config.Legible) {l : Value × List Value}
    (hl : l ∈ lists config)
    (hbounded : ∀ entries, .map entries ∈ l.2 → (field entries "weight").Bounded) : Fit l := by
  cases h with
  | map sections hkeys hvalues =>
      obtain ⟨⟨key, v⟩, hsection, hlisted⟩ := List.mem_filterMap.mp hl
      cases v with
      | list elements =>
          cases hlisted
          refine ⟨exists_display (hkeys _ hsection), fun entries hmem _ => ?_⟩
          have helement : (Value.map entries).Legible :=
            (hvalues _ hsection).of_sequence? rfl _ hmem
          exact ⟨exists_display (field_legible helement "name"),
            exists_display (field_legible helement "url"), fun _ => hbounded entries hmem⟩
      | _ => cases hlisted
  | _ => cases hl

theorem ofConfig_builds (config : Value) :
    (∀ menus, ofConfig config = .ok menus → Builds (lists config) menus) ∧
      ((∃ menus, ofConfig config = .ok menus) ↔ ∀ l ∈ lists config, Fit l) ∧
      (config.Legible → (∀ l ∈ lists config, ∀ entries, .map entries ∈ l.2 →
        (field entries "weight").Bounded) → ∃ menus, ofConfig config = .ok menus) ∧
      FailsIn Unplaced (ofConfig config) := by
  have hmakes : (∃ menus, ofConfig config = .ok menus) ↔ ∀ l ∈ lists config, Fit l := by
    rw [ofConfig_eq]
    exact exists_foldlM
  refine ⟨fun menus h => builds_of_foldlM (ofConfig_eq config ▸ h), hmakes, ?_, ?_⟩
  · exact fun hlegible hbounded =>
      hmakes.mpr fun l hl => fit_of_legible hlegible hl (hbounded l hl)
  · have hplace := place_failsIn
    rw [ofConfig_eq]
    infer_instance

theorem ofConfig_unbounded :
    ofConfig (.map [(.ofString "main", .list [.map [(.ofString "name", .ofString "A"),
      (.ofString "url", .ofString "/"), (.ofString "weight", .float (1.0 / 0.0))]])]) =
      .error .overflow := by
  with_unfolding_all rfl

end Stencil.Menu
