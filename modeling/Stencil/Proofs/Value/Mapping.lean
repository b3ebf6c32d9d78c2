import Mathlib.Data.List.Induction
import Stencil.Site.Config

namespace Stencil

namespace Value

/-! Entries put into a mapping one after another. -/

def LastOf (entries : List (Value × Value)) (e : Value × Value) : Prop :=
  ∃ front behind, entries = front ++ e :: behind ∧ ∀ later ∈ behind, e.1.eq later.1 = false

def DistinctKeys (entries : List (Value × Value)) : Prop :=
  entries.Pairwise fun a b => a.1.eq b.1 = false

def Spelled (entries : List (Value × Value)) : Prop :=
  entries.Pairwise fun a b => a.1.eq b.1 = true → a.1 = b.1

theorem text_eq_iff {v : Value} {s : Text} : (Value.text s).eq v = true ↔ v = .text s := by
  cases v with
  | text t => rw [Value.eq, beq_iff_eq, text.injEq, eq_comm]
  | _ => simp [Value.eq]

theorem text_eq_false_iff {v : Value} {s : Text} : (Value.text s).eq v = false ↔ v ≠ .text s := by
  rw [← Bool.not_eq_true, text_eq_iff]

theorem eq_text_false_iff {v : Value} {s : Text} : v.eq (.text s) = false ↔ v ≠ .text s := by
  rw [← Bool.not_eq_true, eq_text_iff]

section

variable {entries : List (Value × Value)} {e : Value × Value} {k v : Value}

theorem LastOf.mem (h : LastOf entries e) : e ∈ entries := by
  obtain ⟨front, behind, rfl, -⟩ := h
  simp

theorem not_lastOf_nil : ¬LastOf [] e := fun h => List.not_mem_nil h.mem

theorem lastOf_concat {last : Value × Value} :
    LastOf (entries ++ [last]) e ↔ e = last ∨ LastOf entries e ∧ e.1.eq last.1 = false := by
  constructor
  · rintro ⟨front, behind, hsplit, hlater⟩
    cases behind using List.reverseRecOn with
    | nil =>
        left
        have heq := (List.append_inj' hsplit rfl).2
        exact (List.cons.inj heq).1.symm
    | append_singleton behind b =>
        right
        rw [← List.cons_append, ← List.append_assoc] at hsplit
        obtain ⟨hinit, hlast⟩ := List.append_inj' hsplit rfl
        obtain ⟨hbehind, hb⟩ := List.forall_mem_append.mp hlater
        rw [(List.cons.inj hlast).1]
        exact ⟨⟨front, behind, hinit, hbehind⟩, hb b (List.mem_singleton_self b)⟩
  · rintro (rfl | ⟨⟨front, behind, rfl, hlater⟩, hlast⟩)
    · exact ⟨entries, [], rfl, List.forall_mem_nil _⟩
    · refine ⟨front, behind ++ [last], by simp, ?_⟩
      exact List.forall_mem_append.mpr ⟨hlater, List.forall_mem_singleton.mpr hlast⟩

theorem lastOf_append {others : List (Value × Value)} :
    LastOf (entries ++ others) e ↔
      LastOf others e ∨ LastOf entries e ∧ ∀ later ∈ others, e.1.eq later.1 = false := by
  induction others using List.reverseRecOn with
  | nil => simp [not_lastOf_nil]
  | append_singleton others last ih =>
      rw [← List.append_assoc, lastOf_concat, lastOf_concat, ih]
      simp only [List.forall_mem_append, List.forall_mem_singleton]
      constructor
      · rintro (rfl | ⟨hlast | ⟨hfirst, hothers⟩, hkey⟩)
        · exact .inl (.inl rfl)
        · exact .inl (.inr ⟨hlast, hkey⟩)
        · exact .inr ⟨hfirst, hothers, hkey⟩
      · rintro ((rfl | ⟨hlast, hkey⟩) | ⟨hfirst, hothers, hkey⟩)
        · exact .inl rfl
        · exact .inr ⟨.inl hlast, hkey⟩
        · exact .inr ⟨.inr ⟨hfirst, hothers⟩, hkey⟩

theorem lastOf_flatMap {α : Type} {R : α → α → Prop} {items : List α} {a : α}
    {given : α → List (Value × Value)} (hpair : items.Pairwise R) (ha : a ∈ items)
    (h : LastOf (given a) e)
    (hlater : ∀ b ∈ items, R a b → ∀ later ∈ given b, e.1.eq later.1 = false) :
    LastOf (items.flatMap given) e := by
  obtain ⟨front, behind, rfl⟩ := List.append_of_mem ha
  have hbehind := (List.pairwise_cons.mp (List.pairwise_append.mp hpair).2.1).1
  rw [List.flatMap_append, List.flatMap_cons, lastOf_append, lastOf_append]
  refine .inl (.inr ⟨h, fun later hmem => ?_⟩)
  obtain ⟨b, hb, hmem⟩ := List.mem_flatMap.mp hmem
  exact hlater b (by simp [hb]) (hbehind b hb) later hmem

theorem DistinctKeys.lastOf (h : DistinctKeys entries) (hmem : e ∈ entries) : LastOf entries e := by
  obtain ⟨front, behind, rfl⟩ := List.append_of_mem hmem
  exact ⟨front, behind, rfl, (List.pairwise_cons.mp (List.pairwise_append.mp h).2.1).1⟩

theorem mem_insert (hspelled : ∀ e ∈ entries, e.1.eq k = true → e.1 = k) :
    e ∈ insert entries k v ↔ e = (k, v) ∨ e ∈ entries ∧ e.1.eq k = false := by
  unfold insert
  split
  · next hany =>
      rw [List.mem_map]
      constructor
      · rintro ⟨⟨k', v'⟩, hmem, heq⟩
        dsimp only at heq
        split at heq
        · next hk =>
            have hsame : k' = k := hspelled _ hmem hk
            exact .inl (by rw [← heq, hsame])
        · next hk => exact .inr ⟨heq ▸ hmem, heq ▸ eq_false_of_ne_true hk⟩
      · rintro (rfl | ⟨hmem, hk⟩)
        · obtain ⟨⟨k', v'⟩, hmem, hk⟩ := List.any_eq_true.mp hany
          have hsame : k' = k := hspelled _ hmem hk
          refine ⟨(k', v'), hmem, ?_⟩
          dsimp only at hk ⊢
          rw [if_pos hk, hsame]
        · exact ⟨e, hmem, by simp [hk]⟩
  · next hnone =>
      have hother : ∀ e ∈ entries, e.1.eq k = false := fun e hmem =>
        eq_false_of_ne_true fun hk => hnone (List.any_eq_true.mpr ⟨e, hmem, hk⟩)
      rw [List.mem_append, List.mem_singleton]
      exact ⟨fun h => h.elim (fun hmem => .inr ⟨hmem, hother e hmem⟩) .inl,
        fun h => h.elim .inr fun h => .inl h.1⟩

theorem map_fst_insert :
    (insert entries k v).map (·.1) =
      if entries.any fun (k', _) => k'.eq k then entries.map (·.1)
      else entries.map (·.1) ++ [k] := by
  unfold insert
  split
  · rw [List.map_map]
    refine List.map_congr_left fun e _ => ?_
    simp only [Function.comp_apply]
    split <;> rfl
  · simp

theorem distinctKeys_iff :
    DistinctKeys entries ↔ (entries.map (·.1)).Pairwise fun a b => a.eq b = false := by
  rw [List.pairwise_map]
  rfl

theorem DistinctKeys.insert (h : DistinctKeys entries) : DistinctKeys (insert entries k v) := by
  rw [distinctKeys_iff] at h ⊢
  rw [map_fst_insert]
  split
  · exact h
  · next hnone =>
      refine List.pairwise_append.mpr ⟨h, List.pairwise_singleton _ _, ?_⟩
      intro k' hk' last hlast
      obtain ⟨e, he, rfl⟩ := List.mem_map.mp hk'
      rw [List.mem_singleton.mp hlast]
      exact eq_false_of_ne_true fun hk => hnone (List.any_eq_true.mpr ⟨e, he, hk⟩)

theorem distinctKeys_ofEntries {given : List (Value × Value)}
    (h : Value.map entries = .ofEntries given) : DistinctKeys entries := by
  rw [ofEntries, map.injEq] at h
  subst h
  induction given using List.reverseRecOn with
  | nil => exact List.Pairwise.nil
  | append_singleton given last ih =>
      rw [List.foldl_append]
      exact ih.insert

theorem LastOf.eq_of_text {s : Text} {v w : Value} (hv : LastOf entries (.text s, v))
    (hw : LastOf entries (.text s, w)) : v = w := by
  induction entries using List.reverseRecOn with
  | nil => exact absurd hv not_lastOf_nil
  | append_singleton entries last ih =>
      have hself : (Value.text s).eq (.text s) = true := eq_text_iff.mpr rfl
      rcases lastOf_concat.mp hv with hlast | ⟨hv, hother⟩
      · rcases lastOf_concat.mp hw with hlast' | ⟨-, hother⟩
        · exact (Prod.mk.inj (hlast.trans hlast'.symm)).2
        · rw [← hlast, hself] at hother
          cases hother
      · rcases lastOf_concat.mp hw with hlast | ⟨hw, -⟩
        · rw [← hlast, hself] at hother
          cases hother
        · exact ih hv hw

theorem find?_text_eq_some {s : Text}
    (hunique : ∀ w, (.text s, w) ∈ entries → (.text s, v) ∈ entries → w = v) :
    find? (.text s) entries = some v ↔ (.text s, v) ∈ entries := by
  unfold find?
  rw [Option.map_eq_some_iff]
  constructor
  · rintro ⟨e, hfind, rfl⟩
    have hkey := List.find?_some hfind
    rw [← eq_text_iff.mp hkey]
    exact List.mem_of_find?_eq_some hfind
  · intro hmem
    cases hfind : entries.find? fun (k, _) => k.eq (.text s) with
    | none => exact absurd (eq_text_iff.mpr rfl) (List.find?_eq_none.mp hfind _ hmem)
    | some e =>
        obtain ⟨k', w⟩ := e
        have hkey := List.find?_some hfind
        obtain rfl : k' = .text s := eq_text_iff.mp hkey
        exact ⟨_, rfl, hunique w (List.mem_of_find?_eq_some hfind) hmem⟩

end

end Value

namespace Config

open Value

section

variable {entries : List (Value × Value)} {e : Value × Value}

/-- Of entries with the same key the last one counts. -/
theorem mem_update (h : Spelled entries) : e ∈ update [] entries ↔ LastOf entries e := by
  induction entries using List.reverseRecOn generalizing e with
  | nil => exact iff_of_false List.not_mem_nil not_lastOf_nil
  | append_singleton entries last ih =>
      obtain ⟨hentries, -, hlast⟩ := List.pairwise_append.mp h
      have hkeys : ∀ e ∈ update [] entries, e.1.eq last.1 = true → e.1 = last.1 := fun e he =>
        hlast e ((ih hentries).mp he).mem last (List.mem_singleton_self last)
      rw [update, List.foldl_append, List.foldl_cons, List.foldl_nil, lastOf_concat, ← ih hentries]
      exact mem_insert hkeys

theorem find?_update (h : Spelled entries) {s : Text} {v : Value} :
    find? (.text s) (update [] entries) = some v ↔ LastOf entries (.text s, v) := by
  rw [← mem_update h]
  refine find?_text_eq_some fun w hw hv => ?_
  exact LastOf.eq_of_text ((mem_update h).mp hw) ((mem_update h).mp hv)

end

end Config

end Stencil
