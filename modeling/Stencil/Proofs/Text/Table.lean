import Stencil.Text.Basic

namespace Stencil

/-! Tables of entries under names. An entry under a name that is there takes the place of the old
one, and any other goes to the end. -/

variable {α : Type} {name other : Text} {entry : α} {entries : List (Text × α)}

theorem lookup_cons_eq (entries : List (Text × α)) :
    List.lookup other ((name, entry) :: entries) =
      if other = name then some entry else entries.lookup other := by
  rw [List.lookup_cons]
  by_cases h : other = name
  · simp only [h, beq_self_eq_true, if_true]
  · simp only [h, beq_false_of_ne h, if_false]

theorem lookup_map_replaced (entries : List (Text × α)) :
    (entries.map fun e => if e.1 == name then (name, entry) else e).lookup other =
      (entries.lookup other).map fun old => if other = name then entry else old := by
  induction entries with
  | nil => rfl
  | cons e entries ih =>
      obtain ⟨key, old⟩ := e
      rw [List.map_cons, lookup_cons_eq]
      by_cases hkey : key = name
      · subst hkey
        rw [beq_self_eq_true, if_pos rfl, lookup_cons_eq, ih]
        split <;> rfl
      · rw [beq_false_of_ne hkey, if_neg Bool.false_ne_true, lookup_cons_eq, ih]
        split
        · next hother => simp only [hother, hkey, if_false, Option.map_some]
        · rfl

theorem keys_replaced :
    (entries.map fun e => if e.1 == name then (name, entry) else e).map (·.1) =
      entries.map (·.1) := by
  rw [List.map_map]
  refine List.map_congr_left fun e _ => ?_
  rw [Function.comp_apply]
  split
  · next h => exact (beq_iff_eq.mp h).symm
  · rfl

theorem any_key_iff : entries.any (·.1 == name) = true ↔ name ∈ entries.map (·.1) := by
  rw [List.any_eq_true, List.mem_map]
  simp only [beq_iff_eq]

theorem lookup_isSome_iff_mem :
    (entries.lookup name).isSome = true ↔ name ∈ entries.map (·.1) := by
  rw [List.lookup_isSome_iff, List.mem_map]
  simp only [beq_iff_eq]
  exact exists_congr fun e => and_congr_right fun _ => eq_comm

theorem lookup_replaced (h : name ∈ entries.map (·.1)) :
    (entries.map fun e => if e.1 == name then (name, entry) else e).lookup other =
      if other = name then some entry else entries.lookup other := by
  rw [lookup_map_replaced]
  split
  · next hother =>
      obtain ⟨old, hold⟩ := Option.isSome_iff_exists.mp (lookup_isSome_iff_mem.mpr h)
      rw [hother, hold, Option.map_some]
  · exact Option.map_id'

theorem lookup_appended (h : name ∉ entries.map (·.1)) :
    (entries ++ [(name, entry)]).lookup other =
      if other = name then some entry else entries.lookup other := by
  rw [List.lookup_append, lookup_cons_eq, List.lookup_nil]
  split
  · next hother =>
      have habsent : entries.lookup other = none := by
        rw [← Option.not_isSome_iff_eq_none, lookup_isSome_iff_mem, hother]
        exact h
      rw [habsent, Option.none_or]
  · rw [Option.or_none]

theorem nodup_appended (hnodup : (entries.map (·.1)).Nodup) (h : name ∉ entries.map (·.1)) :
    ((entries ++ [(name, entry)]).map (·.1)).Nodup := by
  rw [List.map_append]
  refine List.nodup_append.mpr ⟨hnodup, List.pairwise_singleton _ _, ?_⟩
  rintro key hkey last hlast rfl
  have hname : key = name := List.mem_singleton.mp hlast
  exact h (hname ▸ hkey)

end Stencil
