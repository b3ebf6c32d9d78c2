import Stencil.Text.Basic

namespace Stencil

/-! Results that are there, and those of the computations they are made of. -/

section

variable {ε α β : Type}

theorem bind_eq_ok {x : Except ε α} {f : α → Except ε β} {b : β} :
    x >>= f = .ok b ↔ ∃ a, x = .ok a ∧ f a = .ok b := by
  cases x with
  | error e => simp [bind, Except.bind]
  | ok a => simp [bind, Except.bind]

theorem exists_bind_eq_ok {x : Except ε α} {f : α → Except ε β} :
    (∃ b, x >>= f = .ok b) ↔ ∃ a, x = .ok a ∧ ∃ b, f a = .ok b := by
  simp only [bind_eq_ok]
  exact ⟨fun ⟨b, a, ha, hb⟩ => ⟨a, ha, b, hb⟩, fun ⟨a, ha, b, hb⟩ => ⟨b, a, ha, hb⟩⟩

theorem map_eq_ok {x : Except ε α} {f : α → β} {b : β} :
    f <$> x = .ok b ↔ ∃ a, x = .ok a ∧ f a = b := by
  cases x with
  | error e => simp [Functor.map, Except.map]
  | ok a => simp [Functor.map, Except.map]

@[simp] theorem ok_bind (a : α) (f : α → Except ε β) : (Except.ok a >>= f) = f a := rfl

@[simp] theorem map_ok (f : α → β) (a : α) : f <$> (.ok a : Except ε α) = .ok (f a) := rfl

theorem mapM_ok {items : List α} {f : α → Except ε β} {p : β → Prop}
    (h : ∀ a ∈ items, ∃ b, f a = .ok b ∧ p b) :
    ∃ bs, items.mapM f = .ok bs ∧ ∀ b ∈ bs, p b := by
  induction items with
  | nil => exact ⟨[], rfl, fun _ hmem => nomatch hmem⟩
  | cons a items ih =>
      obtain ⟨b, hb, hpb⟩ := h a List.mem_cons_self
      obtain ⟨bs, hbs, hpbs⟩ := ih fun a hmem => h a (List.mem_cons_of_mem _ hmem)
      refine ⟨b :: bs, ?_, List.forall_mem_cons.mpr ⟨hpb, hpbs⟩⟩
      rw [List.mapM_cons, hb, hbs]
      rfl

theorem foldlM_ok {items : List α} {f : β → α → Except ε β} {p : β → Prop}
    (h : ∀ a ∈ items, ∀ b, p b → ∃ b', f b a = .ok b' ∧ p b') {b : β} (hb : p b) :
    ∃ b', items.foldlM f b = .ok b' ∧ p b' := by
  induction items generalizing b with
  | nil => exact ⟨b, rfl, hb⟩
  | cons a items ih =>
      obtain ⟨ha, hitems⟩ := List.forall_mem_cons.mp h
      obtain ⟨b', hstep, hb'⟩ := ha b hb
      rw [List.foldlM_cons, hstep]
      exact ih hitems hb'

theorem mapM_pure_of {m : Type → Type} [Monad m] [LawfulMonad m] {items : List α} {f : α → m β}
    {g : α → β} (h : ∀ a ∈ items, f a = pure (g a)) : items.mapM f = pure (items.map g) := by
  induction items with
  | nil => rfl
  | cons a items ih =>
      obtain ⟨ha, hitems⟩ := List.forall_mem_cons.mp h
      rw [List.mapM_cons, ha, ih hitems, pure_bind, pure_bind, List.map_cons]

theorem mapM_eq_map {items : List α} {f : α → Except ε β} {g : α → β}
    (h : ∀ a ∈ items, f a = .ok (g a)) : items.mapM f = .ok (items.map g) :=
  mapM_pure_of h

theorem mapM_eq_some_map {items : List α} {f : α → Option β} {g : α → β}
    (h : ∀ a ∈ items, f a = some (g a)) : items.mapM f = some (items.map g) :=
  mapM_pure_of h

theorem mapM_eq_none {items : List α} {f : α → Option β} (h : ∃ a ∈ items, f a = none) :
    items.mapM f = none := by
  induction items with
  | nil =>
      obtain ⟨a, ha, -⟩ := h
      cases ha
  | cons a items ih =>
      rw [List.mapM_cons]
      cases hb : f a with
      | none => rfl
      | some b =>
          obtain ⟨c, hc, hnone⟩ := h
          rcases List.mem_cons.mp hc with rfl | hc
          · rw [hb] at hnone
            cases hnone
          · rw [ih ⟨c, hc, hnone⟩]
            rfl

theorem filterMapM_eq_map {items : List α} {f : α → Except ε (Option β)} {p : α → Bool}
    {g : α → β} (h : ∀ a ∈ items, f a = .ok (if p a then some (g a) else none)) :
    items.filterMapM f = .ok ((items.filter p).map g) := by
  induction items with
  | nil => rfl
  | cons a items ih =>
      obtain ⟨ha, hitems⟩ := List.forall_mem_cons.mp h
      rw [List.filterMapM_cons, ha, ih hitems, List.filter_cons]
      cases p a <;> rfl

theorem mapM_congr_of_mem [Monad m] [LawfulMonad m] {items : List α} {f g : α → m β}
    (h : ∀ a ∈ items, f a = g a) : items.mapM f = items.mapM g := by
  induction items with
  | nil => rfl
  | cons a items ih =>
      rw [List.mapM_cons, List.mapM_cons, h a List.mem_cons_self,
        ih fun a hmem => h a (List.mem_cons_of_mem _ hmem)]

theorem mapM_cons_eq_ok {a : α} {items : List α} {f : α → Except ε β} {bs : List β} :
    (a :: items).mapM f = .ok bs ↔
      ∃ b behind, f a = .ok b ∧ items.mapM f = .ok behind ∧ bs = b :: behind := by
  rw [List.mapM_cons]
  constructor
  · intro h
    obtain ⟨b, hb, hrest⟩ := bind_eq_ok.mp h
    obtain ⟨behind, hbehind, heq⟩ := bind_eq_ok.mp hrest
    cases heq
    exact ⟨b, behind, hb, hbehind, rfl⟩
  · rintro ⟨b, behind, hb, hbehind, rfl⟩
    rw [hb, hbehind]
    rfl

theorem exists_mapM_eq_ok {items : List α} {f : α → Except ε β} :
    (∃ bs, items.mapM f = .ok bs) ↔ ∀ a ∈ items, ∃ b, f a = .ok b := by
  constructor
  · rintro ⟨bs, hbs⟩
    induction items generalizing bs with
    | nil => exact fun _ hmem => nomatch hmem
    | cons a items ih =>
        obtain ⟨b, behind, hb, hbehind, -⟩ := mapM_cons_eq_ok.mp hbs
        exact List.forall_mem_cons.mpr ⟨⟨b, hb⟩, ih behind hbehind⟩
  · intro h
    obtain ⟨bs, hbs, -⟩ := mapM_ok (p := fun _ => True) fun a hmem =>
      (h a hmem).imp fun b hb => ⟨hb, trivial⟩
    exact ⟨bs, hbs⟩

theorem mapM_eq_ok_of_mem {items : List α} {f g : α → Except ε β} {bs : List β}
    (hbs : items.mapM f = .ok bs)
    (h : ∀ a ∈ items, ∀ b ∈ bs, f a = .ok b → g a = .ok b) : items.mapM g = .ok bs := by
  induction items generalizing bs with
  | nil => exact hbs
  | cons a items ih =>
      obtain ⟨b, behind, hb, hbehind, rfl⟩ := mapM_cons_eq_ok.mp hbs
      have hb' := h a List.mem_cons_self b List.mem_cons_self hb
      have hrest' := ih hbehind fun a hmem b hmem' =>
        h a (List.mem_cons_of_mem _ hmem) b (List.mem_cons_of_mem _ hmem')
      exact mapM_cons_eq_ok.mpr ⟨b, behind, hb', hrest', rfl⟩

theorem forall_of_mapM_eq_ok {items : List α} {f : α → Except ε β} {p : β → Prop} {bs : List β}
    (hbs : items.mapM f = .ok bs) (h : ∀ a ∈ items, ∀ b, f a = .ok b → p b) :
    ∀ b ∈ bs, p b := by
  induction items generalizing bs with
  | nil =>
      cases hbs
      exact fun _ hmem => nomatch hmem
  | cons a items ih =>
      obtain ⟨b, behind, hb, hbehind, rfl⟩ := mapM_cons_eq_ok.mp hbs
      exact List.forall_mem_cons.mpr ⟨h a List.mem_cons_self b hb,
        ih hbehind fun a hmem => h a (List.mem_cons_of_mem _ hmem)⟩

end

end Stencil
