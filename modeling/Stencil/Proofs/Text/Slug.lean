import Mathlib.Data.List.Chain
import Stencil.Proofs.Text.Split
import Stencil.Text.Slug

namespace Stencil.Text

/-! Slugs: runs of letters and digits with single hyphens between them. -/

variable {s t : Text} {parts : List Text}

structure IsRun (s : Text) : Prop where
  ne_nil : s ≠ []
  chars : ∀ c ∈ s, isSlugChar c = true

def Spaced (c d : Char) : Prop := c = '-' → d ≠ '-'

/-- A text of the letters from `a` to `z`, digits and hyphens, where no hyphen stands at an end or
beside another. -/
@[mk_iff]
structure IsSlug (s : Text) : Prop where
  chars : ∀ c ∈ s, isSlugChar c = true ∨ c = '-'
  head_ne : s.head? ≠ some '-'
  last_ne : s.getLast? ≠ some '-'
  spaced : s.IsChain Spaced

theorem isSlug_nil : IsSlug [] where
  chars := List.forall_mem_nil _
  head_ne := nofun
  last_ne := nofun
  spaced := .nil

theorem IsRun.not_mem (h : IsRun s) : '-' ∉ s := fun hmem => absurd (h.chars _ hmem) (by decide)

theorem IsRun.isSlug (h : IsRun s) : IsSlug s where
  chars c hc := .inl (h.chars c hc)
  head_ne hhead := h.not_mem (List.mem_of_mem_head? hhead)
  last_ne hlast := h.not_mem (List.mem_of_mem_getLast? hlast)
  spaced := by
    refine (List.pairwise_of_forall_mem_list ?_).isChain
    rintro c hc _ _ rfl
    exact absurd hc h.not_mem

theorem isSlug_append_iff (hs : s ≠ []) (ht : t ≠ []) :
    IsSlug (s ++ '-' :: t) ↔ IsSlug s ∧ IsSlug t := by
  have hlast : ('-' :: t).getLast? = t.getLast? := List.getLast?_append_of_ne_nil ['-'] ht
  have hbefore : (∀ c ∈ s.getLast?, ∀ d ∈ ('-' :: t).head?, Spaced c d) ↔
      s.getLast? ≠ some '-' := by
    simp only [Spaced, List.head?_cons, Option.mem_def]
    grind
  have hbehind : (∀ d ∈ t.head?, Spaced '-' d) ↔ t.head? ≠ some '-' := by
    simp only [Spaced, Option.mem_def]
    grind
  rw [isSlug_iff, isSlug_iff, isSlug_iff, List.forall_mem_append, List.forall_mem_cons,
    List.head?_append_of_ne_nil _ hs, List.getLast?_append_of_ne_nil _ (List.cons_ne_nil _ _),
    hlast, List.isChain_append, List.isChain_cons, hbefore, hbehind]
  tauto

/-! A slug and its runs. -/

theorem join_ne_nil (hne : parts ≠ []) (h : ∀ part ∈ parts, IsRun part) :
    join ['-'] parts ≠ [] := by
  intro hnil
  have hempty : [] ∈ parts := (join_eq_nil_iff hne).mp hnil ▸ List.mem_singleton_self []
  exact (h [] hempty).ne_nil rfl

theorem isSlug_join (h : ∀ part ∈ parts, IsRun part) : IsSlug (join ['-'] parts) := by
  induction parts with
  | nil => exact isSlug_nil
  | cons part parts ih =>
      obtain ⟨hpart, hparts⟩ := List.forall_mem_cons.mp h
      by_cases hne : parts = []
      · subst hne
        exact hpart.isSlug
      · rw [join_cons hne, List.append_assoc, List.singleton_append,
          isSlug_append_iff hpart.ne_nil (join_ne_nil hne hparts)]
        exact ⟨hpart.isSlug, ih hparts⟩

theorem isRun_of_isSlug_join (hhyphen : ∀ part ∈ parts, '-' ∉ part)
    (hslug : IsSlug (join ['-'] parts)) (hne : join ['-'] parts ≠ []) :
    ∀ part ∈ parts, IsRun part := by
  induction parts with
  | nil => exact List.forall_mem_nil _
  | cons part parts ih =>
      obtain ⟨hpart, hparts⟩ := List.forall_mem_cons.mp hhyphen
      have hrun : IsSlug part → part ≠ [] → IsRun part := fun h hne =>
        ⟨hne, fun c hc => (h.chars c hc).resolve_right fun heq => hpart (heq ▸ hc)⟩
      by_cases hlast : parts = []
      · subst hlast
        exact List.forall_mem_singleton.mpr (hrun hslug hne)
      · rw [join_cons hlast, List.append_assoc, List.singleton_append] at hslug
        have hfront : part ≠ [] := fun hnil => hslug.head_ne (by rw [hnil]; rfl)
        have hbehind : join ['-'] parts ≠ [] := fun hnil =>
          hslug.last_ne (by rw [hnil, List.getLast?_concat])
        obtain ⟨hfirst, hrest⟩ := (isSlug_append_iff hfront hbehind).mp hslug
        exact List.forall_mem_cons.mpr ⟨hrun hfirst hfront, ih hparts hrest hbehind⟩

/-- Slugs are nothing, or runs with single hyphens between them. -/
theorem isSlug_iff_runs :
    IsSlug s ↔ ∃ parts : List Text, (∀ part ∈ parts, IsRun part) ∧ s = join ['-'] parts := by
  constructor
  · intro h
    by_cases hne : s = []
    · exact ⟨[], List.forall_mem_nil _, hne⟩
    · have hjoin : join ['-'] (splitAt '-' s) = s := join_splitAt s
      rw [← hjoin] at h hne
      exact ⟨splitAt '-' s, isRun_of_isSlug_join (fun _ => not_mem_of_mem_splitAt) h hne,
        hjoin.symm⟩
  · rintro ⟨parts, hparts, rfl⟩
    exact isSlug_join hparts

/-! What becomes of a text, and of a slug. -/

theorem isRun_of_mem_runs (h : t ∈ s.runs (!isSlugChar ·)) : IsRun t := by
  obtain ⟨hmem, hkept⟩ := List.mem_filter.mp h
  exact ⟨by simpa using hkept, fun c hc => by simpa using not_of_mem_splitBy hmem c hc⟩

theorem isSlug_slugify (s : Text) : IsSlug (slugify s) := isSlug_join fun _ => isRun_of_mem_runs

theorem runs_join (h : ∀ part ∈ parts, IsRun part) :
    (join ['-'] parts).runs (!isSlugChar ·) = parts := by
  have hsplit : splitBy (!isSlugChar ·) (join ['-'] parts) = splitAt '-' (join ['-'] parts) := by
    refine splitFrom_congr (fun c hc => ?_) []
    rcases (isSlug_join h).chars c hc with hchar | rfl
    · rw [hchar, beq_false_of_ne]
      · rfl
      · rintro rfl
        exact absurd hchar (by decide)
    · decide
  rw [runs, hsplit]
  by_cases hne : parts = []
  · subst hne
    rfl
  · rw [splitAt_join hne fun part hpart => (h part hpart).not_mem]
    refine List.filter_eq_self.mpr fun part hpart => ?_
    simpa using (h part hpart).ne_nil

theorem toLower_of_isSlugChar {c : Char} (h : isSlugChar c = true) : c.toLower = c := by
  simp only [isSlugChar, Bool.or_eq_true, Bool.and_eq_true, decide_eq_true_eq] at h
  unfold Char.toLower
  refine dif_neg fun hletter => ?_
  have hlow : 65 ≤ c.toNat := hletter.1
  have hhigh : c.toNat ≤ 90 := hletter.2
  omega

theorem IsSlug.stays (h : IsSlug s) : ∀ c ∈ s, c.toNat < 128 ∧ c.toLower = c := by
  intro c hc
  rcases h.chars c hc with hchar | rfl
  · refine ⟨?_, toLower_of_isSlugChar hchar⟩
    simp only [isSlugChar, Bool.or_eq_true, Bool.and_eq_true, decide_eq_true_eq] at hchar
    omega
  · decide

theorem fold_of_isSlug (h : IsSlug s) : fold s = s := by
  have hfold : ∀ c ∈ s, foldChar c = [c] := fun c hc => if_pos (h.stays c hc).1
  rw [fold, List.flatMap_congr hfold]
  exact List.flatMap_singleton' s

theorem toLower_of_isSlug (h : IsSlug s) : toLower s = s := by
  refine toLower_eq_self fun c hc => ?_
  obtain ⟨hascii, hlower⟩ := h.stays c hc
  refine ⟨?_, ?_⟩
  · rintro rfl
    exact absurd hascii (by decide)
  · rw [lowerChar, if_pos hascii, hlower]

theorem slugify_eq_self (h : IsSlug s) : slugify s = s := by
  rw [slugify, fold_of_isSlug h, toLower_of_isSlug h]
  obtain ⟨parts, hparts, rfl⟩ := isSlug_iff_runs.mp h
  rw [runs_join hparts]

/-- The slug of a text is one, and slugs are the texts that are their own slug. -/
theorem slugify_projects (s : Text) :
    IsSlug (slugify s) ∧ slugify (slugify s) = slugify s ∧ (slugify s = s ↔ IsSlug s) :=
  ⟨isSlug_slugify s, slugify_eq_self (isSlug_slugify s), fun heq => heq ▸ isSlug_slugify s,
    slugify_eq_self⟩

end Stencil.Text
