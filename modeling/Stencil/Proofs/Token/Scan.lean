import Stencil.Template.Scan
import Stencil.Proofs.Token.Basic

namespace Stencil

/-! Patterns that read directives, and what a search with one finds in a sequence of tokens. -/

/-- A match by its parts alone, without the proof that they fit the text. -/
structure Cut (α : Type) where
  before : Text
  matched : Text
  value : α
  after : Text

def Cut.prepend (t : Text) (cut : Cut α) : Cut α := { cut with before := t ++ cut.before }

@[simp] theorem Cut.prepend_before (t : Text) (cut : Cut α) :
    (cut.prepend t).before = t ++ cut.before := rfl

@[simp] theorem Cut.prepend_matched (t : Text) (cut : Cut α) :
    (cut.prepend t).matched = cut.matched := rfl

@[simp] theorem Cut.prepend_value (t : Text) (cut : Cut α) :
    (cut.prepend t).value = cut.value := rfl

@[simp] theorem Cut.prepend_after (t : Text) (cut : Cut α) :
    (cut.prepend t).after = cut.after := rfl

@[simp] theorem Cut.prepend_prepend (t u : Text) (cut : Cut α) :
    (cut.prepend t).prepend u = cut.prepend (u ++ t) := by
  simp only [prepend, List.append_assoc]

def Found.cut {s : Text} (f : Found α s) : Cut α := ⟨f.before, f.matched, f.value, f.after⟩

namespace Scanner

variable {scan : Scanner α}

def cut? (scan : Scanner α) (s : Text) : Option (Cut α) := (scan.find? s).map Found.cut

@[simp] theorem cut?_nil : scan.cut? [] = none := rfl

theorem find?_eq_none_iff {s : Text} : scan.find? s = none ↔ scan.cut? s = none := by
  simp only [cut?, Option.map_eq_none_iff]

theorem cut?_cons_of_none {c : Char} {s : Text} (h : scan (c :: s) = none) :
    scan.cut? (c :: s) = (scan.cut? s).map (Cut.prepend [c]) := by
  simp only [cut?, find?, h, Option.map_map]
  rfl

theorem cut?_of_some {c : Char} {s rest : Text} {value : α}
    (h : scan (c :: s) = some (value, rest)) (hlt : rest.length < (c :: s).length) :
    scan.cut? (c :: s) =
      some ⟨[], (c :: s).take ((c :: s).length - rest.length), value, rest⟩ := by
  simp only [cut?, find?, h, dif_pos hlt]
  rfl

theorem length_cut? {scan : Scanner α} {s : Text} {c : Cut α} (h : scan.cut? s = some c) :
    c.before.length + c.after.length < s.length := by
  obtain ⟨f, _, rfl⟩ := Option.map_eq_some_iff.mp h
  have hlength := f.length_eq
  have hpos := f.matched_pos
  simp only [Found.cut]
  omega

theorem cut?_cons_cases (scan : Scanner α) (c : Char) (s : Text) :
    (∃ value rest, scan (c :: s) = some (value, rest) ∧
      scan.cut? (c :: s) =
        some ⟨[], (c :: s).take ((c :: s).length - rest.length), value, rest⟩) ∨
      scan.cut? (c :: s) = (scan.cut? s).map (Cut.prepend [c]) := by
  cases hscan : scan (c :: s) with
  | none => exact .inr (cut?_cons_of_none hscan)
  | some found =>
      obtain ⟨value, rest⟩ := found
      by_cases hlt : rest.length < (c :: s).length
      · exact .inl ⟨value, rest, rfl, cut?_of_some hscan hlt⟩
      · right
        simp only [cut?, find?, hscan, dif_neg hlt, Option.map_map]
        rfl

theorem reads_of_cut? {scan : Scanner α} {s : Text} {c : Cut α} (h : scan.cut? s = some c) :
    ∃ t, s = c.before ++ t ∧ scan t = some (c.value, c.after) ∧
      c.matched = t.take (t.length - c.after.length) := by
  induction s generalizing c with
  | nil => cases h
  | cons d s ih =>
      rcases cut?_cons_cases scan d s with ⟨value, rest, hread, hcut⟩ | hcut
      · rw [hcut] at h
        cases h
        exact ⟨d :: s, rfl, hread, rfl⟩
      · rw [hcut] at h
        obtain ⟨c', hc', rfl⟩ := Option.map_eq_some_iff.mp h
        obtain ⟨t, ht, hread⟩ := ih hc'
        exact ⟨t, by simp [ht], hread⟩

theorem eq_append_of_cut? {scan : Scanner α} {s : Text} {c : Cut α} (h : scan.cut? s = some c) :
    ∃ t, s = c.before ++ t ∧ scan t = some (c.value, c.after) := by
  obtain ⟨t, ht, hread, _⟩ := reads_of_cut? h
  exact ⟨t, ht, hread⟩

/-- The first match is not behind a place where the pattern reads something. -/
theorem exists_cut?_of_read {scan : Scanner α} {v rest : Text} {value : α}
    (hread : scan v = some (value, rest)) (hlt : rest.length < v.length) (u : Text) :
    ∃ c, scan.cut? (u ++ v) = some c ∧ c.before.length ≤ u.length := by
  induction u with
  | nil =>
      cases v with
      | nil => cases hlt
      | cons c v => exact ⟨_, cut?_of_some hread hlt, Nat.le_refl 0⟩
  | cons d u ih =>
      obtain ⟨c, hc, hle⟩ := ih
      rcases cut?_cons_cases scan d (u ++ v) with ⟨value, rest, _, hcut⟩ | hcut
      · exact ⟨_, hcut, Nat.zero_le _⟩
      · exact ⟨c.prepend [d], by rw [List.cons_append, hcut, hc, Option.map_some],
          Nat.succ_le_succ hle⟩

theorem exists_cut?_of_append {scan : Scanner α} {u v : Text} {c : Cut α}
    (h : scan.cut? (u ++ v) = some c) (hle : u.length ≤ c.before.length) :
    ∃ c', scan.cut? v = some c' ∧ c = c'.prepend u := by
  induction u generalizing c with
  | nil => exact ⟨c, h, rfl⟩
  | cons d u ih =>
      rw [List.cons_append] at h
      rcases cut?_cons_cases scan d (u ++ v) with ⟨value, rest, _, hcut⟩ | hcut
      · rw [hcut] at h
        cases h
        cases hle
      · rw [hcut] at h
        obtain ⟨c', hc', rfl⟩ := Option.map_eq_some_iff.mp h
        obtain ⟨c'', hc'', rfl⟩ := ih hc' (Nat.le_of_succ_le_succ hle)
        exact ⟨c'', hc'', Cut.prepend_prepend u [d] c''⟩

theorem cut?_eq_none {scan : Scanner α} {s : Text} (h : ∀ t, t <:+ s → scan t = none) :
    scan.cut? s = none := by
  cases hcut : scan.cut? s with
  | none => rfl
  | some c =>
      obtain ⟨t, ht, hscan⟩ := eq_append_of_cut? hcut
      rw [h t ⟨c.before, ht.symm⟩] at hscan
      cases hscan

/-- A pattern that reads nothing but where a directive may begin. -/
class AtMarks (scan : Scanner α) : Prop where
  other : ∀ {c : Char} {s : Text}, c ≠ '{' → scan (c :: s) = none
  single : ∀ {c : Char} {s : Text}, c ≠ '{' → scan ('{' :: c :: s) = none

def onMark (scan : Scanner α) (inside : Text) : Option α := (scan (mark inside)).map Prod.fst

/-- At a directive the pattern reads the directive or nothing, whatever follows. -/
def ReadsWhole (scan : Scanner α) (inside : Text) : Prop :=
  ∀ rest, scan (mark inside ++ rest) = (scan.onMark inside).map (·, rest)

theorem readsWhole_of {inside : Text} (value : Option α)
    (h : ∀ rest, scan (mark inside ++ rest) = value.map (·, rest)) : scan.ReadsWhole inside := by
  intro rest
  have hself := h []
  rw [List.append_nil] at hself
  rw [h rest, onMark, hself]
  cases value <;> rfl

theorem onMark_eq {inside : Text} {value : Option α}
    (h : ∀ rest, scan (mark inside ++ rest) = value.map (·, rest)) :
    scan.onMark inside = value := by
  have hself := h []
  rw [List.append_nil] at hself
  rw [onMark, hself]
  cases value <;> rfl

class Whole (scan : Scanner α) : Prop extends AtMarks scan where
  reads : ∀ {inside : Text}, Text.Unclosed inside → scan.ReadsWhole inside

def map (f : α → β) (scan : Scanner α) : Scanner β :=
  fun s => (scan s).map fun (value, rest) => (f value, rest)

instance [AtMarks scan] (f : α → β) : AtMarks (scan.map f) where
  other hc := by simp only [map, AtMarks.other hc, Option.map_none]
  single hc := by simp only [map, AtMarks.single hc, Option.map_none]

theorem ReadsWhole.map {inside : Text} (h : scan.ReadsWhole inside) (f : α → β) :
    (scan.map f).ReadsWhole inside :=
  readsWhole_of ((scan.onMark inside).map f) fun rest => by
    simp only [Scanner.map, h rest, Option.map_map]
    rfl

instance [Whole scan] (f : α → β) : Whole (scan.map f) where
  reads h := (Whole.reads h).map f

theorem onMark_map (f : α → β) (inside : Text) :
    (scan.map f).onMark inside = (scan.onMark inside).map f := by
  simp only [onMark, map, Option.map_map]
  rfl

theorem ReadsWhole.map_none {inside : Text} (h : scan.ReadsWhole inside)
    (hnone : scan.onMark inside = none) (f : α → β) :
    (scan.map f).ReadsWhole inside ∧ (scan.map f).onMark inside = none :=
  ⟨h.map f, by rw [onMark_map, hnone]; rfl⟩

instance : Whole (fun _ => none : Scanner α) where
  other _ := rfl
  single _ := rfl
  reads _ := fun _ => rfl

section

variable [AtMarks scan]

theorem eq_none_of_unopened {t : Text} (h : t.Unopened) (hne : t ≠ []) (s : Text) :
    scan (t ++ s) = none := by
  obtain ⟨c, t, rfl⟩ := List.exists_cons_of_ne_nil hne
  by_cases hc : c = '{'
  · -- A single opening brace: what follows it is another character.
    have hnext := h.1 hc
    cases t with
    | nil => cases hnext
    | cons d t =>
        subst hc
        exact AtMarks.single (by simpa using hnext)
  · exact AtMarks.other hc

theorem cut?_append_of_unopened {t : Text} (h : t.Unopened) (s : Text) :
    scan.cut? (t ++ s) = (scan.cut? s).map (Cut.prepend t) := by
  induction t with
  | nil =>
      have hid : (Cut.prepend [] : Cut α → Cut α) = id := rfl
      simp only [List.nil_append, hid, Option.map_id_fun, id_eq]
  | cons c t ih =>
      have hnone : scan (c :: (t ++ s)) = none := eq_none_of_unopened h (List.cons_ne_nil c t) s
      rw [List.cons_append, cut?_cons_of_none hnone, ih h.tail, Option.map_map]
      congr 1

theorem cut?_of_unopened {t : Text} (h : t.Unopened) : scan.cut? t = none := by
  have happend : scan.cut? (t ++ []) = _ := cut?_append_of_unopened h []
  simpa using happend

theorem cut?_mark_of_none {inside : Text} (hinside : Text.Enclosed inside)
    (hwhole : scan.ReadsWhole inside) (hnone : scan.onMark inside = none) (s : Text) :
    scan.cut? (mark inside ++ s) = (scan.cut? s).map (Cut.prepend (mark inside)) := by
  have hhead : scan ('{' :: '{' :: (inside ++ '}' :: '}' :: s)) = none := by
    rw [← mark_append, hwhole s, hnone]
    rfl
  have hsecond : scan ('{' :: (inside ++ '}' :: '}' :: s)) = none := by
    cases inside with
    | nil => exact AtMarks.single (by decide)
    | cons c inside =>
        exact AtMarks.single fun heq => hinside.head_ne (by rw [heq, List.head?_cons])
  have hrest : Text.Unopened (inside ++ ['}', '}']) := by
    have hclosed := hinside.unopened.append (t := ['}']) (by decide)
    simpa using hclosed
  have hsplit : inside ++ '}' :: '}' :: s = (inside ++ ['}', '}']) ++ s := by simp
  rw [mark_append, cut?_cons_of_none hhead, cut?_cons_of_none hsecond, hsplit,
    cut?_append_of_unopened hrest, Option.map_map, Option.map_map]
  congr 1

omit [AtMarks scan] in
theorem cut?_mark_of_some {inside : Text} {value : α} (hwhole : scan.ReadsWhole inside)
    (hsome : scan.onMark inside = some value) (s : Text) :
    scan.cut? (mark inside ++ s) = some ⟨[], mark inside, value, s⟩ := by
  have hhead : scan ('{' :: '{' :: (inside ++ '}' :: '}' :: s)) = some (value, s) := by
    rw [← mark_append, hwhole s, hsome]
    rfl
  have hlength : s.length < ('{' :: '{' :: (inside ++ '}' :: '}' :: s)).length := by
    simp only [List.length_cons, List.length_append]
    omega
  rw [mark_append, cut?_of_some hhead hlength, ← mark_append, List.length_append,
    Nat.add_sub_cancel, List.take_left]

/-- In a sequence of tokens a pattern reads nothing but where a directive stands. -/
theorem exists_directive_of_read {tokens : List Token} {before t : Text}
    (hs : spell tokens = before ++ t) (hne : t ≠ []) (hread : scan t ≠ none) :
    ∃ (d : Inside) (behind : List Token), t = mark d.text ++ spell behind := by
  -- The text of a token ends in `c`, which is all of it or one in which no directive opens.
  have hrest : ∀ {c : Text} {tokens : List Token}, c.Unopened → t = c ++ spell tokens →
      (spell tokens = [] ++ t → ∃ (d : Inside) (behind : List Token),
        t = mark d.text ++ spell behind) →
      ∃ (d : Inside) (behind : List Token), t = mark d.text ++ spell behind := by
    intro c tokens hc ht ih
    by_cases hnil : c = []
    · exact ih (by rw [ht, hnil]; rfl)
    · exact absurd (ht ▸ eq_none_of_unopened hc hnil (spell tokens)) hread
  induction tokens generalizing before with
  | nil => exact absurd (List.append_eq_nil_iff.mp hs.symm).2 hne
  | cons token tokens ih =>
      cases token with
      | text s =>
          rcases List.append_eq_append_iff.mp hs with ⟨a, _, hlater⟩ | ⟨c, hc, ht⟩
          · exact ih hlater
          · exact hrest (s.unopened.of_suffix ⟨before, hc.symm⟩) ht ih
      | directive d =>
          rcases List.append_eq_append_iff.mp hs with ⟨a, _, hlater⟩ | ⟨c, hc, ht⟩
          · exact ih hlater
          · cases before with
            | nil => exact ⟨d, tokens, by rw [ht, ← List.nil_append c, ← hc]⟩
            | cons e before =>
                obtain ⟨rfl, htail⟩ := List.cons.inj hc
                exact hrest (d.unopened_tail.of_suffix ⟨before, htail.symm⟩) ht ih

end

/-- A search with the pattern passes over a text, whatever follows it. -/
def PassesOver (scan : Scanner α) (t : Text) : Prop :=
  ∀ s, scan.cut? (t ++ s) = (scan.cut? s).map (Cut.prepend t)

theorem PassesOver.of_forall {t : Text} (h : ∀ c ∈ t, ∀ s, scan (c :: s) = none) :
    scan.PassesOver t := by
  intro s
  induction t with
  | nil => exact Option.map_id'.symm
  | cons c t ih =>
      obtain ⟨hc, ht⟩ := List.forall_mem_cons.mp h
      rw [List.cons_append, cut?_cons_of_none (hc (t ++ s)), ih ht, Option.map_map]
      rfl

theorem PassesOver.append {t u : Text} (ht : scan.PassesOver t) (hu : scan.PassesOver u) :
    scan.PassesOver (t ++ u) := by
  intro s
  rw [List.append_assoc, ht, hu, Option.map_map]
  congr 1
  funext c
  exact Cut.prepend_prepend u t c

/-- A recursion over the matches of a pattern: the text before a match stays, and `act` says what
becomes of the match and of what follows it. -/
def Drives [Applicative m] (scan : Scanner α) (run : Text → m Text)
    (act : Text → α → Text → m Text) : Prop :=
  ∀ s, run s =
    match scan.cut? s with
    | none => pure s
    | some cut => (cut.before ++ ·) <$> act cut.matched cut.value cut.after

namespace Drives

variable [Applicative m] {run : Text → m Text} {act : Text → α → Text → m Text}

theorem nil (h : scan.Drives run act) : run [] = pure [] := h []

theorem of_none {s : Text} (h : scan.Drives run act) (hnone : scan.cut? s = none) :
    run s = pure s := by
  rw [h s, hnone]

theorem append [LawfulApplicative m] (h : scan.Drives run act) {t s : Text}
    (hpass : scan.cut? (t ++ s) = (scan.cut? s).map (Cut.prepend t)) :
    run (t ++ s) = (t ++ ·) <$> run s := by
  rw [h (t ++ s), h s, hpass]
  cases scan.cut? s with
  | none => simp
  | some cut => simp

theorem text [LawfulApplicative m] [AtMarks scan] (h : scan.Drives run act) {t : Text}
    (ht : t.Unopened) (s : Text) : run (t ++ s) = (t ++ ·) <$> run s :=
  h.append (cut?_append_of_unopened ht s)

theorem skip [LawfulApplicative m] [AtMarks scan] (h : scan.Drives run act) {inside : Text}
    (hinside : Text.Enclosed inside) (hwhole : scan.ReadsWhole inside)
    (hnone : scan.onMark inside = none) (s : Text) :
    run (mark inside ++ s) = (mark inside ++ ·) <$> run s :=
  h.append (cut?_mark_of_none hinside hwhole hnone s)

theorem read [LawfulApplicative m] (h : scan.Drives run act) {inside : Text} {value : α}
    (hwhole : scan.ReadsWhole inside) (hsome : scan.onMark inside = some value) (s : Text) :
    run (mark inside ++ s) = act (mark inside) value s := by
  rw [h, cut?_mark_of_some hwhole hsome]
  simp

end Drives

end Scanner

end Stencil
