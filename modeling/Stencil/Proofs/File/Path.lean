import Stencil.File.Path
import Stencil.Proofs.Text.Split

namespace Stencil

namespace Path

/-! The components of a written path. -/

structure Component (part : Text) : Prop where
  ne_nil : part ≠ []
  ne_here : part ≠ ['.']
  ne_back : part ≠ ['.', '.']
  slashless : '/' ∉ part

instance (part : Text) : Decidable (Component part) :=
  decidable_of_iff (part ≠ [] ∧ part ≠ ['.'] ∧ part ≠ ['.', '.'] ∧ '/' ∉ part)
    ⟨fun h => ⟨h.1, h.2.1, h.2.2.1, h.2.2.2⟩,
      fun h => ⟨h.ne_nil, h.ne_here, h.ne_back, h.slashless⟩⟩

theorem component_of_length {part : Text} (hlong : 2 < part.length) (hslash : '/' ∉ part) :
    Component part where
  ne_nil hnil := by simp [hnil] at hlong
  ne_here hhere := by simp [hhere] at hlong
  ne_back hback := by simp [hback] at hlong
  slashless := hslash

theorem component_of_not_mem {part : Text} (hne : part ≠ []) (hdot : '.' ∉ part)
    (hslash : '/' ∉ part) : Component part where
  ne_nil := hne
  ne_here hhere := hdot (by simp [hhere])
  ne_back hback := hdot (by simp [hback])
  slashless := hslash

/-- A relative path that is written as its components are, with no `.` or `..` among them. -/
def Canonical (s : Text) : Prop :=
  ∃ parts : List Text, (∀ part ∈ parts, Component part) ∧ s = Text.join ['/'] parts

theorem ofText_join {parts : List Text} (h : ∀ part ∈ parts, Component part) :
    ofText (Text.join ['/'] parts) = ⟨false, parts⟩ := by
  cases parts with
  | nil => rfl
  | cons part rest =>
      have hhead : (Text.join ['/'] (part :: rest)).head? ≠ some '/' := by
        obtain ⟨c, tail, rfl⟩ := List.exists_cons_of_ne_nil (h part List.mem_cons_self).ne_nil
        have hslash := (h _ List.mem_cons_self).slashless
        have hne : c ≠ '/' := fun heq => hslash (heq ▸ List.mem_cons_self)
        cases rest <;> simpa [Text.join] using hne
      have hkept : ∀ other ∈ part :: rest, (!other.isEmpty && other != ['.']) = true := by
        intro other hmem
        simp [(h other hmem).ne_nil, (h other hmem).ne_here]
      rw [ofText, Text.splitAt_join (List.cons_ne_nil _ _) fun other hmem => (h other hmem).slashless,
        List.filter_eq_self.mpr hkept, beq_eq_false_iff_ne.mpr hhead]

instance (s : Text) : Decidable (Canonical s) :=
  decidable_of_iff
    ((∀ part ∈ (ofText s).parts, Component part) ∧ s = Text.join ['/'] (ofText s).parts)
    ⟨fun h => ⟨_, h.1, h.2⟩, by
      rintro ⟨parts, hparts, rfl⟩
      rw [ofText_join hparts]
      exact ⟨hparts, rfl⟩⟩

theorem join_eq_join_iff {parts others : List Text} (h : ∀ part ∈ parts, Component part)
    (hothers : ∀ part ∈ others, Component part) :
    Text.join ['/'] parts = Text.join ['/'] others ↔ parts = others := by
  refine ⟨fun heq => ?_, fun heq => heq ▸ rfl⟩
  have hread := congrArg ofText heq
  rw [ofText_join h, ofText_join hothers] at hread
  exact (Path.mk.inj hread).2

/-- A path below its start, whatever folders are there: it never leads back. -/
structure Forward (p : Path) : Prop where
  relative : p.isAbsolute = false
  not_mem : ['.', '.'] ∉ p.parts

theorem isAbsolute_ofText_eq_false {s : Text} (h : s.head? ≠ some '/') :
    (ofText s).isAbsolute = false :=
  beq_eq_false_iff_ne.mpr h

theorem head?_ne_of_relative {s : Text} (h : (ofText s).isAbsolute = false) : s.head? ≠ some '/' :=
  beq_eq_false_iff_ne.mp h

theorem parts_append_slash (s t : Text) :
    (ofText (s ++ '/' :: t)).parts = (ofText s).parts ++ (ofText t).parts := by
  simp [ofText, Text.splitAt_append_cons]

theorem forward_append_slash {s t : Text} (hs : (ofText s).Forward) (hne : s ≠ [])
    (ht : (ofText t).Forward) : (ofText (s ++ '/' :: t)).Forward where
  relative := by
    obtain ⟨c, s, rfl⟩ := List.exists_cons_of_ne_nil hne
    exact isAbsolute_ofText_eq_false (head?_ne_of_relative hs.relative)
  not_mem := by
    rw [parts_append_slash, List.mem_append]
    exact fun hmem => hmem.elim hs.not_mem ht.not_mem

/-- An extension that is longer than `..` makes a name of any last component. -/
theorem forward_append {s t : Text} (hs : (ofText s).Forward) (ht : '/' ∉ t) (hlong : 2 < t.length) :
    (ofText (s ++ t)).Forward where
  relative := by
    refine isAbsolute_ofText_eq_false fun hhead => ?_
    cases s with
    | nil => exact ht (List.mem_of_mem_head? hhead)
    | cons c s => exact head?_ne_of_relative hs.relative hhead
  not_mem := by
    obtain ⟨front, last, hsplit, happend⟩ := Text.splitAt_append ht s
    have hnot := hs.not_mem
    simp only [ofText, hsplit, List.filter_append, List.mem_append] at hnot
    simp only [ofText, happend, List.filter_append, List.mem_append]
    rintro (hmem | hmem)
    · exact hnot (.inl hmem)
    · have hlast := List.mem_singleton.mp (List.mem_filter.mp hmem).1
      have hlength := congrArg List.length hlast
      simp only [List.length_append, List.length_cons, List.length_nil] at hlength
      omega

/-! Where paths lead. -/

/-- The place that a component leads to from a place: `..` leads to the folder around it, and the root
is in no other. -/
def enter (place : List Text) (part : Text) : List Text :=
  if part = ['.', '.'] then place.dropLast else place ++ [part]

theorem enter_back {part : Text} (h : part ≠ ['.', '.']) (place : List Text) :
    enter (enter place part) ['.', '.'] = place := by
  rw [enter, if_pos rfl, enter, if_neg h, List.dropLast_concat]

/-- Where a path leads, by the components below the root, when paths start from `start`. -/
def resolve (start : List Text) (p : Path) : List Text :=
  p.parts.foldl enter (if p.isAbsolute then [] else start)

def LiesUnder (p folder : Path) (start : List Text) : Prop :=
  folder.resolve start <+: p.resolve start

/-- Whether components never lead above where they begin, from a place `depth` folders below. -/
def staysBelow (depth : Nat) : List Text → Bool
  | [] => true
  | part :: rest =>
      if part = ['.', '.'] then depth != 0 && staysBelow (depth - 1) rest
      else staysBelow (depth + 1) rest

structure Descends (p : Path) : Prop where
  relative : p.isAbsolute = false
  stays : staysBelow 0 p.parts = true

instance (p : Path) : Decidable p.Descends :=
  decidable_of_iff (p.isAbsolute = false ∧ staysBelow 0 p.parts = true)
    ⟨fun h => ⟨h.1, h.2⟩, fun h => ⟨h.relative, h.stays⟩⟩

theorem staysBelow_of_not_mem {depth : Nat} {parts : List Text} (h : ['.', '.'] ∉ parts) :
    staysBelow depth parts = true := by
  induction parts generalizing depth with
  | nil => rfl
  | cons part rest ih =>
      obtain ⟨hpart, hrest⟩ := not_or.mp (mt List.mem_cons.mpr h)
      rw [staysBelow, if_neg (Ne.symm hpart)]
      exact ih hrest

theorem Forward.descends {p : Path} (h : p.Forward) : p.Descends where
  relative := h.relative
  stays := staysBelow_of_not_mem h.not_mem

theorem resolve_join {folder p : Path} (h : p.isAbsolute = false) (start : List Text) :
    (folder.join p).resolve start = p.parts.foldl enter (folder.resolve start) := by
  rw [join, h, if_neg Bool.false_ne_true, resolve, List.foldl_append, resolve]

theorem prefix_of_staysBelow {base below parts : List Text}
    (h : staysBelow below.length parts = true) : base <+: parts.foldl enter (base ++ below) := by
  induction parts generalizing below with
  | nil => exact List.prefix_append base below
  | cons part rest ih =>
      rw [List.foldl_cons, enter]
      by_cases hback : part = ['.', '.']
      · rw [staysBelow, if_pos hback, Bool.and_eq_true, bne_iff_ne] at h
        have hbelow : below ≠ [] := fun hnil => h.1 (congrArg List.length hnil)
        rw [if_pos hback, List.dropLast_append_of_ne_nil hbelow]
        exact ih (by rw [List.length_dropLast]; exact h.2)
      · rw [staysBelow, if_neg hback] at h
        rw [if_neg hback, List.append_assoc]
        exact ih (by simpa using h)

theorem not_mem_enter {x : Text} {place : List Text} {part : Text} (hplace : x ∉ place)
    (hpart : x ≠ part) : x ∉ enter place part := by
  unfold enter
  split
  · exact fun hmem => hplace ((List.dropLast_sublist place).subset hmem)
  · simp [hplace, hpart]

theorem not_mem_foldl_enter {x : Text} {place parts : List Text} (hplace : x ∉ place)
    (hparts : x ∉ parts) : x ∉ parts.foldl enter place := by
  induction parts generalizing place with
  | nil => exact hplace
  | cons part rest ih =>
      obtain ⟨hpart, hrest⟩ := not_or.mp (mt List.mem_cons.mpr hparts)
      exact ih (not_mem_enter hplace hpart) hrest

theorem not_mem_of_not_staysBelow {x : Text} {below parts : List Text}
    (h : staysBelow below.length parts = false) (hbelow : x ∉ below) (hparts : x ∉ parts) :
    x ∉ parts.foldl enter (x :: below) := by
  induction parts generalizing below with
  | nil => cases h
  | cons part rest ih =>
      obtain ⟨hpart, hrest⟩ := not_or.mp (mt List.mem_cons.mpr hparts)
      rw [List.foldl_cons, enter]
      by_cases hback : part = ['.', '.']
      · rw [staysBelow, if_pos hback, Bool.and_eq_false_iff, bne_eq_false_iff_eq] at h
        rw [if_pos hback]
        cases below with
        | nil => exact not_mem_foldl_enter List.not_mem_nil hrest
        | cons c below =>
            have hlength : staysBelow (c :: below).dropLast.length rest = false := by
              rw [List.length_dropLast]
              exact h.resolve_left (Nat.succ_ne_zero _)
            exact ih hlength (fun hmem => hbelow ((List.dropLast_sublist _).subset hmem)) hrest
      · rw [staysBelow, if_neg hback] at h
        rw [if_neg hback, List.cons_append]
        exact ih (by simpa using h) (by simp [hbelow, hpart]) hrest

theorem Descends.liesUnder {p : Path} (h : p.Descends) (folder : Path) (start : List Text) :
    (folder.join p).LiesUnder folder start := by
  have hunder : folder.resolve start <+: p.parts.foldl enter (folder.resolve start ++ []) :=
    prefix_of_staysBelow h.stays
  rwa [List.append_nil, ← resolve_join h.relative] at hunder

theorem exists_not_liesUnder {p : Path} (h : ¬p.Descends) :
    ∃ start, ¬(here.join p).LiesUnder here start := by
  obtain ⟨x, hx⟩ : ∃ x, x ∉ p.parts := by
    refine ⟨p.parts.flatten ++ ['x'], fun hmem => ?_⟩
    have hlength := (List.sublist_flatten_of_mem hmem).length_le
    rw [List.length_append, List.length_singleton] at hlength
    exact Nat.not_succ_le_self _ hlength
  have hleft : x ∉ (here.join p).resolve [x] := by
    cases habsolute : p.isAbsolute with
    | true =>
        rw [join, habsolute, if_pos rfl, resolve, habsolute, if_pos rfl]
        exact not_mem_foldl_enter List.not_mem_nil hx
    | false =>
        have hstays : staysBelow ([] : List Text).length p.parts = false :=
          eq_false_of_ne_true fun hstays => h ⟨habsolute, hstays⟩
        rw [resolve_join habsolute]
        exact not_mem_of_not_staysBelow hstays List.not_mem_nil hx
  exact ⟨[x], fun hunder => hleft (hunder.subset (List.mem_singleton_self x))⟩

end Path

end Stencil
