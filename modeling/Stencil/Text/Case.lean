import Stencil.Text.Basic
import Stencil.Text.CaseTable
/-!
Upper and lower case of whole texts. A character may become several; a capital sigma becomes the
final form at the end of a word.
-/

namespace Stencil.Text

private def CaseRun.image? (run : CaseRun) (n : Nat) : Option Nat :=
  if run.first ≤ n && n ≤ run.last && (n - run.first) % run.step == 0 then
    some (run.image + (n - run.first))
  else none

private def mapCase (runs : List CaseRun) (expansions : List (Nat × List Nat)) (c : Char) : Text :=
  match expansions.lookup c.toNat with
  | some image => image.map Char.ofNat
  | none =>
      match runs.findSome? (·.image? c.toNat) with
      | some n => [Char.ofNat n]
      | none => [c]

def upperChar (c : Char) : Text :=
  if c.toNat < 128 then [c.toUpper] else mapCase upperRuns upperExpansions c

def lowerChar (c : Char) : Text :=
  if c.toNat < 128 then [c.toLower] else mapCase lowerRuns lowerExpansions c

/-- Title case differs from upper case for digraphs such as `ǆ`. -/
def titleChar (c : Char) : Text :=
  if c.toNat < 128 then [c.toUpper] else mapCase titleRuns titleExpansions c

def isCased (c : Char) : Bool := inRanges casedRanges c.toNat

def isCaseIgnorable (c : Char) : Bool := inRanges caseIgnorableRanges c.toNat

private def nextIsCased (s : Text) : Bool :=
  match s.dropWhile isCaseIgnorable with
  | [] => false
  | c :: _ => isCased c

/-- Lower case of `s` standing after the reversed text `before`. -/
private def lowerFrom (before : Text) : Text → Text
  | [] => []
  | c :: s =>
      let image :=
        if c == 'Σ' then if nextIsCased before && !nextIsCased s then ['ς'] else ['σ']
        else lowerChar c
      image ++ lowerFrom (c :: before) s

def toUpper (s : Text) : Text := s.flatMap upperChar

def toLower (s : Text) : Text := lowerFrom [] s

private theorem mem_lowerFrom {c d : Char} (hsigma : c ≠ 'Σ') (himage : d ∈ lowerChar c)
    {s : Text} (h : c ∈ s) (before : Text) : d ∈ lowerFrom before s := by
  induction s generalizing before with
  | nil => cases h
  | cons e s ih =>
      rw [lowerFrom, List.mem_append]
      rcases List.mem_cons.mp h with rfl | h
      · left
        simpa [hsigma] using himage
      · exact .inr (ih h _)

theorem mem_toLower {c d : Char} (hsigma : c ≠ 'Σ') (himage : d ∈ lowerChar c) {s : Text}
    (h : c ∈ s) : d ∈ toLower s :=
  mem_lowerFrom hsigma himage h []

private theorem lowerFrom_eq_self {s : Text} (h : ∀ c ∈ s, c ≠ 'Σ' ∧ lowerChar c = [c])
    (before : Text) : lowerFrom before s = s := by
  induction s generalizing before with
  | nil => rfl
  | cons c s ih =>
      obtain ⟨⟨hsigma, himage⟩, hs⟩ := List.forall_mem_cons.mp h
      rw [lowerFrom, beq_false_of_ne hsigma, if_neg Bool.false_ne_true, himage, ih hs]
      rfl

theorem toLower_eq_self {s : Text} (h : ∀ c ∈ s, c ≠ 'Σ' ∧ lowerChar c = [c]) : toLower s = s :=
  lowerFrom_eq_self h []

/-- The first character in title case, all others in lower case. -/
def capitalize : Text → Text
  | [] => []
  | c :: s => titleChar c ++ lowerFrom [c] s

def capitalizeWords (s : Text) : Text := join [' '] (s.words.map capitalize)

/-! A closing brace stands in a text with another case only where it stood before. -/

private def CaseRun.avoids (n : Nat) (run : CaseRun) : Bool :=
  n < run.image || run.image + (run.last - run.first) < n

private theorem CaseRun.image?_ne {run : CaseRun} {n : Nat} (h : run.avoids n = true) (m : Nat) :
    run.image? m ≠ some n := by
  unfold CaseRun.image? CaseRun.avoids at *
  split
  · next hrange =>
      simp only [Bool.and_eq_true, Bool.or_eq_true, decide_eq_true_eq] at hrange h
      intro himage
      have hn := Option.some.inj himage
      omega
  · exact fun himage => nomatch himage

private theorem ofNat_ne_close {n : Nat} (h : n ≠ 0x7d) : Char.ofNat n ≠ '}' := by
  intro heq
  by_cases hvalid : n.isValidChar
  · have hnat : (Char.ofNat n).toNat = n := by
      rw [Char.ofNat, dif_pos hvalid]
      rfl
    rw [heq] at hnat
    exact h hnat.symm
  · rw [Char.ofNat, dif_neg hvalid] at heq
    exact absurd heq (by decide)

private theorem eq_of_close_mem_mapCase {runs : List CaseRun} {expansions : List (Nat × List Nat)}
    (hruns : runs.all (·.avoids 0x7d) = true)
    (hexpansions : expansions.all (fun entry => entry.2.all (· != 0x7d)) = true) {c : Char}
    (h : '}' ∈ mapCase runs expansions c) : c = '}' := by
  unfold mapCase at h
  split at h
  · next image himage =>
      obtain ⟨n, hn, hchar⟩ := List.mem_map.mp h
      obtain ⟨before, behind, hsplit, -⟩ := List.lookup_eq_some_iff.mp himage
      have hentry := List.all_eq_true.mp hexpansions (c.toNat, image) (by simp [hsplit])
      have hne : n ≠ 0x7d := by simpa using List.all_eq_true.mp hentry n hn
      exact absurd hchar (ofNat_ne_close hne)
  · split at h
    · next n hn =>
        obtain ⟨run, hrun, himage⟩ := List.exists_of_findSome?_eq_some hn
        have hne : n ≠ 0x7d := by
          rintro rfl
          exact CaseRun.image?_ne (List.all_eq_true.mp hruns run hrun) _ himage
        exact absurd (List.mem_singleton.mp h).symm (ofNat_ne_close hne)
    · exact (List.mem_singleton.mp h).symm

private theorem eq_of_ascii_case {c : Char} (hc : c.toNat < 128)
    (h : c.toUpper = '}' ∨ c.toLower = '}') : c = '}' := by
  have hall : ∀ n < 128, (Char.ofNat n).toUpper = '}' ∨ (Char.ofNat n).toLower = '}' →
      Char.ofNat n = '}' := by decide
  rw [← Char.ofNat_toNat c] at h ⊢
  exact hall c.toNat hc h

theorem eq_of_close_mem_lowerChar {c : Char} (h : '}' ∈ lowerChar c) : c = '}' := by
  unfold lowerChar at h
  split at h
  · next hascii => exact eq_of_ascii_case hascii (.inr (List.mem_singleton.mp h).symm)
  · exact eq_of_close_mem_mapCase (by decide +kernel) (by decide +kernel) h

theorem eq_of_close_mem_upperChar {c : Char} (h : '}' ∈ upperChar c) : c = '}' := by
  unfold upperChar at h
  split at h
  · next hascii => exact eq_of_ascii_case hascii (.inl (List.mem_singleton.mp h).symm)
  · exact eq_of_close_mem_mapCase (by decide +kernel) (by decide +kernel) h

theorem eq_of_close_mem_titleChar {c : Char} (h : '}' ∈ titleChar c) : c = '}' := by
  unfold titleChar at h
  split at h
  · next hascii => exact eq_of_ascii_case hascii (.inl (List.mem_singleton.mp h).symm)
  · exact eq_of_close_mem_mapCase (by decide +kernel) (by decide +kernel) h

private theorem close_mem_of_mem_lowerFrom {before s : Text} (h : '}' ∈ lowerFrom before s) :
    '}' ∈ s := by
  induction s generalizing before with
  | nil => cases h
  | cons c s ih =>
      rw [lowerFrom, List.mem_append] at h
      rcases h with himage | hrest
      · split at himage
        · split at himage <;> simp at himage
        · exact List.mem_cons.mpr (.inl (eq_of_close_mem_lowerChar himage).symm)
      · exact List.mem_cons_of_mem c (ih hrest)

theorem close_mem_of_mem_toUpper {s : Text} (h : '}' ∈ toUpper s) : '}' ∈ s := by
  obtain ⟨c, hc, himage⟩ := List.mem_flatMap.mp h
  exact eq_of_close_mem_upperChar himage ▸ hc

theorem close_mem_of_mem_toLower {s : Text} (h : '}' ∈ toLower s) : '}' ∈ s :=
  close_mem_of_mem_lowerFrom h

theorem close_mem_of_mem_capitalize {s : Text} (h : '}' ∈ capitalize s) : '}' ∈ s := by
  cases s with
  | nil => cases h
  | cons c s =>
      rcases List.mem_append.mp h with himage | hrest
      · exact List.mem_cons.mpr (.inl (eq_of_close_mem_titleChar himage).symm)
      · exact List.mem_cons_of_mem c (close_mem_of_mem_lowerFrom hrest)

end Stencil.Text
