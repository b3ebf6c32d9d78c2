import Stencil.Proofs.Text.Blank
import Stencil.Proofs.Text.Split
import Stencil.Proofs.Text.Unclosed
import Stencil.Site.FrontMatter

namespace Stencil.FrontMatter

open Text

/-! Where the front matter of a text ends. -/

variable {s rest line matter body : Text} {lines : List Text}

def IsMark (line : Text) : Prop :=
  ∃ blanks, line = "---".toList ++ blanks ∧ ∀ c ∈ blanks, isBlank c = true

def BeginsSolid (s : Text) : Prop := ∀ c ∈ s.head?, isBlank c = false

theorem lineRests_solid (h : BeginsSolid s) : lineRests s = [] := by
  cases s with
  | nil => rfl
  | cons c s =>
      have hc : isBlank c = false := h c rfl
      rw [lineRests, hc, if_neg Bool.false_ne_true]

theorem lineRests_line (hline : '\n' ∉ line) (hsolid : ¬∀ c ∈ line, isBlank c = true) :
    lineRests (line ++ s) = [] := by
  induction line with
  | nil => exact absurd (List.forall_mem_nil _) hsolid
  | cons c line ih =>
      rw [List.mem_cons, not_or] at hline
      rw [List.cons_append, lineRests]
      split
      · next hblank =>
          have hfeed : (c == '\n') = false := beq_false_of_ne (Ne.symm hline.1)
          have hrest : ¬∀ d ∈ line, isBlank d = true := fun h =>
            hsolid (List.forall_mem_cons.mpr ⟨hblank, h⟩)
          rw [ih hline.2 hrest, hfeed]
          rfl
      · rfl

theorem mark?_line (hline : '\n' ∉ line) (h : ¬IsMark line) : mark? (line ++ '\n' :: s) = [] := by
  have hstop : '\n' ∉ "---".toList := by decide
  rw [mark?, dropStart?_append_stop hstop]
  cases hdrop : dropStart? "---".toList line with
  | none => rfl
  | some blanks =>
      have heq := eq_append_of_dropStart? hdrop
      refine lineRests_line (fun hfeed => hline ?_) fun hblank => h ⟨blanks, heq, hblank⟩
      rw [heq]
      exact List.mem_append_right _ hfeed

theorem mark?_mark (h : BeginsSolid rest) : mark? ("---\n".toList ++ rest) = [rest] := by
  have hdrop : dropStart? "---".toList ("---\n".toList ++ rest) = some ('\n' :: rest) :=
    dropStart?_append_self "---".toList ('\n' :: rest)
  have hfeed : isBlank '\n' = true := by decide
  rw [mark?, hdrop]
  dsimp only
  rw [lineRests, if_pos hfeed, lineRests_solid h]
  rfl

/-! A line is passed, or the front matter ends with it. -/

theorem closing?_cons {c : Char} (hc : c ≠ '\n') :
    closing? (c :: s) = (closing? s).map fun (before, rest) => (c :: before, rest) := by
  rw [closing?, beq_false_of_ne hc, if_neg Bool.false_ne_true]

theorem closing?_unmarked (hline : '\n' ∉ line) (h : mark? s = []) :
    closing? (line ++ '\n' :: s) =
      (closing? s).map fun (before, rest) => (line ++ '\n' :: before, rest) := by
  induction line with
  | nil =>
      rw [List.nil_append, closing?, beq_self_eq_true, if_pos rfl, h]
      rfl
  | cons c line ih =>
      rw [List.mem_cons, not_or] at hline
      rw [List.cons_append, closing?_cons (Ne.symm hline.1), ih hline.2, Option.map_map]
      rfl

theorem closing?_marked {more : List Text} (hline : '\n' ∉ line) (h : mark? s = rest :: more) :
    closing? (line ++ '\n' :: s) = some (line, rest) := by
  induction line with
  | nil => rw [List.nil_append, closing?, beq_self_eq_true, if_pos rfl, h]
  | cons c line ih =>
      rw [List.mem_cons, not_or] at hline
      rw [List.cons_append, closing?_cons (Ne.symm hline.1), ih hline.2]
      rfl

theorem closing?_lines (hne : lines ≠ []) (hlines : ∀ line ∈ lines, '\n' ∉ line)
    (hmarks : ∀ line ∈ lines, ¬IsMark line) (hbody : BeginsSolid body) :
    closing? (join ['\n'] lines ++ '\n' :: ("---\n".toList ++ body)) =
      some (join ['\n'] lines, body) := by
  induction lines with
  | nil => exact absurd rfl hne
  | cons line lines ih =>
      obtain ⟨hline, hlines⟩ := List.forall_mem_cons.mp hlines
      obtain ⟨-, hmarks⟩ := List.forall_mem_cons.mp hmarks
      cases lines with
      | nil => exact closing?_marked hline (mark?_mark hbody)
      | cons next lines =>
          have hrest : ∃ s, join ['\n'] (next :: lines) ++ '\n' :: ("---\n".toList ++ body) =
              next ++ '\n' :: s := by
            cases lines with
            | nil => exact ⟨_, rfl⟩
            | cons last lines => exact ⟨_, by simp only [join, List.append_assoc]; rfl⟩
          have hpassed : mark? (join ['\n'] (next :: lines) ++ '\n' :: ("---\n".toList ++ body)) =
              [] := by
            obtain ⟨s, hs⟩ := hrest
            rw [hs]
            exact mark?_line (hlines next List.mem_cons_self) (hmarks next List.mem_cons_self)
          rw [join, List.append_assoc, List.append_assoc, List.singleton_append,
            closing?_unmarked hline hpassed, ih (List.cons_ne_nil _ _) hlines hmarks]
          simp

/-! Front matter that is written before a body. -/

def written (matter body : Text) : Text :=
  "---\n".toList ++ (matter ++ '\n' :: ("---\n".toList ++ body))

/-- Front matter that is found again where it is written: it does not begin with a blank, and none of
its lines is a mark. -/
structure Written (matter : Text) : Prop where
  begins : ∃ c ∈ matter.head?, isBlank c = false
  lines : ∀ line ∈ matter.splitAt '\n', ¬IsMark line

theorem split?_written (hmatter : Written matter) (hbody : BeginsSolid body) :
    split? (written matter body) = some (matter, body) := by
  have hbegins : BeginsSolid (matter ++ '\n' :: ("---\n".toList ++ body)) := by
    obtain ⟨c, hc, hsolid⟩ := hmatter.begins
    intro d hd
    rw [List.head?_append, hc, Option.some_or] at hd
    cases hd
    exact hsolid
  have hfeeds : ∀ line ∈ matter.splitAt '\n', '\n' ∉ line := fun _ => not_mem_of_mem_splitAt
  have hne : matter.splitAt '\n' ≠ [] := splitFrom_ne_nil [] matter
  have hclosing := closing?_lines hne hfeeds hmatter.lines hbody
  rw [join_splitAt] at hclosing
  rw [split?, written, mark?_mark hbegins, List.findSome?_cons, hclosing]

/-! What is left of a text as its body. -/

theorem suffix_of_mem_lineRests (h : rest ∈ lineRests s) : '\n' :: rest <:+ s := by
  induction s with
  | nil => cases h
  | cons c s ih =>
      rw [lineRests] at h
      split at h
      · rcases List.mem_append.mp h with h | h
        · exact (ih h).trans (List.suffix_cons c s)
        · split at h
          · next hfeed =>
              obtain rfl := List.mem_singleton.mp h
              obtain rfl := eq_of_beq hfeed
              exact List.suffix_rfl
          · cases h
      · cases h

theorem suffix_of_mem_mark? (h : rest ∈ mark? s) : '\n' :: rest <:+ s := by
  rw [mark?] at h
  split at h
  · next t hdrop =>
      rw [eq_append_of_dropStart? hdrop]
      exact (suffix_of_mem_lineRests h).trans (List.suffix_append _ _)
  · cases h

theorem suffix_of_closing? (h : closing? s = some (matter, rest)) : '\n' :: rest <:+ s := by
  induction s generalizing matter with
  | nil => cases h
  | cons c s ih =>
      rw [closing?] at h
      split at h
      · next found more hmark =>
          cases h
          split at hmark
          · have hmem : rest ∈ mark? s := by
              rw [hmark]
              exact List.mem_cons_self
            exact (suffix_of_mem_mark? hmem).trans (List.suffix_cons c s)
          · cases hmark
      · obtain ⟨⟨before, rest⟩, hclosing, hpair⟩ := Option.map_eq_some_iff.mp h
        cases hpair
        exact (ih hclosing).trans (List.suffix_cons c s)

theorem suffix_of_split? (h : split? s = some (matter, body)) : '\n' :: body <:+ s := by
  obtain ⟨rest, hrest, hclosing⟩ := List.exists_of_findSome?_eq_some h
  exact (suffix_of_closing? hclosing).trans
    ((List.suffix_cons '\n' rest).trans (suffix_of_mem_mark? hrest))

theorem extract_cases {entries : List (Value × Value)} (h : extract s = .ok (entries, body)) :
    entries = [] ∧ body = s ∨ ∃ matter, split? s = some (matter, body) := by
  unfold extract at h
  split at h
  · cases h
    exact .inl ⟨rfl, rfl⟩
  · next matter behind hsplit =>
      split at h
      · split at h
        · cases h
          exact .inr ⟨matter, hsplit⟩
        · cases h
          exact .inl ⟨rfl, rfl⟩
      · cases h
        exact .inl ⟨rfl, rfl⟩
      · cases h

/-- Front matter that is written before a body is read back with the body as it is; and what is read
of any text leaves all of it as the body, or what stands behind a line of it. -/
theorem extract_written :
    (∀ matter body entries, Written matter → BeginsSolid body →
      Yaml.read matter = .ok (.map entries) →
      extract (written matter body) = .ok (entries, body)) ∧
    ∀ s entries body, extract s = .ok (entries, body) →
      entries = [] ∧ body = s ∨ body <:+ s ∧ body ≠ s := by
  constructor
  · intro matter body entries hmatter hbody hread
    rw [extract, split?_written hmatter hbody]
    dsimp only
    rw [hread]
    rfl
  · intro s entries body h
    rcases extract_cases h with hall | ⟨matter, hsplit⟩
    · exact .inl hall
    · have hsuffix := suffix_of_split? hsplit
      refine .inr ⟨(List.suffix_cons '\n' body).trans hsuffix, fun heq => ?_⟩
      have hlength := hsuffix.length_le
      rw [heq, List.length_cons] at hlength
      omega

/-- An entry whose text goes on with three hyphens, which do not stand where a line begins. -/
def dashedMatter : Text := "title: a\n  ---".toList

/-- A body that has marks and front matter of its own. -/
def markedBody : Text := "c\n---\n\n---\nd: e\n---\n".toList

theorem extract_written_dashedMatter :
    Written dashedMatter ∧ BeginsSolid markedBody ∧
      Yaml.read dashedMatter = .ok (.map [(.text "title".toList, .text "a ---".toList)]) ∧
      extract (written dashedMatter markedBody) =
        .ok ([(.text "title".toList, .text "a ---".toList)], markedBody) := by
  have hlines : dashedMatter.splitAt '\n' = ["title: a".toList, "  ---".toList] := by
    with_unfolding_all rfl
  have hmatter : Written dashedMatter := by
    refine ⟨⟨'t', rfl, by decide⟩, fun line hline ⟨blanks, heq, _⟩ => ?_⟩
    rw [hlines, heq] at hline
    revert hline
    simp
  have hbody : BeginsSolid markedBody := by
    intro c hc
    cases hc
    decide
  have hnode : Yaml.Node.ofText? dashedMatter =
      .ok (some (.mapping none [(.scalar none "title".toList, .scalar none "a ---".toList)])) := by
    with_unfolding_all rfl
  have hread := Yaml.read_entry hnode rfl rfl
  exact ⟨hmatter, hbody, hread, extract_written.1 _ _ _ hmatter hbody hread⟩

end Stencil.FrontMatter
