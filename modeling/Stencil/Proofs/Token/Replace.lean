import Stencil.Proofs.Token.Scan

namespace Stencil.Scanner

/-! Replacing the matches of a pattern. -/

theorem replace_drives (scan : Scanner Text) :
    Drives (m := Id) scan scan.replace fun _ value after => value ++ scan.replace after := by
  intro s
  rw [replace, cut?]
  cases scan.find? s with
  | none => rfl
  | some f => exact List.append_assoc ..

theorem replace_of_none {scan : Scanner Text} {s : Text} (h : scan.cut? s = none) :
    scan.replace s = s :=
  scan.replace_drives.of_none h

theorem replace_eq_of_cut? {scan : Scanner Text} {s : Text} {c : Cut Text}
    (h : scan.cut? s = some c) :
    scan.replace s = c.before ++ (c.value ++ scan.replace c.after) := by
  have hdrives := scan.replace_drives s
  rw [h] at hdrives
  exact hdrives

/-- Match by match: up to the first one the text stays, and what is behind it is replaced in turn. -/
theorem replace_induct {scan : Scanner Text} {P : Text → Text → Prop}
    (hnone : ∀ s, scan.cut? s = none → P s s)
    (hread : ∀ before t value after : Text, scan t = some (value, after) →
      P after (scan.replace after) → P (before ++ t) (before ++ (value ++ scan.replace after)))
    (s : Text) : P s (scan.replace s) := by
  induction hlength : s.length using Nat.strongRecOn generalizing s with
  | ind n ih =>
      cases hcut : scan.cut? s with
      | none =>
          rw [replace_of_none hcut]
          exact hnone s hcut
      | some c =>
          have hshorter := length_cut? hcut
          obtain ⟨t, rfl, ht⟩ := eq_append_of_cut? hcut
          rw [replace_eq_of_cut? hcut]
          exact hread c.before t c.value c.after ht (ih c.after.length (by omega) c.after rfl)

theorem remove_eq_replace_map (scan : Scanner α) (s : Text) :
    scan.remove s = (scan.map fun _ => []).replace s := rfl

theorem remove_of_unopened {scan : Scanner α} [AtMarks scan] {s : Text} (h : s.Unopened) :
    scan.remove s = s := by
  rw [remove_eq_replace_map]
  exact replace_of_none (cut?_of_unopened h)

theorem remove_spell (scan : Scanner α) [Whole scan] (tokens : List Token) :
    ∃ rest : List Token, scan.remove (spell tokens) = spell rest ∧ rest.Sublist tokens ∧
      ∀ inside ∈ directives rest, scan.onMark inside = none := by
  have hdrives := replace_drives (scan.map fun _ => ([] : Text))
  induction tokens with
  | nil => exact ⟨[], hdrives.nil, .slnil, fun _ hmem => nomatch hmem⟩
  | cons token tokens ih =>
      obtain ⟨rest, hrest, hsub, hnone⟩ := ih
      cases token with
      | text s =>
          have hstep : scan.remove (s.text ++ spell tokens) =
              s.text ++ scan.remove (spell tokens) := hdrives.text s.unopened _
          refine ⟨.text s :: rest, ?_, hsub.cons_cons _, hnone⟩
          rw [spell_text, hstep, hrest, spell_text]
      | directive inside =>
          have hwhole : (scan.map fun _ => ([] : Text)).ReadsWhole inside.text :=
            Whole.reads inside.enclosed.unclosed
          cases hread : scan.onMark inside.text with
          | none =>
              have hmapped : (scan.map fun _ => ([] : Text)).onMark inside.text = none := by
                rw [onMark_map, hread]
                rfl
              have hstep : scan.remove (mark inside.text ++ spell tokens) =
                  mark inside.text ++ scan.remove (spell tokens) :=
                hdrives.skip inside.enclosed hwhole hmapped _
              refine ⟨.directive inside :: rest, ?_, hsub.cons_cons _, ?_⟩
              · rw [spell_directive, hstep, hrest, spell_directive]
              · exact List.forall_mem_cons.mpr ⟨hread, hnone⟩
          | some value =>
              have hmapped : (scan.map fun _ => ([] : Text)).onMark inside.text = some [] := by
                rw [onMark_map, hread]
                rfl
              have hstep : scan.remove (mark inside.text ++ spell tokens) =
                  [] ++ scan.remove (spell tokens) := hdrives.read hwhole hmapped _
              refine ⟨rest, ?_, hsub.cons _, hnone⟩
              rw [spell_directive, hstep, hrest]
              rfl

/-- What a pattern leaves: the same first character, and then text in which no directive opens. -/
def Mends (scan : Scanner Text) : Prop :=
  ∀ {s value rest : Text}, scan s = some (value, rest) →
    ∃ (c : Char) (s' value' : Text), c ≠ '{' ∧ s = c :: s' ∧ value = c :: value' ∧
      value'.Unopened ∧ rest <:+ s'

theorem replace_unopened {scan : Scanner Text} (hscan : scan.Mends) {s : Text}
    (h : s.Unopened) : (scan.replace s).Unopened := by
  refine replace_induct (P := fun s t => s.Unopened → t.Unopened) (fun _ _ h => h) ?_ s h
  intro before t value after hread hafter h
  obtain ⟨c, t', value', hc, rfl, rfl, hunopened, hsuffix⟩ := hscan hread
  have hrest : after.Unopened := h.of_append_right.tail.of_suffix hsuffix
  exact Text.Unopened.of_append_cons hc h (hunopened.append (hafter hrest))

end Stencil.Scanner
