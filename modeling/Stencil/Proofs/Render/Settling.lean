import Stencil.Proofs.Render.Settled

namespace Stencil

open Text

namespace Template

/-! The passes of the cleanup. -/

theorem settle_sublist (s : Text) : (settle s).Sublist s :=
  settle_induct (fun t ht => (cleanupPass_sublist t).trans ht) (cleanupPass_sublist s)

/-- Passes until one changes nothing, unless that takes more than `limit` of them. -/
def settleWithin : Nat → Text → Option Text
  | 0, _ => none
  | limit + 1, s =>
      let next := cleanupPass s
      if next = s then some next else settleWithin limit next

/-- Every pass but the last one deletes a character, so there are fewer than a limit above the number
of characters allows. -/
theorem settleWithin_of_length_lt {limit : Nat} {s : Text} (h : s.length < limit) :
    settleWithin limit s = some (settle s) := by
  induction limit generalizing s with
  | zero => cases h
  | succ limit ih =>
      rw [settleWithin, settle]
      by_cases hfixed : cleanupPass s = s
      · simp only [hfixed, if_true, Nat.lt_irrefl, if_false]
      · have hshorter : (cleanupPass s).length < s.length := Nat.lt_of_not_le fun hle =>
          hfixed ((cleanupPass_sublist s).eq_of_length_le hle)
        simp only [if_neg hfixed, if_pos hshorter]
        exact ih (by omega)

/-- The cleanup ends because a pass changes nothing, within a pass for each character and one more.
None of its rewritings finds anything in what it leaves, and a second cleanup leaves that as it is,
without a note. What it leaves is the text with characters deleted. -/
theorem cleanup_settles (s : Text) :
    ∃ out, (cleanup s).result = .ok out ∧
      settleWithin (s.length + 1) s = some out ∧
      (∀ scan ∈ rewritings, scan.find? out = none) ∧
      cleanup out = pure out ∧
      out.Sublist s := by
  refine ⟨settle s, cleanup_result s, settleWithin_of_length_lt (Nat.lt_succ_self _), ?_, ?_,
    settle_sublist s⟩
  · exact fun scan hscan => Scanner.find?_eq_none_iff.mpr (cut?_settle s scan hscan)
  · rw [cleanup_of_bare (bare_settle s), settle_settle]

/-- Ends of attributes behind a tag: a pass takes away one of them. -/
def repeatedEnds : Text := "<p>\">\">x".toList

theorem settle_repeatedEnds : settle repeatedEnds = "<p>x".toList := by cbv

/-- Two passes are too few for two ends: the third finds that nothing changes. -/
theorem cleanup_settles_repeated :
    (cleanup repeatedEnds).result = .ok "<p>x".toList ∧
      settleWithin 2 repeatedEnds = none ∧
      settleWithin (repeatedEnds.length + 1) repeatedEnds = some "<p>x".toList ∧
      doubled ∈ rewritings ∧ doubled.find? "<p>x".toList = none ∧
      cleanup "<p>x".toList = pure "<p>x".toList ∧
      "<p>x".toList.Sublist repeatedEnds := by
  obtain ⟨out, hout, hlimit, hnone, hagain, hsub⟩ := cleanup_settles repeatedEnds
  have hvalue : out = "<p>x".toList := by
    rw [cleanup_result, settle_repeatedEnds] at hout
    exact (Except.ok.inj hout).symm
  subst hvalue
  have hmem : doubled ∈ rewritings := by simp [rewritings, mendings]
  exact ⟨hout, by cbv, hlimit, hmem, hnone doubled hmem, hagain, hsub⟩

end Template

end Stencil
