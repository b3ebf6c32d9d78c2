import Stencil.Proofs.Render.Parts

namespace Stencil.Template

open Stencil.Text Stencil.Template.Part

/-! Where every loop opens outside the other directives, a loop that is expanded lies whole in a
part that the calls leave as it is. -/

/-- Between two opening braces in a row and a loop that opens behind them, or with the second of
them, a brace closes. -/
def Exposed (s : Text) : Prop :=
  ∀ before inside behind : Text, inside.Unclosed → s = before ++ '{' :: (inside ++ behind) →
    (loopHead behind).isSome → (inside ++ behind).head? ≠ some '{'

theorem Exposed.of_append {s t : Text} (h : Exposed (s ++ t)) : Exposed t := by
  rintro before inside behind hinside rfl hloop
  exact h (s ++ before) inside behind hinside (by simp) hloop

/-- A stretch of a text lies in one of the parts that the calls leave as they are. -/
def Keeps (s before stretch : Text) : Prop :=
  ∃ front left right behind, callParts s = front ++ kept (left ++ stretch ++ right) :: behind ∧
    whole front ++ left = before

theorem Keeps.behind {s t before stretch : Text} {front : List (Part (Text × Text))}
    (h : Keeps t before stretch) (hs : callParts s = front ++ callParts t) :
    Keeps s (whole front ++ before) stretch := by
  obtain ⟨more, left, right, behind, hparts, rfl⟩ := h
  exact ⟨front ++ more, left, right, behind, by rw [hs, hparts, List.append_assoc front], by simp⟩

theorem directive_of_loopHead {s rest : Text} {head : LoopHead}
    (h : loopHead s = some (head, rest)) : ∃ value, directive s = some (value, rest) := by
  obtain ⟨inside, hinside, rfl, hloop⟩ := exists_mark_of_loopHead h
  obtain ⟨value, hvalue⟩ := insideText?_of_loopIn hloop
  exact ⟨value, by rw [directive_mark hinside, hvalue, Option.map_some]⟩

theorem Exposed.exists_append {inside behind w v : Text} (hs : Exposed (mark inside ++ behind))
    (hinside : inside.Unclosed) (hw : w ≠ []) (hsplit : mark inside ++ behind = w ++ v)
    (hloop : (loopHead v).isSome) : ∃ u, w = mark inside ++ u ∧ behind = u ++ v := by
  rcases List.append_eq_append_iff.mp hsplit with h | ⟨z, hz, hv⟩
  · exact h
  cases z with
  | nil => exact ⟨[], by rw [hz]; simp, hv.symm⟩
  | cons c z =>
      -- The loop would open inside the directive, with no closing brace in between.
      exfalso
      obtain ⟨d, w, rfl⟩ := List.exists_cons_of_ne_nil hw
      obtain ⟨found, hfound⟩ := Option.isSome_iff_exists.mp hloop
      obtain ⟨head, rest⟩ := found
      obtain ⟨other, _, hother, _⟩ := exists_mark_of_loopHead hfound
      rw [hother, mark_append, List.cons_append] at hv
      obtain ⟨rfl, -⟩ := List.cons.inj hv
      obtain ⟨rfl, htail⟩ := List.cons.inj hz
      have htail : '{' :: inside ++ ['}', '}'] = w ++ '{' :: z := htail
      have hunclosed : Text.Unclosed w := by
        have hopened : Text.Unclosed ('{' :: inside) :=
          List.forall_mem_cons.mpr ⟨by decide, hinside⟩
        rcases List.append_eq_append_iff.mp htail with ⟨a, _, hclose⟩ | ⟨a, hinit, _⟩
        · have hmem : '{' ∈ ['}', '}'] := by rw [hclose]; simp
          exact absurd hmem (by decide)
        · rw [hinit] at hopened
          exact hopened.of_sublist (List.sublist_append_left w a)
      refine hs [] w v hunclosed hsplit hloop ?_
      cases w with
      | nil => rw [hother]; rfl
      | cons e w => exact congrArg List.head? htail.symm

theorem loopHead_of_loopIn {inside : Text} {head : LoopHead} (h : inside.Unclosed)
    (hloop : loopIn inside = some head) (rest : Text) :
    loopHead (mark inside ++ rest) = some (head, rest) := by
  rw [loopHead_mark h, hloop, Option.map_some]

theorem loopIn_of_loopHead {inside rest : Text} {found : LoopHead × Text} (h : inside.Unclosed)
    (hread : loopHead (mark inside ++ rest) = some found) : loopIn inside = some found.1 := by
  rw [loopHead_mark h] at hread
  obtain ⟨head, hloop, rfl⟩ := Option.map_eq_some_iff.mp hread
  exact hloop

/-- The first directive of a text is the opening of its first loop, or it ends before that. -/
theorem Exposed.cut?_cases {s : Text} (hs : Exposed s) {o : Cut LoopHead}
    (ho : loopHead.cut? s = some o) :
    ∃ d, directive.cut? s = some d ∧
      ((d.before = o.before ∧ d.matched = o.matched ∧ d.after = o.after ∧
          loopHead d.matched = some (o.value, [])) ∨
        (loopHead d.matched = none ∧
          ∃ o', loopHead.cut? d.after = some o' ∧ o = o'.prepend (d.before ++ d.matched))) := by
  obtain ⟨inside, hinside, hopening, hloop, hread⟩ := Stray.loopHead.eq_mark_of_cut? ho
  obtain ⟨value, hvalue⟩ := directive_of_loopHead hread
  obtain ⟨d, hd, hle⟩ := Scanner.exists_cut?_of_read hvalue
    (Stray.length_lt (Stray.directive _ _ _ hvalue)) o.before
  rw [← hloop] at hd
  obtain ⟨other, hother, hmatched, hdirective, hread'⟩ := Stray.directive.eq_mark_of_cut? hd
  refine ⟨d, hd, ?_⟩
  have hsplit := hdirective.symm.trans hloop
  rcases Nat.eq_or_lt_of_le hle with hsame | hbefore
  · left
    obtain ⟨hfront, hbehind⟩ := List.append_inj hsplit hsame
    rw [← hbehind, hread', Option.some.injEq, Prod.mk.injEq] at hvalue
    obtain ⟨-, hafter⟩ := hvalue
    rw [hafter] at hbehind
    have hmark : mark other = mark inside := List.append_cancel_right hbehind
    have hhead := loopHead_of_loopIn hinside (loopIn_of_loopHead hinside hread) []
    rw [List.append_nil] at hhead
    rw [hmatched, hopening, hmark]
    exact ⟨hfront, rfl, hafter, hhead⟩
  · right
    have hnone : loopHead (mark other) = none := by
      cases hhead : loopHead (mark other) with
      | none => rfl
      | some found =>
          -- It would be the first loop of the text.
          rw [← List.append_nil (mark other)] at hhead
          have hearly := loopHead_of_loopIn hother (loopIn_of_loopHead hother hhead) d.after
          obtain ⟨c, hc, hcle⟩ := Scanner.exists_cut?_of_read hearly
            (Stray.length_lt (Stray.loopHead _ _ _ hearly)) d.before
          rw [← hdirective, ho] at hc
          cases hc
          exact absurd hcle (Nat.not_le.mpr hbefore)
    rcases List.append_eq_append_iff.mp hsplit with ⟨w, hw, hrest⟩ | ⟨w, hw, _⟩
    · have hexposed : Exposed (mark other ++ d.after) := (hdirective ▸ hs).of_append
      have hne : w ≠ [] := by
        rintro rfl
        rw [hw, List.append_nil] at hbefore
        exact Nat.lt_irrefl _ hbefore
      obtain ⟨u, rfl, _⟩ := hexposed.exists_append hother hne hrest (by rw [hread]; rfl)
      rw [hdirective, ← List.append_assoc] at ho
      rw [← List.append_assoc] at hw
      obtain ⟨o', ho', heq⟩ := Scanner.exists_cut?_of_append ho (by
        rw [hw]
        exact (List.prefix_append _ u).length_le)
      rw [hmatched]
      exact ⟨hnone, o', ho', heq⟩
    · rw [hw, List.length_append] at hbefore
      omega

/-! Where the two stages go on behind a directive. -/

theorem callParts_of_loopHead_eq_none {s : Text} {d : Cut Text} (hd : directive.cut? s = some d)
    (hnone : loopHead d.matched = none) :
    ∃ front, callParts s = front ++ callParts d.after ∧ whole front = d.before ++ d.matched := by
  rw [callParts_eq, hd]
  simp only [hnone]
  cases callIn? d.value with
  | none => exact ⟨[kept (d.before ++ d.matched)], rfl, List.append_nil _⟩
  | some found => exact ⟨[kept d.before, put d.matched found], rfl, by simp [Part.text]⟩

theorem loopParts_prepend {s u v : Text} {o : Cut LoopHead} (hv : loopHead.cut? v = some o)
    (hs : loopHead.cut? s = some (o.prepend u)) :
    ∃ t rest, loopParts v = kept t :: rest ∧ loopParts s = kept (u ++ t) :: rest := by
  rw [loopParts_eq v, loopParts_eq s, hv, hs]
  simp only [Cut.prepend_before, Cut.prepend_matched, Cut.prepend_value, Cut.prepend_after]
  cases o.value.kind.block? o.after with
  | none => exact ⟨_, _, rfl, by rw [List.append_assoc]⟩
  | some b => exact ⟨_, _, rfl, rfl⟩

/-- A loop that is expanded lies in one of the parts that the calls leave as they are. -/
theorem Exposed.keeps {s loop : Text} (hs : Exposed s) {turn : LoopHead × Text}
    {before after : List (Part (LoopHead × Text))}
    (h : loopParts s = before ++ put loop turn :: after) : Keeps s (whole before) loop := by
  induction hlength : s.length using Nat.strongRecOn generalizing s before with
  | ind n ih =>
      cases ho : loopHead.cut? s with
      | none =>
          rw [loopParts_eq, ho] at h
          obtain ⟨behind, _, hnil⟩ := exists_of_kept_cons h
          cases behind <;> cases hnil
      | some o =>
          obtain ⟨inside, _, hopening, hloop, hread⟩ := Stray.loopHead.eq_mark_of_cut? ho
          have hshort := Scanner.length_cut? ho
          obtain ⟨d, hd, ⟨hfront, hmatched, hafter, hhead⟩ | ⟨hnone, o', ho', rfl⟩⟩ :=
            hs.cut?_cases ho
          · -- Both stages read the opening, and pair it with the same closer.
            have hbehind : Exposed o.after := by
              rw [hloop, ← List.append_assoc] at hs
              exact hs.of_append
            have hcalls := callParts_eq s
            rw [hmatched] at hhead
            rw [hd] at hcalls
            simp only [hmatched, hhead, hfront, hafter] at hcalls
            rw [loopParts_eq, ho] at h
            cases hblock : o.value.kind.block? o.after with
            | none =>
                simp only [hblock] at h hcalls
                obtain ⟨behind, rfl, hrest⟩ := exists_of_kept_cons h
                have hkeeps := ih o.after.length (by omega) hbehind hrest rfl
                have hlater : Keeps s (whole [kept (o.before ++ o.matched)] ++ whole behind) loop :=
                  hkeeps.behind hcalls
                simpa [Part.text] using hlater
            | some b =>
                have hwhole := append_of_loopHead hread hblock
                have hshorter := congrArg List.length hwhole
                rw [List.length_append] at hshorter
                rw [hwhole] at hbehind
                simp only [hblock] at h hcalls
                obtain ⟨behind, rfl, hrest⟩ := exists_of_kept_cons h
                rcases exists_of_put_cons hrest with ⟨rfl, rfl⟩ | ⟨behind, rfl, hlater⟩
                · refine ⟨[], o.before, [], callParts b.after, ?_, by simp [Part.text]⟩
                  rw [hcalls]
                  simp
                · have hkeeps := ih b.after.length (by omega) hbehind.of_append hlater rfl
                  have hlater : Keeps s
                      (whole [kept (o.before ++ o.matched ++ b.text)] ++ whole behind) loop :=
                    hkeeps.behind hcalls
                  simpa [Part.text] using hlater
          · -- The calls go on behind the directive, which the loops only pass.
            obtain ⟨_, _, _, hdirective, _⟩ := Stray.directive.eq_mark_of_cut? hd
            have hshorter := Scanner.length_cut? hd
            rw [hdirective, ← List.append_assoc] at hs
            obtain ⟨t, rest, hrest, hparts⟩ := loopParts_prepend ho' ho
            obtain ⟨front, hcalls, hwhole⟩ := callParts_of_loopHead_eq_none hd hnone
            rw [hparts] at h
            obtain ⟨behind, rfl, rfl⟩ := exists_of_kept_cons h
            have hkeeps : Keeps d.after (whole (kept t :: behind)) loop :=
              ih d.after.length (by omega) hs.of_append hrest rfl
            simpa [Part.text, hwhole] using hkeeps.behind hcalls

theorem exposed_spell (tokens : List Token) : Exposed (spell tokens) := by
  intro before inside behind hinside hs hloop hhead
  let braces : Scanner Unit := fun s => (openMark? s).map ((), ·)
  have : braces.AtMarks := atMarks_of_openMark? fun s h => by simp [braces, h]
  have hread : braces ('{' :: (inside ++ behind)) ≠ none := by
    obtain ⟨rest, hrest⟩ := List.head?_eq_some_iff.mp hhead
    simp [braces, hrest, openMark?, dropStart?]
  obtain ⟨d, later, hd⟩ := Scanner.exists_directive_of_read hs (List.cons_ne_nil _ _) hread
  have htail : inside ++ behind = '{' :: (d.text ++ ['}', '}']) ++ spell later :=
    (List.cons.inj hd).2
  have hclosed : ∀ a : Text, inside ≠ '{' :: (d.text ++ ['}', '}']) ++ a := by
    rintro a rfl
    exact hinside '}' (by simp) rfl
  -- The loop would open inside the directive.
  rcases List.append_eq_append_iff.mp htail with ⟨c, hc, hbehind⟩ | ⟨a, ha, _⟩
  · by_cases hnil : c = []
    · exact hclosed [] (by rw [hc, hnil, List.append_nil, List.append_nil])
    · have hnone : loopHead (c ++ spell later) = none :=
        Scanner.eq_none_of_unopened (d.unopened_tail.of_suffix ⟨inside, hc.symm⟩) hnil _
      rw [hbehind, hnone] at hloop
      cases hloop
  · exact hclosed a ha

/-- Where every loop opens outside the other directives, the stage of calls leaves the whole of a
loop that the stage of loops expands as it is, whatever stands around it, closed or not. -/
theorem loop_kept_by_calls (tools : Toolbox) (inner : Inner) (ctx : Context) {s loop : Text}
    {turn : LoopHead × Text} {before after : List (Part (LoopHead × Text))} (hs : Exposed s)
    (h : loopParts s = before ++ put loop turn :: after) :
    s = whole before ++ loop ++ whole after ∧
      expandLoops tools inner ctx s =
        spread (loopText tools inner ctx) (before ++ put loop turn :: after) ∧
      ∃ front left right behind, whole front ++ left = whole before ∧
        right ++ whole behind = whole after ∧
        callParts s = front ++ kept (left ++ loop ++ right) :: behind ∧
        expandCalls tools ctx s =
          spread (callText tools ctx) (front ++ kept (left ++ loop ++ right) :: behind) := by
  obtain ⟨front, left, right, behind, hcalls, hfront⟩ := hs.keeps h
  have hloops : s = whole before ++ loop ++ whole after := by
    have hwhole := whole_loopParts s
    rw [h] at hwhole
    simpa [Part.text] using hwhole.symm
  have hbehind : right ++ whole behind = whole after := by
    have hwhole := whole_callParts s
    rw [hcalls, hloops, ← hfront] at hwhole
    simpa [Part.text] using hwhole
  refine ⟨hloops, ?_, front, left, right, behind, hfront, hbehind, hcalls, ?_⟩
  · rw [← h]
    exact expandLoops_eq_spread s
  · rw [← hcalls]
    exact expandCalls_eq_spread s

/-- `{{ upper(i) }}` -/
def upperMark : Text := mark " upper(i) ".toList

/-- `{{ for i in x }}{{ upper(i) }}{{ endfor }}` -/
def upperLoop : Text := mark " for i in x ".toList ++ (upperMark ++ mark " endfor ".toList)

def upperHead : LoopHead := ⟨.loop, some "i".toList, "x".toList⟩

theorem block?_upperLoop :
    BlockKind.loop.block? (upperMark ++ mark " endfor ".toList) =
      some ⟨upperMark, none, [], mark " endfor ".toList, []⟩ := by
  rw [BlockKind.block?, BlockKind.readBlock?_eq]
  rfl

theorem loopParts_upperLoop (t : Text)
    (hcut : loopHead.cut? (t ++ upperLoop) =
      some ⟨t, mark " for i in x ".toList, upperHead, upperMark ++ mark " endfor ".toList⟩) :
    loopParts (t ++ upperLoop) = [kept t, put upperLoop (upperHead, upperMark), kept []] := by
  rw [loopParts_eq, hcut]
  simp only [upperHead, block?_upperLoop]
  rw [loopParts_eq]
  rfl

def upperContext : Context :=
  .create none none [("x".toList, .list [.text "a".toList]), ("i".toList, .text "c".toList)]
    ⟨⟨2024, 6, 1⟩, 12, 0, 0, 0, none⟩

/-- `{{ upper(i) }} }` -/
def upperFront : Text := upperMark ++ " \x7d".toList

theorem exposed_upper : Exposed (upperFront ++ upperLoop) :=
  exposed_spell [.directive ⟨" upper(i) ".toList, by decide⟩, .text ⟨" \x7d".toList, by decide⟩,
    .directive ⟨" for i in x ".toList, by decide⟩, .directive ⟨" upper(i) ".toList, by decide⟩,
    .directive ⟨" endfor ".toList, by decide⟩]

theorem loop_kept_by_calls_upper :
    Exposed (upperFront ++ upperLoop) ∧
      loopParts (upperFront ++ upperLoop) =
        [kept upperFront] ++ put upperLoop (upperHead, upperMark) :: [kept []] ∧
      ∃ front left right behind, whole front ++ left = upperFront ∧
        expandCalls .standard upperContext (upperFront ++ upperLoop) =
          spread (callText .standard upperContext)
            (front ++ kept (left ++ upperLoop ++ right) :: behind) := by
  have hparts : loopParts (upperFront ++ upperLoop) =
      [kept upperFront] ++ put upperLoop (upperHead, upperMark) :: [kept []] :=
    loopParts_upperLoop upperFront rfl
  obtain ⟨-, -, front, left, right, behind, hfront, -, -, hcalls⟩ :=
    loop_kept_by_calls .standard (renderWithin .standard 2) upperContext exposed_upper hparts
  exact ⟨exposed_upper, hparts, front, left, right, behind, hfront, hcalls⟩

/-- With one more brace in front the call in the loop is made before the loop. -/
theorem loop_not_kept_by_calls :
    loopParts ('{' :: upperLoop) = [kept ['{'], put upperLoop (upperHead, upperMark), kept []] ∧
      (expandCalls .standard upperContext ('{' :: upperLoop)).result =
        .ok ('{' :: (mark " for i in x ".toList ++ ("C".toList ++ mark " endfor ".toList))) ∧
      ¬Keeps ('{' :: upperLoop) ['{'] upperLoop := by
  have hparts : callParts ('{' :: upperLoop) =
      [kept ('{' :: mark " for i in x ".toList), kept [],
        put upperMark ("upper".toList, "i".toList), kept (mark " endfor ".toList), kept []] := by
    have hfirst : directive.cut? ('{' :: upperLoop) =
        some ⟨[], '{' :: mark " for i in x ".toList, "\x7b for i in x".toList,
          upperMark ++ mark " endfor ".toList⟩ := rfl
    have hsecond : directive.cut? (upperMark ++ mark " endfor ".toList) =
        some ⟨[], upperMark, "upper(i)".toList, mark " endfor ".toList⟩ := rfl
    have hthird : directive.cut? (mark " endfor ".toList) =
        some ⟨[], mark " endfor ".toList, "endfor".toList, []⟩ := rfl
    rw [callParts_eq, hfirst]
    dsimp only
    rw [callParts_eq, hsecond]
    dsimp only
    rw [callParts_eq, hthird]
    dsimp only
    rw [callParts_eq]
    rfl
  have hcall : callText .standard upperContext ("upper".toList, "i".toList) = pure "C".toList := by
    have hargument : resolveArgument .standard upperContext "i".toList = pure (.text "c".toList) :=
      resolveArgument_of_get? ⟨rfl, rfl, rfl, rfl, rfl, by decide⟩ rfl
    rw [callText, call_of_text rfl hargument]
    rfl
  refine ⟨loopParts_upperLoop ['{'] rfl, ?_, ?_⟩
  · rw [expandCalls_eq_spread, hparts]
    simp only [spread, hcall, pure_bind, Eval.result_pure]
    rfl
  · rintro ⟨front, left, right, behind, hkept, _⟩
    rw [hparts] at hkept
    have hmem : left ++ upperLoop ++ right ∈
        ['{' :: mark " for i in x ".toList, [], mark " endfor ".toList, []] := by
      have hpart : kept (left ++ upperLoop ++ right) ∈
          front ++ kept (left ++ upperLoop ++ right) :: behind :=
        List.mem_append_right _ List.mem_cons_self
      rw [← hkept] at hpart
      simpa using hpart
    have hshort : ∀ t ∈ ['{' :: mark " for i in x ".toList, [], mark " endfor ".toList, []],
        t.length < upperLoop.length := by decide
    have hlength := hshort _ hmem
    simp only [List.length_append] at hlength
    omega

end Stencil.Template
