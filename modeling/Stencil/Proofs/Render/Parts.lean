import Stencil.Proofs.Render.Settled

namespace Stencil.Template

open Stencil.Text

/-! The stages of calls and of loops cut a text into parts: those that they leave, and those that
they put something else in the place of. -/

/-- A part of a text that a stage leaves, or one that it puts something else in the place of. -/
inductive Part (α : Type)
  | kept (text : Text)
  | put (text : Text) (value : α)

namespace Part

variable {α : Type}

def text : Part α → Text
  | kept t => t
  | put t _ => t

def whole (parts : List (Part α)) : Text := parts.flatMap text

def spread (act : α → Eval Text) : List (Part α) → Eval Text
  | [] => return []
  | kept t :: parts => do return t ++ (← spread act parts)
  | put _ value :: parts => do
      let out ← act value
      return out ++ (← spread act parts)

@[simp] theorem whole_nil : whole ([] : List (Part α)) = [] := rfl

@[simp] theorem whole_cons (part : Part α) (parts : List (Part α)) :
    whole (part :: parts) = part.text ++ whole parts := List.flatMap_cons

@[simp] theorem whole_append (front behind : List (Part α)) :
    whole (front ++ behind) = whole front ++ whole behind := List.flatMap_append

variable {t u : Text} {v w : α} {before rest after : List (Part α)}

theorem exists_of_kept_cons (h : kept t :: rest = before ++ put u w :: after) :
    ∃ behind, before = kept t :: behind ∧ rest = behind ++ put u w :: after := by
  cases before with
  | nil => cases h
  | cons part before =>
      obtain ⟨rfl, hrest⟩ := List.cons.inj h
      exact ⟨before, rfl, hrest⟩

theorem exists_of_put_cons (h : put t v :: rest = before ++ put u w :: after) :
    (before = [] ∧ t = u) ∨
      ∃ behind, before = put t v :: behind ∧ rest = behind ++ put u w :: after := by
  cases before with
  | nil =>
      cases h
      exact .inl ⟨rfl, rfl⟩
  | cons part before =>
      obtain ⟨rfl, hrest⟩ := List.cons.inj h
      exact .inr ⟨before, rfl, hrest⟩

end Part

open Stencil.Template.Part

/-- The parts that the calls outside the bodies of loops cut a text into. -/
def callParts (s : Text) : List (Part (Text × Text)) :=
  match directive.find? s with
  | none => [kept s]
  | some d =>
      match loopHead d.matched with
      | some (head, _) =>
          match _h : head.kind.block? d.after with
          | some b => kept (d.before ++ d.matched ++ b.text) :: callParts b.after
          | none => kept (d.before ++ d.matched) :: callParts d.after
      | none =>
          match callIn? d.value with
          | some found => kept d.before :: put d.matched found :: callParts d.after
          | none => kept (d.before ++ d.matched) :: callParts d.after
termination_by s.length
decreasing_by
  · have := d.length_after_lt
    have := BlockKind.length_block? _ _ _h
    have := b.length_after_le
    omega
  all_goals exact d.length_after_lt

/-- The parts that the loops cut a text into; a loop comes with its head and its body. -/
def loopParts (s : Text) : List (Part (LoopHead × Text)) :=
  match loopHead.find? s with
  | none => [kept s]
  | some o =>
      match _h : o.value.kind.block? o.after with
      | none => kept (o.before ++ o.matched) :: loopParts o.after
      | some b => kept o.before :: put (o.matched ++ b.text) (o.value, b.first) :: loopParts b.after
termination_by s.length
decreasing_by
  · exact o.length_after_lt
  · have := o.length_after_lt
    have := BlockKind.length_block? _ _ _h
    have := b.length_after_le
    omega

theorem callParts_eq (s : Text) :
    callParts s =
      match directive.cut? s with
      | none => [kept s]
      | some d =>
          match loopHead d.matched with
          | some (head, _) =>
              match head.kind.block? d.after with
              | some b => kept (d.before ++ d.matched ++ b.text) :: callParts b.after
              | none => kept (d.before ++ d.matched) :: callParts d.after
          | none =>
              match callIn? d.value with
              | some found => kept d.before :: put d.matched found :: callParts d.after
              | none => kept (d.before ++ d.matched) :: callParts d.after := by
  rw [callParts, Scanner.cut?]
  cases directive.find? s with
  | none => rfl
  | some d =>
      simp only [Option.map_some, Found.cut]
      split
      · split <;> simp only [*]
      · rfl

theorem loopParts_eq (s : Text) :
    loopParts s =
      match loopHead.cut? s with
      | none => [kept s]
      | some o =>
          match o.value.kind.block? o.after with
          | none => kept (o.before ++ o.matched) :: loopParts o.after
          | some b =>
              kept o.before :: put (o.matched ++ b.text) (o.value, b.first) :: loopParts b.after := by
  rw [loopParts, Scanner.cut?]
  cases loopHead.find? s with
  | none => rfl
  | some o =>
      simp only [Option.map_some, Found.cut]
      split <;> simp only [*]

section

variable (tools : Toolbox) (inner : Inner) (ctx : Context)

def callText (found : Text × Text) : Eval Text := do
  Eval.ofExcept (← call tools ctx found.1 found.2).format

def loopText (turn : LoopHead × Text) : Eval Text :=
  renderLoop tools inner ctx turn.1 turn.2

variable {tools inner ctx}

theorem callIn?_eq_filter (inside : Text) :
    callIn? inside = (if isControl inside then none else parseCall inside).filter fun _ =>
      (splitPipeline inside).2.isEmpty := by
  unfold callIn?
  split <;> rfl

theorem expandCalls_eq_spread (s : Text) :
    expandCalls tools ctx s = spread (callText tools ctx) (callParts s) := by
  fun_induction expandCalls tools ctx s with
  | case1 s hfind =>
      rw [callParts_eq, Scanner.cut?, hfind]
      simp [spread]
  | case2 s d hfind head rest hhead b hblock ih =>
      rw [callParts_eq, Scanner.cut?, hfind]
      simp [Found.cut, hhead, hblock, spread, ih]
  | case3 s d hfind head rest hhead hblock ih =>
      rw [callParts_eq, Scanner.cut?, hfind]
      simp [Found.cut, hhead, hblock, spread, ih]
  | case4 s d hfind hhead name raw hcall hempty ih =>
      have hin : callIn? d.value = some (name, raw) := by
        rw [callIn?_eq_filter, ← dite_eq_ite, hcall]
        exact Option.filter_some_pos hempty
      rw [callParts_eq, Scanner.cut?, hfind]
      simp [Found.cut, hhead, hin, spread, callText, ih]
  | case5 s d hfind hhead name raw hcall hfull ih =>
      have hin : callIn? d.value = none := by
        rw [callIn?_eq_filter, ← dite_eq_ite, hcall]
        exact Option.filter_some_neg (eq_false_of_ne_true hfull)
      rw [callParts_eq, Scanner.cut?, hfind]
      simp [Found.cut, hhead, hin, spread, ih]
  | case6 s d hfind hhead hcall ih =>
      have hin : callIn? d.value = none := by
        rw [callIn?_eq_filter, ← dite_eq_ite, hcall, Option.filter_none]
      rw [callParts_eq, Scanner.cut?, hfind]
      simp [Found.cut, hhead, hin, spread, ih]

theorem expandLoops_eq_spread (s : Text) :
    expandLoops tools inner ctx s = spread (loopText tools inner ctx) (loopParts s) := by
  fun_induction expandLoops tools inner ctx s with
  | case1 s hfind =>
      rw [loopParts_eq, Scanner.cut?, hfind]
      simp [spread]
  | case2 s o hfind hblock ih =>
      rw [loopParts_eq, Scanner.cut?, hfind]
      simp [Found.cut, hblock, spread, ih]
  | case3 s o hfind b hblock ih =>
      rw [loopParts_eq, Scanner.cut?, hfind]
      simp [Found.cut, hblock, spread, loopText, ih]

end

/-! The parts of a text make it up. -/

/-- A match of a pattern that reads whole directives is a directive. -/
theorem Stray.eq_mark_of_cut? {scan : Scanner α} (h : Stray scan) {s : Text} {c : Cut α}
    (hcut : scan.cut? s = some c) :
    ∃ inside : Text, inside.Unclosed ∧ c.matched = mark inside ∧
      s = c.before ++ (mark inside ++ c.after) ∧
      scan (mark inside ++ c.after) = some (c.value, c.after) := by
  obtain ⟨t, hs, hread, hmatched⟩ := Scanner.reads_of_cut? hcut
  obtain ⟨inside, hinside, rfl⟩ := eq_mark_of_strayDirective (h t c.value c.after hread)
  refine ⟨inside, hinside, ?_, hs, hread⟩
  rw [hmatched, List.length_append, Nat.add_sub_cancel, List.take_left]

theorem Stray.exists_mark_of_find? {scan : Scanner α} (h : Stray scan) {s : Text} {f : Found α s}
    (hfind : scan.find? s = some f) :
    ∃ inside : Text, inside.Unclosed ∧ f.matched = mark inside ∧
      s = f.before ++ (mark inside ++ f.after) := by
  obtain ⟨inside, hinside, hmatched, hs, _⟩ := h.eq_mark_of_cut? (c := f.cut)
    (by rw [Scanner.cut?, hfind, Option.map_some])
  exact ⟨inside, hinside, hmatched, hs⟩

theorem Stray.eq_append_of_find? {scan : Scanner α} (h : Stray scan) {s : Text}
    {f : Found α s} (hfind : scan.find? s = some f) : s = f.before ++ (f.matched ++ f.after) := by
  obtain ⟨inside, _, hmatched, hs⟩ := h.exists_mark_of_find? hfind
  rw [hmatched]
  exact hs

namespace BlockReading

def text (r : BlockReading) : Text := r.first ++ r.divider?.getD [] ++ r.second

/-- Before its divider nothing of the second part of a block has been read. -/
def Ordered (r : BlockReading) : Prop := r.divider? = none → r.second = []

theorem Ordered.text_add {r : BlockReading} (h : r.Ordered) (s : Text) :
    (r.add s).Ordered ∧ (r.add s).text = r.text ++ s := by
  cases hdivider : r.divider? with
  | none =>
      have hsecond := h hdivider
      simp [add, Ordered, text, hdivider, hsecond]
  | some divider => simp [add, Ordered, text, hdivider]

theorem Ordered.text_divide {r : BlockReading} (h : r.Ordered) (depth : Nat)
    (before divider : Text) :
    (r.divide depth before divider).Ordered ∧
      (r.divide depth before divider).text = r.text ++ (before ++ divider) := by
  unfold divide
  split
  · next hown =>
      have hsecond := h hown.2
      simp [add, Ordered, text, hown.2, hsecond]
  · exact h.text_add (before ++ divider)

end BlockReading

namespace BlockKind

variable {kind : BlockKind}

theorem stray_closer : Stray kind.closer := by
  cases kind <;> exact Stray.tag (by decide)

theorem stray_divider : Stray kind.divider := by
  cases kind
  case conditional => exact Stray.tag (by decide)
  all_goals
    intro s value rest h
    cases h

theorem exists_mark_of_mark? (hkind : kind ≠ .block) {s : Text} {m : Found Mark s}
    (h : kind.mark? s = some m) :
    ∃ inside : Text, inside.Unclosed ∧ m.matched = mark inside ∧
      s = m.before ++ (mark inside ++ m.after) := by
  have hopener : ∀ o : Found (List Text) s, kind.opener.find? s = some o →
      ∃ inside : Text, inside.Unclosed ∧ o.matched = mark inside ∧
        s = o.before ++ (mark inside ++ o.after) :=
    fun o ho => (Stray.opener hkind).exists_mark_of_find? ho
  have hdivider : ∀ d : Found Unit s, kind.divider.find? s = some d →
      ∃ inside : Text, inside.Unclosed ∧ d.matched = mark inside ∧
        s = d.before ++ (mark inside ++ d.after) :=
    fun d hd => stray_divider.exists_mark_of_find? hd
  unfold mark? at h
  cases ho : kind.opener.find? s with
  | none =>
      cases hd : kind.divider.find? s with
      | none => simp [ho, hd] at h
      | some d =>
          simp only [ho, hd, Option.map_none, Option.map_some, Option.some.injEq] at h
          subst h
          exact hdivider d hd
  | some o =>
      cases hd : kind.divider.find? s with
      | none =>
          simp only [ho, hd, Option.map_none, Option.map_some, Option.some.injEq] at h
          subst h
          exact hopener o ho
      | some d =>
          simp only [ho, hd, Option.map_some] at h
          split at h
          · cases h
            exact hopener o ho
          · cases h
            exact hdivider d hd

theorem eq_append_of_mark? (hkind : kind ≠ .block) {s : Text} {m : Found Mark s}
    (h : kind.mark? s = some m) : s = m.before ++ (m.matched ++ m.after) := by
  obtain ⟨inside, _, hmatched, hs⟩ := exists_mark_of_mark? hkind h
  rw [hmatched]
  exact hs

theorem append_drop_of_mark {s u v before matched after : Text} (hs : s = u ++ v)
    (hu : u = before ++ (matched ++ after)) :
    before ++ matched ++ s.drop (u.length - after.length) = s := by
  have hlength : u.length - after.length = (before ++ matched).length := by
    rw [hu, ← List.append_assoc, List.length_append, Nat.add_sub_cancel]
  have hsplit : s = before ++ matched ++ (after ++ v) := by
    rw [hs, hu]
    simp only [List.append_assoc]
  rw [hlength, hsplit, List.drop_left]

theorem append_of_readBlock? (hkind : kind ≠ .block) {depth : Nat} {read : BlockReading}
    {s : Text} {b : Block} (hread : read.Ordered) (h : kind.readBlock? depth read s = some b) :
    b.text ++ b.after = read.text ++ s := by
  fun_induction kind.readBlock? depth read s with
  | case1 => cases h
  | case2 depth read s c hc m hm rest _ ih =>
      obtain ⟨hordered, htext⟩ := hread.text_add (m.before ++ m.matched)
      rw [ih hordered h, htext, List.append_assoc, append_drop_of_mark
        (stray_closer.eq_append_of_find? hc) (eq_append_of_mark? hkind hm)]
  | case3 depth read s c hc m hm rest _ ih =>
      obtain ⟨hordered, htext⟩ := hread.text_divide depth m.before m.matched
      rw [ih hordered h, htext, List.append_assoc, append_drop_of_mark
        (stray_closer.eq_append_of_find? hc) (eq_append_of_mark? hkind hm)]
  | case4 read s c hc _ read' =>
      have htext : read'.text = read.text ++ c.before := (hread.text_add c.before).2
      have hclosed := stray_closer.eq_append_of_find? hc
      cases h
      have hwhole : (⟨read'.first, read'.divider?, read'.second, c.matched, c.after⟩ : Block).text =
          read'.text ++ c.matched := rfl
      rw [hwhole, htext, List.append_assoc, List.append_assoc, ← hclosed]
  | case5 read s c hc _ depth ih =>
      obtain ⟨hordered, htext⟩ := hread.text_add (c.before ++ c.matched)
      have hclosed := stray_closer.eq_append_of_find? hc
      rw [ih hordered h, htext, List.append_assoc, List.append_assoc, ← hclosed]

theorem append_of_block? (hkind : kind ≠ .block) {s : Text} {b : Block}
    (h : kind.block? s = some b) : s = b.text ++ b.after :=
  (append_of_readBlock? hkind (fun _ => rfl) h).symm

end BlockKind

theorem kind_ne_block_of_loopIn {inside : Text} {head : LoopHead} (h : loopIn inside = some head) :
    head.kind ≠ .block := by
  have hrange : ∀ operand, (rangeOver operand).kind = .range := by
    intro operand
    unfold rangeOver
    split <;> rfl
  rw [loopIn, Option.or_eq_some_iff] at h
  rcases h with h | ⟨_, h⟩
  · obtain ⟨found, _, rfl⟩ := Option.map_eq_some_iff.mp h
    exact fun hblock => nomatch hblock
  · obtain ⟨operand, _, rfl⟩ := Option.map_eq_some_iff.mp h
    rw [hrange]
    exact fun hblock => nomatch hblock

theorem exists_mark_of_loopHead {s rest : Text} {head : LoopHead}
    (h : loopHead s = some (head, rest)) :
    ∃ inside : Text, inside.Unclosed ∧ s = mark inside ++ rest ∧ loopIn inside = some head := by
  obtain ⟨inside, hinside, rfl⟩ := eq_mark_of_strayDirective (Stray.loopHead s head rest h)
  rw [loopHead_mark hinside] at h
  obtain ⟨head, hloop, heq⟩ := Option.map_eq_some_iff.mp h
  cases heq
  exact ⟨inside, hinside, rfl, hloop⟩

theorem append_of_loopHead {s rest t : Text} {head : LoopHead} {b : Block}
    (h : loopHead s = some (head, rest)) (hblock : head.kind.block? t = some b) :
    t = b.text ++ b.after := by
  obtain ⟨inside, _, _, hloop⟩ := exists_mark_of_loopHead h
  exact BlockKind.append_of_block? (kind_ne_block_of_loopIn hloop) hblock

theorem whole_callParts (s : Text) : whole (callParts s) = s := by
  fun_induction callParts s with
  | case1 s hfind => simp [Part.text]
  | case2 s d hfind head rest hhead b hblock ih =>
      have hs := Stray.directive.eq_append_of_find? hfind
      rw [append_of_loopHead hhead hblock] at hs
      simp [Part.text, ih, ← hs]
  | case3 s d hfind head rest hhead hblock ih =>
      have hs := Stray.directive.eq_append_of_find? hfind
      simp [Part.text, ih, ← hs]
  | case4 s d hfind hhead found hcall ih =>
      have hs := Stray.directive.eq_append_of_find? hfind
      simp [Part.text, ih, ← hs]
  | case5 s d hfind hhead hcall ih =>
      have hs := Stray.directive.eq_append_of_find? hfind
      simp [Part.text, ih, ← hs]

theorem whole_loopParts (s : Text) : whole (loopParts s) = s := by
  fun_induction loopParts s with
  | case1 s hfind => simp [Part.text]
  | case2 s o hfind hblock ih =>
      have hs := Stray.loopHead.eq_append_of_find? hfind
      simp [Part.text, ih, ← hs]
  | case3 s o hfind b hblock ih =>
      obtain ⟨inside, _, hmatched, hs, hread⟩ := Stray.loopHead.eq_mark_of_cut? (c := o.cut)
        (by rw [Scanner.cut?, hfind, Option.map_some])
      have hs := Stray.loopHead.eq_append_of_find? hfind
      rw [append_of_loopHead hread hblock] at hs
      simp [Part.text, ih, ← hs]

end Stencil.Template
