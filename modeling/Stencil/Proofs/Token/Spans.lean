import Stencil.Proofs.Token.Nesting

namespace Stencil.Template

open Stencil.Text

/-! The limit on the steps of the pairing. -/

structure BlockScan where
  depth : Nat
  read : BlockReading
  rest : Text

namespace BlockKind

variable {kind : BlockKind}

/-- A step of the pairing: the block, or that there is none, or how to read on. -/
def scanStep (kind : BlockKind) (scan : BlockScan) : Option Block ⊕ BlockScan :=
  match kind.closer.find? scan.rest with
  | none => .inl none
  | some c =>
      match kind.mark? c.before with
      | some m =>
          let rest := scan.rest.drop (c.before.length - m.after.length)
          match m.value with
          | .opener => .inr ⟨scan.depth + 1, scan.read.add (m.before ++ m.matched), rest⟩
          | .divider => .inr ⟨scan.depth, scan.read.divide scan.depth m.before m.matched, rest⟩
      | none =>
          match scan.depth with
          | 0 =>
              let read := scan.read.add c.before
              .inl (some ⟨read.first, read.divider?, read.second, c.matched, c.after⟩)
          | depth + 1 => .inr ⟨depth, scan.read.add (c.before ++ c.matched), c.after⟩

theorem readBlock?_eq_scanStep (scan : BlockScan) :
    kind.readBlock? scan.depth scan.read scan.rest =
      match kind.scanStep scan with
      | .inl block? => block?
      | .inr next => kind.readBlock? next.depth next.read next.rest := by
  obtain ⟨depth, read, rest⟩ := scan
  rw [readBlock?]
  dsimp only [scanStep]
  cases kind.closer.find? rest with
  | none => rfl
  | some c =>
      dsimp only
      cases kind.mark? c.before with
      | none => cases depth <;> rfl
      | some m =>
          dsimp only
          cases m.value <;> rfl

theorem length_scanStep {scan next : BlockScan} (h : kind.scanStep scan = .inr next) :
    next.rest.length < scan.rest.length := by
  simp only [scanStep] at h
  split at h
  · cases h
  · next c _ =>
      have hcloser := c.length_after_lt
      split at h
      · next m _ =>
          have hmark := m.length_after_lt
          have hdrop : (scan.rest.drop (c.before.length - m.after.length)).length <
              scan.rest.length := by
            rw [List.length_drop]
            omega
          split at h
          · cases h
            exact hdrop
          · cases h
            exact hdrop
      · split at h
        · cases h
        · cases h
          exact hcloser

/-- The pairing within a number of steps; nothing if that was too small. -/
def readWithin (kind : BlockKind) : Nat → BlockScan → Option (Option Block)
  | 0, _ => none
  | limit + 1, scan =>
      match kind.scanStep scan with
      | .inl block? => some block?
      | .inr next => kind.readWithin limit next

/-- Every step but the last one reads a directive, so there are fewer than a limit above the number of
characters allows. -/
theorem readWithin_of_length_lt {limit : Nat} {scan : BlockScan} (h : scan.rest.length < limit) :
    kind.readWithin limit scan = some (kind.readBlock? scan.depth scan.read scan.rest) := by
  induction limit generalizing scan with
  | zero => cases h
  | succ limit ih =>
      rw [readWithin, readBlock?_eq_scanStep]
      cases hstep : kind.scanStep scan with
      | inl block? => rfl
      | inr next =>
          have hshorter := length_scanStep hstep
          exact ih (by omega)

end BlockKind

/-! Where the parts of a block stand in a text. -/

def slice (text : Text) (start stop : Nat) : Text := (text.take stop).drop start

theorem slice_eq {text part : Text} {start stop : Nat} (before after : Text)
    (htext : text = before ++ part ++ after) (hstart : start = before.length)
    (hstop : stop = (before ++ part).length) : slice text start stop = part := by
  rw [slice, htext, hstart, hstop, List.take_left, List.drop_left]

structure BlockSpan where
  start : Nat
  divider? : Option (Nat × Nat)
  closer : Nat × Nat

namespace BlockSpan

structure Ordered (span : BlockSpan) : Prop where
  start_le : span.start ≤ span.closer.1
  closer_lt : span.closer.1 < span.closer.2
  divider : ∀ divider ∈ span.divider?,
    span.start ≤ divider.1 ∧ divider.1 < divider.2 ∧ divider.2 ≤ span.closer.1

def first (span : BlockSpan) (text : Text) : Text :=
  slice text span.start (span.divider?.getD span.closer).1

def second (span : BlockSpan) (text : Text) : Text :=
  match span.divider? with
  | none => []
  | some divider => slice text divider.2 span.closer.1

end BlockSpan

def Block.span (b : Block) (start : Nat) : BlockSpan :=
  let divider := start + b.first.length
  let closer := divider + (b.divider?.getD []).length + b.second.length
  ⟨start, b.divider?.map fun d => (divider, divider + d.length),
    (closer, closer + b.closer.length)⟩

namespace BlockKind

variable {kind : BlockKind} {tokens : List Token}

def span? (kind : BlockKind) (text : Text) (start : Nat) : Option BlockSpan :=
  (kind.block? (text.drop start)).map (·.span start)

def spanBehind (front : List Token) (d : Inside) : Nat × Nat :=
  ((spell front).length, (spell (front ++ [.directive d])).length)

def Pairing.span (pairing : kind.Pairing tokens) (before : List Token) : BlockSpan where
  start := (spell before).length
  divider? := pairing.divider?.map (spanBehind (before ++ pairing.first))
  closer := spanBehind (before ++ pairing.body) pairing.closer

theorem Pairing.span_block (pairing : kind.Pairing tokens) (before : List Token) :
    pairing.block.span (spell before).length = pairing.span before := by
  obtain ⟨body, closer, after, first, divider?, second, htokens, closes, hdivision⟩ := pairing
  cases hdivision with
  | undivided _ => simp [Block.span, Pairing.block, Pairing.span, spanBehind, Nat.add_assoc]
  | divided _ _ => simp [Block.span, Pairing.block, Pairing.span, spanBehind, Nat.add_assoc]

theorem Pairing.ordered_span (pairing : kind.Pairing tokens) (before : List Token) :
    (pairing.span before).Ordered := by
  rw [← pairing.span_block before]
  exact {
    start_le := by
      simp only [Block.span]
      omega
    closer_lt := by
      simp only [Block.span, Pairing.block, length_mark]
      omega
    divider := by
      intro divider hmem
      obtain ⟨d, hd, rfl⟩ := Option.map_eq_some_iff.mp hmem
      obtain ⟨inside, -, rfl⟩ := Option.map_eq_some_iff.mp hd
      simp only [Block.span, hd, Option.getD_some, length_mark]
      omega }

theorem Pairing.bodies_span (pairing : kind.Pairing tokens) (before : List Token) :
    (pairing.span before).first (spell (before ++ tokens)) = spell pairing.first ∧
      (pairing.span before).second (spell (before ++ tokens)) = spell pairing.second := by
  obtain ⟨body, closer, after, first, divider?, second, rfl, closes, hdivision⟩ := pairing
  cases hdivision with
  | undivided _ =>
      refine ⟨slice_eq (spell before) (spell (.directive closer :: after)) ?_ ?_ ?_, rfl⟩ <;>
        simp [Pairing.span, spanBehind]
  | @divided _ divider _ _ =>
      constructor
      · refine slice_eq (spell before)
          (spell (.directive divider :: second ++ .directive closer :: after)) ?_ ?_ ?_ <;>
          simp [Pairing.span, spanBehind]
      · refine slice_eq (spell (before ++ first ++ [.directive divider]))
          (spell (.directive closer :: after)) ?_ ?_ ?_ <;>
          simp [Pairing.span, spanBehind]

/-- In a template in tokens, the block from any place between them on has the parts that counting openers
and closers gives it, and no end exactly if the counting finds none; the limit on the steps does not
come into it. Only where a directive leaves a quote open may the name of a block run on behind it. -/
theorem span?_spell (kind : BlockKind) (before tokens : List Token)
    (hquotes : kind = .block →
      ∀ inside ∈ directives tokens, ¬LeavesQuote "block".toList inside) :
    let text := spell (before ++ tokens)
    let start := (spell before).length
    kind.readWithin (text.length + 1) ⟨0, .start, text.drop start⟩ =
        some (kind.block? (text.drop start)) ∧
      (kind.span? text start = none ↔ kind.Lacks .closer tokens) ∧
      (∀ span, kind.span? text start = some span ↔
        ∃ pairing : kind.Pairing tokens, pairing.span before = span) ∧
      ∀ pairing : kind.Pairing tokens,
        kind.block? (text.drop start) = some pairing.block ∧
          (pairing.span before).Ordered ∧
          (pairing.span before).first text = spell pairing.first ∧
          (pairing.span before).second text = spell pairing.second ∧
          kind.Nests pairing.first := by
  intro text start
  have htext : text.drop start = spell tokens := by
    simp [text, start]
  have hreads : ∀ inside ∈ directives tokens, kind.opener.ReadsWhole inside := fun inside hmem =>
    readsWhole_opener (enclosed_of_mem_directives hmem).unclosed fun hkind =>
      hquotes hkind inside hmem
  obtain ⟨hnone, hpairs⟩ := block?_pairs hreads
  have hlimit : (text.drop start).length < text.length + 1 := by
    rw [List.length_drop]
    omega
  refine ⟨readWithin_of_length_lt hlimit, ?_, fun span => ?_, fun pairing => ?_⟩
  · rw [span?, htext, Option.map_eq_none_iff, hnone]
  · rw [span?, htext]
    constructor
    · intro hspan
      obtain ⟨b, hblock, rfl⟩ := Option.map_eq_some_iff.mp hspan
      rcases block?_cases hreads with ⟨hnothing, -⟩ | ⟨pairing, hsome⟩
      · exact nomatch hnothing.symm.trans hblock
      · obtain rfl := Option.some.inj (hblock.symm.trans hsome)
        exact ⟨pairing, (pairing.span_block before).symm⟩
    · rintro ⟨pairing, rfl⟩
      rw [hpairs pairing, ← pairing.span_block before]
      rfl
  · obtain ⟨hfirst, hsecond⟩ := pairing.bodies_span before
    rw [htext]
    exact ⟨hpairs pairing, pairing.ordered_span before, hfirst, hsecond,
      pairing.division.nests pairing.closes⟩

end BlockKind

def blockOpening : Token := .directive ⟨" block \"a\" ".toList, by decide⟩

def blockClosing : Inside := ⟨" endblock ".toList, by decide⟩

def nestedBlocks : List Token :=
  [.directive ⟨" block 'b' ".toList, by decide⟩, .text ⟨"x".toList, by decide⟩,
    .directive blockClosing, .directive blockClosing]

def nestedChoices : List Token :=
  [.directive ⟨" if b ".toList, by decide⟩, .text ⟨"X".toList, by decide⟩,
    .directive ⟨" else ".toList, by decide⟩, .text ⟨"Y".toList, by decide⟩,
    .directive ⟨" endif ".toList, by decide⟩, .directive ⟨" else ".toList, by decide⟩,
    .text ⟨"W".toList, by decide⟩, .directive ⟨" endif ".toList, by decide⟩]

theorem span?_spell_nested :
    (∀ inside ∈ directives nestedBlocks, ¬LeavesQuote "block".toList inside) ∧
      (∃ pairing : BlockKind.block.Pairing nestedBlocks,
        pairing.span [blockOpening] = ⟨15, none, (45, 59)⟩ ∧
          spell pairing.first = "\x7b\x7b block 'b' \x7d\x7dx\x7b\x7b endblock \x7d\x7d".toList ∧
          BlockKind.block.Nests pairing.first) ∧
      ∃ pairing : BlockKind.conditional.Pairing nestedChoices,
        pairing.span [] = ⟨0, some (33, 43), (44, 55)⟩ ∧
          spell pairing.second = "W".toList ∧ BlockKind.conditional.Nests pairing.first := by
  have hquotes : ∀ inside ∈ directives nestedBlocks, ¬LeavesQuote "block".toList inside := by
    decide
  refine ⟨hquotes, ?_, ?_⟩
  · obtain ⟨-, -, hspan, hparts⟩ :=
      BlockKind.span?_spell .block [blockOpening] nestedBlocks fun _ => hquotes
    have hplaces : BlockKind.block.span? (spell ([blockOpening] ++ nestedBlocks)) 15 =
        some ⟨15, none, (45, 59)⟩ := by cbv
    obtain ⟨pairing, hpairing⟩ := (hspan _).mp hplaces
    obtain ⟨-, -, hfirst, -, hnests⟩ := hparts pairing
    rw [hpairing] at hfirst
    exact ⟨pairing, hpairing, hfirst.symm.trans rfl, hnests⟩
  · obtain ⟨-, -, hspan, hparts⟩ :=
      BlockKind.span?_spell .conditional [] nestedChoices fun h => absurd h (by decide)
    have hplaces : BlockKind.conditional.span? (spell ([] ++ nestedChoices)) 0 =
        some ⟨0, some (33, 43), (44, 55)⟩ := by cbv
    obtain ⟨pairing, hpairing⟩ := (hspan _).mp hplaces
    obtain ⟨-, -, -, hsecond, hnests⟩ := hparts pairing
    rw [hpairing] at hsecond
    exact ⟨pairing, hpairing, hsecond.symm.trans rfl, hnests⟩

/-- Two directives, neither of which opens a block: the first leaves a quote open, the second ends
it. -/
def quoteAcross : List Token :=
  [.directive ⟨" block \"a ".toList, by decide⟩, .directive ⟨" b\" ".toList, by decide⟩]

/-- The two are read as one opener, which the closer behind them then closes. -/
theorem span?_quoteAcross :
    BlockKind.block.First .closer quoteAcross blockClosing ∧
      BlockKind.block.span?
        (spell ([blockOpening] ++ (quoteAcross ++ [.directive blockClosing]))) 15 = none := by
  refine ⟨⟨by decide, by decide, ?_⟩, by cbv⟩
  have hsplit : quoteAcross = [] ++ [_] ++ [_] := rfl
  rw [hsplit, BlockKind.lacks_concat, BlockKind.lacks_concat]
  refine ⟨⟨BlockKind.lacks_nil, ?_⟩, ?_⟩
  · rintro _ ⟨⟩ hrole
    exact absurd hrole (by decide)
  · rintro _ ⟨⟩ hrole
    exact absurd hrole (by decide)

end Stencil.Template
