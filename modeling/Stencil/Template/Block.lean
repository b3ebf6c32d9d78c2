import Stencil.Template.Directive
/-!
Blocks and the pairing of their parts. A block runs from its opener to the closer of the same
nesting; a conditional may be divided once. Pairing counts the openers of the same kind between.
-/

namespace Stencil.Template

inductive BlockKind
  | conditional
  | loop
  | range
  | block
deriving DecidableEq, Repr

namespace BlockKind

/-- What an opener captures, in order. -/
def opener : BlockKind → Scanner (List Text)
  | .conditional => fun s => (operand "if".toList s).map fun (c, rest) => ([c], rest)
  | .loop => fun s => (forOpener s).map fun ((name, source), rest) => ([name, source], rest)
  | .range => fun s => (operand "range".toList s).map fun (e, rest) => ([e], rest)
  | .block => fun s => (quotedName "block".toList s).map fun (n, rest) => ([n], rest)

def closer : BlockKind → Scanner Unit
  | .conditional => tag "endif".toList
  | .loop => tag "endfor".toList
  | .range => tag "end".toList
  | .block => tag "endblock".toList

def divider : BlockKind → Scanner Unit
  | .conditional => tag "else".toList
  | _ => fun _ => none

end BlockKind

/-- A block behind its opener: the text before its divider, the divider and the text behind it,
the closer, and what follows the block. Without a divider `second` is empty. -/
structure Block where
  first : Text
  divider? : Option Text
  second : Text
  closer : Text
  after : Text

namespace Block

def text (b : Block) : Text := b.first ++ b.divider?.getD [] ++ b.second ++ b.closer

/-- Its length together with what follows it. -/
def length (b : Block) : Nat := b.text.length + b.after.length

end Block

structure BlockReading where
  first : Text
  divider? : Option Text
  second : Text

namespace BlockReading

def start : BlockReading := ⟨[], none, []⟩

def add (r : BlockReading) (s : Text) : BlockReading :=
  if r.divider?.isSome then { r with second := r.second ++ s } else { r with first := r.first ++ s }

/-- Reads a divider: the block's own first one divides it, any other is text. -/
def divide (r : BlockReading) (depth : Nat) (before divider : Text) : BlockReading :=
  if depth = 0 ∧ r.divider? = none then { r.add before with divider? := some divider }
  else r.add (before ++ divider)

def length (r : BlockReading) : Nat :=
  r.first.length + (r.divider?.getD []).length + r.second.length

theorem length_add (r : BlockReading) (s : Text) : (r.add s).length = r.length + s.length := by
  unfold add length
  split <;> simp only [List.length_append] <;> omega

theorem length_divide (r : BlockReading) (depth : Nat) (before divider : Text) :
    (r.divide depth before divider).length = r.length + before.length + divider.length := by
  unfold divide
  split
  · next h =>
      have hadd := length_add r before
      simp only [length, add, h.2, Option.getD, Option.isSome] at hadd ⊢
      simp only [List.length_nil] at hadd ⊢
      simp at hadd ⊢
      omega
  · rw [length_add, List.length_append]
    omega

end BlockReading

/-- A mark inside a block: an opener of the same kind, or else a divider. -/
inductive Mark
  | opener
  | divider
deriving DecidableEq

def BlockKind.mark? (kind : BlockKind) (s : Text) : Option (Found Mark s) :=
  let opener? := (kind.opener.find? s).map fun o : Found _ s => { o with value := Mark.opener }
  let divider? := (kind.divider.find? s).map fun d : Found _ s => { d with value := Mark.divider }
  match opener?, divider? with
  | some o, some d => if o.before.length < d.before.length then some o else some d
  | some o, none => some o
  | none, d? => d?

/-- Reads on with `depth` blocks of the same kind open inside the block. The nearest closer bounds
the search for a mark before it. -/
def BlockKind.readBlock? (kind : BlockKind) (depth : Nat) (read : BlockReading) (s : Text) :
    Option Block :=
  match kind.closer.find? s with
  | none => none
  | some c =>
      match kind.mark? c.before with
      | some m =>
          let rest := s.drop (c.before.length - m.after.length)
          match m.value with
          | .opener => kind.readBlock? (depth + 1) (read.add (m.before ++ m.matched)) rest
          | .divider => kind.readBlock? depth (read.divide depth m.before m.matched) rest
      | none =>
          match depth with
          | 0 =>
              let read := read.add c.before
              some ⟨read.first, read.divider?, read.second, c.matched, c.after⟩
          | depth + 1 => kind.readBlock? depth (read.add (c.before ++ c.matched)) c.after
termination_by s.length
decreasing_by
  · have := c.length_after_lt
    have := m.length_after_lt
    simp only [List.length_drop]
    omega
  · have := c.length_after_lt
    have := m.length_after_lt
    simp only [List.length_drop]
    omega
  · exact c.length_after_lt

/-- Nothing is lost: the parts of a block and what follows it are as long as what was read. -/
theorem BlockKind.length_readBlock? (kind : BlockKind) (depth : Nat) (read : BlockReading)
    (s : Text) {b : Block} (h : kind.readBlock? depth read s = some b) :
    b.length = read.length + s.length := by
  fun_induction kind.readBlock? depth read s with
  | case1 => simp at h
  | case2 depth read s c _ m _ rest _ ih =>
      have hm := m.length_eq
      have hc := c.length_eq
      rw [ih h, BlockReading.length_add, List.length_append, List.length_drop]
      omega
  | case3 depth read s c _ m _ rest _ ih =>
      have hm := m.length_eq
      have hc := c.length_eq
      rw [ih h, BlockReading.length_divide, List.length_drop]
      omega
  | case4 read s c _ _ read' =>
      have hc := c.length_eq
      have hadd : read'.length = read.length + c.before.length := BlockReading.length_add ..
      cases h
      simp only [Block.length, Block.text, BlockReading.length, List.length_append] at hadd ⊢
      omega
  | case5 read s c _ _ depth ih =>
      have hc := c.length_eq
      rw [ih h, BlockReading.length_add, List.length_append]
      omega

/-- The block whose opener ends where `s` begins, unless it is never closed. -/
def BlockKind.block? (kind : BlockKind) (s : Text) : Option Block :=
  kind.readBlock? 0 .start s

theorem BlockKind.length_block? (kind : BlockKind) (s : Text) {b : Block}
    (h : kind.block? s = some b) : b.length = s.length := by
  have := kind.length_readBlock? 0 .start s h
  simpa [BlockReading.start, BlockReading.length] using this

theorem Block.length_first_le (b : Block) : b.first.length ≤ b.length := by
  simp only [length, text, List.length_append]
  omega

theorem Block.length_after_le (b : Block) : b.after.length ≤ b.length := by
  simp only [length]
  omega

end Stencil.Template
