import Stencil.Template.Block
import Stencil.Template.Layout
/-!
Layout inheritance. A template may extend a layout and define blocks that replace the layout's
blocks of the same name; of the template itself only its blocks survive. A chain of such layouts is
composed from its root down, and at the end every block gives way to its content.
-/

namespace Stencil.Template

def extendsName (template : Text) : Option Text :=
  ((quotedName "extends".toList).find? template).map (·.value)

def blockName (captures : List Text) : Text := captures.headD []

/-- Every closed block of a template with its content, nested blocks included, in the order of
their openers. -/
def blocksOf (s : Text) : List (Text × Text) :=
  match BlockKind.block.opener.find? s with
  | none => []
  | some o =>
      match BlockKind.block.block? o.after with
      | some b => (blockName o.value, b.first) :: blocksOf o.after
      | none => blocksOf o.after
termination_by s.length
decreasing_by all_goals exact o.length_after_lt

/-- The content of every block by name; the first block of a name counts. -/
def extractBlocks (template : Text) : List (Text × Text) :=
  (blocksOf template).foldl
    (fun blocks (name, content) =>
      if blocks.any (·.1 == name) then blocks else blocks ++ [(name, content)]) []

def blockMarkup (name content : Text) : Text :=
  "\x7b\x7b block \"".toList ++ name ++ "\" \x7d\x7d".toList ++ content ++
    "\x7b\x7b endblock \x7d\x7d".toList

/-- Puts `overrides` into a layout. A block without an override keeps its content, in which nested
blocks are replaced in turn. The marks stay, so that a further template can override again. -/
def spliceBlocks (overrides : List (Text × Text)) (s : Text) : Text :=
  match BlockKind.block.opener.find? s with
  | none => s
  | some o =>
      match _h : BlockKind.block.block? o.after with
      | none => o.before ++ o.matched ++ spliceBlocks overrides o.after
      | some b =>
          let name := blockName o.value
          let content :=
            match overrides.lookup name with
            | some content => content
            | none => spliceBlocks overrides b.first
          o.before ++ blockMarkup name content ++ spliceBlocks overrides b.after
termination_by s.length
decreasing_by
  · exact o.length_after_lt
  · have := o.length_after_lt
    have := BlockKind.length_block? _ _ _h
    have := b.length_first_le
    omega
  · have := o.length_after_lt
    have := BlockKind.length_block? _ _ _h
    have := b.length_after_le
    omega

/-- Replaces every block, nested ones included, with its content. -/
def unwrapBlocks (s : Text) : Text :=
  match BlockKind.block.opener.find? s with
  | none => s
  | some o =>
      match _h : BlockKind.block.block? o.after with
      | none => o.before ++ o.matched ++ unwrapBlocks o.after
      | some b => o.before ++ unwrapBlocks b.first ++ unwrapBlocks b.after
termination_by s.length
decreasing_by
  · exact o.length_after_lt
  · have := o.length_after_lt
    have := BlockKind.length_block? _ _ _h
    have := b.length_first_le
    omega
  · have := o.length_after_lt
    have := BlockKind.length_block? _ _ _h
    have := b.length_after_le
    omega

/-- A template put into its chain of layouts; `chain` holds the names already in it. A layout that
comes back is a loop, so with `fuel` above the number of different layouts the chain ends. -/
def compose (load : Text → Except Fault Text) : Nat → Text → List Text → Except Fault Text
  | 0, _, _ => .error .tooDeep
  | fuel + 1, template, chain =>
      match extendsName template with
      | none => .ok template
      | some parent =>
          if chain.elem parent then .error (.inheritanceLoop (chain ++ [parent]))
          else do
            let base ← compose load fuel (← load parent) (chain ++ [parent])
            return spliceBlocks (extractBlocks template) base

/-- A template composed with the layouts it extends, all blocks unwrapped. `name` is the template's
own name, if it has one. -/
def resolveInheritance (layouts : LayoutSource) (template : Text) (name : Option Text) :
    Except Fault Text := do
  let chain :=
    match name with
    | some name => if name.isEmpty then [] else [name]
    | none => []
  let load := fun name => layouts.resolve name none "html".toList
  return unwrapBlocks (← compose load (layouts.texts.length + 2) template chain)

end Stencil.Template
