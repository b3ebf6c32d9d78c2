import Stencil.Template.Block
import Stencil.Template.Cleanup
import Stencil.Template.Evaluate
/-!
Rendering in five stages: calls, loops, conditionals, variables and cleanup. Each stage runs over the
whole text. The bodies of loops and the branches that conditionals choose are rendered as templates
of their own, `inner` being the renderer for them, and the later stages run over what they give.
-/

namespace Stencil.Template

open Stencil.Text

/-- A loop that opens: its kind, the name its items get, and where they come from. -/
structure LoopHead where
  kind : BlockKind
  name : Option Text
  source : Text

def forHead : Scanner LoopHead := fun s =>
  (forOpener s).map fun ((name, source), rest) => (⟨.loop, some name, source⟩, rest)

def rangeHead : Scanner LoopHead := fun s =>
  (operand "range".toList s).map fun (source, rest) =>
    match parseAssignment source with
    | some (name, source) => (⟨.range, some name, source⟩, rest)
    | none => (⟨.range, none, source⟩, rest)

def loopHead : Scanner LoopHead := fun s => (forHead s).orElse fun _ => rangeHead s

/-- Puts the values of calls into a text, outside the bodies of loops: those wait for the names that
the loop binds. -/
def expandCalls (tools : Toolbox) (ctx : Context) (s : Text) : Eval Text :=
  match directive.find? s with
  | none => return s
  | some d =>
      match loopHead d.matched with
      | some (head, _) =>
          match _h : head.kind.block? d.after with
          | some b => do
              return d.before ++ d.matched ++ b.text ++ (← expandCalls tools ctx b.after)
          | none => do return d.before ++ d.matched ++ (← expandCalls tools ctx d.after)
      | none =>
          match if isControl d.value then none else parseCall d.value with
          | some (name, raw) =>
              if (splitPipeline d.value).2.isEmpty then do
                let value ← Eval.ofExcept (← call tools ctx name raw).format
                return d.before ++ value ++ (← expandCalls tools ctx d.after)
              else do return d.before ++ d.matched ++ (← expandCalls tools ctx d.after)
          | none => do return d.before ++ d.matched ++ (← expandCalls tools ctx d.after)
termination_by s.length
decreasing_by
  · have := d.length_after_lt
    have := BlockKind.length_block? _ _ _h
    have := b.length_after_le
    omega
  all_goals exact d.length_after_lt

abbrev Inner := Context → Text → Eval Text

def turnScope (name : Option Text) (index : Nat) (item : Value) : Scope :=
  let scope : Scope := [(['.'], item), ("$index".toList, .int index)]
  match name with
  | some name => scope ++ [(name, item)]
  | none => scope

/-- The body of a loop rendered for every item from `index` on. -/
def renderTurns (inner : Inner) (ctx : Context) (name : Option Text) (body : Text) :
    Nat → List Value → Eval Text
  | _, [] => return []
  | index, item :: items => do
      let turn ← inner (ctx.child (turnScope name index item)) body
      return turn ++ (← renderTurns inner ctx name body (index + 1) items)

/-- A loop over anything but a list or collection leaves nothing. -/
def renderLoop (tools : Toolbox) (inner : Inner) (ctx : Context) (head : LoopHead) (body : Text) :
    Eval Text := do
  match (← evaluate tools ctx head.source).sequence? with
  | some items => renderTurns inner ctx head.name body 0 items
  | none => return []

/-- Expands the loops of a text; a loop that is never closed keeps its opener. -/
def expandLoops (tools : Toolbox) (inner : Inner) (ctx : Context) (s : Text) : Eval Text :=
  match loopHead.find? s with
  | none => return s
  | some o =>
      match _h : o.value.kind.block? o.after with
      | none => do return o.before ++ o.matched ++ (← expandLoops tools inner ctx o.after)
      | some b => do
          let out ← renderLoop tools inner ctx o.value b.first
          return o.before ++ out ++ (← expandLoops tools inner ctx b.after)
termination_by s.length
decreasing_by
  · exact o.length_after_lt
  · have := o.length_after_lt
    have := BlockKind.length_block? _ _ _h
    have := b.length_after_le
    omega

/-- Resolves the conditionals of a text: the branch that the condition chooses is rendered in place
of the whole. -/
def expandConditionals (tools : Toolbox) (inner : Inner) (ctx : Context) (s : Text) : Eval Text :=
  match (operand "if".toList).find? s with
  | none => return s
  | some o =>
      match _h : BlockKind.conditional.block? o.after with
      | none => do return o.before ++ o.matched ++ (← expandConditionals tools inner ctx o.after)
      | some b => do
          let condition ← evaluate tools ctx o.value
          let out ← inner ctx (if condition.truthy then b.first else b.second)
          return o.before ++ out ++ (← expandConditionals tools inner ctx b.after)
termination_by s.length
decreasing_by
  · exact o.length_after_lt
  · have := o.length_after_lt
    have := BlockKind.length_block? _ _ _h
    have := b.length_after_le
    omega

def substitution (tools : Toolbox) (ctx : Context) (inside : Text) : Eval Text := do
  let (expression, filters) := splitPipeline inside
  let value ← evaluate tools ctx expression
  let value ← applyFilters tools.filters (resolveArgument tools ctx) filters value
  Eval.ofExcept value.format

/-- Puts the values of expressions into a text; control words are left for the cleanup. -/
def expandVariables (tools : Toolbox) (ctx : Context) (s : Text) : Eval Text :=
  match directive.find? s with
  | none => return s
  | some d => do
      let value ← if isControl d.value then pure d.matched else substitution tools ctx d.value
      return d.before ++ value ++ (← expandVariables tools ctx d.after)
termination_by s.length
decreasing_by exact d.length_after_lt

/-- A render with at most `depth` fragments inside one another. A value that ends up in a fragment
of its own can nest without end; such a render fails. -/
def renderWithin (tools : Toolbox) : Nat → Inner
  | 0, _, _ => throw .tooDeep
  | depth + 1, ctx, s => do
      let s ← expandCalls tools ctx s
      let s ← expandLoops tools (renderWithin tools depth) ctx s
      let s ← expandConditionals tools (renderWithin tools depth) ctx s
      let s ← expandVariables tools ctx s
      cleanup s

/-- Blocks inside one another in a template are at most as many as its characters; values may add
some more. -/
def depthFor (s : Text) : Nat := s.length + 1000

def render (tools : Toolbox) (ctx : Context) (s : Text) : Eval Text :=
  renderWithin tools (depthFor s) ctx s

/-- The text after each of the five stages, up to the first one that fails. -/
def stages (tools : Toolbox) (ctx : Context) (s : Text) : List (Except Fault Text) :=
  let inner := renderWithin tools (depthFor s)
  let steps : List (Text → Eval Text) :=
    [expandCalls tools ctx, expandLoops tools inner ctx, expandConditionals tools inner ctx,
      expandVariables tools ctx, cleanup]
  (steps.foldl
    (fun (texts, current) step =>
      match current with
      | .error e => (texts, .error e)
      | .ok s =>
          let next := (step s).result
          (texts ++ [next], next))
    (([] : List (Except Fault Text)), Except.ok s)).1

end Stencil.Template
