import Stencil.Filter.Basic
import Stencil.Function.Standard
import Stencil.Template.Accessor
import Stencil.Template.Argument
import Stencil.Template.Trace
/-!
Evaluation of expressions: literals, calls, and dotted paths that start at a name and go on through
keys of mappings and methods of objects. What is unknown along the way evaluates to nil and leaves a
note.
-/

namespace Stencil.Template

open Stencil.Text

structure Toolbox where
  functions : Registry Function
  filters : Registry Filter

def Toolbox.standard : Toolbox := ⟨Function.standard, Filter.standard⟩

def reasonOf : Fault → Option Text
  | .badArguments message => some message
  | _ => none

/-- Calls a registered function; arguments that it refuses make the answer nil. -/
def callFunction (tools : Toolbox) (ctx : Context) (name : Text) (args : List Value) :
    Eval Value := do
  match Function.call tools.functions ctx.now name args with
  | .ok v => return v
  | .error e =>
      match reasonOf e with
      | some reason =>
          Eval.note .warning "expressions"
            ("Function ".toList ++ quoted name ++ " failed: ".toList ++ reason)
          return .nil
      | none => throw e

/-- Applies what a name stands for to arguments: a registered function, else a call that answers
with content, else nothing. -/
def applyName (tools : Toolbox) (ctx : Context) (name : Text) (args : Eval (List Value)) :
    Eval Value := do
  if tools.functions.has name then callFunction tools ctx name (← args)
  else
    match ctx.query? name with
    | some query =>
        let args ← args
        match args with
        | [] => Eval.ofExcept (query none)
        | [v] => Eval.ofExcept (query (some v))
        | _ =>
            Eval.note .warning "expressions"
              ("Query ".toList ++ quoted name ++
                " called with unusable arguments: too many positional arguments".toList)
            return .nil
    | none =>
        Eval.note .debug "expressions" ("Unknown function ".toList ++ quoted name)
        return .nil

def resolveRoot (tools : Toolbox) (ctx : Context) (name : Text) : Eval Value := do
  if ctx.has name then Eval.ofExcept (ctx.lookup name)
  else if tools.functions.has name then callFunction tools ctx name []
  else
    Eval.note .debug "expressions" ("Unknown template name ".toList ++ quoted name)
    return .nil

/-- One step of a path: a key of a mapping, or a method. -/
def step (ctx : Context) (v : Value) (method : Text) : Eval Value := do
  match v with
  | .map entries => return (Value.find? (.text method) entries).getD .nil
  | v =>
      match Accessor.find? v method with
      | some accessor => Eval.ofExcept (accessor ctx)
      | none =>
          Eval.note .debug "expressions"
            ("Method ".toList ++ quoted method ++ " is not available on ".toList ++ v.kindName)
          return .nil

/-- Follows steps until they end or nil is reached. -/
def follow (ctx : Context) : Value → List Text → Eval Value
  | v, [] => return v
  | .nil, _ :: _ => return .nil
  | v, method :: methods => do follow ctx (← step ctx v method) methods

/-- The value at the end of a dotted path. A path that starts with a dot starts at the value the dot
stands for. -/
def resolvePath (tools : Toolbox) (ctx : Context) (path : Text) : Eval Value := do
  match path with
  | ['.'] => Eval.ofExcept (ctx.lookup ['.'])
  | '.' :: rest => do follow ctx (← Eval.ofExcept (ctx.lookup ['.'])) (Text.splitAt '.' rest)
  | path =>
      match Text.splitAt '.' path with
      | [] => return .nil
      | root :: methods => do follow ctx (← resolveRoot tools ctx root) methods

def literalOr (s : Text) (evaluate : Eval Value) : Eval Value := do
  match ← Eval.ofExcept (parseLiteral s) with
  | some v => return v
  | none => evaluate

/-- The value of an expression; blank text is nil. Arguments of a call reach a function as plain
data. -/
def evaluate (tools : Toolbox) (ctx : Context) (s : Text) : Eval Value := do
  if (trim s).isEmpty then return .nil
  else
    literalOr (trim s)
      (match _h : parseCall (trim s) with
      | some (name, raw) =>
          applyName tools ctx name
            ((splitArguments raw).attach.mapM fun ⟨a, _⟩ => do
              Eval.ofExcept (← literalOr a (evaluate tools ctx a)).coerce)
      | none => resolvePath tools ctx (trim s))
termination_by s.length
decreasing_by
  have := length_parseCall_lt _h
  have := length_trim_le s
  have := length_le_of_mem_splitArguments ‹_›
  omega

/-- The value of one argument as it is written: a literal, else an expression. -/
def resolveArgument (tools : Toolbox) (ctx : Context) (raw : Text) : Eval Value :=
  literalOr raw (evaluate tools ctx raw)

def call (tools : Toolbox) (ctx : Context) (name raw : Text) : Eval Value :=
  applyName tools ctx name
    ((splitArguments raw).mapM fun a => do
      Eval.ofExcept (← resolveArgument tools ctx a).coerce)

/-- The value sent through filters from left to right. Unknown filters and filters that cannot take
their arguments let it pass. -/
def applyFilters (filters : Registry Filter) (resolve : Text → Eval Value) :
    List Text → Value → Eval Value
  | [], v => return v
  | directive :: rest, v => do
      let (name, args) ←
        match parseCall directive with
        | some (name, raw) => do pure (name, ← (splitArguments raw).mapM resolve)
        | none => pure (trim directive, [])
      match filters.get? name with
      | none =>
          Eval.note .debug "filters"
            ("Unknown filter ".toList ++ quoted name ++ "; passing value through".toList)
          applyFilters filters resolve rest v
      | some filter =>
          match filter.misfit? args.length with
          | some reason =>
              Eval.note .warning "filters"
                ("Filter ".toList ++ quoted name ++ " called with unusable arguments: ".toList ++
                  reason)
              applyFilters filters resolve rest v
          | none => do
              applyFilters filters resolve rest (← Eval.ofExcept (filter.run args v))

end Stencil.Template
