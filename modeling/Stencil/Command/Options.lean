import Stencil.Text.Basic
/-!
Arguments of a command: options with or without a value, and the arguments between them. Whatever
does not fit the command's description is a usage error.
-/

namespace Stencil.Command

inductive Holds
  | nothing
  | text
  | file
  | folder
  /-- A path, whether anything is there or not. -/
  | path
deriving DecidableEq

def Holds.word : Holds → String
  | .nothing => ""
  | .text => " TEXT"
  | .file => " FILE"
  | .folder => " DIRECTORY"
  | .path => " PATH"

structure OptionSpec where
  letter : Option Char
  name : String
  holds : Holds
  help : String
  default : Option String

structure Spec where
  name : String
  arguments : List (String × Holds)
  options : List OptionSpec
  help : String

def helpOption : OptionSpec := ⟨none, "help", .nothing, "Show this message and exit.", none⟩

/-- The options and arguments of a call, in the order they were given. -/
structure Call where
  options : List (String × Text)
  arguments : List Text

namespace Call

def has (call : Call) (name : String) : Bool := call.options.any (·.1 == name)

/-- The value of an option; the last one given counts. -/
def value? (call : Call) (name : String) : Option Text := call.options.reverse.lookup name

def addOption (name : String) (value : Text) (call : Call) : Call :=
  { call with options := (name, value) :: call.options }

def addArgument (s : Text) (call : Call) : Call := { call with arguments := s :: call.arguments }

end Call

private def longOption? (options : List OptionSpec) (arg : Text) :
    Option (OptionSpec × Option Text) := do
  let body ← Text.dropStart? ['-', '-'] arg
  let (name, value?) :=
    match Text.cut? ['='] body with
    | some (name, value) => (name, some value)
    | none => (body, none)
  let option ← options.find? (·.name.toList == name)
  if option.holds == .nothing && value?.isSome then none else some (option, value?)

/-- Letters behind a single hyphen. An option with a value takes the letters behind it, or the next
argument. -/
private def letters (options : List OptionSpec) (rest : List Text) (call : Call) :
    Text → Option (Call × List Text)
  | [] => some (call, rest)
  | c :: s => do
      let option ← options.find? (·.letter == some c)
      if option.holds == .nothing then letters options rest (call.addOption option.name []) s
      else if !s.isEmpty then some (call.addOption option.name s, rest)
      else
        match rest with
        | value :: rest => some (call.addOption option.name value, rest)
        | [] => none

/-- Reads arguments from left to right. When arguments may not stand between options, all that
follows the first one is left for a command of its own. -/
private def readFrom (options : List OptionSpec) (between : Bool) (steps : Nat) (call : Call)
    (args : List Text) : Option Call :=
  match steps, args with
  | 0, _ => some call
  | _, [] => some call
  | steps + 1, arg :: rest =>
      let finish (rest : List Text) (call : Call) : Call :=
        { call with arguments := rest.reverse ++ call.arguments }
      if arg == ['-', '-'] then some (finish rest call)
      else if arg.head? == some '-' && 1 < arg.length then
        if Text.startsWith ['-', '-'] arg then do
          let (option, value?) ← longOption? options arg
          if option.holds == .nothing then
            readFrom options between steps (call.addOption option.name []) rest
          else
            match value?, rest with
            | some value, rest =>
                readFrom options between steps (call.addOption option.name value) rest
            | none, value :: rest =>
                readFrom options between steps (call.addOption option.name value) rest
            | none, [] => none
        else do
          let (call, rest) ← letters options rest call (arg.drop 1)
          readFrom options between steps call rest
      else if between then readFrom options between steps (call.addArgument arg) rest
      else some (finish (arg :: rest) call)

def Call.read? (options : List OptionSpec) (between : Bool) (args : List Text) : Option Call :=
  (readFrom options between args.length ⟨[], []⟩ args).map fun call =>
    ⟨call.options.reverse, call.arguments.reverse⟩

/-! Help. -/

/-- Two columns, the first as wide as its widest entry. -/
def columns (rows : List (String × String)) : String :=
  let width := (rows.map (·.1.length)).foldl max 0
  String.join (rows.map fun (a, b) =>
    "  " ++ a ++ String.ofList (List.replicate (width - a.length + 2) ' ') ++ b ++ "\n")

private def OptionSpec.row (o : OptionSpec) : String × String :=
  let letter := match o.letter with
    | some c => "-" ++ String.singleton c ++ ", "
    | none => ""
  let default := match o.default with
    | some d => "  [default: " ++ d ++ "]"
    | none => ""
  (letter ++ "--" ++ o.name ++ o.holds.word, o.help ++ default)

def optionRows (options : List OptionSpec) : String := columns (options.map OptionSpec.row)

def Spec.usage (program : String) (s : Spec) : String :=
  let arguments := String.join (s.arguments.map fun (name, _) => " " ++ name)
  "Usage: " ++ program ++ " " ++ s.name ++ " [OPTIONS]" ++ arguments ++ "\n\n  " ++ s.help ++
    "\n\nOptions:\n" ++ optionRows s.options

end Stencil.Command
