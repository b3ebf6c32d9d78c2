import Stencil.Command.Run
import Std.Time.DateTime
/-!
The program: runs a command on the files below the current folder.
-/

namespace Stencil

def readFiles : IO FileTree := do
  let folder ← IO.currentDir
  let start := folder.toString.length + 1
  let mut files := []
  for path in ← folder.walkDir do
    if !(← path.isDir) then
      try
        files := ((path.toString.drop start).toString.toList, ← IO.FS.readFile path) :: files
      catch _ => pure ()
  return .ofList (files.map fun (name, text) => (name, text.toList))

/-- The current moment, universal time. -/
def currentMoment : IO Moment := do
  let elapsed := (← Std.Time.Timestamp.now).val
  return .ofUnix elapsed.second.val.toNat (elapsed.nano.val.toNat / 1000)

def writeFile (place : List Text) (text : Text) : IO Unit := do
  let mut folder ← IO.currentDir
  for part in place.dropLast do
    folder := folder / String.ofList part
  IO.FS.createDirAll folder
  IO.FS.writeFile (folder / String.ofList (place.getLast?.getD [])) (String.ofList text)

end Stencil

open Stencil in
def main (args : List String) : IO UInt32 := do
  let world : Command.World := ⟨← readFiles, ← currentMoment⟩
  match Command.run world (args.map String.toList) with
  | .ok outcome =>
      if let some (place, text) := outcome.written then writeFile place text
      IO.print (String.ofList outcome.output)
      IO.eprint (String.ofList outcome.errors)
      return outcome.status.toUInt32
  | .error fault =>
      IO.eprintln (String.ofList (fault.kind ++ ": ".toList ++ fault.detail))
      return 1
