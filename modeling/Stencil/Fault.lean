import Stencil.Text.Basic
/-!
The ways in which an operation of the library can fail.
-/

namespace Stencil

inductive DocumentFault
  | unreadable
  | token
  | structure_
  | alias_
  | construction
deriving DecidableEq, Repr

/-- A cause of failure. The message-carrying causes come first; the others say which rule of the
value model was broken. -/
inductive Fault
  | badArguments (message : Text)
  | layoutMissing (name : Text) (searched : List Text)
  | inheritanceLoop (chain : List Text)
  | frozen (kind name : Text)
  | rendering (layout : Text) (cause : Fault)
  /-- A value of a kind that the operation does not take. -/
  | wrongKind
  /-- A value without the operation that was asked of it. -/
  | noSuchOperation
  /-- A value of the right kind that lies outside the operation's domain. -/
  | outOfDomain
  | missingKey
  | badIndex
  | overflow
  | zeroDivision
  | document (fault : DocumentFault)
  | tooDeep
  | missingFile
  | folderAsFile
  | fileAsFolder
  /-- A file where a folder is to be made. -/
  | fileInTheWay
deriving DecidableEq, Repr

end Stencil
