import Stencil.Yaml.Token
/-!
The tree of a YAML document: scalars, sequences and mappings, each with the tag that was written for
it. A use of an anchor stands for the node that the anchor names.
-/

namespace Stencil.Yaml

inductive Node
  /-- A scalar; an untagged one that was written plain is typed by its text. -/
  | scalar (tag? : Option Text) (text : Text)
  | sequence (tag? : Option Text) (items : List Node)
  | mapping (tag? : Option Text) (entries : List (Node × Node))

def coreTag (name : String) : Text := "tag:yaml.org,2002:".toList ++ name.toList

namespace Node

def empty : Node := .scalar none []

def badStructure : Fault := .document .structure_

def badAnchor : Fault := .document .alias_

/-- The tokens that are left, and what the document has defined so far. The node of an anchor is
missing while the node is being read. -/
structure State where
  tokens : Tokens
  handles : List (Text × Text)
  anchors : List (Text × Option Node)

abbrev Reader := StateT State (Except Fault)

def peek : Reader Token := do
  let tokens := (← get).tokens
  match tokens.list with
  | t :: _ => return t
  | [] => throw (tokens.failure?.getD badStructure)

def skip : Reader Unit := do
  let _ ← peek
  modify fun s => { s with tokens := { s.tokens with list := s.tokens.list.drop 1 } }

def skipIf (p : Token → Bool) : Reader Bool := do
  if p (← peek) then
    skip
    return true
  else return false

/-! Kinds of tokens. -/

def isBlockEntry : Token → Bool
  | .blockEntry => true
  | _ => false

def isBlockEnd : Token → Bool
  | .blockEnd => true
  | _ => false

def isKey : Token → Bool
  | .key => true
  | _ => false

def isValue : Token → Bool
  | .value => true
  | _ => false

def isFlowEntry : Token → Bool
  | .flowEntry => true
  | _ => false

def isFlowSequenceEnd : Token → Bool
  | .flowSequenceEnd => true
  | _ => false

def isFlowMappingEnd : Token → Bool
  | .flowMappingEnd => true
  | _ => false

def isDocumentStart : Token → Bool
  | .documentStart => true
  | _ => false

def isDocumentEnd : Token → Bool
  | .documentEnd => true
  | _ => false

def isStreamEnd : Token → Bool
  | .streamEnd => true
  | _ => false

def isDirective : Token → Bool
  | .directive _ => true
  | _ => false

/-! Properties of a node. -/

def anchorOf? : Reader (Option Text) := do
  match ← peek with
  | .anchor name =>
      skip
      return some name
  | _ => return none

def tagOf? : Reader (Option (Option Text × Text)) := do
  match ← peek with
  | .tag handle suffix =>
      skip
      return some (handle, suffix)
  | _ => return none

def tagName? : Option (Option Text × Text) → Reader (Option Text)
  | none => return none
  | some (none, suffix) => return some suffix
  | some (some handle, suffix) => do
      match (← get).handles.lookup handle with
      | some start => return some (start ++ suffix)
      | none => throw badStructure

/-- The anchor and the tag in front of a node, in either order. -/
def properties : Reader (Option Text × Option Text) := do
  let anchor ← anchorOf?
  let tag ← tagOf?
  let anchor ← if anchor.isNone && tag.isSome then anchorOf? else pure anchor
  return (anchor, ← tagName? tag)

/-- Takes an anchor's name for the node that follows; each name once. -/
def declareAnchor : Option Text → Reader Unit
  | none => pure ()
  | some name => do
      if ((← get).anchors.lookup name).isSome then throw badAnchor
      modify fun s => { s with anchors := (name, none) :: s.anchors }

def bindAnchor (anchor : Option Text) (n : Node) : Reader Node := do
  match anchor with
  | some name => modify fun s => { s with anchors := (name, some n) :: s.anchors }
  | none => pure ()
  return n

/-- A tag that leaves the type to the node. -/
def explicitTag? (tag : Option Text) : Option Text :=
  if tag == some ['!'] then none else tag

def scalarTag? (tag : Option Text) (plain : Bool) : Option Text :=
  if tag.isNone && !plain then some (coreTag "str") else explicitTag? tag

mutual

/-- A node. `block` admits blocks, and `indentless` a sequence that is not indented deeper than the
key in front of it. -/
def read (depth : Nat) (block indentless : Bool) : Reader Node :=
  match depth with
  | 0 => throw badStructure
  | depth + 1 => do
      match ← peek with
      | .anchorUse name =>
          skip
          match (← get).anchors.lookup name with
          | some (some n) => return n
          | some none => throw (.document .construction)
          | none => throw badAnchor
      | _ =>
          let (anchor, tag) ← properties
          let collection (body : Reader Node) : Reader Node := do
            declareAnchor anchor
            let n ← body
            bindAnchor anchor n
          let kind := explicitTag? tag
          match ← peek with
          | .scalar text plain =>
              declareAnchor anchor
              skip
              bindAnchor anchor (.scalar (scalarTag? tag plain) text)
          | .flowSequenceStart => collection do
              skip
              return .sequence kind (← flowItems depth true)
          | .flowMappingStart => collection do
              skip
              return .mapping kind (← flowEntries depth true)
          | t =>
              if indentless && isBlockEntry t then
                collection do return .sequence kind (← indentlessItems depth)
              else
                match block, t with
                | true, .blockSequenceStart => collection do
                    skip
                    return .sequence kind (← blockItems depth)
                | true, .blockMappingStart => collection do
                    skip
                    return .mapping kind (← blockEntries depth)
                | _, _ =>
                    if anchor.isSome || tag.isSome then
                      declareAnchor anchor
                      bindAnchor anchor (.scalar kind [])
                    else throw badStructure

/-- The node behind an indicator, which is empty in front of certain tokens. -/
def readUnless (depth : Nat) (ends : Token → Bool) (block indentless : Bool) :
    Reader Node :=
  match depth with
  | 0 => throw badStructure
  | depth + 1 => do if ends (← peek) then return empty else read depth block indentless

def blockItems (depth : Nat) : Reader (List Node) :=
  match depth with
  | 0 => throw badStructure
  | depth + 1 => do
      if ← skipIf isBlockEntry then
        let n ← readUnless depth (fun t => isBlockEntry t || isBlockEnd t) true false
        return n :: (← blockItems depth)
      else if ← skipIf isBlockEnd then return []
      else throw badStructure

def indentlessItems (depth : Nat) : Reader (List Node) :=
  match depth with
  | 0 => throw badStructure
  | depth + 1 => do
      if ← skipIf isBlockEntry then
        let n ← readUnless depth
          (fun t => isBlockEntry t || isKey t || isValue t || isBlockEnd t) true false
        return n :: (← indentlessItems depth)
      else return []

def blockEntries (depth : Nat) : Reader (List (Node × Node)) :=
  match depth with
  | 0 => throw badStructure
  | depth + 1 => do
      let ends (t : Token) : Bool := isKey t || isValue t || isBlockEnd t
      if ← skipIf isKey then
        let k ← readUnless depth ends true true
        let v ← if ← skipIf isValue then readUnless depth ends true true else pure empty
        return (k, v) :: (← blockEntries depth)
      else if ← skipIf isBlockEnd then return []
      else throw badStructure

def flowItems (depth : Nat) (first : Bool) : Reader (List Node) :=
  match depth with
  | 0 => throw badStructure
  | depth + 1 => do
      if ← skipIf isFlowSequenceEnd then return []
      else
        if !first then if !(← skipIf isFlowEntry) then throw badStructure
        if ← skipIf isKey then
          let ends (t : Token) : Bool := isFlowEntry t || isFlowSequenceEnd t
          let k ← readUnless depth (fun t => isValue t || ends t) false false
          let v ← if ← skipIf isValue then readUnless depth ends false false else pure empty
          return .mapping none [(k, v)] :: (← flowItems depth false)
        else if ← skipIf isFlowSequenceEnd then return []
        else
          let n ← read depth false false
          return n :: (← flowItems depth false)

def flowEntries (depth : Nat) (first : Bool) : Reader (List (Node × Node)) :=
  match depth with
  | 0 => throw badStructure
  | depth + 1 => do
      if ← skipIf isFlowMappingEnd then return []
      else
        if !first then if !(← skipIf isFlowEntry) then throw badStructure
        if ← skipIf isKey then
          let ends (t : Token) : Bool := isFlowEntry t || isFlowMappingEnd t
          let k ← readUnless depth (fun t => isValue t || ends t) false false
          let v ← if ← skipIf isValue then readUnless depth ends false false else pure empty
          return (k, v) :: (← flowEntries depth false)
        else if ← skipIf isFlowMappingEnd then return []
        else
          let k ← read depth false false
          return (k, empty) :: (← flowEntries depth false)

end

/-! Documents. -/

def standardHandles : List (Text × Text) := [(['!'], ['!']), (['!', '!'], coreTag "")]

/-- Directives in front of a document; each at most once. -/
def directives : Nat → Bool → List (Text × Text) → Reader (List (Text × Text))
  | 0, _, handles => return handles
  | n + 1, versioned, handles => do
      match ← peek with
      | .directive d =>
          skip
          match d with
          | .version major =>
              if versioned || major != 1 then throw badStructure
              directives n true handles
          | .tagHandle handle start =>
              if (handles.lookup handle).isSome then throw badStructure
              directives n versioned (handles ++ [(handle, start)])
          | .other => directives n versioned handles
      | _ => return handles

def skipDocumentEnds : Nat → Reader Unit
  | 0 => pure ()
  | n + 1 => do if ← skipIf isDocumentEnd then skipDocumentEnds n

def document? (size : Nat) : Reader (Option Node) := do
  let t ← peek
  let depth := 4 * size + 8
  if isStreamEnd t then return none
  else if isDirective t || isDocumentStart t then
    let handles ← directives size false []
    modify fun s => { s with handles := handles ++ standardHandles }
    if !(← skipIf isDocumentStart) then throw badStructure
    let ends (t : Token) : Bool :=
      isDirective t || isDocumentStart t || isDocumentEnd t || isStreamEnd t
    return some (← readUnless depth ends true false)
  else return some (← read depth true false)

/-- The only document of a text; none in a text without content. -/
def single? (size : Nat) : Reader (Option Node) := do
  match ← document? size with
  | none => return none
  | some n =>
      skipDocumentEnds size
      if isStreamEnd (← peek) then return some n
      else
        let _ ← directives size false []
        if isDocumentStart (← peek) then throw badAnchor else throw badStructure

def ofText? (s : Text) : Except Fault (Option Node) := do
  if !s.all isPrintable then throw (.document .unreadable)
  let tokens := Tokens.ofText s
  return (← (single? tokens.list.length).run ⟨tokens, standardHandles, []⟩).1

end Node

end Stencil.Yaml
