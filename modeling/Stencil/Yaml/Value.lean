import Stencil.Value.Equality
import Stencil.Yaml.Node
import Stencil.Yaml.Plain
/-!
The value of a YAML document. Mappings keep their order; a later entry with an equal key replaces
the value of the earlier one.
-/

namespace Stencil.Yaml

def badConstruction : Fault := .document .construction

/-! The types that tags name. -/

def scalarTypes : List (String × ScalarType) :=
  [("null", .null), ("bool", .bool), ("int", .int), ("float", .float), ("timestamp", .timestamp),
    ("str", .text), ("binary", .octets), ("merge", .merge), ("value", .defaultValue)]

inductive CollectionType
  | list
  | map
  | set
  /-- A list of mappings with one entry each, which is read as one of keys with their values. -/
  | pairs
deriving DecidableEq

def collectionTypes : List (String × CollectionType) :=
  [("seq", .list), ("map", .map), ("set", .set), ("omap", .pairs), ("pairs", .pairs)]

def taggedType? (types : List (String × α)) (tag : Text) : Option α :=
  (types.find? fun (name, _) => coreTag name == tag).map (·.2)

def typeOf? (tag? : Option Text) (text : Text) : Option ScalarType :=
  match tag? with
  | none => some (Plain.typeOf text)
  | some tag => taggedType? scalarTypes tag

def Node.collection? : Node → Option CollectionType
  | .scalar tag? _ => tag?.bind (taggedType? collectionTypes)
  | .sequence tag? _ => tag?.elim (some .list) (taggedType? collectionTypes)
  | .mapping tag? _ => tag?.elim (some .map) (taggedType? collectionTypes)

/-- What a key is: an entry of its own, the place to merge mappings into, or a plain `=`. -/
def keyType : Node → ScalarType
  | .scalar tag? text => (typeOf? tag? text).getD .text
  | .sequence tag? _ | .mapping tag? _ => (tag?.bind (taggedType? scalarTypes)).getD .text

/-! Scalars. -/

/-- Whether a text can be read as octets in base 64. Characters that are no digits do not count; the
last four digits may be filled up with equals signs, behind which nothing counts. -/
def readsAsOctets (s : Text) : Bool := s.all (·.toNat < 128) && fills 0 0 s
where
  isDigit (c : Char) : Bool := c.isAlphanum || c == '+' || c == '/'
  fills (place equals : Nat) : Text → Bool
    | [] => place == 0
    | c :: s =>
        if isDigit c then fills ((place + 1) % 4) 0 s
        else if c == '=' && 2 ≤ place then 4 ≤ place + equals + 1 || fills place (equals + 1) s
        else fills place equals s

def scalarValue (tag? : Option Text) (text : Text) : Except Fault Value :=
  match typeOf? tag? text with
  | some .null => .ok .nil
  | some .bool =>
      match Plain.truth? text with
      | some b => .ok (.bool b)
      | none => .error .missingKey
  | some .int => .int <$> Plain.int text
  | some .float => .float <$> Plain.float text
  | some .timestamp =>
      match Timestamp.ofText? text with
      | some t => t.toValue
      | none => .error .noSuchOperation
  | some .text => .ok (.text text)
  | some .octets =>
      if readsAsOctets text then .ok (.object "bytes".toList) else .error badConstruction
  | some .merge | some .defaultValue | none => .error badConstruction

mutual

/-- The text of a node where a scalar is expected: for a mapping that of its plain `=`. -/
def Node.text? : Node → Option Text
  | .scalar _ text => some text
  | .sequence _ _ => none
  | .mapping _ entries => givenText? entries

def givenText? : List (Node × Node) → Option Text
  | [] => none
  | (k, v) :: entries => if keyType k == .defaultValue then v.text? else givenText? entries

end

/-- The value of a mapping that has the tag of a scalar. A timestamp is read off the node itself. -/
def givenValue (tag? : Option Text) (entries : List (Node × Node)) : Except Fault Value :=
  match givenText? entries with
  | some text =>
      if typeOf? tag? text = some .timestamp then .error .wrongKind else scalarValue tag? text
  | none => .error badConstruction

def Node.scalarValue : Node → Except Fault Value
  | .scalar tag? text => Yaml.scalarValue tag? text
  | .sequence _ _ => .error badConstruction
  | .mapping tag? entries => givenValue tag? entries

def Node.withTag (tag : Text) : Node → Node
  | .scalar _ text => .scalar (some tag) text
  | .sequence _ items => .sequence (some tag) items
  | .mapping _ entries => .mapping (some tag) entries

/-- The value of a key, which no collection can be. A plain `=` is a text. -/
def keyValue (k : Node) : Except Fault Value :=
  let k := if keyType k = .defaultValue then k.withTag (coreTag "str") else k
  match k.collection? with
  | some _ => .error badConstruction
  | none => k.scalarValue

/-! Rounds. A value is built from the root on: what stands in a collection is built a round after
it, so that of several faults the one nearest to the root is met. -/

/-- A fault, and the round in which it is met. -/
structure Met where
  round : Nat
  fault : Fault

abbrev Built := Except Met

namespace Built

def now : Except Fault α → Built α
  | .ok a => .ok a
  | .error fault => .error ⟨0, fault⟩

def later : Built α → Built α
  | .ok a => .ok a
  | .error met => .error { met with round := met.round + 1 }

/-- Two parts of a value: of faults in one round the first one is met. -/
def both (f : α → β → γ) : Built α → Built β → Built γ
  | .ok a, .ok b => .ok (f a b)
  | .ok _, .error met => .error met
  | .error met, .ok _ => .error met
  | .error met, .error met' => .error (if met'.round < met.round then met' else met)

end Built

mutual

def mergeable : List (Node × Node) → Bool
  | [] => true
  | (k, v) :: entries => (keyType k != .merge || isSource v) && mergeable entries

def isSource : Node → Bool
  | .scalar _ _ => false
  | .sequence _ items => areSources items
  | .mapping _ entries => mergeable entries

def areSources : List Node → Bool
  | [] => true
  | .mapping _ entries :: items => mergeable entries && areSources items
  | _ :: _ => false

end

open Built (now later both)

mutual

def valueOf : Node → Built Value
  | .scalar tag? text =>
      match (Node.scalar tag? text).collection? with
      | some _ => later (now (.error badConstruction))
      | none => now (scalarValue tag? text)
  | .sequence tag? items =>
      match (Node.sequence tag? items).collection? with
      | some .list => later (.list <$> valuesOf items)
      | some .pairs => later (.list <$> pairsOf items)
      | some _ => later (now (.error badConstruction))
      | none => now (.error badConstruction)
  | .mapping tag? entries =>
      match (Node.mapping tag? entries).collection? with
      | some .map => later (.ofEntries <$> entriesOf entries)
      | some .set => later ((fun _ => .object "set".toList) <$> entriesOf entries)
      | some _ => later (now (.error badConstruction))
      | none => now (givenValue tag? entries)

def valuesOf : List Node → Built (List Value)
  | [] => .ok []
  | n :: items => both List.cons (valueOf n) (valuesOf items)

def pairsOf : List Node → Built (List Value)
  | [] => .ok []
  | .mapping _ [(k, v)] :: items =>
      both List.cons (both (fun key value => .list [key, value]) (valueOf k) (valueOf v))
        (pairsOf items)
  | _ :: _ => now (.error badConstruction)

/-- The entries of a mapping, those merged into it first. What is to be merged is looked at before
anything is built. -/
def entriesOf (entries : List (Node × Node)) : Built (List (Value × Value)) :=
  both (fun _ entries => entries)
    (now (if mergeable entries then .ok () else .error badConstruction))
    (both List.append (mergedOf entries) (ownOf entries))

def mergedOf : List (Node × Node) → Built (List (Value × Value))
  | [] => .ok []
  | (k, v) :: entries =>
      if keyType k = .merge then both List.append (sourceOf v) (mergedOf entries)
      else mergedOf entries

/-- The entries to merge: those of a mapping, or of a list of mappings of which the first ones
win. -/
def sourceOf : Node → Built (List (Value × Value))
  | .scalar _ _ => now (.error badConstruction)
  | .sequence _ items => sourcesOf items
  | .mapping _ entries => both List.append (mergedOf entries) (ownOf entries)

def sourcesOf : List Node → Built (List (Value × Value))
  | [] => .ok []
  | .mapping _ entries :: items =>
      both List.append (sourcesOf items) (both List.append (mergedOf entries) (ownOf entries))
  | _ :: _ => now (.error badConstruction)

def ownOf : List (Node × Node) → Built (List (Value × Value))
  | [] => .ok []
  | (k, v) :: entries =>
      if keyType k = .merge then ownOf entries
      else both List.cons (both Prod.mk (now (keyValue k)) (valueOf v)) (ownOf entries)

end

/-- Reads the value of a document; an empty document is nil. -/
def read (s : Text) : Except Fault Value := do
  match ← Node.ofText? s with
  | some n => (valueOf n).mapError (·.fault)
  | none => return .nil

namespace Built

variable {α β γ : Type}

theorem now_eq_ok {x : Except Fault α} {a : α} : now x = .ok a ↔ x = .ok a := by
  cases x <;> simp [now]

theorem later_eq_ok {x : Built α} {a : α} : later x = .ok a ↔ x = .ok a := by
  cases x <;> simp [later]

theorem both_eq_ok {f : α → β → γ} {x : Built α} {y : Built β} {c : γ} :
    both f x y = .ok c ↔ ∃ a b, x = .ok a ∧ y = .ok b ∧ f a b = c := by
  cases x <;> cases y <;> simp [both]

end Built

theorem valueOf_entry {key : Text} {v : Node} (hkey : Plain.typeOf key = .text) :
    valueOf (.mapping none [(.scalar none key, v)]) =
      (valueOf v).later.map fun value => .map [(.text key, value)] := by
  have htype : keyType (.scalar none key) = .text := by simp [keyType, typeOf?, hkey]
  have hvalue : keyValue (.scalar none key) = .ok (.text key) := by
    simp [keyValue, htype, Node.collection?, Node.scalarValue, scalarValue, typeOf?, hkey]
  cases hv : valueOf v <;>
    simp [valueOf, Node.collection?, entriesOf, mergeable, mergedOf, ownOf, htype, hvalue, hv, both,
      now, later, Except.map, Value.ofEntries, Value.insert, Functor.map]

theorem read_entry {s key text : Text}
    (h : Node.ofText? s = .ok (some (.mapping none [(.scalar none key, .scalar none text)])))
    (hkey : Plain.typeOf key = .text) (htext : Plain.typeOf text = .text) :
    read s = .ok (.map [(.text key, .text text)]) := by
  have hvalue : valueOf (.scalar none text) = .ok (.text text) := by
    simp [valueOf, Node.collection?, scalarValue, typeOf?, htext, now]
  simp only [read, h, bind, Except.bind, valueOf_entry hkey, hvalue]
  rfl

/-! What is read as a mapping is one of entries of which later ones replace earlier ones. -/

theorem scalarValue_ne_map {tag? : Option Text} {text : Text}
    {entries : List (Value × Value)} : scalarValue tag? text ≠ .ok (.map entries) := by
  intro h
  unfold scalarValue at h
  split at h
  · cases h
  · split at h <;> cases h
  · cases hint : Plain.int text <;> rw [hint] at h <;> cases h
  · cases hfloat : Plain.float text <;> rw [hfloat] at h <;> cases h
  · split at h
    · unfold Timestamp.toValue at h
      dsimp only at h
      split at h
      · split at h <;> cases h
      · split at h <;> cases h
    · cases h
  · cases h
  · split at h <;> cases h
  all_goals cases h

theorem givenValue_ne_map {tag? : Option Text} {given : List (Node × Node)}
    {entries : List (Value × Value)} : givenValue tag? given ≠ .ok (.map entries) := by
  intro h
  unfold givenValue at h
  split at h
  · split at h
    · cases h
    · exact scalarValue_ne_map h
  · cases h

theorem ofEntries_of_valueOf {n : Node} {entries : List (Value × Value)}
    (h : valueOf n = .ok (.map entries)) : ∃ given, Value.map entries = .ofEntries given := by
  cases n with
  | scalar tag? text =>
      unfold valueOf at h
      split at h
      · cases h
      · exact absurd (Built.now_eq_ok.mp h) scalarValue_ne_map
  | sequence tag? items =>
      unfold valueOf at h
      split at h
      · cases hitems : valuesOf items <;> rw [hitems] at h <;> cases h
      · cases hitems : pairsOf items <;> rw [hitems] at h <;> cases h
      · cases h
      · cases h
  | mapping tag? given =>
      unfold valueOf at h
      split at h
      · cases hgiven : entriesOf given with
        | error met =>
            rw [hgiven] at h
            cases h
        | ok given =>
            rw [hgiven] at h
            exact ⟨given, (Except.ok.inj h).symm⟩
      · cases hgiven : entriesOf given <;> rw [hgiven] at h <;> cases h
      · cases h
      · exact absurd (Built.now_eq_ok.mp h) givenValue_ne_map

theorem ofEntries_of_read {s : Text} {entries : List (Value × Value)}
    (h : read s = .ok (.map entries)) : ∃ given, Value.map entries = .ofEntries given := by
  unfold read at h
  cases hnode : Node.ofText? s with
  | error e => simp [hnode, bind, Except.bind] at h
  | ok n? =>
      simp only [hnode, bind, Except.bind] at h
      split at h
      · next n =>
          cases hvalue : valueOf n with
          | error met =>
              rw [hvalue] at h
              cases h
          | ok v =>
              rw [hvalue] at h
              cases h
              exact ofEntries_of_valueOf hvalue
      · cases h

end Stencil.Yaml
