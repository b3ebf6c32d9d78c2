import Stencil.Proofs.Yaml.Node
import Stencil.Proofs.Text.Blank
import Stencil.Proofs.Text.Split
import Stencil.Yaml.Value

namespace Stencil.Yaml

/-! Scalars that look like values of a type and are none. -/

/-- The day exists, and so does the time of it with its offset if there is one. -/
def Timestamp.Exists (t : Timestamp) : Prop :=
  match t.clock? with
  | none => (⟨t.year, t.month, t.day⟩ : Date).isValid = true
  | some ((hour, minute, second, micro), offset) =>
      (⟨⟨t.year, t.month, t.day⟩, hour, minute, second, micro, offset⟩ : Moment).isValid = true

theorem Timestamp.toValue_eq_error_iff {t : Timestamp} {e : Fault} :
    t.toValue = .error e ↔ e = .outOfDomain ∧ ¬t.Exists := by
  have hvalue : ∀ (valid : Bool) (v : Value),
      (if valid then .ok v else .error .outOfDomain : Except Fault Value) = .error e ↔
        e = .outOfDomain ∧ ¬valid = true := by
    intro valid v
    cases valid <;> simp [eq_comm]
  obtain ⟨year, month, day, clock?, isPadded⟩ := t
  cases clock? with
  | none => exact hvalue _ _
  | some clock => exact hvalue _ _

/-- A scalar with the type of a boolean, a number or a timestamp that is no word for a truth value,
no number of that kind, not written as a timestamp or one of a moment that does not exist. -/
inductive Misfit (tag? : Option Text) (text : Text) : Fault → Prop
  | word (htype : typeOf? tag? text = some .bool) (h : Plain.truth? text = none) :
      Misfit tag? text .missingKey
  | int {e : Fault} (htype : typeOf? tag? text = some .int) (h : Plain.int text = .error e) :
      Misfit tag? text e
  | float {e : Fault} (htype : typeOf? tag? text = some .float)
      (h : Plain.float text = .error e) : Misfit tag? text e
  | form (htype : typeOf? tag? text = some .timestamp) (h : Timestamp.ofText? text = none) :
      Misfit tag? text .noSuchOperation
  | moment {t : Timestamp} (htype : typeOf? tag? text = some .timestamp)
      (htext : Timestamp.ofText? text = some t) (h : ¬t.Exists) : Misfit tag? text .outOfDomain

variable {tag? : Option Text} {text : Text} {e : Fault}

theorem Misfit.scalarValue_eq (h : Misfit tag? text e) : scalarValue tag? text = .error e := by
  unfold scalarValue
  cases h with
  | word htype h => simp [htype, h]
  | int htype h =>
      simp only [htype, h]
      rfl
  | float htype h =>
      simp only [htype, h]
      rfl
  | form htype h => simp [htype, h]
  | moment htype htext h =>
      simp only [htype, htext]
      exact Timestamp.toValue_eq_error_iff.mpr ⟨rfl, h⟩

theorem misfit_of_scalarValue (h : scalarValue tag? text = .error e) :
    (∃ fault, e = .document fault) ∨ Misfit tag? text e := by
  unfold scalarValue at h
  split at h
  · cases h
  · next htype =>
      split at h
      · cases h
      · next hword =>
          cases h
          exact .inr (.word htype hword)
  · next htype =>
      cases hint : Plain.int text with
      | ok i =>
          rw [hint] at h
          cases h
      | error e' =>
          rw [hint] at h
          cases h
          exact .inr (.int htype hint)
  · next htype =>
      cases hfloat : Plain.float text with
      | ok f =>
          rw [hfloat] at h
          cases h
      | error e' =>
          rw [hfloat] at h
          cases h
          exact .inr (.float htype hfloat)
  · next htype =>
      split at h
      · next t htext =>
          obtain ⟨rfl, hnone⟩ := Timestamp.toValue_eq_error_iff.mp h
          exact .inr (.moment htype htext hnone)
      · next hform =>
          cases h
          exact .inr (.form htype hform)
  · cases h
  · split at h
    · cases h
    · cases h
      exact .inl ⟨_, rfl⟩
  all_goals
    cases h
    exact .inl ⟨_, rfl⟩

/-! What misfits fail with. -/

def ScalarFault : Fault → Prop
  | .outOfDomain | .overflow | .badIndex | .missingKey | .noSuchOperation | .wrongKind => True
  | _ => False

def RangeFault (e : Fault) : Prop := e = .outOfDomain ∨ e = .overflow

namespace Plain

variable {s : Text} {P : Fault → Prop}

theorem failsIn_orDomain {a? : Option α} (h : P .outOfDomain) : FailsIn P (orDomain a?) := by
  cases a? with
  | none => exact failsIn_error h
  | some a => exact instFailsInOk a

theorem failsIn_sixtieths {digits : List Float} {weight : Nat} {sum : Float} (h : P .overflow) :
    FailsIn P (sixtieths digits weight sum) := by
  induction digits generalizing weight sum with
  | nil => exact instFailsInOk sum
  | cons digit digits ih =>
      rw [sixtieths]
      split
      · exact ih
      · exact failsIn_error h

theorem failsIn_int (hdomain : P .outOfDomain)
    (hempty : (splitSign (unscored s)).2 = [] → P .badIndex) : FailsIn P (int s) := by
  have hread : ∀ i? : Option Int, FailsIn P (orDomain i?) := fun _ => failsIn_orDomain hdomain
  unfold int
  dsimp only
  split
  · next hnil => exact FailsIn.bind (failsIn_error (hempty hnil)) fun _ _ => instFailsInPure _
  · infer_instance
  · infer_instance
  · infer_instance
  · infer_instance
  · infer_instance

theorem failsIn_float (hdomain : P .outOfDomain) (hoverflow : P .overflow)
    (hempty : unscored s = [] → P .badIndex) : FailsIn P (float s) := by
  have hread : ∀ f? : Option Float, FailsIn P (orDomain f?) := fun _ => failsIn_orDomain hdomain
  have hparts : ∀ fs? : Option (List Float), FailsIn P (orDomain fs?) :=
    fun _ => failsIn_orDomain hdomain
  have hsum : ∀ digits weight sum, FailsIn P (sixtieths digits weight sum) :=
    fun _ _ _ => failsIn_sixtieths hoverflow
  unfold float
  dsimp only
  split
  · next hnil =>
      refine failsIn_error (hempty ?_)
      rwa [List.isEmpty_iff, List.map_eq_nil_iff] at hnil
  · infer_instance

/-! The texts that are numbers without a tag begin with a digit, or have a point. -/

theorem exists_digit_of_isScored {lead : Char → Bool} (h : isScored lead s = true) :
    ∃ c rest, s = c :: rest ∧ lead c = true := by
  unfold isScored at h
  split at h
  · next c rest => exact ⟨c, rest, rfl, (Bool.and_eq_true_iff.mp h).1⟩
  · cases h

theorem exists_digit_of_isSexagesimal {lead : Char → Bool} (h : isSexagesimal lead s = true) :
    ∃ c rest, s = c :: rest ∧ lead c = true := by
  unfold isSexagesimal at h
  split at h
  · next first more hparts =>
      simp only [Bool.and_eq_true] at h
      obtain ⟨c, rest, rfl, hc⟩ := exists_digit_of_isScored h.1.1
      have hjoin : Text.join [':'] (s.splitAt ':') = s := Text.join_splitAt s
      rw [Text.splitAt, hparts] at hjoin
      cases more with
      | nil => exact ⟨c, rest, hjoin.symm, hc⟩
      | cons next more =>
          rw [Text.join, List.append_assoc, List.cons_append] at hjoin
          exact ⟨c, _, hjoin.symm, hc⟩
  · cases h

theorem exists_digit_of_isInt (h : isInt s = true) :
    ∃ c rest, unsigned s = c :: rest ∧ c ≠ '_' := by
  have hnonZero : ∀ c, isNonZero c = true → c ≠ '_' := fun c hc =>
    Text.ne_of_holds hc (by decide)
  unfold isInt at h
  split at h
  · next hs => exact ⟨_, _, hs, by decide⟩
  · next hs => exact ⟨_, _, hs, by decide⟩
  · next hs => exact ⟨_, _, hs, by decide⟩
  · next hs => exact ⟨_, _, hs, by decide⟩
  · rcases Bool.or_eq_true_iff.mp h with h | h
    · obtain ⟨c, rest, hs, hc⟩ := exists_digit_of_isScored h
      exact ⟨c, rest, hs, hnonZero c hc⟩
    · obtain ⟨c, rest, hs, hc⟩ := exists_digit_of_isSexagesimal h
      exact ⟨c, rest, hs, hnonZero c hc⟩

theorem splitSign_unscored_ne_nil (h : isInt s = true) : (splitSign (unscored s)).2 ≠ [] := by
  obtain ⟨c, rest, hs, hc⟩ := exists_digit_of_isInt h
  have hkept : unscored (c :: rest) = c :: unscored rest := by simp [unscored, hc]
  unfold unsigned at hs
  split at hs
  · have hminus : unscored ('-' :: c :: rest) = '-' :: unscored (c :: rest) := rfl
    rw [hs, hminus, hkept]
    exact List.cons_ne_nil _ _
  · have hplus : unscored ('+' :: c :: rest) = '+' :: unscored (c :: rest) := rfl
    rw [hs, hplus, hkept]
    exact List.cons_ne_nil _ _
  · next hminus hplus =>
      rw [hs, hkept]
      unfold splitSign
      split
      · next heq =>
          cases heq
          exact absurd hs (hminus rest)
      · next heq =>
          cases heq
          exact absurd hs (hplus rest)
      · exact List.cons_ne_nil _ _

theorem unsigned_suffix (s : Text) : unsigned s <:+ s := by
  unfold unsigned
  split
  · exact List.suffix_cons _ _
  · exact List.suffix_cons _ _
  · exact List.suffix_rfl

theorem point_mem_of_isFloat (h : isFloat s = true) : '.' ∈ s := by
  unfold isFloat at h
  dsimp only at h
  split at h
  · exact List.mem_cons_self
  · split at h
    · next hpoint =>
        have hmem : '.' ∈ (unsigned s).dropWhile (· != '.') := by
          rw [hpoint]
          exact List.mem_cons_self
        exact (unsigned_suffix s).subset ((List.dropWhile_suffix _).subset hmem)
    · cases h

theorem unscored_ne_nil (h : isFloat s = true) : unscored s ≠ [] := by
  refine List.ne_nil_of_mem (List.mem_filter.mpr ⟨point_mem_of_isFloat h, ?_⟩)
  decide

/-! What the type of a text without a tag says of it. -/

def Looks (s : Text) : ScalarType → Prop
  | .bool => isBool s = true
  | .int => isInt s = true
  | .float => isFloat s = true
  | .timestamp => (Timestamp.ofText? s).any (·.isImplicit) = true
  | _ => True

theorem looks_typeOf (s : Text) : Looks s (typeOf s) := by
  unfold typeOf
  repeat' split
  all_goals first | assumption | trivial

theorem truth?_ne_none (h : isBool s = true) : truth? s ≠ none := by
  unfold isBool at h
  exact Option.isSome_iff_ne_none.mp (Bool.and_eq_true_iff.mp h).1

theorem ofText?_ne_none (h : (Timestamp.ofText? s).any (·.isImplicit) = true) :
    Timestamp.ofText? s ≠ none := by
  intro hnone
  rw [hnone] at h
  cases h

end Plain

theorem Misfit.fault (h : Misfit tag? text e) : ScalarFault e := by
  cases h with
  | word => trivial
  | int htype h => exact (Plain.failsIn_int trivial fun _ => trivial).of_eq_error e h
  | float htype h => exact (Plain.failsIn_float trivial trivial fun _ => trivial).of_eq_error e h
  | form => trivial
  | moment => trivial

/-- Without a tag only numbers, days and times are misfits, which are out of range. -/
theorem Misfit.fault_untagged (h : Misfit none text e) : RangeFault e := by
  have hlooks : ∀ type, typeOf? none text = some type → Plain.Looks text type :=
    fun _ htype => Option.some.inj htype ▸ Plain.looks_typeOf text
  cases h with
  | word htype h => exact absurd h (Plain.truth?_ne_none (hlooks _ htype))
  | int htype h =>
      exact (Plain.failsIn_int (.inl rfl) fun hnil =>
        absurd hnil (Plain.splitSign_unscored_ne_nil (hlooks _ htype))).of_eq_error e h
  | float htype h =>
      exact (Plain.failsIn_float (.inl rfl) (.inr rfl) fun hnil =>
        absurd hnil (Plain.unscored_ne_nil (hlooks _ htype))).of_eq_error e h
  | form htype h => exact absurd h (Plain.ofText?_ne_none (hlooks _ htype))
  | moment => exact .inl rfl

/-! Misfits anywhere in a tree. -/

namespace Node

/-- A scalar that is a misfit, or a mapping that stands for one as it has the tag of a scalar. No
mapping is a timestamp. -/
inductive Misfit : Node → Fault → Prop
  | scalar {tag? : Option Text} {text : Text} {e : Fault} (h : Yaml.Misfit tag? text e) :
      Misfit (.scalar tag? text) e
  | given {tag text : Text} {entries : List (Node × Node)} {e : Fault}
      (htag : taggedType? collectionTypes tag = none) (hgiven : givenText? entries = some text)
      (htype : typeOf? (some tag) text ≠ some .timestamp) (h : Yaml.Misfit (some tag) text e) :
      Misfit (.mapping (some tag) entries) e
  | timestamp {tag text : Text} {entries : List (Node × Node)}
      (htag : taggedType? collectionTypes tag = none) (hgiven : givenText? entries = some text)
      (htype : typeOf? (some tag) text = some .timestamp) :
      Misfit (.mapping (some tag) entries) .wrongKind

/-- A node stands somewhere in the tree of another one: it is that node, or it stands in an item, a
key or a value of it. -/
inductive In (n : Node) : Node → Prop
  | here : In n n
  | item {kind : Option Text} {items : List Node} {item : Node} (hitem : item ∈ items)
      (h : In n item) : In n (.sequence kind items)
  | key {kind : Option Text} {entries : List (Node × Node)} {k v : Node} (he : (k, v) ∈ entries)
      (h : In n k) : In n (.mapping kind entries)
  | value {kind : Option Text} {entries : List (Node × Node)} {k v : Node} (he : (k, v) ∈ entries)
      (h : In n v) : In n (.mapping kind entries)

/-- What building a value of a tree can fail with: the tree has no value, or a node in it is a
misfit. -/
def Blames (root : Node) (e : Fault) : Prop :=
  (∃ fault, e = .document fault) ∨ ∃ n : Node, n.In root ∧ n.Misfit e

instance (root : Node) : Unreadable root.Blames := ⟨fun fault => .inl ⟨fault, rfl⟩⟩

instance instFailsInBadConstruction (root : Node) :
    FailsIn root.Blames (.error badConstruction : Except Fault α) :=
  instFailsInDocument .construction

def PartOf (root n : Node) : Prop := ∀ m : Node, m.In n → m.In root

variable {root : Node} {kind : Option Text}

theorem PartOf.item {items : List Node} (h : root.PartOf (.sequence kind items)) :
    ∀ n ∈ items, root.PartOf n := fun _ hn _ hin => h _ (.item hn hin)

theorem PartOf.entry {entries : List (Node × Node)} (h : root.PartOf (.mapping kind entries)) :
    ∀ entry ∈ entries, root.PartOf entry.1 ∧ root.PartOf entry.2 := fun _ he =>
  ⟨fun _ hin => h _ (.key he hin), fun _ hin => h _ (.value he hin)⟩

end Node

/-! What the parts of a value fail with, in whatever round. -/

namespace Built

variable {α β γ : Type} {P : Fault → Prop}

class MeetsIn (P : Fault → Prop) (x : Built α) : Prop where
  fault : ∀ met, x = .error met → P met.fault

instance (a : α) : MeetsIn P (.ok a : Built α) := ⟨nofun⟩

instance {x : Except Fault α} [hx : FailsIn P x] : MeetsIn P (now x) where
  fault := by
    intro met h
    cases x with
    | error e =>
        cases h
        exact hx.of_eq_error e rfl
    | ok a => cases h

instance {x : Built α} [hx : MeetsIn P x] : MeetsIn P (later x) where
  fault := by
    intro met h
    cases x with
    | error met =>
        cases h
        exact hx.fault met rfl
    | ok a => cases h

instance {x : Built α} [hx : MeetsIn P x] (f : α → β) : MeetsIn P (f <$> x) where
  fault := by
    intro met h
    cases x with
    | error met =>
        cases h
        exact hx.fault met rfl
    | ok a => cases h

instance {x : Built α} {y : Built β} [hx : MeetsIn P x] [hy : MeetsIn P y] (f : α → β → γ) :
    MeetsIn P (both f x y) where
  fault := by
    intro met h
    cases x with
    | error met =>
        have hmet := hx.fault met rfl
        cases y with
        | error other =>
            cases h
            split
            · exact hy.fault other rfl
            · exact hmet
        | ok b =>
            cases h
            exact hmet
    | ok a =>
        cases y with
        | error met =>
            cases h
            exact hy.fault met rfl
        | ok b => cases h

end Built

section

open Built

variable {root : Node}

theorem failsIn_givenValue {tag : Text} {entries : List (Node × Node)}
    (htag : taggedType? collectionTypes tag = none)
    (h : (Node.mapping (some tag) entries).In root) :
    FailsIn root.Blames (givenValue (some tag) entries) := by
  unfold givenValue
  split
  · next text hgiven =>
      split
      · next htype => exact failsIn_error (.inr ⟨_, h, .timestamp htag hgiven htype⟩)
      · next htype =>
          exact ⟨fun e he => (misfit_of_scalarValue he).imp_right fun hmisfit =>
            ⟨_, h, .given htag hgiven htype hmisfit⟩⟩
  · infer_instance

theorem failsIn_nodeValue {n : Node} (hcollection : n.collection? = none) (h : n.In root) :
    FailsIn root.Blames n.scalarValue := by
  cases n with
  | scalar tag? text =>
      exact ⟨fun e he => (misfit_of_scalarValue he).imp_right fun hmisfit =>
        ⟨_, h, .scalar hmisfit⟩⟩
  | sequence kind items => exact Node.instFailsInBadConstruction root
  | mapping tag? entries =>
      cases tag? with
      | none => cases hcollection
      | some tag => exact failsIn_givenValue hcollection h

theorem failsIn_textValue (n : Node) :
    FailsIn root.Blames (n.withTag (coreTag "str")).scalarValue := by
  have htype : ∀ text, typeOf? (some (coreTag "str")) text = some .text := fun _ => rfl
  have hvalue : ∀ text, scalarValue (some (coreTag "str")) text = .ok (.text text) := fun _ => rfl
  cases n with
  | scalar tag? text =>
      change FailsIn root.Blames (scalarValue (some (coreTag "str")) text)
      rw [hvalue]
      infer_instance
  | sequence kind items => exact Node.instFailsInBadConstruction root
  | mapping kind entries =>
      change FailsIn root.Blames (givenValue (some (coreTag "str")) entries)
      unfold givenValue
      split
      · rw [htype, if_neg (by decide), hvalue]
        infer_instance
      · infer_instance

theorem failsIn_keyValue {k : Node} (h : root.PartOf k) : FailsIn root.Blames (keyValue k) := by
  unfold keyValue
  by_cases hkey : keyType k = .defaultValue
  · have htext : FailsIn root.Blames (k.withTag (coreTag "str")).scalarValue := failsIn_textValue k
    rw [if_pos hkey]
    dsimp only
    split <;> infer_instance
  · rw [if_neg hkey]
    dsimp only
    split
    · infer_instance
    · next hcollection => exact failsIn_nodeValue hcollection (h k .here)

mutual

theorem meetsIn_valueOf : (n : Node) → root.PartOf n → MeetsIn root.Blames (valueOf n)
  | .scalar tag? text, h => by
      rw [valueOf]
      split
      · infer_instance
      · next hcollection =>
          have hvalue : FailsIn root.Blames (scalarValue tag? text) :=
            failsIn_nodeValue hcollection (h _ .here)
          infer_instance
  | .sequence kind items, h => by
      have hvalues := meetsIn_valuesOf items h.item
      have hpairs := meetsIn_pairsOf items h.item
      rw [valueOf]
      split <;> infer_instance
  | .mapping kind entries, h => by
      have hmerged := meetsIn_mergedOf entries h.entry
      have hown := meetsIn_ownOf entries h.entry
      rw [valueOf, entriesOf]
      split
      · infer_instance
      · infer_instance
      · infer_instance
      · next hcollection =>
          have hvalue : FailsIn root.Blames (givenValue kind entries) :=
            failsIn_nodeValue hcollection (h _ .here)
          infer_instance

theorem meetsIn_valuesOf : (items : List Node) → (∀ n ∈ items, root.PartOf n) →
    MeetsIn root.Blames (valuesOf items)
  | [], _ => by
      rw [valuesOf]
      infer_instance
  | n :: items, h => by
      obtain ⟨hn, hitems⟩ := List.forall_mem_cons.mp h
      have hvalue := meetsIn_valueOf n hn
      have hvalues := meetsIn_valuesOf items hitems
      rw [valuesOf]
      infer_instance

theorem meetsIn_pairsOf : (items : List Node) → (∀ n ∈ items, root.PartOf n) →
    MeetsIn root.Blames (pairsOf items)
  | [], _ => by
      rw [pairsOf]
      infer_instance
  | .mapping kind [(k, v)] :: items, h => by
      obtain ⟨hn, hitems⟩ := List.forall_mem_cons.mp h
      obtain ⟨hk, hv⟩ := hn.entry (k, v) List.mem_cons_self
      have hkey := meetsIn_valueOf k hk
      have hvalue := meetsIn_valueOf v hv
      have hpairs := meetsIn_pairsOf items hitems
      rw [pairsOf]
      infer_instance
  | .mapping kind [] :: items, _ => by
      rw [pairsOf]
      · infer_instance
      · nofun
  | .mapping kind (entry :: entry' :: entries) :: items, _ => by
      rw [pairsOf]
      · infer_instance
      · nofun
  | .scalar tag? text :: items, _ => by
      rw [pairsOf]
      · infer_instance
      · nofun
  | .sequence kind inner :: items, _ => by
      rw [pairsOf]
      · infer_instance
      · nofun

theorem meetsIn_mergedOf : (entries : List (Node × Node)) →
    (∀ entry ∈ entries, root.PartOf entry.1 ∧ root.PartOf entry.2) →
    MeetsIn root.Blames (mergedOf entries)
  | [], _ => by
      rw [mergedOf]
      infer_instance
  | (k, v) :: entries, h => by
      obtain ⟨hentry, hentries⟩ := List.forall_mem_cons.mp h
      have hsource := meetsIn_sourceOf v hentry.2
      have hmerged := meetsIn_mergedOf entries hentries
      rw [mergedOf]
      split <;> infer_instance

theorem meetsIn_sourceOf : (n : Node) → root.PartOf n → MeetsIn root.Blames (sourceOf n)
  | .scalar tag? text, _ => by
      rw [sourceOf]
      infer_instance
  | .sequence kind items, h => by
      rw [sourceOf]
      exact meetsIn_sourcesOf items h.item
  | .mapping kind entries, h => by
      have hmerged := meetsIn_mergedOf entries h.entry
      have hown := meetsIn_ownOf entries h.entry
      rw [sourceOf]
      infer_instance

theorem meetsIn_sourcesOf : (items : List Node) → (∀ n ∈ items, root.PartOf n) →
    MeetsIn root.Blames (sourcesOf items)
  | [], _ => by
      rw [sourcesOf]
      infer_instance
  | .mapping kind entries :: items, h => by
      obtain ⟨hn, hitems⟩ := List.forall_mem_cons.mp h
      have hmerged := meetsIn_mergedOf entries hn.entry
      have hown := meetsIn_ownOf entries hn.entry
      have hsources := meetsIn_sourcesOf items hitems
      rw [sourcesOf]
      infer_instance
  | .scalar tag? text :: items, _ => by
      rw [sourcesOf]
      · infer_instance
      · nofun
  | .sequence kind inner :: items, _ => by
      rw [sourcesOf]
      · infer_instance
      · nofun

theorem meetsIn_ownOf : (entries : List (Node × Node)) →
    (∀ entry ∈ entries, root.PartOf entry.1 ∧ root.PartOf entry.2) →
    MeetsIn root.Blames (ownOf entries)
  | [], _ => by
      rw [ownOf]
      infer_instance
  | (k, v) :: entries, h => by
      obtain ⟨hentry, hentries⟩ := List.forall_mem_cons.mp h
      have hkey := failsIn_keyValue hentry.1
      have hvalue := meetsIn_valueOf v hentry.2
      have hown := meetsIn_ownOf entries hentries
      rw [ownOf]
      split <;> infer_instance

end

end

/-! Where a value is built nothing in its tree is a misfit. -/

namespace Node

variable {n : Node} {kind : Option Text} {items : List Node} {entries : List (Node × Node)}

def Sound (root : Node) : Prop := ∀ (n : Node) (e : Fault), n.In root → ¬n.Misfit e

/-- All of the tree counts: no sequence or mapping has the tag of a scalar, of which one entry would
count at most. -/
def Whole (root : Node) : Prop :=
  ∀ n : Node, n.In root → n.collection? = none → ∃ tag? text, n = .scalar tag? text

theorem Whole.item (h : (Node.sequence kind items).Whole) : ∀ n ∈ items, n.Whole :=
  fun _ hn _ hin => h _ (.item hn hin)

theorem Whole.entry (h : (Node.mapping kind entries).Whole) :
    ∀ entry ∈ entries, entry.1.Whole ∧ entry.2.Whole := fun _ he =>
  ⟨fun _ hin => h _ (.key he hin), fun _ hin => h _ (.value he hin)⟩

theorem Whole.mapping (h : (Node.mapping kind entries).Whole) :
    (Node.mapping kind entries).collection? ≠ none := by
  intro hnone
  obtain ⟨tag?, text, heq⟩ := h _ .here hnone
  cases heq

theorem sound_scalar (h : ∀ e, ¬Yaml.Misfit tag? text e) : (Node.scalar tag? text).Sound := by
  intro n e hin hmisfit
  cases hin
  cases hmisfit with
  | scalar hmisfit => exact h e hmisfit

theorem sound_sequence (h : ∀ n ∈ items, n.Sound) : (Node.sequence kind items).Sound := by
  intro n e hin hmisfit
  cases hin with
  | here => cases hmisfit
  | item hitem hin => exact h _ hitem n e hin hmisfit

theorem sound_mapping (hwhole : (Node.mapping kind entries).Whole)
    (h : ∀ entry ∈ entries, entry.1.Sound ∧ entry.2.Sound) : (Node.mapping kind entries).Sound := by
  intro n e hin hmisfit
  cases hin with
  | here =>
      cases hmisfit with
      | given htag => exact hwhole.mapping htag
      | timestamp htag => exact hwhole.mapping htag
  | key he hin => exact (h _ he).1 n e hin hmisfit
  | value he hin => exact (h _ he).2 n e hin hmisfit

end Node

theorem collectionType?_of_scalarType {tag : Text} {type : ScalarType}
    (h : taggedType? scalarTypes tag = some type) : taggedType? collectionTypes tag = none := by
  obtain ⟨⟨name, _⟩, hfind, -⟩ := Option.map_eq_some_iff.mp h
  have htag : coreTag name = tag := by simpa using List.find?_some hfind
  have hmem := List.mem_of_find?_eq_some hfind
  simp only [scalarTypes, List.mem_cons, Prod.mk.injEq, List.not_mem_nil, or_false] at hmem
  rcases hmem with ⟨rfl, -⟩ | ⟨rfl, -⟩ | ⟨rfl, -⟩ | ⟨rfl, -⟩ | ⟨rfl, -⟩ | ⟨rfl, -⟩ | ⟨rfl, -⟩ |
    ⟨rfl, -⟩ | ⟨rfl, -⟩ <;> exact htag ▸ rfl

/-- The keys that are no entries are scalars of a type of their own. -/
theorem sound_of_keyType {k : Node} (hwhole : k.Whole)
    (h : keyType k = .merge ∨ keyType k = .defaultValue) : k.Sound := by
  have hcollection : ∀ tag? : Option Text,
      (tag?.bind (taggedType? scalarTypes)).getD .text = .merge ∨
        (tag?.bind (taggedType? scalarTypes)).getD .text = .defaultValue →
      ∃ tag, tag? = some tag ∧ taggedType? collectionTypes tag = none := by
    intro tag? h
    cases tag? with
    | none => simp at h
    | some tag =>
        cases htype : taggedType? scalarTypes tag with
        | none => simp [htype] at h
        | some type => exact ⟨tag, rfl, collectionType?_of_scalarType htype⟩
  cases k with
  | scalar tag? text =>
      refine Node.sound_scalar fun e hmisfit => ?_
      unfold keyType at h
      cases hmisfit <;> simp_all
  | sequence tag? items =>
      obtain ⟨tag, rfl, htag⟩ := hcollection tag? h
      obtain ⟨_, _, heq⟩ := hwhole _ .here htag
      cases heq
  | mapping tag? entries =>
      obtain ⟨tag, rfl, htag⟩ := hcollection tag? h
      exact absurd htag hwhole.mapping

theorem sound_of_keyValue {k : Node} {v : Value} (hwhole : k.Whole) (h : keyValue k = .ok v) :
    k.Sound := by
  by_cases hkey : keyType k = .defaultValue
  · exact sound_of_keyType hwhole (.inr hkey)
  · unfold keyValue at h
    rw [if_neg hkey] at h
    dsimp only at h
    split at h
    · cases h
    · next hnone =>
        obtain ⟨tag?, text, rfl⟩ := hwhole _ .here hnone
        refine Node.sound_scalar fun e hmisfit => ?_
        have hvalue : scalarValue tag? text = .ok v := h
        rw [hmisfit.scalarValue_eq] at hvalue
        cases hvalue

mutual

theorem sound_of_valueOf : (n : Node) → n.Whole → {v : Value} → valueOf n = .ok v → n.Sound
  | .scalar tag? text, _, v, h => by
      refine Node.sound_scalar fun e hmisfit => ?_
      rw [valueOf] at h
      split at h
      · cases h
      · rw [hmisfit.scalarValue_eq] at h
        cases h
  | .sequence kind items, hwhole, v, h => by
      rw [valueOf] at h
      split at h
      · obtain ⟨values, hvalues, -⟩ := map_eq_ok.mp (Built.later_eq_ok.mp h)
        exact Node.sound_sequence (sound_of_valuesOf items hwhole.item hvalues)
      · obtain ⟨values, hvalues, -⟩ := map_eq_ok.mp (Built.later_eq_ok.mp h)
        exact Node.sound_sequence (sound_of_pairsOf items hwhole.item hvalues)
      · cases h
      · cases h
  | .mapping kind entries, hwhole, v, h => by
      have hentries :
          ∀ given, entriesOf entries = .ok given → (Node.mapping kind entries).Sound := by
        intro given hgiven
        rw [entriesOf] at hgiven
        obtain ⟨_, _, -, hgiven, -⟩ := Built.both_eq_ok.mp hgiven
        obtain ⟨merged, own, hmerged, hown, -⟩ := Built.both_eq_ok.mp hgiven
        exact Node.sound_mapping hwhole (sound_of_entries entries hwhole.entry hmerged hown)
      rw [valueOf] at h
      split at h
      · obtain ⟨given, hgiven, -⟩ := map_eq_ok.mp (Built.later_eq_ok.mp h)
        exact hentries given hgiven
      · obtain ⟨given, hgiven, -⟩ := map_eq_ok.mp (Built.later_eq_ok.mp h)
        exact hentries given hgiven
      · cases h
      · next hcollection => exact absurd hcollection hwhole.mapping

theorem sound_of_valuesOf : (items : List Node) → (∀ n ∈ items, n.Whole) →
    {values : List Value} → valuesOf items = .ok values → ∀ n ∈ items, n.Sound
  | [], _, _, _ => List.forall_mem_nil _
  | n :: items, hwhole, values, h => by
      obtain ⟨hn, hitems⟩ := List.forall_mem_cons.mp hwhole
      rw [valuesOf] at h
      obtain ⟨value, more, hvalue, hmore, -⟩ := Built.both_eq_ok.mp h
      exact List.forall_mem_cons.mpr
        ⟨sound_of_valueOf n hn hvalue, sound_of_valuesOf items hitems hmore⟩

theorem sound_of_pairsOf : (items : List Node) → (∀ n ∈ items, n.Whole) →
    {values : List Value} → pairsOf items = .ok values → ∀ n ∈ items, n.Sound
  | [], _, _, _ => List.forall_mem_nil _
  | .mapping kind [(k, v)] :: items, hwhole, values, h => by
      obtain ⟨hn, hitems⟩ := List.forall_mem_cons.mp hwhole
      obtain ⟨hk, hv⟩ := hn.entry (k, v) List.mem_cons_self
      rw [pairsOf] at h
      obtain ⟨pair, more, hpair, hmore, -⟩ := Built.both_eq_ok.mp h
      obtain ⟨key, value, hkey, hvalue, -⟩ := Built.both_eq_ok.mp hpair
      have hentry : ∀ entry ∈ [(k, v)], entry.1.Sound ∧ entry.2.Sound :=
        List.forall_mem_singleton.mpr ⟨sound_of_valueOf k hk hkey, sound_of_valueOf v hv hvalue⟩
      exact List.forall_mem_cons.mpr
        ⟨Node.sound_mapping hn hentry, sound_of_pairsOf items hitems hmore⟩
  | .mapping kind [] :: items, _, _, h => by
      rw [pairsOf] at h
      · cases h
      · nofun
  | .mapping kind (entry :: entry' :: entries) :: items, _, _, h => by
      rw [pairsOf] at h
      · cases h
      · nofun
  | .scalar tag? text :: items, _, _, h => by
      rw [pairsOf] at h
      · cases h
      · nofun
  | .sequence kind inner :: items, _, _, h => by
      rw [pairsOf] at h
      · cases h
      · nofun

theorem sound_of_entries : (entries : List (Node × Node)) →
    (∀ entry ∈ entries, entry.1.Whole ∧ entry.2.Whole) → {merged own : List (Value × Value)} →
    mergedOf entries = .ok merged → ownOf entries = .ok own →
    ∀ entry ∈ entries, entry.1.Sound ∧ entry.2.Sound
  | [], _, _, _, _, _ => List.forall_mem_nil _
  | (k, v) :: entries, hwhole, merged, own, hmerged, hown => by
      obtain ⟨⟨hk, hv⟩, hentries⟩ := List.forall_mem_cons.mp hwhole
      rw [mergedOf] at hmerged
      rw [ownOf] at hown
      refine List.forall_mem_cons.mpr ?_
      split at hown
      · next hkey =>
          rw [if_pos hkey] at hmerged
          obtain ⟨source, more, hsource, hmore, -⟩ := Built.both_eq_ok.mp hmerged
          exact ⟨⟨sound_of_keyType hk (.inl hkey), sound_of_sourceOf v hv hsource⟩,
            sound_of_entries entries hentries hmore hown⟩
      · next hkey =>
          rw [if_neg hkey] at hmerged
          obtain ⟨entry, more, hentry, hmore, -⟩ := Built.both_eq_ok.mp hown
          obtain ⟨key, value, hkey, hvalue, -⟩ := Built.both_eq_ok.mp hentry
          exact ⟨⟨sound_of_keyValue hk (Built.now_eq_ok.mp hkey), sound_of_valueOf v hv hvalue⟩,
            sound_of_entries entries hentries hmerged hmore⟩

theorem sound_of_sourceOf : (n : Node) → n.Whole → {given : List (Value × Value)} →
    sourceOf n = .ok given → n.Sound
  | .scalar tag? text, _, _, h => by
      rw [sourceOf] at h
      cases h
  | .sequence kind items, hwhole, given, h => by
      rw [sourceOf] at h
      exact Node.sound_sequence (sound_of_sourcesOf items hwhole.item h)
  | .mapping kind entries, hwhole, given, h => by
      rw [sourceOf] at h
      obtain ⟨merged, own, hmerged, hown, -⟩ := Built.both_eq_ok.mp h
      exact Node.sound_mapping hwhole (sound_of_entries entries hwhole.entry hmerged hown)

theorem sound_of_sourcesOf : (items : List Node) → (∀ n ∈ items, n.Whole) →
    {given : List (Value × Value)} → sourcesOf items = .ok given → ∀ n ∈ items, n.Sound
  | [], _, _, _ => List.forall_mem_nil _
  | .mapping kind entries :: items, hwhole, given, h => by
      obtain ⟨hn, hitems⟩ := List.forall_mem_cons.mp hwhole
      rw [sourcesOf] at h
      obtain ⟨more, mine, hmore, hmine, -⟩ := Built.both_eq_ok.mp h
      obtain ⟨merged, own, hmerged, hown, -⟩ := Built.both_eq_ok.mp hmine
      exact List.forall_mem_cons.mpr
        ⟨Node.sound_mapping hn (sound_of_entries entries hn.entry hmerged hown),
          sound_of_sourcesOf items hitems hmore⟩
  | .scalar tag? text :: items, _, _, h => by
      rw [sourcesOf] at h
      · cases h
      · nofun
  | .sequence kind inner :: items, _, _, h => by
      rw [sourcesOf] at h
      · cases h
      · nofun

end

/-! Whole documents. -/

/-- There is no value for something in the text of a document: for its characters, or for a node
anywhere in its tree. -/
inductive Impossible (s : Text) : Fault → Prop
  | characters {e : Fault} (h : Beyond s e) : Impossible s e
  | node {root n : Node} {e : Fault} (htree : Node.ofText? s = .ok (some root)) (hin : n.In root)
      (h : n.Misfit e) : Impossible s e

theorem Node.Misfit.fault {n : Node} (h : n.Misfit e) : ScalarFault e := by
  cases h with
  | scalar h => exact h.fault
  | given htag hgiven htype h => exact h.fault
  | timestamp => trivial

theorem Impossible.fault {s : Text} (h : Impossible s e) : ScalarFault e := by
  cases h with
  | characters h => cases h <;> trivial
  | node htree hin h => exact h.fault

theorem fault_of_read {s : Text} (h : read s = .error e) :
    (∃ fault, e = .document fault) ∨ Impossible s e := by
  unfold read at h
  cases htree : Node.ofText? s with
  | error e' =>
      rw [htree] at h
      cases h
      exact (Node.tokenFault_of_ofText? htree).imp_right .characters
  | ok root? =>
      rw [htree, ok_bind] at h
      cases root? with
      | none => cases h
      | some root =>
          have hmeets := meetsIn_valueOf root (fun _ => id)
          cases hvalue : valueOf root with
          | ok v =>
              dsimp only at h
              rw [hvalue] at h
              cases h
          | error met =>
              dsimp only at h
              rw [hvalue] at h
              cases h
              refine (hmeets.fault met hvalue).imp_right ?_
              rintro ⟨n, hin, hmisfit⟩
              exact .node htree hin hmisfit

/-- No tag stands in a tree: its scalars are quoted texts, or their own text gives their type. -/
structure Node.Untagged (root : Node) : Prop where
  scalars : ∀ tag? text, (Node.scalar tag? text).In root →
    tag? = none ∨ tag? = some (coreTag "str")
  mappings : ∀ tag entries, ¬(Node.mapping (some tag) entries).In root

theorem not_misfit_str : ¬Misfit (some (coreTag "str")) text e := by
  have htype : typeOf? (some (coreTag "str")) text = some .text := rfl
  intro h
  cases h <;> simp_all

theorem Impossible.fault_untagged {s : Text} (h : Impossible s e)
    (hplain : ∀ n, Node.ofText? s = .ok (some n) → n.Untagged) : RangeFault e := by
  cases h with
  | characters h =>
      cases h with
      | escape => exact .inl rfl
      | wideEscape => exact .inr rfl
      | version => exact .inl rfl
  | node htree hin h =>
      have huntagged := hplain _ htree
      cases h with
      | scalar h =>
          rcases huntagged.scalars _ _ hin with rfl | rfl
          · exact h.fault_untagged
          · exact absurd h not_misfit_str
      | given => exact absurd hin (huntagged.mappings _ _)
      | timestamp => exact absurd hin (huntagged.mappings _ _)

theorem sound_of_read {s : Text} {v : Value} {root : Node} (h : read s = .ok v)
    (htree : Node.ofText? s = .ok (some root)) (hwhole : root.Whole) : root.Sound := by
  rw [read, htree, ok_bind] at h
  cases hvalue : valueOf root with
  | error met =>
      dsimp only at h
      rw [hvalue] at h
      cases h
  | ok v => exact sound_of_valueOf root hwhole hvalue

theorem read_misfit_entry {s key : Text}
    (h : Node.ofText? s = .ok (some (.mapping none [(.scalar none key, .scalar none text)])))
    (hkey : Plain.typeOf key = .text) (hmisfit : Misfit none text e) : read s = .error e := by
  have hvalue : valueOf (.scalar none text) = .error ⟨0, e⟩ := by
    rw [valueOf, hmisfit.scalarValue_eq]
    rfl
  rw [read, h, ok_bind]
  dsimp only
  rw [valueOf_entry hkey, hvalue]
  rfl

end Stencil.Yaml
