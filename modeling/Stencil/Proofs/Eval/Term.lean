import Stencil.Proofs.Text.Numeral
import Stencil.Proofs.Token.Separator
import Stencil.Template.Render

namespace Stencil.Template

open Stencil.Text

/-! Expressions as trees: how they are written. -/

structure Blanks where
  text : Text
  isBlank : ∀ c ∈ text, isBlank c = true

structure Quotation where
  quote : Char
  content : Text
  isQuote : quote = '"' ∨ quote = '\''
  not_mem : quote ∉ content

/-- A letter or an underscore, word characters, and perhaps a question mark. -/
structure CallName where
  head : Char
  tail : Text
  marked : Bool
  isNameStart : isNameStart head = true
  isWord : ∀ c ∈ tail, isWord c = true

structure Segment where
  text : Text
  ne_nil : text ≠ []
  spelled : ∀ c ∈ text, isWord c = true ∨ c = '$' ∨ c = '?'

def Segment.Named (s : Segment) : Prop :=
  s.text ≠ "true".toList ∧ s.text ≠ "false".toList ∧ ∃ c ∈ s.text, isDecimal c = false

/-- The three kinds of paths: `.`, `.a.b` and `root.a.b`. -/
inductive Dotted
  | here
  | below (first : Segment) (rest : List Segment)
  | rooted (root : Segment) (steps : List Segment) (named : steps = [] → root.Named)

mutual

inductive Term
  | quoted (q : Quotation)
  | integer (n : Numeral)
  | flag (b : Bool)
  | path (p : Dotted)
  | call (name : CallName) (args : Arguments)

inductive Arguments
  | none (inside : Blanks)
  | some (items : Items)

inductive Items
  | one (before : Blanks) (e : Term) (after : Blanks)
  | cons (before : Blanks) (e : Term) (after : Blanks) (rest : Items)

end

inductive FilterCall
  | plain (name : CallName)
  | call (name : CallName) (args : Arguments)

structure Piped where
  before : Blanks
  filter : FilterCall
  after : Blanks

namespace CallName

def text (n : CallName) : Text := n.head :: (n.tail ++ if n.marked then ['?'] else [])

end CallName

namespace Dotted

def dots (segments : List Segment) : Text := segments.flatMap fun s => '.' :: s.text

def print : Dotted → Text
  | here => ['.']
  | below first rest => dots (first :: rest)
  | rooted root steps _ => root.text ++ dots steps

end Dotted

mutual

def Term.print : Term → Text
  | .quoted q => q.quote :: (q.content ++ [q.quote])
  | .integer n => n.text
  | .flag b => if b then "true".toList else "false".toList
  | .path p => p.print
  | .call name args => name.text ++ '(' :: (args.print ++ [')'])

def Arguments.print : Arguments → Text
  | .none inside => inside.text
  | .some items => items.print

def Items.print : Items → Text
  | .one before e after => before.text ++ (e.print ++ after.text)
  | .cons before e after rest => before.text ++ (e.print ++ after.text) ++ ',' :: rest.print

end

def Items.texts : Items → List Text
  | .one _ e _ => [e.print]
  | .cons _ e _ rest => e.print :: rest.texts

def Arguments.texts : Arguments → List Text
  | .none _ => []
  | .some items => items.texts

namespace FilterCall

def print : FilterCall → Text
  | plain name => name.text
  | call name args => name.text ++ '(' :: (args.print ++ [')'])

end FilterCall

def pipeline (before : Blanks) (e : Term) (after : Blanks) (filters : List Piped) : Text :=
  before.text ++ (e.print ++ after.text) ++
    filters.flatMap fun f => '|' :: (f.before.text ++ (f.filter.print ++ f.after.text))

/-! Outside quotes and parentheses they are written in characters that no splitting heeds. -/

def Separates (sep : Char) : Prop := sep = ',' ∨ sep = '|'

/-- A character that is no blank, no separator, no quote and no parenthesis. -/
def Solid (c : Char) : Prop := isBlank c = false ∧ Loose c ∧ c ≠ ',' ∧ c ≠ '|'

instance (c : Char) : Decidable (Solid c) :=
  inferInstanceAs (Decidable (isBlank c = false ∧ Loose c ∧ c ≠ ',' ∧ c ≠ '|'))

theorem solid_of_holds {p : Char → Bool} {c : Char} (h : p c = true)
    (hblank : isBlank c = false) (hp : ∀ d ∈ ['"', '\'', '(', ')', ',', '|'], p d = false) :
    Solid c := by
  have hne : ∀ d ∈ ['"', '\'', '(', ')', ',', '|'], c ≠ d := fun d hd => ne_of_holds h (hp d hd)
  simp only [List.forall_mem_cons] at hne
  obtain ⟨hdouble, hsingle, hopen, hclose, hcomma, hbar, -⟩ := hne
  exact ⟨hblank, ⟨hdouble, hsingle, hopen, hclose⟩, hcomma, hbar⟩

theorem solid_of_isWord {c : Char} (h : isWord c = true) : Solid c :=
  solid_of_holds h (isBlank_eq_false_of_isWord h) (by decide)

theorem solid_of_isDecimal {c : Char} (h : isDecimal c = true) : Solid c :=
  solid_of_holds h (isBlank_eq_false_of_isDecimal h) (by decide)

theorem isWord_of_isNameStart {c : Char} (h : isNameStart c = true) : isWord c = true := by
  simp only [isNameStart, Bool.or_eq_true, beq_iff_eq] at h
  rcases h with hletter | rfl
  · have hnarrow : c.toNat < 128 := by
      simp only [isAsciiLetter, Bool.or_eq_true, Bool.and_eq_true, decide_eq_true_eq] at hletter
      omega
    rw [isWord, if_pos hnarrow, hletter]
    rfl
  · rfl

theorem onePiece_of_solid {sep : Char} (hsep : Separates sep) {s : Text} (h : ∀ c ∈ s, Solid c) :
    OnePiece sep s := by
  apply OnePiece.of_loose
  intro c hc
  obtain ⟨-, hloose, hcomma, hbar⟩ := h c hc
  refine ⟨hloose, ?_⟩
  rcases hsep with rfl | rfl
  · exact hcomma
  · exact hbar

theorem trimmed_of_solid {s : Text} (h : ∀ c ∈ s, Solid c) : Trimmed s :=
  strip_of_ends (fun c hc => (h c (List.mem_of_mem_head? hc)).1)
    fun c hc => (h c (List.mem_of_mem_getLast? hc)).1

namespace CallName

theorem solid_text (n : CallName) : ∀ c ∈ n.text, Solid c := by
  intro c hc
  rcases List.mem_cons.mp hc with rfl | hc
  · exact solid_of_isWord (isWord_of_isNameStart n.isNameStart)
  · rcases List.mem_append.mp hc with hc | hc
    · exact solid_of_isWord (n.isWord c hc)
    · split at hc
      · rw [List.mem_singleton.mp hc]
        decide
      · cases hc

end CallName

theorem Segment.solid_text (s : Segment) : ∀ c ∈ s.text, Solid c := by
  intro c hc
  rcases s.spelled c hc with hword | rfl | rfl
  · exact solid_of_isWord hword
  · decide
  · decide

namespace Dotted

theorem solid_dots (segments : List Segment) : ∀ c ∈ dots segments, Solid c := by
  intro c hc
  obtain ⟨s, _, hc⟩ := List.mem_flatMap.mp hc
  rcases List.mem_cons.mp hc with rfl | hc
  · decide
  · exact s.solid_text c hc

theorem solid_print (p : Dotted) : ∀ c ∈ p.print, Solid c := by
  cases p with
  | here => exact fun c hc => List.mem_singleton.mp hc ▸ (by decide : Solid '.')
  | below first rest => exact solid_dots (first :: rest)
  | rooted root steps named =>
      exact List.forall_mem_append.mpr ⟨root.solid_text, solid_dots steps⟩

theorem print_ne_nil (p : Dotted) : p.print ≠ [] := by
  cases p with
  | here => exact List.cons_ne_nil _ _
  | below first rest => exact List.cons_ne_nil _ _
  | rooted root steps named => exact fun h => root.ne_nil (List.append_eq_nil_iff.mp h).1

end Dotted

theorem solid_numeral (n : Numeral) : ∀ c ∈ n.text, Solid c := by
  intro c hc
  rcases List.mem_append.mp hc with hc | hc
  · unfold Numeral.sign at hc
    split at hc
    · rw [List.mem_singleton.mp hc]
      decide
    · cases hc
  · exact solid_of_isDecimal (n.isDecimal c hc)

theorem solid_flag (b : Bool) : ∀ c ∈ (Term.flag b).print, Solid c := by
  cases b with
  | true => exact (by decide : ∀ c ∈ "true".toList, Solid c)
  | false => exact (by decide : ∀ c ∈ "false".toList, Solid c)

/-! Printed expressions are trimmed. -/

section

variable {sep : Char}

theorem trimmed_invocation (name : CallName) (inside : Text) :
    Trimmed (name.text ++ '(' :: (inside ++ [')'])) := by
  have hhead : isBlank name.head = false :=
    (solid_of_isWord (isWord_of_isNameStart name.isNameStart)).1
  have hsplit : name.text ++ '(' :: (inside ++ [')']) =
      name.head :: ((name.tail ++ (if name.marked then ['?'] else []) ++ '(' :: inside) ++ [')']) := by
    simp [CallName.text]
  have hclose : Trimmed [')'] := rfl
  rw [hsplit]
  exact trimmed_cons_append hhead hclose (List.cons_ne_nil _ _) _

theorem trimmed_print (e : Term) : Trimmed e.print := by
  cases e with
  | quoted q =>
      have hquote : isBlank q.quote = false := by rcases q.isQuote with h | h <;> rw [h] <;> rfl
      have hlast : Trimmed [q.quote] := by rcases q.isQuote with h | h <;> rw [h] <;> rfl
      rw [Term.print]
      exact trimmed_cons_append hquote hlast (List.cons_ne_nil _ _) _
  | integer n => exact trimmed_of_solid (solid_numeral n)
  | flag b => exact trimmed_of_solid (solid_flag b)
  | path p => exact trimmed_of_solid p.solid_print
  | call name args =>
      rw [Term.print]
      exact trimmed_invocation name args.print

theorem print_ne_nil (e : Term) : e.print ≠ [] := by
  cases e with
  | quoted q => simp [Term.print]
  | integer n => simp [Term.print, Numeral.text, n.ne_nil]
  | flag b => cases b <;> simp [Term.print]
  | path p => simpa [Term.print] using p.print_ne_nil
  | call name args => simp [Term.print]

/-! They are one piece to a splitting. -/

theorem onePiece_invocation (hsep : Separates sep) (name : CallName) {inside : Text}
    (h : ∀ depth, OnePieceAt sep (depth + 1) inside) :
    OnePiece sep (name.text ++ '(' :: (inside ++ [')'])) := by
  intro depth
  exact (onePiece_of_solid hsep name.solid_text depth).append (h depth).parentheses

theorem onePiece_blanks (hsep : Separates sep) (blanks : Blanks) : OnePiece sep blanks.text := by
  apply OnePiece.of_loose
  intro c hc
  have hne : ∀ d, isBlank d = false → c ≠ d := fun _ => ne_of_holds (blanks.isBlank c hc)
  refine ⟨⟨hne _ rfl, hne _ rfl, hne _ rfl, hne _ rfl⟩, ?_⟩
  rcases hsep with rfl | rfl
  · exact hne _ rfl
  · exact hne _ rfl

theorem onePieceAt_padded {depth : Nat} (hsep : Separates sep) (before after : Blanks) {s : Text}
    (h : OnePieceAt sep depth s) : OnePieceAt sep depth (before.text ++ (s ++ after.text)) :=
  (onePiece_blanks hsep before depth).append (h.append (onePiece_blanks hsep after depth))

theorem onePiece_padded (hsep : Separates sep) (before after : Blanks) {s : Text}
    (h : OnePiece sep s) : OnePiece sep (before.text ++ (s ++ after.text)) :=
  fun depth => onePieceAt_padded hsep before after (h depth)

mutual

theorem Term.onePiece (hsep : Separates sep) : ∀ e : Term, OnePiece sep e.print
  | .quoted q => by
      rw [Term.print]
      exact .quoted q.isQuote q.not_mem
  | .integer n => onePiece_of_solid hsep (solid_numeral n)
  | .flag b => onePiece_of_solid hsep (solid_flag b)
  | .path p => onePiece_of_solid hsep p.solid_print
  | .call name args => by
      rw [Term.print]
      exact onePiece_invocation hsep name fun depth => args.onePieceAt hsep depth

theorem Arguments.onePieceAt (hsep : Separates sep) (depth : Nat) :
    ∀ args : Arguments, OnePieceAt sep (depth + 1) args.print
  | .none inside => onePiece_blanks hsep inside (depth + 1)
  | .some items => items.onePieceAt hsep depth

theorem Items.onePieceAt (hsep : Separates sep) (depth : Nat) :
    ∀ items : Items, OnePieceAt sep (depth + 1) items.print
  | .one before e after => onePiece_padded hsep before after (e.onePiece hsep) (depth + 1)
  | .cons before e after rest => by
      have hcomma : OnePieceAt sep (depth + 1) [','] :=
        .loose (by decide) (.inr (Nat.succ_ne_zero depth))
      have hpadded := onePiece_padded hsep before after (e.onePiece hsep) (depth + 1)
      rw [Items.print]
      exact hpadded.append (hcomma.append (rest.onePieceAt hsep depth))

end

theorem FilterCall.onePiece (hsep : Separates sep) (f : FilterCall) : OnePiece sep f.print := by
  cases f with
  | plain name => exact onePiece_of_solid hsep name.solid_text
  | call name args => exact onePiece_invocation hsep name fun depth => args.onePieceAt hsep depth

end

/-! Splitting and reading what is printed. -/

theorem trim_padded (before after : Blanks) {s : Text} (h : Trimmed s) :
    trim (before.text ++ (s ++ after.text)) = s := by
  rw [trim_blanks_append before.isBlank, trim_append_blanks after.isBlank, h]

section

variable {s : Text}

theorem map_trim_splitOutside_padded (before after : Blanks) (h : OnePieceAt ',' 0 s)
    (htrimmed : Trimmed s) :
    (splitOutside ',' (before.text ++ (s ++ after.text))).map trim = [s] := by
  have hpiece := onePieceAt_padded (.inl rfl) before after h
  rw [hpiece.splitOutside_eq, List.map_singleton, trim_padded before after htrimmed]

theorem map_trim_splitOutside_padded_append (before after : Blanks) (h : OnePieceAt ',' 0 s)
    (htrimmed : Trimmed s) (rest : Text) :
    (splitOutside ',' (before.text ++ (s ++ after.text) ++ ',' :: rest)).map trim =
      s :: (splitOutside ',' rest).map trim := by
  have hpiece := onePieceAt_padded (.inl rfl) before after h
  rw [hpiece.splitOutside_append (by decide), List.map_cons, trim_padded before after htrimmed]

end

theorem map_trim_splitOutside_items :
    ∀ items : Items, (splitOutside ',' items.print).map trim = items.texts
  | .one before e after => by
      rw [Items.print, map_trim_splitOutside_padded before after (e.onePiece (.inl rfl) 0)
        (trimmed_print e), Items.texts]
  | .cons before e after rest => by
      rw [Items.print, map_trim_splitOutside_padded_append before after
        (e.onePiece (.inl rfl) 0) (trimmed_print e), map_trim_splitOutside_items rest, Items.texts]

theorem trim_items_ne_nil (items : Items) : trim items.print ≠ [] := by
  have hterm : ∀ (e : Term) (s : Text), (∀ c ∈ e.print, c ∈ s) → trim s ≠ [] := by
    intro e s hmem hnil
    obtain ⟨init, c, heq, hc⟩ := (trimmed_print e).exists_last (print_ne_nil e)
    have hblank := isBlank_of_trim_eq_nil hnil c (hmem c (by simp [heq]))
    rw [hc] at hblank
    cases hblank
  cases items with
  | one before e after => exact hterm e _ fun c hc => by simp [Items.print, hc]
  | cons before e after rest => exact hterm e _ fun c hc => by simp [Items.print, hc]

theorem splitArguments_print (args : Arguments) :
    splitArguments (trim args.print) = args.texts := by
  rw [splitArguments_trim, splitArguments]
  cases args with
  | none inside =>
      have hnil : trim (inside.text ++ []) = trim [] := trim_blanks_append inside.isBlank []
      rw [List.append_nil] at hnil
      rw [Arguments.print, hnil]
      rfl
  | some items =>
      have hne : (trim items.print).isEmpty = false := by simpa using trim_items_ne_nil items
      rw [Arguments.print, hne, if_neg Bool.false_ne_true, map_trim_splitOutside_items,
        Arguments.texts]

theorem parseCall_invocation (name : CallName) (inside : Text) :
    parseCall (name.text ++ '(' :: (inside ++ [')'])) = some (name.text, trim inside) := by
  have htrim := trimmed_invocation name inside
  have hdrop : (name.tail ++ (if name.marked then ['?'] else []) ++
      '(' :: (inside ++ [')'])).dropWhile isWord =
        (if name.marked then ['?'] else []) ++ '(' :: (inside ++ [')']) := by
    rw [List.append_assoc, List.dropWhile_append_of_pos name.isWord]
    cases name.marked <;> rfl
  have htake : (name.tail ++ (if name.marked then ['?'] else []) ++
      '(' :: (inside ++ [')'])).takeWhile isWord = name.tail := by
    rw [List.append_assoc, List.takeWhile_append_of_pos name.isWord]
    cases name.marked <;> simp [show isWord '?' = false from rfl, show isWord '(' = false from rfl]
  have hmark : takeMark ((if name.marked then ['?'] else []) ++ '(' :: (inside ++ [')'])) =
      (if name.marked then ['?'] else [], '(' :: (inside ++ [')'])) := by
    cases name.marked <;> rfl
  have hopen : trimLeft ('(' :: (inside ++ [')'])) = '(' :: (inside ++ [')']) :=
    trimLeft_cons_solid rfl _
  unfold parseCall
  rw [htrim]
  simp only [CallName.text, List.cons_append, name.isNameStart, if_true, hdrop, htake, hmark, hopen]
  simp

theorem trimmed_filter (f : FilterCall) : Trimmed f.print := by
  cases f with
  | plain name => exact trimmed_of_solid name.solid_text
  | call name args => exact trimmed_invocation name args.print

theorem filter_print_ne_nil (f : FilterCall) : f.print ≠ [] := by
  cases f with
  | plain name => exact List.cons_ne_nil _ _
  | call name args => exact List.cons_ne_nil _ _

theorem splitPipeline_pipeline (before : Blanks) (e : Term) (after : Blanks)
    (filters : List Piped) :
    splitPipeline (pipeline before e after filters) =
      (e.print, filters.map fun f => f.filter.print) := by
  have hfilters : ∀ (s : Text) (filters : List Piped), OnePiece '|' s →
      (splitOutside '|' (s ++ filters.flatMap fun f =>
        '|' :: (f.before.text ++ (f.filter.print ++ f.after.text)))).map trim =
          trim s :: filters.map fun f => f.filter.print := by
    intro s filters hs
    induction filters generalizing s with
    | nil => rw [List.flatMap_nil, List.append_nil, hs.splitOutside_eq]; rfl
    | cons f filters ih =>
        have hpiece := onePiece_padded (.inr rfl) f.before f.after (f.filter.onePiece (.inr rfl))
        rw [List.flatMap_cons, List.cons_append, hs.splitOutside_append (by decide),
          List.map_cons, ih _ hpiece, trim_padded f.before f.after (trimmed_filter f.filter)]
        rfl
  have hpiece := onePiece_padded (.inr rfl) before after (e.onePiece (.inr rfl))
  have hsome : ∀ t ∈ filters.map (fun f => f.filter.print), (!t.isEmpty) = true := by
    intro t ht
    obtain ⟨f, _, rfl⟩ := List.mem_map.mp ht
    simpa using filter_print_ne_nil f.filter
  rw [splitPipeline, pipeline, hfilters _ filters hpiece,
    trim_padded before after (trimmed_print e)]
  simp only [List.filter_eq_self.mpr hsome]

end Stencil.Template
