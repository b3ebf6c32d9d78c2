import Mathlib.Algebra.Group.Nat.Defs
import Stencil.Proofs.Function.Reading
import Stencil.Yaml.Token

namespace Stencil.Yaml

/-! What the characters of a document can fail with. -/

class Unreadable (P : Fault → Prop) : Prop where
  document : ∀ fault, P (.document fault)

instance instFailsInDocument {P : Fault → Prop} [Unreadable P] (fault : DocumentFault) :
    FailsIn P (.error (.document fault) : Except Fault α) :=
  failsIn_error (Unreadable.document fault)

instance instFailsInBadToken {P : Fault → Prop} [Unreadable P] :
    FailsIn P (.error badToken : Except Fault α) := instFailsInDocument .token

instance instFailsInThrowBadToken {P : Fault → Prop} [Unreadable P] :
    FailsIn P (throw badToken : Except Fault α) := instFailsInDocument .token

instance {P : Fault → Prop} [Unreadable P] (f : α → Except Fault β) :
    FailsIn P (throw badToken >>= f) := instFailsInDocument .token

/-- Something in a text is beyond what a document can name: the code point of an escape, or the
number of a version. -/
inductive Beyond (s : Text) : Fault → Prop
  | escape {digits rest : Text} {n : Nat} (hpart : '\\' :: 'U' :: digits <:+ s)
      (hnumber : hexNumber? 8 digits = some (n, rest)) (hbeyond : 0x110000 ≤ n)
      (hnarrow : n < 0x80000000) : Beyond s .outOfDomain
  | wideEscape {digits rest : Text} {n : Nat} (hpart : '\\' :: 'U' :: digits <:+ s)
      (hnumber : hexNumber? 8 digits = some (n, rest)) (hwide : 0x80000000 ≤ n) :
      Beyond s .overflow
  | version {t : Text} (hpart : t <:+ s)
      (hlong : Text.maxDigits < (t.takeWhile Text.isAsciiDigit).length) : Beyond s .outOfDomain

def TokenFault (s : Text) (e : Fault) : Prop := (∃ fault, e = .document fault) ∨ Beyond s e

instance (s : Text) : Unreadable (TokenFault s) := ⟨fun fault => .inl ⟨fault, rfl⟩⟩

/-! Steps that leave an end of the text. -/

class IsEnd (s t : Text) : Prop where
  suffix : t <:+ s

section

variable {s t : Text}

instance : IsEnd s s := ⟨List.suffix_rfl⟩

instance [h : IsEnd s t] (n : Nat) : IsEnd s (t.drop n) :=
  ⟨(List.drop_suffix n t).trans h.suffix⟩

instance [h : IsEnd s t] (p : Char → Bool) : IsEnd s (t.dropWhile p) :=
  ⟨(List.dropWhile_suffix p).trans h.suffix⟩

instance [h : IsEnd s t] : IsEnd s (skipSpaces t) := inferInstanceAs (IsEnd s (t.dropWhile _))

theorem suffix_of_lineBreak? {b : Char} {rest : Text} (h : lineBreak? t = some (b, rest)) :
    rest <:+ t := by
  unfold lineBreak? at h
  split at h
  · cases h
    exact (List.suffix_cons _ _).trans (List.suffix_cons _ _)
  · split at h
    · cases h
      exact List.suffix_cons _ _
    · split at h
      · cases h
        exact List.suffix_cons _ _
      · cases h
  · cases h

def Keeps (I : Text → Prop) (step : Text → Except Fault (Option (α × Text))) : Prop :=
  ∀ t a rest, I t → step t = .ok (some (a, rest)) → I rest

section

variable {step : Text → Except Fault (Option (α × Text))} {I : Text → Prop}

theorem many_keeps (hkeeps : Keeps I step) (ht : I t) {as : List α} {rest : Text}
    (h : many step t = .ok (as, rest)) : I rest := by
  induction hlength : t.length using Nat.strongRecOn generalizing t as rest with
  | ind n ih =>
      rw [many] at h
      obtain ⟨part?, hread, h⟩ := bind_eq_ok.mp h
      cases part? with
      | none =>
          cases h
          exact ht
      | some part =>
          dsimp only at h
          split at h
          · next hshorter =>
              obtain ⟨⟨more, rest'⟩, hmore, heq⟩ := bind_eq_ok.mp h
              cases heq
              exact ih _ (hlength ▸ hshorter) (hkeeps t _ _ ht hread) hmore rfl
          · cases h
            exact ht

theorem failsIn_many_of_keeps {P : Fault → Prop} (hkeeps : Keeps I step)
    (hfails : ∀ t, I t → FailsIn P (step t)) (ht : I t) : FailsIn P (many step t) := by
  induction hlength : t.length using Nat.strongRecOn generalizing t with
  | ind n ih =>
      rw [many]
      refine (hfails t ht).bind fun part? hread => ?_
      cases part? with
      | none => exact instFailsInPure _
      | some part =>
          dsimp only
          split
          · next hshorter =>
              have hmore := ih _ (hlength ▸ hshorter) (hkeeps t _ _ ht hread) rfl
              infer_instance
          · exact instFailsInPure _

theorem FailsIn.many {P : Fault → Prop} (hfails : ∀ t, FailsIn P (step t)) :
    FailsIn P (many step t) :=
  have hkeeps : Keeps (fun _ => True) step := fun _ _ _ _ _ => trivial
  failsIn_many_of_keeps hkeeps (fun t _ => hfails t) trivial

instance {P : Fault → Prop} [hfails : ∀ t, FailsIn P (step t)] : FailsIn P (many step t) :=
  FailsIn.many hfails

def LeavesEnds (step : Text → Except Fault (Option (α × Text))) : Prop :=
  ∀ t a rest, step t = .ok (some (a, rest)) → rest <:+ t

theorem LeavesEnds.keeps (h : LeavesEnds step) (s : Text) : Keeps (· <:+ s) step :=
  fun t a rest ht hread => (h t a rest hread).trans ht

end

end

/-! Quoted scalars. -/

section

variable {s t rest : Text} {P : Fault → Prop}

theorem suffix_of_quotedBreaks {breaks : Text} (h : quotedBreaks t = .ok (breaks, rest)) :
    rest <:+ t := by
  unfold quotedBreaks at h
  obtain ⟨⟨found, behind⟩, hmany, heq⟩ := bind_eq_ok.mp h
  cases heq
  refine (List.dropWhile_suffix _).trans (many_keeps (LeavesEnds.keeps ?_ t) List.suffix_rfl hmany)
  intro t b rest hstep
  dsimp only at hstep
  split at hstep
  · cases hstep
  · have hbreak := suffix_of_lineBreak? (Except.ok.inj hstep)
    exact hbreak.trans (List.dropWhile_suffix _)

instance [Unreadable P] : FailsIn P (quotedBreaks t) := by
  unfold quotedBreaks
  infer_instance

theorem suffix_of_quotedGap {gap : Text} (h : quotedGap t = .ok (gap, rest)) : rest <:+ t := by
  unfold quotedGap at h
  dsimp only at h
  split at h
  · next b behind hbreak =>
      obtain ⟨⟨breaks, left⟩, hbreaks, heq⟩ := bind_eq_ok.mp h
      cases heq
      exact (suffix_of_quotedBreaks hbreaks).trans
        ((suffix_of_lineBreak? hbreak).trans (List.dropWhile_suffix _))
  · split at h
    · cases h
    · cases h
      exact List.dropWhile_suffix _

instance [Unreadable P] : FailsIn P (quotedGap t) := by
  unfold quotedGap
  dsimp only
  split <;> infer_instance

theorem suffix_of_hexNumber? {width n : Nat} (h : hexNumber? width t = some (n, rest)) :
    rest <:+ t := by
  unfold hexNumber? at h
  obtain ⟨digits, -, h⟩ := Option.bind_eq_some_iff.mp h
  split at h
  · cases h
    exact List.drop_suffix _ _
  · cases h

theorem suffix_of_escaped {chars : Text} (h : escaped t = .ok (chars, rest)) : rest <:+ t := by
  unfold escaped at h
  split at h
  · cases h
  · next c t =>
      split at h
      · cases h
        exact List.suffix_cons c _
      · split at h
        · next n behind hnumber =>
            split at h
            · cases h
              exact (suffix_of_hexNumber? hnumber).trans (List.suffix_cons c t)
            · cases h
        · cases h
      · split at h
        · next b behind hbreak =>
            exact (suffix_of_quotedBreaks h).trans (suffix_of_lineBreak? hbreak)
        · cases h

theorem hexValue?_lt {c : Char} {n : Nat} (h : hexValue? c = some n) : n < 16 := by
  unfold hexValue? at h
  simp only [Bool.and_eq_true, decide_eq_true_eq, Char.le_def, UInt32.le_iff_toNat_le] at h
  split at h
  · next hdigit =>
      have hnine : c.toNat ≤ 57 := hdigit.2
      obtain rfl := Option.some.inj h
      omega
  · split at h
    · next hlower =>
        have hf : c.toNat ≤ 102 := hlower.2
        obtain rfl := Option.some.inj h
        omega
    · split at h
      · next hupper =>
          have hf : c.toNat ≤ 70 := hupper.2
          obtain rfl := Option.some.inj h
          omega
      · cases h

theorem lt_of_mem_hexValues {digits : List Nat} (h : t.mapM hexValue? = some digits) :
    ∀ d ∈ digits, d < 16 := by
  induction t generalizing digits with
  | nil =>
      cases h
      exact List.forall_mem_nil _
  | cons c t ih =>
      rw [List.mapM_cons] at h
      obtain ⟨d, hd, h⟩ := Option.bind_eq_some_iff.mp h
      obtain ⟨more, hmore, h⟩ := Option.bind_eq_some_iff.mp h
      cases h
      exact List.forall_mem_cons.mpr ⟨hexValue?_lt hd, ih hmore⟩

theorem foldl_hex_lt {digits : List Nat} (h : ∀ d ∈ digits, d < 16) (n : Nat) :
    digits.foldl (fun n d => 16 * n + d) n < (n + 1) * 16 ^ digits.length := by
  induction digits generalizing n with
  | nil => simp
  | cons d digits ih =>
      obtain ⟨hd, hdigits⟩ := List.forall_mem_cons.mp h
      calc digits.foldl (fun n d => 16 * n + d) (16 * n + d)
          < (16 * n + d + 1) * 16 ^ digits.length := ih hdigits _
        _ ≤ ((n + 1) * 16) * 16 ^ digits.length := Nat.mul_le_mul_right _ (by omega)
        _ = (n + 1) * 16 ^ (digits.length + 1) := by rw [Nat.pow_succ', Nat.mul_assoc]

theorem hexNumber?_lt {width n : Nat} (h : hexNumber? width t = some (n, rest)) :
    n < 16 ^ width := by
  unfold hexNumber? at h
  obtain ⟨digits, hdigits, h⟩ := Option.bind_eq_some_iff.mp h
  split at h
  · next hwidth =>
      cases h
      have hlt := foldl_hex_lt (lt_of_mem_hexValues hdigits) 0
      rwa [beq_iff_eq.mp hwidth, Nat.zero_add, Nat.one_mul] at hlt
  · cases h

theorem beyond_of_escapeWidth? {c : Char} {width n : Nat} (hwidth : escapeWidth? c = some width)
    (hnumber : hexNumber? width t = some (n, rest)) (hbeyond : ¬n < 0x110000) :
    c = 'U' ∧ width = 8 := by
  have hlt := hexNumber?_lt hnumber
  simp only [escapeWidth?, List.lookup_cons, List.lookup_nil] at hwidth
  split at hwidth
  · obtain rfl := Option.some.inj hwidth
    omega
  · split at hwidth
    · obtain rfl := Option.some.inj hwidth
      omega
    · split at hwidth
      · next hU => exact ⟨beq_iff_eq.mp hU, (Option.some.inj hwidth).symm⟩
      · cases hwidth

theorem failsIn_escaped (h : '\\' :: t <:+ s) : FailsIn (TokenFault s) (escaped t) := by
  unfold escaped
  split
  · infer_instance
  · next c t =>
      split
      · infer_instance
      · next width hnone hwidth =>
          split
          · next n rest hnumber =>
              split
              · infer_instance
              · next hbeyond =>
                  obtain ⟨rfl, rfl⟩ := beyond_of_escapeWidth? hwidth hnumber hbeyond
                  refine failsIn_error (.inr ?_)
                  split
                  · next hnarrow => exact .escape h hnumber (Nat.le_of_not_lt hbeyond) hnarrow
                  · next hwide => exact .wideEscape h hnumber (Nat.le_of_not_lt hwide)
          · infer_instance
      · split <;> infer_instance

theorem leavesEnds_quotedPart? (double : Bool) : LeavesEnds (quotedPart? double) := by
  intro t part rest h
  unfold quotedPart? at h
  split at h
  · cases h
  · next c t =>
      split at h
      · obtain ⟨⟨gap, left⟩, hgap, heq⟩ := map_eq_ok.mp h
        cases heq
        exact suffix_of_quotedGap hgap
      · split at h
        · obtain ⟨⟨chars, left⟩, hescaped, heq⟩ := map_eq_ok.mp h
          cases heq
          exact (suffix_of_escaped hescaped).trans (List.suffix_cons c t)
        · split at h
          · cases h
          · split at h
            · split at h
              · cases h
                exact (List.suffix_cons _ _).trans (List.suffix_cons _ _)
              · cases h
            · cases h
              exact List.suffix_cons c _

theorem failsIn_quotedPart? (double : Bool) (h : t <:+ s) :
    FailsIn (TokenFault s) (quotedPart? double t) := by
  unfold quotedPart?
  split
  · infer_instance
  · next c t =>
      split
      · infer_instance
      · split
        · next hescape =>
            rw [Bool.and_eq_true, beq_iff_eq] at hescape
            have hescaped : FailsIn (TokenFault s) (escaped t) := failsIn_escaped (hescape.1 ▸ h)
            infer_instance
        · split
          · infer_instance
          · split
            · split <;> infer_instance
            · infer_instance

instance failsIn_quotedScalar (double : Bool) [ht : IsEnd s t] :
    FailsIn (TokenFault s) (quotedScalar double t) := by
  have hmany := failsIn_many_of_keeps ((leavesEnds_quotedPart? double).keeps s)
    (fun _ => failsIn_quotedPart? double) ht.suffix
  unfold quotedScalar
  infer_instance

end

/-! Block scalars and the ends of lines. -/

section

variable {s t : Text} {P : Fault → Prop} [Unreadable P]

instance : FailsIn P (finishLine t) := by
  unfold finishLine
  dsimp only
  split <;> infer_instance

instance : FailsIn P (blockHeader t) := by
  unfold blockHeader
  infer_instance

instance (folded : Bool) (parent : Int) : FailsIn P (blockScalar folded parent t) := by
  unfold blockScalar
  infer_instance

end

/-! Directives. -/

namespace Lexer

section

variable {s t rest : Text} {P : Fault → Prop}

instance [Unreadable P] : FailsIn P (name t) := by
  unfold name
  infer_instance

theorem suffix_of_name {word : Text} (h : name t = .ok (word, rest)) : rest <:+ t := by
  unfold name at h
  dsimp only at h
  split at h
  · cases h
  · cases h
    exact List.dropWhile_suffix _

instance [ht : IsEnd s t] : FailsIn (TokenFault s) (number t) := by
  unfold number
  dsimp only
  split
  · infer_instance
  · split
    · next hlong => exact failsIn_error (.inr (.version ht.suffix hlong))
    · infer_instance

theorem suffix_of_number {n : Nat} (h : number t = .ok (n, rest)) : rest <:+ t := by
  unfold number at h
  dsimp only at h
  split at h
  · cases h
  · split at h
    · cases h
    · cases h
      exact List.dropWhile_suffix _

instance [Unreadable P] : FailsIn P (uriOctets t) := by
  refine FailsIn.many fun t => ?_
  split
  · split <;> infer_instance
  · infer_instance

instance [Unreadable P] : FailsIn P (uri t) := by
  unfold uri
  refine (FailsIn.many fun t => ?_).bind fun read _ => ?_
  · split
    · infer_instance
    · next c t =>
        have hoctets : ∀ octets : List Nat × Text, FailsIn P (match octets with
            | (octets, rest) =>
                match String.fromUTF8? ⟨(octets.map Nat.toUInt8).toArray⟩ with
                | some text => return some (text.toList, rest)
                | none => throw badToken : Except Fault (Option (Text × Text))) := by
          intro octets
          dsimp only
          split <;> infer_instance
        infer_instance
  · infer_instance

instance [Unreadable P] : FailsIn P (tagHandle t) := by
  unfold tagHandle
  split
  · split
    · infer_instance
    · split <;> infer_instance
  · infer_instance

instance [Unreadable P] : FailsIn P (tagBody t) := by
  unfold tagBody
  split
  · refine FailsIn.bind inferInstance fun read _ => ?_
    split <;> infer_instance
  · infer_instance

instance [ht : IsEnd s t] : FailsIn (TokenFault s) (directiveBody t) := by
  unfold directiveBody
  refine FailsIn.bind inferInstance fun read hread => ?_
  obtain ⟨word, rest⟩ := read
  have hrest : IsEnd s rest := ⟨(suffix_of_name hread).trans ht.suffix⟩
  dsimp only
  split
  · infer_instance
  · split
    · refine FailsIn.bind inferInstance fun version hversion => ?_
      split
      · next major minor =>
          have hminor : '.' :: minor <:+ skipSpaces rest := suffix_of_number hversion
          have hrest : skipSpaces rest <:+ s := IsEnd.suffix
          have hend : IsEnd s minor :=
            ⟨(List.suffix_cons '.' minor).trans (hminor.trans hrest)⟩
          infer_instance
      · infer_instance
    · infer_instance

end

/-! What is left for the next token is always an end of the text. -/

class Within (s : Text) (l : Lexer) : Prop where
  suffix : l.rest <:+ s

/-- A lexer within `s`, for rules about whatever a step is given. -/
structure Inner (s : Text) where
  val : Lexer
  within : Within s val

instance {s : Text} (l : Inner s) : Within s l.val := l.within

section

variable {s : Text} {l : Lexer}

instance [h : Within s l] : IsEnd s l.rest := ⟨h.suffix⟩

instance {rest : Text} [h : IsEnd s rest] (index line column : Nat) (tokens : Array Token)
    (depth indent : Int) (indents : List Int) (keysAllowed : Bool)
    (openKeys : List (Int × OpenKey)) (done : Bool) :
    Within s ⟨rest, index, line, column, tokens, depth, indent, indents, keysAllowed, openKeys,
      done⟩ := ⟨h.suffix⟩

instance [h : Within s l] : Within s l.advance := by
  unfold advance
  split
  · exact h
  · next c t hrest =>
      have ht : IsEnd s t := by
        have hend := h.suffix
        rw [hrest] at hend
        exact ⟨(List.suffix_cons c t).trans hend⟩
      dsimp only
      split
      · infer_instance
      · split <;> infer_instance

instance (n : Nat) [h : Within s l] : Within s (advanceBy n l) := by
  induction n generalizing l with
  | zero => exact h
  | succ n ih =>
      rw [advanceBy]
      exact ih

instance (rest : Text) [Within s l] : Within s (l.moveTo rest) := by
  unfold moveTo
  infer_instance

instance (t : Token) [Within s l] : Within s (l.push t) := by
  unfold push
  infer_instance

instance (t : Token) [Within s l] : Within s (l.indicator t) := by
  unfold indicator
  infer_instance

instance (column : Int) [h : Within s l] : Within s (l.unwind column) := by
  unfold unwind
  dsimp only
  split
  · exact h
  · split
    · exact h
    · infer_instance

instance (column : Nat) [h : Within s l] : Within s (l.deepen column).2 := by
  unfold deepen
  split
  · infer_instance
  · exact h

instance (t : Token) [h : Within s l] : Within s (l.beginBlock t) := by
  have hdeepen : Within s (l.deepen l.column).2 := inferInstance
  unfold beginBlock
  split
  · next heq =>
      rw [heq] at hdeepen
      infer_instance
  · next heq =>
      rw [heq] at hdeepen
      exact hdeepen

instance {c : Prop} [Decidable c] {l' : Lexer} [h : Within s l] [h' : Within s l'] :
    Within s (if c then l else l') := by
  split
  · exact h
  · exact h'

instance [h : Within s l] : Within s l.skipToToken := by
  unfold skipToToken
  dsimp only
  infer_instance

/-- A step that reads on, or fails as the characters of the text do. -/
class ReadsOn (s : Text) (x : Except Fault Lexer) : Prop where
  fault : ∀ e, x = .error e → TokenFault s e
  within : ∀ l, x = .ok l → Within s l

instance [h : Within s l] : ReadsOn s (.ok l) where
  fault := nofun
  within := by
    intro l' heq
    cases heq
    exact h

instance [Within s l] : ReadsOn s (pure l) := inferInstanceAs (ReadsOn s (.ok l))

theorem readsOn_error {e : Fault} (h : TokenFault s e) : ReadsOn s (.error e) where
  fault := by
    intro e' heq
    cases heq
    exact h
  within := nofun

instance : ReadsOn s (throw badToken) := readsOn_error (.inl ⟨_, rfl⟩)

instance (f : α → Except Fault Lexer) : ReadsOn s (throw badToken >>= f) :=
  readsOn_error (.inl ⟨_, rfl⟩)

theorem ReadsOn.bind {x : Except Fault Lexer} {f : Lexer → Except Fault Lexer} (hx : ReadsOn s x)
    (hf : ∀ l : Inner s, ReadsOn s (f l.val)) : ReadsOn s (x >>= f) := by
  cases hstep : x with
  | error e => exact readsOn_error (hx.fault e hstep)
  | ok l => exact hf ⟨l, hx.within l hstep⟩

instance {x : Except Fault Lexer} {f : Lexer → Except Fault Lexer} [hx : ReadsOn s x]
    [hf : ∀ l : Inner s, ReadsOn s (f l.val)] : ReadsOn s (x >>= f) := hx.bind hf

instance {x : Except Fault α} {f : α → Except Fault Lexer} [hx : FailsIn (TokenFault s) x]
    [hf : ∀ a, ReadsOn s (f a)] : ReadsOn s (x >>= f) := by
  cases hpart : x with
  | error e => exact readsOn_error (hx.of_eq_error e hpart)
  | ok a => exact hf a

instance {c : Prop} [Decidable c] {x y : Except Fault Lexer} [ReadsOn s x] [ReadsOn s y] :
    ReadsOn s (if c then x else y) := by
  split <;> infer_instance

instance {P : Fault → Prop} [Unreadable P] (key : OpenKey) : FailsIn P (refuse key) := by
  unfold refuse
  infer_instance

instance [Within s l] : ReadsOn s l.removeKey := by
  unfold removeKey
  split <;> infer_instance

instance [Within s l] : ReadsOn s l.saveKey := by
  unfold saveKey
  dsimp only
  split <;> infer_instance

instance {P : Fault → Prop} {f : α → Except Fault PUnit} [hf : ∀ a, FailsIn P (f a)]
    (items : List α) : FailsIn P (items.forM f) := by
  induction items with
  | nil => exact instFailsInPure _
  | cons a items ih =>
      change FailsIn P (f a >>= fun _ => items.forM f)
      infer_instance

instance [Within s l] : ReadsOn s l.dropStaleKeys := by
  unfold dropStaleKeys
  dsimp only
  infer_instance

instance [Within s l] : ReadsOn s l.streamEnd := by
  unfold streamEnd
  dsimp only
  infer_instance

instance (t : Token) [Within s l] : ReadsOn s (l.documentMark t) := by
  unfold documentMark
  infer_instance

instance (t : Except Fault (Text × Text)) [FailsIn (TokenFault s) t] [Within s l] :
    ReadsOn s (l.scalarToken t) := by
  unfold scalarToken
  infer_instance

instance [Within s l] : ReadsOn s l.directive := by
  unfold directive
  infer_instance

instance (t : Token) [Within s l] : ReadsOn s (l.openBracket t) := by
  unfold openBracket
  infer_instance

instance (t : Token) [Within s l] : ReadsOn s (l.closeBracket t) := by
  unfold closeBracket
  infer_instance

instance [Within s l] : ReadsOn s l.flowEntry := by
  unfold flowEntry
  infer_instance

instance [Within s l] : ReadsOn s l.blockEntry := by
  unfold blockEntry
  infer_instance

instance [Within s l] : ReadsOn s l.explicitKey := by
  unfold explicitKey
  infer_instance

instance (position : Nat) (t : Token) [Within s l] : Within s (l.insert position t) := by
  unfold insert
  infer_instance

instance (key : OpenKey) [Within s l] : Within s (l.settleKey key) := by
  have hkey : Within s ({ l with openKeys := l.openKeys.filter (·.1 != l.depth) }.insert
      key.position .key) := inferInstance
  unfold settleKey
  dsimp only
  generalize insert key.position .key _ = settled at hkey ⊢
  have hdeepen : Within s (settled.deepen key.column).2 := inferInstance
  split
  · exact hkey
  · split
    · next heq =>
        rw [heq] at hdeepen
        infer_instance
    · next heq =>
        rw [heq] at hdeepen
        exact hdeepen

instance [Within s l] : ReadsOn s l.valueToken := by
  unfold valueToken
  split <;> infer_instance

instance (make : Text → Token) [Within s l] : ReadsOn s (l.named make) := by
  unfold named
  infer_instance

instance [Within s l] : ReadsOn s l.tagToken := by
  unfold tagToken
  infer_instance

instance (folded : Bool) [Within s l] : ReadsOn s (l.block folded) := by
  unfold block
  infer_instance

instance (double : Bool) [Within s l] : ReadsOn s (l.quoted double) := by
  unfold quoted
  infer_instance

instance [Within s l] : ReadsOn s l.plain := by
  unfold plain
  infer_instance

instance [Within s l] : ReadsOn s l.next := by
  unfold next
  dsimp only
  refine .bind inferInstance fun l => ?_
  split <;> infer_instance

end

end Lexer

/-! The tokens of a text. -/

namespace Tokens

variable {s : Text}

theorem tokenFault_of_from_ {steps : Nat} {l : Lexer} {e : Fault} [hl : Lexer.Within s l]
    (h : (from_ steps l).failure? = some e) : TokenFault s e := by
  induction steps generalizing l with
  | zero => cases h
  | succ steps ih =>
      have hnext : Lexer.ReadsOn s l.next := inferInstance
      rw [from_] at h
      split at h
      · cases h
      · split at h
        · next hstep =>
            have hwithin := hnext.within _ hstep
            exact ih h
        · next hstep =>
            cases h
            exact hnext.fault _ hstep

theorem tokenFault_of_failure? {e : Fault} (h : (ofText s).failure? = some e) : TokenFault s e := by
  have hstart : Lexer.Within s (.start s) := ⟨List.suffix_rfl⟩
  exact tokenFault_of_from_ h

end Tokens

end Stencil.Yaml
