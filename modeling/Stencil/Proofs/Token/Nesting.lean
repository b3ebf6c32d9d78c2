import Mathlib.Data.List.Induction
import Stencil.Proofs.Token.Block

namespace Stencil.Template

open Stencil.Text

/-! Blocks are paired by depth. Behind the opener of a block every opener of its kind leads one block
deeper and every closer one back; the block ends at the first closer that stands in none of the blocks
nested in it, and is divided at the first such divider in front of that. -/

/-- What a directive is to the blocks of a kind. -/
inductive Role
  | opener
  | divider
  | closer
  | other
deriving DecidableEq

def Role.turn : Role → Int
  | .opener => 1
  | .closer => -1
  | .divider | .other => 0

namespace BlockKind

variable {kind : BlockKind} {which : Role} {tokens front : List Token}

def role (kind : BlockKind) (inside : Text) : Role :=
  if (kind.closer.onMark inside).isSome then .closer
  else if (kind.divider.onMark inside).isSome then .divider
  else if (kind.opener.onMark inside).isSome then .opener
  else .other

theorem reads_of_role (d : Inside) (hreads : kind.opener.ReadsWhole d.text) :
    match kind.role d.text with
    | .opener => kind.Opens d.text
    | .divider => kind.Divides d.text
    | .closer => kind.Closes d.text
    | .other => kind.Passes (mark d.text) := by
  unfold role
  cases hcloses : kind.closer.onMark d.text with
  | some u => exact ⟨d.enclosed, hcloses⟩
  | none =>
      cases hdivides : kind.divider.onMark d.text with
      | some u => exact ⟨d.enclosed, hdivides, hcloses⟩
      | none =>
          cases hopens : kind.opener.onMark d.text with
          | some captures => exact ⟨d.enclosed, hreads, ⟨captures, hopens⟩, hdivides, hcloses⟩
          | none => exact passes_mark d.enclosed hreads hopens hdivides hcloses

/-- How many blocks deep a sequence of tokens leads, from behind an opener. -/
def depth (kind : BlockKind) : List Token → Int
  | [] => 0
  | .text _ :: tokens => kind.depth tokens
  | .directive d :: tokens => (kind.role d.text).turn + kind.depth tokens

@[simp] theorem depth_nil : kind.depth [] = 0 := rfl

@[simp] theorem depth_append (first second : List Token) :
    kind.depth (first ++ second) = kind.depth first + kind.depth second := by
  induction first with
  | nil => exact (Int.zero_add _).symm
  | cons token first ih =>
      cases token with
      | text s => exact ih
      | directive d => rw [List.cons_append, depth, depth, ih, Int.add_assoc]

@[simp] theorem depth_text (s : Plain) : kind.depth [.text s] = 0 := rfl

@[simp] theorem depth_directive (d : Inside) :
    kind.depth [.directive d] = (kind.role d.text).turn :=
  Int.add_zero _

/-- No directive of a role stands outside the nested blocks. -/
def Lacks (kind : BlockKind) (which : Role) (tokens : List Token) : Prop :=
  ∀ front d, front ++ [.directive d] <+: tokens → kind.role d.text = which → kind.depth front ≠ 0

theorem lacks_nil : kind.Lacks which [] := by
  intro front d hinit
  exact absurd (List.prefix_nil.mp hinit) (by simp)

theorem lacks_concat {token : Token} :
    kind.Lacks which (tokens ++ [token]) ↔
      kind.Lacks which tokens ∧
        ∀ d, token = .directive d → kind.role d.text = which → kind.depth tokens ≠ 0 := by
  constructor
  · intro h
    refine ⟨fun front d hinit => h front d (hinit.trans (List.prefix_append _ _)), ?_⟩
    rintro d rfl
    exact h tokens d List.prefix_rfl
  · rintro ⟨hfront, hlast⟩ front d hinit
    rcases List.prefix_concat_iff.mp hinit with heq | hinit
    · obtain ⟨rfl, htoken⟩ := List.append_inj' heq rfl
      exact hlast d (List.singleton_inj.mp htoken).symm
    · exact hfront front d hinit

theorem Lacks.of_prefix (h : kind.Lacks which tokens) (hinit : front <+: tokens) :
    kind.Lacks which front :=
  fun _ _ hearlier => h _ _ (hearlier.trans hinit)

/-- Where no closer stands outside the nested blocks, none ends more blocks than are open. -/
theorem Lacks.depth_nonneg (h : kind.Lacks .closer tokens) : 0 ≤ kind.depth tokens := by
  induction tokens using List.reverseRecOn with
  | nil => exact Int.le_refl 0
  | append_singleton tokens token ih =>
      obtain ⟨hfront, hlast⟩ := lacks_concat.mp h
      have hnonneg := ih hfront
      cases token with
      | text s => simpa using hnonneg
      | directive d =>
          have hcloser := hlast d rfl
          rw [depth_append, depth_directive]
          cases hrole : kind.role d.text with
          | closer =>
              have hne := hcloser hrole
              simp only [Role.turn]
              omega
          | opener => simp only [Role.turn]; omega
          | divider => simpa only [Role.turn, Int.add_zero] using hnonneg
          | other => simpa only [Role.turn, Int.add_zero] using hnonneg

/-- The first directive of a role outside the nested blocks, and what stands in front of it. -/
structure First (kind : BlockKind) (which : Role) (front : List Token) (d : Inside) : Prop where
  role_eq : kind.role d.text = which
  depth_eq : kind.depth front = 0
  lacks : kind.Lacks which front

theorem First.eq_nil_of_append {front front' a rest rest' : List Token} {d d' : Inside}
    (h : kind.First which front d) (h' : kind.First which front' d') (hfront : front' = front ++ a)
    (hrest : .directive d :: rest = a ++ .directive d' :: rest') : a = [] := by
  cases a with
  | nil => rfl
  | cons token a =>
      obtain ⟨rfl, -⟩ := List.cons.inj hrest
      exact absurd h.depth_eq (h'.lacks front d ⟨a, by simp [hfront]⟩ h.role_eq)

theorem First.unique {front front' rest rest' : List Token} {d d' : Inside}
    (h : kind.First which front d) (h' : kind.First which front' d')
    (heq : front ++ .directive d :: rest = front' ++ .directive d' :: rest') :
    front = front' ∧ d = d' ∧ rest = rest' := by
  have hfront : front = front' := by
    rcases List.append_eq_append_iff.mp heq with ⟨a, hfront, hrest⟩ | ⟨a, hfront, hrest⟩
    · rw [hfront, h.eq_nil_of_append h' hfront hrest, List.append_nil]
    · rw [hfront, h'.eq_nil_of_append h hfront hrest, List.append_nil]
  subst hfront
  have hcons := List.append_cancel_left heq
  simp only [List.cons.injEq, Token.directive.injEq] at hcons
  exact ⟨rfl, hcons⟩

/-- The nested blocks are all closed, and no closer is left over. -/
structure Nests (kind : BlockKind) (tokens : List Token) : Prop where
  depth_eq : kind.depth tokens = 0
  depth_nonneg : ∀ front, front <+: tokens → 0 ≤ kind.depth front

inductive Division (kind : BlockKind) :
    (body first : List Token) → Option Inside → (second : List Token) → Prop
  | undivided {body : List Token} (lacks : kind.Lacks .divider body) :
      Division kind body body none []
  | divided {first : List Token} {divider : Inside} (own : kind.First .divider first divider)
      (second : List Token) :
      Division kind (first ++ .directive divider :: second) first (some divider) second

/-- The block that a sequence of tokens begins with behind its opener. -/
structure Pairing (kind : BlockKind) (tokens : List Token) where
  body : List Token
  closer : Inside
  after : List Token
  first : List Token
  divider? : Option Inside
  second : List Token
  tokens_eq : tokens = body ++ .directive closer :: after
  closes : kind.First .closer body closer
  division : kind.Division body first divider? second

end BlockKind

def BlockReading.spelled (first : List Token) (divider? : Option Inside) (second : List Token) :
    BlockReading :=
  ⟨spell first, divider?.map fun d => mark d.text, spell second⟩

namespace BlockKind

variable {kind : BlockKind} {tokens first second seen : List Token} {divider? : Option Inside}

def Pairing.block (pairing : kind.Pairing tokens) : Block where
  first := spell pairing.first
  divider? := pairing.divider?.map fun d => mark d.text
  second := spell pairing.second
  closer := mark pairing.closer.text
  after := spell pairing.after

/-- A token that does not divide the block belongs to the part that is being read. -/
theorem Division.add {body : List Token} {token : Token}
    (h : kind.Division body first divider? second)
    (hown : divider? = none → ∀ d, token = .directive d → kind.role d.text = .divider →
      kind.depth body ≠ 0) :
    ∃ first' second', kind.Division (body ++ [token]) first' divider? second' ∧
      (BlockReading.spelled first divider? second).add (spell [token]) =
        .spelled first' divider? second' := by
  cases h with
  | undivided lacks =>
      exact ⟨first ++ [token], [], .undivided (lacks_concat.mpr ⟨lacks, hown rfl⟩),
        by simp [BlockReading.spelled, BlockReading.add]⟩
  | @divided first divider own second =>
      refine ⟨first, second ++ [token], ?_, by simp [BlockReading.spelled, BlockReading.add]⟩
      rw [List.append_assoc]
      exact .divided own (second ++ [token])

/-- How far a block has been read when the tokens `seen` have been. -/
structure Scanned (kind : BlockKind) (depth : Nat) (read : BlockReading) (seen : List Token) :
    Prop where
  depth_eq : (depth : Int) = kind.depth seen
  lacks : kind.Lacks .closer seen
  division : ∃ first divider? second,
    kind.Division seen first divider? second ∧ read = .spelled first divider? second

namespace Scanned

variable {depth : Nat} {read : BlockReading}

theorem start : kind.Scanned 0 .start [] where
  depth_eq := rfl
  lacks := lacks_nil
  division := ⟨[], none, [], .undivided lacks_nil, rfl⟩

theorem add {depth' : Nat} {token : Token} (h : kind.Scanned depth read seen)
    (hdepth : (depth' : Int) = kind.depth (seen ++ [token]))
    (hdivider : ∀ d, token = .directive d → kind.role d.text = .divider →
      read.divider? = none → depth ≠ 0)
    (hcloser : ∀ d, token = .directive d → kind.role d.text = .closer → depth ≠ 0) :
    kind.Scanned depth' (read.add (spell [token])) (seen ++ [token]) := by
  have hzero : depth ≠ 0 → kind.depth seen ≠ 0 := by
    rw [← h.depth_eq]
    omega
  obtain ⟨first, divider?, second, hdivision, rfl⟩ := h.division
  have hown : divider? = none → ∀ d, token = .directive d → kind.role d.text = .divider →
      kind.depth seen ≠ 0 := by
    rintro rfl d htoken hrole
    exact hzero (hdivider d htoken hrole rfl)
  obtain ⟨first', second', hdivision', hread⟩ := hdivision.add hown
  exact {
    depth_eq := hdepth
    lacks := lacks_concat.mpr ⟨h.lacks, fun d htoken hrole => hzero (hcloser d htoken hrole)⟩
    division := ⟨first', divider?, second', hdivision', hread⟩ }

theorem add_directive {depth' : Nat} {d : Inside} (h : kind.Scanned depth read seen)
    (hdepth : (depth' : Int) = depth + (kind.role d.text).turn)
    (hdivider : kind.role d.text = .divider → read.divider? = none → depth ≠ 0)
    (hcloser : kind.role d.text = .closer → depth ≠ 0) :
    kind.Scanned depth' (read.add (mark d.text)) (seen ++ [.directive d]) := by
  have hadd : kind.Scanned depth' (read.add (spell [.directive d])) (seen ++ [.directive d]) := by
    refine h.add (by simp [hdepth, h.depth_eq]) ?_ ?_
    · rintro _ ⟨⟩
      exact hdivider
    · rintro _ ⟨⟩
      exact hcloser
  rwa [spell_directive, spell_nil, List.append_nil] at hadd

theorem divide {d : Inside} (h : kind.Scanned depth read seen)
    (hrole : kind.role d.text = .divider) :
    kind.Scanned depth (read.divide depth [] (mark d.text)) (seen ++ [.directive d]) := by
  by_cases hown : depth = 0 ∧ read.divider? = none
  · rw [BlockReading.divide, if_pos hown, BlockReading.add_nil]
    obtain ⟨first, divider?, second, hdivision, rfl⟩ := h.division
    have hseen : kind.depth seen = 0 := by
      rw [← h.depth_eq, hown.1]
      rfl
    cases hdivision with
    | undivided lacks =>
        exact {
          depth_eq := by simp [h.depth_eq, hrole, Role.turn]
          lacks := lacks_concat.mpr ⟨h.lacks, by
            intro other hother hcloser
            rw [← Token.directive.inj hother, hrole] at hcloser
            exact absurd hcloser (by decide)⟩
          division := ⟨seen, some d, [], .divided ⟨hrole, hseen, lacks⟩ [], rfl⟩ }
    | divided own second => cases hown.2
  · rw [BlockReading.divide, if_neg hown, List.nil_append]
    exact h.add_directive (by simp [hrole, Role.turn]) (fun _ hnone hzero => hown ⟨hzero, hnone⟩)
      (by simp [hrole])

end Scanned

/-- Token by token, a block is read up to the first closer outside the blocks nested in it. -/
theorem readBlock?_scanned {depth : Nat} {read : BlockReading} {all : List Token}
    (hreads : ∀ inside ∈ directives tokens, kind.opener.ReadsWhole inside)
    (h : kind.Scanned depth read seen) (hall : all = seen ++ tokens) :
    (kind.readBlock? depth read (spell tokens) = none ∧ kind.Lacks .closer all) ∨
      ∃ pairing : kind.Pairing all,
        kind.readBlock? depth read (spell tokens) = some pairing.block := by
  -- The tokens read so far go from the front of `tokens` to the end of `seen`.
  induction tokens generalizing depth read seen with
  | nil =>
      rw [List.append_nil] at hall
      exact .inl ⟨readBlock?_nil, hall ▸ h.lacks⟩
  | cons token tokens ih =>
      have hall' : all = seen ++ [token] ++ tokens := by
        rw [hall, List.append_assoc]
        rfl
      cases token with
      | text s =>
          have hadd : kind.Scanned depth (read.add (spell [.text s])) (seen ++ [.text s]) :=
            h.add (by simp [h.depth_eq]) nofun nofun
          rw [spell_text, spell_nil, List.append_nil] at hadd
          rw [spell_text, readBlock?_pass (passes_of_unopened s.unopened)]
          exact ih hreads hadd hall'
      | directive d =>
          obtain ⟨hd, hrest⟩ := List.forall_mem_cons.mp hreads
          have hrole := reads_of_role d hd
          rw [spell_directive]
          cases heq : kind.role d.text with
          | opener =>
              rw [heq] at hrole
              rw [readBlock?_opener hrole]
              exact ih hrest (h.add_directive (by simp [heq, Role.turn]) (by simp [heq])
                (by simp [heq])) hall'
          | divider =>
              rw [heq] at hrole
              rw [readBlock?_divider hrole]
              exact ih hrest (h.divide heq) hall'
          | closer =>
              rw [heq] at hrole
              rw [readBlock?_closer hrole]
              cases depth with
              | zero =>
                  obtain ⟨first, divider?, second, hdivision, rfl⟩ := h.division
                  exact .inr ⟨⟨seen, d, tokens, first, divider?, second, hall,
                    ⟨heq, h.depth_eq.symm, h.lacks⟩, hdivision⟩, rfl⟩
              | succ depth =>
                  have hdepth : (depth : Int) = (depth + 1 : Nat) + (kind.role d.text).turn := by
                    simp only [heq, Role.turn]
                    omega
                  exact ih hrest (h.add_directive hdepth (by simp [heq]) (by simp)) hall'
          | other =>
              rw [heq] at hrole
              rw [readBlock?_pass hrole]
              exact ih hrest (h.add_directive (by simp [heq, Role.turn]) (by simp [heq])
                (by simp [heq])) hall'

theorem block?_cases (hreads : ∀ inside ∈ directives tokens, kind.opener.ReadsWhole inside) :
    (kind.block? (spell tokens) = none ∧ kind.Lacks .closer tokens) ∨
      ∃ pairing : kind.Pairing tokens, kind.block? (spell tokens) = some pairing.block :=
  readBlock?_scanned hreads .start rfl

/-- Only the patterns with names in quotes may read over the end of a directive. -/
theorem whole_opener (h : kind ≠ .block) : (kind.opener).Whole := by
  cases kind
  case conditional => exact inferInstanceAs ((operand "if".toList).map fun c => [c]).Whole
  case loop => exact inferInstanceAs (forOpener.map fun x => [x.1, x.2]).Whole
  case range => exact inferInstanceAs ((operand "range".toList).map fun e => [e]).Whole
  case block => exact absurd rfl h

theorem readsWhole_opener {inside : Text} (hinside : inside.Unclosed)
    (h : kind = .block → ¬LeavesQuote "block".toList inside) :
    kind.opener.ReadsWhole inside := by
  by_cases hkind : kind = .block
  · subst hkind
    exact (readsWhole_quotedName hinside (h rfl)).map fun name => [name]
  · exact (whole_opener hkind).reads hinside

theorem First.not_lacks {which : Role} {front rest : List Token} {d : Inside}
    (h : kind.First which front d) (heq : tokens = front ++ .directive d :: rest) :
    ¬kind.Lacks which tokens :=
  fun hlacks => hlacks front d ⟨rest, by simp [heq]⟩ h.role_eq h.depth_eq

theorem Division.unique {body body' first' second' : List Token} {divider?' : Option Inside}
    (h : kind.Division body first divider? second)
    (h' : kind.Division body' first' divider?' second') (hbody : body = body') :
    first = first' ∧ divider? = divider?' ∧ second = second' := by
  cases h with
  | undivided lacks =>
      cases h' with
      | undivided _ => exact ⟨hbody, rfl, rfl⟩
      | divided own second' => exact absurd lacks (own.not_lacks hbody)
  | divided own second =>
      cases h' with
      | undivided lacks => exact absurd lacks (own.not_lacks hbody.symm)
      | divided own' second' =>
          obtain ⟨hfirst, hdivider, hsecond⟩ := own.unique own' hbody
          exact ⟨hfirst, congrArg some hdivider, hsecond⟩

instance : Subsingleton (kind.Pairing tokens) where
  allEq pairing other := by
    obtain ⟨hbody, hcloser, hafter⟩ :=
      pairing.closes.unique other.closes (pairing.tokens_eq.symm.trans other.tokens_eq)
    obtain ⟨hfirst, hdivider, hsecond⟩ := pairing.division.unique other.division hbody
    cases pairing
    cases other
    simp_all only

theorem block?_pairs (hreads : ∀ inside ∈ directives tokens, kind.opener.ReadsWhole inside) :
    (kind.block? (spell tokens) = none ↔ kind.Lacks .closer tokens) ∧
      ∀ pairing : kind.Pairing tokens, kind.block? (spell tokens) = some pairing.block := by
  rcases block?_cases hreads with ⟨hnone, hlacks⟩ | ⟨pairing, hsome⟩
  · exact ⟨iff_of_true hnone hlacks,
      fun pairing => absurd hlacks (pairing.closes.not_lacks pairing.tokens_eq)⟩
  · have hlacks := pairing.closes.not_lacks pairing.tokens_eq
    refine ⟨iff_of_false (by simp [hsome]) hlacks, fun other => ?_⟩
    rw [hsome, Subsingleton.elim pairing other]

theorem Division.nests {body : List Token} {closer : Inside}
    (h : kind.Division body first divider? second) (hclose : kind.First .closer body closer) :
    kind.Nests first := by
  cases h with
  | undivided _ =>
      exact ⟨hclose.depth_eq, fun _ hinit => (hclose.lacks.of_prefix hinit).depth_nonneg⟩
  | divided own second =>
      have hfirst := hclose.lacks.of_prefix (List.prefix_append _ _)
      exact ⟨own.depth_eq, fun _ hinit => (hfirst.of_prefix hinit).depth_nonneg⟩

end BlockKind

end Stencil.Template
