import Stencil.Function.Standard
import Stencil.Proofs.Number.Nearest
import Stencil.Proofs.Text.Numeral
import Stencil.Proofs.Value.Integers

namespace Stencil

/-! Integers are compared for equality by their texts, and for order by the floats nearest to
them. -/

open Value (Writable)

namespace Text

theorem digitValue?_of_isDigit {c : Char} (h : c.isDigit = true) :
    digitValue? c = some (c.toNat - 48) := by
  rw [Char.isDigit, Bool.and_eq_true, decide_eq_true_eq, decide_eq_true_eq] at h
  have hlow : 48 ≤ c.toNat := h.1
  have hhigh : c.toNat ≤ 57 := h.2
  have hdigit : isAsciiDigit c = true := by
    rw [isAsciiDigit, Bool.and_eq_true, decide_eq_true_eq, decide_eq_true_eq]
    exact h
  unfold digitValue?
  rw [if_pos (by omega), if_pos hdigit]

theorem digitValue?_of_mem_ofNat {n : Nat} {c : Char} (h : c ∈ ofNat n) :
    digitValue? c = some (c.toNat - 48) := by
  rw [ofNat, Nat.toList_repr] at h
  exact digitValue?_of_isDigit (Nat.isDigit_of_mem_toDigits (by decide) (by decide) h)

namespace Numeral

def ofInt (i : Int) (h : Writable i) : Numeral where
  negative := i < 0
  digits := ofNat i.natAbs
  ne_nil := by
    rw [ofNat, Nat.toList_repr]
    exact Nat.toDigits_ne_nil
  isDecimal := by
    intro c hc
    rw [Text.isDecimal, digitValue?_of_mem_ofNat hc]
    rfl
  length_le := by
    rw [ofNat, String.length_toList]
    exact h

variable {i : Int} (h : Writable i)

theorem text_ofInt : (ofInt i h).text = Text.ofInt i := by
  unfold text sign Text.ofInt
  by_cases hi : i < 0
  · have hnegative : (ofInt i h).negative = true := decide_eq_true hi
    rw [hnegative, if_pos rfl, if_pos hi]
    rfl
  · have hnegative : (ofInt i h).negative = false := decide_eq_false hi
    rw [hnegative, if_neg Bool.false_ne_true, if_neg hi]
    rfl

theorem magnitude_ofInt : (ofInt i h).magnitude = i.natAbs := by
  have hread : (ofNat i.natAbs).foldl (fun m c => 10 * m + digit c) 0 =
      (ofNat i.natAbs).foldl (fun m c => 10 * m + (c.toNat - 48)) 0 := by
    apply List.foldl_ext
    intro m c hc
    rw [digit, digitValue?_of_mem_ofNat hc, Option.getD_some]
  refine hread.trans ?_
  rw [ofNat, Nat.toList_repr]
  exact Nat.ofDigitChars_ten_toDigits

theorem value_ofInt : (ofInt i h).value = i := by
  unfold value
  rw [magnitude_ofInt]
  change (if decide (i < 0) = true then -(i.natAbs : Int) else i.natAbs) = i
  split_ifs with hi
  · rw [decide_eq_true_eq] at hi
    omega
  · rw [decide_eq_true_eq] at hi
    omega

end Numeral

theorem toInt?_ofInt {i : Int} (h : Writable i) : toInt? (ofInt i) = some i := by
  rw [← Numeral.text_ofInt h, toInt?_numeral, Numeral.value_ofInt]

theorem toFloat?_ofInt {i : Int} (h : Writable i) :
    toFloat? (ofInt i) = some (floatOfDecimal (i < 0) i.natAbs 0) := by
  rw [← Numeral.text_ofInt h, toFloat?_numeral, Numeral.magnitude_ofInt]
  rfl

theorem ofInt_inj {i j : Int} (hi : Writable i) (hj : Writable j) :
    ofInt i = ofInt j ↔ i = j := by
  constructor
  · intro heq
    have hread := (toInt?_ofInt hi).symm.trans (heq ▸ toInt?_ofInt hj)
    exact Option.some_inj.mp hread
  · exact congrArg ofInt

end Text

namespace Value

/-- An integer itself, or its decimal text. -/
inductive Spells (i : Int) : Value → Prop
  | int : Spells i (.int i)
  | text : Spells i (.text (Text.ofInt i))

variable {i : Int} {v : Value}

theorem Spells.joined (h : v.Spells i) (hi : Writable i) : v.joined = .ok (Text.ofInt i) := by
  cases h with
  | int =>
      rw [joined_of_sequence?_eq_none rfl, format, digits, Text.ofInt?_of_writable hi]
  | text => rfl

theorem Spells.standsAt (h : v.Spells i) (hi : Writable i) :
    Binary64.StandsAt v.looseFloat (floatPlace i) := by
  unfold looseFloat
  rw [h.joined hi]
  dsimp only
  rw [Text.toFloat?_ofInt hi]
  exact .floatOfDecimal _ _

end Value

namespace Function

/-- What a standard function of two arguments answers is the truth of `p`. -/
def Answers (now : Moment) (name : String) (v w : Value) (p : Prop) [Decidable p] : Prop :=
  call standard now name.toList [v, w] = .ok (.bool p)

section

variable {now : Moment} {a b : Int} {v w : Value} {name : String}

theorem answers_of_call {p : Prop} [Decidable p] (answer : Bool)
    (hcall : call standard now name.toList [v, w] = .ok (.bool answer)) (h : answer = true ↔ p) :
    Answers now name v w p := by
  have hanswer : answer = decide p := by
    rw [Bool.eq_iff_iff, h, decide_eq_true_iff]
  unfold Answers
  rw [hcall, hanswer]

theorem Answers.true_iff {p : Prop} [Decidable p] (h : Answers now name v w p) :
    Answers now name v w True ↔ p := by
  unfold Answers at h ⊢
  rw [h, Except.ok.injEq, Value.bool.injEq, decide_eq_decide, iff_true]

variable (ha : Writable a) (hb : Writable b) (hv : v.Spells a) (hw : w.Spells b)
include ha hb hv hw

theorem run_compareTexts (test : Text → Text → Bool) :
    (compareTexts test).run now [v, w] = .ok (.bool (test (Text.ofInt a) (Text.ofInt b))) := by
  change (do
    let left ← v.joined
    return .bool (test left (← w.joined)) : Except Fault Value) = _
  rw [hv.joined ha, hw.joined hb]
  rfl

theorem answers_eq : Answers now "eq" v w (a = b) := by
  refine answers_of_call (Text.ofInt a == Text.ofInt b) (run_compareTexts ha hb hv hw _) ?_
  rw [beq_iff_eq, Text.ofInt_inj ha hb]

theorem answers_ne : Answers now "ne" v w (a ≠ b) := by
  refine answers_of_call (Text.ofInt a != Text.ofInt b) (run_compareTexts ha hb hv hw _) ?_
  rw [bne_iff_ne, Ne, Text.ofInt_inj ha hb]

theorem looseFloat_lt_iff : v.looseFloat < w.looseFloat ↔ floatAmount a < floatAmount b :=
  ((hv.standsAt ha).lt_iff (hw.standsAt hb)).trans (floatPlace_lt_iff a b)

theorem looseFloat_le_iff : v.looseFloat ≤ w.looseFloat ↔ floatAmount a ≤ floatAmount b := by
  rw [(hv.standsAt ha).le_iff (hw.standsAt hb), ← Int.not_lt, floatPlace_lt_iff, Int.not_lt]

theorem answers_lt : Answers now "lt" v w (floatAmount a < floatAmount b) := by
  apply answers_of_call (decide (v.looseFloat < w.looseFloat)) rfl
  rw [decide_eq_true_iff, looseFloat_lt_iff ha hb hv hw]

theorem answers_gt : Answers now "gt" v w (floatAmount b < floatAmount a) := by
  apply answers_of_call (decide (w.looseFloat < v.looseFloat)) rfl
  rw [decide_eq_true_iff, looseFloat_lt_iff hb ha hw hv]

theorem answers_lte : Answers now "lte" v w (floatAmount a ≤ floatAmount b) := by
  apply answers_of_call (decide (v.looseFloat ≤ w.looseFloat)) rfl
  rw [decide_eq_true_iff, looseFloat_le_iff ha hb hv hw]

theorem answers_gte : Answers now "gte" v w (floatAmount b ≤ floatAmount a) := by
  apply answers_of_call (decide (w.looseFloat ≤ v.looseFloat)) rfl
  rw [decide_eq_true_iff, looseFloat_le_iff hb ha hw hv]

theorem answers_order_iff :
    name ∈ ["lt", "eq", "gt"] ∧ Answers now name v w True ↔
      name = "lt" ∧ floatAmount a < floatAmount b ∨ name = "eq" ∧ a = b ∨
        name = "gt" ∧ floatAmount b < floatAmount a := by
  have hlt : Answers now "lt" v w True ↔ floatAmount a < floatAmount b :=
    (answers_lt ha hb hv hw).true_iff
  have heq : Answers now "eq" v w True ↔ a = b := (answers_eq ha hb hv hw).true_iff
  have hgt : Answers now "gt" v w True ↔ floatAmount b < floatAmount a :=
    (answers_gt ha hb hv hw).true_iff
  constructor
  · rintro ⟨hname, htrue⟩
    simp only [List.mem_cons, List.not_mem_nil, or_false] at hname
    rcases hname with rfl | rfl | rfl
    · exact .inl ⟨rfl, hlt.mp htrue⟩
    · exact .inr (.inl ⟨rfl, heq.mp htrue⟩)
    · exact .inr (.inr ⟨rfl, hgt.mp htrue⟩)
  · rintro (⟨rfl, h⟩ | ⟨rfl, h⟩ | ⟨rfl, h⟩)
    · exact ⟨by decide, hlt.mpr h⟩
    · exact ⟨by decide, heq.mpr h⟩
    · exact ⟨by decide, hgt.mpr h⟩

theorem existsUnique_order_iff :
    (∃! name, name ∈ ["lt", "eq", "gt"] ∧ Answers now name v w True) ↔
      (a = b ∨ floatAmount a ≠ floatAmount b) := by
  simp only [ExistsUnique, answers_order_iff ha hb hv hw]
  constructor
  · rintro ⟨name, ⟨-, hlt⟩ | ⟨-, heq⟩ | ⟨-, hgt⟩, -⟩
    · exact .inr hlt.ne
    · exact .inl heq
    · exact .inr hgt.ne'
  · intro h
    have hthree : floatAmount a < floatAmount b ∨ a = b ∨ floatAmount b < floatAmount a := by
      rcases h with heq | hne
      · exact .inr (.inl heq)
      · exact hne.lt_or_gt.imp id .inr
    rcases hthree with hlt | rfl | hgt
    · refine ⟨"lt", .inl ⟨rfl, hlt⟩, ?_⟩
      rintro name (⟨rfl, -⟩ | ⟨-, rfl⟩ | ⟨-, hgt⟩)
      · rfl
      · exact absurd hlt (lt_irrefl _)
      · exact absurd hlt hgt.not_gt
    · refine ⟨"eq", .inr (.inl ⟨rfl, rfl⟩), ?_⟩
      rintro name (⟨-, hlt⟩ | ⟨rfl, -⟩ | ⟨-, hlt⟩)
      · exact absurd hlt (lt_irrefl _)
      · rfl
      · exact absurd hlt (lt_irrefl _)
    · refine ⟨"gt", .inr (.inr ⟨rfl, hgt⟩), ?_⟩
      rintro name (⟨-, hlt⟩ | ⟨-, rfl⟩ | ⟨rfl, -⟩)
      · exact absurd hlt hgt.not_gt
      · exact absurd hgt (lt_irrefl _)
      · rfl

end

/-- The order of the nearest floats is never the reverse of the integers' own, and an integer with
at most 53 bits is its own nearest float. -/
theorem integers_compare (now : Moment) {a b : Int} {v w : Value} (ha : Writable a)
    (hb : Writable b) (hv : v.Spells a) (hw : w.Spells b) :
    Answers now "eq" v w (a = b) ∧ Answers now "ne" v w (a ≠ b) ∧
      Answers now "gt" v w (floatAmount b < floatAmount a) ∧
      Answers now "lt" v w (floatAmount a < floatAmount b) ∧
      Answers now "gte" v w (floatAmount b ≤ floatAmount a) ∧
      Answers now "lte" v w (floatAmount a ≤ floatAmount b) ∧
      ((∃! name, name ∈ ["lt", "eq", "gt"] ∧ Answers now name v w True) ↔
        (a = b ∨ floatAmount a ≠ floatAmount b)) ∧
      (a ≤ b → floatAmount a ≤ floatAmount b) ∧
      ((floatAmount a).natAbs < 2 ^ 1024 → IsNearest (floatAmount a) a) ∧
      (a.natAbs ≤ 2 ^ 53 → floatAmount a = a) :=
  ⟨answers_eq ha hb hv hw, answers_ne ha hb hv hw, answers_gt ha hb hv hw, answers_lt ha hb hv hw,
    answers_gte ha hb hv hw, answers_lte ha hb hv hw, existsUnique_order_iff ha hb hv hw,
    fun h => floatAmount_mono h, isNearest_floatAmount, floatAmount_eq_self⟩

theorem integers_compare_neighbours :
    call standard Moment.epoch "gt".toList
        [.text "9007199254740993".toList, .int 9007199254740992] = .ok (.bool false) ∧
      call standard Moment.epoch "lte".toList
        [.text "9007199254740993".toList, .int 9007199254740992] = .ok (.bool true) := by
  have hodd : Writable 9007199254740993 := by decide +kernel
  have heven : Writable 9007199254740992 := by decide +kernel
  have htext : "9007199254740993".toList = Text.ofInt 9007199254740993 := by decide +kernel
  have hsame : floatAmount 9007199254740993 = floatAmount 9007199254740992 := by decide +kernel
  obtain ⟨-, -, hgt, -, -, hlte, -⟩ := integers_compare Moment.epoch hodd heven .text .int
  rw [htext]
  refine ⟨hgt.trans ?_, hlte.trans ?_⟩
  · rw [hsame, decide_eq_false (lt_irrefl _)]
  · rw [hsame, decide_eq_true (le_refl _)]

theorem neighbours_unordered :
    ¬ ∀ (now : Moment) (a b : Int) (v w : Value), Writable a → Writable b → v.Spells a →
      w.Spells b →
        Answers now "gt" v w (b < a) ∧ Answers now "lt" v w (a < b) ∧
          Answers now "gte" v w (b ≤ a) ∧ Answers now "lte" v w (a ≤ b) ∧
          ∃! name, name ∈ ["lt", "eq", "gt"] ∧ Answers now name v w True := by
  intro h
  have hodd : Writable 9007199254740993 := by decide +kernel
  have heven : Writable 9007199254740992 := by decide +kernel
  obtain ⟨-, -, -, -, hone⟩ := h Moment.epoch _ _ _ _ hodd heven .int .int
  rcases (existsUnique_order_iff hodd heven .int .int).mp hone with heq | hne
  · exact absurd heq (by decide)
  · exact absurd (by decide +kernel) hne

end Function

end Stencil
