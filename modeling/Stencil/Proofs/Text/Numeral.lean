import Stencil.Number.Reading
import Stencil.Proofs.Eval.Result
import Stencil.Proofs.Text.Blank

namespace Stencil.Text

/-! Decimal digits of any script are read as the number that they write. -/

theorem digitValue?_cases {c : Char} {n : Nat} (h : digitValue? c = some n) :
    (48 ≤ c.toNat ∧ c.toNat ≤ 57 ∧ n = c.toNat - 48) ∨
      (128 ≤ c.toNat ∧ ∃ first ∈ decimalZeros, first ≤ c.toNat ∧ c.toNat ≤ first + 9 ∧
        n = c.toNat - first) := by
  simp only [digitValue?] at h
  split at h
  · split at h
    · next hdigit =>
        cases h
        left
        simpa only [isAsciiDigit, Bool.and_eq_true, decide_eq_true_eq, and_assoc, and_true]
          using hdigit
    · cases h
  · next hwide =>
      obtain ⟨first, hfirst, rfl⟩ := Option.map_eq_some_iff.mp h
      have hrange := List.find?_some hfirst
      simp only [Bool.and_eq_true, decide_eq_true_eq] at hrange
      right
      exact ⟨Nat.le_of_not_lt hwide, first, List.mem_of_find?_eq_some hfirst, hrange.1, hrange.2,
        rfl⟩

theorem wideBlanks_not_decimal :
    (decimalZeros.all fun first =>
      wideBlanks.all fun blank => Nat.blt (first + 9) blank.1 || Nat.blt blank.2 first) = true := by
  decide +kernel

theorem isBlank_eq_false_of_isDecimal {c : Char} (h : isDecimal c = true) : isBlank c = false := by
  obtain ⟨n, hn⟩ := Option.isSome_iff_exists.mp h
  rw [← Bool.not_eq_true]
  intro hblank
  rcases digitValue?_cases hn with hnarrow | ⟨hwide, first, hfirst, hlo, hhi, -⟩
  · simp only [isBlank, Bool.or_eq_true, Bool.and_eq_true, decide_eq_true_eq,
      beq_iff_eq] at hblank
    omega
  · obtain ⟨blank, hmem, hlo', hhi'⟩ := exists_wideBlank hblank hwide
    have hapart :=
      List.all_eq_true.mp (List.all_eq_true.mp wideBlanks_not_decimal first hfirst) blank hmem
    simp only [Bool.or_eq_true, Nat.blt_eq] at hapart
    omega

def digit (c : Char) : Nat := (digitValue? c).getD 0

def plainDigit (c : Char) : Char := Char.ofNat (48 + digit c)

theorem digit_le (c : Char) : digit c ≤ 9 := by
  unfold digit
  cases hvalue : digitValue? c with
  | none => exact Nat.zero_le 9
  | some n =>
      rw [Option.getD_some]
      rcases digitValue?_cases hvalue with hnarrow | ⟨-, first, -, hrange⟩
      · omega
      · omega

theorem toNat_plainDigit (c : Char) : (plainDigit c).toNat = 48 + digit c := by
  have hle := digit_le c
  have hvalid : (48 + digit c).isValidChar := .inl (by omega)
  rw [plainDigit, Char.ofNat, dif_pos hvalid]
  rfl

theorem isAsciiDigit_plainDigit (c : Char) : isAsciiDigit (plainDigit c) = true := by
  have hle := digit_le c
  simp only [isAsciiDigit, toNat_plainDigit, Bool.and_eq_true, decide_eq_true_eq]
  omega

/-- An optional minus and decimal digits, few enough to be read. -/
structure Numeral where
  negative : Bool
  digits : Text
  ne_nil : digits ≠ []
  isDecimal : ∀ c ∈ digits, isDecimal c = true
  length_le : digits.length ≤ maxDigits

namespace Numeral

def sign (n : Numeral) : Text := if n.negative then ['-'] else []

def text (n : Numeral) : Text := n.sign ++ n.digits

def magnitude (n : Numeral) : Nat := n.digits.foldl (fun m c => 10 * m + digit c) 0

def value (n : Numeral) : Int := if n.negative then -(n.magnitude : Int) else n.magnitude

end Numeral

theorem plain_of_isDecimal {c : Char} (h : isDecimal c = true) :
    (if c.toNat < 127 then some c else if isBlank c then some ' '
      else (digitValue? c).map fun n => Char.ofNat (48 + n)) = some (plainDigit c) := by
  obtain ⟨n, hn⟩ := Option.isSome_iff_exists.mp h
  have hdigit : digit c = n := by rw [digit, hn, Option.getD_some]
  split
  · next hnarrow =>
      rcases digitValue?_cases hn with ⟨hlo, hhi, rfl⟩ | ⟨hwide, -⟩
      · refine congrArg some (Char.toNat_inj.mp ?_)
        rw [toNat_plainDigit, hdigit]
        omega
      · omega
  · rw [isBlank_eq_false_of_isDecimal h, if_neg Bool.false_ne_true, hn, Option.map_some,
      plainDigit, hdigit]

theorem digitsOf_map_plainDigit (s : Text) :
    digitsOf (s.map plainDigit) = s.foldl (fun m c => 10 * m + digit c) 0 := by
  rw [digitsOf, List.foldl_map]
  congr 1
  funext m c
  rw [toNat_plainDigit, Nat.add_sub_cancel_left]

theorem strip_of_ends {p : Char → Bool} {s : Text} (hhead : ∀ c ∈ s.head?, p c = false)
    (hlast : ∀ c ∈ s.getLast?, p c = false) : strip p s = s := by
  have hleft : ∀ t : Text, (∀ c ∈ t.head?, p c = false) → t.dropWhile p = t := by
    intro t ht
    cases t with
    | nil => rfl
    | cons c t => rw [List.dropWhile_cons_of_neg (by simp [ht c rfl])]
  rw [strip, hleft s hhead, dropWhileEnd, hleft, List.reverse_reverse]
  rwa [List.head?_reverse]

theorem isSpace_plainDigit (c : Char) : isSpace (plainDigit c) = false := by
  simp only [isSpace, toNat_plainDigit, Bool.or_eq_false_iff, Bool.and_eq_false_iff,
    decide_eq_false_iff_not, beq_eq_false_iff_ne]
  omega

theorem Numeral.eq_of_mem_sign {n : Numeral} {c : Char} (h : c ∈ n.sign) : c = '-' := by
  unfold sign at h
  split at h
  · exact List.mem_singleton.mp h
  · cases h

theorem Numeral.isAsciiDigit_of_mem {n : Numeral} {c : Char} (h : c ∈ n.digits.map plainDigit) :
    isAsciiDigit c = true := by
  obtain ⟨d, -, rfl⟩ := List.mem_map.mp h
  exact isAsciiDigit_plainDigit d

theorem mapM_plain {s : Text} (h : ∀ c ∈ s, isDecimal c = true) :
    (s.mapM fun c : Char =>
      if c.toNat < 127 then some c else if isBlank c then some ' '
      else (digitValue? c).map fun n => Char.ofNat (48 + n)) = some (s.map plainDigit) :=
  mapM_eq_some_map fun c hc => plain_of_isDecimal (h c hc)

theorem plainNumber?_signed (negative : Bool) {s : Text} (h : ∀ c ∈ s, isDecimal c = true) :
    plainNumber? ((if negative then ['-'] else []) ++ s) =
      some ((if negative then ['-'] else []) ++ s.map plainDigit) := by
  have hspace : ∀ c ∈ (if negative then ['-'] else []) ++ s.map plainDigit,
      isSpace c = false := by
    intro c hc
    rcases List.mem_append.mp hc with hc | hc
    · split at hc
      · rw [List.mem_singleton.mp hc]
        rfl
      · cases hc
    · obtain ⟨d, _, rfl⟩ := List.mem_map.mp hc
      exact isSpace_plainDigit d
  have hstrip := strip_of_ends (fun c hc => hspace c (List.mem_of_mem_head? hc))
    fun c hc => hspace c (List.mem_of_mem_getLast? hc)
  rw [plainNumber?, List.mapM_append, mapM_plain h, ← hstrip]
  cases negative <;> rfl

theorem dropUnderscores?_map_plainDigit (before : Char) (hbefore : (before == '_') = false)
    (s : Text) : dropUnderscores? before (s.map plainDigit) = some (s.map plainDigit) := by
  induction s generalizing before with
  | nil => simp [dropUnderscores?, hbefore]
  | cons c s ih =>
      have hplain : (plainDigit c == '_') = false :=
        beq_eq_false_iff_ne.mpr (ne_of_holds (isAsciiDigit_plainDigit c) rfl)
      simp [dropUnderscores?, hbefore, hplain, ih]

theorem splitSign_signed (negative : Bool) {s : Text} (hne : s ≠ []) :
    splitSign ((if negative then ['-'] else []) ++ s.map plainDigit) =
      (negative, s.map plainDigit) := by
  obtain ⟨c, digits, rfl⟩ := List.exists_cons_of_ne_nil hne
  cases negative with
  | true => rfl
  | false =>
      have hne : ∀ d, isAsciiDigit d = false → plainDigit c ≠ d :=
        fun _ => ne_of_holds (isAsciiDigit_plainDigit c)
      simp only [Bool.false_eq_true, if_false, List.nil_append, List.map_cons]
      unfold splitSign
      split
      · next heq => exact absurd (List.cons.inj heq).1 (hne _ rfl)
      · next heq => exact absurd (List.cons.inj heq).1 (hne _ rfl)
      · rfl

theorem toInt?_signed (negative : Bool) {s : Text} (hne : s ≠ [])
    (h : ∀ c ∈ s, isDecimal c = true) :
    toInt? ((if negative then ['-'] else []) ++ s) =
      if maxDigits < s.length then none
      else some (Dyadic.signed negative (s.foldl (fun m c => 10 * m + digit c) 0)) := by
  have hsome : (s.map plainDigit).isEmpty = false := by simpa using hne
  have hall : (s.map plainDigit).all isAsciiDigit = true :=
    List.all_eq_true.mpr fun c hc => by
      obtain ⟨d, -, rfl⟩ := List.mem_map.mp hc
      exact isAsciiDigit_plainDigit d
  simp only [toInt?, plainNumber?_signed negative h, bind, Option.bind_some,
    splitSign_signed negative hne, dropUnderscores?_map_plainDigit ' ' rfl, hsome, hall,
    digitsOf_map_plainDigit, List.length_map, Bool.not_true, Bool.false_or, decide_eq_true_eq]

theorem toInt?_numeral (n : Numeral) : toInt? n.text = some n.value := by
  have hread := toInt?_signed n.negative n.ne_nil n.isDecimal
  rw [if_neg (Nat.not_lt.mpr n.length_le)] at hread
  exact hread

theorem decimalFloat?_of_digits (negative : Bool) {s : Text} (hne : s ≠ [])
    (hall : ∀ c ∈ s, isAsciiDigit c = true) :
    decimalFloat? negative s = some (floatOfDecimal negative (digitsOf s) 0) := by
  have hsome : s.isEmpty = false := by simpa using hne
  unfold decimalFloat?
  simp only [takeWhile_eq_self hall, dropWhile_eq_nil hall, hsome, Bool.false_and, exponent?,
    List.append_nil]
  rfl

theorem toLower_of_isAsciiDigit {c : Char} (h : isAsciiDigit c = true) : c.toLower = c := by
  rw [isAsciiDigit, Bool.and_eq_true, decide_eq_true_eq, decide_eq_true_eq] at h
  unfold Char.toLower
  refine dif_neg fun hletter => ?_
  have hcode : 65 ≤ c.toNat := hletter.1
  omega

theorem toFloat?_numeral (n : Numeral) :
    toFloat? n.text = some (floatOfDecimal n.negative n.magnitude 0) := by
  have hplain : plainNumber? n.text = some (n.sign ++ n.digits.map plainDigit) :=
    plainNumber?_signed n.negative n.isDecimal
  have hsplit : splitSign (n.sign ++ n.digits.map plainDigit) =
      (n.negative, n.digits.map plainDigit) :=
    splitSign_signed n.negative n.ne_nil
  have hdigit : ∀ c ∈ n.digits.map plainDigit, isAsciiDigit c = true :=
    fun _ => Numeral.isAsciiDigit_of_mem
  have hne : n.digits.map plainDigit ≠ [] := by simpa using n.ne_nil
  have hunderscore : (n.sign ++ n.digits.map plainDigit).any (· == '_') = false := by
    rw [List.any_eq_false]
    intro c hc
    rw [beq_iff_eq]
    rcases List.mem_append.mp hc with hc | hc
    · rw [Numeral.eq_of_mem_sign hc]
      decide
    · exact ne_of_holds (hdigit c hc) rfl
  have hlower : (n.digits.map plainDigit).map Char.toLower = n.digits.map plainDigit :=
    (List.map_congr_left fun c hc => toLower_of_isAsciiDigit (hdigit c hc)).trans (List.map_id _)
  -- words for an infinity or for not-a-number begin with a letter
  have hword : ∀ c s, isAsciiDigit c = false → (n.digits.map plainDigit == c :: s) = false := by
    intro c s hc
    rw [beq_eq_false_iff_ne]
    intro heq
    rw [hdigit c (heq ▸ List.mem_cons_self)] at hc
    cases hc
  have hinf : (n.digits.map plainDigit == "inf".toList) = false := hword 'i' _ rfl
  have hinfinity : (n.digits.map plainDigit == "infinity".toList) = false := hword 'i' _ rfl
  have hnan : (n.digits.map plainDigit == "nan".toList) = false := hword 'n' _ rfl
  unfold toFloat?
  simp only [hplain, bind, Option.bind_some, hunderscore, Bool.false_eq_true, if_false, hsplit,
    hlower, hinf, hinfinity, hnan, Bool.or_self]
  rw [decimalFloat?_of_digits _ hne hdigit, digitsOf_map_plainDigit]
  rfl

end Stencil.Text
