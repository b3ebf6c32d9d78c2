import Stencil.Text.Basic

namespace Stencil

open Text

/-- What holds of the characters of a text is decided along the text, not over all characters. -/
instance Text.decidableForallMem (s : Text) (p : Char → Prop) [DecidablePred p] :
    Decidable (∀ c ∈ s, p c) :=
  List.decidableBAll p s

/-! Templates as sequences of tokens: text in which no directive opens, and directives in whose
inside none opens or closes. Such a template is read back token by token. -/

def Text.Unclosed (s : Text) : Prop := ∀ c ∈ s, c ≠ '}'

instance (s : Text) : Decidable s.Unclosed := inferInstanceAs (Decidable (∀ c ∈ s, c ≠ '}'))

theorem Text.Unclosed.of_sublist {s t : Text} (h : t.Unclosed) (hsub : s.Sublist t) :
    s.Unclosed :=
  fun c hmem => h c (hsub.subset hmem)

def Text.Braceless (s : Text) : Prop := ∀ c ∈ s, c ≠ '{' ∧ c ≠ '}'

namespace Text.Braceless

instance (s : Text) : Decidable s.Braceless :=
  inferInstanceAs (Decidable (∀ c ∈ s, c ≠ '{' ∧ c ≠ '}'))

theorem tail {c : Char} {s : Text} (h : Text.Braceless (c :: s)) : Text.Braceless s :=
  fun d hmem => h d (List.mem_cons_of_mem c hmem)

end Text.Braceless

/-- No directive opens in a text, whatever follows it: an opening brace is always followed by
another character. -/
def Text.Unopened : Text → Prop
  | [] => True
  | c :: s => (c = '{' → s.head?.any (· != '{') = true) ∧ Text.Unopened s

namespace Text.Unopened

instance instDecidable : (s : Text) → Decidable s.Unopened
  | [] => inferInstanceAs (Decidable True)
  | _ :: s => @instDecidableAnd _ _ inferInstance (instDecidable s)

@[simp] theorem nil : Text.Unopened [] := trivial

theorem tail {c : Char} {s : Text} (h : Text.Unopened (c :: s)) : Text.Unopened s := h.2

theorem cons {c : Char} {s : Text} (hc : c ≠ '{') (h : Text.Unopened s) :
    Text.Unopened (c :: s) :=
  ⟨fun heq => absurd heq hc, h⟩

theorem append {s t : Text} (hs : Text.Unopened s) (ht : Text.Unopened t) :
    Text.Unopened (s ++ t) := by
  induction s with
  | nil => exact ht
  | cons c s ih =>
      refine ⟨fun hc => ?_, ih hs.tail⟩
      have hnext := hs.1 hc
      cases s with
      | nil => cases hnext
      | cons d s => exact hnext

theorem of_append_right {s t : Text} (h : Text.Unopened (s ++ t)) : Text.Unopened t := by
  induction s with
  | nil => exact h
  | cons c s ih => exact ih h.tail

theorem of_suffix {s t : Text} (h : Text.Unopened t) (hsuffix : s <:+ t) : Text.Unopened s := by
  obtain ⟨u, rfl⟩ := hsuffix
  exact h.of_append_right

theorem of_append_cons {s t u : Text} {c : Char} (hc : c ≠ '{')
    (h : Text.Unopened (s ++ c :: t)) (hu : Text.Unopened u) :
    Text.Unopened (s ++ c :: u) := by
  induction s with
  | nil => exact hu.cons hc
  | cons d s ih =>
      refine ⟨fun hd => ?_, ih h.tail⟩
      have hnext := h.1 hd
      cases s with
      | nil => simpa using hc
      | cons e s => exact hnext

theorem flatten {parts : List Text} (h : ∀ part ∈ parts, Text.Unopened part) :
    Text.Unopened parts.flatten := by
  induction parts with
  | nil => exact nil
  | cons part parts ih =>
      exact (h part List.mem_cons_self).append
        (ih fun other hmem => h other (List.mem_cons_of_mem _ hmem))

end Text.Unopened

/-- What stands between the braces of a directive: no directive closes in it, and none opens in it,
also not with the braces around it. -/
structure Text.Enclosed (s : Text) : Prop where
  unclosed : s.Unclosed
  head_ne : s.head? ≠ some '{'
  unopened : (s ++ ['}']).Unopened

instance (s : Text) : Decidable s.Enclosed :=
  decidable_of_iff (s.Unclosed ∧ s.head? ≠ some '{' ∧ (s ++ ['}']).Unopened)
    ⟨fun h => ⟨h.1, h.2.1, h.2.2⟩, fun h => ⟨h.unclosed, h.head_ne, h.unopened⟩⟩

theorem Text.Braceless.unclosed {s : Text} (h : s.Braceless) : s.Unclosed :=
  fun c hmem => (h c hmem).2

theorem Text.Braceless.unopened {s : Text} (h : s.Braceless) : s.Unopened := by
  induction s with
  | nil => exact .nil
  | cons c s ih =>
      exact (ih h.tail).cons (h c List.mem_cons_self).1

theorem Text.Braceless.enclosed {s : Text} (h : s.Braceless) : s.Enclosed where
  unclosed := h.unclosed
  head_ne hhead := (h _ (List.mem_of_mem_head? hhead)).1 rfl
  unopened := h.unopened.append (by decide)

/-- A text in which no directive opens, such as one without braces. -/
structure Plain where
  text : Text
  unopened : text.Unopened

structure Inside where
  text : Text
  enclosed : text.Enclosed

def mark (inside : Text) : Text := '{' :: '{' :: (inside ++ ['}', '}'])

theorem Inside.unopened_tail (inside : Inside) :
    Text.Unopened ('{' :: (inside.text ++ ['}', '}'])) := by
  have hclosed := inside.enclosed.unopened.append (t := ['}']) (by decide)
  rw [List.append_assoc] at hclosed
  refine ⟨fun _ => ?_, hclosed⟩
  cases htext : inside.text with
  | nil => rfl
  | cons c rest =>
      have hne : c ≠ '{' := fun heq => inside.enclosed.head_ne (by rw [htext, heq, List.head?_cons])
      simpa using hne

inductive Token
  | text (s : Plain)
  | directive (inside : Inside)

def spell : List Token → Text
  | [] => []
  | .text s :: tokens => s.text ++ spell tokens
  | .directive inside :: tokens => mark inside.text ++ spell tokens

def directives : List Token → List Text
  | [] => []
  | .text _ :: tokens => directives tokens
  | .directive inside :: tokens => inside.text :: directives tokens

@[simp] theorem spell_nil : spell [] = [] := rfl

@[simp] theorem spell_text (s : Plain) (tokens : List Token) :
    spell (.text s :: tokens) = s.text ++ spell tokens := rfl

@[simp] theorem spell_directive (inside : Inside) (tokens : List Token) :
    spell (.directive inside :: tokens) = mark inside.text ++ spell tokens := rfl

@[simp] theorem directives_nil : directives [] = [] := rfl

@[simp] theorem directives_text (s : Plain) (tokens : List Token) :
    directives (.text s :: tokens) = directives tokens := rfl

@[simp] theorem directives_directive (inside : Inside) (tokens : List Token) :
    directives (.directive inside :: tokens) = inside.text :: directives tokens := rfl

@[simp] theorem spell_append (first second : List Token) :
    spell (first ++ second) = spell first ++ spell second := by
  induction first with
  | nil => rfl
  | cons token tokens ih => cases token <;> simp [ih]

@[simp] theorem directives_append (first second : List Token) :
    directives (first ++ second) = directives first ++ directives second := by
  induction first with
  | nil => rfl
  | cons token tokens ih => cases token <;> simp [ih]

theorem directives_sublist {some all : List Token} (h : some.Sublist all) :
    (directives some).Sublist (directives all) := by
  induction h with
  | slnil => exact .slnil
  | cons token _ ih =>
      cases token with
      | text s => exact ih
      | directive inside => exact ih.cons _
  | cons_cons token _ ih =>
      cases token with
      | text s => exact ih
      | directive inside => exact ih.cons_cons _

theorem length_mark (inside : Text) : (mark inside).length = inside.length + 4 := by
  simp only [mark, List.length_cons, List.length_append, List.length_nil]

theorem mark_append (inside rest : Text) :
    mark inside ++ rest = '{' :: '{' :: (inside ++ '}' :: '}' :: rest) := by
  simp only [mark, List.cons_append, List.append_assoc, List.nil_append]

theorem infix_of_mem_directives {tokens : List Token} {inside : Text}
    (h : inside ∈ directives tokens) : inside <:+: spell tokens := by
  induction tokens with
  | nil => cases h
  | cons token tokens ih =>
      cases token with
      | text s => exact (ih h).trans (List.suffix_append _ _).isInfix
      | directive d =>
          rcases List.mem_cons.mp h with rfl | hrest
          · exact ⟨['{', '{'], '}' :: '}' :: spell tokens, by simp [mark]⟩
          · exact (ih hrest).trans (List.suffix_append _ _).isInfix

theorem enclosed_of_mem_directives {tokens : List Token} {inside : Text}
    (h : inside ∈ directives tokens) : inside.Enclosed := by
  induction tokens with
  | nil => cases h
  | cons token tokens ih =>
      cases token with
      | text s => exact ih h
      | directive d =>
          rcases List.mem_cons.mp h with rfl | hrest
          · exact d.enclosed
          · exact ih hrest

theorem length_directives_le (tokens : List Token) :
    (directives tokens).length ≤ (spell tokens).length := by
  induction tokens with
  | nil => exact Nat.le_refl 0
  | cons token tokens ih =>
      cases token with
      | text s =>
          simp only [directives_text, spell_text, List.length_append]
          omega
      | directive inside =>
          simp only [directives_directive, spell_directive, List.length_append, length_mark,
            List.length_cons]
          omega

theorem unopened_spell {tokens : List Token} (h : directives tokens = []) :
    Text.Unopened (spell tokens) := by
  induction tokens with
  | nil => exact .nil
  | cons token tokens ih =>
      cases token with
      | text s => exact s.unopened.append (ih h)
      | directive d => cases h

end Stencil
