import Stencil.Proofs.Token.Pattern

namespace Stencil.Template

open Stencil.Text

/-! The pairing of openers and closers, one token at a time. -/

namespace BlockReading

@[simp] theorem isSome_divider?_add (r : BlockReading) (s : Text) :
    (r.add s).divider? = r.divider? := by
  unfold add
  split <;> rfl

@[simp] theorem add_add (r : BlockReading) (s t : Text) : (r.add s).add t = r.add (s ++ t) := by
  cases hdivider : r.divider? <;> simp [add, hdivider]

@[simp] theorem add_nil (r : BlockReading) : r.add [] = r := by
  unfold add
  split <;> simp

theorem divide_append (r : BlockReading) (depth : Nat) (s before divider : Text) :
    r.divide depth (s ++ before) divider = (r.add s).divide depth before divider := by
  unfold divide
  rw [isSome_divider?_add, add_add, add_add, List.append_assoc]

theorem divide_succ (r : BlockReading) (depth : Nat) (before divider : Text) :
    r.divide (depth + 1) before divider = r.add (before ++ divider) := by
  simp [divide]

end BlockReading

namespace BlockKind

variable {kind : BlockKind} {depth : Nat} {read : BlockReading} {inside : Text}

instance : (kind.closer).Whole := by
  cases kind <;> exact inferInstanceAs (tag _).Whole

instance : (kind.divider).Whole := by
  cases kind
  case conditional => exact inferInstanceAs (tag _).Whole
  all_goals exact inferInstanceAs (Scanner.Whole fun _ => none)

instance : (kind.opener).AtMarks := by
  cases kind
  case conditional => exact inferInstanceAs ((operand "if".toList).map fun c => [c]).AtMarks
  case loop => exact inferInstanceAs (forOpener.map fun x => [x.1, x.2]).AtMarks
  case range => exact inferInstanceAs ((operand "range".toList).map fun e => [e]).AtMarks
  case block => exact inferInstanceAs ((quotedName "block".toList).map fun n => [n]).AtMarks

def markCut? (kind : BlockKind) (s : Text) : Option (Cut Mark) :=
  let opener? := (kind.opener.cut? s).map fun o => { o with value := Mark.opener }
  let divider? := (kind.divider.cut? s).map fun d => { d with value := Mark.divider }
  match opener?, divider? with
  | some o, some d => if o.before.length < d.before.length then some o else some d
  | some o, none => some o
  | none, d? => d?

theorem mark?_cut (s : Text) : (kind.mark? s).map Found.cut = kind.markCut? s := by
  unfold mark? markCut? Scanner.cut?
  cases kind.opener.find? s with
  | none => cases kind.divider.find? s <;> rfl
  | some o =>
      cases kind.divider.find? s with
      | none => rfl
      | some d =>
          simp only [Option.map_some, Found.cut]
          split <;> rfl

theorem readBlock?_eq (kind : BlockKind) (depth : Nat) (read : BlockReading) (s : Text) :
    kind.readBlock? depth read s =
      match kind.closer.cut? s with
      | none => none
      | some c =>
          match kind.markCut? c.before with
          | some m =>
              let rest := s.drop (c.before.length - m.after.length)
              match m.value with
              | .opener => kind.readBlock? (depth + 1) (read.add (m.before ++ m.matched)) rest
              | .divider => kind.readBlock? depth (read.divide depth m.before m.matched) rest
          | none =>
              match depth with
              | 0 =>
                  let read := read.add c.before
                  some ⟨read.first, read.divider?, read.second, c.matched, c.after⟩
              | depth + 1 => kind.readBlock? depth (read.add (c.before ++ c.matched)) c.after := by
  rw [readBlock?]
  simp only [Scanner.cut?, ← mark?_cut]
  cases kind.closer.find? s with
  | none => rfl
  | some c =>
      simp only [Option.map_some, Found.cut]
      cases kind.mark? c.before with
      | none => rfl
      | some m => rfl

structure Passes (kind : BlockKind) (t : Text) : Prop where
  opener : kind.opener.PassesOver t
  divider : kind.divider.PassesOver t
  closer : kind.closer.PassesOver t

theorem passes_of_unopened {t : Text} (h : t.Unopened) : kind.Passes t where
  opener := Scanner.cut?_append_of_unopened h
  divider := Scanner.cut?_append_of_unopened h
  closer := Scanner.cut?_append_of_unopened h

theorem Passes.append {t u : Text} (ht : kind.Passes t) (hu : kind.Passes u) :
    kind.Passes (t ++ u) where
  opener := ht.opener.append hu.opener
  divider := ht.divider.append hu.divider
  closer := ht.closer.append hu.closer

theorem passes_mark (h : inside.Enclosed) (hopener : kind.opener.ReadsWhole inside)
    (hopens : kind.opener.onMark inside = none) (hdivides : kind.divider.onMark inside = none)
    (hcloses : kind.closer.onMark inside = none) : kind.Passes (mark inside) where
  opener := Scanner.cut?_mark_of_none h hopener hopens
  divider := Scanner.cut?_mark_of_none h (Scanner.Whole.reads h.unclosed) hdivides
  closer := Scanner.cut?_mark_of_none h (Scanner.Whole.reads h.unclosed) hcloses

def words : BlockKind → List Text
  | .conditional => ["if".toList, "else".toList, "endif".toList]
  | .loop => ["for".toList, "endfor".toList]
  | .range => ["range".toList, "end".toList]
  | .block => ["block".toList, "endblock".toList]

theorem keyword_of_mem_words {word : Text} (h : word ∈ kind.words) : Keyword word where
  mem := by
    cases kind with
    | conditional => exact (by decide : ∀ w ∈ conditional.words, w ∈ controlWords) word h
    | loop => exact (by decide : ∀ w ∈ loop.words, w ∈ controlWords) word h
    | range => exact (by decide : ∀ w ∈ range.words, w ∈ controlWords) word h
    | block => exact (by decide : ∀ w ∈ block.words, w ∈ controlWords) word h

theorem passes_of_head? (h : inside.Enclosed)
    (hhead : ∀ word ∈ kind.words, (Text.words inside).head? ≠ some word) :
    kind.Passes (mark inside) := by
  have hopener : kind.opener.ReadsWhole inside ∧ kind.opener.onMark inside = none := by
    cases kind with
    | conditional =>
        have hwhole : (operand "if".toList).ReadsWhole inside := Scanner.Whole.reads h.unclosed
        exact hwhole.map_none (operand_onMark_of_head? h.unclosed (hhead _ (by decide)))
          fun c => [c]
    | loop =>
        have hwhole : forOpener.ReadsWhole inside := Scanner.Whole.reads h.unclosed
        exact hwhole.map_none (forOpener_onMark_of_head? h.unclosed (hhead _ (by decide)))
          fun x => [x.1, x.2]
    | range =>
        have hwhole : (operand "range".toList).ReadsWhole inside := Scanner.Whole.reads h.unclosed
        exact hwhole.map_none (operand_onMark_of_head? h.unclosed (hhead _ (by decide)))
          fun e => [e]
    | block =>
        have hnone : ∀ rest, quotedName "block".toList (mark inside ++ rest) =
            (none : Option Text).map (·, rest) :=
          quotedName_mark_of_head? (hhead _ (by decide))
        exact (Scanner.readsWhole_of none hnone).map_none (Scanner.onMark_eq hnone) fun n => [n]
  have hdivides : kind.divider.onMark inside = none := by
    cases kind with
    | conditional => exact tag_onMark_of_head? h.unclosed (hhead _ (by decide))
    | _ => rfl
  have hcloses : kind.closer.onMark inside = none := by
    cases kind <;> exact tag_onMark_of_head? h.unclosed (hhead _ (by decide))
  exact passes_mark h hopener.1 hopener.2 hdivides hcloses

structure Opens (kind : BlockKind) (inside : Text) : Prop where
  enclosed : inside.Enclosed
  reads : kind.opener.ReadsWhole inside
  opens : ∃ captures, kind.opener.onMark inside = some captures
  divides : kind.divider.onMark inside = none
  closes : kind.closer.onMark inside = none

structure Divides (kind : BlockKind) (inside : Text) : Prop where
  enclosed : inside.Enclosed
  divides : kind.divider.onMark inside = some ()
  closes : kind.closer.onMark inside = none

structure Closes (kind : BlockKind) (inside : Text) : Prop where
  enclosed : inside.Enclosed
  closes : kind.closer.onMark inside = some ()

theorem markCut?_append {t : Text} (h : kind.Passes t) (s : Text) :
    kind.markCut? (t ++ s) = (kind.markCut? s).map (Cut.prepend t) := by
  unfold markCut?
  rw [h.opener, h.divider]
  cases kind.opener.cut? s with
  | none => cases kind.divider.cut? s <;> rfl
  | some o =>
      cases kind.divider.cut? s with
      | none => rfl
      | some d =>
          simp only [Option.map_some, Cut.prepend_before, List.length_append,
            Nat.add_lt_add_iff_left]
          split <;> rfl

theorem length_markCut? {s : Text} {m : Cut Mark} (h : kind.markCut? s = some m) :
    m.before.length + m.matched.length + m.after.length = s.length := by
  rw [← mark?_cut, Option.map_eq_some_iff] at h
  obtain ⟨f, _, rfl⟩ := h
  exact f.length_eq

theorem readBlock?_nil : kind.readBlock? depth read [] = none := by
  rw [readBlock?_eq, Scanner.cut?_nil]

theorem readBlock?_pass {t : Text} (h : kind.Passes t) (s : Text) :
    kind.readBlock? depth read (t ++ s) = kind.readBlock? depth (read.add t) s := by
  rw [readBlock?_eq, readBlock?_eq kind depth (read.add t), h.closer]
  cases hclose : kind.closer.cut? s with
  | none => rfl
  | some c =>
      simp only [Option.map_some, Cut.prepend_before, Cut.prepend_matched, Cut.prepend_after,
        markCut?_append h]
      cases hmark : kind.markCut? c.before with
      | none =>
          simp only [Option.map_none, BlockReading.add_add, List.append_assoc]
      | some m =>
          have hlength := length_markCut? hmark
          have hdrop : (t ++ s).drop ((t ++ c.before).length - m.after.length) =
              s.drop (c.before.length - m.after.length) := by
            rw [List.length_append, Nat.add_sub_assoc (by omega), List.drop_append,
              List.drop_eq_nil_of_le (by omega), List.nil_append, Nat.add_sub_cancel_left]
          simp only [Option.map_some, Cut.prepend_before, Cut.prepend_matched,
            Cut.prepend_value, Cut.prepend_after, hdrop, BlockReading.add_add,
            BlockReading.divide_append, List.append_assoc]

theorem drop_mark (t before after : Text) :
    (t ++ after).drop ((t ++ before).length - before.length) = after := by
  rw [List.length_append, Nat.add_sub_cancel, List.drop_left]

theorem opens_of_map {scan : Scanner α} {f : α → List Text} {value : α}
    (hopener : kind.opener = scan.map f) (h : inside.Enclosed)
    (hreads : scan.ReadsWhole inside) (hvalue : scan.onMark inside = some value)
    (hhead : ∀ word ∈ kind.words.tail, (Text.words inside).head? ≠ some word) :
    kind.Opens inside where
  enclosed := h
  reads := hopener ▸ hreads.map f
  opens := ⟨f value, by rw [hopener, Scanner.onMark_map, hvalue]; rfl⟩
  divides := by
    cases kind with
    | conditional => exact tag_onMark_of_head? h.unclosed (hhead _ (by decide))
    | _ => rfl
  closes := by cases kind <;> exact tag_onMark_of_head? h.unclosed (hhead _ (by decide))

theorem closes_padded {word : Text} [hword : Keyword word] (h : kind.closer = tag word) :
    kind.Closes (padded word) where
  enclosed := enclosed_padded hword.braceless
  closes := by rw [h, tag_onMark_padded]

theorem readBlock?_opener (h : kind.Opens inside) (s : Text) :
    kind.readBlock? depth read (mark inside ++ s) =
      kind.readBlock? (depth + 1) (read.add (mark inside)) s := by
  have hpast : kind.closer.cut? (mark inside ++ s) = _ :=
    Scanner.cut?_mark_of_none h.enclosed (Scanner.Whole.reads h.enclosed.unclosed) h.closes s
  obtain ⟨captures, hopens⟩ := h.opens
  rw [readBlock?_eq, hpast]
  cases hclose : kind.closer.cut? s with
  | none =>
      rw [readBlock?_eq kind (depth + 1), hclose]
      rfl
  | some c =>
      have hmark : kind.markCut? (mark inside ++ c.before) =
          some ⟨[], mark inside, .opener, c.before⟩ := by
        have hdivider : kind.divider.cut? (mark inside ++ c.before) = _ :=
          Scanner.cut?_mark_of_none h.enclosed (Scanner.Whole.reads h.enclosed.unclosed) h.divides
            c.before
        rw [markCut?, Scanner.cut?_mark_of_some h.reads hopens, hdivider]
        cases kind.divider.cut? c.before with
        | none => rfl
        | some d =>
            have hlt : ([] : Text).length < (mark inside ++ d.before).length := by
              simp only [List.length_append, length_mark, List.length_nil]
              omega
            simp only [Option.map_some, Cut.prepend_before, if_pos hlt]
      simp only [Option.map_some, Cut.prepend_before, hmark, drop_mark, List.nil_append]

theorem readBlock?_divider (h : kind.Divides inside) (s : Text) :
    kind.readBlock? depth read (mark inside ++ s) =
      kind.readBlock? depth (read.divide depth [] (mark inside)) s := by
  have hpast : kind.closer.cut? (mark inside ++ s) = _ :=
    Scanner.cut?_mark_of_none h.enclosed (Scanner.Whole.reads h.enclosed.unclosed) h.closes s
  rw [readBlock?_eq, hpast]
  cases hclose : kind.closer.cut? s with
  | none =>
      rw [readBlock?_eq kind depth, hclose]
      rfl
  | some c =>
      have hmark : kind.markCut? (mark inside ++ c.before) =
          some ⟨[], mark inside, .divider, c.before⟩ := by
        rw [markCut?, Scanner.cut?_mark_of_some (Scanner.Whole.reads h.enclosed.unclosed) h.divides]
        cases kind.opener.cut? (mark inside ++ c.before) <;> simp
      simp only [Option.map_some, Cut.prepend_before, hmark, drop_mark]

theorem readBlock?_closer (h : kind.Closes inside) (s : Text) :
    kind.readBlock? depth read (mark inside ++ s) =
      match depth with
      | 0 => some ⟨read.first, read.divider?, read.second, mark inside, s⟩
      | depth + 1 => kind.readBlock? depth (read.add (mark inside)) s := by
  have hmark : kind.markCut? [] = none := rfl
  rw [readBlock?_eq, Scanner.cut?_mark_of_some (Scanner.Whole.reads h.enclosed.unclosed) h.closes]
  simp only [hmark, List.nil_append, BlockReading.add_nil]

/-- A text in which every block of a kind is closed and no divider stands outside them: to a block
around it, it is text. -/
def Balanced (kind : BlockKind) (t : Text) : Prop :=
  ∀ depth read s, kind.readBlock? depth read (t ++ s) = kind.readBlock? depth (read.add t) s

variable {t u opener divider closer : Text}

theorem Passes.balanced (h : kind.Passes t) : kind.Balanced t :=
  fun _ _ s => readBlock?_pass h s

theorem Balanced.nil : kind.Balanced [] := fun _ read _ => by
  rw [List.nil_append, BlockReading.add_nil]

theorem Balanced.append (ht : kind.Balanced t) (hu : kind.Balanced u) :
    kind.Balanced (t ++ u) := by
  intro depth read s
  rw [List.append_assoc, ht, hu, BlockReading.add_add]

theorem Balanced.enclose (hopener : kind.Opens opener) (ht : kind.Balanced t)
    (hcloser : kind.Closes closer) : kind.Balanced (mark opener ++ t ++ mark closer) := by
  intro depth read s
  rw [List.append_assoc, List.append_assoc, readBlock?_opener hopener, ht,
    readBlock?_closer hcloser]
  simp only [BlockReading.add_add, List.append_assoc]

theorem Balanced.enclose_divided (hopener : kind.Opens opener) (ht : kind.Balanced t)
    (hdivider : kind.Divides divider) (hu : kind.Balanced u) (hcloser : kind.Closes closer) :
    kind.Balanced (mark opener ++ t ++ mark divider ++ u ++ mark closer) := by
  intro depth read s
  simp only [List.append_assoc]
  rw [readBlock?_opener hopener, ht, readBlock?_divider hdivider, BlockReading.divide_succ, hu,
    readBlock?_closer hcloser]
  simp only [BlockReading.add_add, List.append_assoc, List.nil_append]

theorem block?_of_balanced (ht : kind.Balanced t) (hcloser : kind.Closes closer) (s : Text) :
    kind.block? (t ++ (mark closer ++ s)) = some ⟨t, none, [], mark closer, s⟩ := by
  rw [block?, ht, readBlock?_closer hcloser]
  simp [BlockReading.add, BlockReading.start]

theorem block?_of_divided (ht : kind.Balanced t) (hdivider : kind.Divides divider)
    (hu : kind.Balanced u) (hcloser : kind.Closes closer) (s : Text) :
    kind.block? (t ++ (mark divider ++ (u ++ (mark closer ++ s)))) =
      some ⟨t, some (mark divider), u, mark closer, s⟩ := by
  rw [block?, ht, readBlock?_divider hdivider, hu, readBlock?_closer hcloser]
  simp [BlockReading.add, BlockReading.divide, BlockReading.start]

end BlockKind

end Stencil.Template
