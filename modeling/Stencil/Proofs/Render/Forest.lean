import Stencil.Proofs.Token.Block

namespace Stencil.Template

open Stencil.Text

/-! Templates as trees. A forest is a sequence of nodes; every constructor but the first puts one
node in front of the rest. -/

structure Operand where
  text : Text
  braceless : text.Braceless
  trimmed : Trimmed text
  ne_nil : text ≠ []

structure Expression extends Operand where
  isControl_eq_false : isControl text = false

structure Variable where
  text : Text
  isWord : ∀ c ∈ text, isWord c = true
  ne_nil : text ≠ []

/-- The three ways to open a loop: `for v in e`, `range e` and `range $v := e`. -/
inductive Head
  | each (v : Variable) (source : Operand)
  | range (source : Operand) (unassigned : parseAssignment source.text = none)
  | assigned (v : Variable) (source : Operand) (one_line : '\n' ∉ source.text)

inductive Forest
  | done
  | text (s : Plain) (rest : Forest)
  | value (d : Expression) (rest : Forest)
  | guard (condition : Operand) (body rest : Forest)
  | choice (condition : Operand) (yes no rest : Forest)
  | loop (head : Head) (body rest : Forest)

namespace Head

def opened : Head → LoopHead
  | each v source => ⟨.loop, some v.text, source.text⟩
  | range source _ => ⟨.range, none, source.text⟩
  | assigned v source _ => ⟨.range, some v.text, source.text⟩

def inside : Head → Text
  | each v source => padded ("for ".toList ++ v.text ++ " in ".toList ++ source.text)
  | range source _ => padded ("range ".toList ++ source.text)
  | assigned v source _ =>
      padded ("range $".toList ++ v.text ++ " := ".toList ++ source.text)

def closer : Head → Text
  | each _ _ => "endfor".toList
  | _ => "end".toList

end Head

def ifInside (condition : Operand) : Text := padded ("if ".toList ++ condition.text)

namespace Forest

def print : Forest → Text
  | done => []
  | text s rest => s.text ++ rest.print
  | value d rest => mark (padded d.text) ++ rest.print
  | guard condition body rest =>
      mark (ifInside condition) ++ (body.print ++ (mark (padded "endif".toList) ++ rest.print))
  | choice condition yes no rest =>
      mark (ifInside condition) ++ (yes.print ++ (mark (padded "else".toList) ++
        (no.print ++ (mark (padded "endif".toList) ++ rest.print))))
  | loop head body rest =>
      mark head.inside ++ (body.print ++ (mark (padded head.closer) ++ rest.print))

def height : Forest → Nat
  | done => 0
  | text _ rest => rest.height
  | value _ rest => rest.height
  | guard _ body rest => max (body.height + 1) rest.height
  | choice _ yes no rest => max (max yes.height no.height + 1) rest.height
  | loop _ body rest => max (body.height + 1) rest.height

theorem height_le_length_print (t : Forest) : t.height ≤ t.print.length := by
  induction t with
  | done => exact Nat.le_refl 0
  | text s rest ih =>
      simp only [height, print, List.length_append]
      omega
  | value d rest ih =>
      simp only [height, print, List.length_append]
      omega
  | guard condition body rest ihbody ihrest =>
      simp only [height, print, List.length_append, length_mark]
      omega
  | choice condition yes no rest ihyes ihno ihrest =>
      simp only [height, print, List.length_append, length_mark]
      omega
  | loop head body rest ihbody ihrest =>
      simp only [height, print, List.length_append, length_mark]
      omega

end Forest

/-! The marks of a printed tree. -/

theorem Variable.braceless (v : Variable) : v.text.Braceless := by
  intro c hmem
  have hword := v.isWord c hmem
  exact ⟨by rintro rfl; revert hword; decide, by rintro rfl; revert hword; decide⟩

theorem braceless_append {s t : Text} (hs : s.Braceless) (ht : t.Braceless) :
    (s ++ t).Braceless :=
  List.forall_mem_append.mpr ⟨hs, ht⟩

theorem enclosed_ifInside (condition : Operand) : (ifInside condition).Enclosed :=
  enclosed_padded (braceless_append (by decide) condition.braceless)

theorem ifInside_eq (condition : Operand) :
    ifInside condition = padded ("if".toList ++ ' ' :: condition.text) := rfl

theorem head?_words_ifInside (condition : Operand) :
    (words (ifInside condition)).head? = some "if".toList := by
  rw [ifInside_eq]
  exact head?_words_padded (by decide) (by decide) rfl

theorem operandIn_ifInside (condition : Operand) :
    operandIn "if".toList (ifInside condition) = some condition.text := by
  rw [ifInside_eq]
  exact operandIn_padded (by decide) (by decide) condition.trimmed condition.ne_nil

theorem parseAssignment_dollar (v : Variable) {source : Text} (htrimmed : Trimmed source)
    (hne : source ≠ []) :
    parseAssignment ('$' :: (v.text ++ " := ".toList ++ source)) =
      if source.elem '\n' then none else some (v.text, source) := by
  have hbody : v.text ++ " := ".toList ++ source =
      v.text ++ ' ' :: ':' :: '=' :: ' ' :: source := by simp
  have htake : (v.text ++ ' ' :: ':' :: '=' :: ' ' :: source).takeWhile isWord = v.text := by
    rw [takeWhile_append_stop (by decide), takeWhile_eq_self v.isWord]
  have hdrop : (v.text ++ ' ' :: ':' :: '=' :: ' ' :: source).dropWhile isWord =
      ' ' :: ':' :: '=' :: ' ' :: source := by
    rw [dropWhile_append_stop (by decide), dropWhile_eq_nil v.isWord, List.nil_append]
  have htrim : trimLeft (' ' :: ':' :: '=' :: ' ' :: source) = ':' :: '=' :: ' ' :: source := by
    rw [trimLeft_cons_blank (by decide), trimLeft_cons_solid (by decide)]
  have hbehind : trimLeft (' ' :: source) = source := by
    rw [trimLeft_cons_blank (by decide), htrimmed.trimLeft_eq]
  have hname : v.text.isEmpty = false := by simpa using v.ne_nil
  have hsource : source.isEmpty = false := by simpa using hne
  rw [hbody]
  simp only [parseAssignment, htake, hdrop, htrim, hbehind, hname, hsource, Bool.false_or]

namespace Head

theorem range_inside_eq (source : Operand) (h : parseAssignment source.text = none) :
    (range source h).inside = padded ("range".toList ++ ' ' :: source.text) := rfl

theorem assigned_inside_eq (v : Variable) (source : Operand) (h : '\n' ∉ source.text) :
    (assigned v source h).inside =
      padded ("range".toList ++ ' ' :: '$' :: (v.text ++ " := ".toList ++ source.text)) := by
  simp [inside]

theorem each_inside_eq (v : Variable) (source : Operand) :
    (each v source).inside =
      padded ("for".toList ++ ' ' :: (v.text ++ " in ".toList ++ source.text)) := by
  simp [inside]

theorem enclosed_inside (head : Head) : head.inside.Enclosed := by
  cases head with
  | each v source =>
      exact enclosed_padded (braceless_append (braceless_append
        (braceless_append (by decide) v.braceless) (by decide)) source.braceless)
  | range source h =>
      exact enclosed_padded (braceless_append (by decide) source.braceless)
  | assigned v source h =>
      exact enclosed_padded (braceless_append (braceless_append
        (braceless_append (by decide) v.braceless) (by decide)) source.braceless)

def keyword : Head → Text
  | each _ _ => "for".toList
  | _ => "range".toList

theorem head?_words_inside (head : Head) : (words head.inside).head? = some head.keyword := by
  cases head with
  | each v source =>
      rw [each_inside_eq]
      exact head?_words_padded (by decide) (by decide) rfl
  | range source h =>
      rw [range_inside_eq]
      exact head?_words_padded (by decide) (by decide) rfl
  | assigned v source h =>
      rw [assigned_inside_eq]
      exact head?_words_padded (by decide) (by decide) rfl

theorem forOpenerIn_inside_range {head : Head} (h : head.keyword = "range".toList) :
    forOpenerIn head.inside = none := by
  cases hfor : forOpenerIn head.inside with
  | none => rfl
  | some found =>
      have hhead := head?_words_of_forOpenerIn hfor
      rw [head?_words_inside, h] at hhead
      exact absurd hhead (by decide)

theorem operandIn_inside_assigned (v : Variable) (source : Operand) (h : '\n' ∉ source.text) :
    operandIn "range".toList (assigned v source h).inside =
      some ('$' :: (v.text ++ " := ".toList ++ source.text)) := by
  rw [assigned_inside_eq]
  exact operandIn_padded (by decide) (by decide)
    (trimmed_cons_append (by decide) source.trimmed source.ne_nil _) (by simp)

theorem operandIn_inside_range (source : Operand) (h : parseAssignment source.text = none) :
    operandIn "range".toList (range source h).inside = some source.text := by
  rw [range_inside_eq]
  exact operandIn_padded (by decide) (by decide) source.trimmed source.ne_nil

theorem forOpenerIn_inside_each (v : Variable) (source : Operand) :
    forOpenerIn (each v source).inside = some (v.text, source.text) :=
  forOpenerIn_padded v.isWord v.ne_nil source.trimmed source.ne_nil

theorem loopIn_inside (head : Head) : loopIn head.inside = some head.opened := by
  cases head with
  | each v source => rw [loopIn, forOpenerIn_inside_each]; rfl
  | range source h =>
      rw [loopIn, forOpenerIn_inside_range rfl, operandIn_inside_range]
      simp [rangeOver, h, opened]
  | assigned v source h =>
      rw [loopIn, forOpenerIn_inside_range rfl, operandIn_inside_assigned]
      have hline : source.text.elem '\n' = false := by simpa using h
      simp only [Option.map_none, Option.map_some, rangeOver,
        parseAssignment_dollar v source.trimmed source.ne_nil, hline, Bool.false_eq_true, if_false]
      rfl

end Head

/-! What the marks are to the kinds of blocks. -/

theorem opens_ifInside (condition : Operand) :
    BlockKind.conditional.Opens (ifInside condition) := by
  have hread : (operand "if".toList).onMark (ifInside condition) = some condition.text := by
    rw [operand_onMark (enclosed_ifInside condition).unclosed, operandIn_ifInside]
  refine BlockKind.opens_of_map (f := fun c => [c]) rfl (enclosed_ifInside condition)
    (Scanner.Whole.reads (enclosed_ifInside condition).unclosed) hread ?_
  rw [head?_words_ifInside]
  decide

theorem divides_padded_else : BlockKind.conditional.Divides (padded "else".toList) where
  enclosed := by decide
  divides := tag_onMark_padded _
  closes := tag_onMark_of_head? (by decide) (by rw [head?_words_padded_keyword]; decide)

theorem closes_padded_endif : BlockKind.conditional.Closes (padded "endif".toList) :=
  BlockKind.closes_padded rfl

namespace Head

theorem opens_inside (head : Head) : head.opened.kind.Opens head.inside := by
  have henclosed := head.enclosed_inside
  have hhead := head.head?_words_inside
  cases head with
  | each v source =>
      have hread := forOpener_onMark henclosed.unclosed
      rw [forOpenerIn_inside_each] at hread
      refine BlockKind.opens_of_map (f := fun x => [x.1, x.2]) rfl henclosed
        (Scanner.Whole.reads henclosed.unclosed) hread ?_
      rw [hhead]
      exact (by decide : ∀ word ∈ BlockKind.loop.words.tail, some "for".toList ≠ some word)
  | range source h =>
      have hread : (operand "range".toList).onMark (range source h).inside = _ :=
        operand_onMark henclosed.unclosed
      rw [operandIn_inside_range] at hread
      refine BlockKind.opens_of_map (f := fun e => [e]) rfl henclosed
        (Scanner.Whole.reads henclosed.unclosed) hread ?_
      rw [hhead]
      exact (by decide : ∀ word ∈ BlockKind.range.words.tail, some "range".toList ≠ some word)
  | assigned v source h =>
      have hread : (operand "range".toList).onMark (assigned v source h).inside = _ :=
        operand_onMark henclosed.unclosed
      rw [operandIn_inside_assigned] at hread
      refine BlockKind.opens_of_map (f := fun e => [e]) rfl henclosed
        (Scanner.Whole.reads henclosed.unclosed) hread ?_
      rw [hhead]
      exact (by decide : ∀ word ∈ BlockKind.range.words.tail, some "range".toList ≠ some word)

theorem closes_closer (head : Head) : head.opened.kind.Closes (padded head.closer) := by
  have hloop : BlockKind.loop.Closes (padded "endfor".toList) := BlockKind.closes_padded rfl
  have hrange : BlockKind.range.Closes (padded "end".toList) := BlockKind.closes_padded rfl
  cases head with
  | each v source => exact hloop
  | _ => exact hrange

theorem not_mem_words (head : Head) {kind : BlockKind} (h : kind ≠ head.opened.kind) :
    head.keyword ∉ kind.words ∧ head.closer ∉ kind.words := by
  have hloop : ∀ kind : BlockKind, kind ≠ .loop →
      "for".toList ∉ kind.words ∧ "endfor".toList ∉ kind.words := by
    rintro (_ | _ | _ | _) hne <;> first | exact absurd rfl hne | decide
  have hrange : ∀ kind : BlockKind, kind ≠ .range →
      "range".toList ∉ kind.words ∧ "end".toList ∉ kind.words := by
    rintro (_ | _ | _ | _) hne <;> first | exact absurd rfl hne | decide
  cases head with
  | each v source => exact hloop kind h
  | _ => exact hrange kind h

theorem keyword_closer (head : Head) : Keyword head.closer := by
  have hloop : Keyword "endfor".toList := inferInstance
  have hrange : Keyword "end".toList := inferInstance
  cases head with
  | each v source => exact hloop
  | _ => exact hrange

end Head

/-! Printed trees are balanced. -/

theorem balanced_mark {kind : BlockKind} {inside word : Text} (h : inside.Enclosed)
    (hhead : (words inside).head? = some word) (hword : word ∉ kind.words) :
    kind.Balanced (mark inside) := by
  refine (BlockKind.passes_of_head? h fun other hother heq => hword ?_).balanced
  rwa [Option.some.inj (hhead.symm.trans heq)]

theorem balanced_expression (kind : BlockKind) (d : Expression) :
    kind.Balanced (mark (padded d.text)) := by
  refine (BlockKind.passes_of_head? (enclosed_padded d.braceless) fun word hword => ?_).balanced
  have hkeyword := BlockKind.keyword_of_mem_words hword
  rw [head?_words_padded_self]
  exact head?_ne_of_isControl d.isControl_eq_false

theorem balanced_guard {kind : BlockKind} {body : Text} (condition : Operand)
    (hbody : kind.Balanced body) :
    kind.Balanced (mark (ifInside condition) ++ body ++ mark (padded "endif".toList)) := by
  by_cases hkind : kind = .conditional
  · subst hkind
    exact .enclose (opens_ifInside condition) hbody closes_padded_endif
  · have hopener : kind.Balanced (mark (ifInside condition)) :=
      balanced_mark (enclosed_ifInside condition) (head?_words_ifInside condition)
        (by cases kind <;> first | exact absurd rfl hkind | decide)
    have hcloser : kind.Balanced (mark (padded "endif".toList)) :=
      balanced_mark (by decide) (head?_words_padded_keyword _)
        (by cases kind <;> first | exact absurd rfl hkind | decide)
    exact (hopener.append hbody).append hcloser

theorem balanced_choice {kind : BlockKind} {yes no : Text} (condition : Operand)
    (hyes : kind.Balanced yes) (hno : kind.Balanced no) :
    kind.Balanced (mark (ifInside condition) ++ yes ++ mark (padded "else".toList) ++ no ++
      mark (padded "endif".toList)) := by
  by_cases hkind : kind = .conditional
  · subst hkind
    exact .enclose_divided (opens_ifInside condition) hyes divides_padded_else hno
      closes_padded_endif
  · have hdivider : kind.Balanced (mark (padded "else".toList)) :=
      balanced_mark (by decide) (head?_words_padded_keyword _)
        (by cases kind <;> first | exact absurd rfl hkind | decide)
    have hbody := (hyes.append hdivider).append hno
    have hguard := balanced_guard condition hbody
    simpa only [List.append_assoc] using hguard

theorem balanced_loop {kind : BlockKind} {body : Text} (head : Head)
    (hbody : kind.Balanced body) :
    kind.Balanced (mark head.inside ++ body ++ mark (padded head.closer)) := by
  by_cases hkind : kind = head.opened.kind
  · subst hkind
    exact .enclose head.opens_inside hbody head.closes_closer
  · have hother := head.not_mem_words hkind
    have hword := head.keyword_closer
    have hopener : kind.Balanced (mark head.inside) :=
      balanced_mark head.enclosed_inside head.head?_words_inside hother.1
    have hcloser : kind.Balanced (mark (padded head.closer)) :=
      balanced_mark (enclosed_padded hword.braceless) (head?_words_padded_keyword _) hother.2
    exact (hopener.append hbody).append hcloser

theorem balanced_print (kind : BlockKind) (t : Forest) : kind.Balanced t.print := by
  induction t with
  | done => exact .nil
  | text s rest ih => exact (BlockKind.passes_of_unopened s.unopened).balanced.append ih
  | value d rest ih => exact (balanced_expression kind d).append ih
  | guard condition body rest ihbody ihrest =>
      have hnode := (balanced_guard condition ihbody).append ihrest
      simpa only [Forest.print, List.append_assoc] using hnode
  | choice condition yes no rest ihyes ihno ihrest =>
      have hnode := (balanced_choice condition ihyes ihno).append ihrest
      simpa only [Forest.print, List.append_assoc] using hnode
  | loop head body rest ihbody ihrest =>
      have hnode := (balanced_loop head ihbody).append ihrest
      simpa only [Forest.print, List.append_assoc] using hnode

end Stencil.Template
