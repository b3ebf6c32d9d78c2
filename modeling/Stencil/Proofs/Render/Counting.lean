import Stencil.Proofs.Eval.Pipeline
import Stencil.Proofs.Filter.Kept
import Stencil.Proofs.Render.Truth
import Stencil.Proofs.Value.Coercion

namespace Stencil

/-! Texts joined with commas. -/

namespace Text

theorem length_splitFrom (p : Char → Bool) (part s : Text) :
    (splitFrom p part s).length = s.countP p + 1 := by
  induction s generalizing part with
  | nil => rfl
  | cons c s ih =>
      rw [splitFrom, List.countP_cons]
      split
      · rw [List.length_cons, ih]
      · rw [ih, Nat.add_zero]

theorem length_splitAt (sep : Char) (s : Text) : (splitAt sep s).length = s.count sep + 1 :=
  length_splitFrom _ [] s

theorem countP_join {p : Char → Bool} {sep : Char} (hsep : p sep = true) {parts : List Text}
    (hne : parts ≠ []) :
    (join [sep] parts).countP p + 1 = parts.length + parts.flatten.countP p := by
  induction parts with
  | nil => exact absurd rfl hne
  | cons s parts ih =>
      cases parts with
      | nil =>
          rw [join, List.flatten_singleton, List.length_singleton, Nat.add_comm]
      | cons t parts =>
          have hrest := ih (List.cons_ne_nil _ _)
          rw [join, List.countP_append, List.countP_append, List.countP_singleton, if_pos hsep,
            List.flatten_cons, List.countP_append, List.length_cons]
          omega

end Text

/-! What becomes of the elements of a sequence when a function takes it. -/

namespace Value

theorem length_names (items : List Value) : (names items).length = items.length :=
  List.length_map _

theorem names_ne_nil {items : List Value} (h : items.any isObject = true) : names items ≠ [] := by
  cases items with
  | nil => cases h
  | cons v items => exact List.cons_ne_nil _ _

theorem joinedNames_counts {items : List Value} (h : items.any isObject = true) :
    (joinedNames items).length + 1 = items.length + (names items).flatten.length ∧
    (joinedNames items = [] ↔ names items = [[]]) ∧
    (Text.splitAt ',' (joinedNames items)).length =
      items.length + (names items).flatten.count ',' := by
  have hne := names_ne_nil h
  have hcommas : (joinedNames items).count ',' + 1 =
      (names items).length + (names items).flatten.count ',' :=
    Text.countP_join (p := (· == ',')) rfl hne
  have hchars : (joinedNames items).countP (fun _ => true) + 1 =
      (names items).length + (names items).flatten.countP fun _ => true :=
    Text.countP_join rfl hne
  refine ⟨?_, Text.join_eq_nil_iff hne, ?_⟩
  · simpa only [List.countP_true, length_names] using hchars
  · rw [Text.length_splitAt, hcommas, length_names]

theorem length_coerceAll {items ws : List Value} (h : coerceAll items = .ok ws) :
    ws.length = items.length := by
  induction items generalizing ws with
  | nil =>
      rw [coerceAll] at h
      cases h
      rfl
  | cons v items ih =>
      rw [coerceAll] at h
      obtain ⟨w, -, hrest⟩ := bind_eq_ok.mp h
      obtain ⟨vs, hvs, heq⟩ := bind_eq_ok.mp hrest
      cases heq
      rw [List.length_cons, List.length_cons, ih hvs]

theorem length_joinedAll {ws : List Value} {texts : List Text} (h : joinedAll ws = .ok texts) :
    texts.length = ws.length := by
  induction ws generalizing texts with
  | nil =>
      rw [joinedAll] at h
      cases h
      rfl
  | cons w ws ih =>
      rw [joinedAll] at h
      obtain ⟨s, -, hrest⟩ := bind_eq_ok.mp h
      obtain ⟨ss, hss, heq⟩ := bind_eq_ok.mp hrest
      cases heq
      rw [List.length_cons, List.length_cons, ih hss]

end Value

namespace Template

/-! Five ways to count the elements of a sequence. -/

def lenName : CallName := ⟨'l', "en".toList, false, rfl, by decide⟩

def sizeName : CallName := ⟨'s', "ize".toList, false, rfl, by decide⟩

def emptyName : CallName := ⟨'e', "mpty".toList, false, rfl, by decide⟩

def CallName.segment (f : CallName) : Segment where
  text := f.text
  ne_nil := List.cons_ne_nil _ _
  spelled := by
    intro c hc
    rcases List.mem_cons.mp hc with rfl | hc
    · exact .inl (isWord_of_isNameStart f.isNameStart)
    · rcases List.mem_append.mp hc with hc | hc
      · exact .inl (f.isWord c hc)
      · split at hc
        · exact .inr (.inr (List.mem_singleton.mp hc))
        · cases hc

/-- `x.method` -/
def Segment.dotted (x : Segment) (f : CallName) : Term :=
  .path (.rooted x [f.segment] fun h => nomatch h)

def Blanks.nothing : Blanks := ⟨[], List.forall_mem_nil _⟩

def Blanks.space : Blanks := ⟨[' '], List.forall_mem_singleton.mpr rfl⟩

/-- `f` behind a bar, with a blank before it -/
def CallName.piped (f : CallName) : Piped := ⟨.space, .plain f, .nothing⟩

/-- `x | f` -/
def Segment.sifted (x : Segment) (hx : x.Named) (f : CallName) : Text :=
  pipeline .nothing (x.term hx) .space [f.piped]

section

variable {ctx : Context} {x : Segment} {v : Value} {items : List Value}

theorem meaning_applied {f : CallName} (hf : Toolbox.standard.functions.has f.text = true)
    (hx : x.Named) (h : ctx.get? x.text = some (.ok v)) :
    (x.applied hx f).meaning .standard ctx =
      v.coerce >>= fun w => granted (Function.call Function.standard ctx.now f.text [w]) := by
  rw [Segment.applied, Term.meaning, Arguments.values, Items.values, meaning_term hx h, ok_bind,
    answer, if_pos hf]
  cases v.coerce with
  | error e => rfl
  | ok w => rfl

theorem meaning_dotted (f : CallName) (h : ctx.get? x.text = some (.ok v)) :
    (x.dotted f).meaning .standard ctx = walk ctx v [f.text] := by
  rw [Segment.dotted, Term.meaning, Dotted.meaning, rootValue_of_get? h]
  rfl

theorem walk_sequence (hitems : v.sequence? = some items) :
    walk ctx v [sizeName.text] = .ok (.int items.length) ∧
      walk ctx v [emptyName.text] = .ok (.bool items.isEmpty) := by
  cases v with
  | list items => cases hitems; exact ⟨rfl, rfl⟩
  | pages items => cases hitems; exact ⟨rfl, rfl⟩
  | _ => cases hitems

theorem filtered_size (hitems : v.sequence? = some items) :
    filtered .standard ctx [sizeName.piped] v = .ok (.int items.length) := by
  cases v with
  | list items => cases hitems; rfl
  | pages items => cases hitems; rfl
  | _ => cases hitems

theorem substitution_size (hx : x.Named) (h : ctx.get? x.text = some (.ok v))
    (hitems : v.sequence? = some items) :
    (substitution .standard ctx (x.sifted hx sizeName)).result = Value.digits items.length := by
  rw [substitution, Segment.sifted, splitPipeline_pipeline]
  dsimp only
  rw [Eval.result_bind, Term.evaluate_print, meaning_term hx h, ok_bind, Eval.result_bind,
    applyFilters_print, filtered_size hitems]
  rfl

theorem meaning_size (hx : x.Named) (h : ctx.get? x.text = some (.ok v)) :
    (x.applied hx sizeName).meaning .standard ctx = v.coerce >>= fun w =>
      granted ((fun n : Nat => .int n) <$> Function.size w) :=
  meaning_applied rfl hx h

theorem meaning_empty (hx : x.Named) (h : ctx.get? x.text = some (.ok v)) :
    (x.applied hx emptyName).meaning .standard ctx = v.coerce >>= fun w =>
      granted ((fun n : Nat => .bool (n == 0)) <$> Function.size w) :=
  meaning_applied rfl hx h

theorem meaning_len (hx : x.Named) (h : ctx.get? x.text = some (.ok v)) :
    (x.applied hx lenName).meaning .standard ctx = v.coerce >>= fun w =>
      granted ((fun parts : List Text => .int parts.length) <$> w.items) :=
  meaning_applied rfl hx h

/-- Functions see the elements themselves, unless a content object is among them. They fail where
an element cannot be written out. -/
theorem meanings_of_plain (hx : x.Named) (h : ctx.get? x.text = some (.ok v))
    (hitems : v.sequence? = some items) (hplain : items.any Value.isObject = false) :
    (x.applied hx sizeName).meaning .standard ctx = (fun _ => .int items.length) <$> v.coerce ∧
    (x.applied hx emptyName).meaning .standard ctx =
      (fun _ => .bool items.isEmpty) <$> v.coerce ∧
    (x.applied hx lenName).meaning .standard ctx =
      (fun _ => .int items.length) <$> (v.coerce >>= Value.items) := by
  rw [meaning_size hx h, meaning_empty hx h, meaning_len hx h, Value.coerce_of_sequence? hitems,
    Value.coerceItems_of_plain hplain]
  cases hws : Value.coerceAll items with
  | error e => exact ⟨rfl, rfl, rfl⟩
  | ok ws =>
      have hlength := Value.length_coerceAll hws
      have hempty : (ws.length == 0) = items.isEmpty := by
        rw [hlength]
        cases items <;> rfl
      refine ⟨?_, ?_, ?_⟩
      · rw [← hlength]
        rfl
      · rw [← hempty]
        rfl
      · change granted ((fun parts : List Text => .int parts.length) <$> Value.joinedAll ws) =
          (fun _ => .int items.length) <$> Value.joinedAll ws
        have hfails : FailsIn (· = .outOfDomain) (Value.joinedAll ws) :=
          Value.failsIn_joinedAll fun w hw =>
            (Value.coerceAll_plain items hws w hw).failsIn_joined rfl
        cases htexts : Value.joinedAll ws with
        | error e =>
            rw [hfails.of_eq_error e htexts]
            rfl
        | ok texts =>
            rw [map_ok, map_ok, Value.length_joinedAll htexts, hlength]
            rfl

/-- Of a sequence with a content object functions see the names, joined with commas. -/
theorem meanings_of_object (hx : x.Named) (h : ctx.get? x.text = some (.ok v))
    (hitems : v.sequence? = some items) (hobject : items.any Value.isObject = true) :
    (x.applied hx sizeName).meaning .standard ctx =
      .ok (.int (items.length + (Value.names items).flatten.length - 1)) ∧
    (x.applied hx emptyName).meaning .standard ctx =
      .ok (.bool (decide (Value.names items = [[]]))) ∧
    (x.applied hx lenName).meaning .standard ctx =
      .ok (.int (if Value.names items = [[]] then 0
        else items.length + (Value.names items).flatten.count ',')) := by
  obtain ⟨hlength, hnil, hparts⟩ := Value.joinedNames_counts hobject
  rw [meaning_size hx h, meaning_empty hx h, meaning_len hx h, Value.coerce_of_sequence? hitems,
    Value.coerceItems_of_object hobject]
  refine ⟨?_, ?_, ?_⟩
  · change Except.ok (Value.int (Value.joinedNames items).length) = _
    congr 2
    omega
  · change Except.ok (Value.bool ((Value.joinedNames items).length == 0)) = _
    congr 2
    rw [Bool.eq_iff_iff, beq_iff_eq, List.length_eq_zero_iff, decide_eq_true_eq, hnil]
  · change Except.ok (Value.int (if (Value.joinedNames items).isEmpty then []
      else Text.splitAt ',' (Value.joinedNames items)).length) = _
    congr 2
    simp only [List.isEmpty_iff, hnil]
    split
    · rfl
    · rw [hparts]
      exact Int.natCast_add _ _

end

/-- The method and the filter `size` count the elements of a sequence, whatever they are, and so do
`size` and `len` as functions if no content object is among the elements. With a content object the
functions count characters and commas of the joined names instead. -/
theorem evaluate_counts (site : Option Site) (page : Option Page) (extra : Scope) (now : Moment)
    (x : Segment) (hx : x.Named) (v : Value) (items : List Value)
    (hv : extra.lookup x.text = some v) (hitems : v.sequence? = some items) :
    ((evaluate .standard (.create site page extra now) (x.dotted sizeName).print).result =
        .ok (.int items.length) ∧
      (evaluate .standard (.create site page extra now) (x.dotted emptyName).print).result =
        .ok (.bool items.isEmpty) ∧
      filtered .standard (.create site page extra now) [sizeName.piped] v =
        .ok (.int items.length) ∧
      (substitution .standard (.create site page extra now) (x.sifted hx sizeName)).result =
        Value.digits items.length) ∧
    (items.any Value.isObject = false →
      (evaluate .standard (.create site page extra now) (x.applied hx sizeName).print).result =
        (fun _ => .int items.length) <$> v.coerce ∧
      (evaluate .standard (.create site page extra now) (x.applied hx emptyName).print).result =
        (fun _ => .bool items.isEmpty) <$> v.coerce ∧
      (evaluate .standard (.create site page extra now) (x.applied hx lenName).print).result =
        (fun _ => .int items.length) <$> (v.coerce >>= Value.items) ∧
      (v.Legible → ∃ w parts, v.coerce = .ok w ∧ w.items = .ok parts)) ∧
    (items.any Value.isObject = true →
      (evaluate .standard (.create site page extra now) (x.applied hx sizeName).print).result =
        .ok (.int (items.length + (Value.names items).flatten.length - 1)) ∧
      (evaluate .standard (.create site page extra now) (x.applied hx emptyName).print).result =
        .ok (.bool (decide (Value.names items = [[]]))) ∧
      (evaluate .standard (.create site page extra now) (x.applied hx lenName).print).result =
        .ok (.int (if Value.names items = [[]] then 0
          else items.length + (Value.names items).flatten.count ','))) := by
  have hget : (Context.create site page extra now).get? x.text = some (.ok v) := get?_create hv
  obtain ⟨hsize, hempty⟩ := @walk_sequence (.create site page extra now) v items hitems
  simp only [Term.evaluate_print]
  refine ⟨⟨?_, ?_, filtered_size hitems, substitution_size hx hget hitems⟩, fun hplain => ?_,
    meanings_of_object hx hget hitems⟩
  · rw [meaning_dotted _ hget, hsize]
  · rw [meaning_dotted _ hget, hempty]
  · obtain ⟨hsizes, hempties, hlens⟩ := meanings_of_plain hx hget hitems hplain
    refine ⟨hsizes, hempties, hlens, fun hlegible => ?_⟩
    have hcoerced : Yields (fun _ => False) (Value.PlainIn Value.Writable) v.coerce :=
      hlegible.yields_coerce
    obtain ⟨w, hw, hshort⟩ := hcoerced.exists_ok
    have hjoined : FailsIn (fun _ => False) w.joined :=
      hshort.failsIn_joined instWritesWritable.digits
    have hparts : FailsIn (fun _ => False) w.items := inferInstance
    obtain ⟨parts, hparts, -⟩ := (Yields.of_failsIn hparts).exists_ok
    exact ⟨w, parts, hw, hparts⟩

example : (flagName.dotted sizeName).print = "x.size".toList ∧
    (flagName.applied named_flagName lenName).print = "len(x)".toList ∧
    flagName.sifted named_flagName sizeName = "x | size".toList := ⟨rfl, rfl, rfl⟩

theorem evaluate_counts_plain :
    [("x".toList, Value.list [.text ['a'], .int 1])].lookup flagName.text =
        some (.list [.text ['a'], .int 1]) ∧
      (Value.list [.text ['a'], .int 1]).sequence? = some [.text ['a'], .int 1] ∧
      (evaluate .standard (flagContext (.list [.text ['a'], .int 1]))
        (flagName.dotted sizeName).print).result = .ok (.int 2) ∧
      (evaluate .standard (flagContext (.list [.text ['a'], .int 1]))
        (flagName.applied named_flagName lenName).print).result = .ok (.int 2) := by
  obtain ⟨⟨hsize, -⟩, hplain, -⟩ := evaluate_counts none none
    [("x".toList, .list [.text ['a'], .int 1])] .epoch flagName named_flagName
    (.list [.text ['a'], .int 1]) [.text ['a'], .int 1] rfl rfl
  obtain ⟨-, -, hlen, hshort⟩ := hplain rfl
  have hlegible : (Value.list [.text ['a'], .int 1]).Legible := by
    refine .list _ (List.forall_mem_cons.mpr ⟨.text _, List.forall_mem_singleton.mpr ?_⟩)
    exact .int 1 (Value.writable_of_lt (by decide))
  obtain ⟨w, parts, hw, hparts⟩ := hshort hlegible
  rw [hw, ok_bind, hparts] at hlen
  exact ⟨rfl, rfl, hsize, hlen⟩

def titled (title : String) : Value := .list [.page { Page.blank with title := .ofString title }]

/-- The one page of a list counts as three for its title of three characters, as two for a comma in
its title, and as none without a title. -/
theorem counts_disagree :
    (∀ title, (evaluate .standard (flagContext (titled title))
      (flagName.dotted sizeName).print).result = .ok (.int 1) ∧
      (evaluate .standard (flagContext (titled title))
        (flagName.dotted emptyName).print).result = .ok (.bool false)) ∧
    (evaluate .standard (flagContext (titled "abc"))
      (flagName.applied named_flagName sizeName).print).result = .ok (.int 3) ∧
    (evaluate .standard (flagContext (titled "a,b"))
      (flagName.applied named_flagName lenName).print).result = .ok (.int 2) ∧
    (evaluate .standard (flagContext (titled ""))
      (flagName.applied named_flagName emptyName).print).result = .ok (.bool true) := by
  have hget : ∀ title, (flagContext (titled title)).get? flagName.text =
      some (.ok (titled title)) := fun _ => rfl
  have hcounts : ∀ title, _ := fun title =>
    meanings_of_object named_flagName (hget title) rfl rfl
  simp only [Term.evaluate_print]
  refine ⟨fun title => ?_, ?_, ?_, ?_⟩
  · rw [meaning_dotted _ (hget title), meaning_dotted _ (hget title)]
    exact ⟨rfl, rfl⟩
  · exact (hcounts "abc").1
  · exact (hcounts "a,b").2.2
  · exact (hcounts "").2.1

end Template

end Stencil
