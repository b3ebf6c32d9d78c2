import Mathlib.Data.List.Rotate
import Stencil.Function.Standard
import Stencil.Proofs.Eval.Result
import Stencil.Proofs.Text.Split

namespace Stencil

/-! A list of texts and the text that has them with commas between are the same to the functions on
lists. -/

namespace Value

variable {v : Value} {xs : List Text}

theorem joinedAll_texts (xs : List Text) : joinedAll (xs.map .text) = .ok xs := by
  induction xs with
  | nil => rfl
  | cons x xs ih =>
      rw [List.map_cons, joinedAll, ih]
      rfl

theorem items_texts (xs : List Text) : (Value.list (xs.map .text)).items = .ok xs :=
  joinedAll_texts xs

theorem items_joinItems (hcommas : ∀ x ∈ xs, ',' ∉ x) (hlone : xs ≠ [[]]) :
    (Function.joinItems xs).items = .ok xs := by
  change Except.ok (if (Text.join [','] xs).isEmpty then []
    else (Text.join [','] xs).splitAt ',') = .ok xs
  by_cases hne : xs = []
  · subst hne
    rfl
  · have hsome : (Text.join [','] xs).isEmpty = false := by
      rw [List.isEmpty_eq_false_iff]
      exact mt (Text.join_eq_nil_iff hne).mp hlone
    rw [hsome, if_neg Bool.false_ne_true, Text.splitAt_join hne hcommas]

end Value

namespace Function

variable {now : Moment} {v w default : Value} {rest : List Value} {xs ys : List Text}

theorem arg_cons_zero : arg (v :: rest) 0 default = v := rfl

theorem arg_cons_one : arg (v :: rest) 1 default = arg rest 0 default := rfl

theorem spread_list (items : List Value) :
    spread (.list items) = List.map .text <$> (Value.list items).items := rfl

theorem spread_joinItems (xs : List Text) :
    spread (joinItems xs) = List.map .text <$> (joinItems xs).items := rfl

/-! Functions that take nothing but the items from their first argument. -/

/-- First arguments that list the same texts are the same to a function. -/
def ReadsItems (f : Function) : Prop :=
  ∀ (now : Moment) (v w : Value) (rest : List Value), v.items = w.items → spread v = spread w →
    f.run now (v :: rest) = f.run now (w :: rest)

theorem readsItems_onItems (f : List Text → Value) : ReadsItems (onItems f) := by
  intro now v w rest hitems _
  simp only [onItems, arg_cons_zero, hitems]

theorem readsItems_rotate : ReadsItems rotate := by
  intro now v w rest hitems _
  simp only [rotate, arg_cons_zero, arg_cons_one, hitems]

theorem readsItems_sortByLength : ReadsItems sortByLength := by
  intro now v w rest hitems _
  simp only [sortByLength, arg_cons_zero, arg_cons_one, hitems]
  rfl

theorem readsItems_indexOf (last : Bool) : ReadsItems (indexOf last) := by
  intro now v w rest hitems _
  simp only [indexOf, arg_cons_zero, arg_cons_one, hitems]

theorem readsItems_join : ReadsItems join := by
  intro now v w rest hitems _
  simp only [join, arg_cons_zero, arg_cons_one, hitems]

theorem readsItems_fold (name : String) (f : List Number → Except Fault Number) :
    ReadsItems (fold name f) := by
  intro now v w rest _ hspread
  simp only [fold, numbers, List.mapM_cons, hspread]

def listReaders : List String :=
  ["len", "uniq", "rotate", "sort_by_length", "compact", "index", "rindex", "join", "min", "max",
    "sum"]

theorem exists_reader : ∀ name ∈ listReaders,
    ∃ f, standard.get? name.toList = some f ∧ ReadsItems f := by
  simp only [listReaders, List.forall_mem_cons]
  exact ⟨⟨_, rfl, readsItems_onItems _⟩, ⟨_, rfl, readsItems_onItems _⟩,
    ⟨_, rfl, readsItems_rotate⟩, ⟨_, rfl, readsItems_sortByLength⟩,
    ⟨_, rfl, readsItems_onItems _⟩, ⟨_, rfl, readsItems_indexOf _⟩,
    ⟨_, rfl, readsItems_indexOf _⟩, ⟨_, rfl, readsItems_join⟩, ⟨_, rfl, readsItems_fold _ _⟩,
    ⟨_, rfl, readsItems_fold _ _⟩, ⟨_, rfl, readsItems_fold _ _⟩, List.forall_mem_nil _⟩

theorem call_congr {name : String} (hname : name ∈ listReaders) (hitems : v.items = w.items)
    (hspread : spread v = spread w) (rest : List Value) :
    call standard now name.toList (v :: rest) = call standard now name.toList (w :: rest) := by
  obtain ⟨f, hget, hreads⟩ := exists_reader name hname
  unfold call
  rw [hget]
  dsimp only
  rw [hreads now v w rest hitems hspread]
  rfl

theorem call_joinItems {name : String} (hname : name ∈ listReaders) (hcommas : ∀ x ∈ xs, ',' ∉ x)
    (hlone : xs ≠ [[]]) (rest : List Value) :
    call standard now name.toList (.list (xs.map .text) :: rest) =
      call standard now name.toList (joinItems xs :: rest) := by
  have hitems : (Value.list (xs.map .text)).items = (joinItems xs).items := by
    rw [Value.items_texts, Value.items_joinItems hcommas hlone]
  refine call_congr hname hitems ?_ rest
  rw [spread_list, spread_joinItems, hitems]

/-! Functions whose texts are lists again. -/

inductive Reshaping
  | uniq
  | rotate
  | sortByLength
  | compact

namespace Reshaping

def name : Reshaping → String
  | uniq => "uniq"
  | rotate => "rotate"
  | sortByLength => "sort_by_length"
  | compact => "compact"

def further : Reshaping → Nat
  | uniq | compact => 0
  | rotate | sortByLength => 1

/-- What becomes of a list, with the arguments that follow it: the first of equal texts stay, or a
number of texts goes from the front to the end, or the texts stand in the order of their lengths, or
blank texts go. -/
def apply (rest : List Value) (xs : List Text) : Reshaping → Except Fault (List Text)
  | uniq => .ok xs.eraseDups
  | rotate =>
      if xs = [] then .ok []
      else do return xs.rotate ((← (arg rest 0 (.int 1)).count 1) % xs.length).toNat
  | sortByLength =>
      .ok (xs.mergeSort fun s t =>
        if (arg rest 0 (.bool false)).flag then t.length ≤ s.length else s.length ≤ t.length)
  | compact => .ok (xs.filter fun s => !(Text.trim s).isEmpty)

theorem subset_of_apply {op : Reshaping} (h : op.apply rest xs = .ok ys) : ys ⊆ xs := by
  cases op with
  | uniq =>
      cases h
      exact fun _ => List.mem_eraseDups.mp
  | rotate =>
      rw [apply] at h
      split at h
      · cases h
        exact List.nil_subset xs
      · obtain ⟨count, -, h⟩ := bind_eq_ok.mp h
        cases h
        exact fun _ => List.mem_rotate.mp
  | sortByLength =>
      cases h
      exact (List.mergeSort_perm _ _).subset
  | compact =>
      cases h
      exact List.filter_sublist.subset

end Reshaping

theorem run_rotate (hitems : v.items = .ok xs) :
    rotate.run now (v :: rest) = joinItems <$> Reshaping.rotate.apply rest xs := by
  simp only [rotate, Reshaping.apply, arg_cons_zero, arg_cons_one, hitems, ok_bind,
    List.isEmpty_iff]
  split
  · rfl
  · next hne =>
      have hpos : (0 : Int) < xs.length := by
        rw [Int.natCast_pos]
        exact List.length_pos_iff.mpr hne
      cases (arg rest 0 (.int 1)).count 1 with
      | error e => rfl
      | ok count =>
          have hshift : Number.modulo count xs.length = count % xs.length :=
            Int.fmod_eq_emod_of_nonneg count (Int.le_of_lt hpos)
          have hlt := Int.emod_lt_of_pos count hpos
          rw [ok_bind, ok_bind, hshift]
          change _ = Except.ok (joinItems (xs.rotate (count % xs.length).toNat))
          rw [List.rotate_eq_drop_append_take (by omega)]
          rfl

theorem exists_function (op : Reshaping) :
    ∃ f, standard.get? op.name.toList = some f ∧ f.required = [] ∧
      f.optional = some (op.further + 1) ∧
      ∀ now v rest xs, v.items = .ok xs → f.run now (v :: rest) = joinItems <$> op.apply rest xs := by
  cases op with
  | uniq =>
      refine ⟨_, rfl, rfl, rfl, fun now v rest xs hitems => ?_⟩
      simp only [onItems, arg_cons_zero, hitems]
      rfl
  | rotate => exact ⟨_, rfl, rfl, rfl, fun now v rest xs => run_rotate⟩
  | sortByLength =>
      refine ⟨_, rfl, rfl, rfl, fun now v rest xs hitems => ?_⟩
      simp only [sortByLength, arg_cons_zero, arg_cons_one, hitems]
      rfl
  | compact =>
      refine ⟨_, rfl, rfl, rfl, fun now v rest xs hitems => ?_⟩
      simp only [onItems, arg_cons_zero, hitems]
      rfl

structure Step where
  op : Reshaping
  rest : List Value
  fits : rest.length ≤ op.further

namespace Step

def call (now : Moment) (step : Step) (v : Value) : Except Fault Value :=
  Function.call standard now step.op.name.toList (v :: step.rest)

def apply (step : Step) (xs : List Text) : Except Fault (List Text) := step.op.apply step.rest xs

theorem call_eq (step : Step) (hitems : v.items = .ok xs) :
    step.call now v = joinItems <$> step.apply xs := by
  obtain ⟨f, hget, hrequired, hoptional, hrun⟩ := exists_function step.op
  have hfits : misfit? f.required f.optional (v :: step.rest).length = none := by
    have hlength : ¬0 + (step.op.further + 1) < (v :: step.rest).length := by
      have hrest := step.fits
      rw [List.length_cons]
      omega
    unfold misfit?
    rw [hrequired, hoptional]
    exact if_neg hlength
  rw [call, Function.call, hget]
  dsimp only
  rw [hfits]
  exact hrun now v step.rest xs hitems

end Step

def feed (now : Moment) (steps : List Step) (v : Value) : Except Fault Value :=
  steps.foldlM (fun v step => step.call now v) v

def compose (steps : List Step) (xs : List Text) : Except Fault (List Text) :=
  steps.foldlM (fun xs step => step.apply xs) xs

theorem compose_cons {step : Step} (h : step.apply xs = .ok ys) (steps : List Step) :
    compose (step :: steps) xs = compose steps ys := by
  rw [compose, List.foldlM_cons, h]
  rfl

theorem feed_eq {steps : List Step} (hitems : v.items = .ok xs) (hcommas : ∀ x ∈ xs, ',' ∉ x)
    (hne : steps ≠ [])
    (hlone : ∀ front behind, steps = front ++ behind → front ≠ [] → behind ≠ [] →
      compose front xs ≠ .ok [[]]) :
    feed now steps v = joinItems <$> compose steps xs := by
  induction steps generalizing v xs with
  | nil => exact absurd rfl hne
  | cons step steps ih =>
      rw [feed, compose, List.foldlM_cons, List.foldlM_cons, step.call_eq hitems]
      cases happly : step.apply xs with
      | error e => rfl
      | ok ys =>
          rw [map_ok, ok_bind, ok_bind]
          by_cases hlast : steps = []
          · subst hlast
            rfl
          · have hcommas' : ∀ y ∈ ys, ',' ∉ y := fun y hy =>
              hcommas y (Reshaping.subset_of_apply happly hy)
            have hlone' : ys ≠ [[]] := by
              rintro rfl
              exact hlone [step] steps rfl (List.cons_ne_nil _ _) hlast (compose_cons happly [])
            refine ih (Value.items_joinItems hcommas' hlone') hcommas' hlast ?_
            intro front behind heq _ hbehind hcompose
            exact hlone (step :: front) behind (by rw [heq]; rfl) (List.cons_ne_nil _ _) hbehind
              ((compose_cons happly front).trans hcompose)

theorem subset_of_compose {steps : List Step} (h : compose steps xs = .ok ys) : ys ⊆ xs := by
  induction steps generalizing xs with
  | nil =>
      cases h
      exact List.Subset.refl _
  | cons step steps ih =>
      rw [compose, List.foldlM_cons] at h
      obtain ⟨zs, happly, h⟩ := bind_eq_ok.mp h
      exact List.Subset.trans (ih h) (Reshaping.subset_of_apply happly)

theorem call_composed {steps : List Step} {name : String} (hcommas : ∀ x ∈ xs, ',' ∉ x)
    (hlone : compose steps xs ≠ .ok [[]]) (hname : name ∈ listReaders) (rest : List Value) :
    (joinItems <$> compose steps xs >>= fun v => call standard now name.toList (v :: rest)) =
      compose steps xs >>= fun ys =>
        call standard now name.toList (.list (ys.map .text) :: rest) := by
  cases hcompose : compose steps xs with
  | error e => rfl
  | ok ys =>
      have hlone' : ys ≠ [[]] := fun h => hlone (by rw [hcompose, h])
      exact (call_joinItems hname (fun y hy => hcommas y (subset_of_compose hcompose hy)) hlone'
        rest).symm

/-- A list of texts without commas is the same to the functions on lists as the text that has them
with commas between, unless it is the list of the empty text. So the texts of such functions can be
fed to another of them in place of the lists, as long as none of these lists is that one. -/
theorem lists_as_texts (now : Moment) {xs : List Text} (hcommas : ∀ x ∈ xs, ',' ∉ x) :
    (xs ≠ [[]] → ∀ name ∈ listReaders, ∀ rest,
      call standard now name.toList (.list (xs.map .text) :: rest) =
        call standard now name.toList (.text (Text.join [','] xs) :: rest)) ∧
    ∀ steps, steps ≠ [] →
      (∀ front behind, steps = front ++ behind → front ≠ [] → behind ≠ [] →
        compose front xs ≠ .ok [[]]) →
      feed now steps (.list (xs.map .text)) =
        (fun ys => .text (Text.join [','] ys)) <$> compose steps xs ∧
      (compose steps xs ≠ .ok [[]] → ∀ name ∈ listReaders, ∀ rest,
        (feed now steps (.list (xs.map .text)) >>= fun v =>
          call standard now name.toList (v :: rest)) =
          compose steps xs >>= fun ys =>
            call standard now name.toList (.list (ys.map .text) :: rest)) := by
  refine ⟨fun hlone _ hname rest => call_joinItems hname hcommas hlone rest, ?_⟩
  intro steps hne hbetween
  have hfeed : feed now steps (.list (xs.map .text)) = joinItems <$> compose steps xs :=
    feed_eq (Value.items_texts xs) hcommas hne hbetween
  refine ⟨hfeed, fun hlone _ hname rest => ?_⟩
  rw [hfeed]
  exact call_composed hcommas hlone hname rest

theorem lists_as_texts_repeated :
    let xs : List Text := ["b".toList, [], "a".toList, "b".toList]
    let steps : List Step := [⟨.uniq, [], Nat.le_refl _⟩, ⟨.rotate, [.int (-1)], Nat.le_refl _⟩]
    (∀ x ∈ xs, ',' ∉ x) ∧ xs ≠ [[]] ∧
      call standard Moment.epoch "len".toList [.list (xs.map .text)] =
        call standard Moment.epoch "len".toList [.text "b,,a,b".toList] ∧
      feed Moment.epoch steps (.list (xs.map .text)) = .ok (.text "a,b,".toList) ∧
      (feed Moment.epoch steps (.list (xs.map .text)) >>= fun v =>
        call standard Moment.epoch "len".toList [v]) = .ok (.int 3) := by
  intro xs steps
  have hcommas : ∀ x ∈ xs, ',' ∉ x := by decide
  have hlone : xs ≠ [[]] := by decide
  have hcompose : compose steps xs = .ok ["a".toList, "b".toList, []] := rfl
  have hlone' : compose steps xs ≠ .ok [[]] := by
    rw [hcompose]
    exact fun h => absurd (Except.ok.inj h) (by decide)
  -- The one list between is that of the first step.
  have hbetween : ∀ front behind, steps = front ++ behind → front ≠ [] → behind ≠ [] →
      compose front xs ≠ .ok [[]] := by
    intro front behind hsteps hfront hbehind
    obtain ⟨hnil, -⟩ | ⟨front', rfl, hrest⟩ := List.cons_eq_append_iff.mp hsteps
    · exact absurd hnil hfront
    obtain ⟨rfl, -⟩ | ⟨front'', -, hrest'⟩ := List.cons_eq_append_iff.mp hrest
    · change Except.ok ["b".toList, [], "a".toList] ≠ Except.ok [[]]
      exact fun h => absurd (Except.ok.inj h) (by decide)
    · exact absurd (List.append_eq_nil_iff.mp hrest'.symm).2 hbehind
  obtain ⟨hcall, hfeed⟩ := lists_as_texts Moment.epoch hcommas
  obtain ⟨htext, hlen⟩ := hfeed steps (List.cons_ne_nil _ _) hbetween
  refine ⟨hcommas, hlone, hcall hlone "len" (by decide) [], ?_, ?_⟩
  · rw [htext, hcompose]
    rfl
  · rw [hlen hlone' "len" (by decide) [], hcompose]
    rfl

example : call standard Moment.epoch "len".toList [.list [.text []]] = .ok (.int 1) ∧
    call standard Moment.epoch "len".toList [.text []] = .ok (.int 0) :=
  ⟨rfl, rfl⟩

end Function

end Stencil
