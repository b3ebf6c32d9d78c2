import Stencil.Proofs.Site.Listing
import Stencil.Site.CollectionStore

namespace Stencil.Collection

/-! Stores in which whatever is remembered is what sorting would give. -/

namespace Store

variable {store later latest : Store} {place other made kept : Nat}

def Sound (store : Store) : Prop :=
  ∀ place kept, store.newestFirst? place = some kept →
    kept < store.length ∧ Collection.sorted (store.items place) true = .ok (store.items kept)

/-- The collections of a store keep their elements; others may join them. -/
structure Grows (store later : Store) : Prop where
  length_le : store.length ≤ later.length
  items_eq : ∀ place < store.length, later.items place = store.items place

theorem Grows.refl (store : Store) : store.Grows store := ⟨Nat.le_refl _, fun _ _ => rfl⟩

theorem Grows.trans (h : store.Grows later) (h' : later.Grows latest) : store.Grows latest where
  length_le := Nat.le_trans h.length_le h'.length_le
  items_eq place hplace :=
    (h'.items_eq place (Nat.lt_of_lt_of_le hplace h.length_le)).trans (h.items_eq place hplace)

theorem newestFirst?_lt (h : store.newestFirst? place = some kept) : place < store.length := by
  obtain ⟨entry, hentry, -⟩ := Option.bind_eq_some_iff.mp h
  exact (List.getElem?_eq_some_iff.mp hentry).1

theorem sound_ofItems (elements : List Value) : Sound (ofItems elements) := by
  intro place kept h
  have hplace := newestFirst?_lt h
  rw [ofItems, List.length_singleton, Nat.lt_one_iff] at hplace
  subst hplace
  cases h

theorem items_append_of_lt (entry : Entry) (h : place < store.length) :
    items (store ++ [entry]) place = store.items place := by
  rw [items, items, List.getElem?_append_left h]

theorem items_append_length (store : Store) (entry : Entry) :
    items (store ++ [entry]) store.length = entry.items := by
  simp [items]

theorem grows_append (store : Store) (entry : Entry) : store.Grows (store ++ [entry]) where
  length_le := by simp
  items_eq _ := items_append_of_lt entry

theorem Sound.append (h : store.Sound) (elements : List Value) :
    Sound (store ++ [⟨elements, none⟩]) := by
  intro place kept hkept
  have hplace := newestFirst?_lt hkept
  rw [List.length_append, List.length_singleton, Nat.lt_succ_iff_lt_or_eq] at hplace
  rcases hplace with hplace | rfl
  · rw [newestFirst?, List.getElem?_append_left hplace] at hkept
    obtain ⟨hlt, hsorted⟩ := h place kept hkept
    rw [items_append_of_lt _ hplace, items_append_of_lt _ hlt]
    exact ⟨Nat.lt_of_lt_of_le hlt (grows_append store _).length_le, hsorted⟩
  · simp [newestFirst?] at hkept

theorem items_remember (store : Store) (place made other : Nat) :
    (store.remember place made).items other = store.items other := by
  rw [remember, items, items, List.getElem?_modify]
  cases store[other]? with
  | none => rfl
  | some entry =>
      by_cases h : place = other
      · simp [h]
      · simp [h]

theorem length_remember (store : Store) (place made : Nat) :
    (store.remember place made).length = store.length :=
  List.length_modify _ _ _

theorem grows_remember (store : Store) (place made : Nat) :
    store.Grows (store.remember place made) where
  length_le := Nat.le_of_eq (length_remember store place made).symm
  items_eq other _ := items_remember store place made other

theorem newestFirst?_remember (h : (store.remember place made).newestFirst? other = some kept) :
    store.newestFirst? other = some kept ∨ other = place ∧ kept = made := by
  rw [remember, newestFirst?, List.getElem?_modify] at h
  rw [newestFirst?]
  cases hentry : store[other]? with
  | none =>
      rw [hentry] at h
      cases h
  | some entry =>
      rw [hentry] at h
      by_cases hplace : place = other
      · simp only [hplace, if_true, Option.map_eq_map, Option.map_some, Option.bind_some] at h
        cases h
        exact .inr ⟨hplace.symm, rfl⟩
      · simp only [hplace, if_false, Option.map_eq_map, Option.map_some] at h
        exact .inl h

theorem Sound.remember (h : store.Sound) (hmade : made < store.length)
    (hitems : Collection.sorted (store.items place) true = .ok (store.items made)) :
    Sound (store.remember place made) := by
  intro other kept hkept
  rw [items_remember, items_remember, length_remember]
  rcases newestFirst?_remember hkept with hold | ⟨rfl, rfl⟩
  · exact h other kept hold
  · exact ⟨hmade, hitems⟩

end Store

/-! Computations on a store against the lists that they stand for. -/

/-- A run that started from `store` gives a collection with the elements of an answer, or fails as the
answer does. Of the store it keeps all there is. -/
inductive Gives (store : Store) : Except Fault (Nat × Store) → Except Fault (List Value) → Prop
  | fails (fault : Fault) : Gives store (.error fault) (.error fault)
  | gives {place : Nat} {later : Store} : place < later.length → later.Sound →
      store.Grows later → Gives store (.ok (place, later)) (.ok (later.items place))

theorem Gives.of_grows {store middle : Store} {run : Except Fault (Nat × Store)}
    {answer : Except Fault (List Value)} (hgrows : store.Grows middle)
    (h : Gives middle run answer) : Gives store run answer := by
  cases h with
  | fails fault => exact .fails fault
  | gives hplace hsound hlater => exact .gives hplace hsound (hgrows.trans hlater)

namespace Storing

variable {store : Store} {place : Nat}

theorem gives_bind {x : Storing Nat} {next : Nat → Storing Nat}
    {answer : Except Fault (List Value)} {f : List Value → Except Fault (List Value)}
    (h : Gives store (x.run store) answer)
    (hnext : ∀ place later, place < later.length → later.Sound →
      Gives later ((next place).run later) (f (later.items place))) :
    Gives store ((x >>= next).run store) (answer >>= f) := by
  rw [StateT.run_bind]
  generalize x.run store = run at h
  cases h with
  | fails fault => exact .fails fault
  | gives hplace hsound hgrows => exact (hnext _ _ hplace hsound).of_grows hgrows

theorem gives_make (h : store.Sound) (elements : List Value) :
    Gives store ((make elements).run store) (.ok elements) := by
  have hplace : store.length < (store ++ [Entry.mk elements none]).length := by simp
  have hgives := Gives.gives hplace (h.append elements) (store.grows_append ⟨elements, none⟩)
  rwa [Store.items_append_length] at hgives

theorem run_derive (f : List Value → Except Fault (List Value)) (place : Nat) (store : Store) :
    (derive f place).run store = (f (store.items place) >>= fun elements =>
      (make elements).run store) := by
  rw [derive, StateT.run_bind, StateT.run_get, pure_bind]
  cases f (store.items place) <;> rfl

theorem gives_derive (h : store.Sound) (f : List Value → Except Fault (List Value)) (place : Nat) :
    Gives store ((derive f place).run store) (f (store.items place)) := by
  rw [run_derive]
  cases f (store.items place) with
  | error fault => exact .fails fault
  | ok elements => exact gives_make h elements

theorem run_sorted_of_some {kept : Nat} (h : store.newestFirst? place = some kept) :
    (sorted place).run store = .ok (kept, store) := by
  rw [sorted, StateT.run_bind, StateT.run_get, pure_bind, h]
  rfl

theorem run_sorted_of_none (h : store.newestFirst? place = none) :
    (sorted place).run store = ((derive (Collection.sorted · true) place).run store >>=
      fun (made, later) => .ok (made, later.remember place made)) := by
  rw [sorted, StateT.run_bind, StateT.run_get, pure_bind, h]
  rfl

theorem run_sorted_oldestFirst :
    (sorted place false).run store = (derive (Collection.sorted · false) place).run store := by
  rw [sorted, StateT.run_bind, StateT.run_get, pure_bind]
  cases store.newestFirst? place <;> rfl

/-- What is remembered is what sorting would give, and what sorting gives may be remembered. -/
theorem gives_sorted (h : store.Sound) (hplace : place < store.length) (newestFirst : Bool) :
    Gives store ((sorted place newestFirst).run store)
      (Collection.sorted (store.items place) newestFirst) := by
  cases newestFirst with
  | false =>
      rw [run_sorted_oldestFirst]
      exact gives_derive h _ place
  | true =>
      cases hkept : store.newestFirst? place with
      | some kept =>
          obtain ⟨hlt, hsorted⟩ := h place kept hkept
          rw [run_sorted_of_some hkept, hsorted]
          exact .gives hlt h (.refl store)
      | none =>
          have hmade := gives_derive h (Collection.sorted · true) place
          rw [run_sorted_of_none hkept]
          generalize (derive (Collection.sorted · true) place).run store = run at hmade
          generalize hanswer : Collection.sorted (store.items place) true = answer at hmade ⊢
          cases hmade with
          | fails fault => exact .fails fault
          | @gives made later hlt hsound hgrows =>
              -- The collection kept its elements while it was sorted, so it may be remembered.
              rw [← hgrows.items_eq place hplace] at hanswer
              rw [← Store.items_remember later place made]
              refine .gives ?_ (hsound.remember hlt hanswer)
                (hgrows.trans (later.grows_remember place made))
              rwa [Store.length_remember]

theorem gives_latest (h : store.Sound) (count : Int) (place : Nat) :
    Gives store ((latest count place).run store)
      (Collection.latest count (store.items place)) := by
  have hanswer : Collection.latest count (store.items place) =
      (regular (store.items place) >>= fun singles =>
        Collection.sorted singles true >>= fun newest =>
          slice newest none (some (max count 0)) none) := by
    have hcount : (max count 0).toNat = count.toNat := by omega
    simp only [slice_front _ (Int.le_max_right count 0), hcount]
    rfl
  rw [hanswer]
  refine gives_bind (gives_derive h regular place) fun singles later hsingles hlater => ?_
  refine gives_bind (gives_sorted hlater hsingles true) fun newest last _ hlast => ?_
  exact gives_derive hlast _ newest

end Storing

/-! Calls on the collections of a store, one after another. -/

inductive Call
  | sorted (newestFirst : Bool)
  | latest (count : Int)
  | slice (start stop step : Option Int)

def Call.make : Call → Nat → Storing Nat
  | .sorted newestFirst, place => Storing.sorted place newestFirst
  | .latest count, place => Storing.latest count place
  | .slice start stop step, place => Storing.derive (Collection.slice · start stop step) place

def Call.on : Call → List Value → Except Fault (List Value)
  | .sorted newestFirst, items => Collection.sorted items newestFirst
  | .latest count, items => Collection.latest count items
  | .slice start stop step, items => Collection.slice items start stop step

namespace Store

variable {store later : Store} {place : Nat}

def answer (store : Store) (place : Nat) (call : Call) : Except Fault (List Value) :=
  ((call.make place).run store).map fun (made, later) => later.items made

def after (store : Store) (place : Nat) (call : Call) : Store :=
  match (call.make place).run store with
  | .ok (_, later) => later
  | .error _ => store

def answers (store : Store) (place : Nat) : List Call → List (Except Fault (List Value))
  | [] => []
  | call :: calls => store.answer place call :: (store.after place call).answers place calls

inductive Reaches (store : Store) : Store → Prop
  | refl : Reaches store store
  | call {later : Store} {place : Nat} : Reaches store later → place < later.length →
      (call : Call) → Reaches store (later.after place call)

theorem gives_call (h : store.Sound) (hplace : place < store.length) (call : Call) :
    Gives store ((call.make place).run store) (call.on (store.items place)) := by
  cases call with
  | sorted newestFirst => exact Storing.gives_sorted h hplace newestFirst
  | latest count => exact Storing.gives_latest h count place
  | slice start stop step =>
      exact Storing.gives_derive h (Collection.slice · start stop step) place

/-- One call answers as the list of the elements does, and what the store remembers stays true. -/
theorem answer_eq (h : store.Sound) (hplace : place < store.length) (call : Call) :
    store.answer place call = call.on (store.items place) ∧
      (store.after place call).Sound ∧ store.Grows (store.after place call) := by
  have hgives := gives_call h hplace call
  unfold answer after
  generalize (call.make place).run store = run at hgives ⊢
  generalize call.on (store.items place) = answer at hgives ⊢
  cases hgives with
  | fails fault => exact ⟨rfl, h, .refl store⟩
  | gives _ hsound hgrows => exact ⟨rfl, hsound, hgrows⟩

theorem answers_eq (h : store.Sound) (hplace : place < store.length) (calls : List Call) :
    store.answers place calls = calls.map (·.on (store.items place)) := by
  induction calls generalizing store with
  | nil => rfl
  | cons call calls ih =>
      obtain ⟨hanswer, hsound, hgrows⟩ := answer_eq h hplace call
      rw [answers, hanswer, ih hsound (Nat.lt_of_lt_of_le hplace hgrows.length_le),
        hgrows.items_eq place hplace, List.map_cons]

theorem Reaches.sound (h : store.Sound) (hreaches : store.Reaches later) : later.Sound := by
  induction hreaches with
  | refl => exact h
  | call _ hplace call ih => exact (answer_eq ih hplace call).2.1

theorem answer_ofItems (elements : List Value) (call : Call) :
    (ofItems elements).answer 0 call = call.on elements :=
  (answer_eq (sound_ofItems elements) Nat.one_pos call).1

end Store

end Stencil.Collection

namespace Stencil

open Collection

/-! The order of a collection. -/

namespace Page

variable {pages : List Page}

/-- What collections are sorted by: the date, and then the title without regard to case. -/
def key (p : Page) : Int × Text := (p.sortMoment.instant, p.label)

def KeyLe (p q : Page) : Prop :=
  p.key.1 < q.key.1 ∨ p.key.1 = q.key.1 ∧ Text.le p.key.2 q.key.2

/-- The pages in the order of their keys; those with equal keys stay in the order they have. -/
structure Ordered (newestFirst : Bool) (pages sorted : List Page) : Prop where
  perm : sorted.Perm pages
  pairwise : sorted.Pairwise fun p q => if newestFirst then q.KeyLe p else p.KeyLe q
  stable : ∀ key, sorted.filter (·.key == key) = pages.filter (·.key == key)

theorem inOrder_iff {newestFirst : Bool} {p q : Page} :
    inOrder newestFirst p q = true ↔ if newestFirst then q.KeyLe p else p.KeyLe q := by
  cases newestFirst with
  | true =>
      rw [if_pos rfl]
      exact precedes_iff
  | false =>
      rw [if_neg Bool.false_ne_true]
      exact precedes_iff

theorem keyLe_of_key_eq {p q : Page} (h : p.key = q.key) : p.KeyLe q := by
  right
  rw [h]
  exact ⟨rfl, (Text.le_total q.key.2 q.key.2).elim id id⟩

theorem inOrder_of_key_eq {newestFirst : Bool} {p q : Page} (h : p.key = q.key) :
    inOrder newestFirst p q = true := by
  rw [inOrder_iff]
  split
  · exact keyLe_of_key_eq h.symm
  · exact keyLe_of_key_eq h

theorem ordered_mergeSort (newestFirst : Bool) (pages : List Page) :
    Ordered newestFirst pages (pages.mergeSort (inOrder newestFirst)) where
  perm := List.mergeSort_perm pages _
  pairwise := by
    have hsorts := sorts_inOrder newestFirst
    exact (List.pairwise_mergeSort hsorts.trans hsorts.total pages).imp inOrder_iff.mp
  stable key := by
    refine filter_mergeSort (sorts_inOrder newestFirst) fun p q hp hq => inOrder_of_key_eq ?_
    exact (beq_iff_eq.mp hp).trans (beq_iff_eq.mp hq).symm

end Page

/-- What a collection remembers shows in no answer, neither in its own nor in those of the
collections that were had from it. Sorted it is in the order of dates and titles. -/
theorem collection_answers {pages : List Page} (h : ∀ p ∈ pages, p.Sortable)
    (hnaive : Naive pages) :
    (∀ calls : List Call, (Store.ofItems (pages.map .page)).answers 0 calls =
      calls.map ((Store.ofItems (pages.map .page)).answer 0)) ∧
    (∀ store, (Store.ofItems (pages.map .page)).Reaches store →
      ∀ place < store.length, ∀ call : Call,
        store.answer place call = (Store.ofItems (store.items place)).answer 0 call) ∧
    (∀ newestFirst, ∃ sorted : List Page, Page.Ordered newestFirst pages sorted ∧
      (Store.ofItems (pages.map .page)).answer 0 (.sorted newestFirst) =
        .ok (sorted.map .page)) ∧
    ∀ count, ∃ newest : List Page, Page.Ordered true (singles pages) newest ∧
      (Store.ofItems (pages.map .page)).answer 0 (.latest count) =
        .ok ((newest.take (max count 0).toNat).map .page) := by
  have hsound := Store.sound_ofItems (pages.map .page)
  refine ⟨fun calls => ?_, fun store hreaches place hplace call => ?_, fun newestFirst => ?_,
    fun count => ?_⟩
  · rw [Store.answers_eq hsound Nat.one_pos]
    exact List.map_congr_left fun call _ => (Store.answer_ofItems _ call).symm
  · rw [Store.answer_ofItems]
    exact (Store.answer_eq (hreaches.sound hsound) hplace call).1
  · refine ⟨_, Page.ordered_mergeSort newestFirst pages, ?_⟩
    rw [Store.answer_ofItems]
    exact sorted_inOrder h hnaive newestFirst
  · refine ⟨_, Page.ordered_mergeSort true (singles pages), ?_⟩
    have hmem : ∀ p ∈ singles pages, p ∈ pages := fun p hp => (List.mem_filter.mp hp).1
    have hsorted := sorted_inOrder (fun p hp => h p (hmem p hp)) (fun p hp => hnaive p (hmem p hp))
      true
    have hcount : count.toNat = (max count 0).toNat := by omega
    rw [Store.answer_ofItems, Call.on, Collection.latest, regular_pages, ok_bind, hsorted, ok_bind,
      ← List.map_take, hcount]
    rfl

/-- A page without a date between two of one day with equal titles but for the case. -/
def sameDay : List Page :=
  sectionOf [("b", some (.ofDate ⟨2024, 1, 5⟩), 0), ("B", none, 1),
    ("B", some (.ofDate ⟨2024, 1, 5⟩), 2)]

theorem collection_answers_sameDay :
    (∀ p ∈ sameDay, p.Sortable) ∧ Naive sameDay ∧
    ∃ newest oldest : List Page,
      Page.Ordered true sameDay newest ∧ Page.Ordered false sameDay oldest ∧
      (Store.ofItems (sameDay.map .page)).answers 0
          [.sorted true, .sorted false, .sorted true] =
        [.ok (newest.map .page), .ok (oldest.map .page), .ok (newest.map .page)] := by
  have hnaive : Naive sameDay := by
    unfold Naive
    decide
  obtain ⟨hanswers, -, hsorted, -⟩ := @collection_answers sameDay sortable_sectionOf hnaive
  obtain ⟨newest, hnewest, hfirst⟩ := hsorted true
  obtain ⟨oldest, holdest, hsecond⟩ := hsorted false
  refine ⟨sortable_sectionOf, hnaive, newest, oldest, hnewest, holdest, ?_⟩
  rw [hanswers, List.map_cons, List.map_cons, List.map_singleton, hfirst, hsecond]

end Stencil
