import Stencil.Proofs.Function.Reading

namespace Stencil

/-! Values are written out, unless an integer in them is too long. -/

def Page.fields (p : Page) : List Value :=
  [p.title, p.url, p.content, p.date, p.tags, p.categories, p.section_, p.kind, p.layout, p.draft,
    p.description, p.excerpt, p.params]

theorem Page.forall_mem_fields {p : Page} {R : Value → Prop} :
    (∀ v ∈ p.fields, R v) ↔
      R p.title ∧ R p.url ∧ R p.content ∧ R p.date ∧ R p.tags ∧ R p.categories ∧ R p.section_ ∧
        R p.kind ∧ R p.layout ∧ R p.draft ∧ R p.description ∧ R p.excerpt ∧ R p.params := by
  simp only [fields, List.forall_mem_cons, List.not_mem_nil, false_implies, implies_true, and_true]

namespace Value

/-- A value with integers that are all in `fits`. What lies behind a site does not count, as a site
is written by its title. -/
inductive IntegersIn (fits : Int → Prop) : Value → Prop
  | nil : IntegersIn fits .nil
  | bool (b : Bool) : IntegersIn fits (.bool b)
  | int (i : Int) (h : fits i) : IntegersIn fits (.int i)
  | float (f : Float) : IntegersIn fits (.float f)
  | text (s : Text) : IntegersIn fits (.text s)
  | moment (m : Moment) : IntegersIn fits (.moment m)
  | date (d : Date) : IntegersIn fits (.date d)
  | list (items : List Value) (h : ∀ v ∈ items, IntegersIn fits v) : IntegersIn fits (.list items)
  | pages (items : List Value) (h : ∀ v ∈ items, IntegersIn fits v) :
      IntegersIn fits (.pages items)
  | map (entries : List (Value × Value)) (hkeys : ∀ entry ∈ entries, IntegersIn fits entry.1)
      (hvalues : ∀ entry ∈ entries, IntegersIn fits entry.2) : IntegersIn fits (.map entries)
  | page (p : Page) (h : ∀ v ∈ p.fields, IntegersIn fits v) : IntegersIn fits (.page p)
  | menuEntry (e : MenuEntry) : IntegersIn fits (.menuEntry e)
  | crumb (c : Crumb) (htitle : IntegersIn fits c.title) (hurl : IntegersIn fits c.url) :
      IntegersIn fits (.crumb c)
  | sectionNav (n : SectionNav) (hprev : IntegersIn fits n.prev) (hnext : IntegersIn fits n.next) :
      IntegersIn fits (.sectionNav n)
  | build (b : BuildSettings) : IntegersIn fits (.build b)
  | site (s : Site) : IntegersIn fits (.site s)
  | object (kind : Text) : IntegersIn fits (.object kind)

/-- An integer with few enough digits to be written out. -/
def Writable (i : Int) : Prop := (Nat.repr i.natAbs).length ≤ Text.maxDigits

instance instDecidableWritable (i : Int) : Decidable (Writable i) :=
  inferInstanceAs (Decidable (_ ≤ _))

def Legible : Value → Prop := IntegersIn Writable

end Value

/-- Integers that are written out, or else with a fault of `P`. -/
class Writes (P : Fault → Prop) (fits : Int → Prop) : Prop where
  digits : ∀ i, fits i → FailsIn P (Value.digits i)

theorem Text.ofInt?_of_writable {i : Int} (h : Value.Writable i) : ofInt? i = some (ofInt i) := by
  have hlength : (Nat.repr i.natAbs).toList.length ≤ maxDigits := by
    rw [String.length_toList]
    exact h
  unfold ofInt?
  exact if_neg (Nat.not_lt.mpr hlength)

theorem Text.isSome_ofInt? {i : Int} (h : Value.Writable i) : (ofInt? i).isSome := by
  rw [ofInt?_of_writable h]
  rfl

theorem Value.writable_of_lt {i : Int} (h : i.natAbs < 10) : Writable i :=
  Nat.le_trans ((Nat.length_repr_le_iff Nat.one_pos).mpr h)
    (by decide : 1 ≤ Text.maxDigits)

section

variable {P : Fault → Prop} {fits : Int → Prop}

instance instWritesWritable : Writes P Value.Writable :=
  ⟨fun _ h => Value.digits_failsIn_of_isSome (Text.isSome_ofInt? h)⟩

theorem writes_of_outOfDomain (h : P .outOfDomain) : Writes P fits :=
  ⟨fun i _ => Value.digits_failsIn h i⟩

namespace Value

/-! The parts of a value. -/

theorem IntegersIn.of_sequence? {v : Value} {items : List Value} (h : v.IntegersIn fits)
    (hitems : v.sequence? = some items) : ∀ item ∈ items, item.IntegersIn fits := by
  cases h with
  | list items h =>
      cases hitems
      exact h
  | pages items h =>
      cases hitems
      exact h
  | _ => cases hitems

mutual

theorem integersIn_of_forall (h : ∀ i, fits i) (v : Value) : v.IntegersIn fits := by
  cases v with
  | nil => exact .nil
  | bool b => exact .bool b
  | int i => exact .int i (h i)
  | float f => exact .float f
  | text s => exact .text s
  | moment m => exact .moment m
  | date d => exact .date d
  | list items => exact .list items (forall_integersIn_of_forall h items)
  | pages items => exact .pages items (forall_integersIn_of_forall h items)
  | map entries =>
      have hentries := entries_integersIn_of_forall h entries
      exact .map entries (fun entry hentry => (hentries entry hentry).1)
        fun entry hentry => (hentries entry hentry).2
  | page p => exact .page p (fields_integersIn_of_forall h p)
  | menuEntry e => exact .menuEntry e
  | crumb c => exact crumb_integersIn_of_forall h c
  | sectionNav n => exact sectionNav_integersIn_of_forall h n
  | build b => exact .build b
  | site s => exact .site s
  | object kind => exact .object kind

theorem forall_integersIn_of_forall (h : ∀ i, fits i) (vs : List Value) :
    ∀ v ∈ vs, v.IntegersIn fits := by
  cases vs with
  | nil => exact fun _ hmem => nomatch hmem
  | cons v vs =>
      exact List.forall_mem_cons.mpr
        ⟨integersIn_of_forall h v, forall_integersIn_of_forall h vs⟩

theorem entries_integersIn_of_forall (h : ∀ i, fits i) (entries : List (Value × Value)) :
    ∀ entry ∈ entries, entry.1.IntegersIn fits ∧ entry.2.IntegersIn fits := by
  match entries with
  | [] => exact fun _ hmem => nomatch hmem
  | (k, v) :: rest =>
      exact List.forall_mem_cons.mpr
        ⟨⟨integersIn_of_forall h k, integersIn_of_forall h v⟩,
          entries_integersIn_of_forall h rest⟩

theorem fields_integersIn_of_forall (h : ∀ i, fits i) (p : Page) :
    ∀ v ∈ p.fields, v.IntegersIn fits := by
  match p with
  | ⟨t, u, c, d, ts, cs, s, k, l, dr, de, ex, ps, _, _⟩ =>
      exact Page.forall_mem_fields.mpr
        ⟨integersIn_of_forall h t, integersIn_of_forall h u, integersIn_of_forall h c,
          integersIn_of_forall h d, integersIn_of_forall h ts, integersIn_of_forall h cs,
          integersIn_of_forall h s, integersIn_of_forall h k, integersIn_of_forall h l,
          integersIn_of_forall h dr, integersIn_of_forall h de, integersIn_of_forall h ex,
          integersIn_of_forall h ps⟩

theorem crumb_integersIn_of_forall (h : ∀ i, fits i) (c : Crumb) :
    (Value.crumb c).IntegersIn fits := by
  match c with
  | ⟨t, u, _⟩ => exact .crumb _ (integersIn_of_forall h t) (integersIn_of_forall h u)

theorem sectionNav_integersIn_of_forall (h : ∀ i, fits i) (n : SectionNav) :
    (Value.sectionNav n).IntegersIn fits := by
  match n with
  | ⟨p, q⟩ => exact .sectionNav _ (integersIn_of_forall h p) (integersIn_of_forall h q)

end

/-! Written as a literal, where a text is wanted, and in a page. -/

theorem failsIn_literalAll {vs : List Value} (h : ∀ v ∈ vs, FailsIn P v.literal) :
    FailsIn P (literalAll vs) := by
  induction vs with
  | nil =>
      rw [literalAll]
      infer_instance
  | cons v vs ih =>
      rw [literalAll]
      have hv := h v List.mem_cons_self
      have hvs := ih fun w hw => h w (List.mem_cons_of_mem _ hw)
      infer_instance

theorem failsIn_literalEntries {entries : List (Value × Value)}
    (hkeys : ∀ entry ∈ entries, FailsIn P entry.1.literal)
    (hvalues : ∀ entry ∈ entries, FailsIn P entry.2.literal) :
    FailsIn P (literalEntries entries) := by
  induction entries with
  | nil =>
      rw [literalEntries]
      infer_instance
  | cons entry rest ih =>
      obtain ⟨hk, hkeys⟩ := List.forall_mem_cons.mp hkeys
      obtain ⟨hv, hvalues⟩ := List.forall_mem_cons.mp hvalues
      rw [literalEntries]
      have hrest := ih hkeys hvalues
      infer_instance

theorem failsIn_formatEntries {entries : List (Value × Value)}
    (hkeys : ∀ entry ∈ entries, FailsIn P entry.1.display)
    (hvalues : ∀ entry ∈ entries, FailsIn P entry.2.format) :
    FailsIn P (formatEntries entries) := by
  induction entries with
  | nil =>
      rw [formatEntries]
      infer_instance
  | cons entry rest ih =>
      obtain ⟨hk, hkeys⟩ := List.forall_mem_cons.mp hkeys
      obtain ⟨hv, hvalues⟩ := List.forall_mem_cons.mp hvalues
      rw [formatEntries]
      have hrest := ih hkeys hvalues
      infer_instance

theorem failsIn_page_literal (p : Page) (h : ∀ v ∈ p.fields, FailsIn P v.literal) :
    FailsIn P p.literal := by
  match p with
  | ⟨t, u, c, d, ts, cs, s, k, l, dr, de, ex, ps, _, f⟩ =>
      obtain ⟨ht, hu, hc, hd, hts, hcs, hs, hk, hl, hdr, hde, hex, hps⟩ :=
        Page.forall_mem_fields.mp h
      unfold Page.literal
      infer_instance

variable [hwrites : Writes P fits] {v : Value}

theorem IntegersIn.failsIn_literal (h : v.IntegersIn fits) : FailsIn P v.literal := by
  induction h with
  | int i h =>
      rw [literal]
      exact hwrites.digits i h
  | list items h ih =>
      rw [literal]
      have hitems := failsIn_literalAll ih
      infer_instance
  | map entries hkeys hvalues ihkeys ihvalues =>
      rw [literal]
      have hentries := failsIn_literalEntries ihkeys ihvalues
      infer_instance
  | page p h ih =>
      rw [literal]
      exact failsIn_page_literal p ih
  | crumb c htitle hurl ihtitle ihurl =>
      obtain ⟨t, u, a⟩ := c
      have ht : FailsIn P t.literal := ihtitle
      have hu : FailsIn P u.literal := ihurl
      rw [literal, Crumb.literal]
      infer_instance
  | sectionNav n hprev hnext ihprev ihnext =>
      obtain ⟨p, q⟩ := n
      have hp : FailsIn P p.literal := ihprev
      have hq : FailsIn P q.literal := ihnext
      rw [literal, SectionNav.literal]
      infer_instance
  | _ =>
      rw [literal]
      infer_instance

theorem IntegersIn.failsIn_display (h : v.IntegersIn fits) : FailsIn P v.display := by
  cases v with
  | text s => exact instFailsInOk s
  | moment m => exact instFailsInOk _
  | date d => exact instFailsInOk _
  | _ => exact h.failsIn_literal

theorem IntegersIn.failsIn_format (h : v.IntegersIn fits) : FailsIn P v.format := by
  induction h with
  | int i h =>
      rw [format]
      exact hwrites.digits i h
  | map entries hkeys hvalues ihkeys ihvalues =>
      rw [format]
      have hdisplay := fun entry hentry => (hkeys entry hentry).failsIn_display (P := P)
      have hentries := failsIn_formatEntries hdisplay ihvalues
      infer_instance
  | _ => exact instFailsInOk _

omit hwrites

theorem display_failsIn (h : P .outOfDomain) (v : Value) : FailsIn P v.display := by
  have hwrites : Writes P fun _ => True := writes_of_outOfDomain h
  exact (integersIn_of_forall (fun _ => trivial) v).failsIn_display

theorem format_failsIn (h : P .outOfDomain) (v : Value) : FailsIn P v.format := by
  have hwrites : Writes P fun _ => True := writes_of_outOfDomain h
  exact (integersIn_of_forall (fun _ => trivial) v).failsIn_format

end Value

end

end Stencil
