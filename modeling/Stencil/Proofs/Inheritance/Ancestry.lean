import Mathlib.Data.List.Nodup
import Mathlib.Data.List.Perm.Subperm
import Stencil.Proofs.Eval.Result
import Stencil.Template.Inheritance

namespace Stencil.Template

open Stencil.Text

/-! The layouts that a template extends, one behind the other, whatever stands in them. A chain of
them ends at a layout that extends none, at a name that comes back, or at one that is not there. -/

/-- The template extends the first of the names, the layout of that name the next, and so on up to
the layout `last`. -/
inductive Ascends (load : Text → Except Fault Text) : Text → List Text → Text → Prop
  | here (template : Text) : Ascends load template [] template
  | up {template parent base last : Text} {names : List Text}
      (hparent : extendsName template = some parent) (hload : load parent = .ok base)
      (hrest : Ascends load base names last) : Ascends load template (parent :: names) last

/-- The chain of a template: its ascent as far as no name comes back, with the names in `own` before
those of its ascent. -/
structure Chain (load : Text → Except Fault Text) (own : List Text) (template : Text)
    (names : List Text) (last : Text) : Prop where
  ascends : Ascends load template names last
  nodup : (own ++ names).Nodup

section

variable (load : Text → Except Fault Text) (own : List Text) (template : Text)

def Rooted : Prop :=
  ∃ names last, Chain load own template names last ∧ extendsName last = none

/-- A name of the chain comes back behind the others; `names` are all of them and then that one. -/
def Recurs (names : List Text) : Prop :=
  ∃ before last parent, Chain load own template before last ∧ extendsName last = some parent ∧
    parent ∈ own ++ before ∧ names = own ++ before ++ [parent]

def Broken (fault : Fault) : Prop :=
  ∃ names last parent, Chain load own template names last ∧ extendsName last = some parent ∧
    parent ∉ own ++ names ∧ load parent = .error fault

end

section

variable {load : Text → Except Fault Text} {own : List Text} {template : Text}
  {names other : List Text} {last otherLast : Text}

theorem Ascends.comparable (h : Ascends load template names last)
    (hother : Ascends load template other otherLast) :
    (∃ rest, other = names ++ rest ∧ Ascends load last rest otherLast) ∨
      ∃ rest, names = other ++ rest ∧ Ascends load otherLast rest last := by
  induction h generalizing other with
  | here template => exact .inl ⟨other, rfl, hother⟩
  | up hparent hload hrest ih =>
      cases hother with
      | here template => exact .inr ⟨_, rfl, .up hparent hload hrest⟩
      | up hparent' hload' hrest' =>
          rw [hparent] at hparent'
          cases hparent'
          rw [hload] at hload'
          cases hload'
          rcases ih hrest' with ⟨rest, rfl, hbehind⟩ | ⟨rest, rfl, hbehind⟩
          · exact .inl ⟨rest, rfl, hbehind⟩
          · exact .inr ⟨rest, rfl, hbehind⟩

def Stops (load : Text → Except Fault Text) (chain : List Text) (last : Text) : Prop :=
  ∀ parent, extendsName last = some parent → parent ∉ chain → ∃ fault, load parent = .error fault

theorem Chain.unique (h : Chain load own template names last)
    (hstop : Stops load (own ++ names) last) (hother : Chain load own template other otherLast)
    (hstop' : Stops load (own ++ other) otherLast) : other = names ∧ otherLast = last := by
  -- Where one of the two goes on, it does so with a new name that can be loaded.
  have hend : ∀ {names rest : List Text} {last final : Text}, Stops load (own ++ names) last →
      (own ++ (names ++ rest)).Nodup → Ascends load last rest final → rest = [] ∧ final = last := by
    intro names rest last final hstop hnodup hrest
    cases hrest with
    | here => exact ⟨rfl, rfl⟩
    | up hparent hload hbehind =>
        rw [← List.append_assoc, List.nodup_append] at hnodup
        have hnew := fun hmem => hnodup.2.2 _ hmem _ List.mem_cons_self rfl
        obtain ⟨fault, hfault⟩ := hstop _ hparent hnew
        rw [hload] at hfault
        cases hfault
  rcases h.ascends.comparable hother.ascends with ⟨rest, rfl, hrest⟩ | ⟨rest, rfl, hrest⟩
  · obtain ⟨rfl, rfl⟩ := hend hstop hother.nodup hrest
    exact ⟨List.append_nil _, rfl⟩
  · obtain ⟨rfl, rfl⟩ := hend hstop' h.nodup hrest
    exact ⟨(List.append_nil _).symm, rfl⟩

/-! How far a chain goes. -/

theorem Ascends.mem_texts {texts : List Text}
    (htexts : ∀ {name text}, load name = .ok text → text ∈ texts)
    (h : Ascends load template names last) (htemplate : template ∈ texts) :
    ∀ name ∈ names, some name ∈ texts.map extendsName := by
  induction h with
  | here => exact fun _ hmem => nomatch hmem
  | up hparent hload hrest ih =>
      have hfirst := List.mem_map_of_mem (f := extendsName) htemplate
      rw [hparent] at hfirst
      exact List.forall_mem_cons.mpr ⟨hfirst, ih (htexts hload)⟩

/-- Behind the first name every name of an ascent stands in a text that was loaded. -/
theorem Ascends.length_le {texts : List Text}
    (htexts : ∀ {name text}, load name = .ok text → text ∈ texts)
    (h : Ascends load template names last) (hnodup : names.Nodup) :
    names.length ≤ texts.length + 1 := by
  cases h with
  | here => exact Nat.zero_le _
  | @up _ parent base _ behind hparent hload hrest =>
      have hmem := hrest.mem_texts htexts (htexts hload)
      have hsome := (List.nodup_cons.mp hnodup).2.map fun _ _ => Option.some.inj
      have hsubset : behind.map some ⊆ texts.map extendsName := by
        intro name hname
        obtain ⟨name, hbehind, rfl⟩ := List.mem_map.mp hname
        exact hmem name hbehind
      have hle := (List.subperm_of_subset hsome hsubset).length_le
      rw [List.length_map, List.length_map] at hle
      exact Nat.succ_le_succ hle

/-! What composing comes to at the end of a chain. -/

theorem Chain.up {parent base : Text} (hparent : extendsName template = some parent)
    (hload : load parent = .ok base) (h : Chain load (own ++ [parent]) base names last) :
    Chain load own template (parent :: names) last where
  ascends := .up hparent hload h.ascends
  nodup := by simpa using h.nodup

theorem compose_of_missing {parent : Text} {fault : Fault} {fuel : Nat}
    (hparent : extendsName template = some parent) (hnew : parent ∉ own)
    (hload : load parent = .error fault) :
    compose load (fuel + 1) template own = .error fault := by
  have helem : own.elem parent = false := by simpa using hnew
  rw [compose, hparent]
  simp only [helem, hload, Bool.false_eq_true, if_false]
  rfl

theorem compose_of_base {parent base : Text} {fuel : Nat}
    (hparent : extendsName template = some parent) (hnew : parent ∉ own)
    (hload : load parent = .ok base) :
    compose load (fuel + 1) template own =
      spliceBlocks (extractBlocks template) <$> compose load fuel base (own ++ [parent]) := by
  have helem : own.elem parent = false := by simpa using hnew
  rw [compose, hparent]
  simp only [helem, hload, Bool.false_eq_true, if_false]
  change (compose load fuel base (own ++ [parent]) >>= fun text => pure _) = _
  exact bind_pure_comp _ _

/-- The chain ends in one of three ways, or has as many names as there is fuel. -/
theorem compose_cases (fuel : Nat) (hown : own.Nodup) :
    (Rooted load own template ∧ ∃ out, compose load fuel template own = .ok out) ∨
      (∃ names, Recurs load own template names ∧
        compose load fuel template own = .error (.inheritanceLoop names)) ∨
      (∃ fault, Broken load own template fault ∧
        compose load fuel template own = .error fault) ∨
      ∃ names last, Chain load own template names last ∧ names.length = fuel := by
  induction fuel generalizing template own with
  | zero => exact .inr (.inr (.inr ⟨[], template, ⟨.here _, by simpa using hown⟩, rfl⟩))
  | succ fuel ih =>
      have hhere : Chain load own template [] template := ⟨.here _, by simpa using hown⟩
      cases hparent : extendsName template with
      | none =>
          refine .inl ⟨⟨[], template, hhere, hparent⟩, template, ?_⟩
          rw [compose, hparent]
      | some parent =>
          by_cases hmem : parent ∈ own
          · refine .inr (.inl ⟨own ++ [parent], ⟨[], template, parent, hhere, hparent, ?_, ?_⟩, ?_⟩)
            · simpa using hmem
            · rw [List.append_nil]
            · rw [compose, hparent]
              simp only [List.elem_eq_mem, hmem, decide_true, if_true]
          · cases hload : load parent with
            | error fault =>
                refine .inr (.inr (.inl ⟨fault, ⟨[], template, parent, hhere, hparent, ?_, hload⟩,
                  compose_of_missing hparent hmem hload⟩))
                simpa using hmem
            | ok base =>
                have hlonger : (own ++ [parent]).Nodup :=
                  List.nodup_append.mpr ⟨hown, List.nodup_singleton parent, by
                    rintro name hname _ hlast rfl
                    exact hmem (List.mem_singleton.mp hlast ▸ hname)⟩
                rw [compose_of_base hparent hmem hload]
                -- The chain of the layout, with this step put in front of it.
                rcases @ih (own ++ [parent]) base hlonger with ⟨hroot, out, hout⟩ |
                  ⟨names, hrecurs, hout⟩ | ⟨fault, hbroken, hout⟩ | ⟨names, last, hchain, hlength⟩
                · obtain ⟨names, last, hchain, hlast⟩ := hroot
                  exact .inl ⟨⟨_, last, hchain.up hparent hload, hlast⟩, _, by rw [hout, map_ok]⟩
                · obtain ⟨before, last, next, hchain, hlast, hnext, rfl⟩ := hrecurs
                  refine .inr (.inl ⟨own ++ parent :: before ++ [next],
                    ⟨_, last, next, hchain.up hparent hload, hlast, ?_, rfl⟩, ?_⟩)
                  · simpa using hnext
                  · rw [hout, List.append_assoc own [parent] before]
                    rfl
                · obtain ⟨names, last, next, hchain, hlast, hnext, hfault⟩ := hbroken
                  refine .inr (.inr (.inl ⟨fault,
                    ⟨_, last, next, hchain.up hparent hload, hlast, ?_, hfault⟩, ?_⟩))
                  · simpa using hnext
                  · rw [hout]
                    rfl
                · exact .inr (.inr (.inr ⟨_, last, hchain.up hparent hload, by simp [hlength]⟩))

end

/-! Each of the three ways to end rules the others out. -/

namespace Stops

variable {load : Text → Except Fault Text} {chain : List Text} {last parent : Text}

theorem of_root (hlast : extendsName last = none) : Stops load chain last := by
  intro other hother
  rw [hlast] at hother
  cases hother

theorem of_mem (hlast : extendsName last = some parent) (hmem : parent ∈ chain) :
    Stops load chain last := by
  intro other hother hnew
  rw [hlast] at hother
  cases hother
  exact absurd hmem hnew

theorem of_missing {fault : Fault} (hlast : extendsName last = some parent)
    (hload : load parent = .error fault) : Stops load chain last := by
  intro other hother _
  rw [hlast] at hother
  cases hother
  exact ⟨fault, hload⟩

end Stops

section

variable {load : Text → Except Fault Text} {own names other : List Text} {template : Text}
  {fault otherFault : Fault}

theorem Rooted.not_recurs (h : Rooted load own template) : ¬Recurs load own template names := by
  obtain ⟨_, last, hchain, hroot⟩ := h
  rintro ⟨before, _, parent, hother, hparent, hmem, rfl⟩
  obtain ⟨rfl, rfl⟩ := hchain.unique (.of_root hroot) hother (.of_mem hparent hmem)
  rw [hroot] at hparent
  cases hparent

theorem Rooted.not_broken (h : Rooted load own template) : ¬Broken load own template fault := by
  obtain ⟨_, last, hchain, hroot⟩ := h
  rintro ⟨before, _, parent, hother, hparent, hnew, hload⟩
  obtain ⟨rfl, rfl⟩ := hchain.unique (.of_root hroot) hother (.of_missing hparent hload)
  rw [hroot] at hparent
  cases hparent

theorem Recurs.not_broken (h : Recurs load own template names) :
    ¬Broken load own template fault := by
  obtain ⟨_, last, parent, hchain, hlast, hmem, rfl⟩ := h
  rintro ⟨before, _, other, hother, hparent, hnew, hload⟩
  obtain ⟨rfl, rfl⟩ := hchain.unique (.of_mem hlast hmem) hother (.of_missing hparent hload)
  rw [hlast] at hparent
  cases hparent
  exact hnew hmem

theorem Recurs.unique (h : Recurs load own template names)
    (hother : Recurs load own template other) : other = names := by
  obtain ⟨_, last, parent, hchain, hlast, hmem, rfl⟩ := h
  obtain ⟨_, _, next, hchain', hlast', hmem', rfl⟩ := hother
  obtain ⟨rfl, rfl⟩ := hchain.unique (.of_mem hlast hmem) hchain' (.of_mem hlast' hmem')
  rw [hlast] at hlast'
  cases hlast'
  rfl

theorem Broken.unique (h : Broken load own template fault)
    (hother : Broken load own template otherFault) : otherFault = fault := by
  obtain ⟨_, last, parent, hchain, hlast, _, hload⟩ := h
  obtain ⟨_, _, next, hchain', hlast', _, hload'⟩ := hother
  obtain ⟨rfl, rfl⟩ := hchain.unique (.of_missing hlast hload) hchain' (.of_missing hlast' hload')
  rw [hlast] at hlast'
  cases hlast'
  rw [hload] at hload'
  cases hload'
  rfl

end

/-! Resolving the inheritance of a template. -/

/-- The names that a chain starts with: the template's own, if it has one. An empty name is none. -/
def ownNames (name : Option Text) : List Text :=
  name.toList.filter fun name => !name.isEmpty

theorem nodup_ownNames (name : Option Text) : (ownNames name).Nodup := by
  apply List.Nodup.filter
  cases name with
  | none => exact List.nodup_nil
  | some name => exact List.nodup_singleton name

def baseText (layouts : LayoutSource) (name : Text) : Except Fault Text :=
  layouts.resolve name none "html".toList

section

variable (layouts : LayoutSource) (template : Text) (name : Option Text)

theorem resolveInheritance_eq :
    resolveInheritance layouts template name = unwrapBlocks <$>
      compose (baseText layouts) (layouts.texts.length + 2) template (ownNames name) := by
  cases name with
  | none => exact bind_pure_comp _ _
  | some name => cases name <;> exact bind_pure_comp _ _

theorem resolveInheritance_cases :
    (Rooted (baseText layouts) (ownNames name) template ∧
        ∃ text, resolveInheritance layouts template name = .ok text) ∨
      (∃ names, Recurs (baseText layouts) (ownNames name) template names ∧
        resolveInheritance layouts template name = .error (.inheritanceLoop names)) ∨
      ∃ fault, Broken (baseText layouts) (ownNames name) template fault ∧
        resolveInheritance layouts template name = .error fault := by
  rw [resolveInheritance_eq]
  rcases @compose_cases (baseText layouts) (ownNames name) template
      (layouts.texts.length + 2) (nodup_ownNames name) with
    ⟨hroot, out, hout⟩ | ⟨names, hrecurs, hout⟩ | ⟨fault, hbroken, hout⟩ |
      ⟨names, last, hchain, hlength⟩
  · exact .inl ⟨hroot, unwrapBlocks out, by rw [hout, map_ok]⟩
  · exact .inr (.inl ⟨names, hrecurs, by rw [hout]; rfl⟩)
  · exact .inr (.inr ⟨fault, hbroken, by rw [hout]; rfl⟩)
  · have hle := hchain.ascends.length_le layouts.mem_texts (List.nodup_append.mp hchain.nodup).2.1
    omega

/-- A template is composed exactly when its chain has a root. It fails with the names of the chain
exactly when one of them comes back, and with the fault of a layout exactly when that one, a new
name, is not there; the two exclude each other. -/
theorem resolveInheritance_outcome :
    ((∃ text, resolveInheritance layouts template name = .ok text) ↔
      Rooted (baseText layouts) (ownNames name) template) ∧
    (∀ fault, resolveInheritance layouts template name = .error fault ↔
      (∃ names, Recurs (baseText layouts) (ownNames name) template names ∧
        fault = .inheritanceLoop names) ∨
      Broken (baseText layouts) (ownNames name) template fault) ∧
    ¬((∃ names, Recurs (baseText layouts) (ownNames name) template names) ∧
      ∃ fault, Broken (baseText layouts) (ownNames name) template fault) := by
  refine ⟨?_, ?_, fun ⟨⟨_, hrecurs⟩, ⟨_, hbroken⟩⟩ => hrecurs.not_broken hbroken⟩
  · rcases resolveInheritance_cases layouts template name with
      ⟨hroot, hout⟩ | ⟨names, hrecurs, hout⟩ | ⟨fault, hbroken, hout⟩
    · exact ⟨fun _ => hroot, fun _ => hout⟩
    · rw [hout]
      refine ⟨?_, fun hroot => absurd hrecurs hroot.not_recurs⟩
      rintro ⟨_, ⟨⟩⟩
    · rw [hout]
      refine ⟨?_, fun hroot => absurd hbroken hroot.not_broken⟩
      rintro ⟨_, ⟨⟩⟩
  · intro fault
    rcases resolveInheritance_cases layouts template name with
      ⟨hroot, text, hout⟩ | ⟨names, hrecurs, hout⟩ | ⟨found, hbroken, hout⟩ <;> rw [hout]
    · constructor
      · exact fun h => nomatch h
      · rintro (⟨names, hrecurs, rfl⟩ | hbroken)
        · exact absurd hrecurs hroot.not_recurs
        · exact absurd hbroken hroot.not_broken
    · constructor
      · rintro ⟨⟩
        exact .inl ⟨names, hrecurs, rfl⟩
      · rintro (⟨other, hother, rfl⟩ | hbroken)
        · rw [hother.unique hrecurs]
        · exact absurd hbroken hrecurs.not_broken
    · constructor
      · rintro ⟨⟩
        exact .inr hbroken
      · rintro (⟨names, hrecurs, rfl⟩ | hother)
        · exact absurd hbroken hrecurs.not_broken
        · rw [hother.unique hbroken]

end

end Stencil.Template
