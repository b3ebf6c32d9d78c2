import Stencil.Proofs.Render.Stages
import Stencil.Proofs.Value.Integers
import Stencil.Template.Engine

namespace Stencil

/-! A computation whose failures are told in another way. -/

namespace Eval

theorem run_tryCatch_throw (x : Eval α) (f : Fault → Fault) (log : List Note) :
    (ExceptT.run (tryCatch x fun e => throw (f e))).run log =
      (((ExceptT.run x).run log).1.mapError f, ((ExceptT.run x).run log).2) := by
  rw [ExceptT.run_tryCatch, StateT.run_bind]
  rcases (ExceptT.run x).run log with ⟨_ | _, _⟩ <;> rfl

theorem result_tryCatch_throw (x : Eval α) (f : Fault → Fault) :
    (tryCatch x fun e => throw (f e)).result = x.result.mapError f :=
  congrArg Prod.fst (run_tryCatch_throw x f [])

instance [hx : Steady x] (f : Fault → Fault) : Steady (tryCatch x fun e => throw (f e)) := by
  refine steady_of (x.result.mapError f) x.run.2 fun log => ?_
  rw [run_tryCatch_throw, hx.run_eq]

end Eval

/-! What a page's fields have to hold for its layout to be chosen. -/

theorem Value.textOrNoSuch_eq_ok_iff {v : Value} {s : Text} :
    v.textOrNoSuch = .ok s ↔ v = .text s := by
  cases v <;> simp [Value.textOrNoSuch]

theorem Value.textOrNoSuch_failsIn {P : Fault → Prop} (h : P .noSuchOperation) (v : Value) :
    FailsIn P v.textOrNoSuch := by
  cases v with
  | text s => exact instFailsInOk s
  | _ => exact failsIn_error h

theorem Value.text_or_asText?_eq_none (v : Value) : (∃ s, v = .text s) ∨ v.asText? = none := by
  cases v with
  | text s => exact .inl ⟨s, rfl⟩
  | _ => exact .inr rfl

theorem Page.type_eq_ok_iff {page : Page} :
    (∃ kind, page.type = .ok kind) ↔ (page.section_.truthy → ∃ s, page.section_ = .text s) := by
  unfold Page.type
  cases htruthy : page.section_.truthy with
  | false => simp
  | true =>
      simp only [if_true, bind_eq_ok, Value.textOrNoSuch_eq_ok_iff, forall_const]
      constructor
      · rintro ⟨_, s, hs, -⟩
        exact ⟨s, hs⟩
      · rintro ⟨s, hs⟩
        exact ⟨_, s, hs, rfl⟩

def Fault.OfKind : Fault → Prop
  | .wrongKind | .noSuchOperation | .outOfDomain => True
  | _ => False

namespace Engine

open Stencil.Template

instance (setup : Setup) (ctx : Context) (template : Text) (name : Option Text) :
    Eval.Steady (render setup ctx template name) := by
  unfold render Template.render
  infer_instance

/-- A name that a table answers to. Any text is one, as a missing layout can be told; any other value
has to be a key that is written out in the name of a layout. -/
def Answers (table : LayoutTable) (kind : Text) (name : Value) : Prop :=
  (∃ s, name = .text s) ∨ name.isKey ∧ ∃ written text, name.display = .ok written ∧
    table.resolveWritten written (some kind) "html".toList = .ok text

/-- What a page's fields have to hold for its layout to be chosen. Its own layout counts when none
is asked for, and its kind when it has no layout of its own. -/
structure Choosable (table : LayoutTable) (page : Page) (layout : Option Text) : Prop where
  section_ : page.section_.truthy → ∃ s, page.section_ = .text s
  own : layout.getD [] = [] → page.layout.truthy →
    ∀ kind, page.type = .ok kind → Answers table kind page.layout
  byKind : layout.getD [] = [] → page.layout.truthy = false → page.kind.isKey

section

variable {table : LayoutTable} {page : Page} {layout : Option Text}

theorem layoutName_of_asked (h : layout.getD [] ≠ []) :
    layoutName page layout = .ok (.text (layout.getD [])) := by
  cases layout with
  | none => exact absurd rfl h
  | some name =>
      have hname : name.isEmpty = false := List.isEmpty_eq_false_iff.mpr h
      simp [layoutName, hname]

theorem layoutName_of_not_asked (h : layout.getD [] = []) :
    layoutName page layout = layoutName.own page := by
  cases layout with
  | none => rfl
  | some name =>
      cases h
      rfl

theorem layoutOfKind_of_isKey {kind : Value} (h : kind.isKey) :
    ∃ s, layoutOfKind kind = .ok (.text s) := by
  unfold layoutOfKind
  rw [h]
  simp only [Bool.not_true, Bool.false_eq_true, if_false]
  split
  · exact ⟨_, rfl⟩
  · split
    · exact ⟨_, rfl⟩
    · exact ⟨_, rfl⟩

theorem isKey_of_layoutOfKind {kind name : Value} (h : layoutOfKind kind = .ok name) :
    kind.isKey := by
  cases hkey : kind.isKey with
  | true => rfl
  | false => simp [layoutOfKind, hkey] at h

theorem choosable_iff :
    Choosable table page layout ↔
      ∃ name kind, layoutName page layout = .ok name ∧ page.type = .ok kind ∧
        Answers table kind name := by
  constructor
  · intro h
    obtain ⟨kind, hkind⟩ := Page.type_eq_ok_iff.mpr h.section_
    by_cases hasked : layout.getD [] = []
    · rw [layoutName_of_not_asked hasked, layoutName.own]
      cases htruthy : page.layout.truthy with
      | true => exact ⟨page.layout, kind, rfl, hkind, h.own hasked htruthy kind hkind⟩
      | false =>
          obtain ⟨s, hs⟩ := layoutOfKind_of_isKey (h.byKind hasked htruthy)
          exact ⟨.text s, kind, hs, hkind, .inl ⟨s, rfl⟩⟩
    · exact ⟨_, kind, layoutName_of_asked hasked, hkind, .inl ⟨_, rfl⟩⟩
  · rintro ⟨name, kind, hname, hkind, hanswers⟩
    refine ⟨Page.type_eq_ok_iff.mp ⟨kind, hkind⟩, ?_, ?_⟩
    · intro hasked htruthy kind' hkind'
      rw [layoutName_of_not_asked hasked, layoutName.own, if_pos htruthy] at hname
      cases hname
      cases hkind.symm.trans hkind'
      exact hanswers
    · intro hasked hfalsy
      rw [layoutName_of_not_asked hasked, layoutName.own, hfalsy] at hname
      exact isKey_of_layoutOfKind hname

/-! The layout that is chosen. -/

def Chosen.found (shown : Text) (own : Option Text) : Except Fault Text → Except Fault Chosen
  | .ok template => .ok ⟨shown, own, template⟩
  | .error (.layoutMissing _ _) =>
      .ok ⟨"<default>".toList, some "<default>".toList, defaultLayout⟩
  | .error e => .error e

theorem result_chooseLayout (layouts : LayoutSource) :
    (chooseLayout layouts page layout).result = (do
      let name ← layoutName page layout
      let kind ← page.type
      let shown ← name.display
      Chosen.found shown name.asText? (findLayout layouts name kind)) := by
  have hlast : ∀ (shown : Text) (own : Option Text) (r : Except Fault Text),
      Eval.Steady (match r with
        | .ok template => return ⟨shown, own, template⟩
        | .error (.layoutMissing _ _) => do
            Eval.note .warning "templates"
              ("No layout found for ".toList ++ Text.quoted shown ++
                "; using the built-in default".toList)
            return ⟨"<default>".toList, some "<default>".toList, defaultLayout⟩
        | .error e => throw e : Eval Chosen) := by
    intro shown own r
    split <;> infer_instance
  unfold chooseLayout
  simp only [Eval.result_bind, Eval.result_ofExcept]
  congr 1
  funext name
  congr 1
  funext kind
  congr 1
  funext shown
  unfold Chosen.found
  cases findLayout layouts name kind with
  | ok template => rfl
  | error e => cases e <;> rfl

theorem findLayout_text (s kind : Text) :
    findLayout table.source (.text s) kind = table.resolve s (some kind) "html".toList := rfl

theorem findLayout_of_asText?_eq_none {name : Value} (h : name.asText? = none) (kind : Text) :
    findLayout table.source name kind =
      if name.isKey then do
        table.resolveWritten (← name.display) (some kind) "html".toList
      else .error .wrongKind := by
  cases name with
  | text s => cases h
  | _ => rfl

theorem failsIn_findLayout_of_asText?_eq_none {name : Value} (h : name.asText? = none)
    (kind : Text) : FailsIn Fault.OfKind (findLayout table.source name kind) := by
  have hdisplay : FailsIn Fault.OfKind name.display := Value.display_failsIn trivial name
  have hwritten : ∀ written,
      FailsIn Fault.OfKind (table.resolveWritten written (some kind) "html".toList) := by
    intro written
    rcases table.resolveWritten_cases written (some kind) "html".toList with ⟨text, h⟩ | h
    · exact h ▸ instFailsInOk text
    · exact h ▸ failsIn_error trivial
  have hkey : FailsIn Fault.OfKind (.error .wrongKind : Except Fault Text) := failsIn_error trivial
  rw [findLayout_of_asText?_eq_none h]
  infer_instance

theorem findLayout_eq_ok_iff {name : Value} (h : name.asText? = none) {kind text : Text} :
    findLayout table.source name kind = .ok text ↔
      name.isKey ∧ ∃ written, name.display = .ok written ∧
        table.resolveWritten written (some kind) "html".toList = .ok text := by
  rw [findLayout_of_asText?_eq_none h]
  cases name.isKey with
  | true => simp [bind_eq_ok]
  | false => simp

theorem found_text {s kind shown : Text} :
    ∃ chosen, Chosen.found shown (some s) (findLayout table.source (.text s) kind) =
      .ok chosen := by
  rw [findLayout_text]
  rcases table.resolve_cases s (some kind) "html".toList with ⟨text, h⟩ | ⟨searched, h⟩
  · rw [h]
    exact ⟨_, rfl⟩
  · rw [h]
    exact ⟨_, rfl⟩

theorem found_eq_ok_iff {shown : Text} {own : Option Text} {r : Except Fault Text}
    (h : FailsIn Fault.OfKind r) {chosen : Chosen} :
    Chosen.found shown own r = .ok chosen ↔
      ∃ template, r = .ok template ∧ chosen = ⟨shown, own, template⟩ := by
  cases r with
  | ok template => simp [Chosen.found, eq_comm]
  | error e =>
      have he : Fault.OfKind e := h.of_eq_error e rfl
      cases e with
      | layoutMissing name searched => cases he
      | _ => simp [Chosen.found]

theorem failsIn_found {shown : Text} {own : Option Text} {r : Except Fault Text}
    (h : FailsIn Fault.OfKind r) : FailsIn Fault.OfKind (Chosen.found shown own r) := by
  cases r with
  | ok template => exact instFailsInOk _
  | error e =>
      have he : Fault.OfKind e := h.of_eq_error e rfl
      cases e with
      | layoutMissing name searched => cases he
      | _ => exact failsIn_error he

theorem name_of_found {shown : Text} {own : Option Text} {r : Except Fault Text} {chosen : Chosen}
    (h : Chosen.found shown own r = .ok chosen) :
    chosen.name = shown ∨ chosen.name = "<default>".toList := by
  cases r with
  | ok template =>
      cases h
      exact .inl rfl
  | error e =>
      cases e with
      | layoutMissing name searched =>
          cases h
          exact .inr rfl
      | _ => cases h

theorem answers_iff {kind shown : Text} {name : Value} (hshown : name.display = .ok shown) :
    Answers table kind name ↔
      ∃ chosen, Chosen.found shown name.asText? (findLayout table.source name kind) =
        .ok chosen := by
  rcases name.text_or_asText?_eq_none with ⟨s, rfl⟩ | hnone
  · exact ⟨fun _ => found_text, fun _ => .inl ⟨s, rfl⟩⟩
  · have hfails : FailsIn Fault.OfKind (findLayout table.source name kind) :=
      failsIn_findLayout_of_asText?_eq_none hnone kind
    simp only [found_eq_ok_iff hfails, findLayout_eq_ok_iff hnone]
    constructor
    · rintro (⟨s, rfl⟩ | ⟨hkey, written, text, hwritten, htext⟩)
      · cases hnone
      · exact ⟨_, text, ⟨hkey, written, hwritten, htext⟩, rfl⟩
    · rintro ⟨_, text, ⟨hkey, written, hwritten, htext⟩, -⟩
      exact .inr ⟨hkey, written, text, hwritten, htext⟩

theorem Answers.exists_display {kind : Text} {name : Value} (h : Answers table kind name) :
    ∃ shown, name.display = .ok shown := by
  rcases h with ⟨s, rfl⟩ | ⟨_, shown, _, hshown, _⟩
  · exact ⟨s, rfl⟩
  · exact ⟨shown, hshown⟩

theorem chooseLayout_eq_ok_iff :
    (∃ chosen, (chooseLayout table.source page layout).result = .ok chosen) ↔
      Choosable table page layout := by
  rw [choosable_iff, result_chooseLayout]
  simp only [bind_eq_ok]
  constructor
  · rintro ⟨chosen, name, hname, kind, hkind, shown, hshown, hfound⟩
    exact ⟨name, kind, hname, hkind, (answers_iff hshown).mpr ⟨chosen, hfound⟩⟩
  · rintro ⟨name, kind, hname, hkind, hanswers⟩
    obtain ⟨shown, hshown⟩ := hanswers.exists_display
    obtain ⟨chosen, hfound⟩ := (answers_iff hshown).mp hanswers
    exact ⟨chosen, name, hname, kind, hkind, shown, hshown, hfound⟩

theorem name_of_chooseLayout {layouts : LayoutSource} {chosen : Chosen}
    (h : (chooseLayout layouts page layout).result = .ok chosen) :
    layoutName page layout >>= Value.display = .ok chosen.name ∨
      chosen.name = "<default>".toList := by
  rw [result_chooseLayout] at h
  simp only [bind_eq_ok] at h ⊢
  obtain ⟨name, hname, kind, -, shown, hshown, hfound⟩ := h
  refine (name_of_found hfound).imp_left fun htold => ⟨name, hname, ?_⟩
  rw [hshown, htold]

theorem failsIn_layoutName :
    FailsIn Fault.OfKind (layoutName page layout) := by
  have hown : FailsIn Fault.OfKind (layoutName.own page) := by
    have hkey : FailsIn Fault.OfKind (.error .wrongKind : Except Fault Value) :=
      failsIn_error trivial
    unfold layoutName.own layoutOfKind
    infer_instance
  by_cases hasked : layout.getD [] = []
  · rwa [layoutName_of_not_asked hasked]
  · rw [layoutName_of_asked hasked]
    infer_instance

theorem failsIn_chooseLayout :
    FailsIn Fault.OfKind (chooseLayout table.source page layout).result := by
  have hname : FailsIn Fault.OfKind (layoutName page layout) := failsIn_layoutName
  have hsection : FailsIn Fault.OfKind page.section_.textOrNoSuch :=
    Value.textOrNoSuch_failsIn trivial _
  have hkind : FailsIn Fault.OfKind page.type := by
    unfold Page.type
    infer_instance
  have hdisplay : ∀ name : Value, FailsIn Fault.OfKind name.display :=
    Value.display_failsIn trivial
  have hfound : ∀ (name : Value) (kind shown : Text),
      FailsIn Fault.OfKind
        (Chosen.found shown name.asText? (findLayout table.source name kind)) := by
    intro name kind shown
    rcases name.text_or_asText?_eq_none with ⟨s, rfl⟩ | hnone
    · obtain ⟨chosen, hchosen⟩ := @found_text table s kind shown
      exact ⟨fun e he => nomatch hchosen.symm.trans he⟩
    · exact failsIn_found (failsIn_findLayout_of_asText?_eq_none hnone kind)
  rw [result_chooseLayout]
  infer_instance

/-! A page with its layout. -/

def Contained : Except Fault Text → Prop
  | .ok _ => True
  | .error (.rendering _ _) => True
  | .error _ => False

theorem contained_mapError (chosen : Chosen) (r : Except Fault Text) :
    Contained (r.mapError fun e => .rendering chosen.name (chosen.told e)) := by
  cases r <;> trivial

theorem result_renderPage (setup : Setup) (site : Option Site) (extra : Scope) (now : Moment) :
    (renderPage setup page site layout extra now).result =
      (chooseLayout setup.layouts page layout).result >>= fun chosen =>
        (render setup (.create site (some page) extra now) chosen.template
          chosen.own).result.mapError fun e => .rendering chosen.name (chosen.told e) := by
  unfold renderPage
  simp only [Eval.result_bind, Eval.result_tryCatch_throw]

end

/-- A page gives a text or a failure told of its layout, with the failure of the render within it,
exactly if its fields let a layout be chosen. Otherwise the failure of the choice is left as it is:
a value of the wrong kind or an integer too long to be written out. -/
theorem renderPage_outcome (table : LayoutTable) (tools : Toolbox) (page : Page)
    (site : Option Site) (layout : Option Text) (extra : Scope) (now : Moment) :
    let result := (renderPage ⟨table.source, tools⟩ page site layout extra now).result
    (Contained result ↔ Choosable table page layout) ∧
      match (chooseLayout table.source page layout).result with
      | .ok chosen =>
          (layoutName page layout >>= Value.display = .ok chosen.name ∨
            chosen.name = "<default>".toList) ∧
          result = (render ⟨table.source, tools⟩ (.create site (some page) extra now)
            chosen.template chosen.own).result.mapError fun e =>
              .rendering chosen.name (chosen.told e)
      | .error e => e.OfKind ∧ result = .error e := by
  intro result
  have hresult : result = _ := result_renderPage ⟨table.source, tools⟩ site extra now
  rw [← chooseLayout_eq_ok_iff, hresult]
  cases hchosen : (chooseLayout table.source page layout).result with
  | ok chosen =>
      exact ⟨⟨fun _ => ⟨chosen, rfl⟩, fun _ => contained_mapError chosen _⟩,
        name_of_chooseLayout hchosen, rfl⟩
  | error e =>
      have he : e.OfKind := failsIn_chooseLayout.of_eq_error e hchosen
      refine ⟨⟨fun hcontained => ?_, fun ⟨_, h⟩ => nomatch h⟩, he, rfl⟩
      cases e with
      | rendering name cause => cases he
      | _ => cases hcontained

def numbered : Page := { Page.blank with section_ := .int 5 }

/-- The kind of page is read from its section before any render is begun. -/
theorem renderPage_not_contained :
    ¬ Contained (renderPage
      ⟨(LayoutTable.mk [("single.html".toList, "x".toList)]).source, .standard⟩
      numbered none none [] .epoch).result := by
  have hfalsy : numbered.layout.truthy = false := rfl
  have hname : layoutName numbered none = layoutOfKind numbered.kind := by
    rw [layoutName_of_not_asked rfl, layoutName.own, hfalsy]
    exact if_neg Bool.false_ne_true
  have hkey : numbered.kind.isKey := rfl
  have hkind : numbered.type = .error .noSuchOperation := rfl
  obtain ⟨s, hs⟩ := layoutOfKind_of_isKey hkey
  rw [result_renderPage, result_chooseLayout, hname, hs, hkind]
  exact id

end Engine

end Stencil
