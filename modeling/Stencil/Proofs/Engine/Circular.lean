import Stencil.Proofs.Engine.Page
import Stencil.Proofs.Inheritance.Revisit
import Stencil.Proofs.Render.Fault

namespace Stencil

open Relation

/-! When a layout is turned down as circular. -/

namespace LayoutTable

variable {table : LayoutTable} {path name : Text}

/-- Where the name is answered with the same layout again, the chain comes back to that one. -/
theorem Mentions.revisits (h : table.Mentions path name)
    (hpath : table.answering? name none "html".toList = some path) : table.Revisits path := by
  obtain ⟨layout, hreach, hname⟩ := h
  exact ⟨path, .refl, .tail' hreach ⟨name, hname, hpath⟩⟩

end LayoutTable

namespace Engine

open Stencil.Template

section

variable {table : LayoutTable} {ctx : Context} {name path : Text} {kind : Option Text}
  {format : Text}

theorem result_render (setup : Setup) (template : Text) (own : Option Text) :
    (render setup ctx template own).result =
      resolveInheritance setup.layouts template own >>= fun composed =>
        (Template.render setup.tools ctx composed).result := by
  have hsteady : ∀ composed, Eval.Steady (Template.render setup.tools ctx composed) := by
    intro composed
    unfold Template.render
    infer_instance
  exact Eval.result_bind _ _

theorem result_renderByName (tools : Toolbox) :
    (renderByName ⟨table.source, tools⟩ ctx name kind format).result =
      table.resolve name kind format >>= fun template =>
        (render ⟨table.source, tools⟩ ctx template (some name)).result :=
  Eval.result_bind _ _

/-- A render tells of a loop only if putting its layouts together did. -/
theorem render_loop_iff {layouts : LayoutSource} {template : Text} {own : Option Text} :
    (∃ chain, (render ⟨layouts, .standard⟩ ctx template own).result =
        .error (.inheritanceLoop chain)) ↔
      ∃ chain, resolveInheritance layouts template own = .error (.inheritanceLoop chain) := by
  rw [result_render]
  cases resolveInheritance layouts template own with
  | error e => rfl
  | ok composed =>
      refine iff_of_false ?_ fun ⟨_, h⟩ => nomatch h
      rintro ⟨chain, hchain⟩
      exact (failsIn_render ctx composed).of_eq_error _ hchain

theorem renderByName_loop_iff_of_answering (h : table.answering? name kind format = some path) :
    (∃ chain, (renderByName ⟨table.source, .standard⟩ ctx name kind format).result =
        .error (.inheritanceLoop chain)) ↔
      table.Revisits path ∨ table.Mentions path name := by
  have hresolve : table.resolve name kind format = .ok (table.textAt path) :=
    LayoutTable.resolve_eq_ok_iff.mpr ⟨path, h, rfl⟩
  rw [result_renderByName, hresolve, ok_bind, render_loop_iff]
  exact resolveInheritance_loop_iff

theorem renderByName_missing (h : table.answering? name kind format = none) :
    ∃ searched, (renderByName ⟨table.source, .standard⟩ ctx name kind format).result =
      .error (.layoutMissing name searched) := by
  rw [result_renderByName]
  rcases table.resolve_cases name kind format with ⟨text, hok⟩ | ⟨searched, hmissing⟩
  · obtain ⟨path, hpath, -⟩ := LayoutTable.resolve_eq_ok_iff.mp hok
    exact nomatch h.symm.trans hpath
  · exact ⟨searched, by rw [hmissing]; rfl⟩

end

/-- A layout found by name is turned down as circular exactly if its chain reaches some layout
twice, or else comes to a layout that extends the very name, though that name without the kind is
not answered with the layout the chain began with. -/
theorem renderByName_circular (table : LayoutTable) (ctx : Context) (name : Text)
    (kind : Option Text) (format : Text) :
    (∃ chain, (renderByName ⟨table.source, .standard⟩ ctx name kind format).result =
        .error (.inheritanceLoop chain)) ↔
      ∃ path, table.answering? name kind format = some path ∧
        (table.Revisits path ∨ table.Mentions path name ∧
          table.answering? name none "html".toList ≠ some path) := by
  cases hpath : table.answering? name kind format with
  | none =>
      obtain ⟨searched, hmissing⟩ := renderByName_missing hpath
      refine iff_of_false ?_ fun ⟨_, h, _⟩ => nomatch h
      rintro ⟨chain, hchain⟩
      exact nomatch hmissing.symm.trans hchain
  | some path =>
      rw [renderByName_loop_iff_of_answering hpath]
      constructor
      · rintro (hrevisits | hmentions)
        · exact ⟨path, rfl, .inl hrevisits⟩
        · by_cases hsame : table.answering? name none "html".toList = some path
          · exact ⟨path, rfl, .inl (hmentions.revisits hsame)⟩
          · exact ⟨path, rfl, .inr ⟨hmentions, hsame⟩⟩
      · rintro ⟨_, ⟨⟩, hrevisits | ⟨hmentions, -⟩⟩
        · exact .inl hrevisits
        · exact .inr hmentions

/-- A layout for one kind of page that extends the default layout of its own name. -/
def kindOverDefault : LayoutTable where
  texts :=
    [ ("post/single.html".toList,
        ("\x7b\x7b extends \"single\" \x7d\x7d\x7b\x7b block \"b\" \x7d\x7dpost" ++
          "\x7b\x7b endblock \x7d\x7d").toList),
      ("_default/single.html".toList,
        "<\x7b\x7b block \"b\" \x7d\x7d\x7b\x7b endblock \x7d\x7d>".toList) ]

/-- Names are compared where layouts are meant: neither of the two comes twice. -/
theorem circular_without_revisit :
    ¬∀ (table : LayoutTable) (ctx : Context) (name : Text) (kind : Option Text),
      (∃ chain, (renderByName ⟨table.source, .standard⟩ ctx name kind "html".toList).result =
          .error (.inheritanceLoop chain)) →
        ∃ path, table.answering? name kind "html".toList = some path ∧ table.Revisits path := by
  intro h
  have hfirst : kindOverDefault.answering? "single".toList (some "post".toList) "html".toList =
      some "post/single.html".toList := by decide
  have hdefault : kindOverDefault.answering? "single".toList none "html".toList =
      some "_default/single.html".toList := by decide
  have hparent : extendsName (kindOverDefault.textAt "post/single.html".toList) =
      some "single".toList := by decide
  have hroot : extendsName (kindOverDefault.textAt "_default/single.html".toList) = none := by
    decide
  have hmentions : kindOverDefault.Mentions "post/single.html".toList "single".toList :=
    ⟨_, .refl, hparent⟩
  obtain ⟨path, hpath, hrevisits⟩ := h kindOverDefault (.create none none [] .epoch)
    "single".toList (some "post".toList)
    ((renderByName_loop_iff_of_answering hfirst).mpr (.inr hmentions))
  cases hfirst.symm.trans hpath
  have hends : kindOverDefault.Ends "_default/single.html".toList := by
    rintro parent ⟨name, hname, -⟩
    exact nomatch hroot.symm.trans hname
  exact LayoutTable.not_revisits_of_ends (.single ⟨_, hparent, hdefault⟩) hends hrevisits

end Engine

end Stencil
