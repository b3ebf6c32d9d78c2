import Stencil.Proofs.Calendar.Names
import Stencil.Proofs.Site.Address

namespace Stencil.Document

open Stencil.Text

/-! Pages whose file names begin with a day. -/

section

variable {entries : List (Value × Value)} {role : Role} {stem : Text}

/-- The address or the date of a page depends on the day in its file's name. -/
def AsksName (entries : List (Value × Value)) (role : Role) : Prop :=
  role = .single ∨ moment? (field entries "date") = none

def Overlong (stem : Text) : Prop := ∃ d, Moment.Begins stem d ∧ Moment.Overflows d

theorem exists_ofName_iff : (∃ day, Moment.ofName stem = .ok day) ↔ ¬Overlong stem := by
  obtain ⟨-, -, hfails⟩ := Moment.ofName_outcome stem
  cases hname : Moment.ofName stem with
  | ok day =>
      refine iff_of_true ⟨day, rfl⟩ fun hlong => ?_
      rw [(hfails .overflow).mpr ⟨rfl, hlong⟩] at hname
      cases hname
  | error e => exact iff_of_false nofun fun hshort => hshort ((hfails e).mp hname).2

/-- Front matter that makes a page under no name makes one under every name without such
numbers. -/
theorem Loadable.of_name (h : Loadable entries role [])
    (hname : AsksName entries role → ¬Overlong stem) : Loadable entries role stem :=
  { h with day := fun hasks => exists_ofName_iff.mpr (hname hasks) }

theorem page_of_overlong {file seenAt : Path} {raw body : Text}
    (hmatter : FrontMatter.extract raw = .ok (entries, body))
    (h : Loadable entries (Role.of file.stem (join ['/'] seenAt.parent.parts)) [])
    (hasks : AsksName entries (Role.of file.stem (join ['/'] seenAt.parent.parts)))
    (hlong : Overlong file.stem) : page file seenAt raw = .error .overflow := by
  have hname : Moment.ofName file.stem = .error .overflow :=
    ((Moment.ofName_outcome file.stem).2.2 .overflow).mpr ⟨rfl, hlong⟩
  unfold page
  rw [hmatter, ok_bind]
  dsimp only
  generalize Role.of file.stem (join ['/'] seenAt.parent.parts) = role at h hasks ⊢
  by_cases hrole : role = .single
  · subst hrole
    have hslug : slug entries file.stem = .error .overflow := by
      obtain ⟨text, htext⟩ := exists_textField.mpr (h.slug rfl)
      rw [slug, htext, ok_bind, hname]
      rfl
    rw [address, hslug]
    rfl
  · obtain ⟨url, hurl⟩ := exists_address.mpr fun hsingle => absurd hsingle hrole
    obtain ⟨title, htitle⟩ := exists_textField.mpr (h.texts "title" (by decide))
    have hdate : date? (field entries "date") file.stem = .error .overflow := by
      rw [date?, hasks.resolve_left hrole, hname]
    rw [hurl, ok_bind, htitle, ok_bind, hdate]
    rfl

end

/-- A file name's day is that of its first three numbers, and a document becomes a page whatever its
file is called. Only numbers beyond the machine integers stop both. -/
theorem load_named (name : Text) (tree : FileTree) (file contentFolder : Path) :
    ((∀ t, Moment.ofName name = .ok (some t) ↔
        ∃ d, Moment.Begins name d ∧ d.isValid = true ∧ t = .ofDate d) ∧
      (Moment.ofName name = .ok none ↔
        ∀ d, Moment.Begins name d → d.isValid = false ∧ ¬Moment.Overflows d) ∧
      ∀ e, Moment.ofName name = .error e ↔ e = .overflow ∧ Overlong name) ∧
    ∀ (seenAt : Path) (raw body : Text) (entries : List (Value × Value)) (role : Role),
      tree.read file = .ok raw → FrontMatter.extract raw = .ok (entries, body) →
      Path.relativeTo? contentFolder file = some seenAt →
      role = Role.of file.stem (join ['/'] seenAt.parent.parts) → Loadable entries role [] →
      ((∃ p, load tree file contentFolder = .ok p) ↔
        ¬(AsksName entries role ∧ Overlong file.stem)) ∧
      (AsksName entries role ∧ Overlong file.stem →
        load tree file contentFolder = .error .overflow) := by
  refine ⟨Moment.ofName_outcome name, ?_⟩
  rintro seenAt raw body entries role hread hmatter hseen rfl h
  have hload : load tree file contentFolder = page file seenAt raw := by
    rw [load, hread, ok_bind, hseen]
  have hfails := fun hname : _ ∧ _ => page_of_overlong hmatter h hname.1 hname.2
  rw [hload]
  refine ⟨⟨?_, fun hname => ?_⟩, hfails⟩
  · rintro ⟨p, hp⟩ hname
    rw [hfails hname] at hp
    cases hp
  · exact (exists_page hmatter).mpr (h.of_name fun hasks hlong => hname ⟨hasks, hlong⟩)

def arabicPath : Path := .ofText "content/٢٠٢٤-٠٢-٢٩-leap.md".toList

theorem load_named_arabic :
    Moment.ofName arabicPath.stem = .ok (some (.ofDate ⟨2024, 2, 29⟩)) ∧
    ∃ p, load (.ofList [("content/٢٠٢٤-٠٢-٢٩-leap.md".toList, [])]) arabicPath
      (.ofText "content".toList) = .ok p := by
  obtain ⟨hname, hload⟩ := load_named arabicPath.stem
    (.ofList [("content/٢٠٢٤-٠٢-٢٩-leap.md".toList, [])]) arabicPath (.ofText "content".toList)
  have hbegins : Moment.Begins arabicPath.stem ⟨2024, 2, 29⟩ :=
    ⟨"٢٠٢٤".toList, "٠٢".toList, "٢٩".toList, _, rfl, ⟨by decide, by decide, by decide, rfl⟩,
      ⟨by decide, by decide, by decide, rfl⟩, ⟨by decide, by decide, by decide, rfl⟩⟩
  have hloadable : Loadable [] .single [] :=
    { slug := fun _ h => nomatch h
      texts := fun _ _ h => nomatch h
      lists := fun _ _ _ h => nomatch h
      day := fun _ => ⟨_, rfl⟩ }
  refine ⟨(hname.1 _).mpr ⟨_, hbegins, rfl, rfl⟩, ?_⟩
  refine (hload _ [] [] [] .single rfl rfl rfl rfl hloadable).1.mpr ?_
  rintro ⟨-, d, hd, hover⟩
  rw [hd.unique hbegins] at hover
  exact absurd hover (by decide)

theorem ofName_overflows :
    Moment.ofName "2147483648-01-01".toList = .error .overflow ∧
    load (.ofList [("content/2147483648-01-01.md".toList, [])])
      (.ofText "content/2147483648-01-01.md".toList) (.ofText "content".toList) =
        .error .overflow :=
  ⟨rfl, rfl⟩

end Stencil.Document
