import Stencil.Proofs.Eval.Result
import Stencil.Proofs.Yaml.Value
import Stencil.Site.Project

namespace Stencil

/-! What comes of the front matter of any text. -/

namespace FrontMatter

variable {s matter body : Text} {e : Fault}

/-- Nothing in the tree of a text is a misfit, if all of the tree counts. -/
def Sound (matter : Text) : Prop :=
  ∀ root, Yaml.Node.ofText? matter = .ok (some root) → root.Whole → root.Sound

/-- What is read of a text `s` with front matter in front of a body. -/
inductive Outcome (s matter body : Text) : Except Fault (List (Value × Value) × Text) → Prop
  | mapping {entries : List (Value × Value)} (hread : Yaml.read matter = .ok (.map entries))
      (hsound : Sound matter) : Outcome s matter body (.ok (entries, body))
  | nothing {v : Value} (hread : Yaml.read matter = .ok v) (hother : ∀ entries, v ≠ .map entries)
      (hfalse : v.truthy = false) (hsound : Sound matter) : Outcome s matter body (.ok ([], body))
  | other {v : Value} (hread : Yaml.read matter = .ok v) (hother : ∀ entries, v ≠ .map entries)
      (htrue : v.truthy = true) (hsound : Sound matter) : Outcome s matter body (.ok ([], s))
  | unreadable {fault : DocumentFault} (hread : Yaml.read matter = .error (.document fault)) :
      Outcome s matter body (.ok ([], s))
  | impossible {e : Fault} (hread : Yaml.read matter = .error e) (h : Yaml.Impossible matter e) :
      Outcome s matter body (.error e)

theorem outcome_of_split? (h : split? s = some (matter, body)) :
    Outcome s matter body (extract s) := by
  rw [extract, h]
  dsimp only
  cases hread : Yaml.read matter with
  | ok v =>
      have hsound : Sound matter := fun _ => Yaml.sound_of_read hread
      by_cases hmap : ∃ entries, v = .map entries
      · obtain ⟨entries, rfl⟩ := hmap
        exact .mapping hread hsound
      · have hother : ∀ entries, v ≠ .map entries := fun entries heq => hmap ⟨entries, heq⟩
        have hentries : entries? v = if v.truthy then none else some [] := by
          cases v with
          | map entries => exact absurd rfl (hother entries)
          | _ => rfl
        dsimp only
        rw [hentries]
        cases htruth : v.truthy with
        | true => exact .other hread hother htruth hsound
        | false => exact .nothing hread hother htruth hsound
  | error e =>
      rcases Yaml.fault_of_read hread with ⟨fault, rfl⟩ | himpossible
      · exact .unreadable hread
      · cases e with
        | document fault => exact himpossible.fault.elim
        | _ => exact .impossible hread himpossible

end FrontMatter

/-! Loading a site. -/

section

variable {tree : FileTree} {file folder : Path} {raw : Text} {e : Fault}

theorem Document.load_fails (hread : tree.read file = .ok raw)
    (h : FrontMatter.extract raw = .error e) : Document.load tree file folder = .error e := by
  rw [Document.load, hread, ok_bind]
  split
  · next seenAt hseen =>
      rw [Document.page, h]
      rfl
  · rw [h]
    rfl

theorem Project.loadPages_fails (hfile : file ∈ tree.filesBelow folder)
    (hcontent : contentExtensions.contains (Text.toLower file.extension) = true)
    (hread : tree.read file = .ok raw) (h : FrontMatter.extract raw = .error e) (drafts : Bool) :
    ∃ fault, loadPages tree folder drafts = .error fault := by
  cases hpages : loadPages tree folder drafts with
  | error fault => exact ⟨fault, rfl⟩
  | ok pages =>
      unfold loadPages at hpages
      obtain ⟨loaded, hloaded, -⟩ := bind_eq_ok.mp hpages
      obtain ⟨p, hp⟩ := exists_mapM_eq_ok.mp ⟨loaded, hloaded⟩ file
        (List.mem_filter.mpr ⟨hfile, hcontent⟩)
      rw [Document.load_fails hread h] at hp
      cases hp

end

namespace FrontMatter

/-- Front matter with a day that the calendar does not have. -/
def impossibleDay : Text := "---\ndate: 2024-13-45\n---\nBody".toList

theorem extract_impossibleDay : extract impossibleDay = .error .outOfDomain := by
  have hsplit : split? impossibleDay = some ("date: 2024-13-45".toList, "Body".toList) := by
    with_unfolding_all rfl
  have htree : Yaml.Node.ofText? "date: 2024-13-45".toList =
      .ok (some (.mapping none
        [(.scalar none "date".toList, .scalar none "2024-13-45".toList)])) := by
    with_unfolding_all rfl
  have htype : Yaml.Plain.typeOf "2024-13-45".toList = .timestamp := by with_unfolding_all rfl
  have hday : Yaml.Timestamp.ofText? "2024-13-45".toList = some ⟨2024, 13, 45, none, true⟩ := by
    with_unfolding_all rfl
  have hmisfit : Yaml.Misfit none "2024-13-45".toList .outOfDomain :=
    .moment (congrArg some htype) hday (by unfold Yaml.Timestamp.Exists; decide)
  rw [extract, hsplit]
  dsimp only
  rw [Yaml.read_misfit_entry htree (by with_unfolding_all rfl) hmisfit]

def impossibleTree : FileTree := .ofList [("content/a.md".toList, impossibleDay)]

def impossibleFile : Path := .ofText "content/a.md".toList

end FrontMatter

end Stencil
