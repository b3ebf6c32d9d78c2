import Stencil.File.Tree
import Stencil.Proofs.File.Path

namespace Stencil

theorem Text.normalizeNewlines_of_not_mem {s : Text} (h : '\r' ∉ s) : s.normalizeNewlines = s := by
  fun_induction Text.normalizeNewlines s with
  | case1 => rfl
  | case2 s _ => exact absurd List.mem_cons_self h
  | case3 s _ _ => exact absurd List.mem_cons_self h
  | case4 c s _ _ ih => rw [ih fun hmem => h (List.mem_cons_of_mem c hmem)]

namespace FileTree

/-! What lies in a folder, and the paths that lead to it. -/

variable {tree : FileTree} {folder : Path} {place parts : List Text} {texts : List (Text × Text)}

/-- The text of the file that a path leads to, with the ends of line it has. -/
def fileAt (tree : FileTree) (p : Path) : Option Text :=
  (tree.place p).toOption.bind tree.file?

theorem isFile_eq (tree : FileTree) (p : Path) : tree.isFile p = (tree.fileAt p).isSome := by
  unfold isFile fileAt
  cases tree.place p <;> rfl

theorem read_of_fileAt {p : Path} {text : Text} (h : tree.fileAt p = some text) :
    tree.read p = .ok text.normalizeNewlines := by
  unfold fileAt at h
  unfold read
  cases hplace : tree.place p with
  | error e =>
      rw [hplace] at h
      cases h
  | ok place =>
      rw [hplace] at h
      have hfile : tree.file? place = some text := h
      simp only [bind, Except.bind, hfile]
      rfl

theorem walk_append (front rest : List Text) :
    tree.walk place (front ++ rest) = tree.walk place front >>= fun there => tree.walk there rest := by
  induction front generalizing place with
  | nil => rfl
  | cons part front ih =>
      simp only [List.cons_append, walk]
      split
      · rfl
      · split
        · split
          · rfl
          · exact ih
        · exact ih

theorem hasFolder_of_file? {part : Text} {rest : List Text}
    (h : (tree.file? (place ++ part :: rest)).isSome) : tree.hasFolder place = true := by
  obtain ⟨text, htext⟩ := Option.isSome_iff_exists.mp h
  obtain ⟨before, after, hfiles, -⟩ := List.lookup_eq_some_iff.mp htext
  have hmem : (place ++ part :: rest, text) ∈ tree.files := by simp [hfiles]
  unfold hasFolder
  rw [Bool.or_eq_true]
  exact .inr (List.any_eq_true.mpr ⟨_, hmem, by simp⟩)

/-- Names lead down, so that a file is reached by them exactly if it lies there. -/
theorem file?_walk (h : ['.', '.'] ∉ parts) :
    (tree.walk place parts).toOption.bind tree.file? = tree.file? (place ++ parts) := by
  induction parts generalizing place with
  | nil => rw [walk, List.append_nil]; rfl
  | cons part rest ih =>
      obtain ⟨hpart, hrest⟩ := not_or.mp (mt List.mem_cons.mpr h)
      cases hfolder : tree.hasFolder place with
      | false =>
          have hnone : tree.file? (place ++ part :: rest) = none := by
            cases hfile : tree.file? (place ++ part :: rest) with
            | none => rfl
            | some text =>
                have hthere := hasFolder_of_file? (by rw [hfile]; rfl)
                exact nomatch hfolder.symm.trans hthere
          rw [hnone, walk, hfolder]
          rfl
      | true =>
          have hstep : tree.walk place (part :: rest) = tree.walk (place ++ [part]) rest := by
            rw [walk, hfolder, beq_eq_false_iff_ne.mpr (Ne.symm hpart)]
            rfl
          rw [hstep, ih hrest, List.append_assoc, List.singleton_append]

/-- The files in a folder, by their paths from there, are these. -/
def Holds (tree : FileTree) (folder : Path) (texts : List (Text × Text)) : Prop :=
  ∀ parts : List Text, (∀ part ∈ parts, Path.Component part) →
    texts.lookup (Text.join ['/'] parts) =
      (tree.place folder).toOption.bind fun place => tree.file? (place ++ parts)

theorem fileAt_join (h : ['.', '.'] ∉ parts) :
    tree.fileAt (folder.join ⟨false, parts⟩) =
      (tree.place folder).toOption.bind fun place => tree.file? (place ++ parts) := by
  have hjoin : folder.join ⟨false, parts⟩ = ⟨folder.isAbsolute, folder.parts ++ parts⟩ := rfl
  rw [fileAt, hjoin, place, place]
  cases folder.isAbsolute with
  | true => rfl
  | false =>
      rw [if_neg Bool.false_ne_true, if_neg Bool.false_ne_true, walk_append]
      cases tree.walk [] folder.parts with
      | error e => rfl
      | ok there => exact file?_walk h

theorem Holds.fileAt_join (h : tree.Holds folder texts)
    (hparts : ∀ part ∈ parts, Path.Component part) :
    tree.fileAt (folder.join (.ofText (Text.join ['/'] parts))) =
      texts.lookup (Text.join ['/'] parts) := by
  rw [h parts hparts, Path.ofText_join hparts]
  exact FileTree.fileAt_join fun hmem => (hparts _ hmem).ne_back rfl

def filesUnder (place : List Text) (texts : List (Text × Text)) : List (List Text × Text) :=
  texts.map fun (path, text) => (place ++ (Path.ofText path).parts, text)

theorem lookup_filesUnder (place : List Text) (hkeys : ∀ entry ∈ texts, Path.Canonical entry.1)
    (hparts : ∀ part ∈ parts, Path.Component part) :
    (filesUnder place texts).lookup (place ++ parts) =
      texts.lookup (Text.join ['/'] parts) := by
  induction texts with
  | nil => rfl
  | cons entry texts ih =>
      obtain ⟨key, text⟩ := entry
      obtain ⟨⟨keyParts, hkeyParts, heq⟩, hkeys⟩ := List.forall_mem_cons.mp hkeys
      have hkey : key = Text.join ['/'] keyParts := heq
      have hsame : (place ++ parts == place ++ (Path.ofText key).parts) =
          (Text.join ['/'] parts == key) := by
        rw [Bool.eq_iff_iff, beq_iff_eq, beq_iff_eq, List.append_cancel_left_eq, hkey,
          Path.ofText_join hkeyParts, Path.join_eq_join_iff hparts hkeyParts]
      rw [filesUnder, List.map_cons, List.lookup_cons, List.lookup_cons, hsame, ← ih hkeys]
      rfl

/-- Files put into a folder by canonical paths are what it holds, if no other file lies in it. -/
theorem holds_of_files (front rest : List (List Text × Text))
    (hplace : tree.place folder = .ok place)
    (hfiles : tree.files = front ++ filesUnder place texts ++ rest)
    (hout : ∀ file ∈ front ++ rest, ¬place <+: file.1)
    (hkeys : ∀ entry ∈ texts, Path.Canonical entry.1) : tree.Holds folder texts := by
  intro parts hparts
  have hnone : (front ++ rest).lookup (place ++ parts) = none := by
    rw [List.lookup_eq_none_iff]
    intro file hmem
    rw [bne_iff_ne]
    exact fun heq => hout file hmem (heq ▸ List.prefix_append place parts)
  obtain ⟨hfront, hrest⟩ := Option.or_eq_none_iff.mp (List.lookup_append.symm.trans hnone)
  rw [hplace]
  change _ = tree.files.lookup (place ++ parts)
  rw [hfiles, List.lookup_append, List.lookup_append, hfront, hrest,
    lookup_filesUnder place hkeys hparts, Option.none_or, Option.or_none]

end FileTree

end Stencil
