import Mathlib.Data.List.Forall2
import Stencil.File.LayoutFolders
import Stencil.Proofs.File.Tree

namespace Stencil

/-! The candidates for a layout's name. -/

namespace Layout

def extensions (format : Text) : List Text :=
  ['.' :: (format ++ ".html".toList), ".html".toList]

/-- The folders that a layout of a kind is looked for in before the top. -/
def foldersOf : Option Text → List Text
  | some (c :: kind) => [c :: kind, "_default".toList]
  | _ => ["_default".toList]

variable {name format : Text} {kind : Option Text}

theorem fileNames_eq (name : Text) (kind : Option Text) (format : Text) :
    fileNames name kind format =
      (foldersOf kind).flatMap (fun folder =>
        (extensions format).map fun extension => folder ++ '/' :: (name ++ extension)) ++
      (extensions format).map fun extension => name ++ extension := by
  rcases kind with _ | _ | ⟨c, kind⟩ <;> simp [fileNames, foldersOf, extensions]

theorem forall_candidates {P : Text → Prop} (hname : P name)
    (hfile : ∀ extension ∈ extensions format, P (name ++ extension))
    (hfolder : ∀ folder ∈ foldersOf kind, ∀ extension ∈ extensions format,
      P (folder ++ '/' :: (name ++ extension))) :
    ∀ candidate ∈ candidates name kind format, P candidate := by
  intro candidate hmem
  rw [candidates, List.mem_eraseDups, fileNames_eq, List.mem_append, List.mem_append] at hmem
  rcases hmem with (hmem | hmem) | hmem
  · obtain ⟨folder, hin, hfile⟩ := List.mem_flatMap.mp hmem
    obtain ⟨extension, hextension, rfl⟩ := List.mem_map.mp hfile
    exact hfolder folder hin extension hextension
  · obtain ⟨extension, hextension, rfl⟩ := List.mem_map.mp hmem
    exact hfile extension hextension
  · rwa [List.mem_singleton.mp hmem]

theorem forall_foldersOf {P : Text → Prop} (hdefault : P "_default".toList)
    (hkind : ∀ folder ∈ kind, folder ≠ [] → P folder) : ∀ folder ∈ foldersOf kind, P folder := by
  rcases kind with _ | _ | ⟨c, kind⟩
  · exact List.forall_mem_singleton.mpr hdefault
  · exact List.forall_mem_singleton.mpr hdefault
  · exact List.forall_mem_cons.mpr
      ⟨hkind _ rfl (List.cons_ne_nil c kind), List.forall_mem_singleton.mpr hdefault⟩

theorem forward_candidates (hname : (Path.ofText name).Forward)
    (hkind : ∀ folder ∈ kind, (Path.ofText folder).Forward) (hformat : '/' ∉ format) :
    ∀ candidate ∈ candidates name kind format, (Path.ofText candidate).Forward := by
  have hfile : ∀ extension ∈ extensions format, (Path.ofText (name ++ extension)).Forward := by
    simp only [extensions, List.forall_mem_cons]
    exact ⟨Path.forward_append hname (by simp [hformat]) (by simp),
      Path.forward_append hname (by decide) (by decide), nofun⟩
  have hfolder : ∀ folder ∈ foldersOf kind, (Path.ofText folder).Forward ∧ folder ≠ [] :=
    forall_foldersOf ⟨⟨by decide, by decide⟩, by decide⟩ fun folder hmem hne =>
      ⟨hkind folder hmem, hne⟩
  exact forall_candidates hname hfile fun folder hmem extension hextension =>
    Path.forward_append_slash (hfolder folder hmem).1 (hfolder folder hmem).2
      (hfile extension hextension)

structure Undivided (name : Text) : Prop where
  slashless : '/' ∉ name
  dotless : '.' ∉ name

instance (name : Text) : Decidable (Undivided name) :=
  decidable_of_iff ('/' ∉ name ∧ '.' ∉ name) ⟨fun h => ⟨h.1, h.2⟩, fun h => ⟨h.1, h.2⟩⟩

theorem canonical_candidates (hname : Undivided name) (hkind : ∀ folder ∈ kind, Undivided folder)
    (hformat : Undivided format) :
    ∀ candidate ∈ candidates name kind format, Path.Canonical candidate := by
  have hfile : ∀ extension ∈ extensions format, Path.Component (name ++ extension) := by
    simp only [extensions, List.forall_mem_cons]
    exact ⟨Path.component_of_length (by simp; omega) (by simp [hname.slashless, hformat.slashless]),
      Path.component_of_length (by simp) (by simp [hname.slashless]), nofun⟩
  have hfolder : ∀ folder ∈ foldersOf kind, Path.Component folder :=
    forall_foldersOf (by decide) fun folder hmem hne =>
      Path.component_of_not_mem hne (hkind folder hmem).dotless (hkind folder hmem).slashless
  refine forall_candidates ?_ ?_ ?_
  · by_cases hne : name = []
    · exact ⟨[], nofun, hne⟩
    · exact ⟨[name], List.forall_mem_singleton.mpr
        (Path.component_of_not_mem hne hname.dotless hname.slashless), rfl⟩
  · intro extension hextension
    exact ⟨[name ++ extension], List.forall_mem_singleton.mpr (hfile extension hextension), rfl⟩
  · intro folder hmem extension hextension
    exact ⟨[folder, name ++ extension], List.forall_mem_cons.mpr ⟨hfolder folder hmem,
      List.forall_mem_singleton.mpr (hfile extension hextension)⟩, by simp [Text.join]⟩

end Layout

/-! Where the search for a layout may lead. -/

namespace LayoutFolders

variable {layouts : LayoutFolders} {isFile : Path → Bool} {name format : Text} {kind : Option Text}
  {path : Path}

theorem mem_searchPath : path ∈ layouts.searchPath name kind format ↔
    ∃ candidate ∈ Layout.candidates name kind format, ∃ folder ∈ layouts.folders,
      folder.join (.ofText candidate) = path := by
  simp only [searchPath, places, List.mem_flatMap, List.mem_map]

theorem findAmong_eq_ok (h : layouts.findAmong isFile name kind format = .ok path) :
    isFile path = true ∧ path ∈ layouts.searchPath name kind format := by
  unfold findAmong at h
  dsimp only at h
  split at h
  · next found hfound =>
      cases h
      exact ⟨List.find?_some hfound, List.mem_of_find?_eq_some hfound⟩
  · cases h

theorem findAmong_only (h : path ∈ layouts.searchPath name kind format) :
    layouts.findAmong (· == path) name kind format = .ok path := by
  cases hfind : (layouts.searchPath name kind format).find? (· == path) with
  | none => exact absurd (beq_self_eq_true path) (List.find?_eq_none.mp hfind path h)
  | some found =>
      have hfound : found = path := by simpa using List.find?_some hfind
      rw [findAmong, hfind, hfound]

/-- The path found is a candidate for the name in one of the folders, and below that folder if the
candidate descends; nothing else keeps it there, as the search stays in the folders, whatever they and
the files are, exactly if every candidate descends. They do for names and kinds without a `..`. -/
theorem findAmong_descends (name : Text) (kind : Option Text) (format : Text) :
    (∀ layouts isFile path start, LayoutFolders.findAmong layouts isFile name kind format = .ok path →
      isFile path = true ∧ ∃ folder ∈ layouts.folders,
        ∃ candidate ∈ Layout.candidates name kind format,
          path = folder.join (.ofText candidate) ∧
            ((Path.ofText candidate).Descends → path.LiesUnder folder start)) ∧
      ((∀ layouts isFile path start,
          LayoutFolders.findAmong layouts isFile name kind format = .ok path →
            ∃ folder ∈ layouts.folders, path.LiesUnder folder start) ↔
        ∀ candidate ∈ Layout.candidates name kind format, (Path.ofText candidate).Descends) ∧
      ((Path.ofText name).Forward ∧ (∀ folder ∈ kind, (Path.ofText folder).Forward) ∧ '/' ∉ format →
        ∀ candidate ∈ Layout.candidates name kind format, (Path.ofText candidate).Descends) := by
  have hfound : ∀ layouts isFile path start,
      LayoutFolders.findAmong layouts isFile name kind format = .ok path →
        isFile path = true ∧ ∃ folder ∈ layouts.folders,
          ∃ candidate ∈ Layout.candidates name kind format,
            path = folder.join (.ofText candidate) ∧
              ((Path.ofText candidate).Descends → path.LiesUnder folder start) := by
    intro layouts isFile path start h
    obtain ⟨hfile, hmem⟩ := findAmong_eq_ok h
    obtain ⟨candidate, hcandidate, folder, hfolder, rfl⟩ := mem_searchPath.mp hmem
    exact ⟨hfile, folder, hfolder, candidate, hcandidate, rfl, fun h => h.liesUnder folder start⟩
  refine ⟨hfound, ⟨?_, ?_⟩, ?_⟩
  · intro hstays candidate hcandidate
    -- Where the folder is the one that paths start from, this candidate may be all that is there.
    refine Classical.byContradiction fun hleads => ?_
    obtain ⟨start, hout⟩ := Path.exists_not_liesUnder hleads
    have hmem : Path.here.join (.ofText candidate) ∈
        (LayoutFolders.mk [.here]).searchPath name kind format :=
      mem_searchPath.mpr ⟨candidate, hcandidate, .here, List.mem_singleton_self _, rfl⟩
    obtain ⟨folder, hfolder, hunder⟩ := hstays _ _ _ start (findAmong_only hmem)
    rw [List.mem_singleton.mp hfolder] at hunder
    exact hout hunder
  · intro hdescends layouts isFile path start h
    obtain ⟨-, folder, hfolder, candidate, hcandidate, -, hunder⟩ := hfound layouts isFile path start h
    exact ⟨folder, hfolder, hunder (hdescends candidate hcandidate)⟩
  · rintro ⟨hname, hkind, hformat⟩ candidate hcandidate
    exact (Layout.forward_candidates hname hkind hformat candidate hcandidate).descends

def besideLayouts : FileTree :=
  .ofList [("layouts/a.html".toList, "A".toList), ("secret.html".toList, "S".toList)]

def ownLayouts : LayoutFolders := ⟨[.ofText "layouts".toList]⟩

theorem findAmong_descends_own :
    (ownLayouts.find besideLayouts "a".toList none "html".toList =
        .ok (.ofText "layouts/a.html".toList)) ∧
      ∀ start, ∃ folder ∈ ownLayouts.folders,
        (Path.ofText "layouts/a.html".toList).LiesUnder folder start := by
  have hfound : ownLayouts.find besideLayouts "a".toList none "html".toList =
      .ok (.ofText "layouts/a.html".toList) := rfl
  obtain ⟨-, hstays, hforward⟩ := findAmong_descends "a".toList none "html".toList
  have hdescends := hforward ⟨⟨by decide, by decide⟩, by simp, by decide⟩
  exact ⟨hfound, fun start => hstays.mpr hdescends _ _ _ start hfound⟩

/-- A name that leads back finds the file beside the folder. -/
theorem find_leads_out :
    ownLayouts.find besideLayouts "../secret".toList none "html".toList =
        .ok (.ofText "layouts/../secret.html".toList) ∧
      ∀ start, ∀ folder ∈ ownLayouts.folders,
        ¬(Path.ofText "layouts/../secret.html".toList).LiesUnder folder start := by
  refine ⟨rfl, fun start => List.forall_mem_singleton.mpr fun hunder => ?_⟩
  have hfolder : (Path.ofText "layouts".toList).resolve start = start ++ ["layouts".toList] := rfl
  have hfile : (Path.ofText "layouts/../secret.html".toList).resolve start =
      start ++ ["secret.html".toList] := by
    change Path.enter (Path.enter (Path.enter start _) ['.', '.']) "secret.html".toList = _
    rw [Path.enter_back (by decide)]
    rfl
  rw [Path.LiesUnder, hfolder, hfile, List.prefix_append_right_inj] at hunder
  exact absurd hunder (by decide)

end LayoutFolders

/-! Layouts in folders against a table of layouts. -/

section

variable {α β γ : Type}

theorem findSome?_eq_bind (f : α → Option β) (l : List α) :
    l.findSome? f = (l.find? fun a => (f a).isSome).bind f := by
  induction l with
  | nil => rfl
  | cons a l ih =>
      rw [List.findSome?_cons, List.find?_cons]
      cases hfound : f a with
      | none => exact ih
      | some b => exact hfound.symm

theorem findSome?_flatMap (f : β → Option γ) (g : α → List β) (l : List α) :
    (l.flatMap g).findSome? f = l.findSome? fun a => (g a).findSome? f := by
  induction l with
  | nil => rfl
  | cons a l ih =>
      rw [List.flatMap_cons, List.findSome?_append, List.findSome?_cons, ih]
      cases (g a).findSome? f <;> rfl

theorem findSome?_congr {f g : α → Option β} {l : List α} (h : ∀ a ∈ l, f a = g a) :
    l.findSome? f = l.findSome? g := by
  induction l with
  | nil => rfl
  | cons a l ih =>
      obtain ⟨ha, hl⟩ := List.forall_mem_cons.mp h
      rw [List.findSome?_cons, List.findSome?_cons, ha, ih hl]

end

theorem lookup_flatten (key : Text) (contents : List (List (Text × Text))) :
    contents.flatten.lookup key = contents.findSome? (·.lookup key) := by
  simp only [List.lookup_eq_findSome?]
  rw [← List.flatMap_id, findSome?_flatMap]
  rfl

namespace LayoutFolders

variable {tree : FileTree} {folders : List Path} {contents : List (List (Text × Text))}
  {name format : Text} {kind : Option Text}

theorem resolve_eq (layouts : LayoutFolders) (tree : FileTree) (name : Text)
    (kind : Option Text) (format : Text) :
    layouts.resolve tree name kind format =
      match (Layout.candidates name kind format).findSome? fun candidate =>
        (layouts.folders.map fun folder => folder.join (.ofText candidate)).findSome? tree.fileAt with
      | some text => .ok text.normalizeNewlines
      | none => .error
          (.layoutMissing name ((layouts.searchPath name kind format).map Path.toText)) := by
  have hisFile : tree.isFile = fun p => (tree.fileAt p).isSome := funext tree.isFile_eq
  rw [← findSome?_flatMap, findSome?_eq_bind, ← hisFile, resolve, find, findAmong]
  change _ = match ((layouts.searchPath name kind format).find? tree.isFile).bind tree.fileAt with
    | some text => _
    | none => _
  cases hfind : (layouts.searchPath name kind format).find? tree.isFile with
  | none => rfl
  | some path =>
      have hfile := List.find?_some hfind
      rw [FileTree.isFile_eq] at hfile
      obtain ⟨text, htext⟩ := Option.isSome_iff_exists.mp hfile
      simp only [Option.bind_some, htext]
      exact FileTree.read_of_fileAt htext

theorem findSome?_places (hheld : List.Forall₂ tree.Holds folders contents) {candidate : Text}
    (hcandidate : Path.Canonical candidate) :
    (folders.map fun folder => folder.join (.ofText candidate)).findSome? tree.fileAt =
      contents.flatten.lookup candidate := by
  obtain ⟨parts, hparts, rfl⟩ := hcandidate
  rw [lookup_flatten]
  induction hheld with
  | nil => rfl
  | cons hheld _ ih =>
      rw [List.map_cons, List.findSome?_cons, List.findSome?_cons, hheld.fileAt_join hparts, ih]

theorem resolve_held (hheld : List.Forall₂ tree.Holds folders contents)
    (hlines : ∀ texts ∈ contents, ∀ entry ∈ texts, '\r' ∉ entry.2)
    (hcanonical : ∀ candidate ∈ Layout.candidates name kind format, Path.Canonical candidate) :
    LayoutFolders.resolve ⟨folders⟩ tree name kind format =
      match (Layout.candidates name kind format).findSome? (contents.flatten.lookup ·) with
      | some text => .ok text
      | none => .error (.layoutMissing name
          ((LayoutFolders.searchPath ⟨folders⟩ name kind format).map Path.toText)) := by
  have hplaces : (Layout.candidates name kind format).findSome? (fun candidate =>
        (folders.map fun folder => folder.join (.ofText candidate)).findSome? tree.fileAt) =
      (Layout.candidates name kind format).findSome? (contents.flatten.lookup ·) :=
    findSome?_congr fun candidate hmem => findSome?_places hheld (hcanonical candidate hmem)
  rw [resolve_eq, hplaces]
  cases hfound : (Layout.candidates name kind format).findSome? (contents.flatten.lookup ·) with
  | none => rfl
  | some text =>
      obtain ⟨candidate, -, hlookup⟩ := List.exists_of_findSome?_eq_some hfound
      obtain ⟨front, rest, hentry, -⟩ := List.lookup_eq_some_iff.mp hlookup
      have hmem : (candidate, text) ∈ contents.flatten := by simp [hentry]
      obtain ⟨texts, htexts, hin⟩ := List.mem_flatten.mp hmem
      exact congrArg Except.ok (Text.normalizeNewlines_of_not_mem (hlines texts htexts _ hin))

/-- Folders of layouts answer as a table does in which the texts of an earlier folder stand in front of
those of a later one: a more specific candidate in any folder comes before a less specific one, and for
one candidate the earlier folder before the later. -/
theorem resolve_overrides (hheld : List.Forall₂ tree.Holds folders contents)
    (hlines : ∀ texts ∈ contents, ∀ entry ∈ texts, '\r' ∉ entry.2)
    (hname : Layout.Undivided name) (hkind : ∀ folder ∈ kind, Layout.Undivided folder)
    (hformat : Layout.Undivided format) :
    ((∃ text, LayoutFolders.resolve ⟨folders⟩ tree name kind format = .ok text ∧
        LayoutTable.resolve ⟨contents.flatten⟩ name kind format = .ok text) ∨
      ∃ searched tried,
        LayoutFolders.resolve ⟨folders⟩ tree name kind format =
            .error (.layoutMissing name searched) ∧
          LayoutTable.resolve ⟨contents.flatten⟩ name kind format =
            .error (.layoutMissing name tried)) ∧
      ∀ before candidate after text,
        Layout.candidates name kind format = before ++ candidate :: after →
          (∀ other ∈ before, ∀ texts ∈ contents, texts.lookup other = none) →
            contents.findSome? (·.lookup candidate) = some text →
              LayoutFolders.resolve ⟨folders⟩ tree name kind format = .ok text := by
  rw [resolve_held hheld hlines (Layout.canonical_candidates hname hkind hformat)]
  constructor
  · unfold LayoutTable.resolve
    dsimp only
    cases (Layout.candidates name kind format).findSome? (contents.flatten.lookup ·) with
    | none => exact .inr ⟨_, _, rfl, rfl⟩
    | some text => exact .inl ⟨text, rfl, rfl⟩
  · intro before candidate after text hcandidates hbefore hcandidate
    have hnone : ∀ other ∈ before, contents.flatten.lookup other = none := by
      intro other hmem
      rw [lookup_flatten, List.findSome?_eq_none_iff]
      exact hbefore other hmem
    have hfound : (Layout.candidates name kind format).findSome? (contents.flatten.lookup ·) =
        some text :=
      List.findSome?_eq_some_iff.mpr
        ⟨before, candidate, after, hcandidates, (lookup_flatten _ _).trans hcandidate, hnone⟩
    rw [hfound]

def siteLayouts : List (Text × Text) :=
  [("_default/single.html".toList, "site default".toList),
    ("_default/list.html".toList, "site list".toList)]

def themeLayouts : List (Text × Text) :=
  [("posts/single.html".toList, "theme posts".toList),
    ("_default/list.html".toList, "theme list".toList)]

def themedTree : FileTree :=
  ⟨FileTree.filesUnder ["layouts".toList] siteLayouts ++
    FileTree.filesUnder ["theme".toList] themeLayouts⟩

def themedFolders : List Path := [.ofText "layouts".toList, .ofText "theme".toList]

theorem held_themed :
    List.Forall₂ themedTree.Holds themedFolders [siteLayouts, themeLayouts] := by
  have hsite : themedTree.place (.ofText "layouts".toList) = .ok ["layouts".toList] := by decide
  have htheme : themedTree.place (.ofText "theme".toList) = .ok ["theme".toList] := by decide
  exact .cons
    (FileTree.holds_of_files [] (FileTree.filesUnder ["theme".toList] themeLayouts) hsite rfl
      (by decide) (by decide))
    (.cons
      (FileTree.holds_of_files (FileTree.filesUnder ["layouts".toList] siteLayouts) [] htheme rfl
        (by decide) (by decide)) .nil)

/-- A layout for the kind wins over the site's default, and the site's default over the theme's. -/
theorem resolve_overrides_themed :
    List.Forall₂ themedTree.Holds themedFolders [siteLayouts, themeLayouts] ∧
      LayoutFolders.resolve ⟨themedFolders⟩ themedTree "single".toList (some "posts".toList)
          "html".toList = .ok "theme posts".toList ∧
      LayoutFolders.resolve ⟨themedFolders⟩ themedTree "list".toList (some "posts".toList)
          "html".toList = .ok "site list".toList := by
  have hlines : ∀ texts ∈ [siteLayouts, themeLayouts], ∀ entry ∈ texts, '\r' ∉ entry.2 := by
    decide
  have hkind : ∀ folder ∈ some "posts".toList, Layout.Undivided folder := by decide
  refine ⟨held_themed, ?_, ?_⟩
  · obtain ⟨-, hspecific⟩ := resolve_overrides held_themed hlines
      (show Layout.Undivided "single".toList by decide) hkind
      (show Layout.Undivided "html".toList by decide)
    exact hspecific ["posts/single.html.html".toList] "posts/single.html".toList
      ["_default/single.html.html".toList, "_default/single.html".toList,
        "single.html.html".toList, "single.html".toList, "single".toList]
      "theme posts".toList rfl (by decide) rfl
  · obtain ⟨-, hspecific⟩ := resolve_overrides held_themed hlines
      (show Layout.Undivided "list".toList by decide) hkind
      (show Layout.Undivided "html".toList by decide)
    exact hspecific ["posts/list.html.html".toList, "posts/list.html".toList,
        "_default/list.html.html".toList] "_default/list.html".toList
      ["list.html.html".toList, "list.html".toList, "list".toList]
      "site list".toList rfl (by decide) rfl

end LayoutFolders

end Stencil
