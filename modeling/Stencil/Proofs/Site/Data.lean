import Stencil.Proofs.Eval.Result
import Stencil.Proofs.Value.Mapping
import Stencil.Proofs.Value.Order
import Stencil.Site.Project

namespace Stencil

open Stencil.Text

/-! The entries of a folder stand in the order of their names, each once. -/

theorem nodup_eraseDups (names : List Text) : names.eraseDups.Nodup := by
  induction hlength : names.length using Nat.strongRecOn generalizing names with
  | ind n ih =>
      cases names with
      | nil => exact List.nodup_nil
      | cons name names =>
          rw [List.eraseDups_cons, List.nodup_cons, List.mem_eraseDups]
          have hshorter := List.length_filter_le (fun b => !b == name) names
          rw [List.length_cons] at hlength
          refine ⟨by simp, ih _ (by omega) _ rfl⟩

namespace Path

theorem name_join (folder : Path) (name : Text) : (folder.join ⟨false, [name]⟩).name = name := by
  simp [join, Path.name]

theorem le_join (folder : Path) (s t : Text) :
    le (folder.join ⟨false, [s]⟩) (folder.join ⟨false, [t]⟩) = Text.le s t := by
  have hgo : ∀ parts : List Text, le.go (parts ++ [s]) (parts ++ [t]) = Text.le s t := by
    intro parts
    induction parts with
    | nil =>
        rw [List.nil_append, List.nil_append, le.go]
        split
        · next hsame =>
            rw [beq_iff_eq.mp hsame]
            exact ((Text.le_total t t).elim id id).symm
        · next hother =>
            have hne : s ≠ t := fun heq => hother (beq_iff_eq.mpr heq)
            rw [Bool.eq_iff_iff]
            refine ⟨fun hlt => ?_, fun hle => Text.lt_of_le_of_ne hle hne⟩
            exact Text.le_iff.mpr (List.lt_asymm (Text.lt_iff.mp hlt))
    | cons part parts ih => simpa [le.go] using ih
  exact hgo folder.parts

end Path

theorem FileTree.pairwise_children (tree : FileTree) (folder : Path) :
    (tree.children folder).Pairwise fun p q => Text.lt p.name q.name = true := by
  unfold children
  split
  · next place _ =>
      dsimp only
      generalize List.filterMap _ tree.files = names
      rw [← List.map_mergeSort (r := Text.le) fun s _ t _ => (Path.le_join folder s t).symm,
        List.pairwise_map]
      have hsorted := List.pairwise_mergeSort Text.sorts_le.trans Text.sorts_le.total
        names.eraseDups
      have hnodup : (names.eraseDups.mergeSort Text.le).Nodup :=
        (List.mergeSort_perm _ _).nodup_iff.mpr (nodup_eraseDups names)
      refine (hsorted.and hnodup).imp fun {s t} h => ?_
      rw [Path.name_join, Path.name_join]
      exact Text.lt_of_le_of_ne h.1 h.2
  · exact List.Pairwise.nil

namespace Project

open Value

/-! Data files, and the mapping that they make together. -/

def siteName : Text := "site.yaml".toList

def dataFiles (tree : FileTree) (project : Path) : List Path :=
  (tree.children (project.join (.ofText "data".toList))).filter fun p =>
    Text.endsWith ".yaml".toList p.name

def document (tree : FileTree) (file : Path) : Except Fault Value := tree.read file >>= Yaml.read

/-- The mapping that a document is taken for: what counts as nothing is an empty one. -/
def mappingOf (v : Value) : Option (List (Value × Value)) :=
  match if v.truthy then v else .map [] with
  | .map entries => some entries
  | _ => none

/-- What a file gives to the data: `site.yaml` its entries, any other file its mapping under its
stem. -/
def given (file : Path) (v : Value) : List (Value × Value) :=
  match mappingOf v with
  | some entries =>
      if file.name = siteName then entries else [(.text file.stem, .map entries)]
  | none => []

theorem putDocument_eq (data : List (Value × Value)) (file : Path) (v : Value) :
    (match if v.truthy then v else .map [] with
      | .map entries =>
          if file.name == siteName then return Config.update data entries
          else return insert data (.text file.stem) (if v.truthy then v else .map [])
      | _ => return data : Except Fault (List (Value × Value))) =
      .ok (Config.update data (given file v)) := by
  unfold given mappingOf
  generalize (if v.truthy then v else .map []) = payload
  cases payload with
  | map entries =>
      by_cases hsite : file.name = siteName
      · simp only [hsite, BEq.rfl, if_true]
        rfl
      · simp only [beq_eq_false_iff_ne.mpr hsite, Bool.false_eq_true, if_false, hsite]
        rfl
  | _ => rfl

theorem foldlM_put (tree : FileTree) (files : List Path) (data : List (Value × Value)) :
    (files.foldlM (fun data file => do
        let v ← document tree file
        return Config.update data (given file v)) data : Except Fault (List (Value × Value))) =
      (files.mapM fun file => (file, ·) <$> document tree file) >>= fun read =>
        .ok (Config.update data (read.flatMap fun r => given r.1 r.2)) := by
  induction files generalizing data with
  | nil => rfl
  | cons file files ih =>
      rw [List.foldlM_cons, List.mapM_cons]
      cases document tree file with
      | error e => rfl
      | ok v =>
          have hput : ∀ read : List (Path × Value),
              Config.update data (((file, v) :: read).flatMap fun r => given r.1 r.2) =
                Config.update (Config.update data (given file v))
                  (read.flatMap fun r => given r.1 r.2) := by
            intro read
            simp [Config.update]
          simp only [ok_bind, map_ok, pure_bind, ih, bind_assoc, hput]

theorem loadData_eq (tree : FileTree) (project : Path) :
    loadData tree project =
      ((dataFiles tree project).mapM fun file => (file, ·) <$> document tree file) >>= fun read =>
        .ok (Config.update [] (read.flatMap fun r => given r.1 r.2)) := by
  rw [← foldlM_put]
  unfold loadData dataFiles
  dsimp only
  congr 1
  funext data file
  unfold document
  rw [bind_assoc]
  congr 1
  funext text
  congr 1
  funext v
  exact putDocument_eq data file v

section

variable {tree : FileTree} {file : Path} {v : Value} {entries : List (Value × Value)}
  {e : Value × Value} {read : List (Path × Value)}

theorem distinctKeys_of_document (hdocument : document tree file = .ok v)
    (hmapping : mappingOf v = some entries) : DistinctKeys entries := by
  obtain ⟨text, -, hread⟩ := bind_eq_ok.mp hdocument
  unfold mappingOf at hmapping
  split at hmapping
  · next given hpayload =>
      cases hmapping
      split at hpayload
      · subst hpayload
        obtain ⟨given, hgiven⟩ := Yaml.ofEntries_of_read hread
        exact distinctKeys_ofEntries hgiven
      · cases hpayload
        exact List.Pairwise.nil
  · cases hmapping

theorem given_of_site (hname : file.name = siteName) (h : mappingOf v = some entries) :
    given file v = entries := by
  rw [given, h]
  exact if_pos hname

theorem given_of_ne (hname : file.name ≠ siteName) (h : mappingOf v = some entries) :
    given file v = [(.text file.stem, .map entries)] := by
  rw [given, h]
  exact if_neg hname

theorem exists_of_mem_given (h : e ∈ given file v) :
    ∃ entries, mappingOf v = some entries ∧
      ((file.name = siteName ∧ e ∈ entries) ∨
        (file.name ≠ siteName ∧ e = (.text file.stem, .map entries))) := by
  cases hmapping : mappingOf v with
  | none =>
      rw [given, hmapping] at h
      cases h
  | some entries =>
      refine ⟨entries, rfl, ?_⟩
      by_cases hname : file.name = siteName
      · rw [given_of_site hname hmapping] at h
        exact .inl ⟨hname, h⟩
      · rw [given_of_ne hname hmapping] at h
        exact .inr ⟨hname, List.mem_singleton.mp h⟩

theorem key_of_mem_given (hname : file.name ≠ siteName) (h : e ∈ given file v) :
    e.1 = .text file.stem := by
  obtain ⟨entries, -, ⟨hsite, -⟩ | ⟨-, rfl⟩⟩ := exists_of_mem_given h
  · exact absurd hsite hname
  · rfl

def InOrder (read : List (Path × Value)) : Prop :=
  read.Pairwise fun a b => Text.lt a.1.name b.1.name = true

theorem ne_of_lt {s t : Text} (h : Text.lt s t = true) : s ≠ t := by
  rintro rfl
  exact List.lt_irrefl s (Text.lt_iff.mp h)

/-- Only `site.yaml` gives keys that are no texts, so equal keys are the same. -/
theorem spelled_given (horder : InOrder read) (hread : ∀ r ∈ read, document tree r.1 = .ok r.2) :
    Spelled (read.flatMap fun r => given r.1 r.2) := by
  refine List.pairwise_flatMap.mpr ⟨fun r hr => ?_, horder.imp fun {a b} hlt x hx y hy heq => ?_⟩
  · cases hmapping : mappingOf r.2 with
    | none =>
        rw [given, hmapping]
        exact List.Pairwise.nil
    | some entries =>
        by_cases hname : r.1.name = siteName
        · rw [given_of_site hname hmapping]
          refine (distinctKeys_of_document (hread r hr) hmapping).imp fun hother heq => ?_
          rw [hother] at heq
          cases heq
        · rw [given_of_ne hname hmapping]
          exact List.pairwise_singleton _ _
  · by_cases hname : a.1.name = siteName
    · have hother : b.1.name ≠ siteName := fun hsame => ne_of_lt hlt (hname.trans hsame.symm)
      rw [key_of_mem_given hother hy] at heq ⊢
      exact eq_text_iff.mp heq
    · rw [key_of_mem_given hname hx] at heq ⊢
      exact (text_eq_iff.mp heq).symm

theorem forall_of_mapM_document {files : List Path}
    (h : (files.mapM fun file => (file, ·) <$> document tree file) = .ok read) :
    read.map (·.1) = files ∧ ∀ r ∈ read, document tree r.1 = .ok r.2 := by
  induction files generalizing read with
  | nil =>
      cases h
      exact ⟨rfl, List.forall_mem_nil _⟩
  | cons file files ih =>
      obtain ⟨r, behind, hr, hbehind, rfl⟩ := mapM_cons_eq_ok.mp h
      obtain ⟨v, hv, rfl⟩ := map_eq_ok.mp hr
      obtain ⟨hfiles, hall⟩ := ih hbehind
      exact ⟨by rw [List.map_cons, hfiles], List.forall_mem_cons.mpr ⟨hv, hall⟩⟩

end

/-! Two files have the same stem only if nothing stands before the extension of one. -/

theorem stem_append (t : Text) :
    Text.stem (t ++ ".yaml".toList) = if t = [] then ".yaml".toList else t := by
  have hdrop : (t ++ ".yaml".toList).reverse.dropWhile (· != '.') = '.' :: t.reverse := by
    simp
  unfold Text.stem
  rw [hdrop]
  by_cases hnil : t = []
  · subst hnil
    rfl
  · simp [hnil]

theorem names_of_stem_eq {s t : Text} (hs : Text.endsWith ".yaml".toList s = true)
    (ht : Text.endsWith ".yaml".toList t = true) (hstem : Text.stem s = Text.stem t)
    (hlt : Text.lt s t = true) : s = ".yaml".toList ∧ t = ".yaml.yaml".toList := by
  obtain ⟨a, rfl⟩ := List.isSuffixOf_iff_suffix.mp hs
  obtain ⟨b, rfl⟩ := List.isSuffixOf_iff_suffix.mp ht
  rw [stem_append, stem_append] at hstem
  split at hstem
  · next ha =>
      subst ha
      split at hstem
      · next hb => exact absurd (by rw [hb]) (ne_of_lt hlt)
      · exact ⟨rfl, by rw [← hstem]; rfl⟩
  · split at hstem
    · next hb =>
        subst hb hstem
        exact absurd hlt (by decide)
    · exact absurd (by rw [hstem]) (ne_of_lt hlt)

/-! What the data holds. -/

structure Reads (tree : FileTree) (project : Path) (read : List (Path × Value)) : Prop where
  order : InOrder read
  mem_iff : ∀ file v, (file, v) ∈ read ↔ file ∈ dataFiles tree project ∧ document tree file = .ok v

def Holds (tree : FileTree) (project file : Path) (entries : List (Value × Value)) : Prop :=
  file ∈ dataFiles tree project ∧ ∃ v, document tree file = .ok v ∧ mappingOf v = some entries

theorem entries_unique {tree : FileTree} {project file : Path}
    {entries others : List (Value × Value)} (h : Holds tree project file entries)
    (h' : Holds tree project file others) : entries = others := by
  obtain ⟨-, v, hv, hentries⟩ := h
  obtain ⟨-, w, hw, hothers⟩ := h'
  obtain rfl : v = w := Except.ok.inj (hv.symm.trans hw)
  exact Option.some.inj (hentries.symm.trans hothers)

/-- A file comes before `site.yaml`, which has a value of its own for its stem. -/
def Replaced (tree : FileTree) (project file : Path) (v : Value) : Prop :=
  ∃ site entries, Holds tree project site entries ∧ site.name = siteName ∧
    Text.lt file.name siteName = true ∧ (.text file.stem, v) ∈ entries

/-- A file without a name before its extension has the stem of another file that comes behind it. -/
def Doubled (tree : FileTree) (project file : Path) : Prop :=
  file.name = ".yaml".toList ∧
    ∃ other entries, Holds tree project other entries ∧ other.name = ".yaml.yaml".toList

section

variable {tree : FileTree} {project file : Path} {data entries : List (Value × Value)}
  {read : List (Path × Value)} {v : Value} {e : Value × Value}

theorem reads_of_loadData (h : loadData tree project = .ok data) :
    ∃ read, Reads tree project read ∧
      data = Config.update [] (read.flatMap fun r => given r.1 r.2) := by
  rw [loadData_eq] at h
  obtain ⟨read, hread, h⟩ := bind_eq_ok.mp h
  cases h
  obtain ⟨hfiles, hall⟩ := forall_of_mapM_document hread
  refine ⟨read, ⟨?_, fun file v => ⟨fun hmem => ?_, ?_⟩⟩, rfl⟩
  · have horder := (tree.pairwise_children (project.join (.ofText "data".toList))).filter
      fun p => Text.endsWith ".yaml".toList p.name
    rw [← dataFiles, ← hfiles, List.pairwise_map] at horder
    exact horder
  · rw [← hfiles]
    exact ⟨List.mem_map_of_mem hmem, hall _ hmem⟩
  · rintro ⟨hfile, hdocument⟩
    rw [← hfiles] at hfile
    obtain ⟨r, hr, rfl⟩ := List.mem_map.mp hfile
    obtain rfl : r.2 = v := Except.ok.inj ((hall r hr).symm.trans hdocument)
    exact hr

theorem exists_loadData :
    (∃ data, loadData tree project = .ok data) ↔
      ∀ file ∈ dataFiles tree project, ∃ v, document tree file = .ok v := by
  rw [loadData_eq, exists_bind_eq_ok]
  have hall : ∀ file, (∃ r : Path × Value, (file, ·) <$> document tree file = .ok r) ↔
      ∃ v, document tree file = .ok v := fun file =>
    ⟨fun ⟨_, hr⟩ => (map_eq_ok.mp hr).imp fun _ h => h.1,
      fun ⟨v, hv⟩ => ⟨(file, v), by rw [hv]; rfl⟩⟩
  simp only [← hall, ← exists_mapM_eq_ok]
  exact ⟨fun ⟨read, hread, _⟩ => ⟨read, hread⟩, fun ⟨read, hread⟩ => ⟨read, hread, _, rfl⟩⟩

namespace Reads

theorem spelled (h : Reads tree project read) :
    Spelled (read.flatMap fun r => given r.1 r.2) :=
  spelled_given h.order fun r hr => ((h.mem_iff r.1 r.2).mp hr).2

/-- What a file gives stays, where no file behind it gives the same key. -/
theorem lastOf (h : Reads tree project read) (hr : (file, v) ∈ read)
    (hgiven : LastOf (given file v) e)
    (hlater : ∀ other w, (other, w) ∈ read → Text.lt file.name other.name = true →
      ∀ later ∈ given other w, e.1.eq later.1 = false) :
    LastOf (read.flatMap fun r => given r.1 r.2) e :=
  lastOf_flatMap h.order hr hgiven fun r => hlater r.1 r.2

theorem names_eq (h : Reads tree project read) {other : Path} {w : Value} (hr : (file, v) ∈ read)
    (hother : (other, w) ∈ read) (hstem : file.stem = other.stem)
    (hlt : Text.lt file.name other.name = true) :
    file.name = ".yaml".toList ∧ other.name = ".yaml.yaml".toList :=
  names_of_stem_eq (List.mem_filter.mp ((h.mem_iff _ _).mp hr).1).2
    (List.mem_filter.mp ((h.mem_iff _ _).mp hother).1).2 hstem hlt

theorem kept (h : Reads tree project read) (hfile : Holds tree project file entries)
    (hname : file.name ≠ siteName) (hreplaced : ∀ v, ¬Replaced tree project file v)
    (hdoubled : ¬Doubled tree project file) :
    LastOf (read.flatMap fun r => given r.1 r.2) (.text file.stem, .map entries) := by
  obtain ⟨hmem, v, hv, hmapping⟩ := hfile
  have hr := (h.mem_iff file v).mpr ⟨hmem, hv⟩
  refine h.lastOf hr ?_ fun other w hother hlt later hlater => text_eq_false_iff.mpr fun hkey => ?_
  · rw [given_of_ne hname hmapping]
    exact ⟨[], [], rfl, List.forall_mem_nil _⟩
  · obtain ⟨hothermem, hw⟩ := (h.mem_iff other w).mp hother
    obtain ⟨others, hothers, ⟨hsite, hentry⟩ | ⟨-, rfl⟩⟩ := exists_of_mem_given hlater
    · refine hreplaced later.2 ⟨other, others, ⟨hothermem, w, hw, hothers⟩, hsite, hsite ▸ hlt, ?_⟩
      rw [← hkey]
      exact hentry
    · have hstem : file.stem = other.stem := (Value.text.inj hkey).symm
      obtain ⟨hfirst, hsecond⟩ := h.names_eq hr hother hstem hlt
      exact hdoubled ⟨hfirst, other, others, ⟨hothermem, w, hw, hothers⟩, hsecond⟩

theorem replaced (h : Reads tree project read) (hfile : Holds tree project file entries)
    (hreplaced : Replaced tree project file v) :
    LastOf (read.flatMap fun r => given r.1 r.2) (.text file.stem, v) := by
  obtain ⟨hmem, w, hw, -⟩ := hfile
  obtain ⟨site, others, ⟨hsitemem, u, hu, hothers⟩, hsite, hbefore, hentry⟩ := hreplaced
  refine h.lastOf ((h.mem_iff site u).mpr ⟨hsitemem, hu⟩) ?_
    fun other x hother hlt later hlater => text_eq_false_iff.mpr fun hkey => ?_
  · rw [given_of_site hsite hothers]
    exact (distinctKeys_of_document hu hothers).lastOf hentry
  · -- A file behind `site.yaml` with this stem would be named `.yaml.yaml`.
    have hname : other.name ≠ siteName := fun hsame => ne_of_lt hlt (hsite.trans hsame.symm)
    rw [key_of_mem_given hname hlater] at hkey
    rw [hsite] at hlt
    have hbetween : Text.lt file.name other.name = true :=
      Text.lt_iff.mpr (List.lt_trans (Text.lt_iff.mp hbefore) (Text.lt_iff.mp hlt))
    obtain ⟨-, hsecond⟩ := h.names_eq ((h.mem_iff file w).mpr ⟨hmem, hw⟩) hother
      (Value.text.inj hkey).symm hbetween
    rw [hsecond] at hlt
    exact absurd hlt (by decide)

theorem site_kept (h : Reads tree project read) (hsite : Holds tree project file entries)
    (hname : file.name = siteName) (he : e ∈ entries)
    (hfree : ∀ other others, Holds tree project other others → other.name ≠ siteName →
      e.1 ≠ .text other.stem) :
    LastOf (read.flatMap fun r => given r.1 r.2) e := by
  obtain ⟨hmem, v, hv, hmapping⟩ := hsite
  refine h.lastOf ((h.mem_iff file v).mpr ⟨hmem, hv⟩) ?_ fun other w hother hlt later hlater => ?_
  · rw [given_of_site hname hmapping]
    exact (distinctKeys_of_document hv hmapping).lastOf he
  · have hother' : other.name ≠ siteName := fun hsame => ne_of_lt hlt (hname.trans hsame.symm)
    obtain ⟨hothermem, hw⟩ := (h.mem_iff other w).mp hother
    obtain ⟨others, hothers, -⟩ := exists_of_mem_given hlater
    rw [key_of_mem_given hother' hlater]
    exact eq_text_false_iff.mpr (hfree other others ⟨hothermem, w, hw, hothers⟩ hother')

end Reads

end

/-! A project with two data files. -/

def authorsTree (site : Text) : FileTree :=
  .ofList [("data/authors.yaml".toList, "ann: b".toList), ("data/site.yaml".toList, site)]

def authorsPath : Path := .ofText "data/authors.yaml".toList

def sitePath : Path := .ofText "data/site.yaml".toList

def authors : List (Value × Value) := [(.text "ann".toList, .text "b".toList)]

theorem dataFiles_authorsTree (site : Text) :
    dataFiles (authorsTree site) .here = [authorsPath, sitePath] := by
  have hplace : (authorsTree site).place (Path.here.join (.ofText "data".toList)) =
      .ok ["data".toList] := rfl
  have hsorted : [authorsPath, sitePath].mergeSort Path.le = [authorsPath, sitePath] :=
    List.mergeSort_of_pairwise (by decide)
  have hchildren : (authorsTree site).children (Path.here.join (.ofText "data".toList)) =
      [authorsPath, sitePath] := by
    rw [FileTree.children, hplace]
    exact hsorted
  rw [dataFiles, hchildren]
  rfl

theorem holds_authors (site : Text) :
    Holds (authorsTree site) .here authorsPath authors := by
  have hread : (authorsTree site).read authorsPath = .ok "ann: b".toList := by
    with_unfolding_all rfl
  have hnode : Yaml.Node.ofText? "ann: b".toList =
      .ok (some (.mapping none [(.scalar none "ann".toList, .scalar none "b".toList)])) := by
    with_unfolding_all rfl
  have hdocument : document (authorsTree site) authorsPath = .ok (.map authors) := by
    rw [document, hread]
    exact Yaml.read_entry hnode rfl rfl
  exact ⟨by simp [dataFiles_authorsTree], _, hdocument, rfl⟩

theorem holds_site {site key text : Text}
    (hread : (authorsTree site).read sitePath = .ok site)
    (hnode : Yaml.Node.ofText? site =
      .ok (some (.mapping none [(.scalar none key, .scalar none text)])))
    (hkey : Yaml.Plain.typeOf key = .text) (htext : Yaml.Plain.typeOf text = .text) :
    Holds (authorsTree site) .here sitePath [(.text key, .text text)] := by
  have hdocument : document (authorsTree site) sitePath = .ok (.map [(.text key, .text text)]) := by
    rw [document, hread]
    exact Yaml.read_entry hnode hkey htext
  exact ⟨by simp [dataFiles_authorsTree], _, hdocument, rfl⟩

theorem eq_of_holds_authorsTree {site : Text} {file : Path} {entries others : List (Value × Value)}
    (hsite : Holds (authorsTree site) .here sitePath entries)
    (h : Holds (authorsTree site) .here file others) :
    file = authorsPath ∨ file = sitePath ∧ others = entries := by
  have hfile := h.1
  rw [dataFiles_authorsTree] at hfile
  rcases List.mem_cons.mp hfile with rfl | hfile
  · exact .inl rfl
  · obtain rfl := List.mem_singleton.mp hfile
    exact .inr ⟨rfl, entries_unique h hsite⟩

theorem exists_loadData_authorsTree {site : Text} {entries : List (Value × Value)}
    (h : Holds (authorsTree site) .here sitePath entries) :
    ∃ data, loadData (authorsTree site) .here = .ok data := by
  obtain ⟨-, v, hv, -⟩ := holds_authors site
  obtain ⟨-, w, hw, -⟩ := h
  refine exists_loadData.mpr fun file hfile => ?_
  rw [dataFiles_authorsTree] at hfile
  rcases List.mem_cons.mp hfile with rfl | hfile
  · exact ⟨v, hv⟩
  · obtain rfl := List.mem_singleton.mp hfile
    exact ⟨w, hw⟩

/-- The data is there exactly if every data file is read. A file with a mapping is found under its
stem, unless `site.yaml` comes behind it with that key or, for a file named by its extension alone,
another file has the same stem. The other entries of `site.yaml` are there as well, and nothing
else. -/
theorem loadData_keeps (tree : FileTree) (project : Path) :
    ((∃ data, loadData tree project = .ok data) ↔
        ∀ file ∈ dataFiles tree project, ∃ v, document tree file = .ok v) ∧
      ∀ data, loadData tree project = .ok data →
        (∀ file entries, Holds tree project file entries →
          (file.name ≠ siteName → (∀ v, ¬Replaced tree project file v) →
            ¬Doubled tree project file → find? (.text file.stem) data = some (.map entries)) ∧
          (∀ v, Replaced tree project file v → find? (.text file.stem) data = some v) ∧
          (file.name = siteName → ∀ e ∈ entries,
            (∀ other others, Holds tree project other others → other.name ≠ siteName →
              e.1 ≠ .text other.stem) → e ∈ data)) ∧
        ∀ e ∈ data, ∃ file entries, Holds tree project file entries ∧
          (file.name = siteName ∧ e ∈ entries ∨
            file.name ≠ siteName ∧ e = (.text file.stem, .map entries)) := by
  refine ⟨exists_loadData, fun data hdata => ?_⟩
  obtain ⟨read, hread, rfl⟩ := reads_of_loadData hdata
  refine ⟨fun file entries hfile => ⟨fun hname hreplaced hdoubled => ?_, fun v hv => ?_,
    fun hname e he hfree => ?_⟩, fun e he => ?_⟩
  · exact (Config.find?_update hread.spelled).mpr (hread.kept hfile hname hreplaced hdoubled)
  · exact (Config.find?_update hread.spelled).mpr (hread.replaced hfile hv)
  · exact (Config.mem_update hread.spelled).mpr (hread.site_kept hfile hname he hfree)
  · obtain ⟨⟨file, v⟩, hr, hgiven⟩ :=
      List.mem_flatMap.mp ((Config.mem_update hread.spelled).mp he).mem
    obtain ⟨entries, hmapping, hcases⟩ := exists_of_mem_given hgiven
    obtain ⟨hmem, hv⟩ := (hread.mem_iff file v).mp hr
    exact ⟨file, entries, ⟨hmem, v, hv, hmapping⟩, hcases⟩

theorem loadData_keeps_site :
    ∃ data, loadData (authorsTree "kind: book".toList) .here = .ok data ∧
      find? (.text "authors".toList) data = some (.map authors) ∧
      (.text "kind".toList, .text "book".toList) ∈ data := by
  have hnode : Yaml.Node.ofText? "kind: book".toList =
      .ok (some (.mapping none [(.scalar none "kind".toList, .scalar none "book".toList)])) := by
    with_unfolding_all rfl
  have hsite := holds_site rfl hnode rfl rfl
  obtain ⟨data, hdata⟩ := exists_loadData_authorsTree hsite
  have hkey : text "kind".toList ≠ text authorsPath.stem := fun h =>
    absurd (Value.text.inj h) (by decide)
  have hkeeps := ((loadData_keeps (authorsTree "kind: book".toList) .here).2 data hdata).1
  refine ⟨data, hdata, (hkeeps _ _ (holds_authors _)).1 (by decide) ?_ ?_,
    (hkeeps _ _ hsite).2.2 rfl _ (List.mem_singleton.mpr rfl) ?_⟩
  · rintro v ⟨file, entries, hfile, hname, -, hmem⟩
    obtain rfl | ⟨rfl, rfl⟩ := eq_of_holds_authorsTree hsite hfile
    · exact absurd hname (by decide)
    · exact hkey (congrArg Prod.fst (List.mem_singleton.mp hmem)).symm
  · rintro ⟨hname, -⟩
    exact absurd hname (by decide)
  · intro other entries hother hname
    obtain rfl | ⟨rfl, -⟩ := eq_of_holds_authorsTree hsite hother
    · exact hkey
    · exact absurd rfl hname

theorem loadData_loses_authors :
    Holds (authorsTree "authors: x".toList) .here authorsPath authors ∧
      ∃ data, loadData (authorsTree "authors: x".toList) .here = .ok data ∧
        find? (.text authorsPath.stem) data = some (.text "x".toList) := by
  have hnode : Yaml.Node.ofText? "authors: x".toList =
      .ok (some (.mapping none [(.scalar none "authors".toList, .scalar none "x".toList)])) := by
    with_unfolding_all rfl
  have hauthors := holds_authors "authors: x".toList
  have hsite := holds_site rfl hnode rfl rfl
  obtain ⟨data, hdata⟩ := exists_loadData_authorsTree hsite
  obtain ⟨read, hread, rfl⟩ := reads_of_loadData hdata
  refine ⟨hauthors, _, hdata, (Config.find?_update hread.spelled).mpr ?_⟩
  exact hread.replaced hauthors ⟨sitePath, _, hsite, rfl, by decide, List.mem_singleton.mpr rfl⟩

end Project

end Stencil
