import Stencil.Proofs.Site.Address
import Stencil.Proofs.Value.Integers
import Stencil.Site.Config

namespace Stencil

/-! A setting that is there is read, and for one that is missing another value stands. -/

theorem read_getD_eq_ok (read : Value → Except Fault α) {v? : Option Value} {default : Value}
    {a d : α} (hdefault : read default = .ok d) :
    read (v?.getD default) = .ok a ↔
      (∀ v, v? = some v → read v = .ok a) ∧ (v? = none → a = d) := by
  cases v? with
  | none =>
      rw [Option.getD_none, hdefault]
      exact ⟨fun h => ⟨nofun, fun _ => (Except.ok.inj h).symm⟩,
        fun h => congrArg _ (h.2 rfl).symm⟩
  | some v => exact ⟨fun h => ⟨fun _ heq => by cases heq; exact h, nofun⟩, fun h => h.1 v rfl⟩

theorem exists_read_getD (read : Value → Except Fault α) {v? : Option Value} {default : Value}
    {d : α} (hdefault : read default = .ok d) :
    (∃ a, read (v?.getD default) = .ok a) ↔ ∀ v, v? = some v → ∃ a, read v = .ok a := by
  cases v? with
  | none => exact iff_of_true ⟨d, hdefault⟩ nofun
  | some v => exact ⟨fun h _ heq => by cases heq; exact h, fun h => h v rfl⟩

theorem Document.textField_eq_ok {entries : List (Value × Value)} {name : String}
    {default t : Text} :
    textField entries name default = .ok t ↔
      ((field entries name).truthy = true → (field entries name).display = .ok t) ∧
        ((field entries name).truthy = false → t = default) := by
  unfold textField
  dsimp only
  split
  · next htruthy => simp [htruthy]
  · next hfalsy => simp [hfalsy, eq_comm]

def Fault.Unusable : Fault → Prop
  | .wrongKind | .outOfDomain | .overflow => True
  | _ => False

namespace Config

open Document Value

inductive Counts : Value → Int → Prop
  | text (s : Text) (i : Int) (h : Text.toInt? s = some i) : Counts (.text s) i
  | bool (b : Bool) : Counts (.bool b) (if b then 1 else 0)
  | int (i : Int) : Counts (.int i) i
  | float (f : Float) (d : Dyadic) (h : Dyadic.ofFloat? f = some d) : Counts (.float f) d.truncate

theorem workers_eq_ok {v : Value} {i : Int} : workers v = .ok i ↔ Counts v i := by
  constructor
  · intro h
    cases v with
    | text s =>
        rw [workers] at h
        cases hint : Text.toInt? s with
        | none =>
            rw [hint] at h
            cases h
        | some i =>
            rw [hint] at h
            cases h
            exact .text s i hint
    | bool b =>
        cases h
        exact .bool b
    | int i =>
        cases h
        exact .int i
    | float f =>
        rw [workers, Number.truncate, Number.toIntWith] at h
        split at h
        · next d hd =>
            cases h
            exact .float f d hd
        · cases h
    | _ => cases h
  · rintro (⟨s, i, hint⟩ | b | i | ⟨f, d, hd⟩)
    · rw [workers, hint]
      rfl
    · rfl
    · rfl
    · rw [workers, Number.truncate, Number.toIntWith, hd]

theorem workers_failsIn (v : Value) : FailsIn Fault.Unusable (workers v) := by
  cases v with
  | text s =>
      rw [workers]
      cases Text.toInt? s with
      | none => exact failsIn_error trivial
      | some i => exact instFailsInOk i
  | bool b => exact instFailsInOk _
  | int i => exact instFailsInOk i
  | float f =>
      rw [workers, Number.truncate, Number.toIntWith]
      split
      · exact instFailsInOk _
      · refine failsIn_error ?_
        cases f.isNaN <;> trivial
  | _ => exact failsIn_error trivial

/-! The build settings. -/

def buildSetting? (entries : List (Value × Value)) (name : String) : Option Value :=
  find? (.ofString name) entries

/-- Build settings as a mapping has them, and the standard ones where it does not. -/
structure Builds (entries : List (Value × Value)) (b : BuildSettings) : Prop where
  incremental : b.incremental =
    ((buildSetting? entries "incremental").map truthy).getD BuildSettings.standard.incremental
  parallel : b.parallel =
    ((buildSetting? entries "parallel").map truthy).getD BuildSettings.standard.parallel
  cacheDir : (∀ v, buildSetting? entries "cache_dir" = some v → v.display = .ok b.cacheDir) ∧
    (buildSetting? entries "cache_dir" = none → b.cacheDir = BuildSettings.standard.cacheDir)
  maxWorkers : (∀ v, buildSetting? entries "max_workers" = some v → Counts v b.maxWorkers) ∧
    (buildSetting? entries "max_workers" = none → b.maxWorkers = BuildSettings.standard.maxWorkers)

structure Buildable (entries : List (Value × Value)) : Prop where
  cacheDir : ∀ v, buildSetting? entries "cache_dir" = some v → ∃ t, v.display = .ok t
  maxWorkers : ∀ v, buildSetting? entries "max_workers" = some v → ∃ i, Counts v i

section

variable {entries : List (Value × Value)} {b : BuildSettings}

theorem truthy_getD {v? : Option Value} {flag : Bool} :
    (v?.getD (.bool flag)).truthy = (v?.map truthy).getD flag := by
  cases v? <;> rfl

theorem build_eq_ok : build (.map entries) = .ok b ↔ Builds entries b := by
  unfold build
  simp only [truthy_getD]
  constructor
  · intro h
    obtain ⟨cacheDir, hcacheDir, h⟩ := bind_eq_ok.mp h
    obtain ⟨maxWorkers, hmaxWorkers, h⟩ := bind_eq_ok.mp h
    cases h
    exact {
      incremental := rfl
      parallel := rfl
      cacheDir := (read_getD_eq_ok display rfl).mp hcacheDir
      maxWorkers := ((read_getD_eq_ok workers rfl).mp hmaxWorkers).imp_left
        fun h v hv => workers_eq_ok.mp (h v hv) }
  · intro h
    obtain ⟨incremental, parallel, cacheDir, maxWorkers⟩ := b
    obtain ⟨rfl, rfl, hcacheDir, hmaxWorkers⟩ := h
    have hworkers := hmaxWorkers.imp_left fun h v hv => workers_eq_ok.mpr (h v hv)
    exact bind_eq_ok.mpr ⟨cacheDir, (read_getD_eq_ok display rfl).mpr hcacheDir,
      bind_eq_ok.mpr ⟨maxWorkers, (read_getD_eq_ok workers rfl).mpr hworkers, rfl⟩⟩

theorem exists_build : (∃ b, build (.map entries) = .ok b) ↔ Buildable entries := by
  have hcacheDir : display (.text BuildSettings.standard.cacheDir) = .ok _ := rfl
  have hmaxWorkers : workers (.int BuildSettings.standard.maxWorkers) = .ok _ := rfl
  unfold build
  simp only [exists_bind_eq_ok, pure, Except.pure, Except.ok.injEq, exists_eq', and_true,
    exists_and_right, exists_read_getD display hcacheDir, exists_read_getD workers hmaxWorkers]
  simp only [workers_eq_ok]
  exact ⟨fun h => ⟨h.1, h.2⟩, fun h => ⟨h.cacheDir, h.maxWorkers⟩⟩

theorem build_of_ne_map {v : Value} (h : ∀ entries, v ≠ .map entries) :
    build v = .ok .standard := by
  cases v with
  | map entries => exact absurd rfl (h entries)
  | _ => rfl

theorem build_failsIn (v : Value) : FailsIn Fault.Unusable (build v) := by
  cases v with
  | map entries =>
      unfold build
      have hdisplay := display_failsIn (P := Fault.Unusable) trivial
      have hworkers := workers_failsIn
      infer_instance
  | _ => exact instFailsInOk _

end

/-! The site. -/

/-- Names of the settings that are texts in a site, each with its place there. -/
def textSettings : List (String × (Site → Text)) :=
  [("title", (·.title)), ("base_url", (·.baseUrl)), ("description", (·.description)),
    ("author", (·.author)), ("copyright", (·.copyright)), ("theme", (·.theme)),
    ("layouts_dir", (·.layoutsDir))]

/-- A setting as a text: written out, or the default one where it is missing or counts as
nothing. -/
structure ReadsAs (settings : Settings) (name : String) (t : Text) : Prop where
  given : (field settings name).truthy = true → (field settings name).display = .ok t
  default : (field settings name).truthy = false → field defaults name = .text t

/-- A site as its settings describe it. A section that is no mapping is left out of account. -/
structure Describes (settings : Settings) (data : List (Value × Value)) (pages : List Page)
    (s : Site) : Prop where
  texts : ∀ setting ∈ textSettings, ReadsAs settings setting.1 (setting.2 s)
  params : ∀ entries, field settings "params" = .map entries → s.params = .map entries
  params_ignored : (∀ entries, field settings "params" ≠ .map entries) → s.params = .map []
  build : ∀ entries, field settings "build" = .map entries → Builds entries s.build
  build_ignored : (∀ entries, field settings "build" ≠ .map entries) → s.build = .standard
  debug : s.debug = (field settings "debug").truthy
  data : s.data = .map data
  pages : s.pages = pages.mapIdx fun i p => { p with position? := some i }
  menus : s.menus = []

structure Usable (settings : Settings) : Prop where
  texts : ∀ setting ∈ textSettings, Shows (field settings setting.1)
  build : ∀ entries, field settings "build" = .map entries → Buildable entries

section

variable {settings : Settings} {data : List (Value × Value)} {pages : List Page} {s : Site}

theorem readsAs_of_textField {name : String} {default t : Text}
    (hdefault : field defaults name = .text default)
    (h : textField settings name default = .ok t) : ReadsAs settings name t := by
  obtain ⟨hgiven, hmissing⟩ := textField_eq_ok.mp h
  exact ⟨hgiven, fun hfalsy => by rw [hdefault, hmissing hfalsy]⟩

theorem textField_failsIn {name : String} {default : Text} :
    FailsIn Fault.Unusable (textField settings name default) := by
  have hdisplay := display_failsIn (P := Fault.Unusable) trivial (field settings name)
  unfold textField
  infer_instance

theorem menus_of_absent (hmenus : find? (.ofString "menus") settings = none) :
    Menu.ofConfig (field settings "menus") = .ok [] := by
  rw [field, hmenus]
  rfl

theorem exists_build_field :
    (∃ b, build (field settings "build") = .ok b) ↔
      ∀ entries, field settings "build" = .map entries → Buildable entries := by
  cases field settings "build" with
  | map entries =>
      rw [exists_build]
      exact ⟨fun h _ heq => by cases heq; exact h, fun h => h entries rfl⟩
  | _ => exact iff_of_true ⟨_, rfl⟩ nofun

theorem exists_site (hmenus : find? (.ofString "menus") settings = none) :
    (∃ s, site settings data pages = .ok s) ↔ Usable settings := by
  unfold site
  simp only [menus_of_absent hmenus, exists_bind_eq_ok, pure, Except.pure, Except.ok.injEq,
    exists_eq', and_true, true_and, exists_and_right, exists_textField, exists_build_field]
  constructor
  · rintro ⟨htitle, hbaseUrl, hdescription, hauthor, hcopyright, htheme, hlayoutsDir, hbuild⟩
    exact {
      texts := by
        simp only [textSettings, List.forall_mem_cons]
        exact ⟨htitle, hbaseUrl, hdescription, hauthor, hcopyright, htheme, hlayoutsDir,
          List.forall_mem_nil _⟩
      build := hbuild }
  · rintro ⟨htexts, hbuild⟩
    simp only [textSettings, List.forall_mem_cons] at htexts
    obtain ⟨htitle, hbaseUrl, hdescription, hauthor, hcopyright, htheme, hlayoutsDir, -⟩ := htexts
    exact ⟨htitle, hbaseUrl, hdescription, hauthor, hcopyright, htheme, hlayoutsDir, hbuild⟩

theorem site_failsIn (hmenus : find? (.ofString "menus") settings = none) :
    FailsIn Fault.Unusable (site settings data pages) := by
  have htext := @textField_failsIn settings
  have hbuild := build_failsIn (field settings "build")
  unfold site
  dsimp only
  rw [menus_of_absent hmenus]
  infer_instance

theorem describes_of_site (hmenus : find? (.ofString "menus") settings = none)
    (h : site settings data pages = .ok s) : Describes settings data pages s := by
  obtain ⟨title, htitle, h⟩ := bind_eq_ok.mp h
  obtain ⟨baseUrl, hbaseUrl, h⟩ := bind_eq_ok.mp h
  obtain ⟨description, hdescription, h⟩ := bind_eq_ok.mp h
  obtain ⟨author, hauthor, h⟩ := bind_eq_ok.mp h
  obtain ⟨copyright, hcopyright, h⟩ := bind_eq_ok.mp h
  obtain ⟨theme, htheme, h⟩ := bind_eq_ok.mp h
  obtain ⟨layoutsDir, hlayoutsDir, h⟩ := bind_eq_ok.mp h
  rw [menus_of_absent hmenus, ok_bind] at h
  obtain ⟨b, hb, h⟩ := bind_eq_ok.mp h
  cases h
  exact {
    texts := by
      simp only [textSettings, List.forall_mem_cons]
      refine ⟨readsAs_of_textField ?_ htitle, readsAs_of_textField ?_ hbaseUrl,
        readsAs_of_textField ?_ hdescription, readsAs_of_textField ?_ hauthor,
        readsAs_of_textField ?_ hcopyright, readsAs_of_textField ?_ htheme,
        readsAs_of_textField ?_ hlayoutsDir, List.forall_mem_nil _⟩
      all_goals with_unfolding_all rfl
    params := fun entries hentries => by rw [hentries]
    params_ignored := fun hother => by
      dsimp only
      split
      · next entries hentries => exact absurd hentries (hother entries)
      · rfl
    build := fun entries hentries => by
      rw [hentries] at hb
      exact build_eq_ok.mp hb
    build_ignored := fun hother => by
      rw [build_of_ne_map hother] at hb
      exact (Except.ok.inj hb).symm
    debug := rfl
    data := rfl
    pages := rfl
    menus := rfl }

/-- A configuration without menus makes a site exactly if its settings can be read, and the site has
all of them at their places: texts that are missing or count as nothing are the default ones,
sections that are no mappings are ignored, and a build setting that is missing is the standard
one. A build setting that is there is taken; where it cannot be, there is no site. -/
theorem site_describes (settings : Settings) (data : List (Value × Value)) (pages : List Page)
    (hmenus : find? (.ofString "menus") settings = none) :
    ((∃ s, site settings data pages = .ok s) ↔ Usable settings) ∧
      FailsIn Fault.Unusable (site settings data pages) ∧
      ∀ s, site settings data pages = .ok s → Describes settings data pages s :=
  ⟨exists_site hmenus, site_failsIn hmenus, fun _ => describes_of_site hmenus⟩

end

/-- Settings of a book, with parameters that are no mapping. -/
def bookSettings (build : List (Value × Value)) : Settings :=
  [(.ofString "title", .ofString "Book"), (.ofString "params", .list []),
    (.ofString "build", .map build)]

def bookSite : Site where
  title := "Book".toList
  baseUrl := []
  description := []
  author := []
  copyright := []
  theme := []
  layoutsDir := "layouts".toList
  params := .map []
  data := .map []
  pages := []
  menus := []
  build := { BuildSettings.standard with parallel := false }
  debug := false

theorem site_describes_book :
    find? (.ofString "menus") (bookSettings [(.ofString "parallel", .int 0)]) = none ∧
      site (bookSettings [(.ofString "parallel", .int 0)]) [] [] = .ok bookSite ∧
      Usable (bookSettings [(.ofString "parallel", .int 0)]) ∧
      Describes (bookSettings [(.ofString "parallel", .int 0)]) [] [] bookSite := by
  have hmenus : find? (.ofString "menus") (bookSettings [(.ofString "parallel", .int 0)]) =
      none := by
    with_unfolding_all rfl
  have hsite : site (bookSettings [(.ofString "parallel", .int 0)]) [] [] = .ok bookSite := by
    with_unfolding_all rfl
  obtain ⟨hmakes, -, hdescribes⟩ := site_describes _ [] [] hmenus
  exact ⟨hmenus, hsite, hmakes.mp ⟨bookSite, hsite⟩, hdescribes bookSite hsite⟩

theorem site_unusable :
    site (bookSettings [(.ofString "max_workers", .ofString "many")]) [] [] =
      .error .outOfDomain := by
  with_unfolding_all rfl

end Config

end Stencil
