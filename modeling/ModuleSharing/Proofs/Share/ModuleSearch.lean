import ModuleSharing.Proofs.Share.NearestManifest
import ModuleSharing.Proofs.Share.PackageName

/-! Which file a module request stands for.  A request has at most one base (`Files.SearchBase`):
the place that a path names, or the place inside the nearest installed copy of the package that it
names.  The file is the first that exists of the three that the base can mean
(`Files.module_search`). -/

namespace ModuleSharing

open ModuleSharing.Path (join ancestors Nearest)

namespace Files

open Specifier (Names isBare)

variable {files : Files} {context request : String}

/-! ## The base of a request -/

/-- Where a package is installed for the modules of a folder. -/
def installed (package dir : String) : String := join (join dir "node_modules") package

/-- The file that a package stands for: its `main`, or the index if its manifest gives none. -/
inductive EntryPoint (files : Files) (folder : String) : String → Prop where
  | declared {m : Manifest} {entry : String}
      (hload : Manifest.load files (join folder manifestName) = .ok m)
      (hmain : m.main = some entry) : EntryPoint files folder entry
  | standard (hnone : ∀ m, Manifest.load files (join folder manifestName) = .ok m → m.main = none) :
      EntryPoint files folder "index.js"

/-- The place that a request names: as a path, inside the nearest installed copy of a package, or by
the name of the package alone. -/
inductive SearchBase (files : Files) (context request : String) : String → Prop where
  | path (hbare : isBare request = false) (hcolon : ':' ∉ request.toList) :
      SearchBase files context request (join context request)
  | inside {package dir inside : String} {rest slashes : List Char}
      (hnames : Names request package rest)
      (hdir : Nearest (fun d => files.HasManifest (installed package d)) context dir)
      (hrest : rest = slashes ++ inside.toList) (hslashes : ∀ c ∈ slashes, c = '/')
      (hfirst : inside.toList.head? ≠ some '/') (hne : inside ≠ "") :
      SearchBase files context request (join (installed package dir) inside)
  | main {package dir entry : String} {slashes : List Char}
      (hnames : Names request package slashes)
      (hdir : Nearest (fun d => files.HasManifest (installed package d)) context dir)
      (hslashes : ∀ c ∈ slashes, c = '/')
      (hentry : files.EntryPoint (installed package dir) entry) :
      SearchBase files context request (join (installed package dir) entry)

/-- The first file among the base itself, the base with `.js`, and the index inside it. -/
inductive FirstFile (files : Files) (base : String) : String → Prop where
  | itself (h : files.isFile base = true) : FirstFile files base base
  | script (hitself : files.isFile base = false) (h : files.isFile (base ++ ".js") = true) :
      FirstFile files base (base ++ ".js")
  | index (hitself : files.isFile base = false) (hscript : files.isFile (base ++ ".js") = false)
      (h : files.isFile (join base "index.js") = true) :
      FirstFile files base (join base "index.js")

theorem resolveFile?_eq_some_iff {base file : String} :
    files.resolveFile? base = some file ↔ files.FirstFile base file := by
  constructor
  · intro h
    cases hitself : files.isFile base with
    | true =>
      rw [resolveFile?, List.find?_cons_of_pos hitself] at h
      cases h
      exact .itself hitself
    | false =>
      rw [resolveFile?, List.find?_cons_of_neg (by simp [hitself])] at h
      cases hscript : files.isFile (base ++ ".js") with
      | true =>
        rw [List.find?_cons_of_pos hscript] at h
        cases h
        exact .script hitself hscript
      | false =>
        rw [List.find?_cons_of_neg (by simp [hscript])] at h
        cases hindex : files.isFile (join base "index.js") with
        | true =>
          rw [List.find?_cons_of_pos hindex] at h
          cases h
          exact .index hitself hscript hindex
        | false =>
          rw [List.find?_cons_of_neg (by simp [hindex])] at h
          contradiction
  · rintro (hitself | ⟨hitself, hscript⟩ | ⟨hitself, hscript, hindex⟩)
    · simp [resolveFile?, hitself]
    · simp [resolveFile?, hitself, hscript]
    · simp [resolveFile?, hitself, hscript, hindex]

theorem packageFolder?_eq_some_iff {package folder : String} :
    files.packageFolder? context package = some folder ↔
      ∃ dir, Nearest (fun d => files.HasManifest (installed package d)) context dir ∧
        folder = installed package dir := by
  rw [packageFolder?, List.find?_map, Option.map_eq_some_iff]
  constructor
  · rintro ⟨dir, hfind, rfl⟩
    exact ⟨dir, (Path.find?_ancestors _).mp hfind, rfl⟩
  · rintro ⟨dir, hdir, rfl⟩
    exact ⟨dir, (Path.find?_ancestors fun d =>
      files.isFile (join (installed package d) manifestName)).mpr hdir, rfl⟩

theorem entryPoint_iff {folder entry : String} : files.EntryPoint folder entry ↔
    ((Manifest.load files (join folder manifestName)).toOption.bind Manifest.main).getD
      "index.js" = entry := by
  constructor
  · intro h
    cases h with
    | declared hload hmain => simp [hload, Except.toOption, hmain]
    | standard hnone =>
      cases hload : Manifest.load files (join folder manifestName) with
      | error e => rfl
      | ok m => simp [Except.toOption, hnone m hload]
  · rintro rfl
    cases hload : Manifest.load files (join folder manifestName) with
    | error e => exact .standard fun m hm => by rw [hload] at hm; contradiction
    | ok m =>
      cases hmain : m.main with
      | none =>
        simp only [Except.toOption, Option.bind_some, hmain, Option.getD_none]
        refine .standard fun m' hm' => ?_
        rw [hload, Except.ok.injEq] at hm'
        rw [← hm', hmain]
      | some entry =>
        simp only [Except.toOption, Option.bind_some, hmain, Option.getD_some]
        exact .declared hload hmain

/-! ## From the base to the file -/

/-- What is asked for in the folder of a package, after the package's name. -/
def wanted (files : Files) (folder : String) (rest : List Char) : String :=
  if rest.dropWhile (· == '/') = [] then
    ((Manifest.load files (join folder manifestName)).toOption.bind Manifest.main).getD "index.js"
  else String.ofList (rest.dropWhile (· == '/'))

theorem resolveModule?_of_names {package dir : String} {rest : List Char}
    (hnames : Names request package rest)
    (hdir : Nearest (fun d => files.HasManifest (installed package d)) context dir) :
    files.resolveModule? context request =
      files.resolveFile? (join (installed package dir)
        (files.wanted (installed package dir) rest)) := by
  have hfolder := packageFolder?_eq_some_iff.mpr ⟨dir, hdir, rfl⟩
  have hrest : request.toList.drop package.toList.length = rest := by
    rw [hnames.split, List.drop_left]
  rw [resolveModule?, if_neg (by simp [hnames.bare]), Specifier.packageName?_of_names hnames]
  simp only [Option.bind_eq_bind, Option.bind_some, hfolder, hrest, wanted]
  cases rest.dropWhile (· == '/') <;> rfl

theorem dropWhile_slashes {slashes : List Char} (h : ∀ c ∈ slashes, c = '/') {inside : List Char}
    (hfirst : inside.head? ≠ some '/') : (slashes ++ inside).dropWhile (· == '/') = inside := by
  rw [List.dropWhile_append_of_pos fun c hc => beq_iff_eq.mpr (h c hc)]
  cases inside with
  | nil => rfl
  | cons c inside => exact List.dropWhile_cons_of_neg (by simpa using hfirst)

theorem dropWhile_all_slashes {slashes : List Char} (h : ∀ c ∈ slashes, c = '/') :
    slashes.dropWhile (· == '/') = [] := by
  have hdrop := @dropWhile_slashes slashes h [] (by simp)
  rwa [List.append_nil] at hdrop

theorem SearchBase.eq_wanted {base package dir : String} {rest : List Char}
    (h : files.SearchBase context request base) (hnames : Names request package rest)
    (hdir : Nearest (fun d => files.HasManifest (installed package d)) context dir) :
    base = join (installed package dir) (files.wanted (installed package dir) rest) := by
  cases h with
  | path hpath => exact absurd hpath hnames.not_path
  | inside hnames' hdir' hrest hslashes hfirst hne =>
    obtain ⟨rfl, rfl⟩ := hnames.unique hnames'
    rw [hdir.unique hdir', wanted, hrest, dropWhile_slashes hslashes hfirst,
      if_neg (by simpa using hne), String.ofList_toList]
  | main hnames' hdir' hslashes hentry =>
    obtain ⟨rfl, rfl⟩ := hnames.unique hnames'
    rw [hdir.unique hdir', wanted, dropWhile_all_slashes hslashes, if_pos rfl,
      entryPoint_iff.mp hentry]

theorem resolveModule?_of_base {base : String} (h : files.SearchBase context request base) :
    files.resolveModule? context request = files.resolveFile? base := by
  have hbare {package dir : String} {rest : List Char} (hnames : Names request package rest)
      (hdir : Nearest (fun d => files.HasManifest (installed package d)) context dir) :
      files.resolveModule? context request = files.resolveFile? base := by
    rw [resolveModule?_of_names hnames hdir, ← h.eq_wanted hnames hdir]
  cases h with
  | path hpath hcolon =>
    rw [resolveModule?, hpath, Bool.not_false, if_pos rfl, if_neg (by simpa using hcolon)]
  | inside hnames hdir => exact hbare hnames hdir
  | main hnames hdir => exact hbare hnames hdir

theorem exists_slashes (rest : List Char) : ∃ slashes inside, rest = slashes ++ inside ∧
    (∀ c ∈ slashes, c = '/') ∧ inside.head? ≠ some '/' := by
  refine ⟨rest.takeWhile (· == '/'), rest.dropWhile (· == '/'),
    List.takeWhile_append_dropWhile.symm, fun c hc => ?_, fun hfirst => ?_⟩
  · exact beq_iff_eq.mp (List.all_eq_true.mp List.all_takeWhile c hc)
  · have := List.head?_dropWhile_not (· == '/') rest
    rw [hfirst] at this
    contradiction

theorem exists_base {file : String} (h : files.resolveModule? context request = some file) :
    ∃ base, files.SearchBase context request base := by
  cases hbare : isBare request with
  | false =>
    rw [resolveModule?, hbare, Bool.not_false, if_pos rfl] at h
    split at h
    · contradiction
    · rename_i hcolon
      exact ⟨_, .path hbare (by simpa using hcolon)⟩
  | true =>
    rw [resolveModule?, hbare, Bool.not_true, if_neg (by decide)] at h
    obtain ⟨package, hpackage, h⟩ := Option.bind_eq_some_iff.mp h
    obtain ⟨folder, hfolder, -⟩ := Option.bind_eq_some_iff.mp h
    obtain ⟨rest, hnames⟩ := Specifier.names_of_packageName? hpackage
    obtain ⟨dir, hdir, rfl⟩ := packageFolder?_eq_some_iff.mp hfolder
    obtain ⟨slashes, inside, rfl, hslashes, hfirst⟩ := exists_slashes rest
    by_cases hinside : inside = []
    · rw [hinside, List.append_nil] at hnames
      exact ⟨_, .main hnames hdir hslashes (entryPoint_iff.mpr rfl)⟩
    · rw [← String.toList_ofList (l := inside)] at hnames hfirst
      exact ⟨_, .inside hnames hdir rfl hslashes hfirst (by simpa using hinside)⟩

theorem resolveModule?_of_no_base (h : ∀ base, ¬ files.SearchBase context request base) :
    files.resolveModule? context request = none := by
  rw [Option.eq_none_iff_forall_ne_some]
  intro file hfile
  obtain ⟨base, hbase⟩ := exists_base hfile
  exact h base hbase

/-- A request has one base. -/
theorem SearchBase.unique {base base' : String} (h : files.SearchBase context request base)
    (h' : files.SearchBase context request base') : base = base' := by
  have hbare {package dir : String} {rest : List Char} (hnames : Names request package rest)
      (hdir : Nearest (fun d => files.HasManifest (installed package d)) context dir) :
      base = base' := by
    rw [h.eq_wanted hnames hdir, h'.eq_wanted hnames hdir]
  cases h with
  | path hpath =>
    cases h' with
    | path => rfl
    | inside hnames => exact absurd hpath hnames.not_path
    | main hnames => exact absurd hpath hnames.not_path
  | inside hnames hdir => exact hbare hnames hdir
  | main hnames hdir => exact hbare hnames hdir

/-- A request resolves to the first file that its base can mean, and to nothing if it has no base or
none of them is a file.  A path with a colon, a bare request without the name of a package and a
package that is installed nowhere have no base. -/
theorem module_search (files : Files) (context request : String) :
    (∀ file, files.resolveModule? context request = some file ↔
      ∃ base, files.SearchBase context request base ∧ files.FirstFile base file) ∧
    (files.resolveModule? context request = none ↔
      ∀ base, files.SearchBase context request base →
        files.isFile base = false ∧ files.isFile (base ++ ".js") = false ∧
          files.isFile (join base "index.js") = false) ∧
    (∀ base base', files.SearchBase context request base →
      files.SearchBase context request base' → base = base') ∧
    (isBare request = false → ':' ∈ request.toList →
      files.resolveModule? context request = none) ∧
    (isBare request = true → (∀ package rest, ¬ Names request package rest) →
      files.resolveModule? context request = none) ∧
    (∀ package rest, Names request package rest →
      (∀ dir ∈ ancestors context, ¬ files.HasManifest (installed package dir)) →
      files.resolveModule? context request = none) := by
  have hsome (file : String) : files.resolveModule? context request = some file ↔
      ∃ base, files.SearchBase context request base ∧ files.FirstFile base file := by
    constructor
    · intro h
      obtain ⟨base, hbase⟩ := exists_base h
      rw [resolveModule?_of_base hbase, resolveFile?_eq_some_iff] at h
      exact ⟨base, hbase, h⟩
    · rintro ⟨base, hbase, hfile⟩
      rw [resolveModule?_of_base hbase, resolveFile?_eq_some_iff]
      exact hfile
  refine ⟨hsome, ?_, fun _ _ => SearchBase.unique, fun hbare hcolon => ?_, fun hbare hnames => ?_,
    fun package rest hnames habsent => ?_⟩
  · constructor
    · intro h base hbase
      rw [resolveModule?_of_base hbase] at h
      simpa [resolveFile?] using h
    · intro h
      rw [Option.eq_none_iff_forall_ne_some]
      intro file hfile
      obtain ⟨base, hbase, hfirst⟩ := (hsome file).mp hfile
      obtain ⟨hitself, hscript, hindex⟩ := h base hbase
      cases hfirst <;> simp_all
  · refine resolveModule?_of_no_base fun base hbase => ?_
    cases hbase with
    | path _ hno => exact hno hcolon
    | inside hnames => exact hnames.not_path hbare
    | main hnames => exact hnames.not_path hbare
  · refine resolveModule?_of_no_base fun base hbase => ?_
    cases hbase with
    | path hpath => exact absurd (hbare.symm.trans hpath) (by decide)
    | inside hnames' => exact hnames _ _ hnames'
    | main hnames' => exact hnames _ _ hnames'
  · refine resolveModule?_of_no_base fun base hbase => ?_
    cases hbase with
    | path hpath => exact hnames.not_path hpath
    | inside hnames' hdir =>
      obtain ⟨rfl, -⟩ := hnames.unique hnames'
      exact habsent _ hdir.ancestor hdir.holds
    | main hnames' hdir =>
      obtain ⟨rfl, -⟩ := hnames.unique hnames'
      exact habsent _ hdir.ancestor hdir.holds

/-- Two copies of a package, the nearer one with a `main`, and a module of its own. -/
def installedProject : Files where
  root := .folder [
    ("node_modules", .folder [("react", .folder [("package.json", .file "\x7b\x7d")])]),
    ("app", .folder [
      ("node_modules", .folder [("react", .folder [
        ("package.json", .file "\x7b\"main\":\"lib/react\"\x7d"),
        ("lib", .folder [("react.js", .file "")]),
        ("jsx", .folder [("index.js", .file "")])])]),
      ("src", .folder [("a.js", .file "")])])]
  here := "/"

theorem module_search_react :
    installedProject.resolveModule? "/app/src" "react" =
      some "/app/node_modules/react/lib/react.js" ∧
    installedProject.resolveModule? "/app/src" "react//jsx" =
      some "/app/node_modules/react/jsx/index.js" ∧
    installedProject.resolveModule? "/app/src" "./a" = some "/app/src/./a.js" ∧
    (∀ base, installedProject.SearchBase "/app/src" "./a" base → base = "/app/src/./a") ∧
    installedProject.resolveModule? "/app/src" "./a:b" = none ∧
    installedProject.resolveModule? "/app/src" "@scope" = none ∧
    installedProject.resolveModule? "/app/src" "vue" = none := by
  have hdir : Nearest (fun d => installedProject.HasManifest (installed "react" d))
      "/app/src" "/app" :=
    (Path.find?_ancestors fun d =>
      installedProject.isFile (join (installed "react" d) manifestName)).mp (by decide +kernel)
  have hmain : (Manifest.load installedProject
      (join (installed "react" "/app") manifestName)).toOption.bind Manifest.main =
        some "lib/react" := by decide +kernel
  obtain ⟨m, hload, hentry⟩ := Option.bind_eq_some_iff.mp hmain
  have hreact : Names "react" "react" [] := ⟨by decide, by decide, by decide, .inl rfl⟩
  have hjsx : Names "react//jsx" "react" "//jsx".toList :=
    ⟨by decide, by decide, by decide, .inr (by decide)⟩
  have hslashes : "//jsx".toList = ['/', '/'] ++ "jsx".toList := by decide
  have hvue : Names "vue" "vue" [] := ⟨by decide, by decide, by decide, .inl rfl⟩
  have hnameless : Specifier.packageName? "@scope" = none := by decide
  have habsent : ∀ dir ∈ ancestors "/app/src",
      installedProject.isFile (join (installed "vue" dir) manifestName) ≠ true := by
    decide +kernel
  have hmainBase : installedProject.SearchBase "/app/src" "react"
      (join (installed "react" "/app") "lib/react") :=
    .main hreact hdir (by simp) (.declared (toOption_eq_some_iff.mp hload) hentry)
  have hinsideBase : installedProject.SearchBase "/app/src" "react//jsx"
      (join (installed "react" "/app") "jsx") :=
    .inside hjsx hdir hslashes (by simp) (by decide) (by decide)
  have hpathBase : installedProject.SearchBase "/app/src" "./a" (join "/app/src" "./a") :=
    .path (by decide) (by decide)
  have hmainFile : installedProject.FirstFile (join (installed "react" "/app") "lib/react")
      (join (installed "react" "/app") "lib/react" ++ ".js") :=
    .script (by decide +kernel) (by decide +kernel)
  have hinsideFile : installedProject.FirstFile (join (installed "react" "/app") "jsx")
      (join (join (installed "react" "/app") "jsx") "index.js") :=
    .index (by decide +kernel) (by decide +kernel) (by decide +kernel)
  have hpathFile : installedProject.FirstFile (join "/app/src" "./a")
      (join "/app/src" "./a" ++ ".js") :=
    .script (by decide +kernel) (by decide +kernel)
  obtain ⟨hmainFound, -⟩ := module_search installedProject "/app/src" "react"
  obtain ⟨hinsideFound, -⟩ := module_search installedProject "/app/src" "react//jsx"
  obtain ⟨hpathFound, -, hunique, -⟩ := module_search installedProject "/app/src" "./a"
  obtain ⟨-, -, -, hcolon, -⟩ := module_search installedProject "/app/src" "./a:b"
  obtain ⟨-, -, -, -, hunnamed, -⟩ := module_search installedProject "/app/src" "@scope"
  obtain ⟨-, -, -, -, -, hnowhere⟩ := module_search installedProject "/app/src" "vue"
  refine ⟨(hmainFound _).mpr ⟨_, hmainBase, ?_⟩, (hinsideFound _).mpr ⟨_, hinsideBase, ?_⟩,
    (hpathFound _).mpr ⟨_, hpathBase, ?_⟩, fun base hbase => ?_, hcolon (by decide) (by decide),
    hunnamed (by decide) fun package rest h => ?_, hnowhere _ _ hvue habsent⟩
  · rwa [show join (installed "react" "/app") "lib/react" ++ ".js" =
      "/app/node_modules/react/lib/react.js" by decide +kernel] at hmainFile
  · rwa [show join (join (installed "react" "/app") "jsx") "index.js" =
      "/app/node_modules/react/jsx/index.js" by decide +kernel] at hinsideFile
  · rwa [show join "/app/src" "./a" ++ ".js" = "/app/src/./a.js" by decide +kernel] at hpathFile
  · rw [hunique _ _ hbase hpathBase]
    decide
  · exact absurd (hnameless.symm.trans (Specifier.packageName?_of_names h)).symm
      (Option.some_ne_none _)

end Files

end ModuleSharing
