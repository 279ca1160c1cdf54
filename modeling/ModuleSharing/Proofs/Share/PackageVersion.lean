import ModuleSharing.Proofs.Share.ModuleSearch

/-! The version of a resolved module.  The file was found going down from the folder of its package,
and its version is looked up going up from the file.  The way up comes to the folder of the package,
so the manifest that is found is the one of the package or of a folder inside it
(`Files.version_of_resolved_module`). -/

namespace ModuleSharing

open ModuleSharing.Path (join ancestors components Nearest)

namespace Files

variable {files : Files} {context request folder file : String}

/-! ## The way down -/

theorem FirstFile.isFile {base : String} (h : files.FirstFile base file) :
    files.isFile file = true := by
  cases h <;> assumption

theorem FirstFile.isAbsolute {base : String} (h : files.FirstFile base file)
    (hbase : Path.isAbsolute base = true) : Path.isAbsolute file = true := by
  cases h with
  | itself => exact hbase
  | script => rw [Path.isAbsolute_append (Path.ne_empty_of_isAbsolute hbase), hbase]
  | index => exact Path.isAbsolute_join hbase _

/-- What a base inside a folder can mean is inside the folder, too. -/
theorem FirstFile.exists_join {inside : String} (h : files.FirstFile (join folder inside) file)
    (hinside : Path.isAbsolute inside = false) :
    ∃ below, Path.isAbsolute below = false ∧ file = join folder below := by
  cases h with
  | itself => exact ⟨inside, hinside, rfl⟩
  | script =>
    have hscript := Path.isAbsolute_append_of_relative hinside (q := ".js") (by decide)
    refine ⟨inside ++ ".js", hscript, ?_⟩
    rw [Path.join_of_relative hinside, Path.join_of_relative hscript, String.append_assoc]
  | index =>
    refine ⟨join inside "index.js", Path.isAbsolute_join_of_relative hinside (by decide), ?_⟩
    rw [Path.join_join]

/-- A file of a package stands inside its folder by its path, unless its path is absolute. -/
theorem exists_join_of_resolved {package : String}
    (hpackage : Specifier.packageName? request = some package)
    (hfolder : files.packageFolder? context package = some folder)
    (hfile : files.resolveModule? context request = some file) :
    files.isFile file = true ∧ files.HasManifest folder ∧
      (Path.isAbsolute file = true ∨
        ∃ below, Path.isAbsolute below = false ∧ file = join folder below) := by
  obtain ⟨rest, hnames⟩ := Specifier.names_of_packageName? hpackage
  obtain ⟨dir, hdir, rfl⟩ := packageFolder?_eq_some_iff.mp hfolder
  obtain ⟨base, hbase⟩ := exists_base hfile
  rw [resolveModule?_of_base hbase, resolveFile?_eq_some_iff] at hfile
  refine ⟨hfile.isFile, hdir.holds, ?_⟩
  obtain ⟨inside, rfl⟩ : ∃ inside, base = join (installed package dir) inside :=
    ⟨_, hbase.eq_wanted hnames hdir⟩
  cases habsolute : Path.isAbsolute inside with
  | true =>
    rw [Path.join_of_absolute habsolute] at hfile
    exact .inl (hfile.isAbsolute habsolute)
  | false => exact .inr (hfile.exists_join habsolute)

/-! ## The way up -/

/-- The version of a file is read from the nearest manifest. -/
theorem versionOfModule?_of_nearest {dir : String} (hfile : files.isFile file = true)
    (h : Nearest files.HasManifest file dir) :
    files.versionOfModule? file =
      (Manifest.load files (join dir manifestName)).toOption.bind Manifest.version? := by
  have hfolder : files.isFolder file = false := by
    obtain ⟨content, hcontent⟩ := files.isFile_iff.mp hfile
    rw [isFolder, hcontent]
    rfl
  have hnone := files.isFile_join_of_isFile Manifest.plain_manifestName hfile
  obtain ⟨up, hup, hnearest⟩ :=
    Nearest.of_parent (q := fun d => files.isFile (join d manifestName)) h hnone
  rw [versionOfModule?, hfolder, hup]
  change (Manifest.nearest? files up).bind _ = _
  rw [nearest?_of_nearest hnearest, Option.bind_map]
  rfl

theorem hasManifest_iff {dir : String} : files.HasManifest dir ↔ ∃ q content,
    files.place? dir = some q ∧ files.root.at? (q ++ [manifestName]) = some (.file content) := by
  rw [HasManifest, isFile_iff, exists_comm]
  simp only [get?_join _ Manifest.plain_manifestName]

theorem load_toOption_congr {dir dir' : String} (h : files.place? dir = files.place? dir') :
    (Manifest.load files (join dir manifestName)).toOption =
      (Manifest.load files (join dir' manifestName)).toOption := by
  ext m
  simp only [toOption_eq_some_iff, Manifest.load_eq_ok_iff,
    files.get?_join_congr Manifest.plain_manifestName h]

/-- The beginning that all relative paths share is walked before the last visit to a folder. -/
theorem prefix_of_start {d : List String} {xs ys : List (List Char)}
    (hd : files.place? folder = some d)
    (hpath : Path.isAbsolute file = true ∨
      ∃ below, Path.isAbsolute below = false ∧ file = join folder below)
    (hsplit : files.segments file = xs ++ ys)
    (hys : ∀ zs, zs <+: ys → zs ≠ [] →
      ∃ n, files.root.walk [] (xs ++ zs) = some n ∧ FileTree.Below d.reverse n) :
    (if Path.isAbsolute file then [] else Path.steps files.here) <+: xs := by
  cases hfile : Path.isAbsolute file with
  | true => exact List.nil_prefix
  | false =>
    rw [hfile] at hpath
    obtain ⟨below, hbelow, rfl⟩ := hpath.resolve_left Bool.false_ne_true
    have hfolder : Path.isAbsolute folder = false := by
      by_contra habsolute
      rw [Path.isAbsolute_join (Bool.not_eq_false _ ▸ habsolute)] at hfile
      exact absurd hfile (by decide)
    have hstart : Path.steps files.here <+: files.segments folder := by
      rw [files.segments_eq, hfolder]
      exact List.prefix_append ..
    rw [files.segments_join hbelow] at hsplit
    have hxs : files.segments folder <+: xs ++ ys := hsplit ▸ List.prefix_append ..
    rcases List.prefix_or_prefix_of_prefix hxs (List.prefix_append xs ys) with hle | ⟨zs, hzs⟩
    · exact hstart.trans hle
    · rw [← hzs] at hstart hsplit
      rw [List.append_assoc] at hsplit
      by_cases hnil : zs = []
      · rw [hnil, List.append_nil] at hstart
        exact hstart
      · -- the folder would be visited again after the last visit
        obtain ⟨n, hn, hinside⟩ := hys zs ⟨_, List.append_cancel_left hsplit⟩ hnil
        rw [hzs, files.walk_segments hd, Option.some_inj] at hn
        exact absurd hn.symm hinside.2

/-- The path of a file below a folder has an ancestor that leads to the folder, and the ancestors
that come after it on the path lead to places inside. -/
theorem exists_ancestor_at {d p : List String} (hd : files.place? folder = some d)
    (hp : files.place? file = some p) (hinside : d <+: p) (hne : p ≠ d)
    (hpath : Path.isAbsolute file = true ∨
      ∃ below, Path.isAbsolute below = false ∧ file = join folder below) :
    ∃ a ∈ ancestors file, files.root.walk [] (files.segments a) = some d.reverse ∧
      ∀ dir ∈ ancestors file, components a <+: components dir →
        ∃ names, files.root.walk [] (files.segments dir) = some names ∧ d.reverse <:+ names := by
  have hbelow : FileTree.Below d.reverse p.reverse :=
    ⟨List.reverse_suffix.mpr hinside, fun h => hne (List.reverse_injective h)⟩
  obtain ⟨xs, ys, hsplit, hxs, hys⟩ := FileTree.exists_last_visit (files.walk_segments hp) hbelow
    (FileTree.not_below_nil _)
  obtain ⟨zs, rfl⟩ := prefix_of_start hd hpath hsplit hys
  have hsegments {dir : String} (hdir : dir ∈ ancestors file) : files.segments dir =
      (if Path.isAbsolute file then [] else Path.steps files.here) ++ Path.steps dir := by
    rw [files.segments_eq, Path.isAbsolute_of_mem_ancestors hdir]
  have hsteps : Path.steps file = zs ++ ys := by
    rw [files.segments_eq, List.append_assoc] at hsplit
    exact List.append_cancel_left hsplit
  obtain ⟨a, ha, hazs⟩ := Path.exists_ancestor (hsteps ▸ List.prefix_append zs ys)
  refine ⟨a, ha, by rw [hsegments ha, hazs, hxs], fun dir hdir hbegins => ?_⟩
  obtain ⟨ts, hts⟩ := Path.prefix_of_steps hbegins
  have hafter : ts <+: ys := by
    have hle := Path.prefix_of_steps (Path.components_prefix_of_mem_ancestors hdir)
    rw [← hts, hazs, hsteps] at hle
    exact (List.prefix_append_right_inj zs).mp hle
  rw [hsegments hdir, ← hts, hazs, ← List.append_assoc]
  by_cases hnil : ts = []
  · rw [hnil, List.append_nil]
    exact ⟨_, hxs, List.suffix_rfl⟩
  · obtain ⟨names, hnames, hsuffix, -⟩ := hys ts hafter hnil
    exact ⟨names, hnames, hsuffix⟩

/-! ## The version of a resolved module -/

/-- The version of a module is read from the nearest manifest above it, which stands in the folder
of its package or inside it.  If it is the one of the package, the version is the package's own, or
none if that manifest has none; if it is one of a folder inside it that holds the module and has a
version, it is that version. -/
theorem version_of_resolved_module {package : String} {d p : List String}
    (hpackage : Specifier.packageName? request = some package)
    (hfolder : files.packageFolder? context package = some folder)
    (hfile : files.resolveModule? context request = some file)
    (hd : files.place? folder = some d) (hp : files.place? file = some p) (hinside : d <+: p) :
    ∃ dir q, Nearest files.HasManifest file dir ∧ files.place? dir = some q ∧ d <+: q ∧
      (q = d → files.versionOfModule? file =
        (Manifest.load files (join folder manifestName)).toOption.bind Manifest.version?) ∧
      (∀ m v, Manifest.load files (join dir manifestName) = .ok m → m.version? = some v →
        q <+: p → files.versionOfModule? file = some v) := by
  obtain ⟨hisFile, hmanifest, hpath⟩ := exists_join_of_resolved hpackage hfolder hfile
  obtain ⟨d', content, hd', hcontent⟩ := hasManifest_iff.mp hmanifest
  obtain rfl : d' = d := Option.some.inj (hd'.symm.trans hd)
  have hdir := FileTree.any_isFolder_of_at?_concat hcontent
  have hne : p ≠ d' := by
    rintro rfl
    rw [files.any_isFolder_of_isFile hisFile hp] at hdir
    exact absurd hdir (by decide)
  obtain ⟨a, ha, hwalk, hafter⟩ := exists_ancestor_at hd hp hinside hne hpath
  have hmanifest : files.HasManifest a :=
    hasManifest_iff.mpr ⟨d', content, (files.place?_folder hdir).mpr hwalk, hcontent⟩
  obtain ⟨dir, hnearest⟩ : ∃ dir, Nearest files.HasManifest file dir :=
    Path.exists_nearest (q := fun d => files.isFile (join d manifestName)) ha hmanifest
  obtain ⟨q, _, hq, -⟩ := hasManifest_iff.mp hnearest.holds
  have hversion := versionOfModule?_of_nearest hisFile hnearest
  refine ⟨dir, q, hnearest, hq, ?_, ?_, ?_⟩
  · obtain ⟨names, hnames, hsuffix⟩ :=
      hafter dir hnearest.ancestor (hnearest.deepest a ha hmanifest)
    rw [files.walk_segments hq, Option.some_inj] at hnames
    exact List.reverse_suffix.mp (hnames ▸ hsuffix)
  · rintro rfl
    rw [hversion, load_toOption_congr (hq.trans hd.symm)]
  · intro m v hm hv _
    rw [hversion, hm]
    exact hv

/-- A package that brings another one along in its own folder. -/
def nestingPackage : Files where
  root := .folder [("node_modules", .folder [("ui", .folder [
    ("package.json", .file "\x7b\"version\":\"18.2.0\"\x7d"),
    ("server.js", .file ""),
    ("node_modules", .folder [("dom", .folder [
      ("package.json", .file "\x7b\"version\":\"0.23.0\"\x7d"),
      ("index.js", .file "")])])])])]
  here := "/"

/-- A module of the outer package and one of the inner package. -/
theorem version_of_resolved_module_nesting :
    nestingPackage.versionOfModule? "node_modules/ui/server.js" =
      (Manifest.load nestingPackage (join "node_modules/ui" manifestName)).toOption.bind
        Manifest.version? ∧
    nestingPackage.versionOfModule? "node_modules/ui/node_modules/dom/index.js" =
      some ⟨0, 23, 0, [], []⟩ := by
  have hfolder : nestingPackage.packageFolder? "" "ui" = some "node_modules/ui" := by
    decide +kernel
  have hplace : nestingPackage.place? "node_modules/ui" = some ["node_modules", "ui"] := by
    decide +kernel
  have hinner : nestingPackage.place? "node_modules/ui/node_modules/dom" =
      some ["node_modules", "ui", "node_modules", "dom"] := by decide +kernel
  have hserver : Nearest nestingPackage.HasManifest "node_modules/ui/server.js"
      "node_modules/ui" :=
    (Path.find?_ancestors fun d => nestingPackage.isFile (join d manifestName)).mp
      (by decide +kernel)
  have hindex : Nearest nestingPackage.HasManifest "node_modules/ui/node_modules/dom/index.js"
      "node_modules/ui/node_modules/dom" :=
    (Path.find?_ancestors fun d => nestingPackage.isFile (join d manifestName)).mp
      (by decide +kernel)
  have hversion : (Manifest.load nestingPackage
      (join "node_modules/ui/node_modules/dom" manifestName)).toOption.bind Manifest.version? =
        some ⟨0, 23, 0, [], []⟩ := by decide +kernel
  obtain ⟨m, hm, hv⟩ := Option.bind_eq_some_iff.mp hversion
  constructor
  · obtain ⟨dir, q, hnearest, hq, -, hown, -⟩ :=
      @version_of_resolved_module nestingPackage "" "ui/server" "node_modules/ui"
        "node_modules/ui/server.js" "ui" ["node_modules", "ui"]
        ["node_modules", "ui", "server.js"] (by decide) hfolder (by decide +kernel) hplace
        (by decide +kernel) (by decide)
    rw [hnearest.unique hserver] at hq
    exact hown (Option.some.inj (hq.symm.trans hplace))
  · obtain ⟨dir, q, hnearest, hq, -, -, hnested⟩ :=
      @version_of_resolved_module nestingPackage "" "ui/node_modules/dom" "node_modules/ui"
        "node_modules/ui/node_modules/dom/index.js" "ui" ["node_modules", "ui"]
        ["node_modules", "ui", "node_modules", "dom", "index.js"] (by decide) hfolder
        (by decide +kernel) hplace (by decide +kernel) (by decide)
    rw [hnearest.unique hindex] at hq hnested
    have hplaces := Option.some.inj (hq.symm.trans hinner)
    exact hnested m _ (toOption_eq_some_iff.mp hm) hv (by rw [hplaces]; decide)

/-- A module of the inner package has the version of that package. -/
theorem nested_module_version :
    Specifier.packageName? "ui/node_modules/dom" = some "ui" ∧
    nestingPackage.packageFolder? "" "ui" = some "node_modules/ui" ∧
    nestingPackage.resolveModule? "" "ui/node_modules/dom" =
      some "node_modules/ui/node_modules/dom/index.js" ∧
    nestingPackage.place? "node_modules/ui" = some ["node_modules", "ui"] ∧
    nestingPackage.place? "node_modules/ui/node_modules/dom/index.js" =
      some ["node_modules", "ui", "node_modules", "dom", "index.js"] ∧
    (Manifest.load nestingPackage "node_modules/ui/package.json").toOption.bind
      Manifest.version? = some ⟨18, 2, 0, [], []⟩ ∧
    nestingPackage.versionOfModule? "node_modules/ui/node_modules/dom/index.js" =
      some ⟨0, 23, 0, [], []⟩ := by
  decide +kernel

end Files

end ModuleSharing
