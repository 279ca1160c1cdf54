import ModuleSharing.Proofs.Share.NearestManifest

/-! Which manifest decides what is required of a package: the nearest one, and in it the first list
that mentions the package (`Files.inferRequired_determined`).  Nothing that stands above or after
that can change the answer. -/

namespace ModuleSharing

open ModuleSharing.Path (join ancestors components Nearest)

/-! ## Declared ranges -/

namespace Manifest

/-- The first of the lists that mentions a package declares a range for it. -/
def Declares (m : Manifest) (package text : String) : Prop :=
  ∃ earlier list later,
    [m.dependencies, m.peerDependencies, m.optionalDependencies, m.devDependencies] =
      earlier ++ list :: later ∧
    (∀ other ∈ earlier, other.get? package = none) ∧ list.get? package = some text

theorem declared?_eq_some_iff {m : Manifest} {package text : String} :
    m.declared? package = some text ↔ m.Declares package text := by
  rw [declared?, List.findSome?_eq_some_iff]
  simp only [Declares, sections, and_comm]

/-- Two manifests have the same lists up to the first that mentions a package. -/
def SameUpTo (package : String) (m m' : Manifest) : Prop :=
  ∃ earlier list later later',
    [m.dependencies, m.peerDependencies, m.optionalDependencies, m.devDependencies] =
      earlier ++ list :: later ∧
    [m'.dependencies, m'.peerDependencies, m'.optionalDependencies, m'.devDependencies] =
      earlier ++ list :: later' ∧
    list.contains package = true

theorem SameUpTo.declared? {package : String} {m m' : Manifest} (h : SameUpTo package m m') :
    m'.declared? package = m.declared? package := by
  obtain ⟨earlier, list, later, later', hm, hm', hmentions⟩ := h
  obtain ⟨text, htext⟩ := Option.isSome_iff_exists.mp hmentions
  have hfirst (later : List Dependencies) :
      (list :: later).findSome? (·.get? package) = some text := by
    rw [List.findSome?_cons, htext]
  rw [Manifest.declared?, Manifest.declared?, sections, sections, hm, hm', List.findSome?_append,
    List.findSome?_append, hfirst, hfirst]

end Manifest

namespace Files

variable {files : Files} {context dir package : String}

/-- What is required where a text is declared or none is. -/
def requiredOf : Option String → RequiredVersion
  | none => .disabled
  | some declared =>
    match VersionRange.parse declared with
    | .ok range => .value range
    | .error _ => .disabled

theorem requiredOf_eq_value_iff {declared : Option String} {r : VersionRange} :
    requiredOf declared = .value r ↔
      ∃ text, declared = some text ∧ VersionRange.parse text = .ok r := by
  cases declared with
  | none => simp [requiredOf]
  | some text => cases h : VersionRange.parse text <;> simp [requiredOf, h]

theorem requiredOf_eq_disabled {declared : Option String}
    (h : ∀ r, requiredOf declared ≠ .value r) : requiredOf declared = .disabled := by
  cases hrequired : requiredOf declared with
  | disabled => rfl
  | value r => exact absurd hrequired (h r)
  | unset =>
    unfold requiredOf at hrequired
    split at hrequired
    · contradiction
    · split at hrequired <;> contradiction

theorem inferRequired_eq (files : Files) (context package : String) :
    files.inferRequired context package =
      requiredOf ((Manifest.nearest? files context).bind (·.2.declared? package)) := by
  delta inferRequired
  cases Manifest.nearest? files context with
  | none => rfl
  | some found =>
    obtain ⟨path, m⟩ := found
    simp only [Option.bind_some]
    cases m.declared? package with
    | none => rfl
    | some text => cases h : VersionRange.parse text <;> simp only [requiredOf, h]

theorem inferRequired_of_nearest (h : Nearest files.HasManifest context dir) (package : String) :
    files.inferRequired context package =
      requiredOf ((Manifest.load files (join dir manifestName)).toOption.bind
        (·.declared? package)) := by
  rw [inferRequired_eq, nearest?_of_nearest h, Option.bind_map]
  rfl

theorem inferRequired_of_none (h : ¬∃ dir, Nearest files.HasManifest context dir)
    (package : String) : files.inferRequired context package = .disabled := by
  rw [inferRequired_eq, nearest?_eq_none h]
  rfl

/-! ## Changes above -/

variable {places : List String → Prop} {g : Files}

theorem ChangedAt.hasManifest_iff (h : ChangedAt places files g)
    (hdir : ∀ q, files.place? (join dir manifestName) = some q → ¬ places q) :
    g.HasManifest dir ↔ files.HasManifest dir := by
  rw [HasManifest, HasManifest, isFile_iff, isFile_iff]
  exact exists_congr fun content => h.get?_iff hdir

theorem ChangedAt.load_toOption (h : ChangedAt places files g)
    (hdir : ∀ q, files.place? (join dir manifestName) = some q → ¬ places q) :
    (Manifest.load g (join dir manifestName)).toOption =
      (Manifest.load files (join dir manifestName)).toOption := by
  ext m
  simp only [toOption_eq_some_iff, Manifest.load_eq_ok_iff, h.get?_iff hdir]

/-- Changes of manifests that are not below a folder leave it the nearest one with a manifest. -/
theorem ChangedAt.nearest (h : ChangedAt places files g)
    (hnearest : Nearest files.HasManifest context dir) (hdir : g.HasManifest dir)
    (hbelow : ∀ other ∈ ancestors context, components dir <+: components other → other ≠ dir →
      ∀ q, files.place? (join other manifestName) = some q → ¬ places q) :
    Nearest g.HasManifest context dir where
  ancestor := hnearest.ancestor
  holds := hdir
  deepest other hother hmanifest := by
    have hbegins := Path.components_prefix_of_mem_ancestors hother
    rcases List.prefix_or_prefix_of_prefix hbegins
      (Path.components_prefix_of_mem_ancestors hnearest.ancestor) with habove | hdeeper
    · exact habove
    · by_cases heq : other = dir
      · rw [heq]
      · exact hnearest.deepest other hother
          ((h.hasManifest_iff (hbelow other hother hdeeper heq)).mp hmanifest)

/-! ## What is required -/

/-- A range is required exactly if the nearest manifest can be read and its first list that mentions
the package declares a text that is one; otherwise no version is required.  Files that change change
nothing as long as neither the nearest manifest is among them nor one below it; and the nearest
manifest itself may change in the lists after the first that mentions the package. -/
theorem inferRequired_determined (files : Files) (context package : String) :
    (∀ r, files.inferRequired context package = .value r ↔
      ∃ dir m text, Nearest files.HasManifest context dir ∧
        Manifest.load files (join dir manifestName) = .ok m ∧ m.Declares package text ∧
        VersionRange.parse text = .ok r) ∧
    ((∀ r, files.inferRequired context package ≠ .value r) →
      files.inferRequired context package = .disabled) ∧
    (∀ dir places g, Nearest files.HasManifest context dir → ChangedAt places files g →
      (∀ other ∈ ancestors context, components dir <+: components other →
        ∀ q, files.place? (join other manifestName) = some q → ¬ places q) →
      g.inferRequired context package = files.inferRequired context package) ∧
    (∀ dir places g m m', Nearest files.HasManifest context dir → ChangedAt places files g →
      (∀ other ∈ ancestors context, components dir <+: components other → other ≠ dir →
        ∀ q, files.place? (join other manifestName) = some q → ¬ places q) →
      Manifest.load files (join dir manifestName) = .ok m →
      Manifest.load g (join dir manifestName) = .ok m' → m.SameUpTo package m' →
      g.inferRequired context package = files.inferRequired context package) := by
  refine ⟨fun r => ?_, fun hno => ?_, ?_, ?_⟩
  · constructor
    · intro hvalue
      by_cases hnearest : ∃ dir, Nearest files.HasManifest context dir
      · obtain ⟨dir, hnearest⟩ := hnearest
        rw [inferRequired_of_nearest hnearest, requiredOf_eq_value_iff] at hvalue
        obtain ⟨text, htext, hparse⟩ := hvalue
        obtain ⟨m, hm, htext⟩ := Option.bind_eq_some_iff.mp htext
        exact ⟨dir, m, text, hnearest, toOption_eq_some_iff.mp hm,
          Manifest.declared?_eq_some_iff.mp htext, hparse⟩
      · rw [inferRequired_of_none hnearest] at hvalue
        contradiction
    · rintro ⟨dir, m, text, hnearest, hm, htext, hparse⟩
      rw [inferRequired_of_nearest hnearest, requiredOf_eq_value_iff, hm]
      exact ⟨text, Manifest.declared?_eq_some_iff.mpr htext, hparse⟩
  · by_cases hnearest : ∃ dir, Nearest files.HasManifest context dir
    · obtain ⟨dir, hnearest⟩ := hnearest
      rw [inferRequired_of_nearest hnearest] at hno ⊢
      exact requiredOf_eq_disabled hno
    · exact inferRequired_of_none hnearest package
  · intro dir places g hnearest hchanged hbelow
    have hsame := hbelow dir hnearest.ancestor List.prefix_rfl
    have hnearest' := hchanged.nearest hnearest
      ((hchanged.hasManifest_iff hsame).mpr hnearest.holds)
      fun other hother hdeeper _ => hbelow other hother hdeeper
    rw [inferRequired_of_nearest hnearest, inferRequired_of_nearest hnearest',
      hchanged.load_toOption hsame]
  · intro dir places g m m' hnearest hchanged hbelow hm hm' hlists
    have hnearest' := hchanged.nearest hnearest (hasManifest_of_load hm') hbelow
    rw [inferRequired_of_nearest hnearest, inferRequired_of_nearest hnearest', hm, hm']
    exact congrArg requiredOf hlists.declared?

/-- An application with a manifest, in a folder that has one as well. -/
def nestedProject (outer inner : String) : Files where
  root := .folder [("package.json", .file outer),
    ("app", .folder [("package.json", .file inner), ("src", .folder [])])]
  here := "/"

def outerManifest : String :=
  "\x7b\"dependencies\":\x7b\"react\":\"^16\",\"vue\":\"^3\"\x7d\x7d"

def innerManifest : String :=
  "\x7b\"peerDependencies\":\x7b\"react\":\"^18\"\x7d\x7d"

/-- The inner manifest with a range for development that comes too late. -/
def laterManifest : String :=
  "\x7b\"peerDependencies\":\x7b\"react\":\"^18\"\x7d," ++
    "\"devDependencies\":\x7b\"react\":\"^17\"\x7d\x7d"

theorem changedAt_outer (outer inner outer' : String) :
    ChangedAt (· = [manifestName]) (nestedProject outer inner) (nestedProject outer' inner) := by
  have hput : FileTree.put (.file outer') ([] ++ [manifestName]) (nestedProject outer inner).root =
      some (nestedProject outer' inner).root := by
    simp [FileTree.put, FileTree.setChild, nestedProject, manifestName]
  exact changedAt_put (f := nestedProject outer inner) rfl rfl hput

theorem changedAt_inner (outer inner inner' : String) :
    ChangedAt (· = ["app", manifestName]) (nestedProject outer inner)
      (nestedProject outer inner') := by
  have hput : FileTree.put (.file inner') (["app"] ++ [manifestName])
      (nestedProject outer inner).root = some (nestedProject outer inner').root := by
    simp [FileTree.put, FileTree.setChild, nestedProject, manifestName, List.lookup_cons]
  exact changedAt_put (f := nestedProject outer inner) rfl rfl hput

theorem inferRequired_determined_nested :
    (∃ r, VersionRange.parse "^18" = .ok r ∧
      (nestedProject outerManifest innerManifest).inferRequired "/app/src" "react" = .value r) ∧
    (nestedProject outerManifest innerManifest).inferRequired "/app/src" "vue" = .disabled ∧
    (nestedProject "" innerManifest).inferRequired "/app/src" "react" =
      (nestedProject outerManifest innerManifest).inferRequired "/app/src" "react" ∧
    (nestedProject outerManifest laterManifest).inferRequired "/app/src" "react" =
      (nestedProject outerManifest innerManifest).inferRequired "/app/src" "react" := by
  have hnearest : Nearest (nestedProject outerManifest innerManifest).HasManifest
      "/app/src" "/app" :=
    (Path.find?_ancestors fun dir =>
      (nestedProject outerManifest innerManifest).isFile (join dir manifestName)).mp
        (by decide +kernel)
  have hread : (Manifest.load (nestedProject outerManifest innerManifest)
      (join "/app" manifestName)).toOption.map (fun m =>
        (m.declared? "react", m.peerDependencies.contains "react")) = some (some "^18", true) := by
    decide +kernel
  have hsame : (Manifest.load (nestedProject outerManifest laterManifest)
      (join "/app" manifestName)).toOption.map (fun m => (m.dependencies, m.peerDependencies)) =
        (Manifest.load (nestedProject outerManifest innerManifest)
          (join "/app" manifestName)).toOption.map
            fun m => (m.dependencies, m.peerDependencies) := by decide +kernel
  have hnone : ((nestedProject outerManifest innerManifest).inferRequired
      "/app/src" "vue").value? = none := by decide +kernel
  have habove : ∀ other ∈ ancestors "/app/src", components "/app" <+: components other →
      (nestedProject outerManifest innerManifest).place? (join other manifestName) ≠
        some [manifestName] := by decide +kernel
  have hbelow : ∀ other ∈ ancestors "/app/src", components "/app" <+: components other →
      other ≠ "/app" →
      (nestedProject outerManifest innerManifest).place? (join other manifestName) ≠
        some ["app", manifestName] := by decide +kernel
  obtain ⟨m, hm, hdeclared⟩ := Option.map_eq_some_iff.mp hread
  obtain ⟨htext, hmentions⟩ := Prod.mk.inj hdeclared
  obtain ⟨m', hm', hlists⟩ := Option.map_eq_some_iff.mp (hsame.trans (congrArg _ hm))
  obtain ⟨hdependencies, hpeers⟩ := Prod.mk.inj hlists
  obtain ⟨hvalue, -, hchange, hlater⟩ := inferRequired_determined
    (nestedProject outerManifest innerManifest) "/app/src" "react"
  obtain ⟨-, hdisabled, -, -⟩ := inferRequired_determined
    (nestedProject outerManifest innerManifest) "/app/src" "vue"
  refine ⟨?_, ?_, ?_, ?_⟩
  · obtain ⟨r, hr⟩ : ∃ r, VersionRange.parse "^18" = .ok r := ⟨_, rfl⟩
    exact ⟨r, hr, (hvalue r).mpr ⟨"/app", m, "^18", hnearest, toOption_eq_some_iff.mp hm,
      Manifest.declared?_eq_some_iff.mp htext, hr⟩⟩
  · exact hdisabled fun r hr =>
      absurd ((congrArg Setting.value? hr).symm.trans hnone) (Option.some_ne_none r)
  · exact hchange "/app" _ _ hnearest (changedAt_outer outerManifest innerManifest "")
      fun other hother hdeeper q hq hplace => habove other hother hdeeper (hplace ▸ hq)
  · refine hlater "/app" _ _ m m' hnearest
      (changedAt_inner outerManifest innerManifest laterManifest) ?_
      (toOption_eq_some_iff.mp hm) (toOption_eq_some_iff.mp hm') ?_
    · exact fun other hother hdeeper hne q hq hplace =>
        hbelow other hother hdeeper hne (hplace ▸ hq)
    · exact ⟨[m.dependencies], m.peerDependencies, _, _, rfl, by rw [hdependencies, hpeers]; rfl,
        hmentions⟩

end Files

end ModuleSharing
