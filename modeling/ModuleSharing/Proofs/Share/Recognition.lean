import ModuleSharing.Proofs.Range.Opening
import ModuleSharing.Proofs.Share.Section

/-! What a map entry with a text is taken for.  A text that has the look of a range is the version
that is required of the key, any other text is the module to import (`Normalizer.requires_of_look`,
`Normalizer.imports_of_no_look`).  `Normalizer.texts_recognised` says for which ranges and for
which other texts the look is misleading. -/

namespace ModuleSharing

open Json

namespace Normalizer

variable (n : Normalizer) {key s : String}

/-- A section with one entry from a key to a text. -/
def entry (key s : String) : Json := .object [(key, .string s)]

/-- Both sections take the text for the module to import, and nothing is required of it that the
manifests do not declare. -/
structure Imports (key s : String) : Prop where
  consumes : ∃ c, n.consumes (entry key s) = .ok [c] ∧ c.request = key ∧
    c.fallbackRequest = some s ∧ c.requiredVersion = n.inferred (Specifier.packageName? s)
  shared : ∃ c p, n.shared (entry key s) = .ok [c, p] ∧ c.request = key ∧
    c.fallbackRequest = some s ∧ c.requiredVersion = n.inferred (Specifier.packageName? s) ∧
    p.request = s

/-- Both sections take the text for the range that is required of the module of the key. -/
structure Requires (key : String) (r : VersionRange) (s : String) : Prop where
  consumes : ∃ c, n.consumes (entry key s) = .ok [c] ∧ c.request = key ∧
    c.fallbackRequest = some key ∧ c.requiredVersion = .value r ∧ c.strictVersion = true
  shared : ∃ c p, n.shared (entry key s) = .ok [c, p] ∧ c.request = key ∧
    c.fallbackRequest = some key ∧ c.requiredVersion = .value r ∧ p.request = key

/-- Both sections take the text for a range, which it is not. -/
structure Refuses (key : String) (e : VersionError) (s : String) : Prop where
  consumes : n.consumes (entry key s) = .error (.version key "requiredVersion" e)
  shared : n.shared (entry key s) = .error (.version key "requiredVersion" e)

/-! ## One entry -/

theorem consumes_entry (key s : String) :
    n.consumes (entry key s) = (n.consume key (consumeOfText key s)).map fun c => [c] := by
  change ([ShareEntry.keyed key s].mapM n.consumeEntry) = _
  rw [List.mapM_cons]
  cases h : n.consume key (consumeOfText key s) <;> simp [consumeEntry, h] <;> rfl

theorem shared_entry {o : SharedOptions} (h : sharedEntry (.keyed key s) = .ok (key, o))
    (himport : isProvided o = true) :
    n.shared (entry key s) = do
      let c ← n.consume key (sharedConsume o)
      let p ← n.provide (sharedProvide key o).1 (sharedProvide key o).2
      return [c, p] := by
  have hdeclared : [ShareEntry.keyed key s].mapM sharedEntry = .ok [(key, o)] := by
    rw [List.mapM_cons, h]
    rfl
  have hentries : sectionEntries "shared" (entry key s) = .ok [.keyed key s] := rfl
  simp only [shared, hentries, hdeclared, bind, Except.bind, List.filter_cons, himport, if_true,
    List.filter_nil, List.mapM_cons, List.mapM_nil]
  cases n.consume key (sharedConsume o) with
  | error e => rfl
  | ok c => cases n.provide (sharedProvide key o).1 (sharedProvide key o).2 <;> rfl

theorem imports_of_no_look (h : VersionRange.looksLikeOne s = false) : n.Imports key s where
  consumes := by
    have ho : consumeOfText key s = { import_ := some (.text s), strictVersion := some false } := by
      simp [consumeOfText, h]
    rw [consumes_entry, ho]
    exact ⟨_, rfl, rfl, rfl, rfl⟩
  shared := by
    have ho : sharedEntry (.keyed key s) = .ok (key, { import_ := some (.text s) }) := by
      simp [sharedEntry, h]
    rw [n.shared_entry ho rfl]
    exact ⟨_, _, rfl, rfl, rfl, rfl, rfl⟩

theorem consumeOfText_of_look (h : VersionRange.looksLikeOne s = true) (hkey : s ≠ key) :
    consumeOfText key s =
      { import_ := some (.text key), requiredVersion := some (.text s),
        strictVersion := some true } := by
  simp [consumeOfText, h, hkey]

theorem sharedEntry_of_look (h : VersionRange.looksLikeOne s = true) (hkey : s ≠ key) :
    sharedEntry (.keyed key s) = .ok (key, { requiredVersion := some (.text s) }) := by
  simp [sharedEntry, h, hkey]

theorem requires_of_look {r : VersionRange} (h : VersionRange.looksLikeOne s = true)
    (hkey : s ≠ key) (hparse : VersionRange.parse s = .ok r) : n.Requires key r s where
  consumes := by
    simp only [consumes_entry, consumeOfText_of_look h hkey, consume, readSetting, hparse]
    exact ⟨_, rfl, rfl, rfl, rfl, rfl⟩
  shared := by
    simp only [n.shared_entry (sharedEntry_of_look h hkey) rfl, consume, provide, sharedConsume,
      sharedProvide, readSetting, hparse]
    exact ⟨_, _, rfl, rfl, rfl, rfl, rfl⟩

theorem refuses_of_look {e : VersionError} (h : VersionRange.looksLikeOne s = true)
    (hkey : s ≠ key) (hparse : VersionRange.parse s = .error e) : n.Refuses key e s where
  consumes := by
    simp only [consumes_entry, consumeOfText_of_look h hkey, consume, readSetting, hparse]
    rfl
  shared := by
    simp only [n.shared_entry (sharedEntry_of_look h hkey) rfl, consume, sharedConsume,
      readSetting, hparse]
    rfl

/-! ## The look of an entry -/

/-- A range that is not blank has the look of one, and is required where it stands beside another
key, unless it starts with a bar or with a wildcard that does not stand alone; then it is imported.
A text that starts with a letter and is no range has the look of one, and is refused where it stands
beside another key, if the letter is the mark of a version; else it is imported. -/
theorem texts_recognised (key s : String) :
    (∀ r, VersionRange.parse s = .ok r → ¬ Text.AllBlank s.toList →
      (VersionRange.looksLikeOne s = true ↔ ¬ VersionRange.Disguised s) ∧
      (s ≠ key → (¬ VersionRange.Disguised s → n.Requires key r s) ∧
        (VersionRange.Disguised s → n.Imports key s))) ∧
    (∀ e c, VersionRange.parse s = .error e → s.toList.head? = some c → c.isAlpha = true →
      (VersionRange.looksLikeOne s = true ↔ c = 'v') ∧
      (s ≠ key → (c = 'v' → n.Refuses key e s) ∧ (c ≠ 'v' → n.Imports key s))) := by
  constructor
  · intro r hparse hblank
    have hlook := VersionRange.looksLikeOne_iff_of_parse hparse hblank
    refine ⟨hlook, fun hkey => ⟨fun hplain => ?_, fun hdisguised => ?_⟩⟩
    · exact n.requires_of_look (hlook.mpr hplain) hkey hparse
    · refine n.imports_of_no_look ?_
      rw [Bool.eq_false_iff, Ne, hlook, not_not]
      exact hdisguised
  · intro e c hparse hfirst hletter
    have hlook := VersionRange.looksLikeOne_iff_of_error hparse hfirst hletter
    refine ⟨hlook, fun hkey => ⟨fun hmark => ?_, fun hother => ?_⟩⟩
    · exact n.refuses_of_look (hlook.mpr hmark) hkey hparse
    · refine n.imports_of_no_look ?_
      rw [Bool.eq_false_iff, Ne, hlook]
      exact hother

/-- A range, one that starts with a wildcard, a name with the mark of a version, and another name.
-/
theorem texts_recognised_react :
    ∃ r e, VersionRange.parse "^17.0.2" = .ok r ∧ reactProject.Requires "react" r "^17.0.2" ∧
      (∃ q, VersionRange.parse "x || ^17" = .ok q) ∧ reactProject.Imports "react" "x || ^17" ∧
      VersionRange.parse "vue" = .error e ∧ reactProject.Refuses "ui" e "vue" ∧
      (∃ f, VersionRange.parse "preact" = .error f) ∧ reactProject.Imports "ui" "preact" := by
  have hblank (s : String) (c : Char) (h : Text.first? s.toList = some c) :
      ¬ Text.AllBlank s.toList := by
    rw [← Text.first?_eq_none_iff, h]
    exact Option.some_ne_none c
  have hplain : ¬ VersionRange.Disguised "^17.0.2" := by
    rw [@VersionRange.disguised_iff "^17.0.2" '^' "17.0.2".toList rfl]
    decide
  have hdisguised : VersionRange.Disguised "x || ^17" :=
    ⟨'x', " || ^17".toList, rfl, .inr (by decide)⟩
  obtain ⟨hranges, -⟩ := reactProject.texts_recognised "react" "^17.0.2"
  obtain ⟨hwildcards, -⟩ := reactProject.texts_recognised "react" "x || ^17"
  obtain ⟨-, hmarks⟩ := reactProject.texts_recognised "ui" "vue"
  obtain ⟨-, hnames⟩ := reactProject.texts_recognised "ui" "preact"
  obtain ⟨-, hrequired⟩ := hranges _ rfl (hblank _ '^' (by decide))
  obtain ⟨-, himported⟩ := hwildcards _ rfl (hblank _ 'x' (by decide))
  obtain ⟨-, hrefused⟩ := hmarks _ 'v' rfl (by decide) (by decide)
  obtain ⟨-, hnamed⟩ := hnames _ 'p' rfl (by decide) (by decide)
  exact ⟨_, _, rfl, (hrequired (by decide)).1 hplain, ⟨_, rfl⟩,
    (himported (by decide)).2 hdisguised, rfl, (hrefused (by decide)).1 rfl, ⟨_, rfl⟩,
    (hnamed (by decide)).2 (by decide)⟩

/-- A choice of two ranges does not have the look of one, and the name of a package does. -/
theorem looks_mislead :
    (∃ r, VersionRange.parse "* || ^1.0.0" = .ok r) ∧
      VersionRange.looksLikeOne "* || ^1.0.0" = false ∧
      Specifier.packageName? "vue" = some "vue" ∧ (∃ e, VersionRange.parse "vue" = .error e) ∧
      VersionRange.looksLikeOne "vue" = true := by
  refine ⟨⟨_, rfl⟩, by decide, by decide, ⟨_, rfl⟩, by decide⟩

end Normalizer

end ModuleSharing
