import ModuleSharing.Proofs.Build.Reuse
import ModuleSharing.Proofs.Bundle.Stored
import ModuleSharing.Proofs.Files.Writing
import ModuleSharing.Proofs.Share.Legibility

/-! Caches in the files of a project.  A cache is read back from the files that it was saved in
(`BuildCache.load_save`).  So whole builds, with changes to the project between them, hand their
cache on: each finds what the builds before it left (`Kept.load`), and its units are those of a run
with that cache (`Kept.build`). -/

namespace ModuleSharing

open Json

/-! ## Descriptors of units -/

namespace Pipeline

/-- Preparing a descriptor fills in a version that was read. -/
theorem legible_of_prepared {files : Files} {context : String} {d : ShareDescriptor}
    {u : SharedUnit} (hd : d.Legible) (h : (files.prepare context d).result = .unit u) :
    u.options.Legible := by
  unfold Files.prepare Files.prepareConsume Files.prepareProvide at h
  split at h <;> split at h
  · rw [eq_ofDescriptor_of_admitted h]
    exact ⟨hd.version, hd.requiredVersion⟩
  · rw [eq_ofDescriptor_of_admitted h]
    exact hd
  · contradiction
  · rename_i path hpath
    rw [eq_ofDescriptor_of_admitted h]
    refine ⟨fun v hv => ?_, hd.requiredVersion⟩
    change d.effectiveVersion (files.versionOfModule? path) = .value v at hv
    unfold ShareDescriptor.effectiveVersion at hv
    split at hv
    · rename_i hinferred
      rw [Setting.value.inj hv] at hinferred
      exact Files.exists_parse_of_versionOfModule? hinferred
    · exact hd.version v hv

theorem legible_preparedUnits {files : Files} {context : String} {ds : List ShareDescriptor}
    (h : ∀ d ∈ ds, d.Legible) : ∀ u ∈ preparedUnits files context ds, u.options.Legible := by
  intro u hu
  obtain ⟨d, hd, hresult⟩ := exists_prepared hu
  exact legible_of_prepared (h d hd) hresult

end Pipeline

namespace BuildCache

variable {context : String} {c : BuildCache} {files files' : Files}

/-! ## The texts of a cache -/

theorem decodeText_units {units : List SharedUnit} (h : ∀ u ∈ units, u.options.Legible) :
    decodeText unitsDecoder (unitsToJson units).compact = .ok units := by
  have hunits : decodeValue (.list SharedUnit.decoder) (.array (units.map SharedUnit.toJson)) =
      .ok units := decodeValue_list fun u hu => SharedUnit.decodeValue_toJson (h u hu)
  have hnested : Nested 127 (unitsToJson units) :=
    .object (List.forall_mem_singleton.mpr (nested_array (fun u => u.nested_toJson 120) units))
  exact decodeText_compact hnested
    ((Record.Stored.required "units" hunits).decodes (by decide) "UnitCache" .ignored)

theorem decodeText_fingerprints {known : Dictionary String String} (h : known.Ascending) :
    decodeText fingerprintsDecoder (fingerprintsToJson known).pretty = .ok known := by
  have hpairs : decodeValue (.members .text)
      (.object (known.toList.map fun p => (p.1, .string p.2))) = .ok known.toList :=
    decodeValue_members fun p _ => decodeValue_text p.2
  have hknown : decodeValue (fun d => (Decoder.members .text d).map .ofList)
      (.object (known.toList.map fun p => (p.1, .string p.2))) = .ok known :=
    map_eq_ok_iff.mpr ⟨known.toList, hpairs, h.ofList_toList⟩
  have hnested : Nested 127 (fingerprintsToJson known) := by
    refine .object (List.forall_mem_singleton.mpr (.object ?_))
    rw [List.forall_mem_map]
    exact fun p _ => .string _ p.2
  exact decodeText_pretty hnested
    ((Record.Stored.required "units" hknown).decodes (by decide) "FingerprintCache" .ignored)

/-! ## Saving and loading -/

theorem plain_units : Path.Plain "units.json" := ⟨by decide, by decide, by decide⟩

theorem plain_fingerprints : Path.Plain "fingerprints.json" := ⟨by decide, by decide, by decide⟩

theorem loadPart_of_read {α : Type} {path content what : String} {dec : Decoder α} {a : α}
    (hread : files.read path = .ok content) (ha : decodeText dec content = .ok a) :
    loadPart files path what dec = .ok (some a) := by
  rw [loadPart, Files.exists?_of_read hread, hread]
  exact bind_eq_ok_iff.mpr ⟨content, rfl, bind_eq_ok_iff.mpr
    ⟨a, mapError_eq_ok_iff.mpr (mapError_eq_ok_iff.mpr ha), rfl⟩⟩

theorem savePart_eq_ok_iff {path content : String} :
    savePart files path content = .ok files' ↔ files.write path content = .ok files' := by
  rw [savePart, FileError.under, mapError_eq_ok_iff, FileError.ofPath, mapError_eq_ok_iff]

/-- A cache is saved in two files, once its folder is there. -/
theorem writes_of_save (h : c.save files context = .ok files') : ∃ before between : Files,
    before.write (unitsPath context) (unitsToJson c.units).compact = .ok between ∧
    between.write (fingerprintsPath context) (fingerprintsToJson c.fingerprints).pretty =
      .ok files' := by
  unfold save at h
  dsimp only at h
  split at h <;>
  · obtain ⟨before, _, h⟩ := bind_eq_ok_iff.mp h
    obtain ⟨between, hfirst, hsecond⟩ := bind_eq_ok_iff.mp h
    exact ⟨before, between, savePart_eq_ok_iff.mp hfirst, savePart_eq_ok_iff.mp hsecond⟩

/-- A cache is read back from the files that it was saved in. -/
theorem load_save (hunits : ∀ u ∈ c.units, u.options.Legible) (hknown : c.fingerprints.Ascending)
    (h : c.save files context = .ok files') : load files' context = .ok c := by
  obtain ⟨before, between, hfirst, hsecond⟩ := writes_of_save h
  have hread := (Files.read_write_of_ne plain_fingerprints plain_units (by decide) hsecond).mpr
    (Files.read_write plain_units hfirst)
  exact bind_eq_ok_iff.mpr ⟨_, loadPart_of_read hread (decodeText_units hunits),
    bind_eq_ok_iff.mpr ⟨_, loadPart_of_read (Files.read_write plain_fingerprints hsecond)
      (decodeText_fingerprints hknown), rfl⟩⟩

/-- Only the cache files matter to what is loaded. -/
theorem load_congr (h : ∀ path ∈ paths context, files'.get? path = files.get? path) :
    load files' context = load files context := by
  have hpart {α : Type} {path : String} (hpath : path ∈ paths context) (what : String)
      (dec : Decoder α) : loadPart files' path what dec = loadPart files path what dec := by
    have hexists : files'.exists? path = files.exists? path := by
      rw [Files.exists?, Files.exists?, h path hpath]
    rw [loadPart, loadPart, hexists]
    cases hthere : files.exists? path with
    | false => rfl
    | true => rw [Files.read_congr (h path hpath) hthere]
  rw [load, load, hpart (by simp [paths]), hpart (by simp [paths])]

theorem load_of_absent (h : ∀ path ∈ paths context, files.exists? path = false) :
    load files context = .ok {} := by
  have hpart {α : Type} {path : String} (hpath : path ∈ paths context) (what : String)
      (dec : Decoder α) : loadPart files path what dec = .ok none := by
    rw [loadPart, h path hpath]
    rfl
  rw [load, hpart (by simp [paths]), hpart (by simp [paths])]
  rfl

/-! ## The cache after one more build -/

theorem pastUnits_concat (bs : List PastBuild) (b : PastBuild) (c : BuildCache) :
    pastUnits context c (bs ++ [b]) = pastUnits context c bs ++
      [(Pipeline.run b.files context (some ((pastUnits context c bs).foldl update c))
        b.descriptors).graph.units] := by
  induction bs generalizing c with
  | nil => rfl
  | cons first bs ih =>
    rw [List.cons_append, pastUnits, pastUnits, ih]
    rfl

theorem after_concat (bs : List PastBuild) (b : PastBuild) :
    after context (bs ++ [b]) = (after context bs).update
      (Pipeline.run b.files context (some (after context bs)) b.descriptors).graph.units := by
  rw [after, pastUnits_concat, List.foldl_concat]
  rfl

theorem ascending_after (bs : List PastBuild) : (after context bs).fingerprints.Ascending := by
  rw [after, fingerprints_foldl_update]
  exact List.foldlRecOn _ _ Dictionary.ascending_empty fun _ h u _ => h.insert u.identifier u.hash

theorem legible_after {bs : List PastBuild} (h : ∀ b ∈ bs, ∀ d ∈ b.descriptors, d.Legible) :
    ∀ u ∈ (after context bs).units, u.options.Legible := by
  intro u hu
  obtain hempty | ⟨us, hus, hu⟩ := mem_units_foldl_update hu
  · exact absurd hempty List.not_mem_nil
  · refine (forall_mem_pastUnits (P := fun v => v.build = v ∧ v.options.Legible)
      (fun v hv => hv.1) (fun b hb v hv => ?_) (List.forall_mem_nil _) us hus u hu).2
    exact ⟨SharedUnit.build_build v, Pipeline.legible_preparedUnits (h b hb) v hv⟩

end BuildCache

/-! ## Whole builds -/

/-- The files of a project after some builds with a cache, each of what the configuration said at
the time.  Between the builds the project may change in any way that leaves the cache files. -/
inductive Kept (context : String) : List PastBuild → Files → Prop where
  | absent {files : Files} (h : ∀ path ∈ BuildCache.paths context, files.exists? path = false) :
    Kept context [] files
  | changed {past : List PastBuild} {files files' : Files} (h : Kept context past files)
      (hsame : ∀ path ∈ BuildCache.paths context, files'.get? path = files.get? path) :
    Kept context past files'
  | built {past : List PastBuild} {files files' : Files} {f : Federation} {o : BuildOptions}
      {stamp : Nat} {ds : List ShareDescriptor} {report : BuildReport}
      (h : Kept context past files) (hcache : o.useCache = true)
      (hnormalize : f.normalize files context = .ok ds)
      (hbuild : f.build files context o stamp = .ok (report, files')) :
    Kept context (past ++ [⟨files, ds⟩]) files'

namespace Federation

variable {f : Federation} {files files' : Files} {context : String} {o : BuildOptions}
  {stamp : Nat} {report : BuildReport}

/-- What a build with a cache does: it runs with the cache that it finds and leaves the next one. -/
theorem build_with_cache (hcache : o.useCache = true)
    (h : f.build files context o stamp = .ok (report, files')) :
    ∃ ds c, f.normalize files context = .ok ds ∧ BuildCache.load files context = .ok c ∧
      (c.update (Pipeline.run files context (some c) ds).graph.units).save files context =
        .ok files' ∧
      report.units = (Pipeline.run files context (some c) ds).units := by
  obtain ⟨ds, hnormalize, h⟩ := bind_eq_ok_iff.mp h
  dsimp only at h
  rw [if_pos hcache] at h
  obtain ⟨cache, hload, h⟩ := bind_eq_ok_iff.mp h
  obtain ⟨c, hc, rfl⟩ := map_eq_ok_iff.mp hload
  obtain ⟨saved, hsave, h⟩ := bind_eq_ok_iff.mp h
  cases h
  exact ⟨ds, c, mapError_eq_ok_iff.mp hnormalize, mapError_eq_ok_iff.mp hc,
    mapError_eq_ok_iff.mp hsave, rfl⟩

end Federation

namespace Kept

variable {context : String} {past : List PastBuild} {files files' : Files}

theorem legible (h : Kept context past files) : ∀ b ∈ past, ∀ d ∈ b.descriptors, d.Legible := by
  induction h with
  | absent => exact List.forall_mem_nil _
  | changed _ _ ih => exact ih
  | built _ _ hnormalize _ ih =>
    rw [List.forall_mem_append, List.forall_mem_singleton]
    exact ⟨ih, Federation.legible_of_normalize hnormalize⟩

/-- The files hold the cache that the builds left. -/
theorem load (h : Kept context past files) :
    BuildCache.load files context = .ok (BuildCache.after context past) := by
  induction h with
  | absent h => exact BuildCache.load_of_absent h
  | changed _ hsame ih => rw [BuildCache.load_congr hsame, ih]
  | built h hcache hnormalize hbuild ih =>
    obtain ⟨ds, c, hds, hc, hsave, _⟩ := Federation.build_with_cache hcache hbuild
    obtain rfl := Except.ok.inj (hnormalize.symm.trans hds)
    obtain rfl := Except.ok.inj (ih.symm.trans hc)
    have hnext := (Kept.built h hcache hnormalize hbuild).legible
    rw [← BuildCache.after_concat _ ⟨_, _⟩] at hsave
    exact BuildCache.load_save (BuildCache.legible_after hnext) (BuildCache.ascending_after _) hsave

/-- A build in these files has the units of a run with the cache that the builds left. -/
theorem build (h : Kept context past files) {f : Federation} {o : BuildOptions} {stamp : Nat}
    {report : BuildReport} (hcache : o.useCache = true)
    (hbuild : f.build files context o stamp = .ok (report, files')) :
    ∃ ds, f.normalize files context = .ok ds ∧
      report.units =
        (Pipeline.run files context (some (BuildCache.after context past)) ds).units ∧
      Kept context (past ++ [⟨files, ds⟩]) files' := by
  obtain ⟨ds, c, hnormalize, hc, _, hunits⟩ := Federation.build_with_cache hcache hbuild
  obtain rfl := Except.ok.inj (h.load.symm.trans hc)
  exact ⟨ds, hnormalize, hunits, h.built hcache hnormalize hbuild⟩

/-- The first build of a project finds no cache and leaves both files. -/
example :
    let f : Federation := { consumes := some (.array [.string "react"]) }
    ((f.build Pipeline.emptyProject "/" { useCache := true } 0).toOption.map fun (report, files) =>
      (report.units.map BuiltUnit.fresh, (BuildCache.paths "/").map files.exists?)) =
      some ([false], [true, true]) := by
  decide +kernel

end Kept

end ModuleSharing
