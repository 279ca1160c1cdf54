import ModuleSharing.Federation
import ModuleSharing.Proofs.Share.RequiredVersion
import ModuleSharing.Proofs.Share.Stored

/-! Where versions and ranges come from.  Whatever a declaration says, the version and the range of
its descriptor were read from a text (`Federation.legible_of_normalize`), so that every descriptor
of a configuration can be stored and read back. -/

namespace ModuleSharing

theorem exists_parse_of_readSetting {α : Type} {parse : String → Except VersionError α}
    {key option : String} {given : Option TextOrFlag} {setting : Setting α}
    (h : readSetting parse key option given = .ok setting) :
    ∀ a, setting = .value a → ∃ s, parse s = .ok a := by
  rintro a rfl
  unfold readSetting at h
  split at h
  · cases h
  · cases h
  · cases h
  · rename_i s
    split at h
    · rename_i hparse
      cases h
      exact ⟨s, hparse⟩
    · cases h

theorem Manifest.exists_parse_of_version? {m : Manifest} {v : Version}
    (h : m.version? = some v) : ∃ s, Version.parse s = .ok v := by
  obtain ⟨s, _, hparse⟩ := Option.bind_eq_some_iff.mp h
  exact ⟨s, toOption_eq_some_iff.mp hparse⟩

namespace Files

variable {files : Files}

theorem exists_parse_of_inferRequired {context package : String} {r : VersionRange}
    (h : files.inferRequired context package = .value r) :
    ∃ s, VersionRange.parse s = .ok r := by
  rw [inferRequired_eq, requiredOf_eq_value_iff] at h
  obtain ⟨s, _, hparse⟩ := h
  exact ⟨s, hparse⟩

theorem exists_parse_of_versionOfModule? {path : String} {v : Version}
    (h : files.versionOfModule? path = some v) : ∃ s, Version.parse s = .ok v := by
  have hfound {start : String}
      (h : (Manifest.nearest? files start).bind (·.2.version?) = some v) :
      ∃ s, Version.parse s = .ok v := by
    obtain ⟨found, _, hversion⟩ := Option.bind_eq_some_iff.mp h
    exact Manifest.exists_parse_of_version? hversion
  unfold versionOfModule? at h
  split at h
  · exact hfound h
  · obtain ⟨_, _, h⟩ := Option.bind_eq_some_iff.mp h
    exact hfound h

end Files

namespace Normalizer

variable {n : Normalizer}

theorem exists_parse_of_inferred {package : Option String} {r : VersionRange}
    (h : n.inferred package = .value r) : ∃ s, VersionRange.parse s = .ok r := by
  cases package with
  | none => contradiction
  | some name => exact Files.exists_parse_of_inferRequired h

/-! ## One declaration -/

theorem legible_of_consume {key : String} {o : ConsumeOptions} {d : ShareDescriptor}
    (h : n.consume key o = .ok d) : d.Legible := by
  obtain ⟨given, hgiven, h⟩ := bind_eq_ok_iff.mp h
  cases h
  refine ⟨fun v hv => by contradiction, fun r hr => ?_⟩
  dsimp only at hr
  split at hr
  · exact exists_parse_of_inferred hr
  · exact exists_parse_of_readSetting hgiven r hr

theorem legible_of_provide {key : String} {o : ProvideOptions} {d : ShareDescriptor}
    (h : n.provide key o = .ok d) : d.Legible := by
  obtain ⟨version, hversion, h⟩ := bind_eq_ok_iff.mp h
  obtain ⟨required, hrequired, h⟩ := bind_eq_ok_iff.mp h
  cases h
  exact ⟨exists_parse_of_readSetting hversion, exists_parse_of_readSetting hrequired⟩

theorem legible_of_consumeEntry {entry : ShareEntry} {d : ShareDescriptor}
    (h : n.consumeEntry entry = .ok d) : d.Legible := by
  cases entry with
  | request => exact legible_of_consume h
  | keyed => exact legible_of_consume h
  | options =>
    obtain ⟨o, _, h⟩ := bind_eq_ok_iff.mp h
    exact legible_of_consume h

theorem legible_of_provideEntry {entry : ShareEntry} {d : ShareDescriptor}
    (h : n.provideEntry entry = .ok d) : d.Legible := by
  cases entry with
  | request => exact legible_of_provide h
  | keyed => exact legible_of_provide h
  | options =>
    obtain ⟨o, _, h⟩ := bind_eq_ok_iff.mp h
    exact legible_of_provide h

/-! ## Sections -/

/-- What holds of the result of every item holds of all results. -/
theorem forall_mem_of_mapM {α : Type} {f : α → Except ConfigError ShareDescriptor}
    {P : ShareDescriptor → Prop} (hf : ∀ {x d}, f x = .ok d → P d) {xs : List α}
    {ds : List ShareDescriptor} (h : xs.mapM f = .ok ds) : ∀ d ∈ ds, P d := by
  intro d hd
  obtain ⟨_, _, hx⟩ := exists_of_forall₂_right ((mapM_eq_ok_iff _ _ _).mp h) hd
  exact hf hx

theorem legible_of_consumes {x : Json} {ds : List ShareDescriptor} (h : n.consumes x = .ok ds) :
    ∀ d ∈ ds, d.Legible := by
  obtain ⟨entries, _, h⟩ := bind_eq_ok_iff.mp h
  exact forall_mem_of_mapM legible_of_consumeEntry h

theorem legible_of_provides {x : Json} {ds : List ShareDescriptor} (h : n.provides x = .ok ds) :
    ∀ d ∈ ds, d.Legible := by
  obtain ⟨entries, _, h⟩ := bind_eq_ok_iff.mp h
  exact forall_mem_of_mapM legible_of_provideEntry h

theorem legible_of_shared {x : Json} {ds : List ShareDescriptor} (h : n.shared x = .ok ds) :
    ∀ d ∈ ds, d.Legible := by
  obtain ⟨entries, _, h⟩ := bind_eq_ok_iff.mp h
  obtain ⟨declared, _, h⟩ := bind_eq_ok_iff.mp h
  obtain ⟨consumed, hconsumed, h⟩ := bind_eq_ok_iff.mp h
  obtain ⟨provided, hprovided, h⟩ := bind_eq_ok_iff.mp h
  cases h
  rw [List.forall_mem_append]
  exact ⟨forall_mem_of_mapM legible_of_consume hconsumed,
    forall_mem_of_mapM legible_of_provide hprovided⟩

end Normalizer

/-! ## Configurations -/

theorem legible_of_section {read : Json → Except ConfigError (List ShareDescriptor)}
    (hread : ∀ {x ds}, read x = .ok ds → ∀ d ∈ ds, d.Legible) {section_ : Option Json}
    {ds : List ShareDescriptor} (h : section_.elim (.ok []) read = .ok ds) :
    ∀ d ∈ ds, d.Legible := by
  cases section_ with
  | none =>
    cases h
    exact List.forall_mem_nil _
  | some x => exact hread h

/-- The descriptors of a configuration can be read back from their stored forms. -/
theorem Federation.legible_of_normalize {f : Federation} {files : Files} {context : String}
    {ds : List ShareDescriptor} (h : f.normalize files context = .ok ds) :
    ∀ d ∈ ds, d.Legible := by
  obtain ⟨consumed, hconsumed, h⟩ := bind_eq_ok_iff.mp h
  obtain ⟨provided, hprovided, h⟩ := bind_eq_ok_iff.mp h
  obtain ⟨shared, hshared, h⟩ := bind_eq_ok_iff.mp h
  cases h
  rw [List.forall_mem_append, List.forall_mem_append]
  exact ⟨⟨legible_of_section Normalizer.legible_of_consumes hconsumed,
    legible_of_section Normalizer.legible_of_provides hprovided⟩,
    legible_of_section Normalizer.legible_of_shared hshared⟩

end ModuleSharing
