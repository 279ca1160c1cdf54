import ModuleSharing.Proofs.Share.Section

/-! The two passes over a `shared` section make matching descriptors.  `Consumes` and `Provides` say
what each pass makes of one declaration, and descriptors of one declaration are `Partners`.  The
passes run over the same declarations, of which the second leaves some out, so their descriptors
match in order (`Normalizer.shared_in_pairs`). -/

namespace ModuleSharing

open Json

/-! ## Declarations -/

namespace SharedOptions

/-- Whether the declaration says that there is no module to import. -/
def noImport (o : SharedOptions) : Bool := o.import_ = some (.flag false)

/-- The module that a declaration imports: the one it names, or else its key. -/
def importedRequest (key : String) (o : SharedOptions) : String :=
  (o.import_.bind TextOrFlag.text?).getD key

theorem any_isFalse_import (o : SharedOptions) : o.import_.any TextOrFlag.isFalse = o.noImport := by
  unfold noImport
  rcases o.import_ with _ | ⟨_ | _⟩ | s <;> rfl

end SharedOptions

/-- What the consume descriptor of a declaration is. -/
structure Consumes (declared : String × SharedOptions) (c : ShareDescriptor) : Prop where
  kind : c.kind = .consume
  shareKey : c.shareKey = declared.2.shareKey.getD declared.1
  fallbackRequest : c.fallbackRequest =
    if declared.2.noImport then none else some (declared.2.importedRequest declared.1)
  requiredVersion : c.requiredVersion ≠ .unset

/-- What the provide descriptor of a declaration is. -/
structure Provides (declared : String × SharedOptions) (p : ShareDescriptor) : Prop where
  kind : p.kind = .provide
  shareKey : p.shareKey = declared.2.shareKey.getD declared.1
  request : p.request = declared.2.importedRequest declared.1

/-- A consume and a provide descriptor that belong together. -/
structure Partners (c p : ShareDescriptor) : Prop where
  shareKey : c.shareKey = p.shareKey
  shareScope : c.shareScope = p.shareScope
  singleton : c.singleton = p.singleton
  eager : c.eager = p.eager
  layer : c.layer = p.layer
  includes : c.includes = p.includes
  excludes : c.excludes = p.excludes
  request : c.fallbackRequest = some p.request

theorem Consumes.fallback_eq_none_iff {declared : String × SharedOptions} {c : ShareDescriptor}
    (h : Consumes declared c) : c.fallbackRequest = none ↔ declared.2.noImport = true := by
  rw [h.fallbackRequest]
  split <;> simp [*]

namespace Normalizer

variable (n : Normalizer)

/-- The declarations of a `shared` section with their keys, in order. -/
def declarations (x : Json) : Except ConfigError (List (String × SharedOptions)) :=
  sectionEntries "shared" x >>= fun entries => entries.mapM sharedEntry

/-! ## What a version is required to be -/

theorem inferRequired_ne_unset (files : Files) (context package : String) :
    files.inferRequired context package ≠ .unset := by
  unfold Files.inferRequired
  split
  · simp
  · split
    · simp
    · split <;> simp

theorem inferred_ne_unset (package : Option String) : n.inferred package ≠ .unset := by
  cases package with
  | none => simp [inferred]
  | some name => exact inferRequired_ne_unset n.files n.context name

/-- A version that is not given is inferred. -/
theorem required_ne_unset (given : RequiredVersion) (package : Option String) :
    (if given.isUnset then n.inferred package else given) ≠ .unset := by
  cases given with
  | unset => exact n.inferred_ne_unset package
  | disabled => simp [Setting.isUnset]
  | value range => simp [Setting.isUnset]

/-! ## One declaration -/

theorem consumes_of_consume {declared : String × SharedOptions} {c : ShareDescriptor}
    (h : n.consume declared.1 (sharedConsume declared.2) = .ok c) : Consumes declared c := by
  obtain ⟨given, _, h⟩ := bind_eq_ok_iff.mp h
  cases h
  refine ⟨rfl, rfl, ?_, n.required_ne_unset given _⟩
  rw [← SharedOptions.any_isFalse_import]
  rfl

theorem provides_of_provide {declared : String × SharedOptions} {p : ShareDescriptor}
    (h : n.provide (sharedProvide declared.1 declared.2).1 (sharedProvide declared.1 declared.2).2 =
      .ok p) : Provides declared p := by
  obtain ⟨version, _, h⟩ := bind_eq_ok_iff.mp h
  obtain ⟨required, _, h⟩ := bind_eq_ok_iff.mp h
  cases h
  exact ⟨rfl, rfl, rfl⟩

theorem partners_of_declaration {declared : String × SharedOptions} {c p : ShareDescriptor}
    (himport : declared.2.noImport = false)
    (hc : n.consume declared.1 (sharedConsume declared.2) = .ok c)
    (hp : n.provide (sharedProvide declared.1 declared.2).1
      (sharedProvide declared.1 declared.2).2 = .ok p) : Partners c p := by
  have hconsumes := n.consumes_of_consume hc
  have hprovides := n.provides_of_provide hp
  have hrequest : c.fallbackRequest = some p.request := by
    rw [hconsumes.fallbackRequest, himport, hprovides.request]
    rfl
  have hkey : c.shareKey = p.shareKey := hconsumes.shareKey.trans hprovides.shareKey.symm
  obtain ⟨given, _, hc⟩ := bind_eq_ok_iff.mp hc
  obtain ⟨version, _, hp⟩ := bind_eq_ok_iff.mp hp
  obtain ⟨required, _, hp⟩ := bind_eq_ok_iff.mp hp
  cases hc
  cases hp
  exact ⟨hkey, rfl, rfl, rfl, rfl, rfl, rfl, hrequest⟩

/-! ## All declarations -/

/-- The second pass leaves out exactly the declarations without an import. -/
theorem filter_isProvided (declared : List (String × SharedOptions)) :
    declared.filter (fun (_, o) => isProvided o) = declared.filter fun p => !p.2.noImport := by
  simp only [isProvided, SharedOptions.any_isFalse_import]

theorem partners_of_passes {declared : List (String × SharedOptions)}
    {consumed provided : List ShareDescriptor}
    (hconsumed : List.Forall₂ (fun p c => n.consume p.1 (sharedConsume p.2) = .ok c) declared
      consumed)
    (hprovided : List.Forall₂
      (fun p d => n.provide (sharedProvide p.1 p.2).1 (sharedProvide p.1 p.2).2 = .ok d)
      (declared.filter fun p => !p.2.noImport) provided) :
    List.Forall₂ Partners (consumed.filter fun c => c.fallbackRequest.isSome) provided := by
  induction hconsumed generalizing provided with
  | nil =>
    cases hprovided
    exact .nil
  | @cons p c declared consumed hc _ ih =>
    have hfallback := (n.consumes_of_consume hc).fallback_eq_none_iff
    cases himport : p.2.noImport with
    | true =>
      rw [List.filter_cons_of_neg (by simp [himport])] at hprovided
      rw [List.filter_cons_of_neg (by simp [hfallback.mpr himport])]
      exact ih hprovided
    | false =>
      rw [List.filter_cons_of_pos (by simp [himport])] at hprovided
      have hsome : c.fallbackRequest.isSome = true := by
        rw [Option.isSome_iff_ne_none]
        simp [hfallback, himport]
      rw [List.filter_cons_of_pos (by exact hsome)]
      obtain ⟨d, provided, hd, hrest, rfl⟩ := List.forall₂_cons_left_iff.mp hprovided
      exact .cons (n.partners_of_declaration himport hc hd) (ih hrest)

/-- A `shared` section gives one consume descriptor for each declaration, then one provide
descriptor for each declaration that does not switch its import off, both in the order of the
declarations.  The consume descriptors with a fallback are the partners of the provide descriptors,
one by one. -/
theorem shared_in_pairs {x : Json} {ds : List ShareDescriptor} (h : n.shared x = .ok ds) :
    ∃ declared consumed provided, declarations x = .ok declared ∧ ds = consumed ++ provided ∧
      List.Forall₂ Consumes declared consumed ∧
      List.Forall₂ Provides (declared.filter fun p => !p.2.noImport) provided ∧
      List.Forall₂ Partners (consumed.filter fun c => c.fallbackRequest.isSome) provided := by
  obtain ⟨entries, hentries, h⟩ := bind_eq_ok_iff.mp h
  obtain ⟨declared, hdeclared, h⟩ := bind_eq_ok_iff.mp h
  obtain ⟨consumed, hconsumed, h⟩ := bind_eq_ok_iff.mp h
  obtain ⟨provided, hprovided, h⟩ := bind_eq_ok_iff.mp h
  cases h
  rw [mapM_eq_ok_iff] at hconsumed hprovided
  rw [filter_isProvided] at hprovided
  exact ⟨declared, consumed, provided, bind_eq_ok_iff.mpr ⟨entries, hentries, hdeclared⟩, rfl,
    hconsumed.imp fun _ _ hc => n.consumes_of_consume hc,
    hprovided.imp fun _ _ hp => n.provides_of_provide hp,
    n.partners_of_passes hconsumed hprovided⟩

theorem shared_in_pairs_mixedItems :
    ∃ ds, reactProject.shared (.array mixedItems) = .ok ds ∧
      ds.map (fun d => (d.kind, d.fallbackRequest)) =
        [(.consume, some "react"), (.consume, some "lodash"), (.consume, none), (.provide, none),
          (.provide, none)] ∧
      ∃ declared consumed provided, declarations (.array mixedItems) = .ok declared ∧
        ds = consumed ++ provided ∧ List.Forall₂ Consumes declared consumed ∧
        List.Forall₂ Provides (declared.filter fun p => !p.2.noImport) provided ∧
        List.Forall₂ Partners (consumed.filter fun c => c.fallbackRequest.isSome) provided := by
  have hkinds : (reactProject.shared (.array mixedItems)).toOption.map
      (·.map fun d => (d.kind, d.fallbackRequest)) =
        some [(.consume, some "react"), (.consume, some "lodash"), (.consume, none),
          (.provide, none), (.provide, none)] := by decide +kernel
  obtain ⟨ds, hds, hkinds⟩ := exists_ok_of_toOption hkinds
  exact ⟨ds, hds, hkinds, reactProject.shared_in_pairs hds⟩

end Normalizer

end ModuleSharing
