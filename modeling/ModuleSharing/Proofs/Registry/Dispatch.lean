import Mathlib.Data.List.Infix
import ModuleSharing.Proofs.Registry.Agreement

/-! The ways to load a module agree: a simulated load, a loader function called by its name, and the
method of that name are all one request to `Registry.resolve` (`loaders_agree_with_resolve`).  A
loader is never strict without a range, but then strictness has no effect
(`resolve_of_no_range`). -/

namespace ModuleSharing

variable {μ : Type}

/-! ## Names -/

namespace Loader

theorem ofName?_eq_some_iff (name : String) (f : Loader) : ofName? name = some f ↔ f.name = name := by
  constructor
  · intro h
    simpa using List.find?_some h
  · rintro rfl
    obtain ⟨check, singleton, fallback⟩ := f
    cases check <;> cases singleton <;> cases fallback <;> decide

theorem isVersioned_iff (f : Loader) :
    f.isVersioned = true ↔ "VersionCheck".toList <:+: f.name.toList := by
  obtain ⟨check, singleton, fallback⟩ := f
  cases check <;> cases singleton <;> cases fallback <;> decide

theorem fallback_iff (f : Loader) :
    f.fallback = true ↔ "Fallback".toList <:+: f.name.toList := by
  obtain ⟨check, singleton, fallback⟩ := f
  cases check <;> cases singleton <;> cases fallback <;> decide

end Loader

/-- What a fallback adds to the name of a loader. -/
def fallbackEnding (fallback : Option (Factory μ)) : String :=
  if fallback.isSome then "Fallback" else ""

/-! ## Requests -/

/-- The request that a simulated load stands for, once its range is read. -/
def LoadOptions.request (o : LoadOptions) (range : Option VersionRange) : Request Json where
  address := o.address
  range := range
  singleton := o.singleton
  strict := o.strict
  fallback := o.fallback.map fun name => .ok (fallbackModule name)

theorem Shelf.plan_of_no_range (s : Shelf μ) {q : Request μ} (h : q.range = none) (strict : Bool) :
    s.plan { q with strict } = s.plan q := by
  have haccepts (v : Version) : q.accepts v = true := by simp [Request.accepts, h]
  have haccepts' (v : Version) : Request.accepts { q with strict } v = true := haccepts v
  simp only [plan, planActive, haccepts, haccepts', if_true]
  rfl

namespace Registry

/-- Without a range a request is answered alike, strict or not. -/
theorem resolve_of_no_range (r : Registry μ) {q : Request μ} (h : q.range = none) (strict : Bool) :
    r.resolve { q with strict } = r.resolve q := by
  rw [resolve_eq_plan, resolve_eq_plan, (r.shelf q.address).plan_of_no_range h]

/-- The loader that is selected for a request makes the same request, but for strictness without a
range. -/
theorem invoke_select (r : Registry μ) (q : Request μ) :
    r.invoke (Loader.select q.range.isSome q.strict q.singleton q.fallback.isSome) q.address q.range
      q.fallback = r.resolve q := by
  obtain ⟨a, range, singleton, strict, fallback⟩ := q
  cases range with
  | some range => cases strict <;> cases fallback <;> rfl
  | none =>
    rw [← r.resolve_of_no_range rfl false]
    cases fallback <;> rfl

theorem simulate_eq_resolve (r : Registry Json) {o : LoadOptions} {range : Option VersionRange}
    (h : o.parsedRange = .ok range) :
    r.simulate o =
      ((r.resolve (o.request range)).1.map fun loaded =>
        { loader := Loader.select range.isSome o.strict o.singleton o.fallback.isSome
          version := loaded.source.version?
          origin := loaded.source.origin?
          fallback := loaded.isFallback
          module := loaded.module
          warnings := (r.resolve (o.request range)).2.warnings.drop r.warnings.length },
      (r.resolve (o.request range)).2) := by
  have hinvoke := r.invoke_select (o.request range)
  simp only [LoadOptions.request, Option.isSome_map] at hinvoke
  simp only [simulate, h, hinvoke, LoadOptions.request]

/-- Calls the loader function of that name, if there is one. -/
def invokeByName (r : Registry μ) (name : String) (a : Address) (range : Option VersionRange)
    (fallback : Option (Factory μ)) : Option (Except LoadError (Loaded μ) × Registry μ) :=
  (Loader.ofName? name).map fun f => r.invoke f a range fallback

theorem invokeByName_name (r : Registry μ) (f : Loader) (a : Address)
    (range : Option VersionRange) (fallback : Option (Factory μ)) :
    r.invokeByName f.name a range fallback = some (r.invoke f a range fallback) := by
  rw [invokeByName, (Loader.ofName?_eq_some_iff f.name f).mpr rfl, Option.map_some]

theorem invokeByName_of_not_versioned (r : Registry μ) {name : String}
    (h : ¬ "VersionCheck".toList <:+: name.toList) (a : Address)
    (range range' : Option VersionRange) (fallback : Option (Factory μ)) :
    r.invokeByName name a range fallback = r.invokeByName name a range' fallback := by
  unfold invokeByName
  cases hname : Loader.ofName? name with
  | none => rfl
  | some f =>
    rw [← (Loader.ofName?_eq_some_iff name f).mp hname, ← f.isVersioned_iff] at h
    simp only [Option.map_some, invoke, loaderRequest, h, Bool.false_eq_true, if_false]

theorem invokeByName_of_no_fallback (r : Registry μ) {name : String}
    (h : ¬ "Fallback".toList <:+: name.toList) (a : Address)
    (range : Option VersionRange) (fallback fallback' : Option (Factory μ)) :
    r.invokeByName name a range fallback = r.invokeByName name a range fallback' := by
  unfold invokeByName
  cases hname : Loader.ofName? name with
  | none => rfl
  | some f =>
    rw [← (Loader.ofName?_eq_some_iff name f).mp hname, ← f.fallback_iff] at h
    simp only [Option.map_some, invoke, loaderRequest, h, Bool.false_eq_true, if_false]

/-- The loader function that ends with `Fallback` exactly if there is one makes the request that its
name describes. -/
theorem invokeByName_ending (r : Registry μ) (check : VersionCheck) (singleton : Bool) (a : Address)
    (range : Option VersionRange) (fallback : Option (Factory μ)) :
    r.invokeByName ((Loader.mk check singleton false).name ++ fallbackEnding fallback) a range
        fallback =
      some (r.resolve {
        address := a
        range := if check = .unchecked then none else range
        singleton := singleton
        strict := check = .strict
        fallback := fallback }) := by
  have hname : (Loader.mk check singleton false).name ++ fallbackEnding fallback =
      (Loader.mk check singleton fallback.isSome).name := by
    cases fallback <;> simp [Loader.name, Loader.isStrict, Loader.isVersioned, fallbackEnding]
  rw [hname, invokeByName_name]
  cases check <;> cases fallback <;> rfl

/-- A simulated load whose range parses gives what `resolve` gives for the same request, with the
warnings that were added, and leaves the same registry.  Strictness without a range has no effect.
Each method is the loader function of its name, which ends with `Fallback` exactly if there is one.
A loader function without `VersionCheck` in its name ignores the range and one without `Fallback`
the fallback. -/
theorem loaders_agree_with_resolve (r : Registry μ) :
    (∀ (registry : Registry Json) (o : LoadOptions) (range : Option VersionRange),
      o.parsedRange = .ok range →
      ∃ warnings, (registry.resolve (o.request range)).2.warnings =
          registry.warnings ++ warnings ∧
        registry.simulate o =
          ((registry.resolve (o.request range)).1.map fun loaded =>
            { loader := Loader.select range.isSome o.strict o.singleton o.fallback.isSome
              version := loaded.source.version?
              origin := loaded.source.origin?
              fallback := loaded.isFallback
              module := loaded.module
              warnings },
          (registry.resolve (o.request range)).2)) ∧
    (∀ (q : Request μ) (strict : Bool), q.range = none →
      r.resolve { q with strict } = r.resolve q) ∧
    (∀ (a : Address) (fallback : Option (Factory μ)) (range : VersionRange)
        (unread : Option VersionRange),
      let call (name : String) := r.invokeByName (name ++ fallbackEnding fallback) a
      call "load" unread fallback = some (r.load a fallback) ∧
      call "loadSingleton" unread fallback = some (r.loadSingleton a fallback) ∧
      call "loadVersionCheck" (some range) fallback = some (r.loadVersionCheck a range fallback) ∧
      call "loadStrictVersionCheck" (some range) fallback =
        some (r.loadStrictVersionCheck a range fallback) ∧
      call "loadSingletonVersionCheck" (some range) fallback =
        some (r.loadSingletonVersionCheck a range fallback) ∧
      call "loadStrictSingletonVersionCheck" (some range) fallback =
        some (r.loadStrictSingletonVersionCheck a range fallback)) ∧
    ∀ (name : String) (a : Address) (range range' : Option VersionRange)
        (fallback fallback' : Option (Factory μ)),
      (¬ "VersionCheck".toList <:+: name.toList →
        r.invokeByName name a range fallback = r.invokeByName name a range' fallback) ∧
      (¬ "Fallback".toList <:+: name.toList →
        r.invokeByName name a range fallback = r.invokeByName name a range fallback') := by
  refine ⟨fun registry o range hrange => ?_, fun q strict hnone => ?_,
    fun a fallback range unread => ⟨?_, ?_, ?_, ?_, ?_, ?_⟩,
    fun name a range range' fallback fallback' => ⟨fun hname => ?_, fun hname => ?_⟩⟩
  · obtain ⟨_, hwarnings, _⟩ := resolve_eq_answer registry (o.request range)
    refine ⟨_, hwarnings, ?_⟩
    rw [registry.simulate_eq_resolve hrange, hwarnings, List.drop_left]
  · exact r.resolve_of_no_range hnone strict
  · exact r.invokeByName_ending .unchecked false a unread fallback
  · exact r.invokeByName_ending .unchecked true a unread fallback
  · exact r.invokeByName_ending .lenient false a (some range) fallback
  · exact r.invokeByName_ending .strict false a (some range) fallback
  · exact r.invokeByName_ending .lenient true a (some range) fallback
  · exact r.invokeByName_ending .strict true a (some range) fallback
  · exact r.invokeByName_of_not_versioned hname a range range' fallback
  · exact r.invokeByName_of_no_fallback hname a range fallback fallback'

/-- A consumer with a module of its own that wants to share another version than the active one. -/
def outdated : LoadOptions where
  address := react
  range := some "^1"
  singleton := true
  fallback := some "local"

theorem loaders_agree_with_resolve_outdated :
    let r := (empty.session mendedModule).2
    let caret : VersionRange := ⟨[[⟨.caret, { major := some 1 }⟩]]⟩
    outdated.parsedRange = .ok (some caret) ∧
    (r.simulate outdated).1.toOption.map
        (fun outcome => (outcome.version, outcome.origin, outcome.fallback, outcome.warnings)) =
      some (some ⟨2, 0, 0, [], []⟩, some "next", false,
        [(conflict (outdated.request (some caret)) ⟨2, 0, 0, [], []⟩).message]) ∧
    (r.simulate outdated).2 = (r.resolve (outdated.request (some caret))).2 ∧
    r.resolve { address := react, strict := true } = r.resolve { address := react } ∧
    r.invokeByName "loadSingletonFallback" react (some caret) none =
      r.invokeByName "loadSingletonFallback" react none none ∧
    r.invokeByName "loadSingleton" react none (some (.ok (fallbackModule "local"))) =
      some (r.loadSingleton react none) := by
  intro r caret
  obtain ⟨hsimulate, hstrict, hmethods, hignored⟩ := loaders_agree_with_resolve r
  have hrange : outdated.parsedRange = .ok (some caret) := rfl
  obtain ⟨warnings, _, hsimulated⟩ := hsimulate r outdated (some caret) hrange
  have hrange' := (hignored "loadSingletonFallback" react (some caret) none none none).1 (by decide)
  have hfallback := (hignored "loadSingleton" react none none
    (some (.ok (fallbackModule "local"))) none).2 (by decide)
  refine ⟨hrange, rfl, by rw [hsimulated], hstrict { address := react } true rfl, hrange', ?_⟩
  exact hfallback.trans (hmethods react none caret none).2.1

end Registry

end ModuleSharing
