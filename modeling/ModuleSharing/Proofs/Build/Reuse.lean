import ModuleSharing.Build.Run
import ModuleSharing.Proofs.Bundle.Dedup
import ModuleSharing.Proofs.Dictionary
import ModuleSharing.Proofs.Fingerprint

/-! Builds that use units of earlier builds again: a build after others has the chunks and the
code of a build from nothing (`run_after_builds`), though not the options of its units.  Here a
build hands its cache on to the next; that whole builds do so through files is `Kept.load`. -/

namespace ModuleSharing

namespace Pipeline

/-! ## A run as a list of units -/

/-- The unit that a descriptor becomes, if it becomes one. -/
def preparedUnit? (files : Files) (context : String) (d : ShareDescriptor) : Option SharedUnit :=
  match (files.prepare context d).result with
  | .unit u => some u
  | _ => none

/-- The units that descriptors become. -/
def preparedUnits (files : Files) (context : String) (ds : List ShareDescriptor) :
    List SharedUnit :=
  ds.filterMap (preparedUnit? files context)

/-- What is reported while a descriptor is prepared. -/
def preparationEvents (files : Files) (context : String) (d : ShareDescriptor) :
    List BuildEvent :=
  (files.prepare context d).warnings.map (.diagnostic .warning) ++
    match (files.prepare context d).result with
    | .unit _ => []
    | .skipped reason => [.unitSkipped d.shareKey reason]
    | .failed e => [.diagnostic .error e.message]

variable {files : Files} {context : String} {cache : Option BuildCache}

theorem foldl_add (ds : List ShareDescriptor) (p : Pipeline) :
    ds.foldl (add files context cache) p =
      { graph := ((preparedUnits files context ds).map (cachedUnit cache)).foldl
          (fun g u => (g.addUnit u).2.2) p.graph
        events := p.events ++ ds.flatMap (preparationEvents files context) } := by
  induction ds generalizing p with
  | nil => simp [preparedUnits]
  | cons d ds ih =>
    rw [List.foldl_cons, ih, add]
    cases hresult : (files.prepare context d).result <;>
      simp [preparedUnits, preparedUnit?, preparationEvents, hresult]

theorem graph_run (ds : List ShareDescriptor) :
    (run files context cache ds).graph =
      (ModuleGraph.collect ((preparedUnits files context ds).map (cachedUnit cache))).build
        (files.resolveModule? context) := by
  simp only [run, foldl_add]
  rfl

/-- Only preparing units gives rise to errors, warnings and omissions. -/
theorem events_run (ds : List ShareDescriptor) :
    (run files context cache ds).events = ds.flatMap (preparationEvents files context) ++
      (run files context cache ds).units.flatMap unitEvents := by
  simp [run, foldl_add]

theorem eq_ofDescriptor_of_admitted {d : ShareDescriptor} {version : Option Version}
    {mode : FilterMode} {u : SharedUnit} (h : d.admitted version mode = .unit u) :
    u = .ofDescriptor d := by
  unfold ShareDescriptor.admitted at h
  split at h
  · exact (Prepared.unit.inj h).symm
  · contradiction
  · contradiction

theorem exists_prepared {ds : List ShareDescriptor} {u : SharedUnit}
    (h : u ∈ preparedUnits files context ds) :
    ∃ d ∈ ds, (files.prepare context d).result = .unit u := by
  obtain ⟨d, hd, hprepared⟩ := List.mem_filterMap.mp h
  unfold preparedUnit? at hprepared
  split at hprepared
  · rename_i hunit
    exact ⟨d, hd, by rw [hunit, Option.some.inj hprepared]⟩
  · contradiction

/-- A descriptor becomes the unit of a descriptor, which is not built yet. -/
theorem exists_ofDescriptor {ds : List ShareDescriptor} {u : SharedUnit}
    (h : u ∈ preparedUnits files context ds) : ∃ d, u = .ofDescriptor d := by
  obtain ⟨d, _, hresult⟩ := exists_prepared h
  unfold Files.prepare Files.prepareConsume Files.prepareProvide at hresult
  split at hresult <;> split at hresult
  · exact ⟨_, eq_ofDescriptor_of_admitted hresult⟩
  · exact ⟨_, eq_ofDescriptor_of_admitted hresult⟩
  · contradiction
  · exact ⟨_, eq_ofDescriptor_of_admitted hresult⟩

/-! ## Units of the cache -/

/-- The cached unit has the identifier that it was looked up by. -/
theorem cachedUnit_cases (c : BuildCache) (u : SharedUnit) :
    cachedUnit (some c) u = u ∨
      cachedUnit (some c) u ∈ c.units ∧ (cachedUnit (some c) u).identifier = u.identifier := by
  unfold cachedUnit
  cases hfind : c.unit? u.identifier with
  | none => simp [hfind]
  | some v =>
    have hmem := List.mem_of_find?_eq_some hfind
    have hident := List.find?_some hfind
    simp_all

theorem identifier_cachedUnit (cache : Option BuildCache) (u : SharedUnit) :
    (cachedUnit cache u).identifier = u.identifier := by
  cases cache with
  | none => rfl
  | some c =>
    rcases cachedUnit_cases c u with h | ⟨_, h⟩
    · rw [h]
    · exact h

end Pipeline

namespace ModuleGraph

/-- Which units are kept depends on their identifiers only. -/
theorem foldl_keepFirst_map {f : SharedUnit → SharedUnit}
    (h : ∀ u, (f u).identifier = u.identifier) (us kept : List SharedUnit) :
    (us.map f).foldl keepFirst (kept.map f) = (us.foldl keepFirst kept).map f := by
  induction us generalizing kept with
  | nil => rfl
  | cons u us ih =>
    have hstep : keepFirst (kept.map f) (f u) = (keepFirst kept u).map f := by
      unfold keepFirst
      have hidents : (kept.map f).map SharedUnit.identifier = kept.map SharedUnit.identifier := by
        simp [h]
      rw [hidents, h]
      split <;> simp
    rw [List.map_cons, List.foldl_cons, List.foldl_cons, hstep, ih]

end ModuleGraph

namespace Pipeline

variable {files : Files} {context : String} {cache : Option BuildCache}

/-- The units that descriptors become, of several with one identifier the first. -/
def keptUnits (files : Files) (context : String) (ds : List ShareDescriptor) : List SharedUnit :=
  (preparedUnits files context ds).foldl ModuleGraph.keepFirst []

/-- The units in the cache are built. -/
def CacheBuilt (cache : Option BuildCache) : Prop := ∀ c ∈ cache, ∀ v ∈ c.units, v.build = v

theorem cacheBuilt_none : CacheBuilt none := fun _ h => absurd h (Option.not_mem_none _)

theorem cacheBuilt_some {c : BuildCache} (h : ∀ v ∈ c.units, v.build = v) :
    CacheBuilt (some c) := by
  intro c' hc' v hv
  cases hc'
  exact h v hv

theorem builtFrom_run (hcache : CacheBuilt cache) (files : Files) (context : String)
    (ds : List ShareDescriptor) :
    ModuleGraph.BuiltFrom (files.resolveModule? context)
      ((keptUnits files context ds).map (cachedUnit cache)) (run files context cache ds).graph := by
  have hkept := ModuleGraph.foldl_keepFirst_map (identifier_cachedUnit cache)
    (preparedUnits files context ds) []
  rw [graph_run, ModuleGraph.collect_eq]
  rw [List.map_nil] at hkept
  rw [hkept]
  apply ModuleGraph.builtFrom_build
  rw [List.forall_mem_map]
  intro u hu
  have hnew : u.Buildable := by
    obtain ⟨d, rfl⟩ := exists_ofDescriptor (ModuleGraph.mem_of_mem_kept hu)
    exact .of_new rfl
  cases hsome : cache with
  | none => exact hnew
  | some c =>
    rcases cachedUnit_cases c u with h | ⟨h, _⟩
    · rwa [h]
    · exact .of_built (hcache c hsome _ h)

theorem units_run (hcache : CacheBuilt cache) (files : Files) (context : String)
    (ds : List ShareDescriptor) :
    (run files context cache ds).graph.units =
      (keptUnits files context ds).map fun u => (cachedUnit cache u).build := by
  rw [(builtFrom_run hcache files context ds).units, List.map_map]
  rfl

theorem units_eq (ds : List ShareDescriptor) :
    (run files context cache ds).units = (run files context cache ds).graph.units.map
      (finishUnit context cache ((run files context cache ds).graph.chunkGraph context)) := rfl

/-- What is reported beside the units does not depend on the cache. -/
theorem filterMap_events_run {β : Type} (f : BuildEvent → Option β)
    (hbuilt : ∀ identifier readable fresh, f (.unitBuilt identifier readable fresh) = none)
    (hcode : ∀ identifier call source init needs,
      f (.codeGenerated identifier call source init needs) = none) (ds : List ShareDescriptor) :
    (run files context cache ds).events.filterMap f =
      (ds.flatMap (preparationEvents files context)).filterMap f := by
  have hnone : ((run files context cache ds).units.flatMap unitEvents).filterMap f = [] := by
    rw [List.filterMap_eq_nil_iff]
    intro e he
    obtain ⟨u, _, he⟩ := List.mem_flatMap.mp he
    simp only [unitEvents, List.mem_cons, List.not_mem_nil, or_false] at he
    rcases he with rfl | rfl
    · exact hbuilt _ _ _
    · exact hcode _ _ _ _ _
  rw [events_run, List.filterMap_append, hnone, List.append_nil]

/-- Chunks are the same with the cache if cached units want the same. -/
theorem chunkGraph_run (hcache : CacheBuilt cache) (files : Files) (context : String)
    {ds : List ShareDescriptor} (hwanted : ∀ u ∈ keptUnits files context ds,
      ModuleGraph.wanted (cachedUnit cache u).build = ModuleGraph.wanted u.build) :
    (run files context cache ds).graph.chunkGraph context =
      (run files context none ds).graph.chunkGraph context := by
  have hbuilt := builtFrom_run hcache files context ds
  have hplain := builtFrom_run cacheBuilt_none files context ds
  have hsame : ModuleGraph.wantedBuilt ((keptUnits files context ds).map (cachedUnit cache)) =
      ModuleGraph.wantedBuilt ((keptUnits files context ds).map (cachedUnit none)) := by
    simp only [ModuleGraph.wantedBuilt, List.flatMap_map]
    exact List.flatMap_congr hwanted
  refine ModuleGraph.chunkGraph_congr hbuilt.placed hplain.placed ?_ (fun r => ?_) context
  · rw [hbuilt.locals, hplain.locals, hsame]
  · rw [hbuilt.needsAtOnce, hplain.needsAtOnce, hsame]

end Pipeline

/-! ## Builds one after the other -/

/-- A build in the past: the project's files at that time and what it shared. -/
structure PastBuild where
  files : Files
  descriptors : List ShareDescriptor

namespace BuildCache

/-- The units of some builds, each with the cache that the one before it left. -/
def pastUnits (context : String) : BuildCache → List PastBuild → List (List SharedUnit)
  | _, [] => []
  | c, b :: bs =>
    let units := (Pipeline.run b.files context (some c) b.descriptors).graph.units
    units :: pastUnits context (c.update units) bs

/-- The cache that some builds left. -/
def after (context : String) (bs : List PastBuild) : BuildCache :=
  (pastUnits context {} bs).foldl update {}

/-- The unit that last had an identifier. -/
def lastUnit? (context : String) (bs : List PastBuild) (identifier : String) :
    Option SharedUnit :=
  (pastUnits context {} bs).flatten.reverse.find? (·.identifier == identifier)

variable {context : String}

/-- What all units have that builds can make, all units of the builds have. -/
theorem forall_mem_pastUnits {P : SharedUnit → Prop} (hbuilt : ∀ v, P v → v.build = v)
    {bs : List PastBuild}
    (hnew : ∀ b ∈ bs, ∀ u ∈ Pipeline.preparedUnits b.files context b.descriptors, P u.build)
    {c : BuildCache} (hcache : ∀ v ∈ c.units, P v) :
    ∀ us ∈ pastUnits context c bs, ∀ v ∈ us, P v := by
  induction bs generalizing c with
  | nil => exact List.forall_mem_nil _
  | cons b bs ih =>
    obtain ⟨hfirst, hrest⟩ := List.forall_mem_cons.mp hnew
    have hunits : ∀ v ∈ (Pipeline.run b.files context (some c) b.descriptors).graph.units, P v := by
      have hbuild : ∀ v ∈ c.units, v.build = v := fun v hv => hbuilt v (hcache v hv)
      rw [Pipeline.units_run (Pipeline.cacheBuilt_some hbuild), List.forall_mem_map]
      intro u hu
      rcases Pipeline.cachedUnit_cases c u with h | ⟨h, _⟩
      · rw [h]
        exact hfirst u (ModuleGraph.mem_of_mem_kept hu)
      · rw [hbuild _ h]
        exact hcache _ h
    exact List.forall_mem_cons.mpr ⟨hunits, ih hrest hunits⟩

theorem mem_units_foldl_update {builds : List (List SharedUnit)} {c : BuildCache} {v : SharedUnit}
    (h : v ∈ (builds.foldl update c).units) : v ∈ c.units ∨ ∃ us ∈ builds, v ∈ us := by
  induction builds generalizing c with
  | nil => exact .inl h
  | cons us builds ih =>
    right
    rcases ih h with h | ⟨us', hus', h⟩
    · exact ⟨us, List.mem_cons_self .., h⟩
    · exact ⟨us', List.mem_cons_of_mem _ hus', h⟩

theorem fingerprints_foldl_update (builds : List (List SharedUnit)) (c : BuildCache) :
    (builds.foldl update c).fingerprints =
      builds.flatten.foldl (fun known u => known.insert u.identifier u.hash) c.fingerprints := by
  induction builds generalizing c with
  | nil => rfl
  | cons us builds ih =>
    rw [List.foldl_cons, ih, List.flatten_cons, List.foldl_append]
    rfl

/-- Of several units with one identifier, the last has left its fingerprint. -/
theorem get?_foldl_insert (us : List SharedUnit) (identifier : String) :
    (us.foldl (fun known u => known.insert u.identifier u.hash)
        (.empty : Dictionary String String)).get? identifier =
      (us.reverse.find? (·.identifier == identifier)).map SharedUnit.hash := by
  induction us using List.reverseRecOn with
  | nil => rfl
  | append_singleton us u ih =>
    rw [List.foldl_append, List.reverse_append, List.reverse_singleton, List.singleton_append,
      List.find?_cons]
    by_cases hident : u.identifier = identifier
    · subst hident
      simp [Dictionary.get?_insert_self]
    · have hother : (u.identifier == identifier) = false := beq_eq_false_iff_ne.mpr hident
      rw [hother]
      simpa [Dictionary.get?_insert_of_ne _ (Ne.symm hident)] using ih

theorem isFresh_after (bs : List PastBuild) (u : SharedUnit) :
    (after context bs).isFresh u = true ↔
      ∃ w, lastUnit? context bs u.identifier = some w ∧ w.hash = u.hash := by
  have hknown : (after context bs).fingerprints.get? u.identifier =
      (lastUnit? context bs u.identifier).map SharedUnit.hash := by
    rw [after, fingerprints_foldl_update]
    exact get?_foldl_insert _ _
  rw [isFresh, hknown, beq_iff_eq, Option.map_eq_some_iff]

end BuildCache

/-! ## Fingerprints -/

namespace SharedUnit

/-- The bytes that a fingerprint is made from. -/
def message (u : SharedUnit) : List UInt8 :=
  [Fingerprint.Part.text u.identifier, .json u.options.toJson].flatMap Fingerprint.Part.bytes

/-- The fingerprints of two units are different if what they are made from is. -/
def CollisionFree (u v : SharedUnit) : Prop := u.hash = v.hash → u.message = v.message

theorem options_eq_of_hash_eq {u v : SharedUnit} (hu : u.options.Legible) (hv : v.options.Legible)
    (hfree : CollisionFree u v) (hident : u.identifier = v.identifier) (hhash : u.hash = v.hash) :
    u.options = v.options := by
  have hmessage := hfree hhash
  simp only [message, List.flatMap_cons, List.flatMap_nil, List.append_nil,
    Fingerprint.Part.bytes, hident] at hmessage
  have htext := Fingerprint.terminated_inj (List.append_cancel_left hmessage)
  have hread := Json.decodeText_compact (u.options.nested_toJson 125)
    (ShareDescriptor.decodeValue_toJson hu)
  have hread' := Json.decodeText_compact (v.options.nested_toJson 125)
    (ShareDescriptor.decodeValue_toJson hv)
  rw [htext, hread'] at hread
  exact (Except.ok.inj hread).symm

end SharedUnit

/-! ## Runs with a cache and without -/

/-- The same identifier and the same code.  Only what a consuming unit tells of its options, and how
it is named and whether it is fresh, may differ. -/
structure BuiltUnit.SameOutput (a b : BuiltUnit) : Prop where
  identifier : a.identifier = b.identifier
  sources : a.code.sources = b.code.sources
  requirements : a.code.requirements = b.code.requirements
  loaderCall : a.code.loaderCall = b.code.loaderCall
  init : a.code.init = b.code.init
  data : ∀ name, name ≠ SourceType.consumeShared.name →
    a.code.data.lookup name = b.code.data.lookup name

namespace Pipeline

variable {files : Files} {context : String} {cache : Option BuildCache} {past : List PastBuild}

/-- A cached unit is one that was built from a descriptor. -/
theorem exists_build_of_mem_after {v : SharedUnit} (h : v ∈ (BuildCache.after context past).units) :
    ∃ d, v = (SharedUnit.ofDescriptor d).build := by
  obtain hempty | ⟨us, hus, hv⟩ := BuildCache.mem_units_foldl_update h
  · exact absurd hempty List.not_mem_nil
  · refine BuildCache.forall_mem_pastUnits (P := fun v => ∃ d, v = (SharedUnit.ofDescriptor d).build)
      ?_ ?_ (List.forall_mem_nil _) us hus v hv
    · rintro v ⟨d, rfl⟩
      rfl
    · intro b _ u hu
      obtain ⟨d, rfl⟩ := exists_ofDescriptor hu
      exact ⟨d, rfl⟩

theorem cacheBuilt_after (context : String) (past : List PastBuild) :
    CacheBuilt (some (BuildCache.after context past)) := by
  apply cacheBuilt_some
  intro v hv
  obtain ⟨d, rfl⟩ := exists_build_of_mem_after hv
  rfl

/-- The unit of the cached run that stands where `u` stands without the cache. -/
theorem sameCode_cachedUnit {u : SharedUnit}
    (hcached : (cachedUnit cache u).build.Separable) (hplain : u.build.Separable) :
    (cachedUnit cache u).build.SameCode u.build :=
  SharedUnit.sameCode_of_identifier_eq hcached hplain (identifier_cachedUnit cache u)

/-- A cached unit with the options of the new one is the new one. -/
theorem build_cachedUnit {ds : List ShareDescriptor} {u : SharedUnit}
    (hu : u ∈ keptUnits files context ds)
    (hsame : ∀ v ∈ (BuildCache.after context past).units, v.identifier = u.identifier →
      v.options = u.options) :
    (cachedUnit (some (BuildCache.after context past)) u).build = u.build := by
  rcases cachedUnit_cases (BuildCache.after context past) u with h | ⟨hmem, hident⟩
  · rw [h]
  · have hoptions := hsame _ hmem hident
    obtain ⟨d, hd⟩ := exists_build_of_mem_after hmem
    obtain ⟨d', rfl⟩ := exists_ofDescriptor (ModuleGraph.mem_of_mem_kept hu)
    rw [hd] at hoptions ⊢
    have hdescriptor : d = d' := hoptions
    rw [hdescriptor]
    rfl

/-- Units that a run and one without the cache put in the same place, compared one by one. -/
theorem forall₂_units_run (hcache : CacheBuilt cache) (ds : List ShareDescriptor)
    {R : BuiltUnit → BuiltUnit → Prop}
    (h : ∀ u ∈ keptUnits files context ds,
      R (finishUnit context cache ((run files context cache ds).graph.chunkGraph context)
          (cachedUnit cache u).build)
        (finishUnit context none ((run files context none ds).graph.chunkGraph context) u.build)) :
    List.Forall₂ R (run files context cache ds).units (run files context none ds).units := by
  rw [units_eq, units_eq, units_run hcache, units_run cacheBuilt_none, List.map_map, List.map_map,
    List.forall₂_map_left_iff, List.forall₂_map_right_iff, List.forall₂_same]
  exact h

theorem sameOutput_run (hcache : CacheBuilt cache) (ds : List ShareDescriptor)
    (hcached : ∀ v ∈ (run files context cache ds).graph.units, v.Separable)
    (hplain : ∀ u ∈ (run files context none ds).graph.units, u.Separable) :
    List.Forall₂ BuiltUnit.SameOutput (run files context cache ds).units
      (run files context none ds).units := by
  rw [units_run hcache, List.forall_mem_map] at hcached
  rw [units_run cacheBuilt_none, List.forall_mem_map] at hplain
  have hsame : ∀ u ∈ keptUnits files context ds,
      (cachedUnit cache u).build.SameCode u.build :=
    fun u hu => sameCode_cachedUnit (hcached u hu) (hplain u hu)
  have hwanted : ∀ u ∈ keptUnits files context ds,
      ModuleGraph.wanted (cachedUnit cache u).build = ModuleGraph.wanted u.build := by
    intro u hu
    -- Building a unit again changes nothing.
    show ModuleGraph.wanted (cachedUnit cache u).build.build = ModuleGraph.wanted u.build.build
    exact ModuleGraph.wanted_build_eq_of_sameCode (hsame u hu)
  have hchunks := chunkGraph_run hcache files context hwanted
  refine forall₂_units_run hcache ds fun u hu => ?_
  rw [hchunks]
  exact {
    identifier := identifier_cachedUnit cache u
    sources := (hsame u hu).sources _
    requirements := (hsame u hu).requirements _
    loaderCall := (hsame u hu).loaderCall _
    init := (hsame u hu).init _
    data := (hsame u hu).data _ }

theorem units_run_after_of_options (ds : List ShareDescriptor)
    (hsame : ∀ v ∈ (BuildCache.after context past).units,
      ∀ u ∈ (run files context none ds).graph.units,
        v.identifier = u.identifier → v.options = u.options) :
    List.Forall₂ (fun a b => a = { b with fresh := a.fresh })
      (run files context (some (BuildCache.after context past)) ds).units
      (run files context none ds).units := by
  rw [units_run cacheBuilt_none] at hsame
  have hbuild : ∀ u ∈ keptUnits files context ds,
      (cachedUnit (some (BuildCache.after context past)) u).build = u.build :=
    fun u hu => build_cachedUnit hu fun v hv => hsame v hv u.build (List.mem_map_of_mem hu)
  have hchunks := chunkGraph_run (cacheBuilt_after context past) files context fun u hu =>
    congrArg ModuleGraph.wanted (hbuild u hu)
  refine forall₂_units_run (cacheBuilt_after context past) ds fun u hu => ?_
  rw [hchunks, hbuild u hu]
  rfl

/-- A run with the cache that earlier builds left reports the same as a run without it and has units
of the same identifiers in the same order.  They have the same code if identifiers can be taken
apart, and they are the same but for their freshness if no cached unit has other options than the
new one.  A unit is fresh only if the last unit of its identifier had the same fingerprint, and so
the same options. -/
theorem run_after_builds (context : String) (past : List PastBuild) (files : Files)
    (ds : List ShareDescriptor) :
    let cache := BuildCache.after context past
    let cached := run files context (some cache) ds
    let plain := run files context none ds
    let report (r : PipelineResult) : BuildReport := { events := r.events }
    ((report cached).errors = (report plain).errors ∧
      (report cached).warnings = (report plain).warnings ∧
      (report cached).skipped = (report plain).skipped) ∧
    cached.units.map BuiltUnit.identifier = plain.units.map BuiltUnit.identifier ∧
    ((∀ v ∈ cached.graph.units, v.Separable) → (∀ u ∈ plain.graph.units, u.Separable) →
      List.Forall₂ BuiltUnit.SameOutput cached.units plain.units) ∧
    ((∀ v ∈ cache.units, ∀ u ∈ plain.graph.units,
        v.identifier = u.identifier → v.options = u.options) →
      List.Forall₂ (fun a b => a = { b with fresh := a.fresh }) cached.units plain.units) ∧
    ∀ v ∈ cached.graph.units, cache.isFresh v = true →
      ∃ w, BuildCache.lastUnit? context past v.identifier = some w ∧ w.hash = v.hash ∧
        (w.options.Legible → v.options.Legible → w.CollisionFree v → w.options = v.options) := by
  intro cache cached plain report
  have hcache := cacheBuilt_after context past
  have hreported {β : Type} (f : BuildEvent → Option β)
      (hbuilt : ∀ identifier readable fresh, f (.unitBuilt identifier readable fresh) = none)
      (hcode : ∀ identifier call source init needs,
        f (.codeGenerated identifier call source init needs) = none) :
      cached.events.filterMap f = plain.events.filterMap f :=
    (filterMap_events_run f hbuilt hcode ds).trans (filterMap_events_run f hbuilt hcode ds).symm
  refine ⟨⟨?_, ?_, ?_⟩, ?_, sameOutput_run hcache ds, units_run_after_of_options ds, ?_⟩
  · exact hreported _ (fun _ _ _ => rfl) (fun _ _ _ _ _ => rfl)
  · exact hreported _ (fun _ _ _ => rfl) (fun _ _ _ _ _ => rfl)
  · exact hreported _ (fun _ _ _ => rfl) (fun _ _ _ _ _ => rfl)
  · rw [← List.forall₂_eq_eq_eq, List.forall₂_map_left_iff, List.forall₂_map_right_iff]
    exact forall₂_units_run hcache ds fun u _ => identifier_cachedUnit (some cache) u
  · intro v _ hfresh
    obtain ⟨w, hlast, hhash⟩ := (BuildCache.isFresh_after past v).mp hfresh
    have hident : w.identifier = v.identifier := by simpa using List.find?_some hlast
    exact ⟨w, hlast, hhash, fun hw hv hfree =>
      SharedUnit.options_eq_of_hash_eq hw hv hfree hident hhash⟩

/-! ## A second build for another layer -/

open ModuleGraph (reactFor separable_reactFor)

def emptyProject : Files where
  root := .folder []
  here := "/"

theorem keptUnits_reactFor (files : Files) (context issuerLayer : String) :
    keptUnits files context [reactFor issuerLayer] = [.ofDescriptor (reactFor issuerLayer)] := rfl

theorem pastUnits_reactFor (files : Files) (context issuerLayer : String) :
    BuildCache.pastUnits context {} [⟨files, [reactFor issuerLayer]⟩] =
      [[(SharedUnit.ofDescriptor (reactFor issuerLayer)).build]] := by
  have hempty : CacheBuilt (some {}) := cacheBuilt_some (List.forall_mem_nil _)
  rw [BuildCache.pastUnits, BuildCache.pastUnits, units_run hempty, keptUnits_reactFor]
  rfl

theorem units_after_reactFor (files : Files) (context issuerLayer : String) :
    (BuildCache.after context [⟨files, [reactFor issuerLayer]⟩]).units =
      [(SharedUnit.ofDescriptor (reactFor issuerLayer)).build] := by
  rw [BuildCache.after, pastUnits_reactFor]
  rfl

theorem isFresh_after_reactFor (files : Files) (context issuerLayer : String) :
    (BuildCache.after context [⟨files, [reactFor issuerLayer]⟩]).isFresh
      (SharedUnit.ofDescriptor (reactFor issuerLayer)).build = true := by
  rw [BuildCache.isFresh_after]
  refine ⟨(SharedUnit.ofDescriptor (reactFor issuerLayer)).build, ?_, rfl⟩
  rw [BuildCache.lastUnit?, pastUnits_reactFor]
  simp

/-- The cache has a unit for the server, which has the identifier of the one for the client. -/
theorem units_run_reactFor {c : BuildCache}
    (hunits : c.units = [(SharedUnit.ofDescriptor (reactFor "server")).build]) (files : Files)
    (context : String) :
    (run files context (some c) [reactFor "client"]).graph.units =
      [(SharedUnit.ofDescriptor (reactFor "server")).build] := by
  have hident : (SharedUnit.ofDescriptor (reactFor "server")).build.identifier =
    (SharedUnit.ofDescriptor (reactFor "client")).identifier := rfl
  have hunit : c.unit? (SharedUnit.ofDescriptor (reactFor "client")).identifier =
      some (SharedUnit.ofDescriptor (reactFor "server")).build := by
    rw [BuildCache.unit?, hunits, ← hident, List.find?_cons_of_pos]
    simp [SharedUnit.needBuild, SharedUnit.build]
  have hbuilt : CacheBuilt (some c) := by
    apply cacheBuilt_some
    rw [hunits, List.forall_mem_singleton]
    exact SharedUnit.build_build _
  rw [units_run hbuilt, keptUnits_reactFor, List.map_singleton, cachedUnit, Option.bind_some, hunit,
    Option.getD_some, SharedUnit.build_build]

theorem fresh_run_reactFor {c : BuildCache}
    (hunits : c.units = [(SharedUnit.ofDescriptor (reactFor "server")).build])
    (hfresh : c.isFresh (SharedUnit.ofDescriptor (reactFor "server")).build = true) (files : Files)
    (context : String) :
    (run files context (some c) [reactFor "client"]).units.map BuiltUnit.fresh = [true] := by
  rw [units_eq, units_run_reactFor hunits, List.map_singleton, List.map_singleton, finishUnit,
    Option.any_some, hfresh]

/-- The unit is used again for the other layer, and its code is right for that layer too. -/
theorem run_after_builds_reactFor :
    let cache := BuildCache.after "/" [⟨emptyProject, [reactFor "server"]⟩]
    let cached := run emptyProject "/" (some cache) [reactFor "client"]
    let plain := run emptyProject "/" none [reactFor "client"]
    cached.graph.units = [(SharedUnit.ofDescriptor (reactFor "server")).build] ∧
      List.Forall₂ BuiltUnit.SameOutput cached.units plain.units := by
  have hcached := units_run_reactFor (units_after_reactFor emptyProject "/" "server")
    emptyProject "/"
  obtain ⟨_, _, hsame, _⟩ :=
    run_after_builds "/" [⟨emptyProject, [reactFor "server"]⟩] emptyProject [reactFor "client"]
  refine ⟨hcached, hsame ?_ ?_⟩
  · rw [hcached, List.forall_mem_singleton]
    exact (separable_reactFor "server").build
  · rw [units_run cacheBuilt_none, keptUnits_reactFor, List.map_singleton,
      List.forall_mem_singleton]
    exact (separable_reactFor "client").build

/-- But it tells of the options of the first build, and is said to be as it was. -/
theorem run_after_builds_keeps_options :
    let cache := BuildCache.after "/" [⟨emptyProject, [reactFor "server"]⟩]
    let cached := run emptyProject "/" (some cache) [reactFor "client"]
    let plain := run emptyProject "/" none [reactFor "client"]
    cached.graph.units.map (fun u => u.options.issuerLayer) = [some "server"] ∧
      plain.graph.units.map (fun u => u.options.issuerLayer) = [some "client"] ∧
      cached.units.map BuiltUnit.fresh = [true] := by
  have hunits := units_after_reactFor emptyProject "/" "server"
  refine ⟨?_, ?_, ?_⟩
  · rw [units_run_reactFor hunits]
    rfl
  · rw [units_run cacheBuilt_none, keptUnits_reactFor]
    rfl
  · exact fresh_run_reactFor hunits (isFresh_after_reactFor emptyProject "/" "server")
      emptyProject "/"

end Pipeline

end ModuleSharing
