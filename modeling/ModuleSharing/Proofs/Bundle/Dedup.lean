import ModuleSharing.Proofs.Bundle.Identifier
import ModuleSharing.Proofs.Bundle.Linking

/-! A unit is in the graph once, so of several units with one identifier the first stands for all of
them.  No code is lost by that if their identifiers can be taken apart again
(`ModuleGraph.collect_keeps_code`); a layer that looks like a mark loses some
(`ModuleGraph.collect_loses_layer`). -/

namespace ModuleSharing

namespace SharedUnit

theorem build_build (u : SharedUnit) : u.build.build = u.build := rfl

/-- The unit is new, or it is what building it gives. -/
def Buildable (u : SharedUnit) : Prop := GraphNode.build (.shared u) = .shared u.build

theorem Buildable.of_new {u : SharedUnit} (h : u.needBuild = true) : u.Buildable := by
  simp [Buildable, GraphNode.build, h]

theorem Buildable.of_built {u : SharedUnit} (h : u.build = u) : u.Buildable := by
  have hboth : (if u.needBuild then u.build else u) = u.build := by rw [h, ite_self]
  exact congrArg GraphNode.shared hboth

end SharedUnit

namespace ModuleGraph

/-- The graph of some units, put in one after the other. -/
def collect (us : List SharedUnit) : ModuleGraph := us.foldl (fun g u => (g.addUnit u).2.2) {}

/-- A graph that has all of some units, also those with one identifier. -/
def keepAll (us : List SharedUnit) : ModuleGraph := { nodes := us.map .shared }

/-- Units with one more, unless its identifier is known. -/
def keepFirst (kept : List SharedUnit) (u : SharedUnit) : List SharedUnit :=
  if u.identifier ∈ kept.map SharedUnit.identifier then kept else kept ++ [u]

/-! ## The units that are kept -/

theorem units_keepAll (us : List SharedUnit) : (keepAll us).units = us := by
  simp [keepAll, units, List.filterMap_map, Function.comp_def, GraphNode.unit?]

theorem addUnit_keepAll (kept : List SharedUnit) (u : SharedUnit) :
    ((keepAll kept).addUnit u).2.2 = keepAll (keepFirst kept u) := by
  have hplace : (keepAll kept).nodes.findIdx? (·.isUnit u.identifier) =
      kept.findIdx? (·.identifier == u.identifier) := by
    simp [keepAll, List.findIdx?_map, Function.comp_def, GraphNode.isUnit, GraphNode.unit?]
  unfold addUnit keepFirst
  rw [hplace]
  cases hfind : kept.findIdx? (·.identifier == u.identifier) with
  | none =>
    have hnew : u.identifier ∉ kept.map SharedUnit.identifier := by
      simpa using List.findIdx?_eq_none_iff.mp hfind
    simp [hnew, keepAll]
  | some i =>
    obtain ⟨hi, hsame, _⟩ := List.findIdx?_eq_some_iff_getElem.mp hfind
    have hknown : u.identifier ∈ kept.map SharedUnit.identifier :=
      List.mem_map.mpr ⟨kept[i], List.getElem_mem hi, by simpa using hsame⟩
    simp [hknown]

theorem collect_eq (us : List SharedUnit) : collect us = keepAll (us.foldl keepFirst []) := by
  have hfrom (kept : List SharedUnit) :
      us.foldl (fun g u => (g.addUnit u).2.2) (keepAll kept) =
        keepAll (us.foldl keepFirst kept) := by
    induction us generalizing kept with
    | nil => rfl
    | cons u us ih => rw [List.foldl_cons, List.foldl_cons, addUnit_keepAll, ih]
  exact hfrom []

theorem mem_keepFirst {kept : List SharedUnit} {u v : SharedUnit} (h : v ∈ keepFirst kept u) :
    v ∈ kept ∨ v = u := by
  unfold keepFirst at h
  split at h
  · exact .inl h
  · simpa using h

theorem mem_of_mem_foldl_keepFirst {us kept : List SharedUnit} {v : SharedUnit}
    (h : v ∈ us.foldl keepFirst kept) : v ∈ kept ∨ v ∈ us := by
  induction us generalizing kept with
  | nil => exact .inl h
  | cons u us ih =>
    rcases ih h with h | h
    · rcases mem_keepFirst h with h | rfl
      · exact .inl h
      · exact .inr (List.mem_cons_self ..)
    · exact .inr (List.mem_cons_of_mem u h)

/-- Every unit has one that stands for it. -/
theorem exists_mem_foldl_keepFirst {us kept : List SharedUnit} {u : SharedUnit}
    (h : u ∈ us ∨ ∃ v ∈ kept, v.identifier = u.identifier) :
    ∃ v ∈ us.foldl keepFirst kept, v.identifier = u.identifier := by
  induction us generalizing kept with
  | nil => exact h.resolve_left List.not_mem_nil
  | cons first us ih =>
    apply ih
    rcases h with h | ⟨v, hv, hsame⟩
    · rcases List.mem_cons.mp h with rfl | h
      · right
        unfold keepFirst
        split
        · rename_i hknown
          exact List.mem_map.mp hknown
        · exact ⟨u, by simp, rfl⟩
      · exact .inl h
    · right
      refine ⟨v, ?_, hsame⟩
      unfold keepFirst
      split
      · exact hv
      · exact List.mem_append_left _ hv

theorem mem_of_mem_kept {us : List SharedUnit} {v : SharedUnit}
    (h : v ∈ us.foldl keepFirst []) : v ∈ us :=
  (mem_of_mem_foldl_keepFirst h).resolve_left List.not_mem_nil

theorem exists_kept {us : List SharedUnit} {u : SharedUnit} (h : u ∈ us) :
    ∃ v ∈ us.foldl keepFirst [], v ∈ us ∧ v.identifier = u.identifier := by
  have hstands : ∃ v ∈ us.foldl keepFirst [], v.identifier = u.identifier :=
    exists_mem_foldl_keepFirst (.inl h)
  obtain ⟨v, hv, hident⟩ := hstands
  exact ⟨v, hv, mem_of_mem_kept hv, hident⟩

/-! ## The local modules that they want -/

variable {resolve : String → Option String}

theorem foldl_addLocal_of_mem {known : List (String × Option String)} {requests : List String}
    (h : ∀ r ∈ requests, r ∈ known.map Prod.fst) :
    requests.foldl (addLocal resolve) known = known := by
  induction requests with
  | nil => rfl
  | cons r requests ih =>
    obtain ⟨hr, hrest⟩ := List.forall_mem_cons.mp h
    rw [List.foldl_cons, addLocal, if_pos hr, ih hrest]

theorem mem_addLocal {known : List (String × Option String)} {request r : String} :
    r ∈ (addLocal resolve known request).map Prod.fst ↔ r ∈ known.map Prod.fst ∨ r = request := by
  unfold addLocal
  split
  · rename_i hknown
    constructor
    · exact .inl
    · rintro (h | rfl)
      · exact h
      · exact hknown
  · simp

theorem mem_foldl_addLocal {known : List (String × Option String)} {requests : List String}
    {r : String} : r ∈ (requests.foldl (addLocal resolve) known).map Prod.fst ↔
      r ∈ known.map Prod.fst ∨ r ∈ requests := by
  induction requests generalizing known with
  | nil => simp
  | cons first requests ih => rw [List.foldl_cons, ih, mem_addLocal, List.mem_cons, or_assoc]

/-- A unit that is left out wants no module that is not there already. -/
theorem foldl_addLocal_keepFirst {f : SharedUnit → List String} {us kept : List SharedUnit}
    (h : ∀ u ∈ us, ∀ v ∈ kept ++ us, v.identifier = u.identifier → f v = f u) :
    ((us.foldl keepFirst kept).flatMap f).foldl (addLocal resolve) [] =
      (us.flatMap f).foldl (addLocal resolve) ((kept.flatMap f).foldl (addLocal resolve) []) := by
  induction us generalizing kept with
  | nil => rfl
  | cons u us ih =>
    obtain ⟨hu, hus⟩ := List.forall_mem_cons.mp h
    rw [List.foldl_cons, List.flatMap_cons, List.foldl_append]
    by_cases hknown : u.identifier ∈ kept.map SharedUnit.identifier
    · obtain ⟨v, hv, hsame⟩ := List.mem_map.mp hknown
      have hthere : ∀ r ∈ f u, r ∈ ((kept.flatMap f).foldl (addLocal resolve) []).map Prod.fst := by
        intro r hr
        rw [← hu v (List.mem_append_left _ hv) hsame] at hr
        exact mem_foldl_addLocal.mpr (.inr (List.mem_flatMap.mpr ⟨v, hv, hr⟩))
      rw [keepFirst, if_pos hknown, foldl_addLocal_of_mem hthere]
      refine ih fun w hw v hv => hus w hw v ?_
      exact List.append_subset.mpr ⟨by simp, by simp⟩ hv
    · rw [keepFirst, if_neg hknown, ih fun w hw v hv => hus w hw v (by simpa using hv)]
      simp

/-! ## Building all units or those that are kept -/

/-- What is wanted by units once they are built. -/
def wantedBuilt (us : List SharedUnit) : List (String × LinkKind) :=
  us.flatMap fun u => wanted u.build

theorem withBuiltUnits_keepAll {us : List SharedUnit} (h : ∀ u ∈ us, u.Buildable) :
    (keepAll us).withBuiltUnits = keepAll (us.map SharedUnit.build) := by
  simpa [keepAll, withBuiltUnits, SharedUnit.Buildable] using h

/-- What the built graph of some units has. -/
structure BuiltFrom (resolve : String → Option String) (us : List SharedUnit) (g : ModuleGraph) :
    Prop where
  placed : g.Placed
  units : g.units = us.map SharedUnit.build
  locals : g.locals = ((wantedBuilt us).map Prod.fst).foldl (addLocal resolve) []
  needsAtOnce : ∀ r, g.needsAtOnce r = (wantedBuilt us).any fun w => w.1 == r && w.2 == .atOnce

theorem consistent_keepAll (us : List SharedUnit) : (keepAll us).Consistent where
  placed := ⟨by simp [keepAll, locals, List.filterMap_map, GraphNode.local?, Function.comp_def],
    List.forall_mem_nil _⟩
  grounded := List.forall_mem_nil _

theorem builtFrom_build {us : List SharedUnit} (h : ∀ u ∈ us, u.Buildable) :
    BuiltFrom resolve us ((keepAll us).build resolve) := by
  have hconsistent := consistent_keepAll us
  have hbuilt := withBuiltUnits_keepAll h
  have hlinked := hconsistent.linked_build resolve
  rw [hbuilt] at hlinked
  have hunits : ((keepAll us).build resolve).units = us.map SharedUnit.build := by
    rw [hlinked.units, units_keepAll]
  have hlocals : (keepAll (us.map SharedUnit.build)).locals = [] := by
    simp [keepAll, locals, List.filterMap_map, GraphNode.local?, Function.comp_def]
  have hwanted : (keepAll (us.map SharedUnit.build)).wantedLinks.map Prod.snd = wantedBuilt us := by
    rw [map_snd_wantedLinks, units_keepAll, List.flatMap_map]
    rfl
  exact {
    placed := hlinked.placed
    units := hunits
    locals := by
      rw [hlinked.locals, hlocals, ← hwanted, List.map_map]
      rfl
    needsAtOnce r := by
      rw [Bool.eq_iff_iff, needsAtOnce_build_iff hconsistent, hunits]
      simp [wantedBuilt] }

theorem wanted_build_eq_of_sameCode {u v : SharedUnit} (h : u.SameCode v) :
    wanted u.build = wanted v.build := by
  rw [wanted, wanted, h.dependencies, h.blocks]

theorem mem_wantedBuilt_kept {us : List SharedUnit}
    (hsame : ∀ u ∈ us, ∀ v ∈ us, u.identifier = v.identifier → u.SameCode v)
    (w : String × LinkKind) : w ∈ wantedBuilt (us.foldl keepFirst []) ↔ w ∈ wantedBuilt us := by
  simp only [wantedBuilt, List.mem_flatMap]
  constructor
  · rintro ⟨u, hu, hw⟩
    exact ⟨u, mem_of_mem_kept hu, hw⟩
  · rintro ⟨u, hu, hw⟩
    obtain ⟨v, hv, hvus, hident⟩ := exists_kept hu
    refine ⟨v, hv, ?_⟩
    rwa [wanted_build_eq_of_sameCode (hsame v hvus u hu hident)]

/-- The chunks of a build do not depend on units whose code others have. -/
theorem chunkGraph_collect {us : List SharedUnit} (hnew : ∀ u ∈ us, u.Buildable)
    (hsame : ∀ u ∈ us, ∀ v ∈ us, u.identifier = v.identifier → u.SameCode v) (base : String) :
    ((collect us).build resolve).chunkGraph base =
      ((keepAll us).build resolve).chunkGraph base := by
  have hbuilt : BuiltFrom resolve us _ := builtFrom_build hnew
  have hbuilt' : BuiltFrom resolve (us.foldl keepFirst []) _ :=
    builtFrom_build fun u hu => hnew u (mem_of_mem_kept hu)
  rw [collect_eq]
  apply chunkGraph_congr hbuilt'.placed hbuilt.placed
  · rw [hbuilt'.locals, hbuilt.locals, wantedBuilt, wantedBuilt, List.map_flatMap,
      List.map_flatMap]
    apply foldl_addLocal_keepFirst
    intro u hu v hv hident
    rw [wanted_build_eq_of_sameCode (hsame v (by simpa using hv) u hu hident)]
  · intro r
    rw [hbuilt'.needsAtOnce, hbuilt.needsAtOnce, Bool.eq_iff_iff, List.any_eq_true,
      List.any_eq_true]
    simp only [mem_wantedBuilt_kept hsame]

/-- Units of one identifier have the same code if their texts keep clear of the signs of an
identifier.  So a build that keeps only the first of them has the same chunks as one that keeps
all, and what any of them would generate is generated by one that is kept. -/
theorem collect_keeps_code {ds : List ShareDescriptor}
    (h : ∀ d ∈ ds, (SharedUnit.ofDescriptor d).Separable) (resolve : String → Option String)
    (base : String) :
    (∀ d ∈ ds, ∀ e ∈ ds,
      (SharedUnit.ofDescriptor d).identifier = (SharedUnit.ofDescriptor e).identifier →
        (SharedUnit.ofDescriptor d).SameCode (.ofDescriptor e)) ∧
    ((collect (ds.map .ofDescriptor)).build resolve).chunkGraph base =
      ((keepAll (ds.map .ofDescriptor)).build resolve).chunkGraph base ∧
    ∀ u ∈ ((keepAll (ds.map .ofDescriptor)).build resolve).units,
      ∃ v ∈ ((collect (ds.map .ofDescriptor)).build resolve).units,
        v.identifier = u.identifier ∧ u.SameCode v := by
  have hsame : ∀ d ∈ ds, ∀ e ∈ ds,
      (SharedUnit.ofDescriptor d).identifier = (SharedUnit.ofDescriptor e).identifier →
        (SharedUnit.ofDescriptor d).SameCode (.ofDescriptor e) :=
    fun d hd e he => SharedUnit.sameCode_of_identifier_eq (h d hd) (h e he)
  have hunits : ∀ u ∈ ds.map SharedUnit.ofDescriptor, ∀ v ∈ ds.map SharedUnit.ofDescriptor,
      u.identifier = v.identifier → u.SameCode v := by
    simpa only [List.forall_mem_map] using hsame
  have hnew : ∀ u ∈ ds.map SharedUnit.ofDescriptor, u.Buildable := by
    rw [List.forall_mem_map]
    exact fun _ _ => .of_new rfl
  refine ⟨hsame, chunkGraph_collect hnew hunits base, ?_⟩
  rw [(builtFrom_build hnew).units, List.forall_mem_map]
  intro u hu
  obtain ⟨v, hv, hvus, hident⟩ := exists_kept hu
  have hbuilt : BuiltFrom resolve ((ds.map SharedUnit.ofDescriptor).foldl keepFirst []) _ :=
    builtFrom_build fun w hw => hnew w (mem_of_mem_kept hw)
  refine ⟨v.build, ?_, hident, (hunits u hu v hvus hident.symm).build⟩
  rw [collect_eq, hbuilt.units]
  exact List.mem_map_of_mem hv

/-- A consume declaration for modules of one layer, for either of two major versions. -/
def reactFor (issuerLayer : String) : ShareDescriptor :=
  { ShareDescriptor.consume "react" with
    shareScope := .multiple ["default", "legacy"]
    requiredVersion := .value ⟨[[⟨.caret, ⟨some 17, none, none, []⟩⟩],
      [⟨.caret, ⟨some 18, some 2, none, []⟩⟩]]⟩
    fallbackResolved := some "/node_modules/react/index.js"
    issuerLayer := some issuerLayer }

/-- A provide declaration of a module. -/
def reactModule : ShareDescriptor :=
  { ShareDescriptor.provide "react" "@scope/react" with
    version := .value ⟨18, 2, 0, [], []⟩
    fallbackResolved := some "/node_modules/(group)/index.js" }

theorem separable_reactFor (issuerLayer : String) :
    (SharedUnit.ofDescriptor (reactFor issuerLayer)).Separable where
  legible := by
    constructor
    · intro v hv
      contradiction
    · intro r hr
      cases hr
      exact ⟨"^17 || ^18.2", rfl⟩
  scope_ne_nil := List.cons_ne_nil _ _
  scopeBars := show ∀ name ∈ ["default", "legacy"], '|' ∉ name.toList by simp
  consuming _ :=
    { key := show '|' ∉ "react".toList by simp
      fallback := by
        intro path hpath
        cases hpath
        simp
      layer := by
        intro layer hlayer
        contradiction }
  providing := by
    intro hkind
    contradiction

theorem separable_reactModule : (SharedUnit.ofDescriptor reactModule).Separable where
  legible := by
    constructor
    · intro v hv
      cases hv
      exact ⟨"18.2.0", rfl⟩
    · intro r hr
      contradiction
  scope_ne_nil := List.cons_ne_nil _ _
  scopeBars := show ∀ name ∈ ["default"], '|' ∉ name.toList by simp
  consuming := by
    intro hkind
    contradiction
  providing _ :=
    { scope := show ∀ name ∈ ["default"], ')' ∉ name.toList by simp
      key := show '=' ∉ "@scope/react".toList by simp
      request := by decide +kernel
      layer := by
        intro layer hlayer
        contradiction }

/-- Two declarations that differ in what modules they are for become one unit. -/
theorem collect_keeps_code_twoIssuers :
    let ds := [reactFor "server", reactFor "client", reactModule]
    (∀ d ∈ ds, (SharedUnit.ofDescriptor d).Separable) ∧
      (collect (ds.map .ofDescriptor)).units.length = 2 ∧
      (SharedUnit.ofDescriptor (reactFor "server")).SameCode (.ofDescriptor (reactFor "client")) ∧
      ((collect (ds.map .ofDescriptor)).build some).chunkGraph "/" =
        ((keepAll (ds.map .ofDescriptor)).build some).chunkGraph "/" := by
  intro ds
  have hseparable : ∀ d ∈ ds, (SharedUnit.ofDescriptor d).Separable := by
    simp only [ds, List.forall_mem_cons]
    exact ⟨separable_reactFor _, separable_reactFor _, separable_reactModule, List.forall_mem_nil _⟩
  obtain ⟨hsame, hchunks, _⟩ := collect_keeps_code hseparable some "/"
  exact ⟨hseparable, by decide +kernel, hsame _ (by simp [ds]) _ (by simp [ds]) rfl, hchunks⟩

/-- The layer of the second unit looks like the mark of the first, so it gets lost. -/
theorem collect_loses_layer :
    let eager := SharedUnit.ofDescriptor { reactModule with eager := true }
    let layered := SharedUnit.ofDescriptor { reactModule with layer := some "eager" }
    eager.identifier = layered.identifier ∧
      (eager.generate {}).init ≠ (layered.generate {}).init ∧
      (collect [eager, layered]).units = [eager] := by
  decide +kernel

end ModuleGraph

end ModuleSharing
