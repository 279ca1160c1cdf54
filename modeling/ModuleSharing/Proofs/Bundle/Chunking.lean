import ModuleSharing.Proofs.Bundle.Dedup
import ModuleSharing.Proofs.Dictionary

/-! The chunks of local modules after units were added and graphs built in any order.  A module that
some unit needs at once has no chunk to load.  Every other one has a chunk of its own as long as its
id does not look like that of another or like the initial chunk (`ModuleGraph.chunks_assigned`):
signs other than letters and digits get lost in the names of chunks
(`ModuleGraph.alike_modules_share_chunk`). -/

namespace ModuleSharing

/-! ## Names of chunks -/

/-- Ids that differ in nothing but `./` in front and in signs other than letters and digits. -/
def Alike (id id' : String) : Prop :=
  List.Forall₂ (fun c c' => c = c' ∨ c.isAlphanum = false ∧ c'.isAlphanum = false)
    (dropHere id.toList) (dropHere id'.toList)

/-- An id that is nothing but the name of the initial chunk, maybe after `./`. -/
def LooksInitial (id : String) : Prop := dropHere id.toList = initialChunk.toList

instance (id : String) : Decidable (LooksInitial id) :=
  inferInstanceAs (Decidable (dropHere id.toList = initialChunk.toList))

/-- A letter or a digit as it is, and `_` for every other sign. -/
def chunkChar (c : Char) : Char := if c.isAlphanum then c else '_'

theorem chunkChar_eq_iff (c c' : Char) : chunkChar c = chunkChar c' ↔
    c = c' ∨ c.isAlphanum = false ∧ c'.isAlphanum = false := by
  have hne {d : Char} (hd : d.isAlphanum = true) : d ≠ '_' := by
    rintro rfl
    contradiction
  unfold chunkChar
  cases hc : c.isAlphanum <;> cases hc' : c'.isAlphanum
  · simp
  · simpa [(hne hc').symm] using fun heq : c = c' => by simp [heq, hc'] at hc
  · simpa [hne hc] using fun heq : c = c' => by simp [heq, hc'] at hc
  · simp

theorem chunkName_eq_iff {id id' : String} : chunkName id = chunkName id' ↔ Alike id id' := by
  have hname (id : String) :
      chunkName id = String.ofList ((dropHere id.toList).map chunkChar) := rfl
  rw [hname, hname, String.ofList_inj, ← List.forall₂_eq_eq_eq, List.forall₂_map_left_iff,
    List.forall₂_map_right_iff]
  simp only [chunkChar_eq_iff]
  rfl

/-- Nothing else is like an id of letters and digits, but for `./` in front. -/
theorem alike_iff_of_alphanum {id id' : String}
    (h : ∀ c ∈ dropHere id'.toList, c.isAlphanum = true) :
    Alike id id' ↔ dropHere id.toList = dropHere id'.toList := by
  have hlists {xs ys : List Char} (hys : ∀ c ∈ ys, c.isAlphanum = true)
      (hsame : List.Forall₂ (fun c c' => c = c' ∨ c.isAlphanum = false ∧ c'.isAlphanum = false)
        xs ys) : xs = ys := by
    induction hsame with
    | nil => rfl
    | cons hc _ ih =>
      obtain ⟨hd, hys⟩ := List.forall_mem_cons.mp hys
      rw [hc.resolve_right (by simp [hd]), ih hys]
  constructor
  · exact hlists h
  · intro heq
    rw [Alike, heq]
    exact List.forall₂_same.mpr fun c _ => .inl rfl

theorem chunkName_eq_initialChunk_iff {id : String} :
    chunkName id = initialChunk ↔ LooksInitial id := by
  have hself : chunkName initialChunk = initialChunk := by decide
  have hletters : ∀ c ∈ dropHere initialChunk.toList, c.isAlphanum = true :=
    List.all_eq_true.mp (by decide)
  have hdrop : dropHere initialChunk.toList = initialChunk.toList := by decide
  rw [LooksInitial, ← hdrop, ← alike_iff_of_alphanum hletters, ← chunkName_eq_iff, hself]

/-! ## Chunks of one module -/

namespace ModuleGraph

variable {g : ModuleGraph} {base : String}

/-- The chunk that a local module is put in. -/
def chunkFor (g : ModuleGraph) (base request path : String) : String :=
  if g.needsAtOnce request then initialChunk else chunkName (Path.shorten base path)

theorem chunkName_eq_chunkFor_iff {id request path : String} (h : ¬ LooksInitial id) :
    chunkName id = g.chunkFor base request path ↔
      g.needsAtOnce request = false ∧ Alike id (Path.shorten base path) := by
  have hinitial : chunkName id ≠ initialChunk := fun heq => h (chunkName_eq_initialChunk_iff.mp heq)
  unfold chunkFor
  split
  · rename_i hneeds
    simp [hinitial, hneeds]
  · rename_i hneeds
    simp [chunkName_eq_iff, hneeds]

theorem get?_chunks_addChunk_self {chunks : ChunkGraph} {request : String}
    (h : chunks.chunks.get? request = none) (chunk : String) :
    (chunks.addChunk request chunk).chunks.get? request = some [chunk] := by
  simp [ChunkGraph.addChunk, h, Dictionary.get?_insert_self]

theorem get?_chunks_addChunk_of_ne {chunks : ChunkGraph} {request other : String}
    (h : other ≠ request) (chunk : String) :
    (chunks.addChunk request chunk).chunks.get? other = chunks.chunks.get? other := by
  unfold ChunkGraph.addChunk
  dsimp only
  split
  · rfl
  · exact Dictionary.get?_insert_of_ne _ h _

theorem get?_chunks_foldl_assignLocal {request : String} {modules : List (String × Option String)}
    (h : ∀ path, (request, some path) ∉ modules) (chunks : ChunkGraph) :
    (modules.foldl (g.assignLocal base) chunks).chunks.get? request =
      chunks.chunks.get? request := by
  induction modules generalizing chunks with
  | nil => rfl
  | cons module modules ih =>
    rw [List.foldl_cons, ih fun path hmem => h path (List.mem_cons_of_mem _ hmem)]
    obtain ⟨other, path⟩ := module
    cases path with
    | none => rfl
    | some path =>
      refine get?_chunks_addChunk_of_ne ?_ _
      rintro rfl
      exact h path (List.mem_cons_self ..)

theorem chunksOf_of_mem (hplaced : g.Placed) {request path : String}
    (h : (request, some path) ∈ g.locals) : (g.chunkGraph base).chunksOf request =
      if g.chunkFor base request path = initialChunk then []
      else [g.chunkFor base request path] := by
  obtain ⟨front, rest, hlocals⟩ := List.append_of_mem h
  have hnodup := hplaced.nodup
  rw [hlocals, List.map_append, List.map_cons, List.nodup_middle, List.nodup_cons] at hnodup
  have hnew : request ∉ front.map Prod.fst ++ rest.map Prod.fst := hnodup.1
  rw [List.mem_append, not_or] at hnew
  have hbefore : ((front.foldl (g.assignLocal base) {}).insertModule request
      (Path.shorten base path)).chunks.get? request = none :=
    get?_chunks_foldl_assignLocal
      (fun path' hmem => hnew.1 (List.mem_map_of_mem (f := Prod.fst) hmem)) {}
  have hput : (g.chunkGraph base).chunks.get? request =
      some [g.chunkFor base request path] := by
    rw [chunkGraph_eq hplaced, hlocals, List.foldl_append, List.foldl_cons,
      get?_chunks_foldl_assignLocal
        fun path' hmem => hnew.2 (List.mem_map_of_mem (f := Prod.fst) hmem)]
    exact get?_chunks_addChunk_self hbefore _
  simp [ChunkGraph.chunksOf, hput, eq_comm]

theorem chunksOf_of_not_mem (hplaced : g.Placed) {request : String}
    (h : ∀ path, (request, some path) ∉ g.locals) : (g.chunkGraph base).chunksOf request = [] := by
  rw [ChunkGraph.chunksOf, chunkGraph_eq hplaced, get?_chunks_foldl_assignLocal h]
  rfl

/-- A module waits for the chunk that it is put in, unless that is the initial one. -/
theorem mem_chunksOf_iff (hplaced : g.Placed) {request chunk : String} :
    chunk ∈ (g.chunkGraph base).chunksOf request ↔ chunk ≠ initialChunk ∧
      ∃ path, (request, some path) ∈ g.locals ∧ chunk = g.chunkFor base request path := by
  constructor
  · intro h
    by_cases hlocal : ∃ path, (request, some path) ∈ g.locals
    · obtain ⟨path, hpath⟩ := hlocal
      rw [chunksOf_of_mem hplaced hpath] at h
      split at h
      · contradiction
      · rename_i hchunk
        rw [List.mem_singleton] at h
        exact ⟨h ▸ hchunk, path, hpath, h⟩
    · rw [chunksOf_of_not_mem hplaced (not_exists.mp hlocal)] at h
      contradiction
  · rintro ⟨hchunk, path, hpath, rfl⟩
    rw [chunksOf_of_mem hplaced hpath, if_neg hchunk]
    exact List.mem_singleton_self _

/-! ## Units that were added -/

/-- What is done to a graph. -/
inductive Step where
  | add (u : SharedUnit)
  | build (resolve : String → Option String)

def perform (g : ModuleGraph) : Step → ModuleGraph
  | .add u => (g.addUnit u).2.2
  | .build resolve => g.build resolve

/-- The graph that some steps lead to. -/
def after (steps : List Step) : ModuleGraph := steps.foldl perform {}

theorem Consistent.addUnit (h : g.Consistent) (u : SharedUnit) : (g.addUnit u).2.2.Consistent := by
  unfold ModuleGraph.addUnit
  split
  · exact h
  · have hnodes : g.nodes <+: g.nodes ++ [.shared u] := List.prefix_append ..
    have hlocals : locals { g with nodes := g.nodes ++ [.shared u] } = g.locals := by
      simp [locals, GraphNode.local?]
    refine ⟨⟨?_, fun l hl => ?_⟩, fun l hl => ?_⟩
    · rw [hlocals]
      exact h.placed.nodup
    · rw [List.length_append]
      exact Nat.lt_add_right _ (h.placed.targets l hl)
    · obtain ⟨v, request, hgrounded⟩ := h.grounded l hl
      exact ⟨v, request, hgrounded.of_prefix hnodes⟩

theorem Consistent.perform (h : g.Consistent) (s : Step) : (g.perform s).Consistent := by
  cases s with
  | add u => exact h.addUnit u
  | build resolve => exact (h.build resolve).1

theorem consistent_after (steps : List Step) : (after steps).Consistent := by
  have hfrom : ∀ g : ModuleGraph, g.Consistent →
      (steps.foldl ModuleGraph.perform g).Consistent := by
    induction steps with
    | nil => exact fun _ h => h
    | cons s steps ih => exact fun g h => ih _ (h.perform s)
  exact hfrom {} ⟨⟨List.nodup_nil, List.forall_mem_nil _⟩, List.forall_mem_nil _⟩

theorem mem_units_addUnit {u v : SharedUnit} (h : v ∈ (g.addUnit u).2.2.units) :
    v ∈ g.units ∨ v = u := by
  unfold ModuleGraph.addUnit at h
  split at h
  · exact .inl h
  · simpa [units, GraphNode.unit?] using h

theorem Consistent.mem_units_build (h : g.Consistent) {resolve : String → Option String}
    {v : SharedUnit} (hv : v ∈ (g.build resolve).units) :
    ∃ u ∈ g.units, GraphNode.build (.shared u) = .shared v := by
  rw [(h.linked_build resolve).units, mem_units_iff] at hv
  obtain ⟨i, hi⟩ := hv
  rw [ModuleGraph.withBuiltUnits, List.getElem?_map, Option.map_eq_some_iff] at hi
  obtain ⟨n, hn, hbuild⟩ := hi
  cases n with
  | «local» request path => contradiction
  | shared u => exact ⟨u, mem_units_iff.mpr ⟨i, hn⟩, hbuild⟩

theorem Consistent.exists_build_eq (h : g.Consistent) (hunits : ∀ u ∈ g.units, u.Buildable)
    {resolve : String → Option String} {v : SharedUnit} (hv : v ∈ (g.build resolve).units) :
    ∃ u : SharedUnit, u.build = v := by
  obtain ⟨u, hu, hbuild⟩ := h.mem_units_build hv
  rw [hunits u hu] at hbuild
  exact ⟨u, GraphNode.shared.inj hbuild⟩

theorem buildable_of_mem_after {steps : List Step} (hadded : ∀ u, .add u ∈ steps → u.Buildable) :
    ∀ v ∈ (after steps).units, v.Buildable := by
  induction steps using List.reverseRecOn with
  | nil => exact List.forall_mem_nil _
  | append_singleton steps s ih =>
    have hbefore := ih fun u hu => hadded u (List.mem_append_left _ hu)
    intro v hv
    rw [after, List.foldl_concat] at hv
    cases s with
    | add u =>
      rcases mem_units_addUnit hv with hv | rfl
      · exact hbefore v hv
      · exact hadded v (by simp)
    | build resolve =>
      obtain ⟨u, rfl⟩ := (consistent_after steps).exists_build_eq hbefore hv
      exact .of_built u.build_build

/-- Some unit depends on a local module at once. -/
def WantsAtOnce (g : ModuleGraph) (request : String) : Prop :=
  ∃ u ∈ g.units, ∃ d ∈ u.dependencies, d.request = request

instance (g : ModuleGraph) (request : String) : Decidable (g.WantsAtOnce request) :=
  inferInstanceAs (Decidable (∃ u ∈ g.units, ∃ d ∈ u.dependencies, d.request = request))

/-- A local module belongs to an eager unit. -/
def WantsEagerly (g : ModuleGraph) (request : String) : Prop :=
  ∃ u ∈ g.units, u.options.eager = true ∧ u.request? = some request

theorem wantsAtOnce_iff {request : String} :
    g.WantsAtOnce request ↔ ∃ u ∈ g.units, (request, .atOnce) ∈ wanted u := by
  simp [WantsAtOnce, wanted]

theorem wantsAtOnce_iff_eagerly {steps : List Step}
    (hadded : ∀ u, .add u ∈ steps → u.Buildable) {resolve : String → Option String}
    {request : String} : ((after steps).build resolve).WantsAtOnce request ↔
      ((after steps).build resolve).WantsEagerly request := by
  rw [wantsAtOnce_iff]
  refine exists_congr fun v => and_congr_right fun hv => ?_
  obtain ⟨u, rfl⟩ :=
    (consistent_after steps).exists_build_eq (buildable_of_mem_after hadded) hv
  have hoptions : u.build.options = u.options := rfl
  have hrequest : u.build.request? = u.request? := rfl
  rw [wanted_build, hoptions, hrequest]
  cases u.options.eager <;> simp

/-- After any additions and builds that end in a build, a local module with a file waits for no
chunk if some unit needs it at once.  If none does and its id does not look like the initial chunk,
it waits for one chunk, which is not the initial one, and which other modules wait for just if none
needs them at once either and their ids are alike.  Units that were built from their own options
need a module at once just if they are eager. -/
theorem chunks_assigned (steps : List Step) (resolve : String → Option String) (base : String) :
    let g := (after steps).build resolve
    let chunks := (g.chunkGraph base).chunksOf
    (∀ request path, (request, some path) ∈ g.locals →
      (g.WantsAtOnce request → chunks request = []) ∧
      (¬ g.WantsAtOnce request → ¬ LooksInitial (Path.shorten base path) →
        ∃ chunk, chunks request = [chunk] ∧ chunk ≠ initialChunk ∧
          ∀ other, chunk ∈ chunks other ↔
            ∃ path', (other, some path') ∈ g.locals ∧ ¬ g.WantsAtOnce other ∧
              Alike (Path.shorten base path) (Path.shorten base path'))) ∧
    ((∀ u, .add u ∈ steps → u.Buildable) →
      ∀ request, g.WantsAtOnce request ↔ g.WantsEagerly request) := by
  intro g chunks
  have hconsistent := consistent_after steps
  have hplaced : g.Placed := (hconsistent.build resolve).1.placed
  have hneeds (request : String) : g.needsAtOnce request = true ↔ g.WantsAtOnce request :=
    (needsAtOnce_build_iff hconsistent).trans wantsAtOnce_iff.symm
  refine ⟨fun request path hlocal => ⟨fun hwants => ?_, fun hwants hname => ?_⟩,
    fun hadded request => wantsAtOnce_iff_eagerly hadded⟩
  · have hchunk : g.chunkFor base request path = initialChunk := if_pos ((hneeds _).mpr hwants)
    exact (chunksOf_of_mem hplaced hlocal).trans (if_pos hchunk)
  · have hchunk : g.chunkFor base request path = chunkName (Path.shorten base path) :=
      if_neg fun h => hwants ((hneeds _).mp h)
    have hinitial : chunkName (Path.shorten base path) ≠ initialChunk :=
      fun h => hname (chunkName_eq_initialChunk_iff.mp h)
    refine ⟨chunkName (Path.shorten base path), ?_, hinitial, fun other => ?_⟩
    · rw [← hchunk] at hinitial ⊢
      exact (chunksOf_of_mem hplaced hlocal).trans (if_neg hinitial)
    · simp only [chunks, mem_chunksOf_iff hplaced, ne_eq, hinitial, not_false_eq_true, true_and,
        chunkName_eq_chunkFor_iff hname, ← hneeds, Bool.not_eq_true]

/-- A module that one unit needs at once and another one later, and a module that was linked in an
earlier build. -/
theorem chunks_assigned_twoBuilds :
    let steps := [.add (.ofDescriptor (reactFor "server")), .build some,
      .add (.ofDescriptor reactModule), .add (.ofDescriptor { reactModule with eager := true })]
    let g := (after steps).build some
    let chunks := (g.chunkGraph "/").chunksOf
    g.WantsEagerly "/node_modules/(group)/index.js" ∧
      chunks "/node_modules/(group)/index.js" = [] ∧
      ¬ g.WantsAtOnce "/node_modules/react/index.js" ∧
      ∃ chunk, chunks "/node_modules/react/index.js" = [chunk] ∧ chunk ≠ initialChunk ∧
        chunk ∉ chunks "/node_modules/(group)/index.js" := by
  intro steps g chunks
  obtain ⟨hmodules, heager⟩ := chunks_assigned steps some "/"
  have hadded : ∀ u, .add u ∈ steps → u.Buildable := by
    intro u hu
    simp only [steps, List.mem_cons, Step.add.injEq, reduceCtorEq, List.not_mem_nil, or_false,
      false_or] at hu
    rcases hu with rfl | rfl | rfl <;> exact .of_new rfl
  have hgroup : g.WantsAtOnce "/node_modules/(group)/index.js" := by decide +kernel
  have hreact : ¬ g.WantsAtOnce "/node_modules/react/index.js" := by decide +kernel
  have hname : ¬ LooksInitial (Path.shorten "/" "/node_modules/react/index.js") := by decide +kernel
  obtain ⟨hnone, -⟩ := hmodules "/node_modules/(group)/index.js" "/node_modules/(group)/index.js"
    (by decide +kernel)
  obtain ⟨-, hone⟩ := hmodules "/node_modules/react/index.js" "/node_modules/react/index.js"
    (by decide +kernel)
  obtain ⟨chunk, hchunk, hinitial, hothers⟩ := hone hreact hname
  refine ⟨(heager hadded _).mp hgroup, hnone hgroup, hreact, chunk, hchunk, hinitial, fun h => ?_⟩
  obtain ⟨-, -, hlater, -⟩ := (hothers _).mp h
  exact hlater hgroup

/-- A consuming unit that is not eager, with a module of its own. -/
def lateUnit (key path : String) : SharedUnit :=
  .ofDescriptor { ShareDescriptor.consume key with fallbackResolved := some path }

/-- No unit is eager, but two modules share a chunk and one has none to load. -/
theorem alike_modules_share_chunk :
    let g := (after [.add (lateUnit "button-group" "/app/ui/button-group.js"),
      .add (lateUnit "button_group" "/app/ui/button_group.js"),
      .add (lateUnit "main" "/app/main")]).build some
    let chunks := (g.chunkGraph "/app").chunksOf
    (∀ u ∈ g.units, u.options.eager = false) ∧
      g.locals = [("/app/ui/button-group.js", some "/app/ui/button-group.js"),
        ("/app/ui/button_group.js", some "/app/ui/button_group.js"),
        ("/app/main", some "/app/main")] ∧
      chunks "/app/ui/button-group.js" = ["ui_button_group_js"] ∧
      chunks "/app/ui/button_group.js" = ["ui_button_group_js"] ∧
      chunks "/app/main" = [] := by
  decide +kernel

end ModuleGraph

end ModuleSharing
