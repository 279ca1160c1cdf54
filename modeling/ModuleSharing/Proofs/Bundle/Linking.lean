import Mathlib.Data.List.Nodup
import ModuleSharing.Bundle.Graph

/-! What linking does to a graph.  A link is at once if its unit wants the module at once, also when
the unit wants it later as well (`Consistent`), and building a graph links all its units.  So which
modules are needed at once can be read off the units (`needsAtOnce_build_iff`), and the chunks
depend on nothing else than that and the local modules (`chunkGraph_eq`). -/

namespace ModuleSharing

theorem GraphNode.isLocal_iff (n : GraphNode) (request : String) :
    n.isLocal request = true ↔ ∃ path, n = .local request path := by
  cases n with
  | shared u => simp [isLocal, local?]
  | «local» r path => simp [isLocal, local?]

namespace ModuleGraph

/-- The place of a local module. -/
def place? (g : ModuleGraph) (request : String) : Option Nat :=
  g.nodes.findIdx? (·.isLocal request)

/-- Whether some unit depends at once on a local module. -/
def needsAtOnce (g : ModuleGraph) (request : String) : Bool := (g.place? request).any g.isAtOnce

/-- Local modules with one more, unless it is there. -/
def addLocal (resolve : String → Option String) (known : List (String × Option String))
    (request : String) : List (String × Option String) :=
  if request ∈ known.map Prod.fst then known else known ++ [(request, resolve request)]

/-- Each local module has one place, and links lead to places. -/
structure Placed (g : ModuleGraph) : Prop where
  nodup : (g.locals.map Prod.fst).Nodup
  targets : ∀ l ∈ g.links, l.target < g.nodes.length

variable {g : ModuleGraph} {resolve : String → Option String}

/-! ## Places -/

theorem place?_eq_some_iff {request : String} {i : Nat} :
    g.place? request = some i ↔ ∃ h : i < g.nodes.length,
      (g.nodes[i].isLocal request = true) ∧
        ∀ j (hj : j < i), ¬ g.nodes[j].isLocal request = true := by
  simp [place?, List.findIdx?_eq_some_iff_getElem]

theorem place?_inj {r r' : String} {i : Nat} (h : g.place? r = some i)
    (h' : g.place? r' = some i) : r = r' := by
  obtain ⟨_, hlocal, _⟩ := place?_eq_some_iff.mp h
  obtain ⟨_, hlocal', _⟩ := place?_eq_some_iff.mp h'
  obtain ⟨_, hnode⟩ := (GraphNode.isLocal_iff _ _).mp hlocal
  obtain ⟨_, hnode'⟩ := (GraphNode.isLocal_iff _ _).mp hlocal'
  rw [hnode] at hnode'
  injection hnode'

theorem place?_eq_none_iff {request : String} :
    g.place? request = none ↔ request ∉ g.locals.map Prod.fst := by
  simp only [place?, List.findIdx?_eq_none_iff, locals, List.mem_map, List.mem_filterMap]
  constructor
  · rintro hnone ⟨p, ⟨n, hn, hlocal⟩, rfl⟩
    simpa [GraphNode.isLocal, hlocal] using hnone n hn
  · intro hnew n hn
    cases hlocal : n.local? with
    | none => simp [GraphNode.isLocal, hlocal]
    | some p =>
      have hother : p.1 ≠ request := fun heq => hnew ⟨p, ⟨n, hn, hlocal⟩, heq⟩
      simpa [GraphNode.isLocal, hlocal] using hother

/-- The graph with a local module that it did not have. -/
def withLocal (g : ModuleGraph) (resolve : String → Option String) (request : String) :
    ModuleGraph :=
  { g with nodes := g.nodes ++ [.local request (resolve request)] }

theorem place?_withLocal_self {request : String} (h : g.place? request = none) :
    (g.withLocal resolve request).place? request = some g.nodes.length := by
  have hself : GraphNode.isLocal request (.local request (resolve request)) = true := by
    simp [GraphNode.isLocal, GraphNode.local?]
  rw [place?] at h ⊢
  simp [withLocal, List.findIdx?_append, h, hself]

theorem locals_withLocal (g : ModuleGraph) (resolve : String → Option String) (request : String) :
    (g.withLocal resolve request).locals = g.locals ++ [(request, resolve request)] := by
  simp [withLocal, locals, GraphNode.local?]

theorem mem_units_iff {u : SharedUnit} :
    u ∈ g.units ↔ ∃ i : Nat, g.nodes[i]? = some (.shared u) := by
  have hunit (n : GraphNode) : n.unit? = some u ↔ n = .shared u := by
    cases n <;> simp [GraphNode.unit?]
  simp [units, hunit, ← List.mem_iff_getElem?]

/-! ## One link -/

theorem link_of_place {request : String} {place : Nat} (h : g.place? request = some place)
    (source : Nat) (kind : LinkKind) :
    link resolve g source request kind =
      if g.links.any fun l => l.source == source && l.target == place then g
      else { g with links := g.links ++ [⟨source, place, kind⟩] } := by
  have hplace : g.placeLocal resolve request = (place, g) := by
    unfold placeLocal
    rw [← place?, h]
  simp only [link, hplace]

/-- No link leads to a place that was not there. -/
theorem link_of_new {request : String} (hplaced : g.Placed) (h : g.place? request = none)
    (source : Nat) (kind : LinkKind) :
    link resolve g source request kind =
      { g.withLocal resolve request with
        links := g.links ++ [⟨source, g.nodes.length, kind⟩] } := by
  have hplace : g.placeLocal resolve request = (g.nodes.length, g.withLocal resolve request) := by
    unfold placeLocal
    rw [← place?, h]
    rfl
  have hlinks : (g.withLocal resolve request).links = g.links := rfl
  have hnone : (g.links.any fun l => l.source == source && l.target == g.nodes.length) = false := by
    rw [List.any_eq_false]
    intro l hl
    have := hplaced.targets l hl
    simp only [Bool.and_eq_true, beq_iff_eq, not_and]
    omega
  simp only [link, hplace, hlinks, hnone]
  rfl

theorem locals_link (hplaced : g.Placed) (source : Nat) (request : String) (kind : LinkKind) :
    (link resolve g source request kind).locals = addLocal resolve g.locals request := by
  unfold addLocal
  cases hplace : g.place? request with
  | some place =>
    have hknown : request ∈ g.locals.map Prod.fst := by
      by_contra hnew
      rw [place?_eq_none_iff.mpr hnew] at hplace
      contradiction
    rw [link_of_place hplace, if_pos hknown]
    split <;> rfl
  | none =>
    rw [link_of_new hplaced hplace, if_neg (place?_eq_none_iff.mp hplace)]
    exact locals_withLocal g resolve request

theorem units_link (hplaced : g.Placed) (source : Nat) (request : String) (kind : LinkKind) :
    (link resolve g source request kind).units = g.units := by
  cases hplace : g.place? request with
  | some place =>
    rw [link_of_place hplace]
    split <;> rfl
  | none =>
    rw [link_of_new hplaced hplace]
    simp [withLocal, units, GraphNode.unit?]

/-- Linking finds or makes the module's place, and adds a link only if there is none. -/
theorem link_cases (hplaced : g.Placed) (resolve : String → Option String) (source : Nat)
    (request : String) (kind : LinkKind) :
    g.nodes <+: (link resolve g source request kind).nodes ∧
      ∃ place, (link resolve g source request kind).place? request = some place ∧
        ((link resolve g source request kind).links = g.links ∧
            (∃ l ∈ g.links, l.source = source ∧ l.target = place) ∨
          (link resolve g source request kind).links = g.links ++ [⟨source, place, kind⟩] ∧
            ∀ l ∈ g.links, l.source = source → l.target ≠ place) := by
  cases hplace : g.place? request with
  | some place =>
    rw [link_of_place hplace]
    split
    · rename_i hknown
      exact ⟨List.prefix_rfl, place, hplace, .inl ⟨rfl, by simpa using hknown⟩⟩
    · rename_i hnew
      exact ⟨List.prefix_rfl, place, hplace, .inr ⟨rfl, by simpa using hnew⟩⟩
  | none =>
    rw [link_of_new hplaced hplace]
    refine ⟨List.prefix_append .., g.nodes.length, place?_withLocal_self hplace, .inr ⟨rfl, ?_⟩⟩
    intro l hl _
    exact Nat.ne_of_lt (hplaced.targets l hl)

theorem Placed.link (hplaced : g.Placed) (source : Nat) (request : String) (kind : LinkKind) :
    (link resolve g source request kind).Placed where
  nodup := by
    rw [locals_link hplaced, addLocal]
    split
    · exact hplaced.nodup
    · rename_i hnew
      rw [List.map_append, List.nodup_append]
      refine ⟨hplaced.nodup, List.nodup_singleton _, fun r hr r' hr' heq => hnew ?_⟩
      have hr' : r' = request := by simpa using hr'
      rwa [← hr', ← heq]
  targets := by
    cases hplace : g.place? request with
    | some place =>
      rw [link_of_place hplace]
      split
      · exact hplaced.targets
      · obtain ⟨hlt, _⟩ := place?_eq_some_iff.mp hplace
        exact List.forall_mem_append.mpr ⟨hplaced.targets, List.forall_mem_singleton.mpr hlt⟩
    | none =>
      rw [link_of_new hplaced hplace]
      have hlength : (g.withLocal resolve request).nodes.length = g.nodes.length + 1 := by
        simp [withLocal]
      intro l hl
      dsimp only
      rw [hlength]
      rcases List.mem_append.mp hl with hl | hl
      · exact Nat.lt_succ_of_lt (hplaced.targets l hl)
      · rw [List.mem_singleton.mp hl]
        exact Nat.lt_succ_self _

/-! ## All links -/

/-- Links units to the local modules that they want. -/
def linkAll (resolve : String → Option String) (g : ModuleGraph)
    (wanted : List (Nat × String × LinkKind)) : ModuleGraph :=
  wanted.foldl (fun g w => link resolve g w.1 w.2.1 w.2.2) g

/-- The graph with its units built, not yet linked. -/
def withBuiltUnits (g : ModuleGraph) : ModuleGraph :=
  { g with nodes := g.nodes.map GraphNode.build }

theorem build_eq (g : ModuleGraph) (resolve : String → Option String) :
    g.build resolve = linkAll resolve g.withBuiltUnits g.withBuiltUnits.wantedLinks := rfl

/-- What a graph has after some links. -/
structure Linked (resolve : String → Option String) (g : ModuleGraph)
    (wanted : List (Nat × String × LinkKind)) (g' : ModuleGraph) : Prop where
  placed : g'.Placed
  units : g'.units = g.units
  locals : g'.locals = (wanted.map fun w => w.2.1).foldl (addLocal resolve) g.locals
  nodes : g.nodes <+: g'.nodes

theorem linked_linkAll (hplaced : g.Placed) (wanted : List (Nat × String × LinkKind)) :
    Linked resolve g wanted (linkAll resolve g wanted) := by
  induction wanted generalizing g with
  | nil => exact ⟨hplaced, rfl, rfl, List.prefix_rfl⟩
  | cons w wanted ih =>
    have hnext : (link resolve g w.1 w.2.1 w.2.2).Placed := hplaced.link w.1 w.2.1 w.2.2
    have hlinked := ih hnext
    exact {
      placed := hlinked.placed
      units := hlinked.units.trans (units_link hplaced w.1 w.2.1 w.2.2)
      locals := by
        rw [List.map_cons, List.foldl_cons, ← locals_link hplaced w.1 w.2.1 w.2.2]
        exact hlinked.locals
      nodes := (link_cases hplaced resolve w.1 w.2.1 w.2.2).1.trans hlinked.nodes }

/-! ## What units want -/

theorem map_snd_wantedLinks (g : ModuleGraph) :
    g.wantedLinks.map Prod.snd = g.units.flatMap wanted := by
  have hfrom (nodes : List GraphNode) (k : Nat) :
      ((nodes.zipIdx k).flatMap fun p =>
        (p.1.unit?.elim [] wanted).map fun w => (p.2, w)).map Prod.snd =
        (nodes.filterMap GraphNode.unit?).flatMap wanted := by
    induction nodes generalizing k with
    | nil => rfl
    | cons n nodes ih =>
      rw [List.zipIdx_cons, List.flatMap_cons, List.map_append, ih, List.filterMap_cons]
      cases n <;> simp [GraphNode.unit?, Function.comp_def]
  exact hfrom g.nodes 0

theorem mem_wantedLinks_iff {i : Nat} {w : String × LinkKind} :
    (i, w) ∈ g.wantedLinks ↔ ∃ u, g.nodes[i]? = some (.shared u) ∧ w ∈ wanted u := by
  simp only [wantedLinks, List.mem_flatMap, List.mem_map, Prod.mk.injEq]
  constructor
  · rintro ⟨⟨n, j⟩, hn, w', hw', rfl, rfl⟩
    rw [List.mem_zipIdx_iff_getElem?] at hn
    cases n with
    | shared u => exact ⟨u, hn, hw'⟩
    | «local» request path => exact absurd hw' List.not_mem_nil
  · rintro ⟨u, hn, hw⟩
    exact ⟨(.shared u, i), List.mem_zipIdx_iff_getElem?.mpr hn, w, hw, rfl, rfl⟩

/-- What a place wants at once comes before what it wants later. -/
def AtOnceFirst (wanted : List (Nat × String × LinkKind)) : Prop :=
  wanted.Pairwise fun w w' => w.1 = w'.1 → w'.2.2 = .atOnce → w.2.2 = .atOnce

theorem atOnceFirst_wantedLinks (g : ModuleGraph) : AtOnceFirst g.wantedLinks := by
  have hplaces : g.nodes.zipIdx.Pairwise fun p q => p.2 < q.2 := by
    rw [← List.pairwise_map, List.zipIdx_map_snd]
    exact List.pairwise_lt_range'
  rw [AtOnceFirst, wantedLinks, List.pairwise_flatMap]
  refine ⟨fun p _ => ?_, hplaces.imp fun hlt w hw w' hw' hsame => ?_⟩
  · rw [List.pairwise_map]
    cases p.1 with
    | «local» request path => exact List.Pairwise.nil
    | shared u =>
      have hfirst : ∀ w ∈ u.dependencies.map fun d => (d.request, LinkKind.atOnce),
          w.2 = .atOnce := by simp
      have hlater : ∀ w ∈ u.blocks.flatten.map fun d => (d.request, LinkKind.deferred),
          w.2 ≠ .atOnce := by
        intro w hw
        obtain ⟨d, -, rfl⟩ := List.mem_map.mp hw
        simp
      exact List.pairwise_append.mpr
        ⟨List.pairwise_of_forall_mem_list fun w hw _ _ _ _ => hfirst w hw,
          List.pairwise_of_forall_mem_list fun _ _ w' hw' _ hatOnce =>
            absurd hatOnce (hlater w' hw'),
          fun w hw _ _ _ _ => hfirst w hw⟩
  · obtain ⟨_, _, rfl⟩ := List.mem_map.mp hw
    obtain ⟨_, _, rfl⟩ := List.mem_map.mp hw'
    exact absurd hsame (Nat.ne_of_lt hlt)

/-- When it is the turn of a module that is wanted later, it has had its turn as one that is wanted
at once. -/
theorem AtOnceFirst.mem_of_deferred {done rest : List (Nat × String × LinkKind)} {i : Nat}
    {request : String} (h : AtOnceFirst (done ++ (i, request, .deferred) :: rest))
    (hmem : (i, request, .atOnce) ∈ done ++ (i, request, .deferred) :: rest) :
    (i, request, .atOnce) ∈ done := by
  obtain ⟨-, hturn, -⟩ := List.pairwise_append.mp h
  obtain ⟨hlater, -⟩ := List.pairwise_cons.mp hturn
  rcases List.mem_append.mp hmem with hmem | hmem
  · exact hmem
  · rcases List.mem_cons.mp hmem with heq | hmem
    · cases heq
    · have hkind : LinkKind.deferred = .atOnce := hlater _ hmem rfl rfl
      contradiction

/-- A unit wants its module at once if it is eager, and later if it is not. -/
theorem wanted_build (u : SharedUnit) : wanted u.build = u.request?.toList.map fun request =>
    (request, if u.options.eager then .atOnce else .deferred) := by
  unfold wanted SharedUnit.build
  cases u.request? <;> cases u.options.eager <;> rfl

/-! ## What links stand for -/

/-- A link of a built unit to a module: at once if the unit wants it so, also if it wants the module
later as well. -/
structure Grounded (g : ModuleGraph) (l : Link) (u : SharedUnit) (request : String) : Prop where
  source : g.nodes[l.source]? = some (.shared u)
  built : u.needBuild = false
  target : g.place? request = some l.target
  kind : l.kind = .atOnce ↔ (request, .atOnce) ∈ wanted u

/-- A graph in which modules have one place each and links are those of its units. -/
structure Consistent (g : ModuleGraph) : Prop where
  placed : g.Placed
  grounded : ∀ l ∈ g.links, ∃ u request, g.Grounded l u request

/-- A place is linked to a module. -/
def Covers (g : ModuleGraph) (source : Nat) (request : String) : Prop :=
  ∃ l ∈ g.links, l.source = source ∧ g.place? request = some l.target

theorem place?_of_prefix {g' : ModuleGraph} (h : g.nodes <+: g'.nodes) {request : String}
    {place : Nat} (hplace : g.place? request = some place) : g'.place? request = some place := by
  obtain ⟨new, hnew⟩ := h
  rw [place?] at hplace ⊢
  rw [← hnew, List.findIdx?_append, hplace]
  rfl

theorem getElem?_of_prefix {g' : ModuleGraph} (h : g.nodes <+: g'.nodes) {i : Nat} {n : GraphNode}
    (hn : g.nodes[i]? = some n) : g'.nodes[i]? = some n := by
  obtain ⟨new, hnew⟩ := h
  obtain ⟨hlt, -⟩ := List.getElem?_eq_some_iff.mp hn
  rw [← hnew, List.getElem?_append_left hlt, hn]

theorem Grounded.of_prefix {g' : ModuleGraph} {l : Link} {u : SharedUnit} {request : String}
    (h : g.Grounded l u request) (hnodes : g.nodes <+: g'.nodes) : g'.Grounded l u request where
  source := getElem?_of_prefix hnodes h.source
  built := h.built
  target := place?_of_prefix hnodes h.target
  kind := h.kind

theorem covers_link (hplaced : g.Placed) (resolve : String → Option String) (source : Nat)
    (request : String) (kind : LinkKind) :
    (link resolve g source request kind).Covers source request := by
  obtain ⟨-, place, hplace, ⟨hlinks, l, hl, hsource, htarget⟩ | ⟨hlinks, -⟩⟩ :=
    link_cases hplaced resolve source request kind
  · exact ⟨l, hlinks ▸ hl, hsource, htarget ▸ hplace⟩
  · exact ⟨⟨source, place, kind⟩, by simp [hlinks], rfl, hplace⟩

theorem Covers.link {i : Nat} {r : String} (h : g.Covers i r) (hplaced : g.Placed)
    (resolve : String → Option String) (source : Nat) (request : String) (kind : LinkKind) :
    (link resolve g source request kind).Covers i r := by
  obtain ⟨l, hl, hsource, htarget⟩ := h
  obtain ⟨hnodes, place, -, hlinks⟩ := link_cases hplaced resolve source request kind
  refine ⟨l, ?_, hsource, place?_of_prefix hnodes htarget⟩
  rcases hlinks with ⟨hlinks, -⟩ | ⟨hlinks, -⟩
  · rwa [hlinks]
  · exact hlinks ▸ List.mem_append_left _ hl

/-- A link keeps a graph consistent if it is of the right kind, or not needed any more. -/
theorem Consistent.link (h : g.Consistent) {source : Nat} {u : SharedUnit}
    (hsource : g.nodes[source]? = some (.shared u)) (hbuilt : u.needBuild = false)
    {request : String} {kind : LinkKind}
    (hkind : g.Covers source request ∨ (kind = .atOnce ↔ (request, .atOnce) ∈ wanted u))
    (resolve : String → Option String) : (link resolve g source request kind).Consistent where
  placed := h.placed.link source request kind
  grounded := by
    obtain ⟨hnodes, place, hplace, hlinks⟩ := link_cases h.placed resolve source request kind
    have hold : ∀ l ∈ g.links, ∃ v r,
        (ModuleGraph.link resolve g source request kind).Grounded l v r := by
      intro l hl
      obtain ⟨v, r, hgrounded⟩ := h.grounded l hl
      exact ⟨v, r, hgrounded.of_prefix hnodes⟩
    rcases hlinks with ⟨hlinks, -⟩ | ⟨hlinks, hnew⟩
    · rwa [hlinks]
    · rw [hlinks, List.forall_mem_append, List.forall_mem_singleton]
      refine ⟨hold, u, request, getElem?_of_prefix hnodes hsource, hbuilt, hplace,
        hkind.resolve_left ?_⟩
      rintro ⟨l, hl, hends, htarget⟩
      have hsame := place?_of_prefix hnodes htarget
      exact hnew l hl hends (Option.some.inj (hsame.symm.trans hplace))

/-- Linking what units want, when `done` has been linked already. -/
theorem Consistent.linkAll (h : g.Consistent) (resolve : String → Option String)
    {done rest : List (Nat × String × LinkKind)} (hfirst : AtOnceFirst (done ++ rest))
    (hdone : ∀ w ∈ done, g.Covers w.1 w.2.1)
    (hunits : ∀ w ∈ rest, ∃ u, g.nodes[w.1]? = some (.shared u) ∧ u.needBuild = false ∧
      ∀ x, (w.1, x) ∈ done ++ rest ↔ x ∈ wanted u) :
    (linkAll resolve g rest).Consistent ∧
      ∀ w ∈ done ++ rest, (linkAll resolve g rest).Covers w.1 w.2.1 := by
  induction rest generalizing g done with
  | nil =>
    rw [List.append_nil]
    exact ⟨h, hdone⟩
  | cons w rest ih =>
    obtain ⟨i, request, kind⟩ := w
    obtain ⟨u, hsource, hbuilt, hwanted⟩ := hunits _ (List.mem_cons_self ..)
    have hkind : g.Covers i request ∨ (kind = .atOnce ↔ (request, .atOnce) ∈ wanted u) := by
      have hself : (request, kind) ∈ wanted u := (hwanted _).mp (by simp)
      cases kind with
      | atOnce => exact .inr (iff_of_true rfl hself)
      | deferred =>
        by_cases hatOnce : (request, .atOnce) ∈ wanted u
        · exact .inl (hdone _ (hfirst.mem_of_deferred ((hwanted _).mpr hatOnce)))
        · exact .inr (iff_of_false (by simp) hatOnce)
    have hnext : (ModuleGraph.link resolve g i request kind).Consistent :=
      h.link hsource hbuilt hkind resolve
    have hnodes := (link_cases h.placed resolve i request kind).1
    have hparts : done ++ (i, request, kind) :: rest = (done ++ [(i, request, kind)]) ++ rest := by
      simp
    rw [hparts] at hfirst hunits ⊢
    refine ih hnext hfirst ?_ fun w hw => ?_
    · rw [List.forall_mem_append, List.forall_mem_singleton]
      exact ⟨fun w hw => (hdone w hw).link h.placed resolve i request kind,
        covers_link h.placed resolve i request kind⟩
    · obtain ⟨v, hv, hrest⟩ := hunits w (List.mem_cons_of_mem _ hw)
      exact ⟨v, getElem?_of_prefix hnodes hv, hrest⟩

/-! ## Building a graph -/

theorem needsAtOnce_eq_true_iff {request : String} : g.needsAtOnce request = true ↔
    ∃ l ∈ g.links, g.place? request = some l.target ∧ l.kind = .atOnce := by
  simp only [needsAtOnce, Option.any_eq_true, isAtOnce, List.any_eq_true, Bool.and_eq_true,
    beq_iff_eq]
  constructor
  · rintro ⟨place, hplace, l, hl, rfl, hkind⟩
    exact ⟨l, hl, hplace, hkind⟩
  · rintro ⟨l, hl, hplace, hkind⟩
    exact ⟨l.target, hplace, l, hl, rfl, hkind⟩

/-- Building units changes neither the modules nor the links of units that are built. -/
theorem Consistent.withBuiltUnits (h : g.Consistent) : g.withBuiltUnits.Consistent := by
  have hlocal (n : GraphNode) : n.build.local? = n.local? := by cases n <;> rfl
  have hlocals : g.withBuiltUnits.locals = g.locals := by
    simp [ModuleGraph.withBuiltUnits, locals, List.filterMap_map, hlocal]
  have hplace (request : String) : g.withBuiltUnits.place? request = g.place? request := by
    simp [ModuleGraph.withBuiltUnits, place?, List.findIdx?_map, Function.comp_def,
      GraphNode.isLocal, hlocal]
  refine ⟨⟨hlocals ▸ h.placed.nodup, by simpa [ModuleGraph.withBuiltUnits] using h.placed.targets⟩,
    fun l hl => ?_⟩
  obtain ⟨u, request, hgrounded⟩ := h.grounded l hl
  refine ⟨u, request, ⟨?_, hgrounded.built, (hplace request).trans hgrounded.target,
    hgrounded.kind⟩⟩
  simp [ModuleGraph.withBuiltUnits, hgrounded.source, GraphNode.build, hgrounded.built]

theorem Consistent.linked_build (h : g.Consistent) (resolve : String → Option String) :
    Linked resolve g.withBuiltUnits g.withBuiltUnits.wantedLinks (g.build resolve) := by
  rw [build_eq]
  exact linked_linkAll h.withBuiltUnits.placed g.withBuiltUnits.wantedLinks

theorem needBuild_of_withBuiltUnits {i : Nat} {u : SharedUnit}
    (h : g.withBuiltUnits.nodes[i]? = some (.shared u)) : u.needBuild = false := by
  rw [ModuleGraph.withBuiltUnits, List.getElem?_map, Option.map_eq_some_iff] at h
  obtain ⟨n, -, hbuild⟩ := h
  cases n with
  | «local» request path => contradiction
  | shared v =>
    cases hbuild
    split
    · rfl
    · rename_i hbuilt
      simpa using hbuilt

/-- A build keeps a graph consistent and links all its units. -/
theorem Consistent.build (h : g.Consistent) (resolve : String → Option String) :
    (g.build resolve).Consistent ∧
      ∀ w ∈ g.withBuiltUnits.wantedLinks, (g.build resolve).Covers w.1 w.2.1 := by
  have hunits : ∀ w ∈ g.withBuiltUnits.wantedLinks,
      ∃ u, g.withBuiltUnits.nodes[w.1]? = some (.shared u) ∧ u.needBuild = false ∧
        ∀ x, (w.1, x) ∈ [] ++ g.withBuiltUnits.wantedLinks ↔ x ∈ wanted u := by
    rintro ⟨i, w⟩ hw
    obtain ⟨u, hu, -⟩ := mem_wantedLinks_iff.mp hw
    refine ⟨u, hu, needBuild_of_withBuiltUnits hu, fun x => ?_⟩
    rw [List.nil_append, mem_wantedLinks_iff]
    simp [hu]
  rw [build_eq]
  exact h.withBuiltUnits.linkAll resolve (atOnceFirst_wantedLinks _) (List.forall_mem_nil _) hunits

/-- After a build a module is needed at once just if some unit wants it at once. -/
theorem needsAtOnce_build_iff (h : g.Consistent) {resolve : String → Option String}
    {request : String} : (g.build resolve).needsAtOnce request = true ↔
      ∃ u ∈ (g.build resolve).units, (request, .atOnce) ∈ wanted u := by
  obtain ⟨hconsistent, hcovers⟩ := h.build resolve
  rw [needsAtOnce_eq_true_iff]
  constructor
  · rintro ⟨l, hl, hplace, hkind⟩
    obtain ⟨u, r, hgrounded⟩ := hconsistent.grounded l hl
    obtain rfl : r = request := place?_inj hgrounded.target hplace
    exact ⟨u, mem_units_iff.mpr ⟨_, hgrounded.source⟩, hgrounded.kind.mp hkind⟩
  · rintro ⟨u, hu, hwanted⟩
    have hlinked := h.linked_build resolve
    rw [hlinked.units] at hu
    obtain ⟨i, hi⟩ := mem_units_iff.mp hu
    have hasked : (i, request, .atOnce) ∈ g.withBuiltUnits.wantedLinks :=
      mem_wantedLinks_iff.mpr ⟨u, hi, hwanted⟩
    obtain ⟨l, hl, rfl, hplace⟩ := hcovers _ hasked
    obtain ⟨v, r, hgrounded⟩ := hconsistent.grounded l hl
    obtain rfl : v = u := by
      simpa [hgrounded.source] using getElem?_of_prefix hlinked.nodes hi
    obtain rfl : r = request := place?_inj hgrounded.target hplace
    exact ⟨l, hl, hplace, hgrounded.kind.mpr hwanted⟩

/-! ## Chunks -/

/-- Adds what is known about a local module to a chunk graph. -/
def assignLocal (g : ModuleGraph) (base : String) (chunks : ChunkGraph)
    (module : String × Option String) : ChunkGraph :=
  module.2.elim chunks fun path =>
    (chunks.insertModule module.1 (Path.shorten base path)).addChunk module.1
      (if g.needsAtOnce module.1 then initialChunk else chunkName (Path.shorten base path))

theorem foldl_assign (hplaced : g.Placed) (base : String) {front rest : List GraphNode}
    (hnodes : g.nodes = front ++ rest) (chunks : ChunkGraph) :
    (rest.zipIdx front.length).foldl (g.assign base) chunks =
      (rest.filterMap GraphNode.local?).foldl (g.assignLocal base) chunks := by
  induction rest generalizing front chunks with
  | nil => rfl
  | cons n rest ih =>
    have hnext : g.nodes = (front ++ [n]) ++ rest := by simpa using hnodes
    have hrest := ih hnext (g.assign base chunks (n, front.length))
    rw [List.length_append, List.length_singleton] at hrest
    rw [List.zipIdx_cons, List.foldl_cons, hrest]
    cases n with
    | shared u => rfl
    | «local» request path =>
      -- The module has no other place, so this is the one it is found at.
      have hnew : List.findIdx? (·.isLocal request) front = none := by
        refine place?_eq_none_iff (g := { nodes := front }).mpr fun hmem => ?_
        have hnodup := hplaced.nodup
        rw [locals, hnodes, List.filterMap_append, List.map_append, List.nodup_append] at hnodup
        exact hnodup.2.2 request hmem request (List.mem_cons_self ..) rfl
      have hself : GraphNode.isLocal request (.local request path) = true := by
        simp [GraphNode.isLocal, GraphNode.local?]
      have hplace : g.place? request = some front.length := by
        rw [place?, hnodes, List.findIdx?_append, hnew, List.findIdx?_cons, hself]
        simp
      have hneeds : g.needsAtOnce request = g.isAtOnce front.length := by
        rw [needsAtOnce, hplace, Option.any_some]
      have hstep : g.assign base chunks (.local request path, front.length) =
          g.assignLocal base chunks (request, path) := by
        cases path with
        | none => rfl
        | some path => simp only [assign, assignLocal, Option.elim, hneeds]
      rw [hstep]
      rfl

theorem chunkGraph_eq (hplaced : g.Placed) (base : String) :
    g.chunkGraph base = g.locals.foldl (g.assignLocal base) {} :=
  foldl_assign hplaced base (show g.nodes = [] ++ g.nodes from rfl) {}

/-- Chunks depend on nothing but the local modules and which of them are needed at once. -/
theorem chunkGraph_congr {g' : ModuleGraph} (hplaced : g.Placed) (hplaced' : g'.Placed)
    (hlocals : g.locals = g'.locals) (hneeds : ∀ r, g.needsAtOnce r = g'.needsAtOnce r)
    (base : String) : g.chunkGraph base = g'.chunkGraph base := by
  have hassign : g.assignLocal base = g'.assignLocal base := by
    funext chunks module
    simp only [assignLocal, hneeds]
  rw [chunkGraph_eq hplaced, chunkGraph_eq hplaced', hlocals, hassign]

end ModuleGraph

end ModuleSharing
