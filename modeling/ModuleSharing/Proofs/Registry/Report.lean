import ModuleSharing.Proofs.Registry.Dispatch
import ModuleSharing.Proofs.Registry.Isolation
import ModuleSharing.Proofs.Registry.Snapshot

/-! The outcomes of simulated loads say what happened (`Registry.simulations_report`).  In a
registry that was loaded from a snapshot no factory fails, so a request that is answered from the
registry succeeds and its warning is reported; one that fails has added none.  Each entry yields the
module that the snapshot lists for it (`Registry.Faithful`). -/

namespace ModuleSharing

open Json

/-! ## Modules of a snapshot -/

/-- The module that stands for a version, given as `text`. -/
def listedModule (key text origin : String) : Json :=
  .object [("key", .string key), ("version", .string text), ("from", .string origin)]

/-- An entry whose module names the key, the origin and the version. -/
def Entry.Faithful (key : String) (e : Entry Json) : Prop :=
  ∃ text, Version.parse text = .ok e.version ∧ e.factory = .ok (listedModule key text e.origin)

namespace Registry

/-- Every entry is faithful. -/
def Faithful (r : Registry Json) : Prop := ∀ a, ∀ e ∈ (r.shelf a).entries, e.Faithful a.key

theorem faithful_empty : (empty : Registry Json).Faithful := by
  intro a e he
  contradiction

theorem Faithful.register {r : Registry Json} (h : r.Faithful) (hsound : r.Sound) {a : Address}
    {v : Version} {origin : String} {factory : Factory Json} {eager : Bool}
    (hentry : Entry.Faithful a.key ⟨v, origin, eager, false, factory⟩) :
    (r.register a v origin factory eager).Faithful := by
  intro b e he
  rw [shelf_register] at he
  split at he
  · rename_i hb
    subst hb
    rcases (hsound.shelf b).ascending.register_cases ⟨v, origin, eager, false, factory⟩ with
      ⟨_, _, _, hkept⟩ | ⟨_, hput⟩
    · rw [hkept] at he
      exact h b e he
    · rcases (hput.mem_iff e).mp he with rfl | ⟨he, _⟩
      · exact hentry
      · exact h b e he
  · exact h b e he

/-- Loads and activations mark entries and settle versions, which modules do not depend on. -/
theorem Faithful.of_unmarked {r r' : Registry Json} (h : r.Faithful)
    (hsame : ∀ a, (r'.entries a).map Entry.unmarked = (r.entries a).map Entry.unmarked) :
    r'.Faithful := by
  intro a e he
  have hmem : e.unmarked ∈ (r.entries a).map Entry.unmarked := by
    rw [← hsame a, entries_eq]
    exact List.mem_map_of_mem he
  obtain ⟨x, hx, heq⟩ := List.mem_map.mp hmem
  rw [entries_eq] at hx
  have hfaithful : x.unmarked.Faithful a.key := h a x hx
  rw [heq] at hfaithful
  exact hfaithful

theorem faithful_toRegistry {s : Snapshot} {r : Registry Json} (h : s.toRegistry = .ok r) :
    r.Faithful := by
  have hboth := Snapshot.toRegistry_induction (P := fun r => r.Sound ∧ r.Faithful)
    ⟨sound_empty, faithful_empty⟩
    (fun r a l v hr hv => ⟨hr.1.register a v _ _ _, hr.2.register hr.1 ⟨l.version, hv, rfl⟩⟩)
    (fun r a v hr => ⟨hr.1.activate a v, hr.2.of_unmarked fun b => by rw [r.entries_activate]⟩) h
  exact hboth.2

theorem warnings_toRegistry {s : Snapshot} {r : Registry Json} (h : s.toRegistry = .ok r) :
    r.warnings = [] :=
  Snapshot.toRegistry_induction (P := fun r => r.warnings = []) rfl (fun _ _ _ _ hr _ => hr)
    (fun r a v hr => (r.warnings_activate a v).trans hr) h

end Registry

/-! ## One simulated load -/

namespace Shelf

/-- A request calls the factory of an entry, or it gets no warning and the fallback or a failure. -/
theorem Answered.sources {s : Shelf Json} {q : Request Json} {plan : Plan Json}
    {answer : Answer Json} (h : s.Answered q plan answer) :
    (∃ e ∈ s.entries, answer.result = e.load) ∨
      (answer.warnings = [] ∧ ((∃ available, answer.result = Registry.useFallback q available) ∨
        ∃ failure, answer.result = .error failure)) := by
  cases h with
  | highest i e _ hplace => exact Or.inl ⟨e, List.mem_of_getElem? hplace, rfl⟩
  | unmatched => exact Or.inr ⟨rfl, Or.inl ⟨_, rfl⟩⟩
  | agreed i e _ _ _ _ hplace => exact Or.inl ⟨e, List.mem_of_getElem? hplace, rfl⟩
  | overruled i e _ _ _ _ _ hplace => exact Or.inl ⟨e, List.mem_of_getElem? hplace, rfl⟩
  | refused active =>
    refine Or.inr ⟨rfl, ?_⟩
    unfold refusal
    split
    · exact Or.inl ⟨_, rfl⟩
    · exact Or.inr ⟨_, rfl⟩

end Shelf

/-- The fields of an outcome that say where its module comes from agree with the source. -/
structure LoadOutcome.Names (outcome : LoadOutcome) (source : Source) : Prop where
  version : outcome.version = source.version?
  origin : outcome.origin = source.origin?
  fallback : outcome.fallback = (source == .fallback)

/-- What an outcome has to say of the registry `r` that answered the request. -/
inductive LoadOutcome.Tells (r : Registry Json) (o : LoadOptions) (outcome : LoadOutcome) :
    Prop where
  | fallback (name : String) (given : o.fallback = some name) (names : outcome.Names .fallback)
      (own : outcome.module = fallbackModule name)
  | shared (e : Entry Json) (text : String) (registered : r.entry? o.address e.version = some e)
      (names : outcome.Names (.shared e.version e.origin))
      (reads : Version.parse text = .ok e.version)
      (listed : outcome.module = listedModule o.address.key text e.origin)

namespace Registry

theorem useFallback_request (o : LoadOptions) (range : Option VersionRange)
    (available : List String) :
    (∃ name, o.fallback = some name ∧
      useFallback (o.request range) available = .ok ⟨.fallback, fallbackModule name⟩) ∨
    ∃ failure, useFallback (o.request range) available = .error failure := by
  cases hfallback : o.fallback with
  | none => exact Or.inr ⟨_, by simp [useFallback, LoadOptions.request, hfallback]; rfl⟩
  | some name =>
    exact Or.inl ⟨name, rfl, by simp [useFallback, LoadOptions.request, hfallback, Except.map]⟩

/-- A simulated load that is answered reports the warnings it added. -/
theorem simulate_of_ok (r : Registry Json) {o : LoadOptions} {range : Option VersionRange}
    (hrange : o.parsedRange = .ok range) {loaded : Loaded Json}
    (h : ((r.shelf o.address).answer (o.request range)).result = .ok loaded) :
    ∃ outcome : LoadOutcome, (r.simulate o).1 = .ok outcome ∧
      (r.simulate o).2.warnings = r.warnings ++ outcome.warnings ∧
      outcome.Names loaded.source ∧ outcome.module = loaded.module := by
  obtain ⟨hresolved, hwarnings, _⟩ := resolve_eq_answer r (o.request range)
  rw [r.simulate_eq_resolve hrange, hresolved, hwarnings, List.drop_left]
  exact ⟨_, congrArg (Except.map _) h, rfl, ⟨rfl, rfl, rfl⟩, rfl⟩

/-- A simulated load either fails without a warning, or its outcome has the warning it added and
tells where the module comes from. -/
theorem Reachable.simulate_tells {r : Registry Json} (h : r.Reachable) (hfaithful : r.Faithful)
    (o : LoadOptions) :
    (∃ failure, (r.simulate o).1 = .error failure ∧ (r.simulate o).2.warnings = r.warnings) ∨
    ∃ outcome : LoadOutcome, (r.simulate o).1 = .ok outcome ∧
      (r.simulate o).2.warnings = r.warnings ++ outcome.warnings ∧ outcome.Tells r o := by
  cases hrange : o.parsedRange with
  | error e => exact Or.inl ⟨e, by simp [simulate, hrange]⟩
  | ok range =>
    have hordered := h.sound.shelf o.address
    have hfails (failure : LoadError)
        (hresult : ((r.shelf o.address).answer (o.request range)).result = .error failure)
        (hquiet : ((r.shelf o.address).answer (o.request range)).warnings = []) :
        (r.simulate o).1 = .error failure ∧ (r.simulate o).2.warnings = r.warnings := by
      obtain ⟨hresolved, hwarnings, _⟩ := resolve_eq_answer r (o.request range)
      rw [r.simulate_eq_resolve hrange, hresolved, hwarnings]
      exact ⟨congrArg (Except.map _) hresult,
        (congrArg (r.warnings ++ ·) hquiet).trans (List.append_nil _)⟩
    rcases (hordered.answered (o.request range)).sources with
      ⟨e, he, hload⟩ | ⟨hquiet, ⟨available, hown⟩ | ⟨failure, hfailure⟩⟩
    · obtain ⟨text, hreads, hfactory⟩ := hfaithful o.address e he
      have hok := (e.load_eq_ok_iff ..).mpr ⟨rfl, rfl, hfactory⟩
      obtain ⟨outcome, hresult, hwarnings, hnames, hmodule⟩ :=
        r.simulate_of_ok hrange (hload.trans hok)
      have hregistered : r.entry? o.address e.version = some e := by
        rw [entry?_eq, hordered.ascending.get?_eq_some_iff]
        exact ⟨he, Version.precedence_self _⟩
      exact Or.inr ⟨outcome, hresult, hwarnings, .shared e text hregistered hnames hreads hmodule⟩
    · rcases useFallback_request o range available with
        ⟨name, hname, hfallback⟩ | ⟨failure, hfailed⟩
      · obtain ⟨outcome, hresult, hwarnings, hnames, hmodule⟩ :=
          r.simulate_of_ok hrange (hown.trans hfallback)
        exact Or.inr ⟨outcome, hresult, hwarnings, .fallback name hname hnames hmodule⟩
      · exact Or.inl ⟨failure, hfails failure (hown.trans hfailed) hquiet⟩
    · exact Or.inl ⟨failure, hfails failure hfailure hquiet⟩

/-- What a simulated load does to the registry is nothing, or what a request does. -/
theorem simulate_state (r : Registry Json) (o : LoadOptions) :
    (r.simulate o).2 = r ∨ ∃ q, (r.simulate o).2 = (r.perform (.resolve q)).2 := by
  cases hrange : o.parsedRange with
  | error e => exact Or.inl (by simp [simulate, hrange])
  | ok range => exact Or.inr ⟨o.request range, by rw [r.simulate_eq_resolve hrange]; rfl⟩

theorem Reachable.simulate {r : Registry Json} (h : r.Reachable) (o : LoadOptions) :
    (r.simulate o).2.Reachable := by
  rcases r.simulate_state o with hsame | ⟨q, hq⟩
  · rwa [hsame]
  · rw [hq]
    exact h.perform _

theorem Reachable.unmarked_simulate {r : Registry Json} (h : r.Reachable) (o : LoadOptions)
    (a : Address) :
    ((r.simulate o).2.entries a).map Entry.unmarked = (r.entries a).map Entry.unmarked := by
  rcases r.simulate_state o with hsame | ⟨q, hq⟩
  · rw [hsame]
  · rw [hq]
    exact (h.sound.perform_keeps h.indexed (c := .resolve q) rfl).1 a

end Registry

/-- What an outcome tells holds of every registry with the same entries up to their marks. -/
theorem LoadOutcome.Tells.of_unmarked {r r' : Registry Json} {o : LoadOptions}
    {outcome : LoadOutcome} (h : outcome.Tells r' o) (hsound : r.Sound)
    (hsame : (r'.entries o.address).map Entry.unmarked =
      (r.entries o.address).map Entry.unmarked) : outcome.Tells r o := by
  cases h with
  | fallback name given names own => exact .fallback name given names own
  | shared e text registered names reads listed =>
    rw [Registry.entry?_eq] at registered
    have hmem : e.unmarked ∈ (r.entries o.address).map Entry.unmarked := by
      rw [← hsame, Registry.entries_eq]
      exact List.mem_map_of_mem (Shelf.mem_of_get? registered).1
    obtain ⟨x, hx, heq⟩ := List.mem_map.mp hmem
    have hversion : x.version = e.version := by
      change x.unmarked.version = e.unmarked.version
      rw [heq]
    have horigin : x.origin = e.origin := by
      change x.unmarked.origin = e.unmarked.origin
      rw [heq]
    rw [Registry.entries_eq] at hx
    rw [← hversion] at names reads
    rw [← horigin] at names listed
    refine .shared x text ?_ names reads listed
    rw [Registry.entry?_eq, (hsound.shelf o.address).ascending.get?_eq_some_iff]
    exact ⟨hx, Version.precedence_self _⟩

/-! ## Simulated loads in a row -/

namespace Registry

/-- Simulates loads one by one and records each with its result. -/
def simulateAll (r : Registry Json) :
    List LoadOptions → List (LoadOptions × Except LoadError LoadOutcome) × Registry Json
  | [] => ([], r)
  | o :: requests =>
    let (result, r) := r.simulate o
    let (record, r) := simulateAll r requests
    ((o, result) :: record, r)

/-- The warnings that successful loads report, in order. -/
def reported (record : List (LoadOptions × Except LoadError LoadOutcome)) : List String :=
  record.flatMap fun (_, result) => result.toOption.elim [] LoadOutcome.warnings

theorem simulateAll_cons (r : Registry Json) (o : LoadOptions) (requests : List LoadOptions) :
    r.simulateAll (o :: requests) =
      ((o, (r.simulate o).1) :: ((r.simulate o).2.simulateAll requests).1,
        ((r.simulate o).2.simulateAll requests).2) := rfl

theorem Reachable.simulateAll_tells {r : Registry Json} (h : r.Reachable) (hfaithful : r.Faithful)
    (requests : List LoadOptions) :
    (r.simulateAll requests).2.warnings =
      r.warnings ++ reported (r.simulateAll requests).1 ∧
    ∀ o outcome, (o, .ok outcome) ∈ (r.simulateAll requests).1 → outcome.Tells r o := by
  induction requests generalizing r with
  | nil => simp [simulateAll, reported]
  | cons o requests ih =>
    have hkept := h.unmarked_simulate o
    have hnext := h.simulate o
    obtain ⟨hwarnings, htells⟩ := ih hnext (hfaithful.of_unmarked hkept)
    rw [simulateAll_cons]
    constructor
    · rcases h.simulate_tells hfaithful o with
        ⟨failure, hfailed, hquiet⟩ | ⟨outcome, hok, hadded, _⟩
      · simp [hwarnings, hquiet, reported, hfailed, Except.toOption]
      · simp [hwarnings, hadded, reported, hok, Except.toOption]
    · intro o' outcome hmem
      rcases List.mem_cons.mp hmem with hmem | hmem
      · obtain ⟨rfl, hok⟩ := Prod.mk.inj hmem
        rcases h.simulate_tells hfaithful o' with
          ⟨failure, hfailed, _⟩ | ⟨outcome', hok', _, htells⟩
        · rw [hfailed] at hok
          contradiction
        · rw [hok', Except.ok.injEq] at hok
          rwa [hok]
      · exact (htells o' outcome hmem).of_unmarked h.sound (hkept o'.address)

end Registry

/-! ## Reports -/

namespace LoadOutcome

theorem Names.report_of_shared {outcome : LoadOutcome} {v : Version} {origin : String}
    (h : outcome.Names (.shared v origin)) :
    outcome.toJson.get? "fallback" = some (.bool false) ∧
    outcome.toJson.get? "version" = some (.string v.text) ∧
    outcome.toJson.get? "from" = some (.string origin) ∧
    outcome.toJson.get? "module" = some outcome.module := by
  obtain ⟨loader, version, origin, fallback, module, warnings⟩ := outcome
  obtain ⟨rfl, rfl, rfl⟩ := h
  exact ⟨rfl, rfl, rfl, rfl⟩

theorem Names.report_of_fallback {outcome : LoadOutcome} (h : outcome.Names .fallback) :
    outcome.toJson.get? "fallback" = some (.bool true) ∧
    outcome.toJson.get? "version" = none ∧ outcome.toJson.get? "from" = none ∧
    outcome.toJson.get? "module" = some outcome.module := by
  obtain ⟨loader, version, origin, fallback, module, warnings⟩ := outcome
  obtain ⟨rfl, rfl, rfl⟩ := h
  cases warnings <;> exact ⟨rfl, rfl, rfl, rfl⟩

end LoadOutcome

namespace Registry

/-- After simulated loads in a registry that was loaded from a snapshot, its warnings are those that
the successful loads report, in order.  A report says `fallback` exactly if it has neither a version
nor an origin, and then its module is the one that the request brought along.  Every other report
has the version and the origin of one registered entry, and its module names the requested key, that
origin and a text of that version. -/
theorem simulations_report {s : Snapshot} {r : Registry Json} (h : s.toRegistry = .ok r)
    (requests : List LoadOptions) :
    (r.simulateAll requests).2.warnings = reported (r.simulateAll requests).1 ∧
    ∀ o outcome, (o, .ok outcome) ∈ (r.simulateAll requests).1 →
      let report := outcome.toJson.get?
      (report "fallback" = some (.bool true) ↔ report "version" = none ∧ report "from" = none) ∧
      (report "fallback" = some (.bool true) →
        ∃ name, o.fallback = some name ∧
          report "module" = some (.object [("fallback", .string name)])) ∧
      (report "fallback" ≠ some (.bool true) →
        ∃ e text, r.entry? o.address e.version = some e ∧ Version.parse text = .ok e.version ∧
          report "fallback" = some (.bool false) ∧
          report "version" = some (.string e.version.text) ∧
          report "from" = some (.string e.origin) ∧
          report "module" = some (.object [("key", .string o.address.key),
            ("version", .string text), ("from", .string e.origin)])) := by
  have hreachable := Snapshot.reachable_toRegistry h
  obtain ⟨hwarnings, htells⟩ := hreachable.simulateAll_tells (faithful_toRegistry h) requests
  rw [warnings_toRegistry h, List.nil_append] at hwarnings
  refine ⟨hwarnings, fun o outcome hmem => ?_⟩
  cases htells o outcome hmem with
  | fallback name given names own =>
    obtain ⟨hfallback, hversion, horigin, hmodule⟩ := names.report_of_fallback
    simp only [hfallback, hversion, horigin, hmodule, own]
    exact ⟨by simp, fun _ => ⟨name, given, rfl⟩, by simp⟩
  | shared e text registered names reads listed =>
    obtain ⟨hfallback, hversion, horigin, hmodule⟩ := names.report_of_shared
    simp only [hfallback, hversion, horigin, hmodule, listed]
    exact ⟨by simp, by simp, fun _ => ⟨e, text, registered, reads, by simp [listedModule]⟩⟩

/-- Two versions of one key, the lower one written with a mark. -/
def twoReacts : Snapshot :=
  ⟨[("default", ⟨[("react", ⟨[⟨"v17.0.2", "shop", false⟩, ⟨"18.2.0", "host", true⟩], none⟩)]⟩)]⟩

/-- A load that settles the version, one that is overruled, one that fails, and one of the fallback.
-/
def fourLoads : List LoadOptions :=
  [{ address := ⟨"default", "react"⟩, range := some "^17.0.0", singleton := true },
    { address := ⟨"default", "react"⟩, range := some "^18.0.0", singleton := true },
    { address := ⟨"default", "react"⟩, range := some "^18.0.0", singleton := true, strict := true },
    { address := ⟨"default", "react"⟩, range := some "^16.0.0", strict := true,
      fallback := some "own" }]

theorem simulations_report_fourLoads :
    ∃ r, twoReacts.toRegistry = .ok r ∧
      (r.simulateAll fourLoads).2.warnings = reported (r.simulateAll fourLoads).1 ∧
      (reported (r.simulateAll fourLoads).1).length = 1 ∧
      (r.simulateAll fourLoads).1.map (fun p => p.2.toOption.map LoadOutcome.fallback) =
        [some false, some false, none, some true] := by
  obtain ⟨r, hr⟩ : ∃ r, twoReacts.toRegistry = .ok r := ⟨_, rfl⟩
  obtain ⟨hwarnings, _⟩ := simulations_report hr fourLoads
  refine ⟨r, hr, hwarnings, ?_, ?_⟩ <;> (cases hr; rfl)

end Registry

end ModuleSharing
