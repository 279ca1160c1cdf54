import ModuleSharing.Proofs.Registry.Moment

/-! Loads do not disturb each other, also where factories answer anew at each call.  What a shelf
decides about a request depends on the registered versions and the activation alone
(`Shelf.plan_congr`), and the decision stands once it has been carried out (`Shelf.plan_settled`).
So a request finds what it would have found without the loads before it
(`Registry.loads_leave_outcomes`), and its outcome is another one only if the factory it comes from
yields something else (`Recalled`), such as one that fails at the first call
(`Registry.second_load_succeeds`). -/

namespace ModuleSharing

variable {μ : Type}

namespace Shelf

/-! ## Decisions -/

theorem versionTexts_eq (s : Shelf μ) : s.versionTexts = s.versions.map Version.text := by
  rw [versions, List.map_map]
  rfl

theorem planHighest_eq (s : Shelf μ) (q : Request μ) :
    s.planHighest q =
      (s.versions.reverse.find? q.accepts).elim
        (.reply (Registry.useFallback q (s.versions.map Version.text)))
        fun v => .enter v q.singleton [] := by
  have hpick : s.versions.reverse.find? q.accepts =
      (s.highestMatching? q.range).map Entry.version := by
    rw [versions, ← List.map_reverse, List.find?_map]
    rfl
  rw [hpick, ← versionTexts_eq, planHighest]
  cases s.highestMatching? q.range <;> rfl

theorem planHighest_congr {s t : Shelf μ} (h : t.versions = s.versions) (q : Request μ) :
    t.planHighest q = s.planHighest q := by
  rw [planHighest_eq, planHighest_eq, h]

/-- A decision depends on the registered versions and the activation. -/
theorem plan_congr {s t : Shelf μ} (hversions : t.versions = s.versions)
    (hactivated : t.activated = s.activated) (q : Request μ) : t.plan q = s.plan q := by
  have htexts : t.versionTexts = s.versionTexts := by
    rw [versionTexts_eq, versionTexts_eq, hversions]
  simp only [plan, planActive, refusal, hactivated, htexts, planHighest_congr hversions]

/-- Only a singleton settles on a version, without a warning and on one that it accepts. -/
theorem of_plan_settles {s : Shelf μ} {q : Request μ} {v : Version} {warnings : List String}
    (h : s.plan q = .enter v true warnings) :
    q.singleton = true ∧ q.accepts v = true ∧ warnings = [] := by
  have hhighest (hplan : s.planHighest q = .enter v true warnings) :
      q.singleton = true ∧ q.accepts v = true ∧ warnings = [] := by
    rw [planHighest_eq] at hplan
    cases hpick : s.versions.reverse.find? q.accepts with
    | none =>
      rw [hpick] at hplan
      contradiction
    | some x =>
      rw [hpick, Option.elim_some, Plan.enter.injEq] at hplan
      obtain ⟨rfl, hsingleton, hnone⟩ := hplan
      exact ⟨hsingleton, List.find?_some hpick, hnone.symm⟩
  unfold plan at h
  split at h
  · split at h
    · unfold planActive at h
      split at h
      · simp at h
      · split at h <;> simp at h
    · exact hhighest h
  · exact hhighest h

/-- Once a request is settled, the same request enters the same version and settles nothing more. -/
theorem plan_settled {s t : Shelf μ} {q : Request μ} {v : Version} {settles : Bool}
    {warnings : List String} (h : s.plan q = .enter v settles warnings)
    (hversions : t.versions = s.versions)
    (hactivated : t.activated = (s.settle settles v).activated) :
    t.plan q = .enter v false warnings := by
  cases settles with
  | false => rw [plan_congr hversions hactivated, h]
  | true =>
    -- now the activation decides that the request made, and it fits
    obtain ⟨hsingleton, haccepts, rfl⟩ := of_plan_settles h
    rw [plan_of_activated hsingleton hactivated, planActive, if_pos haccepts]

/-- What a shelf decides on a request, whatever its fallback yields. -/
inductive Decision (s : Shelf μ) (q : Request μ) : Prop where
  | enters (v : Version) (settles : Bool) (warnings : List String)
      (plan : ∀ own, s.plan (q.yielding own) = .enter v settles warnings)
  | falls (brought : q.fallback.isSome = true)
      (plan : ∀ own, s.plan (q.yielding own) = .reply (own.map fun module => ⟨.fallback, module⟩))
  | fails (failure : LoadError)
      (plan : ∀ own, s.plan (q.yielding own) = .reply (.error failure))

theorem Decision.of_useFallback {s : Shelf μ} {q : Request μ} (available : List String)
    (h : ∀ own, s.plan (q.yielding own) =
      .reply (Registry.useFallback (q.yielding own) available)) : s.Decision q := by
  cases hq : q.fallback with
  | none =>
    refine .fails (q.unsatisfied available) fun own => ?_
    rw [h, Registry.useFallback, Request.yielding, hq]
    rfl
  | some fallback =>
    refine .falls (by rw [hq]; rfl) fun own => ?_
    rw [h, Registry.useFallback, Request.yielding, hq]
    rfl

theorem decision (s : Shelf μ) (q : Request μ) : s.Decision q := by
  have hfree (h : q.singleton = false ∨ s.activated = none) : s.Decision q := by
    have hplan (own : Factory μ) := plan_of_free (q := q.yielding own) h
    simp only [planHighest_eq, Request.accepts_yielding, Request.singleton_yielding] at hplan
    cases hpick : s.versions.reverse.find? q.accepts with
    | none => exact .of_useFallback _ fun own => by rw [hplan, hpick, Option.elim_none]
    | some v => exact .enters v q.singleton [] fun own => by rw [hplan, hpick, Option.elim_some]
  cases hactive : s.activated with
  | none => exact hfree (Or.inr hactive)
  | some active =>
    cases hsingleton : q.singleton with
    | false => exact hfree (Or.inl hsingleton)
    | true =>
      have hplan (own : Factory μ) := plan_of_activated (q := q.yielding own) hsingleton hactive
      simp only [planActive] at hplan
      cases hfits : q.accepts active with
      | true => exact .enters active false [] fun own => by simp [hplan, hfits]
      | false =>
        cases hstrict : q.strict with
        | false =>
          exact .enters active false [(Registry.conflict q active).message] fun own => by
            simp [hplan, hfits, hstrict]
        | true =>
          cases hq : q.fallback with
          | none =>
            exact .fails (Registry.conflict q active) fun own => by
              simp [hplan, hfits, hstrict, refusal, hq]
          | some fallback =>
            exact .of_useFallback s.versionTexts fun own => by
              simp [hplan, hfits, hstrict, refusal, hq]

/-! ## Answers -/

theorem answer_of_reply {s : Shelf μ} {q : Request μ} {result : Except LoadError (Loaded μ)}
    (h : s.plan q = .reply result) : s.answer q = { result, shelf := s } := by
  simp only [answer, h]

theorem Ordered.answer_of_enter {s : Shelf μ} (h : s.Ordered) {q : Request μ} {v : Version}
    {settles : Bool} {warnings : List String} (hplan : s.plan q = .enter v settles warnings) :
    ∃ i e, s.entries[i]? = some e ∧ e.version.precedence v = .eq ∧
      s.answer q =
        { result := e.load, shelf := (s.settle settles v).called i e, warnings } := by
  have hanswered := h.answered q
  rw [hplan] at hanswered
  obtain ⟨e, hmem, hsame⟩ := hanswered.mem_of_enter
  obtain ⟨i, hplace, henter⟩ :=
    (h.ascending.settle settles v).enter_of_mem q.address (by rwa [settle_entries]) hsame
  rw [settle_entries] at hplace
  exact ⟨i, e, hplace, hsame, by simp only [answer, hplan, henter]⟩

theorem versions_of_unmarked {s t : Shelf μ}
    (h : t.entries.map Entry.unmarked = s.entries.map Entry.unmarked) :
    t.versions = s.versions := by
  have hversions := congrArg (List.map Entry.version) h
  rwa [List.map_map, List.map_map] at hversions

theorem Ascending.entry_unique {s : Shelf μ} (h : s.Ascending) {v : Version} {e e' : Entry μ}
    (hmem : e ∈ s.entries) (hsame : e.version.precedence v = .eq) (hmem' : e' ∈ s.entries)
    (hsame' : e'.version.precedence v = .eq) : e = e' := by
  have hget := (h.get?_eq_some_iff v e).mpr ⟨hmem, hsame⟩
  rw [(h.get?_eq_some_iff v e').mpr ⟨hmem', hsame'⟩] at hget
  exact (Option.some.inj hget).symm

/-- Entering a version comes to the same on shelves that differ in marks only. -/
theorem Ordered.result_of_enter {s t : Shelf μ} (hs : s.Ordered) (ht : t.Ordered)
    (hsame : t.entries.map Entry.unmarked = s.entries.map Entry.unmarked) {q : Request μ}
    {v : Version} {settles settles' : Bool} {warnings warnings' : List String}
    (hplan : s.plan q = .enter v settles warnings)
    (hplan' : t.plan q = .enter v settles' warnings') :
    (t.answer q).result = (s.answer q).result := by
  obtain ⟨i, e, hplace, hequal, hanswer⟩ := hs.answer_of_enter hplan
  obtain ⟨j, e', hplace', hequal', hanswer'⟩ := ht.answer_of_enter hplan'
  have hmem : e'.unmarked ∈ s.entries.map Entry.unmarked := by
    rw [← hsame]
    exact List.mem_map_of_mem (List.mem_of_getElem? hplace')
  obtain ⟨x, hx, hunmarked⟩ := List.mem_map.mp hmem
  have hversion : x.version = e'.version := by
    rw [← x.version_unmarked, hunmarked, e'.version_unmarked]
  obtain rfl : x = e :=
    hs.ascending.entry_unique hx (hversion ▸ hequal') (List.mem_of_getElem? hplace) hequal
  simp only [hanswer, hanswer']
  rw [← e'.load_unmarked, ← hunmarked, x.load_unmarked]

/-- A request that is no singleton gets the same from shelves that differ in marks and activations
only. -/
theorem Ordered.result_congr {s t : Shelf μ} (hs : s.Ordered) (ht : t.Ordered)
    (hsame : t.entries.map Entry.unmarked = s.entries.map Entry.unmarked) {q : Request μ}
    (hq : q.singleton = false) : (t.answer q).result = (s.answer q).result := by
  have hplan : t.plan q = s.plan q := by
    rw [plan_of_free (Or.inl hq), plan_of_free (Or.inl hq),
      planHighest_congr (versions_of_unmarked hsame)]
  cases hdecided : s.plan q with
  | reply result =>
    rw [hdecided] at hplan
    rw [answer_of_reply hdecided, answer_of_reply hplan]
  | enter v settles warnings =>
    rw [hdecided] at hplan
    exact hs.result_of_enter ht hsame hdecided hplan

/-! ## Asking twice -/

theorem called_of_error {s : Shelf μ} {e : Entry μ} {failure : LoadError}
    (h : e.factory = .error failure) (i : Nat) : s.called i e = s := by
  simp only [Shelf.called, h]

theorem called_of_ok {s : Shelf μ} {e : Entry μ} {module : μ} (h : e.factory = .ok module)
    (i : Nat) : s.called i e = s.markLoaded i := by
  simp only [Shelf.called, h]

/-- The shelf with the entry of that version marked. -/
def marking (s : Shelf μ) (v : Version) : Shelf μ :=
  { s with entries := s.entries.map fun e => { e with loaded := e.loaded || e.version = v } }

theorem mem_marking {s : Shelf μ} {e : Entry μ} (h : e ∈ s.entries) :
    { e with loaded := true } ∈ (s.marking e.version).entries :=
  List.mem_map.mpr ⟨e, h, by simp⟩

theorem Ascending.marking_of_loaded {s : Shelf μ} (h : s.Ascending) {e : Entry μ}
    (hmem : e ∈ s.entries) (hloaded : e.loaded = true) : s.marking e.version = s := by
  have hkept : ∀ x ∈ s.entries, { x with loaded := x.loaded || x.version = e.version } = x := by
    intro x hx
    by_cases hversion : x.version = e.version
    · have hsame : x.version.precedence e.version = .eq := by
        rw [hversion, Version.precedence_self]
      obtain rfl := h.entry_unique hx hsame hmem (Version.precedence_self _)
      simp [Entry.marked_eq_self hloaded, hloaded]
    · simp [hversion]
  rw [marking, List.map_congr_left hkept, List.map_id']

theorem Ascending.nodup_versions {s : Shelf μ} (h : s.Ascending) : s.versions.Nodup := by
  refine (s.ascending_iff.mp h).imp fun hlt heq => ?_
  rw [heq, Version.precedence_self] at hlt
  contradiction

theorem Ascending.markLoaded_eq_marking {s : Shelf μ} (h : s.Ascending) {i : Nat} {e : Entry μ}
    (hplace : s.entries[i]? = some e) : s.markLoaded i = s.marking e.version := by
  have hentries : (s.entries.modify i fun e => { e with loaded := true }) =
      s.entries.map fun x => { x with loaded := x.loaded || x.version = e.version } := by
    apply List.ext_getElem?
    intro j
    rw [List.getElem?_modify, List.getElem?_map]
    by_cases hij : i = j
    · subst hij
      simp [hplace]
    · cases hother : s.entries[j]? with
      | none => simp
      | some x =>
        -- another place has another version
        have hne : x.version ≠ e.version := by
          intro hversion
          have hi : i < s.versions.length := by
            rw [versions, List.length_map]
            exact (List.getElem?_eq_some_iff.mp hplace).1
          refine hij ((List.getElem?_inj hi h.nodup_versions).mp ?_)
          simp [versions, hplace, hother, hversion]
        simp [hij, hne]
  rw [markLoaded, hentries]
  rfl

/-- Entering again marks the entry whose factory failed the first time and succeeds now. -/
theorem Ordered.enter_again {s : Shelf μ} (h : s.Ordered) {q q' : Request μ} {v : Version}
    {settles : Bool} {warnings warnings' : List String} (f : Version → Factory μ)
    (hplan : s.plan q = .enter v settles warnings)
    (hplan' : ((s.answer q).shelf.yielding f).plan q' = .enter v false warnings')
    (hordered : (s.answer q).shelf.Ordered) :
    let now := (s.answer q).shelf.yielding f
    (now.answer q').shelf = now ∨
      ∃ failure x origin module, (s.answer q).result = .error failure ∧
        (now.answer q').result = .ok ⟨.shared x origin, module⟩ ∧
        (now.answer q').shelf = now.marking x := by
  intro now
  have hnow : now.Ordered := hordered.yielding f
  obtain ⟨i, e, hplace, hequal, honce⟩ := h.answer_of_enter hplan
  obtain ⟨j, x, hplace', hequal', htwice⟩ := hnow.answer_of_enter hplan'
  have hmem := List.mem_of_getElem? hplace'
  cases hsecond : x.factory with
  | error failure =>
    rw [called_of_error hsecond] at htwice
    exact Or.inl (congrArg Answer.shelf htwice)
  | ok module =>
    rw [called_of_ok hsecond] at htwice
    have hmarking : (now.answer q').shelf = now.marking x.version := by
      rw [htwice]
      exact hnow.ascending.markLoaded_eq_marking hplace'
    cases hfirst : e.factory with
    | error failure =>
      refine Or.inr ⟨failure, x.version, x.origin, module, ?_, ?_, hmarking⟩
      · simp [honce, Entry.load, hfirst, Except.map]
      · simp [htwice, Entry.load, hsecond, Except.map]
    | ok first =>
      -- the first time has marked the entry already
      have hsettled : (s.settle settles v).Ascending := h.ascending.settle settles v
      rw [called_of_ok hfirst, hsettled.markLoaded_eq_marking (by rwa [settle_entries])] at honce
      have hmarked : { e with loaded := true } ∈ (s.answer q).shelf.entries := by
        rw [honce]
        exact mem_marking (by rw [settle_entries]; exact List.mem_of_getElem? hplace)
      obtain rfl := hnow.ascending.entry_unique hmem hequal' (mem_yielding hmarked f) hequal
      exact Or.inl (hmarking.trans (hnow.ascending.marking_of_loaded hmem rfl))

/-- A request that is made again gets what it would have got the first time, with the warning of the
first time.  All that it changes is the mark of the entry whose factory failed the first time and
succeeds now. -/
theorem Ordered.answer_again {s : Shelf μ} (h : s.Ordered) (q : Request μ)
    (f f' : Version → Factory μ) (own own' : Factory μ) :
    let once := (s.yielding f).answer (q.yielding own)
    let now := once.shelf.yielding f'
    let twice := now.answer (q.yielding own')
    twice.result = ((s.yielding f').answer (q.yielding own')).result ∧
    twice.warnings = once.warnings ∧
    (twice.shelf = now ∨
      ∃ failure v origin module, once.result = .error failure ∧
        twice.result = .ok ⟨.shared v origin, module⟩ ∧ twice.shelf = now.marking v) := by
  intro once now twice
  have hplan (f : Version → Factory μ) := plan_congr (s.versions_yielding f) rfl
  have hreply {result result' : Except LoadError (Loaded μ)}
      (hdecided : s.plan (q.yielding own) = .reply result)
      (hdecided' : s.plan (q.yielding own') = .reply result') :
      twice.result = ((s.yielding f').answer (q.yielding own')).result ∧
        twice.warnings = once.warnings ∧ twice.shelf = now := by
    have honce : once = { result, shelf := s.yielding f } :=
      answer_of_reply ((hplan f _).trans hdecided)
    have hnow : now = s.yielding f' := by simp only [now, honce, yielding_yielding]
    have htwice : twice = { result := result', shelf := now } :=
      answer_of_reply (by rw [hnow, hplan, hdecided'])
    rw [← hnow]
    exact ⟨rfl, by rw [htwice, honce], by rw [htwice]⟩
  cases s.decision q with
  | falls _ hdecided =>
    obtain ⟨hresult, hwarnings, hshelf⟩ := hreply (hdecided own) (hdecided own')
    exact ⟨hresult, hwarnings, Or.inl hshelf⟩
  | fails failure hdecided =>
    obtain ⟨hresult, hwarnings, hshelf⟩ := hreply (hdecided own) (hdecided own')
    exact ⟨hresult, hwarnings, Or.inl hshelf⟩
  | enters v settles warnings hdecided =>
    have hfirst := (hplan f _).trans (hdecided own)
    have hthen := (hplan f' _).trans (hdecided own')
    obtain ⟨i, e, hplace, _, honce⟩ := (h.yielding f).answer_of_enter hfirst
    have hanswered := (h.yielding f).answered (q.yielding own)
    have hordered : once.shelf.Ordered :=
      (hanswered.ordered (h.yielding f) (List.ne_nil_of_mem (List.mem_of_getElem? hplace))).2
    have hunmarked := unmarked_yielding hanswered.unmarked f'
    rw [yielding_yielding] at hunmarked
    have hactivated : now.activated = (s.settle settles v).activated := by
      change once.shelf.activated = _
      rw [show once = _ from honce, called_activated]
      cases settles <;> rfl
    have hsecond : now.plan (q.yielding own') = .enter v false warnings := by
      refine plan_settled (hdecided own') ?_ hactivated
      rw [versions_of_unmarked hunmarked, versions_yielding]
    obtain ⟨j, x, _, _, htwice⟩ := (hordered.yielding f').answer_of_enter hsecond
    refine ⟨(h.yielding f').result_of_enter (hordered.yielding f') hunmarked hthen hsecond, ?_,
      (h.yielding f).enter_again f' hfirst hsecond hordered⟩
    rw [show twice = _ from htwice, show once = _ from honce]

/-! ## Moments -/

/-- At each moment the outcome of a request that enters a version is what the factory of that
version yields. -/
theorem Ordered.result_yielding {s : Shelf μ} (h : s.Ordered) {q : Request μ} {v : Version}
    {settles : Bool} {warnings : List String} (hplan : s.plan q = .enter v settles warnings)
    (f : Version → Factory μ) :
    ∃ e ∈ s.entries, e.version.precedence v = .eq ∧
      ((s.yielding f).answer q).result = (e.yielding (f e.version)).load := by
  have hplan' : (s.yielding f).plan q = .enter v settles warnings :=
    (plan_congr (s.versions_yielding f) rfl q).trans hplan
  obtain ⟨i, x, hplace, hsame, hanswer⟩ := (h.yielding f).answer_of_enter hplan'
  obtain ⟨e, hmem, rfl⟩ := List.mem_map.mp (List.mem_of_getElem? hplace)
  exact ⟨e, hmem, hsame, congrArg Answer.result hanswer⟩

end Shelf

/-- Two outcomes of one request: the same failure, or what the factory of one entry or the fallback
yields at the first moment and at the second. -/
inductive Recalled (r : Registry μ) (q : Request μ) (m m' : Moment μ) (own own' : Factory μ) :
    Except LoadError (Loaded μ) → Except LoadError (Loaded μ) → Prop where
  | fails (failure : LoadError) : Recalled r q m m' own own' (.error failure) (.error failure)
  | shared (e : Entry μ) (registered : e ∈ r.entries q.address) :
      Recalled r q m m' own own'
        ((m q.address e.version).map fun module => ⟨.shared e.version e.origin, module⟩)
        ((m' q.address e.version).map fun module => ⟨.shared e.version e.origin, module⟩)
  | fallback (brought : q.fallback.isSome = true) :
      Recalled r q m m' own own' (own.map fun module => ⟨.fallback, module⟩)
        (own'.map fun module => ⟨.fallback, module⟩)

namespace Registry

theorem resolve_yielding (r : Registry μ) (m : Moment μ) (q : Request μ) :
    ((r.yielding m).resolve q).1 =
      (((r.shelf q.address).yielding (m q.address)).answer q).result := by
  rw [(resolve_eq_answer (r.yielding m) q).1, shelf_yielding]

theorem Sound.recalled {r : Registry μ} (h : r.Sound) (q : Request μ) (m m' : Moment μ)
    (own own' : Factory μ) :
    Recalled r q m m' own own' ((r.yielding m).resolve (q.yielding own)).1
      ((r.yielding m').resolve (q.yielding own')).1 := by
  have hordered := h.shelf q.address
  rw [resolve_yielding, resolve_yielding]
  change Recalled r q m m' own own'
    (((r.shelf q.address).yielding (m q.address)).answer (q.yielding own)).result
    (((r.shelf q.address).yielding (m' q.address)).answer (q.yielding own')).result
  have hreply {result : Except LoadError (Loaded μ)} {q' : Request μ}
      (hplan : (r.shelf q.address).plan q' = .reply result) (f : Version → Factory μ) :
      (((r.shelf q.address).yielding f).answer q').result = result := by
    rw [Shelf.answer_of_reply ((Shelf.plan_congr (Shelf.versions_yielding _ f) rfl _).trans hplan)]
  cases (r.shelf q.address).decision q with
  | enters v settles warnings hplan =>
    obtain ⟨e, hmem, hsame, hresult⟩ := hordered.result_yielding (hplan own) (m q.address)
    obtain ⟨x, hmem', hsame', hresult'⟩ := hordered.result_yielding (hplan own') (m' q.address)
    obtain rfl := hordered.ascending.entry_unique hmem hsame hmem' hsame'
    rw [hresult, hresult']
    exact .shared e (by rwa [entries_eq])
  | falls hbrought hplan =>
    rw [hreply (hplan own), hreply (hplan own')]
    exact .fallback hbrought
  | fails failure hplan =>
    rw [hreply (hplan own), hreply (hplan own')]
    exact .fails failure

theorem Sound.warnings_resolve {r : Registry μ} (h : r.Sound) (q : Request μ) :
    ∃ warning : Option String, ((r.shelf q.address).answer q).warnings = warning.toList := by
  rcases ((h.shelf q.address).answered q).warnings with ⟨_, warning, hone⟩ | ⟨_, hnone⟩
  · exact ⟨some warning, hone⟩
  · exact ⟨none, hnone⟩

/-- A request that leaves its shelf as it is leaves all shelves. -/
theorem Indexed.shelves_resolve {r : Registry μ} (h : r.Indexed) {q : Request μ}
    (hshelf : ((r.shelf q.address).answer q).shelf = r.shelf q.address) :
    (r.resolve q).2.shelves = r.shelves := by
  refine (h.resolve q).shelves_eq h fun a => ?_
  rw [(resolve_eq_answer r q).2.2 a]
  split
  · rename_i ha
    subst ha
    cases hs : r.shelf? q.address with
    | none => rfl
    | some s =>
      rw [shelf_of_shelf? hs] at hshelf
      rw [Option.map_some, hshelf]
  · rfl

/-- A request that marks an entry changes nothing else. -/
theorem resolve_of_marking {r : Registry μ} {q : Request μ} {v : Version}
    (hshelf : ((r.shelf q.address).answer q).shelf = (r.shelf q.address).marking v) (a : Address) :
    (r.resolve q).2.activated? a = r.activated? a ∧
    (r.resolve q).2.entries a = (r.entries a).map fun e =>
      { e with loaded := e.loaded || (a = q.address && e.version = v) } := by
  rw [activated?_eq, activated?_eq, entries_eq, entries_eq, shelf_resolve]
  by_cases ha : a = q.address
  · subst ha
    rw [if_pos rfl, hshelf]
    exact ⟨rfl, by simp [Shelf.marking]⟩
  · rw [if_neg ha]
    simp [ha]

/-- A request that is made again gets what it would have got the first time, repeats the warning of
the first time, and changes the mark of an entry at most. -/
theorem Sound.resolve_again {r : Registry μ} (h : r.Sound) (hindexed : r.Indexed) (q : Request μ)
    (m m' : Moment μ) (own own' : Factory μ) :
    let once := (r.yielding m).resolve (q.yielding own)
    let now := once.2.yielding m'
    let twice := now.resolve (q.yielding own')
    twice.1 = ((r.yielding m').resolve (q.yielding own')).1 ∧
    (∃ warning : Option String, once.2.warnings = r.warnings ++ warning.toList ∧
      twice.2.warnings = once.2.warnings ++ warning.toList) ∧
    (twice.2.shelves = now.shelves ∨
      ∃ failure v origin module, once.1 = .error failure ∧
        twice.1 = .ok ⟨.shared v origin, module⟩ ∧
        twice.2.shelves.keys = now.shelves.keys ∧
        ∀ a, twice.2.activated? a = now.activated? a ∧
          twice.2.entries a = (now.entries a).map fun e =>
            { e with loaded := e.loaded || (a = q.address && e.version = v) }) := by
  intro once now twice
  have hnow : now.shelf q.address =
      (((r.shelf q.address).yielding (m q.address)).answer (q.yielding own)).shelf.yielding
        (m' q.address) := by
    rw [shelf_yielding, shelf_resolve, if_pos (q.address_yielding own).symm, shelf_yielding]
  obtain ⟨hresult, hwarnings, hshelf⟩ :=
    (h.shelf q.address).answer_again q (m q.address) (m' q.address) own own'
  rw [← hnow] at hresult hwarnings hshelf
  have honce : once.1 = _ := r.resolve_yielding m (q.yielding own)
  have htwice : twice.1 = ((now.shelf q.address).answer (q.yielding own')).result :=
    (resolve_eq_answer now (q.yielding own')).1
  have hindexed' : now.Indexed := ((hindexed.yielding m).resolve _).yielding m'
  refine ⟨?_, ?_, ?_⟩
  · rw [htwice, hresult]
    exact (r.resolve_yielding m' (q.yielding own')).symm
  · obtain ⟨warning, hwarning⟩ := (h.yielding m).warnings_resolve (q.yielding own)
    refine ⟨warning, ?_, ?_⟩
    · rw [← hwarning]
      exact (resolve_eq_answer (r.yielding m) (q.yielding own)).2.1
    · have hrepeated :
          ((now.shelf q.address).answer (q.yielding own')).warnings = warning.toList := by
        rw [hwarnings, ← shelf_yielding]
        exact hwarning
      rw [← hrepeated]
      exact (resolve_eq_answer now (q.yielding own')).2.1
  · rcases hshelf with hkept | ⟨failure, v, origin, module, hfailed, hloaded, hmarked⟩
    · exact Or.inl (hindexed'.shelves_resolve hkept)
    · exact Or.inr ⟨failure, v, origin, module, honce.trans hfailed, htwice.trans hloaded,
        hindexed'.keys_resolve _, resolve_of_marking hmarked⟩

/-- Calls that register nothing change neither the outcome of a request that is no singleton, at
whatever moment it is made, nor that it adds no warning.  Every request that is made twice in a row
gets the second time what it would have got the first time at that moment, and repeats the warning
of the first time, if there was one.  It changes nothing else, unless the factory of an entry failed
the first time and succeeds the second, which marks that entry.  From one moment to the other the
outcome of a request is another one only if the factory it comes from yields something else. -/
theorem loads_leave_outcomes {r : Registry μ} (h : r.ReachableAnew) :
    (∀ steps : List (Moment μ × Call μ), (∀ step ∈ steps, step.2.registration? = none) →
      ∀ (q : Request μ) (m : Moment μ), q.singleton = false →
        let now := (r.runAnew steps).2.yielding m
        (now.resolve q).1 = ((r.yielding m).resolve q).1 ∧
        (now.resolve q).2.warnings = now.warnings) ∧
    (∀ (q : Request μ) (m m' : Moment μ) (own own' : Factory μ),
      let once := (r.yielding m).resolve (q.yielding own)
      let now := once.2.yielding m'
      let twice := now.resolve (q.yielding own')
      twice.1 = ((r.yielding m').resolve (q.yielding own')).1 ∧
      (∃ warning : Option String, once.2.warnings = r.warnings ++ warning.toList ∧
        twice.2.warnings = once.2.warnings ++ warning.toList) ∧
      (twice.2.shelves = now.shelves ∨
        ∃ failure v origin module, once.1 = .error failure ∧
          twice.1 = .ok ⟨.shared v origin, module⟩ ∧
          twice.2.shelves.keys = now.shelves.keys ∧
          ∀ a, twice.2.activated? a = now.activated? a ∧
            twice.2.entries a = (now.entries a).map fun e =>
              { e with loaded := e.loaded || (a = q.address && e.version = v) })) ∧
    ∀ (q : Request μ) (m m' : Moment μ) (own own' : Factory μ),
      Recalled r q m m' own own' ((r.yielding m).resolve (q.yielding own)).1
        ((r.yielding m').resolve (q.yielding own')).1 := by
  refine ⟨fun steps hsteps q m hq => ?_, fun q m m' own own' => ?_, fun q m m' own own' => ?_⟩
  · intro now
    have hordered : (now.shelf q.address).Ordered :=
      ((h.sound.runAnew steps).yielding m).shelf q.address
    constructor
    · have hsame := h.sound.runAnew_keeps_unmarked h.indexed hsteps m q.address
      rw [(resolve_eq_answer now q).1, (resolve_eq_answer (r.yielding m) q).1]
      exact ((h.sound.yielding m).shelf q.address).result_congr hordered hsame hq
    · rcases (hordered.answered q).warnings with ⟨⟨hsingleton, _⟩, _⟩ | ⟨_, hquiet⟩
      · rw [hq] at hsingleton
        contradiction
      · rw [(resolve_eq_answer now q).2.1, hquiet, List.append_nil]
  · exact h.sound.resolve_again h.indexed q m m' own own'
  · exact h.sound.recalled q m m' own own'

/-- Loads and activations after which a singleton overrides its range; the last two fail. -/
def settled : List (Call String) :=
  [.loadSingleton react none,
   .activate react ⟨1, 0, 0, [], []⟩,
   .load react none,
   .resolve { singletonFor 3 with strict := true },
   .activate vue ⟨1, 0, 0, [], []⟩]

/-- What factories yield at their `n`-th call that have failed once. -/
def attempt (n : Nat) : Factory String :=
  if n = 0 then .error (.factoryFailed "default" "react" "offline") else .ok "ready"

theorem loads_leave_outcomes_settled :
    let r := (empty.run threeBundles).2
    let moment (n : Nat) : Moment String := fun _ _ => attempt n
    let q (n : Nat) := (singletonFor 2).yielding (attempt n)
    let r' := (r.runAnew (settled.map fun c => (moment 0, c))).2
    let once := (r'.yielding (moment 0)).resolve (q 0)
    let now := once.2.yielding (moment 1)
    let twice := now.resolve (q 1)
    ((r'.yielding (moment 1)).resolve { address := react }).1 =
      ((r.yielding (moment 1)).resolve { address := react }).1 ∧
    once.1.toOption.map Loaded.module = none ∧ twice.1.toOption.map Loaded.module = some "ready" ∧
    twice.1 = ((r'.yielding (moment 1)).resolve (q 1)).1 ∧
    once.2.warnings = [(conflict (singletonFor 2) ⟨1, 0, 0, [], []⟩).message] ∧
    (∃ warning : Option String, once.2.warnings = r'.warnings ++ warning.toList ∧
      twice.2.warnings = once.2.warnings ++ warning.toList) ∧
    (now.entries react).map Entry.loaded = [false, false, false] ∧
    (twice.2.entries react).map Entry.loaded = [true, false, false] ∧
    Recalled r' (singletonFor 2) (moment 0) (moment 1) (attempt 0) (attempt 1) once.1
      ((r'.yielding (moment 1)).resolve (q 1)).1 := by
  intro r moment q r' once now twice
  have hsteps : ∀ step ∈ settled.map fun c => (moment 0, c), step.2.registration? = none := by
    simp [settled, Call.registration?]
  have hreachable : r.ReachableAnew := Reachable.anew ⟨threeBundles, rfl⟩
  have hreachable' : r'.ReachableAnew := hreachable.runAnew _
  obtain ⟨hsame, _⟩ :=
    (loads_leave_outcomes hreachable).1 _ hsteps { address := react } (moment 1) rfl
  obtain ⟨_, hagain, hrecalled⟩ := loads_leave_outcomes hreachable'
  have htwice := hagain (singletonFor 2) (moment 0) (moment 1) (attempt 0) (attempt 1)
  refine ⟨hsame, by decide, by decide, htwice.1, by decide, ?_, by decide, by decide,
    hrecalled (singletonFor 2) (moment 0) (moment 1) (attempt 0) (attempt 1)⟩
  with_reducible exact htwice.2.1

/-- An entry whose factory fails at the first of two calls is loaded by the second, and a fallback
that fails at the first of two calls is used at the second. -/
theorem second_load_succeeds :
    let r := (empty.runAnew [(fun _ _ => attempt 0,
      .register react ⟨1, 0, 0, [], []⟩ "host" (attempt 0) false)]).2
    let q : Request String := { address := react }
    let once := (r.yielding fun _ _ => attempt 0).resolve q
    let twice := (once.2.yielding fun _ _ => attempt 1).resolve q
    let alone := (empty : Registry String).resolve { q with fallback := some (attempt 0) }
    r.ReachableAnew ∧
    once.1 = .error (.factoryFailed "default" "react" "offline") ∧
    (once.2.entries react).map Entry.loaded = [false] ∧
    twice.1 = .ok ⟨.shared ⟨1, 0, 0, [], []⟩ "host", "ready"⟩ ∧
    (twice.2.entries react).map Entry.loaded = [true] ∧
    alone.1 = .error (.factoryFailed "default" "react" "offline") ∧
    (alone.2.resolve { q with fallback := some (attempt 1) }).1 = .ok ⟨.fallback, "ready"⟩ :=
  ⟨⟨_, rfl⟩, rfl, rfl, rfl, rfl, rfl, rfl⟩

end Registry

end ModuleSharing
