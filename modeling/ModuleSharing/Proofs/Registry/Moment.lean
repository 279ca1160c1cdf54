import ModuleSharing.Registry.Moment
import ModuleSharing.Proofs.Registry.EntryHistory

/-! What the factories yield is no part of the order of a registry: shelves stay in order from one
moment to the next, and so does every registry of a history in which the factories answer anew at
each call (`Registry.ReachableAnew`).  A history with constant factories is one of these
(`Registry.Reachable.anew`). -/

namespace ModuleSharing

variable {μ : Type}

/-! ## Requests at a moment -/

namespace Request

variable (q : Request μ) (own : Factory μ)

@[simp] theorem address_yielding : (q.yielding own).address = q.address := rfl

@[simp] theorem singleton_yielding : (q.yielding own).singleton = q.singleton := rfl

@[simp] theorem strict_yielding : (q.yielding own).strict = q.strict := rfl

@[simp] theorem fallback_yielding : (q.yielding own).fallback = q.fallback.map fun _ => own := rfl

@[simp] theorem accepts_yielding : (q.yielding own).accepts = q.accepts := rfl

@[simp] theorem conflict_yielding (active : Version) :
    Registry.conflict (q.yielding own) active = Registry.conflict q active := rfl

end Request

/-! ## Shelves at a moment -/

namespace Shelf

/-- The registered versions in order. -/
def versions (s : Shelf μ) : List Version := s.entries.map Entry.version

theorem versions_yielding (s : Shelf μ) (f : Version → Factory μ) :
    (s.yielding f).versions = s.versions := by
  simp only [versions, yielding, List.map_map]
  rfl

theorem yielding_yielding (s : Shelf μ) (f g : Version → Factory μ) :
    (s.yielding f).yielding g = s.yielding g := by
  simp only [yielding, List.map_map]
  rfl

theorem ascending_iff (s : Shelf μ) :
    s.Ascending ↔ s.versions.Pairwise fun v w => v.precedence w = .lt := by
  rw [versions, List.pairwise_map]
  rfl

theorem mem_yielding {s : Shelf μ} {e : Entry μ} (h : e ∈ s.entries) (f : Version → Factory μ) :
    e.yielding (f e.version) ∈ (s.yielding f).entries :=
  List.mem_map_of_mem h

theorem Ascending.yielding {s : Shelf μ} (h : s.Ascending) (f : Version → Factory μ) :
    (s.yielding f).Ascending := by
  rw [ascending_iff] at h ⊢
  rwa [versions_yielding]

theorem Ordered.yielding {s : Shelf μ} (h : s.Ordered) (f : Version → Factory μ) :
    (s.yielding f).Ordered := by
  refine ⟨h.ascending.yielding f, fun v hv => ?_⟩
  obtain ⟨e, hmem, hsame⟩ := h.activation v hv
  exact ⟨_, mem_yielding hmem f, hsame⟩

/-- What differs in marks only does so at every moment. -/
theorem unmarked_yielding {s s' : Shelf μ}
    (h : s'.entries.map Entry.unmarked = s.entries.map Entry.unmarked) (f : Version → Factory μ) :
    (s'.yielding f).entries.map Entry.unmarked = (s.yielding f).entries.map Entry.unmarked := by
  have hshape (t : Shelf μ) : (t.yielding f).entries.map Entry.unmarked =
      (t.entries.map Entry.unmarked).map fun e => e.yielding (f e.version) := by
    simp only [Shelf.yielding, List.map_map]
    rfl
  rw [hshape, hshape, h]

end Shelf

/-! ## Registries at a moment -/

namespace Registry

theorem shelf?_yielding (r : Registry μ) (m : Moment μ) (a : Address) :
    (r.yielding m).shelf? a = (r.shelf? a).map (·.yielding (m a)) :=
  r.shelves.get?_mapValues _ a

theorem shelf_yielding (r : Registry μ) (m : Moment μ) (a : Address) :
    (r.yielding m).shelf a = (r.shelf a).yielding (m a) := by
  simp only [shelf, shelf?_yielding]
  cases r.shelf? a <;> rfl

theorem keys_yielding (r : Registry μ) (m : Moment μ) :
    (r.yielding m).shelves.keys = r.shelves.keys :=
  Dictionary.keys_mapValues ..

theorem Indexed.yielding {r : Registry μ} (h : r.Indexed) (m : Moment μ) :
    (r.yielding m).Indexed := by
  unfold Indexed Dictionary.Ascending at h ⊢
  rwa [keys_yielding]

theorem Sound.yielding {r : Registry μ} (h : r.Sound) (m : Moment μ) : (r.yielding m).Sound := by
  intro a s hs
  rw [shelf?_yielding] at hs
  obtain ⟨s, hshelf, rfl⟩ := Option.map_eq_some_iff.mp hs
  obtain ⟨hne, hordered⟩ := h a s hshelf
  exact ⟨by simpa [Shelf.yielding] using hne, hordered.yielding (m a)⟩

/-- The moment at which the factories yield what the registry holds. -/
def moment (r : Registry μ) : Moment μ := fun a v =>
  ((r.shelf a).get? v).elim (.error (.noSatisfyingVersion a.scope a.key v.text [])) Entry.factory

theorem Sound.yielding_moment {r : Registry μ} (h : r.Sound) (hindexed : r.Indexed) :
    r.yielding r.moment = r := by
  refine (hindexed.yielding r.moment).ext hindexed (fun a => ?_) rfl
  rw [shelf?_yielding]
  cases hs : r.shelf? a with
  | none => rfl
  | some s =>
    have hkept : ∀ e ∈ s.entries, e.yielding (r.moment a e.version) = e := by
      intro e he
      have hget := ((h a s hs).2.ascending.get?_eq_some_iff e.version e).mpr
        ⟨he, Version.precedence_self _⟩
      simp only [moment, shelf_of_shelf? hs, hget, Option.elim_some]
      rfl
    rw [Option.map_some, Shelf.yielding, List.map_congr_left hkept, List.map_id']

/-! ## Histories -/

theorem Sound.runAnew {r : Registry μ} (h : r.Sound) (steps : List (Moment μ × Call μ)) :
    (r.runAnew steps).2.Sound := by
  induction steps generalizing r with
  | nil => exact h
  | cons step steps ih => exact ih ((h.yielding step.1).perform step.2)

theorem Indexed.runAnew {r : Registry μ} (h : r.Indexed) (steps : List (Moment μ × Call μ)) :
    (r.runAnew steps).2.Indexed := by
  induction steps generalizing r with
  | nil => exact h
  | cons step steps ih => exact ih ((h.yielding step.1).perform step.2)

/-- The registries that a history leads to in which the factories answer anew at each call. -/
def ReachableAnew (r : Registry μ) : Prop := ∃ steps, (empty.runAnew steps).2 = r

theorem ReachableAnew.sound {r : Registry μ} (h : r.ReachableAnew) : r.Sound := by
  obtain ⟨steps, rfl⟩ := h
  exact sound_empty.runAnew steps

theorem ReachableAnew.indexed {r : Registry μ} (h : r.ReachableAnew) : r.Indexed := by
  obtain ⟨steps, rfl⟩ := h
  have hempty : (empty : Registry μ).Indexed := Dictionary.ascending_empty
  exact hempty.runAnew steps

theorem runAnew_append (r : Registry μ) (steps steps' : List (Moment μ × Call μ)) :
    (r.runAnew (steps ++ steps')).2 = ((r.runAnew steps).2.runAnew steps').2 := by
  induction steps generalizing r with
  | nil => rfl
  | cons step steps ih => exact ih _

theorem ReachableAnew.runAnew {r : Registry μ} (h : r.ReachableAnew)
    (steps : List (Moment μ × Call μ)) : (r.runAnew steps).2.ReachableAnew := by
  obtain ⟨past, rfl⟩ := h
  exact ⟨past ++ steps, runAnew_append ..⟩

/-- Constant factories are such that yield at each moment what the registry holds. -/
theorem Sound.run_eq_runAnew {r : Registry μ} (h : r.Sound) (hindexed : r.Indexed)
    (calls : List (Call μ)) :
    ∃ steps, steps.map Prod.snd = calls ∧ r.runAnew steps = r.run calls := by
  induction calls generalizing r with
  | nil => exact ⟨[], rfl, rfl⟩
  | cons c calls ih =>
    obtain ⟨steps, hcalls, hsame⟩ := ih (h.perform c) (hindexed.perform c)
    refine ⟨(r.moment, c) :: steps, by rw [List.map_cons, hcalls], ?_⟩
    simp only [Registry.runAnew, Registry.run, h.yielding_moment hindexed, hsame]

theorem Reachable.anew {r : Registry μ} (h : r.Reachable) : r.ReachableAnew := by
  obtain ⟨calls, rfl⟩ := h
  obtain ⟨steps, _, hsame⟩ := sound_empty.run_eq_runAnew Dictionary.ascending_empty calls
  exact ⟨steps, by rw [hsame]⟩

/-- Steps without registrations leave the entries of an address as they are at every moment, up to
their marks. -/
theorem Sound.runAnew_keeps_unmarked {r : Registry μ} (h : r.Sound) (hindexed : r.Indexed)
    {steps : List (Moment μ × Call μ)} (hsteps : ∀ step ∈ steps, step.2.registration? = none)
    (m : Moment μ) (a : Address) :
    (((r.runAnew steps).2.yielding m).shelf a).entries.map Entry.unmarked =
      ((r.yielding m).shelf a).entries.map Entry.unmarked := by
  induction steps generalizing r with
  | nil => rfl
  | cons step steps ih =>
    have hnow := h.yielding step.1
    have hindexed' := hindexed.yielding step.1
    have hstep := (hnow.perform_keeps hindexed' (hsteps step (List.mem_cons_self ..))).1 a
    rw [entries_eq, entries_eq] at hstep
    have hrest := ih (hnow.perform step.2) (hindexed'.perform step.2)
      fun x hx => hsteps x (List.mem_cons_of_mem _ hx)
    refine hrest.trans ?_
    rw [shelf_yielding, Shelf.unmarked_yielding hstep, shelf_yielding, Shelf.yielding_yielding,
      shelf_yielding]

end Registry

end ModuleSharing
