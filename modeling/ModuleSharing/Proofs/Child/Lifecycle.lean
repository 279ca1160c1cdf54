import Mathlib.Data.List.Nodup
import ModuleSharing.Proofs.Child.Interleaving

/-! The life of a child build, in whatever order the threads around it take their steps.  A child is
created, running and completed, and each step moves it on by one at most.  It runs as long as it has
a thread, so a second start finds it running or completed, and each thread runs the compiler once. -/

namespace ModuleSharing

/-- How a child may change in one step. -/
inductive ChildState.Advances : Option ChildState → Option ChildState → Prop where
  | stays (state : Option ChildState) : Advances state state
  | registered : Advances none (some .created)
  | started : Advances (some .created) (some .running)
  | completed (report : ChildReport) : Advances (some .running) (some (.completed report))

theorem ChildState.Advances.eq_of_completed {report : ChildReport} {state : Option ChildState}
    (h : Advances (some (.completed report)) state) : state = some (.completed report) := by
  cases h
  rfl

theorem ChildState.Advances.update {states : Nat → Option ChildState} {place : Nat}
    {next : Option ChildState} (h : Advances (states place) next) (q : Nat) :
    Advances (states q) (Function.update states place next q) := by
  rw [Function.update_apply]
  split_ifs with hq
  · rwa [hq]
  · exact .stays _

/-- What has become of the child in each place. -/
structure ChildLives where
  state : Nat → Option ChildState
  phase : Nat → Option Phase
  started : List Nat
  compiled : List Nat

namespace ChildLives

variable {v w : ChildLives}

/-- What a step may do to the children. -/
inductive Step (v : ChildLives) : ChildLives → Prop where
  | stays : Step v v
  | registered (place : Nat) (h : v.state place = none) :
    Step v { v with state := Function.update v.state place (some .created) }
  | started (place : Nat) (h : v.state place = some .created) :
    Step v
      { v with
        state := Function.update v.state place (some .running)
        phase := Function.update v.phase place (some .spawned)
        started := v.started ++ [place] }
  | compiling (place : Nat) (h : v.phase place = some .spawned) :
    Step v
      { v with
        phase := Function.update v.phase place (some .compiling)
        compiled := v.compiled ++ [place] }
  | reporting (place : Nat) (h : v.phase place = some .compiling) (report : ChildReport) :
    Step v { v with phase := Function.update v.phase place (some (.reporting report)) }
  | delivered (place : Nat) (report : ChildReport)
      (h : v.phase place = some (.reporting report)) :
    Step v
      { v with
        state := Function.update v.state place (some (.completed report))
        phase := Function.update v.phase place none }

/-- The running children are those with a thread, the ones that were started are no longer new, and
the compiler ran for a child that was started if its thread says so. -/
structure Sound (v : ChildLives) : Prop where
  running : ∀ place, v.phase place ≠ none ↔ v.state place = some .running
  started : ∀ place, place ∈ v.started ↔ ∃ state, v.state place = some state ∧ state ≠ .created
  started_nodup : v.started.Nodup
  compiled : ∀ place ∈ v.compiled, place ∈ v.started ∧ v.phase place ≠ some .spawned
  compiled_nodup : v.compiled.Nodup

theorem Sound.not_mem_started (h : v.Sound) {place : Nat} (hstate : v.state place = some .created) :
    place ∉ v.started := by
  rw [h.started]
  rintro ⟨state, hplace, hne⟩
  rw [hstate] at hplace
  exact hne (Option.some.inj hplace).symm

theorem Sound.state_of_phase (h : v.Sound) {place : Nat} {phase : Phase}
    (hphase : v.phase place = some phase) : v.state place = some .running :=
  (h.running place).mp (by rw [hphase]; exact Option.some_ne_none phase)

theorem Sound.mem_started (h : v.Sound) {place : Nat} {phase : Phase}
    (hphase : v.phase place = some phase) : place ∈ v.started :=
  (h.started place).mpr ⟨.running, h.state_of_phase hphase, nofun⟩

/-- A thread takes a step of its own. -/
theorem Sound.running_update (h : v.Sound) {place : Nat} {phase : Phase}
    (hphase : v.phase place = some phase) (next : Phase) (q : Nat) :
    Function.update v.phase place (some next) q ≠ none ↔ v.state q = some .running := by
  rw [← h.running, Function.update_apply]
  split_ifs with hq
  · simp [hq, hphase]
  · rfl

theorem Sound.compiled_update (h : v.Sound) (place : Nat) {next : Option Phase}
    (hnext : next ≠ some .spawned) {q : Nat} (hq : q ∈ v.compiled) :
    q ∈ v.started ∧ Function.update v.phase place next q ≠ some .spawned := by
  rw [Function.update_apply]
  split_ifs
  · exact ⟨(h.compiled q hq).1, hnext⟩
  · exact h.compiled q hq

theorem Sound.step (h : v.Sound) (hstep : v.Step w) : w.Sound := by
  cases hstep with
  | stays => exact h
  | registered place hstate =>
    refine ⟨fun q => ?_, fun q => ?_, h.started_nodup, h.compiled, h.compiled_nodup⟩
    · simp only [Function.update_apply]
      split_ifs with hq
      · simpa [hq, hstate] using h.running q
      · exact h.running q
    · simp only [Function.update_apply]
      split_ifs with hq
      · simpa [hq, hstate] using h.started q
      · exact h.started q
  | started place hstate =>
    have hnew := h.not_mem_started hstate
    refine ⟨fun q => ?_, fun q => ?_, ?_, fun q hq => ?_, h.compiled_nodup⟩
    · simp only [Function.update_apply]
      split_ifs
      · simp
      · exact h.running q
    · simp only [Function.update_apply, List.mem_append, List.mem_singleton]
      split_ifs with hq
      · simp [hq]
      · simpa [hq] using h.started q
    · exact List.concat_eq_append ▸ h.started_nodup.concat hnew
    · -- no run of the compiler is known of a child that has just started
      have hne : q ≠ place := fun heq => hnew (heq ▸ (h.compiled q hq).1)
      simp only [Function.update_of_ne hne]
      exact ⟨List.mem_append_left _ (h.compiled q hq).1, (h.compiled q hq).2⟩
  | compiling place hphase =>
    have hnew : place ∉ v.compiled := fun hmem => (h.compiled place hmem).2 hphase
    refine ⟨h.running_update hphase .compiling, h.started, h.started_nodup, fun q hq => ?_,
      List.concat_eq_append ▸ h.compiled_nodup.concat hnew⟩
    obtain hq | hq := List.mem_append.mp hq
    · exact h.compiled_update place (by simp) hq
    · obtain rfl := List.mem_singleton.mp hq
      exact ⟨h.mem_started hphase, by simp⟩
  | reporting place hphase report =>
    exact ⟨h.running_update hphase (.reporting report), h.started, h.started_nodup,
      fun q hq => h.compiled_update place (by simp) hq, h.compiled_nodup⟩
  | delivered place report hphase =>
    have hstate := h.state_of_phase hphase
    refine ⟨fun q => ?_, fun q => ?_, h.started_nodup,
      fun q hq => h.compiled_update place (by simp) hq, h.compiled_nodup⟩
    · simp only [Function.update_apply]
      split_ifs
      · simp
      · exact h.running q
    · simp only [Function.update_apply]
      split_ifs with hq
      · simpa [hq, hstate] using h.started q
      · exact h.started q

theorem Sound.advances (h : v.Sound) (hstep : v.Step w) (q : Nat) :
    ChildState.Advances (v.state q) (w.state q) := by
  cases hstep with
  | stays | compiling | reporting => exact .stays _
  | registered place hstate =>
    refine ChildState.Advances.update ?_ q
    rw [hstate]
    exact .registered
  | started place hstate =>
    refine ChildState.Advances.update ?_ q
    rw [hstate]
    exact .started
  | delivered place report hphase =>
    refine ChildState.Advances.update ?_ q
    rw [h.state_of_phase hphase]
    exact .completed report

end ChildLives

/-! ## Steps of a system -/

namespace ChildSystem

/-- What has become of the children of a system. -/
def lives (s : ChildSystem) : ChildLives where
  state := s.coordinator.registry.state?
  phase := s.phases
  started := s.coordinator.starts.map Prod.fst
  compiled := s.compiled

theorem sound_idle (timeoutMs : Nat) : (idle timeoutMs).lives.Sound where
  running _ := by simp [lives, idle, ChildRegistry.state?, ChildRegistry.get?]
  started _ := by simp [lives, idle, ChildRegistry.state?, ChildRegistry.get?]
  started_nodup := List.nodup_nil
  compiled _ h := nomatch h
  compiled_nodup := List.nodup_nil

variable (s : ChildSystem)

theorem step_call (c : ChildCall) : s.lives.Step (s.call c).lives := by
  unfold call
  split
  · cases c with
    | register parent spec =>
      show s.lives.Step ⟨(s.coordinator.registry.insert _).2.state?, _, _, _⟩
      rw [ChildRegistry.state?_insert]
      exact .registered _ (ChildRegistry.state?_length _)
    | finalize | finish => exact .stays
  · exact .stays

theorem step_start (place : Nat) (tasks : List Task) :
    s.lives.Step
      (lives { s with
        coordinator := s.coordinator.start s.build place
        tasks
        phases :=
          if s.coordinator.startable place then Function.update s.phases place (some .spawned)
          else s.phases }) := by
  cases hstart : s.coordinator.startable place with
  | true =>
    have hstate := (Coordinator.startable_iff.mp hstart).2
    rw [Coordinator.start_of_startable hstart, if_pos rfl]
    show s.lives.Step ⟨(s.coordinator.registry.setState place .running).state?, _, _, _⟩
    rw [ChildRegistry.state?_setState _ _ hstate, List.map_append]
    exact .started place hstate
  | false =>
    rw [Coordinator.start_of_not_startable hstart, if_neg Bool.false_ne_true]
    exact .stays

theorem step_proceed : s.lives.Step s.proceed.lives := by
  unfold proceed
  split
  · exact .stays
  · exact s.step_start _ _
  · rename_i place tasks _
    obtain ⟨noted, hwait⟩ := s.coordinator.exists_wait_now place s.build
    rw [hwait]
    exact .stays

theorem step_act (h : s.lives.Sound) (m : Move) : s.lives.Step (s.act m).lives := by
  cases m with
  | call c => exact s.step_call c
  | proceed => exact s.step_proceed
  | compile place =>
    rw [act]
    split
    · exact .compiling place ‹_›
    · exact .stays
  | compiled place outcome =>
    rw [act]
    split
    · rename_i child hphase _
      obtain ⟨noted, hnoted⟩ :=
        s.coordinator.exists_noteFailure place (outcome.report child.spec.target)
      simp only [hnoted]
      exact .reporting place hphase _
    · exact .stays
  | deliver place =>
    rw [act]
    split
    · rename_i report hphase
      show s.lives.Step
        ⟨(s.coordinator.registry.setState place (.completed report)).state?, _, _, _⟩
      rw [ChildRegistry.state?_setState _ _ (h.state_of_phase hphase)]
      exact .delivered place report hphase
    · exact .stays
  | cancel => exact .stays

theorem sound_run {s : ChildSystem} (h : s.lives.Sound) (moves : List Move) :
    (s.run moves).lives.Sound := by
  induction moves generalizing s with
  | nil => exact h
  | cons m moves ih => exact ih (h.step (s.step_act h m))

/-- Nothing happens to a child that is complete. -/
theorem completed_run {s : ChildSystem} (h : s.lives.Sound) (moves : List Move) {place : Nat}
    {report : ChildReport} (hplace : s.state? place = some (.completed report)) :
    (s.run moves).state? place = some (.completed report) := by
  induction moves generalizing s with
  | nil => exact hplace
  | cons m moves ih =>
    have hstep := s.step_act h m
    have hadvances := h.advances hstep place
    exact ih (h.step hstep) (ChildState.Advances.eq_of_completed (hplace ▸ hadvances))

end ChildSystem

end ModuleSharing
