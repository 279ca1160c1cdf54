import ModuleSharing.Proofs.Child.Ordering

/-! The calls of the coordinator, whose `Progress` says what happens during each wait, are runs of a
system (`Coordinator.Reached.exists_run`).  Its threads rest but for the moments in which something
happens, and then one of them goes all the way from running its compiler to its report. -/

namespace ModuleSharing

namespace ChildSystem

/-- A coordinator whose running children have not come to run their compilers. -/
def around (c : Coordinator) (build : String) (tasks : List Task) (compiled : List Nat) :
    ChildSystem where
  coordinator := c
  build := build
  tasks := tasks
  phases place := if c.registry.state? place = some .running then some .spawned else none
  compiled := compiled

/-- Within a call for a build, a run leads from one coordinator to another. -/
def Leads (build : String) (c : Coordinator) (tasks : List Task) (c' : Coordinator)
    (tasks' : List Task) : Prop :=
  ∀ compiled, ∃ moves compiled', (∀ m ∈ moves, m.isCall = false) ∧
    (around c build tasks compiled).run moves = around c' build tasks' compiled'

variable {build : String} {c c' c'' : Coordinator} {tasks tasks' tasks'' : List Task}

theorem Leads.refl (build : String) (c : Coordinator) (tasks : List Task) :
    Leads build c tasks c tasks :=
  fun compiled => ⟨[], compiled, List.forall_mem_nil _, rfl⟩

theorem Leads.trans (h : Leads build c tasks c' tasks') (h' : Leads build c' tasks' c'' tasks'') :
    Leads build c tasks c'' tasks'' := by
  intro compiled
  obtain ⟨moves, compiled', hmoves, hrun⟩ := h compiled
  obtain ⟨moves', compiled'', hmoves', hrun'⟩ := h' compiled'
  refine ⟨moves ++ moves', compiled'', List.forall_mem_append.mpr ⟨hmoves, hmoves'⟩, ?_⟩
  rw [run_append, hrun, hrun']

/-- A child in a new state gets a thread or loses it. -/
theorem around_update {place : Nat} {state : ChildState}
    (h : c'.registry.state? = Function.update c.registry.state? place (some state))
    (build : String) (tasks : List Task) (compiled : List Nat) :
    around c' build tasks compiled =
      { around c build tasks compiled with
        coordinator := c'
        phases := Function.update (around c build tasks compiled).phases place
          (if state = .running then some .spawned else none) } := by
  have hphases : (around c' build tasks compiled).phases =
      Function.update (around c build tasks compiled).phases place
        (if state = .running then some .spawned else none) := by
    funext q
    simp only [around, h, Function.update_apply]
    split_ifs <;> simp_all
  rw [← hphases]
  rfl

/-- A thread that has not run its compiler takes all its steps at once. -/
theorem run_thread {s : ChildSystem} {place : Nat} {x : ChildContext}
    (hphase : s.phases place = some .spawned)
    (hplace : s.coordinator.registry.get? place = some x) (outcome : ChildOutcome) :
    s.run [.compile place, .compiled place outcome, .deliver place] =
      { s with
        coordinator :=
          { s.coordinator.noteFailure place (outcome.report x.spec.target) with
            registry := s.coordinator.registry.complete place (outcome.report x.spec.target) }
        phases := Function.update s.phases place none
        compiled := s.compiled ++ [place] } := by
  have hcompile : s.act (.compile place) =
      { s with
        phases := Function.update s.phases place (some .compiling)
        compiled := s.compiled ++ [place] } := if_pos hphase
  rw [run_cons, hcompile, run_cons]
  simp only [act, Function.update_self, hplace, run, List.foldl_cons, List.foldl_nil,
    Function.update_idem, Coordinator.noteFailure_registry]

/-- What happens takes a run: a child that ends runs its compiler, records its failure and hands in
its report. -/
theorem leads_happen (build : String) (c : Coordinator) (tasks : List Task)
    (happening : Happening) : Leads build c tasks (c.happen happening) tasks := by
  cases happening with
  | cancelled => exact fun compiled => ⟨[.cancel], compiled, by simp [Move.isCall], rfl⟩
  | ended place outcome =>
    rw [Coordinator.happen]
    obtain hkept | ⟨x, hplace, hrunning, hend⟩ := c.endChild_cases place outcome
    · rw [hkept]
      exact .refl build c tasks
    · intro compiled
      have hstate : c.registry.state? place = some .running := by
        rw [ChildRegistry.state?, hplace, Option.map_some, hrunning]
      have hcompleted : (c.endChild place outcome).registry.state? =
          Function.update c.registry.state? place
            (some (.completed (outcome.report x.spec.target))) := by
        rw [hend]
        exact ChildRegistry.state?_setState _ _ hstate _
      refine ⟨[.compile place, .compiled place outcome, .deliver place], compiled ++ [place],
        by simp [Move.isCall], ?_⟩
      rw [run_thread (if_pos hstate) hplace, around_update hcompleted, if_neg (by simp), hend]
      rfl

theorem leads_happenings (build : String) (c : Coordinator) (tasks : List Task)
    (happenings : List Happening) :
    Leads build c tasks (happenings.foldl Coordinator.happen c) tasks := by
  induction happenings generalizing c with
  | nil => exact .refl build c tasks
  | cons happening happenings ih => exact (leads_happen build c tasks happening).trans (ih _)

theorem leads_start (build : String) (c : Coordinator) (place : Nat) (tasks : List Task) :
    Leads build c (.start place :: tasks) (c.start build place) tasks := by
  intro compiled
  refine ⟨[.proceed], compiled, by simp [Move.isCall], ?_⟩
  cases hstart : c.startable place with
  | false =>
    rw [Coordinator.start_of_not_startable hstart]
    simp only [run, List.foldl_cons, List.foldl_nil, act, proceed, around, hstart,
      Coordinator.start_of_not_startable hstart, Bool.false_eq_true, if_false]
  | true =>
    have hstate := (Coordinator.startable_iff.mp hstart).2
    have hbegun := Coordinator.start_of_startable hstart build
    have hrunning : (c.start build place).registry.state? =
        Function.update c.registry.state? place (some .running) := by
      rw [hbegun]
      exact ChildRegistry.state?_setState _ _ hstate _
    rw [around_update hrunning, if_pos rfl]
    simp only [run, List.foldl_cons, List.foldl_nil, act, proceed, around, hstart, if_true]

theorem leads_wait (build : String) (progress : Progress) (c : Coordinator) (place : Nat)
    (tasks : List Task) :
    Leads build c (.wait place :: tasks) (c.wait build place progress).2 tasks := by
  have hhappen := leads_happenings build c (.wait place :: tasks) (progress c place)
  refine hhappen.trans fun compiled => ⟨[.proceed], compiled, by simp [Move.isCall], ?_⟩
  have hwait : (c.wait build place progress).2 =
      (((progress c place).foldl Coordinator.happen c).wait build place fun _ _ => []).2 := rfl
  obtain ⟨noted, hnoted⟩ :=
    ((progress c place).foldl Coordinator.happen c).exists_wait_now place build
  rw [hwait, hnoted]
  simp only [run, List.foldl_cons, List.foldl_nil, act, proceed, around, hnoted]
  rfl

theorem leads_tasks (build : String) (progress : Progress) (c : Coordinator) (tasks : List Task) :
    Leads build c tasks (tasks.foldl (Coordinator.perform build progress) c) [] := by
  induction tasks generalizing c with
  | nil => exact .refl build c []
  | cons task tasks ih =>
    cases task with
    | start place => exact (leads_start build c place tasks).trans (ih _)
    | wait place => exact (leads_wait build progress c place tasks).trans (ih _)

/-- A call leaves the threads alone. -/
theorem act_call_around (build : String) (c : Coordinator) (compiled : List Nat)
    (call : ChildCall) :
    (around c build [] compiled).act (.call call) =
      around (c.enter call) call.build (c.tasks call) compiled := by
  cases call with
  | register parent spec =>
    have hcreated : (c.enter (.register parent spec)).registry.state? =
        Function.update c.registry.state? c.registry.contexts.length (some .created) :=
      ChildRegistry.state?_insert _ _
    have hthread (b : String) (tasks : List Task) :
        Function.update (around c b tasks compiled).phases c.registry.contexts.length none =
          (around c b tasks compiled).phases := by
      rw [Function.update_eq_self_iff]
      simp [around, ChildRegistry.state?_length]
    rw [around_update hcreated, if_neg (by simp), hthread]
    rfl
  | finalize | finish => rfl

end ChildSystem

/-! ## Calls as lists of tasks -/

namespace Coordinator

/-- The coordinator after a call. -/
def made (c : Coordinator) (progress : Progress) : ChildCall → Coordinator
  | .register parent spec => (c.register parent spec).2
  | .finalize parent target => c.finalize parent target progress
  | .finish build => (c.finish build progress).2

theorem current_happen (c : Coordinator) (happening : Happening) :
    (c.happen happening).registry.current = c.registry.current := by
  cases happening with
  | cancelled => rfl
  | ended place outcome =>
    rw [happen]
    obtain hkept | ⟨x, _, _, hend⟩ := c.endChild_cases place outcome
    · rw [hkept]
    · rw [hend]
      rfl

theorem current_perform (build : String) (progress : Progress) (c : Coordinator) (task : Task) :
    (c.perform build progress task).registry.current = c.registry.current := by
  have hhappen (happenings : List Happening) :
      (happenings.foldl happen c).registry.current = c.registry.current := by
    induction happenings generalizing c with
    | nil => rfl
    | cons happening happenings ih => exact (ih _).trans (c.current_happen happening)
  cases task with
  | start place => exact (c.moved_start build place).current
  | wait place =>
    obtain ⟨noted, hnoted⟩ := ((progress c place).foldl happen c).exists_wait_now place build
    have hwait : c.perform build progress (.wait place) =
        ((progress c place).foldl happen c).noting noted := hnoted
    rw [hwait]
    exact hhappen (progress c place)

theorem current_foldl_perform (build : String) (progress : Progress) (c : Coordinator)
    (tasks : List Task) :
    (tasks.foldl (perform build progress) c).registry.current = c.registry.current := by
  induction tasks generalizing c with
  | nil => rfl
  | cons task tasks ih => exact (ih _).trans (c.current_perform build progress task)

theorem foldl_await (build : String) (progress : Progress) (c : Coordinator)
    (targets : List BuildTarget) :
    targets.foldl (await build progress) c =
      (targets.flatMap c.awaiting).foldl (perform build progress) c := by
  induction targets generalizing c with
  | nil => rfl
  | cons target targets ih =>
    have hawait : await build progress c target =
        (c.awaiting target).foldl (perform build progress) c := by
      unfold await awaiting
      cases c.registry.current.get? target <;> rfl
    -- what the other targets stand for is settled before any of the waits
    have hlater : ((c.awaiting target).foldl (perform build progress) c).awaiting = c.awaiting := by
      funext other
      rw [awaiting, current_foldl_perform, awaiting]
    rw [List.foldl_cons, hawait, ih, hlater, List.flatMap_cons, List.foldl_append]

theorem foldl_collect (build : String) (progress : Progress) (c : Coordinator)
    (places : List Nat) :
    (collect build progress places c).2 =
      (places.map Task.wait).foldl (perform build progress) c := by
  induction places generalizing c with
  | nil => rfl
  | cons place places ih => exact ih _

/-- A call does its tasks one by one. -/
theorem made_eq (c : Coordinator) (progress : Progress) (call : ChildCall) :
    c.made progress call = (c.tasks call).foldl (perform call.build progress) (c.enter call) := by
  cases call with
  | register parent spec =>
    simp only [made, register, tasks, enter]
    split <;> rfl
  | finalize parent target =>
    simp only [made, finalize, tasks, enter, ChildCall.build]
    cases c.registry.currentContext? target with
    | none => rfl
    | some child => exact foldl_await parent.name progress c _
  | finish build =>
    simp only [made, finish, tasks, enter, ChildCall.build, List.foldl_append, foldl_collect,
      List.foldl_map]
    rfl

/-- What calls, and what happens between them, make of a new coordinator. -/
inductive Reached (timeoutMs : Nat) : Coordinator → Prop where
  | new : Reached timeoutMs { timeoutMs }
  | made {c : Coordinator} (h : Reached timeoutMs c) (progress : Progress) (call : ChildCall) :
    Reached timeoutMs (c.made progress call)
  | happen {c : Coordinator} (h : Reached timeoutMs c) (happening : Happening) :
    Reached timeoutMs (c.happen happening)

/-- A reached coordinator is that of a system between two calls. -/
theorem Reached.exists_run {timeoutMs : Nat} {c : Coordinator} (h : c.Reached timeoutMs) :
    ∃ moves build compiled,
      (ChildSystem.idle timeoutMs).run moves = ChildSystem.around c build [] compiled := by
  induction h with
  | new =>
    refine ⟨[], "", [], ?_⟩
    simp [ChildSystem.run, ChildSystem.idle, ChildSystem.around, ChildRegistry.state?,
      ChildRegistry.get?]
  | @made c _ progress call ih =>
    obtain ⟨moves, build, compiled, hrun⟩ := ih
    obtain ⟨during, compiled', -, hduring⟩ :=
      ChildSystem.leads_tasks call.build progress (c.enter call) (c.tasks call) compiled
    refine ⟨moves ++ .call call :: during, call.build, compiled', ?_⟩
    rw [ChildSystem.run_append, hrun, ChildSystem.run_cons, ChildSystem.act_call_around, hduring,
      made_eq]
  | @happen c _ happening ih =>
    obtain ⟨moves, build, compiled, hrun⟩ := ih
    obtain ⟨later, compiled', -, hlater⟩ :=
      ChildSystem.leads_happen build c [] happening compiled
    exact ⟨moves ++ later, build, compiled', by rw [ChildSystem.run_append, hrun, hlater]⟩

theorem Reached.sound {timeoutMs : Nat} {c : Coordinator} (h : c.Reached timeoutMs) :
    ∃ build compiled,
      (ChildSystem.around c build [] compiled).lives.Sound ∧ c.registry.Indexed := by
  obtain ⟨moves, build, compiled, hrun⟩ := h.exists_run
  have hsound := ChildSystem.sound_run (ChildSystem.sound_idle timeoutMs) moves
  have hindexed := ChildSystem.indexed_run (ChildSystem.indexed_idle timeoutMs) moves
  rw [hrun] at hsound hindexed
  exact ⟨build, compiled, hsound, hindexed⟩

/-- No child is started twice. -/
theorem Reached.starts_nodup {timeoutMs : Nat} {c : Coordinator} (h : c.Reached timeoutMs) :
    (c.starts.map Prod.fst).Nodup := by
  obtain ⟨_, _, hsound, _⟩ := h.sound
  exact hsound.started_nodup

/-- When a production build has finalized the child of a client, whatever happened in the meantime,
the current server is complete or the build knows why not. -/
theorem Reached.finalize_serves {timeoutMs : Nat} {c : Coordinator} (h : c.Reached timeoutMs)
    {parent : ParentBuild} {target : BuildTarget} {place : Nat} (progress : Progress)
    (hparent : parent.isDevelopment = false) (htarget : target.isServer = false)
    (hregistered : c.registry.contains target = true)
    (hserver : c.registry.current.get? .server = some place) :
    (∃ report,
      (c.finalize parent target progress).registry.state? place = some (.completed report)) ∨
      ∃ noted, (c.finalize parent target progress).errors = c.errors ++ noted ∧
        ∃ e ∈ [ChildError.timedOut .server c.timeoutMs, .cancelled .server],
          (parent.name, e.message) ∈ noted := by
  obtain ⟨build, compiled, hsound, hindexed⟩ := h.sound
  have hentered := hsound.step (ChildSystem.step_act _ hsound (.call (.finalize parent target)))
  obtain ⟨during, compiled', hduring, hrun⟩ :=
    ChildSystem.leads_tasks parent.name progress c (c.tasks (.finalize parent target)) compiled
  have hcall : (ChildSystem.around c build [] compiled).act (.call (.finalize parent target)) =
      ChildSystem.around c parent.name (c.tasks (.finalize parent target)) compiled :=
    ChildSystem.act_call_around build c compiled (.finalize parent target)
  have hserved := ChildSystem.served_run hentered (hindexed .server place hserver)
    (wait_mem_tasks hindexed hparent htarget hregistered hserver) hduring
    (congrArg ChildSystem.tasks hrun)
  have hreturned : c.finalize parent target progress =
      (c.tasks (.finalize parent target)).foldl (perform parent.name progress) c :=
    c.made_eq progress (.finalize parent target)
  rw [hcall, hrun, ← hreturned] at hserved
  exact hserved

end Coordinator

end ModuleSharing
