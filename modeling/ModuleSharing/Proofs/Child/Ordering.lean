import ModuleSharing.Proofs.Child.Lifecycle
import ModuleSharing.Proofs.Dictionary

/-! The order of child builds, however the threads around them take turns.  The life of a child is
the one that `ChildLives.Sound` describes.  A production build that finalizes its child puts a wait
for the current server among the tasks of that call (`Coordinator.wait_mem_tasks`), and the call has
not returned before that wait has ended (`ChildSystem.served_run`). -/

namespace ModuleSharing

open Std

instance : LawfulEqOrd BuildTarget where
  compare_self {a} := by cases a <;> rfl
  eq_of_compare {a b} h := by cases a <;> cases b <;> first | rfl | contradiction

/-! ## Whose child is in a place -/

namespace ChildRegistry

variable {r : ChildRegistry}

def target? (r : ChildRegistry) (place : Nat) : Option BuildTarget :=
  (r.get? place).map fun x => x.spec.target

/-- The current child of a target was made for it. -/
def Indexed (r : ChildRegistry) : Prop :=
  ∀ target place, r.current.get? target = some place → r.target? place = some target

theorem target?_setState (r : ChildRegistry) (place : Nat) (state : ChildState) :
    (r.setState place state).target? = r.target? := by
  funext q
  rw [target?, get?_setState, target?]
  split_ifs
  · rw [Option.map_map]
    rfl
  · rfl

theorem Indexed.insert (h : r.Indexed) (x : ChildContext) : (r.insert x).2.Indexed := by
  intro target place hplace
  rw [target?, get?_insert]
  by_cases htarget : target = x.spec.target
  · subst htarget
    have hlast : r.contexts.length = place :=
      Option.some.inj ((Dictionary.get?_insert_self _ _ _).symm.trans hplace)
    rw [if_pos hlast.symm, Option.map_some]
  · rw [ChildRegistry.insert, Dictionary.get?_insert_of_ne _ htarget] at hplace
    have hold := h target place hplace
    obtain ⟨y, hy, -⟩ := Option.map_eq_some_iff.mp hold
    have hlt := (List.getElem?_eq_some_iff.mp hy).1
    rw [if_neg (Nat.ne_of_lt hlt)]
    exact hold

end ChildRegistry

/-! ## The coordinator within a call -/

namespace Coordinator

variable {c c' : Coordinator}

/-- What a step that is no call may do to the coordinator. -/
inductive Moved (c : Coordinator) : Coordinator → Prop where
  | noting (noted : List (String × String)) : Moved c (c.noting noted)
  | cancelled : Moved c c.cancel
  | setState (place : Nat) (state : ChildState) (starts : List (Nat × String)) :
    Moved c { c with registry := c.registry.setState place state, starts }

theorem Moved.refl (c : Coordinator) : c.Moved c := by
  simpa only [noting_nil] using Moved.noting (c := c) []

theorem moved_start (c : Coordinator) (build : String) (place : Nat) :
    c.Moved (c.start build place) := by
  cases hstart : c.startable place with
  | true =>
    rw [start_of_startable hstart]
    exact .setState place .running _
  | false =>
    rw [start_of_not_startable hstart]
    exact .refl c

theorem Moved.current (h : c.Moved c') : c'.registry.current = c.registry.current := by
  cases h <;> rfl

theorem Moved.timeoutMs (h : c.Moved c') : c'.timeoutMs = c.timeoutMs := by
  cases h <;> rfl

theorem Moved.target? (h : c.Moved c') : c'.registry.target? = c.registry.target? := by
  cases h with
  | noting | cancelled => rfl
  | setState place state => exact c.registry.target?_setState place state

theorem Moved.errors (h : c.Moved c') : ∃ noted, c'.errors = c.errors ++ noted := by
  cases h with
  | noting noted => exact ⟨noted, rfl⟩
  | cancelled | setState => exact ⟨[], (List.append_nil _).symm⟩

theorem Moved.indexed (h : c.Moved c') (hindexed : c.registry.Indexed) : c'.registry.Indexed := by
  intro target place hplace
  rw [h.target?]
  exact hindexed target place (h.current ▸ hplace)

theorem indexed_enter (h : c.registry.Indexed) (call : ChildCall) :
    (c.enter call).registry.Indexed := by
  cases call with
  | register parent spec => exact h.insert _
  | finalize | finish => exact h

theorem exists_currentContext (hindexed : c.registry.Indexed) {target : BuildTarget}
    (h : c.registry.contains target = true) : ∃ x, c.registry.currentContext? target = some x := by
  obtain ⟨place, hplace⟩ := Option.isSome_iff_exists.mp h
  obtain ⟨x, hx, -⟩ := Option.map_eq_some_iff.mp (hindexed target place hplace)
  exact ⟨x, by rw [ChildRegistry.currentContext?, hplace, Option.bind_some, hx]⟩

theorem server_mem_upstreams {parent : ParentBuild} {target : BuildTarget} (child : ChildContext)
    (hparent : parent.isDevelopment = false) (htarget : target.isServer = false)
    (hserver : c.registry.contains .server = true) :
    .server ∈ c.upstreams parent child target := by
  have hawaits : c.awaitsOf parent target = [.server] := by
    rw [awaitsOf, hparent, htarget, hserver]
    rfl
  rw [upstreams, hawaits, List.mem_append]
  by_cases hmem : BuildTarget.server ∈ child.awaits
  · exact .inl hmem
  · exact .inr (List.mem_filter.mpr ⟨List.mem_singleton_self _, by simpa using hmem⟩)

/-- A production build that finalizes the child of a client waits for the current server. -/
theorem wait_mem_tasks (hindexed : c.registry.Indexed) {parent : ParentBuild}
    {target : BuildTarget} {place : Nat} (hparent : parent.isDevelopment = false)
    (htarget : target.isServer = false) (hregistered : c.registry.contains target = true)
    (hserver : c.registry.current.get? .server = some place) :
    .wait place ∈ c.tasks (.finalize parent target) := by
  obtain ⟨child, hchild⟩ := exists_currentContext hindexed hregistered
  have hcontains : c.registry.contains .server = true := by
    rw [ChildRegistry.contains, Dictionary.contains, hserver, Option.isSome_some]
  simp only [tasks, hchild]
  refine List.mem_flatMap.mpr ⟨.server, server_mem_upstreams child hparent htarget hcontains, ?_⟩
  simp only [awaiting, hserver]
  exact .tail _ (.head _)

end Coordinator

/-! ## Steps within a call -/

namespace ChildSystem

variable {s : ChildSystem}

/-- What a step that is no call leaves of the call in progress. -/
structure Continues (s : ChildSystem) (m : Move) (s' : ChildSystem) : Prop where
  moved : s.coordinator.Moved s'.coordinator
  build : s'.build = s.build
  tasks : s'.tasks = s.tasks ∨ m = .proceed ∧ s'.tasks = s.tasks.tail

theorem Continues.refl (s : ChildSystem) (m : Move) : s.Continues m s :=
  ⟨.refl _, rfl, .inl rfl⟩

theorem continues_act (s : ChildSystem) {m : Move} (hm : m.isCall = false) :
    s.Continues m (s.act m) := by
  cases m with
  | call => contradiction
  | proceed =>
    rw [act, proceed]
    split
    · exact .refl s _
    · rename_i place tasks htasks
      exact ⟨s.coordinator.moved_start s.build place, rfl, .inr ⟨rfl, by rw [htasks]; rfl⟩⟩
    · rename_i place tasks htasks
      obtain ⟨noted, hwait⟩ := s.coordinator.exists_wait_now place s.build
      rw [hwait]
      exact ⟨.noting noted, rfl, .inr ⟨rfl, by rw [htasks]; rfl⟩⟩
  | compile place =>
    rw [act]
    split
    · exact ⟨.refl _, rfl, .inl rfl⟩
    · exact .refl s _
  | compiled place outcome =>
    rw [act]
    split
    · rename_i child _ _
      obtain ⟨noted, hnoted⟩ :=
        s.coordinator.exists_noteFailure place (outcome.report child.spec.target)
      simp only [hnoted]
      exact ⟨.noting noted, rfl, .inl rfl⟩
    · exact .refl s _
  | deliver place =>
    rw [act]
    split
    · exact ⟨.setState _ _ _, rfl, .inl rfl⟩
    · exact .refl s _
  | cancel => exact ⟨.cancelled, rfl, .inl rfl⟩

/-- A task stays until its turn has come. -/
theorem mem_tasks_act {m : Move} (hm : m.isCall = false) {task : Task} (h : task ∈ s.tasks) :
    task ∈ (s.act m).tasks ∨ m = .proceed ∧ s.tasks.head? = some task := by
  obtain hkept | ⟨rfl, htail⟩ := (s.continues_act hm).tasks
  · exact .inl (hkept ▸ h)
  · rw [htail]
    cases htasks : s.tasks with
    | nil => exact absurd h (by simp [htasks])
    | cons first tasks =>
      rw [htasks] at h
      exact (List.mem_cons.mp h).symm.imp_right fun heq => ⟨rfl, congrArg some heq.symm⟩

theorem indexed_idle (timeoutMs : Nat) : (idle timeoutMs).coordinator.registry.Indexed :=
  fun _ place hplace => nomatch (show none = some place from hplace)

theorem indexed_act (h : s.coordinator.registry.Indexed) (m : Move) :
    (s.act m).coordinator.registry.Indexed := by
  cases hm : m.isCall with
  | false => exact (s.continues_act hm).moved.indexed h
  | true =>
    cases m with
    | call c =>
      rw [act, call]
      split
      · exact Coordinator.indexed_enter h c
      · exact h
    | _ => contradiction

theorem indexed_run (h : s.coordinator.registry.Indexed) (moves : List Move) :
    (s.run moves).coordinator.registry.Indexed := by
  induction moves generalizing s with
  | nil => exact h
  | cons m moves ih => exact ih (indexed_act h m)

/-- Errors stay on record. -/
theorem errors_run {moves : List Move} (hmoves : ∀ m ∈ moves, m.isCall = false) :
    ∃ noted, (s.run moves).coordinator.errors = s.coordinator.errors ++ noted := by
  induction moves generalizing s with
  | nil => exact ⟨[], (List.append_nil _).symm⟩
  | cons m moves ih =>
    obtain ⟨hm, hmoves⟩ := List.forall_mem_cons.mp hmoves
    obtain ⟨first, hfirst⟩ := (s.continues_act hm).moved.errors
    obtain ⟨rest, hrest⟩ := ih (s := s.act m) hmoves
    exact ⟨first ++ rest, by rw [run_cons, hrest, hfirst, List.append_assoc]⟩

theorem proceed_of_wait {place : Nat} (h : s.tasks.head? = some (.wait place)) :
    s.proceed =
      { s with
        coordinator := (s.coordinator.wait s.build place fun _ _ => []).2
        tasks := s.tasks.tail } := by
  obtain ⟨tasks, htasks⟩ := List.head?_eq_some_iff.mp h
  simp only [proceed, htasks, List.tail_cons]

/-- The child in a place is complete, or it is on record for a build, since an earlier state, that a
wait for this child has timed out or was cancelled. -/
def Served (before s : ChildSystem) (build : String) (target : BuildTarget) (place : Nat) : Prop :=
  (∃ report, s.state? place = some (.completed report)) ∨
    ∃ noted, s.coordinator.errors = before.coordinator.errors ++ noted ∧
      ∃ e ∈ [ChildError.timedOut target before.coordinator.timeoutMs, .cancelled target],
        (build, e.message) ∈ noted

theorem Served.act {s' : ChildSystem} {m : Move} (hm : m.isCall = false) {build : String}
    {target : BuildTarget} {place : Nat} (h : Served (s.act m) s' build target place) :
    Served s s' build target place := by
  obtain hdone | ⟨noted, hnoted, e, he, hmem⟩ := h
  · exact .inl hdone
  · have hmoved := (s.continues_act hm).moved
    obtain ⟨first, hfirst⟩ := hmoved.errors
    rw [hmoved.timeoutMs] at he
    refine .inr ⟨first ++ noted, ?_, e, he, List.mem_append_right first hmem⟩
    rw [hnoted, hfirst, List.append_assoc]

/-- A wait that ends is served: the child is complete or a reason to give up is recorded. -/
theorem served_proceed {place : Nat} {target : BuildTarget}
    (htarget : s.coordinator.registry.target? place = some target)
    (hhead : s.tasks.head? = some (.wait place)) :
    Served s (s.act .proceed) s.build target place := by
  obtain ⟨x, hx, hxt⟩ := Option.map_eq_some_iff.mp htarget
  rw [ChildSystem.act, proceed_of_wait hhead]
  obtain ⟨report, hstate, hwait⟩ | ⟨e, he, hwait⟩ := Coordinator.wait_now hx s.build
  · left
    rw [hwait]
    exact ⟨report, by rw [state?, ChildRegistry.state?, hx, Option.map_some, hstate]⟩
  · right
    rw [hwait]
    exact ⟨_, rfl, e, hxt ▸ he, List.mem_singleton_self _⟩

theorem Served.run {before : ChildSystem} (hsound : s.lives.Sound) {build : String}
    {target : BuildTarget} {place : Nat} (h : Served before s build target place)
    {moves : List Move} (hmoves : ∀ m ∈ moves, m.isCall = false) :
    Served before (s.run moves) build target place := by
  obtain ⟨report, hdone⟩ | ⟨noted, hnoted, e, he, hmem⟩ := h
  · exact .inl ⟨report, completed_run hsound moves hdone⟩
  · obtain ⟨rest, hrest⟩ := errors_run (s := s) hmoves
    refine .inr ⟨noted ++ rest, ?_, e, he, List.mem_append_left rest hmem⟩
    rw [hrest, hnoted, List.append_assoc]

/-- A wait among the tasks of a call has ended when the call returns. -/
theorem served_run (hsound : s.lives.Sound) {place : Nat} {target : BuildTarget}
    (htarget : s.coordinator.registry.target? place = some target)
    (hwait : .wait place ∈ s.tasks) {moves : List Move} (hmoves : ∀ m ∈ moves, m.isCall = false)
    (hreturned : (s.run moves).tasks = []) :
    Served s (s.run moves) s.build target place := by
  induction moves generalizing s with
  | nil =>
    rw [run, List.foldl_nil] at hreturned
    rw [hreturned] at hwait
    contradiction
  | cons m moves ih =>
    obtain ⟨hm, hrest⟩ := List.forall_mem_cons.mp hmoves
    have hsound' := hsound.step (s.step_act hsound m)
    -- the wait is still ahead, or this step ends it and nothing later takes that back
    obtain hwaiting | ⟨rfl, hhead⟩ := mem_tasks_act hm hwait
    · have hcontinues := s.continues_act hm
      have hserved := ih hsound' (hcontinues.moved.target? ▸ htarget) hwaiting hrest hreturned
      rw [hcontinues.build] at hserved
      exact hserved.act hm
    · exact (served_proceed htarget hhead).run hsound' hrest

theorem act_finalize (h : s.tasks = []) (parent : ParentBuild) (target : BuildTarget) :
    (s.act (.call (.finalize parent target))).coordinator = s.coordinator ∧
      (s.act (.call (.finalize parent target))).build = parent.name ∧
      (s.act (.call (.finalize parent target))).tasks =
        s.coordinator.tasks (.finalize parent target) := by
  rw [act, call, h]
  exact ⟨rfl, rfl, rfl⟩

/-- However the threads of child builds take turns with the calls of the coordinating thread, each
child starts once at most and the compiler runs once at most for it, each step moves each child from
created to running to completed by one at most, and a report stays.  When a production build has
finalized the child of a client while a server was registered, that server is complete, or a wait
for it that timed out or was cancelled is among the errors recorded for the build since the call. -/
theorem children_in_order (timeoutMs : Nat) (moves : List Move) :
    let s := (idle timeoutMs).run moves
    ((s.coordinator.starts.map Prod.fst).Nodup ∧ s.compiled.Nodup ∧
      s.compiled ⊆ s.coordinator.starts.map Prod.fst) ∧
    (∀ m place, ChildState.Advances (s.state? place) ((s.act m).state? place)) ∧
    (∀ later place report, s.state? place = some (.completed report) →
      (s.run later).state? place = some (.completed report)) ∧
    ∀ (parent : ParentBuild) (target : BuildTarget) (server : Nat) (during : List Move),
      let returned := (s.act (.call (.finalize parent target))).run during
      s.tasks = [] → parent.isDevelopment = false → target.isServer = false →
      s.coordinator.registry.contains target = true →
      s.coordinator.registry.current.get? .server = some server →
      (∀ m ∈ during, m.isCall = false) → returned.tasks = [] →
      Served s returned parent.name .server server := by
  intro s
  have hsound : s.lives.Sound := sound_run (sound_idle timeoutMs) moves
  have hindexed : s.coordinator.registry.Indexed := indexed_run (indexed_idle timeoutMs) moves
  refine ⟨⟨hsound.started_nodup, hsound.compiled_nodup, fun place hplace =>
    (hsound.compiled place hplace).1⟩, fun m => hsound.advances (s.step_act hsound m),
    fun later place report => completed_run hsound later, ?_⟩
  intro parent target server during returned hidle hparent htarget hregistered hserver hduring
    hreturned
  obtain ⟨hcoordinator, hbuild, htasks⟩ := act_finalize hidle parent target
  have hwait := Coordinator.wait_mem_tasks hindexed hparent htarget hregistered hserver
  have hserved := served_run (hsound.step (s.step_act hsound (.call (.finalize parent target))))
    (by rw [hcoordinator]; exact hindexed .server server hserver) (htasks ▸ hwait) hduring hreturned
  rwa [hbuild, Served, hcoordinator] at hserved

/-- The client finalizes while the server, which was registered later, is still compiling: the wait
times out. -/
theorem children_in_order_serverLater :
    let client := ParentBuild.ofProject "client" .production "/app"
    let server := ParentBuild.ofProject "server" .production "/app"
    let moves : List Move :=
      [.call (.register client { ChildSpec.derive client {} 0 with target := .client }), .proceed,
        .compile 0,
        .call (.register server { ChildSpec.derive server {} 0 with target := .server })]
    let s := (idle 300000).run moves
    let during : List Move := [.proceed, .compile 1, .proceed]
    let returned := (s.act (.call (.finalize client .client))).run during
    (s.tasks = [] ∧ client.isDevelopment = false ∧ BuildTarget.client.isServer = false ∧
      s.coordinator.registry.contains .client = true ∧
      s.coordinator.registry.current.get? .server = some 1 ∧ (∀ m ∈ during, m.isCall = false) ∧
      returned.tasks = [] ∧ returned.state? 1 = some .running) ∧
    Served s returned client.name .server 1 := by
  intro client server moves s during returned
  have hidle : s.tasks = [] := rfl
  have hregistered : s.coordinator.registry.contains .client = true := rfl
  have hserver : s.coordinator.registry.current.get? .server = some 1 := rfl
  have hduring : ∀ m ∈ during, m.isCall = false := by simp [during, Move.isCall]
  have hreturned : returned.tasks = [] := by decide +kernel
  have hrunning : returned.state? 1 = some .running := by decide +kernel
  have hordered := (children_in_order 300000 moves).2.2.2 client .client 1 during
  have hserved := hordered hidle rfl rfl hregistered hserver hduring hreturned
  exact ⟨⟨hidle, rfl, rfl, hregistered, hserver, hduring, hreturned, hrunning⟩, hserved⟩

end ChildSystem

end ModuleSharing
