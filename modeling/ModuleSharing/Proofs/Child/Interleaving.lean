import Mathlib.Logic.Function.Basic
import Mathlib.Tactic.SplitIfs
import ModuleSharing.Child.Coordinator

/-! Child builds one step at a time.  A `ChildSystem` is a coordinator with the threads around it:
the coordinating thread, which makes calls and has `Task`s left to do in a call, and the thread of
each running child.  `ChildSystem.act` lets any of them take its next step, or cancels, and a list of
`Move`s is one way in which their steps may follow each other.  A wait may end at any time: whether
it was completed, timed out or saw the cancellation is read off when it ends.

The calls of the coordinator are such runs (`Coordinator.Reached.exists_run`). -/

namespace ModuleSharing

/-- What is left to do in a call. -/
inductive Task where
  | start (place : Nat)
  | wait (place : Nat)
deriving DecidableEq

/-- How far the thread of a running child has come. -/
inductive Phase where
  | spawned
  | compiling
  /-- A failure is recorded by now, but the child does not count as completed yet. -/
  | reporting (report : ChildReport)
deriving DecidableEq

/-- A call of the coordinating thread. -/
inductive ChildCall where
  | register (parent : ParentBuild) (spec : ChildSpec)
  | finalize (parent : ParentBuild) (target : BuildTarget)
  | finish (build : String)

/-- A step of one of the threads. -/
inductive Move where
  | call (c : ChildCall)
  /-- The next task of a call is done. -/
  | proceed
  /-- The thread of a child runs its compiler. -/
  | compile (place : Nat)
  | compiled (place : Nat) (outcome : ChildOutcome)
  /-- The thread of a child hands in its report. -/
  | deliver (place : Nat)
  /-- Any thread cancels, the coordinating one between its calls included. -/
  | cancel

def Move.isCall : Move → Bool
  | .call _ => true
  | _ => false

namespace Coordinator

/-- Whether a child in this place starts when it is told to. -/
def startable (c : Coordinator) (place : Nat) : Bool :=
  !c.registry.cancelled && c.registry.state? place == some .created

/-- A child that failed is recorded for the build that started it. -/
def noteFailure (c : Coordinator) (place : Nat) (report : ChildReport) : Coordinator :=
  if report.success then c
  else c.record ((c.starter? place).getD "") (.failed report.target report.errors)

/-- Does a task of a call that is made for a build. -/
def perform (build : String) (progress : Progress) (c : Coordinator) : Task → Coordinator
  | .start place => c.start build place
  | .wait place => (c.wait build place progress).2

/-- Starts what there is for a target and waits for it. -/
def awaiting (c : Coordinator) (target : BuildTarget) : List Task :=
  match c.registry.current.get? target with
  | none => []
  | some place => [.start place, .wait place]

/-- What a call has to do, but for what it does at once. -/
def tasks (c : Coordinator) : ChildCall → List Task
  | .register parent spec =>
    if parent.isDevelopment || !spec.target.isServer then [.start c.registry.contexts.length]
    else []
  | .finalize parent target =>
    match c.registry.currentContext? target with
    | none => []
    | some child => (c.upstreams parent child target).flatMap c.awaiting
  | .finish _ => c.registry.current.values.map .start ++ c.registry.current.values.map .wait

/-- What a call does at once: a new child is registered. -/
def enter (c : Coordinator) : ChildCall → Coordinator
  | .register parent spec =>
    { c with registry := (c.registry.insert { spec, awaits := c.awaitsOf parent spec.target }).2 }
  | _ => c

end Coordinator

def ChildCall.build : ChildCall → String
  | register parent _ => parent.name
  | finalize parent _ => parent.name
  | finish build => build

/-- A coordinator and the threads around it. -/
structure ChildSystem where
  coordinator : Coordinator
  /-- The build that the latest call was made for. -/
  build : String := ""
  /-- What is left to do in the latest call; the call has returned if there is nothing. -/
  tasks : List Task := []
  /-- The thread of the running child in a place. -/
  phases : Nat → Option Phase := fun _ => none
  /-- The places of the children that the compiler was run for. -/
  compiled : List Nat := []

namespace ChildSystem

/-- Before the first call. -/
def idle (timeoutMs : Nat) : ChildSystem where
  coordinator := { timeoutMs }

def state? (s : ChildSystem) (place : Nat) : Option ChildState :=
  s.coordinator.registry.state? place

/-- The coordinating thread makes a call, once the one before has returned. -/
def call (s : ChildSystem) (c : ChildCall) : ChildSystem :=
  if s.tasks.isEmpty then
    { s with
      coordinator := s.coordinator.enter c
      build := c.build
      tasks := s.coordinator.tasks c }
  else s

/-- The coordinating thread does its next task. A child that starts gets a thread; a wait ends. -/
def proceed (s : ChildSystem) : ChildSystem :=
  match s.tasks with
  | [] => s
  | .start place :: tasks =>
    -- a cancellation between reading the flag and claiming the child is one after both
    { s with
      coordinator := s.coordinator.start s.build place
      tasks
      phases :=
        if s.coordinator.startable place then Function.update s.phases place (some .spawned)
        else s.phases }
  | .wait place :: tasks =>
    -- what happens during the wait are moves before this one
    { s with coordinator := (s.coordinator.wait s.build place fun _ _ => []).2, tasks }

/-- One step. Threads that are not there, or not that far, do nothing. -/
def act (s : ChildSystem) : Move → ChildSystem
  | .call c => s.call c
  | .proceed => s.proceed
  | .compile place =>
    if s.phases place = some .spawned then
      { s with
        phases := Function.update s.phases place (some .compiling)
        compiled := s.compiled ++ [place] }
    else s
  | .compiled place outcome =>
    match s.phases place, s.coordinator.registry.get? place with
    | some .compiling, some child =>
      let report := outcome.report child.spec.target
      { s with
        coordinator := s.coordinator.noteFailure place report
        phases := Function.update s.phases place (some (.reporting report)) }
    | _, _ => s
  | .deliver place =>
    match s.phases place with
    | some (.reporting report) =>
      { s with
        coordinator :=
          { s.coordinator with registry := s.coordinator.registry.complete place report }
        phases := Function.update s.phases place none }
    | _ => s
  | .cancel => { s with coordinator := s.coordinator.cancel }

def run (s : ChildSystem) (moves : List Move) : ChildSystem := moves.foldl act s

theorem run_cons (s : ChildSystem) (m : Move) (moves : List Move) :
    s.run (m :: moves) = (s.act m).run moves := rfl

theorem run_append (s : ChildSystem) (moves later : List Move) :
    s.run (moves ++ later) = (s.run moves).run later := List.foldl_append

end ChildSystem

/-! ## Places -/

namespace ChildRegistry

variable (r : ChildRegistry) (place q : Nat)

theorem get?_insert (x : ChildContext) :
    (r.insert x).2.get? q = if q = r.contexts.length then some x else r.get? q := by
  rw [get?, insert, get?, List.getElem?_append]
  split_ifs with hlt heq heq
  · omega
  · rfl
  · simp [heq]
  · rw [List.getElem?_eq_none (by simp; omega), List.getElem?_eq_none (by omega)]

theorem get?_setState (state : ChildState) :
    (r.setState place state).get? q =
      if q = place then (r.get? q).map fun x => { x with state } else r.get? q := by
  rw [get?, setState, List.getElem?_modify, get?]
  split_ifs <;> simp_all

theorem state?_insert (x : ChildContext) :
    (r.insert x).2.state? = Function.update r.state? r.contexts.length (some x.state) := by
  funext q
  rw [state?, get?_insert, Function.update_apply]
  split_ifs <;> rfl

theorem state?_setState {old : ChildState} (h : r.state? place = some old) (state : ChildState) :
    (r.setState place state).state? = Function.update r.state? place (some state) := by
  funext q
  rw [state?, get?_setState, Function.update_apply]
  split_ifs with hq
  · subst hq
    obtain ⟨x, hx, -⟩ := Option.map_eq_some_iff.mp h
    rw [hx]
    rfl
  · rfl

theorem state?_length : r.state? r.contexts.length = none := by
  rw [state?, get?, List.getElem?_eq_none (Nat.le_refl _), Option.map_none]

/-- A wait for a child that is not complete gives up, for one of two reasons. -/
theorem endWait_cases (x : ChildContext) (timeoutMs : Nat) :
    (∃ report, x.state = .completed report ∧ r.endWait x timeoutMs = .ok report) ∨
      ∃ e ∈ [ChildError.timedOut x.spec.target timeoutMs, .cancelled x.spec.target],
        r.endWait x timeoutMs = .error e := by
  unfold endWait
  cases x.state with
  | completed report => exact .inl ⟨report, rfl, rfl⟩
  | created | running =>
    right
    by_cases hcancelled : r.cancelled = true
    · exact ⟨_, .tail _ (.head _), by rw [if_pos hcancelled]⟩
    · exact ⟨_, .head _, by rw [if_neg hcancelled]⟩

end ChildRegistry

/-! ## Tasks -/

namespace Coordinator

variable {c : Coordinator} {place : Nat}

theorem startable_iff :
    c.startable place = true ↔
      c.registry.cancelled = false ∧ c.registry.state? place = some .created := by
  rw [startable, Bool.and_eq_true, Bool.not_eq_true', beq_iff_eq]

theorem start_of_startable (h : c.startable place = true) (build : String) :
    c.start build place =
      { c with
        registry := c.registry.setState place .running
        starts := c.starts ++ [(place, build)] } := by
  obtain ⟨hcancelled, hstate⟩ := startable_iff.mp h
  simp only [start, hcancelled, ChildRegistry.tryStart, hstate, if_true, Bool.false_eq_true,
    if_false]

theorem start_of_not_startable (h : c.startable place = false) (build : String) :
    c.start build place = c := by
  unfold start
  split
  · rfl
  · rename_i hcancelled
    have hstate : c.registry.state? place ≠ some .created := fun hstate =>
      Bool.eq_false_iff.mp h (startable_iff.mpr ⟨Bool.eq_false_iff.mpr hcancelled, hstate⟩)
    rw [ChildRegistry.tryStart, if_neg hstate]

/-- A wait that ends either gives the report or is recorded. -/
theorem wait_now {x : ChildContext} (h : c.registry.get? place = some x) (build : String) :
    (∃ report, x.state = .completed report ∧ (c.wait build place fun _ _ => []).2 = c) ∨
      ∃ e ∈ [ChildError.timedOut x.spec.target c.timeoutMs, .cancelled x.spec.target],
        (c.wait build place fun _ _ => []).2 = c.record build e := by
  simp only [wait, List.foldl_nil, h]
  obtain ⟨report, hstate, hend⟩ | ⟨e, he, hend⟩ := c.registry.endWait_cases x c.timeoutMs
  · exact .inl ⟨report, hstate, by rw [hend]⟩
  · exact .inr ⟨e, he, by rw [hend]⟩

/-- With more errors on record. -/
def noting (c : Coordinator) (noted : List (String × String)) : Coordinator :=
  { c with errors := c.errors ++ noted }

theorem noting_nil (c : Coordinator) : c.noting [] = c := by
  rw [noting, List.append_nil]

theorem exists_noteFailure (c : Coordinator) (place : Nat) (report : ChildReport) :
    ∃ noted, c.noteFailure place report = c.noting noted := by
  unfold noteFailure
  split
  · exact ⟨[], c.noting_nil.symm⟩
  · exact ⟨_, rfl⟩

theorem noteFailure_registry (c : Coordinator) (place : Nat) (report : ChildReport) :
    (c.noteFailure place report).registry = c.registry := by
  obtain ⟨noted, hnoted⟩ := c.exists_noteFailure place report
  rw [hnoted]
  rfl

/-- Only a running child ends. -/
theorem endChild_cases (c : Coordinator) (place : Nat) (outcome : ChildOutcome) :
    c.endChild place outcome = c ∨
      ∃ x, c.registry.get? place = some x ∧ x.state = .running ∧
        c.endChild place outcome =
          { c.noteFailure place (outcome.report x.spec.target) with
            registry := c.registry.complete place (outcome.report x.spec.target) } := by
  cases hplace : c.registry.get? place with
  | none => exact .inl (by simp only [endChild, hplace])
  | some x =>
    by_cases hrunning : x.state = .running
    · refine .inr ⟨x, rfl, hrunning, ?_⟩
      rw [← c.noteFailure_registry place (outcome.report x.spec.target)]
      simp only [endChild, hplace, hrunning, if_true]
      rfl
    · exact .inl (by simp only [endChild, hplace, hrunning, if_false])

theorem exists_wait_now (c : Coordinator) (place : Nat) (build : String) :
    ∃ noted, (c.wait build place fun _ _ => []).2 = c.noting noted := by
  cases hplace : c.registry.get? place with
  | none => exact ⟨[], by simp only [wait, List.foldl_nil, hplace, noting_nil]⟩
  | some x =>
    obtain ⟨_, _, hwait⟩ | ⟨e, _, hwait⟩ := wait_now hplace build
    · exact ⟨[], by rw [hwait, noting_nil]⟩
    · exact ⟨_, hwait⟩

end Coordinator

end ModuleSharing
