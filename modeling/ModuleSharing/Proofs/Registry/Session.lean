import ModuleSharing.Registry.Simulation
import ModuleSharing.Proofs.Registry.Invariant

/-! A session is a list of calls and simulated loads on a registry whose modules are JSON values.
`Action.kind` says what an action comes to: a simulated load is a request like any other, unless its
range cannot be read. -/

namespace ModuleSharing

/-- One step of a session. -/
inductive Action where
  | call (c : Call Json)
  | simulate (o : LoadOptions)

/-- What a step of a session answers. -/
inductive Outcome where
  | replied (reply : Reply Json)
  | simulated (result : Except LoadError LoadOutcome)

namespace Registry

def act (r : Registry Json) : Action → Outcome × Registry Json
  | .call c => (.replied (r.perform c).1, (r.perform c).2)
  | .simulate o => (.simulated (r.simulate o).1, (r.simulate o).2)

/-- Takes the actions one by one and records each with its outcome. -/
def session (r : Registry Json) : List Action → List (Action × Outcome) × Registry Json
  | [] => ([], r)
  | action :: actions =>
    let (outcome, r) := r.act action
    let (record, r) := session r actions
    ((action, outcome) :: record, r)

theorem session_cons (r : Registry Json) (x : Action) (actions : List Action) :
    r.session (x :: actions) =
      ((x, (r.act x).1) :: ((r.act x).2.session actions).1, ((r.act x).2.session actions).2) := rfl

/-- Where the record of a session can be cut, so can the session. -/
theorem session_split {r : Registry Json} {actions : List Action}
    {front back : List (Action × Outcome)} (h : (r.session actions).1 = front ++ back) :
    ∃ taken left, actions = taken ++ left ∧ (r.session taken).1 = front ∧
      ((r.session taken).2.session left).1 = back := by
  induction front generalizing r actions with
  | nil => exact ⟨[], actions, rfl, rfl, h⟩
  | cons p front ih =>
    cases actions with
    | nil => contradiction
    | cons x actions =>
      rw [session_cons, List.cons_append, List.cons.injEq] at h
      obtain ⟨taken, left, rfl, hfront, hback⟩ := ih h.2
      exact ⟨x :: taken, left, rfl, by rw [session_cons, h.1, hfront], hback⟩

end Registry

/-- Version, origin and module of a load that was answered from the registry. -/
def Loaded.shared? {μ : Type} (l : Loaded μ) : Option (Version × String × μ) :=
  match l.source with
  | .shared v origin => some (v, origin, l.module)
  | .fallback => none

theorem Loaded.shared?_eq_some_iff {μ : Type} (l : Loaded μ) (v : Version) (origin : String)
    (module : μ) : l.shared? = some (v, origin, module) ↔ l = ⟨.shared v origin, module⟩ := by
  obtain ⟨source, m⟩ := l
  cases source <;> simp [shared?, and_assoc]

/-- Version, origin and module of an outcome that came from the registry. -/
def Outcome.shared? : Outcome → Option (Version × String × Json)
  | .replied (.loaded result) => result.toOption.bind Loaded.shared?
  | .simulated result =>
    result.toOption.bind fun o =>
      o.version.bind fun v => o.origin.map fun origin => (v, origin, o.module)
  | .replied _ => none

namespace Action

/-- Whether an action loads the module of an address as a singleton. -/
def loadsSingleton (a : Address) : Action → Bool
  | .call c => c.request?.any fun q => q.singleton && q.address == a
  | .simulate o => o.singleton && o.address == a

/-- What an action comes to. -/
inductive Kind (x : Action) : Prop where
  | registers (a : Address) (version : Version) (origin : String) (factory : Factory Json)
      (eager : Bool) (acted : ∀ r : Registry Json,
        r.act x = (.replied .registered, r.register a version origin factory eager))
  | activates (a : Address) (version : Version) (action : x = .call (.activate a version))
  | loads (q : Request Json)
      (singleton : ∀ a, x.loadsSingleton a = (q.singleton && q.address == a))
      (acted : ∀ r : Registry Json, (r.act x).2 = (r.resolve q).2 ∧
        (r.act x).1.shared? = (r.resolve q).1.toOption.bind Loaded.shared?)
  | fails (acted : ∀ r : Registry Json, (r.act x).2 = r ∧ (r.act x).1.shared? = none)

private theorem kind_simulate (o : LoadOptions) : (simulate o).Kind := by
  cases hrange : o.parsedRange with
  | error e => exact .fails fun r => by simp [Registry.act, Registry.simulate, hrange,
      Outcome.shared?, Except.toOption]
  | ok range =>
    refine .loads (Registry.loaderRequest
      (Loader.select range.isSome o.strict o.singleton o.fallback.isSome) o.address range
      (o.fallback.map fun name => .ok (fallbackModule name))) (fun a => rfl) fun r => ?_
    simp only [Registry.act, Registry.simulate, hrange, Registry.invoke, Outcome.shared?, true_and]
    cases (r.resolve _).1 with
    | error failure => rfl
    | ok loaded =>
      obtain ⟨source, module⟩ := loaded
      cases source <;> rfl

theorem kind (x : Action) : x.Kind := by
  cases x with
  | simulate o => exact kind_simulate o
  | call c =>
    cases c.kind with
    | registers version origin factory eager hperformed =>
      exact .registers c.address version origin factory eager fun r => by
        simp only [Registry.act, hperformed]
    | activates version hcall => exact .activates c.address version (congrArg call hcall)
    | loads q hrequest _ hperformed =>
      refine .loads q (fun a => by simp only [loadsSingleton, hrequest, Option.any_some]) fun r => ?_
      simp only [Registry.act, hperformed, Outcome.shared?, true_and]

end Action

theorem Registry.Sound.act {r : Registry Json} (h : r.Sound) (x : Action) : (r.act x).2.Sound := by
  cases x.kind with
  | registers a version origin factory eager hacted =>
    rw [hacted]
    exact h.register a version origin factory eager
  | activates a version haction =>
    rw [haction]
    exact h.activate a version
  | loads q _ hacted =>
    rw [(hacted r).1]
    exact h.resolve q
  | fails hacted =>
    rw [(hacted r).1]
    exact h

theorem Registry.Sound.session {r : Registry Json} (h : r.Sound) (actions : List Action) :
    (r.session actions).2.Sound := by
  induction actions generalizing r with
  | nil => exact h
  | cons x actions ih => exact ih (h.act x)

end ModuleSharing
