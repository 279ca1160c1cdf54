import Mathlib.Logic.ExistsUnique
import ModuleSharing.Proofs.Registry.Invariant

/-! What a request is answered with in a registry that a history leads to.  Where no activation
applies it is the highest version that fits, or else the fallback
(`resolve_of_no_activation`).  The only way around a range is a lenient singleton that meets
another activated version, and that is the only request that warns (`resolve_warns_iff`). -/

namespace ModuleSharing

variable {μ : Type}

theorem Request.accepts_congr (q : Request μ) {v w : Version} (h : v.precedence w = .eq) :
    q.accepts v = q.accepts w := by
  unfold accepts
  cases q.range with
  | none => rfl
  | some range => exact range.admits_congr h

theorem Request.accepts_iff (q : Request μ) (v : Version) :
    q.accepts v = true ↔ ∀ range, q.range = some range → range.admits v = true := by
  simp [accepts, Option.all_eq_true]

theorem Request.accepts_eq_false_iff (q : Request μ) (v : Version) :
    q.accepts v = false ↔ ∃ range, q.range = some range ∧ range.admits v = false := by
  unfold accepts
  cases q.range <;> simp

/-! ## Results -/

theorem Entry.load_eq_ok_iff (e : Entry μ) (v : Version) (origin : String) (module : μ) :
    e.load = .ok ⟨.shared v origin, module⟩ ↔
      e.version = v ∧ e.origin = origin ∧ e.factory = .ok module := by
  unfold Entry.load
  cases e.factory <;> simp [Except.map, and_assoc]

theorem Registry.useFallback_ne_shared (q : Request μ) (available : List String) (v : Version)
    (origin : String) (module : μ) :
    useFallback q available ≠ .ok ⟨.shared v origin, module⟩ := by
  unfold useFallback
  cases q.fallback with
  | none => simp
  | some factory => cases factory <;> simp [Except.map]

namespace Shelf

theorem refusal_ne_shared (s : Shelf μ) (q : Request μ) (active v : Version) (origin : String)
    (module : μ) : s.refusal q active ≠ .ok ⟨.shared v origin, module⟩ := by
  unfold refusal
  split
  · exact Registry.useFallback_ne_shared q _ v origin module
  · simp

theorem not_free {s : Shelf μ} {q : Request μ} {active : Version} (hsingleton : q.singleton = true)
    (hactive : s.activated = some active) : ¬ (q.singleton = false ∨ s.activated = none) := by
  simp [hsingleton, hactive]

/-- Without an activation a request gets the highest entry that fits, or else the fallback. -/
theorem Answered.of_free {s : Shelf μ} {q : Request μ} {plan : Plan μ} {answer : Answer μ}
    (hanswered : s.Answered q plan answer) (hfree : q.singleton = false ∨ s.activated = none) :
    (∃ e, s.Highest q e ∧ answer.result = e.load) ∨
      ((∀ e ∈ s.entries, q.accepts e.version = false) ∧
        answer.result = Registry.useFallback q s.versionTexts) := by
  cases hanswered with
  | highest _ e _ _ hbest => exact Or.inl ⟨e, hbest, rfl⟩
  | unmatched _ hrejects => exact Or.inr ⟨hrejects, rfl⟩
  | agreed _ _ _ hsingleton hactive => exact absurd hfree (not_free hsingleton hactive)
  | overruled _ _ _ hsingleton hactive => exact absurd hfree (not_free hsingleton hactive)
  | refused _ hsingleton hactive => exact absurd hfree (not_free hsingleton hactive)

/-- A lenient singleton whose range leaves out the activated version. -/
def Overrides (s : Shelf μ) (q : Request μ) : Prop :=
  q.singleton = true ∧ q.strict = false ∧
    ∃ active, s.activated = some active ∧ q.accepts active = false

theorem not_overrides_of_free {s : Shelf μ} {q : Request μ}
    (hfree : q.singleton = false ∨ s.activated = none) : ¬ s.Overrides q := by
  rintro ⟨hsingleton, _, active, hactive, _⟩
  exact not_free hsingleton hactive hfree

theorem Answered.warnings {s : Shelf μ} {q : Request μ} {plan : Plan μ} {answer : Answer μ}
    (hanswered : s.Answered q plan answer) :
    (s.Overrides q ∧ ∃ warning, answer.warnings = [warning]) ∨
      (¬ s.Overrides q ∧ answer.warnings = []) := by
  cases hanswered with
  | highest _ _ hfree => exact Or.inr ⟨not_overrides_of_free hfree, rfl⟩
  | unmatched hfree => exact Or.inr ⟨not_overrides_of_free hfree, rfl⟩
  | agreed _ _ active _ hactive haccepts =>
    refine Or.inr ⟨?_, rfl⟩
    rintro ⟨_, _, active', hactive', hrejects⟩
    rw [hactive, Option.some.injEq] at hactive'
    rw [← hactive', haccepts] at hrejects
    contradiction
  | overruled _ _ active hsingleton hactive hrejects hlenient =>
    exact Or.inl ⟨⟨hsingleton, hlenient, active, hactive, hrejects⟩, _, rfl⟩
  | refused active _ _ _ hstrict =>
    refine Or.inr ⟨?_, rfl⟩
    rintro ⟨_, hlenient, _⟩
    rw [hstrict] at hlenient
    contradiction

/-- Only a request that overrides its range gets a version outside of it. -/
theorem Answered.accepts_version {s : Shelf μ} {q : Request μ} {plan : Plan μ} {answer : Answer μ}
    (hanswered : s.Answered q plan answer) (hobeys : ¬ s.Overrides q) {v : Version}
    {origin : String} {module : μ} (hresult : answer.result = .ok ⟨.shared v origin, module⟩) :
    q.accepts v = true := by
  cases hanswered with
  | highest _ e _ _ hbest =>
    obtain ⟨rfl, _⟩ := (e.load_eq_ok_iff v origin module).mp hresult
    exact hbest.accepted
  | unmatched => exact absurd hresult (Registry.useFallback_ne_shared q _ v origin module)
  | agreed _ e active _ _ haccepts _ hsame =>
    obtain ⟨rfl, _⟩ := (e.load_eq_ok_iff v origin module).mp hresult
    rw [q.accepts_congr hsame, haccepts]
  | overruled _ _ active hsingleton hactive hrejects hlenient =>
    exact absurd ⟨hsingleton, hlenient, active, hactive, hrejects⟩ hobeys
  | refused => exact absurd hresult (s.refusal_ne_shared q _ v origin module)

end Shelf

namespace Registry

/-! ## Requests without an activation -/

/-- `e` is registered for the address of a request and fits, and no higher entry does. -/
def IsHighest (r : Registry μ) (q : Request μ) (e : Entry μ) : Prop :=
  e ∈ r.entries q.address ∧ q.accepts e.version = true ∧
    ∀ x ∈ r.entries q.address, q.accepts x.version = true → x.version.precedence e.version ≠ .gt

theorem isHighest_iff {r : Registry μ} {q : Request μ} {e : Entry μ}
    (hbest : (r.shelf q.address).Highest q e) (e' : Entry μ) : r.IsHighest q e' ↔ e' = e := by
  unfold IsHighest
  rw [entries_eq]
  constructor
  · rintro ⟨hmem, haccepts, hmax⟩
    rcases hbest.highest e' hmem haccepts with heq | hlt
    · exact heq
    · exact absurd (Std.OrientedCmp.gt_of_lt hlt) (hmax e hbest.registered hbest.accepted)
  · rintro rfl
    refine ⟨hbest.registered, hbest.accepted, fun x hx hxaccepts => ?_⟩
    rcases hbest.highest x hx hxaccepts with rfl | hlt
    · rw [Version.precedence_self]
      decide
    · rw [hlt]
      decide

/-- A request that is no singleton, or whose address has no activated version, runs the factory of
the only highest entry that fits.  If none fits it gets the fallback, or else a failure that lists
what is registered in ascending order. -/
theorem resolve_of_no_activation {r : Registry μ} (h : r.Reachable) (q : Request μ)
    (hfree : q.singleton = false ∨ r.activated? q.address = none) :
    ((∃ e ∈ r.entries q.address, q.accepts e.version = true) →
      (∃! e, r.IsHighest q e) ∧
      ∀ e, r.IsHighest q e →
        (r.resolve q).1 = e.factory.map fun module => ⟨.shared e.version e.origin, module⟩) ∧
    ((∀ e ∈ r.entries q.address, q.accepts e.version = false) →
      (r.resolve q).1 =
        match q.fallback with
        | some factory => factory.map fun module => ⟨.fallback, module⟩
        | none => .error (.noSatisfyingVersion q.address.scope q.address.key
            (q.range.elim "*" VersionRange.text)
            ((r.entries q.address).map fun e => e.version.text))) ∧
    (r.entries q.address).Pairwise fun e e' => e.version.precedence e'.version = .lt := by
  rw [activated?_eq] at hfree
  rw [entries_eq, (resolve_eq_answer r q).1]
  have hordered := h.sound.shelf q.address
  refine ⟨?_, ?_, hordered.ascending⟩
  · rintro ⟨x, hmem, haccepts⟩
    rcases (hordered.answered q).of_free hfree with ⟨e, hbest, hresult⟩ | ⟨hrejects, _⟩
    · refine ⟨⟨e, (isHighest_iff hbest e).mpr rfl, fun e' => (isHighest_iff hbest e').mp⟩, ?_⟩
      intro e' he'
      rw [(isHighest_iff hbest e').mp he']
      exact hresult
    · rw [hrejects x hmem] at haccepts
      contradiction
  · intro hrejects
    rcases (hordered.answered q).of_free hfree with ⟨e, hbest, _⟩ | ⟨_, hresult⟩
    · have haccepted := hbest.accepted
      rw [hrejects e hbest.registered] at haccepted
      contradiction
    · rw [hresult, useFallback]
      cases q.fallback <;> rfl

/-- The address of the examples. -/
def react : Address := ⟨"default", "react"⟩

/-- A second address for the examples. -/
def vue : Address := ⟨"default", "vue"⟩

/-- Three bundles bring a module, one of them a release candidate. -/
def threeBundles : List (Call String) :=
  [.register react ⟨1, 0, 0, [], []⟩ "host" (.ok "one") false,
   .register react ⟨2, 0, 0, [.textual ['r', 'c']], []⟩ "next" (.ok "two") false,
   .register react ⟨1, 5, 0, [], []⟩ "shop" (.ok "one five") false]

/-- A lenient singleton that asks for `^n.0.0`. -/
def singletonFor (n : Nat) : Request String where
  address := react
  range := some ⟨[[⟨.caret, { major := some n, minor := some 0, patch := some 0 }⟩]]⟩
  singleton := true

theorem resolve_of_no_activation_threeBundles :
    let r := (empty.run threeBundles).2
    (∃! e, r.IsHighest (singletonFor 1) e) ∧
    (r.resolve (singletonFor 1)).1 = .ok ⟨.shared ⟨1, 5, 0, [], []⟩ "shop", "one five"⟩ ∧
    (r.resolve (singletonFor 3)).1 =
      .error (.noSatisfyingVersion "default" "react" "^3.0.0" ["1.0.0", "1.5.0", "2.0.0-rc"]) := by
  intro r
  have hone := resolve_of_no_activation ⟨threeBundles, rfl⟩ (singletonFor 1) (Or.inr rfl)
  have hthree := resolve_of_no_activation ⟨threeBundles, rfl⟩ (singletonFor 3) (Or.inr rfl)
  have hplace : (r.entries react)[1]? =
      some ⟨⟨1, 5, 0, [], []⟩, "shop", false, false, .ok "one five"⟩ := rfl
  have hmem := List.mem_of_getElem? hplace
  obtain ⟨hunique, hresult⟩ := hone.1 ⟨_, hmem, rfl⟩
  exact ⟨hunique, hresult _ ⟨hmem, rfl, by decide⟩, hthree.2.1 (by decide)⟩

/-! ## Requests that meet an activated version -/

/-- A lenient singleton with a range that leaves out the activated version. -/
def Overrides (r : Registry μ) (q : Request μ) : Prop :=
  q.singleton = true ∧ q.strict = false ∧ ∃ active range,
    r.activated? q.address = some active ∧ q.range = some range ∧ range.admits active = false

theorem overrides_iff (r : Registry μ) (q : Request μ) :
    r.Overrides q ↔ (r.shelf q.address).Overrides q := by
  simp only [Overrides, Shelf.Overrides, activated?_eq, q.accepts_eq_false_iff, exists_and_left]

theorem resolve_of_strict_conflict {r : Registry μ} {q : Request μ} {active : Version}
    {range : VersionRange} (hstrict : q.strict = true) (hsingleton : q.singleton = true)
    (hactive : r.activated? q.address = some active) (hrange : q.range = some range)
    (hrejects : range.admits active = false) :
    r.resolve q =
      (match q.fallback with
        | some factory => factory.map fun module => ⟨.fallback, module⟩
        | none => .error (.versionConflict q.address.scope q.address.key range.text active.text),
      r) := by
  rw [activated?_eq] at hactive
  have haccepts : q.accepts active = false :=
    (q.accepts_eq_false_iff active).mpr ⟨range, hrange, hrejects⟩
  have hplan : (r.shelf q.address).plan q = .reply ((r.shelf q.address).refusal q active) := by
    simp [Shelf.plan, Shelf.planActive, hactive, hsingleton, haccepts, hstrict]
  rw [resolve_eq_plan, hplan]
  cases hfallback : q.fallback <;>
    simp [Shelf.refusal, useFallback, conflict, Request.required, hfallback, hrange]

/-- A request warns, once, exactly if it is a lenient singleton whose range leaves out the activated
version, and every other request gets shared versions within its range only.  So a strict request
keeps to its range and never warns; where it meets an activated version outside of it, it gets the
fallback or a conflict, and the registry stays as it is. -/
theorem resolve_warns_iff {r : Registry μ} (h : r.Reachable) (q : Request μ) :
    ((∃ warning, (r.resolve q).2.warnings = r.warnings ++ [warning]) ↔ r.Overrides q) ∧
    (¬ r.Overrides q →
      (r.resolve q).2.warnings = r.warnings ∧
      ∀ v origin module, (r.resolve q).1 = .ok ⟨.shared v origin, module⟩ →
        ∀ range, q.range = some range → range.admits v = true) ∧
    (q.strict = true →
      (r.resolve q).2.warnings = r.warnings ∧
      (∀ v origin module, (r.resolve q).1 = .ok ⟨.shared v origin, module⟩ →
        ∀ range, q.range = some range → range.admits v = true) ∧
      ∀ active range, q.singleton = true → r.activated? q.address = some active →
        q.range = some range → range.admits active = false →
        r.resolve q =
          (match q.fallback with
            | some factory => factory.map fun module => ⟨.fallback, module⟩
            | none =>
              .error (.versionConflict q.address.scope q.address.key range.text active.text),
          r)) := by
  obtain ⟨hresult, hwarnings, _⟩ := resolve_eq_answer r q
  have hanswered := (h.sound.shelf q.address).answered q
  have hobeys : ¬ r.Overrides q →
      (r.resolve q).2.warnings = r.warnings ∧
      ∀ v origin module, (r.resolve q).1 = .ok ⟨.shared v origin, module⟩ →
        ∀ range, q.range = some range → range.admits v = true := by
    intro hnot
    rw [overrides_iff] at hnot
    rcases hanswered.warnings with ⟨hoverrides, _⟩ | ⟨_, hnone⟩
    · exact absurd hoverrides hnot
    · refine ⟨by rw [hwarnings, hnone, List.append_nil], fun v origin module hok => ?_⟩
      rw [hresult] at hok
      exact (q.accepts_iff v).mp (hanswered.accepts_version hnot hok)
  refine ⟨⟨?_, ?_⟩, hobeys, fun hstrict => ?_⟩
  · rintro ⟨warning, hwarning⟩
    rw [overrides_iff]
    rcases hanswered.warnings with ⟨hoverrides, _⟩ | ⟨_, hnone⟩
    · exact hoverrides
    · rw [hwarnings, hnone] at hwarning
      simp at hwarning
  · intro hoverrides
    rw [overrides_iff] at hoverrides
    rcases hanswered.warnings with ⟨_, warning, hsome⟩ | ⟨hnot, _⟩
    · exact ⟨warning, by rw [hwarnings, hsome]⟩
    · exact absurd hoverrides hnot
  · obtain ⟨hquiet, hinside⟩ := hobeys fun ⟨_, hlenient, _⟩ => by simp [hstrict] at hlenient
    exact ⟨hquiet, hinside, fun active range => resolve_of_strict_conflict hstrict⟩

theorem resolve_warns_iff_threeBundles :
    let r := (empty.run (threeBundles ++ [.activate react ⟨1, 5, 0, [], ['b']⟩])).2
    (∃ warning, (r.resolve (singletonFor 2)).2.warnings = r.warnings ++ [warning]) ∧
    r.resolve { singletonFor 2 with strict := true } =
      (.error (.versionConflict "default" "react" "^2.0.0" "1.5.0+b"), r) ∧
    (r.resolve (singletonFor 1)).2.warnings = r.warnings := by
  intro r
  have hreachable : r.Reachable := ⟨_, rfl⟩
  have hlenient := resolve_warns_iff hreachable (singletonFor 2)
  have hstrict := resolve_warns_iff hreachable { singletonFor 2 with strict := true }
  have hone := resolve_warns_iff hreachable (singletonFor 1)
  have hnot : ¬ r.Overrides (singletonFor 1) := by
    rintro ⟨_, _, active, range, hactive, hrange, hrejects⟩
    cases hactive
    cases hrange
    contradiction
  exact ⟨hlenient.1.mpr ⟨rfl, rfl, _, _, rfl, rfl, rfl⟩,
    (hstrict.2.2 rfl).2.2 _ _ rfl rfl rfl rfl, (hone.2.1 hnot).1⟩

end Registry

end ModuleSharing
