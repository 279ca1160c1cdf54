import ModuleSharing.Registry.History
import ModuleSharing.Proofs.Dictionary
import ModuleSharing.Proofs.Range.Admission
import ModuleSharing.Proofs.Registry.Shelf

/-! A request reads and changes the shelf of its own address only.  `Shelf.plan` decides what a shelf
does about a request and `Shelf.answer` carries it out; `resolve_eq_plan` and the three lemmas on
`answer` tie them to `Registry.resolve`.  On a shelf in order every answer is one of five
(`Shelf.Ordered.answered`). -/

namespace ModuleSharing

open Std

variable {μ : Type}

instance : LawfulEqOrd Address where
  compare_self {a} := by
    change compareLex (compareOn Address.scope) (compareOn Address.key) a a = .eq
    exact ReflCmp.compare_self
  eq_of_compare {a b} h := by
    obtain ⟨hscope, hkey⟩ := compareLex_eq_eq.mp h
    cases a
    cases b
    rw [Address.mk.injEq]
    exact ⟨LawfulEqOrd.eq_of_compare hscope, LawfulEqOrd.eq_of_compare hkey⟩

/-! ## Shelves of a registry -/

namespace Registry

/-- The shelf of an address, an empty one if nothing is registered. -/
def shelf (r : Registry μ) (a : Address) : Shelf μ := (r.shelf? a).getD {}

theorem shelf_of_shelf? {r : Registry μ} {a : Address} {s : Shelf μ} (h : r.shelf? a = some s) :
    r.shelf a = s := by
  simp only [shelf, h, Option.getD_some]

theorem entries_eq (r : Registry μ) (a : Address) : r.entries a = (r.shelf a).entries := by
  unfold entries shelf
  cases r.shelf? a <;> rfl

theorem activated?_eq (r : Registry μ) (a : Address) : r.activated? a = (r.shelf a).activated := by
  unfold activated? shelf
  cases r.shelf? a <;> rfl

theorem shelf?_setShelf (r : Registry μ) (a b : Address) (s : Shelf μ) :
    (r.setShelf a s).shelf? b = if b = a then some s else r.shelf? b := by
  split
  · rename_i h
    rw [h]
    exact Dictionary.get?_insert_self ..
  · rename_i h
    exact Dictionary.get?_insert_of_ne _ h s

end Registry

/-! ## Deciding -/

/-- What a shelf does about a request. -/
inductive Plan (μ : Type) where
  /-- It gives this result and stays as it is. -/
  | reply (result : Except LoadError (Loaded μ))
  /-- It calls the factory of the entry that equals `version`, after the warnings.  If the request
  settles the singletons, `version` is activated first. -/
  | enter (version : Version) (settles : Bool) (warnings : List String)

namespace Shelf

/-- The result of a strict singleton whose range leaves out the activated version. -/
def refusal (s : Shelf μ) (q : Request μ) (active : Version) : Except LoadError (Loaded μ) :=
  if q.fallback.isSome then Registry.useFallback q s.versionTexts
  else .error (Registry.conflict q active)

def planActive (s : Shelf μ) (q : Request μ) (active : Version) : Plan μ :=
  if q.accepts active then .enter active false []
  else if q.strict then .reply (s.refusal q active)
  else .enter active false [(Registry.conflict q active).message]

def planHighest (s : Shelf μ) (q : Request μ) : Plan μ :=
  match s.highestMatching? q.range with
  | none => .reply (Registry.useFallback q s.versionTexts)
  | some e => .enter e.version q.singleton []

def plan (s : Shelf μ) (q : Request μ) : Plan μ :=
  match s.activated with
  | some active => if q.singleton then s.planActive q active else s.planHighest q
  | none => s.planHighest q

theorem plan_of_free {s : Shelf μ} {q : Request μ}
    (hfree : q.singleton = false ∨ s.activated = none) : s.plan q = s.planHighest q := by
  unfold plan
  rcases hfree with hother | hnone
  · cases s.activated <;> simp [hother]
  · rw [hnone]

theorem plan_of_activated {s : Shelf μ} {q : Request μ} {active : Version}
    (hsingleton : q.singleton = true) (hactive : s.activated = some active) :
    s.plan q = s.planActive q active := by
  simp only [plan, hactive, hsingleton, if_true]

/-- Activates a version for the singletons, if they settle on it. -/
def settle (s : Shelf μ) (settles : Bool) (v : Version) : Shelf μ :=
  if settles then { s with activated := some v } else s

end Shelf

namespace Registry

/-- The registry on which an entry is entered: singletons settled, warnings issued. -/
def prepare (r : Registry μ) (a : Address) (v : Version) (settles : Bool)
    (warnings : List String) : Registry μ :=
  { (if settles then r.setShelf a { r.shelf a with activated := some v } else r) with
    warnings := r.warnings ++ warnings }

/-- `resolve` is its decision carried out: the only calls of `loadEntry` are those of the plan. -/
theorem resolve_eq_plan (r : Registry μ) (q : Request μ) :
    r.resolve q =
      match (r.shelf q.address).plan q with
      | .reply result => (result, r)
      | .enter v settles warnings =>
        (r.prepare q.address v settles warnings).loadEntry q.address v := by
  have hhighest (s : Shelf μ) (hs : r.shelf? q.address = some s) :
      r.resolveHighest q s =
        match s.planHighest q with
        | .reply result => (result, r)
        | .enter v settles warnings =>
          (r.prepare q.address v settles warnings).loadEntry q.address v := by
    unfold resolveHighest Shelf.planHighest
    cases s.highestMatching? q.range with
    | none => rfl
    | some e => cases hq : q.singleton <;>
        simp [prepare, shelf_of_shelf? hs, setShelf]
  unfold resolve
  cases hs : r.shelf? q.address with
  | none => simp [shelf, hs, Shelf.plan, Shelf.planHighest, Shelf.highestMatching?,
      Shelf.versionTexts]
  | some s =>
    rw [shelf_of_shelf? hs]
    dsimp only [Shelf.plan]
    cases s.activated with
    | none => exact hhighest s hs
    | some active =>
      cases q.singleton with
      | false => exact hhighest s hs
      | true =>
        dsimp only [resolveActive, Shelf.planActive]
        cases q.accepts active with
        | true => simp [prepare]
        | false =>
          cases q.strict with
          | true => cases hf : q.fallback <;> simp [Shelf.refusal, hf]
          | false => simp [prepare]

end Registry

/-! ## Answering -/

/-- What calling the factory of an entry yields. -/
def Entry.load (e : Entry μ) : Except LoadError (Loaded μ) :=
  e.factory.map fun module => ⟨.shared e.version e.origin, module⟩

/-- The result of a request, the shelf afterwards and the new warnings. -/
structure Answer (μ : Type) where
  result : Except LoadError (Loaded μ)
  shelf : Shelf μ
  warnings : List String := []

namespace Shelf

/-- The shelf after the factory of the entry `e` at place `i` was called. -/
def called (s : Shelf μ) (i : Nat) (e : Entry μ) : Shelf μ :=
  match e.factory with
  | .ok _ => s.markLoaded i
  | .error _ => s

/-- Calls the factory of the entry that equals `v`. -/
def enter (s : Shelf μ) (a : Address) (v : Version) : Except LoadError (Loaded μ) × Shelf μ :=
  let missing := LoadError.noSatisfyingVersion a.scope a.key v.text s.versionTexts
  match s.position v with
  | .error _ => (.error missing, s)
  | .ok i =>
    match s.entries[i]? with
    | none => (.error missing, s)
    | some e => (e.load, s.called i e)

/-- How a shelf answers a request. -/
def answer (s : Shelf μ) (q : Request μ) : Answer μ :=
  match s.plan q with
  | .reply result => { result, shelf := s }
  | .enter v settles warnings =>
    let entered := (s.settle settles v).enter q.address v
    { result := entered.1, shelf := entered.2, warnings }

end Shelf

namespace Registry

theorem loadEntry_eq_enter {r : Registry μ} {a : Address} {s : Shelf μ} (v : Version)
    (hs : r.shelf? a = some s) :
    (r.loadEntry a v).1 = (s.enter a v).1 ∧ (r.loadEntry a v).2.warnings = r.warnings ∧
      ∀ b, (r.loadEntry a v).2.shelf? b = if b = a then some (s.enter a v).2 else r.shelf? b := by
  have hsame : ∀ b, r.shelf? b = if b = a then some s else r.shelf? b := by
    intro b
    split
    · rename_i hb
      rw [hb, hs]
    · rfl
  simp only [loadEntry, Shelf.enter, hs]
  cases s.position v with
  | error place => exact ⟨rfl, rfl, hsame⟩
  | ok i =>
    dsimp only
    cases s.entries[i]? with
    | none => exact ⟨rfl, rfl, hsame⟩
    | some e =>
      dsimp only [Entry.load, Shelf.called]
      cases e.factory with
      | error failure => exact ⟨rfl, rfl, hsame⟩
      | ok module => exact ⟨rfl, rfl, fun b => shelf?_setShelf ..⟩

theorem shelf?_prepare {r : Registry μ} {a : Address} {s : Shelf μ} (hs : r.shelf? a = some s)
    (v : Version) (settles : Bool) (warnings : List String) (b : Address) :
    (r.prepare a v settles warnings).shelf? b =
      if b = a then some (s.settle settles v) else r.shelf? b := by
  cases settles with
  | true =>
    rw [← shelf_of_shelf? hs]
    exact r.shelf?_setShelf a b { r.shelf a with activated := some v }
  | false =>
    split
    · rename_i hb
      rw [hb]
      exact hs
    · rfl

/-- A request is answered by the shelf of its address and leaves all others alone. -/
theorem resolve_eq_answer (r : Registry μ) (q : Request μ) :
    (r.resolve q).1 = ((r.shelf q.address).answer q).result ∧
    (r.resolve q).2.warnings = r.warnings ++ ((r.shelf q.address).answer q).warnings ∧
    ∀ b, (r.resolve q).2.shelf? b =
      if b = q.address then (r.shelf? b).map fun s => (s.answer q).shelf else r.shelf? b := by
  rw [resolve_eq_plan]
  cases hs : r.shelf? q.address with
  | none =>
    have hempty : r.shelf q.address = {} := by simp only [shelf, hs, Option.getD_none]
    have hplan : ({} : Shelf μ).plan q = .reply (useFallback q []) := rfl
    simp only [hempty, Shelf.answer, hplan, List.append_nil, true_and]
    intro b
    split
    · rename_i hb
      simp only [hb, hs, Option.map_none]
    · rfl
  | some s =>
    rw [shelf_of_shelf? hs]
    cases hplan : s.plan q with
    | reply result =>
      simp only [Shelf.answer, hplan, List.append_nil, true_and]
      intro b
      split
      · rename_i hb
        simp only [hb, hs, Option.map_some, hplan]
      · rfl
    | enter v settles warnings =>
      have hprepared := shelf?_prepare hs v settles warnings
      obtain ⟨hresult, hwarnings, hshelf⟩ :=
        loadEntry_eq_enter v (by rw [hprepared, if_pos rfl])
      simp only [Shelf.answer, hplan]
      refine ⟨hresult, by rw [hwarnings]; rfl, fun b => ?_⟩
      rw [hshelf]
      split
      · rename_i hb
        simp only [hb, hs, Option.map_some, hplan]
      · rename_i hb
        rw [hprepared, if_neg hb]

end Registry

/-! ## Shelves in order -/

namespace Shelf

/-- What the calls on a registry keep true of each of its shelves. -/
structure Ordered (s : Shelf μ) : Prop where
  ascending : s.Ascending
  activation : ∀ v, s.activated = some v → ∃ e ∈ s.entries, e.version.precedence v = .eq

theorem Ordered.empty : Ordered ({} : Shelf μ) where
  ascending := List.Pairwise.nil
  activation v h := by contradiction

/-- `e` is the highest of the entries that a request admits. -/
structure Highest (s : Shelf μ) (q : Request μ) (e : Entry μ) : Prop where
  registered : e ∈ s.entries
  accepted : q.accepts e.version = true
  highest : ∀ x ∈ s.entries, q.accepts x.version = true →
    x = e ∨ x.version.precedence e.version = .lt

/-- The ways in which a shelf in order decides on a request and answers it. -/
inductive Answered (s : Shelf μ) (q : Request μ) : Plan μ → Answer μ → Prop where
  /-- No activation applies and the highest entry that fits is entered. -/
  | highest (i : Nat) (e : Entry μ) (free : q.singleton = false ∨ s.activated = none)
      (place : s.entries[i]? = some e) (best : s.Highest q e) :
      Answered s q (.enter e.version q.singleton [])
        { result := e.load, shelf := (s.settle q.singleton e.version).called i e }
  /-- No activation applies and no entry fits. -/
  | unmatched (free : q.singleton = false ∨ s.activated = none)
      (rejects : ∀ e ∈ s.entries, q.accepts e.version = false) :
      Answered s q (.reply (Registry.useFallback q s.versionTexts))
        { result := Registry.useFallback q s.versionTexts, shelf := s }
  /-- A singleton gets the activated version, which fits. -/
  | agreed (i : Nat) (e : Entry μ) (active : Version) (singleton : q.singleton = true)
      (activated : s.activated = some active) (accepts : q.accepts active = true)
      (place : s.entries[i]? = some e) (same : e.version.precedence active = .eq) :
      Answered s q (.enter active false []) { result := e.load, shelf := s.called i e }
  /-- A lenient singleton gets the activated version with a warning, since it does not fit. -/
  | overruled (i : Nat) (e : Entry μ) (active : Version) (singleton : q.singleton = true)
      (activated : s.activated = some active) (rejects : q.accepts active = false)
      (lenient : q.strict = false) (place : s.entries[i]? = some e)
      (same : e.version.precedence active = .eq) :
      Answered s q (.enter active false [(Registry.conflict q active).message])
        { result := e.load, shelf := s.called i e,
          warnings := [(Registry.conflict q active).message] }
  /-- A strict singleton does not get the activated version, since it does not fit. -/
  | refused (active : Version) (singleton : q.singleton = true)
      (activated : s.activated = some active) (rejects : q.accepts active = false)
      (strict : q.strict = true) :
      Answered s q (.reply (s.refusal q active)) { result := s.refusal q active, shelf := s }

@[simp] theorem settle_entries (s : Shelf μ) (settles : Bool) (v : Version) :
    (s.settle settles v).entries = s.entries := by
  cases settles <;> rfl

theorem Ascending.settle {s : Shelf μ} (h : s.Ascending) (settles : Bool) (v : Version) :
    (s.settle settles v).Ascending := by
  unfold Ascending
  rw [settle_entries]
  exact h

@[simp] theorem called_activated (s : Shelf μ) (i : Nat) (e : Entry μ) :
    (s.called i e).activated = s.activated := by
  unfold called
  split <;> rfl

/-- A factory that fails leaves the shelf as it is, any other gets its entry marked. -/
theorem Ascending.called_cases {s : Shelf μ} (h : s.Ascending) {i : Nat} {e : Entry μ}
    (hplace : s.entries[i]? = some e) :
    ((∃ failure, e.factory = .error failure) ∧ s.called i e = s) ∨
      s.Put { e with loaded := true } (s.called i e) := by
  cases hfactory : e.factory with
  | error failure => exact Or.inl ⟨⟨failure, rfl⟩, by simp only [called, hfactory]⟩
  | ok module =>
    have hcalled : s.called i e = s.markLoaded i := by simp only [called, hfactory]
    rw [hcalled]
    exact Or.inr (hfactory ▸ h.put_markLoaded hplace)

theorem Ascending.enter_of_mem {s : Shelf μ} (h : s.Ascending) (a : Address) {v : Version}
    {e : Entry μ} (hmem : e ∈ s.entries) (hsame : e.version.precedence v = .eq) :
    ∃ i, s.entries[i]? = some e ∧ s.enter a v = (e.load, s.called i e) := by
  obtain ⟨i, hposition, hplace⟩ := place_of_get? ((h.get?_eq_some_iff v e).mpr ⟨hmem, hsame⟩)
  exact ⟨i, hplace, by simp only [enter, hposition, hplace]⟩

private theorem Ordered.answered_highest {s : Shelf μ} (h : s.Ordered) (q : Request μ)
    (hfree : q.singleton = false ∨ s.activated = none) :
    s.Answered q (s.plan q) (s.answer q) := by
  unfold answer
  rw [plan_of_free hfree, planHighest]
  cases hpick : s.highestMatching? q.range with
  | none => exact .unmatched hfree ((s.highestMatching?_eq_none_iff q.range).mp hpick)
  | some e =>
    obtain ⟨hmem, haccepts, hhighest⟩ := h.ascending.highestMatching?_spec hpick
    obtain ⟨i, hplace, henter⟩ := (h.ascending.settle q.singleton e.version).enter_of_mem q.address
      (by rwa [settle_entries]) (Version.precedence_self _)
    rw [settle_entries] at hplace
    simp only [henter]
    exact .highest i e hfree hplace ⟨hmem, haccepts, hhighest⟩

/-- A shelf in order answers a request in one of five ways. -/
theorem Ordered.answered {s : Shelf μ} (h : s.Ordered) (q : Request μ) :
    s.Answered q (s.plan q) (s.answer q) := by
  cases hactive : s.activated with
  | none =>
    exact h.answered_highest q (Or.inr hactive)
  | some active =>
    cases hsingleton : q.singleton with
    | false =>
      exact h.answered_highest q (Or.inl hsingleton)
    | true =>
      obtain ⟨e, hmem, hsame⟩ := h.activation active hactive
      obtain ⟨i, hplace, henter⟩ := h.ascending.enter_of_mem q.address hmem hsame
      unfold answer
      rw [plan_of_activated hsingleton hactive, planActive]
      cases haccepts : q.accepts active with
      | true =>
        simp only [if_true, settle, Bool.false_eq_true, if_false, henter]
        exact .agreed i e active hsingleton hactive haccepts hplace hsame
      | false =>
        cases hstrict : q.strict with
        | true => exact .refused active hsingleton hactive haccepts hstrict
        | false =>
          simp only [settle, Bool.false_eq_true, if_false, henter]
          exact .overruled i e active hsingleton hactive haccepts hstrict hplace hsame

/-- The version that is entered is registered. -/
theorem Answered.mem_of_enter {s : Shelf μ} {q : Request μ} {answer : Answer μ} {v : Version}
    {settles : Bool} {warnings : List String}
    (hanswered : s.Answered q (.enter v settles warnings) answer) :
    ∃ e ∈ s.entries, e.version.precedence v = .eq := by
  cases hanswered with
  | highest i e _ hplace => exact ⟨e, List.mem_of_getElem? hplace, Version.precedence_self _⟩
  | agreed i e _ _ _ _ hplace hsame => exact ⟨e, List.mem_of_getElem? hplace, hsame⟩
  | overruled i e _ _ _ _ _ hplace hsame => exact ⟨e, List.mem_of_getElem? hplace, hsame⟩

end Shelf

end ModuleSharing
