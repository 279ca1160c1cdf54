import ModuleSharing.Proofs.Registry.Answer

/-! Every call keeps the shelves of a registry in order and none of them is empty
(`Registry.Sound`), hence so does every history that starts from the empty registry.  In such a
registry binary search is exact, and `loadEntry` is only called for versions it finds. -/

namespace ModuleSharing

variable {μ : Type}

/-! ## Calls -/

namespace Call

/-- The request of a call that loads a module. -/
def request? : Call μ → Option (Request μ)
  | register .. | provide .. | activate .. => none
  | resolve q => some q
  | invoke f a range fallback => some (Registry.loaderRequest f a range fallback)
  | load a fallback => some { address := a, fallback }
  | loadSingleton a fallback => some { address := a, singleton := true, fallback }
  | loadVersionCheck a range fallback => some { address := a, range := some range, fallback }
  | loadStrictVersionCheck a range fallback =>
    some { address := a, range := some range, strict := true, fallback }
  | loadSingletonVersionCheck a range fallback =>
    some { address := a, range := some range, singleton := true, fallback }
  | loadStrictSingletonVersionCheck a range fallback =>
    some { address := a, range := some range, singleton := true, strict := true, fallback }

/-- What a call comes to: a registration, an activation or the answer to a request. -/
inductive Kind (c : Call μ) : Prop where
  | registers (version : Version) (origin : String) (factory : Factory μ) (eager : Bool)
      (performed : ∀ r : Registry μ,
        r.perform c = (.registered, r.register c.address version origin factory eager))
  | activates (version : Version) (call : c = .activate c.address version)
  | loads (q : Request μ) (request : c.request? = some q) (address : q.address = c.address)
      (performed : ∀ r : Registry μ, r.perform c = (.loaded (r.resolve q).1, (r.resolve q).2))

theorem kind (c : Call μ) : c.Kind := by
  cases c with
  | register a version origin factory eager =>
    exact .registers version origin factory eager fun _ => rfl
  | provide a version factory eager => exact .registers version "" factory eager fun _ => rfl
  | activate a version => exact .activates version rfl
  | _ => exact .loads _ rfl rfl fun _ => rfl

end Call

/-! ## Shelves -/

namespace Shelf

theorem Ordered.put {s s' : Shelf μ} {y : Entry μ} (h : s.Ordered) (hput : s.Put y s')
    (hactivated : s'.activated = s.activated) : s'.Ordered := by
  refine ⟨hput.ascending h.ascending, fun v hv => ?_⟩
  obtain ⟨e, hmem, hsame⟩ := h.activation v (hactivated ▸ hv)
  by_cases hy : e.version.precedence y.version = .eq
  · refine ⟨y, (hput.mem_iff y).mpr (Or.inl rfl), ?_⟩
    rwa [← Version.precedence_congr_left hy]
  · exact ⟨e, (hput.mem_iff e).mpr (Or.inr ⟨hmem, hy⟩), hsame⟩

theorem Put.ne_nil {s s' : Shelf μ} {y : Entry μ} (hput : s.Put y s') : s'.entries ≠ [] :=
  List.ne_nil_of_mem ((hput.mem_iff y).mpr (Or.inl rfl))

theorem Ordered.register {s : Shelf μ} (h : s.Ordered) (e : Entry μ) :
    (s.register e).entries ≠ [] ∧ (s.register e).Ordered := by
  rcases h.ascending.register_cases e with ⟨x, hget, _, hkept⟩ | ⟨_, hput⟩
  · rw [hkept]
    exact ⟨List.ne_nil_of_mem (mem_of_get? hget).1, h⟩
  · exact ⟨hput.ne_nil, h.put hput (s.register_activated e)⟩

theorem Ordered.settle {s : Shelf μ} (h : s.Ordered) (settles : Bool) {v : Version} {e : Entry μ}
    (hmem : e ∈ s.entries) (hsame : e.version.precedence v = .eq) :
    (s.settle settles v).Ordered := by
  refine ⟨h.ascending.settle settles v, fun w hw => ?_⟩
  rw [settle_entries]
  cases settles with
  | false => exact h.activation w hw
  | true =>
    cases hw
    exact ⟨e, hmem, hsame⟩

theorem Ordered.called {s : Shelf μ} (h : s.Ordered) {i : Nat} {e : Entry μ}
    (hplace : s.entries[i]? = some e) : (s.called i e).entries ≠ [] ∧ (s.called i e).Ordered := by
  rcases h.ascending.called_cases hplace with ⟨_, hkept⟩ | hput
  · rw [hkept]
    exact ⟨List.ne_nil_of_mem (List.mem_of_getElem? hplace), h⟩
  · exact ⟨hput.ne_nil, h.put hput (s.called_activated i e)⟩

theorem Answered.ordered {s : Shelf μ} {q : Request μ} {plan : Plan μ} {answer : Answer μ}
    (hanswered : s.Answered q plan answer) (h : s.Ordered) (hne : s.entries ≠ []) :
    answer.shelf.entries ≠ [] ∧ answer.shelf.Ordered := by
  cases hanswered with
  | highest i e _ hplace hbest =>
    have hsettled := h.settle q.singleton hbest.registered (Version.precedence_self _)
    exact hsettled.called (by rwa [settle_entries])
  | unmatched => exact ⟨hne, h⟩
  | agreed i e _ _ _ _ hplace => exact h.called hplace
  | overruled i e _ _ _ _ _ hplace => exact h.called hplace
  | refused => exact ⟨hne, h⟩

end Shelf

/-! ## Registries -/

namespace Registry

/-- Every shelf holds an entry, and all shelves are in order. -/
def Sound (r : Registry μ) : Prop := ∀ a s, r.shelf? a = some s → s.entries ≠ [] ∧ s.Ordered

theorem Sound.shelf {r : Registry μ} (h : r.Sound) (a : Address) : (r.shelf a).Ordered := by
  unfold Registry.shelf
  cases hs : r.shelf? a with
  | none => exact Shelf.Ordered.empty
  | some s => exact (h a s hs).2

theorem sound_empty : (empty : Registry μ).Sound := by
  intro a s hs
  contradiction

theorem Sound.setShelf {r : Registry μ} (h : r.Sound) (a : Address) {s : Shelf μ}
    (hs : s.entries ≠ [] ∧ s.Ordered) : (r.setShelf a s).Sound := by
  intro b t ht
  rw [shelf?_setShelf] at ht
  split at ht
  · cases ht
    exact hs
  · exact h b t ht

theorem shelf_setShelf (r : Registry μ) (a b : Address) (s : Shelf μ) :
    (r.setShelf a s).shelf b = if b = a then s else r.shelf b := by
  simp only [Registry.shelf, shelf?_setShelf]
  split <;> rfl

theorem shelf_resolve (r : Registry μ) (q : Request μ) (b : Address) :
    (r.resolve q).2.shelf b =
      if b = q.address then ((r.shelf b).answer q).shelf else r.shelf b := by
  simp only [Registry.shelf, (resolve_eq_answer r q).2.2 b]
  split
  · cases r.shelf? b <;> rfl
  · rfl

theorem shelf_register (r : Registry μ) (a b : Address) (version : Version)
    (origin : String) (factory : Factory μ) (eager : Bool) :
    (r.register b version origin factory eager).shelf a =
      if a = b then (r.shelf b).register ⟨version, origin, eager, false, factory⟩
      else r.shelf a := by
  rw [register, shelf_setShelf]
  rfl

theorem activate_cases (r : Registry μ) (b : Address) (v : Version) :
    (r.activate b v).2 = r ∨
      ((r.activate b v).1 = .ok () ∧ ∀ a, a ≠ b → (r.activate b v).2.shelf a = r.shelf a) := by
  unfold activate
  split
  · exact Or.inl rfl
  · split
    · refine Or.inr ⟨rfl, fun a ha => ?_⟩
      rw [shelf_setShelf, if_neg ha]
    · exact Or.inl rfl

theorem Sound.register {r : Registry μ} (h : r.Sound) (a : Address) (version : Version)
    (origin : String) (factory : Factory μ) (eager : Bool) :
    (r.register a version origin factory eager).Sound :=
  h.setShelf a ((h.shelf a).register _)

theorem Sound.activate {r : Registry μ} (h : r.Sound) (a : Address) (v : Version) :
    (r.activate a v).2.Sound := by
  unfold Registry.activate
  split
  · exact h
  · rename_i s hs
    obtain ⟨hne, hordered⟩ := h a s hs
    split
    · rename_i hregistered
      obtain ⟨e, he⟩ := Option.isSome_iff_exists.mp hregistered
      obtain ⟨hmem, hsame⟩ := Shelf.mem_of_get? he
      exact h.setShelf a ⟨hne, hordered.settle true hmem hsame⟩
    · exact h

theorem Sound.resolve {r : Registry μ} (h : r.Sound) (q : Request μ) : (r.resolve q).2.Sound := by
  intro b t ht
  rw [(resolve_eq_answer r q).2.2 b] at ht
  split at ht
  · obtain ⟨s, hs, rfl⟩ := Option.map_eq_some_iff.mp ht
    obtain ⟨hne, hordered⟩ := h b s hs
    exact (hordered.answered q).ordered hordered hne
  · exact h b t ht

theorem Sound.perform {r : Registry μ} (h : r.Sound) (c : Call μ) : (r.perform c).2.Sound := by
  cases c.kind with
  | registers version origin factory eager hperformed =>
    rw [hperformed]
    exact h.register _ _ _ _ _
  | activates version hcall =>
    rw [hcall]
    exact h.activate _ _
  | loads q _ _ hperformed =>
    rw [hperformed]
    exact h.resolve q

theorem Sound.run {r : Registry μ} (h : r.Sound) (calls : List (Call μ)) :
    (r.run calls).2.Sound := by
  induction calls generalizing r with
  | nil => exact h
  | cons c calls ih => exact ih (h.perform c)

/-- The registries that a history leads to from the empty one. -/
def Reachable (r : Registry μ) : Prop := ∃ calls, (empty.run calls).2 = r

theorem Reachable.sound {r : Registry μ} (h : r.Reachable) : r.Sound := by
  obtain ⟨calls, rfl⟩ := h
  exact sound_empty.run calls

/-- `loadEntry` gets to a factory: the shelf exists and the search finds an entry on it. -/
def Finds (r : Registry μ) (a : Address) (v : Version) : Prop :=
  ∃ s i e, r.shelf? a = some s ∧ s.position v = .ok i ∧ s.entries[i]? = some e

theorem Sound.finds_of_plan {r : Registry μ} (h : r.Sound) {q : Request μ} {v : Version}
    {settles : Bool} {warnings : List String}
    (hplan : (r.shelf q.address).plan q = .enter v settles warnings) :
    (r.prepare q.address v settles warnings).Finds q.address v := by
  have hanswered := (h.shelf q.address).answered q
  rw [hplan] at hanswered
  obtain ⟨e, hmem, hsame⟩ := hanswered.mem_of_enter
  cases hs : r.shelf? q.address with
  | none => simp [Registry.shelf, hs] at hmem
  | some s =>
    rw [shelf_of_shelf? hs] at hmem
    have hsettled := (h q.address s hs).2.ascending.settle settles v
    have hget := (hsettled.get?_eq_some_iff v e).mpr ⟨by rwa [Shelf.settle_entries], hsame⟩
    obtain ⟨i, hposition, hplace⟩ := Shelf.place_of_get? hget
    exact ⟨s.settle settles v, i, e, by rw [shelf?_prepare hs, if_pos rfl], hposition, hplace⟩

/-- After every history each shelf holds an entry, its entries strictly ascend, and the activated
version is registered.  Hence binary search finds a version exactly if one of equal precedence is
registered, and whenever a request leads to `loadEntry`, that gets to a factory. -/
theorem run_keeps_shelves (calls : List (Call μ)) :
    let r := (empty.run calls).2
    (∀ a s, r.shelf? a = some s →
      s.entries ≠ [] ∧ s.entries.Pairwise (fun e e' => e.version.precedence e'.version = .lt) ∧
      ∀ v, s.activated = some v → ∃ e ∈ s.entries, e.version.precedence v = .eq) ∧
    (∀ a s v, r.shelf? a = some s →
      (∀ i, s.position v = .ok i →
        ∃ e, s.entries[i]? = some e ∧ e.version.precedence v = .eq) ∧
      ((∃ i, s.position v = .ok i) ↔ ∃ e ∈ s.entries, e.version.precedence v = .eq)) ∧
    ∀ q, match (r.shelf q.address).plan q with
      | .reply result => r.resolve q = (result, r)
      | .enter v settles warnings =>
        r.resolve q = (r.prepare q.address v settles warnings).loadEntry q.address v ∧
          (r.prepare q.address v settles warnings).Finds q.address v := by
  intro r
  have hsound : r.Sound := sound_empty.run calls
  refine ⟨fun a s hs => ?_, fun a s v hs => ?_, fun q => ?_⟩
  · obtain ⟨hne, hordered⟩ := hsound a s hs
    exact ⟨hne, hordered.ascending, hordered.activation⟩
  · have hascending := (hsound a s hs).2.ascending
    refine ⟨fun i hi => Shelf.place_of_position hi, fun ⟨i, hi⟩ => ?_, fun ⟨e, hmem, hsame⟩ => ?_⟩
    · obtain ⟨e, hplace, hsame⟩ := Shelf.place_of_position hi
      exact ⟨e, List.mem_of_getElem? hplace, hsame⟩
    · obtain ⟨i, hi, _⟩ := Shelf.place_of_get? ((hascending.get?_eq_some_iff v e).mpr ⟨hmem, hsame⟩)
      exact ⟨i, hi⟩
  · cases hplan : (r.shelf q.address).plan q with
    | reply result => rw [resolve_eq_plan, hplan]
    | enter v settles warnings =>
      exact ⟨by rw [resolve_eq_plan, hplan], hsound.finds_of_plan hplan⟩

end Registry

end ModuleSharing
