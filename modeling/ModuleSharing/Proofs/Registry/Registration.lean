import ModuleSharing.Registry.Trace
import ModuleSharing.Proofs.Registry.EntryHistory

/-! The order of registrations does not matter.  A shelf in order is known by what is found for each
version (`Shelf.Ascending.ext`), and registrations of different versions answer to different
searches, so two of them commute.  A list of registrations that do not meet in address and version
gives the same registry in every order (`run_registrations_of_perm`). -/

namespace ModuleSharing

variable {μ : Type}

/-! ## Shelves -/

namespace Shelf

/-- Two shelves in order that find the same entries and have the same activation are equal. -/
theorem Ascending.ext {s s' : Shelf μ} (h : s.Ascending) (h' : s'.Ascending)
    (hfound : ∀ v, s.get? v = s'.get? v) (hactivated : s.activated = s'.activated) : s = s' := by
  have hmem (t : Shelf μ) (ht : t.Ascending) (e : Entry μ) :
      e ∈ t.entries ↔ t.get? e.version = some e := by
    rw [ht.get?_eq_some_iff]
    exact ⟨fun he => ⟨he, Version.precedence_self _⟩, fun he => he.1⟩
  have hentries : s.entries = s'.entries := by
    refine eq_of_ascending Version.precedence Entry.version h h' fun e => ?_
    rw [hmem s h, hmem s' h', hfound]
  cases s
  cases s'
  cases hentries
  cases hactivated
  rfl

/-- Registrations of versions that differ in precedence commute. -/
theorem Ordered.register_comm {s : Shelf μ} (h : s.Ordered) {e e' : Entry μ}
    (hapart : e.version.precedence e'.version ≠ .eq) :
    (s.register e).register e' = (s.register e').register e := by
  have hfirst := (h.register e).2
  have hsecond := (h.register e').2
  refine (hfirst.register e').2.ascending.ext (hsecond.register e).2.ascending (fun v => ?_)
    (by simp only [register_activated])
  simp only [hfirst.ascending.get?_register, hsecond.ascending.get?_register,
    h.ascending.get?_register]
  by_cases he : e.version.precedence v = .eq
  · have he' : e'.version.precedence v ≠ .eq := fun he' =>
      hapart (by rw [Version.precedence_congr_right he', he])
    simp [he, he']
  · simp [he]

end Shelf

/-! ## Registries -/

/-- Two calls that do not register versions of equal precedence for one address. -/
def Call.Apart (c c' : Call μ) : Prop :=
  ∀ x ∈ c.registration?, ∀ y ∈ c'.registration?,
    x.1 = y.1 → x.2.version.precedence y.2.version ≠ .eq

instance (c c' : Call μ) : Decidable (c.Apart c') :=
  inferInstanceAs <| Decidable <| ∀ x ∈ c.registration?, ∀ y ∈ c'.registration?,
    x.1 = y.1 → x.2.version.precedence y.2.version ≠ .eq

theorem Call.Apart.symm {c c' : Call μ} (h : c.Apart c') : c'.Apart c := by
  intro x hx y hy haddress heq
  exact h y hy x hx haddress.symm (Std.OrientedCmp.eq_symm heq)

namespace Registry

/-- Two registrations that are apart give the same registry in both orders. -/
theorem Sound.perform_comm {r : Registry μ} (h : r.Sound) (hindexed : r.Indexed) {c c' : Call μ}
    (hc : c.registration?.isSome) (hc' : c'.registration?.isSome) (hapart : c.Apart c') :
    ((r.perform c).2.perform c').2 = ((r.perform c').2.perform c).2 := by
  obtain ⟨⟨a, e⟩, hcall⟩ := Option.isSome_iff_exists.mp hc
  obtain ⟨⟨b, e'⟩, hcall'⟩ := Option.isSome_iff_exists.mp hc'
  refine ((hindexed.perform c).perform c').ext ((hindexed.perform c').perform c) (fun x => ?_) ?_
  · simp only [Call.perform_of_registration hcall, Call.perform_of_registration hcall',
      shelf?_setShelf, shelf_setShelf]
    by_cases hab : a = b
    · subst hab
      simp only [if_true, (h.shelf a).register_comm (hapart _ hcall _ hcall' rfl)]
      split <;> rfl
    · simp only [hab, Ne.symm hab, if_false]
      by_cases hx : x = b
      · subst hx
        simp [Ne.symm hab]
      · simp [hx]
  · simp only [Call.perform_of_registration hcall, Call.perform_of_registration hcall']
    rfl

theorem Sound.run_of_perm {r : Registry μ} (h : r.Sound) (hindexed : r.Indexed)
    {calls calls' : List (Call μ)} (hperm : calls.Perm calls')
    (hregister : ∀ c ∈ calls, c.registration?.isSome) (hapart : calls.Pairwise Call.Apart) :
    (r.run calls).2 = (r.run calls').2 := by
  induction hperm generalizing r with
  | nil => rfl
  | cons c _ ih =>
    exact ih (h.perform c) (hindexed.perform c)
      (fun x hx => hregister x (List.mem_cons_of_mem _ hx)) (List.Pairwise.of_cons hapart)
  | swap c c' calls =>
    have hpair : c'.Apart c := List.rel_of_pairwise_cons hapart (List.mem_cons_self ..)
    have hswap := h.perform_comm hindexed (hregister c' (List.mem_cons_self ..))
      (hregister c (List.mem_cons_of_mem _ (List.mem_cons_self ..))) hpair
    change (((r.perform c').2.perform c).2.run calls).2 =
      (((r.perform c).2.perform c').2.run calls).2
    rw [hswap]
  | trans hfirst _ ih ih' =>
    rw [ih h hindexed hregister hapart]
    exact ih' h hindexed (fun x hx => hregister x (hfirst.mem_iff.mpr hx))
      (hfirst.pairwise hapart fun hxy => hxy.symm)

/-- Registrations no two of which are for equal versions of one address lead from every registry to
the same one in whatever order they come, so whatever is asked later gets the same answers. -/
theorem run_registrations_of_perm {r : Registry μ} (h : r.Reachable) {calls calls' : List (Call μ)}
    (hregister : ∀ c ∈ calls, c.registration?.isSome) (hapart : calls.Pairwise Call.Apart)
    (hperm : calls.Perm calls') :
    (r.run calls).2 = (r.run calls').2 ∧
    ∀ later : List (Operation μ), (r.run calls).2.trace later = (r.run calls').2.trace later := by
  have hsame := h.sound.run_of_perm h.indexed hperm hregister hapart
  exact ⟨hsame, fun later => by rw [hsame]⟩

/-- Registrations for a registry whose release candidate is loaded: the first is ignored, the second
replaces an entry, the others add one. -/
def lateBundles : List (Call String) :=
  [.register react ⟨2, 0, 0, [.textual ['r', 'c']], ['b']⟩ "late" (.ok "again") false,
   .provide react ⟨1, 5, 0, [], ['f', 'i', 'x']⟩ (.ok "mended") true,
   .register react ⟨2, 0, 0, [.textual ['r', 'c'], .numeric 2], []⟩ "next" (.ok "two") false,
   .register vue ⟨1, 5, 0, [], []⟩ "shop" (.ok "vue") false]

theorem run_registrations_of_perm_lateBundles :
    let r := (empty.run (threeBundles ++ [.load react none])).2
    (∀ c ∈ lateBundles, c.registration?.isSome) ∧ lateBundles.Pairwise Call.Apart ∧
    (r.run lateBundles).2 = (r.run lateBundles.reverse).2 ∧
    (r.run lateBundles).2.versions react =
      [⟨1, 0, 0, [], []⟩, ⟨1, 5, 0, [], ['f', 'i', 'x']⟩, ⟨2, 0, 0, [.textual ['r', 'c']], []⟩,
       ⟨2, 0, 0, [.textual ['r', 'c'], .numeric 2], []⟩] := by
  intro r
  have hregister : ∀ c ∈ lateBundles, c.registration?.isSome := by decide
  have hapart : lateBundles.Pairwise Call.Apart := by decide
  have hreachable : r.Reachable := ⟨_, rfl⟩
  exact ⟨hregister, hapart, (run_registrations_of_perm hreachable hregister hapart
    (List.reverse_perm _).symm).1, by decide⟩

end Registry

end ModuleSharing
