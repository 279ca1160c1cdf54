import ModuleSharing.Proofs.Registry.Resolution
import ModuleSharing.Proofs.Registry.Session

/-! Singletons agree.  A singleton that is answered from the registry leaves the entry of the
activated version loaded (`Shelf.Pinned`).  A loaded entry is never replaced and an activated version
changes by an activation only, so until then every singleton gets the module of that entry. -/

namespace ModuleSharing

/-! ## Pinned shelves -/

namespace Shelf

variable {μ : Type} {s s' : Shelf μ} {l l' : Loaded μ}

/-- The entry of the activated version was loaded and yields `l`. -/
def Pinned (s : Shelf μ) (l : Loaded μ) : Prop :=
  ∃ active e, s.activated = some active ∧ s.get? active = some e ∧ e.loaded = true ∧ e.load = .ok l

theorem Pinned.unique (h : s.Pinned l) (h' : s.Pinned l') : l = l' := by
  obtain ⟨active, e, hactive, hget, _, hload⟩ := h
  obtain ⟨active', e', hactive', hget', _, hload'⟩ := h'
  rw [hactive, Option.some.injEq] at hactive'
  rw [← hactive', hget, Option.some.injEq] at hget'
  rw [← hget', hload, Except.ok.injEq] at hload'
  exact hload'

/-- Only an entry that would replace the loaded one by another can unpin a shelf. -/
theorem Pinned.put (h : s.Pinned l) (hs : s.Ascending) {y : Entry μ} (hput : s.Put y s')
    (hactivated : s'.activated = s.activated)
    (hkeeps : ∀ x, s.get? y.version = some x → x.loaded = true →
      y.loaded = true ∧ y.load = x.load) : s'.Pinned l := by
  obtain ⟨active, e, hactive, hget, hloaded, hload⟩ := h
  by_cases hy : y.version.precedence active = .eq
  · rw [← s.get?_congr hy] at hget
    obtain ⟨hyloaded, hyload⟩ := hkeeps e hget hloaded
    exact ⟨active, y, hactivated.trans hactive, by rw [hput.get? hs, if_pos hy], hyloaded,
      hyload.trans hload⟩
  · exact ⟨active, e, hactivated.trans hactive, by rw [hput.get? hs, if_neg hy, hget], hloaded,
      hload⟩

theorem Pinned.register (h : s.Pinned l) (hs : s.Ascending) (e : Entry μ) :
    (s.register e).Pinned l := by
  rcases hs.register_cases e with ⟨_, _, _, hkept⟩ | ⟨hunloaded, hput⟩
  · rwa [hkept]
  · refine h.put hs hput (s.register_activated e) fun x hget hloaded => ?_
    rw [hunloaded x hget] at hloaded
    contradiction

theorem Pinned.called (h : s.Pinned l) (hs : s.Ascending) {i : Nat} {e : Entry μ}
    (hplace : s.entries[i]? = some e) : (s.called i e).Pinned l := by
  rcases hs.called_cases hplace with ⟨_, hkept⟩ | hput
  · rwa [hkept]
  · refine h.put hs hput (s.called_activated i e) fun x hget _ => ⟨rfl, ?_⟩
    have hfound : s.get? e.version = some e :=
      (hs.get?_eq_some_iff e.version e).mpr
        ⟨List.mem_of_getElem? hplace, Version.precedence_self _⟩
    have hx : e = x := Option.some.inj (hfound.symm.trans hget)
    rw [← hx]
    rfl

/-- Whatever a pinned shelf is asked, it stays pinned. -/
theorem Answered.pinned {q : Request μ} {plan : Plan μ} {answer : Answer μ}
    (hanswered : s.Answered q plan answer) (hs : s.Ascending) (h : s.Pinned l) :
    answer.shelf.Pinned l := by
  cases hanswered with
  | highest i e hfree hplace =>
    -- the shelf has an activated version, so the request is no singleton and settles nothing
    obtain ⟨active, _, hactive, _⟩ := id h
    have hother : q.singleton = false := by simpa [hactive] using hfree
    rw [hother]
    exact h.called hs hplace
  | unmatched => exact h
  | agreed i e _ _ _ _ hplace => exact h.called hs hplace
  | overruled i e _ _ _ _ _ hplace => exact h.called hs hplace
  | refused => exact h

theorem pinned_called (hs : s.Ascending) {i : Nat} {e : Entry μ} {active : Version}
    (hplace : s.entries[i]? = some e) (hactive : s.activated = some active)
    (hsame : e.version.precedence active = .eq) (hload : e.load = .ok l) :
    (s.called i e).Pinned l := by
  rcases hs.called_cases hplace with ⟨⟨failure, hfailed⟩, _⟩ | hput
  · simp [Entry.load, hfailed, Except.map] at hload
  · exact ⟨active, { e with loaded := true }, (s.called_activated i e).trans hactive,
      by rw [hput.get? hs, if_pos hsame], rfl, hload⟩

/-- A singleton that is answered from the shelf pins it. -/
theorem Answered.pinned_of_shared {q : Request μ} {plan : Plan μ} {answer : Answer μ}
    (hanswered : s.Answered q plan answer) (hs : s.Ascending) (hsingleton : q.singleton = true)
    {v : Version} {origin : String} {module : μ}
    (hresult : answer.result = .ok ⟨.shared v origin, module⟩) :
    answer.shelf.Pinned ⟨.shared v origin, module⟩ := by
  cases hanswered with
  | highest i e _ hplace =>
    rw [hsingleton]
    exact pinned_called (hs.settle true e.version) (by rwa [settle_entries]) rfl
      (Version.precedence_self _) hresult
  | unmatched => exact absurd hresult (Registry.useFallback_ne_shared q _ v origin module)
  | agreed i e active _ hactive _ hplace hsame => exact pinned_called hs hplace hactive hsame hresult
  | overruled i e active _ hactive _ _ hplace hsame =>
    exact pinned_called hs hplace hactive hsame hresult
  | refused => exact absurd hresult (s.refusal_ne_shared q _ v origin module)

end Shelf

/-! ## Actions -/

/-- Whether a recorded action activated a version of an address. -/
def activates (a : Address) : Action × Outcome → Bool
  | (.call (.activate b _), .replied (.activated (.ok _))) => b == a
  | _ => false

/-- What the singletons of an address in a record got from the registry. -/
def singletons (a : Address) (record : List (Action × Outcome)) : List (Version × String × Json) :=
  record.filterMap fun (x, outcome) => if x.loadsSingleton a then outcome.shared? else none

theorem mem_singletons_cons {a : Address} {x : Action} {outcome : Outcome}
    {record : List (Action × Outcome)} {y : Version × String × Json}
    (hy : y ∈ singletons a ((x, outcome) :: record)) :
    (x.loadsSingleton a = true ∧ outcome.shared? = some y) ∨ y ∈ singletons a record := by
  simpa only [singletons, List.mem_filterMap, List.mem_cons, exists_eq_or_imp,
    Option.ite_none_right_eq_some] using hy

namespace Registry

theorem Sound.pinned_act {r : Registry Json} (h : r.Sound) {a : Address} {l : Loaded Json}
    (x : Action) (hquiet : activates a (x, (r.act x).1) = false) (hpinned : (r.shelf a).Pinned l) :
    ((r.act x).2.shelf a).Pinned l := by
  cases x.kind with
  | registers b version origin factory eager hacted =>
    rw [hacted, shelf_register]
    split
    · rename_i hab
      rw [hab] at hpinned
      exact hpinned.register (h.shelf b).ascending _
    · exact hpinned
  | activates b version haction =>
    rw [haction] at hquiet ⊢
    change ((r.activate b version).2.shelf a).Pinned l
    rcases r.activate_cases b version with hsame | ⟨hok, hothers⟩
    · rwa [hsame]
    · simp only [Registry.act, Registry.perform, activates, hok, beq_eq_false_iff_ne] at hquiet
      rwa [hothers a (Ne.symm hquiet)]
  | loads q _ hacted =>
    rw [(hacted r).1, shelf_resolve]
    split
    · exact ((h.shelf a).answered q).pinned (h.shelf a).ascending hpinned
    · exact hpinned
  | fails hacted =>
    rw [(hacted r).1]
    exact hpinned

theorem Sound.pinned_of_shared {r : Registry Json} (h : r.Sound) {a : Address} (x : Action)
    (hloads : x.loadsSingleton a = true) {y : Version × String × Json}
    (hshared : (r.act x).1.shared? = some y) :
    ∃ l, ((r.act x).2.shelf a).Pinned l ∧ l.shared? = some y := by
  cases x.kind with
  | registers b version origin factory eager hacted =>
    rw [hacted] at hshared
    contradiction
  | activates b version haction =>
    rw [haction] at hloads
    contradiction
  | loads q hsingleton hacted =>
    rw [hsingleton, Bool.and_eq_true, beq_iff_eq] at hloads
    obtain ⟨hq, rfl⟩ := hloads
    rw [(hacted r).2, (resolve_eq_answer r q).1, Option.bind_eq_some_iff] at hshared
    obtain ⟨l, hresult, hl⟩ := hshared
    obtain ⟨v, origin, module⟩ := y
    have hshape := (l.shared?_eq_some_iff v origin module).mp hl
    have hordered := h.shelf q.address
    refine ⟨l, ?_, hl⟩
    rw [(hacted r).1, shelf_resolve, if_pos rfl]
    rw [hshape] at hresult ⊢
    refine (hordered.answered q).pinned_of_shared hordered.ascending hq ?_
    revert hresult
    cases ((r.shelf q.address).answer q).result <;> simp [Except.toOption]
  | fails hacted =>
    rw [(hacted r).2] at hshared
    contradiction

/-! ## Sessions -/

theorem Sound.singletons_of_pinned {r : Registry Json} (h : r.Sound) {a : Address}
    {l : Loaded Json} (hpinned : (r.shelf a).Pinned l) (actions : List Action)
    (hquiet : ∀ p ∈ (r.session actions).1, activates a p = false) :
    ∀ y ∈ singletons a (r.session actions).1, l.shared? = some y := by
  induction actions generalizing r with
  | nil =>
    intro y hy
    contradiction
  | cons x actions ih =>
    rw [session_cons] at hquiet ⊢
    have hnext := h.pinned_act x (hquiet _ (List.mem_cons_self ..)) hpinned
    have hrest := ih (h.act x) hnext fun p hp => hquiet p (List.mem_cons_of_mem _ hp)
    intro y hy
    rcases mem_singletons_cons hy with ⟨hloads, hshared⟩ | hy
    · obtain ⟨l', hpinned', hl'⟩ := h.pinned_of_shared x hloads hshared
      rwa [hnext.unique hpinned']
    · exact hrest y hy

theorem Sound.singletons_agree {r : Registry Json} (h : r.Sound) {a : Address}
    (actions : List Action) (hquiet : ∀ p ∈ (r.session actions).1, activates a p = false) :
    ∀ y ∈ singletons a (r.session actions).1, ∀ z ∈ singletons a (r.session actions).1, y = z := by
  induction actions generalizing r with
  | nil =>
    intro y hy
    contradiction
  | cons x actions ih =>
    rw [session_cons] at hquiet ⊢
    have hrest : ∀ p ∈ ((r.act x).2.session actions).1, activates a p = false :=
      fun p hp => hquiet p (List.mem_cons_of_mem _ hp)
    -- once an action got `y` as a singleton, all that follows gets `y`
    have hfirst (y : Version × String × Json) (hloads : x.loadsSingleton a = true)
        (hshared : (r.act x).1.shared? = some y) :
        ∀ z ∈ singletons a ((r.act x).2.session actions).1, y = z := by
      obtain ⟨l, hpinned, hl⟩ := h.pinned_of_shared x hloads hshared
      intro z hz
      have hz' := (h.act x).singletons_of_pinned hpinned actions hrest z hz
      exact Option.some.inj (hl.symm.trans hz')
    intro y hy z hz
    rcases mem_singletons_cons hy with ⟨hloads, hshared⟩ | hy
    · rcases mem_singletons_cons hz with ⟨_, hshared'⟩ | hz
      · exact Option.some.inj (hshared.symm.trans hshared')
      · exact hfirst y hloads hshared z hz
    · rcases mem_singletons_cons hz with ⟨hloads, hshared⟩ | hz
      · exact (hfirst z hloads hshared y hy).symm
      · exact ih (h.act x) hrest y hy z hz

/-- In a stretch of a session without an activation for an address, all singletons of that address
that come from the registry get the same version, origin and module. -/
theorem singletons_agree_between_activations (a : Address) {actions : List Action}
    {before stretch after : List (Action × Outcome)}
    (hsession : (empty.session actions).1 = before ++ stretch ++ after)
    (hquiet : ∀ p ∈ stretch, activates a p = false) :
    ∀ y ∈ singletons a stretch, ∀ z ∈ singletons a stretch, y = z := by
  obtain ⟨first, _, _, hfirst, _⟩ := session_split hsession
  obtain ⟨prelude, middle, _, _, hmiddle⟩ := session_split hfirst
  subst hmiddle
  exact (sound_empty.session prelude).singletons_agree middle hquiet

/-- A module is mended after its first load failed, and then meets a newer version. -/
def mendedModule : List Action :=
  [.call (.register react ⟨1, 0, 0, [], []⟩ "host"
     (.error (.factoryFailed "default" "react" "offline")) false),
   .call (.loadSingleton react none),
   .call (.register react ⟨1, 0, 0, [], ['f', 'i', 'x']⟩ "shop" (.ok (.string "mended")) false),
   .call (.loadSingleton react none),
   .call (.register react ⟨2, 0, 0, [], []⟩ "next" (.ok (.string "newer")) false),
   .simulate { address := react, range := some "^2", singleton := true },
   .call (.activate react ⟨2, 0, 0, [], []⟩),
   .call (.loadSingleton react none)]

theorem singletons_agree_mendedModule :
    let record := (empty.session mendedModule).1
    singletons react (record.take 6) =
      [(⟨1, 0, 0, [], ['f', 'i', 'x']⟩, "shop", .string "mended"),
       (⟨1, 0, 0, [], ['f', 'i', 'x']⟩, "shop", .string "mended")] ∧
    singletons react (record.drop 6) = [(⟨2, 0, 0, [], []⟩, "next", .string "newer")] ∧
    ∀ y ∈ singletons react (record.take 6), ∀ z ∈ singletons react (record.take 6), y = z := by
  intro record
  have hrecord : record = [] ++ record.take 6 ++ record.drop 6 := rfl
  have hagree := singletons_agree_between_activations react hrecord (by decide)
  exact ⟨rfl, rfl, hagree⟩

end Registry

end ModuleSharing
