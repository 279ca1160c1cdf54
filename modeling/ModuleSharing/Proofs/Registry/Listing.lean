import Mathlib.Data.List.Induction
import ModuleSharing.Registry.Snapshot
import ModuleSharing.Proofs.Sequence
import ModuleSharing.Proofs.Registry.EntryHistory

/-! What a snapshot loads to.  The versions listed for an address are registered on a shelf that is
empty before, so of those that equal each other the last one stays
(`Registry.listed_of_registerListed`).  A snapshot loads exactly if what it lists for each address
does (`ListedKey.Legal`), and then the shelf of an address holds what is listed for it
(`ListedKey.Stocked`). -/

namespace ModuleSharing

open Json

/-! ## Listed versions -/

/-- The entry that a listed version stands for, once its text is read. -/
def ListedVersion.entry (l : ListedVersion) (key : String) (v : Version) : Entry Json :=
  ⟨v, l.origin, l.eager, false, .ok (l.module key)⟩

/-- `l` reads as `v`, and no version that is listed after it equals `v` in precedence. -/
def Latest (ls : List ListedVersion) (l : ListedVersion) (v : Version) : Prop :=
  ∃ front back, ls = front ++ l :: back ∧ Version.parse l.version = .ok v ∧
    ∀ x ∈ back, ∀ w, Version.parse x.version = .ok w → w.precedence v ≠ .eq

theorem not_latest_nil (l : ListedVersion) (v : Version) : ¬ Latest [] l v := by
  rintro ⟨front, back, hnil, _⟩
  simp at hnil

/-- A version that is listed last replaces those that equal it. -/
theorem latest_concat_iff {ls : List ListedVersion} {x : ListedVersion} {w : Version}
    (hx : Version.parse x.version = .ok w) (l : ListedVersion) (v : Version) :
    Latest (ls ++ [x]) l v ↔
      (l = x ∧ v = w) ∨ (Latest ls l v ∧ v.precedence w ≠ .eq) := by
  constructor
  · rintro ⟨front, back, hlist, hl, hlast⟩
    rcases List.eq_nil_or_concat back with rfl | ⟨back, y, rfl⟩
    · obtain ⟨_, hxl⟩ := List.append_inj' hlist rfl
      obtain rfl : x = l := by simpa using hxl
      exact Or.inl ⟨rfl, Except.ok.inj (hl.symm.trans hx)⟩
    · have hsplit : ls ++ [x] = (front ++ l :: back) ++ [y] := by simpa using hlist
      obtain ⟨hls, hxy⟩ := List.append_inj' hsplit rfl
      obtain rfl : x = y := by simpa using hxy
      refine Or.inr ⟨⟨front, back, hls, hl, fun z hz => hlast z (by simp [hz])⟩, fun heq => ?_⟩
      exact hlast x (by simp) w hx (Std.OrientedCmp.eq_symm heq)
  · rintro (⟨rfl, rfl⟩ | ⟨⟨front, back, rfl, hl, hlast⟩, hne⟩)
    · exact ⟨ls, [], rfl, hx, by simp⟩
    · refine ⟨front, back ++ [x], by simp, hl, fun z hz u hu => ?_⟩
      rcases List.mem_append.mp hz with hz | hz
      · exact hlast z hz u hu
      · obtain rfl := List.mem_singleton.mp hz
        obtain rfl : u = w := Except.ok.inj (hu.symm.trans hx)
        exact fun heq => hne (Std.OrientedCmp.eq_symm heq)

/-- Every version that is listed is equal to one that is listed last. -/
theorem exists_latest {ls : List ListedVersion}
    (hreads : ∀ l ∈ ls, ∃ v, Version.parse l.version = .ok v) {l : ListedVersion} (hl : l ∈ ls)
    {v : Version} (hv : Version.parse l.version = .ok v) :
    ∃ l' v', Latest ls l' v' ∧ v'.precedence v = .eq := by
  induction ls using List.reverseRecOn with
  | nil => contradiction
  | append_singleton ls x ih =>
    obtain ⟨w, hx⟩ := hreads x (by simp)
    by_cases hw : w.precedence v = .eq
    · exact ⟨x, w, (latest_concat_iff hx x w).mpr (Or.inl ⟨rfl, rfl⟩), hw⟩
    · rcases List.mem_append.mp hl with hl | hl
      · obtain ⟨l', v', hlatest, heq⟩ := ih (fun y hy => hreads y (by simp [hy])) hl
        refine ⟨l', v', (latest_concat_iff hx l' v').mpr (Or.inr ⟨hlatest, ?_⟩), heq⟩
        intro hsame
        apply hw
        rw [← Version.precedence_congr_left hsame, heq]
      · obtain rfl := List.mem_singleton.mp hl
        obtain rfl : v = w := Except.ok.inj (hv.symm.trans hx)
        exact absurd (Version.precedence_self v) hw

namespace Registry

theorem registerListed_cons_eq_ok_iff (a : Address) (r r' : Registry Json) (l : ListedVersion)
    (ls : List ListedVersion) :
    registerListed a r (l :: ls) = .ok r' ↔ ∃ v, Version.parse l.version = .ok v ∧
      registerListed a (r.register a v l.origin (.ok (l.module a.key)) l.eager) ls = .ok r' := by
  change ((Version.parse l.version).mapError LoadError.malformed >>= fun v =>
    registerListed a (r.register a v l.origin (.ok (l.module a.key)) l.eager) ls) = .ok r' ↔ _
  simp only [bind_eq_ok_iff, mapError_eq_ok_iff]

theorem registerListed_concat_eq_ok_iff (a : Address) (r r' : Registry Json)
    (ls : List ListedVersion) (l : ListedVersion) :
    registerListed a r (ls ++ [l]) = .ok r' ↔ ∃ between v, registerListed a r ls = .ok between ∧
      Version.parse l.version = .ok v ∧
      r' = between.register a v l.origin (.ok (l.module a.key)) l.eager := by
  induction ls generalizing r with
  | nil =>
    rw [List.nil_append, registerListed_cons_eq_ok_iff]
    simp [registerListed, eq_comm]
  | cons x ls ih =>
    simp only [List.cons_append, registerListed_cons_eq_ok_iff, ih]
    constructor
    · rintro ⟨w, hw, between, v, hbetween, hv, rfl⟩
      exact ⟨between, v, ⟨w, hw, hbetween⟩, hv, rfl⟩
    · rintro ⟨between, v, ⟨w, hw, hbetween⟩, hv, rfl⟩
      exact ⟨w, hw, between, v, hbetween, hv, rfl⟩

theorem exists_registerListed_iff (a : Address) (r : Registry Json) (ls : List ListedVersion) :
    (∃ r', registerListed a r ls = .ok r') ↔ ∀ l ∈ ls, ∃ v, Version.parse l.version = .ok v := by
  induction ls generalizing r with
  | nil => simp [registerListed]
  | cons l ls ih =>
    simp only [registerListed_cons_eq_ok_iff, List.forall_mem_cons]
    constructor
    · rintro ⟨r', v, hv, hrest⟩
      exact ⟨⟨v, hv⟩, (ih _).mp ⟨r', hrest⟩⟩
    · rintro ⟨⟨v, hv⟩, hls⟩
      obtain ⟨r', hr'⟩ := (ih (r.register a v l.origin (.ok (l.module a.key)) l.eager)).mpr hls
      exact ⟨r', v, hv, hr'⟩

end Registry

/-! ## Listed keys -/

namespace ListedKey

/-- Every listed version can be read, and so can the activated one, which equals one of them. -/
structure Legal (k : ListedKey) : Prop where
  versions : ∀ l ∈ k.versions, ∃ v, Version.parse l.version = .ok v
  activated : ∀ text, k.activated = some text → ∃ v, Version.parse text = .ok v ∧
    ∃ l ∈ k.versions, ∃ w, Version.parse l.version = .ok w ∧ w.precedence v = .eq

/-- A shelf with what is listed for a key: of the versions that equal each other the last one, in
ascending precedence, and the activated version. -/
structure Stocked (k : ListedKey) (key : String) (s : Shelf Json) : Prop where
  ascending : s.entries.Pairwise fun e e' => e.version.precedence e'.version = .lt
  entries : ∀ e, e ∈ s.entries ↔ ∃ l v, Latest k.versions l v ∧ e = l.entry key v
  activated : ∀ v, s.activated = some v ↔
    ∃ text, k.activated = some text ∧ Version.parse text = .ok v

end ListedKey

namespace Registry

/-- Registering an entry where nothing is loaded yet. -/
theorem mem_register_of_unloaded {s : Shelf Json} (h : s.Ascending)
    (hunloaded : ∀ x ∈ s.entries, x.loaded = false) (e x : Entry Json) :
    x ∈ (s.register e).entries ↔
      x = e ∨ (x ∈ s.entries ∧ x.version.precedence e.version ≠ .eq) := by
  rcases h.register_cases e with ⟨y, hget, hloaded, _⟩ | ⟨_, hput⟩
  · rw [hunloaded y (Shelf.mem_of_get? hget).1] at hloaded
    contradiction
  · exact hput.mem_iff x

/-- What the registrations of some listed versions do to an address without entries. -/
structure Listed (r : Registry Json) (a : Address) (ls : List ListedVersion)
    (r' : Registry Json) : Prop where
  warnings : r'.warnings = r.warnings
  elsewhere : ∀ b, b ≠ a → r'.shelf? b = r.shelf? b
  present : (r'.shelf? a).isSome ↔ ls ≠ []
  ordered : (r'.shelf a).Ordered
  entries : ∀ e, e ∈ (r'.shelf a).entries ↔ ∃ l v, Latest ls l v ∧ e = l.entry a.key v
  inactive : (r'.shelf a).activated = none

theorem listed_of_registerListed {r r' : Registry Json} {a : Address}
    (hfresh : r.shelf? a = none) {ls : List ListedVersion}
    (h : registerListed a r ls = .ok r') : r.Listed a ls r' := by
  induction ls using List.reverseRecOn generalizing r' with
  | nil =>
    cases h
    have hempty : r.shelf a = {} := by simp only [shelf, hfresh, Option.getD_none]
    exact {
      warnings := rfl
      elsewhere := fun _ _ => rfl
      present := by simp [hfresh]
      ordered := hempty ▸ Shelf.Ordered.empty
      entries := fun e => by simp [hempty, not_latest_nil]
      inactive := by rw [hempty] }
  | append_singleton ls l ih =>
    obtain ⟨between, v, hbetween, hv, rfl⟩ := (registerListed_concat_eq_ok_iff a r r' ls l).mp h
    have hlisted := ih hbetween
    have hshelf : shelf (between.register a v l.origin (.ok (l.module a.key)) l.eager) a =
        (between.shelf a).register (l.entry a.key v) := by
      rw [shelf_register, if_pos rfl]
      rfl
    have hunloaded : ∀ x ∈ (between.shelf a).entries, x.loaded = false := fun x hx => by
      obtain ⟨_, _, _, rfl⟩ := (hlisted.entries x).mp hx
      rfl
    exact {
      warnings := hlisted.warnings
      elsewhere := fun b hb => by
        rw [← hlisted.elsewhere b hb, register, shelf?_setShelf, if_neg hb]
      present := by simp [register, shelf?_setShelf]
      ordered := by
        rw [hshelf]
        exact (hlisted.ordered.register _).2
      entries := fun e => by
        rw [hshelf, mem_register_of_unloaded hlisted.ordered.ascending hunloaded, hlisted.entries]
        simp only [latest_concat_iff hv]
        constructor
        · rintro (rfl | ⟨⟨l', v', hlatest, rfl⟩, hne⟩)
          · exact ⟨l, v, Or.inl ⟨rfl, rfl⟩, rfl⟩
          · exact ⟨l', v', Or.inr ⟨hlatest, hne⟩, rfl⟩
        · rintro ⟨l', v', ⟨rfl, rfl⟩ | ⟨hlatest, hne⟩, rfl⟩
          · exact Or.inl rfl
          · exact Or.inr ⟨⟨l', v', hlatest, rfl⟩, hne⟩
      inactive := by rw [hshelf, Shelf.register_activated, hlisted.inactive] }

theorem addKey_eq_ok_iff (r r' : Registry Json) (a : Address) (k : ListedKey) :
    r.addKey a k = .ok r' ↔ ∃ listed, registerListed a r k.versions = .ok listed ∧
      match k.activated with
      | none => r' = listed
      | some text => ∃ v, Version.parse text = .ok v ∧ listed.activate a v = (.ok (), r') := by
  unfold addKey
  rw [bind_eq_ok_iff]
  refine exists_congr fun listed => and_congr_right fun _ => ?_
  cases k.activated with
  | none => simp [eq_comm]
  | some text =>
    change ((Version.parse text).mapError LoadError.malformed >>= fun v =>
      (listed.activate a v).1 >>= fun _ => Except.ok (listed.activate a v).2) = .ok r' ↔ _
    simp only [bind_eq_ok_iff, mapError_eq_ok_iff, Except.ok.injEq]
    constructor
    · rintro ⟨v, hv, ⟨⟩, hactivated, rfl⟩
      exact ⟨v, hv, Prod.ext hactivated rfl⟩
    · rintro ⟨v, hv, hactivated⟩
      exact ⟨v, hv, (), by rw [hactivated], by rw [hactivated]⟩

/-- An activation succeeds if an equal version is registered and changes nothing else. -/
theorem activate_eq_ok_iff {r r' : Registry Json} {a : Address} (hs : (r.shelf a).Ascending)
    (v : Version) :
    r.activate a v = (.ok (), r') ↔
      (∃ e ∈ (r.shelf a).entries, e.version.precedence v = .eq) ∧
        r' = r.setShelf a { r.shelf a with activated := some v } := by
  unfold activate
  cases hshelf : r.shelf? a with
  | none => simp [shelf, hshelf]
  | some s =>
    rw [shelf_of_shelf? hshelf] at hs ⊢
    have hfound : (s.get? v).isSome ↔ ∃ e ∈ s.entries, e.version.precedence v = .eq := by
      simp only [Option.isSome_iff_exists, hs.get?_eq_some_iff]
    dsimp only
    rw [← hfound]
    split
    · rename_i hsome
      simp [hsome, eq_comm]
    · rename_i hnone
      simp [hnone]

/-- What is added for an address without entries, and what that says of the listed key. -/
structure Added (r : Registry Json) (a : Address) (k : ListedKey) (r' : Registry Json) : Prop where
  legal : k.Legal
  warnings : r'.warnings = r.warnings
  elsewhere : ∀ b, b ≠ a → r'.shelf? b = r.shelf? b
  present : (r'.shelf? a).isSome ↔ k.versions ≠ []
  stocked : k.Stocked a.key (r'.shelf a)

theorem added_of_addKey {r r' : Registry Json} {a : Address} (hfresh : r.shelf? a = none)
    {k : ListedKey} (h : r.addKey a k = .ok r') : r.Added a k r' := by
  obtain ⟨listed, hlisted, hactivate⟩ := (addKey_eq_ok_iff r r' a k).mp h
  have hreads := (exists_registerListed_iff a r k.versions).mp ⟨listed, hlisted⟩
  have hlisted := listed_of_registerListed hfresh hlisted
  cases hactivated : k.activated with
  | none =>
    rw [hactivated] at hactivate
    subst hactivate
    exact {
      legal := ⟨hreads, by simp [hactivated]⟩
      warnings := hlisted.warnings
      elsewhere := hlisted.elsewhere
      present := hlisted.present
      stocked := ⟨hlisted.ordered.ascending, hlisted.entries,
        by simp [hactivated, hlisted.inactive]⟩ }
  | some text =>
    rw [hactivated] at hactivate
    obtain ⟨v, hv, hactivate⟩ := hactivate
    obtain ⟨⟨e, he, hsame⟩, rfl⟩ := (activate_eq_ok_iff hlisted.ordered.ascending v).mp hactivate
    obtain ⟨l, w, hlatest, rfl⟩ := (hlisted.entries e).mp he
    obtain ⟨front, back, hversions, hw, _⟩ := hlatest
    have hpresent : k.versions ≠ [] := by simp [hversions]
    exact {
      legal := ⟨hreads, fun text' htext => by
        obtain rfl : text' = text := Option.some.inj (htext.symm.trans hactivated)
        exact ⟨v, hv, l, by simp [hversions], w, hw, hsame⟩⟩
      warnings := hlisted.warnings
      elsewhere := fun b hb => by rw [shelf?_setShelf, if_neg hb, hlisted.elsewhere b hb]
      present := by simp [shelf?_setShelf, hpresent]
      stocked := by
        rw [shelf_setShelf, if_pos rfl]
        refine ⟨hlisted.ordered.ascending, hlisted.entries, fun v' => ?_⟩
        simp only [hactivated, Option.some.injEq, exists_eq_left', hv, Except.ok.injEq] }

theorem exists_addKey {r : Registry Json} {a : Address} (hfresh : r.shelf? a = none)
    {k : ListedKey} (h : k.Legal) : ∃ r', r.addKey a k = .ok r' := by
  obtain ⟨listed, hregister⟩ := (exists_registerListed_iff a r k.versions).mpr h.versions
  have hlisted := listed_of_registerListed hfresh hregister
  cases hactivated : k.activated with
  | none => exact ⟨listed, (addKey_eq_ok_iff ..).mpr ⟨listed, hregister, by rw [hactivated]⟩⟩
  | some text =>
    obtain ⟨v, hv, l, hl, w, hw, hsame⟩ := h.activated text hactivated
    obtain ⟨l', w', hlatest, heq⟩ := exists_latest h.versions hl hw
    have hregistered : ∃ e ∈ (listed.shelf a).entries, e.version.precedence v = .eq :=
      ⟨l'.entry a.key w', (hlisted.entries _).mpr ⟨l', w', hlatest, rfl⟩,
        (Version.precedence_congr_left heq v).trans hsame⟩
    have hactivate := (activate_eq_ok_iff hlisted.ordered.ascending v).mpr ⟨hregistered, rfl⟩
    exact ⟨_, (addKey_eq_ok_iff ..).mpr ⟨listed, hregister, by
      rw [hactivated]
      exact ⟨v, hv, hactivate⟩⟩⟩

/-- A list of addresses that are all different and without entries. -/
theorem foldlM_addKey {listings : List (Address × ListedKey)}
    (hapart : listings.Pairwise fun p q => p.1 ≠ q.1) {r : Registry Json}
    (hfresh : ∀ p ∈ listings, r.shelf? p.1 = none) :
    ((∃ r', listings.foldlM (fun r (a, k) => r.addKey a k) r = .ok r') ↔
      ∀ p ∈ listings, p.2.Legal) ∧
    ∀ r', listings.foldlM (fun r (a, k) => r.addKey a k) r = .ok r' →
      r'.warnings = r.warnings ∧ (∀ b, (∀ p ∈ listings, b ≠ p.1) → r'.shelf? b = r.shelf? b) ∧
      ∀ p ∈ listings, ((r'.shelf? p.1).isSome ↔ p.2.versions ≠ []) ∧
        p.2.Stocked p.1.key (r'.shelf p.1) := by
  induction listings generalizing r with
  | nil =>
    refine ⟨⟨fun _ => by simp, fun _ => ⟨r, rfl⟩⟩, fun r' h => ?_⟩
    cases h
    exact ⟨rfl, fun _ _ => rfl, by simp⟩
  | cons p listings ih =>
    obtain ⟨a, k⟩ := p
    obtain ⟨hfirst, hrest⟩ := List.pairwise_cons.mp hapart
    have hfresha : r.shelf? a = none := hfresh (a, k) (List.mem_cons_self ..)
    have hfreshrest {between : Registry Json} (hadded : r.Added a k between) :
        ∀ p ∈ listings, between.shelf? p.1 = none := fun p hp => by
      rw [hadded.elsewhere p.1 (Ne.symm (hfirst p hp))]
      exact hfresh p (List.mem_cons_of_mem _ hp)
    simp only [List.foldlM_cons, bind_eq_ok_iff, List.forall_mem_cons]
    refine ⟨⟨?_, ?_⟩, ?_⟩
    · rintro ⟨r', between, hadd, hr'⟩
      have hadded := added_of_addKey hfresha hadd
      exact ⟨hadded.legal, (ih hrest (hfreshrest hadded)).1.mp ⟨r', hr'⟩⟩
    · rintro ⟨hlegal, hlegals⟩
      obtain ⟨between, hadd⟩ := exists_addKey hfresha hlegal
      have hadded := added_of_addKey hfresha hadd
      obtain ⟨r', hr'⟩ := (ih hrest (hfreshrest hadded)).1.mpr hlegals
      exact ⟨r', between, hadd, hr'⟩
    · rintro r' ⟨between, hadd, hr'⟩
      have hadded := added_of_addKey hfresha hadd
      obtain ⟨hwarnings, helsewhere, hstocked⟩ := (ih hrest (hfreshrest hadded)).2 r' hr'
      have hkept : r'.shelf? a = between.shelf? a := helsewhere a hfirst
      refine ⟨hwarnings.trans hadded.warnings, fun b ⟨hb, hbs⟩ => ?_, ⟨?_, ?_⟩, hstocked⟩
      · rw [helsewhere b hbs, hadded.elsewhere b hb]
      · rw [hkept]
        exact hadded.present
      · rw [shelf, hkept]
        exact hadded.stocked

/-! ## Histories that load a snapshot -/

theorem run_append (r : Registry Json) (calls later : List (Call Json)) :
    (r.run (calls ++ later)).2 = ((r.run calls).2.run later).2 := by
  induction calls generalizing r with
  | nil => rfl
  | cons c calls ih => exact ih _

theorem Reachable.perform {r : Registry Json} (h : r.Reachable) (c : Call Json) :
    (r.perform c).2.Reachable := by
  obtain ⟨calls, rfl⟩ := h
  exact ⟨calls ++ [c], run_append _ _ _⟩

/-- What registrations and activations keep is kept by adding a key. -/
theorem addKey_induction {P : Registry Json → Prop} {a : Address}
    (hregister : ∀ r (l : ListedVersion) v, P r → Version.parse l.version = .ok v →
      P (r.register a v l.origin (.ok (l.module a.key)) l.eager))
    (hactivate : ∀ r v, P r → P (r.activate a v).2) {r r' : Registry Json} {k : ListedKey}
    (hr : P r) (hadd : r.addKey a k = .ok r') : P r' := by
  have hregistered (ls : List ListedVersion) {r r' : Registry Json} (hr : P r)
      (hlisted : registerListed a r ls = .ok r') : P r' := by
    induction ls generalizing r with
    | nil =>
      cases hlisted
      exact hr
    | cons l ls ih =>
      obtain ⟨v, hv, hrest⟩ := (registerListed_cons_eq_ok_iff a r r' l ls).mp hlisted
      exact ih (hregister r l v hr hv) hrest
  obtain ⟨listed, hlisted, hactivated⟩ := (addKey_eq_ok_iff r r' a k).mp hadd
  cases htext : k.activated with
  | none =>
    rw [htext] at hactivated
    exact hactivated ▸ hregistered _ hr hlisted
  | some text =>
    rw [htext] at hactivated
    obtain ⟨v, _, hactivated⟩ := hactivated
    have hafter := hactivate listed v (hregistered _ hr hlisted)
    rwa [hactivated] at hafter

end Registry

end ModuleSharing
