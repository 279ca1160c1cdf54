import ModuleSharing.Registry.Trace
import ModuleSharing.Proofs.Registry.Listing

/-! A snapshot loads to exactly what it says (`Snapshot.toRegistry_stocks`).  Its addresses are all
different, so that each is added where nothing is registered yet. -/

namespace ModuleSharing

open Json

/-- The values of an object are what the decoder makes of its members. -/
theorem Json.Decoder.exists_of_members {α : Type} {dec : Decoder α} {d : Draft}
    {xs : List (String × α)} (h : Decoder.members dec d = .ok xs) :
    ∀ p ∈ xs, ∃ member, dec member = .ok p.2 := by
  intro p hp
  cases d with
  | object members flaw =>
    obtain ⟨read, hread, hrest⟩ := bind_eq_ok_iff.mp h
    obtain ⟨_, _, hxs⟩ := bind_eq_ok_iff.mp hrest
    cases hxs
    obtain ⟨member, _, hmember⟩ := exists_of_forall₂_right ((mapM_eq_ok_iff _ _ _).mp hread) hp
    obtain ⟨a, ha, hpair⟩ := bind_eq_ok_iff.mp hmember
    cases hpair
    exact ⟨member.2, ha⟩
  | _ => contradiction

namespace Snapshot

/-- What a snapshot lists for an address. -/
def listing? (s : Snapshot) (a : Address) : Option ListedKey :=
  (s.get? a.scope).bind fun keys => keys.get? a.key

/-- The scopes are in ascending order, and so are the keys of each. -/
structure Indexed (s : Snapshot) : Prop where
  scopes : Dictionary.Ascending s
  keys : ∀ p ∈ s.toList, p.2.Ascending

/-- Every snapshot that is read from a text is in order. -/
theorem indexed_of_parse {content : String} {s : Snapshot} (h : parse content = .ok s) :
    s.Indexed := by
  obtain ⟨s', hdecode, hs⟩ := bind_eq_ok_iff.mp h
  obtain rfl : s' = s := by
    split at hs
    · contradiction
    · exact Except.ok.inj hs
  obtain ⟨scopes, hscopes, rfl⟩ := map_eq_ok_iff.mp hdecode
  have hindexed := Dictionary.ascending_ofList scopes
  refine ⟨hindexed, fun p hp => ?_⟩
  have hlisted := Dictionary.mem_of_get?_ofList ((hindexed.mem_toList_iff ..).mp hp)
  obtain ⟨member, hmember⟩ := Decoder.exists_of_members hscopes _ hlisted
  obtain ⟨pairs, _, hkeys⟩ := map_eq_ok_iff.mp hmember
  exact hkeys ▸ Dictionary.ascending_ofList pairs

theorem mem_listings_iff {s : Snapshot} (h : s.Indexed) (a : Address) (k : ListedKey) :
    (a, k) ∈ s.listings ↔ s.listing? a = some k := by
  obtain ⟨scope, key⟩ := a
  simp only [listings, List.mem_flatMap, List.mem_map, Prod.exists, Prod.mk.injEq,
    Address.mk.injEq, listing?, Option.bind_eq_some_iff]
  constructor
  · rintro ⟨_, keys, hkeys, _, _, hk, ⟨rfl, rfl⟩, rfl⟩
    exact ⟨keys, (h.scopes.mem_toList_iff ..).mp hkeys, ((h.keys _ hkeys).mem_toList_iff ..).mp hk⟩
  · rintro ⟨keys, hscope, hkey⟩
    have hkeys := (h.scopes.mem_toList_iff ..).mpr hscope
    exact ⟨scope, keys, hkeys, key, k, ((h.keys _ hkeys).mem_toList_iff ..).mpr hkey, ⟨rfl, rfl⟩,
      rfl⟩

theorem listings_apart {s : Snapshot} (h : s.Indexed) :
    s.listings.Pairwise fun p q => p.1 ≠ q.1 := by
  have hne {α : Type} {d : Dictionary String α} (hd : d.Ascending) :
      d.toList.Pairwise fun p q => p.1 ≠ q.1 := by
    refine (List.pairwise_map.mp hd).imp fun {p q} hlt heq => ?_
    rw [heq, Std.compare_self] at hlt
    contradiction
  rw [listings, List.pairwise_flatMap]
  constructor
  · rintro ⟨scope, keys⟩ hmem
    refine List.pairwise_map.mpr ((hne (h.keys _ hmem)).imp fun {p q} hpq heq => hpq ?_)
    exact congrArg Address.key heq
  · refine (hne h.scopes).imp fun {p q} hpq x hx y hy heq => hpq ?_
    obtain ⟨_, _, rfl⟩ := List.mem_map.mp hx
    obtain ⟨_, _, rfl⟩ := List.mem_map.mp hy
    exact congrArg Address.scope heq

/-- What holds of the empty registry and is kept by registrations and activations holds of what a
snapshot loads to. -/
theorem toRegistry_induction {P : Registry Json → Prop} (hempty : P .empty)
    (hregister : ∀ r (a : Address) (l : ListedVersion) v, P r → Version.parse l.version = .ok v →
      P (r.register a v l.origin (.ok (l.module a.key)) l.eager))
    (hactivate : ∀ r a v, P r → P (r.activate a v).2) {s : Snapshot} {r : Registry Json}
    (h : s.toRegistry = .ok r) : P r := by
  have hfold (listings : List (Address × ListedKey)) {r r' : Registry Json} (hr : P r)
      (h : listings.foldlM (fun r p => r.addKey p.1 p.2) r = .ok r') : P r' := by
    induction listings generalizing r with
    | nil =>
      cases h
      exact hr
    | cons p listings ih =>
      rw [List.foldlM_cons] at h
      obtain ⟨between, hp, hrest⟩ := bind_eq_ok_iff.mp h
      exact ih (Registry.addKey_induction (hregister · p.1) (hactivate · p.1) hr hp) hrest
  exact hfold s.listings hempty h

/-- A snapshot leads to a registry that a history of calls leads to as well. -/
theorem reachable_toRegistry {s : Snapshot} {r : Registry Json} (h : s.toRegistry = .ok r) :
    r.Reachable :=
  toRegistry_induction ⟨[], rfl⟩
    (fun _ a l v hr _ => hr.perform (.register a v l.origin (.ok (l.module a.key)) l.eager))
    (fun _ a v hr => hr.perform (.activate a v)) h

theorem mem_scopes_iff (r : Registry Json) (scope : String) :
    scope ∈ r.scopes ↔ ∃ a, a.scope = scope ∧ (r.shelf? a).isSome := by
  unfold Registry.scopes
  rw [List.mem_eraseDups, List.mem_map]
  exact exists_congr fun a => by rw [Dictionary.mem_keys_iff, and_comm]; rfl

/-- A snapshot loads exactly if, for each address, every version text and the activated one can be
read and the activated version equals a listed one.  The registry then has a shelf for each address
with a version, and for no other, with what the snapshot lists there, and no warnings. -/
theorem toRegistry_stocks {s : Snapshot} (h : s.Indexed) :
    ((∃ r, s.toRegistry = .ok r) ↔ ∀ a k, s.listing? a = some k → k.Legal) ∧
    ∀ r, s.toRegistry = .ok r →
      r.warnings = [] ∧
      (∀ a, (r.shelf? a).isSome ↔ ∃ k, s.listing? a = some k ∧ k.versions ≠ []) ∧
      (∀ scope, scope ∈ r.scopes ↔
        ∃ a k, a.scope = scope ∧ s.listing? a = some k ∧ k.versions ≠ []) ∧
      ∀ a k, s.listing? a = some k → k.Stocked a.key (r.shelf a) := by
  have hempty : ∀ p ∈ s.listings, Registry.empty.shelf? (μ := Json) p.1 = none := fun _ _ => rfl
  obtain ⟨hloads, hloaded⟩ := Registry.foldlM_addKey (listings_apart h) hempty
  refine ⟨?_, fun r hr => ?_⟩
  · rw [toRegistry, hloads, Prod.forall]
    simp only [mem_listings_iff h]
  · obtain ⟨hwarnings, helsewhere, hstocked⟩ := hloaded r hr
    have hpresent (a : Address) :
        (r.shelf? a).isSome ↔ ∃ k, s.listing? a = some k ∧ k.versions ≠ [] := by
      cases hlisting : s.listing? a with
      | some k =>
        have hmem := (mem_listings_iff h a k).mpr hlisting
        simpa using (hstocked (a, k) hmem).1
      | none =>
        have hother : ∀ p ∈ s.listings, a ≠ p.1 := by
          rintro ⟨b, k⟩ hmem rfl
          rw [(mem_listings_iff h a k).mp hmem] at hlisting
          contradiction
        have hnone : r.shelf? a = none := helsewhere a hother
        simp [hnone]
    refine ⟨hwarnings, hpresent, fun scope => ?_, fun a k hlisting => ?_⟩
    · simp only [mem_scopes_iff, hpresent, exists_and_left]
    · exact (hstocked (a, k) ((mem_listings_iff h a k).mpr hlisting)).2

/-- Two spellings of a version, a key without versions, and an activation. -/
def threeKeys : Snapshot :=
  ⟨[("default",
      ⟨[("react",
          ⟨[⟨"17.0.2", "", false⟩, ⟨"18.0.0-rc.1", "", false⟩, ⟨"v17.0.2+fix", "shop", true⟩],
            none⟩),
        ("vue", ⟨[], none⟩)]⟩),
    ("legacy", ⟨[("react", ⟨[⟨"15.7.0", "host", false⟩], some "=15.7.0+old"⟩)]⟩)]⟩

theorem toRegistry_stocks_threeKeys :
    threeKeys.Indexed ∧
    (∀ a k, threeKeys.listing? a = some k → k.Legal) ∧
    ∃ r, threeKeys.toRegistry = .ok r ∧ r.warnings = [] ∧ r.scopes = ["default", "legacy"] ∧
      r.versions ⟨"default", "react"⟩ =
        [⟨17, 0, 2, [], ['f', 'i', 'x']⟩, ⟨18, 0, 0, [.textual ['r', 'c'], .numeric 1], []⟩] ∧
      (r.shelf? ⟨"default", "vue"⟩).isSome = false ∧
      (r.shelf ⟨"legacy", "react"⟩).activated = some ⟨15, 7, 0, [], ['o', 'l', 'd']⟩ := by
  have hindexed : threeKeys.Indexed := by
    constructor <;> simp only [Dictionary.Ascending] <;> decide
  obtain ⟨hloads, hloaded⟩ := toRegistry_stocks hindexed
  obtain ⟨r, hr⟩ : ∃ r, threeKeys.toRegistry = .ok r := ⟨_, rfl⟩
  obtain ⟨hwarnings, hpresent, _, hstocked⟩ := hloaded r hr
  refine ⟨hindexed, hloads.mp ⟨r, hr⟩, r, hr, hwarnings, ?_, ?_, ?_, ?_⟩
  · cases hr
    rfl
  · cases hr
    rfl
  · rw [Bool.eq_false_iff, Ne, hpresent]
    rintro ⟨k, hk, hversions⟩
    cases hk
    contradiction
  · exact ((hstocked ⟨"legacy", "react"⟩ _ rfl).activated _).mpr ⟨"=15.7.0+old", rfl, rfl⟩

end Snapshot

end ModuleSharing
