import Mathlib.Data.List.Induction
import Mathlib.Data.List.Sort
import ModuleSharing.Dictionary

/-! Looking up a key after an insertion.  The laws need keys that compare equal to be equal; the
order of the pairs plays no part in them.  Insertions keep the keys in ascending order, and then the
lookups say which keys are listed in which order (`Ascending.keys_eq`) and what the dictionary is
(`Ascending.ext`). -/

namespace ModuleSharing

open Std

/-- Lists that strictly ascend by a key are equal if they have the same members. -/
theorem eq_of_ascending {α κ : Type} (cmp : κ → κ → Ordering) [TransCmp cmp] (key : α → κ)
    {xs ys : List α} (hxs : xs.Pairwise fun x y => cmp (key x) (key y) = .lt)
    (hys : ys.Pairwise fun x y => cmp (key x) (key y) = .lt) (hmem : ∀ x, x ∈ xs ↔ x ∈ ys) :
    xs = ys := by
  have : Std.Antisymm fun x y => cmp (key x) (key y) = .lt := ⟨fun x y hxy hyx => by
    rw [OrientedCmp.gt_of_lt hxy] at hyx
    contradiction⟩
  have : Std.Irrefl fun x y => cmp (key x) (key y) = .lt := ⟨fun x hx => by
    have hself : cmp (key x) (key x) = .eq := ReflCmp.compare_self
    rw [hself] at hx
    contradiction⟩
  exact hxs.eq_of_mem_iff hys hmem

namespace Dictionary

variable {κ β : Type} [Ord κ] [LawfulEqOrd κ]

private theorem lookup_place_self (k : κ) (b : β) (pairs : List (κ × β)) :
    lookup k (place k b pairs) = some b := by
  induction pairs with
  | nil => simp only [place, lookup, compare_self, if_true]
  | cons pair rest ih =>
    obtain ⟨k', b'⟩ := pair
    cases h : compare k k' with
    | lt => simp only [place, h, lookup, compare_self, if_true]
    | eq => simp only [place, h, lookup, compare_self, if_true]
    | gt => simpa only [place, h, lookup, reduceCtorEq, if_false] using ih

private theorem lookup_place_of_ne {k k' : κ} (hne : k' ≠ k) (b : β) (pairs : List (κ × β)) :
    lookup k' (place k b pairs) = lookup k' pairs := by
  have hcompare : compare k' k ≠ .eq := fun h => hne (LawfulEqOrd.eq_of_compare h)
  induction pairs with
  | nil => simp only [place, lookup, hcompare, if_false]
  | cons pair rest ih =>
    obtain ⟨k'', b'⟩ := pair
    cases h : compare k k'' with
    | lt => simp only [place, h, lookup, hcompare, if_false]
    | eq =>
      obtain rfl : k = k'' := LawfulEqOrd.eq_of_compare h
      simp only [place, h, lookup, hcompare, if_false]
    | gt => simp only [place, h, lookup, ih]

theorem get?_insert_self (d : Dictionary κ β) (k : κ) (b : β) : (d.insert k b).get? k = some b :=
  lookup_place_self k b d.toList

theorem get?_insert_of_ne (d : Dictionary κ β) {k k' : κ} (hne : k' ≠ k) (b : β) :
    (d.insert k b).get? k' = d.get? k' :=
  lookup_place_of_ne hne b d.toList

theorem get?_mapValues {γ : Type} (f : κ → β → γ) (d : Dictionary κ β) (k : κ) :
    (d.mapValues f).get? k = (d.get? k).map (f k) := by
  obtain ⟨pairs⟩ := d
  unfold get? mapValues
  induction pairs with
  | nil => rfl
  | cons pair rest ih =>
    obtain ⟨k', b⟩ := pair
    simp only [List.map_cons, lookup]
    split
    · rename_i hcompare
      obtain rfl : k = k' := LawfulEqOrd.eq_of_compare hcompare
      rfl
    · exact ih

omit [Ord κ] [LawfulEqOrd κ] in
theorem keys_mapValues {γ : Type} (f : κ → β → γ) (d : Dictionary κ β) :
    (d.mapValues f).keys = d.keys := by
  simp only [keys, mapValues, List.map_map, Function.comp_def]

/-! ## Keys in order -/

/-- The keys strictly ascend, so each is there once. -/
def Ascending (d : Dictionary κ β) : Prop := d.keys.Pairwise fun k k' => compare k k' = .lt

omit [LawfulEqOrd κ] in
theorem ascending_empty : (empty : Dictionary κ β).Ascending := List.Pairwise.nil

omit [LawfulEqOrd κ] in
private theorem mem_place {k x : κ} {b : β} {pairs : List (κ × β)}
    (h : x ∈ (place k b pairs).map Prod.fst) : x = k ∨ x ∈ pairs.map Prod.fst := by
  induction pairs with
  | nil => simpa [place] using h
  | cons pair rest ih =>
    obtain ⟨k', b'⟩ := pair
    rw [List.map_cons, List.mem_cons]
    cases hcompare : compare k k' <;> simp only [place, hcompare, List.map_cons, List.mem_cons] at h
    · exact h
    · exact h.imp_right Or.inr
    · rcases h with h | h
      · exact Or.inr (Or.inl h)
      · exact (ih h).imp_right Or.inr

theorem Ascending.insert [TransOrd κ] {d : Dictionary κ β} (h : d.Ascending) (k : κ) (b : β) :
    (d.insert k b).Ascending := by
  obtain ⟨pairs⟩ := d
  unfold Ascending keys Dictionary.insert at *
  induction pairs with
  | nil => simp [place]
  | cons pair rest ih =>
    obtain ⟨k', b'⟩ := pair
    rw [List.map_cons, List.pairwise_cons] at h
    obtain ⟨hfirst, hrest⟩ := h
    cases hcompare : compare k k' with
    | lt =>
      simp only [place, hcompare, List.map_cons, List.pairwise_cons, List.mem_cons]
      refine ⟨fun x hx => ?_, hfirst, hrest⟩
      rcases hx with rfl | hx
      · exact hcompare
      · exact TransCmp.lt_trans hcompare (hfirst x hx)
    | eq =>
      obtain rfl : k = k' := LawfulEqOrd.eq_of_compare hcompare
      simp only [place, hcompare, List.map_cons, List.pairwise_cons]
      exact ⟨hfirst, hrest⟩
    | gt =>
      simp only [place, hcompare, List.map_cons, List.pairwise_cons]
      refine ⟨fun x hx => ?_, ih hrest⟩
      rcases mem_place hx with rfl | hx
      · exact OrientedCmp.lt_of_gt hcompare
      · exact hfirst x hx

theorem mem_keys_iff (d : Dictionary κ β) (k : κ) : k ∈ d.keys ↔ (d.get? k).isSome := by
  obtain ⟨pairs⟩ := d
  unfold keys get?
  induction pairs with
  | nil => simp [lookup]
  | cons pair rest ih =>
    obtain ⟨k', b'⟩ := pair
    simp only [List.map_cons, List.mem_cons, lookup]
    split
    · rename_i hcompare
      simp [LawfulEqOrd.eq_of_compare hcompare]
    · rename_i hcompare
      have hne : k ≠ k' := fun h => hcompare (h ▸ compare_self)
      simp only [hne, false_or]
      exact ih

/-- Two dictionaries that know the same keys list them alike. -/
theorem Ascending.keys_eq [TransOrd κ] {γ : Type} {d : Dictionary κ β} {d' : Dictionary κ γ}
    (h : d.Ascending) (h' : d'.Ascending) (hsame : ∀ k, (d.get? k).isSome = (d'.get? k).isSome) :
    d.keys = d'.keys := by
  refine eq_of_ascending compare id h h' fun k => ?_
  rw [mem_keys_iff, mem_keys_iff, hsame]

theorem Ascending.mem_toList_iff {d : Dictionary κ β} (h : d.Ascending) (k : κ) (b : β) :
    (k, b) ∈ d.toList ↔ d.get? k = some b := by
  obtain ⟨pairs⟩ := d
  unfold Ascending keys at h
  unfold get?
  induction pairs with
  | nil => simp [lookup]
  | cons pair rest ih =>
    obtain ⟨k', b'⟩ := pair
    rw [List.map_cons, List.pairwise_cons] at h
    obtain ⟨hfirst, hrest⟩ := h
    rw [List.mem_cons, Prod.mk.injEq, ih hrest, lookup]
    split
    · rename_i hcompare
      obtain rfl : k = k' := LawfulEqOrd.eq_of_compare hcompare
      -- the first key is below all others, so it is not among them
      have habsent : lookup k rest ≠ some b := by
        intro hsome
        have hmem := List.mem_map_of_mem (f := Prod.fst) ((ih hrest).mpr hsome)
        have hlt := hfirst k hmem
        rw [compare_self] at hlt
        contradiction
      simp [habsent, eq_comm]
    · rename_i hcompare
      have hne : k ≠ k' := fun h => hcompare (h ▸ compare_self)
      simp [hne]

/-- Two dictionaries that give every key the same value are equal. -/
theorem Ascending.ext [TransOrd κ] {d d' : Dictionary κ β} (h : d.Ascending) (h' : d'.Ascending)
    (hsame : ∀ k, d.get? k = d'.get? k) : d = d' := by
  have hlists : d.toList = d'.toList := by
    refine eq_of_ascending compare Prod.fst (List.pairwise_map.mp h)
      (List.pairwise_map.mp h') fun ⟨k, b⟩ => ?_
    rw [h.mem_toList_iff, h'.mem_toList_iff, hsame]
  cases d
  cases d'
  exact congrArg Dictionary.mk hlists

/-! ## Dictionaries of pairs -/

theorem ascending_ofList [TransOrd κ] (pairs : List (κ × β)) : (ofList pairs).Ascending := by
  induction pairs using List.reverseRecOn with
  | nil => exact ascending_empty
  | append_singleton pairs p ih =>
    rw [ofList, List.foldl_concat]
    exact ih.insert p.1 p.2

theorem mem_of_get?_ofList {pairs : List (κ × β)} {k : κ} {b : β}
    (h : (ofList pairs).get? k = some b) : (k, b) ∈ pairs := by
  induction pairs using List.reverseRecOn with
  | nil => contradiction
  | append_singleton pairs p ih =>
    rw [ofList, List.foldl_concat] at h
    by_cases hk : k = p.1
    · subst hk
      rw [get?_insert_self] at h
      simp [← Option.some.inj h]
    · rw [get?_insert_of_ne _ hk] at h
      exact List.mem_append_left _ (ih h)

theorem isSome_get?_ofList {pairs : List (κ × β)} {p : κ × β} (h : p ∈ pairs) :
    ((ofList pairs).get? p.1).isSome := by
  induction pairs using List.reverseRecOn with
  | nil => contradiction
  | append_singleton pairs last ih =>
    rw [ofList, List.foldl_concat]
    by_cases hkey : p.1 = last.1
    · rw [hkey, get?_insert_self]
      rfl
    · rw [get?_insert_of_ne _ hkey]
      rcases List.mem_append.mp h with hmem | hlast
      · exact ih hmem
      · exact absurd (congrArg Prod.fst (List.mem_singleton.mp hlast)) hkey

/-- A dictionary is made again from its pairs. -/
theorem Ascending.ofList_toList [TransOrd κ] {d : Dictionary κ β} (h : d.Ascending) :
    ofList d.toList = d := by
  refine (ascending_ofList d.toList).ext h fun k => Option.ext fun b => ?_
  rw [← h.mem_toList_iff]
  refine ⟨mem_of_get?_ofList, fun hmem => ?_⟩
  obtain ⟨b', hb'⟩ := Option.isSome_iff_exists.mp (isSome_get?_ofList hmem)
  have hfound := (h.mem_toList_iff k b').mp (mem_of_get?_ofList hb')
  rwa [Option.some.inj (hfound.symm.trans ((h.mem_toList_iff k b).mp hmem))] at hb'

end Dictionary

end ModuleSharing
