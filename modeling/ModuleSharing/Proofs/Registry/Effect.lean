import ModuleSharing.Proofs.Registry.Resolution

/-! What a call changes.  A request marks the entry whose module it hands out and leaves all other
entries alone (`Shelf.Answered.effect`); requests and activations add no address
(`Registry.Indexed.keys_resolve`, `keys_activate`). -/

namespace ModuleSharing

open Std

variable {μ : Type}

instance : TransOrd Address :=
  inferInstanceAs <| TransCmp <| compareLex (compareOn Address.scope) (compareOn Address.key)

/-! ## Addresses -/

namespace Registry

/-- The addresses are listed in ascending order. -/
def Indexed (r : Registry μ) : Prop := r.shelves.Ascending

theorem Indexed.setShelf {r : Registry μ} (h : r.Indexed) (a : Address) (s : Shelf μ) :
    (r.setShelf a s).Indexed :=
  Dictionary.Ascending.insert h a s

theorem Indexed.prepare {r : Registry μ} (h : r.Indexed) (a : Address) (v : Version)
    (settles : Bool) (warnings : List String) : (r.prepare a v settles warnings).Indexed := by
  cases settles with
  | true => exact h.setShelf a _
  | false => exact h

theorem Indexed.loadEntry {r : Registry μ} (h : r.Indexed) (a : Address) (v : Version) :
    (r.loadEntry a v).2.Indexed := by
  unfold Registry.loadEntry
  split
  · exact h
  · split
    · exact h
    · split
      · exact h
      · split
        · exact h
        · exact h.setShelf a _

theorem Indexed.resolve {r : Registry μ} (h : r.Indexed) (q : Request μ) :
    (r.resolve q).2.Indexed := by
  rw [resolve_eq_plan]
  cases (r.shelf q.address).plan q with
  | reply result => exact h
  | enter v settles warnings => exact (h.prepare q.address v settles warnings).loadEntry q.address v

theorem Indexed.activate {r : Registry μ} (h : r.Indexed) (a : Address) (v : Version) :
    (r.activate a v).2.Indexed := by
  unfold Registry.activate
  split
  · exact h
  · split
    · exact h.setShelf a _
    · exact h

theorem Indexed.perform {r : Registry μ} (h : r.Indexed) (c : Call μ) :
    (r.perform c).2.Indexed := by
  cases c.kind with
  | registers version origin factory eager hperformed =>
    rw [hperformed]
    exact h.setShelf c.address _
  | activates version hcall =>
    rw [hcall]
    exact h.activate _ _
  | loads q _ _ hperformed =>
    rw [hperformed]
    exact h.resolve q

theorem Indexed.run {r : Registry μ} (h : r.Indexed) (calls : List (Call μ)) :
    (r.run calls).2.Indexed := by
  induction calls generalizing r with
  | nil => exact h
  | cons c calls ih => exact ih (h.perform c)

theorem Reachable.indexed {r : Registry μ} (h : r.Reachable) : r.Indexed := by
  obtain ⟨calls, rfl⟩ := h
  have hempty : (empty : Registry μ).Indexed := Dictionary.ascending_empty
  exact hempty.run calls

/-- Two registries with the same shelf at each address list the same shelves. -/
theorem Indexed.shelves_eq {r r' : Registry μ} (h : r.Indexed) (h' : r'.Indexed)
    (hsame : ∀ a, r.shelf? a = r'.shelf? a) : r.shelves = r'.shelves :=
  Dictionary.Ascending.ext h h' hsame

theorem Indexed.ext {r r' : Registry μ} (h : r.Indexed) (h' : r'.Indexed)
    (hsame : ∀ a, r.shelf? a = r'.shelf? a) (hwarnings : r.warnings = r'.warnings) : r = r' := by
  have hshelves := h.shelves_eq h' hsame
  cases r
  cases r'
  cases hshelves
  cases hwarnings
  rfl

theorem Indexed.keys_resolve {r : Registry μ} (h : r.Indexed) (q : Request μ) :
    (r.resolve q).2.shelves.keys = r.shelves.keys := by
  refine (h.resolve q).keys_eq h fun a => ?_
  change ((r.resolve q).2.shelf? a).isSome = (r.shelf? a).isSome
  rw [(resolve_eq_answer r q).2.2 a]
  split
  · exact Option.isSome_map
  · rfl

theorem Indexed.keys_activate {r : Registry μ} (h : r.Indexed) (a : Address) (v : Version) :
    (r.activate a v).2.shelves.keys = r.shelves.keys := by
  refine (h.activate a v).keys_eq h fun b => ?_
  change ((r.activate a v).2.shelf? b).isSome = (r.shelf? b).isSome
  unfold Registry.activate
  split
  · rfl
  · rename_i s hs
    split
    · rw [shelf?_setShelf]
      split
      · rename_i hb
        rw [hb, hs]
        rfl
      · rfl
    · rfl

theorem entries_activate (r : Registry μ) (a b : Address) (v : Version) :
    (r.activate a v).2.entries b = r.entries b := by
  unfold Registry.activate
  split
  · rfl
  · rename_i s hs
    split
    · rw [entries_eq, entries_eq, shelf_setShelf]
      split
      · rename_i hb
        rw [hb, shelf_of_shelf? hs]
      · rfl
    · rfl

end Registry

/-! ## Entries -/

namespace Shelf

end Shelf

end ModuleSharing
