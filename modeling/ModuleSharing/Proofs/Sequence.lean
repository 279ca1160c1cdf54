import Mathlib.Data.List.Forall2

/-! Steps that may fail, one after the other.  A sequence of steps succeeds exactly if each step
does (`bind_eq_ok_iff`, `mapM_eq_ok_iff`).  A pass over a list is `Piecewise` if it can be made part
by part; passes that are put together from such passes are so too. -/

namespace ModuleSharing

theorem bind_eq_ok_iff {α β ε : Type} {x : Except ε α} {f : α → Except ε β} {b : β} :
    x >>= f = .ok b ↔ ∃ a, x = .ok a ∧ f a = .ok b := by
  cases x <;> simp [bind, Except.bind]

theorem map_eq_ok_iff {α β ε : Type} {x : Except ε α} {f : α → β} {b : β} :
    x.map f = .ok b ↔ ∃ a, x = .ok a ∧ f a = b := by
  cases x <;> simp [Except.map]

theorem mapError_eq_ok_iff {α ε ε' : Type} {x : Except ε α} {f : ε → ε'} {a : α} :
    x.mapError f = .ok a ↔ x = .ok a := by
  cases x <;> simp [Except.mapError]

theorem toOption_eq_some_iff {α ε : Type} {x : Except ε α} {a : α} :
    x.toOption = some a ↔ x = .ok a := by
  cases x <;> simp [Except.toOption]

/-- What is known of the result of a step says that it succeeds. -/
theorem exists_ok_of_toOption {α β ε : Type} {x : Except ε α} {f : α → β} {b : β}
    (h : x.toOption.map f = some b) : ∃ a, x = .ok a ∧ f a = b := by
  cases x with
  | error e => contradiction
  | ok a => exact ⟨a, rfl, Option.some.inj h⟩

/-- Reading the items of a list one by one succeeds if each of them can be read. -/
theorem mapM_eq_ok_iff {α β ε : Type} (f : α → Except ε β) (xs : List α) (ys : List β) :
    xs.mapM f = .ok ys ↔ List.Forall₂ (fun x y => f x = .ok y) xs ys := by
  induction xs generalizing ys with
  | nil => cases ys <;> simp [pure, Except.pure]
  | cons x xs ih =>
    rw [List.mapM_cons]
    cases hx : f x with
    | error e => cases ys <;> simp [bind, Except.bind, hx]
    | ok y =>
      cases hrest : xs.mapM f <;> cases ys <;>
        simp [bind, Except.bind, pure, Except.pure, ← ih, hrest, hx]

theorem mapM_map_eq_ok {α β γ ε : Type} {f : β → Except ε γ} {g : α → β} {h : α → γ} {xs : List α}
    (hxs : ∀ x ∈ xs, f (g x) = .ok (h x)) : (xs.map g).mapM f = .ok (xs.map h) := by
  rw [mapM_eq_ok_iff, List.forall₂_map_left_iff, List.forall₂_map_right_iff, List.forall₂_same]
  exact hxs

theorem exists_of_forall₂_right {α β : Type} {R : α → β → Prop} {xs : List α} {ys : List β}
    (h : List.Forall₂ R xs ys) {y : β} (hy : y ∈ ys) : ∃ x ∈ xs, R x y := by
  induction h with
  | nil => contradiction
  | cons hfirst _ ih =>
    rcases List.mem_cons.mp hy with rfl | hy
    · exact ⟨_, List.mem_cons_self .., hfirst⟩
    · obtain ⟨x, hx, hxy⟩ := ih hy
      exact ⟨x, List.mem_cons_of_mem _ hx, hxy⟩

/-! ## Passes over a list -/

/-- A pass over a list whose results come part by part. -/
structure Piecewise {α β ε : Type} (f : List α → Except ε (List β)) : Prop where
  nil : f [] = .ok []
  append : ∀ xs ys zs, f (xs ++ ys) = .ok zs ↔
    ∃ us vs, f xs = .ok us ∧ f ys = .ok vs ∧ zs = us ++ vs

namespace Piecewise

variable {α β γ ε : Type} {f : List α → Except ε (List β)} {g : List β → Except ε (List γ)}

theorem mapM (f : α → Except ε β) : Piecewise (List.mapM f) where
  nil := rfl
  append xs ys zs := by
    rw [List.mapM_append, bind_eq_ok_iff]
    simp only [bind_eq_ok_iff, pure, Except.pure, Except.ok.injEq]
    constructor
    · rintro ⟨us, hus, vs, hvs, rfl⟩
      exact ⟨us, vs, hus, hvs, rfl⟩
    · rintro ⟨us, vs, hus, hvs, rfl⟩
      exact ⟨us, hus, vs, hvs, rfl⟩

theorem bind (hf : Piecewise f) (hg : Piecewise g) : Piecewise fun xs => f xs >>= g where
  nil := bind_eq_ok_iff.mpr ⟨[], hf.nil, hg.nil⟩
  append xs ys zs := by
    simp only [bind_eq_ok_iff, hf.append]
    constructor
    · rintro ⟨_, ⟨us, vs, hus, hvs, rfl⟩, hzs⟩
      obtain ⟨us', vs', hus', hvs', rfl⟩ := (hg.append us vs zs).mp hzs
      exact ⟨us', vs', ⟨us, hus, hus'⟩, ⟨vs, hvs, hvs'⟩, rfl⟩
    · rintro ⟨us', vs', ⟨us, hus, hus'⟩, ⟨vs, hvs, hvs'⟩, rfl⟩
      exact ⟨us ++ vs, ⟨us, vs, hus, hvs, rfl⟩, (hg.append us vs _).mpr ⟨us', vs', hus', hvs', rfl⟩⟩

theorem filter (hf : Piecewise f) (p : α → Bool) : Piecewise fun xs => f (xs.filter p) where
  nil := hf.nil
  append xs ys zs := by
    simp only [List.filter_append]
    exact hf.append _ _ zs

/-- A pass over the same elements in another order gives the same results in another order. -/
theorem perm (hf : Piecewise f) {xs ys : List α} (h : xs.Perm ys) {us : List β}
    (hus : f xs = .ok us) : ∃ vs, f ys = .ok vs ∧ us.Perm vs := by
  induction h generalizing us with
  | nil => exact ⟨us, hus, .refl us⟩
  | @cons x xs ys _ ih =>
    obtain ⟨first, rest, hfirst, hrest, rfl⟩ := (hf.append [x] xs us).mp hus
    obtain ⟨vs, hvs, hperm⟩ := ih hrest
    exact ⟨first ++ vs, (hf.append [x] ys _).mpr ⟨first, vs, hfirst, hvs, rfl⟩,
      hperm.append_left first⟩
  | swap x y xs =>
    obtain ⟨first, _, hfirst, htail, rfl⟩ := (hf.append [y] (x :: xs) us).mp hus
    obtain ⟨second, rest, hsecond, hrest, rfl⟩ := (hf.append [x] xs _).mp htail
    refine ⟨second ++ (first ++ rest), (hf.append [x] (y :: xs) _).mpr ⟨second, _, hsecond,
      (hf.append [y] xs _).mpr ⟨first, rest, hfirst, hrest, rfl⟩, rfl⟩, ?_⟩
    rw [← List.append_assoc, ← List.append_assoc]
    exact List.perm_append_comm.append_right rest
  | trans _ _ ihfirst ihsecond =>
    obtain ⟨vs, hvs, hfirst⟩ := ihfirst hus
    obtain ⟨ws, hws, hsecond⟩ := ihsecond hvs
    exact ⟨ws, hws, hfirst.trans hsecond⟩

end Piecewise

end ModuleSharing
