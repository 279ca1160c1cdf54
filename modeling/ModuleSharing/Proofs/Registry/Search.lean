import ModuleSharing.Registry.Basic
import ModuleSharing.Proofs.Version.Precedence

/-! Binary search on a shelf whose entries strictly ascend in precedence finds the entry that equals
a version, or else the place between the lower and the higher entries. -/

namespace ModuleSharing

/-- From an element that is not below the sought one on, all later elements are above it. -/
def Rising (probe : Nat → Ordering) (low high : Nat) : Prop :=
  ∀ i j, low ≤ i → i < j → j < high → probe i ≠ .lt → probe j = .gt

theorem Rising.mono {probe : Nat → Ordering} {low high low' high' : Nat}
    (h : Rising probe low high) (hlow : low ≤ low') (hhigh : high' ≤ high) :
    Rising probe low' high' :=
  fun i j hi hij hj => h i j (Nat.le_trans hlow hi) hij (Nat.lt_of_lt_of_le hj hhigh)

theorem Rising.lt_of_lt {probe : Nat → Ordering} {low high i j : Nat} (h : Rising probe low high)
    (hi : low ≤ i) (hij : i < j) (hj : j < high) (hlt : probe j = .lt) : probe i = .lt := by
  cases hp : probe i with
  | lt => rfl
  | eq | gt =>
    have hgt := h i j hi hij hj (by rw [hp]; decide)
    rw [hlt] at hgt
    contradiction

theorem bisect_ok {probe : Nat → Ordering} {fuel low high i : Nat}
    (h : bisect probe fuel low high = .ok i) : i < high ∧ probe i = .eq := by
  induction fuel generalizing low high with
  | zero => simp [bisect] at h
  | succ fuel ih =>
    simp only [bisect] at h
    split at h
    · cases hp : probe ((low + high) / 2) <;> simp only [hp] at h
      · exact ih h
      · cases h
        exact ⟨by omega, hp⟩
      · obtain ⟨hi, hprobe⟩ := ih h
        exact ⟨by omega, hprobe⟩
    · contradiction

/-- The place at which a search fails parts the lower elements from the higher ones. -/
theorem bisect_error {probe : Nat → Ordering} {fuel low high i : Nat}
    (hrising : Rising probe low high) (hle : low ≤ high) (hfuel : high - low ≤ fuel)
    (h : bisect probe fuel low high = .error i) :
    i ≤ high ∧ (∀ j, low ≤ j → j < i → probe j = .lt) ∧
      ∀ j, i ≤ j → j < high → probe j = .gt := by
  induction fuel generalizing low high with
  | zero =>
    simp only [bisect, Except.error.injEq] at h
    exact ⟨by omega, fun j _ _ => by omega, fun j _ _ => by omega⟩
  | succ fuel ih =>
    simp only [bisect] at h
    split at h
    · have hmiddle : low ≤ (low + high) / 2 ∧ (low + high) / 2 < high := by omega
      generalize (low + high) / 2 = middle at h hmiddle
      cases hp : probe middle <;> simp only [hp] at h
      · obtain ⟨hi, hbelow, habove⟩ :=
          ih (hrising.mono (by omega) (Nat.le_refl _)) (by omega) (by omega) h
        refine ⟨hi, fun j hlow hj => ?_, habove⟩
        -- The inner search starts past `middle`: up to there the order decides.
        by_cases hjm : j < middle
        · exact hrising.lt_of_lt hlow hjm hmiddle.2 hp
        · by_cases heq : j = middle
          · rw [heq, hp]
          · exact hbelow j (by omega) hj
      · contradiction
      · obtain ⟨hi, hbelow, habove⟩ :=
          ih (hrising.mono (Nat.le_refl _) (by omega)) (by omega) (by omega) h
        refine ⟨by omega, hbelow, fun j hij hj => ?_⟩
        by_cases hjm : j < middle
        · exact habove j hij hjm
        · by_cases heq : j = middle
          · rw [heq, hp]
          · exact hrising middle j hmiddle.1 (by omega) hj (by rw [hp]; decide)
    · cases h
      exact ⟨hle, fun j _ _ => by omega, fun j _ _ => by omega⟩

end ModuleSharing
