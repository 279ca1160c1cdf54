import Mathlib.Data.List.Induction
import ModuleSharing.Text.Decimal

/-! Numerals read back.  `numeral` has no leading zeros, `value` does not see them, and `word?`
accepts a run of digits exactly if its value fits (`word?_eq_some_iff`).  Digits without a leading
zero are the numeral of their value (`numeral_value`). -/

namespace ModuleSharing.Text

theorem isDigit_of_mem_numeral {n : Nat} {c : Char} (h : c ∈ numeral n) : isDigit c = true :=
  Nat.isDigit_of_mem_toDigits (by decide) (by decide) h

theorem numeral_ne_nil (n : Nat) : numeral n ≠ [] := Nat.toDigits_ne_nil

theorem value_numeral (n : Nat) : value (numeral n) = n := Nat.ofDigitChars_ten_toDigits

theorem value_zeros_append (zeros : Nat) (ds : List Char) :
    value (List.replicate zeros '0' ++ ds) = value ds := by
  simp only [value, Nat.ofDigitChars_append, Nat.ofDigitChars_replicate_zero, Nat.mul_zero]

/-- Only zero itself is written with a leading zero. -/
theorem eq_zero_of_head?_numeral {n : Nat} (h : (numeral n).head? = some '0') : n = 0 := by
  induction n using Nat.strongRecOn with
  | ind n ih =>
    unfold numeral at h
    rw [Nat.toDigits_eq_if (by decide)] at h
    split at h
    · rename_i hsmall
      rw [List.head?_cons, Option.some.injEq] at h
      revert h
      exact (by decide : ∀ m < 10, Nat.digitChar m = '0' → m = 0) n hsmall
    · rename_i hlarge
      obtain ⟨c, cs, hfront⟩ := List.exists_cons_of_ne_nil (numeral_ne_nil (n / 10))
      have hzero : (numeral (n / 10)).head? = some '0' := by
        rw [hfront]
        rwa [← numeral, hfront] at h
      have := ih (n / 10) (by omega) hzero
      omega

theorem exists_digit {c : Char} (h : isDigit c = true) : ∃ d < 10, c = Nat.digitChar d := by
  have hlow : 48 ≤ c.toNat := of_decide_eq_true (Bool.and_eq_true _ _ ▸ h).1
  have hhigh : c.toNat ≤ 57 := of_decide_eq_true (Bool.and_eq_true _ _ ▸ h).2
  refine ⟨c.toNat - 48, by omega, Char.toNat_inj.mp ?_⟩
  rw [Nat.toNat_digitChar_of_lt_ten (by omega)]
  omega

/-- Digits are the numeral of their value, unless a zero leads them. -/
theorem numeral_value {ds : List Char} (hne : ds ≠ []) (hdigits : ∀ c ∈ ds, isDigit c = true)
    (hzero : ds.head? = some '0' → ds.length = 1) : numeral (value ds) = ds := by
  induction ds using List.reverseRecOn with
  | nil => contradiction
  | append_singleton ds c ih =>
    obtain ⟨hfront, hlast⟩ := List.forall_mem_append.mp hdigits
    obtain ⟨d, hd, rfl⟩ := exists_digit (hlast c (List.mem_singleton_self c))
    have hvalue : value (ds ++ [Nat.digitChar d]) = 10 * value ds + d := by
      simp only [value, Nat.ofDigitChars_append, Nat.ofDigitChars_cons_digitChar_of_lt_ten hd,
        Nat.ofDigitChars_nil]
    by_cases hds : ds = []
    · subst hds
      have hnil : value [] = 0 := Nat.ofDigitChars_nil
      rw [hvalue, hnil, Nat.mul_zero, Nat.zero_add, List.nil_append]
      exact Nat.toDigits_of_lt_base hd
    · have hlong : ds.head? ≠ some '0' := by
        intro h
        have hlength := hzero (by rw [List.head?_append, h]; rfl)
        have := List.length_pos_iff.mpr hds
        rw [List.length_append, List.length_singleton] at hlength
        omega
      have hnumeral := ih hds hfront fun h => absurd h hlong
      -- the front has no leading zero, so it is not zero
      have hpos : 0 < value ds := by
        rw [Nat.pos_iff_ne_zero]
        intro h
        rw [h] at hnumeral
        exact hlong (by rw [← hnumeral]; rfl)
      rw [hvalue, numeral, ← Nat.toDigits_append_toDigits (by decide) hpos hd,
        Nat.toDigits_of_lt_base hd, ← numeral, hnumeral]

theorem word?_eq_some_iff (cs : List Char) (n : Nat) :
    word? cs = some n ↔
      cs ≠ [] ∧ (∀ c ∈ cs, isDigit c = true) ∧ value cs = n ∧ n ≤ maxWord := by
  unfold word?
  split
  · rename_i hbad
    simp only [Bool.or_eq_true, List.isEmpty_iff, Bool.not_eq_true', List.all_eq_false] at hbad
    constructor
    · intro h
      contradiction
    · rintro ⟨hne, hdigits, _⟩
      rcases hbad with hnil | ⟨c, hc, hnot⟩
      · exact absurd hnil hne
      · exact absurd (hdigits c hc) hnot
  · rename_i hgood
    simp only [Bool.or_eq_true, List.isEmpty_iff, Bool.not_eq_true', not_or, Bool.not_eq_false,
      List.all_eq_true] at hgood
    split
    · rename_i hfits
      rw [Option.some.injEq]
      exact ⟨fun h => ⟨hgood.1, hgood.2, h, h ▸ hfits⟩, fun h => h.2.2.1⟩
    · rename_i hlarge
      constructor
      · intro h
        contradiction
      · rintro ⟨_, _, rfl, hfits⟩
        exact absurd hfits hlarge

/-- A number that fits is read whatever zeros lead it. -/
theorem word?_zeros_append {n : Nat} (h : n ≤ maxWord) (zeros : Nat) :
    word? (List.replicate zeros '0' ++ numeral n) = some n := by
  rw [word?_eq_some_iff]
  refine ⟨by simp [numeral_ne_nil], fun c hc => ?_, ?_, h⟩
  · rcases List.mem_append.mp hc with hc | hc
    · rw [List.eq_of_mem_replicate hc]
      decide
    · exact isDigit_of_mem_numeral hc
  · rw [value_zeros_append, value_numeral]

end ModuleSharing.Text
