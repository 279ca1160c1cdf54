import ModuleSharing.Version.Basic

/-! `Version.precedence` is a total order up to build metadata.  The laws are instances of
`Std.TransCmp` and `Std.LawfulEqCmp`, first for identifiers, then for pre-releases, then for
versions, so that the general lemmas on comparisons apply to all three.  Which identifiers and which
pre-releases are below which is said without comparisons (`Identifier.order_eq_lt_iff`,
`Prerelease.order_eq_lt_iff`). -/

namespace ModuleSharing

open Std

/-- Lists compare by their first difference, and a proper beginning is below. -/
theorem compareLex_eq_lt_iff {α : Type} {cmp : α → α → Ordering} [LawfulEqCmp cmp]
    (xs ys : List α) :
    List.compareLex cmp xs ys = .lt ↔ List.Lex (fun x y => cmp x y = .lt) xs ys := by
  induction xs generalizing ys with
  | nil => cases ys <;> simp [List.compareLex_nil_nil, List.compareLex_nil_cons]
  | cons x xs ih =>
    cases ys with
    | nil => simp [List.compareLex_cons_nil]
    | cons y ys =>
      rw [List.compareLex_cons_cons, Ordering.then_eq_lt, ih, LawfulEqCmp.compare_eq_iff_eq,
        List.cons_lex_cons_iff]

namespace Identifier

theorem order_swap (a b : Identifier) : order a b = (order b a).swap := by
  cases a <;> cases b <;> simp only [order]
  · exact OrientedOrd.eq_swap
  · rfl
  · rfl
  · exact OrientedOrd.eq_swap

instance : TransCmp order where
  eq_swap {a b} := order_swap a b
  isLE_trans {a b c} hab hbc := by
    cases a <;> cases b <;> cases c <;> simp only [order] at hab hbc ⊢
    all_goals first | exact TransOrd.isLE_trans hab hbc | contradiction | rfl

instance : LawfulEqCmp order where
  eq_of_compare {a b} h := by
    cases a <;> cases b <;> simp only [order] at h
    · rw [LawfulEqOrd.eq_of_compare h]
    · contradiction
    · contradiction
    · rw [LawfulEqOrd.eq_of_compare h]

/-- Numbers by value and before texts, texts by code point. -/
inductive Below : Identifier → Identifier → Prop where
  | numbers {m n : Nat} (less : m < n) : Below (numeric m) (numeric n)
  | mixed (n : Nat) (cs : List Char) : Below (numeric n) (textual cs)
  | texts {s t : List Char} (less : s < t) : Below (textual s) (textual t)

theorem order_eq_lt_iff (i j : Identifier) : order i j = .lt ↔ i.Below j := by
  have htexts (s t : List Char) : compare s t = .lt ↔ s < t := by
    have hchars (c d : Char) : compare c d = .lt ↔ c < d := compareOfLessAndEq_eq_lt
    rw [List.compare_eq_compareLex, compareLex_eq_lt_iff, ← List.lex_lt]
    simp only [hchars]
  constructor
  · intro h
    cases i <;> cases j <;> simp only [order] at h
    · exact .numbers (Nat.compare_eq_lt.mp h)
    · exact .mixed _ _
    · contradiction
    · exact .texts ((htexts _ _).mp h)
  · rintro (hless | _ | hless)
    · exact Nat.compare_eq_lt.mpr hless
    · rfl
    · exact (htexts _ _).mpr hless

end Identifier

namespace Prerelease

theorem order_swap (p q : Prerelease) : order p q = (order q p).swap := by
  cases p <;> cases q <;> simp only [order]
  · rfl
  · rfl
  · rfl
  · exact OrientedCmp.eq_swap

instance : TransCmp order where
  eq_swap {p q} := order_swap p q
  isLE_trans {p q s} hpq hqs := by
    cases p <;> cases q <;> cases s <;> simp only [order] at hpq hqs ⊢
    all_goals first | exact TransCmp.isLE_trans hpq hqs | contradiction | rfl

instance : LawfulEqCmp order where
  eq_of_compare {p q} h := by
    cases p <;> cases q <;> simp only [order] at h
    · rfl
    · contradiction
    · contradiction
    · exact LawfulEqCmp.eq_of_compare h

/-- Every pre-release is below a release; of two pre-releases the first different identifier
decides, and a proper beginning is below. -/
def Below (p q : Prerelease) : Prop := p ≠ [] ∧ (q = [] ∨ List.Lex Identifier.Below p q)

theorem order_eq_lt_iff (p q : Prerelease) : order p q = .lt ↔ p.Below q := by
  unfold Below
  cases p <;> cases q <;> simp only [order]
  · simp
  · simp
  · simp
  · rw [compareLex_eq_lt_iff]
    simp [Identifier.order_eq_lt_iff]

end Prerelease

namespace Version

instance : TransCmp fun a b : Version => Prerelease.order a.pre b.pre where
  eq_swap := OrientedCmp.eq_swap
  isLE_trans := TransCmp.isLE_trans

instance : TransCmp precedence :=
  inferInstanceAs <| TransCmp <| compareLex (compareOn major) <| compareLex (compareOn minor) <|
    compareLex (compareOn patch) fun a b => Prerelease.order a.pre b.pre

theorem precedence_self (v : Version) : precedence v v = .eq := ReflCmp.compare_self

/-- Two versions are equal in precedence when they differ in build metadata at most. -/
theorem precedence_eq_iff (a b : Version) :
    precedence a b = .eq ↔
      a.major = b.major ∧ a.minor = b.minor ∧ a.patch = b.patch ∧ a.pre = b.pre := by
  simp only [precedence, Ordering.then_eq_eq, LawfulEqCmp.compare_eq_iff_eq]

theorem precedence_congr_left {a b : Version} (h : precedence a b = .eq) (c : Version) :
    precedence a c = precedence b c :=
  TransCmp.congr_left h

theorem precedence_congr_right {a b : Version} (h : precedence a b = .eq) (c : Version) :
    precedence c a = precedence c b :=
  TransCmp.congr_right h

end Version

end ModuleSharing
