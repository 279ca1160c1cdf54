import ModuleSharing.Proofs.Range.Admission
import ModuleSharing.Proofs.Range.Confinement
import ModuleSharing.Proofs.Version.Reading

/-! Precedence as an order of versions, and ranges as parts of it.  Precedence is a total order in
which versions with other build metadata count as equal, and no range tells these apart
(`Version.precedence_total_order`).  Each comparator stands for an interval of this order, so that a
range of one set admits every release between two versions that it admits
(`VersionRange.admits_release_between`).  For pre-releases the second is not so, as they have to be
named besides. -/

namespace ModuleSharing

open Std

/-! ## The order -/

namespace Version

/-- Not preferred to the other one. -/
def AtMost (a b : Version) : Prop := a.precedence b ≠ .gt

instance (a b : Version) : Decidable (a.AtMost b) := inferInstanceAs (Decidable (_ ≠ _))

theorem atMost_iff_isLE (a b : Version) : a.AtMost b ↔ (a.precedence b).isLE = true :=
  Ordering.isLE_iff_ne_gt.symm

theorem AtMost.trans {a b c : Version} (hab : a.AtMost b) (hbc : b.AtMost c) : a.AtMost c := by
  rw [atMost_iff_isLE] at hab hbc ⊢
  exact TransCmp.isLE_trans hab hbc

theorem atMost_iff_ne_lt (a b : Version) : a.AtMost b ↔ b.precedence a ≠ .lt :=
  not_congr OrientedCmp.gt_iff_lt

theorem not_atMost_iff (a b : Version) : ¬ a.AtMost b ↔ a.precedence b = .gt :=
  not_not

theorem not_atMost_iff_lt (a b : Version) : ¬ a.AtMost b ↔ b.precedence a = .lt := by
  rw [not_atMost_iff, OrientedCmp.gt_iff_lt]

theorem atMost_total (a b : Version) : a.AtMost b ∨ b.AtMost a := by
  refine or_iff_not_imp_left.mpr fun h => ?_
  rw [AtMost, (not_atMost_iff_lt a b).mp h]
  decide

theorem isHigher_iff (a b : Version) : a.isHigher b = true ↔ b.AtMost a ∧ ¬ a.AtMost b := by
  rw [isHigher, beq_iff_eq, ← not_atMost_iff, iff_and_self]
  exact (atMost_total a b).resolve_left

/-- Precedence is antisymmetric, transitive and total.  It is decided by the numbers and after them
by the pre-release, and by nothing else; a pre-release that was read is known by its text.  What is
higher is what is strictly above, and ranges do not tell apart versions of equal precedence. -/
theorem precedence_total_order :
    (∀ a b : Version, b.precedence a = (a.precedence b).swap) ∧
    (∀ a b c : Version, a.AtMost b → b.AtMost c → a.AtMost c) ∧
    (∀ a b : Version, a.AtMost b ∨ b.AtMost a) ∧
    (∀ a b : Version, a.precedence b = .eq ↔
      a.major = b.major ∧ a.minor = b.minor ∧ a.patch = b.patch ∧ a.pre = b.pre) ∧
    (∀ a b : Version, a.precedence b = .lt ↔
      a.numbers < b.numbers ∨ a.numbers = b.numbers ∧ a.pre.Below b.pre) ∧
    (∀ (s t : String) (a b : Version), parse s = .ok a → parse t = .ok b →
      (a.pre.chars = b.pre.chars ↔ a.pre = b.pre)) ∧
    (∀ a b : Version, a.isHigher b = true ↔ b.AtMost a ∧ ¬ a.AtMost b) ∧
    ∀ (r : VersionRange) (a b : Version), a.precedence b = .eq → r.admits a = r.admits b := by
  refine ⟨fun a b => OrientedCmp.eq_swap, fun a b c => AtMost.trans, atMost_total,
    precedence_eq_iff, fun a b => ?_, fun s t a b ha hb => ?_, isHigher_iff,
    fun r a b h => r.admits_congr h⟩
  · rw [precedence_eq_lt_iff, Prerelease.order_eq_lt_iff]
  · have hvalid {s : String} {v : Version} (h : parse s = .ok v) : v.pre.Valid :=
      (valid_of_read ((parse_eq_ok_iff s v).mp h)).pre
    exact Prerelease.chars_inj (hvalid ha) (hvalid hb)

/-- A pre-release of the first version. -/
def candidate (last : Identifier) : Version := ⟨1, 0, 0, [.textual "rc".toList, last], []⟩

/-- The tenth candidate comes after the ninth and before one with a name, and its build metadata
makes no difference to a range. -/
theorem precedence_total_order_candidates :
    parse "1.0.0-rc.9" = .ok (candidate (.numeric 9)) ∧
      parse "1.0.0-rc.10" = .ok (candidate (.numeric 10)) ∧
      parse "1.0.0-rc.x" = .ok (candidate (.textual ['x'])) ∧
      (candidate (.numeric 9)).pre.Below (candidate (.numeric 10)).pre ∧
      (candidate (.numeric 9)).AtMost (candidate (.textual ['x'])) ∧
      (candidate (.textual ['x'])).isHigher (candidate (.numeric 10)) = true ∧
      (candidate (.numeric 9)).pre.chars ≠ (candidate (.numeric 10)).pre.chars ∧
      ∀ (r : VersionRange) (build : List Char),
        r.admits { candidate (.numeric 9) with build } = r.admits (candidate (.numeric 9)) := by
  obtain ⟨-, htrans, -, heq, hlt, hchars, hhigher, hranges⟩ := precedence_total_order
  have hnine : parse "1.0.0-rc.9" = .ok (candidate (.numeric 9)) := rfl
  have hten : parse "1.0.0-rc.10" = .ok (candidate (.numeric 10)) := rfl
  have hbelow := (hlt (candidate (.numeric 9)) (candidate (.numeric 10))).mp (by decide)
  refine ⟨hnine, hten, rfl, (hbelow.resolve_left (by decide)).2, ?_, ?_, ?_, fun r build => ?_⟩
  · exact htrans _ (candidate (.numeric 10)) _ (by decide) (by decide)
  · exact (hhigher _ _).mpr ⟨by decide, by decide⟩
  · exact mt (hchars _ _ _ _ hnine hten).mp (by decide)
  · exact hranges r _ _ ((heq _ _).mpr ⟨rfl, rfl, rfl, rfl⟩)

end Version

/-! ## Intervals -/

variable {a b c : Version}

namespace Limit

theorem admitsAbove_of_atMost {l : Limit} (h : a.AtMost b) (ha : l.admitsAbove a = true) :
    l.admitsAbove b = true := by
  cases l with
  | «open» => rfl
  | inclusive bound =>
    rw [admitsAbove, bne_iff_ne, ← Version.atMost_iff_ne_lt] at ha ⊢
    exact ha.trans h
  | exclusive bound =>
    rw [admitsAbove, beq_iff_eq, ← Version.not_atMost_iff] at ha ⊢
    exact fun hb => ha (h.trans hb)

theorem admitsBelow_of_atMost {l : Limit} (h : a.AtMost b) (hb : l.admitsBelow b = true) :
    l.admitsBelow a = true := by
  cases l with
  | «open» => rfl
  | inclusive bound =>
    rw [admitsBelow, bne_iff_ne] at hb ⊢
    exact h.trans hb
  | exclusive bound =>
    rw [admitsBelow, beq_iff_eq, ← Version.not_atMost_iff_lt] at hb ⊢
    exact fun ha => hb (ha.trans h)

end Limit

/-- Comparators stand for intervals, which have no gaps. -/
theorem Comparator.admits_of_between {comparator : Comparator} (hab : a.AtMost b)
    (hbc : b.AtMost c) (ha : comparator.admits a = true) (hc : comparator.admits c = true) :
    comparator.admits b = true := by
  rw [admits, Interval.contains, Bool.and_eq_true] at ha hc ⊢
  exact ⟨Limit.admitsAbove_of_atMost hab ha.1, Limit.admitsBelow_of_atMost hbc hc.2⟩

/-- A release needs no comparator that names it. -/
theorem ComparatorSet.admits_of_between {set : ComparatorSet} (hab : a.AtMost b)
    (hbc : b.AtMost c) (hb : b.pre = []) (ha : set.admits a = true) (hc : set.admits c = true) :
    set.admits b = true := by
  rw [admits, Bool.and_eq_true, List.all_eq_true] at ha hc ⊢
  refine ⟨fun d hd => Comparator.admits_of_between hab hbc (ha.1 d hd) (hc.1 d hd), ?_⟩
  rw [hb]
  rfl

namespace VersionRange

theorem length_sets_of_parse {s : String} {r : VersionRange} (h : parse s = .ok r) :
    r.sets.length = (Text.splitBars s.toList).length := by
  rw [parse_eq_ok_iff, read, bind_eq_ok_iff] at h
  obtain ⟨sets, hsets, hr⟩ := h
  cases hr
  exact ((mapM_eq_ok_iff _ _ _).mp hsets).length_eq.symm

/-- A text without two bars is read as one set, and no other text is.  Such a range admits every
release between two versions that it admits. -/
theorem admits_release_between {s : String} {r : VersionRange} (h : parse s = .ok r) :
    (r.sets.length = 1 ↔ ¬ ['|', '|'] <:+: s.toList) ∧
      (r.sets.length = 1 → ∀ a b c : Version, a.AtMost b → b.AtMost c → b.pre = [] →
        r.admits a = true → r.admits c = true → r.admits b = true) := by
  constructor
  · rw [length_sets_of_parse h, Text.length_splitBars_eq_one_iff]
  · intro hone a b c hab hbc hb ha hc
    obtain ⟨set, hset⟩ := List.length_eq_one_iff.mp hone
    simp only [admits, hset, List.any_cons, List.any_nil, Bool.or_false] at ha hc ⊢
    exact ComparatorSet.admits_of_between hab hbc hb ha hc

/-- From a candidate of its lowest version to the highest below the next. -/
theorem admits_release_between_candidate :
    ∃ r, parse "^1.2.3-rc.1 <2" = .ok r ∧ ¬ ['|', '|'] <:+: "^1.2.3-rc.1 <2".toList ∧
      r.admits ⟨1, 2, 3, [.textual "rc".toList, .numeric 2], []⟩ = true ∧
      r.admits ⟨1, 9, 9, [], []⟩ = true ∧ r.admits ⟨1, 4, 0, [], []⟩ = true := by
  have hread : parse "^1.2.3-rc.1 <2" =
      .ok ⟨[[⟨.caret, ⟨some 1, some 2, some 3, [.textual "rc".toList, .numeric 1]⟩⟩,
        ⟨.less, ⟨some 2, none, none, []⟩⟩]]⟩ := rfl
  obtain ⟨hbars, hbetween⟩ := admits_release_between hread
  refine ⟨_, hread, hbars.mp rfl, by decide, by decide, ?_⟩
  exact hbetween rfl ⟨1, 2, 3, [.textual "rc".toList, .numeric 2], []⟩ _ ⟨1, 9, 9, [], []⟩
    (by decide) (by decide) rfl (by decide) (by decide)

end VersionRange

end ModuleSharing
