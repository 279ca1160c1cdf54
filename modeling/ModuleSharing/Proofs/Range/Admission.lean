import ModuleSharing.Range.Basic
import ModuleSharing.Proofs.Version.Precedence

/-! A range cannot tell apart two versions of equal precedence: limits look at the precedence only,
and a comparator names pre-releases by their three numbers. -/

namespace ModuleSharing

variable {v w : Version}

theorem Limit.admitsAbove_congr (h : v.precedence w = .eq) (l : Limit) :
    l.admitsAbove v = l.admitsAbove w := by
  cases l <;> simp only [admitsAbove, Version.precedence_congr_left h]

theorem Limit.admitsBelow_congr (h : v.precedence w = .eq) (l : Limit) :
    l.admitsBelow v = l.admitsBelow w := by
  cases l <;> simp only [admitsBelow, Version.precedence_congr_left h]

theorem Comparator.admits_congr (h : v.precedence w = .eq) (c : Comparator) :
    c.admits v = c.admits w := by
  simp only [admits, Interval.contains, Limit.admitsAbove_congr h, Limit.admitsBelow_congr h]

theorem Comparator.namesPrereleaseOf_congr (h : v.precedence w = .eq) (c : Comparator) :
    c.namesPrereleaseOf v = c.namesPrereleaseOf w := by
  obtain ⟨hmajor, hminor, hpatch, _⟩ := (Version.precedence_eq_iff v w).mp h
  simp only [namesPrereleaseOf, hmajor, hminor, hpatch]

theorem ComparatorSet.admits_congr (h : v.precedence w = .eq) (set : ComparatorSet) :
    ComparatorSet.admits set v = ComparatorSet.admits set w := by
  obtain ⟨_, _, _, hpre⟩ := (Version.precedence_eq_iff v w).mp h
  simp only [admits, Comparator.admits_congr h, Comparator.namesPrereleaseOf_congr h, hpre]

theorem VersionRange.admits_congr (h : v.precedence w = .eq) (r : VersionRange) :
    r.admits v = r.admits w := by
  simp only [admits, ComparatorSet.admits_congr h]

end ModuleSharing
