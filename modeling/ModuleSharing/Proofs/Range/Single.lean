import ModuleSharing.Proofs.Range.Admission
import ModuleSharing.Proofs.Range.Canonical
import ModuleSharing.Proofs.Version.Writing

/-! A text that is a version is also a range, the one that admits this version and no other
(`VersionRange.version_text_as_range`).  Whatever blanks and mark stand around the strict text, they
spell a range: the mark is a sign of an exact comparator, and blanks may follow a sign. -/

namespace ModuleSharing

namespace Version

/-- The version with nothing left open. -/
def exactly (v : Version) : Partial := ⟨some v.major, some v.minor, some v.patch, v.pre⟩

theorem spelled_exactly {v : Version} (h : v.Valid) : v.exactly.Spelled v.chars := by
  have hnumbers : Numbers [some v.major, some v.minor, some v.patch] :=
    ⟨by simp [MissingLast], by simpa using ⟨h.major, h.minor, h.patch⟩⟩
  have hfull : ([some v.major, some v.minor, some v.patch] : List (Option Nat))[2]?.join.isSome :=
    rfl
  have hbuild : BuildPart (introduced '+' v.build) := by
    by_cases hnone : v.build = []
    · rw [hnone]
      exact .absent
    · rw [eq_introduced hnone]
      refine .given fun c hc => ?_
      have hchar := h.build.chars c hc
      rw [Bool.or_eq_true, beq_iff_eq] at hchar
      rcases hchar with hchar | rfl
      · exact unbroken_of_isIdentifierChar hchar
      · decide
  have hspelled := Partial.Spelled.parts (.inl rfl)
    (.of_numbers hnumbers (by simp) (by simp) (show 'x' ∈ wildcards by decide))
    (.introduced (fun _ => hfull) h.pre) hbuild
  have hexactly : v.exactly = Partial.ofNumbers [v.major, v.minor, v.patch] v.pre := rfl
  rw [hexactly]
  simpa [chars, List.intercalate_cons_cons] using hspelled

end Version

namespace Comparator

/-- Only the version itself lies between it and itself. -/
theorem admits_exactly (v w : Version) :
    admits ⟨.exact, v.exactly⟩ w = true ↔ w.precedence v = .eq := by
  -- the build metadata of the limits is empty, which the precedence does not see
  have hsame : w.precedence ⟨v.major, v.minor, v.patch, v.pre, []⟩ = w.precedence v :=
    Version.precedence_congr_right ((Version.precedence_eq_iff _ _).mpr ⟨rfl, rfl, rfl, rfl⟩) w
  have hinterval : interval ⟨.exact, v.exactly⟩ =
      { lower := .inclusive ⟨v.major, v.minor, v.patch, v.pre, []⟩
        upper := .inclusive ⟨v.major, v.minor, v.patch, v.pre, []⟩ } := rfl
  simp only [admits, hinterval, Interval.contains, Limit.admitsAbove, Limit.admitsBelow, hsame]
  cases w.precedence v <;> decide

/-- A comparator that names a pre-release lets it in. -/
theorem namesPrereleaseOf_exactly {v w : Version} (h : w.precedence v = .eq) :
    w.pre = [] ∨ namesPrereleaseOf ⟨.exact, v.exactly⟩ w = true := by
  obtain ⟨hmajor, hminor, hpatch, hpre⟩ := (Version.precedence_eq_iff w v).mp h
  by_cases hrelease : w.pre = []
  · exact .inl hrelease
  · refine .inr ?_
    rw [hpre] at hrelease
    simp [namesPrereleaseOf, Version.exactly, hmajor, hminor, hpatch, hrelease]

end Comparator

namespace VersionRange

theorem admits_exactly (v w : Version) :
    admits ⟨[[⟨.exact, v.exactly⟩]]⟩ w = true ↔ w.precedence v = .eq := by
  simp only [admits, ComparatorSet.admits, List.any_cons, List.any_nil, List.all_cons, List.all_nil,
    Bool.or_false, Bool.and_true, Bool.and_eq_true, Bool.or_eq_true, Comparator.admits_exactly,
    List.isEmpty_iff]
  exact ⟨And.left, fun h => ⟨h, Comparator.namesPrereleaseOf_exactly h⟩⟩

theorem spelled_of_readLoose {cs : List Char} {v : Version} (h : Version.readLoose cs = .ok v) :
    Spelled [[⟨.exact, v.exactly⟩]] cs := by
  have hversion := Version.spelled_exactly (Version.valid_of_read h)
  obtain ⟨before, marked, after, hbefore, hafter, hmarked, rfl⟩ := Version.exists_loose h
  refine .one hbefore (.listed (.one ?_)) hafter
  rcases hmarked with rfl | ⟨mark, gap, hmark, hgap, rfl⟩
  · exact Comparator.spelled_of_exact hversion
  · have hsign : [mark] ∈ Operator.exact.aliases := by
      rcases hmark with rfl | rfl <;> decide
    by_cases hnone : gap = []
    · subst hnone
      exact .attached hsign hversion
    · exact .apart hsign (by simp) ⟨hnone, hgap⟩ hversion

theorem parse_of_parse_version {s : String} {v : Version} (h : Version.parse s = .ok v) :
    parse s = .ok ⟨[[⟨.exact, v.exactly⟩]]⟩ := by
  rw [Version.parse_eq_ok_iff] at h
  rw [parse_eq_ok_iff]
  exact read_of_spelled (spelled_of_readLoose h)

/-- The text of a version that was read is read as that version, and as a range both texts admit the
versions with the same numbers and pre-release, whatever their build metadata. -/
theorem version_text_as_range {s : String} {v : Version} (h : Version.parse s = .ok v) :
    Version.parse v.text = .ok v ∧
      ∃ r, parse s = .ok r ∧ parse v.text = .ok r ∧
        ∀ w, (r.admits w = true ↔ w.precedence v = .eq) ∧
          (r.admits w = true ↔
            w.major = v.major ∧ w.minor = v.minor ∧ w.patch = v.patch ∧ w.pre = v.pre) := by
  have hwritten := Version.parse_text_of_parse h
  refine ⟨hwritten, _, parse_of_parse_version h, parse_of_parse_version hwritten, fun w => ?_⟩
  rw [admits_exactly]
  exact ⟨Iff.rfl, Version.precedence_eq_iff w v⟩

/-- A mark apart from its version, hyphens in the pre-release and in the build metadata. -/
theorem version_text_as_range_hyphens :
    Version.parse " v 1.2.3-rc-1.0+b-2 " =
        .ok ⟨1, 2, 3, [.textual "rc-1".toList, .numeric 0], "b-2".toList⟩ ∧
      Version.parse "1.2.3-rc-1.0+b-2" =
        .ok ⟨1, 2, 3, [.textual "rc-1".toList, .numeric 0], "b-2".toList⟩ ∧
      ∃ r, parse " v 1.2.3-rc-1.0+b-2 " = .ok r ∧ parse "1.2.3-rc-1.0+b-2" = .ok r ∧
        r.admits ⟨1, 2, 3, [.textual "rc-1".toList, .numeric 0], []⟩ = true ∧
        r.admits ⟨1, 2, 3, [], []⟩ = false := by
  have hread : Version.parse " v 1.2.3-rc-1.0+b-2 " =
      .ok ⟨1, 2, 3, [.textual "rc-1".toList, .numeric 0], "b-2".toList⟩ := rfl
  obtain ⟨hwritten, r, hs, htext, hadmits⟩ := version_text_as_range hread
  have hrelease := (hadmits ⟨1, 2, 3, [], []⟩).2
  refine ⟨hread, hwritten, r, hs, htext, (hadmits _).2.mpr ⟨rfl, rfl, rfl, rfl⟩, ?_⟩
  rw [Bool.eq_false_iff, Ne, hrelease]
  simp

end VersionRange

end ModuleSharing
