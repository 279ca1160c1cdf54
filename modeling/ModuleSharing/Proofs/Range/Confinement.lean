import ModuleSharing.Proofs.Range.Bounds
import ModuleSharing.Proofs.Version.Precedence

/-! How far a caret, a tilde or open numbers confine the versions that a set admits.  The versions
between the two bounds of such a comparator have the numbers that it fixes, but for pre-releases of
its upper bound, which lie below that bound (`Comparator.admits_iff_of_confines`).  Where another
comparator names such a pre-release, the set admits it
(`VersionRange.confined_but_for_next_prereleases`).  The same holds of `<*` and `>*`, whose bound is
the lowest release of all. -/

namespace ModuleSharing

/-! ## Versions below a release -/

namespace Version

def numbers (v : Version) : List Nat := [v.major, v.minor, v.patch]

/-- Versions compare by their numbers first. -/
theorem precedence_eq_lt_iff (v w : Version) :
    v.precedence w = .lt ↔
      v.numbers < w.numbers ∨ v.numbers = w.numbers ∧ Prerelease.order v.pre w.pre = .lt := by
  simp only [precedence, numbers, Ordering.then_eq_lt, Nat.compare_eq_lt, Nat.compare_eq_eq,
    List.cons_lt_cons_iff, List.cons.injEq, List.lt_irrefl]
  tauto

/-- A pre-release of the same three numbers. -/
structure IsPrereleaseOf (v w : Version) : Prop where
  pre : v.pre ≠ []
  numbers : v.numbers = w.numbers

/-- Below a release are the versions with lower numbers and its pre-releases. -/
theorem precedence_release_iff {v w : Version} (h : w.pre = []) :
    v.precedence w = .lt ↔ v.numbers < w.numbers ∨ v.IsPrereleaseOf w := by
  have hpre : Prerelease.order v.pre [] = .lt ↔ v.pre ≠ [] := by
    cases v.pre <;> simp [Prerelease.order]
  rw [precedence_eq_lt_iff, h, hpre]
  exact or_congr_right ⟨fun ⟨hn, hp⟩ => ⟨hp, hn⟩, fun ⟨hp, hn⟩ => ⟨hn, hp⟩⟩

end Version

/-! ## Numbers between a beginning and the next one -/

namespace Partial

theorem length_raised (numbers : List Nat) : (raised numbers).length = numbers.length := by
  fun_induction raised numbers <;> simp_all

theorem numbers_floor_filled {numbers : List Nat} (h : numbers.length ≤ 3) (pre : Prerelease) :
    (filled numbers pre).floor.numbers =
      numbers ++ List.replicate (3 - numbers.length) 0 := by
  match numbers with
  | [] | [_] | [_, _] | [_, _, _] => rfl

theorem not_lt_zeros (xs : List Nat) : ¬ xs < List.replicate xs.length 0 := by
  induction xs with
  | nil => exact List.lt_irrefl []
  | cons x xs ih =>
    rw [List.length_cons, List.replicate_succ, List.cons_lt_cons_iff]
    rintro (hlt | ⟨-, hlt⟩)
    · exact Nat.not_lt_zero x hlt
    · exact ih hlt

private theorem le_of_not_cons_lt {x n : Nat} {xs ns : List Nat} (h : ¬ x :: xs < n :: ns) :
    n ≤ x ∧ (x = n → ¬ xs < ns) := by
  rw [List.cons_lt_cons_iff, not_or, not_and] at h
  exact ⟨Nat.le_of_not_lt h.1, h.2⟩

/-- From `beginning` on, the lists before the next beginning of its length are those that start
with it. -/
theorem lt_raised_iff {beginning xs : List Nat} {rest : Nat} (hne : beginning ≠ [])
    (hlength : xs.length = beginning.length + rest) (hle : ¬ xs < beginning) :
    xs < raised beginning ++ List.replicate rest 0 ↔ beginning <+: xs := by
  fun_induction raised beginning generalizing xs with
  | case1 => contradiction
  | case2 n =>
    obtain _ | ⟨x, xs⟩ := xs
    · simp at hlength
      omega
    have hn := (le_of_not_cons_lt hle).1
    -- with the next number in front there is nothing below it but zeros, and below these nothing
    have hzeros : ¬ xs < List.replicate rest 0 := by
      obtain rfl : xs.length = rest := by simpa [Nat.add_comm] using hlength
      exact not_lt_zeros xs
    rw [List.singleton_append, List.cons_lt_cons_iff, List.cons_prefix_cons]
    constructor
    · rintro (hlt | ⟨-, hlt⟩)
      · exact ⟨Nat.le_antisymm hn (Nat.le_of_lt_succ hlt), List.nil_prefix⟩
      · exact absurd hlt hzeros
    · rintro ⟨rfl, -⟩
      exact .inl (Nat.lt_succ_self n)
  | case3 n m beginning ih =>
    obtain _ | ⟨x, xs⟩ := xs
    · simp at hlength
      omega
    obtain ⟨hn, htail⟩ := le_of_not_cons_lt hle
    have hlength : xs.length = (m :: beginning).length + rest := by
      simp only [List.length_cons] at hlength ⊢
      omega
    have htails (hx : x = n) := ih (List.cons_ne_nil m beginning) hlength (htail hx)
    rw [List.cons_append, List.cons_lt_cons_iff, List.cons_prefix_cons]
    constructor
    · rintro (hlt | ⟨rfl, hlt⟩)
      · exact absurd hn (Nat.not_le_of_lt hlt)
      · exact ⟨rfl, (htails rfl).mp hlt⟩
    · rintro ⟨rfl, hprefix⟩
      exact .inr ⟨rfl, (htails rfl).mpr hprefix⟩

end Partial

/-! ## Comparators that confine -/

namespace Comparator

/-- The carets, the tildes and the open numbers without a sign. -/
def Confines (c : Comparator) : Prop :=
  c.op = .caret ∨ c.op = .tilde ∨ c.op = .exact ∧ c.version.isFull = false

/-- The versions with the numbers that a comparator fixes. -/
def Agrees (c : Comparator) (v : Version) : Prop := c.fixed <+: v.numbers

theorem length_given_le (p : Partial) : p.given.length ≤ 3 := List.reduceOption_length_le _

theorem given_ne_nil {p : Partial} (h : p.major ≠ none) : p.given ≠ [] := by
  obtain ⟨major, hmajor⟩ := Option.ne_none_iff_exists'.mp h
  rw [Partial.given, Partial.numbers, hmajor, List.reduceOption_cons_of_some]
  exact List.cons_ne_nil _ _

theorem fixed_eq_nil_iff (c : Comparator) : c.fixed = [] ↔ c.version.given = [] := by
  unfold fixed
  split
  · cases c.version.given <;> simp [Partial.leading]
    split <;> simp
  · simp
  · rfl

/-- From the first version described to the first release past the others. -/
theorem interval_of_confines {c : Comparator} (h : c.version.WellFormed)
    (hgiven : c.version.major ≠ none) (hc : c.Confines) :
    c.interval = .upTo c.first.floor c.next.floor := by
  obtain ⟨op, p⟩ := c
  obtain ⟨major, hmajor⟩ : ∃ major, p.major = some major := Option.ne_none_iff_exists'.mp hgiven
  rw [floor_first op h]
  obtain rfl | rfl | ⟨rfl, hfull⟩ := hc
  · simp only [interval, hmajor, caretNext_eq h hmajor]
  · simp only [interval, hmajor, tildeNext_eq h hmajor]
  · have hceiling : p.ceiling? = some (next ⟨.exact, p⟩).floor := by
      rw [@ceiling?_eq .exact p h hgiven rfl, if_neg (by simp [hfull])]
    simp only [interval, hmajor, hceiling]

theorem length_fixed_le (c : Comparator) : c.fixed.length ≤ 3 :=
  Nat.le_trans c.fixed_prefix.length_le (length_given_le c.version)

/-- A version that is not below the first one described does not have lower numbers than those
fixed. -/
theorem not_lt_fixed {c : Comparator} {v : Version} (h : v.precedence c.first.floor ≠ .lt) :
    ¬ v.numbers < c.fixed := by
  obtain ⟨rest, hrest⟩ := c.fixed_prefix
  have hfirst :
      ¬ v.numbers < c.fixed ++ (rest ++ List.replicate (3 - c.version.given.length) 0) := by
    rw [← List.append_assoc, hrest, ← Partial.numbers_floor_filled (length_given_le c.version)]
    exact fun hlt => h ((Version.precedence_eq_lt_iff v _).mpr (.inl hlt))
  exact List.not_lt.mpr (List.le_trans List.le_append_left (List.not_lt.mp hfirst))

/-- Up to its next release, a confining comparator admits the versions that agree with it and the
pre-releases of that release. -/
theorem admits_iff_of_confines {c : Comparator} (h : c.version.WellFormed)
    (hgiven : c.version.major ≠ none) (hc : c.Confines) (v : Version) :
    c.admits v ↔
      v.precedence c.first.floor ≠ .lt ∧ (c.Agrees v ∨ v.IsPrereleaseOf c.next.floor) := by
  have hfixed : c.fixed ≠ [] := mt c.fixed_eq_nil_iff.mp (given_ne_nil hgiven)
  have hlength : v.numbers.length = c.fixed.length + (3 - c.fixed.length) :=
    (Nat.add_sub_of_le c.length_fixed_le).symm
  rw [admits, interval_of_confines h hgiven hc, Interval.contains, Interval.upTo, Bool.and_eq_true,
    Limit.admitsAbove, Limit.admitsBelow, bne_iff_ne, beq_iff_eq,
    Version.precedence_release_iff (w := c.next.floor) rfl]
  refine and_congr_right fun hfirst => or_congr_left ?_
  rw [next, Partial.numbers_floor_filled (by rw [Partial.length_raised]; exact c.length_fixed_le),
    Partial.length_raised]
  exact Partial.lt_raised_iff hfixed hlength (not_lt_fixed hfirst)

/-- A wildcard fixes no number. -/
theorem agrees_of_any {c : Comparator} (h : c.version = .any) (v : Version) : c.Agrees v := by
  have hfixed : c.fixed = [] := c.fixed_eq_nil_iff.mpr (by rw [h]; rfl)
  rw [Agrees, hfixed]
  exact List.nil_prefix

/-- A comparator that names pre-releases agrees with them. -/
theorem agrees_of_namesPrereleaseOf {c : Comparator} {v : Version}
    (h : c.namesPrereleaseOf v = true) : c.Agrees v := by
  simp only [namesPrereleaseOf, Bool.and_eq_true, beq_iff_eq] at h
  obtain ⟨⟨⟨-, hmajor⟩, hminor⟩, hpatch⟩ := h
  have hgiven : c.version.given = v.numbers := by
    rw [Partial.given, Partial.numbers, hmajor, hminor, hpatch]
    rfl
  rw [Agrees, ← hgiven]
  exact c.fixed_prefix

/-- The barriers admit the pre-releases of the lowest release and nothing else. -/
theorem admits_iff_of_isBarrier {c : Comparator} (hc : c.IsBarrier) (v : Version) :
    c.admits v ↔ v.IsPrereleaseOf ⟨0, 0, 0, [], []⟩ := by
  have hinterval : c.interval = .empty := by
    obtain ⟨op, p⟩ := c
    obtain ⟨rfl | rfl, rfl⟩ := hc <;> rfl
  have hlowest : ¬ v.numbers < [0, 0, 0] := Partial.not_lt_zeros v.numbers
  rw [admits, hinterval, Interval.contains, Interval.empty, Bool.and_eq_true, Limit.admitsAbove,
    Limit.admitsBelow, beq_iff_eq, Version.precedence_release_iff rfl]
  constructor
  · rintro ⟨-, h⟩
    exact h.resolve_left hlowest
  · intro h
    exact ⟨rfl, .inr h⟩

end Comparator

/-! ## Sets -/

theorem ComparatorSet.exists_names_of_prerelease {set : ComparatorSet} {v : Version}
    (h : ComparatorSet.admits set v = true) (hpre : v.pre ≠ []) :
    ∃ d ∈ set, d.namesPrereleaseOf v = true := by
  rw [admits, Bool.and_eq_true, Bool.or_eq_true] at h
  exact List.any_eq_true.mp (h.2.resolve_left (mt List.isEmpty_iff.mp hpre))

namespace VersionRange

/-- Every version that a set of a range admits agrees with its carets, tildes and open numbers, or
is a pre-release of the release past one of these, named by another comparator of the set.  Sets
with `<*` or `>*` admit no release. -/
theorem confined_but_for_next_prereleases {s : String} {r : VersionRange} (h : parse s = .ok r)
    {set : ComparatorSet} (hset : set ∈ r.sets) {v : Version} (hv : set.admits v = true) :
    (∀ c ∈ set, c.Confines → c.Agrees v ∨
      v.IsPrereleaseOf c.next.floor ∧ ∃ d ∈ set, d ≠ c ∧ d.namesPrereleaseOf v = true) ∧
    ∀ c ∈ set, c.IsBarrier →
      v.IsPrereleaseOf ⟨0, 0, 0, [], []⟩ ∧ ∃ d ∈ set, d.namesPrereleaseOf v = true := by
  have hwell := (wellFormed_of_read ((parse_eq_ok_iff s r).mp h)).sets set hset
  have hall : ∀ c ∈ set, c.admits v = true := by
    rw [ComparatorSet.admits, Bool.and_eq_true, List.all_eq_true] at hv
    exact hv.1
  constructor
  · intro c hc hconfines
    by_cases hagrees : c.Agrees v
    · exact .inl hagrees
    have hgiven : c.version.major ≠ none := fun hmajor =>
      hagrees (Comparator.agrees_of_any (Partial.eq_any_of_major (hwell.versions c hc) hmajor) v)
    obtain ⟨-, hagrees' | hpre⟩ :=
      (Comparator.admits_iff_of_confines (hwell.versions c hc) hgiven hconfines v).mp (hall c hc)
    · contradiction
    obtain ⟨d, hd, hnames⟩ := ComparatorSet.exists_names_of_prerelease hv hpre.pre
    refine .inr ⟨hpre, d, hd, ?_, hnames⟩
    rintro rfl
    exact hagrees (Comparator.agrees_of_namesPrereleaseOf hnames)
  · intro c hc hbarrier
    have hpre := (Comparator.admits_iff_of_isBarrier hbarrier v).mp (hall c hc)
    exact ⟨hpre, ComparatorSet.exists_names_of_prerelease hv hpre.pre⟩

theorem confined_but_for_next_prereleases_twoBounds :
    ∃ set v, parse "~1.2 <1.3.0-b" = .ok ⟨[set]⟩ ∧ set.admits v = true ∧
      (∀ c ∈ set, c.Confines → c.Agrees v ∨
        v.IsPrereleaseOf c.next.floor ∧ ∃ d ∈ set, d ≠ c ∧ d.namesPrereleaseOf v = true) ∧
      ∀ c ∈ set, c.IsBarrier →
        v.IsPrereleaseOf ⟨0, 0, 0, [], []⟩ ∧ ∃ d ∈ set, d.namesPrereleaseOf v = true :=
  have hread : parse "~1.2 <1.3.0-b" = .ok ⟨[[⟨.tilde, ⟨some 1, some 2, none, []⟩⟩,
      ⟨.less, ⟨some 1, some 3, some 0, [.textual ['b']]⟩⟩]]⟩ := rfl
  have hadmits : ComparatorSet.admits [⟨.tilde, ⟨some 1, some 2, none, []⟩⟩,
      ⟨.less, ⟨some 1, some 3, some 0, [.textual ['b']]⟩⟩]
      ⟨1, 3, 0, [.textual ['a']], []⟩ = true := by decide
  ⟨_, _, hread, hadmits,
    confined_but_for_next_prereleases hread (List.mem_singleton_self _) hadmits⟩

/-- A caret of `1` admits a pre-release of `2`, and `<*` one of the lowest release. -/
theorem caret_admits_next_prerelease :
    (∃ caret most : Comparator, parse "^1.0.0 <=2.0.0-alpha" = .ok ⟨[[caret, most]]⟩ ∧
      caret.Confines ∧ ComparatorSet.admits [caret, most] ⟨2, 0, 0, [.textual "alpha".toList], []⟩ ∧
      ¬ caret.Agrees ⟨2, 0, 0, [.textual "alpha".toList], []⟩) ∧
    ∃ barrier least : Comparator, parse "<* >=0.0.0-alpha" = .ok ⟨[[barrier, least]]⟩ ∧
      barrier.IsBarrier ∧
      ComparatorSet.admits [barrier, least] ⟨0, 0, 0, [.textual "alpha".toList], []⟩ := by
  refine ⟨⟨⟨.caret, ⟨some 1, some 0, some 0, []⟩⟩,
    ⟨.lessEq, ⟨some 2, some 0, some 0, [.textual "alpha".toList]⟩⟩, rfl, .inl rfl, by decide, ?_⟩,
    ⟨⟨.less, .any⟩, ⟨.greaterEq, ⟨some 0, some 0, some 0, [.textual "alpha".toList]⟩⟩, rfl,
      ⟨.inl rfl, rfl⟩, by decide⟩⟩
  exact fun h => absurd (List.cons_prefix_cons.mp h).1 (by decide)

end VersionRange

end ModuleSharing
