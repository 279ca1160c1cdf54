import Mathlib.Data.List.ReduceOption
import ModuleSharing.Proofs.Range.Canonical
import ModuleSharing.Proofs.Version.Reading

/-! Ranges read as bounds.  Each comparator stands for at most two comparisons with full versions
(`Comparator.bounds`): with the lowest version that its numbers describe, and with the first release
past those that it allows, which is found by raising one of the given numbers.  A range admits the
same versions with its comparators replaced in this way (`VersionRange.bounded_admits`),
pre-releases included: the bounds name just the pre-releases that the comparator names.  Raising a
number stays within 64 bits unless it is the largest one (`Comparator.valid_of_mem_limits`). -/

namespace ModuleSharing

namespace Partial

/-- The numbers that are given. -/
def given (p : Partial) : List Nat := p.numbers.reduceOption

/-- The version with these numbers, zero where there is none. -/
def filled (numbers : List Nat) (pre : Prerelease) : Partial :=
  ⟨some (numbers.getD 0 0), some (numbers.getD 1 0), some (numbers.getD 2 0), pre⟩

/-- The last number goes up by one. -/
def raised : List Nat → List Nat
  | [] => []
  | [n] => [n + 1]
  | n :: m :: ns => n :: raised (m :: ns)

/-- The numbers up to the first that is not zero, all of them if all are zero. -/
def leading : List Nat → List Nat
  | [] => []
  | n :: ns => if n = 0 then n :: leading ns else [n]

end Partial

namespace Comparator

/-- The given numbers in which all versions that the comparator describes agree. -/
def fixed (c : Comparator) : List Nat :=
  match c.op with
  | .caret => Partial.leading c.version.given
  | .tilde => c.version.given.take 2
  | _ => c.version.given

/-- The lowest version described. -/
def first (c : Comparator) : Partial := .filled c.version.given c.version.pre

/-- The first release past those described. -/
def next (c : Comparator) : Partial := .filled (Partial.raised c.fixed) []

/-- The comparisons with full versions that a comparator stands for. A wildcard alone asks for
nothing; `<*` and `>*`, which no release satisfies, stay as they are. -/
def bounds (c : Comparator) : ComparatorSet :=
  if c.version.major.isNone then
    match c.op with
    | .less | .greater => [c]
    | _ => []
  else
    match c.op with
    | .caret | .tilde => [⟨.greaterEq, c.first⟩, ⟨.less, c.next⟩]
    | .exact =>
      if c.version.isFull then [⟨.greaterEq, c.first⟩, ⟨.lessEq, c.first⟩]
      else [⟨.greaterEq, c.first⟩, ⟨.less, c.next⟩]
    | .greater => if c.version.isFull then [⟨.greater, c.first⟩] else [⟨.greaterEq, c.next⟩]
    | .lessEq => if c.version.isFull then [⟨.lessEq, c.first⟩] else [⟨.less, c.next⟩]
    | .less => [⟨.less, c.first⟩]
    | .greaterEq => [⟨.greaterEq, c.first⟩]

/-- A comparison with a full version that can be written. -/
structure IsBound (c : Comparator) : Prop where
  op : c.op ∈ [.greater, .greaterEq, .less, .lessEq]
  full : c.version.isFull = true
  wellFormed : c.version.WellFormed

/-- The comparators `<*` and `>*`. -/
structure IsBarrier (c : Comparator) : Prop where
  op : c.op = .less ∨ c.op = .greater
  version : c.version = .any

end Comparator

namespace VersionRange

/-- The range with every comparator replaced by its bounds. -/
def bounded (r : VersionRange) : VersionRange :=
  ⟨r.sets.map fun set => set.flatMap Comparator.bounds⟩

end VersionRange

/-! ## Where the intervals of comparators begin and end -/

namespace Comparator

theorem floor_first (op : Operator) {p : Partial} (h : p.WellFormed) :
    (first ⟨op, p⟩).floor = p.floor := by
  rcases h.shape with rfl | ⟨a, rfl⟩ | ⟨a, b, rfl⟩ | ⟨a, b, c, pre, rfl⟩ <;> rfl

theorem ceiling?_eq {op : Operator} {p : Partial} (h : p.WellFormed) (hmajor : p.major ≠ none)
    (hfixed : fixed ⟨op, p⟩ = p.given) :
    p.ceiling? = if p.isFull then none else some (next ⟨op, p⟩).floor := by
  rw [next, hfixed]
  rcases h.shape with rfl | ⟨a, rfl⟩ | ⟨a, b, rfl⟩ | ⟨a, b, c, pre, rfl⟩
  · contradiction
  all_goals rfl

theorem tildeNext_eq {p : Partial} (h : p.WellFormed) {major : Nat}
    (hmajor : p.major = some major) : tildeNext major p = (next ⟨.tilde, p⟩).floor := by
  rcases h.shape with rfl | ⟨a, rfl⟩ | ⟨a, b, rfl⟩ | ⟨a, b, c, pre, rfl⟩
  · contradiction
  all_goals
    cases hmajor
    rfl

theorem caretNext_eq {p : Partial} (h : p.WellFormed) {major : Nat}
    (hmajor : p.major = some major) : caretNext major p = (next ⟨.caret, p⟩).floor := by
  rcases h.shape with rfl | ⟨a, rfl⟩ | ⟨a, b, rfl⟩ | ⟨a, b, c, pre, rfl⟩
  · contradiction
  -- which number is raised is known once it is known which ones are zero
  · cases hmajor
    cases major <;> rfl
  · cases hmajor
    cases major <;> cases b <;> rfl
  · cases hmajor
    cases major <;> cases b <;> cases c <;> rfl

end Comparator

/-! ## Bounds as comparisons -/

namespace Comparator

variable (numbers : List Nat) (pre : Prerelease) (v : Version)

@[simp]
theorem admits_greaterEq_filled :
    admits ⟨.greaterEq, .filled numbers pre⟩ v =
      (Limit.inclusive (Partial.filled numbers pre).floor).admitsAbove v :=
  Bool.and_true _

@[simp]
theorem admits_greater_filled :
    admits ⟨.greater, .filled numbers pre⟩ v =
      (Limit.exclusive (Partial.filled numbers pre).floor).admitsAbove v :=
  Bool.and_true _

@[simp]
theorem admits_lessEq_filled :
    admits ⟨.lessEq, .filled numbers pre⟩ v =
      (Limit.inclusive (Partial.filled numbers pre).floor).admitsBelow v :=
  Bool.true_and _

@[simp]
theorem admits_less_filled :
    admits ⟨.less, .filled numbers pre⟩ v =
      (Limit.exclusive (Partial.filled numbers pre).floor).admitsBelow v :=
  Bool.true_and _

/-- The bounds of a comparator admit together what it admits. -/
theorem all_bounds {c : Comparator} (h : c.version.WellFormed) (v : Version) :
    c.bounds.all (·.admits v) = c.admits v := by
  obtain ⟨op, p⟩ := c
  cases hmajor : p.major with
  | none =>
    cases op <;>
      simp [bounds, hmajor, admits, interval, Interval.contains, Limit.admitsAbove,
        Limit.admitsBelow]
  | some major =>
    have hfloor := floor_first op h
    have hceiling := @ceiling?_eq op p h (by simp [hmajor])
    have htilde := tildeNext_eq h hmajor
    have hcaret := caretNext_eq h hmajor
    rw [first] at hfloor
    rw [next] at hceiling htilde hcaret
    rw [admits]
    simp only [interval, hmajor, htilde, hcaret, ← hfloor, Interval.contains]
    -- an interval is written with one bound for each limit that is not open
    cases op with
    | caret | tilde => simp [bounds, hmajor, first, next, Interval.upTo]
    | greaterEq => simp [bounds, hmajor, first, Limit.admitsBelow]
    | less => simp [bounds, hmajor, first, Limit.admitsAbove]
    | exact =>
      rw [hceiling rfl]
      cases hfull : p.isFull <;> simp [bounds, hmajor, hfull, first, next, Interval.upTo]
    | greater =>
      rw [hceiling rfl]
      cases hfull : p.isFull <;> simp [bounds, hmajor, hfull, first, next, Limit.admitsBelow]
    | lessEq =>
      rw [hceiling rfl]
      cases hfull : p.isFull <;> simp [bounds, hmajor, hfull, first, next, Limit.admitsAbove]

/-- The bounds of a comparator name the pre-releases that it names. -/
theorem any_bounds {c : Comparator} (h : c.version.WellFormed) (v : Version) :
    c.bounds.any (·.namesPrereleaseOf v) = c.namesPrereleaseOf v := by
  obtain ⟨op, p⟩ := c
  rcases h.shape with rfl | ⟨a, rfl⟩ | ⟨a, b, rfl⟩ | ⟨a, b, c, pre, rfl⟩
  · cases op <;> rfl
  · cases op <;> rfl
  · cases op <;> rfl
  · cases op <;>
      simp [bounds, first, next, Partial.given, Partial.numbers, Partial.filled, Partial.isFull,
        namesPrereleaseOf, List.reduceOption]

end Comparator

/-! ## Numbers of bounds -/

namespace Partial

theorem eq_any_of_major {p : Partial} (h : p.WellFormed) (hmajor : p.major = none) : p = .any := by
  obtain hany | ⟨a, rfl⟩ | ⟨a, b, rfl⟩ | ⟨a, b, c, pre, rfl⟩ := h.shape
  · exact hany
  all_goals contradiction

theorem le_of_mem_raised {numbers : List Nat} {limit : Nat} (h : ∀ n ∈ numbers, n < limit) :
    ∀ n ∈ raised numbers, n ≤ limit := by
  fun_induction raised numbers with
  | case1 => simp
  | case2 n =>
    intro m hm
    obtain rfl := List.mem_singleton.mp hm
    exact h n (List.mem_singleton_self n)
  | case3 n m numbers ih =>
    obtain ⟨hn, hnumbers⟩ := List.forall_mem_cons.mp h
    exact List.forall_mem_cons.mpr ⟨Nat.le_of_lt hn, ih hnumbers⟩

theorem leading_prefix (numbers : List Nat) : leading numbers <+: numbers := by
  induction numbers with
  | nil => exact List.nil_prefix
  | cons n numbers ih =>
    rw [leading]
    split
    · exact List.cons_prefix_cons.mpr ⟨rfl, ih⟩
    · exact List.cons_prefix_cons.mpr ⟨rfl, List.nil_prefix⟩

theorem wellFormed_filled {numbers : List Nat} {pre : Prerelease}
    (hnumbers : ∀ n ∈ numbers, n ≤ Text.maxWord) (hpre : pre.Valid) :
    (filled numbers pre).WellFormed := by
  have hfits (i : Nat) : numbers.getD i 0 ≤ Text.maxWord := by
    rw [List.getD_eq_getElem?_getD]
    cases hi : numbers[i]? with
    | none => exact Nat.zero_le _
    | some n => exact hnumbers n (List.mem_of_getElem? hi)
  refine ⟨⟨by simp [MissingLast, Partial.numbers, filled], ?_⟩, fun _ => rfl, hpre⟩
  simpa [Partial.numbers, filled] using ⟨hfits 0, hfits 1, hfits 2⟩

end Partial

namespace Comparator

theorem fixed_prefix (c : Comparator) : c.fixed <+: c.version.given := by
  unfold fixed
  split
  · exact Partial.leading_prefix _
  · exact List.take_prefix 2 _
  · exact List.prefix_rfl

/-- Wildcards alone keep no bound but `<*` and `>*`. -/
theorem bounds_any (op : Operator) : ∀ d ∈ bounds ⟨op, .any⟩, d.IsBarrier := by
  cases op
  case less => exact List.forall_mem_singleton.mpr ⟨.inl rfl, rfl⟩
  case greater => exact List.forall_mem_singleton.mpr ⟨.inr rfl, rfl⟩
  all_goals exact List.forall_mem_nil _

theorem mem_bounds {c d : Comparator} (hmajor : c.version.major ≠ none) (hd : d ∈ c.bounds) :
    d.op ∈ [.greater, .greaterEq, .less, .lessEq] ∧ (d.version = c.first ∨ d.version = c.next) := by
  obtain ⟨op, p⟩ := c
  have hgiven : p.major.isNone = false := by simpa [Option.isSome_iff_ne_none] using hmajor
  revert d
  cases op <;> cases hfull : p.isFull <;> simp [bounds, hgiven, hfull]

theorem wellFormed_first {c : Comparator} (h : c.version.WellFormed)
    (hsmall : ∀ n ∈ c.version.given, n < Text.maxWord) : c.first.WellFormed :=
  Partial.wellFormed_filled (fun n hn => Nat.le_of_lt (hsmall n hn)) h.pre

/-- One of the given numbers is raised by one. -/
theorem wellFormed_next {c : Comparator} (hsmall : ∀ n ∈ c.version.given, n < Text.maxWord) :
    c.next.WellFormed :=
  Partial.wellFormed_filled
    (Partial.le_of_mem_raised fun n hn => hsmall n (c.fixed_prefix.subset hn))
    (List.forall_mem_nil _)

/-- Bounds have three numbers, and these fit since one of them is raised by one at most. -/
theorem isBound_of_mem_bounds {c d : Comparator} (h : c.version.WellFormed)
    (hsmall : ∀ n ∈ c.version.given, n < Text.maxWord) (hd : d ∈ c.bounds) :
    d.IsBound ∨ d.IsBarrier := by
  by_cases hmajor : c.version.major = none
  · obtain ⟨op, p⟩ := c
    obtain rfl : p = .any := Partial.eq_any_of_major h hmajor
    exact .inr (bounds_any op d hd)
  · obtain ⟨hop, hversion | hversion⟩ := mem_bounds hmajor hd
    · exact .inl ⟨hop, hversion ▸ rfl, hversion ▸ wellFormed_first h hsmall⟩
    · exact .inl ⟨hop, hversion ▸ rfl, hversion ▸ wellFormed_next hsmall⟩

end Comparator

/-! ## Limits that fit -/

/-- The versions at which an interval begins and ends. -/
def Interval.limits (i : Interval) : List Version :=
  [i.lower, i.upper].filterMap fun
    | .open => none
    | .inclusive v | .exclusive v => some v

theorem Partial.WellFormed.valid_floor {p : Partial} (h : p.WellFormed) : p.floor.Valid := by
  have hfits (number : Option Nat) (hmem : number ∈ p.numbers) : number.getD 0 ≤ Text.maxWord := by
    cases number with
    | none => exact Nat.zero_le _
    | some n => exact h.numbers.fits n hmem
  exact
    { major := hfits p.major (by simp [Partial.numbers])
      minor := hfits p.minor (by simp [Partial.numbers])
      patch := hfits p.patch (by simp [Partial.numbers])
      pre := h.pre
      build := ⟨by simp [Partial.floor], by simp [Partial.floor]⟩ }

namespace Comparator

theorem mem_limits {c : Comparator} (h : c.version.WellFormed) (hmajor : c.version.major ≠ none)
    {v : Version} (hv : v ∈ c.interval.limits) : v = c.first.floor ∨ v = c.next.floor := by
  obtain ⟨op, p⟩ := c
  obtain ⟨major, hgiven⟩ : ∃ major, p.major = some major := Option.ne_none_iff_exists'.mp hmajor
  have hfloor := floor_first op h
  have hceiling := @ceiling?_eq op p h hmajor
  have htilde := tildeNext_eq h hgiven
  have hcaret := caretNext_eq h hgiven
  simp only [interval, hgiven, ← hfloor, htilde, hcaret] at hv
  cases op with
  | caret | tilde => simpa [Interval.limits, Interval.upTo] using hv
  | greaterEq | less => exact Or.inl (by simpa [Interval.limits] using hv)
  | exact | greater | lessEq =>
    rw [hceiling rfl] at hv
    cases hfull : p.isFull <;> simp_all [Interval.limits, Interval.upTo]

/-- Unless a given number is the largest one, a comparator begins and ends at versions that fit into
64 bits. -/
theorem valid_of_mem_limits {c : Comparator} (h : c.version.WellFormed)
    (hsmall : ∀ n ∈ c.version.given, n < Text.maxWord) {v : Version}
    (hv : v ∈ c.interval.limits) : v.Valid := by
  by_cases hmajor : c.version.major = none
  · obtain ⟨op, p⟩ := c
    obtain rfl : p = .any := Partial.eq_any_of_major h hmajor
    have hzero : ∀ w ∈ (interval ⟨op, .any⟩).limits, w = Partial.any.floor := by
      cases op <;> decide
    rw [hzero v hv]
    exact Partial.wellFormed_any.valid_floor
  · rcases mem_limits h hmajor hv with rfl | rfl
    · exact (wellFormed_first h hsmall).valid_floor
    · exact (wellFormed_next hsmall).valid_floor

end Comparator

/-! ## Ranges -/

private theorem any_congr_of_mem {α : Type} {xs : List α} {p q : α → Bool}
    (h : ∀ x ∈ xs, p x = q x) : xs.any p = xs.any q := by
  rw [Bool.eq_iff_iff, List.any_eq_true, List.any_eq_true]
  exact exists_congr fun x => and_congr_right fun hx => by rw [h x hx]

theorem ComparatorSet.admits_bounds {set : ComparatorSet} (h : set.WellFormed) (v : Version) :
    ComparatorSet.admits (set.flatMap Comparator.bounds) v = ComparatorSet.admits set v := by
  have hall : (set.flatMap Comparator.bounds).all (·.admits v) = set.all (·.admits v) := by
    rw [List.all_flatMap, Bool.eq_iff_iff, List.all_eq_true, List.all_eq_true]
    exact forall₂_congr fun c hc => by rw [Comparator.all_bounds (h.versions c hc)]
  have hany : (set.flatMap Comparator.bounds).any (·.namesPrereleaseOf v) =
      set.any (·.namesPrereleaseOf v) := by
    rw [List.any_flatMap]
    exact any_congr_of_mem fun c hc => Comparator.any_bounds (h.versions c hc) v
  rw [admits, admits, hall, hany]

namespace VersionRange

/-- The bounds of a range that was read are comparisons with full versions that can be written, but
for `<*` and `>*`, and the range admits the same versions with its comparators replaced by them. -/
theorem bounded_admits {s : String} {r : VersionRange} (h : parse s = .ok r)
    (hsmall : ∀ set ∈ r.sets, ∀ c ∈ set, ∀ n ∈ c.version.given, n < Text.maxWord) :
    (∀ set ∈ r.bounded.sets, ∀ c ∈ set, c.IsBound ∨ c.IsBarrier) ∧
      ∀ v, r.bounded.admits v = r.admits v := by
  have hwell := wellFormed_of_read ((parse_eq_ok_iff s r).mp h)
  constructor
  · intro bounds hbounds d hd
    obtain ⟨set, hset, rfl⟩ := List.mem_map.mp hbounds
    obtain ⟨c, hc, hd⟩ := List.mem_flatMap.mp hd
    exact Comparator.isBound_of_mem_bounds ((hwell.sets set hset).versions c hc)
      (hsmall set hset c hc) hd
  · intro v
    rw [admits, admits, bounded, List.any_map]
    exact any_congr_of_mem fun set hset => ComparatorSet.admits_bounds (hwell.sets set hset) v

/-- A tilde with a pre-release, a caret of a zero, a wildcard, and open numbers to compare with. -/
theorem bounded_admits_openNumbers :
    ∃ r, parse "~1.2.3-a ^0.0 * || >1 <=2.3 <*" = .ok r ∧
      r.bounded = ⟨[[⟨.greaterEq, ⟨some 1, some 2, some 3, [.textual ['a']]⟩⟩,
          ⟨.less, ⟨some 1, some 3, some 0, []⟩⟩, ⟨.greaterEq, ⟨some 0, some 0, some 0, []⟩⟩,
          ⟨.less, ⟨some 0, some 1, some 0, []⟩⟩],
        [⟨.greaterEq, ⟨some 2, some 0, some 0, []⟩⟩, ⟨.less, ⟨some 2, some 4, some 0, []⟩⟩,
          ⟨.less, .any⟩]]⟩ ∧
      (∀ set ∈ r.bounded.sets, ∀ c ∈ set, c.IsBound ∨ c.IsBarrier) ∧
        ∀ v, r.bounded.admits v = r.admits v :=
  have hread : parse "~1.2.3-a ^0.0 * || >1 <=2.3 <*" =
      .ok ⟨[[⟨.tilde, ⟨some 1, some 2, some 3, [.textual ['a']]⟩⟩,
        ⟨.caret, ⟨some 0, some 0, none, []⟩⟩, .any], [⟨.greater, ⟨some 1, none, none, []⟩⟩,
        ⟨.lessEq, ⟨some 2, some 3, none, []⟩⟩, ⟨.less, .any⟩]]⟩ := rfl
  ⟨_, hread, rfl, bounded_admits hread (by decide)⟩

end VersionRange

end ModuleSharing
