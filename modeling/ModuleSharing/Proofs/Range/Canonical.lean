import ModuleSharing.Proofs.Range.Reading

/-! The canonical text of a range is read as that range.  The two halves meet at `WellFormed`: the
reader yields nothing else (`VersionRange.wellFormed_of_read`), and what is well-formed is spelled
by its canonical text (`VersionRange.spelled_chars`), which the reader then gives back.  So the
spellings are those of the well-formed ranges (`VersionRange.exists_spelled_iff`). -/

namespace ModuleSharing

/-! ## What the reader yields -/

/-- Numbers a version may have: 64 bits each, none after a missing one. -/
structure Numbers (numbers : List (Option Nat)) : Prop where
  missingLast : MissingLast numbers
  fits : ∀ n, some n ∈ numbers → n ≤ Text.maxWord

theorem Numbers.sublist {ns ms : List (Option Nat)} (h : Numbers ms) (hsub : ns.Sublist ms) :
    Numbers ns where
  missingLast := List.Pairwise.sublist hsub h.missingLast
  fits n hn := h.fits n (hsub.mem hn)

namespace Partial

def numbers (p : Partial) : List (Option Nat) := [p.major, p.minor, p.patch]

/-- Numbers that can be written, and a pre-release after three of them only. -/
structure WellFormed (p : Partial) : Prop where
  numbers : Numbers p.numbers
  full : p.pre ≠ [] → p.patch.isSome = true
  pre : p.pre.Valid

theorem wellFormed_any : any.WellFormed where
  numbers := ⟨by simp [MissingLast, Partial.numbers, any], by simp [Partial.numbers, any]⟩
  full := by simp [any]
  pre := by simp [any, Prerelease.Valid]

/-- After a wildcard the reader takes no number, and it takes none that does not fit. -/
theorem numbers_of_readNumbers {whole : List Char} {pieces : List (List Char)} {wild : Bool}
    {ns : List (Option Nat)} (h : readNumbers whole wild pieces = .ok ns) :
    Numbers ns ∧ (wild = true → ∀ n ∈ ns, n = none) := by
  induction pieces generalizing wild ns with
  | nil =>
    cases h
    exact ⟨⟨.nil, by simp⟩, by simp⟩
  | cons piece pieces ih =>
    simp only [readNumbers] at h
    split at h
    · obtain ⟨rest, hrest, hns⟩ := bind_eq_ok_iff.mp h
      cases hns
      obtain ⟨hnumbers, hnone⟩ := ih hrest
      refine ⟨⟨.cons (fun n hn _ => hnone rfl n hn) hnumbers.missingLast, ?_⟩, fun _ => ?_⟩
      · simpa using hnumbers.fits
      · simpa using hnone rfl
    · split at h
      · contradiction
      · rename_i hwild
        split at h
        · contradiction
        · rename_i n hword
          obtain ⟨rest, hrest, hns⟩ := bind_eq_ok_iff.mp h
          cases hns
          obtain ⟨hnumbers, _⟩ := ih hrest
          refine ⟨⟨.cons (by simp) hnumbers.missingLast, fun m hm => ?_⟩, fun h => absurd h hwild⟩
          rcases List.mem_cons.mp hm with hm | hm
          · cases hm
            exact ((Text.word?_eq_some_iff piece n).mp hword).2.2.2
          · exact hnumbers.fits m hm

/-- Numbers that are left out count as missing ones. -/
theorem numbers_ofNumbers {ns : List (Option Nat)} (h : Numbers ns) (pre : Prerelease) :
    Numbers (ofNumbers ns pre).numbers := by
  obtain ⟨hlast, hfits⟩ := h
  unfold MissingLast at hlast
  match ns with
  | [] => exact wellFormed_any.numbers
  | [a] =>
    refine ⟨?_, ?_⟩
    · simp [MissingLast, numbers, ofNumbers]
    · simpa [numbers, ofNumbers] using hfits
  | [a, b] =>
    refine ⟨?_, ?_⟩
    · simpa [MissingLast, numbers, ofNumbers] using hlast
    · simpa [numbers, ofNumbers] using hfits
  | a :: b :: c :: more =>
    have hfirst : List.Sublist [a, b, c] (a :: b :: c :: more) := by simp
    exact ⟨hlast.sublist hfirst, fun n hn => hfits n (hfirst.mem hn)⟩

theorem PrereleaseRead.full_and_valid {ns : List (Option Nat)} {pre : Prerelease}
    {text : Option (List Char)} (h : PrereleaseRead ns pre text) :
    (pre ≠ [] → ns[2]?.join.isSome = true) ∧ pre.Valid := by
  cases text with
  | none =>
    cases h
    simp [Prerelease.Valid]
  | some text => exact ⟨fun _ => h.1, Prerelease.valid_of_read h.2⟩

theorem wellFormed_of_read {cs : List Char} {p : Partial} (h : read cs = .ok p) :
    p.WellFormed := by
  obtain ⟨⟨core, preText⟩, hsplit⟩ : ∃ parts, splitPrerelease
    ((cs.dropWhile fun c => c == 'v' || c == '=').takeWhile (· != '+')) = parts := ⟨_, rfl⟩
  obtain ⟨_, ns, pre, hnumbers, hpre, rfl⟩ := (read_eq_ok_iff rfl hsplit).mp h
  obtain ⟨hfull, hvalid⟩ := hpre.full_and_valid
  exact ⟨numbers_ofNumbers (numbers_of_readNumbers hnumbers).1 pre, hfull, hvalid⟩

end Partial

theorem Comparator.wellFormed_of_read {token : List Char} {c : Comparator}
    (h : read token = .ok c) : c.version.WellFormed := by
  simp only [read] at h
  split at h
  · contradiction
  · obtain ⟨p, hread, hc⟩ := bind_eq_ok_iff.mp h
    cases hc
    exact Partial.wellFormed_of_read hread

namespace ComparatorSet

/-- At least one comparator, each with a version that can be written. -/
structure WellFormed (set : ComparatorSet) : Prop where
  ne_nil : set ≠ []
  versions : ∀ c ∈ set, c.version.WellFormed

theorem joinSigns_ne_nil {ws : List (List Char)} (h : ws ≠ []) : joinSigns ws ≠ [] := by
  match ws with
  | [word] => simp [joinSigns]
  | first :: second :: rest =>
    rw [joinSigns]
    split <;> simp

/-- Around a set there are no blanks, so that it has a word if it is not empty. -/
theorem wellFormed_of_read {cs : List Char} {set : ComparatorSet}
    (h : read (Text.trim cs) = .ok set) : set.WellFormed := by
  unfold read at h
  split at h
  · cases h
    exact ⟨by simp, fun c hc => List.mem_singleton.mp hc ▸ Partial.wellFormed_any⟩
  · rename_i hne
    split at h
    · rename_i low high _
      obtain ⟨p, hp, h⟩ := bind_eq_ok_iff.mp h
      obtain ⟨q, hq, h⟩ := bind_eq_ok_iff.mp h
      cases h
      refine ⟨by simp, ?_⟩
      simpa using ⟨Partial.wellFormed_of_read hp, Partial.wellFormed_of_read hq⟩
    · rw [mapM_eq_ok_iff] at h
      refine ⟨?_, fun c hc => ?_⟩
      · rintro rfl
        rw [List.forall₂_nil_right_iff] at h
        exact joinSigns_ne_nil (Text.words_trim_ne_nil (by simpa using hne)) h
      · obtain ⟨token, _, hread⟩ := exists_of_forall₂_right h hc
        exact Comparator.wellFormed_of_read hread

end ComparatorSet

namespace VersionRange

/-- At least one set, each of them well-formed. -/
structure WellFormed (r : VersionRange) : Prop where
  ne_nil : r.sets ≠ []
  sets : ∀ set ∈ r.sets, set.WellFormed

theorem wellFormed_of_read {cs : List Char} {r : VersionRange} (h : read cs = .ok r) :
    r.WellFormed := by
  obtain ⟨sets, hsets, hr⟩ := bind_eq_ok_iff.mp h
  cases hr
  rw [mapM_eq_ok_iff] at hsets
  refine ⟨?_, fun set hset => ?_⟩
  · rintro rfl
    exact Text.splitBars_ne_nil cs (List.forall₂_nil_right_iff.mp hsets)
  · obtain ⟨piece, _, hread⟩ := exists_of_forall₂_right hsets hset
    exact ComparatorSet.wellFormed_of_read hread

end VersionRange

/-! ## The canonical text is a spelling -/

/-- Numbers as numerals and missing ones as the given wildcard. -/
theorem Components.of_numbers {ns : List (Option Nat)} (h : Numbers ns) (hne : ns ≠ [])
    (hlength : ns.length ≤ 3) {wildcard : Char} (sign : wildcard ∈ wildcards) :
    Components ns (ns.map fun n => n.elim [wildcard] Text.numeral) where
  spelled := by
    rw [List.forall₂_map_right_iff, List.forall₂_same]
    rintro (_ | n) hn
    · exact .wildcard sign
    · exact .number 0 (h.fits n hn)
  missingLast := h.missingLast
  ne_nil := hne
  atMostThree := hlength

theorem PrereleasePart.introduced {numbers : List (Option Nat)} {pre : Prerelease}
    (full : pre ≠ [] → numbers[2]?.join.isSome = true) (valid : pre.Valid) :
    PrereleasePart numbers pre (Version.introduced '-' pre.chars) := by
  unfold Version.introduced
  by_cases hpre : pre = []
  · subst hpre
    exact .absent
  · rw [if_neg (by simpa using Prerelease.chars_ne_nil valid hpre)]
    exact .given (full hpre) valid

namespace Partial

/-- The numbers that are given, all three before a pre-release. -/
theorem WellFormed.shape {p : Partial} (h : p.WellFormed) :
    p = any ∨ (∃ a, p = ⟨some a, none, none, []⟩) ∨ (∃ a b, p = ⟨some a, some b, none, []⟩) ∨
      ∃ a b c pre, p = ⟨some a, some b, some c, pre⟩ := by
  obtain ⟨major, minor, patch, pre⟩ := p
  obtain ⟨⟨hlast, _⟩, hfull, _⟩ := h
  simp only [MissingLast, Partial.numbers, List.pairwise_cons, List.forall_mem_cons] at hlast
  cases major <;> cases minor <;> cases patch <;> simp_all [any]

/-- The first numbers of a version, written without a mark and build metadata. -/
theorem WellFormed.spelled_take {p : Partial} (h : p.WellFormed) {k : Nat} (hk : 0 < k)
    (wildcard : Char) (sign : wildcard ∈ wildcards) {pre : Prerelease}
    {preText : List Char} (prerelease : PrereleasePart (p.numbers.take k) pre preText) :
    (ofNumbers (p.numbers.take k) pre).Spelled
      (['.'].intercalate ((p.numbers.take k).map fun n => n.elim [wildcard] Text.numeral) ++
        preText) := by
  have hnumbers := h.numbers.sublist (List.take_sublist k p.numbers)
  have hne : p.numbers.take k ≠ [] := by simp [Partial.numbers, Nat.ne_of_gt hk]
  have hlength : (p.numbers.take k).length ≤ 3 := List.length_take_le' ..
  simpa using Spelled.parts (.inl rfl) (.of_numbers hnumbers hne hlength sign) prerelease .absent

theorem spelled_chars {p : Partial} (h : p.WellFormed) : p.Spelled p.chars := by
  rcases h.shape with rfl | ⟨a, rfl⟩ | ⟨a, b, rfl⟩ | ⟨a, b, c, pre, rfl⟩
  · have := h.spelled_take (k := 1) (by decide) '*' (by decide) .absent
    simpa [chars, numbers, ofNumbers, any] using this
  · have := h.spelled_take (k := 1) (by decide) '*' (by decide) .absent
    simpa [chars, numbers, ofNumbers] using this
  · have := h.spelled_take (k := 2) (by decide) '*' (by decide) .absent
    simpa [chars, numbers, ofNumbers] using this
  · have := h.spelled_take (k := 3) (by decide) '*' (by decide) (.introduced h.full h.pre)
    simpa [chars, numbers, ofNumbers] using this

end Partial

namespace Comparator

theorem spelled_of_exact {p : Partial} {cs : List Char} (h : p.Spelled cs) :
    Spelled ⟨.exact, p⟩ cs :=
  have hsign : [] ∈ Operator.exact.aliases := by decide
  .attached hsign h

/-- Open numbers of an exact comparator are shown as one `x`, which reads as missing too. -/
theorem spelled_chars {c : Comparator} (h : c.version.WellFormed) : c.Spelled c.chars := by
  obtain ⟨op, version⟩ := c
  unfold chars
  split
  · rename_i hopen
    obtain ⟨rfl, hopen⟩ := hopen
    apply spelled_of_exact
    rcases h.shape with rfl | ⟨a, rfl⟩ | ⟨a, b, rfl⟩ | ⟨a, b, c, pre, rfl⟩
    · have := h.spelled_take (k := 1) (by decide) '*' (by decide) .absent
      simpa [chars, Partial.numbers, Partial.ofNumbers, Partial.any] using this
    · have := h.spelled_take (k := 2) (by decide) 'x' (by decide) .absent
      simpa [chars, Partial.numbers, Partial.ofNumbers] using this
    · have := h.spelled_take (k := 3) (by decide) 'x' (by decide) .absent
      simpa [chars, Partial.numbers, Partial.ofNumbers] using this
    · contradiction
  · have hsign : op.sign ∈ op.aliases := by cases op <;> decide
    exact .attached hsign (Partial.spelled_chars h)

end Comparator

namespace ComparatorSet

theorem listed_chars {set : ComparatorSet} (hne : set ≠ [])
    (h : ∀ c ∈ set, c.version.WellFormed) : Listed set (chars set) := by
  induction set with
  | nil => contradiction
  | cons c set ih =>
    obtain ⟨hc, hset⟩ := List.forall_mem_cons.mp h
    have hfirst := Comparator.spelled_chars hc
    cases set with
    | nil => simpa [chars] using Listed.one hfirst
    | cons d set =>
      have hlisted := Listed.cons hfirst .space (ih (by simp) hset)
      simpa [chars, List.intercalate_cons_cons] using hlisted

end ComparatorSet

namespace VersionRange

/-- A blank in front of a spelling goes with its first set. -/
theorem Spelled.cons_blank {sets : List ComparatorSet} {cs : List Char} {blank : Char}
    (h : Spelled sets cs) (hblank : Text.isBlank blank = true) : Spelled sets (blank :: cs) := by
  cases h with
  | one blankBefore spelled blankAfter =>
    exact .one (List.forall_mem_cons.mpr ⟨hblank, blankBefore⟩) spelled blankAfter
  | cons blankBefore spelled blankAfter others =>
    exact .cons (List.forall_mem_cons.mpr ⟨hblank, blankBefore⟩) spelled blankAfter others

theorem spelled_intercalate {sets : List ComparatorSet} (hne : sets ≠ [])
    (h : ∀ set ∈ sets, set.WellFormed) :
    Spelled sets ([' ', '|', '|', ' '].intercalate (sets.map ComparatorSet.chars)) := by
  induction sets with
  | nil => contradiction
  | cons set sets ih =>
    obtain ⟨hset, hsets⟩ := List.forall_mem_cons.mp h
    have hlisted := ComparatorSet.listed_chars hset.ne_nil hset.versions
    have hfirst := ComparatorSet.Spelled.listed hlisted
    cases sets with
    | nil => simpa using Spelled.one .nil hfirst .nil
    | cons next sets =>
      have hspace : Text.isBlank ' ' = true := by decide
      have hrest := (ih (by simp) hsets).cons_blank hspace
      simpa [List.intercalate_cons_cons] using
        Spelled.cons .nil hfirst Text.Gap.space.blank hrest

theorem spelled_chars {r : VersionRange} (h : r.WellFormed) : Spelled r.sets r.chars :=
  spelled_intercalate h.ne_nil h.sets

/-- Every range that is well-formed can be written, and no other one. -/
theorem exists_spelled_iff (r : VersionRange) : (∃ cs, Spelled r.sets cs) ↔ r.WellFormed :=
  ⟨fun ⟨_, h⟩ => wellFormed_of_read (read_of_spelled h), fun h => ⟨r.chars, spelled_chars h⟩⟩

theorem parse_text_of_parse {s : String} {r : VersionRange} (h : parse s = .ok r) :
    parse r.text = .ok r := by
  have hwell := wellFormed_of_read ((parse_eq_ok_iff s r).mp h)
  rw [parse_eq_ok_iff, text, String.toList_ofList]
  exact read_of_spelled (spelled_chars hwell)

/-- A range that was read is read again from its canonical text, and no other range that can be
read has this text. -/
theorem canonical_text_round_trip {s : String} {r : VersionRange} (h : parse s = .ok r) :
    parse r.text = .ok r ∧
      ∀ (t : String) (q : VersionRange), parse t = .ok q → q.text = r.text → q = r := by
  refine ⟨parse_text_of_parse h, fun t q hq htext => ?_⟩
  have hread := parse_text_of_parse hq
  rw [htext, parse_text_of_parse h] at hread
  exact (Except.ok.inj hread).symm

theorem canonical_text_round_trip_threeSets :
    parse "~> v01.X+b =*|| 1.2.3-a - 2||" = .ok ⟨threeSets⟩ ∧
      text ⟨threeSets⟩ = "~1 * || >=1.2.3-a <=2 || *" ∧
      parse (text ⟨threeSets⟩) = .ok ⟨threeSets⟩ ∧
      ∀ (t : String) (q : VersionRange), parse t = .ok q → q.text = text ⟨threeSets⟩ →
        q = ⟨threeSets⟩ := by
  have hread : parse "~> v01.X+b =*|| 1.2.3-a - 2||" = .ok ⟨threeSets⟩ := rfl
  exact ⟨hread, rfl, canonical_text_round_trip hread⟩

end VersionRange

end ModuleSharing
