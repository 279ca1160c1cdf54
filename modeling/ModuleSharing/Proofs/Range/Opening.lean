import ModuleSharing.Proofs.Range.Composition

/-! How a text that is read as a range can start.  A comparator starts with a sign, a mark, a digit
or a wildcard (`Comparator.opens_of_read`), and a range starts with its first set or with a bar
after a blank one (`VersionRange.opens_of_read`).  The look of a text goes by the same characters,
so it misses only ranges that start with a bar or with a wildcard that does not stand alone
(`VersionRange.looksLikeOne_iff_of_parse`). -/

namespace ModuleSharing

/-! ## Versions -/

/-- The first piece of a cut text is a beginning of it. -/
theorem Text.exists_prefix_of_splitOn (sep : Char) (cs : List Char) :
    ∃ piece pieces, cs.splitOn sep = piece :: pieces ∧ piece <+: cs := by
  obtain ⟨piece, pieces, hsplit⟩ := List.exists_cons_of_ne_nil (List.splitOn_ne_nil sep cs)
  have hcs : [sep].intercalate (cs.splitOn sep) = cs := List.intercalate_splitOn sep
  refine ⟨piece, pieces, hsplit, ?_⟩
  rw [hsplit] at hcs
  cases pieces with
  | nil => exact ⟨[], by simpa using hcs⟩
  | cons next pieces =>
    rw [List.intercalate_cons_cons, List.append_assoc] at hcs
    exact ⟨_, hcs⟩

namespace Partial

/-- The first component that is read is a wildcard or starts with a digit. -/
theorem exists_first_of_readNumbers {whole piece : List Char} {pieces : List (List Char)}
    {numbers : List (Option Nat)} (h : readNumbers whole false (piece :: pieces) = .ok numbers) :
    ∃ c rest, piece = c :: rest ∧ isComponentChar c = true := by
  simp only [readNumbers] at h
  split at h
  · rename_i hwild
    simp only [isWildcard, Bool.or_eq_true, decide_eq_true_eq] at hwild
    rcases hwild with (rfl | rfl) | rfl <;> exact ⟨_, [], rfl, by decide⟩
  · rw [if_neg (by simp)] at h
    split at h
    · contradiction
    · rename_i n hword
      obtain ⟨hne, hdigits, _⟩ := (Text.word?_eq_some_iff piece n).mp hword
      obtain ⟨c, rest, rfl⟩ := List.exists_cons_of_ne_nil hne
      exact ⟨c, rest, rfl, isComponentChar_of_isDigit (hdigits c (List.mem_cons_self ..))⟩

theorem prefix_of_splitPrerelease {cs core : List Char} {pre : Option (List Char)}
    (h : splitPrerelease cs = (core, pre)) : core <+: cs := by
  unfold splitPrerelease at h
  split at h
  · rename_i before after hcut
    cases h
    rw [Text.eq_append_of_cutAt hcut, List.append_assoc]
    exact List.prefix_append ..
  · cases h
    exact List.prefix_refl _

/-- A version starts with a sign that is dropped, or with its first component. -/
theorem opens_of_read {c : Char} {cs : List Char} {p : Partial} (h : read (c :: cs) = .ok p) :
    c = 'v' ∨ c = '=' ∨ isComponentChar c = true := by
  by_cases hmark : c = 'v' ∨ c = '='
  · rcases hmark with rfl | rfl <;> simp
  rw [not_or] at hmark
  have hwhole : (c :: cs).dropWhile (fun c => c == 'v' || c == '=') = c :: cs :=
    List.dropWhile_cons_of_neg (by simpa using hmark)
  obtain ⟨⟨core, preText⟩, hsplit⟩ :
    ∃ parts, splitPrerelease ((c :: cs).takeWhile (· != '+')) = parts := ⟨_, rfl⟩
  obtain ⟨_, numbers, _, hnumbers, _⟩ := (read_eq_ok_iff hwhole hsplit).mp h
  obtain ⟨piece, pieces, hpieces, hbegins⟩ := Text.exists_prefix_of_splitOn '.' core
  rw [hpieces] at hnumbers
  obtain ⟨d, rest, rfl, hd⟩ := exists_first_of_readNumbers hnumbers
  have hwholePrefix := (hbegins.trans (prefix_of_splitPrerelease hsplit)).trans
    (List.takeWhile_prefix _)
  obtain ⟨rfl, _⟩ := List.cons_prefix_cons.mp hwholePrefix
  exact .inr (.inr hd)

end Partial

/-! ## Comparators -/

namespace Comparator

/-- The first characters of signs. -/
def leads : List Char := ['^', '=', 'v', '<', '>', '~']

/-- Whether a comparator can start with this character. -/
def Opens (c : Char) : Prop := c ∈ leads ∨ isComponentChar c = true

theorem readSign_of_not_lead {c : Char} (h : c ∉ leads) (cs : List Char) :
    readSign (c :: cs) = (.exact, c :: cs) := by
  have hother : ∀ s ∈ leads, ¬ s = c := by
    rintro s hs rfl
    exact h hs
  simp only [leads, List.forall_mem_cons] at hother
  simp [readSign, signs, Text.afterPrefix?, hother]

theorem opens_of_read {c : Char} {cs : List Char} {x : Comparator} (h : read (c :: cs) = .ok x) :
    Opens c := by
  by_cases hlead : c ∈ leads
  · exact .inl hlead
  have hv : c ≠ 'v' := by
    rintro rfl
    exact hlead (by decide)
  have hdrop : (c :: cs).dropWhile (· == 'v') = c :: cs :=
    List.dropWhile_cons_of_neg (by simpa using hv)
  simp only [read, readSign_of_not_lead hlead, hdrop] at h
  obtain ⟨p, hread, _⟩ := bind_eq_ok_iff.mp h
  rcases Partial.opens_of_read hread with rfl | rfl | hc
  · contradiction
  · exact absurd (by decide) hlead
  · exact .inr hc

end Comparator

/-! ## Sets -/

namespace ComparatorSet

/-- The first word goes into the first token, alone or before the next word. -/
theorem exists_joinSigns_cons (c : Char) (word : List Char) (words : List (List Char)) :
    ∃ token tokens, joinSigns ((c :: word) :: words) = (c :: token) :: tokens := by
  cases words with
  | nil => exact ⟨word, [], rfl⟩
  | cons next words =>
    rw [joinSigns]
    split
    · exact ⟨word ++ next, joinSigns words, rfl⟩
    · exact ⟨word, joinSigns (next :: words), rfl⟩

theorem opens_of_read {c : Char} {cs : List Char} {set : ComparatorSet}
    (hc : Text.isBlank c = false) (h : read (c :: cs) = .ok set) : Comparator.Opens c := by
  simp only [read, List.isEmpty_cons] at h
  split at h
  · rename_i hempty
    contradiction
  · split at h
    · rename_i low high hcut
      obtain ⟨p, hread, _⟩ := bind_eq_ok_iff.mp h
      have htext := Text.eq_append_of_cutAt hcut
      cases low with
      | nil =>
        -- the text would start with the blank before the hyphen
        obtain ⟨rfl, _⟩ := List.cons.inj htext
        contradiction
      | cons d low =>
        obtain ⟨rfl, _⟩ := List.cons.inj htext
        have hhead := Text.head?_trim (c :: low)
        rw [Text.first?_cons hc, List.head?_eq_some_iff] at hhead
        obtain ⟨rest, htrim⟩ := hhead
        rw [htrim] at hread
        rcases Partial.opens_of_read hread with rfl | rfl | hcomponent
        · exact .inl (by decide)
        · exact .inl (by decide)
        · exact .inr hcomponent
    · obtain ⟨word, words, hwords⟩ := Text.words_cons hc cs
      obtain ⟨token, tokens, htokens⟩ := exists_joinSigns_cons c word words
      rw [hwords, htokens, mapM_eq_ok_iff] at h
      obtain ⟨x, _, hread, _⟩ := List.forall₂_cons_left_iff.mp h
      exact Comparator.opens_of_read hread

end ComparatorSet

/-! ## Ranges -/

namespace VersionRange

/-- A range starts with a comparator, unless its first set is blank and another one follows. -/
theorem opens_of_read {cs : List Char} {r : VersionRange} (h : read cs = .ok r) {c : Char}
    (hc : Text.first? cs = some c) : c = '|' ∨ Comparator.Opens c := by
  obtain ⟨piece, pieces, hsplit⟩ := List.exists_cons_of_ne_nil (Text.splitBars_ne_nil cs)
  rw [read_eq_ok_iff, hsplit, mapM_eq_ok_iff] at h
  obtain ⟨set, _, hread, _⟩ := List.forall₂_cons_left_iff.mp h
  obtain ⟨rest, rfl, hrest⟩ := Text.exists_append_of_splitBars hsplit
  cases hfirst : Text.first? piece with
  | none =>
    rw [((Text.first?_eq_none_iff piece).mp hfirst).first?_append] at hc
    rcases hrest with rfl | ⟨after, rfl⟩
    · contradiction
    · rw [Text.first?_cons (by decide), Option.some.injEq] at hc
      exact .inl hc.symm
  | some d =>
    rw [Text.first?_append_of_some hfirst, Option.some.injEq] at hc
    subst hc
    rw [← Text.head?_trim, List.head?_eq_some_iff] at hfirst
    obtain ⟨more, htrim⟩ := hfirst
    rw [htrim] at hread
    exact .inr (ComparatorSet.opens_of_read (Text.isBlank_of_trim htrim) hread)

/-- The look of a text as a condition on its first character and on what comes after it. -/
theorem looksLikeOne_iff {s : String} {c : Char} {rest : List Char}
    (h : Text.trim s.toList = c :: rest) :
    looksLikeOne s = true ↔
      c ∈ wildcards ∧ rest = [] ∨ Text.isDigit c = true ∨ c ∈ Comparator.leads := by
  have hwild : Partial.isWildcard (c :: rest) = true ↔ c ∈ wildcards ∧ rest = [] := by
    simp [Partial.isWildcard, wildcards, or_and_right, or_assoc]
  rw [← hwild]
  simp [looksLikeOne, h, Comparator.leads]

/-- A text that starts with a bar, or with a wildcard that is not all of it. -/
def Disguised (s : String) : Prop :=
  ∃ c rest, Text.trim s.toList = c :: rest ∧ (c = '|' ∨ c ∈ wildcards ∧ rest ≠ [])

theorem disguised_iff {s : String} {c : Char} {rest : List Char}
    (h : Text.trim s.toList = c :: rest) :
    Disguised s ↔ c = '|' ∨ c ∈ wildcards ∧ rest ≠ [] := by
  constructor
  · rintro ⟨d, more, htrim, hdisguised⟩
    obtain ⟨rfl, rfl⟩ := List.cons.inj (h.symm.trans htrim)
    exact hdisguised
  · exact fun hdisguised => ⟨c, rest, h, hdisguised⟩

/-- A range that is not blank has the look of one unless it is disguised. -/
theorem looksLikeOne_iff_of_parse {s : String} {r : VersionRange} (h : parse s = .ok r)
    (hblank : ¬ Text.AllBlank s.toList) : looksLikeOne s = true ↔ ¬ Disguised s := by
  rw [← Text.first?_eq_none_iff, ← Ne, Option.ne_none_iff_exists'] at hblank
  obtain ⟨c, hfirst⟩ := hblank
  have hopens := opens_of_read ((parse_eq_ok_iff s r).mp h) hfirst
  rw [← Text.head?_trim, List.head?_eq_some_iff] at hfirst
  obtain ⟨rest, htrim⟩ := hfirst
  rw [looksLikeOne_iff htrim, disguised_iff htrim]
  rcases hopens with rfl | hlead | hcomponent
  · have hbar : '|' ∉ wildcards ∧ Text.isDigit '|' = false ∧ '|' ∉ Comparator.leads := by decide
    simp [hbar]
  · have hplain : ∀ d ∈ Comparator.leads, d ≠ '|' ∧ d ∉ wildcards := by
      simp [Comparator.leads, wildcards]
    obtain ⟨hbar, hwild⟩ := hplain c hlead
    simp [hlead, hbar, hwild]
  · have hwildcards : ∀ d ∈ wildcards, d ≠ '|' ∧ Text.isDigit d = false ∧ d ∉ Comparator.leads := by
      simp [wildcards, Comparator.leads, Text.isDigit]
    simp only [isComponentChar, Bool.or_eq_true, List.contains_iff_mem] at hcomponent
    by_cases hwild : c ∈ wildcards
    · obtain ⟨hbar, hdigit, hlead⟩ := hwildcards c hwild
      simp [hwild, hbar, hdigit, hlead]
    · have hdigit := hcomponent.resolve_right hwild
      have hbar : c ≠ '|' := by
        rintro rfl
        exact absurd hdigit (by decide)
      simp [hwild, hdigit, hbar]

/-- A lone wildcard is a range. -/
theorem exists_parse_of_wildcard {s : String} {c : Char} (h : Text.trim s.toList = [c])
    (hc : c ∈ wildcards) : ∃ r, parse s = .ok r := by
  have hspelled : Partial.Spelled .any [c] := by
    change (Partial.ofNumbers [none] []).Spelled [c]
    simpa using Partial.Spelled.parts (.inl rfl)
      ⟨.cons (.wildcard hc) .nil, by simp [MissingLast], by simp, by simp⟩ .absent .absent
  have hlisted : ComparatorSet.Listed [.any] [c] :=
    .one (.attached (show [] ∈ Operator.exact.aliases by decide) hspelled)
  obtain ⟨before, after, hbefore, hafter, hs⟩ := Text.exists_padding s.toList
  rw [h] at hs
  refine ⟨⟨[[.any]]⟩, parse_spelling ?_⟩
  rw [hs]
  exact .one hbefore (.listed hlisted) hafter

theorem isDigit_of_isAlpha {c : Char} (h : c.isAlpha = true) : Text.isDigit c = false := by
  rw [Bool.eq_false_iff]
  intro hdigit
  have hdigit := of_decide_eq_true ((Bool.and_eq_true _ _).mp hdigit).2
  have hdigit : c.toNat ≤ 57 := hdigit
  rcases (Bool.or_eq_true _ _).mp h with hupper | hlower
  · have hupper : 65 ≤ c.toNat ∧ c.toNat ≤ 90 := of_decide_eq_true hupper
    omega
  · have hlower : 97 ≤ c.toNat := of_decide_eq_true ((Bool.and_eq_true _ _).mp hlower).1
    omega

/-- Of the texts that start with a letter and are no range, those that start with the mark of a
version have the look of one. -/
theorem looksLikeOne_iff_of_error {s : String} {e : VersionError} (h : parse s = .error e)
    {c : Char} (hfirst : s.toList.head? = some c) (hletter : c.isAlpha = true) :
    looksLikeOne s = true ↔ c = 'v' := by
  obtain ⟨more, hs⟩ := List.head?_eq_some_iff.mp hfirst
  have hblank : Text.isBlank c = false := by
    refine (unbroken_of_isIdentifierChar ?_).1
    simp [Version.isIdentifierChar, Char.isAlphanum, hletter]
  obtain ⟨rest, htrim⟩ : ∃ rest, Text.trim s.toList = c :: rest := by
    rw [← List.head?_eq_some_iff, Text.head?_trim, hs, Text.first?_cons hblank]
  have hwild : ¬ (c ∈ wildcards ∧ rest = []) := by
    rintro ⟨hc, rfl⟩
    obtain ⟨r, hr⟩ := exists_parse_of_wildcard htrim hc
    rw [hr] at h
    contradiction
  have hleads : ∀ d ∈ Comparator.leads, d.isAlpha = true → d = 'v' := by
    simp [Comparator.leads]
  rw [looksLikeOne_iff htrim]
  constructor
  · rintro (hlone | hdigit | hlead)
    · exact absurd hlone hwild
    · rw [isDigit_of_isAlpha hletter] at hdigit
      exact absurd hdigit Bool.false_ne_true
    · exact hleads c hlead hletter
  · rintro rfl
    exact .inr (.inr (by decide))

end VersionRange

end ModuleSharing
