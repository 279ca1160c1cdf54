import ModuleSharing.Proofs.Range.Spelling

/-! Every spelling of a range is read as that range (`VersionRange.parse_spelling`).  The reader is
followed from the inside out: the numbers of a version (`Partial.readNumbers_of_forall₂`), a version
(`Partial.read_of_spelled`), a comparator whose sign is joined to it (`Comparator.read_append`), a
set (`ComparatorSet.read_of_spelled`) and the sets between bars (`VersionRange.read_of_spelled`).

A set is searched for a hyphen between blanks before it is cut into words.  No word of a list of
comparators is a hyphen, so nothing is found there; between two versions the hyphen is the first one
that has a blank before it, since a version has none. -/

namespace ModuleSharing

/-! ## Versions -/

namespace Partial

/-- What a version with these numbers has as its pre-release if `text` stands after its hyphen. -/
def PrereleaseRead (numbers : List (Option Nat)) (pre : Prerelease) : Option (List Char) → Prop
  | none => pre = []
  | some text => numbers[2]?.join.isSome = true ∧ Prerelease.read text = .ok pre

/-- All that a version can be read from. -/
theorem read_eq_ok_iff {cs whole core : List Char} {preText : Option (List Char)} {p : Partial}
    (hwhole : cs.dropWhile (fun c => c == 'v' || c == '=') = whole)
    (hsplit : splitPrerelease (whole.takeWhile (· != '+')) = (core, preText)) :
    read cs = .ok p ↔ (core.splitOn '.').length ≤ 3 ∧ ∃ numbers pre,
      readNumbers whole false (core.splitOn '.') = .ok numbers ∧
        PrereleaseRead numbers pre preText ∧ ofNumbers numbers pre = p := by
  simp only [read, hwhole, hsplit]
  by_cases hlength : (core.splitOn '.').length ≤ 3
  · rw [if_neg (by omega)]
    simp only [hlength, true_and, bind_eq_ok_iff]
    refine exists_congr fun numbers => ?_
    cases preText with
    | none => simp [PrereleaseRead, ofNumbers, bind, Except.bind]
    | some text =>
      cases hpatch : numbers[2]?.join with
      | none => simp [PrereleaseRead, hpatch, bind, Except.bind]
      | some patch =>
        cases hpre : Prerelease.read text <;>
          simp [PrereleaseRead, hpatch, hpre, ofNumbers, bind, Except.bind]
  · rw [if_pos (by omega)]
    simp [hlength, bind, Except.bind]

theorem isWildcard_of_mem {c : Char} (h : c ∈ wildcards) : isWildcard [c] = true := by
  simp only [wildcards, List.mem_cons, List.not_mem_nil, or_false] at h
  rcases h with rfl | rfl | rfl <;> rfl

theorem isWildcard_of_word? {cs : List Char} {n : Nat} (h : Text.word? cs = some n) :
    isWildcard cs = false := by
  by_contra hsign
  simp only [isWildcard, Bool.not_eq_false, Bool.or_eq_true, decide_eq_true_eq] at hsign
  rcases hsign with (rfl | rfl) | rfl <;> contradiction

/-- Once a number is missing the reader takes wildcards only, and there is nothing else. -/
theorem readNumbers_of_forall₂ (whole : List Char) {numbers : List (Option Nat)}
    {pieces : List (List Char)} (h : List.Forall₂ Component numbers pieces)
    (hlast : MissingLast numbers) (wild : Bool) (hwild : wild = true → ∀ n ∈ numbers, n = none) :
    readNumbers whole wild pieces = .ok numbers := by
  induction h generalizing wild with
  | nil => rfl
  | @cons n piece numbers pieces hfirst _ ih =>
    obtain ⟨hnone, hrest⟩ := List.pairwise_cons.mp hlast
    cases hfirst with
    | number zeros fits =>
      have hwild : wild = false := by
        by_contra hwild'
        have := hwild (by simpa using hwild') _ (List.mem_cons_self ..)
        contradiction
      have hword := Text.word?_zeros_append fits zeros
      have hread := ih hrest false (by simp)
      simp only [readNumbers, isWildcard_of_word? hword, hwild, hword, hread]
      rfl
    | wildcard sign =>
      have hread := ih hrest true fun _ m hm => hnone m hm rfl
      simp only [readNumbers, if_pos (isWildcard_of_mem sign), hread]
      rfl

/-- The numbers, and the pre-release between the first hyphen and the first plus sign. -/
theorem splitPrerelease_of_parts {numbers : List (Option Nat)} {pieces : List (List Char)}
    {pre : Prerelease} {preText build : List Char} (components : Components numbers pieces)
    (prerelease : PrereleasePart numbers pre preText) (built : BuildPart build) :
    splitPrerelease ((['.'].intercalate pieces ++ (preText ++ build)).takeWhile (· != '+')) =
      (['.'].intercalate pieces, preText.tail?) := by
  have hhyphen : '-' ∉ ['.'].intercalate pieces := by
    intro hmem
    rcases components.mem_chars hmem with h | h <;> contradiction
  have hplus : ∀ c ∈ ['.'].intercalate pieces ++ preText, (c != '+') = true := by
    intro c hc
    rw [bne_iff_ne]
    rintro rfl
    rcases List.mem_append.mp hc with hc | hc
    · rcases components.mem_chars hc with h | h <;> contradiction
    · exact prerelease.plus_not_mem hc
  have hbuild : build.takeWhile (· != '+') = [] := by
    cases built <;> rfl
  rw [← List.append_assoc, List.takeWhile_append_of_pos hplus, hbuild, List.append_nil]
  unfold splitPrerelease
  cases prerelease with
  | absent =>
    rw [List.append_nil, Text.cutAt_eq_none hhyphen]
    rfl
  | given full valid =>
    rw [Text.cutAt_append hhyphen]
    rfl

theorem read_of_spelled {p : Partial} {cs : List Char} (h : p.Spelled cs) : read cs = .ok p := by
  obtain ⟨marked, components, prerelease, built⟩ := h
  rename_i numbers pieces pre mark preText build
  have hkeep : ∀ c, isComponentChar c = true → (c == 'v' || c == '=') = false := by
    intro c hc
    rw [Bool.or_eq_false_iff, beq_eq_false_iff_ne, beq_eq_false_iff_ne]
    exact ⟨ne_of_isComponentChar hc (by decide), ne_of_isComponentChar hc (by decide)⟩
  have hwhole := components.dropWhile_marked marked rfl hkeep (preText ++ build)
  have hsplit : (['.'].intercalate pieces).splitOn '.' = pieces := by
    refine List.splitOn_intercalate '.' (fun piece hpiece hdot => ?_) components.pieces_ne_nil
    exact absurd (components.isComponentChar_of_mem hpiece _ hdot) (by decide)
  have hparts := splitPrerelease_of_parts components prerelease built
  rw [List.append_assoc, read_eq_ok_iff hwhole hparts, hsplit]
  refine ⟨components.spelled.length_eq ▸ components.atMostThree, numbers, pre,
    readNumbers_of_forall₂ _ components.spelled components.missingLast false (by simp), ?_, rfl⟩
  cases prerelease with
  | absent => rfl
  | given full valid => exact ⟨full, Prerelease.read_chars valid⟩

end Partial

/-! ## Comparators -/

namespace Comparator

/-- The sign is told from what follows it, except that a mark may be taken for a sign. -/
theorem readSign_append {op : Operator} {sign cs : List Char} {p : Partial}
    (hsign : sign ∈ op.aliases) (h : p.Spelled cs) :
    ∃ rest, readSign (sign ++ cs) = (op, rest) ∧
      rest.dropWhile (· == 'v') = cs.dropWhile (· == 'v') := by
  obtain ⟨c, rest, rfl, hc⟩ := h.exists_first
  have hother : ∀ s ∈ ['~', '>', '=', '<', '^'], ¬ s = c := by
    have hsigns : ['~', '>', '=', '<', '^'].all (fun s => !isComponentChar s && s != 'v') = true :=
      by decide
    rintro s hs rfl
    have hs := List.all_eq_true.mp hsigns s hs
    rcases hc with rfl | hc
    · contradiction
    · simp [hc] at hs
  simp only [List.forall_mem_cons] at hother
  -- no sign goes on into the version, unless the version starts with the mark
  by_cases hmark : 'v' = c
  · subst hmark
    cases op <;>
      simp only [Operator.aliases, Operator.sign, List.mem_cons, List.not_mem_nil, or_false]
        at hsign <;>
      rcases hsign with rfl | rfl | rfl <;>
      simp [readSign, signs, Text.afterPrefix?]
  · cases op <;>
      simp only [Operator.aliases, Operator.sign, List.mem_cons, List.not_mem_nil, or_false]
        at hsign <;>
      rcases hsign with rfl | rfl | rfl <;>
      simp [readSign, signs, Text.afterPrefix?, hother, hmark]

theorem read_append {op : Operator} {sign cs : List Char} {p : Partial}
    (hsign : sign ∈ op.aliases) (h : p.Spelled cs) : read (sign ++ cs) = .ok ⟨op, p⟩ := by
  obtain ⟨rest, hread, hdrop⟩ := readSign_append hsign h
  have hne : (cs.dropWhile (· == 'v')).isEmpty = false := by
    simpa using h.dropMark.solid.ne_nil
  simp only [read, hread, hdrop, hne, Partial.read_of_spelled h.dropMark]
  rfl

end Comparator

/-! ## Sets -/

namespace ComparatorSet

theorem isSign_of_alias {op : Operator} {sign : List Char} (h : sign ∈ op.aliases)
    (hne : sign ≠ []) : isSign sign = true := by
  have hsigns : ∀ s ∈ op.aliases, s ≠ [] → isSign s = true := by cases op <;> decide
  exact hsigns sign h hne

theorem isSign_of_mem {word : List Char} {c : Char} (hmem : c ∈ word)
    (hc : isComponentChar c = true) : isSign word = false := by
  have hsigns : ∀ s ∈ Comparator.signs, s.1.any isComponentChar = false := by decide
  by_contra h
  rw [Bool.not_eq_false, isSign, List.any_eq_true] at h
  obtain ⟨s, hs, hword⟩ := h
  rw [beq_iff_eq] at hword
  have hany : s.1.any isComponentChar = true := List.any_eq_true.mpr ⟨c, hword ▸ hmem, hc⟩
  rw [hsigns s hs] at hany
  contradiction

/-- A word with a digit or a wildcard is not a hyphen. -/
theorem ne_hyphen_of_mem {word : List Char} {c : Char} (hmem : c ∈ word)
    (hc : isComponentChar c = true) : ['-'] ≠ word := by
  rintro rfl
  rw [List.mem_singleton.mp hmem] at hc
  contradiction

theorem ne_hyphen_of_alias {op : Operator} {sign : List Char} (h : sign ∈ op.aliases) :
    ['-'] ≠ sign := by
  have hsigns : ∀ s ∈ op.aliases, ['-'] ≠ s := by cases op <;> decide
  exact hsigns sign h

/-- The words of a comparator are joined to one token, and none of them is a hyphen. -/
theorem exists_token {c : Comparator} {cs : List Char} (h : c.Spelled cs) :
    ∃ token, Comparator.read token = .ok c ∧ ['-'] ∉ Text.words cs ∧
      ∀ rest, joinSigns (Text.words cs ++ rest) = token :: joinSigns rest := by
  cases h with
  | @attached op version sign cs signed spelled =>
    obtain ⟨d, hd, hcomponent⟩ := spelled.exists_mem
    have hmem : d ∈ sign ++ cs := List.mem_append_right _ hd
    have hunbroken := (Operator.unbroken signed).append spelled.unbroken
    have hwords := Text.words_of_solid ⟨List.ne_nil_of_mem hmem, fun c hc => (hunbroken c hc).1⟩
    -- the one word holds a number or a wildcard, so it is not taken for a sign
    refine ⟨sign ++ cs, Comparator.read_append signed spelled, ?_, fun rest => ?_⟩
    · simpa [hwords] using ne_hyphen_of_mem hmem hcomponent
    · rw [hwords, List.singleton_append]
      cases rest with
      | nil => rfl
      | cons next rest => rw [joinSigns, if_neg (by simp [isSign_of_mem hmem hcomponent])]
  | @apart op version sign gap cs signed hne between spelled =>
    obtain ⟨d, hd, hcomponent⟩ := spelled.exists_mem
    have hsign := Text.words_of_solid ⟨hne, fun c hc => (Operator.unbroken signed c hc).1⟩
    have hwords : Text.words (sign ++ gap ++ cs) = [sign, cs] := by
      rw [Text.words_append_gap between, hsign, Text.words_of_solid spelled.solid]
      rfl
    -- the sign is a word of its own and takes the next one
    refine ⟨sign ++ cs, Comparator.read_append signed spelled, ?_, fun rest => ?_⟩
    · rw [hwords]
      simpa using ⟨ne_hyphen_of_alias signed, ne_hyphen_of_mem hd hcomponent⟩
    · rw [hwords]
      simp only [List.cons_append, List.nil_append, joinSigns, isSign_of_alias signed hne, if_true]

theorem mapM_joinSigns_of_listed {set : ComparatorSet} {cs : List Char} (h : Listed set cs) :
    (joinSigns (Text.words cs)).mapM Comparator.read = .ok set := by
  rw [mapM_eq_ok_iff]
  induction h with
  | one spelled =>
    obtain ⟨token, hread, _, hjoin⟩ := exists_token spelled
    have := hjoin []
    rw [List.append_nil] at this
    rw [this]
    exact .cons hread .nil
  | cons spelled between _ ih =>
    obtain ⟨token, hread, _, hjoin⟩ := exists_token spelled
    rw [Text.words_append_gap between, hjoin]
    exact .cons hread ih

theorem hyphen_not_mem_words_of_listed {set : ComparatorSet} {cs : List Char}
    (h : Listed set cs) : ['-'] ∉ Text.words cs := by
  induction h with
  | one spelled =>
    obtain ⟨_, _, hhyphen, _⟩ := exists_token spelled
    exact hhyphen
  | cons spelled between _ ih =>
    obtain ⟨_, _, hhyphen, _⟩ := exists_token spelled
    rw [Text.words_append_gap between, List.mem_append, not_or]
    exact ⟨hhyphen, ih⟩

theorem words_append_hyphen (x y : List Char) :
    Text.words (x ++ [' ', '-', ' '] ++ y) = Text.words x ++ ['-'] :: Text.words y := by
  have hparts : x ++ [' ', '-', ' '] ++ y = x ++ ' ' :: (['-'] ++ ' ' :: y) := by simp
  rw [hparts, Text.words_append_blank (by decide), Text.words_append_blank (by decide)]
  rfl

theorem cutAt_of_listed {set : ComparatorSet} {cs : List Char} (h : Listed set cs) :
    Text.cutAt [' ', '-', ' '] cs = none := by
  cases hcut : Text.cutAt [' ', '-', ' '] cs with
  | none => rfl
  | some sides =>
    have hwords := hyphen_not_mem_words_of_listed h
    rw [Text.eq_append_of_cutAt hcut, words_append_hyphen] at hwords
    simp at hwords

/-- The blanks before a hyphen stay with what stands before it, but for the last one. -/
theorem cutAt_of_allBlank {before : List Char} (h : Text.AllBlank before) (y : List Char) :
    Text.cutAt [' ', '-', ' '] (before ++ [' ', '-', ' '] ++ y) = some (before, y) := by
  induction before with
  | nil => simp [Text.cutAt]
  | cons c before ih =>
    have hplain : ¬ [' ', '-', ' '] <+: c :: (before ++ [' ', '-', ' '] ++ y) := by
      cases before with
      | nil => simp
      | cons d before =>
        have hd : '-' ≠ d := by
          rintro rfl
          have := h '-' (by simp)
          contradiction
        simp [hd]
    rw [List.cons_append, List.cons_append, Text.cutAt_cons hplain,
      ih fun d hd => h d (List.mem_cons_of_mem _ hd)]
    rfl

/-- A hyphen is looked for past what has no blanks. -/
theorem cutAt_of_solid {x : List Char} (h : ∀ c ∈ x, Text.isBlank c = false) (y : List Char) :
    Text.cutAt [' ', '-', ' '] (x ++ y) =
      (Text.cutAt [' ', '-', ' '] y).map fun (before, after) => (x ++ before, after) := by
  induction x with
  | nil => simp
  | cons c x ih =>
    have hc : ' ' ≠ c := by
      rintro rfl
      have := h _ (List.mem_cons_self ..)
      contradiction
    rw [List.cons_append, Text.cutAt_cons (by simp [hc]),
      ih fun d hd => h d (List.mem_cons_of_mem _ hd), Option.map_map]
    rfl

theorem read_of_spelled {set : ComparatorSet} {cs : List Char} (h : Spelled set cs) :
    read cs = .ok set := by
  cases h with
  | listed comparators =>
    obtain ⟨c, rest, rfl, _⟩ := comparators.framed.first
    simp only [read, List.isEmpty_cons, cutAt_of_listed comparators]
    exact mapM_joinSigns_of_listed comparators
  | @hyphen low high x before after y lowSpelled blankBefore blankAfter highSpelled =>
    have hcut : Text.cutAt [' ', '-', ' '] (x ++ (before ++ [' ', '-', ' '] ++ (after ++ y))) =
        some (x ++ before, after ++ y) := by
      rw [cutAt_of_solid lowSpelled.solid.solid, cutAt_of_allBlank blankBefore]
      rfl
    have hlow : Text.trim (x ++ before) = x :=
      Text.trim_padded Text.AllBlank.nil lowSpelled.solid.framed blankBefore
    have hhigh : Text.trim (after ++ y) = y := by
      have := Text.trim_padded blankAfter highSpelled.solid.framed Text.AllBlank.nil
      rwa [List.append_nil] at this
    have htext : x ++ before ++ [' ', '-', ' '] ++ after ++ y =
      x ++ (before ++ [' ', '-', ' '] ++ (after ++ y)) := by simp
    have hne : (x ++ (before ++ [' ', '-', ' '] ++ (after ++ y))).isEmpty = false := by simp
    rw [htext]
    simp only [read, hne, hcut, hlow, hhigh, Partial.read_of_spelled lowSpelled,
      Partial.read_of_spelled highSpelled]
    rfl
  | blank => rfl

end ComparatorSet

/-! ## Ranges -/

namespace VersionRange

theorem mapM_splitBars_of_spelled {sets : List ComparatorSet} {cs : List Char}
    (h : Spelled sets cs) :
    (Text.splitBars cs).mapM (fun piece => ComparatorSet.read (Text.trim piece)) = .ok sets := by
  rw [mapM_eq_ok_iff]
  induction h with
  | one blankBefore spelled blankAfter =>
    obtain ⟨htrim, hbar⟩ := spelled.trim_padded blankBefore blankAfter
    rw [Text.splitBars_eq_singleton hbar]
    refine .cons ?_ .nil
    rw [htrim]
    exact ComparatorSet.read_of_spelled spelled
  | cons blankBefore spelled blankAfter _ ih =>
    obtain ⟨htrim, hbar⟩ := spelled.trim_padded blankBefore blankAfter
    rw [Text.splitBars_append hbar]
    refine .cons ?_ ih
    rw [htrim]
    exact ComparatorSet.read_of_spelled spelled

theorem read_of_spelled {sets : List ComparatorSet} {cs : List Char} (h : Spelled sets cs) :
    read cs = .ok ⟨sets⟩ := by
  rw [read, mapM_splitBars_of_spelled h]
  rfl

theorem parse_eq_ok_iff (s : String) (r : VersionRange) :
    parse s = .ok r ↔ read s.toList = .ok r :=
  mapError_eq_ok_iff

/-- However the sets are written, they are what is read. -/
theorem parse_spelling {sets : List ComparatorSet} {s : String} (h : Spelled sets s.toList) :
    parse s = .ok ⟨sets⟩ := by
  rw [parse_eq_ok_iff]
  exact read_of_spelled h

/-- A tilde and a wildcard, the versions around a hyphen, and a blank set. -/
def threeSets : List ComparatorSet :=
  [[⟨.tilde, ⟨some 1, none, none, []⟩⟩, .any],
    [⟨.greaterEq, ⟨some 1, some 2, some 3, [.textual ['a']]⟩⟩, ⟨.lessEq, ⟨some 2, none, none, []⟩⟩],
    [.any]]

/-- A sign apart from its version and one before it, a mark, a leading zero and build metadata. -/
theorem parse_spelling_threeSets :
    Spelled threeSets "~> v01.X+b =*|| 1.2.3-a - 2||".toList ∧
      parse "~> v01.X+b =*|| 1.2.3-a - 2||" = .ok ⟨threeSets⟩ := by
  have hnumber : ∀ n, n ≤ 3 → ∀ zeros, Component (some n)
      (List.replicate zeros '0' ++ Text.numeral n) := fun n hn zeros =>
    .number zeros (Nat.le_trans hn (by decide))
  have htilde : Comparator.Spelled ⟨.tilde, ⟨some 1, none, none, []⟩⟩ "~> v01.X+b".toList := by
    have hx : Component none ['X'] := .wildcard (by decide)
    have hbuild : BuildPart ['+', 'b'] := .given (by simp [Unbroken, Text.isBlank])
    have hversion := Partial.Spelled.parts (.inr rfl)
      ⟨.cons (hnumber 1 (by decide) 1) (.cons hx .nil),
        by simp [MissingLast], by simp, by simp⟩ .absent hbuild
    exact .apart (show ['~', '>'] ∈ Operator.tilde.aliases by decide) (by simp) .space hversion
  have hany : Comparator.Spelled .any "=*".toList := by
    have hstar : Component none ['*'] := .wildcard (by decide)
    have hversion := Partial.Spelled.parts (.inl rfl)
      ⟨.cons hstar .nil, by simp [MissingLast],
        by simp, by simp⟩ .absent .absent
    exact .attached (show ['='] ∈ Operator.exact.aliases by decide) hversion
  have hlow : Partial.Spelled ⟨some 1, some 2, some 3, [.textual ['a']]⟩ "1.2.3-a".toList := by
    have hpre : Prerelease.Valid [.textual ['a']] := by
      simp only [Prerelease.Valid, Identifier.Valid, List.mem_singleton, forall_eq]
      decide
    exact Partial.Spelled.parts (.inl rfl)
      ⟨.cons (hnumber 1 (by decide) 0) (.cons (hnumber 2 (by decide) 0)
        (.cons (hnumber 3 (by decide) 0) .nil)), by simp [MissingLast], by simp, by simp⟩
      (.given rfl hpre) .absent
  have hhigh : Partial.Spelled ⟨some 2, none, none, []⟩ "2".toList :=
    Partial.Spelled.parts (.inl rfl) ⟨.cons (hnumber 2 (by decide) 0) .nil, by simp [MissingLast],
      by simp, by simp⟩ .absent .absent
  have hspelled : Spelled threeSets "~> v01.X+b =*|| 1.2.3-a - 2||".toList :=
    .cons .nil (.listed (.cons htilde .space (.one hany))) .nil
      (.cons Text.Gap.space.blank (.hyphen hlow .nil .nil hhigh) .nil (.one .nil .blank .nil))
  exact ⟨hspelled, parse_spelling hspelled⟩

end VersionRange

end ModuleSharing
