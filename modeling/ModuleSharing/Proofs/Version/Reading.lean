import ModuleSharing.Proofs.Range.Spelling

/-! The text of a version that was read is read as that version (`Version.parse_text_of_parse`).
The reader yields valid versions only (`Version.valid_of_read`), and the characters of a valid
version are read back part by part (`Version.read_chars`). -/

namespace ModuleSharing

namespace Version

/-- Characters of identifiers, without an empty segment unless there are none. -/
structure ValidBuild (build : List Char) : Prop where
  chars : ∀ c ∈ build, (isIdentifierChar c || c == '.') = true
  segments : build ≠ [] → ∀ segment ∈ build.splitOn '.', segment ≠ []

/-- A version that the reader can yield. -/
structure Valid (v : Version) : Prop where
  major : v.major ≤ Text.maxWord
  minor : v.minor ≤ Text.maxWord
  patch : v.patch ≤ Text.maxWord
  pre : v.pre.Valid
  build : ValidBuild v.build

/-! ## What the reader yields -/

theorem le_of_readNumber {part : VersionPart} {cs rest : List Char} {n : Nat}
    (h : readNumber part cs = .ok (n, rest)) : n ≤ Text.maxWord := by
  simp only [readNumber] at h
  split at h
  · contradiction
  · contradiction
  · split at h
    · contradiction
    · split at h
      · cases h
        assumption
      · contradiction

theorem valid_of_readPrereleasePart {cs rest : List Char} {pre : Prerelease}
    (h : readPrereleasePart cs = .ok (pre, rest)) : pre.Valid := by
  unfold readPrereleasePart at h
  split at h
  · obtain ⟨p, hp, hrest⟩ := bind_eq_ok_iff.mp h
    split at hrest
    · contradiction
    · cases hrest
      exact Prerelease.valid_of_readIdentifiers isIdentifierChar_of_mem_run hp
  · cases h
    exact List.forall_mem_nil _

theorem readBuild_eq_ok_iff (run build : List Char) :
    readBuild run = .ok build ↔
      run = build ∧ build ≠ [] ∧ ∀ segment ∈ build.splitOn '.', segment ≠ [] := by
  unfold readBuild
  split
  · rename_i hbad
    simp only [Bool.or_eq_true, List.isEmpty_iff, List.any_eq_true] at hbad
    constructor
    · intro h
      contradiction
    · rintro ⟨rfl, hne, hsegments⟩
      rcases hbad with hempty | ⟨segment, hmem, hempty⟩
      · exact absurd hempty hne
      · exact absurd hempty (hsegments segment hmem)
  · rename_i hgood
    simp only [Bool.or_eq_true, List.isEmpty_iff, List.any_eq_true, not_or, not_exists,
      not_and] at hgood
    rw [Except.ok.injEq]
    constructor
    · rintro rfl
      exact ⟨rfl, hgood⟩
    · exact And.left

theorem valid_of_readBuildPart {cs rest build : List Char}
    (h : readBuildPart cs = .ok (build, rest)) : ValidBuild build := by
  unfold readBuildPart at h
  split at h
  · obtain ⟨b, hb, hrest⟩ := bind_eq_ok_iff.mp h
    cases hrest
    obtain ⟨hrun, _, hsegments⟩ := (readBuild_eq_ok_iff _ _).mp hb
    exact ⟨hrun ▸ isIdentifierChar_of_mem_run, fun _ => hsegments⟩
  · cases h
    exact ⟨List.forall_mem_nil _, fun hne => absurd rfl hne⟩

theorem valid_of_read {cs : List Char} {v : Version} (h : read cs = .ok v) : v.Valid := by
  unfold read at h
  split at h
  · contradiction
  obtain ⟨⟨major, _⟩, hmajor, h⟩ := bind_eq_ok_iff.mp h
  obtain ⟨_, _, h⟩ := bind_eq_ok_iff.mp h
  obtain ⟨⟨minor, _⟩, hminor, h⟩ := bind_eq_ok_iff.mp h
  obtain ⟨_, _, h⟩ := bind_eq_ok_iff.mp h
  obtain ⟨⟨patch, _⟩, hpatch, h⟩ := bind_eq_ok_iff.mp h
  obtain ⟨⟨pre, _⟩, hpre, h⟩ := bind_eq_ok_iff.mp h
  obtain ⟨⟨build, _⟩, hbuild, h⟩ := bind_eq_ok_iff.mp h
  dsimp only at h
  split at h
  · cases h
    exact ⟨le_of_readNumber hmajor, le_of_readNumber hminor, le_of_readNumber hpatch,
      valid_of_readPrereleasePart hpre, valid_of_readBuildPart hbuild⟩
  · contradiction

/-! ## Reading what is written -/

theorem readNumber_numeral (part : VersionPart) {n : Nat} (hn : n ≤ Text.maxWord)
    {rest : List Char} (hrest : ∀ c ∈ rest.head?, Text.isDigit c = false) :
    readNumber part (Text.numeral n ++ rest) = .ok (n, rest) := by
  obtain ⟨htake, hdrop⟩ :=
    Text.takeWhile_append_of_head (fun _ => Text.isDigit_of_mem_numeral (n := n)) hrest
  obtain ⟨d, ds, hdigits⟩ := List.exists_cons_of_ne_nil (Text.numeral_ne_nil n)
  have hplain : ¬ (d == '0' && !ds.isEmpty) := by
    rw [Bool.and_eq_true, beq_iff_eq]
    rintro ⟨rfl, hmore⟩
    obtain rfl := Text.eq_zero_of_head?_numeral (n := n) (by rw [hdigits]; rfl)
    cases hdigits
    contradiction
  have hvalue : Text.value (d :: ds) = n := by rw [← hdigits, Text.value_numeral]
  simp only [readNumber, htake, hdrop]
  rw [hdigits]
  dsimp only
  rw [if_neg hplain, hvalue, if_pos hn]

/-- What follows a pre-release starts with a plus sign, if anything does. -/
theorem readPrereleasePart_introduced {pre : Prerelease} (h : pre.Valid) (build : List Char) :
    readPrereleasePart (introduced '-' pre.chars ++ introduced '+' build) =
      .ok (pre, introduced '+' build) := by
  have hplus : ∀ c ∈ (introduced '+' build).head?, c = '+' := by
    cases build <;> simp [introduced]
  by_cases hpre : pre = []
  · subst hpre
    have hnone : introduced '-' (Prerelease.chars []) = [] := rfl
    rw [hnone, List.nil_append]
    cases build <;> rfl
  · have hsome : introduced '-' pre.chars = '-' :: pre.chars := by
      simp [introduced, Prerelease.chars_ne_nil h hpre]
    have hrun : identifierRun (pre.chars ++ introduced '+' build) =
        (pre.chars, introduced '+' build) := by
      apply identifierRun_append
      · intro c hc
        exact Prerelease.mem_chars h hc
      · intro c hc
        rw [hplus c hc]
        decide
    rw [hsome, List.cons_append]
    simp only [readPrereleasePart, hrun, Prerelease.readIdentifiers_chars h]
    simp [bind, Except.bind, hpre]

theorem readBuildPart_introduced {build : List Char} (h : ValidBuild build) :
    readBuildPart (introduced '+' build) = .ok (build, []) := by
  by_cases hbuild : build = []
  · rw [hbuild]
    rfl
  · have hsome : introduced '+' build = '+' :: build := by simp [introduced, hbuild]
    have hrun : identifierRun (build ++ []) = (build, []) :=
      identifierRun_append h.chars (by simp)
    rw [List.append_nil] at hrun
    have hread := (readBuild_eq_ok_iff build build).mpr ⟨rfl, hbuild, h.segments hbuild⟩
    rw [hsome]
    simp only [readBuildPart, hrun, hread]
    rfl

theorem read_chars {v : Version} (h : v.Valid) : read v.chars = .ok v := by
  have hend : ∀ c ∈ (introduced '-' v.pre.chars ++ introduced '+' v.build).head?,
      Text.isDigit c = false := by
    cases v.pre.chars <;> cases v.build <;> simp [introduced] <;> decide
  have hdot (cs : List Char) : ∀ c ∈ ('.' :: cs).head?, Text.isDigit c = false := by
    simp only [List.head?_cons, Option.mem_some_iff, forall_eq']
    decide
  have hchars : v.chars = Text.numeral v.major ++ '.' :: (Text.numeral v.minor ++ '.' ::
      (Text.numeral v.patch ++ (introduced '-' v.pre.chars ++ introduced '+' v.build))) := by
    simp [chars]
  unfold read
  rw [if_neg (by simp [hchars, Text.numeral_ne_nil]), hchars]
  refine bind_eq_ok_iff.mpr ⟨_, readNumber_numeral _ h.major (hdot _), ?_⟩
  refine bind_eq_ok_iff.mpr ⟨_, rfl, ?_⟩
  refine bind_eq_ok_iff.mpr ⟨_, readNumber_numeral _ h.minor (hdot _), ?_⟩
  refine bind_eq_ok_iff.mpr ⟨_, rfl, ?_⟩
  refine bind_eq_ok_iff.mpr ⟨_, readNumber_numeral _ h.patch hend, ?_⟩
  refine bind_eq_ok_iff.mpr ⟨_, readPrereleasePart_introduced h.pre v.build, ?_⟩
  exact bind_eq_ok_iff.mpr ⟨_, readBuildPart_introduced h.build, rfl⟩

theorem mem_introduced {sign c : Char} {cs : List Char} (h : c ∈ introduced sign cs) :
    c = sign ∨ c ∈ cs := by
  cases cs with
  | nil => contradiction
  | cons d ds => exact List.mem_cons.mp h

/-- A version is made of identifier characters and the signs between its parts. -/
theorem mem_chars {v : Version} (h : v.Valid) {c : Char} (hc : c ∈ v.chars) :
    isIdentifierChar c = true ∨ c ∈ ['.', '-', '+'] := by
  have hnumber {n : Nat} (hc : c ∈ Text.numeral n) : isIdentifierChar c = true :=
    Text.isIdentifierChar_of_isDigit (Text.isDigit_of_mem_numeral hc)
  have hrun (hc : (isIdentifierChar c || c == '.') = true) :
      isIdentifierChar c = true ∨ c ∈ ['.', '-', '+'] := by
    rw [Bool.or_eq_true, beq_iff_eq] at hc
    rcases hc with hc | rfl
    · exact .inl hc
    · exact .inr (by decide)
  simp only [chars, List.mem_append, List.mem_cons] at hc
  rcases hc with (((hc | rfl | hc) | rfl | hc) | hc) | hc
  · exact .inl (hnumber hc)
  · exact .inr (by decide)
  · exact .inl (hnumber hc)
  · exact .inr (by decide)
  · exact .inl (hnumber hc)
  · rcases mem_introduced hc with rfl | hc
    · exact .inr (by decide)
    · exact hrun (Prerelease.mem_chars h.pre hc)
  · rcases mem_introduced hc with rfl | hc
    · exact .inr (by decide)
    · exact hrun (h.build.chars c hc)

/-- A version has no blanks. -/
theorem solid_chars {v : Version} (h : v.Valid) : Text.Solid v.chars where
  ne_nil := by simp [chars, Text.numeral_ne_nil]
  solid c hc := by
    have hsigns : ∀ sign ∈ ['.', '-', '+'], Text.isBlank sign = false := by simp [Text.isBlank]
    rcases mem_chars h hc with hc | hc
    · exact (unbroken_of_isIdentifierChar hc).1
    · exact hsigns c hc

/-- A version starts with a digit, which is no mark. -/
theorem dropMark_chars (v : Version) : dropMark v.chars = v.chars := by
  obtain ⟨d, ds, hdigits⟩ := List.exists_cons_of_ne_nil (Text.numeral_ne_nil v.major)
  have hd : Text.isDigit d = true :=
    Text.isDigit_of_mem_numeral (n := v.major) (by rw [hdigits]; exact List.mem_cons_self ..)
  simp only [chars, hdigits, List.cons_append]
  unfold dropMark
  split
  · rename_i heq
    obtain ⟨rfl, _⟩ := List.cons.inj heq
    contradiction
  · rename_i heq
    obtain ⟨rfl, _⟩ := List.cons.inj heq
    contradiction
  · rfl

theorem readLoose_chars {v : Version} (h : v.Valid) : readLoose v.chars = .ok v := by
  have htrim : Text.trim v.chars = v.chars := by
    simpa using Text.trim_padded .nil (solid_chars h).framed .nil
  rw [readLoose, htrim, dropMark_chars, htrim, read_chars h]

theorem parse_eq_ok_iff (s : String) (v : Version) :
    parse s = .ok v ↔ readLoose s.toList = .ok v :=
  mapError_eq_ok_iff

theorem parse_text_of_parse {s : String} {v : Version} (h : parse s = .ok v) :
    parse v.text = .ok v := by
  have hvalid := valid_of_read ((parse_eq_ok_iff s v).mp h)
  rw [parse_eq_ok_iff, text, String.toList_ofList]
  exact readLoose_chars hvalid

end Version

end ModuleSharing
