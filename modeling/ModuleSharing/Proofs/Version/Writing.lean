import ModuleSharing.Proofs.Version.Reading

/-! A version has one strict text.  Each part that the reader takes off a text is the part that
`Version.chars` writes, so the whole text is the written version (`Version.eq_chars_of_read`).
Around it people may put blanks and one mark (`Version.exists_loose`). -/

namespace ModuleSharing

/-! ## Pre-releases -/

theorem Identifier.eq_chars_of_readIdentifier {cs : List Char} {i : Identifier}
    (h : Version.readIdentifier cs = .ok i) : cs = i.chars := by
  unfold Version.readIdentifier at h
  split at h
  · contradiction
  · rename_i hne
    split at h
    · rename_i hdigits
      split at h
      · contradiction
      · rename_i hplain
        cases h
        refine (Text.numeral_value (by simpa using hne) (List.all_eq_true.mp hdigits) ?_).symm
        intro hzero
        have := List.length_pos_iff.mpr (by simpa using hne)
        simp only [hzero, beq_self_eq_true, Bool.and_true, decide_eq_true_eq] at hplain
        omega
    · cases h
      rfl

theorem Prerelease.eq_chars_of_readIdentifiers {run : List Char} {p : Prerelease}
    (h : Version.readIdentifiers run = .ok p) : run = p.chars := by
  unfold Version.readIdentifiers at h
  split at h
  · rename_i hempty
    cases h
    simpa [chars] using hempty
  · rw [mapM_eq_ok_iff] at h
    have hpieces : run.splitOn '.' = p.map Identifier.chars := by
      rw [← List.forall₂_eq_eq_eq, List.forall₂_map_right_iff]
      exact h.imp fun _ _ => Identifier.eq_chars_of_readIdentifier
    rw [chars, ← hpieces, List.intercalate_splitOn]

namespace Version

/-! ## Parts -/

theorem identifierRun_eq_append (cs : List Char) :
    cs = (identifierRun cs).1 ++ (identifierRun cs).2 :=
  List.takeWhile_append_dropWhile.symm

theorem eq_numeral_of_readNumber {part : VersionPart} {cs rest : List Char} {n : Nat}
    (h : readNumber part cs = .ok (n, rest)) : cs = Text.numeral n ++ rest := by
  have hcs : cs = cs.takeWhile Text.isDigit ++ cs.dropWhile Text.isDigit :=
    List.takeWhile_append_dropWhile.symm
  have hdigits : ∀ c ∈ cs.takeWhile Text.isDigit, Text.isDigit c = true :=
    List.all_eq_true.mp (List.all_takeWhile ..)
  simp only [readNumber] at h
  generalize cs.takeWhile Text.isDigit = digits at h hcs hdigits
  generalize cs.dropWhile Text.isDigit = after at h hcs
  split at h
  · cases h
  · cases h
  · rename_i d ds
    split at h
    · contradiction
    · rename_i hplain
      split at h
      · cases h
        rw [Text.numeral_value (by simp) hdigits, hcs]
        intro hzero
        rw [List.head?_cons, Option.some.injEq] at hzero
        simpa [hzero] using hplain
      · contradiction

theorem eq_dot_of_readDot {part : VersionPart} {cs rest : List Char}
    (h : readDot part cs = .ok rest) : cs = '.' :: rest := by
  unfold readDot at h
  split at h
  · contradiction
  · split at h
    · rename_i hdot
      cases h
      rw [hdot]
    · contradiction

theorem eq_introduced {sign : Char} {cs : List Char} (h : cs ≠ []) :
    introduced sign cs = sign :: cs := by
  simp [introduced, h]

theorem eq_introduced_of_readPrereleasePart {cs rest : List Char} {pre : Prerelease}
    (h : readPrereleasePart cs = .ok (pre, rest)) : cs = introduced '-' pre.chars ++ rest := by
  have hvalid := valid_of_readPrereleasePart h
  unfold readPrereleasePart at h
  split at h
  · rename_i after
    have hrun := identifierRun_eq_append after
    generalize identifierRun after = parts at h hrun
    obtain ⟨p, hp, hrest⟩ := bind_eq_ok_iff.mp h
    split at hrest
    · contradiction
    · rename_i hne
      cases hrest
      rw [hrun, Prerelease.eq_chars_of_readIdentifiers hp,
        eq_introduced (Prerelease.chars_ne_nil hvalid (by simpa using hne)), List.cons_append]
  · cases h
    rfl

theorem eq_introduced_of_readBuildPart {cs rest build : List Char}
    (h : readBuildPart cs = .ok (build, rest)) : cs = introduced '+' build ++ rest := by
  unfold readBuildPart at h
  split at h
  · rename_i after
    have hrun := identifierRun_eq_append after
    generalize identifierRun after = parts at h hrun
    obtain ⟨b, hb, hrest⟩ := bind_eq_ok_iff.mp h
    cases hrest
    obtain ⟨hbuild, hne, _⟩ := (readBuild_eq_ok_iff _ _).mp hb
    rw [hrun, hbuild, eq_introduced hne, List.cons_append]
  · cases h
    rfl

/-! ## Whole versions -/

theorem eq_chars_of_read {cs : List Char} {v : Version} (h : read cs = .ok v) : cs = v.chars := by
  unfold read at h
  split at h
  · contradiction
  obtain ⟨⟨major, _⟩, hmajor, h⟩ := bind_eq_ok_iff.mp h
  obtain ⟨_, hdot, h⟩ := bind_eq_ok_iff.mp h
  obtain ⟨⟨minor, _⟩, hminor, h⟩ := bind_eq_ok_iff.mp h
  obtain ⟨_, hdot', h⟩ := bind_eq_ok_iff.mp h
  obtain ⟨⟨patch, _⟩, hpatch, h⟩ := bind_eq_ok_iff.mp h
  obtain ⟨⟨pre, _⟩, hpre, h⟩ := bind_eq_ok_iff.mp h
  obtain ⟨⟨build, rest⟩, hbuild, h⟩ := bind_eq_ok_iff.mp h
  dsimp only at h hdot hdot' hminor hpatch hpre hbuild
  split at h
  · cases h
    rw [eq_numeral_of_readNumber hmajor, eq_dot_of_readDot hdot, eq_numeral_of_readNumber hminor,
      eq_dot_of_readDot hdot', eq_numeral_of_readNumber hpatch,
      eq_introduced_of_readPrereleasePart hpre, eq_introduced_of_readBuildPart hbuild]
    simp [chars]
  · contradiction

theorem eq_or_eq_cons_dropMark (cs : List Char) :
    cs = dropMark cs ∨ ∃ mark, (mark = 'v' ∨ mark = '=') ∧ cs = mark :: dropMark cs := by
  unfold dropMark
  split
  · exact .inr ⟨'v', .inl rfl, rfl⟩
  · exact .inr ⟨'=', .inr rfl, rfl⟩
  · exact .inl rfl

/-- A version that was read has its strict text inside of blanks, maybe after a mark. -/
theorem exists_loose {cs : List Char} {v : Version} (h : readLoose cs = .ok v) :
    ∃ before marked after, Text.AllBlank before ∧ Text.AllBlank after ∧
      (marked = [] ∨ ∃ mark gap, (mark = 'v' ∨ mark = '=') ∧ Text.AllBlank gap ∧
        marked = mark :: gap) ∧
      cs = before ++ (marked ++ v.chars) ++ after := by
  obtain ⟨before, after, hbefore, hafter, hcs⟩ := Text.exists_padding cs
  obtain ⟨gap, rest, hgap, hrest, hinner⟩ := Text.exists_padding (dropMark (Text.trim cs))
  rw [eq_chars_of_read h] at hinner
  rcases eq_or_eq_cons_dropMark (Text.trim cs) with hmark | ⟨mark, hmark, hcons⟩
  · refine ⟨before ++ gap, [], rest ++ after, hbefore.append hgap, hrest.append hafter, .inl rfl,
      ?_⟩
    rw [hcs, hmark, hinner]
    simp
  · refine ⟨before, mark :: gap, rest ++ after, hbefore, hrest.append hafter,
      .inr ⟨mark, gap, hmark, hgap, rfl⟩, ?_⟩
    rw [hcs, hcons, hinner]
    simp

end Version

end ModuleSharing
