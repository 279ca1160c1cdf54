import ModuleSharing.Version.Parser
import ModuleSharing.Proofs.Sequence
import ModuleSharing.Proofs.Text.Decimal
import ModuleSharing.Proofs.Text.Split

/-! Pre-releases have one spelling.  What `Prerelease.read` accepts is valid
(`Prerelease.valid_of_read`), and a valid pre-release is read back from its characters
(`Prerelease.read_chars`). -/

namespace ModuleSharing

/-! ## Runs -/

/-- A run ends where the first character that does not belong to it stands. -/
theorem Text.takeWhile_append_of_head {p : Char → Bool} {run rest : List Char}
    (hrun : ∀ c ∈ run, p c = true) (hrest : ∀ c ∈ rest.head?, p c = false) :
    (run ++ rest).takeWhile p = run ∧ (run ++ rest).dropWhile p = rest := by
  rw [List.takeWhile_append_of_pos hrun, List.dropWhile_append_of_pos hrun]
  cases rest with
  | nil => simp
  | cons c rest => simp [hrest c rfl]

namespace Version

theorem isIdentifierChar_of_mem_run {cs : List Char} :
    ∀ c ∈ (identifierRun cs).1, (isIdentifierChar c || c == '.') = true :=
  List.all_eq_true.mp (List.all_takeWhile ..)

theorem identifierRun_append {run rest : List Char}
    (hrun : ∀ c ∈ run, (isIdentifierChar c || c == '.') = true)
    (hrest : ∀ c ∈ rest.head?, (isIdentifierChar c || c == '.') = false) :
    identifierRun (run ++ rest) = (run, rest) := by
  obtain ⟨htake, hdrop⟩ := Text.takeWhile_append_of_head hrun hrest
  exact Prod.ext htake hdrop

end Version

/-! ## Identifiers -/

theorem Text.isIdentifierChar_of_isDigit {c : Char} (h : isDigit c = true) :
    Version.isIdentifierChar c = true := by
  have hdigit : c.isDigit = true := h
  simp [Version.isIdentifierChar, Char.isAlphanum, hdigit]

namespace Identifier

/-- A text stands for itself: it has characters of identifiers only and is not a number. -/
def Valid : Identifier → Prop
  | numeric _ => True
  | textual cs =>
    cs ≠ [] ∧ (∀ c ∈ cs, Version.isIdentifierChar c = true) ∧ cs.all Text.isDigit = false

theorem chars_ne_nil {i : Identifier} (h : i.Valid) : i.chars ≠ [] := by
  cases i with
  | numeric n => exact Text.numeral_ne_nil n
  | textual cs => exact h.1

theorem isIdentifierChar_of_mem_chars {i : Identifier} (h : i.Valid) {c : Char}
    (hc : c ∈ i.chars) : Version.isIdentifierChar c = true := by
  cases i with
  | numeric n => exact Text.isIdentifierChar_of_isDigit (Text.isDigit_of_mem_numeral hc)
  | textual cs => exact h.2.1 c hc

theorem readIdentifier_chars {i : Identifier} (h : i.Valid) :
    Version.readIdentifier i.chars = .ok i := by
  unfold Version.readIdentifier
  rw [if_neg (by simp [chars_ne_nil h])]
  cases i with
  | numeric n =>
    have hdigits : (numeric n).chars.all Text.isDigit = true :=
      List.all_eq_true.mpr fun c hc => Text.isDigit_of_mem_numeral hc
    have hplain : ¬ (decide ((numeric n).chars.length > 1) &&
        (numeric n).chars.head? == some '0') := by
      rw [Bool.and_eq_true, decide_eq_true_eq, beq_iff_eq]
      rintro ⟨hlong, hzero⟩
      obtain rfl := Text.eq_zero_of_head?_numeral hzero
      contradiction
    rw [if_pos hdigits, if_neg hplain, chars, Text.value_numeral]
  | textual cs => rw [chars, if_neg (by simp [h.2.2])]

theorem valid_of_readIdentifier {cs : List Char} {i : Identifier}
    (hchars : ∀ c ∈ cs, Version.isIdentifierChar c = true)
    (h : Version.readIdentifier cs = .ok i) : i.Valid := by
  unfold Version.readIdentifier at h
  split at h
  · contradiction
  · rename_i hne
    split at h
    · split at h
      · contradiction
      · cases h
        trivial
    · rename_i hdigits
      cases h
      exact ⟨by simpa using hne, hchars, by simpa using hdigits⟩

end Identifier

/-! ## Pre-releases -/

namespace Prerelease

def Valid (p : Prerelease) : Prop := ∀ i ∈ p, i.Valid

private theorem dot_not_mem_chars {p : Prerelease} (h : p.Valid) :
    ∀ cs ∈ p.map Identifier.chars, '.' ∉ cs := by
  intro cs hcs hdot
  obtain ⟨i, hi, rfl⟩ := List.mem_map.mp hcs
  have := Identifier.isIdentifierChar_of_mem_chars (h i hi) hdot
  contradiction

theorem chars_ne_nil {p : Prerelease} (h : p.Valid) (hne : p ≠ []) : p.chars ≠ [] := by
  obtain ⟨i, rest, rfl⟩ := List.exists_cons_of_ne_nil hne
  have hi := Identifier.chars_ne_nil (h i (List.mem_cons_self ..))
  cases rest with
  | nil => simpa [chars] using hi
  | cons j rest => simp [chars, List.intercalate_cons_cons]

/-- A pre-release is written with characters of identifiers and dots. -/
theorem mem_chars {p : Prerelease} (h : p.Valid) {c : Char} (hc : c ∈ p.chars) :
    (Version.isIdentifierChar c || c == '.') = true := by
  rcases Text.mem_of_mem_intercalate hc with rfl | ⟨piece, hpiece, hmem⟩
  · rfl
  · obtain ⟨i, hi, rfl⟩ := List.mem_map.mp hpiece
    rw [Identifier.isIdentifierChar_of_mem_chars (h i hi) hmem, Bool.true_or]

theorem readIdentifiers_chars {p : Prerelease} (h : p.Valid) :
    Version.readIdentifiers p.chars = .ok p := by
  unfold Version.readIdentifiers
  by_cases hp : p = []
  · rw [hp]
    rfl
  · have hsplit : p.chars.splitOn '.' = p.map Identifier.chars :=
      List.splitOn_intercalate '.' (dot_not_mem_chars h) (by simpa using hp)
    rw [if_neg (by simp [chars_ne_nil h hp]), hsplit, mapM_eq_ok_iff, List.forall₂_map_left_iff,
      List.forall₂_same]
    exact fun i hi => Identifier.readIdentifier_chars (h i hi)

theorem read_chars {p : Prerelease} (h : p.Valid) : read p.chars = .ok p := by
  have hrun : Version.identifierRun (p.chars ++ []) = (p.chars, []) := by
    apply Version.identifierRun_append
    · intro c hc
      exact mem_chars h hc
    · intro c hc
      contradiction
  rw [List.append_nil] at hrun
  simp only [read, hrun, readIdentifiers_chars h]
  rfl

theorem chars_inj {p q : Prerelease} (hp : p.Valid) (hq : q.Valid) :
    p.chars = q.chars ↔ p = q := by
  refine ⟨fun h => ?_, congrArg chars⟩
  have hread := read_chars hp
  rw [h, read_chars hq] at hread
  exact (Except.ok.inj hread).symm

theorem valid_of_readIdentifiers {run : List Char} {p : Prerelease}
    (hchars : ∀ c ∈ run, (Version.isIdentifierChar c || c == '.') = true)
    (h : Version.readIdentifiers run = .ok p) : p.Valid := by
  unfold Version.readIdentifiers at h
  split at h
  · cases h
    intro i hi
    contradiction
  · rw [mapM_eq_ok_iff] at h
    intro i hi
    obtain ⟨piece, hpiece, hread⟩ := exists_of_forall₂_right h hi
    refine Identifier.valid_of_readIdentifier (fun c hc => ?_) hread
    obtain ⟨hmem, hdot⟩ := Text.mem_of_mem_splitOn hpiece c hc
    have hc := hchars c hmem
    simpa [hdot] using hc

theorem valid_of_read {cs : List Char} {p : Prerelease} (h : read cs = .ok p) : p.Valid := by
  have hchars : ∀ c ∈ (Version.identifierRun cs).1,
      (Version.isIdentifierChar c || c == '.') = true :=
    Version.isIdentifierChar_of_mem_run
  unfold read at h
  generalize Version.identifierRun cs = run at h hchars
  obtain ⟨run, rest⟩ := run
  obtain ⟨q, hread, hrest⟩ := bind_eq_ok_iff.mp h
  split at hrest
  · cases hrest
    exact valid_of_readIdentifiers hchars hread
  · contradiction

end Prerelease

end ModuleSharing
