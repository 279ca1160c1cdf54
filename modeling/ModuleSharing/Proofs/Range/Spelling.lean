import ModuleSharing.Range.Parser
import ModuleSharing.Proofs.Version.Prerelease

/-! The ways a range may be written.  Each relation `Spelled` says which texts spell a value; it
follows the grammar and not the reader.  The lemmas beside a relation say what the reader needs to
know of such a text: its first character, the characters it contains and where its blanks are. -/

namespace ModuleSharing

/-! ## Numbers -/

def wildcards : List Char := ['x', 'X', '*']

/-- A number, leading zeros allowed, or a wildcard for one that is missing. -/
inductive Component : Option Nat → List Char → Prop where
  | number {n : Nat} (zeros : Nat) (fits : n ≤ Text.maxWord) :
    Component (some n) (List.replicate zeros '0' ++ Text.numeral n)
  | wildcard {c : Char} (sign : c ∈ wildcards) : Component none [c]

/-- Digits and the signs of wildcards. -/
def isComponentChar (c : Char) : Bool := Text.isDigit c || wildcards.contains c

/-- No number stands after a missing one. -/
def MissingLast (numbers : List (Option Nat)) : Prop :=
  numbers.Pairwise fun a b => a = none → b = none

/-- One to three components that spell the numbers of a version; those left out are missing. -/
structure Components (numbers : List (Option Nat)) (pieces : List (List Char)) : Prop where
  spelled : List.Forall₂ Component numbers pieces
  missingLast : MissingLast numbers
  ne_nil : numbers ≠ []
  atMostThree : numbers.length ≤ 3

theorem isComponentChar_of_isDigit {c : Char} (h : Text.isDigit c = true) :
    isComponentChar c = true := by
  simp [isComponentChar, h]

/-- A character of a component is in particular none of `sign`. -/
theorem ne_of_isComponentChar {c sign : Char} (h : isComponentChar c = true)
    (hsign : isComponentChar sign = false) : c ≠ sign := by
  rintro rfl
  rw [hsign] at h
  contradiction

namespace Component

theorem ne_nil {n : Option Nat} {cs : List Char} (h : Component n cs) : cs ≠ [] := by
  cases h with
  | number zeros _ => simp [Text.numeral_ne_nil]
  | wildcard _ => simp

theorem isComponentChar_of_mem {n : Option Nat} {cs : List Char} (h : Component n cs) :
    ∀ c ∈ cs, isComponentChar c = true := by
  intro c hc
  cases h with
  | number zeros _ =>
    rcases List.mem_append.mp hc with hc | hc
    · rw [List.eq_of_mem_replicate hc]
      decide
    · exact isComponentChar_of_isDigit (Text.isDigit_of_mem_numeral hc)
  | wildcard sign => simp [isComponentChar, List.mem_singleton.mp hc, sign]

end Component

namespace Components

variable {numbers : List (Option Nat)} {pieces : List (List Char)}

theorem isComponentChar_of_mem (h : Components numbers pieces) {piece : List Char}
    (hpiece : piece ∈ pieces) : ∀ c ∈ piece, isComponentChar c = true := by
  obtain ⟨n, _, hn⟩ := exists_of_forall₂_right h.spelled hpiece
  exact hn.isComponentChar_of_mem

theorem pieces_ne_nil (h : Components numbers pieces) : pieces ≠ [] := by
  rintro rfl
  exact h.ne_nil (List.forall₂_nil_right_iff.mp h.spelled)

/-- The text of the components starts with a character of the first one. -/
theorem exists_first (h : Components numbers pieces) :
    ∃ c rest, ['.'].intercalate pieces = c :: rest ∧ isComponentChar c = true := by
  obtain ⟨n, others, rfl⟩ := List.exists_cons_of_ne_nil h.ne_nil
  obtain ⟨x, more, hx, _, rfl⟩ := List.forall₂_cons_left_iff.mp h.spelled
  obtain ⟨c, rest, rfl⟩ := List.exists_cons_of_ne_nil hx.ne_nil
  have hc := hx.isComponentChar_of_mem c (List.mem_cons_self ..)
  cases more with
  | nil => exact ⟨c, rest, by simp, hc⟩
  | cons y more =>
    exact ⟨c, rest ++ '.' :: ['.'].intercalate (y :: more),
      by simp [List.intercalate_cons_cons], hc⟩

theorem mem_chars (h : Components numbers pieces) {c : Char}
    (hc : c ∈ ['.'].intercalate pieces) : isComponentChar c = true ∨ c = '.' := by
  rcases Text.mem_of_mem_intercalate hc with rfl | ⟨piece, hpiece, hmem⟩
  · exact .inr rfl
  · exact .inl (h.isComponentChar_of_mem hpiece c hmem)

/-- What drops the mark and no number drops just the mark. -/
theorem dropWhile_marked (h : Components numbers pieces) {mark : List Char}
    (marked : mark = [] ∨ mark = ['v']) {drops : Char → Bool} (hmark : drops 'v' = true)
    (hkeep : ∀ c, isComponentChar c = true → drops c = false) (after : List Char) :
    (mark ++ ['.'].intercalate pieces ++ after).dropWhile drops =
      ['.'].intercalate pieces ++ after := by
  obtain ⟨c, rest, hfirst, hc⟩ := h.exists_first
  have hmarks : ∀ m ∈ mark, drops m = true := by
    rcases marked with rfl | rfl
    · simp
    · simpa using hmark
  rw [List.append_assoc, List.dropWhile_append_of_pos hmarks, hfirst, List.cons_append,
    List.dropWhile_cons_of_neg (by simp [hkeep c hc])]

end Components

/-! ## Versions -/

/-- Nothing, or a pre-release after a hyphen where three numbers are given. -/
inductive PrereleasePart (numbers : List (Option Nat)) : Prerelease → List Char → Prop where
  | absent : PrereleasePart numbers [] []
  | given {pre : Prerelease} (full : numbers[2]?.join.isSome = true) (valid : pre.Valid) :
    PrereleasePart numbers pre ('-' :: pre.chars)

/-- A text that belongs to one word of one set. -/
def Unbroken (cs : List Char) : Prop := ∀ c ∈ cs, Text.isBlank c = false ∧ c ≠ '|'

/-- Nothing, or build metadata, which a range does not keep. -/
inductive BuildPart : List Char → Prop where
  | absent : BuildPart []
  | given {build : List Char} (unbroken : Unbroken build) : BuildPart ('+' :: build)

namespace Partial

/-- The version with these numbers, those that are not there left open. -/
def ofNumbers (numbers : List (Option Nat)) (pre : Prerelease) : Partial :=
  { major := numbers[0]?.join, minor := numbers[1]?.join, patch := numbers[2]?.join, pre }

/-- An optional `v`, the numbers, an optional pre-release and optional build metadata. -/
inductive Spelled : Partial → List Char → Prop where
  | parts {numbers : List (Option Nat)} {pieces : List (List Char)} {pre : Prerelease}
      {mark preText build : List Char} (marked : mark = [] ∨ mark = ['v'])
      (components : Components numbers pieces) (prerelease : PrereleasePart numbers pre preText)
      (built : BuildPart build) :
    Spelled (ofNumbers numbers pre) (mark ++ ['.'].intercalate pieces ++ preText ++ build)

end Partial

theorem Unbroken.append {x y : List Char} (hx : Unbroken x) (hy : Unbroken y) :
    Unbroken (x ++ y) :=
  List.forall_mem_append.mpr ⟨hx, hy⟩

/-- Components and identifiers have letters, digits, hyphens and stars only. -/
theorem unbroken_of_range {c : Char} (hlow : 33 ≤ c.toNat) (hhigh : c.toNat ≤ 122) :
    Text.isBlank c = false ∧ c ≠ '|' := by
  refine ⟨Text.isBlank_of_visible hlow (by omega), ?_⟩
  rintro rfl
  contradiction

theorem unbroken_of_isComponentChar {c : Char} (h : isComponentChar c = true) :
    Text.isBlank c = false ∧ c ≠ '|' := by
  simp only [isComponentChar, Text.isDigit, wildcards, List.contains_cons, List.contains_nil,
    Bool.or_false, Bool.or_eq_true, Bool.and_eq_true, decide_eq_true_eq, beq_iff_eq] at h
  rcases h with ⟨hlow, hhigh⟩ | rfl | rfl | rfl
  · have hlow : 48 ≤ c.toNat := hlow
    have hhigh : c.toNat ≤ 57 := hhigh
    exact unbroken_of_range (by omega) (by omega)
  all_goals decide

theorem unbroken_of_isIdentifierChar {c : Char} (h : Version.isIdentifierChar c = true) :
    Text.isBlank c = false ∧ c ≠ '|' := by
  have h : (c.isUpper || c.isLower || Text.isDigit c || c == '-') = true := h
  simp only [Bool.or_eq_true, beq_iff_eq] at h
  rcases h with ((h | h) | h) | rfl
  · have hbounds : 65 ≤ c.toNat ∧ c.toNat ≤ 90 := of_decide_eq_true h
    exact unbroken_of_range (by omega) (by omega)
  · obtain ⟨hlow, hhigh⟩ := (Bool.and_eq_true _ _).mp h
    have hlow : 97 ≤ c.toNat := of_decide_eq_true hlow
    have hhigh : c.toNat ≤ 122 := of_decide_eq_true hhigh
    exact unbroken_of_range (by omega) (by omega)
  · exact unbroken_of_isComponentChar (isComponentChar_of_isDigit h)
  · decide

theorem Components.unbroken {numbers : List (Option Nat)} {pieces : List (List Char)}
    (h : Components numbers pieces) : Unbroken (['.'].intercalate pieces) := by
  intro c hc
  rcases h.mem_chars hc with hc | rfl
  · exact unbroken_of_isComponentChar hc
  · decide

theorem PrereleasePart.unbroken {numbers : List (Option Nat)} {pre : Prerelease} {cs : List Char}
    (h : PrereleasePart numbers pre cs) : Unbroken cs := by
  intro c hc
  cases h with
  | absent => contradiction
  | given _ valid =>
    rcases List.mem_cons.mp hc with rfl | hc
    · decide
    · have := Prerelease.mem_chars valid hc
      rw [Bool.or_eq_true, beq_iff_eq] at this
      rcases this with hc | rfl
      · exact unbroken_of_isIdentifierChar hc
      · decide

theorem PrereleasePart.plus_not_mem {numbers : List (Option Nat)} {pre : Prerelease}
    {cs : List Char} (h : PrereleasePart numbers pre cs) : '+' ∉ cs := by
  intro hplus
  cases h with
  | absent => contradiction
  | given _ valid =>
    rcases List.mem_cons.mp hplus with h | h
    · contradiction
    · have := Prerelease.mem_chars valid h
      contradiction

theorem BuildPart.unbroken {cs : List Char} (h : BuildPart cs) : Unbroken cs := by
  intro c hc
  cases h with
  | absent => contradiction
  | given unbroken =>
    rcases List.mem_cons.mp hc with rfl | hc
    · decide
    · exact unbroken c hc

namespace Partial.Spelled

variable {p : Partial} {cs : List Char}

theorem unbroken (h : p.Spelled cs) : Unbroken cs := by
  obtain ⟨marked, components, prerelease, built⟩ := h
  refine ((Unbroken.append ?_ components.unbroken).append prerelease.unbroken).append built.unbroken
  rcases marked with rfl | rfl
  · exact List.forall_mem_nil _
  · exact List.forall_mem_singleton.mpr (by decide)

/-- A version has a digit or a wildcard, which no sign and no hyphen has. -/
theorem exists_mem (h : p.Spelled cs) : ∃ c ∈ cs, isComponentChar c = true := by
  obtain ⟨marked, components, prerelease, built⟩ := h
  obtain ⟨c, rest, hfirst, hc⟩ := components.exists_first
  refine ⟨c, ?_, hc⟩
  simp [hfirst]

theorem solid (h : p.Spelled cs) : Text.Solid cs where
  ne_nil := by
    obtain ⟨c, hc, _⟩ := h.exists_mem
    exact List.ne_nil_of_mem hc
  solid c hc := (h.unbroken c hc).1

/-- A version starts with its mark or with its first number. -/
theorem exists_first (h : p.Spelled cs) :
    ∃ c rest, cs = c :: rest ∧ (c = 'v' ∨ isComponentChar c = true) := by
  obtain ⟨marked, components, prerelease, built⟩ := h
  rcases marked with rfl | rfl
  · obtain ⟨c, rest, hfirst, hc⟩ := components.exists_first
    rw [hfirst]
    exact ⟨c, _, rfl, .inr hc⟩
  · exact ⟨'v', _, rfl, .inl rfl⟩

/-- The mark makes no difference. -/
theorem dropMark (h : p.Spelled cs) : p.Spelled (cs.dropWhile (· == 'v')) := by
  obtain ⟨marked, components, prerelease, built⟩ := h
  rename_i preText build
  have hkeep : ∀ c, isComponentChar c = true → (c == 'v') = false := fun c hc =>
    beq_eq_false_iff_ne.mpr (ne_of_isComponentChar hc (by decide))
  rw [List.append_assoc, components.dropWhile_marked marked rfl hkeep, ← List.append_assoc]
  exact .parts (.inl rfl) components prerelease built

end Partial.Spelled

/-! ## Comparators -/

/-- The signs an operator may be written with. -/
def Operator.aliases : Operator → List (List Char)
  | exact => [[], ['='], ['v']]
  | tilde => [['~'], ['~', '>']]
  | op => [op.sign]

/-- A sign right before its version, or apart from it. -/
inductive Comparator.Spelled : Comparator → List Char → Prop where
  | attached {op : Operator} {version : Partial} {sign cs : List Char}
      (signed : sign ∈ op.aliases) (spelled : version.Spelled cs) :
    Spelled ⟨op, version⟩ (sign ++ cs)
  | apart {op : Operator} {version : Partial} {sign gap cs : List Char}
      (signed : sign ∈ op.aliases) (ne_nil : sign ≠ []) (between : Text.Gap gap)
      (spelled : version.Spelled cs) :
    Spelled ⟨op, version⟩ (sign ++ gap ++ cs)

/-! ## Sets -/

namespace ComparatorSet

/-- Comparators with blanks between them. -/
inductive Listed : ComparatorSet → List Char → Prop where
  | one {c : Comparator} {cs : List Char} (spelled : c.Spelled cs) : Listed [c] cs
  | cons {c : Comparator} {set : ComparatorSet} {cs gap rest : List Char}
      (spelled : c.Spelled cs) (between : Text.Gap gap) (others : Listed set rest) :
    Listed (c :: set) (cs ++ gap ++ rest)

/-- Listed comparators, two versions around a hyphen, or nothing at all. -/
inductive Spelled : ComparatorSet → List Char → Prop where
  | listed {set : ComparatorSet} {cs : List Char} (comparators : Listed set cs) : Spelled set cs
  | hyphen {low high : Partial} {x before after y : List Char} (lowSpelled : low.Spelled x)
      (blankBefore : Text.AllBlank before) (blankAfter : Text.AllBlank after)
      (highSpelled : high.Spelled y) :
    Spelled [⟨.greaterEq, low⟩, ⟨.lessEq, high⟩] (x ++ before ++ [' ', '-', ' '] ++ after ++ y)
  | blank : Spelled [.any] []

end ComparatorSet

/-! ## Ranges -/

/-- Sets with two bars between them and blanks around them. -/
inductive VersionRange.Spelled : List ComparatorSet → List Char → Prop where
  | one {set : ComparatorSet} {before cs after : List Char} (blankBefore : Text.AllBlank before)
      (spelled : set.Spelled cs) (blankAfter : Text.AllBlank after) :
    Spelled [set] (before ++ cs ++ after)
  | cons {set : ComparatorSet} {sets : List ComparatorSet} {before cs after rest : List Char}
      (blankBefore : Text.AllBlank before) (spelled : set.Spelled cs)
      (blankAfter : Text.AllBlank after) (others : Spelled sets rest) :
    Spelled (set :: sets) (before ++ cs ++ after ++ '|' :: '|' :: rest)

/-! ## Where the blanks and bars are -/

theorem Operator.unbroken {op : Operator} {sign : List Char} (h : sign ∈ op.aliases) :
    Unbroken sign := by
  have hsigns : ∀ s ∈ op.aliases, s.all (fun c => !Text.isBlank c && c != '|') = true := by
    cases op <;> decide
  intro c hc
  simpa using List.all_eq_true.mp (hsigns sign h) c hc

theorem Text.AllBlank.bar_not_mem {cs : List Char} (h : AllBlank cs) : '|' ∉ cs := by
  intro hbar
  have := h _ hbar
  contradiction

theorem Unbroken.bar_not_mem {cs : List Char} (h : Unbroken cs) : '|' ∉ cs := fun hbar =>
  (h _ hbar).2 rfl

namespace Comparator.Spelled

variable {c : Comparator} {cs : List Char}

theorem framed (h : c.Spelled cs) : Text.Framed cs := by
  cases h with
  | attached signed spelled =>
    have : Unbroken _ := (Operator.unbroken signed).append spelled.unbroken
    exact Text.Solid.framed ⟨by simp [spelled.solid.ne_nil], fun c hc => (this c hc).1⟩
  | apart signed hne _ spelled =>
    have hsign : Text.Solid _ := ⟨hne, fun c hc => (Operator.unbroken signed c hc).1⟩
    exact hsign.framed.append spelled.solid.framed _

theorem bar_not_mem (h : c.Spelled cs) : '|' ∉ cs := by
  cases h with
  | attached signed spelled =>
    exact ((Operator.unbroken signed).append spelled.unbroken).bar_not_mem
  | apart signed _ between spelled =>
    simp only [List.mem_append, not_or]
    exact ⟨⟨(Operator.unbroken signed).bar_not_mem, between.blank.bar_not_mem⟩,
      spelled.unbroken.bar_not_mem⟩

end Comparator.Spelled

namespace ComparatorSet

variable {set : ComparatorSet} {cs : List Char}

theorem Listed.framed (h : Listed set cs) : Text.Framed cs := by
  induction h with
  | one spelled => exact spelled.framed
  | cons spelled _ _ ih => exact spelled.framed.append ih _

theorem Listed.bar_not_mem (h : Listed set cs) : '|' ∉ cs := by
  induction h with
  | one spelled => exact spelled.bar_not_mem
  | cons spelled between _ ih =>
    simp only [List.mem_append, not_or]
    exact ⟨⟨spelled.bar_not_mem, between.blank.bar_not_mem⟩, ih⟩

/-- No blank is taken from a set together with those around it. -/
theorem Spelled.eq_nil_or_framed (h : Spelled set cs) : cs = [] ∨ Text.Framed cs := by
  cases h with
  | listed comparators => exact .inr comparators.framed
  | @hyphen _ _ x before after y lowSpelled _ _ highSpelled =>
    have hframed := lowSpelled.solid.framed.append highSpelled.solid.framed
    exact .inr (by simpa using hframed (before ++ [' ', '-', ' '] ++ after))
  | blank => exact .inl rfl

theorem Spelled.bar_not_mem (h : Spelled set cs) : '|' ∉ cs := by
  cases h with
  | listed comparators => exact comparators.bar_not_mem
  | hyphen lowSpelled blankBefore blankAfter highSpelled =>
    simp only [List.mem_append, not_or]
    exact ⟨⟨⟨⟨lowSpelled.unbroken.bar_not_mem, blankBefore.bar_not_mem⟩, by decide⟩,
      blankAfter.bar_not_mem⟩, highSpelled.unbroken.bar_not_mem⟩
  | blank => exact List.not_mem_nil

/-- A set with blanks around it trims to the set, and keeps to itself between bars. -/
theorem Spelled.trim_padded (h : Spelled set cs) {before after : List Char}
    (hbefore : Text.AllBlank before) (hafter : Text.AllBlank after) :
    Text.trim (before ++ cs ++ after) = cs ∧ '|' ∉ before ++ cs ++ after := by
  constructor
  · rcases h.eq_nil_or_framed with rfl | hframed
    · rw [List.append_nil]
      exact Text.trim_of_allBlank (hbefore.append hafter)
    · exact Text.trim_padded hbefore hframed hafter
  · simp only [List.mem_append, not_or]
    exact ⟨⟨hbefore.bar_not_mem, h.bar_not_mem⟩, hafter.bar_not_mem⟩

end ComparatorSet

end ModuleSharing
