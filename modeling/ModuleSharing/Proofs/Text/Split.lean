import ModuleSharing.Text.Blank
import ModuleSharing.Text.Split

/-! Cutting texts that were put together.  Blanks at the ends are trimmed (`trim_padded`), words are
told apart by gaps of blanks (`words_append_gap`), and a separator is found where the part before it
does not contain it (`cutAt_append`, `splitBars_append`). -/

namespace ModuleSharing.Text

/-! ## Blanks -/

/-- A text of blanks only, maybe empty. -/
def AllBlank (cs : List Char) : Prop := ∀ c ∈ cs, isBlank c = true

theorem AllBlank.nil : AllBlank [] := List.forall_mem_nil _

theorem AllBlank.append {x y : List Char} (hx : AllBlank x) (hy : AllBlank y) :
    AllBlank (x ++ y) :=
  List.forall_mem_append.mpr ⟨hx, hy⟩

/-- Blanks between two words, at least one. -/
structure Gap (cs : List Char) : Prop where
  ne_nil : cs ≠ []
  blank : AllBlank cs

theorem Gap.space : Gap [' '] where
  ne_nil := by simp
  blank := by simpa [AllBlank] using (by decide : isBlank ' ' = true)

/-- A word: not empty and without blanks. -/
structure Solid (cs : List Char) : Prop where
  ne_nil : cs ≠ []
  solid : ∀ c ∈ cs, isBlank c = false

/-- A text that starts and ends with a character that is not blank. -/
structure Framed (cs : List Char) : Prop where
  first : ∃ c rest, cs = c :: rest ∧ isBlank c = false
  last : ∃ front c, cs = front ++ [c] ∧ isBlank c = false

/-- What shows in ASCII is no blank. -/
theorem isBlank_of_visible {c : Char} (hlow : 33 ≤ c.toNat) (hhigh : c.toNat ≤ 126) :
    isBlank c = false := by
  simp only [isBlank, Bool.or_eq_false_iff, Bool.and_eq_false_iff, decide_eq_false_iff_not,
    beq_eq_false_iff_ne]
  omega

theorem Solid.framed {cs : List Char} (h : Solid cs) : Framed cs where
  first := by
    obtain ⟨c, rest, rfl⟩ := List.exists_cons_of_ne_nil h.ne_nil
    exact ⟨c, rest, rfl, h.solid c (List.mem_cons_self ..)⟩
  last := by
    have hlast := List.dropLast_concat_getLast h.ne_nil
    exact ⟨_, _, hlast.symm, h.solid _ (List.getLast_mem h.ne_nil)⟩

theorem Framed.append {x y : List Char} (hx : Framed x) (hy : Framed y) (between : List Char) :
    Framed (x ++ between ++ y) where
  first := by
    obtain ⟨c, rest, rfl, hc⟩ := hx.first
    exact ⟨c, rest ++ between ++ y, by simp, hc⟩
  last := by
    obtain ⟨front, c, rfl, hc⟩ := hy.last
    exact ⟨x ++ between ++ front, c, by simp, hc⟩

theorem trimStart_append {before x : List Char} (h : AllBlank before) :
    trimStart (before ++ x) = trimStart x :=
  List.dropWhile_append_of_pos h

theorem trimEnd_append {x after : List Char} (h : AllBlank after) :
    trimEnd (x ++ after) = trimEnd x := by
  unfold trimEnd
  rw [List.reverse_append, List.dropWhile_append_of_pos fun c hc => h c (List.mem_reverse.mp hc)]

theorem Framed.trimStart_append {cs : List Char} (h : Framed cs) (x : List Char) :
    trimStart (cs ++ x) = cs ++ x := by
  obtain ⟨c, rest, rfl, hc⟩ := h.first
  exact List.dropWhile_cons_of_neg (by simp [hc])

theorem Framed.trimEnd_eq {cs : List Char} (h : Framed cs) : trimEnd cs = cs := by
  obtain ⟨front, c, rfl, hc⟩ := h.last
  unfold trimEnd
  rw [List.reverse_append, List.reverse_singleton, List.singleton_append,
    List.dropWhile_cons_of_neg (by simp [hc]), List.reverse_cons, List.reverse_reverse]

theorem trim_padded {before cs after : List Char} (hbefore : AllBlank before) (h : Framed cs)
    (hafter : AllBlank after) : trim (before ++ cs ++ after) = cs := by
  unfold trim
  rw [List.append_assoc, trimStart_append hbefore, h.trimStart_append, trimEnd_append hafter,
    h.trimEnd_eq]

/-- What is trimmed away is blank. -/
theorem exists_padding (cs : List Char) :
    ∃ before after, AllBlank before ∧ AllBlank after ∧ cs = before ++ trim cs ++ after := by
  have hblank (x : List Char) : AllBlank (x.takeWhile isBlank) :=
    List.all_eq_true.mp (List.all_takeWhile ..)
  refine ⟨cs.takeWhile isBlank, ((trimStart cs).reverse.takeWhile isBlank).reverse, hblank cs,
    fun c hc => hblank _ c (List.mem_reverse.mp hc), ?_⟩
  have hend : trim cs ++ ((trimStart cs).reverse.takeWhile isBlank).reverse = trimStart cs := by
    rw [trim, trimEnd, ← List.reverse_append, List.takeWhile_append_dropWhile, List.reverse_reverse]
  rw [List.append_assoc, hend, trimStart, List.takeWhile_append_dropWhile]

theorem trim_of_allBlank {cs : List Char} (h : AllBlank cs) : trim cs = [] := by
  have hstart : trimStart cs = [] := by
    rw [← cs.append_nil, trimStart_append h]
    rfl
  unfold trim
  rw [hstart]
  rfl

/-! ## Words -/

theorem words_append_blank {c : Char} (hc : isBlank c = true) (x y : List Char) :
    words (x ++ c :: y) = words x ++ words y := by
  unfold words
  rw [List.splitOnP_append_cons x y hc, List.filter_append]

theorem words_cons_blank {c : Char} (hc : isBlank c = true) (x : List Char) :
    words (c :: x) = words x :=
  words_append_blank hc [] x

theorem words_nil : words [] = [] := rfl

theorem words_allBlank_append {before : List Char} (h : AllBlank before) (y : List Char) :
    words (before ++ y) = words y := by
  induction before with
  | nil => rfl
  | cons c before ih =>
    obtain ⟨hc, hbefore⟩ := List.forall_mem_cons.mp h
    rw [List.cons_append, words_cons_blank hc, ih hbefore]

theorem words_append_gap {gap : List Char} (h : Gap gap) (x y : List Char) :
    words (x ++ gap ++ y) = words x ++ words y := by
  obtain ⟨hne, hblank⟩ := h
  obtain ⟨c, rest, rfl⟩ := List.exists_cons_of_ne_nil hne
  obtain ⟨hc, hrest⟩ := List.forall_mem_cons.mp hblank
  rw [List.append_assoc, List.cons_append, words_append_blank hc, words_allBlank_append hrest]

theorem words_append_allBlank {after : List Char} (h : AllBlank after) (x : List Char) :
    words (x ++ after) = words x := by
  by_cases hnil : after = []
  · rw [hnil, List.append_nil]
  · have hgap := words_append_gap ⟨hnil, h⟩ x []
    rwa [words_nil, List.append_nil, List.append_nil] at hgap

/-- Trimming takes no word away. -/
theorem words_trim (cs : List Char) : words (trim cs) = words cs := by
  obtain ⟨before, after, hbefore, hafter, hcs⟩ := exists_padding cs
  have hwords := words_append_allBlank hafter (before ++ trim cs)
  rw [words_allBlank_append hbefore, ← hcs] at hwords
  exact hwords.symm

theorem words_of_solid {cs : List Char} (h : Solid cs) : words cs = [cs] := by
  unfold words
  rw [List.splitOnP_eq_singleton h.solid]
  simp [h.ne_nil]

/-- The first word has the first character, if that is not blank. -/
theorem words_cons {c : Char} (hc : isBlank c = false) (cs : List Char) :
    ∃ word rest, words (c :: cs) = (c :: word) :: rest := by
  obtain ⟨piece, pieces, hsplit⟩ := List.exists_cons_of_ne_nil (List.splitOnP_ne_nil isBlank cs)
  unfold words
  rw [List.splitOnP_cons_eq_if_modifyHead, if_neg (by simp [hc]), hsplit]
  exact ⟨piece, pieces.filter fun w => !w.isEmpty, by simp⟩

theorem trimEnd_prefix (cs : List Char) : trimEnd cs <+: cs := by
  have hsuffix := List.dropWhile_suffix (l := cs.reverse) isBlank
  rwa [← List.reverse_prefix, List.reverse_reverse] at hsuffix

theorem isBlank_of_trim {c : Char} {cs rest : List Char} (h : trim cs = c :: rest) :
    isBlank c = false := by
  obtain ⟨blanks, happend⟩ : trim cs <+: cs.dropWhile isBlank := trimEnd_prefix _
  have hc := List.head?_dropWhile_not isBlank cs
  rw [← happend, h] at hc
  simpa using hc

/-- What is left by trimming starts with a word. -/
theorem words_trim_ne_nil {cs : List Char} (h : trim cs ≠ []) : words (trim cs) ≠ [] := by
  obtain ⟨c, rest, hcut⟩ := List.exists_cons_of_ne_nil h
  obtain ⟨word, more, hwords⟩ := words_cons (isBlank_of_trim hcut) rest
  rw [hcut, hwords]
  exact List.cons_ne_nil _ _

/-! ## The first character -/

/-- The first character that is not blank. -/
def first? (cs : List Char) : Option Char := cs.find? fun c => !isBlank c

theorem first?_cons {c : Char} (hc : isBlank c = false) (cs : List Char) :
    first? (c :: cs) = some c :=
  List.find?_cons_of_pos (by simpa using hc)

theorem AllBlank.first?_append {before : List Char} (h : AllBlank before) (cs : List Char) :
    first? (before ++ cs) = first? cs := by
  have hnone : before.find? (fun c => !isBlank c) = none := by simpa [AllBlank] using h
  unfold first?
  rw [List.find?_append, hnone, Option.none_or]

theorem first?_append_of_some {c : Char} {cs : List Char} (h : first? cs = some c)
    (after : List Char) : first? (cs ++ after) = some c := by
  unfold first? at h ⊢
  rw [List.find?_append, h, Option.some_or]

theorem first?_eq_none_iff (cs : List Char) : first? cs = none ↔ AllBlank cs := by
  simp [first?, AllBlank]

/-- Trimming takes no first character away. -/
theorem head?_trim (cs : List Char) : (trim cs).head? = first? cs := by
  obtain ⟨before, after, hbefore, hafter, hcs⟩ := exists_padding cs
  have hfirst := hbefore.first?_append (trim cs ++ after)
  rw [← List.append_assoc, ← hcs] at hfirst
  rw [hfirst]
  cases htrim : trim cs with
  | nil => simpa [first?] using (hafter.first?_append []).symm
  | cons c rest => exact (first?_cons (isBlank_of_trim htrim) (rest ++ after)).symm

/-! ## Separators -/

/-- The pieces between separators have the characters of the text without the separator. -/
theorem mem_of_mem_splitOn {sep : Char} {cs piece : List Char} (h : piece ∈ cs.splitOn sep) :
    ∀ c ∈ piece, c ∈ cs ∧ c ≠ sep := by
  induction cs generalizing piece with
  | nil =>
    rw [List.splitOn_nil, List.mem_singleton] at h
    simp [h]
  | cons d cs ih =>
    rw [List.splitOn_cons_eq_if_modifyHead] at h
    split at h
    · rcases List.mem_cons.mp h with rfl | h
      · simp
      · exact fun c hc => ⟨List.mem_cons_of_mem _ (ih h c hc).1, (ih h c hc).2⟩
    · rename_i hd
      obtain ⟨first, rest, hsplit⟩ := List.exists_cons_of_ne_nil (List.splitOn_ne_nil sep cs)
      rw [hsplit, List.modifyHead_cons, List.mem_cons] at h
      rw [hsplit] at ih
      intro c hc
      rcases h with rfl | h
      · rcases List.mem_cons.mp hc with rfl | hc
        · exact ⟨List.mem_cons_self .., by simpa using hd⟩
        · have := ih (List.mem_cons_self ..) c hc
          exact ⟨List.mem_cons_of_mem _ this.1, this.2⟩
      · have := ih (List.mem_cons_of_mem _ h) c hc
        exact ⟨List.mem_cons_of_mem _ this.1, this.2⟩

/-- Pieces joined by a separator have no characters of their own beside it. -/
theorem mem_of_mem_intercalate {sep c : Char} {pieces : List (List Char)}
    (h : c ∈ [sep].intercalate pieces) : c = sep ∨ ∃ piece ∈ pieces, c ∈ piece := by
  induction pieces with
  | nil => contradiction
  | cons piece pieces ih =>
    cases pieces with
    | nil => exact .inr ⟨piece, List.mem_cons_self .., by simpa using h⟩
    | cons next pieces =>
      simp only [List.intercalate_cons_cons, List.mem_append, List.mem_singleton] at h
      rcases h with (hc | hc) | hc
      · exact .inr ⟨piece, List.mem_cons_self .., hc⟩
      · exact .inl hc
      · exact (ih hc).imp_right fun ⟨p, hp, hmem⟩ => ⟨p, List.mem_cons_of_mem _ hp, hmem⟩

theorem intercalate_append {sep : List Char} {xs ys : List (List Char)} (hx : xs ≠ [])
    (hy : ys ≠ []) :
    sep.intercalate (xs ++ ys) = sep.intercalate xs ++ sep ++ sep.intercalate ys := by
  induction xs with
  | nil => contradiction
  | cons x xs ih =>
    cases xs with
    | nil =>
      obtain ⟨y, ys, rfl⟩ := List.exists_cons_of_ne_nil hy
      simp [List.intercalate_cons_cons]
    | cons next xs =>
      rw [List.cons_append, List.cons_append, List.intercalate_cons_cons, ← List.cons_append,
        ih (by simp), List.intercalate_cons_cons]
      simp

/-- Groups that are joined one by one and then together are joined all at once. -/
theorem intercalate_map_intercalate {sep : List Char} {groups : List (List (List Char))}
    (h : ∀ group ∈ groups, group ≠ []) :
    sep.intercalate (groups.map sep.intercalate) = sep.intercalate groups.flatten := by
  induction groups with
  | nil => rfl
  | cons group groups ih =>
    obtain ⟨hgroup, hgroups⟩ := List.forall_mem_cons.mp h
    cases groups with
    | nil => simp
    | cons next groups =>
      have hrest : (next :: groups).flatten ≠ [] := by
        simp [hgroups next (List.mem_cons_self ..)]
      rw [List.flatten_cons, intercalate_append hgroup hrest, ← ih hgroups, List.map_cons,
        List.map_cons, List.intercalate_cons_cons]

/-- Pieces without the separator are known from what they are joined to. -/
theorem intercalate_inj {sep : Char} {xs ys : List (List Char)} (hx : ∀ x ∈ xs, sep ∉ x)
    (hy : ∀ y ∈ ys, sep ∉ y) (hxs : xs ≠ []) (hys : ys ≠ [])
    (h : [sep].intercalate xs = [sep].intercalate ys) : xs = ys := by
  rw [← List.splitOn_intercalate sep hx hxs, h, List.splitOn_intercalate sep hy hys]

theorem eq_append_of_cutAt {sep cs x y : List Char} (h : cutAt sep cs = some (x, y)) :
    cs = x ++ sep ++ y := by
  induction cs generalizing x with
  | nil =>
    simp only [cutAt, List.isEmpty_iff] at h
    split at h
    · rename_i hsep
      cases h
      simp [hsep]
    · contradiction
  | cons c cs ih =>
    simp only [cutAt] at h
    split at h
    · rename_i hstarts
      cases h
      obtain ⟨rest, hrest⟩ := List.isPrefixOf_iff_prefix.mp hstarts
      rw [← hrest]
      simp
    · obtain ⟨⟨before, after⟩, hcut, hpair⟩ := Option.map_eq_some_iff.mp h
      cases hpair
      rw [ih hcut]
      simp

theorem cutAt_cons {sep : List Char} {c : Char} {cs : List Char} (h : ¬ sep <+: c :: cs) :
    cutAt sep (c :: cs) = (cutAt sep cs).map fun (before, after) => (c :: before, after) := by
  rw [cutAt, if_neg (by rwa [List.isPrefixOf_iff_prefix])]

theorem cutAt_append {c : Char} {x : List Char} (h : c ∉ x) (y : List Char) :
    cutAt [c] (x ++ c :: y) = some (x, y) := by
  induction x with
  | nil => simp [cutAt]
  | cons d x ih =>
    rw [List.mem_cons, not_or] at h
    rw [List.cons_append, cutAt_cons (by simp [h.1]), ih h.2]
    rfl

/-- Two texts are the same if they are so before and after the first place of a character. -/
theorem append_cons_inj {c : Char} {x x' y y' : List Char} (hx : c ∉ x) (hx' : c ∉ x')
    (h : x ++ c :: y = x' ++ c :: y') : x = x' ∧ y = y' := by
  have hcut := cutAt_append hx y
  rw [h, cutAt_append hx' y', Option.some.injEq, Prod.mk.injEq] at hcut
  exact ⟨hcut.1.symm, hcut.2.symm⟩

/-- The same for the last place of a character. -/
theorem append_cons_inj_last {c : Char} {x x' y y' : List Char} (hy : c ∉ y) (hy' : c ∉ y')
    (h : x ++ c :: y = x' ++ c :: y') : x = x' ∧ y = y' := by
  have hreverse : y.reverse ++ c :: x.reverse = y'.reverse ++ c :: x'.reverse := by
    simpa using congrArg List.reverse h
  obtain ⟨hend, hstart⟩ := append_cons_inj (by simpa using hy) (by simpa using hy') hreverse
  exact ⟨List.reverse_inj.mp hstart, List.reverse_inj.mp hend⟩

/-- A separator of two characters is found where it does not stand in the part before it. -/
theorem cutAt_append_pair {a b : Char} (hab : a ≠ b) {x : List Char} (h : ¬ [a, b] <:+: x)
    (y : List Char) : cutAt [a, b] (x ++ a :: b :: y) = some (x, y) := by
  induction x with
  | nil => simp [cutAt]
  | cons c x ih =>
    have hrest : ¬ [a, b] <:+: x := fun hfound => h (hfound.trans (List.suffix_cons c x).isInfix)
    have hhere : ¬ [a, b] <+: c :: (x ++ a :: b :: y) := by
      intro hstarts
      rw [List.cons_prefix_cons] at hstarts
      obtain ⟨rfl, hstarts⟩ := hstarts
      cases x with
      | nil => exact hab (List.cons_prefix_cons.mp hstarts).1.symm
      | cons d x =>
        obtain ⟨rfl, _⟩ := List.cons_prefix_cons.mp hstarts
        exact h ⟨[], x, rfl⟩
    rw [List.cons_append, cutAt_cons hhere, ih hrest]
    rfl

theorem cutAt_eq_none_of_not_infix {sep cs : List Char} (h : ¬ sep <:+: cs) :
    cutAt sep cs = none := by
  cases hcut : cutAt sep cs with
  | none => rfl
  | some p => exact absurd ⟨p.1, p.2, (eq_append_of_cutAt hcut).symm⟩ h

theorem cutAt_eq_none {c : Char} {cs : List Char} (h : c ∉ cs) : cutAt [c] cs = none := by
  cases hcut : cutAt [c] cs with
  | none => rfl
  | some p =>
    rw [eq_append_of_cutAt hcut] at h
    simp at h

theorem afterPrefix?_eq_some_iff (start cs rest : List Char) :
    afterPrefix? start cs = some rest ↔ cs = start ++ rest := by
  unfold afterPrefix?
  split
  · rename_i hstarts
    obtain ⟨rest', rfl⟩ := List.isPrefixOf_iff_prefix.mp hstarts
    rw [List.drop_left, Option.some.injEq, List.append_cancel_left_eq]
  · rename_i hstarts
    rw [List.isPrefixOf_iff_prefix] at hstarts
    simp only [reduceCtorEq, false_iff]
    rintro rfl
    exact hstarts (List.prefix_append start rest)

theorem beforeSuffix?_eq_some_iff (ending cs front : List Char) :
    beforeSuffix? ending cs = some front ↔ cs = front ++ ending := by
  simp only [beforeSuffix?, Option.map_eq_some_iff, afterPrefix?_eq_some_iff]
  constructor
  · rintro ⟨rest, hrest, rfl⟩
    simpa using congrArg List.reverse hrest
  · rintro rfl
    exact ⟨front.reverse, List.reverse_append, List.reverse_reverse front⟩

theorem splitBars_ne_nil (cs : List Char) : splitBars cs ≠ [] := by
  unfold splitBars
  split
  · simp
  · simp
  · split <;> simp

/-- A bar that is not followed by another one stays in its piece. -/
private theorem splitBars_cons {c : Char} {cs piece : List Char} {pieces : List (List Char)}
    (hpair : ¬ ['|', '|'] <+: c :: cs) (h : splitBars cs = piece :: pieces) :
    splitBars (c :: cs) = (c :: piece) :: pieces := by
  rw [splitBars]
  · rw [h]
  · rintro rest rfl rfl
    simp at hpair

theorem splitBars_of_noBars {cs : List Char} (h : ¬ ['|', '|'] <:+: cs) :
    splitBars cs = [cs] := by
  induction cs with
  | nil => rfl
  | cons c cs ih =>
    rw [List.infix_cons_iff, not_or] at h
    exact splitBars_cons h.1 (ih h.2)

theorem splitBars_eq_singleton {cs : List Char} (h : '|' ∉ cs) : splitBars cs = [cs] :=
  splitBars_of_noBars fun hbars => h (hbars.subset (List.mem_cons_self ..))

/-- Two bars anywhere make a second piece. -/
theorem length_splitBars_eq_one_iff (cs : List Char) :
    (splitBars cs).length = 1 ↔ ¬ ['|', '|'] <:+: cs := by
  constructor
  · intro hone
    induction cs with
    | nil => simp
    | cons c cs ih =>
      by_cases hpair : ['|', '|'] <+: c :: cs
      · obtain ⟨rest, hrest⟩ := hpair
        rw [← hrest] at hone
        simp [splitBars, splitBars_ne_nil] at hone
      · obtain ⟨piece, pieces, hsplit⟩ := List.exists_cons_of_ne_nil (splitBars_ne_nil cs)
        rw [splitBars_cons hpair hsplit] at hone
        rw [List.infix_cons_iff, not_or]
        exact ⟨hpair, ih (by rw [hsplit]; exact hone)⟩
  · intro h
    rw [splitBars_of_noBars h, List.length_singleton]

/-- Two bars cut a text, unless a bar right before them makes a pair with the first. -/
theorem splitBars_append_of_last {x : List Char} (h : x.getLast? ≠ some '|') (y : List Char) :
    splitBars (x ++ '|' :: '|' :: y) = splitBars x ++ splitBars y := by
  fun_induction splitBars x with
  | case1 => rfl
  | case2 cs ih =>
    have hcs : cs.getLast? ≠ some '|' := by
      cases cs with
      | nil => exact absurd rfl h
      | cons d cs => simpa using h
    rw [List.cons_append, List.cons_append, splitBars, ih hcs, List.cons_append]
  | case3 c cs _ hnil _ => exact absurd hnil (splitBars_ne_nil cs)
  | case4 c cs hpair piece pieces hsplit ih =>
    cases cs with
    | nil =>
      -- the only character of the text is its last one, and so no bar
      have hc : ¬ ['|', '|'] <+: c :: '|' :: '|' :: y := by simpa [eq_comm] using h
      obtain ⟨rfl, rfl⟩ := List.cons.inj hsplit
      exact splitBars_cons hc rfl
    | cons d cs =>
      have hrest := ih (by simpa using h)
      rw [hsplit] at hrest
      have hc : ¬ ['|', '|'] <+: c :: (d :: cs ++ '|' :: '|' :: y) := by
        simpa [eq_comm] using hpair cs
      exact splitBars_cons hc hrest

theorem splitBars_append {x : List Char} (h : '|' ∉ x) (y : List Char) :
    splitBars (x ++ '|' :: '|' :: y) = x :: splitBars y := by
  have hlast : x.getLast? ≠ some '|' := fun hbar => h (List.mem_of_getLast? hbar)
  rw [splitBars_append_of_last hlast, splitBars_eq_singleton h, List.singleton_append]

/-- After the first piece the text ends or there is a bar. -/
theorem exists_append_of_splitBars {cs piece : List Char} {pieces : List (List Char)}
    (h : splitBars cs = piece :: pieces) :
    ∃ rest, cs = piece ++ rest ∧ (rest = [] ∨ ∃ after, rest = '|' :: after) := by
  fun_induction splitBars cs generalizing piece pieces with
  | case1 =>
    cases h
    exact ⟨[], rfl, .inl rfl⟩
  | case2 cs _ =>
    cases h
    exact ⟨'|' :: '|' :: cs, rfl, .inr ⟨_, rfl⟩⟩
  | case3 _ cs _ hnil _ => exact absurd hnil (splitBars_ne_nil cs)
  | case4 c cs _ first others hsplit ih =>
    cases h
    obtain ⟨rest, rfl, hrest⟩ := ih hsplit
    exact ⟨rest, rfl, hrest⟩

/-- A separator does not stand across a character that it does not have. -/
theorem not_infix_append_cons {sep x y : List Char} {c : Char} (hne : sep ≠ []) (hc : c ∉ sep)
    (hx : ¬ sep <:+: x) (hy : ¬ sep <:+: y) : ¬ sep <:+: x ++ c :: y := by
  induction x with
  | nil =>
    rw [List.nil_append, List.infix_cons_iff, not_or]
    refine ⟨?_, hy⟩
    rintro ⟨rest, hrest⟩
    obtain ⟨d, sep, rfl⟩ := List.exists_cons_of_ne_nil hne
    obtain ⟨rfl, _⟩ := List.cons.inj hrest
    exact hc (List.mem_cons_self ..)
  | cons d x ih =>
    rw [List.infix_cons_iff, not_or] at hx
    rw [List.cons_append, List.infix_cons_iff, not_or]
    refine ⟨fun hstarts => ?_, ih hx.2⟩
    have hfront : d :: x ++ [c] <+: d :: (x ++ c :: y) := ⟨y, by simp⟩
    rcases List.prefix_or_prefix_of_prefix hstarts hfront with hshort | hlong
    · rcases List.prefix_concat_iff.mp hshort with rfl | hshort
      · exact hc (by simp)
      · exact hx.1 hshort
    · exact hc (hlong.subset (by simp))

end ModuleSharing.Text
