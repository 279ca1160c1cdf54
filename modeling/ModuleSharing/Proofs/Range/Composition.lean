import ModuleSharing.Proofs.Range.Reading

/-! Ranges put together as texts.  With two bars between them the sets of one follow those of the
other, with a blank between them the comparators of one follow those of the other
(`VersionRange.admits_joined`).  Of a text without bars and hyphens the reader sees the words only
(`ComparatorSet.read_trim`).  Words that can be read leave nothing over at their end, no sign that
waits for its version and no hyphen, so that they are read the same with other words after them
(`ComparatorSet.joinSigns_append`). -/

namespace ModuleSharing

namespace ComparatorSet

/-! ## Words -/

/-- The set that is read from some words; it asks for nothing if there are none. -/
def readWords (ws : List (List Char)) : Except RangeFault ComparatorSet :=
  if ws.isEmpty then .ok [.any] else (joinSigns ws).mapM Comparator.read

theorem read_trim {cs : List Char} (h : ¬ [' ', '-', ' '] <:+: cs) :
    read (Text.trim cs) = readWords (Text.words cs) := by
  obtain ⟨before, after, _, _, hcs⟩ := Text.exists_padding cs
  have hcut : Text.cutAt [' ', '-', ' '] (Text.trim cs) = none :=
    Text.cutAt_eq_none_of_not_infix fun hhyphen => h (hhyphen.trans ⟨before, after, hcs.symm⟩)
  have hempty : (Text.trim cs).isEmpty = (Text.words cs).isEmpty := by
    rw [← Text.words_trim cs, Bool.eq_iff_iff, List.isEmpty_iff, List.isEmpty_iff]
    constructor
    · intro hnil
      rw [hnil, Text.words_nil]
    · exact not_imp_not.mp Text.words_trim_ne_nil
  simp only [read, readWords, hempty, hcut, Text.words_trim]

/-- Each token of these words can be read. -/
def Readable (ws : List (List Char)) : Prop :=
  ∀ token ∈ joinSigns ws, (Comparator.read token).isOk = true

theorem readable_of_readWords {ws : List (List Char)} {set : ComparatorSet}
    (h : readWords ws = .ok set) : Readable ws := by
  unfold readWords at h
  split at h
  · rename_i hnil
    rw [List.isEmpty_iff.mp hnil]
    exact List.forall_mem_nil _
  · intro token htoken
    obtain ⟨c, _, hread⟩ := exists_of_forall₂_right ((mapM_eq_ok_iff _ _ _).mp h).flip htoken
    rw [hread]
    rfl

/-- A sign is not read alone, nor with a hyphen for its version. -/
theorem isOk_read_of_isSign {sign : List Char} (h : isSign sign = true) :
    (Comparator.read sign).isOk = false ∧ (Comparator.read (sign ++ ['-'])).isOk = false := by
  have hsigns : ∀ s ∈ Comparator.signs, (Comparator.read s.1).isOk = false ∧
      (Comparator.read (s.1 ++ ['-'])).isOk = false := by decide
  obtain ⟨s, hs, hsign⟩ := List.any_eq_true.mp h
  obtain rfl := beq_iff_eq.mp hsign
  exact hsigns s hs

/-- The last of the words is no sign that waits for the next one. -/
theorem joinSigns_append {ws : List (List Char)} (h : Readable ws) (vs : List (List Char)) :
    joinSigns (ws ++ vs) = joinSigns ws ++ joinSigns vs := by
  unfold Readable at h
  fun_induction joinSigns ws with
  | case1 => rfl
  | case2 word =>
    have hsign : isSign word ≠ true := by
      intro hsign
      have hread := h word (List.mem_singleton_self word)
      rw [(isOk_read_of_isSign hsign).1] at hread
      contradiction
    cases vs with
    | nil => rfl
    | cons v vs => rw [List.singleton_append, joinSigns, if_neg hsign, List.singleton_append]
  | case3 first second rest hsign ih =>
    have hrest := ih (List.forall_mem_cons.mp h).2
    rw [List.cons_append, List.cons_append, joinSigns, if_pos hsign, hrest, List.cons_append]
  | case4 first second rest hsign ih =>
    have hrest := ih (List.forall_mem_cons.mp h).2
    rw [List.cons_append] at hrest
    rw [List.cons_append, List.cons_append, joinSigns, if_neg hsign, hrest, List.cons_append]

theorem hyphen_not_mem_of_readable {ws : List (List Char)} (h : Readable ws) : ['-'] ∉ ws := by
  have hhyphen : (Comparator.read ['-']).isOk ≠ true := by decide
  unfold Readable at h
  fun_induction joinSigns ws with
  | case1 => exact List.not_mem_nil
  | case2 word =>
    rw [List.mem_singleton]
    rintro rfl
    exact hhyphen (h _ (List.mem_singleton_self _))
  | case3 first second rest hsign ih =>
    obtain ⟨hfirst, hrest⟩ := List.forall_mem_cons.mp h
    rw [List.mem_cons, List.mem_cons, not_or, not_or]
    refine ⟨?_, ?_, ih hrest⟩
    · rintro rfl
      contradiction
    · rintro rfl
      rw [(isOk_read_of_isSign hsign).2] at hfirst
      contradiction
  | case4 first second rest hsign ih =>
    obtain ⟨hfirst, hrest⟩ := List.forall_mem_cons.mp h
    rw [List.mem_cons, not_or]
    refine ⟨?_, ih hrest⟩
    rintro rfl
    exact hhyphen hfirst

/-! ## Sets -/

theorem admits_any_cons (set : ComparatorSet) (v : Version) :
    admits (.any :: set) v = admits set v := by
  have hadmits : Comparator.any.admits v = true := rfl
  have hnames : Comparator.any.namesPrereleaseOf v = false := rfl
  simp [admits, hadmits, hnames]

theorem admits_append_comm (xs ys : ComparatorSet) (v : Version) :
    admits (xs ++ ys) v = admits (ys ++ xs) v := by
  simp only [admits, List.all_append, List.any_append]
  rw [Bool.and_comm (xs.all _), Bool.or_comm (xs.any _)]

/-- Two sets together admit the releases that both admit. -/
theorem admits_append_of_release (xs ys : ComparatorSet) {v : Version} (h : v.pre = []) :
    admits (xs ++ ys) v = (admits xs v && admits ys v) := by
  simp [admits, h]

/-- A pre-release that both admit is named by a comparator of each. -/
theorem admits_append_of_both {xs ys : ComparatorSet} {v : Version} (hx : admits xs v = true)
    (hy : admits ys v = true) : admits (xs ++ ys) v = true := by
  simp only [admits, Bool.and_eq_true, Bool.or_eq_true, List.all_append, List.any_append]
    at hx hy ⊢
  exact ⟨⟨hx.1, hy.1⟩, hx.2.imp_right .inl⟩

theorem readWords_append {ws vs : List (List Char)} {xs ys : ComparatorSet}
    (hx : readWords ws = .ok xs) (hy : readWords vs = .ok ys) :
    ∃ set, readWords (ws ++ vs) = .ok set ∧ ∀ v, admits set v = admits (xs ++ ys) v := by
  have hreadable := readable_of_readWords hx
  -- where there are no words, nothing is read of the comparator that stands for them
  by_cases hws : ws = []
  · subst hws
    cases hx
    exact ⟨ys, hy, fun v => (admits_any_cons ys v).symm⟩
  by_cases hvs : vs = []
  · subst hvs
    cases hy
    rw [List.append_nil]
    refine ⟨xs, hx, fun v => ?_⟩
    rw [admits_append_comm, List.singleton_append, admits_any_cons]
  rw [readWords, if_neg (by simpa using hws)] at hx
  rw [readWords, if_neg (by simpa using hvs)] at hy
  refine ⟨xs ++ ys, ?_, fun _ => rfl⟩
  rw [readWords, if_neg (by simp [hws]), joinSigns_append hreadable]
  exact ((Piecewise.mapM _).append _ _ _).mpr ⟨xs, ys, hx, hy, rfl⟩

end ComparatorSet

/-! ## Ranges -/

namespace VersionRange

/-- A text of one set, written as a list of comparators. -/
structure Plain (cs : List Char) : Prop where
  bars : ¬ ['|', '|'] <:+: cs
  hyphen : ¬ [' ', '-', ' '] <:+: cs

theorem read_eq_ok_iff (cs : List Char) (r : VersionRange) :
    read cs = .ok r ↔
      (Text.splitBars cs).mapM (fun piece => ComparatorSet.read (Text.trim piece)) =
        .ok r.sets := by
  rw [read, bind_eq_ok_iff]
  constructor
  · rintro ⟨sets, hsets, hr⟩
    cases hr
    exact hsets
  · intro hsets
    exact ⟨r.sets, hsets, rfl⟩

theorem read_append_bars {x : List Char} (h : x.getLast? ≠ some '|') (y : List Char)
    (r : VersionRange) :
    read (x ++ '|' :: '|' :: y) = .ok r ↔
      ∃ p q, read x = .ok p ∧ read y = .ok q ∧ r.sets = p.sets ++ q.sets := by
  rw [read_eq_ok_iff, Text.splitBars_append_of_last h, (Piecewise.mapM _).append]
  constructor
  · rintro ⟨xs, ys, hx, hy, hsets⟩
    exact ⟨⟨xs⟩, ⟨ys⟩, (read_eq_ok_iff x ⟨xs⟩).mpr hx, (read_eq_ok_iff y ⟨ys⟩).mpr hy, hsets⟩
  · rintro ⟨p, q, hp, hq, hsets⟩
    exact ⟨p.sets, q.sets, (read_eq_ok_iff x p).mp hp, (read_eq_ok_iff y q).mp hq, hsets⟩

theorem admits_append {p q r : VersionRange} (h : r.sets = p.sets ++ q.sets) (v : Version) :
    r.admits v = (p.admits v || q.admits v) := by
  rw [admits, h, List.any_append, admits, admits]

theorem read_of_plain {cs : List Char} (h : Plain cs) (r : VersionRange) :
    read cs = .ok r ↔
      ∃ set, ComparatorSet.readWords (Text.words cs) = .ok set ∧ r = ⟨[set]⟩ := by
  rw [read_eq_ok_iff, Text.splitBars_of_noBars h.bars, mapM_eq_ok_iff,
    List.forall₂_cons_left_iff]
  simp only [ComparatorSet.read_trim h.hyphen, List.forall₂_nil_left_iff]
  obtain ⟨sets⟩ := r
  constructor
  · rintro ⟨set, _, hread, rfl, hsets⟩
    cases hsets
    exact ⟨set, hread, rfl⟩
  · rintro ⟨set, hread, hr⟩
    cases hr
    exact ⟨set, [], hread, rfl, rfl⟩

theorem admits_singleton (set : ComparatorSet) (v : Version) :
    admits ⟨[set]⟩ v = set.admits v := by
  simp [admits]

/-- A hyphen between blanks would be a word of one of the texts. -/
theorem plain_append {x y : List Char} (hx : Plain x) (hy : Plain y)
    (hreadx : ComparatorSet.Readable (Text.words x))
    (hready : ComparatorSet.Readable (Text.words y)) : Plain (x ++ ' ' :: y) where
  bars := Text.not_infix_append_cons (by simp) (by decide) hx.bars hy.bars
  hyphen := by
    rintro ⟨front, back, hparts⟩
    have hwords := ComparatorSet.words_append_hyphen front back
    rw [hparts, Text.words_append_blank (by decide)] at hwords
    have hhyphen : ['-'] ∈ Text.words x ++ Text.words y := by simp [hwords]
    rcases List.mem_append.mp hhyphen with hmem | hmem
    · exact ComparatorSet.hyphen_not_mem_of_readable hreadx hmem
    · exact ComparatorSet.hyphen_not_mem_of_readable hready hmem

theorem read_append_blank {x y : List Char} (hx : Plain x) (hy : Plain y) {p q : VersionRange}
    (hp : read x = .ok p) (hq : read y = .ok q) :
    ∃ r, read (x ++ ' ' :: y) = .ok r ∧
      (∀ v : Version, v.pre = [] → r.admits v = (p.admits v && q.admits v)) ∧
      ∀ v, p.admits v = true → q.admits v = true → r.admits v = true := by
  obtain ⟨xs, hxs, rfl⟩ := (read_of_plain hx p).mp hp
  obtain ⟨ys, hys, rfl⟩ := (read_of_plain hy q).mp hq
  obtain ⟨set, hset, hadmits⟩ := ComparatorSet.readWords_append hxs hys
  have hplain := plain_append hx hy (ComparatorSet.readable_of_readWords hxs)
    (ComparatorSet.readable_of_readWords hys)
  have hblank : Text.isBlank ' ' = true := by decide
  rw [← Text.words_append_blank hblank] at hset
  refine ⟨⟨[set]⟩, (read_of_plain hplain _).mpr ⟨set, hset, rfl⟩, ?_, ?_⟩
  · intro v hv
    simp only [admits_singleton, hadmits, ComparatorSet.admits_append_of_release xs ys hv]
  · intro v hp hq
    rw [admits_singleton] at hp hq ⊢
    rw [hadmits, ComparatorSet.admits_append_of_both hp hq]

/-- Two texts with two bars between them are read if both are, and admit what one of them admits.
Two plain texts that are read are read with a blank between them, and admit the releases that both
admit and at least the pre-releases that both admit. -/
theorem admits_joined (s t : String) :
    (s.toList.getLast? ≠ some '|' →
      ((∃ r, parse (s ++ "||" ++ t) = .ok r) ↔ (∃ p, parse s = .ok p) ∧ ∃ q, parse t = .ok q) ∧
      ∀ p q r, parse s = .ok p → parse t = .ok q → parse (s ++ "||" ++ t) = .ok r →
        r.sets = p.sets ++ q.sets ∧ ∀ v, r.admits v = (p.admits v || q.admits v)) ∧
    (Plain s.toList → Plain t.toList → ∀ p q, parse s = .ok p → parse t = .ok q →
      ∃ r, parse (s ++ " " ++ t) = .ok r ∧
        (∀ v : Version, v.pre = [] → r.admits v = (p.admits v && q.admits v)) ∧
        ∀ v : Version, v.pre ≠ [] → p.admits v = true → q.admits v = true →
          r.admits v = true) := by
  have hbars : (s ++ "||" ++ t).toList = s.toList ++ '|' :: '|' :: t.toList := by simp
  have hblank : (s ++ " " ++ t).toList = s.toList ++ ' ' :: t.toList := by simp
  simp only [parse_eq_ok_iff, hbars, hblank]
  constructor
  · intro hlast
    simp only [read_append_bars hlast]
    refine ⟨⟨?_, ?_⟩, ?_⟩
    · rintro ⟨_, p, q, hp, hq, _⟩
      exact ⟨⟨p, hp⟩, q, hq⟩
    · rintro ⟨⟨p, hp⟩, q, hq⟩
      exact ⟨⟨p.sets ++ q.sets⟩, p, q, hp, hq, rfl⟩
    · rintro p q r hp hq ⟨p', q', hp', hq', hsets⟩
      obtain rfl := Except.ok.inj (hp.symm.trans hp')
      obtain rfl := Except.ok.inj (hq.symm.trans hq')
      exact ⟨hsets, admits_append hsets⟩
  · intro hs ht p q hp hq
    obtain ⟨r, hr, hrelease, hboth⟩ := read_append_blank hs ht hp hq
    exact ⟨r, hr, hrelease, fun v _ => hboth v⟩

/-- A caret with a pre-release, and two bounds with a sign apart from its version. -/
theorem admits_joined_caretAndBounds :
    ∃ p q r b, parse "^1.2.3-rc.1 " = .ok p ∧ parse " < 1.9 >=1.2.3-rc" = .ok q ∧
      parse ("^1.2.3-rc.1 " ++ "||" ++ " < 1.9 >=1.2.3-rc") = .ok r ∧ r.sets = p.sets ++ q.sets ∧
      (∀ v, r.admits v = (p.admits v || q.admits v)) ∧
      parse ("^1.2.3-rc.1 " ++ " " ++ " < 1.9 >=1.2.3-rc") = .ok b ∧
      (∀ v : Version, v.pre = [] → b.admits v = (p.admits v && q.admits v)) ∧
      b.admits ⟨1, 2, 3, [.textual "rc".toList, .numeric 2], []⟩ = true := by
  have hs : parse "^1.2.3-rc.1 " =
    .ok ⟨[[⟨.caret, ⟨some 1, some 2, some 3, [.textual "rc".toList, .numeric 1]⟩⟩]]⟩ := rfl
  have ht : parse " < 1.9 >=1.2.3-rc" = .ok ⟨[[⟨.less, ⟨some 1, some 9, none, []⟩⟩,
    ⟨.greaterEq, ⟨some 1, some 2, some 3, [.textual "rc".toList]⟩⟩]]⟩ := rfl
  obtain ⟨hbars, hblank⟩ := admits_joined "^1.2.3-rc.1 " " < 1.9 >=1.2.3-rc"
  obtain ⟨haccepted, hchoice⟩ := hbars (by decide)
  obtain ⟨r, hr⟩ := haccepted.mpr ⟨⟨_, hs⟩, _, ht⟩
  obtain ⟨hsets, hadmits⟩ := hchoice _ _ r hs ht hr
  have hplain : Plain "^1.2.3-rc.1 ".toList ∧ Plain " < 1.9 >=1.2.3-rc".toList := by
    refine ⟨⟨?_, ?_⟩, ?_, ?_⟩ <;> simp [List.infix_cons_iff]
  obtain ⟨b, hb, hrelease, hpre⟩ := hblank hplain.1 hplain.2 _ _ hs ht
  exact ⟨_, _, r, b, hs, ht, hr, hsets, hadmits, hb, hrelease,
    hpre ⟨1, 2, 3, [.textual "rc".toList, .numeric 2], []⟩ (by decide) (by decide) (by decide)⟩

end VersionRange

end ModuleSharing
