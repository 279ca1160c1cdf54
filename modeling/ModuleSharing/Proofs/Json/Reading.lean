import ModuleSharing.Json.Decode
import ModuleSharing.Proofs.Json.Layout
import ModuleSharing.Proofs.Sequence

/-! A text that was written is read back, compact (`Json.read_compact`) or indented
(`Json.read_pretty`).  The reader is followed over a text of any layout, with what stands after a
value kept open, so that a value is read within a list or an object as it is read alone.  Numbers
are left out. -/

namespace ModuleSharing.Json

/-! ## Strings -/

theorem unit?_hexDigit : ∀ n < 0x20, unit? '0' '0' (hexDigit (n / 16)) (hexDigit n) = some n := by
  decide

/-- How a character is written in a string. -/
inductive Escaped (c : Char) : List Char → Prop where
  | short {e : Char} (h : shortEscape? c = some e) : Escaped c ['\\', e]
  | control {a b : Char} (hcontrol : c.toNat < 0x20) (hunit : unit? '0' '0' a b = some c.toNat) :
    Escaped c ['\\', 'u', '0', '0', a, b]
  | plain (hshort : shortEscape? c = none) (hvisible : ¬ c.toNat < 0x20) : Escaped c [c]

theorem escaped_escape (c : Char) : Escaped c (escape c) := by
  unfold escape
  cases hshort : shortEscape? c with
  | some e => exact .short hshort
  | none =>
    dsimp only
    split
    · rename_i hcontrol
      exact .control hcontrol (unit?_hexDigit c.toNat hcontrol)
    · rename_i hvisible
      exact .plain hshort hvisible

theorem isSurrogate_of_control {n : Nat} (h : n < 0x20) :
    isHighSurrogate n = false ∧ isLowSurrogate n = false := by
  simp only [isHighSurrogate, isLowSurrogate, Bool.and_eq_false_iff, decide_eq_false_iff_not]
  omega

/-- A character that is written as it is has no short escape. -/
theorem ne_of_shortEscape?_eq_none {c d : Char} (h : shortEscape? c = none)
    (hd : (shortEscape? d).isSome) : c ≠ d := by
  rintro rfl
  simp [h] at hd

theorem readChars_escape (c : Char) (cs : List Char) :
    readChars (escape c ++ cs) = consChar c (readChars cs) := by
  have hescaped := escaped_escape c
  generalize escape c = written at hescaped ⊢
  cases hescaped with
  | short hshort =>
    unfold shortEscape? at hshort
    split at hshort <;> first | contradiction | (cases hshort; rfl)
  | control hcontrol hunit =>
    obtain ⟨hhigh, hlow⟩ := isSurrogate_of_control hcontrol
    simp only [List.cons_append, List.nil_append, readChars, hunit, hlow, hhigh]
    simp [Char.ofNat_toNat]
  | plain hshort hvisible =>
    have hquote : c ≠ '"' := ne_of_shortEscape?_eq_none hshort rfl
    have hbackslash : c ≠ '\\' := ne_of_shortEscape?_eq_none hshort rfl
    rw [List.cons_append, List.nil_append, readChars.eq_def]
    simp [hbackslash, hvisible]

theorem readChars_stringChars (cs rest : List Char) :
    readChars (stringChars cs rest) = .ok (cs, rest) := by
  induction cs with
  | nil => rfl
  | cons c cs ih =>
    rw [stringChars, readChars_escape, ih]
    rfl

/-! ## Written texts -/

theorem suffix_stringChars (cs rest : List Char) : rest <:+ stringChars cs rest := by
  induction cs with
  | nil => exact List.suffix_cons _ _
  | cons c cs ih => exact ih.trans (List.suffix_append _ _)

theorem suffix_writeString (s : String) (rest : List Char) : rest <:+ writeString s rest :=
  (suffix_stringChars _ _).trans (List.suffix_cons _ _)

section Suffixes

variable (l : Layout)

mutual

/-- What follows a value stands at the end of the text. -/
theorem suffix_lay (depth : Nat) (j : Json) (rest : List Char) : rest <:+ l.lay depth j rest := by
  cases j with
  | null => exact ⟨['n', 'u', 'l', 'l'], rfl⟩
  | bool b =>
    cases b with
    | true => exact ⟨['t', 'r', 'u', 'e'], rfl⟩
    | false => exact ⟨['f', 'a', 'l', 's', 'e'], rfl⟩
  | number n => exact List.suffix_append _ _
  | string s => exact suffix_writeString _ _
  | array items =>
    cases items with
    | nil => exact ⟨['[', ']'], rfl⟩
    | cons x xs =>
      have hclosed := (List.suffix_cons ']' rest).trans (List.suffix_append (l.indent depth) _)
      have hitems := (hclosed.trans (suffix_layItems depth xs _)).trans (suffix_lay (depth + 1) x _)
      exact (hitems.trans (List.suffix_append _ _)).trans (List.suffix_cons _ _)
  | object members =>
    match members with
    | [] => exact ⟨['\x7b', '\x7d'], rfl⟩
    | (k, x) :: xs =>
      have hclosed := (List.suffix_cons '\x7d' rest).trans (List.suffix_append (l.indent depth) _)
      have hmembers := hclosed.trans (suffix_layMembers depth xs _)
      have hvalue := hmembers.trans (suffix_lay (depth + 1) x _)
      have hmember := (hvalue.trans (List.suffix_append l.space _)).trans (List.suffix_cons ':' _)
      exact ((hmember.trans (suffix_writeString k _)).trans (List.suffix_append _ _)).trans
        (List.suffix_cons _ _)
termination_by structural j

theorem suffix_layItems (depth : Nat) (xs : List Json) (rest : List Char) :
    rest <:+ l.layItems depth xs rest := by
  cases xs with
  | nil => exact List.suffix_refl _
  | cons x xs =>
    have hitem := (suffix_layItems depth xs rest).trans (suffix_lay (depth + 1) x _)
    exact (hitem.trans (List.suffix_append _ _)).trans (List.suffix_cons _ _)
termination_by structural xs

theorem suffix_layMembers (depth : Nat) (xs : List (String × Json)) (rest : List Char) :
    rest <:+ l.layMembers depth xs rest := by
  match xs with
  | [] => exact List.suffix_refl _
  | (k, x) :: xs =>
    have hvalue := (suffix_layMembers depth xs rest).trans (suffix_lay (depth + 1) x _)
    have hmember := (hvalue.trans (List.suffix_append l.space _)).trans (List.suffix_cons ':' _)
    exact ((hmember.trans (suffix_writeString k _)).trans (List.suffix_append _ _)).trans
      (List.suffix_cons _ _)
termination_by structural xs

end

end Suffixes

/-! ## Values -/

/-- A value without numbers in which arrays and objects are nested `depth` deep at most. -/
inductive Nested : Nat → Json → Prop where
  | null (depth : Nat) : Nested depth .null
  | bool (depth : Nat) (b : Bool) : Nested depth (.bool b)
  | string (depth : Nat) (s : String) : Nested depth (.string s)
  | array {depth : Nat} {items : List Json} (h : ∀ x ∈ items, Nested depth x) :
    Nested (depth + 1) (.array items)
  | object {depth : Nat} {members : List (String × Json)} (h : ∀ p ∈ members, Nested depth p.2) :
    Nested (depth + 1) (.object members)

theorem nested_array {α : Type} {f : α → Json} {depth : Nat} (h : ∀ x, Nested depth (f x))
    (xs : List α) : Nested (depth + 1) (.array (xs.map f)) := by
  apply Nested.array
  intro j hj
  obtain ⟨x, _, rfl⟩ := List.mem_map.mp hj
  exact h x

theorem nested_optional {α : Type} {key : String} {f : α → Json} {depth : Nat}
    (h : ∀ a, Nested depth (f a)) (o : Option α) : ∀ p ∈ optional key f o, Nested depth p.2 := by
  cases o with
  | none => exact List.forall_mem_nil _
  | some a => exact List.forall_mem_singleton.mpr (h a)

/-- Wherever a value is written, the reader takes that value and nothing of what follows. -/
def Restored (l : Layout) (depth : Nat) (j : Json) : Prop :=
  ∀ fuel within rest, 2 * (l.lay within j rest).length ≤ fuel →
    readValue fuel depth (l.lay within j rest) = (.ofJson j, some rest)

theorem skipGap_append {gap : List Char} (hgap : Blank gap) (cs : List Char) :
    skipGap (gap ++ cs) = skipGap cs :=
  List.dropWhile_append_of_pos hgap

theorem skipGap_cons {c : Char} (h : isGap c = false) (cs : List Char) :
    skipGap (c :: cs) = c :: cs := by
  simp [skipGap, h]

theorem skipGap_writeString (s : String) (rest : List Char) :
    skipGap (writeString s rest) = writeString s rest :=
  skipGap_cons (by decide) _

/-- The first character of a value is neither a blank nor the end of a list. -/
theorem exists_lay (l : Layout) {depth : Nat} {j : Json} (h : Nested depth j) (within : Nat)
    (rest : List Char) :
    ∃ c cs, l.lay within j rest = c :: cs ∧ isGap c = false ∧ c ≠ ']' := by
  cases h with
  | null => exact ⟨'n', _, rfl, by decide, by decide⟩
  | bool _ b => cases b <;> exact ⟨_, _, rfl, by decide, by decide⟩
  | string => exact ⟨'"', _, rfl, by decide, by decide⟩
  | array =>
    rename_i items _
    cases items <;> exact ⟨'[', _, rfl, by decide, by decide⟩
  | object =>
    rename_i members _
    match members with
    | [] | (_, _) :: _ => exact ⟨'\x7b', _, rfl, by decide, by decide⟩

section Steps

variable {fuel depth : Nat} {c : Char} {cs cs' text rest : List Char} {d : Draft}

theorem readValue_append {gap : List Char} (hgap : Blank gap) (fuel depth : Nat)
    (cs : List Char) : readValue fuel depth (gap ++ cs) = readValue fuel depth cs := by
  cases fuel with
  | zero => rfl
  | succ fuel =>
    unfold readValue
    rw [skipGap_append hgap]

theorem readItems_append {gap : List Char} (hgap : Blank gap) (fuel depth : Nat)
    (cs : List Char) : readItems fuel depth (gap ++ cs) = readItems fuel depth cs := by
  cases fuel with
  | zero => rfl
  | succ fuel =>
    unfold readItems
    rw [skipGap_append hgap]

theorem readMembers_append {gap : List Char} (hgap : Blank gap) (fuel depth : Nat)
    (cs : List Char) : readMembers fuel depth (gap ++ cs) = readMembers fuel depth cs := by
  cases fuel with
  | zero => rfl
  | succ fuel =>
    unfold readMembers
    rw [skipGap_append hgap]

/-- A value without parts that the reader accepts is read so. -/
theorem readValue_scalar (hgap : isGap c = false) (harray : c ≠ '[') (hobject : c ≠ '\x7b')
    (h : readScalar (c :: cs) = .ok (d, rest)) (fuel depth : Nat) :
    readValue (fuel + 1) depth (c :: cs) = (d, some rest) := by
  unfold readValue
  rw [skipGap_cons hgap]
  split
  · contradiction
  · rename_i heq
    exact absurd (List.cons.inj heq).1 harray
  · rename_i heq
    exact absurd (List.cons.inj heq).1 hobject
  · rw [h]
    rfl

theorem readScalar_writeString (s : String) (rest : List Char) :
    readScalar (writeString s rest) = .ok (.string s, rest) := by
  simp [readScalar, writeString, readChars_stringChars, Except.map]

theorem readValue_array (hskip : skipGap text = c :: cs) (hend : c ≠ ']') {ds : List Draft}
    (h : readItems fuel depth (c :: cs) = (ds, none, some rest)) :
    readValue (fuel + 1) (depth + 1) ('[' :: text) = (.array ds none, some rest) := by
  unfold readValue
  rw [skipGap_cons (by decide)]
  simp only [Nat.add_one_ne_zero, if_false, hskip]
  split
  · rename_i heq
    exact absurd (List.cons.inj heq).1 hend
  · simp only [Nat.add_one_sub_one, h]

theorem readValue_object {k : String} (hskip : skipGap text = writeString k cs)
    {ds : List (String × Draft)}
    (h : readMembers fuel depth (writeString k cs) = (ds, none, some rest)) :
    readValue (fuel + 1) (depth + 1) ('\x7b' :: text) = (.object ds none, some rest) := by
  unfold readValue
  rw [skipGap_cons (by decide)]
  simp only [Nat.add_one_ne_zero, if_false, hskip]
  split
  · rename_i heq
    exact absurd (List.cons.inj heq).1 (by decide)
  · simp only [Nat.add_one_sub_one, h]

theorem readItems_last (hskip : skipGap text = c :: cs) (hend : c ≠ ']')
    (h : readValue fuel depth (c :: cs) = (d, some cs')) (hclosed : skipGap cs' = ']' :: rest) :
    readItems (fuel + 1) depth text = ([d], none, some rest) := by
  unfold readItems
  rw [hskip]
  split
  · contradiction
  · rename_i heq
    exact absurd (List.cons.inj heq).1 hend
  · simp only [h, hclosed]

theorem readItems_next (hskip : skipGap text = c :: cs) (hend : c ≠ ']')
    (h : readValue fuel depth (c :: cs) = (d, some (',' :: cs'))) {ds : List Draft}
    (hnext : readItems fuel depth cs' = (ds, none, some rest)) :
    readItems (fuel + 1) depth text = (d :: ds, none, some rest) := by
  unfold readItems
  rw [hskip]
  split
  · contradiction
  · rename_i heq
    exact absurd (List.cons.inj heq).1 hend
  · rw [h]
    simp only [skipGap_cons (show isGap ',' = false by decide), hnext]

theorem readMembers_last {k : String} (hskip : skipGap text = writeString k (':' :: cs))
    (h : readValue fuel depth cs = (d, some cs')) (hclosed : skipGap cs' = '\x7d' :: rest) :
    readMembers (fuel + 1) depth text = ([(k, d)], none, some rest) := by
  have hkey := readChars_stringChars k.toList (':' :: cs)
  unfold readMembers
  rw [hskip, writeString]
  simp only [hkey, skipGap_cons (show isGap ':' = false by decide), h, hclosed]
  rw [String.ofList_toList]

theorem readMembers_next {k : String} (hskip : skipGap text = writeString k (':' :: cs))
    (h : readValue fuel depth cs = (d, some (',' :: cs'))) {ds : List (String × Draft)}
    (hnext : readMembers fuel depth cs' = (ds, none, some rest)) :
    readMembers (fuel + 1) depth text = ((k, d) :: ds, none, some rest) := by
  have hkey := readChars_stringChars k.toList (':' :: cs)
  unfold readMembers
  rw [hskip, writeString]
  simp only [hkey, skipGap_cons (show isGap ':' = false by decide), h]
  simp only [skipGap_cons (show isGap ',' = false by decide), hnext]
  rw [String.ofList_toList]

end Steps

section Lists

variable {l : Layout} {depth within : Nat}

theorem skipGap_indent_cons (within : Nat) {c : Char} (h : isGap c = false) (cs : List Char) :
    skipGap (l.indent within ++ c :: cs) = c :: cs := by
  rw [skipGap_append (l.blank_indent within), skipGap_cons h]

theorem skipGap_indent_writeString (within : Nat) (s : String) (rest : List Char) :
    skipGap (l.indent within ++ writeString s rest) = writeString s rest := by
  rw [skipGap_append (l.blank_indent within), skipGap_writeString]

theorem length_lt_of_suffix {c : Char} {cs text : List Char} (h : c :: cs <:+ text) :
    cs.length < text.length := by
  have := h.length_le
  simp only [List.length_cons] at this
  omega

/-- The items of an array are read one after the other.  Each takes one unit of fuel and leaves a
text that is shorter by two characters at least, the item and its comma. -/
theorem readItems_lay {x : Json} {xs : List Json} (hnested : ∀ y ∈ x :: xs, Nested depth y)
    (hrestored : ∀ y ∈ x :: xs, Restored l depth y) (rest : List Char) {fuel : Nat}
    (hfuel : 2 * (l.indent (within + 1) ++ l.lay (within + 1) x
      (l.layItems within xs (l.indent within ++ ']' :: rest))).length < fuel) :
    readItems fuel depth (l.indent (within + 1) ++ l.lay (within + 1) x
        (l.layItems within xs (l.indent within ++ ']' :: rest))) =
      (Draft.ofItems (x :: xs), none, some rest) := by
  induction xs generalizing x fuel with
  | nil =>
    obtain ⟨fuel, rfl⟩ := Nat.exists_eq_add_one_of_ne_zero (Nat.ne_zero_of_lt hfuel)
    rw [List.length_append] at hfuel
    simp only [Layout.layItems] at hfuel ⊢
    have hread := hrestored x (by simp) fuel (within + 1) (l.indent within ++ ']' :: rest)
      (by omega)
    obtain ⟨c, cs, htext, hgap, hend⟩ := exists_lay l (hnested x (by simp)) (within + 1)
      (l.indent within ++ ']' :: rest)
    rw [htext] at hread ⊢
    exact readItems_last (skipGap_indent_cons _ hgap cs) hend hread
      (skipGap_indent_cons _ (by decide) rest)
  | cons y ys ih =>
    obtain ⟨fuel, rfl⟩ := Nat.exists_eq_add_one_of_ne_zero (Nat.ne_zero_of_lt hfuel)
    rw [List.length_append] at hfuel
    simp only [Layout.layItems] at hfuel ⊢
    have hnext := @ih y (fun z hz => hnested z (List.mem_cons_of_mem _ hz))
      (fun z hz => hrestored z (List.mem_cons_of_mem _ hz)) fuel
    -- what stands after the comma is the text of the other items
    generalize l.indent (within + 1) ++ l.lay (within + 1) y
      (l.layItems within ys (l.indent within ++ ']' :: rest)) = others at hnext hfuel ⊢
    have hread := hrestored x (by simp) fuel (within + 1) (',' :: others) (by omega)
    have hshorter := length_lt_of_suffix (suffix_lay l (within + 1) x (',' :: others))
    obtain ⟨c, cs, htext, hgap, hend⟩ :=
      exists_lay l (hnested x (by simp)) (within + 1) (',' :: others)
    rw [htext] at hread ⊢
    exact readItems_next (skipGap_indent_cons _ hgap cs) hend hread (hnext (by omega))

theorem readMembers_lay {k : String} {x : Json} {xs : List (String × Json)}
    (hrestored : ∀ p ∈ (k, x) :: xs, Restored l depth p.2) (rest : List Char) {fuel : Nat}
    (hfuel : 2 * (l.indent (within + 1) ++ writeString k (':' :: (l.space ++
      l.lay (within + 1) x (l.layMembers within xs (l.indent within ++ '\x7d' :: rest))))).length <
        fuel) :
    readMembers fuel depth (l.indent (within + 1) ++ writeString k (':' :: (l.space ++
        l.lay (within + 1) x (l.layMembers within xs (l.indent within ++ '\x7d' :: rest))))) =
      (Draft.ofMembers ((k, x) :: xs), none, some rest) := by
  induction xs generalizing k x fuel with
  | nil =>
    obtain ⟨fuel, rfl⟩ := Nat.exists_eq_add_one_of_ne_zero (Nat.ne_zero_of_lt hfuel)
    simp only [Layout.layMembers] at hfuel ⊢
    generalize hclosing : l.indent within ++ '\x7d' :: rest = closing at hfuel ⊢
    have hshorter := length_lt_of_suffix (suffix_writeString k
      (':' :: (l.space ++ l.lay (within + 1) x closing)))
    simp only [List.length_append] at hfuel hshorter
    have hfirst : Restored l depth x := hrestored (k, x) (List.mem_cons_self ..)
    have hread := hfirst fuel (within + 1) closing (by omega)
    rw [← readValue_append l.blank_space] at hread
    refine readMembers_last (skipGap_indent_writeString _ k _) hread ?_
    rw [← hclosing, skipGap_indent_cons _ (by decide)]
  | cons p ys ih =>
    obtain ⟨m, y⟩ := p
    obtain ⟨fuel, rfl⟩ := Nat.exists_eq_add_one_of_ne_zero (Nat.ne_zero_of_lt hfuel)
    simp only [Layout.layMembers] at hfuel ⊢
    have hnext := @ih m y (fun z hz => hrestored z (List.mem_cons_of_mem _ hz)) fuel
    generalize l.indent (within + 1) ++ writeString m (':' :: (l.space ++ l.lay (within + 1) y
      (l.layMembers within ys (l.indent within ++ '\x7d' :: rest)))) = others at hnext hfuel ⊢
    have hkey := length_lt_of_suffix (suffix_writeString k
      (':' :: (l.space ++ l.lay (within + 1) x (',' :: others))))
    have hvalue := length_lt_of_suffix (suffix_lay l (within + 1) x (',' :: others))
    simp only [List.length_append] at hfuel hkey
    have hfirst : Restored l depth x := hrestored (k, x) (List.mem_cons_self ..)
    have hread := hfirst fuel (within + 1) (',' :: others) (by omega)
    rw [← readValue_append l.blank_space] at hread
    exact readMembers_next (skipGap_indent_writeString _ k _) hread (hnext (by omega))

end Lists

/-- A text of one character or more leaves fuel for what follows the first. -/
theorem exists_fuel {c : Char} {cs : List Char} {fuel : Nat} (h : 2 * (c :: cs).length ≤ fuel) :
    ∃ less, fuel = less + 1 ∧ 2 * cs.length < less := by
  rw [List.length_cons] at h
  exact ⟨fuel - 1, by omega, by omega⟩

/-- By induction on the nesting: what stands in an array or an object is restored one level further
in. -/
theorem restored_of_nested (l : Layout) {depth : Nat} {j : Json} (h : Nested depth j) :
    Restored l depth j := by
  induction h with
  | null depth =>
    intro fuel within rest hfuel
    obtain ⟨fuel, rfl, _⟩ := exists_fuel hfuel
    exact readValue_scalar (by decide) (by decide) (by decide) rfl fuel depth
  | bool depth b =>
    intro fuel within rest hfuel
    cases b <;>
    · obtain ⟨fuel, rfl, _⟩ := exists_fuel hfuel
      exact readValue_scalar (by decide) (by decide) (by decide) rfl fuel depth
  | string depth s =>
    intro fuel within rest hfuel
    obtain ⟨fuel, rfl, _⟩ := exists_fuel hfuel
    exact readValue_scalar (by decide) (by decide) (by decide) (readScalar_writeString s rest) fuel
      depth
  | array h ih =>
    rename_i depth items
    intro fuel within rest hfuel
    cases items with
    | nil =>
      obtain ⟨fuel, rfl, _⟩ := exists_fuel hfuel
      rfl
    | cons x xs =>
      obtain ⟨fuel, rfl, hless⟩ := exists_fuel hfuel
      have hitems := readItems_lay h ih rest hless
      obtain ⟨c, cs, htext, hgap, hend⟩ := exists_lay l (h x (List.mem_cons_self ..)) (within + 1)
        (l.layItems within xs (l.indent within ++ ']' :: rest))
      rw [readItems_append (l.blank_indent _)] at hitems
      rw [Layout.lay]
      rw [htext] at hitems ⊢
      exact readValue_array (skipGap_indent_cons _ hgap cs) hend hitems
  | object h ih =>
    rename_i depth members
    intro fuel within rest hfuel
    match members with
    | [] =>
      obtain ⟨fuel, rfl, _⟩ := exists_fuel hfuel
      rfl
    | (k, x) :: xs =>
      obtain ⟨fuel, rfl, hless⟩ := exists_fuel hfuel
      have hmembers := readMembers_lay ih rest hless
      rw [readMembers_append (l.blank_indent _)] at hmembers
      exact readValue_object (skipGap_indent_writeString _ k _) hmembers

/-! ## Whole texts -/

/-- The text of a value without numbers that is not nested too deep is read as that value. -/
theorem read_lay (l : Layout) {j : Json} (h : Nested maxDepth j) :
    Document.read (String.ofList (l.lay 0 j [])) = { root := .ofJson j, trailing := false } := by
  have hread := restored_of_nested l h _ 0 [] (Nat.le_succ _)
  rw [Document.read, String.toList_ofList]
  simp only [hread]
  rfl

theorem read_compact {j : Json} (h : Nested maxDepth j) :
    Document.read j.compact = { root := .ofJson j, trailing := false } := by
  rw [compact, ← Layout.lay_compact 0]
  exact read_lay .compact h

theorem read_pretty {j : Json} (h : Nested maxDepth j) :
    Document.read j.pretty = { root := .ofJson j, trailing := false } := by
  rw [pretty, ← Layout.lay_pretty]
  exact read_lay .pretty h

theorem decodeText_of_read {α : Type} {dec : Decoder α} {text : String} {j : Json} {a : α}
    (h : Document.read text = { root := .ofJson j, trailing := false })
    (hdecode : decodeValue dec j = .ok a) : decodeText dec text = .ok a := by
  unfold decodeText
  rw [h]
  exact bind_eq_ok_iff.mpr ⟨a, hdecode, rfl⟩

/-- What a decoder makes of a value it makes of the text of that value. -/
theorem decodeText_compact {α : Type} {dec : Decoder α} {j : Json} {a : α}
    (h : Nested maxDepth j) (hdecode : decodeValue dec j = .ok a) :
    decodeText dec j.compact = .ok a :=
  decodeText_of_read (read_compact h) hdecode

theorem decodeText_pretty {α : Type} {dec : Decoder α} {j : Json} {a : α}
    (h : Nested maxDepth j) (hdecode : decodeValue dec j = .ok a) :
    decodeText dec j.pretty = .ok a :=
  decodeText_of_read (read_pretty h) hdecode

end ModuleSharing.Json
