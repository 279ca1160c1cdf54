import ModuleSharing.Proofs.Files.Ancestors

/-! Paths inside paths.  Joining is associative (`join_join`), and the segments that lead somewhere
are those of the first path and then those of the second (`steps_join`).  The steps of the ancestors
of a path are the beginnings of its own (`prefix_of_steps`, `exists_ancestor`). -/

namespace ModuleSharing.Path

/-! ## The steps of a path -/

/-- The segments of a path that lead somewhere. -/
def steps (p : String) : List (List Char) := (p.toList.splitOn '/').filter (!isFiller ·)

theorem steps_of_cutLead {p : String} {lead body : List Char}
    (h : cutLead p.toList = (lead, body)) :
    steps p = (body.splitOn '/').filter (!isFiller ·) := by
  rw [steps]
  rcases cutLead_cases h with ⟨-, hp⟩ | ⟨-, hp, rfl | ⟨rest, rfl⟩⟩ | ⟨-, hp, -⟩
  · rw [hp, splitOn_slash_cons]
    rfl
  · rw [hp]
    rfl
  · have hsplit : ('.' :: '/' :: rest).splitOn '/' = ['.'] :: rest.splitOn '/' :=
      List.splitOn_append_cons_self ['.'] rest
    rw [hp, hsplit, splitOn_slash_cons]
    rfl
  · rw [hp]

/-- What is put between a path and one inside it. -/
def gap (p : String) : String :=
  if p.toList = [] ∨ p.toList.getLast? = some '/' then "" else "/"

theorem join_of_absolute {p q : String} (h : isAbsolute q = true) : join p q = q := if_pos h

theorem join_of_relative {p q : String} (h : isAbsolute q = false) :
    join p q = p ++ gap p ++ q := by
  rw [join, if_neg (by simp [h]), gap]
  by_cases hgap : p.toList = [] ∨ p.toList.getLast? = some '/'
  · rw [if_pos hgap, if_pos (by simpa using hgap), String.append_empty]
  · rw [if_neg hgap, if_neg (by simpa using hgap)]

theorem gap_append {p q : String} (h : q ≠ "") : gap (p ++ q) = gap q := by
  have hne : q.toList ≠ [] := by simpa using h
  rw [gap, gap, String.toList_append, List.getLast?_append_of_ne_nil _ hne]
  simp [hne]

theorem gap_append_gap (p : String) : gap (p ++ gap p) = "" := by
  have hgap : gap p = "" ∨ gap p = "/" := by
    unfold gap
    split
    · exact .inl rfl
    · exact .inr rfl
  rcases hgap with hgap | hgap
  · rw [hgap, String.append_empty, hgap]
  · rw [hgap, gap_append (by decide)]
    rfl

theorem ne_empty_of_isAbsolute {p : String} (h : isAbsolute p = true) : p ≠ "" := by
  rintro rfl
  exact absurd h (by decide)

theorem isAbsolute_append {p : String} (h : p ≠ "") (q : String) :
    isAbsolute (p ++ q) = isAbsolute p := by
  have hne : p.toList ≠ [] := by simpa using h
  obtain ⟨c, cs, hp⟩ := List.exists_cons_of_ne_nil hne
  rw [isAbsolute, isAbsolute, String.toList_append, hp]
  rfl

theorem isAbsolute_append_of_relative {p q : String} (hp : isAbsolute p = false)
    (hq : isAbsolute q = false) : isAbsolute (p ++ q) = false := by
  by_cases hnil : p = ""
  · rw [hnil, String.empty_append, hq]
  · rw [isAbsolute_append hnil, hp]

theorem isAbsolute_join_of_relative {p q : String} (hp : isAbsolute p = false)
    (hq : isAbsolute q = false) : isAbsolute (join p q) = false := by
  by_cases hnil : p = ""
  · rw [hnil, join_of_relative hq]
    exact hq
  · rw [join_of_relative hq, String.append_assoc, isAbsolute_append hnil, hp]

theorem isAbsolute_join {p : String} (h : isAbsolute p = true) (q : String) :
    isAbsolute (join p q) = true := by
  cases hq : isAbsolute q with
  | true => rw [join_of_absolute hq, hq]
  | false =>
    rw [join_of_relative hq, String.append_assoc, isAbsolute_append (ne_empty_of_isAbsolute h), h]

/-- Joining paths is associative. -/
theorem join_join (here p q : String) : join here (join p q) = join (join here p) q := by
  by_cases hq : isAbsolute q = true
  · rw [join_of_absolute hq, join_of_absolute hq, join_of_absolute hq]
  rw [Bool.not_eq_true] at hq
  by_cases hp : p = ""
  · subst hp
    rw [join_of_relative hq, join_of_relative hq, join_of_relative (by rfl : isAbsolute "" = false),
      String.append_empty, gap_append_gap, String.append_empty, join_of_relative]
    · rfl
    · exact hq
  · have habsolute : isAbsolute (join p q) = isAbsolute p := by
      rw [join_of_relative hq, String.append_assoc, isAbsolute_append hp]
    by_cases hp' : isAbsolute p = true
    · rw [join_of_absolute hp', join_of_absolute (habsolute.trans hp')]
    · rw [Bool.not_eq_true] at hp'
      rw [join_of_relative (habsolute.trans hp'), join_of_relative hp', join_of_relative hq,
        join_of_relative hq, gap_append hp]
      simp only [String.append_assoc]

/-- A path inside another one goes on after it with a slash. -/
theorem toList_join {p q : String} (h : isAbsolute q = false) :
    p = "" ∧ join p q = q ∨ ∃ front, (p.toList = front ∨ p.toList = front ++ ['/']) ∧
      (join p q).toList = front ++ '/' :: q.toList := by
  by_cases hp : p = ""
  · left
    subst hp
    exact ⟨rfl, by rw [join_of_relative h]; rfl⟩
  · right
    by_cases hlast : p.toList.getLast? = some '/'
    · obtain ⟨front, hfront⟩ := List.getLast?_eq_some_iff.mp hlast
      refine ⟨front, .inr hfront, ?_⟩
      rw [join_of_relative h, gap, if_pos (.inr hlast), String.append_empty, String.toList_append,
        hfront, List.append_assoc]
      rfl
    · refine ⟨p.toList, .inl rfl, ?_⟩
      rw [join_of_relative h, gap, if_neg (by simp [hp, hlast]), String.toList_append,
        String.toList_append, List.append_assoc]
      rfl

/-- A slash at the end adds no step. -/
theorem steps_of_front {p : String} {front : List Char}
    (h : p.toList = front ∨ p.toList = front ++ ['/']) :
    steps p = (front.splitOn '/').filter (!isFiller ·) := by
  rcases h with h | h
  · rw [steps, h]
  · rw [steps, h, List.splitOn_append_cons_self, List.filter_append]
    exact List.append_nil _

theorem steps_join {p q : String} (h : isAbsolute q = false) :
    steps (join p q) = steps p ++ steps q := by
  rcases toList_join (p := p) h with ⟨rfl, hjoin⟩ | ⟨front, hp, hjoin⟩
  · rw [hjoin]
    rfl
  · rw [steps_of_front hp, steps, hjoin, List.splitOn_append_cons_self, List.filter_append]
    rfl

/-- A name of a file, which leads neither back nor on. -/
structure Plain (name : String) : Prop where
  noSlash : '/' ∉ name.toList
  noFiller : isFiller name.toList = false
  notUp : name.toList ≠ ['.', '.']

theorem Plain.splitOn {name : String} (h : Plain name) :
    name.toList.splitOn '/' = [name.toList] := List.splitOn_eq_singleton h.noSlash

theorem Plain.isAbsolute {name : String} (h : Plain name) : isAbsolute name = false := by
  rw [Path.isAbsolute, beq_eq_false_iff_ne]
  intro hhead
  exact h.noSlash (List.mem_of_mem_head? hhead)

theorem Plain.join_ne {name : String} (h : Plain name) (p : String) : join p name ≠ "" := by
  rw [join_of_relative h.isAbsolute]
  intro heq
  obtain ⟨-, rfl⟩ := String.append_eq_empty_iff.mp heq
  exact absurd h.noFiller (by decide)

/-- The segments of a path that ends in a name. -/
theorem splitOn_join {p name : String} (h : Plain name) : ∃ front,
    (join p name).toList.splitOn '/' = front ++ [name.toList] ∧
      front.filter (!isFiller ·) = steps p := by
  rcases toList_join (p := p) h.isAbsolute with ⟨rfl, hjoin⟩ | ⟨front, hp, hjoin⟩
  · exact ⟨[], by rw [hjoin, h.splitOn]; rfl, rfl⟩
  · refine ⟨front.splitOn '/', ?_, (steps_of_front hp).symm⟩
    rw [hjoin, List.splitOn_append_cons_self, h.splitOn]

/-! ## The steps of ancestors -/

/-- A component that is a step, and not the root or a leading `.`. -/
def isStep (component : String) : Bool := component != "/" && component != "."

theorem isStep_ofList {segment : List Char} (hslash : '/' ∉ segment)
    (hfiller : isFiller segment = false) : isStep (String.ofList segment) = true := by
  rw [isStep, Bool.and_eq_true, bne_iff_ne, bne_iff_ne]
  constructor <;> intro h
  · rw [← String.toList_ofList (l := segment), h] at hslash
    exact hslash (by decide)
  · rw [← String.toList_ofList (l := segment), h] at hfiller
    exact absurd hfiller (by decide)

theorem of_mem_steps {p : String} {segment : List Char} (h : segment ∈ steps p) :
    '/' ∉ segment ∧ isFiller segment = false := by
  obtain ⟨hsplit, hfiller⟩ := List.mem_filter.mp h
  exact ⟨fun hslash => (Text.mem_of_mem_splitOn hsplit _ hslash).2 rfl, by simpa using hfiller⟩

theorem components_eq {p : String} {lead body : List Char} (h : cutLead p.toList = (lead, body)) :
    components p = leadComponents lead ++ (steps p).map String.ofList := by
  rw [components_of_cutLead h, steps_of_cutLead h, names]

/-- The components of a path, with the lead of another one, that are steps. -/
theorem filter_isStep {lead : List Char} {segments : List (List Char)}
    (hlead : Fits lead segments) {xs : List (List Char)}
    (hxs : ∀ x ∈ xs, '/' ∉ x ∧ isFiller x = false) :
    (leadComponents lead ++ xs.map String.ofList).filter isStep = xs.map String.ofList := by
  have hl : (leadComponents lead).filter isStep = [] := by cases hlead <;> decide
  rw [List.filter_append, hl, List.nil_append, List.filter_eq_self]
  intro component hmem
  obtain ⟨x, hx, rfl⟩ := List.mem_map.mp hmem
  exact isStep_ofList (hxs x hx).1 (hxs x hx).2

theorem steps_eq (p : String) : steps p = ((components p).filter isStep).map String.toList := by
  obtain ⟨lead, body, hcut⟩ := exists_cutLead p
  rw [components_eq hcut, filter_isStep (fits_of_cutLead hcut) fun _ => of_mem_steps]
  simp

theorem head?_components {lead : List Char} {segments : List (List Char)}
    (hlead : Fits lead segments) {xs : List (List Char)} (hxs : ∀ x ∈ xs, '/' ∉ x) :
    (leadComponents lead ++ xs.map String.ofList).head? = some "/" ↔ lead = ['/'] := by
  by_cases hnil : lead = []
  · subst hnil
    refine ⟨fun h => ?_, fun h => by contradiction⟩
    obtain ⟨x, hx, heq⟩ := List.mem_map.mp (List.mem_of_mem_head? h)
    have hslash := hxs x hx
    rw [← String.toList_ofList (l := x), heq] at hslash
    exact absurd hslash (by decide)
  · have hroot : lead = ['/'] ∨ lead = ['.'] := by
      cases hlead <;> first | contradiction | exact .inl rfl | exact .inr rfl
    rcases hroot with rfl | rfl
    · exact ⟨fun _ => rfl, fun _ => rfl⟩
    · exact ⟨fun h => absurd (Option.some.inj h) (by decide), fun h => by contradiction⟩

theorem isAbsolute_iff (p : String) : isAbsolute p = true ↔ (components p).head? = some "/" := by
  obtain ⟨lead, body, hcut⟩ := exists_cutLead p
  rw [components_eq hcut, head?_components (fits_of_cutLead hcut) fun _ h => (of_mem_steps h).1,
    isAbsolute_of_cutLead hcut, decide_eq_true_iff]

/-- The beginnings of the components of a path that are paths above it. -/
theorem mem_map_components_ancestors {p : String} {cs : List String} :
    cs ∈ (ancestors p).map components ↔
      cs <+: components p ∧ (isAbsolute p = true → cs.head? = some "/") := by
  rw [map_components_ancestors, List.mem_reverse, rootless]
  cases h : isAbsolute p with
  | false => simp
  | true =>
    obtain ⟨rest, hp⟩ := List.head?_eq_some_iff.mp ((isAbsolute_iff p).mp h)
    rw [hp, List.inits_cons, if_pos rfl, List.drop_one, List.tail_cons, List.mem_map]
    constructor
    · rintro ⟨xs, hxs, rfl⟩
      exact ⟨List.cons_prefix_cons.mpr ⟨rfl, (List.mem_inits ..).mp hxs⟩, fun _ => rfl⟩
    · rintro ⟨hbegins, hhead⟩
      obtain ⟨xs, rfl⟩ := List.head?_eq_some_iff.mp (hhead rfl)
      exact ⟨xs, (List.mem_inits ..).mpr (List.cons_prefix_cons.mp hbegins).2, rfl⟩

theorem components_prefix_of_mem_ancestors {p a : String} (h : a ∈ ancestors p) :
    components a <+: components p :=
  (mem_map_components_ancestors.mp (List.mem_map_of_mem h)).1

theorem isAbsolute_of_mem_ancestors {p a : String} (h : a ∈ ancestors p) :
    isAbsolute a = isAbsolute p := by
  obtain ⟨⟨rest, hrest⟩, habsolute⟩ := mem_map_components_ancestors.mp (List.mem_map_of_mem h)
  rw [Bool.eq_iff_iff, isAbsolute_iff a]
  refine ⟨fun ha => ?_, habsolute⟩
  rw [isAbsolute_iff, ← hrest, List.head?_append, ha, Option.some_or]

theorem prefix_of_steps {a b : String} (h : components a <+: components b) :
    steps a <+: steps b := by
  rw [steps_eq, steps_eq]
  exact (h.filter _).map _

/-- Each beginning of the steps of a path leads to one of its ancestors. -/
theorem exists_ancestor {p : String} {xs : List (List Char)} (h : xs <+: steps p) :
    ∃ a ∈ ancestors p, steps a = xs := by
  obtain ⟨lead, body, hcut⟩ := exists_cutLead p
  have hfits := fits_of_cutLead hcut
  have hxs : ∀ x ∈ xs, '/' ∉ x ∧ isFiller x = false := fun x hx => of_mem_steps (h.subset hx)
  have hmem : leadComponents lead ++ xs.map String.ofList ∈ (ancestors p).map components := by
    rw [mem_map_components_ancestors, components_eq hcut, isAbsolute_of_cutLead hcut,
      decide_eq_true_iff, head?_components hfits fun x hx => (hxs x hx).1]
    exact ⟨(List.prefix_append_right_inj _).mpr (h.map _), id⟩
  obtain ⟨a, ha, hcomponents⟩ := List.mem_map.mp hmem
  refine ⟨a, ha, ?_⟩
  rw [steps_eq, hcomponents, filter_isStep hfits hxs]
  simp

end ModuleSharing.Path
