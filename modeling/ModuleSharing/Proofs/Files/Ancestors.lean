import Mathlib.Data.List.Infix
import Mathlib.Data.List.Nodup
import ModuleSharing.Files.Tree
import ModuleSharing.Proofs.Text.Split

/-! The places above a path.  A path is cut into its lead and its segments, and is cut the same
again after segments were taken from its end (`cutLead_of_parts`).  So the components of its
ancestors are the beginnings of its own, longest first (`map_components_ancestors`), and what a
search upwards finds is the nearest ancestor of its kind (`find?_ancestors`). -/

namespace ModuleSharing.Path

/-! ## Leads and segments -/

/-- The leads that a path can have, each with the segments that can follow it. -/
inductive Fits : List Char → List (List Char) → Prop where
  | root (segments : List (List Char)) : Fits ['/'] segments
  | lone : Fits ['.'] []
  | dotted (segments : List (List Char)) : Fits ['.'] ([] :: segments)
  | nothing : Fits [] []
  | blank : Fits [] [[]]
  | plain {segment : List Char} (hne : segment ≠ []) (hdot : segment ≠ ['.'])
      (segments : List (List Char)) : Fits [] (segment :: segments)

/-- A path as its lead and its segments. -/
structure Parts (lead : List Char) (segments : List (List Char)) : Prop where
  fits : Fits lead segments
  noSlash : ∀ segment ∈ segments, '/' ∉ segment

theorem Fits.of_append {lead : List Char} {xs ys : List (List Char)} (h : Fits lead (xs ++ ys)) :
    Fits lead xs := by
  generalize hall : xs ++ ys = all at h
  cases h with
  | root => exact .root xs
  | lone =>
    rw [(List.append_eq_nil_iff.mp hall).1]
    exact .lone
  | dotted =>
    cases xs with
    | nil => exact .lone
    | cons x xs =>
      rw [(List.cons.inj hall).1]
      exact .dotted xs
  | nothing =>
    rw [(List.append_eq_nil_iff.mp hall).1]
    exact .nothing
  | blank =>
    rcases List.append_eq_singleton_iff.mp hall with ⟨rfl, _⟩ | ⟨rfl, _⟩
    · exact .nothing
    · exact .blank
  | plain hne hdot =>
    cases xs with
    | nil => exact .nothing
    | cons x xs =>
      obtain ⟨rfl, _⟩ := List.cons.inj hall
      exact .plain hne hdot xs

theorem Parts.of_append {lead : List Char} {xs ys : List (List Char)} (h : Parts lead (xs ++ ys)) :
    Parts lead xs where
  fits := h.fits.of_append
  noSlash segment hmem := h.noSlash segment (List.mem_append_left _ hmem)

theorem exists_cutLead (p : String) : ∃ lead body, cutLead p.toList = (lead, body) := ⟨_, _, rfl⟩

/-- The root, a leading `.` that is a segment, or neither. -/
theorem cutLead_cases {cs lead body : List Char} (h : cutLead cs = (lead, body)) :
    (lead = ['/'] ∧ cs = '/' :: body) ∨
    (lead = ['.'] ∧ cs = '.' :: body ∧ (body = [] ∨ ∃ rest, body = '/' :: rest)) ∨
    (lead = [] ∧ cs = body ∧ (∀ rest, body ≠ '/' :: rest) ∧ body ≠ ['.'] ∧
      ∀ rest, body ≠ '.' :: '/' :: rest) := by
  unfold cutLead at h
  split at h
  · cases h
    exact .inl ⟨rfl, rfl⟩
  · cases h
    exact .inr (.inl ⟨rfl, rfl, .inl rfl⟩)
  · cases h
    exact .inr (.inl ⟨rfl, rfl, .inr ⟨_, rfl⟩⟩)
  · rename_i hroot hdot hdotted
    cases h
    exact .inr (.inr ⟨rfl, rfl, hroot, hdot, hdotted⟩)

theorem splitOn_slash_cons (cs : List Char) :
    ('/' :: cs).splitOn '/' = [] :: cs.splitOn '/' :=
  List.splitOn_append_cons_self [] cs

theorem fits_of_cutLead {cs lead body : List Char} (h : cutLead cs = (lead, body)) :
    Fits lead (body.splitOn '/') := by
  rcases cutLead_cases h with
    ⟨rfl, -⟩ | ⟨rfl, -, rfl | ⟨rest, rfl⟩⟩ | ⟨rfl, -, hroot, hdot, hdotted⟩
  · exact .root _
  · exact .dotted []
  · rw [splitOn_slash_cons]
    exact .dotted _
  · obtain ⟨segment, segments, hsplit⟩ := List.exists_cons_of_ne_nil (List.splitOn_ne_nil '/' body)
    have hbody : ['/'].intercalate (body.splitOn '/') = body := List.intercalate_splitOn '/'
    rw [hsplit] at hbody ⊢
    cases segments with
    | nil =>
      rw [List.intercalate_singleton] at hbody
      subst hbody
      by_cases hnil : segment = []
      · rw [hnil]
        exact .blank
      · exact .plain hnil hdot []
    | cons next segments =>
      rw [List.intercalate_cons_cons] at hbody
      refine .plain ?_ ?_ _
      · rintro rfl
        exact hroot _ hbody.symm
      · rintro rfl
        exact hdotted _ hbody.symm

theorem parts_of_cutLead {cs lead body : List Char} (h : cutLead cs = (lead, body)) :
    Parts lead (body.splitOn '/') where
  fits := fits_of_cutLead h
  noSlash _ hsegment hslash := (Text.mem_of_mem_splitOn hsegment _ hslash).2 rfl

theorem parts_reverse_of_cutLead {cs lead body : List Char} (h : cutLead cs = (lead, body)) :
    Parts lead (body.splitOn '/').reverse.reverse := by
  rw [List.reverse_reverse]
  exact parts_of_cutLead h

/-- The segments of a path are cut off its lead again. -/
theorem cutLead_of_parts {lead : List Char} {segments : List (List Char)}
    (h : Parts lead segments) :
    cutLead (lead ++ ['/'].intercalate segments) = (lead, ['/'].intercalate segments) := by
  obtain ⟨hfits, hslash⟩ := h
  cases hfits with
  | root => rfl
  | lone => rfl
  | dotted segments =>
    cases segments with
    | nil => rfl
    | cons next segments => simp [List.intercalate_cons_cons, cutLead]
  | nothing => rfl
  | blank => rfl
  | @plain segment hne hdot segments =>
    obtain ⟨rest, hrest⟩ : ∃ rest, ['/'].intercalate (segment :: segments) = segment ++ rest := by
      cases segments with
      | nil => exact ⟨[], by simp⟩
      | cons next segments => exact ⟨_, by rw [List.intercalate_cons_cons, List.append_assoc]⟩
    have hsegment := hslash segment (List.mem_cons_self ..)
    obtain ⟨c, more, rfl⟩ := List.exists_cons_of_ne_nil hne
    rw [List.nil_append, hrest]
    unfold cutLead
    split
    · rename_i heq
      obtain ⟨rfl, _⟩ := List.cons.inj heq
      simp at hsegment
    · rename_i heq
      obtain ⟨rfl, hnil⟩ := List.cons.inj heq
      rw [(List.append_eq_nil_iff.mp hnil).1] at hdot
      contradiction
    · rename_i heq
      obtain ⟨rfl, htail⟩ := List.cons.inj heq
      cases more with
      | nil => contradiction
      | cons d more =>
        obtain ⟨rfl, _⟩ := List.cons.inj htail
        simp at hsegment
    · rfl

/-! ## Components -/

/-- The component that a lead stands for, if it is one. -/
def leadComponents (lead : List Char) : List String :=
  if lead.isEmpty then [] else [String.ofList lead]

/-- The segments that count, by their names. -/
def names (segments : List (List Char)) : List String :=
  (segments.filter (!isFiller ·)).map String.ofList

theorem components_of_cutLead {p : String} {lead body : List Char}
    (h : cutLead p.toList = (lead, body)) :
    components p = leadComponents lead ++ names (body.splitOn '/') := by
  simp only [components, h, leadComponents, names]

theorem ancestors_of_cutLead {p : String} {lead body : List Char}
    (h : cutLead p.toList = (lead, body)) :
    ancestors p = p :: above lead (body.splitOn '/').reverse := by
  simp only [ancestors, h]

theorem names_append (xs ys : List (List Char)) : names (xs ++ ys) = names xs ++ names ys := by
  rw [names, List.filter_append, List.map_append, names, names]

theorem names_of_fillers {segments : List (List Char)} (h : ∀ s ∈ segments, isFiller s = true) :
    names segments = [] := by
  simpa [names] using h

/-- Segments at the end that do not count are left out. -/
theorem exists_fillers (reversed : List (List Char)) :
    ∃ fillers, (∀ s ∈ fillers, isFiller s = true) ∧
      reversed.reverse = (reversed.dropWhile isFiller).reverse ++ fillers := by
  refine ⟨(reversed.takeWhile isFiller).reverse, ?_, ?_⟩
  · intro s hs
    exact List.all_eq_true.mp (List.all_takeWhile ..) s (List.mem_reverse.mp hs)
  · rw [← List.reverse_append, List.takeWhile_append_dropWhile]

theorem splitOn_intercalate_filler {segments : List (List Char)}
    (h : ∀ s ∈ segments, '/' ∉ s) :
    (['/'].intercalate segments).splitOn '/' = segments ∨
      segments = [] ∧ (['/'].intercalate segments).splitOn '/' = [[]] := by
  by_cases hnil : segments = []
  · rw [hnil]
    exact Or.inr ⟨rfl, rfl⟩
  · exact Or.inl (List.splitOn_intercalate '/' h hnil)

theorem above_dropWhile (lead : List Char) (reversed : List (List Char)) :
    above lead (reversed.dropWhile isFiller) = above lead reversed := by
  induction reversed with
  | nil => rfl
  | cons segment rest ih =>
    cases hfiller : isFiller segment with
    | true => rw [List.dropWhile_cons_of_pos hfiller, ih, above, if_pos hfiller]
    | false => rw [List.dropWhile_cons_of_neg (by simp [hfiller])]

/-- Cutting a path that was put together gives its lead and its segments back. -/
theorem assemble_spec {lead : List Char} {reversed : List (List Char)}
    (h : Parts lead reversed.reverse) :
    components (assemble lead reversed) = leadComponents lead ++ names reversed.reverse ∧
      ancestors (assemble lead reversed) = assemble lead reversed :: above lead reversed := by
  obtain ⟨fillers, hfillers, hreversed⟩ := exists_fillers reversed
  have hnames : names reversed.reverse = names (reversed.dropWhile isFiller).reverse := by
    rw [hreversed, names_append, names_of_fillers hfillers, List.append_nil]
  rw [hreversed] at h
  have hkept := h.of_append
  have hcut : cutLead (assemble lead reversed).toList =
      (lead, ['/'].intercalate (reversed.dropWhile isFiller).reverse) := by
    rw [assemble, String.toList_ofList, cutLead_of_parts hkept]
  rw [components_of_cutLead hcut, ancestors_of_cutLead hcut, hnames]
  rcases splitOn_intercalate_filler hkept.noSlash with hsplit | ⟨hnil, hsplit⟩
  · rw [hsplit, List.reverse_reverse, above_dropWhile]
    exact ⟨rfl, rfl⟩
  · rw [hsplit, hnil, ← above_dropWhile lead reversed, List.reverse_eq_nil_iff.mp hnil]
    exact ⟨rfl, rfl⟩

/-! ## The ancestors of a path -/

theorem isAbsolute_of_cutLead {p : String} {lead body : List Char}
    (h : cutLead p.toList = (lead, body)) : isAbsolute p = decide (lead = ['/']) := by
  rw [isAbsolute]
  rcases cutLead_cases h with ⟨rfl, hp⟩ | ⟨rfl, hp, -⟩ | ⟨rfl, hp, hroot, -⟩
  · rw [hp]
    rfl
  · rw [hp]
    rfl
  · rw [hp, beq_eq_false_iff_ne.mpr]
    · rfl
    · intro hhead
      obtain ⟨rest, hbody⟩ := List.head?_eq_some_iff.mp hhead
      exact hroot rest hbody

/-- Nothing is above the root; other paths lie in the folder that the empty path names. -/
def rootless (p : String) : Nat := if isAbsolute p then 1 else 0

theorem inits_append_singleton {α : Type} (xs : List α) (x : α) :
    (xs ++ [x]).inits = xs.inits ++ [xs ++ [x]] := by
  simp [List.inits_append]

/-- What is above a path has the beginnings of its components. -/
theorem map_components_above {lead : List Char} {reversed : List (List Char)}
    (h : Parts lead reversed.reverse) :
    (leadComponents lead ++ names reversed.reverse) :: (above lead reversed).map components =
      ((leadComponents lead ++ names reversed.reverse).inits.drop
        (if lead = ['/'] then 1 else 0)).reverse := by
  induction reversed with
  | nil =>
    cases h.fits <;> decide
  | cons segment rest ih =>
    rw [List.reverse_cons] at h ⊢
    have ih := ih h.of_append
    cases hfiller : isFiller segment with
    | true =>
      have hnames : names [segment] = [] := names_of_fillers fun s hs =>
        List.mem_singleton.mp hs ▸ hfiller
      rw [names_append, hnames, List.append_nil, above, if_pos hfiller, ih]
    | false =>
      have hnames : names [segment] = [String.ofList segment] := by simp [names, hfiller]
      rw [names_append, hnames, ← List.append_assoc, above, if_neg (by simp [hfiller]),
        List.map_cons, (assemble_spec h.of_append).1, ih, inits_append_singleton,
        List.drop_append_of_le_length, List.reverse_append]
      · rfl
      · rw [List.length_inits]
        split <;> omega

/-- The components of a path and of the paths above it are the beginnings of its own, longest first.
-/
theorem map_components_ancestors (p : String) :
    (ancestors p).map components = ((components p).inits.drop (rootless p)).reverse := by
  obtain ⟨lead, body, hcut⟩ := exists_cutLead p
  have habove := map_components_above (parts_reverse_of_cutLead hcut)
  rw [List.reverse_reverse, ← components_of_cutLead hcut] at habove
  rw [ancestors_of_cutLead hcut, List.map_cons, habove, rootless, isAbsolute_of_cutLead hcut]
  simp only [decide_eq_true_eq]

theorem pairwise_inits {α : Type} (xs : List α) :
    xs.inits.Pairwise fun ys zs => ys <+: zs ∧ ys.length < zs.length := by
  induction xs with
  | nil => exact List.pairwise_singleton ..
  | cons x xs ih =>
    rw [List.inits_cons, List.pairwise_cons, List.pairwise_map]
    constructor
    · intro ys hys
      obtain ⟨zs, _, rfl⟩ := List.mem_map.mp hys
      exact ⟨List.nil_prefix, by simp⟩
    · exact ih.imp fun h => ⟨List.cons_prefix_cons.mpr ⟨rfl, h.1⟩, by simpa using h.2⟩

/-- An ancestor that comes later is above the earlier ones. -/
theorem pairwise_ancestors (p : String) : (ancestors p).Pairwise fun a b =>
    components b <+: components a ∧ (components b).length < (components a).length := by
  have hbeginnings : ((ancestors p).map components).Pairwise fun xs ys =>
      ys <+: xs ∧ ys.length < xs.length := by
    rw [map_components_ancestors, List.pairwise_reverse]
    exact (pairwise_inits _).drop
  exact List.pairwise_map.mp hbeginnings

/-- The ancestors of a path are told apart by their components. -/
theorem eq_of_components_eq {p a b : String} (ha : a ∈ ancestors p) (hb : b ∈ ancestors p)
    (h : components a = components b) : a = b := by
  have hnodup : ((ancestors p).map components).Nodup :=
    List.pairwise_map.mpr ((pairwise_ancestors p).imp fun hlt heq => by
      rw [heq] at hlt
      exact absurd hlt.2 (Nat.lt_irrefl _))
  exact List.inj_on_of_nodup_map hnodup ha hb h

theorem ancestors_of_above {lead : List Char} {reversed : List (List Char)} {up : String}
    {more : List String} (h : Parts lead reversed.reverse)
    (habove : above lead reversed = up :: more) : ancestors up = up :: more := by
  induction reversed with
  | nil =>
    rw [above] at habove
    split at habove
    · cases habove
      rfl
    · contradiction
  | cons segment rest ih =>
    rw [List.reverse_cons] at h
    rw [above] at habove
    split at habove
    · exact ih h.of_append habove
    · cases habove
      exact (assemble_spec h.of_append).2

/-- What is above a path is its parent and what is above that. -/
theorem ancestors_of_parent? {p up : String} (h : parent? p = some up) :
    ancestors p = p :: ancestors up := by
  obtain ⟨lead, body, hcut⟩ := exists_cutLead p
  have hancestors := ancestors_of_cutLead hcut
  rw [parent?, hancestors, List.getElem?_cons_succ, ← List.head?_eq_getElem?] at h
  obtain ⟨more, habove⟩ := List.head?_eq_some_iff.mp h
  rw [hancestors, habove, ancestors_of_above (parts_reverse_of_cutLead hcut) habove]

theorem ancestors_of_parent?_eq_none {p : String} (h : parent? p = none) : ancestors p = [p] := by
  obtain ⟨lead, body, hcut⟩ := exists_cutLead p
  have hancestors := ancestors_of_cutLead hcut
  rw [parent?, hancestors, List.getElem?_cons_succ, ← List.head?_eq_getElem?,
    List.head?_eq_none_iff] at h
  rw [hancestors, h]

/-! ## The nearest ancestor -/

/-- `dir` is the deepest of the ancestors of `start` that have a property. -/
structure Nearest (has : String → Prop) (start dir : String) : Prop where
  ancestor : dir ∈ ancestors start
  holds : has dir
  deepest : ∀ other ∈ ancestors start, has other → components other <+: components dir

variable {has : String → Prop} {start dir dir' : String}

theorem Nearest.unique (h : Nearest has start dir) (h' : Nearest has start dir') : dir = dir' :=
  eq_of_components_eq h.ancestor h'.ancestor
    ((h'.deepest dir h.ancestor h.holds).eq_of_length_le
      (h.deepest dir' h'.ancestor h'.holds).length_le)

/-- A search upwards finds the nearest ancestor. -/
theorem find?_ancestors (q : String → Bool) :
    (ancestors start).find? q = some dir ↔ Nearest (fun d => q d = true) start dir := by
  have hsome : ∀ {found}, (ancestors start).find? q = some found →
      Nearest (fun d => q d = true) start found := by
    intro found hfind
    obtain ⟨hq, earlier, later, hlist, hearlier⟩ := List.find?_eq_some_iff_append.mp hfind
    refine ⟨List.mem_of_find?_eq_some hfind, hq, ?_⟩
    intro other hother hqother
    have hpairs := pairwise_ancestors start
    rw [hlist] at hother hpairs
    rcases List.mem_append.mp hother with hbefore | hafter
    · have := hearlier other hbefore
      simp [hqother] at this
    · rcases List.mem_cons.mp hafter with rfl | hlater
      · exact List.prefix_rfl
      · exact (List.rel_of_pairwise_cons (List.pairwise_append.mp hpairs).2.1 hlater).1
  refine ⟨hsome, fun hnearest => ?_⟩
  cases hfind : (ancestors start).find? q with
  | none => exact absurd hnearest.holds (List.find?_eq_none.mp hfind dir hnearest.ancestor)
  | some found => rw [(hsome hfind).unique hnearest]

theorem find?_ancestors_eq_none (q : String → Bool) :
    (ancestors start).find? q = none ↔ ¬∃ dir, Nearest (fun d => q d = true) start dir := by
  rw [Option.eq_none_iff_forall_ne_some, not_exists]
  exact forall_congr' fun dir => not_congr (find?_ancestors q)

theorem exists_nearest {q : String → Bool} (hdir : dir ∈ ancestors start) (h : q dir = true) :
    ∃ found, Nearest (fun d => q d = true) start found := by
  by_contra hnone
  rw [← find?_ancestors_eq_none, List.find?_eq_none] at hnone
  exact hnone dir hdir h

/-- A path that does not have a property itself has the nearest ancestor of its parent. -/
theorem Nearest.of_parent {q : String → Bool} {p : String}
    (h : Nearest (fun d => q d = true) p dir) (hp : q p = false) :
    ∃ up, parent? p = some up ∧ Nearest (fun d => q d = true) up dir := by
  have hfind := (find?_ancestors q).mpr h
  cases hparent : parent? p with
  | none =>
    rw [ancestors_of_parent?_eq_none hparent, List.find?_singleton, hp] at hfind
    contradiction
  | some up =>
    rw [ancestors_of_parent? hparent, List.find?_cons_of_neg (by simp [hp])] at hfind
    exact ⟨up, rfl, (find?_ancestors q).mp hfind⟩

end ModuleSharing.Path
