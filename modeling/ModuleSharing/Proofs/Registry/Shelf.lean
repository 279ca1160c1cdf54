import ModuleSharing.Proofs.Registry.Search

/-! The entries of a shelf strictly ascend in precedence.  On such a shelf the entry that equals a
version is unique and `get?` finds it (`get?_eq_some_iff`), `highestMatching?` finds the highest
entry that a range admits, and registrations and loads keep the order. -/

namespace ModuleSharing

namespace Shelf

variable {μ : Type}

/-- The entries strictly ascend, so no two of them are equal in precedence. -/
def Ascending (s : Shelf μ) : Prop :=
  s.entries.Pairwise fun e e' => e.version.precedence e'.version = .lt

/-! ## Searching -/

/-- How the entry at a place compares with a version. -/
def probe (s : Shelf μ) (v : Version) (i : Nat) : Ordering :=
  (s.entries[i]?.map fun e => e.version.precedence v).getD .gt

theorem position_eq (s : Shelf μ) (v : Version) :
    s.position v = bisect (s.probe v) s.entries.length 0 s.entries.length := rfl

theorem probe_getElem (s : Shelf μ) (v : Version) {i : Nat} (hi : i < s.entries.length) :
    s.probe v i = s.entries[i].version.precedence v := by
  simp only [probe, List.getElem?_eq_getElem hi, Option.map_some, Option.getD_some]

theorem place_of_position {s : Shelf μ} {v : Version} {i : Nat} (h : s.position v = .ok i) :
    ∃ e, s.entries[i]? = some e ∧ e.version.precedence v = .eq := by
  rw [position_eq] at h
  obtain ⟨hi, hprobe⟩ := bisect_ok h
  rw [s.probe_getElem v hi] at hprobe
  exact ⟨s.entries[i], List.getElem?_eq_getElem hi, hprobe⟩

theorem Ascending.rising {s : Shelf μ} (h : s.Ascending) (v : Version) :
    Rising (s.probe v) 0 s.entries.length := by
  intro i j _ hij hj hi
  have hlt := List.pairwise_iff_getElem.mp h i j (by omega) hj hij
  rw [s.probe_getElem v (by omega)] at hi
  rw [s.probe_getElem v hj]
  apply Std.OrientedCmp.gt_of_lt
  cases hp : s.entries[i].version.precedence v with
  | lt => contradiction
  | eq => rwa [Version.precedence_congr_left hp] at hlt
  | gt => exact Std.TransCmp.lt_trans (Std.OrientedCmp.lt_of_gt hp) hlt

/-- Where a version stands among the entries of a shelf. -/
inductive Parting (s : Shelf μ) (v : Version) : Prop where
  | found (lower : List (Entry μ)) (e : Entry μ) (upper : List (Entry μ))
      (entries : s.entries = lower ++ e :: upper) (same : e.version.precedence v = .eq)
      (position : s.position v = .ok lower.length)
  | missing (lower upper : List (Entry μ)) (entries : s.entries = lower ++ upper)
      (below : ∀ x ∈ lower, x.version.precedence v = .lt)
      (above : ∀ x ∈ upper, x.version.precedence v = .gt)
      (position : s.position v = .error lower.length)

/-- What the search for a version comes to. -/
theorem Ascending.parting {s : Shelf μ} (h : s.Ascending) (v : Version) : s.Parting v := by
  cases hposition : s.position v with
  | ok i =>
    obtain ⟨e, hplace, hsame⟩ := place_of_position hposition
    obtain ⟨hi, rfl⟩ := List.getElem?_eq_some_iff.mp hplace
    refine .found (s.entries.take i) s.entries[i] (s.entries.drop (i + 1)) (by simp) hsame ?_
    rw [hposition, List.length_take_of_le (by omega)]
  | error i =>
    rw [position_eq] at hposition
    obtain ⟨hi, hbelow, habove⟩ :=
      bisect_error (h.rising v) (Nat.zero_le _) (Nat.le_refl _) hposition
    refine .missing (s.entries.take i) (s.entries.drop i) (by simp) ?_ ?_ ?_
    · intro x hx
      obtain ⟨j, hj, rfl⟩ := List.mem_take_iff_getElem.mp hx
      rw [← s.probe_getElem v (by omega)]
      exact hbelow j (Nat.zero_le _) (by omega)
    · intro x hx
      obtain ⟨j, hj, rfl⟩ := List.mem_drop_iff_getElem.mp hx
      rw [← s.probe_getElem v (by omega)]
      exact habove (i + j) (by omega) (by omega)
    · rw [position_eq, hposition, List.length_take_of_le hi]

theorem Ascending.bounds {s : Shelf μ} (h : s.Ascending) {v : Version}
    {lower upper : List (Entry μ)} {e : Entry μ} (hentries : s.entries = lower ++ e :: upper)
    (hsame : e.version.precedence v = .eq) :
    (∀ x ∈ lower, x.version.precedence v = .lt) ∧ ∀ x ∈ upper, x.version.precedence v = .gt := by
  unfold Ascending at h
  rw [hentries, List.pairwise_append, List.pairwise_cons] at h
  obtain ⟨_, ⟨hupper, _⟩, hlower⟩ := h
  constructor
  · intro x hx
    rw [← Version.precedence_congr_right hsame]
    exact hlower x hx e (List.mem_cons_self ..)
  · intro x hx
    rw [← Version.precedence_congr_right hsame]
    exact Std.OrientedCmp.gt_of_lt (hupper x hx)

theorem place_of_get? {s : Shelf μ} {v : Version} {e : Entry μ} (h : s.get? v = some e) :
    ∃ i, s.position v = .ok i ∧ s.entries[i]? = some e := by
  unfold get? at h
  split at h
  · rename_i i hposition
    exact ⟨i, hposition, h⟩
  · contradiction

theorem mem_of_get? {s : Shelf μ} {v : Version} {e : Entry μ} (h : s.get? v = some e) :
    e ∈ s.entries ∧ e.version.precedence v = .eq := by
  obtain ⟨i, hposition, hplace⟩ := place_of_get? h
  obtain ⟨x, hx, hsame⟩ := place_of_position hposition
  rw [hplace, Option.some.injEq] at hx
  rw [hx]
  exact ⟨List.mem_of_getElem? (hx ▸ hplace), hsame⟩

theorem get?_congr (s : Shelf μ) {v w : Version} (h : v.precedence w = .eq) :
    s.get? v = s.get? w := by
  simp only [get?, position, Version.precedence_congr_right h]

/-- Binary search finds exactly the entry that equals a version in precedence. -/
theorem Ascending.get?_eq_some_iff {s : Shelf μ} (h : s.Ascending) (v : Version) (e : Entry μ) :
    s.get? v = some e ↔ e ∈ s.entries ∧ e.version.precedence v = .eq := by
  refine ⟨mem_of_get?, fun ⟨hmem, heq⟩ => ?_⟩
  cases h.parting v with
  | found lower x upper hentries hsame hposition =>
    obtain ⟨hbelow, habove⟩ := h.bounds hentries hsame
    have hx : e = x := by
      rw [hentries, List.mem_append, List.mem_cons] at hmem
      rcases hmem with hmem | rfl | hmem
      · rw [hbelow e hmem] at heq
        contradiction
      · rfl
      · rw [habove e hmem] at heq
        contradiction
    simp only [get?, hposition, hentries, hx, List.getElem?_append_right (Nat.le_refl _),
      Nat.sub_self, List.getElem?_cons_zero]
  | missing lower upper hentries hbelow habove =>
    rw [hentries, List.mem_append] at hmem
    rcases hmem with hmem | hmem
    · rw [hbelow e hmem] at heq
      contradiction
    · rw [habove e hmem] at heq
      contradiction

theorem highestMatching?_eq_none_iff (s : Shelf μ) (range : Option VersionRange) :
    s.highestMatching? range = none ↔ ∀ x ∈ s.entries, range.all (·.admits x.version) = false := by
  simp only [highestMatching?, List.find?_eq_none, List.mem_reverse, Bool.not_eq_true]

/-- The entry that is picked is admitted, and every other admitted entry is below it. -/
theorem Ascending.highestMatching?_spec {s : Shelf μ} (h : s.Ascending)
    {range : Option VersionRange} {e : Entry μ} (hpick : s.highestMatching? range = some e) :
    e ∈ s.entries ∧ range.all (·.admits e.version) = true ∧
      ∀ x ∈ s.entries, range.all (·.admits x.version) = true →
        x = e ∨ x.version.precedence e.version = .lt := by
  obtain ⟨hadmits, higher, lower, hreverse, hnone⟩ := List.find?_eq_some_iff_append.mp hpick
  have hentries : s.entries = lower.reverse ++ e :: higher.reverse := by
    rw [← s.entries.reverse_reverse, hreverse]
    simp
  have hbelow := (h.bounds hentries (Version.precedence_self _)).1
  refine ⟨by simp [hentries], hadmits, fun x hx hxadmits => ?_⟩
  rw [hentries, List.mem_append, List.mem_cons] at hx
  rcases hx with hx | rfl | hx
  · exact Or.inr (hbelow x hx)
  · exact Or.inl rfl
  · have hnot := hnone x (List.mem_reverse.mp hx)
    rw [hxadmits] at hnot
    contradiction

/-! ## Putting an entry in its place -/

/-- `s'` has the entries of `s` and `y` in its place, where it replaces an entry that equals it. -/
inductive Put (s : Shelf μ) (y : Entry μ) (s' : Shelf μ) : Prop where
  | intro (lower replaced upper : List (Entry μ)) (before : s.entries = lower ++ replaced ++ upper)
      (after : s'.entries = lower ++ y :: upper)
      (below : ∀ x ∈ lower, x.version.precedence y.version = .lt)
      (same : ∀ x ∈ replaced, x.version.precedence y.version = .eq)
      (above : ∀ x ∈ upper, x.version.precedence y.version = .gt)

theorem Put.ascending {s s' : Shelf μ} {y : Entry μ} (hput : s.Put y s') (h : s.Ascending) :
    s'.Ascending := by
  obtain ⟨lower, replaced, upper, hbefore, hafter, hbelow, _, habove⟩ := hput
  unfold Ascending at h ⊢
  rw [hbefore, List.append_assoc, List.pairwise_append, List.pairwise_append] at h
  obtain ⟨hlower, ⟨_, hupper, _⟩, hacross⟩ := h
  rw [hafter, List.pairwise_append, List.pairwise_cons]
  refine ⟨hlower, ⟨fun x hx => Std.OrientedCmp.lt_of_gt (habove x hx), hupper⟩, fun x hx z hz => ?_⟩
  rcases List.mem_cons.mp hz with rfl | hz
  · exact hbelow x hx
  · exact hacross x hx z (List.mem_append_right _ hz)

theorem Put.mem_iff {s s' : Shelf μ} {y : Entry μ} (hput : s.Put y s') (x : Entry μ) :
    x ∈ s'.entries ↔ x = y ∨ (x ∈ s.entries ∧ x.version.precedence y.version ≠ .eq) := by
  obtain ⟨lower, replaced, upper, hbefore, hafter, hbelow, hsame, habove⟩ := hput
  rw [hbefore, hafter]
  simp only [List.mem_append, List.mem_cons]
  constructor
  · rintro (hx | hx | hx)
    · exact Or.inr ⟨Or.inl (Or.inl hx), by rw [hbelow x hx]; decide⟩
    · exact Or.inl hx
    · exact Or.inr ⟨Or.inr hx, by rw [habove x hx]; decide⟩
  · rintro (hx | ⟨(hx | hx) | hx, hne⟩)
    · exact Or.inr (Or.inl hx)
    · exact Or.inl hx
    · exact absurd (hsame x hx) hne
    · exact Or.inr (Or.inr hx)

/-- Only the versions that equal the new entry find something else than before. -/
theorem Put.get? {s s' : Shelf μ} {y : Entry μ} (hput : s.Put y s') (h : s.Ascending)
    (v : Version) :
    s'.get? v = if y.version.precedence v = .eq then some y else s.get? v := by
  have h' := hput.ascending h
  split
  · rename_i hy
    exact (h'.get?_eq_some_iff v y).mpr ⟨(hput.mem_iff y).mpr (Or.inl rfl), hy⟩
  · rename_i hy
    apply Option.ext
    intro x
    rw [h'.get?_eq_some_iff, h.get?_eq_some_iff, hput.mem_iff]
    constructor
    · rintro ⟨rfl | ⟨hx, _⟩, hv⟩
      · exact absurd hv hy
      · exact ⟨hx, hv⟩
    · rintro ⟨hx, hv⟩
      refine ⟨Or.inr ⟨hx, fun hxy => hy ?_⟩, hv⟩
      rwa [Version.precedence_congr_left hxy] at hv

private theorem modify_middle {α : Type} (f : α → α) (lower upper : List α) (x : α) :
    (lower ++ x :: upper).modify lower.length f = lower ++ f x :: upper := by
  induction lower with
  | nil => rfl
  | cons a lower ih => simp [ih]

private theorem insertIdx_middle {α : Type} (x : α) (lower upper : List α) :
    (lower ++ upper).insertIdx lower.length x = lower ++ x :: upper := by
  induction lower with
  | nil => rfl
  | cons a lower ih => simp [ih]

theorem Ascending.put_middle {s s' : Shelf μ} (h : s.Ascending) {lower upper : List (Entry μ)}
    {x y : Entry μ} (hbefore : s.entries = lower ++ x :: upper)
    (hafter : s'.entries = lower ++ y :: upper)
    (hsame : x.version.precedence y.version = .eq) : s.Put y s' := by
  obtain ⟨hbelow, habove⟩ := h.bounds hbefore hsame
  refine .intro lower [x] upper (by simp [hbefore]) hafter hbelow ?_ habove
  intro z hz
  rwa [List.mem_singleton.mp hz]

/-- A registration puts its entry in place unless a loaded entry is there. -/
theorem Ascending.register_cases {s : Shelf μ} (h : s.Ascending) (e : Entry μ) :
    (∃ x, s.get? e.version = some x ∧ x.loaded = true ∧ s.register e = s) ∨
      ((∀ x, s.get? e.version = some x → x.loaded = false) ∧ s.Put e (s.register e)) := by
  cases h.parting e.version with
  | found lower x upper hentries hsame hposition =>
    have hget : s.get? e.version = some x :=
      (h.get?_eq_some_iff ..).mpr ⟨by simp [hentries], hsame⟩
    have hplace : s.entries[lower.length]? = some x := by simp [hentries]
    cases hloaded : x.loaded with
    | true =>
      refine Or.inl ⟨x, hget, hloaded, ?_⟩
      simp only [register, hposition, hplace, Option.map_some, Option.getD_some, hloaded, if_true]
    | false =>
      refine Or.inr ⟨fun z hz => ?_, h.put_middle hentries ?_ hsame⟩
      · rw [hget, Option.some.injEq] at hz
        rw [← hz, hloaded]
      · simp [register, hposition, hloaded, hentries]
  | missing lower upper hentries hbelow habove hposition =>
    refine Or.inr ⟨fun x hx => ?_, .intro lower [] upper (by simp [hentries]) ?_ hbelow (by simp)
      habove⟩
    · simp [get?, hposition] at hx
    · simp only [register, hposition, hentries, insertIdx_middle]

/-- Marking an entry as loaded puts it in its own place. -/
theorem Ascending.put_markLoaded {s : Shelf μ} (h : s.Ascending) {i : Nat} {e : Entry μ}
    (hplace : s.entries[i]? = some e) : s.Put { e with loaded := true } (s.markLoaded i) := by
  obtain ⟨hi, he⟩ := List.getElem?_eq_some_iff.mp hplace
  have hentries : s.entries = s.entries.take i ++ e :: s.entries.drop (i + 1) := by
    rw [← he]
    simp
  refine h.put_middle hentries ?_ (Version.precedence_self _)
  have hmodify := modify_middle (fun e : Entry μ => { e with loaded := true })
    (s.entries.take i) (s.entries.drop (i + 1)) e
  rwa [← hentries, List.length_take_of_le (by omega)] at hmodify

@[simp] theorem register_activated (s : Shelf μ) (e : Entry μ) :
    (s.register e).activated = s.activated := by
  unfold register
  split
  · split <;> rfl
  · rfl

end Shelf

end ModuleSharing
