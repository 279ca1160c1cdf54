import ModuleSharing.Proofs.Files.Place

/-! Files that are written.  A file that is written into a folder stands there, and nothing else has
changed (`Files.changedAt_write`), so it is read back (`Files.read_write`) and its neighbours are
read as before (`Files.read_write_of_ne`). -/

namespace ModuleSharing.Files

variable {f g : Files} {dir name other content : String}

/-- Entering folders without making any is walking through them. -/
theorem walk_of_enter {root root' : FileTree} {names ns : List String}
    {segments : List (List Char)} (hsteps : ∀ s ∈ segments, Path.isFiller s = false)
    (hnames : (root.at? names.reverse).any FileTree.isFolder)
    (h : enter false names root segments = .ok (ns, root')) :
    root.walk names segments = some ns ∧ (root.at? ns.reverse).any FileTree.isFolder := by
  induction segments generalizing names with
  | nil =>
    cases h
    exact ⟨rfl, hnames⟩
  | cons segment rest ih =>
    obtain ⟨hfirst, hrest⟩ := List.forall_mem_cons.mp hsteps
    rw [FileTree.walk_cons, FileTree.step, if_pos hnames, if_neg (by simp [hfirst]),
      Option.bind_some]
    unfold enter at h
    split at h
    · rename_i hup
      rw [if_pos hup]
      refine ih hrest ?_ h
      cases names with
      | nil => exact hnames
      | cons name names =>
        rw [List.reverse_cons] at hnames
        obtain ⟨here, hhere, _⟩ := (Option.any_eq_true _ _).mp hnames
        exact FileTree.any_isFolder_of_at?_concat hhere
    · rename_i hup
      rw [if_neg hup]
      dsimp only at h
      split at h
      · rename_i hfolder
        exact ih hrest (by rw [hfolder]; rfl) h
      · contradiction
      · contradiction

/-- A tree that a file is put into is a folder. -/
theorem isFolder_of_put {new root root' : FileTree} {names : List String} (hnames : names ≠ [])
    (h : FileTree.put new names root = some root') : root.isFolder = true := by
  obtain ⟨name, names, rfl⟩ := List.exists_cons_of_ne_nil hnames
  cases root with
  | file _ => contradiction
  | folder _ => rfl

/-- A written file stands in its folder, and nothing has changed elsewhere. -/
theorem changedAt_write (hname : Path.Plain name)
    (h : f.write (Path.join dir name) content = .ok g) :
    ∃ q, f.place? dir = some q ∧ ChangedAt (· = q ++ [name]) f g ∧
      g.root.at? (q ++ [name]) = some (.file content) := by
  have hsegments : f.segments (Path.join dir name) = f.segments dir ++ [name.toList] := by
    rw [f.segments_join hname.isAbsolute, Path.steps, hname.splitOn,
      List.filter_singleton, hname.noFiller]
    rfl
  have hsteps : ∀ s ∈ f.segments dir, Path.isFiller s = false := by
    intro s hs
    simpa using (List.mem_filter.mp hs).2
  rw [write, hsegments, List.reverse_append, List.reverse_singleton, List.singleton_append] at h
  dsimp only at h
  rw [List.reverse_reverse, String.ofList_toList] at h
  obtain ⟨⟨trail, _⟩, henter, h⟩ := bind_eq_ok_iff.mp h
  dsimp only at h
  split at h
  · contradiction
  rename_i hfree
  split at h
  · rename_i root hput
    cases h
    rw [List.reverse_cons] at hput
    have htop : (f.root.at? ([] : List String).reverse).any FileTree.isFolder :=
      isFolder_of_put (List.append_ne_nil_of_right_ne_nil _ (List.cons_ne_nil _ _)) hput
    obtain ⟨hwalk, hfolder⟩ := walk_of_enter hsteps htop henter
    have hplace : f.place? dir = some trail.reverse := by
      rwa [f.place?_folder hfolder, List.reverse_reverse]
    have hnot : (f.root.at? (trail.reverse ++ [name])).any FileTree.isFolder = false := by
      have hhere := (f.place?_join hname).mpr ⟨_, rfl, hplace, hfolder⟩
      rw [Bool.or_eq_true, not_or, isFolder, f.get?_eq (hname.join_ne dir), hhere,
        Option.bind_some] at hfree
      exact Bool.eq_false_iff.mpr hfree.2
    exact ⟨_, hplace, f.changedAt_put hfolder hnot hput, FileTree.at?_put hput⟩
  · contradiction

/-- A written file is read back. -/
theorem read_write (hname : Path.Plain name)
    (h : f.write (Path.join dir name) content = .ok g) :
    g.read (Path.join dir name) = .ok content := by
  obtain ⟨q, hplace, hchanged, hfile⟩ := changedAt_write hname h
  rw [read_eq_ok_iff, get?_join _ hname]
  exact ⟨q, by rw [hchanged.place?, hplace], hfile⟩

/-- The other files in the folder are read as before. -/
theorem read_write_of_ne (hname : Path.Plain name) (hother : Path.Plain other)
    (hne : other ≠ name) (h : f.write (Path.join dir name) content = .ok g) {text : String} :
    g.read (Path.join dir other) = .ok text ↔ f.read (Path.join dir other) = .ok text := by
  obtain ⟨q, hplace, hchanged, _⟩ := changedAt_write hname h
  rw [read_eq_ok_iff, read_eq_ok_iff]
  refine hchanged.get?_iff fun q' hq' heq => ?_
  obtain ⟨q'', hq'', _⟩ := (f.place?_join hother).mp hq'
  exact hne (List.append_singleton_inj.mp (hq''.symm.trans heq)).2

/-- What is read depends on what is found. -/
theorem read_congr {path : String} (h : g.get? path = f.get? path) (hexists : f.exists? path) :
    g.read path = f.read path := by
  obtain ⟨t, ht⟩ := Option.isSome_iff_exists.mp hexists
  have hf : f.root.get f.here path = .ok t := toOption_eq_some_iff.mp ht
  have hg : g.root.get g.here path = .ok t := toOption_eq_some_iff.mp (h.trans ht)
  rw [read, read, hf, hg]

theorem exists?_of_read {path : String} (h : f.read path = .ok content) :
    f.exists? path = true := by
  rw [exists?, f.read_eq_ok_iff.mp h]
  rfl

end ModuleSharing.Files
