import ModuleSharing.Proofs.Files.Joining
import ModuleSharing.Proofs.Sequence

/-! Where a path leads in a tree.  A path is walked step by step, and what is found at its end is
what stands at the place that the walk comes to (`Files.get?_eq`).  A walk that ends below a folder
comes to it a last time on the way and then stays below it (`FileTree.exists_last_visit`).  Files
that change at other places do not change what a path leads to (`Files.ChangedAt.get?_iff`). -/

namespace ModuleSharing

namespace FileTree

variable (root : FileTree)

/-! ## Walking -/

/-- One step from a place, given by its names, last one first. -/
def step (names : List String) (segment : List Char) : Option (List String) :=
  if (root.at? names.reverse).any isFolder then
    some (if Path.isFiller segment then names
      else if segment = ['.', '.'] then names.tail
      else String.ofList segment :: names)
  else none

def walk (names : List String) (segments : List (List Char)) : Option (List String) :=
  segments.foldlM root.step names

/-- The trees that are passed on the way to the place with the given names, last one first. -/
inductive Stands (root : FileTree) : List String → List FileTree → FileTree → Prop where
  | top : Stands root [] [] root
  | inside {names : List String} {trail : List FileTree} {here t : FileTree} {name : String}
      (h : Stands root names trail here) (hchild : here.child? name = some t) :
      Stands root (name :: names) (here :: trail) t

variable {root}

theorem at?_append (t : FileTree) (names more : List String) :
    t.at? (names ++ more) = (t.at? names).bind (at? · more) := by
  induction names generalizing t with
  | nil => rfl
  | cons name names ih =>
    rw [List.cons_append, at?, at?, Option.bind_assoc]
    exact congrArg _ (funext ih)

theorem at?_concat (t : FileTree) (names : List String) (name : String) :
    t.at? (names ++ [name]) = (t.at? names).bind (child? · name) := by
  rw [at?_append]
  congr 1
  funext here
  cases h : here.child? name <;> simp [at?, h]

/-- What stands in something stands in a folder. -/
theorem any_isFolder_of_at?_concat {t here : FileTree} {names : List String} {name : String}
    (h : t.at? (names ++ [name]) = some here) : (t.at? names).any isFolder := by
  rw [at?_concat] at h
  obtain ⟨above, habove, hchild⟩ := Option.bind_eq_some_iff.mp h
  rw [habove]
  cases above with
  | file _ => contradiction
  | folder _ => rfl

theorem Stands.at? {names : List String} {trail : List FileTree} {here : FileTree}
    (h : Stands root names trail here) : root.at? names.reverse = some here := by
  induction h with
  | top => rfl
  | inside _ hchild ih => rw [List.reverse_cons, at?_concat, ih, Option.bind_some, hchild]

theorem Stands.up {names : List String} {up here : FileTree} {trail : List FileTree}
    (h : Stands root names (up :: trail) here) : Stands root names.tail trail up := by
  cases h with
  | inside h _ => exact h

theorem walk_cons (names : List String) (segment : List Char) (rest : List (List Char)) :
    root.walk names (segment :: rest) = (root.step names segment).bind (root.walk · rest) := by
  rw [walk, List.foldlM_cons]
  rfl

theorem walk_append (names : List String) (xs ys : List (List Char)) :
    root.walk names (xs ++ ys) = (root.walk names xs).bind (root.walk · ys) := by
  rw [walk, List.foldlM_append]
  rfl

/-- Nothing is found beyond a place where nothing is. -/
theorem at?_walk_of_none {names : List String} (h : root.at? names.reverse = none)
    (segments : List (List Char)) :
    (root.walk names segments).bind (root.at? ·.reverse) = none := by
  cases segments with
  | nil => exact h
  | cons segment rest => rw [walk_cons, step, h]; rfl

/-- Following a path finds what is at the place that it leads to. -/
theorem toOption_follow {names : List String} {trail : List FileTree} {here : FileTree}
    (h : Stands root names trail here) (segments : List (List Char)) :
    (follow trail here segments).toOption =
      (root.walk names segments).bind (root.at? ·.reverse) := by
  induction segments generalizing names trail here with
  | nil => exact h.at?.symm
  | cons segment rest ih =>
    rw [walk_cons, step, h.at?, Option.any_some]
    unfold follow
    cases hfolder : here.isFolder with
    | false => rfl
    | true =>
      rw [Bool.not_true, if_neg (by decide), if_pos rfl, Option.bind_some]
      cases hfiller : Path.isFiller segment with
      | true => exact ih h
      | false =>
        simp only [Bool.false_eq_true, if_false]
        by_cases hup : segment = ['.', '.']
        · rw [if_pos hup, if_pos hup]
          cases trail with
          | nil =>
            cases h
            exact ih .top
          | cons up trail => exact ih h.up
        · rw [if_neg hup, if_neg hup]
          cases hchild : here.child? (String.ofList segment) with
          | some t => exact ih (h.inside hchild)
          | none =>
            rw [at?_walk_of_none]
            · rfl
            · rw [List.reverse_cons, at?_concat, h.at?, Option.bind_some, hchild]

/-- A place that is passed on the way to a folder is one. -/
theorem any_isFolder_of_walk {names ns : List String} {segments : List (List Char)}
    (h : root.walk names segments = some ns) (hfolder : (root.at? ns.reverse).any isFolder) :
    (root.at? names.reverse).any isFolder := by
  cases segments with
  | nil =>
    cases h
    exact hfolder
  | cons segment rest =>
    by_contra hnone
    rw [walk_cons, step, if_neg hnone] at h
    contradiction

theorem step_of_filler {segment : List Char} (h : Path.isFiller segment = true)
    (names : List String) :
    root.step names segment =
      if (root.at? names.reverse).any isFolder then some names else none := by
  rw [step, if_pos h]

/-- A walk does without fillers. -/
theorem walk_filter_of_walk {names ns : List String} {segments : List (List Char)}
    (h : root.walk names segments = some ns) :
    root.walk names (segments.filter (!Path.isFiller ·)) = some ns := by
  induction segments generalizing names with
  | nil => exact h
  | cons segment rest ih =>
    rw [walk_cons] at h
    obtain ⟨next, hstep, hrest⟩ := Option.bind_eq_some_iff.mp h
    cases hfiller : Path.isFiller segment with
    | false =>
      rw [List.filter_cons_of_pos (by simp [hfiller]), walk_cons, hstep]
      exact ih hrest
    | true =>
      rw [List.filter_cons_of_neg (by simp [hfiller])]
      rw [step_of_filler hfiller, Option.ite_none_right_eq_some, Option.some_inj] at hstep
      exact ih (hstep.2 ▸ hrest)

/-- Fillers do not matter on the way to a folder. -/
theorem walk_filter {names ns : List String} (hfolder : (root.at? ns.reverse).any isFolder)
    (segments : List (List Char)) :
    root.walk names (segments.filter (!Path.isFiller ·)) = some ns ↔
      root.walk names segments = some ns := by
  refine ⟨fun h => ?_, walk_filter_of_walk⟩
  induction segments generalizing names with
  | nil => exact h
  | cons segment rest ih =>
    rw [walk_cons]
    cases hfiller : Path.isFiller segment with
    | false =>
      rw [List.filter_cons_of_pos (by simp [hfiller]), walk_cons] at h
      obtain ⟨next, hstep, hrest⟩ := Option.bind_eq_some_iff.mp h
      rw [hstep, Option.bind_some, ih hrest]
    | true =>
      rw [List.filter_cons_of_neg (by simp [hfiller])] at h
      rw [step_of_filler hfiller, if_pos (any_isFolder_of_walk h hfolder), Option.bind_some, ih h]

/-- Trees with the same folders are walked in the same way. -/
theorem walk_congr {root' : FileTree}
    (h : ∀ q, (root.at? q).any isFolder = (root'.at? q).any isFolder) (names : List String)
    (segments : List (List Char)) : root.walk names segments = root'.walk names segments := by
  have hstep : root.step = root'.step := by
    funext names segment
    rw [step, step, h]
  rw [walk, walk, hstep]

/-! ## The last visit -/

/-- Somewhere below a place. -/
def Below (d names : List String) : Prop := d <:+ names ∧ names ≠ d

theorem not_below_nil (d : List String) : ¬ Below d [] := by
  rintro ⟨hsuffix, hne⟩
  exact hne (List.suffix_nil.mp hsuffix).symm

/-- One comes to be below a folder from the folder itself. -/
theorem eq_of_step_below {d names next : List String} {segment : List Char}
    (hstep : root.step names segment = some next) (hbelow : Below d next)
    (houtside : ¬ Below d names) : names = d := by
  obtain ⟨hsuffix, hne⟩ := hbelow
  rw [step] at hstep
  split at hstep
  · have hnext := Option.some.inj hstep
    split at hnext
    · exact absurd ⟨hnext ▸ hsuffix, hnext ▸ hne⟩ houtside
    · split at hnext
      · refine absurd ⟨(hnext ▸ hsuffix).trans (List.tail_suffix names), ?_⟩ houtside
        rintro rfl
        rw [← hnext] at hsuffix hne
        exact hne (List.tail_suffix names |>.eq_of_length_le hsuffix.length_le)
      · rw [← hnext] at hsuffix hne
        rcases List.suffix_cons_iff.mp hsuffix with heq | hsuffix
        · exact absurd heq.symm hne
        · by_contra hnames
          exact houtside ⟨hsuffix, hnames⟩
  · contradiction

/-- A walk that ends below a folder comes to it a last time, and then stays below it. -/
theorem exists_last_visit {d start ns : List String} {segments : List (List Char)}
    (hwalk : root.walk start segments = some ns) (hbelow : Below d ns)
    (hstart : ¬ Below d start) :
    ∃ xs ys, segments = xs ++ ys ∧ root.walk start xs = some d ∧
      ∀ zs, zs <+: ys → zs ≠ [] → ∃ n, root.walk start (xs ++ zs) = some n ∧ Below d n := by
  induction segments using List.reverseRecOn generalizing ns with
  | nil =>
    cases hwalk
    exact absurd hbelow hstart
  | append_singleton segments segment ih =>
    rw [walk_append] at hwalk
    obtain ⟨before, hbefore, hlast⟩ := Option.bind_eq_some_iff.mp hwalk
    by_cases hb : Below d before
    · obtain ⟨xs, ys, hsplit, hxs, hys⟩ := ih hbefore hb
      refine ⟨xs, ys ++ [segment], by rw [hsplit, List.append_assoc], hxs, ?_⟩
      intro zs hzs hne
      rcases List.prefix_concat_iff.mp hzs with rfl | hzs
      · refine ⟨ns, ?_, hbelow⟩
        rw [← List.append_assoc, ← hsplit, walk_append, hbefore]
        exact hlast
      · exact hys zs hzs hne
    · have hd : before = d := by
        rw [walk_cons] at hlast
        obtain ⟨next, hstep, hnext⟩ := Option.bind_eq_some_iff.mp hlast
        cases hnext
        exact eq_of_step_below hstep hbelow hb
      subst hd
      refine ⟨segments, [segment], rfl, hbefore, ?_⟩
      intro zs hzs hne
      rcases List.prefix_concat_iff.mp (by simpa using hzs : zs <+: [] ++ [segment]) with rfl | hzs
      · refine ⟨ns, ?_, hbelow⟩
        rw [List.nil_append, walk_append, hbefore]
        exact hlast
      · exact absurd (List.prefix_nil.mp hzs) hne

/-! ## Changes of a file -/

theorem lookup_setChild_self (name : String) (t : FileTree) (children : List (String × FileTree)) :
    (setChild name t children).lookup name = some t := by
  induction children with
  | nil => rw [setChild, List.lookup_cons_self]
  | cons child rest ih =>
    obtain ⟨name', t'⟩ := child
    rw [setChild]
    split
    · rw [List.lookup_cons_self]
    · rename_i hne
      rw [List.lookup_cons, Bool.eq_false_iff.mpr hne]
      exact ih

theorem lookup_setChild_of_ne {name other : String} (h : other ≠ name) (t : FileTree)
    (children : List (String × FileTree)) :
    (setChild name t children).lookup other = children.lookup other := by
  have hother : (other == name) = false := beq_eq_false_iff_ne.mpr h
  induction children with
  | nil => rw [setChild, List.lookup_cons, hother]
  | cons child rest ih =>
    obtain ⟨name', t'⟩ := child
    rw [setChild]
    split
    · rename_i heq
      rw [← beq_iff_eq.mp heq, List.lookup_cons, List.lookup_cons, hother]
    · rw [List.lookup_cons, List.lookup_cons, ih]

theorem at?_folder_cons (children : List (String × FileTree)) (name : String)
    (names : List String) :
    (folder children).at? (name :: names) = (children.lookup name).bind (at? · names) := rfl

/-- The same in both trees: nothing, a folder, or a file with one content. -/
structure SameKind (here there : Option FileTree) : Prop where
  folder : there.any isFolder = here.any isFolder
  file : ∀ content, there = some (.file content) ↔ here = some (.file content)

theorem SameKind.refl (here : Option FileTree) : SameKind here here := ⟨rfl, fun _ => Iff.rfl⟩

theorem sameKind_folders (children children' : List (String × FileTree)) :
    SameKind (some (.folder children)) (some (.folder children')) :=
  ⟨rfl, by simp⟩

theorem at?_put {new root root' : FileTree} {names : List String}
    (h : put new names root = some root') : root'.at? names = some new := by
  induction names generalizing root root' with
  | nil =>
    cases h
    rfl
  | cons name names ih =>
    cases root with
    | file _ => contradiction
    | folder children =>
      obtain ⟨below, hbelow, hroot⟩ := Option.bind_eq_some_iff.mp h
      cases hroot
      rw [at?_folder_cons, lookup_setChild_self, Option.bind_some, ih hbelow]

/-- Changing one child leaves what is not inside it. -/
theorem sameKind_setChild {children : List (String × FileTree)} {name : String} {t : FileTree}
    {q : List String}
    (h : ∀ rest, q = name :: rest →
      SameKind ((children.lookup name).bind (at? · rest)) (t.at? rest)) :
    SameKind ((folder children).at? q) ((folder (setChild name t children)).at? q) := by
  cases q with
  | nil => exact sameKind_folders ..
  | cons x rest =>
    rw [at?_folder_cons, at?_folder_cons]
    by_cases hx : x = name
    · subst hx
      rw [lookup_setChild_self]
      exact h rest rfl
    · rw [lookup_setChild_of_ne hx]
      exact .refl _

/-- A file that is put into a folder, where no folder stands, changes nothing elsewhere. -/
theorem sameKind_put {parent : List String} {name content : String} {root root' : FileTree}
    (hparent : (root.at? parent).any isFolder)
    (hnot : (root.at? (parent ++ [name])).any isFolder = false)
    (hput : put (.file content) (parent ++ [name]) root = some root') {q : List String}
    (hq : q ≠ parent ++ [name]) : SameKind (root.at? q) (root'.at? q) := by
  induction parent generalizing root root' q with
  | nil =>
    cases root with
    | file _ => contradiction
    | folder children =>
      cases hput
      refine sameKind_setChild fun rest hrest => ?_
      subst hrest
      -- what stood there was no folder either, so nothing is below it
      cases rest with
      | nil => contradiction
      | cons y rest =>
        rw [List.nil_append, at?_folder_cons] at hnot
        cases hold : children.lookup name with
        | none => exact .refl _
        | some old =>
          cases old with
          | file _ => exact .refl _
          | folder _ =>
            rw [hold] at hnot
            contradiction
  | cons x parent ih =>
    cases root with
    | file _ => contradiction
    | folder children =>
      rw [at?_folder_cons] at hparent
      rw [List.cons_append, at?_folder_cons] at hnot
      cases hold : children.lookup x with
      | none =>
        rw [hold] at hparent
        contradiction
      | some old =>
        rw [hold] at hparent hnot
        rw [List.cons_append, put, hold] at hput
        obtain ⟨new, hnew, hroot⟩ := Option.bind_eq_some_iff.mp hput
        cases hroot
        refine sameKind_setChild fun rest hrest => ?_
        subst hrest
        rw [hold, Option.bind_some]
        exact ih hparent hnot hnew fun h => hq (by rw [h, List.cons_append])

end FileTree

namespace Files

variable (f : Files) {path dir name : String} {q : List String} {content : String}

/-! ## Places -/

/-- The place that a path leads to, by the names from the root on. -/
def place? (path : String) : Option (List String) :=
  (f.root.walk [] ((Path.join f.here path).toList.splitOn '/')).map List.reverse

theorem place?_eq_some_iff : f.place? path = some q ↔
    f.root.walk [] ((Path.join f.here path).toList.splitOn '/') = some q.reverse := by
  rw [place?, Option.map_eq_some_iff]
  constructor
  · rintro ⟨names, hwalk, rfl⟩
    rw [hwalk, List.reverse_reverse]
  · exact fun hwalk => ⟨_, hwalk, List.reverse_reverse q⟩

theorem get?_eq (h : path ≠ "") : f.get? path = (f.place? path).bind f.root.at? := by
  rw [get?, FileTree.get, if_neg (by simpa using h), FileTree.toOption_follow .top, place?,
    Option.bind_map]
  rfl

theorem walk_segments (h : f.place? path = some q) :
    f.root.walk [] (f.segments path) = some q.reverse :=
  FileTree.walk_filter_of_walk (f.place?_eq_some_iff.mp h)

/-- A folder is found by the steps that lead to it. -/
theorem place?_folder (h : (f.root.at? q).any FileTree.isFolder) :
    f.place? path = some q ↔ f.root.walk [] (f.segments path) = some q.reverse := by
  rw [place?_eq_some_iff, segments, FileTree.walk_filter]
  rwa [List.reverse_reverse]

theorem segments_join {y : String} (h : Path.isAbsolute y = false) :
    f.segments (Path.join path y) = f.segments path ++ Path.steps y := by
  change Path.steps (Path.join f.here (Path.join path y)) = _
  rw [Path.join_join, Path.steps_join h]
  rfl

theorem segments_eq (path : String) : f.segments path =
    (if Path.isAbsolute path then [] else Path.steps f.here) ++ Path.steps path := by
  change Path.steps (Path.join f.here path) = _
  cases h : Path.isAbsolute path with
  | true => rw [Path.join_of_absolute h]; rfl
  | false => rw [Path.steps_join h]; rfl

/-- A name in a folder. -/
theorem place?_join (h : Path.Plain name) {q' : List String} :
    f.place? (Path.join dir name) = some q' ↔
      ∃ q, q' = q ++ [name] ∧ f.place? dir = some q ∧ (f.root.at? q).any FileTree.isFolder := by
  obtain ⟨front, hsplit, hfront⟩ := Path.splitOn_join (p := Path.join f.here dir) h
  rw [place?_eq_some_iff, Path.join_join, hsplit, FileTree.walk_append, Option.bind_eq_some_iff]
  have hstep (names : List String) : f.root.walk names [name.toList] = some q'.reverse ↔
      (f.root.at? names.reverse).any FileTree.isFolder ∧ q' = names.reverse ++ [name] := by
    rw [FileTree.walk_cons, FileTree.step, h.noFiller, if_neg h.notUp, String.ofList_toList]
    split
    · rename_i hfolder
      rw [if_neg Bool.false_ne_true, Option.bind_some]
      refine ⟨fun heq => ⟨hfolder, ?_⟩, fun heq => ?_⟩
      · rw [← List.reverse_reverse q', ← Option.some.inj heq, List.reverse_cons]
      · rw [heq.2, List.reverse_append, List.reverse_reverse]
        rfl
    · rename_i hnone
      exact ⟨fun heq => by contradiction, fun heq => absurd heq.1 hnone⟩
  have hdir {names : List String} (hfolder : (f.root.at? names.reverse).any FileTree.isFolder) :
      f.place? dir = some names.reverse ↔ f.root.walk [] front = some names := by
    rw [f.place?_folder hfolder, List.reverse_reverse, ← FileTree.walk_filter hfolder front,
      hfront]
    rfl
  constructor
  · rintro ⟨names, hfront', hname⟩
    obtain ⟨hfolder, hq'⟩ := (hstep names).mp hname
    exact ⟨names.reverse, hq', (hdir hfolder).mpr hfront', hfolder⟩
  · rintro ⟨q, hq', hq, hfolder⟩
    rw [← List.reverse_reverse q] at hq hfolder hq'
    exact ⟨q.reverse, (hdir hfolder).mp hq, (hstep _).mpr ⟨hfolder, hq'⟩⟩

/-! ## Files in folders -/

theorem isFile_iff : f.isFile path = true ↔ ∃ content, f.get? path = some (.file content) := by
  rw [isFile]
  cases f.get? path with
  | none => simp
  | some t => cases t <;> simp [FileTree.isFile]

theorem read_eq_ok_iff : f.read path = .ok content ↔ f.get? path = some (.file content) := by
  rw [read, get?]
  cases f.root.get f.here path with
  | error fault => simp [bind, Except.bind, Except.toOption]
  | ok t => cases t <;> simp [bind, Except.bind, Except.toOption]

theorem get?_join (h : Path.Plain name) : f.get? (Path.join dir name) = some (.file content) ↔
    ∃ q, f.place? dir = some q ∧ f.root.at? (q ++ [name]) = some (.file content) := by
  rw [f.get?_eq (h.join_ne dir), Option.bind_eq_some_iff]
  constructor
  · rintro ⟨q', hplace, hfile⟩
    obtain ⟨q, rfl, hdir, -⟩ := (f.place?_join h).mp hplace
    exact ⟨q, hdir, hfile⟩
  · rintro ⟨q, hdir, hfile⟩
    exact ⟨q ++ [name], (f.place?_join h).mpr
      ⟨q, rfl, hdir, FileTree.any_isFolder_of_at?_concat hfile⟩, hfile⟩

/-- Paths to one folder find the same files in it. -/
theorem get?_join_congr (h : Path.Plain name) {dir' : String}
    (hdir : f.place? dir = f.place? dir') :
    f.get? (Path.join dir name) = some (.file content) ↔
      f.get? (Path.join dir' name) = some (.file content) := by
  rw [f.get?_join h, f.get?_join h, hdir]

theorem any_isFolder_of_isFile (hpath : f.isFile path = true) (hq : f.place? path = some q) :
    (f.root.at? q).any FileTree.isFolder = false := by
  obtain ⟨content, hcontent⟩ := f.isFile_iff.mp hpath
  have hne : path ≠ "" := by
    rintro rfl
    contradiction
  rw [f.get?_eq hne, hq, Option.bind_some] at hcontent
  rw [hcontent]
  rfl

/-- There is nothing in a file. -/
theorem isFile_join_of_isFile (h : Path.Plain name) (hdir : f.isFile dir = true) :
    f.isFile (Path.join dir name) = false := by
  rw [Bool.eq_false_iff]
  intro hjoin
  obtain ⟨content, hinside⟩ := f.isFile_iff.mp hjoin
  obtain ⟨q, hq, hinside⟩ := (f.get?_join h).mp hinside
  have hfolder := FileTree.any_isFolder_of_at?_concat hinside
  rw [f.any_isFolder_of_isFile hdir hq] at hfolder
  contradiction

/-! ## Changes elsewhere -/

/-- The files of `g` are those of `f`, but for some that were added, taken away or written again at
the given places. -/
structure ChangedAt (places : List String → Prop) (f g : Files) : Prop where
  here : g.here = f.here
  folders : ∀ q, (g.root.at? q).any FileTree.isFolder = (f.root.at? q).any FileTree.isFolder
  files : ∀ q, ¬ places q → ∀ content,
    g.root.at? q = some (.file content) ↔ f.root.at? q = some (.file content)

/-- Writing a file into a folder changes the files at its place. -/
theorem changedAt_put {parent : List String} {root : FileTree}
    (hparent : (f.root.at? parent).any FileTree.isFolder)
    (hnot : (f.root.at? (parent ++ [name])).any FileTree.isFolder = false)
    (hput : FileTree.put (.file content) (parent ++ [name]) f.root = some root) :
    ChangedAt (· = parent ++ [name]) f { f with root } where
  here := rfl
  folders q := by
    by_cases hq : q = parent ++ [name]
    · rw [hq, hnot, FileTree.at?_put hput]
      rfl
    · exact (FileTree.sameKind_put hparent hnot hput hq).folder
  files q hq := (FileTree.sameKind_put hparent hnot hput hq).file

variable {f} {g : Files} {places : List String → Prop}

theorem ChangedAt.place? (h : ChangedAt places f g) (path : String) :
    g.place? path = f.place? path := by
  rw [Files.place?, Files.place?, h.here, FileTree.walk_congr h.folders]

theorem ChangedAt.get?_iff (h : ChangedAt places f g)
    (hpath : ∀ q, f.place? path = some q → ¬ places q) :
    g.get? path = some (.file content) ↔ f.get? path = some (.file content) := by
  by_cases hnil : path = ""
  · subst hnil
    rfl
  · rw [get?_eq _ hnil, get?_eq _ hnil, h.place?]
    cases hplace : f.place? path with
    | none => rfl
    | some q => exact h.files q (hpath q hplace) content

end Files

end ModuleSharing
