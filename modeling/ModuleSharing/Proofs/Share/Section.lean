import ModuleSharing.Share.Normalize
import ModuleSharing.Proofs.Sequence

/-! A section that is a list of requests and maps is read item by item: every item gives the
declarations that it gives as a section of its own (`sectionEntries_cons`).  All that is done with
declarations afterwards is `Piecewise`, so the descriptors come item by item too.  A `shared`
section makes two passes over its declarations; what an item adds to each is told by the kind of its
descriptors (`Normalizer.shared_eq_ok_iff`). -/

namespace ModuleSharing

open Json

variable {section_ : String}

/-! ## Declarations -/

/-- What can be an item of a list, and a section of its own: a request or a map. -/
def isDeclaration : Json → Bool
  | .string _ => true
  | .object _ => true
  | _ => false

theorem sectionEntries_of_isDeclaration {x : Json} (h : isDeclaration x = true) :
    sectionEntries section_ x = itemEntries section_ x := by
  cases x <;> first | rfl | contradiction

theorem sectionEntries_cons {x : Json} (h : isDeclaration x = true) (items : List Json)
    (entries : List ShareEntry) :
    sectionEntries section_ (.array (x :: items)) = .ok entries ↔
      ∃ first rest, sectionEntries section_ x = .ok first ∧
        sectionEntries section_ (.array items) = .ok rest ∧ entries = first ++ rest := by
  rw [sectionEntries_of_isDeclaration h]
  simp only [sectionEntries, bind_eq_ok_iff, mapM_eq_ok_iff, Except.ok.injEq]
  constructor
  · rintro ⟨_, hall, rfl⟩
    obtain ⟨first, rest, hfirst, hrest, rfl⟩ := List.forall₂_cons_left_iff.mp hall
    exact ⟨first, rest.flatten, hfirst, ⟨rest, hrest, rfl⟩, rfl⟩
  · rintro ⟨first, _, hfirst, ⟨rest, hrest, rfl⟩, rfl⟩
    exact ⟨first :: rest, .cons hfirst hrest, rfl⟩

/-- A list of one item is that item, also where it cannot be read. -/
theorem sectionEntries_singleton {x : Json} (h : isDeclaration x = true) :
    sectionEntries section_ (.array [x]) = sectionEntries section_ x := by
  rw [sectionEntries_of_isDeclaration h]
  simp only [sectionEntries, List.mapM_cons, List.mapM_nil]
  cases itemEntries section_ x with
  | error e => rfl
  | ok entries => exact congrArg Except.ok (List.append_nil entries)

/-- What is made of the declarations of a list is made of those of each item. -/
theorem sectionEntries_array_bind (section_ : String) {β : Type}
    {f : List ShareEntry → Except ConfigError (List β)} (hf : Piecewise f) {items : List Json}
    (h : ∀ x ∈ items, isDeclaration x = true) (zs : List β) :
    sectionEntries section_ (.array items) >>= f = .ok zs ↔
      ∃ parts, List.Forall₂ (fun x part => sectionEntries section_ x >>= f = .ok part) items parts ∧
        zs = parts.flatten := by
  induction items generalizing zs with
  | nil =>
    change f [] = .ok zs ↔ _
    simp [hf.nil, eq_comm]
  | cons x items ih =>
    obtain ⟨hx, hitems⟩ := List.forall_mem_cons.mp h
    rw [bind_eq_ok_iff]
    constructor
    · rintro ⟨_, hentries, hzs⟩
      obtain ⟨first, rest, hfirst, hrest, rfl⟩ := (sectionEntries_cons hx items _).mp hentries
      obtain ⟨us, vs, hus, hvs, rfl⟩ := (hf.append first rest zs).mp hzs
      obtain ⟨parts, hparts, rfl⟩ := (ih hitems vs).mp (bind_eq_ok_iff.mpr ⟨rest, hrest, hvs⟩)
      exact ⟨us :: parts, .cons (bind_eq_ok_iff.mpr ⟨first, hfirst, hus⟩) hparts, rfl⟩
    · rintro ⟨_, hall, rfl⟩
      obtain ⟨us, parts, hus, hparts, rfl⟩ := List.forall₂_cons_left_iff.mp hall
      obtain ⟨first, hfirst, hus⟩ := bind_eq_ok_iff.mp hus
      obtain ⟨rest, hrest, hvs⟩ :=
        bind_eq_ok_iff.mp ((ih hitems parts.flatten).mpr ⟨parts, hparts, rfl⟩)
      exact ⟨_, (sectionEntries_cons hx items _).mpr ⟨first, rest, hfirst, hrest, rfl⟩,
        (hf.append first rest _).mpr ⟨us, _, hus, hvs, rfl⟩⟩

/-! ## Descriptors by kind -/

/-- The consume descriptors, or the provide descriptors, in their order. -/
def ofKind (kind : ShareKind) (ds : List ShareDescriptor) : List ShareDescriptor :=
  ds.filter fun d => d.kind = kind

@[simp] theorem ofKind_append (kind : ShareKind) (ds es : List ShareDescriptor) :
    ofKind kind (ds ++ es) = ofKind kind ds ++ ofKind kind es := List.filter_append ..

theorem ofKind_of_forall {kind : ShareKind} {ds : List ShareDescriptor}
    (h : ∀ d ∈ ds, d.kind = kind) : ofKind kind ds = ds :=
  List.filter_eq_self.mpr fun d hd => decide_eq_true (h d hd)

theorem ofKind_of_ne {kind kind' : ShareKind} (hne : kind' ≠ kind) {ds : List ShareDescriptor}
    (h : ∀ d ∈ ds, d.kind = kind') : ofKind kind ds = [] :=
  List.filter_eq_nil_iff.mpr fun d hd => by simpa [h d hd] using hne

namespace Normalizer

variable (n : Normalizer)

theorem kind_of_consume {key : String} {o : ConsumeOptions} {d : ShareDescriptor}
    (h : n.consume key o = .ok d) : d.kind = .consume := by
  obtain ⟨given, _, h⟩ := bind_eq_ok_iff.mp h
  cases h
  rfl

theorem kind_of_provide {key : String} {o : ProvideOptions} {d : ShareDescriptor}
    (h : n.provide key o = .ok d) : d.kind = .provide := by
  obtain ⟨version, _, h⟩ := bind_eq_ok_iff.mp h
  obtain ⟨required, _, h⟩ := bind_eq_ok_iff.mp h
  cases h
  rfl

/-! ## The two passes of `shared` -/

/-- The consume descriptors of a `shared` section. -/
def sharedConsumes (x : Json) : Except ConfigError (List ShareDescriptor) :=
  sectionEntries "shared" x >>= fun entries => entries.mapM sharedEntry >>= fun declared =>
    declared.mapM fun (key, o) => n.consume key (sharedConsume o)

/-- The provide descriptors of a `shared` section: those of the declarations that provide. -/
def sharedProvides (x : Json) : Except ConfigError (List ShareDescriptor) :=
  sectionEntries "shared" x >>= fun entries => entries.mapM sharedEntry >>= fun declared =>
    (declared.filter fun (_, o) => isProvided o).mapM fun (key, o) =>
      let (request, options) := sharedProvide key o
      n.provide request options

theorem kind_of_sharedConsumes {x : Json} {ds : List ShareDescriptor}
    (h : n.sharedConsumes x = .ok ds) : ∀ d ∈ ds, d.kind = .consume := by
  intro d hd
  obtain ⟨entries, _, h⟩ := bind_eq_ok_iff.mp h
  obtain ⟨declared, _, h⟩ := bind_eq_ok_iff.mp h
  obtain ⟨_, _, hconsume⟩ := exists_of_forall₂_right ((mapM_eq_ok_iff _ _ _).mp h) hd
  exact n.kind_of_consume hconsume

theorem kind_of_sharedProvides {x : Json} {ds : List ShareDescriptor}
    (h : n.sharedProvides x = .ok ds) : ∀ d ∈ ds, d.kind = .provide := by
  intro d hd
  obtain ⟨entries, _, h⟩ := bind_eq_ok_iff.mp h
  obtain ⟨declared, _, h⟩ := bind_eq_ok_iff.mp h
  obtain ⟨_, _, hprovide⟩ := exists_of_forall₂_right ((mapM_eq_ok_iff _ _ _).mp h) hd
  exact n.kind_of_provide hprovide

/-- A `shared` section gives what both passes give. -/
theorem shared_eq_ok_iff (x : Json) (ds : List ShareDescriptor) :
    n.shared x = .ok ds ↔ ∃ consumed provided, n.sharedConsumes x = .ok consumed ∧
      n.sharedProvides x = .ok provided ∧ ds = consumed ++ provided := by
  unfold shared sharedConsumes sharedProvides
  simp only [bind_eq_ok_iff, pure, Except.pure, Except.ok.injEq]
  constructor
  · rintro ⟨entries, hentries, declared, hdeclared, consumed, hconsumed, provided, hprovided, rfl⟩
    exact ⟨consumed, provided, ⟨entries, hentries, declared, hdeclared, hconsumed⟩,
      ⟨entries, hentries, declared, hdeclared, hprovided⟩, rfl⟩
  · rintro ⟨consumed, provided, ⟨entries, hentries, declared, hdeclared, hconsumed⟩,
      ⟨entries', hentries', declared', hdeclared', hprovided⟩, rfl⟩
    obtain rfl : entries = entries' := Except.ok.inj (hentries.symm.trans hentries')
    obtain rfl : declared = declared' := Except.ok.inj (hdeclared.symm.trans hdeclared')
    exact ⟨entries, hentries, declared, hdeclared, consumed, hconsumed, provided, hprovided, rfl⟩

/-- The kind of a descriptor tells which pass it comes from. -/
theorem ofKind_passes {x y : Json} {consumed provided : List ShareDescriptor}
    (hconsumed : n.sharedConsumes x = .ok consumed)
    (hprovided : n.sharedProvides y = .ok provided) :
    ofKind .consume (consumed ++ provided) = consumed ∧
      ofKind .provide (consumed ++ provided) = provided := by
  have hc := n.kind_of_sharedConsumes hconsumed
  have hp := n.kind_of_sharedProvides hprovided
  simp only [ofKind_append, ofKind_of_forall hc, ofKind_of_forall hp]
  rw [ofKind_of_ne (by decide) hc, ofKind_of_ne (by decide) hp]
  simp

theorem shared_append_ok {x : Json} {consumed provided : List ShareDescriptor}
    (hconsumed : n.sharedConsumes x = .ok consumed)
    (hprovided : n.sharedProvides x = .ok provided) :
    n.shared x = .ok (consumed ++ provided) :=
  (n.shared_eq_ok_iff x _).mpr ⟨consumed, provided, hconsumed, hprovided, rfl⟩

theorem passes_of_shared {x : Json} {ds : List ShareDescriptor} (h : n.shared x = .ok ds) :
    n.sharedConsumes x = .ok (ofKind .consume ds) ∧
      n.sharedProvides x = .ok (ofKind .provide ds) := by
  obtain ⟨consumed, provided, hconsumed, hprovided, rfl⟩ := (n.shared_eq_ok_iff x ds).mp h
  obtain ⟨hc, hp⟩ := n.ofKind_passes hconsumed hprovided
  rw [hc, hp]
  exact ⟨hconsumed, hprovided⟩

/-- Items that come through both passes can be read, and their parts are what the passes gave. -/
theorem exists_shared_parts {items : List Json} {css pss : List (List ShareDescriptor)}
    (hcss : List.Forall₂ (fun x cs => n.sharedConsumes x = .ok cs) items css)
    (hpss : List.Forall₂ (fun x ps => n.sharedProvides x = .ok ps) items pss) :
    ∃ parts, List.Forall₂ (fun x part => n.shared x = .ok part) items parts ∧
      css.flatten = parts.flatMap (ofKind .consume) ∧
      pss.flatten = parts.flatMap (ofKind .provide) := by
  induction hcss generalizing pss with
  | nil =>
    cases hpss
    exact ⟨[], .nil, rfl, rfl⟩
  | @cons x cs items css hconsumed _ ih =>
    obtain ⟨ps, pss, hprovided, hrest, rfl⟩ := List.forall₂_cons_left_iff.mp hpss
    obtain ⟨parts, hparts, hcs, hps⟩ := ih hrest
    obtain ⟨hc, hp⟩ := n.ofKind_passes hconsumed hprovided
    refine ⟨(cs ++ ps) :: parts, .cons (n.shared_append_ok hconsumed hprovided) hparts, ?_, ?_⟩
    · rw [List.flatten_cons, List.flatMap_cons, hc, hcs]
    · rw [List.flatten_cons, List.flatMap_cons, hp, hps]

theorem shared_array {items : List Json} (h : ∀ x ∈ items, isDeclaration x = true)
    (ds : List ShareDescriptor) :
    n.shared (.array items) = .ok ds ↔
      ∃ parts, List.Forall₂ (fun x part => n.shared x = .ok part) items parts ∧
        ds = parts.flatMap (ofKind .consume) ++ parts.flatMap (ofKind .provide) := by
  have hconsumes := sectionEntries_array_bind "shared"
    ((Piecewise.mapM sharedEntry).bind (.mapM fun p => n.consume p.1 (sharedConsume p.2))) h
  have hprovides := sectionEntries_array_bind "shared"
    ((Piecewise.mapM sharedEntry).bind (Piecewise.filter
      (.mapM fun p => n.provide (sharedProvide p.1 p.2).1 (sharedProvide p.1 p.2).2)
      fun p => isProvided p.2)) h
  rw [shared_eq_ok_iff]
  constructor
  · rintro ⟨consumed, provided, hconsumed, hprovided, rfl⟩
    obtain ⟨css, hcss, rfl⟩ := (hconsumes consumed).mp hconsumed
    obtain ⟨pss, hpss, rfl⟩ := (hprovides provided).mp hprovided
    obtain ⟨parts, hparts, hcs, hps⟩ := n.exists_shared_parts hcss hpss
    exact ⟨parts, hparts, by rw [hcs, hps]⟩
  · rintro ⟨parts, hparts, rfl⟩
    refine ⟨_, _, (hconsumes _).mpr ⟨parts.map (ofKind .consume), ?_, rfl⟩,
      (hprovides _).mpr ⟨parts.map (ofKind .provide), ?_, rfl⟩, rfl⟩
    · exact List.forall₂_map_right_iff.mpr (hparts.imp fun _ _ hx => (n.passes_of_shared hx).1)
    · exact List.forall₂_map_right_iff.mpr (hparts.imp fun _ _ hx => (n.passes_of_shared hx).2)

/-- A list of requests and maps can be read exactly if each of its items can be read alone.  It then
gives what its items give, one after the other; a `shared` list gives the consume descriptors of all
items first and then the provide descriptors of all items.  A request or map alone is read like the
list of it. -/
theorem sections_read_itemwise :
    (∀ items : List Json, (∀ x ∈ items, isDeclaration x = true) → ∀ ds,
      (n.consumes (.array items) = .ok ds ↔
        ∃ parts, List.Forall₂ (fun x part => n.consumes x = .ok part) items parts ∧
          ds = parts.flatten) ∧
      (n.provides (.array items) = .ok ds ↔
        ∃ parts, List.Forall₂ (fun x part => n.provides x = .ok part) items parts ∧
          ds = parts.flatten) ∧
      (n.shared (.array items) = .ok ds ↔
        ∃ parts, List.Forall₂ (fun x part => n.shared x = .ok part) items parts ∧
          ds = parts.flatMap (ofKind .consume) ++ parts.flatMap (ofKind .provide))) ∧
    ∀ x, isDeclaration x = true →
      n.consumes x = n.consumes (.array [x]) ∧ n.provides x = n.provides (.array [x]) ∧
      n.shared x = n.shared (.array [x]) := by
  refine ⟨fun items h ds => ⟨?_, ?_, n.shared_array h ds⟩, fun x hx => ?_⟩
  · exact sectionEntries_array_bind "consumes" (.mapM n.consumeEntry) h ds
  · exact sectionEntries_array_bind "provides" (.mapM n.provideEntry) h ds
  · simp only [consumes, provides, shared, sectionEntries_singleton hx, and_self]

/-- A project whose manifest asks for a version of `react`. -/
def reactProject : Normalizer where
  files :=
    { root := .folder [("app", .folder
        [("package.json", .file "\x7b\"dependencies\":\x7b\"react\":\"^18\"\x7d\x7d")])]
      here := "/app" }
  context := "/app"

/-- A request and a map of a version and of a declaration without a module of its own. -/
def mixedItems : List Json :=
  [.string "react",
   .object [("lodash", .string "^4"),
    ("local", .object [("import", .bool false), ("singleton", .bool true)])]]

theorem sections_read_itemwise_mixedItems :
    (∀ x ∈ mixedItems, isDeclaration x = true) ∧
    (∃ ds parts, reactProject.shared (.array mixedItems) = .ok ds ∧
      List.Forall₂ (fun x part => reactProject.shared x = .ok part) mixedItems parts ∧
      ds = parts.flatMap (ofKind .consume) ++ parts.flatMap (ofKind .provide) ∧
      ds.map (fun d => (d.kind, d.shareKey)) =
        [(.consume, "react"), (.consume, "lodash"), (.consume, "local"), (.provide, "react"),
          (.provide, "lodash")]) ∧
    reactProject.consumes (.string "react") = reactProject.consumes (.array [.string "react"]) := by
  have hitems : ∀ x ∈ mixedItems, isDeclaration x = true := by decide
  have hkeys : (reactProject.shared (.array mixedItems)).toOption.map
      (·.map fun d => (d.kind, d.shareKey)) =
        some [(.consume, "react"), (.consume, "lodash"), (.consume, "local"), (.provide, "react"),
          (.provide, "lodash")] := by decide +kernel
  refine ⟨hitems, ?_, ((sections_read_itemwise reactProject).2 (.string "react") rfl).1⟩
  cases hds : reactProject.shared (.array mixedItems) with
  | error e => simp [hds, Except.toOption] at hkeys
  | ok ds =>
    rw [hds] at hkeys
    have hshared := ((sections_read_itemwise reactProject).1 mixedItems hitems ds).2.2
    obtain ⟨parts, hparts, hflat⟩ := hshared.mp hds
    exact ⟨ds, parts, rfl, hparts, hflat, Option.some.inj hkeys⟩

end Normalizer

end ModuleSharing
