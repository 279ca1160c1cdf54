import ModuleSharing.Proofs.Child.Merging
import ModuleSharing.Proofs.Share.Pairing

/-! What a child build shares.  The section `shared` of a child is a map, into which the section of
the configuration is turned first; a section for which that map stands (`KeyedSection`) is read like
it (`Normalizer.shared_sharedMembers`).  The child then shares what the configuration shares and,
unless told otherwise, the framework's modules under keys that are not declared
(`ChildSpec.derive_keeps_shares`).  A list that holds a map is no such section: the map is left out
(`ChildSpec.derive_drops_listed_map`). -/

namespace ModuleSharing

open Json

/-! ## Sections as maps -/

/-- A request that is taken for a request also where it is the value of its own package. -/
def ReadsAsRequest (request : String) : Prop :=
  request = keyOfRequest request ∨ VersionRange.looksLikeOne request = false

/-- A section `shared` that a map from keys stands for. -/
inductive KeyedSection : Json → Prop
  | map {members : List (String × Json)} (h : (members.map Prod.fst).Nodup) :
    KeyedSection (.object members)
  | request {request : String} (h : ReadsAsRequest request) : KeyedSection (.string request)
  /-- Requests for packages that are all different. -/
  | requests {requests : List String} (h : ∀ r ∈ requests, ReadsAsRequest r)
    (hkeys : (requests.map keyOfRequest).Nodup) : KeyedSection (.array (requests.map .string))

namespace ChildSpec

theorem strings_map_string (requests : List String) :
    strings (requests.map .string) = requests := by
  induction requests with
  | nil => rfl
  | cons r requests ih => exact congrArg (r :: ·) ih

theorem keys_map_requestEntry (requests : List String) :
    (requests.map requestEntry).map Prod.fst = requests.map keyOfRequest := by
  rw [List.map_map]
  rfl

theorem sharedMembers_requests {requests : List String}
    (hkeys : (requests.map keyOfRequest).Nodup) :
    sharedMembers (some (.array (requests.map .string))) = requests.map requestEntry := by
  rw [sharedMembers, strings_map_string]
  exact mergeMembers_of_disjoint (by rwa [keys_map_requestEntry]) fun _ _ => List.not_mem_nil

theorem nodup_sharedMembers {shared : Option Json} (h : ∀ x, shared = some x → KeyedSection x) :
    ((sharedMembers shared).map Prod.fst).Nodup := by
  cases shared with
  | none => exact List.nodup_nil
  | some x =>
    cases h x rfl with
    | map hkeys => exact hkeys
    | request => exact List.pairwise_singleton _ _
    | requests _ hkeys => rwa [sharedMembers_requests hkeys, keys_map_requestEntry]

end ChildSpec

namespace Normalizer

variable (n : Normalizer)

/-! ## Reading the map -/

theorem shared_congr {x y : Json} (h : declarations x = declarations y) :
    n.shared x = n.shared y := by
  have hshared (z : Json) : n.shared z = declarations z >>= fun declared =>
      declared.mapM (fun p => n.consume p.1 (sharedConsume p.2)) >>= fun consumed =>
        (declared.filter fun p => isProvided p.2).mapM (fun p =>
          n.provide (sharedProvide p.1 p.2).1 (sharedProvide p.1 p.2).2) >>= fun provided =>
            pure (consumed ++ provided) := by
    unfold shared declarations
    cases sectionEntries "shared" z <;> rfl
  rw [hshared, hshared, h]

/-- The declaration that a request alone is. -/
def requestDeclaration (request : String) : String × SharedOptions :=
  (keyOfRequest request, { import_ := some (.text request) })

theorem sharedEntry_requestEntry {request : String} (h : ReadsAsRequest request) :
    sharedEntry (.keyed (keyOfRequest request) request) = .ok (requestDeclaration request) := by
  have hrequest :
      (request != keyOfRequest request && VersionRange.looksLikeOne request) = false := by
    rcases h with h | h
    · rw [← h]
      simp
    · rw [h, Bool.and_false]
  rw [sharedEntry, hrequest]
  rfl

theorem declarations_requests (requests : List String) :
    declarations (.array (requests.map .string)) = .ok (requests.map requestDeclaration) := by
  have hitems : (requests.map Json.string).mapM (itemEntries "shared") =
      .ok (requests.map fun r => [.request r]) := mapM_map_eq_ok fun _ _ => rfl
  have hflat : (requests.map fun r => [ShareEntry.request r]).flatten = requests.map .request := by
    rw [← List.flatMap_def, ← List.map_eq_flatMap]
  have hentries : sectionEntries "shared" (.array (requests.map .string)) =
      .ok (requests.map .request) := bind_eq_ok_iff.mpr ⟨_, hitems, congrArg Except.ok hflat⟩
  exact bind_eq_ok_iff.mpr ⟨_, hentries, mapM_map_eq_ok fun _ _ => rfl⟩

theorem declarations_requestEntries {requests : List String} (h : ∀ r ∈ requests, ReadsAsRequest r) :
    declarations (.object (requests.map ChildSpec.requestEntry)) =
      .ok (requests.map requestDeclaration) := by
  have hentries : sectionEntries "shared" (.object (requests.map ChildSpec.requestEntry)) =
      .ok (requests.map fun r => .keyed (keyOfRequest r) r) := mapM_map_eq_ok fun _ _ => rfl
  exact bind_eq_ok_iff.mpr
    ⟨_, hentries, mapM_map_eq_ok fun r hr => sharedEntry_requestEntry (h r hr)⟩

/-- A section is read like the map that stands for it. -/
theorem shared_sharedMembers {x : Json} (h : KeyedSection x) :
    n.shared (.object (ChildSpec.sharedMembers (some x))) = n.shared x := by
  cases h with
  | map => rfl
  | @request r h =>
    have hmap : declarations (.object [ChildSpec.requestEntry r]) = .ok [requestDeclaration r] :=
      @declarations_requestEntries [r] (List.forall_mem_singleton.mpr h)
    exact n.shared_congr hmap
  | @requests rs h hkeys =>
    rw [ChildSpec.sharedMembers_requests hkeys]
    refine n.shared_congr ?_
    rw [declarations_requestEntries h, declarations_requests]

/-! ## Members in any order -/

theorem piecewise_sharedConsumes : Piecewise fun members => n.sharedConsumes (.object members) :=
  (Piecewise.mapM (mapEntry "shared")).bind ((Piecewise.mapM sharedEntry).bind
    (.mapM fun p : String × SharedOptions => n.consume p.1 (sharedConsume p.2)))

theorem piecewise_sharedProvides : Piecewise fun members => n.sharedProvides (.object members) :=
  (Piecewise.mapM (mapEntry "shared")).bind ((Piecewise.mapM sharedEntry).bind (Piecewise.filter
    (.mapM fun p : String × SharedOptions =>
      n.provide (sharedProvide p.1 p.2).1 (sharedProvide p.1 p.2).2)
    fun p => isProvided p.2))

theorem shared_object_of_perm {members members' : List (String × Json)}
    (h : members.Perm members') {ds : List ShareDescriptor}
    (hds : n.shared (.object members) = .ok ds) :
    ∃ ds', n.shared (.object members') = .ok ds' ∧ ds.Perm ds' := by
  obtain ⟨consumed, provided, hconsumed, hprovided, rfl⟩ := (n.shared_eq_ok_iff _ _).mp hds
  obtain ⟨consumed', hconsumed', hconsumes⟩ := n.piecewise_sharedConsumes.perm h hconsumed
  obtain ⟨provided', hprovided', hprovides⟩ := n.piecewise_sharedProvides.perm h hprovided
  exact ⟨consumed' ++ provided', n.shared_append_ok hconsumed' hprovided',
    hconsumes.append hprovides⟩

theorem shared_object_append {first second : List (String × Json)} {ds es : List ShareDescriptor}
    (hfirst : n.shared (.object first) = .ok ds) (hsecond : n.shared (.object second) = .ok es) :
    ∃ all, n.shared (.object (first ++ second)) = .ok all ∧ all.Perm (ds ++ es) := by
  obtain ⟨consumed, provided, hconsumed, hprovided, rfl⟩ := (n.shared_eq_ok_iff _ _).mp hfirst
  obtain ⟨consumed', provided', hconsumed', hprovided', rfl⟩ := (n.shared_eq_ok_iff _ _).mp hsecond
  refine ⟨(consumed ++ consumed') ++ (provided ++ provided'), n.shared_append_ok
    ((n.piecewise_sharedConsumes.append _ _ _).mpr ⟨_, _, hconsumed, hconsumed', rfl⟩)
    ((n.piecewise_sharedProvides.append _ _ _).mpr ⟨_, _, hprovided, hprovided', rfl⟩), ?_⟩
  -- only the inner two of the four lists change places
  simp only [List.append_assoc]
  refine List.Perm.append_left consumed ?_
  simp only [← List.append_assoc]
  exact List.perm_append_comm.append_right provided'

/-! ## Framework modules -/

/-- The descriptor of a framework module. -/
def frameworkShare (scope : ShareScope) (key : String) : ShareDescriptor :=
  { ShareDescriptor.consume key with
    shareScope := scope, requiredVersion := .disabled, singleton := true }

/-- The options of a framework module once they are read. -/
def readFrameworkOptions : SharedOptions where
  import_ := some (.flag false)
  requiredVersion := some (.flag false)
  singleton := some true

theorem declarations_framework (keys : List String) :
    declarations (.object (keys.map fun key => (key, ChildSpec.frameworkOptions))) =
      .ok (keys.map fun key => (key, readFrameworkOptions)) :=
  bind_eq_ok_iff.mpr ⟨_, mapM_map_eq_ok fun _ _ => rfl, mapM_map_eq_ok fun _ _ => rfl⟩

/-- Framework modules are consumed and not provided. -/
theorem shared_framework (keys : List String) :
    n.shared (.object (keys.map fun key => (key, ChildSpec.frameworkOptions))) =
      .ok (keys.map (frameworkShare n.shareScope)) := by
  have hprovided : (keys.map fun key => (key, readFrameworkOptions)).filter
      (fun p => !p.2.noImport) = [] := by
    rw [List.filter_eq_nil_iff, List.forall_mem_map]
    exact fun _ _ => Bool.false_ne_true
  obtain ⟨entries, hentries, hdeclared⟩ := bind_eq_ok_iff.mp (declarations_framework keys)
  refine (n.shared_eq_ok_iff _ _).mpr ⟨keys.map (frameworkShare n.shareScope), [],
    bind_eq_ok_iff.mpr ⟨entries, hentries, bind_eq_ok_iff.mpr ⟨_, hdeclared, ?_⟩⟩,
    bind_eq_ok_iff.mpr ⟨entries, hentries, bind_eq_ok_iff.mpr ⟨_, hdeclared, ?_⟩⟩,
    (List.append_nil _).symm⟩
  · exact mapM_map_eq_ok fun _ _ => rfl
  · rw [filter_isProvided, hprovided]
    rfl

end Normalizer

namespace ChildSpec

variable (f : Federation)

/-! ## The section of a child -/

/-- The keys of the map under which a configuration declares shares in its section `shared`.  They
are requests: the key under which an entry is shared may be another one. -/
def declaredKeys : List String := (sharedMembers f.shared).map Prod.fst

/-- The framework modules that a child gets on top of what its configuration shares.  Only a key of
the section `shared` keeps one out: an entry with the option `shareKey` or one of the section
`consumes` may share the same module a second time. -/
def addedShares : List ShareDescriptor :=
  if f.skipSharingNextInternals then []
  else (frameworkShares.filter fun key => key ∉ declaredKeys f).map
    (Normalizer.frameworkShare (f.shareScope.getD .standard))

variable {f}

theorem childShared_of_skip (h : f.skipSharingNextInternals = true)
    (hkeys : (declaredKeys f).Nodup) : childShared f = sharedMembers f.shared := by
  rw [childShared, if_pos h, mergeMembers_of_disjoint hkeys fun _ _ => List.not_mem_nil,
    List.nil_append]

theorem perm_childShared (h : f.skipSharingNextInternals = false) (hkeys : (declaredKeys f).Nodup) :
    (childShared f).Perm
      ((frameworkShares.filter fun key => key ∉ declaredKeys f).map (·, frameworkOptions) ++
        sharedMembers f.shared) := by
  have hframework : (frameworkShares.map fun key => (key, frameworkOptions)).map Prod.fst =
      frameworkShares := by
    rw [List.map_map]
    exact List.map_id _
  have hnodup : frameworkShares.Nodup := by decide
  rw [← hframework] at hnodup
  have hmerged := perm_mergeMembers hnodup hkeys
  rw [List.filter_map] at hmerged
  rw [childShared, if_neg (by simp [h])]
  exact hmerged

/-- The declarations of the configuration, read from the map that the child has. -/
theorem shared_of_keyed (n : Normalizer) {ds : List ShareDescriptor}
    (hkeyed : ∀ x, f.shared = some x → KeyedSection x)
    (h : f.shared.elim (.ok []) n.shared = .ok ds) :
    n.shared (.object (sharedMembers f.shared)) = .ok ds := by
  cases hshared : f.shared with
  | none =>
    rw [hshared] at h
    exact h
  | some x =>
    rw [hshared] at h
    rw [n.shared_sharedMembers (hkeyed x hshared)]
    exact h

theorem exists_shared_childShared (n : Normalizer)
    (hscope : n.shareScope = f.shareScope.getD .standard)
    {ds : List ShareDescriptor} (hkeyed : ∀ x, f.shared = some x → KeyedSection x)
    (h : f.shared.elim (.ok []) n.shared = .ok ds) :
    ∃ child, n.shared (.object (childShared f)) = .ok child ∧ child.Perm (ds ++ addedShares f) ∧
      (f.skipSharingNextInternals = true → child = ds) := by
  have hkeys : (declaredKeys f).Nodup := nodup_sharedMembers hkeyed
  have hown := shared_of_keyed n hkeyed h
  cases hskip : f.skipSharingNextInternals with
  | true =>
    refine ⟨ds, ?_, ?_, fun _ => rfl⟩
    · rw [childShared_of_skip hskip hkeys]
      exact hown
    · rw [addedShares, if_pos hskip, List.append_nil]
  | false =>
    have hframework := n.shared_framework (frameworkShares.filter fun key => key ∉ declaredKeys f)
    obtain ⟨all, hall, hsplit⟩ := n.shared_object_append hframework hown
    obtain ⟨child, hchild, hperm⟩ := n.shared_object_of_perm (perm_childShared hskip hkeys).symm hall
    refine ⟨child, hchild, ?_, fun hfalse => by contradiction⟩
    rw [addedShares, if_neg (by simp [hskip]), ← hscope]
    exact (hperm.symm.trans hsplit).trans List.perm_append_comm

/-- The child of a configuration whose section `shared` is kept by keys can be read as the
configuration can, for any parent build in the same folder.  Its descriptors are those of the
configuration, each as often, and those of the framework modules under keys that the section does
not declare; if the framework's modules are not to be shared, they are the configuration's own. -/
theorem derive_keeps_shares {f : Federation} {parent : ParentBuild} {files : Files} (stamp : Nat)
    {ds : List ShareDescriptor} (hkeyed : ∀ x, f.shared = some x → KeyedSection x)
    (h : f.normalize files parent.contextDir = .ok ds) :
    ∃ child, (derive parent f stamp).normalize files = .ok child ∧
      child.Perm (ds ++ addedShares f) ∧ (f.skipSharingNextInternals = true → child = ds) := by
  obtain ⟨consumed, hconsumed, h⟩ := bind_eq_ok_iff.mp h
  obtain ⟨provided, hprovided, h⟩ := bind_eq_ok_iff.mp h
  obtain ⟨shared, hshared, h⟩ := bind_eq_ok_iff.mp h
  cases h
  obtain ⟨child, hchild, hperm, hskip⟩ :=
    exists_shared_childShared (f.normalizer files parent.contextDir) rfl hkeyed hshared
  refine ⟨consumed ++ provided ++ child, ?_, ?_, fun h => by rw [hskip h]⟩
  · exact bind_eq_ok_iff.mpr ⟨consumed, hconsumed, bind_eq_ok_iff.mpr ⟨provided, hprovided,
      bind_eq_ok_iff.mpr ⟨child, hchild, rfl⟩⟩⟩
  · rw [List.append_assoc (consumed ++ provided)]
    exact hperm.append_left _

/-- A project without any files. -/
def emptyProject : Files := { root := .folder [], here := "/app" }

/-- A development build of the client. -/
def clientBuild : ParentBuild := .ofProject "client" .development "/app"

/-- A configuration that declares one framework module and one other. -/
def shop : Federation where
  shared := some (.object [("react", .object [("singleton", .bool true)]),
    ("lodash", .string "lodash/fp")])

theorem derive_keeps_shares_shop :
    (∀ x, shop.shared = some x → KeyedSection x) ∧
    ∃ ds child, shop.normalize emptyProject clientBuild.contextDir = .ok ds ∧
      (derive clientBuild shop 0).normalize emptyProject = .ok child ∧
      child.Perm (ds ++ addedShares shop) ∧ ds.length = 4 ∧ (addedShares shop).length = 10 := by
  have hkeyed : ∀ x, shop.shared = some x → KeyedSection x := by
    intro x hx
    cases hx
    exact .map (by decide)
  have hlength : (shop.normalize emptyProject clientBuild.contextDir).toOption.map List.length =
      some 4 := by decide +kernel
  obtain ⟨ds, hds, hlength⟩ := exists_ok_of_toOption hlength
  obtain ⟨child, hchild, hperm, _⟩ := derive_keeps_shares 0 hkeyed hds
  exact ⟨hkeyed, ds, child, hds, hchild, hperm, hlength, by decide +kernel⟩

/-- A list of a request and a map. -/
def mixedShop : Federation where
  shared := some (.array
    [.string "lodash", .object [("react", .object [("singleton", .bool true)])]])
  skipSharingNextInternals := true

/-- What a map in a list declares does not get to the child. -/
theorem derive_drops_listed_map :
    ∃ ds child, mixedShop.normalize emptyProject clientBuild.contextDir = .ok ds ∧
      (derive clientBuild mixedShop 0).normalize emptyProject = .ok child ∧
      (∃ d ∈ ds, d.shareKey = "react") ∧ ∀ d ∈ child, d.shareKey ≠ "react" := by
  have hown : (mixedShop.normalize emptyProject clientBuild.contextDir).toOption.map
      (List.map ShareDescriptor.shareKey) = some ["lodash", "react", "lodash", "react"] := by
    decide +kernel
  have hchild : ((derive clientBuild mixedShop 0).normalize emptyProject).toOption.map
      (List.map ShareDescriptor.shareKey) = some ["lodash", "lodash"] := by decide +kernel
  obtain ⟨ds, hds, hkeys⟩ := exists_ok_of_toOption hown
  obtain ⟨child, hchild, hchildKeys⟩ := exists_ok_of_toOption hchild
  have hreact : "react" ∈ ds.map ShareDescriptor.shareKey := by
    rw [hkeys]
    decide
  have hnone : "react" ∉ child.map ShareDescriptor.shareKey := by
    rw [hchildKeys]
    decide
  exact ⟨ds, child, hds, hchild, List.mem_map.mp hreact,
    fun d hd heq => hnone (List.mem_map.mpr ⟨d, hd, heq⟩)⟩

end ChildSpec

end ModuleSharing
