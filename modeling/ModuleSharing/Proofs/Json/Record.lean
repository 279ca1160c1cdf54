import ModuleSharing.Json.Decode
import ModuleSharing.Proofs.Sequence

/-! What a record's members hold is read back (`Json.Record.Stored`).  A record is built field by
field, and so is the proof that it reads its members: a field takes the members written for it, and
two parts that share no name read what is written for either. -/

namespace ModuleSharing.Json

/-! ## Members -/

theorem Draft.ofItems_eq_map (xs : List Json) : Draft.ofItems xs = xs.map Draft.ofJson := by
  induction xs with
  | nil => rfl
  | cons x xs ih => simp [Draft.ofItems, ih]

theorem Draft.keys_ofMembers (members : List (String × Json)) :
    (Draft.ofMembers members).map Prod.fst = members.map Prod.fst := by
  induction members with
  | nil => rfl
  | cons p members ih => simp [Draft.ofMembers, ih]

theorem Draft.lookup_ofMembers (k : String) (members : List (String × Json)) :
    (Draft.ofMembers members).lookup k = (members.lookup k).map Draft.ofJson := by
  induction members with
  | nil => rfl
  | cons p members ih =>
    obtain ⟨l, x⟩ := p
    simp only [Draft.ofMembers, List.lookup_cons]
    cases k == l with
    | true => rfl
    | false => exact ih

mutual

/-- A value that was written without faults can be read as any value. -/
theorem exists_toJson (j : Json) : ∃ x, (Draft.ofJson j).toJson = .ok x := by
  cases j with
  | array items =>
    obtain ⟨xs, hxs⟩ := exists_toItems items
    exact ⟨.array xs, bind_eq_ok_iff.mpr ⟨xs, hxs, rfl⟩⟩
  | object members =>
    obtain ⟨xs, hxs⟩ := exists_toMembers members []
    exact ⟨.object xs, bind_eq_ok_iff.mpr ⟨xs, hxs, rfl⟩⟩
  | _ => exact ⟨_, rfl⟩
termination_by structural j

theorem exists_toItems (items : List Json) :
    ∃ xs, Draft.toItems (Draft.ofItems items) = .ok xs := by
  cases items with
  | nil => exact ⟨[], rfl⟩
  | cons j items =>
    obtain ⟨x, hx⟩ := exists_toJson j
    obtain ⟨xs, hxs⟩ := exists_toItems items
    exact ⟨x :: xs, bind_eq_ok_iff.mpr ⟨x, hx, bind_eq_ok_iff.mpr ⟨xs, hxs, rfl⟩⟩⟩
termination_by structural items

theorem exists_toMembers (members : List (String × Json)) (known : List (String × Json)) :
    ∃ xs, Draft.toMembers known (Draft.ofMembers members) = .ok xs := by
  match members with
  | [] => exact ⟨known, rfl⟩
  | (k, j) :: members =>
    obtain ⟨x, hx⟩ := exists_toJson j
    obtain ⟨xs, hxs⟩ := exists_toMembers members (setMember k x known)
    exact ⟨xs, bind_eq_ok_iff.mpr ⟨x, hx, hxs⟩⟩
termination_by structural members

end

/-! ## Decoders -/

theorem exists_any (j : Json) : ∃ x, decodeValue Decoder.any j = .ok x := by
  obtain ⟨x, hx⟩ := exists_toJson j
  exact ⟨x, mapError_eq_ok_iff.mpr hx⟩

/-- Of several forms the first that fits counts. -/
theorem decodeValue_choice {α : Type} {name : String} {forms : List (Decoder α)} {j : Json} {a : α}
    (h : (forms.findSome? fun form => (decodeValue form j).toOption) = some a) :
    decodeValue (.choice name forms) j = .ok a := by
  obtain ⟨x, hx⟩ := exists_any j
  unfold decodeValue at h hx ⊢
  simp only [Decoder.choice, hx, h]
  rfl

theorem decodeValue_text (s : String) : decodeValue Decoder.text (.string s) = .ok s := rfl

theorem decodeValue_bool (b : Bool) : decodeValue Decoder.bool (.bool b) = .ok b := rfl

theorem decodeValue_list {α : Type} {dec : Decoder α} {f : α → Json} {xs : List α}
    (h : ∀ x ∈ xs, decodeValue dec (f x) = .ok x) :
    decodeValue (.list dec) (.array (xs.map f)) = .ok xs := by
  have hitems : (Draft.ofItems (xs.map f)).mapM dec = .ok xs := by
    rw [Draft.ofItems_eq_map, mapM_eq_ok_iff, List.map_map, List.forall₂_map_left_iff,
      List.forall₂_same]
    exact h
  exact bind_eq_ok_iff.mpr ⟨xs, hitems, rfl⟩

theorem decodeValue_members {α : Type} {dec : Decoder α} {f : α → Json} {pairs : List (String × α)}
    (h : ∀ p ∈ pairs, decodeValue dec (f p.2) = .ok p.2) :
    decodeValue (.members dec) (.object (pairs.map fun p => (p.1, f p.2))) = .ok pairs := by
  have hmembers : (Draft.ofMembers (pairs.map fun p => (p.1, f p.2))).mapM
      (fun m => do .ok (m.1, ← dec m.2)) = .ok pairs := by
    rw [mapM_eq_ok_iff]
    induction pairs with
    | nil => exact .nil
    | cons p pairs ih =>
      obtain ⟨hfirst, hrest⟩ := List.forall_mem_cons.mp h
      exact .cons (bind_eq_ok_iff.mpr ⟨p.2, hfirst, rfl⟩) (ih hrest)
  exact bind_eq_ok_iff.mpr ⟨pairs, hmembers, rfl⟩

theorem decodeValue_nullable {α : Type} {dec : Decoder α} {j : Json} {a : α} (hnull : j ≠ .null)
    (h : decodeValue dec j = .ok a) : decodeValue (.nullable dec) j = .ok (some a) := by
  unfold decodeValue at h ⊢
  cases j with
  | null => contradiction
  | _ => exact congrArg (Except.map some) h

/-! ## Fields -/

/-- What a field has to find among the members of an object. -/
def Field.Finds (f : Field) (members : List (String × Json)) : Prop :=
  match members.lookup f.name with
  | some j => f.check (.ofJson j) = .ok ()
  | none => f.absence ≠ .required

namespace Record

variable {α β : Type}

def names (r : Record α) : List String := r.fields.map Field.name

theorem names_seq (f : Record (α → β)) (x : Record α) : (f <*> x).names = f.names ++ x.names :=
  List.map_append ..

/-- The members hold `a` for a record: they stand in the order of its fields, and it reads `a` from
any members that hold the same under its names, as long as no two fields share one. -/
structure Stored (r : Record α) (members : List (String × Json)) (a : α) : Prop where
  keys : (members.map Prod.fst).Sublist r.names
  reads : r.names.Nodup → ∀ all : List (String × Json),
    (∀ name ∈ r.names, all.lookup name = members.lookup name) →
      (∀ f ∈ r.fields, f.Finds all) ∧ r.build (Draft.ofMembers all) = .ok a

theorem checkMembers_ok {fields : List Field} {all members : List (String × Json)}
    (hfinds : ∀ f ∈ fields, f.Finds all) (hkeys : (members.map Prod.fst).Nodup)
    (hknown : ∀ p ∈ members, p.1 ∈ fields.map Field.name)
    (hall : ∀ p ∈ members, all.lookup p.1 = some p.2) (extra : Extra) {seen : List String}
    (hseen : ∀ p ∈ members, p.1 ∉ seen) :
    checkMembers fields extra seen (Draft.ofMembers members) = .ok () := by
  induction members generalizing seen with
  | nil => rfl
  | cons p members ih =>
    obtain ⟨k, j⟩ := p
    rw [List.map_cons, List.nodup_cons] at hkeys
    obtain ⟨f, hf, hname⟩ := List.mem_map.mp (hknown (k, j) (List.mem_cons_self ..))
    cases hfind : fields.find? fun f => f.name == k with
    | none =>
      have := List.find?_eq_none.mp hfind f hf
      simp [hname] at this
    | some g =>
      have hg : g.name = k := by simpa using List.find?_some hfind
      have hcheck : g.check (.ofJson j) = .ok () := by
        have := hfinds g (List.mem_of_find?_eq_some hfind)
        rwa [Field.Finds, hg, hall (k, j) (List.mem_cons_self ..)] at this
      have hnew : ¬ seen.contains k := by
        simpa using hseen (k, j) (List.mem_cons_self ..)
      have hrest : checkMembers fields extra (k :: seen) (Draft.ofMembers members) = .ok () := by
        apply ih hkeys.2
        · intro q hq
          exact hknown q (List.mem_cons_of_mem _ hq)
        · intro q hq
          exact hall q (List.mem_cons_of_mem _ hq)
        · intro q hq hmem
          rcases List.mem_cons.mp hmem with heq | hmem
          · have hrepeated : q.1 ∈ members.map Prod.fst := List.mem_map_of_mem hq
            exact hkeys.1 (heq ▸ hrepeated)
          · exact hseen q (List.mem_cons_of_mem _ hq) hmem
      simp only [Draft.ofMembers, checkMembers, hfind]
      rw [if_neg hnew]
      exact bind_eq_ok_iff.mpr ⟨(), hcheck, hrest⟩

theorem checkPresent_ok {fields : List Field} {members : List (String × Json)}
    (h : ∀ f ∈ fields, f.Finds members) :
    checkPresent fields (Draft.ofMembers members) = .ok () := by
  have hnone : (fields.find? fun f =>
      f.absence = .required && ((Draft.ofMembers members).lookup f.name).isNone) = none := by
    rw [List.find?_eq_none]
    intro f hf
    have hfinds := h f hf
    rw [Field.Finds] at hfinds
    rw [Draft.lookup_ofMembers]
    cases hlookup : members.lookup f.name with
    | none =>
      rw [hlookup] at hfinds
      simpa using hfinds
    | some j => simp
  rw [checkPresent, hnone]

/-- Members with different keys are found under their keys. -/
theorem lookup_of_mem {members : List (String × Json)} (h : (members.map Prod.fst).Nodup)
    {p : String × Json} (hp : p ∈ members) : members.lookup p.1 = some p.2 := by
  induction members with
  | nil => contradiction
  | cons q members ih =>
    obtain ⟨k, j⟩ := q
    rw [List.map_cons, List.nodup_cons] at h
    rcases List.mem_cons.mp hp with rfl | hmem
    · exact List.lookup_cons_self
    · have hne : p.1 ≠ k := by
        intro heq
        have hrepeated : p.1 ∈ members.map Prod.fst := List.mem_map_of_mem hmem
        exact h.1 (heq ▸ hrepeated)
      rw [List.lookup_cons, beq_false_of_ne hne]
      exact ih h.2 hmem

theorem lookup_of_not_mem {members : List (String × Json)} {k : String}
    (h : k ∉ members.map Prod.fst) : members.lookup k = none := by
  rw [List.lookup_eq_none_iff]
  intro p hp
  rw [bne_iff_ne]
  rintro rfl
  exact h (List.mem_map_of_mem hp)

namespace Stored

theorem ofObject {r : Record α} {members : List (String × Json)} {a : α}
    (h : r.Stored members a) (hnames : r.names.Nodup) (extra : Extra) :
    r.ofObject extra (Draft.ofMembers members) none = .ok a := by
  obtain ⟨hfinds, hbuild⟩ := h.reads hnames members fun _ _ => rfl
  have hkeys := h.keys.nodup hnames
  have hcheck : checkMembers r.fields extra [] (Draft.ofMembers members) = .ok () := by
    apply checkMembers_ok hfinds hkeys
    · intro p hp
      exact h.keys.mem (List.mem_map_of_mem hp)
    · intro p hp
      exact lookup_of_mem hkeys hp
    · intro p hp
      exact List.not_mem_nil
  exact bind_eq_ok_iff.mpr ⟨(), hcheck, bind_eq_ok_iff.mpr ⟨(), rfl,
    bind_eq_ok_iff.mpr ⟨(), checkPresent_ok hfinds, hbuild⟩⟩⟩

/-- A record reads its members from an object. -/
theorem decodes {r : Record α} {members : List (String × Json)} {a : α}
    (h : r.Stored members a) (hnames : r.names.Nodup) (name : String) (extra : Extra) :
    decodeValue (r.decoder name extra) (.object members) = .ok a :=
  h.ofObject hnames extra

theorem pure (a : α) : (Pure.pure a : Record α).Stored [] a where
  keys := List.Sublist.refl _
  reads _ _ _ := ⟨List.forall_mem_nil _, rfl⟩

theorem seq {f : Record (α → β)} {x : Record α} {xs ys : List (String × Json)} {g : α → β} {a : α}
    (hf : f.Stored xs g) (hx : x.Stored ys a) : (f <*> x).Stored (xs ++ ys) (g a) where
  keys := by
    rw [List.map_append, names_seq]
    exact hf.keys.append hx.keys
  reads hnodup all hall := by
    rw [names_seq] at hnodup hall
    obtain ⟨hfnodup, hxnodup, hapart⟩ := List.nodup_append.mp hnodup
    have hleft : ∀ name ∈ f.names, all.lookup name = xs.lookup name := by
      intro name hname
      have hother : ys.lookup name = none := by
        apply lookup_of_not_mem
        intro hmem
        exact hapart name hname name (hx.keys.mem hmem) rfl
      rw [hall name (List.mem_append_left _ hname), List.lookup_append, hother, Option.or_none]
    have hright : ∀ name ∈ x.names, all.lookup name = ys.lookup name := by
      intro name hname
      have hother : xs.lookup name = none := by
        apply lookup_of_not_mem
        intro hmem
        exact hapart name (hf.keys.mem hmem) name hname rfl
      rw [hall name (List.mem_append_right _ hname), List.lookup_append, hother, Option.none_or]
    obtain ⟨hffinds, hfbuild⟩ := hf.reads hfnodup all hleft
    obtain ⟨hxfinds, hxbuild⟩ := hx.reads hxnodup all hright
    exact ⟨List.forall_mem_append.mpr ⟨hffinds, hxfinds⟩,
      bind_eq_ok_iff.mpr ⟨g, hfbuild, bind_eq_ok_iff.mpr ⟨a, hxbuild, rfl⟩⟩⟩

theorem map {x : Record α} {members : List (String × Json)} {a : α} (h : x.Stored members a)
    (g : α → β) : (g <$> x).Stored members (g a) :=
  (Stored.pure g).seq h

section Field

variable {r : Record α} (name : String) {absence : Absence} {absent : Except DecodeError α}
  {dec : Decoder α} {a : α}

/-- A record of one field reads the member with its name. -/
theorem given (hfields : r.fields = [⟨name, absence, fun d => (dec d).map fun _ => ()⟩])
    (hbuild : ∀ members, r.build members =
      match members.lookup name with | some d => dec d | none => absent)
    {j : Json} (h : decodeValue dec j = .ok a) : r.Stored [(name, j)] a where
  keys := by simp [names, hfields]
  reads _ all hall := by
    have hlookup : all.lookup name = some j := by
      rw [hall name (by simp [names, hfields])]
      exact List.lookup_cons_self
    constructor
    · rw [hfields, List.forall_mem_singleton, Field.Finds, hlookup]
      exact congrArg (Except.map fun _ => ()) h
    · rw [hbuild, Draft.lookup_ofMembers, hlookup]
      exact h

/-- A record of one field does without the member if that need not be there. -/
theorem skipped (hfields : r.fields = [⟨name, absence, fun d => (dec d).map fun _ => ()⟩])
    (hbuild : ∀ members, r.build members =
      match members.lookup name with | some d => dec d | none => absent)
    (hallowed : absence ≠ .required) (h : absent = .ok a) : r.Stored [] a where
  keys := List.nil_sublist _
  reads _ all hall := by
    have hlookup : all.lookup name = none := hall name (by simp [names, hfields])
    constructor
    · rw [hfields, List.forall_mem_singleton, Field.Finds, hlookup]
      exact hallowed
    · rw [hbuild, Draft.lookup_ofMembers, hlookup]
      exact h

theorem required {j : Json} (h : decodeValue dec j = .ok a) :
    (Record.required name dec).Stored [(name, j)] a :=
  given name rfl (fun _ => rfl) h

theorem defaulted (default : α) {j : Json} (h : decodeValue dec j = .ok a) :
    (Record.defaulted name default dec).Stored [(name, j)] a :=
  given name rfl (fun _ => rfl) h

theorem default (default : α) : (Record.defaulted name default dec).Stored [] default :=
  skipped name rfl (fun _ => rfl) (by decide) rfl

theorem optional {f : α → Json} (o : Option α)
    (h : ∀ a, o = some a → f a ≠ .null ∧ decodeValue dec (f a) = .ok a) :
    (Record.optional name dec).Stored (Json.optional name f o) o := by
  cases o with
  | none => exact default name none
  | some a =>
    obtain ⟨hnull, ha⟩ := h a rfl
    exact defaulted name none (decodeValue_nullable hnull ha)

end Field

theorem optionalText (name : String) (o : Option String) :
    (Record.optional name .text).Stored (Json.optional name .string o) o :=
  optional name o fun s _ => ⟨by simp, decodeValue_text s⟩

end Stored

end Record

/-! ## Tagged records -/

theorem findTag_of_not_mem {τ : Type} {key : String} {tag : Decoder τ} {found : Option τ}
    {members : List (String × Json)} (h : key ∉ members.map Prod.fst) :
    findTag key tag found (Draft.ofMembers members) = .ok found := by
  induction members with
  | nil => rfl
  | cons p members ih =>
    obtain ⟨k, j⟩ := p
    rw [List.map_cons, List.mem_cons, not_or] at h
    obtain ⟨x, hx⟩ := exists_any j
    have hother : ¬ (k == key) := by simpa using Ne.symm h.1
    rw [Draft.ofMembers, findTag, if_neg hother]
    exact bind_eq_ok_iff.mpr ⟨x, hx, ih h.2⟩

/-- A tagged record whose tag stands first is read as the record that the tag stands for. -/
theorem decodeValue_tagged {τ α : Type} {key : String} {tag : Decoder τ} {content : τ → Decoder α}
    {members : List (String × Json)} (hkey : key ∉ members.map Prod.fst) {j : Json} {t : τ}
    (ht : decodeValue tag j = .ok t) {a : α}
    (h : decodeValue (content t) (.object members) = .ok a) :
    decodeValue (.tagged key tag content) (.object ((key, j) :: members)) = .ok a := by
  have hfound : findTag key tag none (Draft.ofMembers ((key, j) :: members)) = .ok (some t) := by
    rw [Draft.ofMembers, findTag, if_pos (beq_self_eq_true key)]
    exact bind_eq_ok_iff.mpr ⟨t, ht, findTag_of_not_mem hkey⟩
  have hothers : (Draft.ofMembers ((key, j) :: members)).filter (fun m => m.1 != key) =
      Draft.ofMembers members := by
    rw [Draft.ofMembers, List.filter_cons_of_neg (by simp), List.filter_eq_self]
    intro m hm
    rw [bne_iff_ne]
    rintro rfl
    rw [← Draft.keys_ofMembers] at hkey
    exact hkey (List.mem_map_of_mem hm)
  refine bind_eq_ok_iff.mpr ⟨some t, hfound, bind_eq_ok_iff.mpr ⟨(), rfl, ?_⟩⟩
  have hsettled : settledDecoder (content t) (.object (Draft.ofMembers members) none) = .ok a :=
    mapError_eq_ok_iff.mpr h
  simp only [hothers]
  exact hsettled

end ModuleSharing.Json
