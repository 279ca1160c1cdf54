import ModuleSharing.Bundle.Unit
import ModuleSharing.Proofs.Share.Stored

/-! Units are read back from their stored form (`SharedUnit.stored_form_round_trip`), built or not.
What a unit depends on is stored in lists that are left out when they are empty. -/

namespace ModuleSharing

open Json

/-! ## Lists that may be left out -/

namespace Json

/-- A member that is left out when the list is empty. -/
def listMember {α : Type} (key : String) (f : α → Json) (xs : List α) : List (String × Json) :=
  if xs.isEmpty then [] else [(key, .array (xs.map f))]

variable {α : Type} {f : α → Json}

theorem Record.Stored.listMember (key : String) {dec : Decoder α} (xs : List α)
    (h : ∀ x ∈ xs, decodeValue dec (f x) = .ok x) :
    (Record.defaulted key [] (.list dec)).Stored (listMember key f xs) xs := by
  cases xs with
  | nil => exact .default key []
  | cons x xs => exact .defaulted key [] (decodeValue_list h)

theorem nested_listMember {depth : Nat} (h : ∀ x, Nested depth (f x)) (key : String)
    (xs : List α) : ∀ p ∈ listMember key f xs, Nested (depth + 1) p.2 := by
  cases xs with
  | nil => exact List.forall_mem_nil _
  | cons x xs => exact List.forall_mem_singleton.mpr (nested_array h (x :: xs))

end Json

/-! ## Dependencies -/

theorem DependencyKind.decodeValue_name (kind : DependencyKind) :
    decodeValue decoder (.string kind.name) = .ok kind := by
  cases kind <;> rfl

namespace Dependency

theorem decodeValue_toJson (d : Dependency) : decodeValue decoder d.toJson = .ok d := by
  have hfields :=
    (Record.Stored.map (.required "kind" d.kind.decodeValue_name) Dependency.mk)
      |>.seq (.required "request" (decodeValue_text d.request))
  have hstored : record.Stored _ d := hfields
  exact hstored.decodes (by decide) "ModuleDependency" .ignored

theorem nested_toJson (d : Dependency) (depth : Nat) : Nested (depth + 1) d.toJson := by
  apply Nested.object
  simp only [List.forall_mem_cons]
  exact ⟨.string _ _, .string _ _, List.forall_mem_nil _⟩

end Dependency

namespace AsyncBlock

theorem decodeValue_toJson (b : AsyncBlock) : decodeValue decoder (toJson b) = .ok b := by
  have hstored : record.Stored _ b :=
    .required "dependencies" (decodeValue_list fun d _ => d.decodeValue_toJson)
  exact hstored.decodes (by decide) "AsyncBlock" .ignored

theorem nested_toJson (b : AsyncBlock) (depth : Nat) : Nested (depth + 3) (toJson b) :=
  .object (List.forall_mem_singleton.mpr (nested_array (fun d => d.nested_toJson depth) b))

end AsyncBlock

/-! ## Units -/

namespace SharedUnit

/-- The members of the stored form after the tag. -/
def members (u : SharedUnit) : List (String × Json) :=
  [("options", u.options.toJson)] ++
  optional "layer" .string u.layer ++
  optional "build_info" (fun hash => .object [("hash", .string hash)]) u.buildHash ++
  listMember "dependencies" Dependency.toJson u.dependencies ++
  listMember "blocks" AsyncBlock.toJson u.blocks

theorem toJson_eq (u : SharedUnit) :
    u.toJson = .object (("type", .string u.kind.name) :: u.members) := rfl

theorem names_record (kind : ShareKind) :
    (record kind).names = ["options", "layer", "build_info", "dependencies", "blocks"] := rfl

theorem stored {u : SharedUnit} (h : u.options.Legible) : (record u.kind).Stored u.members u := by
  have hbuild (hash : String) :=
    (Record.Stored.required "hash" (decodeValue_text hash)).decodes (by decide) "BuildInfo" .ignored
  have hfields :=
    (Record.Stored.map (.required "options" (ShareDescriptor.decodeValue_toJson h))
        (SharedUnit.mk u.kind))
      |>.seq (.optionalText "layer" u.layer)
      |>.seq (.optional "build_info" u.buildHash fun hash _ => ⟨by simp, hbuild hash⟩)
      |>.seq (.listMember "dependencies" u.dependencies fun d _ => d.decodeValue_toJson)
      |>.seq (.listMember "blocks" u.blocks fun b _ => AsyncBlock.decodeValue_toJson b)
  exact hfields

theorem decodeValue_toJson {u : SharedUnit} (h : u.options.Legible) :
    decodeValue decoder u.toJson = .ok u := by
  have hstored := stored h
  have htag : "type" ∉ u.members.map Prod.fst := by
    intro hmem
    have hname : "type" ∈ (record u.kind).names := hstored.keys.mem hmem
    rw [names_record] at hname
    contradiction
  have hkind : decodeValue (.variant ShareKind.names) (.string u.kind.name) = .ok u.kind := by
    cases u.kind <;> rfl
  have hnames : (record u.kind).names.Nodup := by
    rw [names_record]
    decide
  have hcontent := hstored.decodes hnames "SharedUnit" .ignored
  exact decodeValue_tagged htag hkind hcontent

theorem nested_toJson (u : SharedUnit) (depth : Nat) : Nested (depth + 5) u.toJson := by
  have hhash (hash : String) : Nested (depth + 4) (.object [("hash", .string hash)]) :=
    .object (List.forall_mem_singleton.mpr (.string _ hash))
  rw [toJson_eq]
  apply Nested.object
  simp only [members, List.forall_mem_append, List.forall_mem_cons, and_assoc]
  exact ⟨.string _ _, u.options.nested_toJson _, List.forall_mem_nil _,
    nested_optional (.string _) u.layer, nested_optional hhash u.buildHash,
    nested_listMember (fun d => d.nested_toJson _) _ u.dependencies,
    nested_listMember (fun b => AsyncBlock.nested_toJson b _) _ u.blocks⟩

/-- A descriptor is read back from the text of its stored form, and so is every unit with these
options, built or not: it has the same identifier, generates the same code in every chunk graph,
and needs to be built exactly if the stored one does. -/
theorem stored_form_round_trip {d : ShareDescriptor} (h : d.Legible) :
    decodeText ShareDescriptor.decoder d.toJson.compact = .ok d ∧
    ∀ u : SharedUnit, u.options = d →
      ∃ read, parse u.toJson.compact = .ok read ∧ read = u ∧ read.identifier = u.identifier ∧
        (∀ g, read.generate g = u.generate g) ∧ read.needBuild = u.needBuild := by
  constructor
  · exact decodeText_compact (d.nested_toJson 125) (ShareDescriptor.decodeValue_toJson h)
  · rintro u rfl
    have hread : parse u.toJson.compact = .ok u :=
      decodeText_compact (u.nested_toJson 122) (decodeValue_toJson h)
    exact ⟨u, hread, rfl, rfl, fun _ => rfl, rfl⟩

/-- A declaration with a version, a range, two scopes and an empty filter. -/
def react : ShareDescriptor :=
  { kind := .provide
    shareKey := "react"
    shareScope := .multiple ["default", "legacy"]
    version := .value ⟨18, 2, 0, [.textual ['r', 'c'], .numeric 1], ['x']⟩
    requiredVersion := .value ⟨[[⟨.caret, ⟨some 18, none, none, []⟩⟩]]⟩
    strictVersion := true
    fallbackResolved := some "/node_modules/react/index.js"
    request := "react \"dom\""
    includes := some {} }

theorem stored_form_round_trip_react :
    react.Legible ∧ decodeText ShareDescriptor.decoder react.toJson.compact = .ok react ∧
      ∃ read, parse (ofDescriptor react).build.toJson.compact = .ok read ∧
        read = (ofDescriptor react).build ∧ read.needBuild = false := by
  have hlegible : react.Legible := by
    constructor
    · intro v hv
      cases hv
      exact ⟨"v18.2.0-rc.1+x", rfl⟩
    · intro r hr
      cases hr
      exact ⟨"^ 18.x", rfl⟩
  obtain ⟨hdescriptor, hunits⟩ := stored_form_round_trip hlegible
  obtain ⟨read, hread, hsame, _, _, hbuild⟩ := hunits (ofDescriptor react).build rfl
  exact ⟨hlegible, hdescriptor, read, hread, hsame, hbuild⟩

end SharedUnit

end ModuleSharing
