import ModuleSharing.Share.Descriptor
import ModuleSharing.Proofs.Json.Reading
import ModuleSharing.Proofs.Json.Record
import ModuleSharing.Proofs.Range.Canonical
import ModuleSharing.Proofs.Version.Reading

/-! A descriptor is read back from its stored form (`ShareDescriptor.decodeValue_toJson`).  The
versions and ranges that it holds have to be ones that were read, since those are read again from
their texts; those of a configuration are (`Federation.legible_of_normalize`). -/

namespace ModuleSharing

open Json

/-! ## Settings -/

namespace TextOrFlag

theorem decodeValue_flag (name : String) (b : Bool) :
    decodeValue (decoder name) (.bool b) = .ok (.flag b) :=
  decodeValue_choice rfl

theorem decodeValue_text (name s : String) :
    decodeValue (decoder name) (.string s) = .ok (.text s) :=
  decodeValue_choice rfl

end TextOrFlag

namespace Setting

variable {α : Type} {parse : String → Except VersionError α}

theorem decodeValue_disabled :
    decodeValue (Setting.decoder parse) (.bool false) = .ok .disabled := by
  have hflag := decodeValue_nullable (by simp) (TextOrFlag.decodeValue_flag "Raw" false)
  exact bind_eq_ok_iff.mpr ⟨_, hflag, rfl⟩

theorem decodeValue_value {s : String} {a : α} (h : parse s = .ok a) :
    decodeValue (Setting.decoder parse) (.string s) = .ok (.value a) := by
  have htext := decodeValue_nullable (by simp) (TextOrFlag.decodeValue_text "Raw" s)
  refine bind_eq_ok_iff.mpr ⟨_, htext, ?_⟩
  simp only [h]

/-- A setting is read back if the text of its value is. -/
theorem stored {text : α → String} {setting : Setting α} (key : String)
    (h : ∀ a, setting = .value a → parse (text a) = .ok a) :
    (Record.defaulted key .unset (Setting.decoder parse)).Stored (setting.member key text)
      setting := by
  cases setting with
  | unset => exact .default key unset
  | disabled => exact .defaulted key unset decodeValue_disabled
  | value a => exact .defaulted key unset (decodeValue_value (h a rfl))

theorem nested_member {key : String} {text : α → String} (setting : Setting α) (depth : Nat) :
    ∀ p ∈ setting.member key text, Nested depth p.2 := by
  cases setting with
  | unset => exact List.forall_mem_nil _
  | disabled => exact List.forall_mem_singleton.mpr (.bool depth false)
  | value a => exact List.forall_mem_singleton.mpr (.string depth (text a))

end Setting

/-! ## Kinds, scopes and filters -/

theorem ShareKind.decodeValue_name (kind : ShareKind) :
    decodeValue decoder (.string kind.name) = .ok kind := by
  cases kind <;> rfl

namespace ShareScope

theorem decodeValue_toJson (scope : ShareScope) : decodeValue decoder scope.toJson = .ok scope := by
  cases scope with
  | single name => exact decodeValue_choice rfl
  | multiple names =>
    have hnames : decodeValue (.list .text) (Json.ofStrings names) = .ok names :=
      decodeValue_list fun s _ => decodeValue_text s
    have hmultiple : decodeValue (fun d => (Decoder.list .text d).map multiple)
        (Json.ofStrings names) = .ok (.multiple names) := congrArg (Except.map multiple) hnames
    apply decodeValue_choice
    -- A list is no text, so the first form does not fit.
    rw [List.findSome?_cons_of_isNone rfl, List.findSome?_cons, toJson, hmultiple]
    rfl

theorem nested_toJson (scope : ShareScope) (depth : Nat) : Nested (depth + 1) scope.toJson := by
  cases scope with
  | single name => exact .string _ name
  | multiple names => exact nested_array (.string depth) names

end ShareScope

namespace ShareFilter

theorem decodeValue_toJson (f : ShareFilter) : decodeValue decoder f.toJson = .ok f := by
  have hstored : record.Stored _ f :=
    ((Record.Stored.optionalText "version" f.version).map ShareFilter.mk).seq
      (.optionalText "request" f.request)
  exact hstored.decodes (by decide) _ _

theorem nested_toJson (f : ShareFilter) (depth : Nat) : Nested (depth + 1) f.toJson :=
  .object (List.forall_mem_append.mpr
    ⟨nested_optional (.string depth) f.version, nested_optional (.string depth) f.request⟩)

end ShareFilter

/-! ## Descriptors -/

namespace ShareDescriptor

/-- The version and the range of a descriptor are ones that were read. -/
structure Legible (d : ShareDescriptor) : Prop where
  version : ∀ v, d.version = .value v → ∃ s, Version.parse s = .ok v
  requiredVersion : ∀ r, d.requiredVersion = .value r → ∃ s, VersionRange.parse s = .ok r

/-- The members of the stored form. -/
def members (d : ShareDescriptor) : List (String × Json) :=
  [("kind", .string d.kind.name), ("shareKey", .string d.shareKey),
    ("shareScope", d.shareScope.toJson)] ++
  d.version.member "version" Version.text ++
  d.requiredVersion.member "requiredVersion" VersionRange.text ++
  [("strictVersion", .bool d.strictVersion), ("singleton", .bool d.singleton),
    ("eager", .bool d.eager)] ++
  optional "layer" .string d.layer ++
  optional "issuerLayer" .string d.issuerLayer ++
  optional "import" .string d.fallbackRequest ++
  optional "importResolved" .string d.fallbackResolved ++
  [("request", .string d.request)] ++
  optional "packageName" .string d.packageName ++
  optional "include" ShareFilter.toJson d.includes ++
  optional "exclude" ShareFilter.toJson d.excludes

theorem toJson_eq (d : ShareDescriptor) : d.toJson = .object d.members := rfl

theorem stored {d : ShareDescriptor} (h : d.Legible) : record.Stored d.members d := by
  have hversion : ∀ v, d.version = .value v → Version.parse v.text = .ok v := by
    intro v hv
    obtain ⟨s, hs⟩ := h.version v hv
    exact Version.parse_text_of_parse hs
  have hrange : ∀ r, d.requiredVersion = .value r → VersionRange.parse r.text = .ok r := by
    intro r hr
    obtain ⟨s, hs⟩ := h.requiredVersion r hr
    exact VersionRange.parse_text_of_parse hs
  have hfilter (key : String) (o : Option ShareFilter) :
      (Record.optional key ShareFilter.decoder).Stored (optional key ShareFilter.toJson o) o :=
    .optional key o fun f _ => ⟨by simp [ShareFilter.toJson], f.decodeValue_toJson⟩
  have hfields :=
    (Record.Stored.map (.required "kind" d.kind.decodeValue_name) ShareDescriptor.mk)
      |>.seq (.required "shareKey" (decodeValue_text d.shareKey))
      |>.seq (.defaulted "shareScope" .standard d.shareScope.decodeValue_toJson)
      |>.seq (Setting.stored "version" hversion)
      |>.seq (Setting.stored "requiredVersion" hrange)
      |>.seq (.defaulted "strictVersion" false (decodeValue_bool d.strictVersion))
      |>.seq (.defaulted "singleton" false (decodeValue_bool d.singleton))
      |>.seq (.defaulted "eager" false (decodeValue_bool d.eager))
      |>.seq (.optionalText "layer" d.layer)
      |>.seq (.optionalText "issuerLayer" d.issuerLayer)
      |>.seq (.optionalText "import" d.fallbackRequest)
      |>.seq (.optionalText "importResolved" d.fallbackResolved)
      |>.seq (.required "request" (decodeValue_text d.request))
      |>.seq (.optionalText "packageName" d.packageName)
      |>.seq (hfilter "include" d.includes)
      |>.seq (hfilter "exclude" d.excludes)
  have hmembers : record.Stored _ d := hfields
  simpa [members] using hmembers

theorem names_nodup : record.names.Nodup := by decide

/-- A descriptor is read back from its stored form. -/
theorem decodeValue_toJson {d : ShareDescriptor} (h : d.Legible) :
    decodeValue decoder d.toJson = .ok d :=
  (stored h).decodes names_nodup "ShareDescriptor" .ignored

theorem nested_toJson (d : ShareDescriptor) (depth : Nat) : Nested (depth + 2) d.toJson := by
  have htext (key : String) (o : Option String) :
      ∀ p ∈ optional key .string o, Nested (depth + 1) p.2 :=
    nested_optional (.string _) o
  have hfilter (key : String) (o : Option ShareFilter) :
      ∀ p ∈ optional key ShareFilter.toJson o, Nested (depth + 1) p.2 :=
    nested_optional (fun f => f.nested_toJson depth) o
  rw [toJson_eq]
  apply Nested.object
  simp only [members, List.forall_mem_append, List.forall_mem_cons, and_assoc]
  exact ⟨.string _ _, .string _ _, d.shareScope.nested_toJson depth, List.forall_mem_nil _,
    d.version.nested_member _, d.requiredVersion.nested_member _,
    .bool _ _, .bool _ _, .bool _ _, List.forall_mem_nil _,
    htext "layer" _, htext "issuerLayer" _, htext "import" _, htext "importResolved" _,
    .string _ _, List.forall_mem_nil _, htext "packageName" _,
    hfilter "include" _, hfilter "exclude" _⟩

end ShareDescriptor

end ModuleSharing
