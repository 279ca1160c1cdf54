import ModuleSharing.Proofs.Sequence
import ModuleSharing.Proofs.Text.Split
import ModuleSharing.Share.Filter

/-! What the filters of a declaration let through.  `ShareDescriptor.Admits` says it without the
checks, their order and their modes, and `ShareDescriptor.filter_decides_admission` compares the two
modes with it.  One check is an include or exclude of a request or of a version; `Checked` is what
it can end in, and is kept by making checks one after the other. -/

namespace ModuleSharing

/-! ## Request patterns -/

/-- A pattern that holds a text between slashes. -/
structure IsExpression (pattern text : String) : Prop where
  ne_empty : text ≠ ""
  slashes : pattern.toList = '/' :: (text.toList ++ ['/'])

theorem expressionText?_eq_some_iff (pattern text : String) :
    expressionText? pattern = some text ↔ IsExpression pattern text := by
  constructor
  · intro h
    unfold expressionText? at h
    split at h
    · contradiction
    rename_i rest hrest
    split at h
    · contradiction
    · contradiction
    · rename_i body hne hbody
      cases h
      rw [Text.afterPrefix?_eq_some_iff] at hrest
      rw [Text.beforeSuffix?_eq_some_iff] at hbody
      refine ⟨fun hempty => hne ?_, ?_⟩
      · simpa using hempty
      · rw [hrest, hbody, String.toList_ofList, List.singleton_append]
  · rintro ⟨hne, hslashes⟩
    have hrest : Text.afterPrefix? ['/'] pattern.toList = some (text.toList ++ ['/']) :=
      (Text.afterPrefix?_eq_some_iff ..).mpr hslashes
    have hbody : Text.beforeSuffix? ['/'] (text.toList ++ ['/']) = some text.toList :=
      (Text.beforeSuffix?_eq_some_iff ..).mpr rfl
    simp only [expressionText?, hrest, hbody]
    split
    · contradiction
    · rename_i hnil
      exact absurd (by simpa using hnil) hne
    · rename_i body _ htext
      cases htext
      rw [String.ofList_toList]

/-- A pattern is an expression that compiles, or none. -/
def Compiles (pattern : String) : Prop :=
  ∀ text, IsExpression pattern text → (Pattern.parse? text).isSome = true

/-- The expression of a pattern is found in the request, or the pattern is none and starts it. -/
inductive RequestMatch (pattern request : String) : Prop where
  | found {text : String} {e : Pattern.Expr} (expression : IsExpression pattern text)
      (compiled : Pattern.parse? text = some e) (isIn : e.isIn request = true)
  | starts (plain : ∀ text, ¬ IsExpression pattern text)
      (isPrefix : pattern.toList <+: request.toList)

theorem requestMatches_of_compiles {pattern : String} (h : Compiles pattern)
    (key request : String) :
    ∃ b, requestMatches key pattern request = .ok b ∧
      (b = true ↔ RequestMatch pattern request) := by
  unfold requestMatches
  cases htext : expressionText? pattern with
  | none =>
    have hplain (text : String) : ¬ IsExpression pattern text := by
      rw [← expressionText?_eq_some_iff, htext]
      simp
    refine ⟨_, rfl, ?_⟩
    rw [List.isPrefixOf_iff_prefix]
    constructor
    · exact .starts hplain
    · rintro (⟨hexpression, _, _⟩ | ⟨_, hprefix⟩)
      · exact absurd hexpression (hplain _)
      · exact hprefix
  | some text =>
    have hexpression := (expressionText?_eq_some_iff pattern text).mp htext
    obtain ⟨e, he⟩ := Option.isSome_iff_exists.mp (h text hexpression)
    dsimp only
    rw [he]
    refine ⟨_, rfl, .found hexpression he, ?_⟩
    rintro (⟨hother, hcompiled, hin⟩ | ⟨hplain, _⟩)
    · rw [← expressionText?_eq_some_iff, htext, Option.some.injEq] at hother
      subst hother
      rw [he, Option.some.injEq] at hcompiled
      exact hcompiled ▸ hin
    · exact absurd hexpression (hplain text)

/-- The pattern matches the request as it is written or the path that it resolves to. -/
def RequestPaths.Match (paths : RequestPaths) (pattern : String) : Prop :=
  RequestMatch pattern paths.request ∨
    ∃ path, paths.resolved = some path ∧ RequestMatch pattern path

theorem firstMatching_of_compiles {pattern : String} (h : Compiles pattern) (key : String)
    (paths : List String) :
    ∃ o, firstMatching key pattern paths = .ok o ∧
      (o = none ↔ ∀ path ∈ paths, ¬ RequestMatch pattern path) := by
  induction paths with
  | nil => exact ⟨none, rfl, by simp⟩
  | cons path paths ih =>
    obtain ⟨b, hb, hmatch⟩ := requestMatches_of_compiles h key path
    obtain ⟨o, ho, hrest⟩ := ih
    cases b with
    | true =>
      refine ⟨some path, by simp [firstMatching, hb, bind, Except.bind], ?_⟩
      simp [hmatch.mp rfl]
    | false =>
      have hnot : ¬ RequestMatch pattern path := fun hpath => by simpa using hmatch.mpr hpath
      refine ⟨o, by simp [firstMatching, hb, ho, bind, Except.bind], ?_⟩
      simp [hrest, hnot]

theorem RequestPaths.firstMatching_toList {pattern : String} (h : Compiles pattern) (key : String)
    (paths : RequestPaths) :
    ∃ o, firstMatching key pattern paths.toList = .ok o ∧ (o = none ↔ ¬ paths.Match pattern) := by
  obtain ⟨o, ho, hnone⟩ := firstMatching_of_compiles h key paths.toList
  refine ⟨o, ho, ?_⟩
  simp [hnone, RequestPaths.toList, RequestPaths.Match]

/-! ## Version texts -/

def IsRange (text : String) : Prop := ∃ r, VersionRange.parse text = .ok r

/-- The text is a range that admits the version. -/
def WithinText (text : String) (v : Version) : Prop :=
  ∃ r, VersionRange.parse text = .ok r ∧ r.admits v = true

/-- A known version is compared with every text, but in one mode a text that is no range is an
error. -/
theorem versionMatches_known (key text : String) (v : Version) (mode : FilterMode) :
    (∃ b, versionMatches key text (some v) mode = .ok (some b) ∧ (b = true ↔ WithinText text v) ∧
      (mode = .provide → IsRange text)) ∨
    mode = .provide ∧ ∃ error, VersionRange.parse text = .error error ∧
      versionMatches key text (some v) mode = .error (.version key error) := by
  cases hparse : VersionRange.parse text with
  | ok r =>
    refine .inl ⟨r.admits v, by simp [versionMatches, hparse], ?_, fun _ => ⟨r, hparse⟩⟩
    simp [WithinText, hparse]
  | error error =>
    cases mode with
    | consume =>
      refine .inl ⟨false, by simp [versionMatches, hparse], ?_, fun h => by contradiction⟩
      simp [WithinText, hparse]
    | provide => exact .inr ⟨rfl, error, rfl, by simp [versionMatches, hparse]⟩

theorem versionMatches_provide {text : String} {version : Option Version}
    (h : version = none ∨ IsRange text) (key : String) :
    versionMatches key text version .provide = versionMatches key text version .consume := by
  cases version with
  | none => rfl
  | some v =>
    obtain ⟨r, hr⟩ := h.resolve_left (by simp)
    simp [versionMatches, hr]

/-! ## Checks one after the other -/

/-- The second check is made if the first one gives no reason to keep the module out. -/
def andThen (first second : Except FilterError (Option String)) :
    Except FilterError (Option String) := do
  match ← first with
  | some reason => .ok (some reason)
  | none => second

/-- What checks of some version texts can end in: nothing against the module if they pass, a reason
if they do not, or an error for one of the texts. -/
inductive Checked (key : String) (version : Option Version) (mode : FilterMode)
    (texts : List String) (passes : Prop) : Except FilterError (Option String) → Prop where
  | passed (holds : passes) (ranges : mode = .provide → ∀ t ∈ texts, version = none ∨ IsRange t) :
    Checked key version mode texts passes (.ok none)
  | kept (reason : String) (fails : ¬ passes) :
    Checked key version mode texts passes (.ok (some reason))
  | failed {t : String} {v : Version} {error : VersionError} (provide : mode = .provide)
      (mem : t ∈ texts) (known : version = some v)
      (malformed : VersionRange.parse t = .error error) :
    Checked key version mode texts passes (.error (.version key error))

namespace Checked

variable {key : String} {version : Option Version} {mode : FilterMode} {texts more : List String}
  {passes also : Prop} {x y : Except FilterError (Option String)}

theorem andThen (hx : Checked key version mode texts passes x)
    (hy : Checked key version mode more also y) :
    Checked key version mode (texts ++ more) (passes ∧ also) (andThen x y) := by
  cases hx with
  | passed holds ranges =>
    cases hy with
    | passed holds' ranges' =>
      exact .passed ⟨holds, holds'⟩ fun hmode =>
        List.forall_mem_append.mpr ⟨ranges hmode, ranges' hmode⟩
    | kept reason fails => exact .kept reason fun h => fails h.2
    | failed provide mem known malformed =>
      exact .failed provide (List.mem_append_right _ mem) known malformed
  | kept reason fails => exact .kept reason fun h => fails h.1
  | failed provide mem known malformed =>
    exact .failed provide (List.mem_append_left _ mem) known malformed

theorem congr (h : Checked key version mode texts passes x) (hiff : passes ↔ also) :
    Checked key version mode texts also x := by
  rwa [propext hiff] at h

/-- A filter that is not set has nothing against the module. -/
theorem optional {o : Option ShareFilter} {holds : ShareFilter → Prop}
    {check : ShareFilter → Except FilterError (Option String)}
    (h : ∀ f, o = some f → Checked key version mode f.version.toList (holds f) (check f)) :
    Checked key version mode (o.bind ShareFilter.version).toList (∀ f, o = some f → holds f)
      (o.elim (.ok none) check) := by
  cases o with
  | none => exact .passed (by simp) (by simp)
  | some f => exact (h f rfl).congr (by simp)

end Checked

/-! ## Filters -/

namespace ShareFilter

variable (f : ShareFilter) (key : String) (paths : RequestPaths) (version : Option Version)
  (mode : FilterMode)

theorem rejection_eq_andThen :
    f.rejection key paths version mode =
      andThen (rejection ⟨none, f.request⟩ key paths version mode)
        (rejection ⟨f.version, none⟩ key paths version mode) := by
  obtain ⟨text, _ | p⟩ := f
  · rfl
  · simp only [rejection]
    rcases firstMatching key p paths.toList with _ | _ | _ <;> rfl

theorem exclusion_eq_andThen :
    f.exclusion key paths version mode =
      andThen (exclusion ⟨none, f.request⟩ key paths version mode)
        (exclusion ⟨f.version, none⟩ key paths version mode) := by
  obtain ⟨text, _ | p⟩ := f
  · rfl
  · simp only [exclusion]
    rcases firstMatching key p paths.toList with _ | _ | _ <;> rfl

theorem checked_rejection_request {request : Option String}
    (hcompiles : ∀ p, request = some p → Compiles p) :
    Checked key version mode [] (∀ p, request = some p → paths.Match p)
      (rejection ⟨none, request⟩ key paths version mode) := by
  cases request with
  | none => exact .passed (by simp) (by simp)
  | some p =>
    obtain ⟨o, ho, hnone⟩ := paths.firstMatching_toList (hcompiles p rfl) key
    simp only [rejection, ho]
    cases o with
    | none => exact .kept _ fun h => hnone.mp rfl (h p rfl)
    | some path => exact .passed (by simpa using hnone) (by simp)

theorem checked_exclusion_request {request : Option String}
    (hcompiles : ∀ p, request = some p → Compiles p) :
    Checked key version mode [] (∀ p, request = some p → ¬ paths.Match p)
      (exclusion ⟨none, request⟩ key paths version mode) := by
  cases request with
  | none => exact .passed (by simp) (by simp)
  | some p =>
    obtain ⟨o, ho, hnone⟩ := paths.firstMatching_toList (hcompiles p rfl) key
    simp only [exclusion, ho]
    cases o with
    | none => exact .passed (by simpa using hnone) (by simp)
    | some path => exact .kept _ fun h => by simpa using hnone.mpr (h p rfl)

theorem checked_rejection_version (text : Option String) :
    Checked key version mode text.toList
      (∀ t v, text = some t → version = some v → WithinText t v)
      (rejection ⟨text, none⟩ key paths version mode) := by
  cases text with
  | none => exact .passed (by simp) (by simp)
  | some t =>
    cases version with
    | none => exact .passed (by simp) (by simp)
    | some v =>
      rcases versionMatches_known key t v mode with
        ⟨b, hb, hwithin, hrange⟩ | ⟨hmode, error, hparse, herror⟩
      · simp only [rejection, hb]
        cases b with
        | true => exact .passed (by simpa using hwithin) (by simpa using hrange)
        | false => exact .kept _ fun h => by simpa using hwithin.mpr (h t v rfl rfl)
      · simp only [rejection, herror]
        exact .failed hmode (by simp) rfl hparse

theorem checked_exclusion_version (text : Option String) :
    Checked key version mode text.toList
      (∀ t v, text = some t → version = some v → ¬ WithinText t v)
      (exclusion ⟨text, none⟩ key paths version mode) := by
  cases text with
  | none => exact .passed (by simp) (by simp)
  | some t =>
    cases version with
    | none => exact .passed (by simp) (by simp)
    | some v =>
      rcases versionMatches_known key t v mode with
        ⟨b, hb, hwithin, hrange⟩ | ⟨hmode, error, hparse, herror⟩
      · simp only [exclusion, hb]
        cases b with
        | true => exact .kept _ fun h => h t v rfl rfl (hwithin.mp rfl)
        | false => exact .passed (by simpa using hwithin) (by simpa using hrange)
      · simp only [exclusion, herror]
        exact .failed hmode (by simp) rfl hparse

theorem checked_rejection (hcompiles : ∀ p, f.request = some p → Compiles p) :
    Checked key version mode f.version.toList
      ((∀ p, f.request = some p → paths.Match p) ∧
        ∀ t v, f.version = some t → version = some v → WithinText t v)
      (f.rejection key paths version mode) := by
  rw [rejection_eq_andThen]
  exact (checked_rejection_request key paths version mode hcompiles).andThen
    (checked_rejection_version key paths version mode f.version)

theorem checked_exclusion (hcompiles : ∀ p, f.request = some p → Compiles p) :
    Checked key version mode f.version.toList
      ((∀ p, f.request = some p → ¬ paths.Match p) ∧
        ∀ t v, f.version = some t → version = some v → ¬ WithinText t v)
      (f.exclusion key paths version mode) := by
  rw [exclusion_eq_andThen]
  exact (checked_exclusion_request key paths version mode hcompiles).andThen
    (checked_exclusion_version key paths version mode f.version)

theorem rejection_provide (h : ∀ t, f.version = some t → version = none ∨ IsRange t) :
    f.rejection key paths version .provide = f.rejection key paths version .consume := by
  obtain ⟨_ | t, request⟩ := f
  · rfl
  · simp only [rejection, versionMatches_provide (h t rfl)]

theorem exclusion_provide (h : ∀ t, f.version = some t → version = none ∨ IsRange t) :
    f.exclusion key paths version .provide = f.exclusion key paths version .consume := by
  obtain ⟨_ | t, request⟩ := f
  · rfl
  · simp only [exclusion, versionMatches_provide (h t rfl)]

end ShareFilter

/-! ## Declarations -/

namespace ShareDescriptor

variable (d : ShareDescriptor) (paths : RequestPaths) (version : Option Version)

/-- The request patterns of the filters. -/
def requestPatterns : List String :=
  (d.includes.bind ShareFilter.request).toList ++ (d.excludes.bind ShareFilter.request).toList

/-- The version texts of the filters. -/
def versionTexts : List String :=
  (d.includes.bind ShareFilter.version).toList ++ (d.excludes.bind ShareFilter.version).toList

/-- What the filters ask of a module: included requests match and excluded ones do not, and a known
version is within included texts and not within excluded ones. -/
structure Admits : Prop where
  included : ∀ f p, d.includes = some f → f.request = some p → paths.Match p
  within : ∀ f t v, d.includes = some f → f.version = some t → version = some v → WithinText t v
  notExcluded : ∀ f p, d.excludes = some f → f.request = some p → ¬ paths.Match p
  notWithin : ∀ f t v, d.excludes = some f → f.version = some t → version = some v →
    ¬ WithinText t v

/-- The reason that the filters give against a module. -/
def refusal (mode : FilterMode) : Except FilterError (Option String) :=
  andThen (d.includes.elim (.ok none) fun f => f.rejection d.shareKey paths version mode)
    (d.excludes.elim (.ok none) fun f => f.exclusion d.shareKey paths version mode)

theorem filter_eq_refusal (mode : FilterMode) :
    d.filter paths version mode =
      (d.refusal paths version mode).map fun reason => reason.elim .accept .skip := by
  unfold filter refusal
  cases d.includes with
  | none =>
    cases d.excludes with
    | none => rfl
    | some g =>
      dsimp only [Option.elim]
      rcases g.exclusion d.shareKey paths version mode with _ | _ | _ <;> rfl
  | some f =>
    dsimp only [Option.elim]
    -- only where the included parts match is anything excluded
    rcases f.rejection d.shareKey paths version mode with _ | _ | _
    · rfl
    · cases d.excludes with
      | none => rfl
      | some g =>
        dsimp only
        rcases g.exclusion d.shareKey paths version mode with _ | _ | _ <;> rfl
    · rfl

theorem checked_refusal (mode : FilterMode) (h : ∀ p ∈ d.requestPatterns, Compiles p) :
    Checked d.shareKey version mode d.versionTexts (d.Admits paths version)
      (d.refusal paths version mode) := by
  obtain ⟨hincludes, hexcludes⟩ := List.forall_mem_append.mp h
  have hrejection := Checked.optional fun f (hf : d.includes = some f) =>
    f.checked_rejection d.shareKey paths version mode fun p hp => hincludes p (by simp [hf, hp])
  have hexclusion := Checked.optional fun f (hf : d.excludes = some f) =>
    f.checked_exclusion d.shareKey paths version mode fun p hp => hexcludes p (by simp [hf, hp])
  refine (hrejection.andThen hexclusion).congr ⟨?_, ?_⟩
  · rintro ⟨hincluded, hexcluded⟩
    exact ⟨fun f p hf => (hincluded f hf).1 p, fun f t v hf => (hincluded f hf).2 t v,
      fun f p hf => (hexcluded f hf).1 p, fun f t v hf => (hexcluded f hf).2 t v⟩
  · intro h
    exact ⟨fun f hf => ⟨fun p => h.included f p hf, fun t v => h.within f t v hf⟩,
      fun f hf => ⟨fun p => h.notExcluded f p hf, fun t v => h.notWithin f t v hf⟩⟩

/-- A declaration whose patterns compile accepts a module that it admits, skips one that it does
not admit, or fails for one of its version texts. -/
theorem filter_cases (mode : FilterMode) (h : ∀ p ∈ d.requestPatterns, Compiles p) :
    (d.filter paths version mode = .ok .accept ∧ d.Admits paths version ∧
      (mode = .provide → ∀ t ∈ d.versionTexts, version = none ∨ IsRange t)) ∨
    (∃ reason, d.filter paths version mode = .ok (.skip reason) ∧ ¬ d.Admits paths version) ∨
    (mode = .provide ∧ ∃ v t fault, version = some v ∧ t ∈ d.versionTexts ∧
      VersionRange.parse t = .error fault ∧
      d.filter paths version mode = .error (.version d.shareKey fault)) := by
  have hchecked := d.checked_refusal paths version mode h
  rw [filter_eq_refusal]
  generalize d.refusal paths version mode = refused at hchecked
  cases hchecked with
  | passed holds ranges => exact .inl ⟨rfl, holds, ranges⟩
  | kept reason fails => exact .inr (.inl ⟨reason, rfl, fails⟩)
  | failed provide mem known malformed =>
    exact .inr (.inr ⟨provide, _, _, _, known, mem, malformed, rfl⟩)

theorem filter_provide {version : Option Version}
    (h : version = none ∨ ∀ t ∈ d.versionTexts, IsRange t) :
    d.filter paths version .provide = d.filter paths version .consume := by
  have hranges : ∀ t ∈ d.versionTexts, version = none ∨ IsRange t := fun t ht =>
    h.imp_right fun h => h t ht
  obtain ⟨hincludes, hexcludes⟩ := List.forall_mem_append.mp hranges
  have hrejection : ∀ f, d.includes = some f →
      f.rejection d.shareKey paths version .provide =
        f.rejection d.shareKey paths version .consume :=
    fun f hf => f.rejection_provide _ _ _ fun t ht => hincludes t (by simp [hf, ht])
  have hexclusion : ∀ f, d.excludes = some f →
      f.exclusion d.shareKey paths version .provide =
        f.exclusion d.shareKey paths version .consume :=
    fun f hf => f.exclusion_provide _ _ _ fun t ht => hexcludes t (by simp [hf, ht])
  rw [filter_eq_refusal, filter_eq_refusal]
  unfold refusal
  cases hi : d.includes <;> cases he : d.excludes <;> simp_all

/-- If the patterns compile, there is no error where a declaration is consumed, and a module is
accepted exactly if the filters admit it.  Where it is provided the outcome is the same as long as
the version texts are ranges or are not looked at; with a known version nothing is accepted if a
text is no range, and the only errors are those of such texts. -/
theorem filter_decides_admission (h : ∀ p ∈ d.requestPatterns, Compiles p) :
    (∃ outcome, d.filter paths version .consume = .ok outcome ∧
      (outcome = .accept ↔ d.Admits paths version)) ∧
    ((version = none ∨ ∀ t ∈ d.versionTexts, IsRange t) →
      d.filter paths version .provide = d.filter paths version .consume) ∧
    (∀ v t, version = some v → t ∈ d.versionTexts → ¬ IsRange t →
      d.filter paths version .provide ≠ .ok .accept) ∧
    ∀ error, d.filter paths version .provide = .error error →
      ∃ v t fault, version = some v ∧ t ∈ d.versionTexts ∧ VersionRange.parse t = .error fault ∧
        error = .version d.shareKey fault := by
  refine ⟨?_, d.filter_provide paths, ?_, ?_⟩
  · obtain ⟨haccept, hadmits, _⟩ | ⟨reason, hskip, hadmits⟩ | ⟨hmode, _⟩ :=
      d.filter_cases paths version .consume h
    · exact ⟨.accept, haccept, by simpa using hadmits⟩
    · exact ⟨.skip reason, hskip, by simpa using hadmits⟩
    · contradiction
  · intro v t hv ht hrange haccept
    obtain ⟨_, _, hranges⟩ | ⟨reason, hskip, _⟩ | ⟨_, _, _, _, _, _, _, herror⟩ :=
      d.filter_cases paths version .provide h
    · exact hrange ((hranges rfl t ht).resolve_left (by simp [hv]))
    · simp [hskip] at haccept
    · simp [herror] at haccept
  · intro error herror
    obtain ⟨haccept, _⟩ | ⟨reason, hskip, _⟩ | ⟨_, v, t, fault, hv, ht, hfault, hfails⟩ :=
      d.filter_cases paths version .provide h
    · simp [haccept] at herror
    · simp [hskip] at herror
    · rw [hfails, Except.error.injEq] at herror
      exact ⟨v, t, fault, hv, ht, hfault, herror.symm⟩

/-- Widgets of one major version, other than old ones and, were it a range, the latest. -/
def widgets : ShareDescriptor :=
  { consume "ui" with
    includes := some { version := some "^1.2.3", request := some "/ui$/" }
    excludes := some { version := some "latest", request := some "ui/legacy" } }

theorem compiles_widgets : ∀ p ∈ widgets.requestPatterns, Compiles p := by
  intro p hp text htext
  rw [← expressionText?_eq_some_iff] at htext
  obtain rfl | rfl : p = "/ui$/" ∨ p = "ui/legacy" := by simpa [requestPatterns, widgets] using hp
  · have hbody : expressionText? "/ui$/" = some "ui$" := by decide
    obtain rfl := Option.some.inj (hbody.symm.trans htext)
    decide +kernel
  · contradiction

/-- The excluded version is no range: it keeps nothing out in one mode, and lets nothing of a known
version through in the other. -/
theorem filter_decides_admission_widgets :
    (∀ p ∈ widgets.requestPatterns, Compiles p) ∧
      widgets.Admits ⟨"./ui", some "/lib/ui"⟩ (some ⟨1, 4, 0, [], []⟩) ∧
      ¬ widgets.Admits ⟨"ui/legacy", some "/lib/ui"⟩ none ∧
      widgets.filter ⟨"./ui", some "/lib/ui"⟩ none .provide = .ok .accept ∧
      widgets.filter ⟨"./ui", some "/lib/ui"⟩ (some ⟨1, 4, 0, [], []⟩) .provide ≠ .ok .accept := by
  obtain ⟨⟨outcome, houtcome, hadmits⟩, -, hprovide, -⟩ := widgets.filter_decides_admission
    ⟨"./ui", some "/lib/ui"⟩ (some ⟨1, 4, 0, [], []⟩) compiles_widgets
  obtain ⟨⟨skipped, hskipped, hkept⟩, -⟩ := widgets.filter_decides_admission
    ⟨"ui/legacy", some "/lib/ui"⟩ none compiles_widgets
  obtain ⟨-, hunknown, -⟩ := widgets.filter_decides_admission
    ⟨"./ui", some "/lib/ui"⟩ none compiles_widgets
  have haccept : widgets.filter ⟨"./ui", some "/lib/ui"⟩ (some ⟨1, 4, 0, [], []⟩) .consume =
    .ok .accept := rfl
  have hskip : widgets.filter ⟨"ui/legacy", some "/lib/ui"⟩ none .consume =
    .ok (.skip "request `ui/legacy` is excluded by `ui/legacy`") := rfl
  refine ⟨compiles_widgets, hadmits.mp ?_, mt hkept.mpr ?_, (hunknown (.inl rfl)).trans rfl, ?_⟩
  · exact Except.ok.inj (houtcome.symm.trans haccept)
  · rw [← Except.ok.inj (hskip.symm.trans hskipped)]
    decide
  · refine hprovide _ "latest" rfl (by decide) ?_
    rintro ⟨r, hr⟩
    contradiction

end ShareDescriptor

end ModuleSharing
