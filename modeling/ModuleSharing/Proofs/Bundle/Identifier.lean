import ModuleSharing.Bundle.Unit
import ModuleSharing.Proofs.Share.Stored

/-! What the identifier of a unit says about it.  The texts of a unit are joined without quotation,
so an identifier can be taken apart again only if they keep clear of the signs between them
(`SharedUnit.Separable`).  Then units with one identifier generate the same code
(`SharedUnit.sameCode_of_identifier_eq`). -/

namespace ModuleSharing

/-! ## Ranges between bars -/

theorem Text.Framed.head?_append_ne_space {cs : List Char} (h : Framed cs) (x : List Char) :
    (cs ++ x).head? ≠ some ' ' := by
  obtain ⟨c, rest, rfl, hc⟩ := h.first
  intro hstart
  rw [List.cons_append, List.head?_cons, Option.some.injEq] at hstart
  subst hstart
  exact absurd hc (by decide)

/-- The pieces of a text between its bars, by which the text is found at the end of other pieces: no
piece but the first could be the first one. -/
structure BarPieces (cs first : List Char) (rest : List (List Char)) : Prop where
  joined : ['|'].intercalate (first :: rest) = cs
  noBars : ∀ piece ∈ first :: rest, '|' ∉ piece
  start : first.head? ≠ some ' '
  alone : first = [] → rest = []
  later : ∀ piece ∈ rest, piece = [] ∨ piece.head? = some ' '
  last : rest.getLast? ≠ some []

namespace BarPieces

variable {cs cs' first first' : List Char} {rest rest' : List (List Char)}

theorem single (hbar : '|' ∉ cs) (hstart : cs.head? ≠ some ' ') : BarPieces cs cs [] where
  joined := by simp
  noBars := List.forall_mem_singleton.mpr hbar
  start := hstart
  alone _ := rfl
  later := List.forall_mem_nil _
  last := by simp

/-- A set in front of others, which then start with a blank. -/
theorem cons {set : List Char} (hframed : Text.Framed set) (hbar : '|' ∉ set)
    (h : BarPieces cs first rest) :
    BarPieces (set ++ [' ', '|', '|', ' '] ++ cs) (set ++ [' '])
      ([] :: (' ' :: first) :: rest) where
  joined := by
    have hpieces := congrArg (set ++ [' ', '|', '|', ' '] ++ ·) h.joined
    cases rest <;> simpa [List.intercalate_cons_cons] using hpieces
  noBars := by
    have hfirst := h.noBars
    simp only [List.forall_mem_cons] at hfirst ⊢
    simpa [hbar] using hfirst
  start := hframed.head?_append_ne_space [' ']
  alone := by simp
  later := by simpa using h.later
  last := by
    rw [List.getLast?_cons_cons]
    cases rest with
    | nil => simp
    | cons piece pieces =>
      rw [List.getLast?_cons_cons]
      exact h.last

theorem first_not_later (h : BarPieces cs first rest) (h' : BarPieces cs' first' rest')
    (front : List (List Char)) : rest ≠ front ++ first' :: rest' := by
  intro hrest
  have hmem : first' ∈ rest := by simp [hrest]
  rcases h.later first' hmem with rfl | hblank
  · have hnone := h'.alone rfl
    subst hnone
    exact h.last (by simp [hrest])
  · exact h'.start hblank

/-- At the end of other pieces, those of such a text can be told from the ones before. -/
theorem append_inj (h : BarPieces cs first rest) (h' : BarPieces cs' first' rest')
    {front front' : List (List Char)}
    (heq : front ++ first :: rest = front' ++ first' :: rest') : front = front' ∧ cs = cs' := by
  have hpieces : front = front' ∧ first :: rest = first' :: rest' := by
    rcases List.append_eq_append_iff.mp heq with ⟨more, rfl, hmore⟩ | ⟨more, rfl, hmore⟩
    · cases more with
      | nil => exact ⟨(List.append_nil front).symm, hmore⟩
      | cons piece pieces =>
        exact absurd (List.cons.inj hmore).2 (first_not_later h h' pieces)
    · cases more with
      | nil => exact ⟨List.append_nil front', hmore.symm⟩
      | cons piece pieces =>
        exact absurd (List.cons.inj hmore).2 (first_not_later h' h pieces)
  rw [← h.joined, ← h'.joined, hpieces.2]
  exact ⟨hpieces.1, rfl⟩

end BarPieces

theorem VersionRange.exists_barPieces {r : VersionRange} (h : r.WellFormed) :
    ∃ first rest, BarPieces r.chars first rest := by
  obtain ⟨sets⟩ := r
  obtain ⟨hne, hsets⟩ := h
  unfold chars
  dsimp only at hne hsets ⊢
  induction sets with
  | nil => contradiction
  | cons set sets ih =>
    obtain ⟨hset, hothers⟩ := List.forall_mem_cons.mp hsets
    have hlisted := ComparatorSet.listed_chars hset.ne_nil hset.versions
    cases sets with
    | nil =>
      have hstart := hlisted.framed.head?_append_ne_space []
      rw [List.append_nil] at hstart
      simpa using ⟨_, _, BarPieces.single hlisted.bar_not_mem hstart⟩
    | cons next sets =>
      obtain ⟨first, rest, hrest⟩ := ih (by simp) hothers
      rw [List.map_cons, List.map_cons, List.intercalate_cons_cons, ← List.map_cons]
      exact ⟨_, _, hrest.cons hlisted.framed hlisted.bar_not_mem⟩

theorem ShareScope.primary_eq (scope : ShareScope) :
    scope.primary = scope.names.headD defaultScopeName := by
  cases scope <;> rfl

/-! ## Labels of versions and ranges -/

namespace SharedUnit

open ShareDescriptor

theorem exists_barPieces_requiredLabel {d : ShareDescriptor} (h : d.Legible) :
    ∃ first rest, BarPieces (requiredLabel d).toList first rest := by
  unfold requiredLabel
  split
  · exact ⟨_, _, .single (by decide) (by decide)⟩
  · exact ⟨_, _, .single (by decide) (by decide)⟩
  · rename_i range hrange
    obtain ⟨s, hs⟩ := h.requiredVersion range hrange
    rw [VersionRange.text, String.toList_ofList]
    exact VersionRange.exists_barPieces
      (VersionRange.wellFormed_of_read ((VersionRange.parse_eq_ok_iff s range).mp hs))

/-- The label of a range is its text, which is read as that range; no other label is read as a range
that has it as its text. -/
theorem requiredRange?_of_label {d : ShareDescriptor} (h : d.Legible) :
    d.requiredRange? = (VersionRange.parse (requiredLabel d)).toOption.filter
      (·.text == requiredLabel d) := by
  unfold requiredLabel requiredRange?
  cases hversion : d.requiredVersion with
  | unset => rfl
  | disabled => rfl
  | value range =>
    obtain ⟨s, hs⟩ := h.requiredVersion range hversion
    simp [Setting.value?, VersionRange.parse_text_of_parse hs, Except.toOption, Option.filter]

theorem registeredVersion_of_label {d : ShareDescriptor} (h : d.Legible) :
    registeredVersion d = if versionLabel d = "false" then "0" else versionLabel d := by
  unfold registeredVersion versionLabel
  cases hversion : d.version with
  | unset => rfl
  | disabled => rfl
  | value version =>
    obtain ⟨s, hs⟩ := h.version version hversion
    have hread := Version.parse_text_of_parse hs
    have hlabel : version.text ≠ "false" := by
      intro hfalse
      rw [hfalse] at hread
      contradiction
    simp [Setting.value?, hlabel]

/-- No sign of an identifier is in the label of a version. -/
theorem not_mem_versionLabel {d : ShareDescriptor} (h : d.Legible) {c : Char}
    (hc : c ∈ ['@', '=', ' ']) : c ∉ (versionLabel d).toList := by
  have hsigns : ∀ sign ∈ ['@', '=', ' '], Version.isIdentifierChar sign = false ∧
      sign ∉ ['.', '-', '+'] ∧ sign ∉ "0".toList ∧ sign ∉ "false".toList := by
    simp [Version.isIdentifierChar]
  obtain ⟨hidentifier, hbetween, hzero, hfalse⟩ := hsigns c hc
  unfold versionLabel
  split
  · exact hzero
  · exact hfalse
  · rename_i version hversion
    obtain ⟨s, hs⟩ := h.version version hversion
    have hvalid := Version.valid_of_read ((Version.parse_eq_ok_iff s version).mp hs)
    rw [Version.text, String.toList_ofList]
    intro hmem
    rcases Version.mem_chars hvalid hmem with hchar | hchar
    · rw [hidentifier] at hchar
      exact Bool.false_ne_true hchar
    · exact hbetween hchar

/-! ## Units that can be told apart -/

/-- The texts that a consuming unit puts between bars have none, and an empty fallback is not taken
for a missing one. -/
structure BarFree (u : SharedUnit) : Prop where
  key : '|' ∉ u.options.shareKey.toList
  fallback : ∀ path, u.options.fallback? = some path → path ≠ "" ∧ '|' ∉ path.toList
  layer : ∀ layer, u.layer = some layer → '|' ∉ layer.toList

/-- The texts of a providing unit do not contain the signs that they are followed by, and its layer
does not look like the mark of an eager unit. -/
structure MarkFree (u : SharedUnit) : Prop where
  scope : ∀ name ∈ u.options.shareScope.names, ')' ∉ name.toList
  key : '=' ∉ u.options.shareKey.toList
  request : ¬ [' ', '('] <:+: u.providedRequest.toList
  layer : ∀ layer, u.layer = some layer → ¬ "eager)".toList <+: layer.toList ++ [')']

/-- The identifier of the unit can be taken apart again. -/
structure Separable (u : SharedUnit) : Prop where
  legible : u.options.Legible
  scope_ne_nil : u.options.shareScope.names ≠ []
  scopeBars : ∀ name ∈ u.options.shareScope.names, '|' ∉ name.toList
  consuming : u.kind = .consume → u.BarFree
  providing : u.kind = .provide → u.MarkFree

theorem Separable.build {u : SharedUnit} (h : u.Separable) : u.build.Separable where
  legible := h.legible
  scope_ne_nil := h.scope_ne_nil
  scopeBars := h.scopeBars
  consuming hkind :=
    { key := (h.consuming hkind).key
      fallback := (h.consuming hkind).fallback
      layer := (h.consuming hkind).layer }
  providing hkind :=
    { scope := (h.providing hkind).scope
      key := (h.providing hkind).key
      request := (h.providing hkind).request
      layer := (h.providing hkind).layer }

/-- The same code in every chunk graph, and the same local modules for it.  Only what a consuming
unit tells of its options may differ. -/
structure SameCode (u v : SharedUnit) : Prop where
  kind : u.kind = v.kind
  dependencies : u.build.dependencies = v.build.dependencies
  blocks : u.build.blocks = v.build.blocks
  sources : ∀ g, (u.generate g).sources = (v.generate g).sources
  requirements : ∀ g, (u.generate g).requirements = (v.generate g).requirements
  loaderCall : ∀ g, (u.generate g).loaderCall = (v.generate g).loaderCall
  init : ∀ g, (u.generate g).init = (v.generate g).init
  data : ∀ g name, name ≠ SourceType.consumeShared.name →
    (u.generate g).data.lookup name = (v.generate g).data.lookup name

/-- Building makes no difference to the code. -/
theorem SameCode.build {u v : SharedUnit} (h : SameCode u v) : SameCode u.build v.build :=
  ⟨h.kind, h.dependencies, h.blocks, h.sources, h.requirements, h.loaderCall, h.init, h.data⟩

/-- What the code of a consuming unit is made from. -/
theorem SameCode.of_consume {u v : SharedUnit} (hu : u.kind = .consume) (hv : v.kind = .consume)
    (hscope : u.options.shareScope.primary = v.options.shareScope.primary)
    (hkey : u.options.shareKey = v.options.shareKey)
    (hrange : u.options.requiredRange? = v.options.requiredRange?)
    (hstrict : u.options.strictVersion = v.options.strictVersion)
    (hsingleton : u.options.singleton = v.options.singleton)
    (heager : u.options.eager = v.options.eager)
    (hfallback : u.options.fallback? = v.options.fallback?) : SameCode u v := by
  have hcall : ∀ code, u.loaderCall code = v.loaderCall code := by
    intro code
    simp only [SharedUnit.loaderCall, loader, hscope, hkey, hrange, hstrict, hsingleton, hfallback]
  have hwanted : u.request? = v.request? ∧ u.dependencyKind = v.dependencyKind := by
    simp only [request?, dependencyKind, hu, hv, hfallback, and_self]
  have hgenerate : ∀ w : SharedUnit, w.kind = .consume → ∀ g, w.generate g = w.consumeCode g := by
    intro w hw g
    simp only [generate, hw]
  exact {
    kind := hu.trans hv.symm
    dependencies := by simp only [SharedUnit.build, hwanted.1, hwanted.2, heager]
    blocks := by simp only [SharedUnit.build, hwanted.1, hwanted.2, heager]
    sources g := by simp only [hgenerate, hu, hv, consumeCode, hfallback, hkey, heager]
    requirements g := by simp only [hgenerate, hu, hv, consumeCode, hfallback, hkey, heager]
    loaderCall g := by simp only [hgenerate, hu, hv, consumeCode, hfallback, hcall, heager]
    init g := by simp only [hgenerate, hu, hv, consumeCode]
    data g name hname := by
      have hother : (name == SourceType.consumeShared.name) = false :=
        beq_eq_false_iff_ne.mpr hname
      simp only [hgenerate, hu, hv, consumeCode, hfallback, hcall, heager, List.lookup_cons, hother] }

/-- What the code of a providing unit is made from. -/
theorem SameCode.of_provide {u v : SharedUnit} (hu : u.kind = .provide) (hv : v.kind = .provide)
    (hscope : u.options.shareScope.primary = v.options.shareScope.primary)
    (hkey : u.options.shareKey = v.options.shareKey)
    (hversion : registeredVersion u.options = registeredVersion v.options)
    (heager : u.options.eager = v.options.eager)
    (hrequest : u.providedRequest = v.providedRequest) : SameCode u v := by
  have hwanted : u.request? = v.request? ∧ u.dependencyKind = v.dependencyKind := by
    simp only [request?, dependencyKind, hu, hv, hrequest, and_self]
  have hinit : ∀ factory, initCode u.options factory = initCode v.options factory := by
    intro factory
    unfold initCode
    rw [hkey, hversion, heager]
  have hcode : ∀ g, u.generate g = v.generate g := by
    intro g
    rw [generate, generate, hu, hv]
    dsimp only [provideCode]
    rw [hscope, heager, hrequest, hinit]
  exact {
    kind := hu.trans hv.symm
    dependencies := by simp only [SharedUnit.build, hwanted.1, hwanted.2, heager]
    blocks := by simp only [SharedUnit.build, hwanted.1, hwanted.2, heager]
    sources g := by rw [hcode]
    requirements g := by rw [hcode]
    loaderCall g := by rw [hcode]
    init g := by rw [hcode]
    data g name _ := by rw [hcode] }

/-! ## Taking identifiers apart -/

theorem flag_inj {b b' : Bool} (h : flag b = flag b') : b = b' := by
  revert h
  cases b <;> cases b' <;> decide

theorem flag_noBar (b : Bool) : '|' ∉ (flag b).toList := by
  cases b <;> decide

/-- What stands before the range of a consuming identifier. -/
def piecesBefore (u : SharedUnit) : List (List Char) :=
  u.options.shareScope.names.map String.toList ++ [u.options.shareKey.toList]

/-- What stands after the range of a consuming identifier. -/
def piecesAfter (u : SharedUnit) : List (List Char) :=
  [(flag u.options.strictVersion).toList, (u.options.fallback?.getD "").toList,
    (flag u.options.singleton).toList, (flag u.options.eager).toList, (u.layer.getD "").toList]

variable {u v : SharedUnit}

theorem toList_consumeIdentifier {first : List Char} {rest : List (List Char)}
    (hscope : u.options.shareScope.names ≠ [])
    (hlabel : BarPieces (requiredLabel u.options).toList first rest) :
    u.consumeIdentifier.toList = "consume-shared-module|".toList ++
      ['|'].intercalate (u.piecesBefore ++ first :: rest ++ u.piecesAfter) := by
  have hpieces : u.piecesBefore ++ first :: rest ++ u.piecesAfter =
      ([u.options.shareScope.names.map String.toList, [u.options.shareKey.toList],
        first :: rest] ++ u.piecesAfter.map fun piece => [piece]).flatten := by
    simp [piecesBefore, piecesAfter]
  have hbar : "|".toList = ['|'] := rfl
  rw [hpieces, ← Text.intercalate_map_intercalate (by simp [hscope])]
  unfold consumeIdentifier
  simp only [ShareScope.joined, String.toList_append, String.toList_intercalate,
    List.map_cons, List.map_nil, hlabel.joined, hbar, piecesAfter,
    List.intercalate_singleton, List.cons_append, List.nil_append]

theorem piecesBefore_noBar (hu : u.Separable) (hfree : u.BarFree) :
    ∀ piece ∈ u.piecesBefore, '|' ∉ piece := by
  simp only [piecesBefore, List.forall_mem_append, List.forall_mem_map, List.forall_mem_singleton]
  exact ⟨hu.scopeBars, hfree.key⟩

theorem piecesAfter_noBar (hfree : u.BarFree) : ∀ piece ∈ u.piecesAfter, '|' ∉ piece := by
  have hfallback : '|' ∉ (u.options.fallback?.getD "").toList := by
    cases hpath : u.options.fallback? with
    | none => decide
    | some path => exact (hfree.fallback path hpath).2
  have hlayer : '|' ∉ (u.layer.getD "").toList := by
    cases hname : u.layer with
    | none => decide
    | some layer => exact hfree.layer layer hname
  simp only [piecesAfter, List.forall_mem_cons]
  exact ⟨flag_noBar _, hfallback, flag_noBar _, flag_noBar _, hlayer, List.forall_mem_nil _⟩

theorem BarFree.fallback?_eq (hu : u.BarFree) (hv : v.BarFree)
    (h : u.options.fallback?.getD "" = v.options.fallback?.getD "") :
    u.options.fallback? = v.options.fallback? := by
  cases hpath : u.options.fallback? <;> cases hpath' : v.options.fallback? <;>
    rw [hpath, hpath'] at h
  · exact absurd h.symm (hv.fallback _ hpath').1
  · exact absurd h (hu.fallback _ hpath).1
  · exact congrArg some h

theorem sameCode_of_consumeIdentifier_eq (hu : u.Separable) (hv : v.Separable)
    (hukind : u.kind = .consume) (hvkind : v.kind = .consume)
    (h : u.consumeIdentifier = v.consumeIdentifier) : SameCode u v := by
  have hufree := hu.consuming hukind
  have hvfree := hv.consuming hvkind
  obtain ⟨first, rest, hlabel⟩ := exists_barPieces_requiredLabel hu.legible
  obtain ⟨first', rest', hlabel'⟩ := exists_barPieces_requiredLabel hv.legible
  have hchars := congrArg String.toList h
  rw [toList_consumeIdentifier hu.scope_ne_nil hlabel,
    toList_consumeIdentifier hv.scope_ne_nil hlabel', List.append_cancel_left_eq] at hchars
  have hpieces := Text.intercalate_inj
    (List.forall_mem_append.mpr ⟨List.forall_mem_append.mpr
      ⟨piecesBefore_noBar hu hufree, hlabel.noBars⟩, piecesAfter_noBar hufree⟩)
    (List.forall_mem_append.mpr ⟨List.forall_mem_append.mpr
      ⟨piecesBefore_noBar hv hvfree, hlabel'.noBars⟩, piecesAfter_noBar hvfree⟩)
    (by simp) (by simp) hchars
  -- From the right there is a fixed number of pieces up to the range.
  obtain ⟨hfront, hafter⟩ := List.append_inj' hpieces rfl
  obtain ⟨hbefore, hrange⟩ := hlabel.append_inj hlabel' hfront
  obtain ⟨hnames, hkey⟩ := List.append_inj' hbefore rfl
  have hscope : u.options.shareScope.names = v.options.shareScope.names :=
    List.map_injective_iff.mpr (fun _ _ => String.toList_inj.mp) hnames
  simp only [piecesAfter, List.cons.injEq, String.toList_inj] at hafter hkey
  obtain ⟨hstrict, hfallback, hsingleton, heager, _⟩ := hafter
  have hlabels : requiredLabel u.options = requiredLabel v.options := String.toList_inj.mp hrange
  refine .of_consume hukind hvkind ?_ hkey.1 ?_ (flag_inj hstrict) (flag_inj hsingleton)
    (flag_inj heager) (hufree.fallback?_eq hvfree hfallback)
  · rw [ShareScope.primary_eq, ShareScope.primary_eq, hscope]
  · rw [requiredRange?_of_label hu.legible, requiredRange?_of_label hv.legible, hlabels]

/-- The marks at the end of a providing identifier. -/
def marks (u : SharedUnit) : List Char :=
  (mark u.options.eager "eager" ++ mark u.options.singleton "singleton" ++
    mark u.options.strictVersion "strict" ++ u.layerMark).toList

theorem toList_provideIdentifier (u : SharedUnit) :
    u.provideIdentifier.toList = "provide module (".toList ++
      (u.options.shareScope.joined.toList ++ ')' ::
        (' ' :: u.options.shareKey.toList ++ '@' :: ((versionLabel u.options).toList ++ [' ']) ++
          '=' :: ' ' :: (u.providedRequest.toList ++ u.marks))) := by
  unfold provideIdentifier marks
  simp [String.toList_append]

/-- Where the marks at the end of a providing identifier start, none if it has no marks. -/
def cutMarks (cs : List Char) : Option (List Char × List Char) := Text.cutAt [' ', '('] cs

theorem toList_mark (b : Bool) (name : String) :
    (mark b name).toList = if b then ' ' :: '(' :: (name.toList ++ [')']) else [] := by
  cases b <;> simp [mark]

theorem toList_layerMark (u : SharedUnit) :
    u.layerMark.toList = u.layer.elim [] fun layer => ' ' :: '(' :: (layer.toList ++ [')']) := by
  unfold layerMark
  cases u.layer <;> simp

/-- A unit has no marks, or its first mark says whether it is eager. -/
theorem MarkFree.marks_eq (h : u.MarkFree) :
    (u.marks = [] ∧ u.options.eager = false) ∨
      ∃ tail, u.marks = ' ' :: '(' :: tail ∧
        (u.options.eager = true ↔ "eager)".toList <+: tail) := by
  have hother : ∀ c cs, 'e' ≠ c → ¬ "eager)".toList <+: c :: cs := fun c cs hc hstarts =>
    hc (List.cons_prefix_cons.mp hstarts).1
  simp only [marks, String.toList_append, toList_mark, toList_layerMark]
  cases u.options.eager with
  | true => exact .inr ⟨_, rfl, iff_of_true rfl ⟨_, rfl⟩⟩
  | false =>
    cases u.options.singleton with
    | true => exact .inr ⟨_, rfl, iff_of_false Bool.false_ne_true (hother 's' _ (by decide))⟩
    | false =>
      cases u.options.strictVersion with
      | true => exact .inr ⟨_, rfl, iff_of_false Bool.false_ne_true (hother 's' _ (by decide))⟩
      | false =>
        cases hlayer : u.layer with
        | none => exact .inl ⟨rfl, rfl⟩
        | some layer =>
          exact .inr ⟨_, rfl, iff_of_false Bool.false_ne_true (h.layer layer hlayer)⟩

theorem MarkFree.cutMarks_eq (h : u.MarkFree) :
    (cutMarks (u.providedRequest.toList ++ u.marks)).elim
        (u.providedRequest.toList ++ u.marks) Prod.fst = u.providedRequest.toList ∧
      (u.options.eager = true ↔ ∃ cut ∈ cutMarks (u.providedRequest.toList ++ u.marks),
        "eager)".toList <+: cut.2) := by
  rcases h.marks_eq with ⟨hmarks, heager⟩ | ⟨tail, hmarks, heager⟩
  · rw [hmarks, List.append_nil, cutMarks, Text.cutAt_eq_none_of_not_infix h.request]
    simp [heager]
  · rw [hmarks, cutMarks, Text.cutAt_append_pair (by decide) h.request]
    simp [heager]

theorem MarkFree.paren_not_mem (h : u.MarkFree) : ')' ∉ u.options.shareScope.joined.toList := by
  have hbar : "|".toList = ['|'] := rfl
  intro hmem
  rw [ShareScope.joined, String.toList_intercalate, hbar] at hmem
  rcases Text.mem_of_mem_intercalate hmem with hsign | ⟨piece, hpiece, hparen⟩
  · contradiction
  · obtain ⟨name, hname, rfl⟩ := List.mem_map.mp hpiece
    exact h.scope name hname hparen

theorem Separable.names_eq (hu : u.Separable) (hv : v.Separable)
    (h : u.options.shareScope.joined.toList = v.options.shareScope.joined.toList) :
    u.options.shareScope.names = v.options.shareScope.names := by
  have hbar : "|".toList = ['|'] := rfl
  simp only [ShareScope.joined, String.toList_intercalate, hbar] at h
  have hnames := Text.intercalate_inj (List.forall_mem_map.mpr hu.scopeBars)
    (List.forall_mem_map.mpr hv.scopeBars) (by simpa using hu.scope_ne_nil)
    (by simpa using hv.scope_ne_nil) h
  exact List.map_injective_iff.mpr (fun _ _ => String.toList_inj.mp) hnames

theorem sameCode_of_provideIdentifier_eq (hu : u.Separable) (hv : v.Separable)
    (hukind : u.kind = .provide) (hvkind : v.kind = .provide)
    (h : u.provideIdentifier = v.provideIdentifier) : SameCode u v := by
  have hufree := hu.providing hukind
  have hvfree := hv.providing hvkind
  have hequals : ∀ w : SharedUnit, w.Separable → w.MarkFree → '=' ∉ ' ' ::
      w.options.shareKey.toList ++ '@' :: ((versionLabel w.options).toList ++ [' ']) := by
    intro w hw hfree
    have hversion := not_mem_versionLabel hw.legible (c := '=') (by decide)
    simpa [hfree.key] using hversion
  have hat : ∀ w : SharedUnit, w.Separable → '@' ∉ (versionLabel w.options).toList ++ [' '] := by
    intro w hw
    have hversion := not_mem_versionLabel hw.legible (c := '@') (by decide)
    simpa using hversion
  have hchars := congrArg String.toList h
  rw [toList_provideIdentifier, toList_provideIdentifier, List.append_cancel_left_eq] at hchars
  obtain ⟨hscope, hafter⟩ :=
    Text.append_cons_inj hufree.paren_not_mem hvfree.paren_not_mem hchars
  obtain ⟨hname, hmodule⟩ := Text.append_cons_inj (hequals u hu hufree) (hequals v hv hvfree) hafter
  -- A key may have an at sign, but a version has none.
  obtain ⟨hkey, hversion⟩ := Text.append_cons_inj_last (hat u hu) (hat v hv) hname
  have hmarks := (List.cons.inj hmodule).2
  obtain ⟨hrequest, heager⟩ := hufree.cutMarks_eq
  obtain ⟨hrequest', heager'⟩ := hvfree.cutMarks_eq
  rw [hmarks] at hrequest heager
  have hlabels : versionLabel u.options = versionLabel v.options :=
    String.toList_inj.mp (List.append_cancel_right hversion)
  refine .of_provide hukind hvkind ?_ (String.toList_inj.mp (List.cons.inj hkey).2) ?_
    (Bool.eq_iff_iff.mpr (heager.trans heager'.symm))
    (String.toList_inj.mp (hrequest.symm.trans hrequest'))
  · rw [ShareScope.primary_eq, ShareScope.primary_eq, hu.names_eq hv hscope]
  · rw [registeredVersion_of_label hu.legible, registeredVersion_of_label hv.legible, hlabels]

/-- Units that can be told apart have the same code if they have the same identifier. -/
theorem sameCode_of_identifier_eq (hu : u.Separable) (hv : v.Separable)
    (h : u.identifier = v.identifier) : SameCode u v := by
  have hkinds : ∀ w w' : SharedUnit, w.consumeIdentifier ≠ w'.provideIdentifier := by
    intro w w' heq
    have hchars := congrArg (fun s => s.toList.head?) heq
    unfold consumeIdentifier provideIdentifier at hchars
    simp at hchars
  cases hukind : u.kind <;> cases hvkind : v.kind <;>
    simp only [identifier, hukind, hvkind] at h
  · exact sameCode_of_consumeIdentifier_eq hu hv hukind hvkind h
  · exact absurd h (hkinds u v)
  · exact absurd h.symm (hkinds v u)
  · exact sameCode_of_provideIdentifier_eq hu hv hukind hvkind h

end SharedUnit

end ModuleSharing
