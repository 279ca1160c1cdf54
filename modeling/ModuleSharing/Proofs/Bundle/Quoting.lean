import ModuleSharing.Bundle.Code
import ModuleSharing.Proofs.Json.Reading
import ModuleSharing.Proofs.Text.Split

/-! Texts from outside in generated code.  Comments and literals are read here as a script reads
them: a block comment goes on to the first `*/`, a literal to the first quote that is not escaped.
Neither is ended by what stands in it, whatever follows (`Code.references_unbroken`). -/

namespace ModuleSharing.Code

/-! ## Comments -/

/-- One block comment: it is ended by nothing that stands in it. -/
def IsComment (code : List Char) : Prop :=
  ∃ body, code = "/*".toList ++ body ++ "*/".toList ∧
    ∀ rest, Text.cutAt "*/".toList (body ++ "*/".toList ++ rest) = some (body, rest)

theorem head?_softened (cs : List Char) : (softened cs).head? = cs.head? := by
  fun_cases softened cs <;> rfl

/-- A slash that gets next to a star by softening was next to it before. -/
theorem not_infix_softened (cs : List Char) : ¬ ['*', '/'] <:+: softened cs := by
  fun_induction softened cs with
  | case1 => simp
  | case2 cs ih => simpa [List.infix_cons_iff] using ih
  | case3 c cs hpair ih =>
    rw [List.infix_cons_iff, not_or]
    refine ⟨fun hstarts => ?_, ih⟩
    obtain ⟨rfl, rest, hrest⟩ := List.cons_prefix_cons.mp hstarts
    have hhead : cs.head? = some '/' := by
      rw [← head?_softened, ← hrest]
      rfl
    obtain ⟨after, rfl⟩ := List.head?_eq_some_iff.mp hhead
    exact hpair after rfl rfl

theorem isComment_comment (s : String) : IsComment (comment s) := by
  have hsoftened : ¬ ['*', '/'] <:+: softened s.toList ++ ' ' :: [] :=
    Text.not_infix_append_cons (by simp) (by decide) (not_infix_softened _) (by simp)
  have hbody : ¬ ['*', '/'] <:+: ['!'] ++ ' ' :: (softened s.toList ++ ' ' :: []) :=
    Text.not_infix_append_cons (by simp) (by decide) (by decide) hsoftened
  refine ⟨['!'] ++ ' ' :: (softened s.toList ++ ' ' :: []), by simp [comment], fun rest => ?_⟩
  have hcut := Text.cutAt_append_pair (by decide) hbody rest
  simpa using hcut

/-! ## Literals -/

/-- The character that a sign after a backslash stands for in a script. -/
def escaped? (c : Char) : Option Char :=
  match c with
  | '"' => some '"'
  | '\x27' => some '\x27'
  | '\\' => some '\\'
  | 'b' => some '\x08'
  | 'f' => some '\x0c'
  | 'n' => some '\n'
  | 'r' => some '\r'
  | 't' => some '\t'
  | 'v' => some '\x0b'
  | _ => none

/-- The characters of a literal up to the closing quote, and the text after it.  Neither a line feed
nor a carriage return stands in a literal, and an escape by code point is read only if it stands for
a whole character. -/
def readText : List Char → Option (List Char × List Char)
  | [] => none
  | '"' :: rest => some ([], rest)
  | '\\' :: 'u' :: a :: b :: c :: d :: rest =>
    match Json.unit? a b c d with
    | none => none
    | some n =>
      if Json.isHighSurrogate n || Json.isLowSurrogate n then none
      else (readText rest).map fun (cs, after) => (Char.ofNat n :: cs, after)
  | ['\\'] => none
  | '\\' :: c :: rest =>
    match escaped? c with
    | none => none
    | some e => (readText rest).map fun (cs, after) => (e :: cs, after)
  | c :: rest =>
    if c = '\n' ∨ c = '\r' then none
    else (readText rest).map fun (cs, after) => (c :: cs, after)

def readLiteral : List Char → Option (String × List Char)
  | '"' :: cs => (readText cs).map fun (cs, rest) => (String.ofList cs, rest)
  | _ => none

/-- One literal for the text, wherever it stands. -/
def IsLiteral (code : List Char) (s : String) : Prop :=
  ∀ rest, readLiteral (code ++ rest) = some (s, rest)

theorem readText_escape (c : Char) (cs : List Char) : readText (Json.escape c ++ cs) =
    (readText cs).map fun (text, rest) => (c :: text, rest) := by
  have hescaped := Json.escaped_escape c
  generalize Json.escape c = written at hescaped ⊢
  cases hescaped with
  | short hshort =>
    unfold Json.shortEscape? at hshort
    split at hshort <;> first | contradiction | (cases hshort; rfl)
  | control hcontrol hunit =>
    obtain ⟨hhigh, hlow⟩ := Json.isSurrogate_of_control hcontrol
    simp only [List.cons_append, List.nil_append, readText, hunit, hlow, hhigh]
    simp [Char.ofNat_toNat]
  | plain hshort _ =>
    -- every sign that a script reads in its own way has a short escape
    have hquote : c ≠ '"' := Json.ne_of_shortEscape?_eq_none hshort rfl
    have hbackslash : c ≠ '\\' := Json.ne_of_shortEscape?_eq_none hshort rfl
    have hfeed : c ≠ '\n' := Json.ne_of_shortEscape?_eq_none hshort rfl
    have hreturn : c ≠ '\r' := Json.ne_of_shortEscape?_eq_none hshort rfl
    rw [List.cons_append, List.nil_append, readText.eq_def]
    simp [hbackslash, hfeed, hreturn]

theorem readText_stringChars (cs rest : List Char) :
    readText (Json.stringChars cs rest) = some (cs, rest) := by
  induction cs with
  | nil => rfl
  | cons c cs ih =>
    rw [Json.stringChars, readText_escape, ih]
    rfl

theorem stringChars_append (cs before after : List Char) :
    Json.stringChars cs before ++ after = Json.stringChars cs (before ++ after) := by
  induction cs with
  | nil => rfl
  | cons c cs ih => rw [Json.stringChars, Json.stringChars, List.append_assoc, ih]

theorem isLiteral_literal (s : String) : IsLiteral (literal s) s := by
  intro rest
  have hliteral : literal s ++ rest = '"' :: Json.stringChars s.toList rest :=
    congrArg _ (stringChars_append s.toList [] rest)
  rw [hliteral, readLiteral, readText_stringChars]
  simp

/-! ## Generated code -/

theorem code_moduleRaw {g : ChunkGraph} {request id : String} (h : g.moduleId? request = some id) :
    (moduleRaw g request).code =
      "__webpack_require__(".toList ++ comment request ++ ' ' :: literal id ++ [')'] := by
  simp [moduleRaw, h, reference, RuntimeGlobal.chars, RuntimeGlobal.name]

/-- Requiring a module is one comment and one literal for its id.  The call of a loader function has
first one literal for each of the texts that it is given. -/
theorem references_unbroken :
    (∀ (g : ChunkGraph) (request id : String), g.moduleId? request = some id →
      ∃ note text,
        (moduleRaw g request).code =
          "__webpack_require__(".toList ++ note ++ ' ' :: text ++ [')'] ∧
        IsComment note ∧ IsLiteral text id) ∧
    ∀ c : LoaderCall, ∃ texts,
      c.chars = c.function.name.toList ++
        '(' :: ", ".toList.intercalate (texts ++ c.fallback.toList.map String.toList) ++ [')'] ∧
      List.Forall₂ IsLiteral texts ([c.shareScope, c.shareKey] ++ c.requiredVersion.toList) := by
  refine ⟨fun g request id h => ?_, fun c => ?_⟩
  · exact ⟨comment request, literal id, code_moduleRaw h, isComment_comment request,
      isLiteral_literal id⟩
  · refine ⟨([c.shareScope, c.shareKey] ++ c.requiredVersion.toList).map literal, ?_, ?_⟩
    · have harguments : c.arguments =
          ([c.shareScope, c.shareKey] ++ c.requiredVersion.toList).map literal ++
            c.fallback.toList.map String.toList := by
        unfold LoaderCall.arguments
        cases c.requiredVersion <;> cases c.fallback <;> rfl
      rw [LoaderCall.chars, harguments]
    · rw [List.forall₂_map_left_iff]
      exact List.forall₂_same.mpr fun s _ => isLiteral_literal s

/-- A request that would end the comment twice, an id with quotes, a backslash and a line feed, and
a call with all its arguments. -/
theorem references_unbroken_signs :
    let request := "ui/**/button*/.js"
    let id := "./\"ui\"\\button\n.js"
    let g := ({} : ChunkGraph).insertModule request id
    let c : LoaderCall :=
      ⟨.select true false false true, "de\"fault", "ui,\tbutton", some "1 || 2", some "() => 1"⟩
    g.moduleId? request = some id ∧
      (∃ note text,
        (moduleRaw g request).code =
          "__webpack_require__(".toList ++ note ++ ' ' :: text ++ [')'] ∧
        IsComment note ∧ IsLiteral text id) ∧
      ∃ texts, c.chars = "loadVersionCheckFallback".toList ++
          '(' :: ", ".toList.intercalate (texts ++ ["() => 1".toList]) ++ [')'] ∧
        List.Forall₂ IsLiteral texts ["de\"fault", "ui,\tbutton", "1 || 2"] := by
  intro request id g c
  have hid : g.moduleId? request = some id := by decide +kernel
  exact ⟨hid, references_unbroken.1 g request id hid, references_unbroken.2 c⟩

end ModuleSharing.Code
