import ModuleSharing.Share.Manifest

/-! The package that a module request names.  `Specifier.Names` says which part of a request is the
name, without the cutting; `packageName?` finds that part, and finds it again in the name itself and
in every other request that goes on from it (`Specifier.package_segment`). -/

namespace ModuleSharing

namespace Specifier

/-- A bare request that starts with the name of a package: one segment, or two of them after an `@`,
with `rest` after it. -/
structure Names (request package : String) (rest : List Char) : Prop where
  bare : isBare request = true
  split : request.toList = package.toList ++ rest
  slashes : package.toList.count '/' = if request.toList.head? = some '@' then 1 else 0
  stop : rest = [] ∨ rest.head? = some '/'

theorem cutAtSlash_cons {c : Char} (h : c ≠ '/') (slashes : Nat) (cs : List Char) :
    cutAtSlash slashes (c :: cs) = c :: cutAtSlash slashes cs := by
  cases slashes with
  | zero => rw [cutAtSlash, if_neg h]
  | succ skip => rw [cutAtSlash, if_neg h]

/-- Cutting gives the beginning back that has so many slashes. -/
theorem cutAtSlash_append (front : List Char) {rest : List Char}
    (hstop : rest = [] ∨ rest.head? = some '/') :
    cutAtSlash (front.count '/') (front ++ rest) = front := by
  induction front with
  | nil =>
    rcases hstop with rfl | hslash
    · rfl
    · obtain ⟨more, rfl⟩ := List.head?_eq_some_iff.mp hslash
      rfl
  | cons c front ih =>
    by_cases hc : c = '/'
    · rw [hc, List.count_cons_self, List.cons_append, cutAtSlash, if_pos rfl, ih]
    · rw [List.count_cons_of_ne hc, List.cons_append, cutAtSlash_cons hc, ih]

theorem exists_cutAtSlash {slashes : Nat} {cs : List Char} (h : slashes ≤ cs.count '/') :
    ∃ rest, cs = cutAtSlash slashes cs ++ rest ∧
      (cutAtSlash slashes cs).count '/' = slashes ∧ (rest = [] ∨ rest.head? = some '/') := by
  induction cs generalizing slashes with
  | nil =>
    obtain rfl : slashes = 0 := by simpa using h
    exact ⟨[], rfl, rfl, .inl rfl⟩
  | cons c cs ih =>
    by_cases hc : c = '/'
    · subst hc
      cases slashes with
      | zero => exact ⟨'/' :: cs, rfl, rfl, .inr rfl⟩
      | succ skip =>
        rw [List.count_cons_self, Nat.succ_le_succ_iff] at h
        obtain ⟨rest, hsplit, hcount, hstop⟩ := ih h
        rw [cutAtSlash, if_pos rfl]
        exact ⟨rest, congrArg _ hsplit, by rw [List.count_cons_self, hcount], hstop⟩
    · rw [List.count_cons_of_ne hc] at h
      obtain ⟨rest, hsplit, hcount, hstop⟩ := ih h
      rw [cutAtSlash_cons hc]
      exact ⟨rest, congrArg _ hsplit, by rw [List.count_cons_of_ne hc, hcount], hstop⟩

theorem packageName?_of_names {request package : String} {rest : List Char}
    (h : Names request package rest) : packageName? request = some package := by
  have hcut := cutAtSlash_append package.toList h.stop
  rw [← h.split, h.slashes] at hcut
  rw [packageName?, if_neg (by simp [h.bare])]
  by_cases hscope : request.toList.head? = some '@'
  · rw [if_pos hscope] at hcut
    have hslash : '/' ∈ request.toList := by
      rw [h.split]
      refine List.mem_append_left _ (List.count_pos_iff.mp ?_)
      rw [h.slashes, if_pos hscope]
      exact Nat.one_pos
    simp only [hscope, beq_self_eq_true, if_true, List.contains_iff_mem, if_pos hslash, hcut,
      String.ofList_toList]
  · rw [if_neg hscope] at hcut
    simp only [beq_iff_eq, if_neg hscope, hcut, String.ofList_toList]

theorem names_of_packageName? {request package : String}
    (h : packageName? request = some package) : ∃ rest, Names request package rest := by
  have hcut (slashes : Nat) (hle : slashes ≤ request.toList.count '/')
      (hbare : isBare request = true)
      (hslashes : slashes = if request.toList.head? = some '@' then 1 else 0)
      (hpackage : String.ofList (cutAtSlash slashes request.toList) = package) :
      ∃ rest, Names request package rest := by
    obtain ⟨rest, hsplit, hcount, hstop⟩ := exists_cutAtSlash hle
    have hchars : package.toList = cutAtSlash slashes request.toList := by
      rw [← hpackage, String.toList_ofList]
    exact ⟨rest, hbare, by rw [hchars]; exact hsplit, by rw [hchars, hcount, hslashes], hstop⟩
  rw [packageName?] at h
  split at h
  · contradiction
  · rename_i hbare
    have hbare : isBare request = true := by simpa using hbare
    simp only [beq_iff_eq] at h
    split at h
    · rename_i hscope
      split at h
      · rename_i hslash
        have hmem : '/' ∈ request.toList := List.contains_iff_mem.mp hslash
        exact hcut 1 (List.count_pos_iff.mpr hmem) hbare (by rw [if_pos hscope])
          (Option.some.inj h)
      · contradiction
    · rename_i hscope
      exact hcut 0 (Nat.zero_le _) hbare (by rw [if_neg hscope]) (Option.some.inj h)

theorem Names.not_path {request package : String} {rest : List Char}
    (h : Names request package rest) : isBare request ≠ false := by
  rw [h.bare]
  decide

theorem Names.unique {request package package' : String} {rest rest' : List Char}
    (h : Names request package rest) (h' : Names request package' rest') :
    package = package' ∧ rest = rest' := by
  have hpackage := (packageName?_of_names h).symm.trans (packageName?_of_names h')
  cases hpackage
  exact ⟨rfl, List.append_cancel_left (h.split.symm.trans h'.split)⟩

/-! ## Other requests for the same package -/

theorem isBare_iff {request : String} : isBare request = true ↔
    (∃ c cs, request.toList = c :: cs ∧ c ≠ '.' ∧ c ≠ '/') ∧ ':' ∉ request.toList ∧
      '\\' ∉ request.toList := by
  unfold isBare
  cases request.toList with
  | nil => simp
  | cons c cs => simp [and_assoc]

/-- A name is not empty: what follows it would start the request, and be a slash. -/
theorem Names.exists_cons {request package : String} {rest : List Char}
    (h : Names request package rest) : ∃ c cs, package.toList = c :: cs := by
  obtain ⟨⟨c, cs, hrequest, -, hslash⟩, -⟩ := isBare_iff.mp h.bare
  cases hpackage : package.toList with
  | cons d ds => exact ⟨d, ds, rfl⟩
  | nil =>
    have hrest : rest = c :: cs := by rw [← hrequest, h.split, hpackage, List.nil_append]
    rcases h.stop with hnil | hstarts
    · rw [hrest] at hnil
      contradiction
    · rw [hrest] at hstarts
      exact absurd (Option.some.inj hstarts) hslash

/-- A request that goes on in another way from the same name names the same package. -/
theorem Names.goOn {request package : String} {rest : List Char} (h : Names request package rest)
    {request' : String} {rest' : List Char} (hsplit : request'.toList = package.toList ++ rest')
    (hstop : rest' = [] ∨ rest'.head? = some '/') (hcolon : ':' ∉ rest')
    (hbackslash : '\\' ∉ rest') : Names request' package rest' := by
  obtain ⟨c, cs, hpackage⟩ := h.exists_cons
  obtain ⟨⟨d, ds, hrequest, hdot, hslash⟩, hcolon', hbackslash'⟩ := isBare_iff.mp h.bare
  rw [h.split, List.mem_append, not_or] at hcolon' hbackslash'
  have hfirst : d = c := by
    rw [h.split, hpackage] at hrequest
    exact (List.cons.inj hrequest).1.symm
  subst hfirst
  refine ⟨isBare_iff.mpr ⟨⟨d, cs ++ rest', ?_, hdot, hslash⟩, ?_, ?_⟩, hsplit, ?_, hstop⟩
  · rw [hsplit, hpackage, List.cons_append]
  · rw [hsplit, List.mem_append, not_or]
    exact ⟨hcolon'.1, hcolon⟩
  · rw [hsplit, List.mem_append, not_or]
    exact ⟨hbackslash'.1, hbackslash⟩
  · rw [h.slashes, hrequest, hsplit, hpackage]
    rfl

theorem packageName?_eq_none_iff {request : String} : packageName? request = none ↔
    isBare request = false ∨ request.toList.head? = some '@' ∧ '/' ∉ request.toList := by
  unfold packageName?
  cases hbare : isBare request with
  | false => simp
  | true =>
    by_cases hscope : request.toList.head? = some '@'
    · by_cases hslash : '/' ∈ request.toList <;> simp [hscope, hslash]
    · simp [hscope]

/-- A request names a package unless it is a path, or a scope with nothing in it.  The name is the
request itself or stands before a slash of it, and it is one segment, or two in a scope.  It is its
own name, and the name of all requests that go on from it with a slash. -/
theorem package_segment (request : String) :
    (packageName? request = none ↔
      isBare request = false ∨ request.toList.head? = some '@' ∧ '/' ∉ request.toList) ∧
    ∀ package, packageName? request = some package →
      (request = package ∨ ∃ inside, request = package ++ "/" ++ inside) ∧
      package.toList.count '/' = (if package.toList.head? = some '@' then 1 else 0) ∧
      packageName? package = some package ∧
      ∀ inside : String, ':' ∉ inside.toList → '\\' ∉ inside.toList →
        packageName? (package ++ "/" ++ inside) = some package := by
  refine ⟨packageName?_eq_none_iff, fun package hpackage => ?_⟩
  obtain ⟨rest, hnames⟩ := names_of_packageName? hpackage
  have hself : Names package package [] :=
    hnames.goOn (List.append_nil _).symm (.inl rfl) List.not_mem_nil List.not_mem_nil
  refine ⟨?_, hself.slashes, packageName?_of_names hself, fun inside hcolon hbackslash => ?_⟩
  · rcases hnames.stop with rfl | hslash
    · left
      rw [← String.toList_inj, hnames.split, List.append_nil]
    · right
      obtain ⟨inside, rfl⟩ := List.head?_eq_some_iff.mp hslash
      refine ⟨String.ofList inside, ?_⟩
      rw [← String.toList_inj, hnames.split]
      simp
  · have hinside : (package ++ "/" ++ inside).toList = package.toList ++ '/' :: inside.toList := by
      simp
    refine packageName?_of_names (hnames.goOn hinside (.inr rfl) ?_ ?_)
    · simpa using hcolon
    · simpa using hbackslash

/-- A scoped package, asked for as a whole or with anything inside it. -/
theorem package_segment_material :
    packageName? "@mui" = none ∧
      packageName? "@mui/material/Button" = some "@mui/material" ∧
      packageName? "@mui/material" = some "@mui/material" ∧
      packageName? ("@mui/material" ++ "/" ++ "//ö@/.") = some "@mui/material" := by
  obtain ⟨hnone, -⟩ := package_segment "@mui"
  have hbutton : packageName? "@mui/material/Button" = some "@mui/material" := by decide
  obtain ⟨-, hsome⟩ := package_segment "@mui/material/Button"
  obtain ⟨-, -, hself, hinside⟩ := hsome _ hbutton
  exact ⟨hnone.mpr (.inr (by decide)), hbutton, hself,
    hinside "//ö@/." (by decide) (by decide)⟩

end Specifier

end ModuleSharing
