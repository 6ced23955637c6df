import KeyClient.Proofs.Url.Clean

/-!
# Text behind an address

What is read from an address before its query is its `Front`.  With the schemes of the web, the
front has a scheme and a core behind the slashes (`Opens`), and text that is put behind the address
is put behind the core (`Opens.append`).
-/

namespace KeyClient.Url

/-! ## Fronts -/

/-- What comes before the query of an address, but for the user. -/
structure Front where
  scheme : List Char
  host : Option Host
  port : Option Nat
  path : Path
deriving DecidableEq

/-- What comes before the query of the address, but for the user. -/
def front (url : Url) : Front := ⟨url.scheme, url.host, url.port, url.path⟩

/-- Only what comes before the first mark counts for the front. -/
theorem map_front_parse? (cs : List Char) :
    (parse? cs).map front = (ofHierarchy? (unmarkedPart (clean cs))).map front := by
  unfold parse?
  simp only [cut_cut_eq_unmarkedPart]
  cases ofHierarchy? (unmarkedPart (clean cs)) <;> rfl

/-- The scheme is one of the two of the web. -/
def IsWeb (scheme : List Char) : Prop := scheme = "http".toList ∨ scheme = "https".toList

theorem IsWeb.isSpecial {scheme : List Char} (h : IsWeb scheme) : isSpecial scheme = true := by
  rcases h with rfl | rfl <;> decide

theorem IsWeb.isFile {scheme : List Char} (h : IsWeb scheme) : isFile scheme = false := by
  rcases h with rfl | rfl <;> decide

theorem IsWeb.pathStyle {scheme : List Char} (h : IsWeb scheme) : pathStyle scheme = .server := by
  rcases h with rfl | rfl <;> decide

/-- The front of an address of the web, by what stands behind the slashes. -/
theorem map_front_ofServer? {scheme : List Char} (web : IsWeb scheme) (core : List Char) :
    (ofServer? scheme core).map front =
      (authority? scheme (Text.cut Path.Style.server.isSlash core).1).map fun authority =>
        ⟨scheme, some authority.host, authority.port,
          Path.ofText .server ((Text.cut Path.Style.server.isSlash core).2.getD [])⟩ := by
  unfold ofServer?
  rw [web.pathStyle]
  cases found : authority? scheme (Text.cut Path.Style.server.isSlash core).1 with
  | none => simp [found]
  | some authority => simp [found, front]

/-! ## Schemes -/

theorem cutScheme?_append {cs scheme rest : List Char} (h : cutScheme? cs = some (scheme, rest))
    (more : List Char) : cutScheme? (cs ++ more) = some (scheme, rest ++ more) := by
  unfold cutScheme? at h ⊢
  rcases Text.cut_cases (· == ':') cs with ⟨-, whole⟩ | ⟨before, c, after, rfl, colon, clear, cuts⟩
  · rw [whole] at h
    cases cs <;> simp at h
  · rw [cuts] at h
    rw [List.append_assoc, List.cons_append, Text.cut_append_cons clear colon]
    cases before with
    | nil => simp at h
    | cons d before =>
      simp only at h ⊢
      split at h
      · next shape =>
        cases h
        rw [if_pos shape]
      · cases h

theorem mem_of_cutScheme? {cs scheme rest : List Char} (h : cutScheme? cs = some (scheme, rest)) :
    ':' ∈ cs := by
  unfold cutScheme? at h
  rcases Text.cut_cases (· == ':') cs with ⟨-, whole⟩ | ⟨before, c, after, rfl, colon, -, -⟩
  · rw [whole] at h
    cases cs <;> simp at h
  · rw [beq_iff_eq] at colon
    rw [colon]
    simp

/-- The colon of the scheme stands before slashes at the end. -/
theorem cutScheme?_of_append_replicate {cs scheme rest : List Char} {count : Nat}
    (h : cutScheme? (cs ++ List.replicate count '/') = some (scheme, rest)) :
    ∃ rest', rest = rest' ++ List.replicate count '/' ∧ cutScheme? cs = some (scheme, rest') := by
  -- the first colon does not stand among the slashes, so both texts are cut at the same one
  rcases Text.cut_cases (· == ':') cs with ⟨none, -⟩ | ⟨before, c, after, rfl, colon, clear, cuts⟩
  · rcases List.mem_append.1 (mem_of_cutScheme? h) with inside | slash
    · exact absurd (none _ inside) (by decide)
    · exact absurd (List.eq_of_mem_replicate slash) (by decide)
  · cases found : cutScheme? (before ++ c :: after) with
    | some parts =>
      obtain ⟨own, rest'⟩ := parts
      rw [cutScheme?_append found] at h
      cases h
      exact ⟨rest', rfl, rfl⟩
    | none =>
      unfold cutScheme? at h found
      rw [List.append_assoc, List.cons_append, Text.cut_append_cons clear colon] at h
      rw [cuts] at found
      cases before with
      | nil => simp at h
      | cons d before =>
        simp only at h found
        split at h
        · next shape => rw [if_pos shape] at found; cases found
        · cases h

theorem scheme_of_ofServer? {scheme cs : List Char} {url : Url}
    (h : ofServer? scheme cs = some url) : url.scheme = scheme := by
  unfold ofServer? at h
  obtain ⟨authority, -, h⟩ := Option.bind_eq_some_iff.1 h
  cases h
  rfl

theorem scheme_of_ofFile? {cs : List Char} {url : Url} (h : ofFile? cs = some url) :
    url.scheme = "file".toList := by
  obtain ⟨host, path, rfl, -⟩ := ofFile?_cases h
  rfl

theorem scheme_of_ofOther? {scheme cs : List Char} {url : Url}
    (h : ofOther? scheme cs = some url) : url.scheme = scheme := by
  unfold ofOther? at h
  split at h
  · exact scheme_of_ofServer? h
  · cases h
    rfl
  · cases h
    rfl

theorem ofServer?_nil {scheme : List Char} (special : isSpecial scheme = true) :
    ofServer? scheme [] = none := by
  have nameless : authority? scheme [] = none := by
    unfold authority?
    simp only [special]
    rfl
  unfold ofServer?
  simp only [Text.cut_nil, nameless]
  rfl

/-! ## Cores -/

/-- The text has the scheme, and the core stands behind its slashes. -/
def Opens (scheme core cs : List Char) : Prop :=
  core ≠ [] ∧ ∃ rest, cutScheme? cs = some (scheme, rest) ∧
    rest.dropWhile Path.Style.server.isSlash = core

section

variable {scheme core cs : List Char}

theorem Opens.append (h : Opens scheme core cs) (more : List Char) :
    Opens scheme (core ++ more) (cs ++ more) := by
  obtain ⟨some, rest, cuts, rfl⟩ := h
  refine ⟨List.append_ne_nil_of_left_ne_nil some _, rest ++ more, cutScheme?_append cuts more, ?_⟩
  rw [List.dropWhile_append, if_neg (by simpa using some)]

theorem Opens.of_append_replicate {count : Nat}
    (h : Opens scheme core (cs ++ List.replicate count '/')) :
    ∃ core', core = core' ++ List.replicate count '/' ∧ Opens scheme core' cs := by
  obtain ⟨some, rest, cuts, rfl⟩ := h
  obtain ⟨rest', rfl, own⟩ := cutScheme?_of_append_replicate cuts
  rw [List.dropWhile_append] at some ⊢
  split at some
  · -- a core of slashes alone would have been dropped with them
    refine absurd (List.dropWhile_eq_nil_iff.2 fun c member => ?_) some
    rw [List.eq_of_mem_replicate member]
    rfl
  · next more =>
    rw [if_neg more]
    exact ⟨_, rfl, by simpa using more, rest', own, rfl⟩

theorem Opens.ofHierarchy?_eq (web : IsWeb scheme) (h : Opens scheme core cs) :
    ofHierarchy? cs = ofServer? scheme core := by
  obtain ⟨-, rest, cuts, rfl⟩ := h
  unfold ofHierarchy?
  rw [cuts, Option.bind_eq_bind, Option.bind_some]
  simp only [web.isFile, web.isSpecial]
  rfl

/-- An address of the web opens with its scheme. -/
theorem opens_of_ofHierarchy? {url : Url} (web : IsWeb url.scheme)
    (h : ofHierarchy? cs = some url) : ∃ core, Opens url.scheme core cs := by
  unfold ofHierarchy? at h
  obtain ⟨⟨own, rest⟩, cuts, h⟩ := Option.bind_eq_some_iff.1 h
  simp only at h
  split at h
  · have file := web.isFile
    -- addresses of files and of other schemes keep their scheme, which is not one of the web
    rw [scheme_of_ofFile? h] at file
    exact absurd file (by decide)
  · split at h
    · next special =>
      refine ⟨_, ?_, rest, by rw [scheme_of_ofServer? h]; exact cuts, rfl⟩
      intro empty
      rw [empty, ofServer?_nil special] at h
      cases h
    · next other =>
      have special := web.isSpecial
      rw [scheme_of_ofOther? h] at special
      exact absurd special other

theorem front_of_parse? {url : Url} (h : parse? cs = some url) :
    (ofHierarchy? (unmarkedPart (clean cs))).map front = some url.front := by
  rw [← map_front_parse?, h, Option.map_some]

theorem opens_of_parse? {url : Url} (parsed : parse? cs = some url) (web : IsWeb url.scheme) :
    ∃ core, Opens url.scheme core (unmarkedPart (clean cs)) := by
  obtain ⟨read, hierarchy, same⟩ := Option.map_eq_some_iff.1 (front_of_parse? parsed)
  have scheme : read.scheme = url.scheme := congrArg Front.scheme same
  rw [← scheme] at web ⊢
  exact opens_of_ofHierarchy? web hierarchy

end

end KeyClient.Url
